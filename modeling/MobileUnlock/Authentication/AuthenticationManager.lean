import MobileUnlock.Crypto.CryptoManager
import MobileUnlock.Lib.Machine
import MobileUnlock.Pairing.DeviceRegistry

/-!
# `MobileUnlock.Authentication.AuthenticationManager`: challenges and lockouts

The model of `windows/authentication/AuthenticationManager.cpp`. A device asks for a
challenge (`handleAuthRequest`) and answers it with a signed message
(`handleAuthResponse`). The manager keeps one challenge slot and one rate-limit entry per
device text.

What a call reads from outside is an argument: the clock, the registry with the answers of
its calls, the random nonce and the answers of CNG. Times and session ids are `UInt64` and
wrap as in the source. The two hash maps are functions to `Option`.

`authMachine` is the manager with the registry as a machine. Its events are the two
handlers, `SetServerIdentity`, and an arbitrary change of the registry by somebody else.
The test hooks are left out.
-/

set_option autoImplicit false

namespace MobileUnlock.Authentication

open MobileUnlock.Lib MobileUnlock.Lib.Win32 MobileUnlock.Protocol MobileUnlock.Crypto
open MobileUnlock.Pairing

def CHALLENGE_TTL_SECONDS : UInt64 := 30
def MAX_FAILED_ATTEMPTS : Nat := 3
def LOCKOUT_DURATION_SEC : UInt64 := 900

/-- The challenge in the slot of a device. -/
structure ActiveChallenge where
  deviceId : DeviceId
  sessionId : UInt64
  nonce : ByteArr 32
  createdAtMs : UInt64
  isConsumed : Bool
  deriving DecidableEq

/-- The rate-limit entry of a device. The defaults are those of a new map entry. -/
structure DeviceRateLimit where
  failedCount : Nat := 0
  lockoutUntilMs : UInt64 := 0
  deriving DecidableEq, Repr

/-- The result codes of the two handlers. -/
inductive AuthResultCode where
  | SUCCESS
  | UNKNOWN_DEVICE
  | DEVICE_REVOKED
  | MISSING_PUBLIC_KEY
  | INVALID_PAYLOAD
  | CHALLENGE_EXPIRED
  | CHALLENGE_MISMATCH
  | REPLAY_DETECTED
  | SIGNATURE_INVALID
  | RATE_LIMITED
  | INTERNAL_ERROR
  deriving DecidableEq, Repr

/-- The state of the manager. The defaults are the constructor's. -/
structure AuthenticationManager where
  serverIdentity : ByteArr 16 := List.Vector.replicate 16 0xAA
  sessionCounter : UInt64 := 1
  activeChallenges : Bytes → Option ActiveChallenge := fun _ => none
  rateLimits : Bytes → Option DeviceRateLimit := fun _ => none

/-- What a handler gives back: the result code, the payload and the header. -/
structure AuthReply where
  result : AuthResultCode
  payload : Bytes
  header : FrameHeader
  deriving DecidableEq

/-- What `handleAuthRequest` reads from outside. `nonce` is `none` when the random source
fails. -/
structure RequestEnv where
  now : UInt64
  access : Access
  nonce : Option (ByteArr 32)

/-- What `handleAuthResponse` reads from outside. `seenAccess` and `seenTime` belong to the
`UpdateLastSeen` at the end. -/
structure ResponseEnv where
  now : UInt64
  access : Access
  cng : Cng
  seenAccess : Access
  seenTime : FILETIME

namespace AuthenticationManager

/-! ### Rate limits -/

/-- Whether a device is locked out. An expired lockout is reset on the way. -/
def isRateLimited (m : AuthenticationManager) (deviceIdStr : Bytes) (nowMs : UInt64) :
    Bool × AuthenticationManager :=
  match m.rateLimits deviceIdStr with
  | none => (false, m)
  | some limit =>
    if nowMs < limit.lockoutUntilMs then (true, m)
    else if limit.lockoutUntilMs ≠ 0 ∧ nowMs ≥ limit.lockoutUntilMs then
      let limit : DeviceRateLimit := { failedCount := 0, lockoutUntilMs := 0 }
      (false, { m with rateLimits := Function.update m.rateLimits deviceIdStr (some limit) })
    else (false, m)

/-- Counts a failure. From the third one on the device is locked out. -/
def recordFailure (m : AuthenticationManager) (deviceIdStr : Bytes) (nowMs : UInt64) :
    AuthenticationManager :=
  let limit := (m.rateLimits deviceIdStr).getD {}
  let limit := { limit with failedCount := limit.failedCount + 1 }
  let limit := if limit.failedCount ≥ MAX_FAILED_ATTEMPTS
    then { limit with lockoutUntilMs := nowMs + LOCKOUT_DURATION_SEC * 1000 } else limit
  { m with rateLimits := Function.update m.rateLimits deviceIdStr (some limit) }

/-- Forgets the failures of a device. -/
def recordSuccess (m : AuthenticationManager) (deviceIdStr : Bytes) : AuthenticationManager :=
  { m with rateLimits := Function.update m.rateLimits deviceIdStr none }

/-- Puts a challenge into the slot of a device. -/
def setChallenge (m : AuthenticationManager) (deviceIdStr : Bytes)
    (challenge : ActiveChallenge) : AuthenticationManager :=
  { m with activeChallenges := Function.update m.activeChallenges deviceIdStr (some challenge) }

/-- Marks the challenge found in the slot as consumed. -/
def consumeChallenge (m : AuthenticationManager) (deviceIdStr : Bytes)
    (challenge : ActiveChallenge) : AuthenticationManager :=
  m.setChallenge deviceIdStr { challenge with isConsumed := true }

end AuthenticationManager

/-! ### The device record -/

/-- A refusal: the result code, and the reason text of the payload. -/
structure Refusal where
  result : AuthResultCode
  reason : String
  deriving DecidableEq

/-- The record checks that both handlers make: the record can be read, it is active, and
it has a key. -/
def lookupDevice (acc : Access) (reg : Registry) (deviceIdStr : Bytes) :
    Except Refusal DeviceRecord :=
  let (res, record) := readDeviceRecord acc reg deviceIdStr {}
  if res ≠ ERROR_SUCCESS then .error ⟨.UNKNOWN_DEVICE, "UNKNOWN_DEVICE"⟩
  else if record.pairStatus ≠ kStatusActive then .error ⟨.DEVICE_REVOKED, "DEVICE_REVOKED"⟩
  else if record.publicKey = [] then .error ⟨.MISSING_PUBLIC_KEY, "MISSING_PUBLIC_KEY"⟩
  else .ok record

/-! ### AUTH_REQUEST -/

/-- The decimal text of a number. -/
def decimal (n : Nat) : Bytes := ascii (toString n)

/-- The refusal of a request. The header fields that are not named here stay the caller's. -/
def refuseRequest (requestHeader outHeader : FrameHeader) (r : Refusal) : AuthReply :=
  let payload := ascii "\x7b\"status\":\"ERROR\",\"reason\":\"" ++ ascii r.reason ++ ascii "\"\x7d"
  { result := r.result
    payload := payload
    header := { outHeader with
      messageType := MessageType.AUTH_FAILURE.code
      messageID := requestHeader.messageID
      sequenceNumber := requestHeader.sequenceNumber + 1
      payloadLength := UInt32.ofNat payload.length } }

/-- The JSON payload of a challenge. -/
def challengePayload (serverIdentity : ByteArr 16) (challenge : ActiveChallenge) : Bytes :=
  ascii "\x7b\"sessionId\":" ++ decimal challenge.sessionId.toNat ++
    ascii ",\"nonce\":\"" ++ hexBytes challenge.nonce.toList ++
    ascii "\",\"serverIdentity\":\"" ++ hexBytes serverIdentity.toList ++
    ascii "\",\"timestamp\":" ++ decimal challenge.createdAtMs.toNat ++ ascii "\x7d"

/-- The reply that carries a challenge. -/
def challengeReply (requestHeader : FrameHeader) (payload : Bytes) : AuthReply where
  result := .SUCCESS
  payload := payload
  header :=
    { magic := PROTOCOL_MAGIC
      majorVersion := PROTOCOL_MAJOR_VERSION
      minorVersion := PROTOCOL_MINOR_VERSION
      messageType := MessageType.AUTH_CHALLENGE.code
      reserved := 0
      messageID := requestHeader.messageID
      payloadLength := UInt32.ofNat payload.length
      sequenceNumber := requestHeader.sequenceNumber + 1 }

/-- Processes an `AUTH_REQUEST`. The session counter moves on even when the random source
then fails. -/
def handleAuthRequest (m : AuthenticationManager) (reg : Registry) (deviceId : DeviceId)
    (requestHeader outHeader : FrameHeader) (env : RequestEnv) :
    AuthenticationManager × AuthReply :=
  let deviceIdStr := deviceIdToString deviceId
  let nowMs := env.now
  let (limited, m) := m.isRateLimited deviceIdStr nowMs
  if limited then
    (m, refuseRequest requestHeader outHeader ⟨.RATE_LIMITED, "RATE_LIMITED"⟩)
  else match lookupDevice env.access reg deviceIdStr with
    | .error r => (m, refuseRequest requestHeader outHeader r)
    | .ok _ =>
      let sessionId := m.sessionCounter
      let m := { m with sessionCounter := m.sessionCounter + 1 }
      match env.nonce with
      | none => (m, refuseRequest requestHeader outHeader ⟨.INTERNAL_ERROR, "INTERNAL_ERROR"⟩)
      | some nonce =>
        let challenge : ActiveChallenge :=
          { deviceId := deviceId
            sessionId := sessionId
            nonce := nonce
            createdAtMs := nowMs
            isConsumed := false }
        (m.setChallenge deviceIdStr challenge,
          challengeReply requestHeader (challengePayload m.serverIdentity challenge))

/-! ### AUTH_RESPONSE -/

/-- A reply to an `AUTH_RESPONSE`. Every header field is set. -/
def responseReply (requestHeader : FrameHeader) (type : MessageType) (result : AuthResultCode)
    (payload : Bytes) : AuthReply where
  result := result
  payload := payload
  header :=
    { magic := PROTOCOL_MAGIC
      majorVersion := PROTOCOL_MAJOR_VERSION
      minorVersion := PROTOCOL_MINOR_VERSION
      messageType := type.code
      reserved := 0
      messageID := requestHeader.messageID
      payloadLength := UInt32.ofNat payload.length
      sequenceNumber := requestHeader.sequenceNumber + 1 }

/-- The refusal of a response. -/
def refuseResponse (requestHeader : FrameHeader) (r : Refusal) : AuthReply :=
  responseReply requestHeader .AUTH_FAILURE r.result
    (ascii "\x7b\"status\":\"FAILURE\",\"reason\":\"" ++ ascii r.reason ++ ascii "\"\x7d")

/-- The reply that tells a device it is authenticated. -/
def successReply (requestHeader : FrameHeader) (accountSid : Bytes) : AuthReply :=
  responseReply requestHeader .AUTH_SUCCESS .SUCCESS
    (ascii "\x7b\"status\":\"SUCCESS\",\"accountSid\":\"" ++ accountSid ++ ascii "\"\x7d")

/-- Steps 1 and 2 of the handler: the sizes of message and signature, and the
deserialization. -/
def parseAuthResponse (payload : Bytes) : Except Refusal SignedMessage :=
  if payload.length < CANONICAL_SIGNED_MESSAGE_SIZE + P1363_SIGNATURE_SIZE then
    .error ⟨.INVALID_PAYLOAD, "INVALID_PAYLOAD_SIZE"⟩
  else if payload.length - CANONICAL_SIGNED_MESSAGE_SIZE ≠ P1363_SIGNATURE_SIZE then
    .error ⟨.INVALID_PAYLOAD, "INVALID_SIGNATURE_LENGTH"⟩
  else match deserializeSignedMessage (payload.take CANONICAL_SIGNED_MESSAGE_SIZE) with
    | none => .error ⟨.INVALID_PAYLOAD, "INVALID_SIGNED_MESSAGE"⟩
    | some signedMsg => .ok signedMsg

/-- Whether a challenge is too old, or from the future, at a clock reading. -/
def challengeExpired (challenge : ActiveChallenge) (nowMs : UInt64) : Bool :=
  nowMs < challenge.createdAtMs || nowMs - challenge.createdAtMs > CHALLENGE_TTL_SECONDS * 1000

/-- Steps 6 and 7: the challenge in the slot and the signature. A challenge that is found
fresh is consumed on every path, and before the signature is looked at. `none` is an answer
that passes. -/
def answerChallenge (m : AuthenticationManager) (deviceIdStr : Bytes) (nowMs : UInt64)
    (cng : Cng) (publicKey : Bytes) (signedMsg : SignedMessage) (signature : Bytes) :
    AuthenticationManager × Option Refusal :=
  match m.activeChallenges deviceIdStr with
  | none => (m, some ⟨.REPLAY_DETECTED, "NO_ACTIVE_CHALLENGE"⟩)
  | some challenge =>
    if challenge.isConsumed then
      (m, some ⟨.REPLAY_DETECTED, "CHALLENGE_ALREADY_CONSUMED"⟩)
    else if challengeExpired challenge nowMs then
      (m.consumeChallenge deviceIdStr challenge, some ⟨.CHALLENGE_EXPIRED, "NONCE_EXPIRED"⟩)
    else if signedMsg.sessionID ≠ challenge.sessionId then
      (m.consumeChallenge deviceIdStr challenge,
        some ⟨.CHALLENGE_MISMATCH, "SESSION_ID_MISMATCH"⟩)
    else if signedMsg.nonce ≠ challenge.nonce then
      (m.consumeChallenge deviceIdStr challenge, some ⟨.CHALLENGE_MISMATCH, "NONCE_MISMATCH"⟩)
    else if ¬ verifyCanonicalSignedMessage cng publicKey signedMsg signature then
      (m.consumeChallenge deviceIdStr challenge,
        some ⟨.SIGNATURE_INVALID, "SIGNATURE_VERIFICATION_FAILED"⟩)
    else (m.consumeChallenge deviceIdStr challenge, none)

/-- Processes an `AUTH_RESPONSE`. Every refusal after the rate-limit check is counted. -/
def handleAuthResponse (m : AuthenticationManager) (reg : Registry)
    (requestHeader : FrameHeader) (payload : Bytes) (env : ResponseEnv) :
    AuthenticationManager × Registry × AuthReply :=
  let nowMs := env.now
  match parseAuthResponse payload with
  | .error r => (m, reg, refuseResponse requestHeader r)
  | .ok signedMsg =>
    let currentDevId := deviceIdToString signedMsg.deviceIdentity
    let (limited, m) := m.isRateLimited currentDevId nowMs
    if limited then (m, reg, refuseResponse requestHeader ⟨.RATE_LIMITED, "RATE_LIMITED"⟩)
    else match lookupDevice env.access reg currentDevId with
      | .error r => (m.recordFailure currentDevId nowMs, reg, refuseResponse requestHeader r)
      | .ok record =>
        match answerChallenge m currentDevId nowMs env.cng record.publicKey signedMsg
            (payload.drop CANONICAL_SIGNED_MESSAGE_SIZE) with
        | (m, some r) => (m.recordFailure currentDevId nowMs, reg, refuseResponse requestHeader r)
        | (m, none) =>
          (m.recordSuccess currentDevId,
            (updateLastSeen env.seenAccess reg currentDevId env.seenTime).2,
            successReply requestHeader record.accountSid)

/-! ### Runs -/

/-- What happens to the manager and to the registry it reads. -/
inductive AuthEvent where
  | authRequest (deviceId : DeviceId) (requestHeader outHeader : FrameHeader) (env : RequestEnv)
  | authResponse (requestHeader : FrameHeader) (payload : Bytes) (env : ResponseEnv)
  | setServerIdentity (serverId : ByteArr 16)
  /-- Somebody else changes the registry. -/
  | registryChange (reg : Registry)

/-- The manager and the registry. -/
structure AuthState where
  manager : AuthenticationManager := {}
  registry : Registry := {}

/-- The manager over a registry. Only the handlers reply. -/
def authMachine : Machine AuthState AuthEvent (Option AuthReply) where
  step s
    | .authRequest deviceId requestHeader outHeader env =>
      let (m, reply) := handleAuthRequest s.manager s.registry deviceId requestHeader outHeader env
      ({ s with manager := m }, some reply)
    | .authResponse requestHeader payload env =>
      let (m, reg, reply) := handleAuthResponse s.manager s.registry requestHeader payload env
      ({ manager := m, registry := reg }, some reply)
    | .setServerIdentity serverId =>
      ({ s with manager := { s.manager with serverIdentity := serverId } }, none)
    | .registryChange reg => ({ s with registry := reg }, none)

end MobileUnlock.Authentication
