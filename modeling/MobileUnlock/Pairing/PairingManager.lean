import MobileUnlock.Lib.Machine
import MobileUnlock.Pairing.DeviceRegistry
import MobileUnlock.Pairing.SasPin
import MobileUnlock.Protocol.Types

/-!
# `MobileUnlock.Pairing.PairingManager`: the pairing state machine

The model of `windows/pairing/PairingManager.cpp`. A client opens a pairing session with a
PAIR_REQUEST, the PC shows a PIN, and the client confirms it. The session is keyed by the
network client and holds the binary device id. The record is written on confirmation.

Every clock reading, every group of registry calls, the random source, the host name and
the account of the process are arguments, one per place where the source asks for them.
The maps are functions to `Option`. Callbacks are outputs. Zeroing of PIN memory has no
effect that a later step can read, because the session is erased right after it.

`pairingMachine` is the manager over the registry. Besides the operations of the manager
its events are the two ways in which somebody else revokes a device.
-/

set_option autoImplicit false

namespace MobileUnlock.Pairing

open MobileUnlock.Lib MobileUnlock.Lib.Win32 MobileUnlock.Protocol

/-! ### JSON helpers -/

/-- The character `"`. -/
def quote : UInt8 := 34

/-- What follows the first occurrence of a text, as `find` and a jump over the text give
it. -/
def afterFirst (search : Bytes) : Bytes → Option Bytes
  | [] => if search = [] then some [] else none
  | c :: rest =>
    if search.isPrefixOf (c :: rest) then some ((c :: rest).drop search.length)
    else afterFirst search rest

/-- The string value of a key, or the empty string. Blanks and colons between key and value
are skipped, and a value without a closing quote ends with the text. -/
def jsonGetString (json key : Bytes) : Bytes :=
  match afterFirst ([quote] ++ key ++ [quote]) json with
  | none => []
  | some rest =>
    match rest.dropWhile fun c => c = 32 || c = 58 with
    | [] => []
    | c :: val => if c ≠ quote then [] else val.takeWhile (· ≠ quote)

/-- The loop of `HexToBytes`, two characters at a time. A failed conversion ends it with
the bytes so far. -/
def hexToBytesLoop : Bytes → Bytes
  | a :: b :: rest =>
    match sscanf02x (a :: b :: rest) with
    | none => []
    | some byte => UInt8.ofNat byte :: hexToBytesLoop rest
  | _ => []

/-- The bytes of a hexadecimal text of even length. -/
def hexToBytes (hex : Bytes) : Bytes :=
  if hex.length % 2 ≠ 0 then [] else hexToBytesLoop hex

/-! ### Payloads -/

/-- A parsed PAIR_REQUEST. -/
structure PairRequestPayload where
  deviceId : Bytes := []
  deviceName : Bytes := []
  publicKey : Bytes := []
  valid : Bool := false
  deriving DecidableEq

/-- A parsed PAIR_CONFIRM. -/
structure PairConfirmPayload where
  deviceId : Bytes := []
  sasPin : Bytes := []
  valid : Bool := false
  deriving DecidableEq

/-- Parses a PAIR_REQUEST: an id of 36 characters and a name are required. -/
def parsePairRequest (payloadBytes : Bytes) : PairRequestPayload :=
  if payloadBytes = [] then {}
  else
    let deviceId := jsonGetString payloadBytes (ascii "deviceId")
    let deviceName := jsonGetString payloadBytes (ascii "deviceName")
    { deviceId := deviceId
      deviceName := deviceName
      publicKey := hexToBytes (jsonGetString payloadBytes (ascii "publicKey"))
      valid := deviceId.length == 36 && !deviceName.isEmpty }

/-- Parses a PAIR_CONFIRM: an id of 36 characters and a PIN of six are required. -/
def parsePairConfirm (payloadBytes : Bytes) : PairConfirmPayload :=
  if payloadBytes = [] then {}
  else
    let deviceId := jsonGetString payloadBytes (ascii "deviceId")
    let sasPin := jsonGetString payloadBytes (ascii "sasPin")
    { deviceId := deviceId
      sasPin := sasPin
      valid := deviceId.length == 36 && sasPin.length == SAS_PIN_LENGTH }

def buildPairResponse (serverHostname : Bytes) : Bytes :=
  ascii "\x7b\"sasRequired\":true,\"serverName\":\"" ++ serverHostname ++ ascii "\"\x7d"

def buildPairComplete (deviceIdStr : Bytes) : Bytes :=
  ascii "\x7b\"status\":\"PAIRED\",\"deviceId\":\"" ++ deviceIdStr ++ ascii "\"\x7d"

/-- The error payload, cut to what `snprintf` puts into 512 characters. -/
def buildErrorPayload (errorCode : Nat) (message : String) : Bytes :=
  (ascii "\x7b\"errorCode\":" ++ ascii (toString errorCode) ++ ascii ",\"message\":\"" ++
    ascii message ++ ascii "\"\x7d").take 511

def buildUnpairResponse (success : Bool) (deviceIdStr : Bytes) : Bytes :=
  let statusStr := if success then ascii "UNPAIRED" else ascii "ERROR"
  ascii "\x7b\"status\":\"" ++ statusStr ++ ascii "\",\"deviceId\":\"" ++ deviceIdStr ++
    ascii "\"\x7d"

/-! ### The manager -/

/-- The states of a pairing. A session that is in the map between two operations is
`WAITING_FOR_SAS` or `FAILED`; the other states are set just before the session is erased,
or not at all. -/
inductive PairingState where
  | UNPAIRED
  | PAIRING_REQUESTED
  | WAITING_FOR_SAS
  | SAS_VERIFIED
  | PAIRING_CONFIRMED
  | PAIRED
  | EXPIRED
  | CANCELLED
  | FAILED
  | REVOKED
  deriving DecidableEq, Repr

/-- The pairing session of a client. -/
structure PairingSession where
  deviceId : DeviceId
  deviceName : Bytes
  clientIp : Bytes
  sasPin : Bytes
  sasGeneratedAt : FILETIME
  sasAttempts : Nat
  state : PairingState
  sessionClientId : UInt64
  clientPublicKey : Bytes
  deriving DecidableEq

/-- The state of the manager. The defaults are the constructor's. -/
structure PairingManager where
  sessions : UInt64 → Option PairingSession := fun _ => none
  rateLimitMap : Bytes → Option (Nat × FILETIME) := fun _ => none

/-- The callbacks of the manager. -/
inductive PairingCallback where
  | sasDisplay (pin deviceName : Bytes)
  | success (deviceId : DeviceId) (deviceName clientIp : Bytes)
  | failure (reason : String)
  deriving DecidableEq

/-- What a handler gives back. -/
structure PairingReply where
  responseType : MessageType
  payload : Bytes
  callbacks : List PairingCallback := []
  deriving DecidableEq

/-- What `handlePairRequest` reads from outside. `accountSid` is the answer of
`ResolveCurrentAccountSid`. -/
structure PairRequestEnv where
  rateLimitNow : FILETIME
  activeAccess : Access
  accountSid : Bytes
  countAccess : Access
  rng : RandomSource
  generatedNow : FILETIME
  hostname : Bytes

/-- What `handlePairConfirm` reads from outside. -/
structure PairConfirmEnv where
  failureNow : FILETIME
  validateNow : FILETIME
  expiredNow : FILETIME
  accountSid : Bytes
  pairedNow : FILETIME
  writeAccess : Access

/-- A PROTO_ERROR reply. -/
def protoError (code : ErrorCode) (message : String) (callbacks : List PairingCallback := []) :
    PairingReply where
  responseType := .PROTO_ERROR
  payload := buildErrorPayload code.code message
  callbacks := callbacks

namespace PairingManager

/-- Whether a device id text is limited: five attempts within a minute of the first. The
difference of the readings wraps. -/
def isRateLimited (m : PairingManager) (deviceIdStr : Bytes) (now : FILETIME) : Bool :=
  match m.rateLimitMap deviceIdStr with
  | none => false
  | some (count, windowStart) =>
    if now.toU64 - windowStart.toU64 > 600000000 then false else count ≥ 5

/-- Counts a failed attempt. The window starts with the first one. -/
def recordFailedAttempt (m : PairingManager) (deviceIdStr : Bytes) (now : FILETIME) :
    PairingManager :=
  let entry := match m.rateLimitMap deviceIdStr with
    | none => (1, now)
    | some (count, windowStart) => (count + 1, windowStart)
  { m with rateLimitMap := Function.update m.rateLimitMap deviceIdStr (some entry) }

def clearFailedAttempts (m : PairingManager) (deviceIdStr : Bytes) : PairingManager :=
  { m with rateLimitMap := Function.update m.rateLimitMap deviceIdStr none }

/-- Puts a session under a client. -/
def setSession (m : PairingManager) (clientId : UInt64) (session : PairingSession) :
    PairingManager :=
  { m with sessions := Function.update m.sessions clientId (some session) }

def clearSession (m : PairingManager) (clientId : UInt64) : PairingManager :=
  { m with sessions := Function.update m.sessions clientId none }

/-- Whether a session is stored for a client, in whatever state it is. -/
def hasActivePairingSession (m : PairingManager) (clientId : UInt64) : Bool :=
  (m.sessions clientId).isSome

end PairingManager

/-- The session a valid request opens. The result of the id parse is not looked at. -/
def openSession (req : PairRequestPayload) (clientId : UInt64) (clientIp sasPin : Bytes)
    (generatedAt : FILETIME) : PairingSession where
  deviceId := (deviceIdFromString req.deviceId zeroDeviceId).2
  deviceName := req.deviceName
  clientIp := clientIp
  sasPin := sasPin
  sasGeneratedAt := generatedAt
  sasAttempts := 0
  state := .WAITING_FOR_SAS
  sessionClientId := clientId
  clientPublicKey := req.publicKey

/-- Processes a PAIR_REQUEST. The session of the client is closed before anything is
checked. -/
def handlePairRequest (m : PairingManager) (reg : Registry) (clientId : UInt64)
    (clientIp payloadBytes : Bytes) (env : PairRequestEnv) : PairingManager × PairingReply :=
  let m := m.clearSession clientId
  let req := parsePairRequest payloadBytes
  if ¬ req.valid then
    (m, protoError .MALFORMED_HEADER "Invalid PAIR_REQUEST payload")
  else if m.isRateLimited req.deviceId env.rateLimitNow then
    (m, protoError .RATE_LIMITED "Pairing rate limit exceeded")
  else if isDeviceActive env.activeAccess reg req.deviceId then
    (m, protoError .UNAUTHORIZED "Device already paired. Unpair first.")
  else if env.accountSid ≠ [] ∧
      countActiveDevicesForAccount env.countAccess reg env.accountSid ≥ kMaxDevicesPerAccount then
    (m, protoError .UNAUTHORIZED "Maximum paired devices reached")
  else
    let sasPin := generateSasPin env.rng
    if sasPin = [] then (m, protoError .INTERNAL_ERROR "SAS generation failed")
    else
      (m.setSession clientId (openSession req clientId clientIp sasPin env.generatedNow),
        { responseType := .PAIR_RESPONSE
          payload := buildPairResponse env.hostname
          callbacks := [.sasDisplay sasPin req.deviceName] })

/-- The record a confirmed session writes. -/
def confirmedRecord (session : PairingSession) (accountSid : Bytes) (now : FILETIME) :
    DeviceRecord where
  deviceId := session.deviceId
  deviceName := session.deviceName
  accountSid := accountSid
  publicKey := session.clientPublicKey
  pairStatus := kStatusActive
  pairedTime := now
  lastSeen := now

/-- Processes a PAIR_CONFIRM. The device id of the payload is checked for its length only:
the record is that of the session. -/
def handlePairConfirm (m : PairingManager) (reg : Registry) (clientId : UInt64)
    (payloadBytes : Bytes) (env : PairConfirmEnv) : PairingManager × Registry × PairingReply :=
  match m.sessions clientId with
  | none => (m, reg, protoError .UNAUTHORIZED "No active pairing session")
  | some session =>
    if session.state ≠ .WAITING_FOR_SAS then
      (m, reg, protoError .UNAUTHORIZED "No active pairing session")
    else
      let conf := parsePairConfirm payloadBytes
      let deviceIdStr := deviceIdToString session.deviceId
      if ¬ conf.valid then
        let session := { session with sasAttempts := session.sasAttempts + 1 }
        let session := if session.sasAttempts ≥ SAS_MAX_ATTEMPTS
          then { session with state := .FAILED } else session
        ((m.setSession clientId session).recordFailedAttempt deviceIdStr env.failureNow, reg,
          protoError .MALFORMED_HEADER "Invalid PAIR_CONFIRM payload"
            [.failure "Invalid PAIR_CONFIRM payload"])
      else if ¬ validateSasPin conf.sasPin session.sasPin session.sasGeneratedAt
          session.sasAttempts env.validateNow then
        let session := { session with sasAttempts := session.sasAttempts + 1 }
        let m := (m.setSession clientId session).recordFailedAttempt deviceIdStr env.failureNow
        let expired := sasPinExpired session.sasGeneratedAt env.expiredNow
        let maxAttempts := session.sasAttempts ≥ SAS_MAX_ATTEMPTS
        if expired ∨ maxAttempts then
          let reason := if expired then "SAS PIN expired" else "Maximum SAS attempts exceeded"
          (m.clearSession clientId, reg, protoError .UNAUTHORIZED reason [.failure reason])
        else (m, reg, protoError .UNAUTHORIZED "Incorrect SAS PIN")
      else
        let record := confirmedRecord session env.accountSid env.pairedNow
        let (regErr, reg) := writeDeviceRecord env.writeAccess reg record
        let m := (m.clearFailedAttempts deviceIdStr).clearSession clientId
        if regErr = ERROR_SUCCESS then
          (m, reg,
            { responseType := .PAIR_COMPLETE
              payload := buildPairComplete deviceIdStr
              callbacks := [.success session.deviceId session.deviceName session.clientIp] })
        else
          (m, reg, protoError .INTERNAL_ERROR "Registry write failed"
            [.failure "Registry write failed"])

/-- Processes an UNPAIR_REQUEST. Neither the client nor the id text is checked beyond the
length of the text. -/
def handleUnpairRequest (reg : Registry) (payloadBytes : Bytes) (acc : Access) :
    Registry × PairingReply :=
  let deviceIdStr := jsonGetString payloadBytes (ascii "deviceId")
  if deviceIdStr.length ≠ 36 then
    (reg, protoError .MALFORMED_HEADER "Invalid deviceId in UNPAIR_REQUEST")
  else
    let (err, reg) := deleteDeviceRecord acc reg deviceIdStr
    let success := err = ERROR_SUCCESS ∨ err = ERROR_FILE_NOT_FOUND
    (reg,
      { responseType := .UNPAIR_RESPONSE, payload := buildUnpairResponse success deviceIdStr })

/-- Drops the session of a client. The failure callback is called in any case. -/
def cancelPairingSession (m : PairingManager) (clientId : UInt64) :
    PairingManager × List PairingCallback :=
  (m.clearSession clientId, [.failure "Pairing cancelled"])

/-- Drops the sessions whose PIN has expired. The clock is read once per session. -/
def expireStaleSessions (m : PairingManager) (now : UInt64 → FILETIME) : PairingManager :=
  { m with sessions := fun clientId =>
      match m.sessions clientId with
      | none => none
      | some session =>
        if sasPinExpired session.sasGeneratedAt (now clientId) then none else some session }

/-! ### Runs -/

/-- What happens to the manager and to the device registry. -/
inductive PairingEvent where
  | pairRequest (clientId : UInt64) (clientIp payload : Bytes) (env : PairRequestEnv)
  | pairConfirm (clientId : UInt64) (payload : Bytes) (env : PairConfirmEnv)
  | cancelSession (clientId : UInt64)
  | expireSessions (now : UInt64 → FILETIME)
  | unpairRequest (clientId : UInt64) (payload : Bytes) (acc : Access)
  /-- `SetDeviceStatus(deviceIdStr, kStatusRevoked)` by somebody else. -/
  | revokeDevice (deviceIdStr : Bytes) (acc : Access)
  /-- `DeleteDeviceRecord(deviceIdStr)` by somebody else. -/
  | deleteDevice (deviceIdStr : Bytes) (acc : Access)

/-- The manager and the registry. -/
structure PairingWorld where
  manager : PairingManager := {}
  registry : Registry := {}

/-- The manager over a registry. Only the handlers reply. -/
def pairingMachine : Machine PairingWorld PairingEvent (Option PairingReply) where
  step s
    | .pairRequest clientId clientIp payload env =>
      let (m, reply) := handlePairRequest s.manager s.registry clientId clientIp payload env
      ({ s with manager := m }, some reply)
    | .pairConfirm clientId payload env =>
      let (m, reg, reply) := handlePairConfirm s.manager s.registry clientId payload env
      ({ manager := m, registry := reg }, some reply)
    | .cancelSession clientId =>
      ({ s with manager := (cancelPairingSession s.manager clientId).1 }, none)
    | .expireSessions now => ({ s with manager := expireStaleSessions s.manager now }, none)
    | .unpairRequest _ payload acc =>
      let (reg, reply) := handleUnpairRequest s.registry payload acc
      ({ s with registry := reg }, some reply)
    | .revokeDevice deviceIdStr acc =>
      ({ s with registry := (setDeviceStatus acc s.registry deviceIdStr kStatusRevoked).2 }, none)
    | .deleteDevice deviceIdStr acc =>
      ({ s with registry := (deleteDeviceRecord acc s.registry deviceIdStr).2 }, none)

end MobileUnlock.Pairing
