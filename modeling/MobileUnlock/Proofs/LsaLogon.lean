import MobileUnlock.Lsa.LsaPackage
import MobileUnlock.Proofs.Authentication
import MobileUnlock.Proofs.DeviceRegistry

/-!
# `MobileUnlock.Proofs.LsaLogon`: the logon decision and the service's decision

`LogonAccepted` lists what `logonUserEx2` checks, and `verifyLogon_ok_iff` says that it checks
nothing else.

The service and the package verify the same signed message with two lists of checks. Given a
response that the service has accepted, all checks of the package but one are implied. The one
is the opcode: `handleAuthResponse` never looks at it. `logon_agrees_iff` is the exact relation
between the two.
-/

set_option autoImplicit false

namespace MobileUnlock.Lsa

open MobileUnlock.Lib MobileUnlock.Lib.Win32 MobileUnlock.Protocol MobileUnlock.Crypto
open MobileUnlock.Pairing MobileUnlock.Authentication

/-! ### The submit buffer -/

@[simp] theorem MobileUnlockLsaLogonBuffer.length_layout (b : MobileUnlockLsaLogonBuffer) :
    b.layout.length = LSA_LOGON_BUFFER_SIZE := by
  simp [MobileUnlockLsaLogonBuffer.layout, LSA_LOGON_BUFFER_SIZE]

/-- The packed buffer is read back from its bytes. -/
theorem MobileUnlockLsaLogonBuffer.ofLayout_layout (b : MobileUnlockLsaLogonBuffer) :
    MobileUnlockLsaLogonBuffer.ofLayout b.layout = b := by
  obtain ⟨magic, version, deviceId, reserved, canonicalMessage, signature⟩ := b
  have hlast : copyBytes 64 0 signature.toList = signature := copyBytes_toList signature
  simp only [ofLayout, layout, MobileUnlockLsaLogonBuffer.mk.injEq]
  simp (disch := simp) only [slice_append_right, slice_append_left, copyBytes_append_right,
    copyBytes_append_left, length_bytesLE, List.Vector.toList_length, Nat.reduceSub,
    slice_all, ofNat_natOfLE_bytesLE_32, hlast, and_self]

/-! ### What a logon needs -/

/-- The checks of a logon, all passed. -/
structure LogonAccepted (env : LsaEnv) (reg : Registry) (buf : MobileUnlockLsaLogonBuffer)
    (msg : SignedMessage) (record : DeviceRecord) : Prop where
  magic : buf.magic = LSA_SUBMIT_BUFFER_MAGIC
  version : buf.version = LSA_SUBMIT_BUFFER_VERSION
  reserved : buf.reserved = 0
  message : deserializeSignedMessage buf.canonicalMessage.toList = some msg
  device : msg.deviceIdentity = buf.deviceId
  operation : msg.operation = MessageType.AUTH_RESPONSE.code
  found : readDeviceRecord env.access reg (deviceIdToString buf.deviceId) {}
    = (ERROR_SUCCESS, record)
  active : record.pairStatus = kStatusActive
  key : record.publicKey ≠ []
  signature : verifyCanonicalSignedMessage env.cng record.publicKey msg buf.signature.toList = true

/-- A parsed message has the version of the protocol, and its fields are those of the packed
bytes in host order. -/
theorem deserializeSignedMessage_some {data : Bytes} {msg : SignedMessage}
    (h : deserializeSignedMessage data = some msg) :
    msg.protocolVersion = SIGNED_MESSAGE_VERSION ∧
      msg.deviceIdentity = (SignedMessage.ofLayout data).deviceIdentity ∧
      msg.operation = networkToHost16 (SignedMessage.ofLayout data).operation := by
  unfold deserializeSignedMessage at h
  split at h
  · cases h
  · dsimp only at h
    split at h
    · cases h
    · rename_i hcheck
      rw [not_or, not_not] at hcheck
      cases h
      exact ⟨hcheck.1, rfl, rfl⟩

/-- The text of an id is not empty. -/
theorem deviceIdToString_ne_nil (id : DeviceId) : deviceIdToString id ≠ [] := by
  unfold deviceIdToString
  simp

/-- A check that refuses has been passed. -/
theorem of_check_ok {p : Prop} [Decidable p] {status : NTSTATUS} {record : DeviceRecord}
    {rest : Except NTSTATUS DeviceRecord} (h : (if p then .error status else rest) = .ok record) :
    ¬ p ∧ rest = .ok record := by
  split at h
  · cases h
  next hp => exact ⟨hp, h⟩

/-- A refusal of a check or of what follows is never `STATUS_SUCCESS`. -/
theorem check_error_ne {p : Prop} [Decidable p] {status status' : NTSTATUS}
    {rest : Except NTSTATUS DeviceRecord} (hstatus : status' ≠ .STATUS_SUCCESS)
    (hrest : rest = .error status → status ≠ .STATUS_SUCCESS)
    (h : (if p then .error status' else rest) = .error status) : status ≠ .STATUS_SUCCESS := by
  split at h
  · cases h
    exact hstatus
  · exact hrest h

/-- The decision is exactly the list of checks. -/
theorem verifyLogon_ok_iff {env : LsaEnv} {reg : Registry} {data : Bytes}
    {record : DeviceRecord} :
    verifyLogon env reg (some data) = .ok record ↔
      LSA_LOGON_BUFFER_SIZE ≤ data.length ∧
        ∃ msg, LogonAccepted env reg (.ofLayout data) msg record := by
  constructor
  · intro h
    unfold verifyLogon at h
    dsimp only at h
    obtain ⟨hsize, h⟩ := of_check_ok h
    obtain ⟨hfields, h⟩ := of_check_ok h
    simp only [not_or, not_not] at hfields
    cases hmsg : deserializeSignedMessage
        (MobileUnlockLsaLogonBuffer.ofLayout data).canonicalMessage.toList with
    | none =>
      rw [hmsg] at h
      cases h
    | some msg =>
      rw [hmsg] at h
      dsimp only at h
      obtain ⟨-, h⟩ := of_check_ok h
      obtain ⟨hdevice, h⟩ := of_check_ok h
      obtain ⟨hoperation, h⟩ := of_check_ok h
      obtain ⟨-, h⟩ := of_check_ok h
      obtain ⟨hread, h⟩ := of_check_ok h
      obtain ⟨hactive, h⟩ := of_check_ok h
      obtain ⟨hkey, h⟩ := of_check_ok h
      obtain ⟨hsig, h⟩ := of_check_ok h
      -- Every check has been passed. What is left are the fields of `LogonAccepted`.
      rw [not_not] at hdevice hoperation hread hactive hsig
      cases h
      exact ⟨Nat.le_of_not_lt hsize, msg, hfields.1, hfields.2.1, hfields.2.2, hmsg, hdevice,
        hoperation, Prod.ext hread rfl, hactive, hkey, hsig⟩
  · rintro ⟨hsize, msg, h⟩
    unfold verifyLogon
    -- The deserializer has looked at the version and the id is never empty, so the two checks
    -- that `LogonAccepted` does not list pass by themselves.
    have hversion := (deserializeSignedMessage_some h.message).1
    dsimp only
    rw [if_neg (Nat.not_lt.mpr hsize), if_neg (by simp [h.magic, h.version, h.reserved]), h.message]
    dsimp only
    rw [if_neg (by rw [hversion]; decide), if_neg (not_not.mpr h.device),
      if_neg (not_not.mpr h.operation), if_neg (deviceIdToString_ne_nil _), h.found]
    dsimp only
    rw [if_neg (by simp), if_neg (not_not.mpr h.active), if_neg h.key,
      if_neg (not_not.mpr h.signature)]

/-- A refusal is never `STATUS_SUCCESS`. -/
theorem verifyLogon_error_ne {env : LsaEnv} {reg : Registry} {submitBuffer : Option Bytes}
    {status : NTSTATUS} (h : verifyLogon env reg submitBuffer = .error status) :
    status ≠ .STATUS_SUCCESS := by
  cases submitBuffer with
  | none =>
    cases h
    decide
  | some data =>
    unfold verifyLogon at h
    dsimp only at h
    -- Every branch but the last is an error with its own status.
    refine check_error_ne (by decide) (fun h => ?_) h
    refine check_error_ne (by decide) (fun h => ?_) h
    cases hmsg : deserializeSignedMessage
        (MobileUnlockLsaLogonBuffer.ofLayout data).canonicalMessage.toList with
    | none =>
      rw [hmsg] at h
      cases h
      decide
    | some msg =>
      rw [hmsg] at h
      dsimp only at h
      iterate 8 refine check_error_ne (by decide) (fun h => ?_) h
      cases h

/-- A logon that succeeds has passed the decision. -/
theorem verifyLogon_of_success {env : LsaEnv} {reg : Registry} {heap : LsaHeap}
    {ptrs : LogonPointers} {submitBuffer : Option Bytes}
    (h : (logonUserEx2 env reg heap ptrs submitBuffer).1 = .STATUS_SUCCESS) :
    ∃ record, verifyLogon env reg submitBuffer = .ok record := by
  unfold logonUserEx2 at h
  cases hv : verifyLogon env reg submitBuffer with
  | ok record => exact ⟨record, rfl⟩
  | error status =>
    rw [hv] at h
    exact absurd h (verifyLogon_error_ne hv)

/-- An output string is allocated when the heap answers. -/
theorem outputString_isSome {env : LsaEnv} (halloc : ∀ k, env.allocates k = true)
    (heap : LsaHeap) (given : Bool) (str : WideText) :
    ∃ s heap', outputString env heap given str = (some s, heap') := by
  cases given with
  | false => exact ⟨none, heap, rfl⟩
  | true =>
    simp only [outputString, createUnicodeStringOnLsaHeap, allocateHeap, halloc, if_true]
    rw [if_neg (by omega)]
    exact ⟨_, _, rfl⟩

/-- With a heap that answers, the decision is the outcome. -/
theorem logonUserEx2_success_iff {env : LsaEnv} (halloc : ∀ k, env.allocates k = true)
    (reg : Registry) (heap : LsaHeap) (ptrs : LogonPointers) (submitBuffer : Option Bytes) :
    (logonUserEx2 env reg heap ptrs submitBuffer).1 = .STATUS_SUCCESS ↔
      ∃ record, verifyLogon env reg submitBuffer = .ok record := by
  refine ⟨verifyLogon_of_success, ?_⟩
  rintro ⟨record, hv⟩
  unfold logonUserEx2
  rw [hv]
  dsimp only
  obtain ⟨account, heap₁, haccount⟩ :=
    outputString_isSome halloc heap ptrs.accountName (resolveUserName env record)
  rw [haccount]
  dsimp only
  obtain ⟨authority, heap₂, hauthority⟩ :=
    outputString_isSome halloc heap₁ ptrs.authenticatingAuthority AUTH_AUTHORITY_W
  rw [hauthority]

/-! ### Service and package -/

/-- The opcode in the signed message at the front of a payload. -/
def signedOperation (payload : Bytes) : UInt16 :=
  networkToHost16
    (SignedMessage.ofLayout (payload.take CANONICAL_SIGNED_MESSAGE_SIZE)).operation

/-- The submit buffer that carries an AUTH_RESPONSE payload: the signed device id, the 88 bytes
of the message and the 64 bytes of the signature. -/
def logonBuffer (payload : Bytes) : MobileUnlockLsaLogonBuffer where
  magic := LSA_SUBMIT_BUFFER_MAGIC
  version := 1
  deviceId :=
    (SignedMessage.ofLayout (payload.take CANONICAL_SIGNED_MESSAGE_SIZE)).deviceIdentity
  reserved := 0
  canonicalMessage := copyBytes 88 0 payload
  signature := copyBytes 64 88 payload

/-- A parsed payload has 152 bytes, and the message is that of its first 88. -/
theorem parseAuthResponse_ok {payload : Bytes} {msg : SignedMessage}
    (h : parseAuthResponse payload = .ok msg) :
    payload.length = 152 ∧
      deserializeSignedMessage (payload.take CANONICAL_SIGNED_MESSAGE_SIZE) = some msg := by
  unfold parseAuthResponse at h
  split at h
  · cases h
  rename_i hlong
  split at h
  · cases h
  rename_i hsize
  split at h
  · cases h
  rename_i hmsg
  cases h
  simp only [CANONICAL_SIGNED_MESSAGE_SIZE, P1363_SIGNATURE_SIZE] at hlong hsize
  exact ⟨by omega, hmsg⟩

theorem logonBuffer_canonicalMessage {payload : Bytes} (hlen : payload.length = 152) :
    (logonBuffer payload).canonicalMessage.toList
      = payload.take CANONICAL_SIGNED_MESSAGE_SIZE := by
  show (copyBytes 88 0 payload).toList = _
  rw [toList_copyBytes (by omega), slice, List.drop_zero]
  rfl

theorem logonBuffer_signature {payload : Bytes} (hlen : payload.length = 152) :
    (logonBuffer payload).signature.toList = payload.drop CANONICAL_SIGNED_MESSAGE_SIZE := by
  show (copyBytes 64 88 payload).toList = _
  rw [toList_copyBytes (by omega), slice]
  exact List.take_of_length_le (by rw [List.length_drop, hlen])

/-- The last-seen time is not among the fields a logon looks at. -/
theorem readDeviceRecord_updateLastSeen {acc acc' : Access} {reg : Registry} {s : Bytes}
    {now : FILETIME} {record : DeviceRecord}
    (h : readDeviceRecord acc reg s {} = (ERROR_SUCCESS, record)) :
    ∃ t, readDeviceRecord acc (updateLastSeen acc' reg s now).2 s {}
      = (ERROR_SUCCESS, { record with lastSeen := t }) := by
  obtain ⟨err, -, hsame⟩ | ⟨vals, hl, hset⟩ :=
    setDeviceValue_cases acc' reg s .lastSeen (bytesLE 8 now.toU64.toNat)
  · rw [updateLastSeen, hsame, h]
    exact ⟨record.lastSeen, rfl⟩
  · rw [updateLastSeen, hset]
    have hopen : acc.openKey (deviceKey s) = ERROR_SUCCESS :=
      openKey_of_readDeviceRecord (congrArg Prod.fst h)
    simp only [readDeviceRecord, regOpenKey, hopen, hl, ne_eq, not_true_eq_false, if_false,
      Prod.mk.injEq, true_and] at h
    subst h
    simp only [readDeviceRecord, regOpenKey, hopen, Registry.store_withStore, AList.lookup_insert,
      ne_eq, not_true_eq_false, if_false, Prod.mk.injEq, true_and]
    exact ⟨_, rfl⟩

/-- Take a response that the service accepts, and the logon buffer made from it, over the same
registry (before the response or after it) and the same signature oracle, with a heap that
answers. The logon succeeds if and only if the opcode of the signed message is
AUTH_RESPONSE. -/
theorem logon_agrees_iff (m : AuthenticationManager) (reg reg' : Registry) (hdr : FrameHeader)
    (payload : Bytes) (env : ResponseEnv) (lsaEnv : LsaEnv) (heap : LsaHeap)
    (ptrs : LogonPointers)
    (hsuccess : (handleAuthResponse m reg hdr payload env).2.2.result = .SUCCESS)
    (hreg : reg' = reg ∨ reg' = (handleAuthResponse m reg hdr payload env).2.1)
    (haccess : lsaEnv.access = env.access) (hcng : lsaEnv.cng = env.cng)
    (halloc : ∀ k, lsaEnv.allocates k = true) :
    (logonUserEx2 lsaEnv reg' heap ptrs (some (logonBuffer payload).layout)).1 = .STATUS_SUCCESS ↔
      signedOperation payload = MessageType.AUTH_RESPONSE.code := by
  -- Only the accepting branch of the handler replies SUCCESS.
  have hcase := handleAuthResponse_case m reg hdr payload env
  generalize handleAuthResponse m reg hdr payload env = out at hsuccess hreg hcase
  cases hcase with
  | invalid r hp =>
    rw [refuseResponse_result, parseAuthResponse_error hp] at hsuccess
    cases hsuccess
  | limited => cases hsuccess
  | failed msg hp h r hr => exact absurd hsuccess (countedFailure_ne hr).1
  | accepted msg hp h record hr ch hslot hfresh hage hsession hnonce hsig =>
    obtain ⟨hlen, hmsg⟩ := parseAuthResponse_ok hp
    obtain ⟨-, hdevice, hoperation⟩ := deserializeSignedMessage_some hmsg
    obtain ⟨hfound, hactive, hkey⟩ := lookupDevice_ok.mp hr
    -- The package reads the same record, up to the last-seen time.
    obtain ⟨t, hread⟩ : ∃ t, readDeviceRecord env.access reg'
        (deviceIdToString msg.deviceIdentity) {}
        = (ERROR_SUCCESS, { record with lastSeen := t }) := by
      rcases hreg with rfl | rfl
      · exact ⟨record.lastSeen, hfound⟩
      · exact readDeviceRecord_updateLastSeen hfound
    have hcanonical := logonBuffer_canonicalMessage hlen
    have hsignature := logonBuffer_signature hlen
    rw [logonUserEx2_success_iff halloc]
    constructor
    · rintro ⟨record', hv⟩
      obtain ⟨-, msg', haccepted⟩ := verifyLogon_ok_iff.mp hv
      rw [MobileUnlockLsaLogonBuffer.ofLayout_layout] at haccepted
      have hparsed := haccepted.message
      rw [hcanonical, hmsg] at hparsed
      cases hparsed
      rw [signedOperation, ← hoperation]
      exact haccepted.operation
    · intro hop
      refine ⟨{ record with lastSeen := t }, verifyLogon_ok_iff.mpr ⟨?_, msg, ?_⟩⟩
      · rw [MobileUnlockLsaLogonBuffer.length_layout]
      · rw [MobileUnlockLsaLogonBuffer.ofLayout_layout]
        exact
          { magic := rfl
            version := rfl
            reserved := rfl
            message := by rw [hcanonical, hmsg]
            device := hdevice
            operation := by rw [hoperation]; exact hop
            found := by
              show readDeviceRecord lsaEnv.access reg' (deviceIdToString
                (SignedMessage.ofLayout _).deviceIdentity) {} = _
              rw [haccess, ← hdevice]
              exact hread
            active := hactive
            key := hkey
            signature := by
              rw [hcng, hsignature]
              exact hsig }

/-! ### A phone that signs two opcodes -/

/-- The id of the phone. -/
def phoneId : DeviceId := ⟨[1, 2, 3, 4, 5, 6, 7, 8, 9, 10, 11, 12, 13, 14, 15, 16], rfl⟩

/-- Its P-256 key, as raw coordinates. -/
def phoneKey : Bytes :=
  [71, 28, 62, 117, 140, 73, 4, 40, 91, 186, 126, 83, 17, 142, 208, 245, 36, 173, 235, 7, 87,
   210, 91, 210, 248, 231, 176, 215, 109, 250, 113, 76, 221, 82, 15, 122, 202, 138, 139, 145,
   122, 204, 55, 245, 29, 232, 240, 201, 187, 227, 173, 133, 131, 130, 231, 2, 220, 37, 161, 45,
   9, 247, 168, 88]

/-- The message it signs, for a given opcode. -/
def phoneMessage (operation : MessageType) : SignedMessage where
  protocolVersion := SIGNED_MESSAGE_VERSION
  serverIdentity := List.Vector.replicate 16 0xAA
  deviceIdentity := phoneId
  operation := operation.code
  requestID := 1
  sessionID := 1
  nonce := List.Vector.replicate 32 7
  timestamp := 1000

/-- SHA-256 of the message with AUTH_RESPONSE, and the ECDSA signature over it. -/
def authDigest : Bytes :=
  [94, 141, 31, 72, 224, 73, 243, 219, 89, 186, 117, 99, 0, 71, 238, 171, 10, 177, 172, 210,
   139, 92, 105, 39, 204, 34, 222, 129, 52, 100, 62, 197]

def authSignature : Bytes :=
  [111, 199, 155, 149, 66, 248, 156, 124, 215, 77, 134, 122, 150, 115, 254, 187, 48, 121, 123,
   224, 252, 135, 88, 209, 148, 167, 251, 194, 124, 33, 123, 152, 151, 249, 115, 146, 105, 78,
   177, 222, 13, 228, 63, 19, 176, 68, 168, 67, 142, 33, 242, 193, 24, 77, 226, 167, 202, 12,
   175, 135, 230, 177, 53, 185]

/-- SHA-256 of the message with LOCK_REQUEST, and the ECDSA signature over it. -/
def lockDigest : Bytes :=
  [36, 218, 235, 187, 1, 84, 180, 231, 52, 179, 185, 5, 183, 123, 68, 114, 131, 4, 27, 132, 179,
   226, 62, 108, 11, 173, 15, 213, 95, 134, 188, 62]

def lockSignature : Bytes :=
  [231, 231, 32, 253, 71, 241, 165, 199, 224, 211, 18, 112, 55, 183, 237, 61, 218, 34, 21, 21,
   209, 25, 231, 62, 69, 120, 118, 7, 225, 144, 46, 168, 100, 26, 149, 49, 246, 244, 216, 252,
   180, 244, 196, 110, 203, 229, 209, 238, 212, 7, 104, 155, 185, 49, 192, 183, 194, 102, 32,
   59, 63, 174, 247, 171]

/-- CNG on these values. -/
def phoneCng : Cng where
  sha256 data :=
    if data = serializeSignedMessage (phoneMessage .AUTH_RESPONSE) then some authDigest
    else if data = serializeSignedMessage (phoneMessage .LOCK_REQUEST) then some lockDigest
    else none
  importKeyPair blob := if blob = eccBlob phoneKey then some 1 else none
  verifySignature handle digest signature :=
    handle = 1 ∧ (digest = authDigest ∧ signature = authSignature ∨
      digest = lockDigest ∧ signature = lockSignature)
  wildKey _ := none

/-- The values of the phone's key: active, and with its public key. -/
def phoneValues : KeyValues DeviceValue
  | .pairStatus => some (bytesLE 4 1)
  | .publicKey => some phoneKey
  | _ => none

/-- A registry with the phone. -/
def phoneRegistry : Registry where
  hive _ := (∅ : KeyStore DeviceValue).insert (deviceKey (deviceIdToString phoneId)) phoneValues

/-- A manager that has issued a challenge to the phone at time 1000. -/
def phoneManager : AuthenticationManager where
  sessionCounter := 2
  activeChallenges :=
    Function.update (fun _ => none) (deviceIdToString phoneId) (some
      { deviceId := phoneId
        sessionId := 1
        nonce := List.Vector.replicate 32 7
        createdAtMs := 1000
        isConsumed := false })

/-- What the service reads from outside when the answer comes, one second later. -/
def phoneEnv : ResponseEnv where
  now := 2000
  access := RegAccess.ok
  cng := phoneCng
  seenAccess := RegAccess.ok
  seenTime := {}

/-- What the package reads from outside. -/
def phoneLsaEnv : LsaEnv where
  access := RegAccess.ok
  cng := phoneCng
  lookupAccountSid _ := none
  allocates _ := true

theorem authSignature_valid :
    verifyCanonicalSignedMessage phoneCng phoneKey (phoneMessage .AUTH_RESPONSE) authSignature
      = true := by
  decide +kernel

theorem lockSignature_valid :
    verifyCanonicalSignedMessage phoneCng phoneKey (phoneMessage .LOCK_REQUEST) lockSignature
      = true := by
  decide +kernel

/-- The phone is known, active and has its key. -/
theorem lookupDevice_phone :
    ∃ record, lookupDevice RegAccess.ok phoneRegistry (deviceIdToString phoneId) = .ok record ∧
      record.publicKey = phoneKey := by
  have hl : phoneRegistry.store.lookup (deviceKey (deviceIdToString phoneId))
      = some phoneValues := AList.lookup_insert _
  have hread : readDeviceRecord RegAccess.ok phoneRegistry (deviceIdToString phoneId) {}
      = (ERROR_SUCCESS,
          { deviceId := (deviceIdFromString (deviceIdToString phoneId) zeroDeviceId).2
            publicKey := phoneKey
            pairStatus := kStatusActive }) := by
    simp only [readDeviceRecord, regOpenKey, RegAccess.ok, hl, ne_eq, not_true_eq_false, if_false]
    rfl
  exact ⟨_, lookupDevice_ok.mpr ⟨hread, rfl, by decide⟩, rfl⟩

/-- The service accepts what the phone signs, whichever of the two opcodes it is. -/
theorem phone_accepted {operation : MessageType} {signature : Bytes}
    (hop : isValidMessageType operation.code = true)
    (hlen : signature.length = P1363_SIGNATURE_SIZE)
    (hsig : verifyCanonicalSignedMessage phoneCng phoneKey (phoneMessage operation) signature
      = true) :
    (handleAuthResponse phoneManager phoneRegistry {}
      (serializeSignedMessage (phoneMessage operation) ++ signature) phoneEnv).2.2.result
        = .SUCCESS := by
  obtain ⟨record, hlookup, hkey⟩ := lookupDevice_phone
  have hparse : parseAuthResponse (serializeSignedMessage (phoneMessage operation) ++ signature)
      = .ok (phoneMessage operation) := parseAuthResponse_serialize rfl hop hlen
  have hdrop : (serializeSignedMessage (phoneMessage operation) ++ signature).drop
      CANONICAL_SIGNED_MESSAGE_SIZE = signature :=
    List.drop_left' (length_serializeSignedMessage _)
  have hanswer : (answerChallenge phoneManager (deviceIdToString phoneId) 2000 phoneCng
      record.publicKey (phoneMessage operation) signature).2 = none := by
    have hage : challengeExpired
        { deviceId := phoneId
          sessionId := 1
          nonce := List.Vector.replicate 32 7
          createdAtMs := 1000
          isConsumed := false } 2000 = false := by decide
    simp only [answerChallenge, phoneManager, Function.update_self, hage, hkey, hsig]
    simp [phoneMessage]
  rw [← hdrop] at hanswer
  have hreply : (handleAuthResponse phoneManager phoneRegistry {}
      (serializeSignedMessage (phoneMessage operation) ++ signature) phoneEnv).2.2
      = successReply {} record.accountSid :=
    handleAuthResponse_accepted _ _ _ _ phoneEnv hparse rfl hlookup hanswer
  rw [hreply, successReply_result]

/-- The phone answers its challenge with a message whose opcode is LOCK_REQUEST. The service
accepts the answer, and the logon with the same 152 bytes is refused. -/
theorem logon_disagrees_lockOpcode :
    (serializeSignedMessage (phoneMessage .LOCK_REQUEST) ++ lockSignature).length = 152 ∧
      (handleAuthResponse phoneManager phoneRegistry {}
        (serializeSignedMessage (phoneMessage .LOCK_REQUEST) ++ lockSignature)
        phoneEnv).2.2.result = .SUCCESS ∧
      (logonUserEx2 phoneLsaEnv phoneRegistry {} {} (some (logonBuffer
        (serializeSignedMessage (phoneMessage .LOCK_REQUEST) ++ lockSignature)).layout)).1
          ≠ .STATUS_SUCCESS := by
  have hparse : parseAuthResponse
      (serializeSignedMessage (phoneMessage .LOCK_REQUEST) ++ lockSignature)
      = .ok (phoneMessage .LOCK_REQUEST) := parseAuthResponse_serialize rfl (by decide) rfl
  obtain ⟨hlen, hmsg⟩ := parseAuthResponse_ok hparse
  refine ⟨hlen, phone_accepted (by decide) rfl lockSignature_valid, ?_⟩
  intro hstatus
  obtain ⟨record, hv⟩ := verifyLogon_of_success hstatus
  obtain ⟨-, msg, haccepted⟩ := verifyLogon_ok_iff.mp hv
  rw [MobileUnlockLsaLogonBuffer.ofLayout_layout] at haccepted
  have hmessage := haccepted.message
  rw [logonBuffer_canonicalMessage hlen, hmsg] at hmessage
  cases hmessage
  exact absurd haccepted.operation (by decide)

/-- With the opcode AUTH_RESPONSE both accept. -/
theorem logon_agrees_authOpcode :
    (logonUserEx2 phoneLsaEnv phoneRegistry {} {} (some (logonBuffer
      (serializeSignedMessage (phoneMessage .AUTH_RESPONSE) ++ authSignature)).layout)).1
        = .STATUS_SUCCESS := by
  have hparse : parseAuthResponse
      (serializeSignedMessage (phoneMessage .AUTH_RESPONSE) ++ authSignature)
      = .ok (phoneMessage .AUTH_RESPONSE) := parseAuthResponse_serialize rfl (by decide) rfl
  have hop := (deserializeSignedMessage_some (parseAuthResponse_ok hparse).2).2.2
  exact (logon_agrees_iff phoneManager phoneRegistry phoneRegistry {} _ phoneEnv phoneLsaEnv {} {}
    (phone_accepted (by decide) rfl authSignature_valid) (Or.inl rfl) rfl rfl
    (fun _ => rfl)).mpr hop.symm

end MobileUnlock.Lsa
