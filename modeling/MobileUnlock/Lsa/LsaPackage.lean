import MobileUnlock.Crypto.CryptoManager
import MobileUnlock.Pairing.DeviceRegistry

/-!
# `MobileUnlock.Lsa.LsaPackage`: the logon decision inside LSASS

The model of `windows/lsa_authentication_package/LsaPackage.cpp` and `LsaLogonBuffer.h`.
`logonUserEx2` decides a logon from a 180-byte buffer, the device registry and CNG. It does
not talk to the service.

Output pointers may be null. `LogonPointers` says which are given, and in `LogonOutputs` an
output whose pointer is null is `none`. A given output that holds a null pointer is
`some none`. The LSA heap is the list of its live blocks, with the answers of the
allocations in the order of the calls.

The two SID calls (`ConvertStringSidToSidA`, `LookupAccountSidW`) are one oracle from SID
text to account name.
-/

set_option autoImplicit false

namespace MobileUnlock.Lsa

open MobileUnlock.Lib MobileUnlock.Lib.Win32 MobileUnlock.Protocol MobileUnlock.Crypto
open MobileUnlock.Pairing

/-- The status codes the package returns. -/
inductive NTSTATUS where
  | STATUS_SUCCESS
  | STATUS_LOGON_FAILURE
  | STATUS_INVALID_PARAMETER
  | STATUS_BUFFER_TOO_SMALL
  | STATUS_NO_SUCH_USER
  | STATUS_ACCOUNT_RESTRICTION
  | STATUS_INSUFFICIENT_RESOURCES
  deriving DecidableEq, Repr

def LSA_SUBMIT_BUFFER_MAGIC : UInt32 := 0x4D554C53
def LSA_SUBMIT_BUFFER_VERSION : UInt32 := 1
def LSA_DEVICE_ID_SIZE : Nat := 16
def LSA_CANONICAL_MESSAGE_SIZE : Nat := 88
def LSA_SIGNATURE_SIZE : Nat := 64

/-- `sizeof(MOBILE_UNLOCK_LSA_LOGON_BUFFER)`. -/
def LSA_LOGON_BUFFER_SIZE : Nat := 180

/-- The packed submit buffer. -/
structure MobileUnlockLsaLogonBuffer where
  magic : UInt32
  version : UInt32
  deviceId : ByteArr 16
  reserved : UInt32
  canonicalMessage : ByteArr 88
  signature : ByteArr 64
  deriving DecidableEq

/-- The bytes of the packed struct on the little-endian host. -/
def MobileUnlockLsaLogonBuffer.layout (b : MobileUnlockLsaLogonBuffer) : Bytes :=
  bytesLE 4 b.magic.toNat ++ (bytesLE 4 b.version.toNat ++ (b.deviceId.toList ++
    (bytesLE 4 b.reserved.toNat ++ (b.canonicalMessage.toList ++ b.signature.toList))))

/-- The struct at the front of a buffer. -/
def MobileUnlockLsaLogonBuffer.ofLayout (data : Bytes) : MobileUnlockLsaLogonBuffer where
  magic := UInt32.ofNat (natOfLE (slice 0 4 data))
  version := UInt32.ofNat (natOfLE (slice 4 4 data))
  deviceId := copyBytes 16 8 data
  reserved := UInt32.ofNat (natOfLE (slice 24 4 data))
  canonicalMessage := copyBytes 88 28 data
  signature := copyBytes 64 116 data

/-! ### The LSA heap -/

/-- A UTF-16 text. -/
abbrev WideText := List UInt16

/-- The wide text of a `char` text: `wchar_t` of a signed `char`. -/
def widen (s : Bytes) : WideText :=
  s.map fun c => if c < 0x80 then c.toUInt16 else 0xFF00 + c.toUInt16

/-- A `UNICODE_STRING` in its own heap block. -/
structure UnicodeString where
  block : Nat
  length : UInt16
  maximumLength : UInt16
  buffer : WideText
  deriving DecidableEq

/-- The heap: the number of allocations asked for, and the blocks that are live. -/
structure LsaHeap where
  requests : Nat := 0
  live : List Nat := []
  deriving DecidableEq

/-- What one call of the package reads from outside. `allocates k` is the answer to the
allocation request with number `k`. -/
structure LsaEnv where
  access : Access
  cng : Cng
  lookupAccountSid : Bytes → Option WideText
  allocates : Nat → Bool

/-- A block of `length` bytes, or null. -/
def allocateHeap (env : LsaEnv) (heap : LsaHeap) (length : Nat) : Option Nat × LsaHeap :=
  if length = 0 then (none, heap)
  else
    let block := heap.requests
    if env.allocates block then
      (some block, { requests := block + 1, live := block :: heap.live })
    else (none, { heap with requests := block + 1 })

def freeHeap (heap : LsaHeap) (block : Nat) : LsaHeap :=
  { heap with live := heap.live.erase block }

/-- A copy of a text on the heap, or null. The block holds the struct and the text with its
terminator. -/
def createUnicodeStringOnLsaHeap (env : LsaEnv) (heap : LsaHeap) (str : WideText) :
    Option UnicodeString × LsaHeap :=
  let cbBuffer := (str.length + 1) * 2
  match allocateHeap env heap (16 + cbBuffer) with
  | (none, heap) => (none, heap)
  | (some block, heap) =>
    (some
      { block := block
        length := UInt16.ofNat (str.length * 2)
        maximumLength := UInt16.ofNat cbBuffer
        buffer := str }, heap)

/-! ### The decision -/

/-- Steps 1 to 5: the buffer, the signed message, the device record and the signature. A
refusal sets the sub-status to the status it returns. -/
def verifyLogon (env : LsaEnv) (reg : Registry) (submitBuffer : Option Bytes) :
    Except NTSTATUS DeviceRecord :=
  match submitBuffer with
  | none => .error .STATUS_INVALID_PARAMETER
  | some data =>
    if data.length < LSA_LOGON_BUFFER_SIZE then .error .STATUS_BUFFER_TOO_SMALL
    else
      let buf := MobileUnlockLsaLogonBuffer.ofLayout data
      if buf.magic ≠ LSA_SUBMIT_BUFFER_MAGIC ∨ buf.version ≠ LSA_SUBMIT_BUFFER_VERSION ∨
          buf.reserved ≠ 0 then .error .STATUS_INVALID_PARAMETER
      else match deserializeSignedMessage buf.canonicalMessage.toList with
        | none => .error .STATUS_INVALID_PARAMETER
        | some msg =>
          if msg.protocolVersion ≠ 0x0100 then .error .STATUS_INVALID_PARAMETER
          else if msg.deviceIdentity ≠ buf.deviceId then .error .STATUS_LOGON_FAILURE
          else if msg.operation ≠ MessageType.AUTH_RESPONSE.code then
            .error .STATUS_LOGON_FAILURE
          else
            let devIdStr := deviceIdToString buf.deviceId
            if devIdStr = [] then .error .STATUS_INVALID_PARAMETER
            else
              let (regRes, deviceRecord) := readDeviceRecord env.access reg devIdStr {}
              if regRes ≠ ERROR_SUCCESS then .error .STATUS_NO_SUCH_USER
              else if deviceRecord.pairStatus ≠ kStatusActive then
                .error .STATUS_ACCOUNT_RESTRICTION
              else if deviceRecord.publicKey = [] then .error .STATUS_LOGON_FAILURE
              else if ¬ verifyCanonicalSignedMessage env.cng deviceRecord.publicKey msg
                  buf.signature.toList then .error .STATUS_LOGON_FAILURE
              else .ok deviceRecord

/-- Step 6: the account name of the SID. When there is none, the name the phone gave, and
without that a fixed name. -/
def resolveUserName (env : LsaEnv) (deviceRecord : DeviceRecord) : WideText :=
  let targetUserName := if deviceRecord.accountSid = [] then []
    else (env.lookupAccountSid deviceRecord.accountSid).getD []
  if targetUserName ≠ [] then targetUserName
  else if deviceRecord.deviceName ≠ [] then widen deviceRecord.deviceName
  else widen (ascii "MobileUnlockUser")

def AUTH_AUTHORITY_W : WideText := widen (ascii "MobileFingerprintUnlock")

/-! ### The call -/

/-- The output pointers of a call: `true` is a pointer that is not null. -/
structure LogonPointers where
  profileBuffer : Bool := true
  profileBufferLength : Bool := true
  subStatus : Bool := true
  tokenInformationType : Bool := true
  tokenInformation : Bool := true
  accountName : Bool := true
  authenticatingAuthority : Bool := true
  machineName : Bool := true
  primaryCredentials : Bool := true
  supplementalCredentials : Bool := true
  deriving DecidableEq

/-- The outputs of a call. A field is `none` when its pointer is null. `Unit` stands for the
contents the package only ever clears. -/
structure LogonOutputs where
  profileBuffer : Option (Option Unit)
  profileBufferLength : Option Nat
  subStatus : Option NTSTATUS
  tokenInformationNull : Option Bool
  tokenInformation : Option (Option Unit)
  accountName : Option (Option UnicodeString)
  authenticatingAuthority : Option (Option UnicodeString)
  machineName : Option (Option UnicodeString)
  primaryCredentialsZero : Option Bool
  supplementalCredentials : Option (Option Unit)
  deriving DecidableEq

/-- The outputs as the call sets them before it checks anything, with a given sub-status. -/
def clearedOutputs (ptrs : LogonPointers) (subStatus : NTSTATUS) : LogonOutputs where
  profileBuffer := if ptrs.profileBuffer then some none else none
  profileBufferLength := if ptrs.profileBufferLength then some 0 else none
  subStatus := if ptrs.subStatus then some subStatus else none
  tokenInformationNull := if ptrs.tokenInformationType then some true else none
  tokenInformation := if ptrs.tokenInformation then some none else none
  accountName := if ptrs.accountName then some none else none
  authenticatingAuthority := if ptrs.authenticatingAuthority then some none else none
  machineName := if ptrs.machineName then some none else none
  primaryCredentialsZero := if ptrs.primaryCredentials then some true else none
  supplementalCredentials := if ptrs.supplementalCredentials then some none else none

/-- One output string: nothing is allocated for a null pointer. `none` is an allocation that
failed. -/
def outputString (env : LsaEnv) (heap : LsaHeap) (given : Bool) (str : WideText) :
    Option (Option UnicodeString) × LsaHeap :=
  if given then
    match createUnicodeStringOnLsaHeap env heap str with
    | (none, heap) => (none, heap)
    | (some s, heap) => (some (some s), heap)
  else (some none, heap)

/-- Decides a logon and fills the outputs. -/
def logonUserEx2 (env : LsaEnv) (reg : Registry) (heap : LsaHeap) (ptrs : LogonPointers)
    (submitBuffer : Option Bytes) : NTSTATUS × LogonOutputs × LsaHeap :=
  match verifyLogon env reg submitBuffer with
  | .error status => (status, clearedOutputs ptrs status, heap)
  | .ok deviceRecord =>
    match outputString env heap ptrs.accountName (resolveUserName env deviceRecord) with
    | (none, heap) =>
      (.STATUS_INSUFFICIENT_RESOURCES, clearedOutputs ptrs .STATUS_INSUFFICIENT_RESOURCES, heap)
    | (some accountName, heap) =>
      match outputString env heap ptrs.authenticatingAuthority AUTH_AUTHORITY_W with
      | (none, heap) =>
        -- the account name is given back before the call fails
        let heap := match accountName with
          | some s => freeHeap heap s.block
          | none => heap
        (.STATUS_INSUFFICIENT_RESOURCES, clearedOutputs ptrs .STATUS_INSUFFICIENT_RESOURCES, heap)
      | (some authority, heap) =>
        (.STATUS_SUCCESS,
          { clearedOutputs ptrs .STATUS_SUCCESS with
            accountName := if ptrs.accountName then some accountName else none
            authenticatingAuthority :=
              if ptrs.authenticatingAuthority then some authority else none }, heap)

end MobileUnlock.Lsa
