import MobileUnlock.Lsa.LsaPackage

/-!
# `MobileUnlock.Lsa.LogonUser`: the call with its writes and its heap calls in order

`logonUserEx2` of `MobileUnlock.Lsa.LsaPackage` gives the outputs of a call at once. Here the same
call is followed write by write. `LogonMemory` has the locations behind the output pointers, with
whatever the caller left in them, and a pointer that is null is `none`. Every exit of
`LsaPackage::LogonUserEx2` writes one status to the sub-status and returns another constant, so
`checkLogon` gives both. `HeapLog` keeps the allocations that succeeded and the blocks given back,
in the order of the calls.
-/

set_option autoImplicit false

namespace MobileUnlock.Lsa

open MobileUnlock.Lib MobileUnlock.Lib.Win32 MobileUnlock.Protocol MobileUnlock.Crypto
open MobileUnlock.Pairing

/-! ### The memory of the caller -/

/-- What a location holds: something the caller left there, or a value the call wrote. -/
inductive Slot (α : Type) where
  | caller
  | written (a : α)
  deriving DecidableEq

/-- `if (p) *p = a`. -/
def put {α : Type} (location : Option (Slot α)) (a : α) : Option (Slot α) :=
  location.map fun _ => .written a

/-- The locations behind the output pointers, which do not overlap. A pointer that is written is
`none` when it is null. `Unit` stands for the pointers that are never anything else. -/
structure LogonMemory where
  profileBuffer : Option (Slot (Option Unit))
  profileBufferLength : Option (Slot Nat)
  subStatus : Option (Slot NTSTATUS)
  /-- `LsaTokenInformationNull` is zero. -/
  tokenInformationType : Option (Slot Nat)
  tokenInformation : Option (Slot (Option Unit))
  accountName : Option (Slot (Option UnicodeString))
  authenticatingAuthority : Option (Slot (Option UnicodeString))
  machineName : Option (Slot (Option UnicodeString))
  /-- The bytes of the structure. -/
  primaryCredentials : Option Bytes
  supplementalCredentials : Option (Slot (Option Unit))
  deriving DecidableEq

/-- The ten writes before the first check. -/
def clearOutputs (mem : LogonMemory) : LogonMemory where
  subStatus := put mem.subStatus .STATUS_LOGON_FAILURE
  profileBuffer := put mem.profileBuffer none
  profileBufferLength := put mem.profileBufferLength 0
  tokenInformationType := put mem.tokenInformationType 0
  tokenInformation := put mem.tokenInformation none
  accountName := put mem.accountName none
  authenticatingAuthority := put mem.authenticatingAuthority none
  machineName := put mem.machineName none
  primaryCredentials := mem.primaryCredentials.map fun bytes => List.replicate bytes.length 0
  supplementalCredentials := put mem.supplementalCredentials none

/-! ### The heap calls -/

/-- A call of the heap functions. -/
inductive HeapCall where
  | allocated (block : Nat)
  | freed (block : Nat)
  deriving DecidableEq

/-- The number of allocations asked for, and the heap calls so far, oldest first. -/
structure HeapLog where
  requests : Nat := 0
  calls : List HeapCall := []
  deriving DecidableEq

/-- `AllocateHeap`. -/
def HeapLog.allocate (env : LsaEnv) (heap : HeapLog) (length : Nat) : Option Nat × HeapLog :=
  if length = 0 then (none, heap)
  else
    let block := heap.requests
    if env.allocates block then
      (some block, { requests := block + 1, calls := heap.calls ++ [.allocated block] })
    else (none, { heap with requests := block + 1 })

/-- `FreeHeap`. -/
def HeapLog.free (heap : HeapLog) (block : Nat) : HeapLog :=
  { heap with calls := heap.calls ++ [.freed block] }

/-- `CreateUnicodeStringOnLsaHeap`. -/
def HeapLog.createUnicodeString (env : LsaEnv) (heap : HeapLog) (str : WideText) :
    Option UnicodeString × HeapLog :=
  let cbBuffer := (str.length + 1) * 2
  match heap.allocate env (16 + cbBuffer) with
  | (none, heap) => (none, heap)
  | (some block, heap) =>
    (some
      { block := block
        length := UInt16.ofNat (str.length * 2)
        maximumLength := UInt16.ofNat cbBuffer
        buffer := str }, heap)

/-! ### The call -/

/-- Steps 1 to 5. An exit is the sub-status written and the status returned. -/
def checkLogon (env : LsaEnv) (reg : Registry) (submitBuffer : Option Bytes) :
    Except (NTSTATUS × NTSTATUS) DeviceRecord :=
  match submitBuffer with
  | none => .error (.STATUS_INVALID_PARAMETER, .STATUS_INVALID_PARAMETER)
  | some data =>
    if data.length < LSA_LOGON_BUFFER_SIZE then
      .error (.STATUS_BUFFER_TOO_SMALL, .STATUS_BUFFER_TOO_SMALL)
    else
      let buf := MobileUnlockLsaLogonBuffer.ofLayout data
      if buf.magic ≠ LSA_SUBMIT_BUFFER_MAGIC ∨ buf.version ≠ LSA_SUBMIT_BUFFER_VERSION ∨
          buf.reserved ≠ 0 then .error (.STATUS_INVALID_PARAMETER, .STATUS_INVALID_PARAMETER)
      else match deserializeSignedMessage buf.canonicalMessage.toList with
        | none => .error (.STATUS_INVALID_PARAMETER, .STATUS_INVALID_PARAMETER)
        | some msg =>
          if msg.protocolVersion ≠ 0x0100 then
            .error (.STATUS_INVALID_PARAMETER, .STATUS_INVALID_PARAMETER)
          else if msg.deviceIdentity ≠ buf.deviceId then
            .error (.STATUS_LOGON_FAILURE, .STATUS_LOGON_FAILURE)
          else if msg.operation ≠ MessageType.AUTH_RESPONSE.code then
            .error (.STATUS_LOGON_FAILURE, .STATUS_LOGON_FAILURE)
          else
            let devIdStr := deviceIdToString buf.deviceId
            if devIdStr = [] then .error (.STATUS_INVALID_PARAMETER, .STATUS_INVALID_PARAMETER)
            else
              let (regRes, deviceRecord) := readDeviceRecord env.access reg devIdStr {}
              if regRes ≠ ERROR_SUCCESS then .error (.STATUS_NO_SUCH_USER, .STATUS_NO_SUCH_USER)
              else if deviceRecord.pairStatus ≠ kStatusActive then
                .error (.STATUS_ACCOUNT_RESTRICTION, .STATUS_ACCOUNT_RESTRICTION)
              else if deviceRecord.publicKey = [] then
                .error (.STATUS_LOGON_FAILURE, .STATUS_LOGON_FAILURE)
              else if ¬ verifyCanonicalSignedMessage env.cng deviceRecord.publicKey msg
                  buf.signature.toList then .error (.STATUS_LOGON_FAILURE, .STATUS_LOGON_FAILURE)
              else .ok deviceRecord

/-- An exit: the sub-status written and the status returned. -/
def exitLogon (mem : LogonMemory) (heap : HeapLog) (subStatus status : NTSTATUS) :
    NTSTATUS × LogonMemory × HeapLog :=
  (status, { mem with subStatus := put mem.subStatus subStatus }, heap)

/-- Step 7, the authority. When its allocation fails, the account name is given back. -/
def outputAuthority (env : LsaEnv) (mem : LogonMemory) (heap : HeapLog) :
    NTSTATUS × LogonMemory × HeapLog :=
  match mem.authenticatingAuthority with
  | none =>
    exitLogon { mem with tokenInformationType := put mem.tokenInformationType 0 } heap
      .STATUS_SUCCESS .STATUS_SUCCESS
  | some _ =>
    let (authority, heap) := heap.createUnicodeString env AUTH_AUTHORITY_W
    let mem :=
      { mem with authenticatingAuthority := put mem.authenticatingAuthority authority }
    match authority, mem.accountName with
    | none, some (.written (some name)) =>
      exitLogon { mem with accountName := put mem.accountName none } (heap.free name.block)
        .STATUS_INSUFFICIENT_RESOURCES .STATUS_INSUFFICIENT_RESOURCES
    | none, _ => exitLogon mem heap .STATUS_INSUFFICIENT_RESOURCES .STATUS_INSUFFICIENT_RESOURCES
    | some _, _ =>
      exitLogon { mem with tokenInformationType := put mem.tokenInformationType 0 } heap
        .STATUS_SUCCESS .STATUS_SUCCESS

/-- Step 7, the account name. -/
def outputAccountName (env : LsaEnv) (mem : LogonMemory) (heap : HeapLog) (userName : WideText) :
    NTSTATUS × LogonMemory × HeapLog :=
  match mem.accountName with
  | none => outputAuthority env mem heap
  | some _ =>
    let (accountName, heap) := heap.createUnicodeString env userName
    let mem := { mem with accountName := put mem.accountName accountName }
    match accountName with
    | none => exitLogon mem heap .STATUS_INSUFFICIENT_RESOURCES .STATUS_INSUFFICIENT_RESOURCES
    | some _ => outputAuthority env mem heap

/-- Decides a logon and writes the outputs. -/
def logonUserEx2InPlace (env : LsaEnv) (reg : Registry) (mem : LogonMemory) (heap : HeapLog)
    (submitBuffer : Option Bytes) : NTSTATUS × LogonMemory × HeapLog :=
  let mem := clearOutputs mem
  match checkLogon env reg submitBuffer with
  | .error (subStatus, status) => exitLogon mem heap subStatus status
  | .ok deviceRecord => outputAccountName env mem heap (resolveUserName env deviceRecord)

end MobileUnlock.Lsa
