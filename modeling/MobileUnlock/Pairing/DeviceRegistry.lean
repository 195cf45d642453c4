import MobileUnlock.Lib.Win32
import MobileUnlock.Pairing.DeviceIdentity

/-!
# `MobileUnlock.Pairing.DeviceRegistry`: the store of paired devices

The model of `windows/pairing/DeviceRegistry.cpp`. Every device has a subkey of
`SOFTWARE\MobileFingerprintUnlock\Devices` with six values. The root the store lives under
is a process-wide variable, and `writeDeviceRecord` itself moves it from `HKLM` to `HKCU`
when access is denied.

Readers look at the data of a value and never at its type, so a value is its data. The
values are written one by one, and `writeDeviceRecord` does not look at the results of
those calls.
-/

set_option autoImplicit false

namespace MobileUnlock.Pairing

open MobileUnlock.Lib MobileUnlock.Lib.Win32

/-- The value names of a device key. `DeviceVersion` is declared in the source and never
read or written. -/
inductive DeviceValue where
  | pairStatus
  | deviceName
  | accountSid
  | publicKey
  | pairedTime
  | lastSeen
  deriving DecidableEq, Repr

def kStatusActive : UInt32 := 1
def kStatusRevoked : UInt32 := 0
def kMaxDevicesPerAccount : Nat := 5

/-- A device record. The defaults are those of a value-initialised record. -/
structure DeviceRecord where
  deviceId : DeviceId := zeroDeviceId
  deviceName : Bytes := []
  accountSid : Bytes := []
  publicKey : Bytes := []
  pairStatus : UInt32 := 0
  pairedTime : FILETIME := {}
  lastSeen : FILETIME := {}
  deriving DecidableEq

/-- The registry as the program sees it: the device store under every root, and the root in
force (`s_registryRoot`). -/
structure Registry where
  root : HKEY := .HKEY_LOCAL_MACHINE
  hive : HKEY → KeyStore DeviceValue := fun _ => ∅

abbrev Access := RegAccess DeviceValue

namespace Registry

/-- The device store in force. -/
def store (reg : Registry) : KeyStore DeviceValue := reg.hive reg.root

/-- The registry with another device store under the root in force. -/
def withStore (reg : Registry) (st : KeyStore DeviceValue) : Registry :=
  { reg with hive := Function.update reg.hive reg.root st }

end Registry

/-- The key of a device id text. -/
def deviceKey (deviceIdStr : Bytes) : KeyName := KeyName.ofText deviceIdStr

/-! ### Writing -/

/-- One `RegSetValueExW` whose result is not looked at. -/
def storeValue (acc : Access) (name : KeyName) (v : DeviceValue) (data : Bytes)
    (vals : KeyValues DeviceValue) : KeyValues DeviceValue :=
  (regSetValue acc name vals v data).2

/-- The value writes of `WriteDeviceRecord`, in the order of the source. An empty key is not
written, so a key value that is there stays. -/
def storeRecord (acc : Access) (name : KeyName) (record : DeviceRecord)
    (vals : KeyValues DeviceValue) : KeyValues DeviceValue :=
  let vals := storeValue acc name .pairStatus (bytesLE 4 record.pairStatus.toNat) vals
  let vals := storeValue acc name .deviceName (wideString record.deviceName) vals
  let vals := storeValue acc name .accountSid (wideString record.accountSid) vals
  let vals := if record.publicKey = [] then vals
    else storeValue acc name .publicKey record.publicKey vals
  let vals := storeValue acc name .pairedTime (bytesLE 8 record.pairedTime.toU64.toNat) vals
  storeValue acc name .lastSeen (bytesLE 8 record.lastSeen.toU64.toNat) vals

/-- The first call of `WriteDeviceRecord`: create the parent key. When `HKLM` denies access,
the root moves to `HKCU` for good and the call is made again there. -/
def ensureRoot (acc : Access) (reg : Registry) : LONG × Registry :=
  let err := acc.createRoot reg.root
  if err = ERROR_ACCESS_DENIED ∧ reg.root = .HKEY_LOCAL_MACHINE then
    (acc.createRoot .HKEY_CURRENT_USER, { reg with root := .HKEY_CURRENT_USER })
  else (err, reg)

/-- Writes a device record. -/
def writeDeviceRecord (acc : Access) (reg : Registry) (record : DeviceRecord) :
    LONG × Registry :=
  let (err, reg) := ensureRoot acc reg
  if err ≠ ERROR_SUCCESS then (err, reg)
  else
    let name := deviceKey (deviceIdToString record.deviceId)
    if acc.createKey name ≠ ERROR_SUCCESS then (acc.createKey name, reg)
    else
      let vals := (reg.store.lookup name).getD fun _ => none
      (ERROR_SUCCESS, reg.withStore (reg.store.insert name (storeRecord acc name record vals)))

/-- Opens the key of an existing device and sets one of its values. -/
def setDeviceValue (acc : Access) (reg : Registry) (deviceIdStr : Bytes) (v : DeviceValue)
    (data : Bytes) : LONG × Registry :=
  let name := deviceKey deviceIdStr
  match regOpenKey acc reg.store name with
  | .error err => (err, reg)
  | .ok vals =>
    let (err, vals) := regSetValue acc name vals v data
    if err ≠ ERROR_SUCCESS then (err, reg) else (err, reg.withStore (reg.store.insert name vals))

/-- Sets the pair status of an existing device. -/
def setDeviceStatus (acc : Access) (reg : Registry) (deviceIdStr : Bytes) (status : UInt32) :
    LONG × Registry :=
  setDeviceValue acc reg deviceIdStr .pairStatus (bytesLE 4 status.toNat)

/-- Sets the last-seen time of an existing device to `now`. -/
def updateLastSeen (acc : Access) (reg : Registry) (deviceIdStr : Bytes) (now : FILETIME) :
    LONG × Registry :=
  setDeviceValue acc reg deviceIdStr .lastSeen (bytesLE 8 now.toU64.toNat)

/-- Deletes the key of a device. -/
def deleteDeviceRecord (acc : Access) (reg : Registry) (deviceIdStr : Bytes) :
    LONG × Registry :=
  let (err, st) := regDeleteKey acc reg.store (deviceKey deviceIdStr)
  if err ≠ ERROR_SUCCESS then (err, reg) else (err, reg.withStore st)

/-! ### Reading -/

/-- The buffer sizes of `ReadDeviceRecord`: `wchar_t[256]` and `BYTE[256]`. -/
def WIDE_BUFFER_SIZE : Nat := 512
def KEY_BUFFER_SIZE : Nat := 256

/-- The pair status of a key. A value that cannot be read as a `DWORD` is a revocation. -/
def readPairStatus (acc : Access) (name : KeyName) (vals : KeyValues DeviceValue) : UInt32 :=
  match regQueryValue acc name vals .pairStatus 4 with
  | some data => UInt32.ofNat (natOfLE data)
  | none => kStatusRevoked

/-- A text value, or the caller's text when it cannot be read. -/
def readText (acc : Access) (name : KeyName) (vals : KeyValues DeviceValue) (v : DeviceValue)
    (out : Bytes) : Bytes :=
  match regQueryValue acc name vals v WIDE_BUFFER_SIZE with
  | some data => narrowString data
  | none => out

/-- The public key, or the caller's when it cannot be read or is empty. -/
def readPublicKey (acc : Access) (name : KeyName) (vals : KeyValues DeviceValue)
    (out : Bytes) : Bytes :=
  match regQueryValue acc name vals .publicKey KEY_BUFFER_SIZE with
  | some data => if data.length > 0 then data else out
  | none => out

/-- A time value, or the caller's when it cannot be read. -/
def readTime (acc : Access) (name : KeyName) (vals : KeyValues DeviceValue) (v : DeviceValue)
    (out : FILETIME) : FILETIME :=
  match regQueryValue acc name vals v 8 with
  | some data => FILETIME.ofU64 (UInt64.ofNat (natOfLE data))
  | none => out

/-- Reads the record of a device into `outRecord`. The id is parsed from the text, and the
result of that parse is not looked at. -/
def readDeviceRecord (acc : Access) (reg : Registry) (deviceIdStr : Bytes)
    (outRecord : DeviceRecord) : LONG × DeviceRecord :=
  let name := deviceKey deviceIdStr
  match regOpenKey acc reg.store name with
  | .error err => (err, outRecord)
  | .ok vals =>
    (ERROR_SUCCESS,
      { deviceId := (deviceIdFromString deviceIdStr outRecord.deviceId).2
        deviceName := readText acc name vals .deviceName outRecord.deviceName
        accountSid := readText acc name vals .accountSid outRecord.accountSid
        publicKey := readPublicKey acc name vals outRecord.publicKey
        pairStatus := readPairStatus acc name vals
        pairedTime := readTime acc name vals .pairedTime outRecord.pairedTime
        lastSeen := readTime acc name vals .lastSeen outRecord.lastSeen })

/-- Whether a device exists and is active. -/
def isDeviceActive (acc : Access) (reg : Registry) (deviceIdStr : Bytes) : Bool :=
  let (err, record) := readDeviceRecord acc reg deviceIdStr {}
  if err ≠ ERROR_SUCCESS then false else record.pairStatus == kStatusActive

/-! ### Enumeration -/

/-- The buffer of `EnumerateDeviceIds`: `wchar_t[64]`. -/
def SUBKEY_BUFFER_SIZE : Nat := 64

/-- The enumeration loop over any sequence of answers. It leaves only at
`ERROR_NO_MORE_ITEMS`; every other error moves on to the next index. `none` is a loop that
is still running when the fuel is used up. -/
def enumLoop (enum : Nat → EnumResult) : Nat → Nat → List Bytes → Option (List Bytes)
  | 0, _, _ => none
  | fuel + 1, index, ids =>
    match enum index with
    | .noMoreItems => some ids
    | .success name => enumLoop enum fuel (index + 1) (ids ++ [name])
    | .error _ => enumLoop enum fuel (index + 1) ids

/-- The ids of all device keys. With finitely many faults the loop ends after the last fault
and the last key, which is the fuel given here (`enumLoop_isSome`). -/
def enumerateDeviceIds (acc : Access) (reg : Registry) : List Bytes :=
  if acc.openRoot ≠ ERROR_SUCCESS then []
  else (enumLoop (regEnumKey acc reg.store SUBKEY_BUFFER_SIZE)
    (acc.enumKey.length + reg.store.keys.length + 1) 0 []).getD []

/-- The number of active devices mapped to an account. -/
def countActiveDevicesForAccount (acc : Access) (reg : Registry) (accountSid : Bytes) : Nat :=
  (enumerateDeviceIds acc reg).countP fun id =>
    let (err, record) := readDeviceRecord acc reg id {}
    err == ERROR_SUCCESS && record.pairStatus == kStatusActive && record.accountSid == accountSid

/-- `EnumerateDeviceIds` over any results of `RegOpenKeyExW` and `RegEnumKeyExW`, the latter in the
order of the calls. The index passed is a `DWORD` that wraps. `none` is a loop that is still
running when the fuel is used up. -/
def enumerateDeviceIdsWithin (openRoot : LONG) (results : Nat → EnumResult) (fuel : Nat) :
    Option (List Bytes) :=
  if openRoot ≠ ERROR_SUCCESS then some [] else enumLoop results fuel 0 []

/-- `CountActiveDevicesForAccount` over such an enumeration. The records are read without
faults. -/
def countActiveDevicesWithin (openRoot : LONG) (results : Nat → EnumResult) (fuel : Nat)
    (reg : Registry) (accountSid : Bytes) : Option Nat :=
  (enumerateDeviceIdsWithin openRoot results fuel).map fun ids => ids.countP fun id =>
    let (err, record) := readDeviceRecord RegAccess.ok reg id {}
    err == ERROR_SUCCESS && record.pairStatus == kStatusActive && record.accountSid == accountSid

end MobileUnlock.Pairing
