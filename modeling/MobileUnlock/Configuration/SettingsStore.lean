import MobileUnlock.Configuration.ConfigurationManager

/-!
# `MobileUnlock.Configuration.SettingsStore`: settings of any data

`MobileUnlock.Configuration.ConfigurationManager` has the settings key as long as each value is a
`DWORD`. Another program can store anything there, and the source does not ask for the type of a
value. So here a value is its bytes.

The three queries of `LoadConfiguration` share `dwData` and `cbData`, and `cbData` is set to four
only once. A value with fewer bytes leaves the upper bytes of `dwData` and makes `cbData` smaller,
so that the next `DWORD` does not fit. A value that does not fit makes it larger, so that the next
call may write behind `dwData`. A load that does that is `none`.
-/

set_option autoImplicit false

namespace MobileUnlock.Configuration.Raw

open MobileUnlock.Lib MobileUnlock.Lib.Win32

/-- The content of the settings key: the data of its values. -/
abbrev SettingsKey := SettingsValue → Option Bytes

/-- The bytes of a `DWORD` in memory. -/
def dwordBytes (data : UInt32) : Bytes := bytesLE 4 data.toNat

/-- What the registry calls of one operation answer apart from the content. `leftover` is what a
call that reports `ERROR_MORE_DATA` leaves in the buffer, which is not defined. -/
structure Access extends SettingsAccess where
  leftover : SettingsValue → UInt32 := fun _ => 0

/-- The variables that the queries share. -/
structure QueryBuffer where
  dwData : UInt32 := 0
  cbData : Nat := 4

/-- What a query answers, and the shared variables after it. -/
structure QueryAnswer where
  status : LONG
  buffer : QueryBuffer

/-- The variable `dwData` when its first bytes are overwritten. -/
def overwrite (dwData : UInt32) (data : Bytes) : UInt32 :=
  UInt32.ofNat (natOfLE (data ++ (dwordBytes dwData).drop data.length))

/-- `RegQueryValueExW` with `dwData` as the buffer of `cbData` bytes. -/
def regQueryValueEx (acc : Access) (key : SettingsKey) (v : SettingsValue)
    (buffer : QueryBuffer) : Option QueryAnswer :=
  if acc.queryValue v ≠ ERROR_SUCCESS then some ⟨acc.queryValue v, buffer⟩
  else match key v with
    | none => some ⟨ERROR_FILE_NOT_FOUND, buffer⟩
    | some data =>
      if data.length > buffer.cbData then
        some ⟨ERROR_MORE_DATA, { dwData := acc.leftover v, cbData := data.length }⟩
      else if data.length > 4 then none
      else some ⟨ERROR_SUCCESS,
        { dwData := overwrite buffer.dwData data, cbData := data.length }⟩

/-! ### Loading -/

/-- What `LoadConfiguration` does with an answer: the member of a value is set from `dwData`. -/
def setMember (v : SettingsValue) (dwData : UInt32) (config : AppConfig) : AppConfig :=
  match v with
  | .wifiPort => { config with wifiPort := dwData.toUInt16 }
  | .requireFingerprintForLock => { config with requireFingerprintForLock := dwData != 0 }
  | .enableBleDiscovery => { config with enableBleDiscovery := dwData != 0 }

/-- One query of `LoadConfiguration`. -/
def queryMember (acc : Access) (key : SettingsKey) (v : SettingsValue)
    (state : QueryBuffer × AppConfig) : Option (QueryBuffer × AppConfig) :=
  (regQueryValueEx acc key v state.1).map fun answer =>
    (answer.buffer,
      if answer.status = ERROR_SUCCESS then setMember v answer.buffer.dwData state.2 else state.2)

/-- The three queries. -/
def readSettings (acc : Access) (key : SettingsKey) (config : AppConfig) : Option AppConfig :=
  (queryMember acc key .wifiPort ({}, config)).bind fun state =>
    (queryMember acc key .requireFingerprintForLock state).bind fun state =>
      (queryMember acc key .enableBleDiscovery state).map fun state => state.2

/-- Loads the configuration into `config`. Without the key the defaults are used. -/
def loadConfiguration (acc : Access) (settings : Option SettingsKey) (config : AppConfig) :
    Option (Bool × AppConfig) :=
  match (if acc.openKey ≠ ERROR_SUCCESS then none else settings) with
  | none => some (true, {})
  | some key =>
    (readSettings acc key config).map fun config => (validateConfiguration config, config)

/-- The configuration of a manager that is constructed over the settings key. -/
def constructed (acc : Access) (settings : Option SettingsKey) : Option AppConfig :=
  (loadConfiguration acc settings {}).map fun result => result.2

/-! ### Saving -/

/-- One `RegSetValueExW` of a `DWORD` whose result is not looked at. -/
def storeSetting (acc : SettingsAccess) (v : SettingsValue) (data : UInt32) (key : SettingsKey) :
    SettingsKey :=
  if acc.setValue v ≠ ERROR_SUCCESS then key else Function.update key v (some (dwordBytes data))

/-- The value writes of `SaveConfiguration`. -/
def storeSettings (acc : SettingsAccess) (config : AppConfig) (key : SettingsKey) : SettingsKey :=
  let key := storeSetting acc .wifiPort config.wifiPort.toUInt32 key
  let key := storeSetting acc .requireFingerprintForLock
    (flagValue config.requireFingerprintForLock) key
  storeSetting acc .enableBleDiscovery (flagValue config.enableBleDiscovery) key

/-- A manager and the registry it works on. -/
structure World where
  settings : Option SettingsKey
  config : AppConfig := {}

/-- Saves a configuration. The settings key is created when it is not there. -/
def saveConfiguration (acc : SettingsAccess) (w : World) (config : AppConfig) : Bool × World :=
  if ¬ validateConfiguration config then (false, w)
  else if acc.createKey ≠ ERROR_SUCCESS then (false, w)
  else
    let key := w.settings.getD fun _ => none
    (true, { settings := some (storeSettings acc config key), config := config })

end MobileUnlock.Configuration.Raw
