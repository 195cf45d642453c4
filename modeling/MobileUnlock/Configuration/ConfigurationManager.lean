import MobileUnlock.Lib.Machine
import MobileUnlock.Lib.Win32
import MobileUnlock.Protocol.Types

/-!
# `MobileUnlock.Configuration.ConfigurationManager`: the settings of the service

The model of `windows/configuration/ConfigurationManager.cpp`. Three of the settings have a value
in the registry, under `SOFTWARE\MobileFingerprintUnlock\Settings`. Each is a `DWORD`, so every
query that succeeds leaves the shared buffer size at four bytes. The wi-fi port is the low half of
its `DWORD`.

`configurationMachine` runs the calls of one manager. Between them another program may edit the
key.
-/

set_option autoImplicit false

namespace MobileUnlock.Configuration

open MobileUnlock.Lib MobileUnlock.Lib.Win32 MobileUnlock.Protocol

/-- The pipe name, in UTF-16 units. -/
def SECURE_IPC_PIPE_NAME : List UInt16 :=
  (ascii "\\\\.\\pipe\\MobileUnlockSecureIPC").map (·.toUInt16)

/-- The configuration. The defaults are those of the source's members. -/
structure AppConfig where
  wifiPort : UInt16 := DEFAULT_WIFI_PORT
  mdnsPort : UInt16 := DEFAULT_MDNS_PORT
  requireFingerprintForLock : Bool := false
  enableBleDiscovery : Bool := true
  enableInternetRelay : Bool := false
  rateLimitMaxAttempts : UInt32 := 5
  rateLimitWindowSeconds : UInt32 := 60
  rateLimitBlockSeconds : UInt32 := 900
  challengeTtlSeconds : UInt32 := 30
  servicePipeName : List UInt16 := SECURE_IPC_PIPE_NAME
  deriving DecidableEq, Repr

/-- Validates the bounds of a configuration. -/
def validateConfiguration (config : AppConfig) : Bool :=
  if config.wifiPort = 0 ∨ config.mdnsPort = 0 then false
  else if config.rateLimitMaxAttempts = 0 ∨ config.rateLimitWindowSeconds = 0 then false
  else if config.challengeTtlSeconds = 0 ∨ config.challengeTtlSeconds > 300 then false
  else if config.servicePipeName = [] then false
  else true

/-! ### The settings key -/

/-- The values of the settings key. -/
inductive SettingsValue where
  | wifiPort
  | requireFingerprintForLock
  | enableBleDiscovery
  deriving DecidableEq, Repr

/-- The content of the settings key. -/
abbrev SettingsKey := SettingsValue → Option UInt32

/-- What the registry calls of one operation answer apart from the content. A code other than
`ERROR_SUCCESS` is returned by the call, which then does nothing. -/
structure SettingsAccess where
  openKey : LONG := ERROR_SUCCESS
  createKey : LONG := ERROR_SUCCESS
  queryValue : SettingsValue → LONG := fun _ => ERROR_SUCCESS
  setValue : SettingsValue → LONG := fun _ => ERROR_SUCCESS

/-- `RegOpenKeyExW`, when it succeeds. -/
def openSettings (acc : SettingsAccess) (settings : Option SettingsKey) : Option SettingsKey :=
  if acc.openKey ≠ ERROR_SUCCESS then none else settings

/-- `RegQueryValueExW`: the `DWORD`, when the call succeeds. -/
def querySetting (acc : SettingsAccess) (key : SettingsKey) (v : SettingsValue) : Option UInt32 :=
  if acc.queryValue v ≠ ERROR_SUCCESS then none else key v

/-- One `RegSetValueExW` whose result is not looked at. -/
def storeSetting (acc : SettingsAccess) (v : SettingsValue) (data : UInt32) (key : SettingsKey) :
    SettingsKey :=
  if acc.setValue v ≠ ERROR_SUCCESS then key else Function.update key v (some data)

/-! ### The manager -/

/-- The queries of `LoadConfiguration` on the open key. Each answer is written to the
configuration at once. -/
def readSettings (acc : SettingsAccess) (key : SettingsKey) (config : AppConfig) : AppConfig :=
  let config := match querySetting acc key .wifiPort with
    | some data => { config with wifiPort := data.toUInt16 }
    | none => config
  let config := match querySetting acc key .requireFingerprintForLock with
    | some data => { config with requireFingerprintForLock := data != 0 }
    | none => config
  match querySetting acc key .enableBleDiscovery with
  | some data => { config with enableBleDiscovery := data != 0 }
  | none => config

/-- Loads the configuration into `config`. Without the key the defaults are used. -/
def loadConfiguration (acc : SettingsAccess) (settings : Option SettingsKey)
    (config : AppConfig) : Bool × AppConfig :=
  match openSettings acc settings with
  | none => (true, {})
  | some key =>
    let config := readSettings acc key config
    (validateConfiguration config, config)

/-- A flag as the `DWORD` that is stored. -/
def flagValue (flag : Bool) : UInt32 := if flag then 1 else 0

/-- The value writes of `SaveConfiguration`. -/
def storeSettings (acc : SettingsAccess) (config : AppConfig) (key : SettingsKey) : SettingsKey :=
  let key := storeSetting acc .wifiPort config.wifiPort.toUInt32 key
  let key := storeSetting acc .requireFingerprintForLock
    (flagValue config.requireFingerprintForLock) key
  storeSetting acc .enableBleDiscovery (flagValue config.enableBleDiscovery) key

/-- A manager and the registry it works on. -/
structure ConfigurationWorld where
  settings : Option SettingsKey
  config : AppConfig := {}

/-- Saves a configuration. The settings key is created when it is not there. -/
def saveConfiguration (acc : SettingsAccess) (w : ConfigurationWorld) (config : AppConfig) :
    Bool × ConfigurationWorld :=
  if ¬ validateConfiguration config then (false, w)
  else if acc.createKey ≠ ERROR_SUCCESS then (false, w)
  else
    let key := w.settings.getD fun _ => none
    (true, { settings := some (storeSettings acc config key), config := config })

/-! ### The calls of a manager -/

/-- A call, or an edit of the settings key by another program. -/
inductive ConfigurationEvent where
  | construct (acc : SettingsAccess)
  | load (acc : SettingsAccess)
  | save (acc : SettingsAccess) (config : AppConfig)
  | edit (settings : Option SettingsKey)

/-- The manager over its calls. The output is the result of the call. The constructor loads into
the defaults and has no result. -/
def configurationMachine : Machine ConfigurationWorld ConfigurationEvent (Option Bool) where
  step w event :=
    match event with
    | .construct acc =>
      ({ w with config := (loadConfiguration acc w.settings {}).2 }, none)
    | .load acc =>
      let (result, config) := loadConfiguration acc w.settings w.config
      ({ w with config := config }, some result)
    | .save acc config =>
      let (result, w) := saveConfiguration acc w config
      (w, some result)
    | .edit settings => ({ w with settings := settings }, none)

end MobileUnlock.Configuration
