import MobileUnlock.Configuration.ConfigurationManager

/-!
# `MobileUnlock.Proofs.Configuration`: when the configuration in force is valid

`LoadConfiguration` writes what it reads into the configuration in force and validates it there.
Of the three values it reads, only the port can be out of bounds, and it is read as the low half
of a `DWORD`. `validateConfiguration_readSettings` says so: from a valid configuration a load ends
in a valid one unless it finds a port whose low half is zero.

`configuration_valid_iff` carries this through a run. Every call keeps the configuration valid,
and unchanged where it returns false, if and only if no construction and no load finds such a
port.
-/

set_option autoImplicit false

namespace MobileUnlock.Configuration

open MobileUnlock.Lib MobileUnlock.Lib.Win32

theorem validateConfiguration_iff (config : AppConfig) :
    validateConfiguration config = true ↔
      config.wifiPort ≠ 0 ∧ config.mdnsPort ≠ 0 ∧ config.rateLimitMaxAttempts ≠ 0 ∧
        config.rateLimitWindowSeconds ≠ 0 ∧ config.challengeTtlSeconds ≠ 0 ∧
        ¬ config.challengeTtlSeconds > 300 ∧ config.servicePipeName ≠ [] := by
  rw [validateConfiguration]
  split
  next hport => exact iff_of_false Bool.false_ne_true fun h => hport.elim h.1 h.2.1
  next hport =>
  split
  next hrate => exact iff_of_false Bool.false_ne_true fun h => hrate.elim h.2.2.1 h.2.2.2.1
  next hrate =>
  split
  next httl =>
    exact iff_of_false Bool.false_ne_true fun h => httl.elim h.2.2.2.2.1 h.2.2.2.2.2.1
  next httl =>
  split
  next hpipe => exact iff_of_false Bool.false_ne_true fun h => h.2.2.2.2.2.2 hpipe
  next hpipe =>
    rw [not_or] at hport hrate httl
    exact iff_of_true rfl ⟨hport.1, hport.2, hrate.1, hrate.2, httl.1, httl.2, hpipe⟩

/-- Every default passes its own check. -/
theorem validateConfiguration_default : validateConfiguration {} = true := by decide

/-! ### One load -/

/-- The queries set the port and the two flags, each if its value is found. -/
theorem readSettings_eq (acc : SettingsAccess) (key : SettingsKey) (config : AppConfig) :
    readSettings acc key config = { config with
      wifiPort := ((querySetting acc key .wifiPort).map (·.toUInt16)).getD config.wifiPort
      requireFingerprintForLock := ((querySetting acc key .requireFingerprintForLock).map
        (· != 0)).getD config.requireFingerprintForLock
      enableBleDiscovery := ((querySetting acc key .enableBleDiscovery).map
        (· != 0)).getD config.enableBleDiscovery } := by
  rw [readSettings]
  cases querySetting acc key .wifiPort <;>
    cases querySetting acc key .requireFingerprintForLock <;>
    cases querySetting acc key .enableBleDiscovery <;>
    rfl

/-- The port that a load finds, if it finds one, is not zero as a 16-bit number. -/
def ReadsPort (acc : SettingsAccess) (settings : Option SettingsKey) : Prop :=
  ∀ key, openSettings acc settings = some key →
    ∀ data, querySetting acc key .wifiPort = some data → data.toNat % 65536 ≠ 0

theorem toUInt16_eq_zero_iff (data : UInt32) : data.toUInt16 = 0 ↔ data.toNat % 65536 = 0 := by
  rw [← UInt16.toNat_inj, UInt32.toNat_toUInt16]
  rfl

/-- The configuration that is read is valid unless the port is zero. -/
theorem validateConfiguration_readSettings (acc : SettingsAccess) (key : SettingsKey)
    {config : AppConfig} (hvalid : validateConfiguration config = true) :
    validateConfiguration (readSettings acc key config) = true ↔
      ∀ data, querySetting acc key .wifiPort = some data → data.toNat % 65536 ≠ 0 := by
  obtain ⟨hport, hrest⟩ := (validateConfiguration_iff config).mp hvalid
  rw [readSettings_eq, validateConfiguration_iff]
  cases querySetting acc key .wifiPort with
  | none => exact iff_of_true ⟨hport, hrest⟩ fun data hdata => nomatch hdata
  | some stored =>
    have hzero := not_congr (toUInt16_eq_zero_iff stored)
    constructor
    · rintro ⟨hstored, -⟩ data hdata
      cases hdata
      exact hzero.mp hstored
    · intro hstored
      exact ⟨hzero.mpr (hstored stored rfl), hrest⟩

theorem loadConfiguration_valid_iff (acc : SettingsAccess) (settings : Option SettingsKey)
    {config : AppConfig} (hvalid : validateConfiguration config = true) :
    validateConfiguration (loadConfiguration acc settings config).2 = true ↔
      ReadsPort acc settings := by
  rw [loadConfiguration, ReadsPort]
  cases openSettings acc settings with
  | none => exact iff_of_true validateConfiguration_default fun key hkey => nomatch hkey
  | some key =>
    refine (validateConfiguration_readSettings acc key hvalid).trans ⟨fun h k hk => ?_, ?_⟩
    · cases hk
      exact h
    · intro h
      exact h key rfl

/-- A load returns whether it left a valid configuration. -/
theorem loadConfiguration_result (acc : SettingsAccess) (settings : Option SettingsKey)
    (config : AppConfig) :
    (loadConfiguration acc settings config).1 =
      validateConfiguration (loadConfiguration acc settings config).2 := by
  rw [loadConfiguration]
  split
  · exact validateConfiguration_default.symm
  · rfl

/-! ### One save -/

/-- A save puts a valid configuration in force or changes nothing. -/
theorem saveConfiguration_cases (acc : SettingsAccess) (w : ConfigurationWorld)
    (config : AppConfig) :
    saveConfiguration acc w config = (false, w) ∨
      validateConfiguration config = true ∧ (saveConfiguration acc w config).1 = true ∧
        (saveConfiguration acc w config).2.config = config := by
  rw [saveConfiguration]
  split
  · exact .inl rfl
  next hvalid =>
  split
  · exact .inl rfl
  · exact .inr ⟨not_not.mp hvalid, rfl, rfl⟩

/-! ### Runs -/

/-- What a call must do: leave a valid configuration, and where it returns false, the one from
before the call. -/
def KeepsValid (x : Entry ConfigurationWorld ConfigurationEvent (Option Bool)) : Prop :=
  validateConfiguration x.after.config = true ∧
    (x.output = some false → x.after.config = x.before.config)

/-- No construction and no load finds a port whose low half is zero. -/
def FindsPort (w : ConfigurationWorld) : ConfigurationEvent → Prop
  | .construct acc | .load acc => ReadsPort acc w.settings
  | .save _ _ | .edit _ => True

/-- One step from a valid configuration. -/
theorem keepsValid_entry_iff (w : ConfigurationWorld) (event : ConfigurationEvent)
    (hvalid : validateConfiguration w.config = true) :
    KeepsValid (configurationMachine.entry w event) ↔ FindsPort w event := by
  cases event with
  | construct acc =>
    have hload := loadConfiguration_valid_iff acc w.settings validateConfiguration_default
    exact ⟨fun h => hload.mp h.1, fun h => ⟨hload.mpr h, fun hfalse => nomatch hfalse⟩⟩
  | load acc =>
    have hload := loadConfiguration_valid_iff acc w.settings hvalid
    refine ⟨fun h => hload.mp h.1, fun h => ⟨hload.mpr h, fun hfalse => ?_⟩⟩
    -- a load that returns false leaves a configuration that is not valid
    have hresult := loadConfiguration_result acc w.settings w.config
    rw [hload.mpr h] at hresult
    have hfalse : some (loadConfiguration acc w.settings w.config).1 = some false := hfalse
    rw [hresult] at hfalse
    cases hfalse
  | save acc config =>
    refine iff_of_true ?_ trivial
    rcases saveConfiguration_cases acc w config with hsame | ⟨hconfig, hresult, hstored⟩
    · show validateConfiguration (saveConfiguration acc w config).2.config = true ∧
        (some (saveConfiguration acc w config).1 = some false →
          (saveConfiguration acc w config).2.config = w.config)
      rw [hsame]
      exact ⟨hvalid, fun _ => rfl⟩
    · show validateConfiguration (saveConfiguration acc w config).2.config = true ∧
        (some (saveConfiguration acc w config).1 = some false →
          (saveConfiguration acc w config).2.config = w.config)
      rw [hresult, hstored]
      exact ⟨hconfig, fun hfalse => nomatch hfalse⟩
  | edit settings => exact iff_of_true ⟨hvalid, fun _ => rfl⟩ trivial

/-- Over every registry content and every sequence of calls, the configuration in force is valid
after each call, and unchanged by a call that returns false, if and only if no construction and
no load finds a port whose low 16 bits are zero. -/
theorem configuration_valid_iff (settings : Option SettingsKey)
    (events : List ConfigurationEvent) :
    (∀ x ∈ configurationMachine.trace { settings := settings } events, KeepsValid x) ↔
      configurationMachine.Along FindsPort { settings := settings } events :=
  configurationMachine.forall_trace_iff_along
    (I := fun w => validateConfiguration w.config = true) keepsValid_entry_iff
    (fun _ _ _ hkeeps => hkeeps.1) validateConfiguration_default events

/-- A settings key whose only value is a port of 65536. -/
def portKey : SettingsKey := Function.update (fun _ => none) .wifiPort (some 65536)

/-- With a stored port of 65536 the constructor puts port 0 in force, and a load that returns
false puts it in force in place of a valid configuration. -/
theorem configuration_not_valid :
    (¬ ∀ x ∈ configurationMachine.trace { settings := some portKey } [.construct {}],
      KeepsValid x) ∧
    (loadConfiguration {} (some portKey) {}).1 = false ∧
    (loadConfiguration {} (some portKey) {}).2 ≠ {} := by
  refine ⟨fun h => ?_, by decide, by decide⟩
  have hconstruct := h _ List.mem_cons_self
  exact absurd hconstruct.1 (by decide)

end MobileUnlock.Configuration
