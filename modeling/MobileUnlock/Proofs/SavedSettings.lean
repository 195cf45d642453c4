import MobileUnlock.Configuration.SettingsStore
import MobileUnlock.Proofs.Configuration

/-!
# `MobileUnlock.Proofs.SavedSettings`: what comes back of the saved settings

`SaveConfiguration` puts the whole configuration in force and writes three of its members to the
registry. It does not look at the results of these writes. After a restart the members that were
not written are at their defaults, and a member whose write has failed is what the key had for it.

`load_store_eq_iff` says what a load gives back over a key of `DWORD`s. A key can have any data.
As long as the load takes the bytes it reads for `DWORD`s (`Raw.ReadsAs`), the size of the shared
buffer stays four and the load is the one without buffers (`Raw.loadConfiguration_eq`). That is so
when every value that is read was written. When one was not, there is a key over which the
configuration does not come back (`savedSettings_comeBack_iff`).
-/

set_option autoImplicit false

namespace MobileUnlock.Configuration

open MobileUnlock.Lib MobileUnlock.Lib.Win32

/-- The `DWORD` that a save writes for a value. -/
def savedData (config : AppConfig) : SettingsValue → UInt32
  | .wifiPort => config.wifiPort.toUInt32
  | .requireFingerprintForLock => flagValue config.requireFingerprintForLock
  | .enableBleDiscovery => flagValue config.enableBleDiscovery

/-- The `DWORD` that stands for a member after a load has set it from `data`. -/
def loadedData (v : SettingsValue) (data : UInt32) : UInt32 :=
  match v with
  | .wifiPort => data.toUInt16.toUInt32
  | .requireFingerprintForLock | .enableBleDiscovery => flagValue (data != 0)

/-- The members that have no value in the registry are at their defaults. -/
def OthersDefault (config : AppConfig) : Prop :=
  config = {
    wifiPort := config.wifiPort
    requireFingerprintForLock := config.requireFingerprintForLock
    enableBleDiscovery := config.enableBleDiscovery }

instance (config : AppConfig) : Decidable (OthersDefault config) :=
  inferInstanceAs (Decidable (_ = _))

/-- A load gets to the value: the key is opened and the query does not fail. -/
def Reads (acc : SettingsAccess) (v : SettingsValue) : Prop :=
  acc.openKey = ERROR_SUCCESS ∧ acc.queryValue v = ERROR_SUCCESS

instance (acc : SettingsAccess) (v : SettingsValue) : Decidable (Reads acc v) :=
  inferInstanceAs (Decidable (_ ∧ _))

/-- Everything that the load needs is there, whatever was in the key before: the members without
a value are at their defaults, a value that the load gets to was written, and a member whose value
it does not get to is at its default. -/
structure AllStored (saving loading : SettingsAccess) (config : AppConfig) : Prop where
  others : OthersDefault config
  written : ∀ v, Reads loading v → saving.setValue v = ERROR_SUCCESS
  unread : ∀ v, ¬ Reads loading v → savedData {} v = savedData config v

/-! ### Members and values -/

theorem flagValue_inj {a b : Bool} (h : flagValue a = flagValue b) : a = b := by
  cases a <;> cases b <;> first | rfl | cases h

/-- Configurations with the same data for every value are equal, if the other members are at
their defaults. -/
theorem eq_of_savedData {c c' : AppConfig} (hc : OthersDefault c) (hc' : OthersDefault c')
    (h : ∀ v, savedData c v = savedData c' v) : c = c' := by
  have hport : c.wifiPort = c'.wifiPort := by
    have hdata := congrArg UInt32.toUInt16 (h .wifiPort)
    simpa [savedData] using hdata
  have hlock := flagValue_inj (h .requireFingerprintForLock)
  have hble := flagValue_inj (h .enableBleDiscovery)
  rw [hc, hc', hport, hlock, hble]

/-- A member that was saved is loaded as it was. -/
theorem loadedData_savedData (config : AppConfig) (v : SettingsValue) :
    loadedData v (savedData config v) = savedData config v := by
  have hflag : ∀ flag, flagValue (flagValue flag != 0) = flagValue flag := by decide
  cases v with
  | wifiPort =>
    show config.wifiPort.toUInt32.toUInt16.toUInt32 = config.wifiPort.toUInt32
    rw [UInt16.toUInt16_toUInt32]
  | requireFingerprintForLock => exact hflag _
  | enableBleDiscovery => exact hflag _

/-- A value of the key after a write that is made if `ok`. -/
theorem update_ok_apply {β : Type} (ok : Prop) [Decidable ok] (key : SettingsValue → Option β)
    (v w : SettingsValue) (data : β) :
    (if ¬ ok then key else Function.update key v (some data)) w =
      if w = v ∧ ok then some data else key w := by
  by_cases hok : ok
  · rw [if_neg (not_not.mpr hok), Function.update_apply]
    simp [hok]
  · rw [if_pos hok]
    simp [hok]

/-- What a save leaves in the key: its own data where the write succeeds. -/
theorem storeSettings_apply (acc : SettingsAccess) (config : AppConfig) (key : SettingsKey)
    (v : SettingsValue) :
    storeSettings acc config key v =
      if acc.setValue v = ERROR_SUCCESS then some (savedData config v) else key v := by
  cases v <;> simp only [storeSettings, storeSetting, update_ok_apply, savedData] <;> simp

/-- What a load leaves for a value: what it finds, or what was there. -/
theorem savedData_readSettings (acc : SettingsAccess) (key : SettingsKey) (config : AppConfig)
    (v : SettingsValue) :
    savedData (readSettings acc key config) v =
      ((querySetting acc key v).map (loadedData v)).getD (savedData config v) := by
  rw [readSettings_eq]
  cases v with
  | wifiPort => cases querySetting acc key .wifiPort <;> rfl
  | requireFingerprintForLock =>
    cases querySetting acc key .requireFingerprintForLock <;> rfl
  | enableBleDiscovery => cases querySetting acc key .enableBleDiscovery <;> rfl

/-- The other members are never loaded. -/
theorem othersDefault_loadConfiguration (acc : SettingsAccess) (settings : Option SettingsKey) :
    OthersDefault (loadConfiguration acc settings {}).2 := by
  rw [loadConfiguration]
  cases openSettings acc settings with
  | none => rfl
  | some key =>
    dsimp only
    rw [readSettings_eq]
    rfl

/-! ### A load after a save -/

/-- The data that a load finds for a value after a save of `config` over `key`. Without a value
the default stays. -/
def foundData (saving loading : SettingsAccess) (config : AppConfig) (key : SettingsKey)
    (v : SettingsValue) : UInt32 :=
  if Reads loading v then
    if saving.setValue v = ERROR_SUCCESS then savedData config v
    else ((key v).map (loadedData v)).getD (savedData {} v)
  else savedData {} v

/-- The data of a configuration that is loaded after a save. -/
theorem savedData_load_store (saving loading : SettingsAccess) (config : AppConfig)
    (key : SettingsKey) (v : SettingsValue) :
    savedData (loadConfiguration loading (some (storeSettings saving config key)) {}).2 v =
      foundData saving loading config key v := by
  unfold loadConfiguration openSettings foundData Reads
  by_cases hopen : loading.openKey = ERROR_SUCCESS
  · simp only [hopen, ne_eq, not_true_eq_false, if_false, true_and]
    rw [savedData_readSettings, querySetting, storeSettings_apply]
    by_cases hquery : loading.queryValue v = ERROR_SUCCESS
    · rw [if_neg (not_not.mpr hquery), if_pos hquery]
      by_cases hset : saving.setValue v = ERROR_SUCCESS
      · rw [if_pos hset, if_pos hset, Option.map_some, Option.getD_some, loadedData_savedData]
      · rw [if_neg hset, if_neg hset]
    · rw [if_pos hquery, if_neg hquery]
      rfl
  · simp only [hopen, ne_eq, not_false_eq_true, if_true, false_and, if_false]

/-- A load gives back what was saved if and only if the other members are at their defaults and
the load finds the saved data. -/
theorem load_store_eq_iff (saving loading : SettingsAccess) (config : AppConfig)
    (key : SettingsKey) :
    (loadConfiguration loading (some (storeSettings saving config key)) {}).2 = config ↔
      OthersDefault config ∧ ∀ v, foundData saving loading config key v = savedData config v := by
  constructor
  · intro h
    -- what was loaded has the other defaults, and it is `config`
    have hothers := othersDefault_loadConfiguration loading (some (storeSettings saving config key))
    rw [h] at hothers
    refine ⟨hothers, fun v => ?_⟩
    rw [← savedData_load_store, h]
  · rintro ⟨hothers, hfound⟩
    refine eq_of_savedData (othersDefault_loadConfiguration _ _) hothers fun v => ?_
    rw [savedData_load_store, hfound]

/-! ### Values of any data -/

namespace Raw

/-- Four bytes replace the whole variable. -/
theorem overwrite_dwordBytes (old data : UInt32) : overwrite old (dwordBytes data) = data := by
  have hlen : ∀ d, (dwordBytes d).length = 4 := fun d => length_bytesLE 4 d.toNat
  have hrest : (dwordBytes old).drop (dwordBytes data).length = [] :=
    List.drop_eq_nil_of_le (by rw [hlen, hlen])
  have hdata := data.toNat_lt
  rw [overwrite, hrest, List.append_nil, dwordBytes, natOfLE_bytesLE,
    show 256 ^ 4 = 2 ^ 32 from rfl, Nat.mod_eq_of_lt hdata, UInt32.ofNat_toNat]

/-- A load takes the bytes in `key` for the `DWORD`s in `dwords`. -/
def ReadsAs (acc : Access) (key : SettingsKey) (dwords : Configuration.SettingsKey) : Prop :=
  ∀ v, acc.queryValue v = ERROR_SUCCESS → key v = (dwords v).map dwordBytes

/-- One query of a value that is a `DWORD`. The buffer size stays what it is. -/
theorem queryMember_eq {acc : Access} {key : SettingsKey} {dwords : Configuration.SettingsKey}
    (h : ReadsAs acc key dwords) (v : SettingsValue) {buffer : QueryBuffer}
    (hsize : buffer.cbData = 4) (config : AppConfig) :
    ∃ buffer', buffer'.cbData = 4 ∧ queryMember acc key v (buffer, config) =
      some (buffer', ((querySetting acc.toSettingsAccess dwords v).map
        (setMember v · config)).getD config) := by
  unfold queryMember regQueryValueEx querySetting
  by_cases hquery : acc.queryValue v = ERROR_SUCCESS
  · rw [if_neg (not_not.mpr hquery), if_neg (not_not.mpr hquery), h v hquery]
    cases dwords v with
    | none => exact ⟨buffer, hsize, rfl⟩
    | some data =>
      -- four bytes fit, and `cbData` is four again
      have hlen : (dwordBytes data).length = 4 := length_bytesLE 4 data.toNat
      simp only [Option.map_some, hlen, hsize, gt_iff_lt, Nat.lt_irrefl, if_false,
        overwrite_dwordBytes]
      exact ⟨_, rfl, rfl⟩
  · rw [if_pos hquery, if_pos hquery]
    refine ⟨buffer, hsize, ?_⟩
    simp [hquery]

/-- The three queries, one after the other from a buffer of four bytes. -/
theorem readSettings_eq {acc : Access} {key : SettingsKey} {dwords : Configuration.SettingsKey}
    (h : ReadsAs acc key dwords) (config : AppConfig) :
    readSettings acc key config =
      some (Configuration.readSettings acc.toSettingsAccess dwords config) := by
  have hsize : QueryBuffer.cbData {} = 4 := rfl
  obtain ⟨b₁, hb₁, h₁⟩ := queryMember_eq h .wifiPort hsize config
  obtain ⟨b₂, hb₂, h₂⟩ := queryMember_eq h .requireFingerprintForLock hb₁ _
  obtain ⟨b₃, hb₃, h₃⟩ := queryMember_eq h .enableBleDiscovery hb₂ _
  rw [readSettings, h₁, Option.bind_some, h₂, Option.bind_some, h₃, Option.map_some,
    Configuration.readSettings]
  cases querySetting acc.toSettingsAccess dwords .wifiPort <;>
    cases querySetting acc.toSettingsAccess dwords .requireFingerprintForLock <;>
    cases querySetting acc.toSettingsAccess dwords .enableBleDiscovery <;>
    rfl

/-- Over a key with `DWORD`s a load is the one of the model without buffers. -/
theorem loadConfiguration_eq {acc : Access} {key : SettingsKey}
    {dwords : Configuration.SettingsKey}
    (h : acc.openKey = ERROR_SUCCESS → ReadsAs acc key dwords) (config : AppConfig) :
    loadConfiguration acc (some key) config =
      some (Configuration.loadConfiguration acc.toSettingsAccess (some dwords) config) := by
  unfold loadConfiguration Configuration.loadConfiguration openSettings
  by_cases hopen : acc.openKey = ERROR_SUCCESS
  · simp only [hopen, ne_eq, not_true_eq_false, if_false]
    rw [readSettings_eq (h hopen) config]
    rfl
  · simp only [hopen, ne_eq, not_false_eq_true, if_true]

theorem storeSettings_apply (acc : SettingsAccess) (config : AppConfig) (key : SettingsKey)
    (v : SettingsValue) :
    storeSettings acc config key v =
      if acc.setValue v = ERROR_SUCCESS then some (dwordBytes (savedData config v))
      else key v := by
  cases v <;> simp only [storeSettings, storeSetting, update_ok_apply, savedData] <;> simp

/-- The configuration comes back: if the save returns true, a manager that is constructed
afterwards has it. -/
def ComesBack (saving : SettingsAccess) (loading : Access) (w : World) (config : AppConfig) :
    Prop :=
  (saveConfiguration saving w config).1 = true →
    constructed loading (saveConfiguration saving w config).2.settings = some config

/-- A valid configuration is saved as soon as the key is there. -/
theorem comesBack_iff (saving : SettingsAccess) (loading : Access) (w : World)
    {config : AppConfig} (hvalid : validateConfiguration config = true) :
    ComesBack saving loading w config ↔ (saving.createKey = ERROR_SUCCESS →
      constructed loading (some (storeSettings saving config (w.settings.getD fun _ => none)))
        = some config) := by
  unfold ComesBack saveConfiguration
  rw [if_neg (not_not.mpr hvalid)]
  by_cases hcreate : saving.createKey = ERROR_SUCCESS
  · rw [if_neg (not_not.mpr hcreate)]
    simp [hcreate]
  · rw [if_pos hcreate]
    simp [hcreate]

/-- The bytes of a key with `DWORD`s. -/
def ofDwords (dwords : Configuration.SettingsKey) : SettingsKey :=
  fun v => (dwords v).map dwordBytes

/-- Over `DWORD`s, what a save leaves is read as what the save without buffers leaves. -/
theorem readsAs_storeSettings (saving : SettingsAccess) (loading : Access) (config : AppConfig)
    (settings : Option Configuration.SettingsKey) :
    ReadsAs loading (storeSettings saving config ((settings.map ofDwords).getD fun _ => none))
      (Configuration.storeSettings saving config (settings.getD fun _ => none)) := by
  intro v _
  rw [storeSettings_apply, Configuration.storeSettings_apply]
  by_cases hset : saving.setValue v = ERROR_SUCCESS
  · rw [if_pos hset, if_pos hset]
    rfl
  · rw [if_neg hset, if_neg hset]
    cases settings <;> rfl

theorem constructed_eq {acc : Access} {key : SettingsKey} {dwords : Configuration.SettingsKey}
    (h : acc.openKey = ERROR_SUCCESS → ReadsAs acc key dwords) (config : AppConfig) :
    constructed acc (some key) = some config ↔
      (Configuration.loadConfiguration acc.toSettingsAccess (some dwords) {}).2 = config := by
  rw [constructed, loadConfiguration_eq h, Option.map_some, Option.some.injEq]

/-- Over `DWORD`s. -/
theorem comesBack_dwords_iff (saving : SettingsAccess) (loading : Access)
    {config : AppConfig} (hvalid : validateConfiguration config = true)
    (settings : Option Configuration.SettingsKey) (old : AppConfig) :
    ComesBack saving loading ⟨settings.map ofDwords, old⟩ config ↔
      (saving.createKey = ERROR_SUCCESS → OthersDefault config ∧
        ∀ v, foundData saving loading.toSettingsAccess config (settings.getD fun _ => none) v
          = savedData config v) := by
  have hreads := readsAs_storeSettings saving loading config settings
  rw [comesBack_iff saving loading _ hvalid, constructed_eq fun _ => hreads, load_store_eq_iff]

/-- If every value that is read was written, the content before the save does not matter. -/
theorem comesBack_of_allStored {saving : SettingsAccess} {loading : Access} {config : AppConfig}
    (hvalid : validateConfiguration config = true)
    (h : saving.createKey = ERROR_SUCCESS → AllStored saving loading.toSettingsAccess config)
    (w : World) : ComesBack saving loading w config := by
  rw [comesBack_iff saving loading w hvalid]
  intro hcreate
  obtain ⟨hothers, hwritten, hunread⟩ := h hcreate
  -- The load cannot tell the key from one where all writes have succeeded.
  have hreads : loading.openKey = ERROR_SUCCESS →
      ReadsAs loading (storeSettings saving config (w.settings.getD fun _ => none))
        (Configuration.storeSettings {} config fun _ => none) := by
    intro hopen v hquery
    rw [storeSettings_apply, Configuration.storeSettings_apply,
      if_pos (hwritten v ⟨hopen, hquery⟩), if_pos rfl]
    rfl
  rw [constructed_eq hreads, load_store_eq_iff]
  refine ⟨hothers, fun v => ?_⟩
  unfold foundData
  by_cases hread : Reads loading.toSettingsAccess v
  · rw [if_pos hread, if_pos rfl]
  · rw [if_neg hread, hunread v hread]

end Raw

/-- A configuration that differs at every value. -/
def AppConfig.opposite (config : AppConfig) : AppConfig where
  wifiPort := 0
  requireFingerprintForLock := !config.requireFingerprintForLock
  enableBleDiscovery := !config.enableBleDiscovery

theorem savedData_opposite_ne {config : AppConfig} (hvalid : validateConfiguration config = true)
    (v : SettingsValue) : savedData config.opposite v ≠ savedData config v := by
  intro h
  cases v with
  | wifiPort =>
    have hport : config.wifiPort = 0 := by
      have hdata := congrArg UInt32.toUInt16 h
      simpa [savedData, AppConfig.opposite] using hdata.symm
    exact ((validateConfiguration_iff config).mp hvalid).1 hport
  | requireFingerprintForLock =>
    exact absurd (flagValue_inj h) (Bool.not_ne_self _)
  | enableBleDiscovery => exact absurd (flagValue_inj h) (Bool.not_ne_self _)

/-- If the data before the save can be anything, every value that is read must have been
written. -/
theorem allStored_of_foundData {saving loading : SettingsAccess} {config : AppConfig}
    (hvalid : validateConfiguration config = true) (hothers : OthersDefault config)
    (hfound : ∀ v, foundData saving loading config
      (fun v => some (savedData config.opposite v)) v = savedData config v) :
    AllStored saving loading config := by
  refine ⟨hothers, fun v hread => ?_, fun v hread => ?_⟩
  · have hv := hfound v
    rw [foundData, if_pos hread] at hv
    by_contra hset
    rw [if_neg hset, Option.map_some, Option.getD_some, loadedData_savedData] at hv
    exact savedData_opposite_ne hvalid v hv
  · have hv := hfound v
    rwa [foundData, if_neg hread] at hv

/-- **A saved configuration comes back from every content of the key if and only if all of it is
stored.** Over a given content of `DWORD`s, it comes back if and only if the load finds its data
and the other members are at their defaults. -/
theorem savedSettings_comeBack_iff (saving : SettingsAccess) (loading : Raw.Access)
    (config : AppConfig) (hvalid : validateConfiguration config = true) :
    ((∀ w, Raw.ComesBack saving loading w config) ↔
      (saving.createKey = ERROR_SUCCESS →
        AllStored saving loading.toSettingsAccess config)) ∧
    ∀ (settings : Option SettingsKey) (old : AppConfig),
      Raw.ComesBack saving loading ⟨settings.map Raw.ofDwords, old⟩ config ↔
        (saving.createKey = ERROR_SUCCESS → OthersDefault config ∧
          ∀ v, foundData saving loading.toSettingsAccess config (settings.getD fun _ => none) v
            = savedData config v) := by
  refine ⟨⟨?_, Raw.comesBack_of_allStored hvalid⟩, Raw.comesBack_dwords_iff saving loading hvalid⟩
  intro h hcreate
  -- over a key where every value is another one
  obtain ⟨hothers, hfound⟩ := (Raw.comesBack_dwords_iff saving loading hvalid
    (some fun v => some (savedData config.opposite v)) {}).mp (h _) hcreate
  exact allStored_of_foundData hvalid hothers hfound

/-- A configuration with another wi-fi port comes back from every content of the key, when no
call fails. -/
theorem savedSettings_comeBack_port :
    validateConfiguration { wifiPort := 9000 } = true ∧
      ∀ w, Raw.ComesBack {} {} w { wifiPort := 9000 } := by
  have hvalid : validateConfiguration { wifiPort := 9000 } = true := by decide
  refine ⟨hvalid, (savedSettings_comeBack_iff {} {} _ hvalid).1.mpr fun _ => ?_⟩
  refine ⟨by decide, fun _ _ => rfl, fun v hread => ?_⟩
  exact absurd ⟨rfl, rfl⟩ hread

/-- Another mDNS port is lost, although no call fails. A wi-fi port is lost as well when its write
is denied, and the save still returns true. -/
theorem savedSettings_lost :
    ¬ Raw.ComesBack {} {} { settings := none } { mdnsPort := 5354 } ∧
    ¬ Raw.ComesBack { setValue := fun _ => ERROR_ACCESS_DENIED } {} { settings := none }
      { wifiPort := 9000 } := by
  constructor
  · intro h
    have hback := h (by decide)
    revert hback
    decide
  · intro h
    have hback := h (by decide)
    revert hback
    decide

end MobileUnlock.Configuration
