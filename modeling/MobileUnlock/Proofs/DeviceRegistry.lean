import MobileUnlock.Pairing.DeviceRegistry
import MobileUnlock.Proofs.DeviceIdentity

/-!
# `MobileUnlock.Proofs.DeviceRegistry`: what the registry operations change

Every operation changes the device store at one key at most, and `ChangedAt` says so. The
`_cases` theorems are the exact results of the operations.

`KeyActive` is the state of a key that makes a device active: a reader that finds the status
1 finds it in the store (`keyActive_of_isDeviceActive`), and a reader without faults finds it
exactly then (`isDeviceActive_ok`).

The last section gives `countActiveDevicesForAccount` without faults as a count over the keys
of the store, and bounds what a change at one key does to it.
-/

set_option autoImplicit false

namespace MobileUnlock.Pairing

open MobileUnlock.Lib MobileUnlock.Lib.Win32

/-! ### Keys of device ids -/

/-- The digits of a byte are lower case and not NUL. -/
theorem lower_of_mem_hexByte {b c : UInt8} (h : c ∈ hexByte b) : c ≠ 0 ∧ toLower c = c := by
  have hall : ∀ b : UInt8, (hexByte b).all (fun c => c != 0 && toLower c == c) = true :=
    forall_byte (by decide +kernel)
  have hc := List.all_eq_true.mp (hall b) c h
  simpa using hc

theorem lower_of_mem_hexBytes {bs : Bytes} {c : UInt8} (h : c ∈ hexBytes bs) :
    c ≠ 0 ∧ toLower c = c := by
  obtain ⟨b, -, hc⟩ := List.mem_flatMap.mp h
  exact lower_of_mem_hexByte hc

/-- The text of an id is lower case and has no NUL. -/
theorem lower_of_mem_deviceIdToString {id : DeviceId} {c : UInt8}
    (h : c ∈ deviceIdToString id) : c ≠ 0 ∧ toLower c = c := by
  have hdash : ∀ c ∈ [dash], c ≠ 0 ∧ toLower c = c := by
    intro c hc
    rw [List.mem_singleton.mp hc]
    exact ⟨by decide, rfl⟩
  simp only [deviceIdToString, List.mem_append] at h
  rcases h with (((((((h | h) | h) | h) | h) | h) | h) | h) | h
  all_goals first | exact lower_of_mem_hexBytes h | exact hdash c h

/-- The text of an id is its own key name. -/
theorem keyNameText_deviceIdToString (id : DeviceId) :
    keyNameText (deviceIdToString id) = deviceIdToString id := by
  have hnul : (deviceIdToString id).takeWhile (· ≠ 0) = deviceIdToString id := by
    apply List.takeWhile_eq_self_iff.mpr
    intro c hc
    simpa using (lower_of_mem_deviceIdToString hc).1
  have hlower : (deviceIdToString id).map toLower = (deviceIdToString id).map fun c => c := by
    apply List.map_congr_left
    intro c hc
    exact (lower_of_mem_deviceIdToString hc).2
  rw [keyNameText, hnul, hlower, List.map_id']

theorem deviceKey_text (s : Bytes) : (deviceKey s).text = keyNameText s := rfl

/-- Different ids have different keys. -/
theorem deviceKey_inj {a b : DeviceId} :
    deviceKey (deviceIdToString a) = deviceKey (deviceIdToString b) ↔ a = b := by
  constructor
  · intro h
    have hval := congrArg KeyName.text h
    rw [deviceKey_text, deviceKey_text, keyNameText_deviceIdToString,
      keyNameText_deviceIdToString] at hval
    exact deviceIdToString_injective hval
  · rintro rfl
    rfl

/-- The case of a text does not matter to its key name. -/
theorem keyNameText_map_toLower (s : Bytes) : keyNameText (s.map toLower) = keyNameText s := by
  have hcut : ((fun c : UInt8 => decide (c ≠ 0)) ∘ toLower) = fun c => decide (c ≠ 0) := by
    funext c
    simp only [Function.comp, ne_eq, toLower_eq_zero_iff]
  unfold keyNameText
  rw [List.takeWhile_map, hcut, List.map_map]
  apply List.map_congr_left
  intro c _
  exact toLower_toLower c

/-- A well-formed text and the id parsed from it address the same key. -/
theorem WellFormedUuid.deviceKey_eq {s : Bytes} (hs : WellFormedUuid s) (outId : DeviceId) :
    deviceKey (deviceIdToString (deviceIdFromString s outId).2) = deviceKey s := by
  apply KeyName.ext
  rw [deviceKey_text, deviceKey_text, (deviceIdToString_deviceIdFromString hs outId).2,
    keyNameText_map_toLower]

/-! ### The operations -/

@[simp] theorem Registry.store_withStore (reg : Registry) (st : KeyStore DeviceValue) :
    (reg.withStore st).store = st := by
  simp [Registry.store, Registry.withStore]

/-- From `reg` to `reg'` the root in force is the same, and at most the key `name` has
changed in its store. -/
def ChangedAt (name : KeyName) (reg reg' : Registry) : Prop :=
  reg'.root = reg.root ∧ ∀ k, k ≠ name → reg'.store.lookup k = reg.store.lookup k

theorem ChangedAt.refl (name : KeyName) (reg : Registry) : ChangedAt name reg reg :=
  ⟨rfl, fun _ _ => rfl⟩

theorem changedAt_insert (name : KeyName) (reg : Registry) (vals : KeyValues DeviceValue) :
    ChangedAt name reg (reg.withStore (reg.store.insert name vals)) := by
  refine ⟨rfl, ?_⟩
  intro k hk
  rw [Registry.store_withStore, AList.lookup_insert_ne hk]

theorem changedAt_erase (name : KeyName) (reg : Registry) :
    ChangedAt name reg (reg.withStore (reg.store.erase name)) := by
  refine ⟨rfl, ?_⟩
  intro k hk
  rw [Registry.store_withStore, AList.lookup_erase_ne hk]

/-- Setting a value either fails and changes nothing, or sets it at an existing key. -/
theorem setDeviceValue_cases (acc : Access) (reg : Registry) (s : Bytes) (v : DeviceValue)
    (data : Bytes) :
    (∃ err, err ≠ ERROR_SUCCESS ∧ setDeviceValue acc reg s v data = (err, reg)) ∨
    ∃ vals, reg.store.lookup (deviceKey s) = some vals ∧
      setDeviceValue acc reg s v data = (ERROR_SUCCESS, reg.withStore
        (reg.store.insert (deviceKey s) (Function.update vals v (some data)))) := by
  unfold setDeviceValue regOpenKey
  by_cases hopen : acc.openKey (deviceKey s) ≠ ERROR_SUCCESS
  · simp only [if_pos hopen]
    exact Or.inl ⟨_, hopen, rfl⟩
  · simp only [if_neg hopen]
    cases hl : reg.store.lookup (deviceKey s) with
    | none => exact Or.inl ⟨ERROR_FILE_NOT_FOUND, by decide, rfl⟩
    | some vals =>
      dsimp only [regSetValue]
      by_cases hset : acc.setValue (deviceKey s) v ≠ ERROR_SUCCESS
      · simp only [if_pos hset]
        exact Or.inl ⟨_, hset, rfl⟩
      · simp only [if_neg hset]
        exact Or.inr ⟨vals, rfl, rfl⟩

theorem setDeviceValue_changedAt (acc : Access) (reg : Registry) (s : Bytes) (v : DeviceValue)
    (data : Bytes) : ChangedAt (deviceKey s) reg (setDeviceValue acc reg s v data).2 := by
  obtain ⟨err, -, hsame⟩ | ⟨vals, -, hset⟩ := setDeviceValue_cases acc reg s v data
  · rw [hsame]
    exact ChangedAt.refl _ _
  · rw [hset]
    exact changedAt_insert _ _ _

/-- Deleting either fails and changes nothing, or removes an existing key. -/
theorem deleteDeviceRecord_cases (acc : Access) (reg : Registry) (s : Bytes) :
    (∃ err, err ≠ ERROR_SUCCESS ∧ deleteDeviceRecord acc reg s = (err, reg)) ∨
    deleteDeviceRecord acc reg s
      = (ERROR_SUCCESS, reg.withStore (reg.store.erase (deviceKey s))) := by
  unfold deleteDeviceRecord regDeleteKey
  by_cases hdel : acc.deleteKey (deviceKey s) ≠ ERROR_SUCCESS
  · simp only [if_pos hdel]
    exact Or.inl ⟨_, hdel, rfl⟩
  · simp only [if_neg hdel]
    by_cases hmem : deviceKey s ∈ reg.store
    · simp only [if_pos hmem]
      exact Or.inr rfl
    · simp only [if_neg hmem]
      exact Or.inl ⟨ERROR_FILE_NOT_FOUND, by decide, rfl⟩

theorem deleteDeviceRecord_changedAt (acc : Access) (reg : Registry) (s : Bytes) :
    ChangedAt (deviceKey s) reg (deleteDeviceRecord acc reg s).2 := by
  obtain ⟨err, -, hsame⟩ | hdel := deleteDeviceRecord_cases acc reg s
  · rw [hsame]
    exact ChangedAt.refl _ _
  · rw [hdel]
    exact changedAt_erase _ _

/-- The root stays, unless it is `HKLM` and the first call is denied access. -/
theorem ensureRoot_cases (acc : Access) (reg : Registry) :
    (ensureRoot acc reg).2 = reg ∨
      (reg.root = .HKEY_LOCAL_MACHINE ∧ acc.createRoot .HKEY_LOCAL_MACHINE = ERROR_ACCESS_DENIED ∧
        (ensureRoot acc reg).2 = { reg with root := .HKEY_CURRENT_USER }) := by
  unfold ensureRoot
  by_cases hdenied : acc.createRoot reg.root = ERROR_ACCESS_DENIED ∧ reg.root = .HKEY_LOCAL_MACHINE
  · rw [if_pos hdenied]
    refine Or.inr ⟨hdenied.2, ?_, rfl⟩
    rw [← hdenied.2]
    exact hdenied.1
  · rw [if_neg hdenied]
    exact Or.inl rfl

/-- Writing a record either fails, where the root may have moved, or writes the values at the
key of the device. -/
theorem writeDeviceRecord_cases (acc : Access) (reg : Registry) (record : DeviceRecord) :
    (∃ err, err ≠ ERROR_SUCCESS ∧
      writeDeviceRecord acc reg record = (err, (ensureRoot acc reg).2)) ∨
    ∃ vals, writeDeviceRecord acc reg record = (ERROR_SUCCESS, (ensureRoot acc reg).2.withStore
      ((ensureRoot acc reg).2.store.insert (deviceKey (deviceIdToString record.deviceId))
        (storeRecord acc (deviceKey (deviceIdToString record.deviceId)) record vals))) := by
  unfold writeDeviceRecord
  by_cases hroot : (ensureRoot acc reg).1 ≠ ERROR_SUCCESS
  · simp only [if_pos hroot]
    exact Or.inl ⟨_, hroot, rfl⟩
  · simp only [if_neg hroot]
    by_cases hkey : acc.createKey (deviceKey (deviceIdToString record.deviceId)) ≠ ERROR_SUCCESS
    · simp only [if_pos hkey]
      exact Or.inl ⟨_, hkey, rfl⟩
    · simp only [if_neg hkey]
      exact Or.inr ⟨_, rfl⟩

theorem writeDeviceRecord_changedAt (acc : Access) (reg : Registry) (record : DeviceRecord) :
    ChangedAt (deviceKey (deviceIdToString record.deviceId)) (ensureRoot acc reg).2
      (writeDeviceRecord acc reg record).2 := by
  obtain ⟨err, -, hsame⟩ | ⟨vals, hwrite⟩ := writeDeviceRecord_cases acc reg record
  · rw [hsame]
    exact ChangedAt.refl _ _
  · rw [hwrite]
    exact changedAt_insert _ _ _

/-! ### The six values of a record -/

/-- The data that a record has for a value. -/
def recordData (record : DeviceRecord) : DeviceValue → Bytes
  | .pairStatus => bytesLE 4 record.pairStatus.toNat
  | .deviceName => wideString record.deviceName
  | .accountSid => wideString record.accountSid
  | .publicKey => record.publicKey
  | .pairedTime => bytesLE 8 record.pairedTime.toU64.toNat
  | .lastSeen => bytesLE 8 record.lastSeen.toU64.toNat

/-- Only the public key can be empty. -/
theorem recordData_ne_nil {record : DeviceRecord} {v : DeviceValue} (h : v ≠ .publicKey) :
    recordData record v ≠ [] := by
  intro hnil
  have hlength := congrArg List.length hnil
  cases v with
  | publicKey => exact h rfl
  | pairStatus | deviceName | accountSid | pairedTime | lastSeen => simp [recordData] at hlength

theorem storeValue_apply (acc : Access) (name : KeyName) (v w : DeviceValue) (data : Bytes)
    (vals : KeyValues DeviceValue) :
    storeValue acc name v data vals w
      = if w = v ∧ acc.setValue name v = ERROR_SUCCESS then some data else vals w := by
  unfold storeValue regSetValue
  by_cases hset : acc.setValue name v = ERROR_SUCCESS
  · rw [if_neg (not_not.mpr hset)]
    simp [Function.update_apply, hset]
  · rw [if_pos hset]
    simp [hset]

/-- A value afterwards: the record's when there is something to write and the call succeeds. -/
theorem storeRecord_apply (acc : Access) (name : KeyName) (record : DeviceRecord)
    (vals : KeyValues DeviceValue) (v : DeviceValue) :
    storeRecord acc name record vals v
      = if recordData record v ≠ [] ∧ acc.setValue name v = ERROR_SUCCESS
          then some (recordData record v) else vals v := by
  by_cases hv : v = .publicKey
  · subst hv
    by_cases hkey : record.publicKey = []
    · simp [storeRecord, storeValue_apply, recordData, hkey]
    · simp [storeRecord, storeValue_apply, recordData, hkey]
  · have hdata := @recordData_ne_nil record v hv
    -- The write of the public key, made or not, does not touch the others.
    by_cases hkey : record.publicKey = []
    · cases v <;> simp_all [storeRecord, storeValue_apply, recordData]
    · cases v <;> simp_all [storeRecord, storeValue_apply, recordData]

/-! ### Active keys -/

/-- The status a reader without faults finds among the values of a key. -/
def storedStatus (vals : KeyValues DeviceValue) : UInt32 :=
  match vals .pairStatus with
  | some data => if data.length ≤ 4 then UInt32.ofNat (natOfLE data) else kStatusRevoked
  | none => kStatusRevoked

/-- The key exists in the store in force, and its status is active. -/
def KeyActive (reg : Registry) (name : KeyName) : Prop :=
  ∃ vals, reg.store.lookup name = some vals ∧ storedStatus vals = kStatusActive

/-- What a reader finds is the stored status, or a revocation when the value cannot be
read. -/
theorem readPairStatus_cases (acc : Access) (name : KeyName) (vals : KeyValues DeviceValue) :
    readPairStatus acc name vals = storedStatus vals ∨
      (acc.queryValue name .pairStatus ≠ ERROR_SUCCESS ∧
        readPairStatus acc name vals = kStatusRevoked) := by
  unfold readPairStatus regQueryValue storedStatus
  by_cases hquery : acc.queryValue name .pairStatus ≠ ERROR_SUCCESS
  · simp only [if_pos hquery]
    exact Or.inr ⟨hquery, trivial⟩
  · simp only [if_neg hquery]
    left
    cases vals .pairStatus with
    | none => rfl
    | some data =>
      dsimp only
      by_cases hlen : data.length ≤ 4
      · rw [if_pos hlen, if_pos hlen]
      · rw [if_neg hlen, if_neg hlen]

/-- A record is read with the values of its key. -/
theorem readDeviceRecord_success {acc : Access} {reg : Registry} {s : Bytes}
    {out : DeviceRecord} (h : (readDeviceRecord acc reg s out).1 = ERROR_SUCCESS) :
    ∃ vals, reg.store.lookup (deviceKey s) = some vals ∧
      (readDeviceRecord acc reg s out).2.pairStatus = readPairStatus acc (deviceKey s) vals := by
  unfold readDeviceRecord regOpenKey at h ⊢
  by_cases hopen : acc.openKey (deviceKey s) ≠ ERROR_SUCCESS
  · simp only [if_pos hopen] at h
    exact absurd h hopen
  · simp only [if_neg hopen] at h ⊢
    cases hl : reg.store.lookup (deviceKey s) with
    | none =>
      rw [hl] at h
      have h2 : ERROR_FILE_NOT_FOUND = ERROR_SUCCESS := h
      exact absurd h2 (by decide)
    | some vals => exact ⟨vals, rfl, rfl⟩

/-- A record is read only behind an open that succeeds. -/
theorem openKey_of_readDeviceRecord {acc : Access} {reg : Registry} {s : Bytes}
    {out : DeviceRecord} (h : (readDeviceRecord acc reg s out).1 = ERROR_SUCCESS) :
    acc.openKey (deviceKey s) = ERROR_SUCCESS := by
  by_contra hne
  rw [readDeviceRecord, regOpenKey, if_pos hne] at h
  exact hne h

/-- A record read as active comes from an active key, whatever the faults. -/
theorem keyActive_of_readDeviceRecord {acc : Access} {reg : Registry} {s : Bytes}
    {out : DeviceRecord} (herr : (readDeviceRecord acc reg s out).1 = ERROR_SUCCESS)
    (hstatus : (readDeviceRecord acc reg s out).2.pairStatus = kStatusActive) :
    KeyActive reg (deviceKey s) := by
  obtain ⟨vals, hl, hread⟩ := readDeviceRecord_success herr
  rw [hread] at hstatus
  obtain hsame | ⟨-, hrevoked⟩ := readPairStatus_cases acc (deviceKey s) vals
  · exact ⟨vals, hl, hsame.symm.trans hstatus⟩
  · rw [hrevoked] at hstatus
    exact absurd hstatus (by decide)

theorem isDeviceActive_iff {acc : Access} {reg : Registry} {s : Bytes} :
    isDeviceActive acc reg s = true ↔ (readDeviceRecord acc reg s {}).1 = ERROR_SUCCESS ∧
      (readDeviceRecord acc reg s {}).2.pairStatus = kStatusActive := by
  unfold isDeviceActive
  by_cases herr : (readDeviceRecord acc reg s {}).1 = ERROR_SUCCESS
  · simp [herr]
  · simp [herr]

theorem keyActive_of_isDeviceActive {acc : Access} {reg : Registry} {s : Bytes}
    (h : isDeviceActive acc reg s = true) : KeyActive reg (deviceKey s) := by
  obtain ⟨herr, hstatus⟩ := isDeviceActive_iff.mp h
  exact keyActive_of_readDeviceRecord herr hstatus

/-- A reader that can open the key and read the status finds an active key active. -/
theorem isDeviceActive_of_keyActive {acc : Access} {reg : Registry} {s : Bytes}
    (hopen : acc.openKey (deviceKey s) = ERROR_SUCCESS)
    (hquery : acc.queryValue (deviceKey s) .pairStatus = ERROR_SUCCESS)
    (h : KeyActive reg (deviceKey s)) : isDeviceActive acc reg s = true := by
  obtain ⟨vals, hl, hstatus⟩ := h
  have hread : readPairStatus acc (deviceKey s) vals = kStatusActive := by
    obtain hsame | ⟨hfault, -⟩ := readPairStatus_cases acc (deviceKey s) vals
    · rw [hsame, hstatus]
    · exact absurd hquery hfault
  rw [isDeviceActive_iff]
  simp only [readDeviceRecord, regOpenKey, hopen, hl, ne_eq, not_true_eq_false, if_false, hread,
    and_self]

/-- Without faults a device is active exactly when its key is. -/
theorem isDeviceActive_ok {reg : Registry} {s : Bytes} :
    isDeviceActive RegAccess.ok reg s = true ↔ KeyActive reg (deviceKey s) :=
  ⟨keyActive_of_isDeviceActive, isDeviceActive_of_keyActive rfl rfl⟩

/-- Whether a key is active depends on its values only. -/
theorem keyActive_congr {reg reg' : Registry} {name : KeyName}
    (h : reg'.store.lookup name = reg.store.lookup name) :
    KeyActive reg' name ↔ KeyActive reg name := by
  unfold KeyActive
  rw [h]

/-- A change at another key leaves a key as active as it was. -/
theorem ChangedAt.keyActive_iff {name k : KeyName} {reg reg' : Registry}
    (h : ChangedAt name reg reg') (hk : k ≠ name) : KeyActive reg' k ↔ KeyActive reg k :=
  keyActive_congr (h.2 k hk)

/-- Setting a status that is not active makes the key inactive. -/
theorem setDeviceStatus_not_keyActive {acc : Access} {reg : Registry} {s : Bytes}
    {status : UInt32} (hstatus : status ≠ kStatusActive)
    (h : (setDeviceStatus acc reg s status).1 = ERROR_SUCCESS) :
    ¬ KeyActive (setDeviceStatus acc reg s status).2 (deviceKey s) := by
  unfold setDeviceStatus at h ⊢
  obtain ⟨err, herr, hsame⟩ | ⟨vals, -, hset⟩ :=
    setDeviceValue_cases acc reg s .pairStatus (bytesLE 4 status.toNat)
  · rw [hsame] at h
    exact absurd h herr
  · rw [hset]
    rintro ⟨vals', hl, hactive⟩
    rw [Registry.store_withStore, AList.lookup_insert] at hl
    cases hl
    simp only [storedStatus, Function.update_self, length_bytesLE, le_refl, if_true,
      ofNat_natOfLE_bytesLE_32] at hactive
    exact hstatus hactive

/-- Setting another value makes no key active. -/
theorem keyActive_of_setDeviceValue {acc : Access} {reg : Registry} {s : Bytes} {v : DeviceValue}
    {data : Bytes} {name : KeyName} (hv : v ≠ .pairStatus)
    (h : KeyActive (setDeviceValue acc reg s v data).2 name) : KeyActive reg name := by
  by_cases hname : name = deviceKey s
  · subst hname
    obtain ⟨err, -, hsame⟩ | ⟨vals, hl, hset⟩ := setDeviceValue_cases acc reg s v data
    · rwa [hsame] at h
    · rw [hset] at h
      obtain ⟨vals', hl', hactive⟩ := h
      rw [Registry.store_withStore, AList.lookup_insert] at hl'
      cases hl'
      refine ⟨vals, hl, ?_⟩
      rw [storedStatus, Function.update_of_ne (Ne.symm hv)] at hactive
      exact hactive
  · exact ((setDeviceValue_changedAt acc reg s v data).keyActive_iff hname).mp h

/-- A deleted key is not active. -/
theorem deleteDeviceRecord_not_keyActive {acc : Access} {reg : Registry} {s : Bytes}
    (h : (deleteDeviceRecord acc reg s).1 = ERROR_SUCCESS) :
    ¬ KeyActive (deleteDeviceRecord acc reg s).2 (deviceKey s) := by
  obtain ⟨err, herr, hsame⟩ | hdel := deleteDeviceRecord_cases acc reg s
  · rw [hsame] at h
    exact absurd h herr
  · rw [hdel]
    rintro ⟨vals, hl, -⟩
    rw [Registry.store_withStore, AList.lookup_erase] at hl
    cases hl

/-- Deleting makes no key active. -/
theorem keyActive_of_deleteDeviceRecord {acc : Access} {reg : Registry} {s : Bytes}
    {name : KeyName} (h : KeyActive (deleteDeviceRecord acc reg s).2 name) :
    KeyActive reg name := by
  by_cases hname : name = deviceKey s
  · subst hname
    obtain ⟨err, -, hsame⟩ | hdel := deleteDeviceRecord_cases acc reg s
    · rwa [hsame] at h
    · exact absurd h (deleteDeviceRecord_not_keyActive (by rw [hdel]))
  · exact ((deleteDeviceRecord_changedAt acc reg s).keyActive_iff hname).mp h

/-- Setting a status other than active makes no key active. -/
theorem keyActive_of_setDeviceStatus {acc : Access} {reg : Registry} {s : Bytes}
    {status : UInt32} (hstatus : status ≠ kStatusActive) {name : KeyName}
    (h : KeyActive (setDeviceStatus acc reg s status).2 name) : KeyActive reg name := by
  by_cases hname : name = deviceKey s
  · subst hname
    obtain ⟨err, -, hsame⟩ | ⟨vals, -, hset⟩ :=
      setDeviceValue_cases acc reg s .pairStatus (bytesLE 4 status.toNat)
    · rwa [setDeviceStatus, hsame] at h
    · exact absurd h (setDeviceStatus_not_keyActive hstatus (by rw [setDeviceStatus, hset]))
  · exact ((setDeviceValue_changedAt acc reg s _ _).keyActive_iff hname).mp h

/-! ### Enumeration and counting -/

/-- The loop ends when the answers do. -/
theorem enumLoop_isSome {enum : Nat → EnumResult} {last : Nat}
    (hend : ∀ i, last ≤ i → enum i = .noMoreItems) (fuel index : Nat) (ids : List Bytes)
    (hindex : index ≤ last) (hfuel : last < index + fuel) :
    (enumLoop enum fuel index ids).isSome := by
  induction fuel generalizing index ids with
  | zero => omega
  | succ fuel ih =>
    unfold enumLoop
    have hnext : enum index ≠ .noMoreItems → index + 1 ≤ last ∧ last < index + 1 + fuel := by
      intro hne
      have hlt : index < last := Nat.lt_of_not_le fun hle => hne (hend index hle)
      omega
    cases henum : enum index with
    | noMoreItems => rfl
    | success name =>
      obtain ⟨h1, h2⟩ := hnext (by rw [henum]; simp)
      exact ih (index + 1) (ids ++ [name]) h1 h2
    | error code =>
      obtain ⟨h1, h2⟩ := hnext (by rw [henum]; simp)
      exact ih (index + 1) ids h1 h2

/-- The fuel of `enumerateDeviceIds` is enough, whatever the faults. -/
theorem enumerateDeviceIds_isSome (acc : Access) (reg : Registry) :
    (enumLoop (regEnumKey acc reg.store SUBKEY_BUFFER_SIZE)
      (acc.enumKey.length + reg.store.keys.length + 1) 0 []).isSome := by
  refine enumLoop_isSome ?_ _ _ _ (Nat.zero_le (acc.enumKey.length + reg.store.keys.length))
    (by omega)
  intro i hi
  have hfault : acc.enumKey.getD i ERROR_SUCCESS = ERROR_SUCCESS :=
    List.getD_eq_default _ _ (by omega)
  have hkey : reg.store.keys[i]? = none := List.getElem?_eq_none (by omega)
  simp only [regEnumKey, hfault, hkey, ne_eq, not_true_eq_false, if_false]

/-- The name of a key fits into the enumeration buffer. -/
def shortName (name : KeyName) : Bool := name.text.length < SUBKEY_BUFFER_SIZE

/-- The registry without faults has none in its enumeration. -/
theorem enumKey_ok (index : Nat) :
    ¬ (RegAccess.ok : Access).enumKey.getD index ERROR_SUCCESS ≠ ERROR_SUCCESS :=
  not_not.mpr List.getD_nil

/-- Without faults the enumeration ends behind the last key. -/
theorem regEnumKey_ok_end {reg : Registry} {index : Nat}
    (h : reg.store.keys.length ≤ index) :
    regEnumKey RegAccess.ok reg.store SUBKEY_BUFFER_SIZE index = .noMoreItems := by
  unfold regEnumKey
  rw [if_neg (enumKey_ok index), List.getElem?_eq_none h]

/-- Without faults the enumeration answers with the name of the key, if it is short. -/
theorem regEnumKey_ok_key {reg : Registry} {index : Nat} (h : index < reg.store.keys.length) :
    regEnumKey RegAccess.ok reg.store SUBKEY_BUFFER_SIZE index
      = if shortName reg.store.keys[index] then .success reg.store.keys[index].text
        else .error ERROR_MORE_DATA := by
  unfold regEnumKey
  rw [if_neg (enumKey_ok index), List.getElem?_eq_getElem h]
  simp [shortName]

/-- Without faults the loop collects the short names from the index on. -/
theorem enumLoop_ok (reg : Registry) (fuel index : Nat) (ids : List Bytes)
    (hfuel : reg.store.keys.length < index + fuel) (hindex : index ≤ reg.store.keys.length) :
    enumLoop (regEnumKey RegAccess.ok reg.store SUBKEY_BUFFER_SIZE) fuel index ids
      = some (ids ++ ((reg.store.keys.drop index).filter shortName).map KeyName.text) := by
  induction fuel generalizing index ids with
  | zero => omega
  | succ fuel ih =>
    unfold enumLoop
    by_cases hend : index = reg.store.keys.length
    · rw [regEnumKey_ok_end (by omega), List.drop_eq_nil_of_le (by omega)]
      simp
    · have hlt : index < reg.store.keys.length := by omega
      rw [regEnumKey_ok_key hlt, List.drop_eq_getElem_cons hlt]
      by_cases hshort : shortName reg.store.keys[index]
      · rw [if_pos hshort, List.filter_cons_of_pos hshort, List.map_cons]
        dsimp only
        rw [ih (index + 1) _ (by omega) (by omega), List.append_assoc]
        rfl
      · rw [if_neg hshort, List.filter_cons_of_neg hshort]
        exact ih (index + 1) ids (by omega) (by omega)

theorem enumerateDeviceIds_ok (reg : Registry) :
    enumerateDeviceIds RegAccess.ok reg = (reg.store.keys.filter shortName).map KeyName.text := by
  unfold enumerateDeviceIds
  rw [if_neg (by simp [RegAccess.ok]), enumLoop_ok reg _ _ _ (by omega) (by omega),
    Option.getD_some, List.drop_zero, List.nil_append]

/-- A key that counts as an active device of an account. -/
def countedKey (sid : Bytes) (reg : Registry) (name : KeyName) : Bool :=
  shortName name &&
    ((readDeviceRecord RegAccess.ok reg name.text {}).1 == ERROR_SUCCESS &&
      (readDeviceRecord RegAccess.ok reg name.text {}).2.pairStatus == kStatusActive &&
      (readDeviceRecord RegAccess.ok reg name.text {}).2.accountSid == sid)

/-- Without faults the count is over the keys of the store. -/
theorem countActiveDevicesForAccount_ok (reg : Registry) (sid : Bytes) :
    countActiveDevicesForAccount RegAccess.ok reg sid
      = reg.store.keys.countP (countedKey sid reg) := by
  unfold countActiveDevicesForAccount
  rw [enumerateDeviceIds_ok, List.countP_map, List.countP_filter]
  apply List.countP_congr
  intro name _
  simp only [Function.comp, countedKey, Bool.and_comm]

/-- A key that counts is active. -/
theorem keyActive_of_countedKey {sid : Bytes} {reg : Registry} {name : KeyName}
    (h : countedKey sid reg name = true) : KeyActive reg name := by
  simp only [countedKey, Bool.and_eq_true, beq_iff_eq] at h
  have hactive := keyActive_of_readDeviceRecord h.2.1.1 h.2.1.2
  rwa [show deviceKey name.text = name from KeyName.ofText_text name] at hactive

/-- The keys of a store are those with values. -/
theorem mem_keys_iff {reg : Registry} {k : KeyName} :
    k ∈ reg.store.keys ↔ (reg.store.lookup k).isSome := by
  rw [AList.lookup_isSome, AList.mem_keys]

/-- The count splits into one key and the others. -/
theorem count_erase (sid : Bytes) (reg : Registry) (name : KeyName) :
    countActiveDevicesForAccount RegAccess.ok reg sid
      = (reg.store.keys.erase name).countP (countedKey sid reg)
        + (countedKey sid reg name).toNat := by
  rw [countActiveDevicesForAccount_ok]
  by_cases hmem : name ∈ reg.store.keys
  · rw [(List.perm_cons_erase hmem).countP_eq, List.countP_cons]
    cases countedKey sid reg name <;> rfl
  · have hno : countedKey sid reg name = false := by
      rw [← Bool.not_eq_true]
      intro hyes
      obtain ⟨vals, hl, -⟩ := keyActive_of_countedKey hyes
      exact hmem (mem_keys_iff.mpr (by rw [hl]; rfl))
    rw [hno, List.erase_of_not_mem hmem]
    rfl

end MobileUnlock.Pairing
