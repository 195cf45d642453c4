import MobileUnlock.Proofs.DeviceSeparation
import MobileUnlock.Proofs.PairingIdentity

/-!
# `MobileUnlock.Proofs.DeviceIdText`: the text of a device id as a key

The challenges, the two rate limits and the store of devices are kept under the text of a device
id. `deviceIdText_faithful` says that the text can stand for the id: it has the hyphenated form
(`UuidForm`), it is parsed back to the id, and no two ids share a text.

`deviceMapsMachine` makes one operation on the maps after the other, each under the text of some
device. What a device has in the maps (`KeptFor`) is left alone by every run of operations for
other devices, from any content of the maps (`keptFor_run`).
-/

set_option autoImplicit false

namespace MobileUnlock.Pairing

open MobileUnlock.Lib MobileUnlock.Lib.Win32
open MobileUnlock.Authentication

/-- A hexadecimal digit that is not in upper case. -/
def LowerHexDigit (c : UInt8) : Prop := (48 ≤ c ∧ c ≤ 57) ∨ (97 ≤ c ∧ c ≤ 102)

instance (c : UInt8) : Decidable (LowerHexDigit c) :=
  inferInstanceAs (Decidable (_ ∨ _))

/-- The form 8-4-4-4-12 of lower-case digits. -/
structure UuidForm (text : Bytes) : Prop where
  length : text.length = 36
  dashes : ∀ i ∈ [8, 13, 18, 23], text.getD i 0 = dash
  digits : ∀ i < 36, i ∉ [8, 13, 18, 23] → LowerHexDigit (text.getD i 0)

/-- What is kept under the text of a device id. -/
structure DeviceMaps where
  authentication : AuthenticationManager
  pairing : PairingManager
  registry : Registry

/-- An operation that writes under the text of a device id. -/
inductive MapOperation where
  | isRateLimited (now : UInt64)
  | recordFailure (now : UInt64)
  | recordSuccess
  | setChallenge (challenge : ActiveChallenge)
  | consumeChallenge (challenge : ActiveChallenge)
  | recordFailedAttempt (now : FILETIME)
  | clearFailedAttempts
  | writeDeviceRecord (acc : Access) (record : DeviceRecord)
  | setDeviceValue (acc : Access) (v : DeviceValue) (data : Bytes)
  | deleteDeviceRecord (acc : Access)

/-- The operation under the text of `d`. A record is one of the device `d`. -/
def MapOperation.apply (d : DeviceId) (maps : DeviceMaps) : MapOperation → DeviceMaps
  | .isRateLimited now =>
    { maps with
      authentication := (maps.authentication.isRateLimited (deviceIdToString d) now).2 }
  | .recordFailure now =>
    { maps with authentication := maps.authentication.recordFailure (deviceIdToString d) now }
  | .recordSuccess =>
    { maps with authentication := maps.authentication.recordSuccess (deviceIdToString d) }
  | .setChallenge challenge =>
    { maps with authentication := maps.authentication.setChallenge (deviceIdToString d) challenge }
  | .consumeChallenge challenge =>
    { maps with
      authentication := maps.authentication.consumeChallenge (deviceIdToString d) challenge }
  | .recordFailedAttempt now =>
    { maps with pairing := maps.pairing.recordFailedAttempt (deviceIdToString d) now }
  | .clearFailedAttempts =>
    { maps with pairing := maps.pairing.clearFailedAttempts (deviceIdToString d) }
  | .writeDeviceRecord acc record =>
    { maps with
      registry := (Pairing.writeDeviceRecord acc maps.registry { record with deviceId := d }).2 }
  | .setDeviceValue acc v data =>
    { maps with
      registry := (Pairing.setDeviceValue acc maps.registry (deviceIdToString d) v data).2 }
  | .deleteDeviceRecord acc =>
    { maps with
      registry := (Pairing.deleteDeviceRecord acc maps.registry (deviceIdToString d)).2 }

/-- The maps over the operations, each with the device it is for. -/
def deviceMapsMachine : Machine DeviceMaps (DeviceId × MapOperation) Unit where
  step maps op := (op.2.apply op.1 maps, ())

/-- The stores of all roots have the same key of a device. -/
def SameStored (d : DeviceId) (reg reg' : Registry) : Prop :=
  ∀ hive, (reg'.hive hive).lookup (deviceKey (deviceIdToString d))
    = (reg.hive hive).lookup (deviceKey (deviceIdToString d))

/-- Nothing has changed for a device. -/
structure KeptFor (d : DeviceId) (maps maps' : DeviceMaps) : Prop where
  entry : SameEntry (deviceIdToString d) maps.authentication maps'.authentication
  attempts : maps'.pairing.rateLimitMap (deviceIdToString d)
    = maps.pairing.rateLimitMap (deviceIdToString d)
  record : SameStored d maps.registry maps'.registry

/-! ### The form of the text -/

/-- The printer writes digits in lower case. -/
theorem lowerHexDigit_hexDigit {n : Nat} (hn : n < 16) : LowerHexDigit (hexDigit n) := by
  have h : ∀ m : Fin 16, LowerHexDigit (hexDigit m.val) := by decide
  exact h ⟨n, hn⟩

theorem lowerHexDigit_of_mem_hexBytes {bs : Bytes} {c : UInt8} (h : c ∈ hexBytes bs) :
    LowerHexDigit c := by
  obtain ⟨b, -, hc⟩ := List.mem_flatMap.mp h
  have hb := b.toNat_lt
  simp only [hexByte, List.mem_cons, List.not_mem_nil, or_false] at hc
  rcases hc with rfl | rfl
  · exact lowerHexDigit_hexDigit (by omega)
  · exact lowerHexDigit_hexDigit (by omega)

theorem lowerHexDigit_getD_hexBytes {bs : Bytes} {i : Nat} (hi : i < (hexBytes bs).length) :
    LowerHexDigit ((hexBytes bs).getD i 0) := by
  rw [List.getD_eq_getElem _ _ hi]
  exact lowerHexDigit_of_mem_hexBytes (List.getElem_mem hi)

/-- Between the dashes there are digits. -/
theorem lowerHexDigit_deviceIdToString (id : DeviceId) {i : Nat} (hi : i < 36)
    (hdash : i ∉ [8, 13, 18, 23]) : LowerHexDigit ((deviceIdToString id).getD i 0) := by
  have hlen : ∀ off len, off + len ≤ 16 →
      (hexBytes (slice off len id.toList)).length = 2 * len := by
    intro off len hin
    have hid : id.toList.length = 16 := id.toList_length
    rw [length_hexBytes, length_slice (by omega)]
  have h1 := hlen 0 4 (by omega)
  have h2 := hlen 4 2 (by omega)
  have h3 := hlen 6 2 (by omega)
  have h4 := hlen 8 2 (by omega)
  have h5 := hlen 10 6 (by omega)
  -- Each position lies in one of the five groups.
  simp only [List.mem_cons, List.not_mem_nil, or_false, not_or] at hdash
  obtain hg | hg | hg | hg | hg : i < 8 ∨ (9 ≤ i ∧ i < 13) ∨ (14 ≤ i ∧ i < 18) ∨
      (19 ≤ i ∧ i < 23) ∨ 24 ≤ i := by omega
  all_goals
    rw [deviceIdToString]
    simp only [List.append_assoc]
    simp (disch := simp only [h1, h2, h3, h4, h5, List.length_singleton]; omega) only
      [List.getD_append_right, List.getD_append, h1, h2, h3, h4, List.length_singleton]
    refine lowerHexDigit_getD_hexBytes ?_
    omega

theorem deviceIdToString_form (id : DeviceId) : UuidForm (deviceIdToString id) where
  length := length_deviceIdToString id
  dashes := getD_deviceIdToString_dash id
  digits _ hi hdash := lowerHexDigit_deviceIdToString id hi hdash

/-! ### The maps -/

theorem KeptFor.refl (d : DeviceId) (maps : DeviceMaps) : KeptFor d maps maps :=
  ⟨SameEntry.refl _ _, rfl, fun _ => rfl⟩

theorem KeptFor.trans {d : DeviceId} {maps₁ maps₂ maps₃ : DeviceMaps}
    (h₁ : KeptFor d maps₁ maps₂) (h₂ : KeptFor d maps₂ maps₃) : KeptFor d maps₁ maps₃ where
  entry := h₁.entry.trans h₂.entry
  attempts := h₂.attempts.trans h₁.attempts
  record hive := (h₂.record hive).trans (h₁.record hive)

section Others
variable {d e : DeviceId} (hd : d ≠ e) (acc : Access) (reg : Registry)
include hd

theorem deviceKey_ne : deviceKey (deviceIdToString e) ≠ deviceKey (deviceIdToString d) :=
  fun h => hd (deviceKey_inj.mp h).symm

theorem sameStored_writeDeviceRecord {record : DeviceRecord} (hrecord : record.deviceId = d) :
    SameStored e reg (writeDeviceRecord acc reg record).2 := by
  intro hive
  subst hrecord
  obtain ⟨hstored, hfailed⟩ := writeDeviceRecord_stored acc reg record
  by_cases hok : (writeDeviceRecord acc reg record).1 = ERROR_SUCCESS
  · exact (hstored hok).others hive _ (deviceKey_ne hd)
  · rw [hfailed hok]

theorem sameStored_setDeviceValue (v : DeviceValue) (data : Bytes) :
    SameStored e reg (setDeviceValue acc reg (deviceIdToString d) v data).2 := by
  intro hive
  obtain ⟨err, -, hsame⟩ | ⟨vals, -, hset⟩ :=
    setDeviceValue_cases acc reg (deviceIdToString d) v data
  · rw [hsame]
  · rw [hset, withStore_lookup_ne (AList.lookup_insert_ne (deviceKey_ne hd))]

theorem sameStored_deleteDeviceRecord :
    SameStored e reg (deleteDeviceRecord acc reg (deviceIdToString d)).2 := by
  intro hive
  obtain ⟨err, -, hsame⟩ | hdel := deleteDeviceRecord_cases acc reg (deviceIdToString d)
  · rw [hsame]
  · rw [hdel, withStore_lookup_ne (AList.lookup_erase_ne (deviceKey_ne hd))]

/-- An operation for another device leaves everything of `e`. -/
theorem keptFor_apply (maps : DeviceMaps) (op : MapOperation) :
    KeptFor e maps (op.apply d maps) := by
  have htext : deviceIdToString e ≠ deviceIdToString d :=
    fun h => hd (deviceIdToString_injective h).symm
  have hsame := KeptFor.refl e maps
  cases op with
  | isRateLimited now =>
    exact { hsame with entry := sameEntry_isRateLimited _ htext now }
  | recordFailure now =>
    exact { hsame with entry := sameEntry_recordFailure _ htext now }
  | recordSuccess =>
    exact { hsame with entry := sameEntry_recordSuccess _ htext }
  | setChallenge challenge =>
    exact { hsame with entry := sameEntry_setChallenge _ htext challenge }
  | consumeChallenge challenge =>
    exact { hsame with entry := sameEntry_consumeChallenge _ htext challenge }
  | recordFailedAttempt now =>
    exact { hsame with attempts := Function.update_of_ne htext _ _ }
  | clearFailedAttempts =>
    exact { hsame with attempts := Function.update_of_ne htext _ _ }
  | writeDeviceRecord acc record =>
    exact { hsame with record := sameStored_writeDeviceRecord hd acc _ rfl }
  | setDeviceValue acc v data =>
    exact { hsame with record := sameStored_setDeviceValue hd acc _ v data }
  | deleteDeviceRecord acc =>
    exact { hsame with record := sameStored_deleteDeviceRecord hd acc _ }

end Others

/-- Whatever is done for other devices, everything of `e` is as before. -/
theorem keptFor_run (e : DeviceId) (maps : DeviceMaps) {ops : List (DeviceId × MapOperation)}
    (hops : ∀ op ∈ ops, op.1 ≠ e) : KeptFor e maps (deviceMapsMachine.run maps ops) := by
  refine deviceMapsMachine.invariant (C := fun _ op => op.1 ≠ e) ?_ (KeptFor.refl e maps)
    (deviceMapsMachine.along_of_forall hops maps)
  intro now op hkept hop
  exact hkept.trans (keptFor_apply hop now op.2)

/-- The text of a device id is faithful. It has the form 8-4-4-4-12 of lower-case digits, it is
parsed back to the id, and different ids have different texts. So the maps under these texts do
not mix devices: operations for other devices leave everything of `e`, in any order and from any
content. -/
theorem deviceIdText_faithful :
    (∀ id : DeviceId, UuidForm (deviceIdToString id) ∧
      ∀ outId, deviceIdFromString (deviceIdToString id) outId = (true, id)) ∧
    Function.Injective deviceIdToString ∧
    ∀ (e : DeviceId) (maps : DeviceMaps) (ops : List (DeviceId × MapOperation)),
      (∀ op ∈ ops, op.1 ≠ e) → KeptFor e maps (deviceMapsMachine.run maps ops) := by
  refine ⟨?_, deviceIdToString_injective, ?_⟩
  · intro id
    exact ⟨deviceIdToString_form id, fun outId => deviceIdFromString_deviceIdToString id outId⟩
  · intro e maps ops hops
    exact keptFor_run e maps hops

end MobileUnlock.Pairing
