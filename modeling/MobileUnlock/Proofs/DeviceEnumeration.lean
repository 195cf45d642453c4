import MobileUnlock.Pairing.DeviceRegistry

/-!
# `MobileUnlock.Proofs.DeviceEnumeration`: when the enumeration of devices ends

The loop of `EnumerateDeviceIds` leaves at `ERROR_NO_MORE_ITEMS` and nowhere else. An error that
persists, such as that of a deleted key, keeps it running for good: the index wraps, and the loop
asks again (`enumLoop_isSome_iff`).

Where the calls succeed, the list has every subkey once, and the count over it is the number of
subkeys with an active record of the account (`countActiveDevicesWithin_of_named`).
-/

set_option autoImplicit false

namespace MobileUnlock.Pairing

open MobileUnlock.Lib MobileUnlock.Lib.Win32

/-! ### Termination -/

theorem enumLoop_eq_none {results : Nat → EnumResult} (h : ∀ k, results k ≠ .noMoreItems)
    (fuel index : Nat) (ids : List Bytes) : enumLoop results fuel index ids = none := by
  induction fuel generalizing index ids with
  | zero => rfl
  | succ fuel ih =>
    rw [enumLoop]
    cases hres : results index with
    | noMoreItems => exact absurd hres (h index)
    | success name => exact ih (index + 1) (ids ++ [name])
    | error code => exact ih (index + 1) ids

theorem enumLoop_isSome_of_end {results : Nat → EnumResult} {k : Nat}
    (h : results k = .noMoreItems) (steps index : Nat) (hk : index + steps = k)
    (ids : List Bytes) : (enumLoop results (steps + 1) index ids).isSome := by
  induction steps generalizing index ids with
  | zero =>
    have hindex : index = k := by omega
    rw [enumLoop, hindex, h]
    rfl
  | succ steps ih =>
    rw [enumLoop]
    cases results index with
    | noMoreItems => rfl
    | success name => exact ih (index + 1) (by omega) (ids ++ [name])
    | error code => exact ih (index + 1) (by omega) ids

/-- The loop ends if and only if some call answers `ERROR_NO_MORE_ITEMS`. -/
theorem enumLoop_isSome_iff (results : Nat → EnumResult) :
    (∃ fuel, (enumLoop results fuel 0 []).isSome) ↔ ∃ k, results k = .noMoreItems := by
  constructor
  · rintro ⟨fuel, hsome⟩
    by_contra hnever
    rw [enumLoop_eq_none (not_exists.mp hnever)] at hsome
    cases hsome
  · rintro ⟨k, hk⟩
    exact ⟨k + 1, enumLoop_isSome_of_end hk k 0 (Nat.zero_add k) []⟩

/-- The enumeration ends. -/
def EnumerationEnds (openRoot : LONG) (results : Nat → EnumResult) : Prop :=
  ∃ fuel, (enumerateDeviceIdsWithin openRoot results fuel).isSome

theorem enumerationEnds_iff (openRoot : LONG) (results : Nat → EnumResult) :
    EnumerationEnds openRoot results ↔
      openRoot ≠ ERROR_SUCCESS ∨ ∃ k, results k = .noMoreItems := by
  unfold EnumerationEnds enumerateDeviceIdsWithin
  by_cases hopen : openRoot = ERROR_SUCCESS
  · simp only [if_neg (not_not.mpr hopen), enumLoop_isSome_iff]
    exact (or_iff_right (not_not.mpr hopen)).symm
  · simp only [if_pos hopen]
    exact iff_of_true ⟨0, rfl⟩ (.inl hopen)

/-! ### The count -/

/-- The record of a subkey is active and carries the SID. -/
def activeRecordFor (sid : Bytes) (reg : Registry) (name : KeyName) : Bool :=
  match reg.store.lookup name with
  | none => false
  | some vals =>
    readPairStatus RegAccess.ok name vals == kStatusActive &&
      readText RegAccess.ok name vals .accountSid [] == sid

/-- Every call of the enumeration succeeds: the subkeys, each once and in any order, and then the
end. -/
def NamesEach (reg : Registry) (results : Nat → EnumResult) (order : List KeyName) : Prop :=
  order.Perm reg.store.keys ∧
    (∀ i (h : i < order.length), results i = .success order[i].text) ∧
    results order.length = .noMoreItems

theorem enumLoop_of_names {results : Nat → EnumResult} {order : List KeyName}
    (hnames : ∀ i (h : i < order.length), results i = .success order[i].text)
    (hend : results order.length = .noMoreItems) (fuel index : Nat) (ids : List Bytes)
    (hfuel : order.length < index + fuel) (hindex : index ≤ order.length) :
    enumLoop results fuel index ids = some (ids ++ (order.drop index).map KeyName.text) := by
  induction fuel generalizing index ids with
  | zero => omega
  | succ fuel ih =>
    rw [enumLoop]
    by_cases hlast : index = order.length
    · rw [hlast, hend, List.drop_length, List.map_nil, List.append_nil]
    · have hlt : index < order.length := by omega
      rw [hnames index hlt, List.drop_eq_getElem_cons hlt, List.map_cons]
      show enumLoop results fuel (index + 1) (ids ++ [order[index].text]) = _
      rw [ih (index + 1) _ (by omega) (by omega), List.append_assoc, List.singleton_append]

/-- What is read through the name of a subkey is the record of the subkey. -/
theorem record_of_name (sid : Bytes) (reg : Registry) {name : KeyName}
    (hname : name ∈ reg.store.keys) :
    (((readDeviceRecord RegAccess.ok reg name.text {}).1 == ERROR_SUCCESS) &&
      (readDeviceRecord RegAccess.ok reg name.text {}).2.pairStatus == kStatusActive &&
      (readDeviceRecord RegAccess.ok reg name.text {}).2.accountSid == sid) =
    activeRecordFor sid reg name := by
  have hkey : deviceKey name.text = name := KeyName.ofText_text name
  obtain ⟨vals, hvals⟩ : ∃ vals, reg.store.lookup name = some vals := by
    rw [← Option.isSome_iff_exists, AList.lookup_isSome]
    exact AList.mem_keys.mpr hname
  have haccess : ¬ (RegAccess.ok : Access).openKey name ≠ ERROR_SUCCESS := not_not.mpr rfl
  have hopen : regOpenKey RegAccess.ok reg.store name = .ok vals := by
    rw [regOpenKey, if_neg haccess, hvals]
  rw [activeRecordFor, hvals]
  simp only [readDeviceRecord, hkey, hopen]
  rfl

/-- With calls that succeed, the count is the number of subkeys with an active record of the
account. -/
theorem countActiveDevicesWithin_of_named {reg : Registry} {results : Nat → EnumResult}
    {order : List KeyName} (h : NamesEach reg results order) (sid : Bytes) {fuel : Nat}
    (hfuel : order.length < fuel) :
    countActiveDevicesWithin ERROR_SUCCESS results fuel reg sid =
      some (reg.store.keys.countP (activeRecordFor sid reg)) := by
  obtain ⟨hperm, hnames, hend⟩ := h
  have hloop := enumLoop_of_names hnames hend fuel 0 [] (by omega) (Nat.zero_le _)
  rw [List.drop_zero, List.nil_append] at hloop
  rw [countActiveDevicesWithin, enumerateDeviceIdsWithin, if_neg (not_not.mpr rfl), hloop,
    Option.map_some, List.countP_map, ← hperm.countP_eq]
  refine congrArg some (List.countP_congr fun name hname => ?_)
  rw [Function.comp_apply, ← record_of_name sid reg (hperm.mem_iff.mp hname)]

/-- The count is right whenever the calls of the enumeration succeed. -/
def CountsRight (openRoot : LONG) (results : Nat → EnumResult) (reg : Registry) : Prop :=
  openRoot = ERROR_SUCCESS → ∀ order, NamesEach reg results order →
    ∀ sid fuel, order.length < fuel →
      countActiveDevicesWithin openRoot results fuel reg sid =
        some (reg.store.keys.countP (activeRecordFor sid reg))

/-- For every content of the device store and every sequence of results, the enumeration ends and
the count is right if and only if the parent key cannot be opened or some call answers
`ERROR_NO_MORE_ITEMS`. -/
theorem enumeration_ends_and_counts_iff (openRoot : LONG) (results : Nat → EnumResult)
    (reg : Registry) :
    (EnumerationEnds openRoot results ∧ CountsRight openRoot results reg) ↔
      openRoot ≠ ERROR_SUCCESS ∨ ∃ k, results k = .noMoreItems := by
  have hcount : CountsRight openRoot results reg := by
    rintro rfl order hnamed sid fuel hfuel
    exact countActiveDevicesWithin_of_named hnamed sid hfuel
  exact (and_iff_left hcount).trans (enumerationEnds_iff openRoot results)

/-- The code of a call on a key that was deleted. -/
def ERROR_KEY_DELETED : LONG := 1018

/-- When the parent key is deleted after it was opened, the enumeration does not end. -/
theorem enumeration_of_deleted_key_never_ends :
    ¬ EnumerationEnds ERROR_SUCCESS fun _ => .error ERROR_KEY_DELETED := by
  rw [enumerationEnds_iff]
  rintro (hopen | ⟨k, hk⟩)
  · exact hopen rfl
  · cases hk

end MobileUnlock.Pairing
