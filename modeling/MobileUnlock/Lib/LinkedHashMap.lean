import Mathlib.Data.List.Induction
import Mathlib.Data.List.Nodup

/-!
# `MobileUnlock.Lib.LinkedHashMap`: a map that keeps the order of insertion

`LinkedHashMap κ ν` is a list of entries without a repeated key. `set` replaces the value of a key
in its place, and puts a new key at the end. That is the map literal of Dart.

`ofList` sets one entry after the other. The keys of the result are the keys of the list in the
order in which they come first (`keys_ofList`), and the value of a key is the last one set
(`mem_entries_ofList`).
-/

set_option autoImplicit false

namespace MobileUnlock.Lib

variable {κ ν : Type} [BEq κ] [LawfulBEq κ]

/-- Replaces the value of a key in its place, or puts the entry at the end. -/
def setEntry (key : κ) (value : ν) : List (κ × ν) → List (κ × ν)
  | [] => [(key, value)]
  | (k, v) :: rest => if k == key then (key, value) :: rest else (k, v) :: setEntry key value rest

/-- The keys after `setEntry`: a new key is the last one. -/
theorem keys_setEntry (key : κ) (value : ν) (entries : List (κ × ν)) :
    (setEntry key value entries).map (·.1) =
      if key ∈ entries.map (·.1) then entries.map (·.1) else entries.map (·.1) ++ [key] := by
  induction entries with
  | nil => rfl
  | cons entry entries ih =>
    obtain ⟨k, v⟩ := entry
    rw [setEntry]
    by_cases hk : k = key
    · subst hk
      rw [if_pos (beq_self_eq_true k), if_pos (by simp)]
      rfl
    · have hmem : key ∈ ((k, v) :: entries).map (·.1) ↔ key ∈ entries.map (·.1) := by
        simp [Ne.symm hk]
      rw [if_neg (by simpa using hk), List.map_cons, ih]
      simp only [hmem]
      split
      · rfl
      · rfl

/-- The entries after `setEntry`: the new one, and those of the other keys. -/
theorem mem_setEntry {key : κ} {value : ν} {entries : List (κ × ν)}
    (hnodup : (entries.map (·.1)).Nodup) (entry : κ × ν) :
    entry ∈ setEntry key value entries ↔
      entry = (key, value) ∨ (entry ∈ entries ∧ entry.1 ≠ key) := by
  induction entries with
  | nil => simp [setEntry]
  | cons first entries ih =>
    obtain ⟨k, v⟩ := first
    rw [List.map_cons, List.nodup_cons] at hnodup
    obtain ⟨hfresh, hnodup⟩ := hnodup
    have hrest : entry ∈ entries → entry.1 ≠ k := by
      intro hmem hkey
      exact hfresh (List.mem_map.mpr ⟨entry, hmem, hkey⟩)
    rw [setEntry]
    by_cases hk : k = key
    · subst hk
      rw [if_pos (beq_self_eq_true k), List.mem_cons, List.mem_cons]
      constructor
      · rintro (rfl | hmem)
        · exact .inl rfl
        · exact .inr ⟨.inr hmem, hrest hmem⟩
      · rintro (rfl | ⟨rfl | hmem, hne⟩)
        · exact .inl rfl
        · exact absurd rfl hne
        · exact .inr hmem
    · rw [if_neg (by simpa using hk), List.mem_cons, ih hnodup, List.mem_cons]
      constructor
      · rintro (rfl | rfl | ⟨hmem, hne⟩)
        · exact .inr ⟨.inl rfl, hk⟩
        · exact .inl rfl
        · exact .inr ⟨.inr hmem, hne⟩
      · rintro (rfl | ⟨rfl | hmem, hne⟩)
        · exact .inr (.inl rfl)
        · exact .inl rfl
        · exact .inr (.inr ⟨hmem, hne⟩)

/-- An injective function keeps which elements are repeated. -/
theorem eraseDups_map {α β : Type} [BEq α] [LawfulBEq α] [BEq β] [LawfulBEq β] {f : α → β}
    (hf : Function.Injective f) (l : List α) : (l.map f).eraseDups = l.eraseDups.map f := by
  induction l using List.reverseRecOn with
  | nil => rfl
  | append_singleton l a ih =>
    rw [List.map_append, List.eraseDups_append, List.eraseDups_append, ih]
    by_cases ha : a ∈ l
    · simp [List.removeAll, ha, hf.eq_iff]
    · simp [List.removeAll, ha, hf.eq_iff, List.eraseDups_cons]

/-- A map in the order of insertion. -/
structure LinkedHashMap (κ ν : Type) where
  entries : List (κ × ν) := []
  nodupKeys : (entries.map (·.1)).Nodup := by simp

namespace LinkedHashMap

def keys (m : LinkedHashMap κ ν) : List κ := m.entries.map (·.1)

def values (m : LinkedHashMap κ ν) : List ν := m.entries.map (·.2)

/-- `m[key] = value`. -/
def set (m : LinkedHashMap κ ν) (key : κ) (value : ν) : LinkedHashMap κ ν where
  entries := setEntry key value m.entries
  nodupKeys := by
    rw [keys_setEntry]
    split
    · exact m.nodupKeys
    next hkey =>
      rw [List.nodup_append_comm]
      exact List.nodup_cons.mpr ⟨hkey, m.nodupKeys⟩

/-- The entries of a list, set one after the other. -/
def ofList (entries : List (κ × ν)) : LinkedHashMap κ ν :=
  entries.foldl (fun m entry => m.set entry.1 entry.2) {}

theorem ofList_append_singleton (entries : List (κ × ν)) (entry : κ × ν) :
    ofList (entries ++ [entry]) = (ofList entries).set entry.1 entry.2 := by
  rw [ofList, List.foldl_append]
  rfl

theorem mem_entries_set (m : LinkedHashMap κ ν) (key : κ) (value : ν) (entry : κ × ν) :
    entry ∈ (m.set key value).entries ↔
      entry = (key, value) ∨ (entry ∈ m.entries ∧ entry.1 ≠ key) :=
  mem_setEntry m.nodupKeys entry

/-- The entries of `ofList` are those that no later one replaces. -/
theorem mem_entries_ofList {entries : List (κ × ν)} {entry : κ × ν} :
    entry ∈ (ofList entries).entries ↔
      ∃ pre post, entries = pre ++ entry :: post ∧ ∀ later ∈ post, later.1 ≠ entry.1 := by
  -- Induction from the end: the last entry stands, and it replaces the one with its key.
  induction entries using List.reverseRecOn with
  | nil => simp [ofList]
  | append_singleton entries last ih =>
    rw [ofList_append_singleton, mem_entries_set, ih]
    constructor
    · rintro (rfl | ⟨⟨pre, post, rfl, hpost⟩, hne⟩)
      · exact ⟨entries, [], rfl, by simp⟩
      · refine ⟨pre, post ++ [last], by simp, ?_⟩
        rw [List.forall_mem_append, List.forall_mem_singleton]
        exact ⟨hpost, Ne.symm hne⟩
    · rintro ⟨pre, post, heq, hpost⟩
      rcases List.eq_nil_or_concat post with rfl | ⟨post', last', rfl⟩
      · left
        exact (List.append_singleton_inj.mp heq).2.symm
      · rw [List.concat_eq_append] at heq hpost
        rw [← List.cons_append, ← List.append_assoc] at heq
        obtain ⟨rfl, rfl⟩ := List.append_singleton_inj.mp heq
        rw [List.forall_mem_append, List.forall_mem_singleton] at hpost
        exact .inr ⟨⟨pre, post', rfl, hpost.1⟩, Ne.symm hpost.2⟩

/-- The keys of `ofList`, each where it comes first. -/
theorem keys_ofList (entries : List (κ × ν)) :
    (ofList entries).keys = (entries.map (·.1)).eraseDups := by
  induction entries using List.reverseRecOn with
  | nil => rfl
  | append_singleton entries last ih =>
    have hmem : last.1 ∈ (ofList entries).keys ↔ last.1 ∈ entries.map (·.1) := by
      rw [ih, List.mem_eraseDups]
    have hset : ((ofList entries).set last.1 last.2).keys =
        if last.1 ∈ (ofList entries).keys then (ofList entries).keys
        else (ofList entries).keys ++ [last.1] := keys_setEntry _ _ _
    rw [ofList_append_singleton, hset, List.map_append, List.eraseDups_append]
    by_cases hlast : last.1 ∈ entries.map (·.1)
    · rw [if_pos (hmem.mpr hlast), ih]
      simp [List.removeAll, hlast]
    · rw [if_neg (hmem.not.mpr hlast), ih]
      simp [List.removeAll, hlast, List.eraseDups_cons]

end LinkedHashMap

end MobileUnlock.Lib
