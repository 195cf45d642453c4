import Mathlib.Data.List.Forall2
import Mathlib.Data.List.Sublists

/-!
# `MobileUnlock.Lib.Matching`: matching a list against a sequence, in order

`matchCount p as bs` walks through `bs` once and counts how many elements of `as` it meets, in
their order: an element of `bs` either matches the next element of `as` or is passed over. The
walk is greedy and loses nothing by it. `le_matchCount_iff` says that it reaches `j` if and only
if the first `j` elements of `as` match some sublist of `bs`.
-/

set_option autoImplicit false

namespace MobileUnlock.Lib

variable {α β : Type} (p : α → β → Bool)

/-- How many elements of `as` the walk through `bs` meets in order. -/
def matchCount : List α → List β → Nat
  | _, [] => 0
  | [], _ :: _ => 0
  | a :: as, b :: bs => if p a b then matchCount as bs + 1 else matchCount (a :: as) bs

@[simp] theorem matchCount_nil (bs : List β) : matchCount p [] bs = 0 := by
  cases bs <;> rfl

theorem matchCount_cons_of_match {a : α} {b : β} (h : p a b = true) (as : List α) (bs : List β) :
    matchCount p (a :: as) (b :: bs) = matchCount p as bs + 1 := by
  rw [matchCount, if_pos h]

theorem matchCount_cons_of_pass {a : α} {b : β} (h : p a b = false) (as : List α) (bs : List β) :
    matchCount p (a :: as) (b :: bs) = matchCount p (a :: as) bs := by
  rw [matchCount, if_neg (by simp [h])]

theorem matchCount_le_length (as : List α) (bs : List β) : matchCount p as bs ≤ as.length := by
  induction bs generalizing as with
  | nil => simp [matchCount]
  | cons b bs ih =>
    cases as with
    | nil => simp
    | cons a as =>
      cases h : p a b with
      | true =>
        rw [matchCount_cons_of_match p h, List.length_cons]
        exact Nat.succ_le_succ (ih as)
      | false =>
        rw [matchCount_cons_of_pass p h]
        exact ih (a :: as)

/-- The greedy walk is the best one. -/
theorem le_matchCount_iff {as : List α} {bs : List β} {j : Nat} (hj : j ≤ as.length) :
    j ≤ matchCount p as bs ↔
      ∃ sub, sub.Sublist bs ∧ List.Forall₂ (fun a b => p a b = true) (as.take j) sub := by
  induction bs generalizing as j with
  | nil =>
    constructor
    · intro h
      have hzero : j = 0 := Nat.le_zero.mp h
      subst hzero
      exact ⟨[], List.Sublist.refl _, .nil⟩
    · rintro ⟨sub, hsub, hmatch⟩
      rw [List.sublist_nil.mp hsub, List.forall₂_nil_right_iff, List.take_eq_nil_iff] at hmatch
      rcases hmatch with hj0 | has
      · rw [hj0]
        exact Nat.zero_le _
      · rw [has] at hj
        exact hj.trans (Nat.zero_le _)
  | cons b bs ih =>
    cases j with
    | zero => exact ⟨fun _ => ⟨[], List.nil_sublist _, .nil⟩, fun _ => Nat.zero_le _⟩
    | succ j =>
      cases as with
      | nil => cases hj
      | cons a as =>
        have hj' : j ≤ as.length := Nat.le_of_succ_le_succ hj
        rw [List.take_succ_cons]
        cases h : p a b with
        | true =>
          rw [matchCount_cons_of_match p h, Nat.succ_le_succ_iff, ih hj']
          constructor
          · rintro ⟨sub, hsub, hmatch⟩
            exact ⟨b :: sub, hsub.cons_cons b, .cons h hmatch⟩
          · rintro ⟨sub, hsub, hmatch⟩
            cases hmatch with
            | cons hc hrest => exact ⟨_, List.Sublist.tail hsub, hrest⟩
        | false =>
          rw [matchCount_cons_of_pass p h, ih hj, List.take_succ_cons]
          constructor
          · rintro ⟨sub, hsub, hmatch⟩
            exact ⟨sub, hsub.cons b, hmatch⟩
          · rintro ⟨sub, hsub, hmatch⟩
            cases hmatch with
            | cons hc hrest =>
              -- the element passed over is not the one that matches
              cases hsub with
              | cons _ hsub => exact ⟨_, hsub, .cons hc hrest⟩
              | cons_cons _ hsub =>
                rw [h] at hc
                cases hc

end MobileUnlock.Lib
