import MobileUnlock.Lib.Machine
import Mathlib.Logic.Function.Basic

/-!
# `MobileUnlock.Lib.Keyed`: one machine for each key

`m.keyed` runs a copy of the machine `m` for every key. An event carries the key it is for,
and only the copy of that key moves. `keyed_run` and `keyed_trace` say that the copies do not
see one another: what the copy of `k` does is what `m` does on the events for `k` alone.
-/

set_option autoImplicit false

namespace MobileUnlock.Lib

variable {κ σ ε ω : Type} [DecidableEq κ]

/-- The events for the key `k`, oldest first. -/
def eventsOf (k : κ) (es : List (κ × ε)) : List ε :=
  (es.filter (·.1 = k)).map (·.2)

@[simp] theorem eventsOf_nil (k : κ) : eventsOf k ([] : List (κ × ε)) = [] := rfl

theorem eventsOf_cons_self (k : κ) (e : ε) (es : List (κ × ε)) :
    eventsOf k ((k, e) :: es) = e :: eventsOf k es := by
  simp [eventsOf]

theorem eventsOf_cons_of_ne {k : κ} {e : κ × ε} (h : e.1 ≠ k) (es : List (κ × ε)) :
    eventsOf k (e :: es) = eventsOf k es := by
  simp [eventsOf, h]

@[simp] theorem eventsOf_append (k : κ) (es fs : List (κ × ε)) :
    eventsOf k (es ++ fs) = eventsOf k es ++ eventsOf k fs := by
  simp [eventsOf]

@[simp] theorem mem_eventsOf {k : κ} {e : ε} {es : List (κ × ε)} :
    e ∈ eventsOf k es ↔ (k, e) ∈ es := by
  simp [eventsOf]

namespace Machine

variable (m : Machine σ ε ω)

/-- A copy of `m` for every key. -/
def keyed : Machine (κ → σ) (κ × ε) ω where
  step s e := (Function.update s e.1 (m.step (s e.1) e.2).1, (m.step (s e.1) e.2).2)

/-- The copy of `k` after a run has seen the events for `k`. -/
theorem keyed_run (s : κ → σ) (es : List (κ × ε)) (k : κ) :
    m.keyed.run s es k = m.run (s k) (eventsOf k es) := by
  induction es generalizing s with
  | nil => rfl
  | cons e es ih =>
    obtain ⟨k', e⟩ := e
    rw [run_cons, ih]
    by_cases hk : k' = k
    · subst hk
      rw [eventsOf_cons_self]
      simp [keyed]
    · rw [eventsOf_cons_of_ne hk]
      simp [keyed, Function.update_of_ne (Ne.symm hk)]

/-- The part of a step that concerns the key `k`. -/
def atKey (k : κ) (x : Entry (κ → σ) (κ × ε) ω) : Entry σ ε ω :=
  ⟨x.before k, x.event.2, x.output, x.after k⟩

/-- The steps for `k` are the steps of `m` on the events for `k`. -/
theorem keyed_trace (s : κ → σ) (es : List (κ × ε)) (k : κ) :
    ((m.keyed.trace s es).filter (·.event.1 = k)).map (atKey k) =
      m.trace (s k) (eventsOf k es) := by
  induction es generalizing s with
  | nil => rfl
  | cons e es ih =>
    obtain ⟨k', e⟩ := e
    rw [trace]
    by_cases hk : k' = k
    · subst hk
      rw [eventsOf_cons_self, trace, List.filter_cons_of_pos (by simp [entry]), List.map_cons, ih]
      simp [atKey, entry, keyed]
    · rw [eventsOf_cons_of_ne hk, List.filter_cons_of_neg (by simp [entry, hk]), ih]
      simp [keyed, Function.update_of_ne (Ne.symm hk)]

end Machine

end MobileUnlock.Lib
