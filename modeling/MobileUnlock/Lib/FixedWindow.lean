import Mathlib.Order.Basic
import Mathlib.Data.List.Basic

/-!
# `MobileUnlock.Lib.FixedWindow`: fixed-window counting

A fixed-window limiter counts accepted calls from the call that opened the current window. The
window is `w` long and takes `n` calls. A call behind its end opens the next window.

`FixedWindow w n acc opened f c` says that such a limiter has accepted the calls at the times
`acc` and has opened windows at `opened`, and that the current window was opened at `f` and
has `c` calls. No window takes more than `n` calls (`FixedWindow.window_le`). An interval of
length `w` can lie across two windows, but then it misses the opening call of the first one,
so it has at most `2 * n - 1` calls (`FixedWindow.interval_le`).
-/

set_option autoImplicit false

namespace MobileUnlock.Lib

variable {w n : Nat}

/-- The times of `acc` in the closed interval of length `w` from `a` on. -/
def within (w a : Nat) (acc : List Nat) : List Nat :=
  acc.filter fun t => a ≤ t ∧ t ≤ a + w

theorem within_append_singleton (w a : Nat) (acc : List Nat) (t : Nat) :
    (within w a (acc ++ [t])).length =
      (within w a acc).length + if a ≤ t ∧ t ≤ a + w then 1 else 0 := by
  by_cases h : a ≤ t ∧ t ≤ a + w <;> simp [within, h]

/-- What a fixed-window limiter can have accepted, call by call. -/
inductive FixedWindow (w n : Nat) : List Nat → List Nat → Nat → Nat → Prop where
  | start (t : Nat) : FixedWindow w n [t] [t] t 1
  | count {acc opened : List Nat} {f c t : Nat} (h : FixedWindow w n acc opened f c)
      (hft : f ≤ t) (hin : t ≤ f + w) (hc : c < n) :
      FixedWindow w n (acc ++ [t]) opened f (c + 1)
  | restart {acc opened : List Nat} {f c t : Nat} (h : FixedWindow w n acc opened f c)
      (hout : f + w < t) : FixedWindow w n (acc ++ [t]) (opened ++ [t]) t 1

namespace FixedWindow

variable {acc opened : List Nat} {f c : Nat}

theorem count_le (hn : 1 ≤ n) (h : FixedWindow w n acc opened f c) : c ≤ n := by
  cases h with
  | start t => exact hn
  | count h hft hin hc => exact hc
  | restart h hout => exact hn

/-- The calls so far lie before the end of the current window. -/
theorem le_end (h : FixedWindow w n acc opened f c) : ∀ x ∈ acc, x ≤ f + w := by
  induction h with
  | start t => simp
  | count h hft hin hc ih =>
    intro x hx
    rcases List.mem_append.mp hx with hx | hx
    · exact ih x hx
    · rw [List.mem_singleton.mp hx]
      exact hin
  | restart h hout ih =>
    intro x hx
    rcases List.mem_append.mp hx with hx | hx
    · have := ih x hx
      omega
    · rw [List.mem_singleton.mp hx]
      omega

/-- An interval behind the end of the current window has no call yet. -/
theorem within_eq_nil (h : FixedWindow w n acc opened f c) {a : Nat} (ha : f + w < a) :
    within w a acc = [] := by
  refine List.filter_eq_nil_iff.mpr ?_
  intro x hx
  have := h.le_end x hx
  rw [decide_eq_true_iff]
  omega

/-- An interval behind the opening of the current window misses the opening call. -/
theorem behind_lt (h : FixedWindow w n acc opened f c) {a : Nat} (ha : f < a) :
    (within w a acc).length < c := by
  induction h with
  | start t =>
    have hnot : ¬ (a ≤ t ∧ t ≤ a + w) := by omega
    simp [within, hnot]
  | count h hft hin hc ih =>
    have := ih ha
    rw [within_append_singleton]
    split <;> omega
  | restart h hout ih =>
    rw [within_append_singleton, h.within_eq_nil (by omega), if_neg (by omega)]
    exact Nat.zero_lt_one

/-- An interval that holds the opening of the current window has the calls of that window and
at most `n - 1` calls of the one before. -/
theorem across_le (hn : 1 ≤ n) (h : FixedWindow w n acc opened f c) {a : Nat} (ha : a ≤ f)
    (hf : f ≤ a + w) : (within w a acc).length ≤ n - 1 + c := by
  induction h with
  | start t => simp [within, ha, hf]
  | count h hft hin hc ih =>
    have := ih ha hf
    rw [within_append_singleton]
    split <;> omega
  | restart h hout ih =>
    have hbefore := h.behind_lt (a := a) (by omega)
    have hle := h.count_le hn
    rw [within_append_singleton]
    split <;> omega

/-- No interval of the length of a window has `2 * n` calls. -/
theorem interval_le (hn : 1 ≤ n) (h : FixedWindow w n acc opened f c) (a : Nat) :
    (within w a acc).length ≤ 2 * n - 1 := by
  induction h with
  | start t =>
    have hle : (within w a [t]).length ≤ 1 := List.length_filter_le _ [t]
    omega
  | @count acc opened f c t h hft hin hc ih =>
    have hnext : FixedWindow w n (acc ++ [t]) opened f (c + 1) := .count h hft hin hc
    rcases Nat.lt_or_ge f a with ha | ha
    · have := hnext.behind_lt ha
      omega
    · rcases Nat.lt_or_ge (a + w) f with hf | hf
      · -- The interval ends before the window opens, so the new call is not in it.
        rw [within_append_singleton, if_neg (by omega)]
        exact ih
      · have := hnext.across_le hn ha hf
        omega
  | @restart acc opened f c t h hout ih =>
    have hnext : FixedWindow w n (acc ++ [t]) (opened ++ [t]) t 1 := .restart h hout
    by_cases hin : a ≤ t ∧ t ≤ a + w
    · have := hnext.across_le hn hin.1 hin.2
      omega
    · rw [within_append_singleton, if_neg hin]
      exact ih

/-- The interval from the opening of the current window on has the calls of that window. -/
theorem current_eq (h : FixedWindow w n acc opened f c) : (within w f acc).length = c := by
  induction h with
  | start t => simp [within]
  | count h hft hin hc ih => rw [within_append_singleton, ih, if_pos ⟨hft, hin⟩]
  | restart h hout ih =>
    rw [within_append_singleton, h.within_eq_nil hout, if_pos (by omega), List.length_nil]

/-- The windows before the current one have ended before it was opened. -/
theorem opened_lt (h : FixedWindow w n acc opened f c) : ∀ g ∈ opened, g = f ∨ g + w < f := by
  induction h with
  | start t => simp
  | count h hft hin hc ih => exact ih
  | restart h hout ih =>
    intro g hg
    rcases List.mem_append.mp hg with hg | hg
    · rcases ih g hg with rfl | hlt
      · exact .inr hout
      · exact .inr (by omega)
    · exact .inl (List.mem_singleton.mp hg)

/-- No window takes more than `n` calls. -/
theorem window_le (hn : 1 ≤ n) (h : FixedWindow w n acc opened f c) :
    ∀ g ∈ opened, (within w g acc).length ≤ n := by
  induction h with
  | start t =>
    intro g hg
    have hle : (within w g [t]).length ≤ 1 := List.length_filter_le _ [t]
    omega
  | @count acc opened f c t h hft hin hc ih =>
    intro g hg
    rcases h.opened_lt g hg with rfl | hlt
    · have := (FixedWindow.count h hft hin hc).current_eq
      omega
    · rw [within_append_singleton, if_neg (by omega)]
      exact ih g hg
  | @restart acc opened f c t h hout ih =>
    intro g hg
    rcases List.mem_append.mp hg with hg | hg
    · have hgf := h.opened_lt g hg
      rw [within_append_singleton, if_neg (by omega)]
      exact ih g hg
    · rw [List.mem_singleton.mp hg, (FixedWindow.restart h hout).current_eq]
      exact hn

end FixedWindow

end MobileUnlock.Lib
