import Mathlib.Data.List.Basic

/-!
# `MobileUnlock.Lib.Since`: the past operator over histories

`Since p q l` reads a list as a history, oldest element first: some element of it satisfies `q`,
and all elements behind that one satisfy `p`. Histories grow at their end, so the rule that
proofs use is `since_append_singleton`.
-/

set_option autoImplicit false

namespace MobileUnlock.Lib

variable {α : Type} {p q : α → Prop}

/-- What holds at every place of a list, with what stands in front of it, holds at the first place
and at every later one. -/
theorem forall_split_cons {P : List α → α → Prop} (a : α) (l : List α) :
    (∀ pre x post, a :: l = pre ++ x :: post → P pre x) ↔
      P [] a ∧ ∀ pre x post, l = pre ++ x :: post → P (a :: pre) x := by
  constructor
  · intro h
    refine ⟨h [] a l rfl, fun pre x post hl => h (a :: pre) x post ?_⟩
    rw [hl, List.cons_append]
  · rintro ⟨hfirst, hlater⟩ pre x post hl
    cases pre with
    | nil =>
      obtain ⟨rfl, -⟩ := List.cons.inj hl
      exact hfirst
    | cons b pre =>
      obtain ⟨rfl, hrest⟩ := List.cons.inj hl
      exact hlater pre x post hrest

/-- `q` happened, and it has been `p` ever since. -/
def Since (p q : α → Prop) (l : List α) : Prop :=
  ∃ pre x post, l = pre ++ x :: post ∧ q x ∧ ∀ y ∈ post, p y

theorem not_since_nil : ¬ Since p q [] := by
  rintro ⟨pre, x, post, h, -⟩
  simp at h

/-- One more element is the `q` itself, or it is `p` and the history had the `q`. -/
@[simp] theorem since_append_singleton (l : List α) (x : α) :
    Since p q (l ++ [x]) ↔ q x ∨ (p x ∧ Since p q l) := by
  constructor
  · rintro ⟨pre, y, post, h, hq, hp⟩
    rcases List.eq_nil_or_concat post with rfl | ⟨post', z, rfl⟩
    · obtain ⟨-, rfl⟩ := List.append_singleton_inj.mp h
      exact .inl hq
    · rw [List.concat_eq_append] at h hp
      rw [← List.cons_append, ← List.append_assoc] at h
      obtain ⟨rfl, rfl⟩ := List.append_singleton_inj.mp h
      refine .inr ⟨hp x (by simp), pre, y, post', rfl, hq, ?_⟩
      exact fun w hw => hp w (by simp [hw])
  · rintro (hq | ⟨hx, pre, y, post, rfl, hq, hp⟩)
    · exact ⟨l, x, [], rfl, hq, by simp⟩
    · refine ⟨pre, y, post ++ [x], by simp, hq, ?_⟩
      intro w hw
      rcases List.mem_append.mp hw with hw | hw
      · exact hp w hw
      · rw [List.mem_singleton.mp hw]
        exact hx

end MobileUnlock.Lib
