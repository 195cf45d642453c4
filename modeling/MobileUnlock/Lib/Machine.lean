import Mathlib.Algebra.Ring.Nat
import Mathlib.Data.List.Basic

/-!
# `MobileUnlock.Lib.Machine`: deterministic machines and their runs

A component with state is a `Machine`: a step function from a state and an event to the
next state and an output. Whatever the environment decides (clock readings, answers of
oracles, results of system calls) is part of the event, so every run is determined by its
event list.

* `run s es` is the state after the events `es`.
* `trace s es` is the list of the steps taken, oldest first. Each `Entry` has the state
  before the step, the event, the output and the state after the step.
* `Along C s es` says that every step of the run meets the condition `C`, which may read
  the state before the step.

The two induction rules are `invariant` (a state predicate) and `history_invariant` (a
relation between the trace so far and the state), both for runs along a condition. What a run may
cost is bounded by `potential`. A property of one step of a run is reached through
`trace_getElem?`, where the entry `i` of the trace is the step from the state after the first `i`
events, or through `trace_split`, where the trace is split at the entry.
-/

set_option autoImplicit false

namespace MobileUnlock.Lib

/-- A deterministic machine with states `σ`, events `ε` and outputs `ω`. -/
structure Machine (σ ε ω : Type) where
  step : σ → ε → σ × ω

/-- One step of a run. -/
structure Entry (σ ε ω : Type) where
  before : σ
  event : ε
  output : ω
  after : σ

namespace Machine

variable {σ ε ω : Type} (m : Machine σ ε ω)

/-- The step from a state at an event. -/
def entry (s : σ) (e : ε) : Entry σ ε ω := ⟨s, e, (m.step s e).2, (m.step s e).1⟩

/-- The state after a list of events. -/
def run (s : σ) (es : List ε) : σ := es.foldl (fun s e => (m.step s e).1) s

/-- The steps of a run. -/
def trace : σ → List ε → List (Entry σ ε ω)
  | _, [] => []
  | s, e :: es => m.entry s e :: trace (m.step s e).1 es

/-- Every step of the run meets `C`. -/
def Along (C : σ → ε → Prop) : σ → List ε → Prop
  | _, [] => True
  | s, e :: es => C s e ∧ Along C (m.step s e).1 es

@[simp] theorem run_nil (s : σ) : m.run s [] = s := rfl

@[simp] theorem run_cons (s : σ) (e : ε) (es : List ε) :
    m.run s (e :: es) = m.run (m.step s e).1 es := rfl

@[simp] theorem run_append (s : σ) (es fs : List ε) :
    m.run s (es ++ fs) = m.run (m.run s es) fs := by
  simp [run]

@[simp] theorem length_trace (s : σ) (es : List ε) : (m.trace s es).length = es.length := by
  induction es generalizing s with
  | nil => rfl
  | cons e es ih => simp [trace, ih]

/-- The events of a trace are the events of the run. -/
theorem map_event_trace (s : σ) (es : List ε) : (m.trace s es).map (·.event) = es := by
  induction es generalizing s with
  | nil => rfl
  | cons e es ih => simp [trace, entry, ih]

theorem trace_append (s : σ) (es fs : List ε) :
    m.trace s (es ++ fs) = m.trace s es ++ m.trace (m.run s es) fs := by
  induction es generalizing s with
  | nil => rfl
  | cons e es ih => simp [trace, ih]

theorem trace_append_singleton (s : σ) (es : List ε) (e : ε) :
    m.trace s (es ++ [e]) = m.trace s es ++ [m.entry (m.run s es) e] := by
  rw [trace_append]
  rfl

/-- The events of the steps that satisfy `p`, oldest first. -/
def eventsWhere (p : Entry σ ε ω → Bool) (s : σ) (es : List ε) : List ε :=
  ((m.trace s es).filter p).map (·.event)

theorem eventsWhere_append_singleton (p : Entry σ ε ω → Bool) (s : σ) (es : List ε) (e : ε) :
    m.eventsWhere p s (es ++ [e]) =
      m.eventsWhere p s es ++ if p (m.entry (m.run s es) e) then [e] else [] := by
  rw [eventsWhere, trace_append_singleton, List.filter_append, List.map_append]
  show _ ++ List.map _ (List.filter p [m.entry (m.run s es) e]) = _
  by_cases h : p (m.entry (m.run s es) e)
  · rw [List.filter_cons_of_pos h, if_pos h]
    rfl
  · rw [List.filter_cons_of_neg h, if_neg h]
    rfl

/-- The entry `i` of a trace: the step taken after the first `i` events. -/
theorem trace_getElem? (s : σ) (es : List ε) (i : Nat) :
    (m.trace s es)[i]? = es[i]?.map (m.entry (m.run s (es.take i))) := by
  induction es generalizing s i with
  | nil => simp [trace]
  | cons e es ih =>
    cases i with
    | zero => simp [trace]
    | succ i => simp [trace, ih]

/-- The first entries of a trace are the trace of the first events. -/
theorem trace_take (s : σ) (es : List ε) (i : Nat) :
    (m.trace s es).take i = m.trace s (es.take i) := by
  induction es generalizing s i with
  | nil => simp [trace]
  | cons e es ih =>
    cases i with
    | zero => simp [trace]
    | succ i => simp [trace, ih]

/-- A trace that splits is a run that splits. -/
theorem trace_eq_append {s : σ} {es : List ε} {xs ys : List (Entry σ ε ω)}
    (h : m.trace s es = xs ++ ys) :
    ∃ es₁ es₂, es = es₁ ++ es₂ ∧ xs = m.trace s es₁ ∧ ys = m.trace (m.run s es₁) es₂ := by
  induction xs generalizing s es with
  | nil => exact ⟨[], es, rfl, rfl, h.symm⟩
  | cons x xs ih =>
    cases es with
    | nil => cases h
    | cons e es =>
      rw [trace, List.cons_append, List.cons.injEq] at h
      obtain ⟨hx, hrest⟩ := h
      obtain ⟨es₁, es₂, hes, hxs, hys⟩ := ih hrest
      refine ⟨e :: es₁, es₂, ?_, ?_, hys⟩
      · rw [hes, List.cons_append]
      · rw [trace, hx, hxs]

/-- A trace that begins with an entry is a run that begins with its step. -/
theorem trace_eq_cons {s : σ} {es : List ε} {x : Entry σ ε ω} {ys : List (Entry σ ε ω)}
    (h : m.trace s es = x :: ys) :
    ∃ e es₁, es = e :: es₁ ∧ x = m.entry s e ∧ ys = m.trace (m.step s e).1 es₁ := by
  cases es with
  | nil => cases h
  | cons e es =>
    rw [trace, List.cons.injEq] at h
    exact ⟨e, es, rfl, h.1.symm, h.2.symm⟩

/-- A trace that splits at an entry is a run that splits at its step. -/
theorem trace_split {s : σ} {es : List ε} {xs ys : List (Entry σ ε ω)} {x : Entry σ ε ω}
    (h : m.trace s es = xs ++ x :: ys) :
    ∃ es₁ e es₂, es = es₁ ++ e :: es₂ ∧ xs = m.trace s es₁ ∧ x = m.entry (m.run s es₁) e ∧
      ys = m.trace (m.step (m.run s es₁) e).1 es₂ := by
  obtain ⟨es₁, es₂, hes, hxs, hrest⟩ := m.trace_eq_append h
  obtain ⟨e, es₃, hes₂, hx, hys⟩ := m.trace_eq_cons hrest.symm
  exact ⟨es₁, e, es₃, by rw [hes, hes₂], hxs, hx, hys⟩

@[simp] theorem along_append (C : σ → ε → Prop) (s : σ) (es fs : List ε) :
    m.Along C s (es ++ fs) ↔ m.Along C s es ∧ m.Along C (m.run s es) fs := by
  induction es generalizing s with
  | nil => simp [Along]
  | cons e es ih => simp [Along, ih, and_assoc]

theorem along_mono {C D : σ → ε → Prop} (h : ∀ s e, C s e → D s e) {s : σ} {es : List ε}
    (hC : m.Along C s es) : m.Along D s es := by
  induction es generalizing s with
  | nil => trivial
  | cons e es ih => exact ⟨h _ _ hC.1, ih hC.2⟩

/-- The condition of the step taken after the first `i` events. -/
theorem along_getElem? {C : σ → ε → Prop} {s : σ} {es : List ε} (hC : m.Along C s es)
    {i : Nat} {e : ε} (he : es[i]? = some e) : C (m.run s (es.take i)) e := by
  induction es generalizing s i with
  | nil => simp at he
  | cons e' es ih =>
    cases i with
    | zero =>
      simp only [List.getElem?_cons_zero, Option.some.injEq] at he
      subst he
      exact hC.1
    | succ i => exact ih hC.2 (by simpa using he)

/-- A run that is not one along the condition has a first step that fails it. -/
theorem exists_of_not_along {C : σ → ε → Prop} {s : σ} {es : List ε} (h : ¬ m.Along C s es) :
    ∃ es₁ e es₂, es = es₁ ++ e :: es₂ ∧ m.Along C s es₁ ∧ ¬ C (m.run s es₁) e := by
  induction es generalizing s with
  | nil => exact absurd trivial h
  | cons e es ih =>
    by_cases he : C s e
    · have hrest : ¬ m.Along C (m.step s e).1 es := fun hes => h ⟨he, hes⟩
      obtain ⟨es₁, e', es₂, rfl, hbefore, hfails⟩ := ih hrest
      exact ⟨e :: es₁, e', es₂, rfl, ⟨he, hbefore⟩, hfails⟩
    · exact ⟨[], e, es, rfl, trivial, he⟩

/-- Every entry of the trace is a step that meets the condition. -/
theorem along_mem_trace {C : σ → ε → Prop} {s : σ} {es : List ε} (hC : m.Along C s es)
    {x : Entry σ ε ω} (hx : x ∈ m.trace s es) : ∃ s' e, x = m.entry s' e ∧ C s' e := by
  induction es generalizing s with
  | nil => cases hx
  | cons e es ih =>
    rcases List.mem_cons.mp hx with rfl | hx
    · exact ⟨s, e, rfl, hC.1⟩
    · exact ih hC.2 hx

/-- A prefix of a run along `C` is a run along `C`. -/
theorem along_take {C : σ → ε → Prop} {s : σ} {es : List ε} (hC : m.Along C s es) (i : Nat) :
    m.Along C s (es.take i) := by
  rw [← List.take_append_drop i es, along_append] at hC
  exact hC.1

/-- Every run is a run along the trivial condition. -/
theorem along_true (s : σ) (es : List ε) : m.Along (fun _ _ => True) s es := by
  induction es generalizing s with
  | nil => trivial
  | cons e es ih => exact ⟨trivial, ih _⟩

/-- A condition on the events of a list is a condition along every run over it. -/
theorem along_of_forall {p : ε → Prop} {es : List ε} (h : ∀ e ∈ es, p e) (s : σ) :
    m.Along (fun _ e => p e) s es := by
  induction es generalizing s with
  | nil => trivial
  | cons e es ih =>
    exact ⟨h e (by simp), ih (fun e' he' => h e' (by simp [he'])) _⟩

/-- A state predicate that every step along `C` keeps holds after every run along `C`. -/
theorem invariant {C : σ → ε → Prop} {P : σ → Prop}
    (hstep : ∀ s e, P s → C s e → P (m.step s e).1) {s : σ} (hs : P s) {es : List ε}
    (hC : m.Along C s es) : P (m.run s es) := by
  induction es generalizing s with
  | nil => exact hs
  | cons e es ih => exact ih (hstep s e hs hC.1) hC.2

/-- When a step has the property `P` exactly under the condition `C`, as long as the state before
it is good, and a step with the property leads to a good state, then all steps of a run have the
property exactly when the run is one along `C`. -/
theorem forall_trace_iff_along {C : σ → ε → Prop} {P : Entry σ ε ω → Prop} {I : σ → Prop}
    (hstep : ∀ s e, I s → (P (m.entry s e) ↔ C s e))
    (hnext : ∀ s e, I s → P (m.entry s e) → I (m.step s e).1) {s : σ} (hs : I s) (es : List ε) :
    (∀ x ∈ m.trace s es, P x) ↔ m.Along C s es := by
  induction es generalizing s with
  | nil => simp [trace, Along]
  | cons e es ih =>
    rw [trace, List.forall_mem_cons, Along, hstep s e hs]
    refine and_congr_right fun hC => ih (hnext s e hs ?_)
    exact (hstep s e hs).mpr hC

/-- A relation between trace and state that every step along `C` keeps holds after every
run along `C`. -/
theorem history_invariant {C : σ → ε → Prop} {P : List (Entry σ ε ω) → σ → Prop} {s : σ}
    (h0 : P [] s)
    (hstep : ∀ tr s e, P tr s → C s e → P (tr ++ [m.entry s e]) (m.step s e).1)
    {es : List ε} (hC : m.Along C s es) : P (m.trace s es) (m.run s es) := by
  -- Generalised over the trace that leads to `s`, so that the induction runs forward.
  have key : ∀ (es : List ε) (tr : List (Entry σ ε ω)) (s : σ), P tr s → m.Along C s es →
      P (tr ++ m.trace s es) (m.run s es) := by
    intro es
    induction es with
    | nil =>
      intro tr s h _
      simpa [trace] using h
    | cons e es ih =>
      intro tr s h hC
      have h' := ih (tr ++ [m.entry s e]) (m.step s e).1 (hstep tr s e h hC.1) hC.2
      simpa [trace] using h'
  simpa using key es [] s h0 hC

/-- The rule of the potential. When no step costs more than it takes off the potential and its event
brings in, no run costs more than it has at first and its events bring in. -/
theorem potential {I : σ → Prop} {Φ : σ → Nat} {cost : Entry σ ε ω → Nat} {income : ε → Nat}
    (hstep : ∀ s e, I s → cost (m.entry s e) + Φ (m.step s e).1 ≤ Φ s + income e)
    (hnext : ∀ s e, I s → I (m.step s e).1) {s : σ} (hs : I s) (es : List ε) :
    ((m.trace s es).map cost).sum + Φ (m.run s es) ≤ Φ s + (es.map income).sum := by
  induction es generalizing s with
  | nil => simp [trace]
  | cons e es ih =>
    have hhead := hstep s e hs
    have htail := ih (hnext s e hs)
    simp only [trace, List.map_cons, List.sum_cons, run_cons]
    omega

end Machine

end MobileUnlock.Lib
