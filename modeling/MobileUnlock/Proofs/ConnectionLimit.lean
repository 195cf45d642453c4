import MobileUnlock.Network.RateLimit
import MobileUnlock.Lib.FixedWindow
import Mathlib.Data.List.Induction

/-!
# `MobileUnlock.Proofs.ConnectionLimit`: how often an address may connect

`checkEntry_cases` says everything one call can do: it opens a window, it is refused by a
block, it sets the block, or it is counted. The rest follows from it.

The end of a block is kept as an absolute tick and compared with the current one. Near the turn
of the counter this goes wrong in two ways: the end of a block set in the last fifteen minutes
before the turn is a small number, so that the block is gone at once, and a block that nobody
tests before the turn comes back to life behind it. `block_lasts_fifteen_minutes` is about the
runs without the two.

The minute is counted from the call that opens it (`FixedWindow`), so an interval of one minute
can have nine accepted calls, and no more.
-/

set_option autoImplicit false

namespace MobileUnlock.Network

open MobileUnlock.Lib MobileUnlock.Lib.Win32

/-! ### One call -/

/-- The call finds no entry, or an entry that is not blocked and whose window is over. -/
def OpensWindow (now : UInt32) : Option RateLimitEntry → Prop
  | none => True
  | some entry => entry.blockedUntilMs ≤ now ∧ 60000 < now - entry.firstAttemptMs

/-- The call finds an entry that is not blocked, in its window. -/
def InWindow (now : UInt32) (entry : RateLimitEntry) : Prop :=
  entry.blockedUntilMs ≤ now ∧ now - entry.firstAttemptMs ≤ 60000

/-- The call is refused because it is one too many, and not by a block. -/
def ExceedsLimit (now : UInt32) (entry : RateLimitEntry) : Prop :=
  InWindow now entry ∧ 5 < entry.attemptCount + 1

instance (now : UInt32) (entry : RateLimitEntry) : Decidable (InWindow now entry) :=
  inferInstanceAs (Decidable (_ ∧ _))

instance (now : UInt32) (entry : RateLimitEntry) : Decidable (ExceedsLimit now entry) :=
  inferInstanceAs (Decidable (_ ∧ _))

theorem checkEntry_of_opensWindow {now : UInt32} {found : Option RateLimitEntry}
    (h : OpensWindow now found) : checkEntry now found = (some ⟨now, 1, 0⟩, true) := by
  cases found with
  | none => rfl
  | some entry => simp [checkEntry, UInt32.not_lt.mpr h.1, h.2]

theorem checkEntry_of_blocked {now : UInt32} {entry : RateLimitEntry}
    (h : now < entry.blockedUntilMs) : checkEntry now (some entry) = (some entry, false) := by
  simp [checkEntry, h]

theorem checkEntry_of_exceedsLimit {now : UInt32} {entry : RateLimitEntry}
    (h : ExceedsLimit now entry) :
    checkEntry now (some entry) =
      (some ⟨entry.firstAttemptMs, entry.attemptCount + 1, now + 900000⟩, false) := by
  simp [checkEntry, UInt32.not_lt.mpr h.1.1, UInt32.not_lt.mpr h.1.2, h.2]

theorem checkEntry_of_counted {now : UInt32} {entry : RateLimitEntry} (h : InWindow now entry)
    (hcount : entry.attemptCount + 1 ≤ 5) :
    checkEntry now (some entry) =
      (some { entry with attemptCount := entry.attemptCount + 1 }, true) := by
  simp [checkEntry, UInt32.not_lt.mpr h.1, UInt32.not_lt.mpr h.2, UInt32.not_lt.mpr hcount]

/-- Everything a call can find. -/
theorem checkEntry_cases (now : UInt32) (found : Option RateLimitEntry) :
    OpensWindow now found ∨ ∃ entry, found = some entry ∧
      (now < entry.blockedUntilMs ∨ ExceedsLimit now entry ∨
        InWindow now entry ∧ entry.attemptCount + 1 ≤ 5) := by
  cases found with
  | none => exact .inl trivial
  | some entry =>
    rcases UInt32.lt_or_le now entry.blockedUntilMs with hblock | hfree
    · exact .inr ⟨entry, rfl, .inl hblock⟩
    · rcases UInt32.lt_or_le 60000 (now - entry.firstAttemptMs) with hout | hin
      · exact .inl ⟨hfree, hout⟩
      · rcases UInt32.lt_or_le 5 (entry.attemptCount + 1) with hexc | hcount
        · exact .inr ⟨entry, rfl, .inr (.inl ⟨⟨hfree, hin⟩, hexc⟩)⟩
        · exact .inr ⟨entry, rfl, .inr (.inr ⟨⟨hfree, hin⟩, hcount⟩)⟩

/-! ### The block of fifteen minutes -/

/-- The limiter before the first call. -/
def noLimits : RateLimits := fun _ => none

/-- What a run answers to the calls of one address: the times and the results. -/
def outcomes (ip : Bytes) (calls : List (Bytes × Nat)) : List (Nat × Bool) :=
  ((connectionLimiter.trace noLimits calls).filter (·.event.1 = ip)).map
    fun x => (x.event.2, x.output)

/-- The results of an address are those of its own limiter. -/
theorem outcomes_eq (ip : Bytes) (calls : List (Bytes × Nat)) :
    outcomes ip calls =
      (addressLimiter.trace none (eventsOf ip calls)).map fun x => (x.event, x.output) := by
  have htrace := addressLimiter.keyed_trace noLimits calls ip
  rw [outcomes, connectionLimiter_eq_keyed]
  show _ = (addressLimiter.trace (noLimits ip) _).map _
  rw [← htrace, List.map_map]
  rfl

/-- While the tick is below the end of the block, a call is refused and changes nothing. -/
theorem blocked_check {entry : RateLimitEntry} {t T : Nat}
    (hblock : entry.blockedUntilMs.toNat = t % 2 ^ 32 + 900000) (hT : t ≤ T)
    (hT' : T < t + 900000) :
    checkEntry (getTickCount T) (some entry) = (some entry, false) := by
  have hend := entry.blockedUntilMs.toNat_lt
  refine checkEntry_of_blocked ?_
  rw [UInt32.lt_iff_toNat_lt, toNat_getTickCount, hblock]
  omega

theorem blocked_run {entry : RateLimitEntry} {t : Nat}
    (hblock : entry.blockedUntilMs.toNat = t % 2 ^ 32 + 900000) {times : List Nat}
    (htimes : ∀ T ∈ times, t ≤ T ∧ T < t + 900000) :
    addressLimiter.run (some entry) times = some entry := by
  induction times with
  | nil => rfl
  | cons T times ih =>
    have hT := htimes T (by simp)
    have hstep : (addressLimiter.step (some entry) T).1 = some entry := by
      show (checkEntry (getTickCount T) (some entry)).1 = some entry
      rw [blocked_check hblock hT.1 hT.2]
    rw [Machine.run_cons, hstep]
    exact ih fun T' hT' => htimes T' (by simp [hT'])

/-- The first call of the address that comes fifteen minutes after `t` or later. -/
def release (ip : Bytes) (t : Nat) (later : List (Bytes × Nat)) : Option (Bytes × Nat) :=
  later.find? fun c => c.1 = ip ∧ t + 900000 ≤ c.2

/-- A block of fifteen minutes from `t` on, in the calls that come later: the calls of the
address within the fifteen minutes are refused, and the first one behind them is accepted. -/
def BlockedFifteenMinutes (ip : Bytes) (t : Nat)
    (later : List (Entry RateLimits (Bytes × Nat) Bool)) : Prop :=
  (∀ x ∈ later, x.event.1 = ip → x.event.2 < t + 900000 → x.output = false) ∧
  ∀ x, later.find? (fun x => x.event.1 = ip ∧ t + 900000 ≤ x.event.2) = some x →
    x.output = true

/-- The ticks can tell when a block set at `t` is over: its end is a tick of the same turn of the
counter, and the first call behind the fifteen minutes has a tick that is not below that end and
not in the window again. -/
structure BlockEndsInTicks (entry : RateLimitEntry) (ip : Bytes) (t : Nat)
    (later : List (Bytes × Nat)) : Prop where
  blockEnd : t % 2 ^ 32 + 900000 < 2 ^ 32
  release : ∀ c, release ip t later = some c →
    t % 2 ^ 32 + 900000 ≤ c.2 % 2 ^ 32 ∧ 60000 < getTickCount c.2 - entry.firstAttemptMs

/-- The entry with the block stays as it is through the calls of the fifteen minutes, whatever
the other addresses do. -/
theorem blocked_entry {s : RateLimits} {ip : Bytes} {entry : RateLimitEntry} {t : Nat}
    (hs : s ip = some entry) (hblock : entry.blockedUntilMs.toNat = t % 2 ^ 32 + 900000)
    {calls : List (Bytes × Nat)}
    (hcalls : ∀ c ∈ calls, c.1 = ip → t ≤ c.2 ∧ c.2 < t + 900000) :
    connectionLimiter.run s calls ip = some entry := by
  rw [connectionLimiter_eq_keyed, Machine.keyed_run, hs]
  refine blocked_run hblock ?_
  intro T hT
  exact hcalls (ip, T) (mem_eventsOf.mp hT) rfl

/-- From a state with the block on, the calls that come later see a block of fifteen minutes. -/
theorem blockedFifteenMinutes_of_entry {s : RateLimits} {ip : Bytes} {entry : RateLimitEntry}
    {t : Nat} (hs : s ip = some entry)
    (hblock : entry.blockedUntilMs.toNat = t % 2 ^ 32 + 900000) {later : List (Bytes × Nat)}
    (hafter : ∀ c ∈ later, t ≤ c.2) (htimes : later.Pairwise fun c d => c.2 ≤ d.2)
    (hticks : BlockEndsInTicks entry ip t later) :
    BlockedFifteenMinutes ip t (connectionLimiter.trace s later) := by
  constructor
  · intro x hx hip hlt
    obtain ⟨xs, ys, hsplit⟩ := List.append_of_mem hx
    obtain ⟨mid, c, rest, rfl, -, rfl, -⟩ := connectionLimiter.trace_split hsplit
    have hmid : ∀ d ∈ mid, d.1 = ip → t ≤ d.2 ∧ d.2 < t + 900000 := by
      intro d hd _
      have hdc : d.2 ≤ c.2 := (List.pairwise_append.mp htimes).2.2 d hd c (by simp)
      exact ⟨hafter d (by simp [hd]), lt_of_le_of_lt hdc hlt⟩
    have hentry := blocked_entry hs hblock hmid
    show (checkEntry (getTickCount c.2) (connectionLimiter.run s mid c.1)).2 = false
    rw [show c.1 = ip from hip, hentry, blocked_check hblock (hafter c (by simp)) hlt]
  · intro x hx
    obtain ⟨hcond, xs, ys, hsplit, hbefore⟩ := List.find?_eq_some_iff_append.mp hx
    obtain ⟨mid, c, rest, rfl, rfl, rfl, -⟩ := connectionLimiter.trace_split hsplit
    obtain ⟨hip, hover⟩ : c.1 = ip ∧ t + 900000 ≤ c.2 := of_decide_eq_true hcond
    have hmid : ∀ d ∈ mid, ¬ (d.1 = ip ∧ t + 900000 ≤ d.2) := by
      intro d hd
      rw [← connectionLimiter.map_event_trace s mid] at hd
      obtain ⟨y, hy, rfl⟩ := List.mem_map.mp hd
      simpa [imp_iff_not_or] using hbefore y hy
    have hrelease : release ip t (mid ++ c :: rest) = some c := by
      refine List.find?_eq_some_iff_append.mpr ⟨decide_eq_true ⟨hip, hover⟩, mid, rest, rfl, ?_⟩
      intro d hd
      simpa [imp_iff_not_or] using hmid d hd
    obtain ⟨hend, hwindow⟩ := hticks.release c hrelease
    have hentry : connectionLimiter.run s mid ip = some entry := by
      refine blocked_entry hs hblock ?_
      intro d hd hdip
      refine ⟨hafter d (by simp [hd]), ?_⟩
      by_contra hlate
      exact hmid d hd ⟨hdip, by omega⟩
    have hopens : OpensWindow (getTickCount c.2) (some entry) := by
      refine ⟨?_, hwindow⟩
      rw [UInt32.le_iff_toNat_le, toNat_getTickCount, hblock]
      exact hend
    show (checkEntry (getTickCount c.2) (connectionLimiter.run s mid c.1)).2 = true
    rw [hip, hentry, checkEntry_of_opensWindow hopens]

/-- In a run whose times do not decrease, take a call that is refused for exceeding the limit and
whose block ends in ticks. The address is blocked for fifteen minutes. And in every run the
results of an address are those it has alone. -/
theorem block_lasts_fifteen_minutes (calls : List (Bytes × Nat))
    (htimes : calls.Pairwise fun c d => c.2 ≤ d.2) :
    (∀ pre ip t post entry, calls = pre ++ (ip, t) :: post →
      connectionLimiter.run noLimits pre ip = some entry →
      ExceedsLimit (getTickCount t) entry → BlockEndsInTicks entry ip t post →
      BlockedFifteenMinutes ip t
        (connectionLimiter.trace (connectionLimiter.run noLimits (pre ++ [(ip, t)])) post)) ∧
    ∀ ip, outcomes ip calls = outcomes ip (calls.filter (·.1 = ip)) := by
  constructor
  · intro pre ip t post entry hcalls hentry hexceeds hticks
    subst hcalls
    have hpost := List.pairwise_cons.mp (List.pairwise_append.mp htimes).2.1
    -- The refused call leaves the entry with the end of the block.
    have hstate : connectionLimiter.run noLimits (pre ++ [(ip, t)]) ip =
        some ⟨entry.firstAttemptMs, entry.attemptCount + 1, getTickCount t + 900000⟩ := by
      rw [Machine.run_append, connectionLimiter_eq_keyed, Machine.keyed_run,
        ← connectionLimiter_eq_keyed, hentry, eventsOf_cons_self]
      show (checkEntry (getTickCount t) (some entry)).1 = _
      rw [checkEntry_of_exceedsLimit hexceeds]
    refine blockedFifteenMinutes_of_entry hstate ?_ hpost.1 hpost.2 ⟨hticks.1, hticks.2⟩
    have := hticks.blockEnd
    show (getTickCount t + 900000).toNat = _
    rw [UInt32.toNat_add, toNat_getTickCount]
    simp only [UInt32.reduceToNat]
    omega
  · intro ip
    rw [outcomes_eq, outcomes_eq]
    simp [eventsOf]

/-- A block set at 1000 ms refuses at 900999 ms and is over at 901000 ms, while another address
connects. -/
theorem block_lasts_at_1000 :
    BlockedFifteenMinutes (ascii "10.0.0.2") 1000
      (connectionLimiter.trace
        (connectionLimiter.run noLimits
          (List.replicate 5 (ascii "10.0.0.2", 1000) ++ [(ascii "10.0.0.2", 1000)]))
        [(ascii "10.0.0.3", 5000), (ascii "10.0.0.2", 900999), (ascii "10.0.0.2", 901000)]) :=
  (block_lasts_fifteen_minutes
    (List.replicate 5 (ascii "10.0.0.2", 1000) ++ (ascii "10.0.0.2", 1000) ::
      [(ascii "10.0.0.3", 5000), (ascii "10.0.0.2", 900999), (ascii "10.0.0.2", 901000)])
    (by decide +kernel)).1 _ _ _ _ ⟨1000, 5, 0⟩ rfl (by decide +kernel) (by decide +kernel)
    ⟨by decide, by decide +kernel⟩

/-- A block that is set 67.296 seconds before the turn of the counter ends at the tick 832704,
which is in the past: one minute after the first attempt the address is let in again. -/
theorem block_gone_before_turn :
    ¬ ∀ calls : List (Bytes × Nat), calls.Pairwise (fun c d => c.2 ≤ d.2) →
      ∀ pre ip t post entry, calls = pre ++ (ip, t) :: post →
        connectionLimiter.run noLimits pre ip = some entry →
        ExceedsLimit (getTickCount t) entry →
        BlockedFifteenMinutes ip t
          (connectionLimiter.trace (connectionLimiter.run noLimits (pre ++ [(ip, t)])) post) := by
  intro hall
  have hblocked := hall
    (List.replicate 5 (ascii "10.0.0.2", 4294900000) ++ (ascii "10.0.0.2", 4294900000) ::
      [(ascii "10.0.0.2", 4294960001)])
    (by decide +kernel) _ _ _ _ ⟨4294900000, 5, 0⟩ rfl (by decide +kernel) (by decide +kernel)
  have hrefused := hblocked.1 _ List.mem_cons_self (by decide +kernel) (by decide +kernel)
  revert hrefused
  decide +kernel

/-! ### The window of one minute -/

instance (now : UInt32) (found : Option RateLimitEntry) : Decidable (OpensWindow now found) :=
  match found with
  | none => inferInstanceAs (Decidable True)
  | some _ => inferInstanceAs (Decidable (_ ∧ _))

/-- The times of the calls that the limiter of an address accepts. -/
def acceptedTimes (times : List Nat) : List Nat := addressLimiter.eventsWhere (·.output) none times

/-- The times of the calls that open a window. -/
def openedTimes (times : List Nat) : List Nat :=
  addressLimiter.eventsWhere (fun x => OpensWindow (getTickCount x.event) x.before) none times

/-- The calls in the last fifteen minutes before the turn of the counter. -/
def lateCalls (times : List Nat) : Nat := times.countP fun T => 2 ^ 32 ≤ T + 900000

theorem acceptedTimes_append_singleton (times : List Nat) (T : Nat) :
    acceptedTimes (times ++ [T]) = acceptedTimes times ++
      if (checkEntry (getTickCount T) (addressLimiter.run none times)).2 then [T] else [] :=
  addressLimiter.eventsWhere_append_singleton _ _ _ _

theorem openedTimes_append_singleton (times : List Nat) (T : Nat) :
    openedTimes (times ++ [T]) = openedTimes times ++
      if OpensWindow (getTickCount T) (addressLimiter.run none times) then [T] else [] := by
  refine (addressLimiter.eventsWhere_append_singleton _ _ _ _).trans ?_
  congr 1
  by_cases h : OpensWindow (getTickCount T) (addressLimiter.run none times) <;>
    simp [Machine.entry, h]

theorem lateCalls_append_singleton (times : List Nat) (T : Nat) :
    lateCalls (times ++ [T]) = lateCalls times + if 2 ^ 32 ≤ T + 900000 then 1 else 0 := by
  rw [lateCalls, List.countP_append, List.countP_singleton]
  simp only [decide_eq_true_iff]
  rfl

/-- The entry of an address counts its calls as a fixed window of one minute and five calls does.
Behind the fifth call the count runs on only in the last fifteen minutes before the turn, where
the block does not hold. -/
structure Counting (times : List Nat) (entry : RateLimitEntry) : Prop where
  first_mem : entry.firstAttemptMs.toNat ∈ times
  window : FixedWindow 60000 5 (acceptedTimes times) (openedTimes times)
    entry.firstAttemptMs.toNat (min entry.attemptCount.toNat 5)
  count_le : entry.attemptCount.toNat ≤ 6 + lateCalls times
  blocked : 5 < entry.attemptCount.toNat → lateCalls times = 0 →
    entry.firstAttemptMs.toNat + 60000 < entry.blockedUntilMs.toNat

/-- What the limiter of an address holds after the calls at `times`. -/
def Counted (times : List Nat) : Option RateLimitEntry → Prop
  | none => times = []
  | some entry => Counting times entry

/-- A call in the window of the entry, by the times. -/
theorem inWindow_iff {T : Nat} (hT : T < 2 ^ 32) {entry : RateLimitEntry}
    (hfirst : entry.firstAttemptMs.toNat ≤ T) :
    getTickCount T - entry.firstAttemptMs ≤ 60000 ↔ T ≤ entry.firstAttemptMs.toNat + 60000 := by
  rw [UInt32.le_iff_toNat_le, UInt32.toNat_sub, toNat_getTickCount]
  simp only [UInt32.reduceToNat]
  omega

section Step
variable {times : List Nat} {T : Nat}

/-- The limiter of an address after one call more. -/
theorem run_append_singleton (times : List Nat) (T : Nat) :
    addressLimiter.run none (times ++ [T]) =
      (checkEntry (getTickCount T) (addressLimiter.run none times)).1 := by
  rw [Machine.run_append]
  rfl

theorem counted_of_opensWindow (hmono : ∀ x ∈ times, x ≤ T) (hT : T < 2 ^ 32)
    (h : Counted times (addressLimiter.run none times))
    (hopens : OpensWindow (getTickCount T) (addressLimiter.run none times)) :
    Counted (times ++ [T]) (addressLimiter.run none (times ++ [T])) := by
  have htick : (getTickCount T).toNat = T := by
    rw [toNat_getTickCount]
    omega
  have hcheck := checkEntry_of_opensWindow hopens
  have hacc := acceptedTimes_append_singleton times T
  have hopen := openedTimes_append_singleton times T
  rw [hcheck, if_pos rfl] at hacc
  rw [if_pos hopens] at hopen
  have hwindow : FixedWindow 60000 5 (acceptedTimes (times ++ [T]))
      (openedTimes (times ++ [T])) T 1 := by
    rw [hacc, hopen]
    cases hfound : addressLimiter.run none times with
    | none =>
      rw [hfound] at h
      have hnil : times = [] := h
      subst hnil
      exact .start T
    | some entry =>
      rw [hfound] at h hopens
      refine .restart h.window ?_
      by_contra hle
      have := (inWindow_iff hT (hmono _ h.first_mem)).mpr (by omega)
      exact absurd hopens.2 (UInt32.not_lt.mpr this)
  rw [run_append_singleton, hcheck]
  refine ⟨by simp [htick], ?_, ?_, ?_⟩
  · show FixedWindow 60000 5 _ _ (getTickCount T).toNat 1
    rw [htick]
    exact hwindow
  · show 1 ≤ _
    omega
  · show 5 < 1 → _
    omega

/-- A call that opens no window leaves the opened windows as they are. -/
theorem openedTimes_of_not_opensWindow {entry : RateLimitEntry}
    (hfound : addressLimiter.run none times = some entry)
    (hnot : ¬ OpensWindow (getTickCount T) (some entry)) :
    openedTimes (times ++ [T]) = openedTimes times := by
  rw [openedTimes_append_singleton, hfound, if_neg hnot, List.append_nil]

/-- A call that is refused leaves the accepted calls as they are. -/
theorem acceptedTimes_of_refused {entry : RateLimitEntry}
    (hfound : addressLimiter.run none times = some entry)
    (hrefused : (checkEntry (getTickCount T) (some entry)).2 = false) :
    acceptedTimes (times ++ [T]) = acceptedTimes times := by
  rw [acceptedTimes_append_singleton, hfound, hrefused, if_neg (by simp), List.append_nil]

theorem counted_of_blocked {entry : RateLimitEntry}
    (hfound : addressLimiter.run none times = some entry) (h : Counting times entry)
    (hblocked : getTickCount T < entry.blockedUntilMs) :
    Counted (times ++ [T]) (addressLimiter.run none (times ++ [T])) := by
  have hcheck := checkEntry_of_blocked hblocked
  have hlates := lateCalls_append_singleton times T
  have hnot : ¬ OpensWindow (getTickCount T) (some entry) :=
    fun ho => UInt32.not_le.mpr hblocked ho.1
  rw [run_append_singleton, hfound, hcheck]
  refine ⟨by simp [h.first_mem], ?_, ?_, ?_⟩
  · rw [acceptedTimes_of_refused hfound (by rw [hcheck]),
      openedTimes_of_not_opensWindow hfound hnot]
    exact h.window
  · have := h.count_le
    omega
  · intro hgt hzero
    exact h.blocked hgt (by omega)

/-- A count behind the fifth call that finds no block is late. -/
theorem Counting.late {entry : RateLimitEntry} (h : Counting times entry)
    (hmono : ∀ x ∈ times, x ≤ T) (hT : T < 2 ^ 32) (hin : InWindow (getTickCount T) entry)
    (hgt : 5 < entry.attemptCount.toNat) : 2 ^ 32 ≤ T + 900000 := by
  have hend := (inWindow_iff hT (hmono _ h.first_mem)).mp hin.2
  have hfree := hin.1
  rw [UInt32.le_iff_toNat_le, toNat_getTickCount] at hfree
  have hlate : lateCalls times ≠ 0 := by
    intro hzero
    have := h.blocked hgt hzero
    omega
  obtain ⟨x, hx, hxlate⟩ := List.countP_pos_iff.mp (Nat.pos_of_ne_zero hlate)
  have hxT := hmono x hx
  have := of_decide_eq_true hxlate
  omega

/-- The count does not overflow. -/
theorem Counting.toNat_count_succ {entry : RateLimitEntry} (h : Counting times entry)
    (hmono : ∀ x ∈ times, x ≤ T) (hT : T < 2 ^ 32)
    (hlate : lateCalls (times ++ [T]) + 6 < 2 ^ 32) (hin : InWindow (getTickCount T) entry) :
    (entry.attemptCount + 1).toNat = entry.attemptCount.toNat + 1 ∧
      entry.attemptCount.toNat + 1 ≤ 6 + lateCalls (times ++ [T]) := by
  have hlates := lateCalls_append_singleton times T
  have hle : entry.attemptCount.toNat + 1 ≤ 6 + lateCalls (times ++ [T]) := by
    rcases Nat.lt_or_ge 5 entry.attemptCount.toNat with hgt | hfew
    · have := h.count_le
      rw [if_pos (h.late hmono hT hin hgt)] at hlates
      omega
    · omega
  refine ⟨?_, hle⟩
  rw [UInt32.toNat_add, UInt32.toNat_one]
  omega

theorem counted_of_exceedsLimit {entry : RateLimitEntry}
    (hfound : addressLimiter.run none times = some entry) (h : Counting times entry)
    (hmono : ∀ x ∈ times, x ≤ T) (hT : T < 2 ^ 32)
    (hlate : lateCalls (times ++ [T]) + 6 < 2 ^ 32)
    (hexceeds : ExceedsLimit (getTickCount T) entry) :
    Counted (times ++ [T]) (addressLimiter.run none (times ++ [T])) := by
  have hcheck := checkEntry_of_exceedsLimit hexceeds
  obtain ⟨hin, hgt⟩ := hexceeds
  obtain ⟨hsucc, hle⟩ := h.toNat_count_succ hmono hT hlate hin
  have hnot : ¬ OpensWindow (getTickCount T) (some entry) :=
    fun ho => UInt32.not_lt.mpr hin.2 ho.2
  rw [UInt32.lt_iff_toNat_lt, hsucc] at hgt
  simp only [UInt32.reduceToNat] at hgt
  rw [run_append_singleton, hfound, hcheck]
  refine ⟨by simp [h.first_mem], ?_, ?_, ?_⟩
  · rw [acceptedTimes_of_refused hfound (by rw [hcheck]),
      openedTimes_of_not_opensWindow hfound hnot]
    show FixedWindow 60000 5 _ _ entry.firstAttemptMs.toNat (min (entry.attemptCount + 1).toNat 5)
    have hmin : min (entry.attemptCount + 1).toNat 5 = min entry.attemptCount.toNat 5 := by omega
    rw [hmin]
    exact h.window
  · show (entry.attemptCount + 1).toNat ≤ _
    omega
  · intro _ hzero
    have hfirst := hmono _ h.first_mem
    have hlates := lateCalls_append_singleton times T
    show entry.firstAttemptMs.toNat + 60000 < (getTickCount T + 900000).toNat
    rw [UInt32.toNat_add, toNat_getTickCount]
    simp only [UInt32.reduceToNat]
    split at hlates <;> omega

theorem counted_of_counted {entry : RateLimitEntry}
    (hfound : addressLimiter.run none times = some entry) (h : Counting times entry)
    (hmono : ∀ x ∈ times, x ≤ T) (hT : T < 2 ^ 32)
    (hlate : lateCalls (times ++ [T]) + 6 < 2 ^ 32) (hin : InWindow (getTickCount T) entry)
    (hcount : entry.attemptCount + 1 ≤ 5) :
    Counted (times ++ [T]) (addressLimiter.run none (times ++ [T])) := by
  have hcheck := checkEntry_of_counted hin hcount
  have hacc := acceptedTimes_append_singleton times T
  obtain ⟨hsucc, hle⟩ := h.toNat_count_succ hmono hT hlate hin
  have hfirst := hmono _ h.first_mem
  have hend := (inWindow_iff hT hfirst).mp hin.2
  have hnot : ¬ OpensWindow (getTickCount T) (some entry) :=
    fun ho => UInt32.not_lt.mpr hin.2 ho.2
  rw [UInt32.le_iff_toNat_le, hsucc] at hcount
  simp only [UInt32.reduceToNat] at hcount
  rw [hfound, hcheck, if_pos rfl] at hacc
  rw [run_append_singleton, hfound, hcheck]
  refine ⟨by simp [h.first_mem], ?_, ?_, ?_⟩
  · rw [hacc, openedTimes_of_not_opensWindow hfound hnot]
    show FixedWindow 60000 5 _ _ entry.firstAttemptMs.toNat (min (entry.attemptCount + 1).toNat 5)
    have hmin : min (entry.attemptCount + 1).toNat 5 = min entry.attemptCount.toNat 5 + 1 := by
      omega
    rw [hmin]
    exact .count h.window hfirst hend (by omega)
  · show (entry.attemptCount + 1).toNat ≤ _
    omega
  · show 5 < (entry.attemptCount + 1).toNat → _
    omega

end Step

/-- The limiter of an address refines the fixed window. -/
theorem counted_run {times : List Nat} (hmono : times.Pairwise (· ≤ ·))
    (hlt : ∀ T ∈ times, T < 2 ^ 32) (hlate : lateCalls times + 6 < 2 ^ 32) :
    Counted times (addressLimiter.run none times) := by
  induction times using List.reverseRecOn with
  | nil => rfl
  | append_singleton times T ih =>
    obtain ⟨hbefore, -, hlast⟩ := List.pairwise_append.mp hmono
    have hle : ∀ x ∈ times, x ≤ T := fun x hx => hlast x hx T (by simp)
    have hT := hlt T (by simp)
    have hlates := lateCalls_append_singleton times T
    have h := ih hbefore (fun x hx => hlt x (by simp [hx])) (by omega)
    rcases checkEntry_cases (getTickCount T) (addressLimiter.run none times) with
      hopens | ⟨entry, hfound, hcase⟩
    · exact counted_of_opensWindow hle hT h hopens
    · rw [hfound] at h
      rcases hcase with hblocked | hexceeds | ⟨hin, hcount⟩
      · exact counted_of_blocked hfound h hblocked
      · exact counted_of_exceedsLimit hfound h hle hT hlate hexceeds
      · exact counted_of_counted hfound h hle hT hlate hin hcount

/-- The times of the accepted calls of an address. -/
def acceptedCalls (ip : Bytes) (calls : List (Bytes × Nat)) : List Nat :=
  ((outcomes ip calls).filter (·.2)).map (·.1)

theorem acceptedCalls_eq (ip : Bytes) (calls : List (Bytes × Nat)) :
    acceptedCalls ip calls = acceptedTimes (eventsOf ip calls) := by
  rw [acceptedCalls, outcomes_eq, List.filter_map, List.map_map]
  rfl

/-- A call that opens a window is one of the opening calls of its address. -/
theorem mem_openedTimes {pre post : List (Bytes × Nat)} {ip : Bytes} {f : Nat}
    (hopens : OpensWindow (getTickCount f) (connectionLimiter.run noLimits pre ip)) :
    f ∈ openedTimes (eventsOf ip (pre ++ (ip, f) :: post)) := by
  rw [connectionLimiter_eq_keyed, Machine.keyed_run] at hopens
  rw [eventsOf_append, eventsOf_cons_self, openedTimes, Machine.eventsWhere, Machine.trace_append,
    List.mem_map]
  refine ⟨addressLimiter.entry (addressLimiter.run none (eventsOf ip pre)) f, ?_, rfl⟩
  simp only [List.mem_filter, List.mem_append, decide_eq_true_iff]
  exact ⟨.inr List.mem_cons_self, hopens⟩

/-- Take a run before the turn of the counter, with times that do not decrease. Every interval of
one minute has at most nine accepted calls of an address, and the minute from a call that opens a
window on has at most five. -/
theorem nine_in_every_minute (calls : List (Bytes × Nat))
    (htimes : calls.Pairwise fun c d => c.2 ≤ d.2) (hturn : ∀ c ∈ calls, c.2 < 2 ^ 32)
    (ip : Bytes) (hlate : lateCalls (eventsOf ip calls) + 6 < 2 ^ 32) :
    (∀ a, (within 60000 a (acceptedCalls ip calls)).length ≤ 9) ∧
    ∀ pre f post, calls = pre ++ (ip, f) :: post →
      OpensWindow (getTickCount f) (connectionLimiter.run noLimits pre ip) →
      (within 60000 f (acceptedCalls ip calls)).length ≤ 5 := by
  have hmono : (eventsOf ip calls).Pairwise (· ≤ ·) :=
    List.pairwise_map.mpr (htimes.filter _)
  have hlt : ∀ T ∈ eventsOf ip calls, T < 2 ^ 32 :=
    fun T hT => hturn (ip, T) (mem_eventsOf.mp hT)
  have h := counted_run hmono hlt hlate
  rw [acceptedCalls_eq]
  cases hrun : addressLimiter.run none (eventsOf ip calls) with
  | none =>
    rw [hrun] at h
    have hnil : eventsOf ip calls = [] := h
    rw [hnil]
    exact ⟨fun a => Nat.zero_le _, fun _ _ _ _ _ => Nat.zero_le _⟩
  | some entry =>
    rw [hrun] at h
    constructor
    · intro a
      exact h.window.interval_le (by decide) a
    · intro pre f post hcalls hopens
      refine h.window.window_le (by decide) f ?_
      rw [hcalls]
      exact mem_openedTimes hopens

/-- Ten calls: one, four at the end of its minute, and five behind it. -/
theorem nine_in_every_minute_ten :
    (within 60000 60000 (acceptedCalls (ascii "10.0.0.2")
      ((ascii "10.0.0.2", 0) :: List.replicate 4 (ascii "10.0.0.2", 60000) ++
        List.replicate 5 (ascii "10.0.0.2", 60001)))).length ≤ 9 :=
  (nine_in_every_minute _ (by decide +kernel) (by decide +kernel) _ (by decide +kernel)).1 60000

/-- The same ten calls are all accepted, nine of them within two milliseconds. -/
theorem more_than_five_in_a_minute :
    ¬ ∀ calls : List (Bytes × Nat), calls.Pairwise (fun c d => c.2 ≤ d.2) →
      (∀ c ∈ calls, c.2 < 2 ^ 32) →
      ∀ ip a, (within 60000 a (acceptedCalls ip calls)).length ≤ 5 := by
  intro hall
  have hle := hall ((ascii "10.0.0.2", 0) :: List.replicate 4 (ascii "10.0.0.2", 60000) ++
    List.replicate 5 (ascii "10.0.0.2", 60001)) (by decide +kernel) (by decide +kernel)
    (ascii "10.0.0.2") 60000
  revert hle
  decide +kernel

end MobileUnlock.Network
