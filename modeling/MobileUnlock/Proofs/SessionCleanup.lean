import MobileUnlock.Network.SessionCleanup

/-!
# `MobileUnlock.Proofs.SessionCleanup`: the cleanup and the live sessions

A session is live when its last data is at most 30 seconds old. `CleanupStaleSessions` tells this
from the difference of two ticks: its own, read before it has the lock, and the stamp of the
session. Two orders of steps deceive it. A stamp that is newer than the tick makes the unsigned
difference a large number. And data that `recv` has returned is not in the stamp yet.

`TestsInOrder` rules the two out, for the tests of live sessions. `cleanup_spares_live_sessions`
shows that then no test removes a live session, in every interleaving.
-/

set_option autoImplicit false

namespace MobileUnlock.Network

open MobileUnlock.Lib MobileUnlock.Lib.Win32

/-- The last data of the session is at most 30 seconds old. -/
def Live (s : EngineState) (session : SessionObject) : Prop :=
  ∃ d, session.lastData = some d ∧ s.clock ≤ d + 30000

/-- The worker has data that it has not stamped. -/
def Unstamped (session : SessionObject) : Prop :=
  session.worker = .received ∨ ∃ now, session.worker = .stamping now

/-- A test of a live session compares with a stamp that is not newer than the tick of the
cleanup. While there is data without a stamp, the stamp is at most 30 seconds older. -/
def TestsInOrder (s : EngineState) : EngineAct → Prop
  | .cleanupTest id => ∀ now pending session, s.cleanup = .testing now pending →
      s.sessions id = some session → Live s session →
      session.lastActiveTimestampMs.realMs ≤ now.realMs ∧
      (Unstamped session → now.realMs ≤ session.lastActiveTimestampMs.realMs + 30000)
  | _ => True

/-! ### What holds of the sessions in every interleaving -/

/-- The data of a session is not in the future, and it is not newer than the tick that the
worker is about to store or, when the worker has no data at hand, than the stamp. -/
structure SessionInv (clock : Nat) (session : SessionObject) : Prop where
  data_le : ∀ d, session.lastData = some d → d ≤ clock
  stamping : ∀ now, session.worker = .stamping now → ∀ d, session.lastData = some d →
    d ≤ now.realMs
  stamped : ¬ Unstamped session → ∀ d, session.lastData = some d →
    d ≤ session.lastActiveTimestampMs.realMs

/-- The tick of the cleanup is not in the future. -/
def CleanupInv (clock : Nat) : CleanupPc → Prop
  | .sleeping => True
  | .waiting now => now.realMs ≤ clock
  | .testing now _ => now.realMs ≤ clock

structure EngineInv (s : EngineState) : Prop where
  sessions : ∀ id session, s.sessions id = some session → SessionInv s.clock session
  cleanup : CleanupInv s.clock s.cleanup

theorem SessionInv.mono {clock clock' : Nat} {session : SessionObject}
    (h : SessionInv clock session) (hle : clock ≤ clock') : SessionInv clock' session where
  data_le d hd := le_trans (h.data_le d hd) hle
  stamping := h.stamping
  stamped := h.stamped

/-- Time goes on. -/
theorem CleanupInv.mono {clock clock' : Nat} {pc : CleanupPc} (h : CleanupInv clock pc)
    (hle : clock ≤ clock') : CleanupInv clock' pc := by
  cases pc with
  | sleeping => trivial
  | waiting now => exact le_trans h hle
  | testing now pending => exact le_trans h hle

theorem EngineInv.cleanup_at {s : EngineState} (h : EngineInv s) {pc : CleanupPc}
    (hc : s.cleanup = pc) : CleanupInv s.clock pc := by
  rw [← hc]
  exact h.cleanup

/-- A worker without data at hand goes on to a step where it has none either. -/
theorem SessionInv.move {clock : Nat} {session : SessionObject} (h : SessionInv clock session)
    (hbefore : ¬ Unstamped session) (socketOpen : Bool) {worker : WorkerPc}
    (hafter : ∀ now, worker ≠ .stamping now) :
    SessionInv clock { session with socketOpen := socketOpen, worker := worker } where
  data_le := h.data_le
  stamping now hnow := absurd hnow (hafter now)
  stamped _ := h.stamped hbefore

/-- One step of a worker. -/
theorem sessionInv_workerAct {clock : Nat} {session : SessionObject}
    (h : SessionInv clock session) (act : WorkerAct) :
    SessionInv clock (workerAct clock session act) := by
  cases act with
  | testLoop isRunning =>
    simp only [workerAct]
    split
    next hw =>
      have hbefore : ¬ Unstamped session := by simp [Unstamped, hw]
      split
      · exact h.move hbefore session.socketOpen (by simp)
      · exact h.move hbefore session.socketOpen (by simp)
    next => exact h
  | recv answer =>
    simp only [workerAct]
    split
    next hw =>
      have hbefore : ¬ Unstamped session := by simp [Unstamped, hw]
      cases answer with
      | data =>
        exact {
          data_le := fun d hd => by simp at hd; omega
          stamping := fun now hnow => by simp at hnow
          stamped := fun hno => by simp [Unstamped] at hno }
      | timedOut =>
        dsimp only
        split
        · exact h.move hbefore session.socketOpen (by simp)
        · exact h.move hbefore session.socketOpen (by simp)
      | failed => exact h.move hbefore session.socketOpen (by simp)
    next => exact h
  | readTick =>
    simp only [workerAct]
    split
    · -- The tick is read now, so no data is newer.
      exact {
        data_le := h.data_le
        stamping := fun now hnow d hd => by
          obtain rfl : (⟨clock⟩ : TickReading) = now := by simpa using hnow
          exact h.data_le d hd
        stamped := fun hno => by simp [Unstamped] at hno }
    · exact h
  | storeTick =>
    simp only [workerAct]
    split
    next now hw =>
      exact {
        data_le := h.data_le
        stamping := fun now hnow => by simp at hnow
        stamped := fun _ => h.stamping now hw }
    next => exact h
  | process outcome =>
    simp only [workerAct]
    split
    next hw =>
      have hbefore : ¬ Unstamped session := by simp [Unstamped, hw]
      cases outcome with
      | goOn => exact h.move hbefore session.socketOpen (by simp)
      | breakLoop => exact h.move hbefore session.socketOpen (by simp)
      | dropSocket => exact h.move hbefore false (by simp)
    next => exact h
  | closeSocket =>
    simp only [workerAct]
    split
    next hw => exact h.move (by simp [Unstamped, hw]) false (by simp)
    next => exact h

/-- A closed socket says nothing about the data. -/
theorem SessionInv.closed {clock : Nat} {session : SessionObject} (h : SessionInv clock session) :
    SessionInv clock { session with socketOpen := false } where
  data_le := h.data_le
  stamping := h.stamping
  stamped := h.stamped

/-- Changing one session object is up to that object. -/
theorem EngineInv.modify {s : EngineState} (h : EngineInv s) (id : Nat)
    {f : SessionObject → SessionObject}
    (hf : ∀ session, s.sessions id = some session → SessionInv s.clock session →
      SessionInv s.clock (f session)) : EngineInv (s.modify id f) where
  sessions id' session' hs := by
    by_cases hid : id' = id
    · subst hid
      simp only [EngineState.modify, Function.update_self, Option.map_eq_some_iff] at hs
      obtain ⟨session, hsession, rfl⟩ := hs
      exact hf session hsession (h.sessions id' session hsession)
    · simp only [EngineState.modify, Function.update_of_ne hid] at hs
      exact h.sessions id' session' hs
  cleanup := h.cleanup

/-- One act of a thread. -/
theorem engineInv_step {s : EngineState} (h : EngineInv s) (act : EngineAct) :
    EngineInv (engineStep s act).1 := by
  cases act with
  | advance ms =>
    have hle : s.clock ≤ s.clock + ms := Nat.le_add_right _ _
    exact ⟨fun id session hs => (h.sessions id session hs).mono hle, h.cleanup.mono hle⟩
  | accept =>
    simp only [engineStep]
    split
    · refine ⟨?_, h.cleanup⟩
      intro id session hs
      by_cases hid : id = s.nextClientId
      · -- A new session has no data.
        simp only [hid, Function.update_self, Option.some.injEq] at hs
        subst hs
        exact ⟨by simp, by simp, by simp⟩
      · simp only [Function.update_of_ne hid] at hs
        exact h.sessions id session hs
    · exact h
  | insert =>
    simp only [engineStep]
    split
    · split
      · exact ⟨h.sessions, h.cleanup⟩
      · exact h
    · exact h
  | startWorker id =>
    simp only [engineStep]
    split
    · refine h.modify id fun session _ hs => ?_
      split
      next hw =>
        refine hs.move (by simp [Unstamped, hw]) session.socketOpen ?_
        intro now
        split <;> simp
      next => exact hs
    · exact h
  | worker id act => exact h.modify id fun session _ hs => sessionInv_workerAct hs act
  | eraseClient id =>
    simp only [engineStep]
    split
    next hfree =>
      have hnext : EngineInv (s.modify id fun session => { session with worker := .finished }) := by
        refine h.modify id fun session hsession hs => ?_
        have hw : session.worker = .erasing := by simpa [hsession] using hfree.2
        exact hs.move (by simp [Unstamped, hw]) session.socketOpen (by simp)
      exact ⟨hnext.sessions, hnext.cleanup⟩
    next => exact h
  | stop =>
    simp only [engineStep]
    split
    · refine ⟨?_, h.cleanup⟩
      intro id session hs
      dsimp only at hs
      split at hs
      · obtain ⟨session', hs', rfl⟩ := Option.map_eq_some_iff.mp hs
        exact (h.sessions id session' hs').closed
      · exact h.sessions id session hs
    · exact h
  | cleanupReadTick =>
    simp only [engineStep]
    split
    · exact ⟨h.sessions, le_refl s.clock⟩
    · exact h
  | cleanupEnterLock =>
    simp only [engineStep]
    split
    next now hc =>
      -- the tick that the cleanup has read is kept
      have hcleanup := h.cleanup_at hc
      exact ⟨h.sessions, hcleanup⟩
    next => exact h
  | cleanupTest id =>
    simp only [engineStep]
    split
    next now pending session hc hs =>
      have hcleanup := h.cleanup_at hc
      have hnext : EngineInv { s with cleanup := .testing now (pending.filter (· ≠ id)) } :=
        ⟨h.sessions, hcleanup⟩
      split
      · split
        · have hclosed := hnext.modify id (fun _ _ hs => hs.closed)
          exact ⟨hclosed.sessions, hclosed.cleanup⟩
        · exact hnext
      · exact h
    next => exact h
  | cleanupLeaveLock =>
    simp only [engineStep]
    split
    · exact ⟨h.sessions, trivial⟩
    · exact h

theorem engineInv_init : EngineInv {} := ⟨by simp, trivial⟩

/-- The only act that removes a session for the cleanup is a test that finds it stale. -/
theorem engineStep_removes {s : EngineState} {act : EngineAct} {id : Nat}
    (h : (engineStep s act).2 = some id) :
    act = .cleanupTest id ∧ ∃ now pending session, s.cleanup = .testing now pending ∧
      s.sessions id = some session ∧ isStale now session := by
  cases act with
  | cleanupTest id' =>
    simp only [engineStep] at h
    split at h
    next now pending session hc hs =>
      split at h
      · split at h
        next hstale =>
          obtain rfl : id' = id := by simpa using h
          exact ⟨rfl, now, pending, session, hc, hs, hstale⟩
        next => cases h
      · cases h
    next => cases h
  | advance ms => cases h
  | worker id' act => cases h
  | _ =>
    simp only [engineStep] at h
    split at h <;> first | (split at h <;> cases h) | cases h

/-! ### Live sessions -/

/-- A test in order does not find a live session stale. -/
theorem not_isStale {s : EngineState} (h : EngineInv s) {id : Nat} {now : TickReading}
    {pending : List Nat} {session : SessionObject} (hc : s.cleanup = .testing now pending)
    (hs : s.sessions id = some session) (horder : TestsInOrder s (.cleanupTest id))
    (hlive : Live s session) : isStale now session = false := by
  obtain ⟨hle, hunstamped⟩ := horder now pending session hc hs hlive
  have hnow : now.realMs ≤ s.clock := by
    have hcleanup := h.cleanup
    rw [hc] at hcleanup
    exact hcleanup
  have hrecent : now.realMs ≤ session.lastActiveTimestampMs.realMs + 30000 := by
    by_cases hu : Unstamped session
    · exact hunstamped hu
    · obtain ⟨d, hd, hclock⟩ := hlive
      have hstamp := (h.sessions id session hs).stamped hu d hd
      omega
  have hdiff : (now.tick - session.lastActiveTimestampMs.tick).toNat ≤ 30000 := by
    rw [TickReading.tick, TickReading.tick, toNat_getTickCount_sub hle]
    omega
  rw [isStale, decide_eq_false_iff_not, gt_iff_lt, UInt32.not_lt, UInt32.le_iff_toNat_le]
  exact hdiff

/-- In every interleaving whose tests of live sessions are in order, the cleanup removes no live
session. -/
theorem cleanup_spares_live_sessions (acts : List EngineAct)
    (horder : engineMachine.Along TestsInOrder {} acts) :
    ∀ x ∈ engineMachine.trace {} acts, ∀ id, x.output = some id →
      ∀ session, x.before.sessions id = some session → ¬ Live x.before session := by
  intro x hx id hremoved session hs hlive
  obtain ⟨xs, ys, hsplit⟩ := List.append_of_mem hx
  obtain ⟨before, act, after, rfl, -, rfl, -⟩ := engineMachine.trace_split hsplit
  rw [Machine.along_append] at horder
  have hinv : EngineInv (engineMachine.run {} before) :=
    engineMachine.invariant (P := EngineInv) (fun _ e h _ => engineInv_step h e) engineInv_init
      horder.1
  obtain ⟨rfl, now, pending, session', hc, hs', hstale⟩ := engineStep_removes hremoved
  obtain rfl : session' = session := Option.some.inj (hs'.symm.trans hs)
  have hfresh := not_isStale hinv hc hs horder.2.1 hlive
  rw [hfresh] at hstale
  cases hstale

/-- A session with data that is stamped at once, and 40 seconds later a pass of the cleanup. -/
def fortySecondsRun : List EngineAct :=
  [.accept, .insert, .startWorker 1, .worker 1 (.testLoop true), .worker 1 (.recv .data),
    .worker 1 .readTick, .worker 1 .storeTick, .advance 40000, .cleanupReadTick,
    .cleanupEnterLock, .cleanupTest 1, .cleanupLeaveLock]

/-- The test of that pass is in order: it removes the session, which is not live. -/
theorem cleanup_spares_live_sessions_after_forty_seconds :
    (∃ x ∈ engineMachine.trace {} fortySecondsRun, x.output = some 1) ∧
    ∀ x ∈ engineMachine.trace {} fortySecondsRun, ∀ id, x.output = some id →
      ∀ session, x.before.sessions id = some session → ¬ Live x.before session := by
  refine ⟨⟨_, List.mem_of_getElem? (i := 10) rfl, rfl⟩, cleanup_spares_live_sessions _ ?_⟩
  refine ⟨trivial, trivial, trivial, trivial, trivial, trivial, trivial, trivial, trivial, trivial,
    ?_, trivial, trivial⟩
  intro now pending session hc hs hlive
  cases hs
  obtain ⟨d, hd, hclock⟩ := hlive
  cases hd
  exact absurd hclock (by decide)

/-- The cleanup reads its tick, and one millisecond later the worker receives data and stamps it.
The test subtracts the stamp 1 from the tick 0 and removes the session, whose data is new. -/
theorem cleanup_removes_live_session :
    ¬ ∀ acts : List EngineAct, ∀ x ∈ engineMachine.trace {} acts, ∀ id, x.output = some id →
      ∀ session, x.before.sessions id = some session → ¬ Live x.before session := by
  intro hall
  refine hall [.accept, .insert, .startWorker 1, .worker 1 (.testLoop true), .cleanupReadTick,
    .advance 1, .worker 1 (.recv .data), .worker 1 .readTick, .worker 1 .storeTick,
    .cleanupEnterLock, .cleanupTest 1] _ (List.mem_of_getElem? (i := 10) rfl) 1 (by decide) _ rfl ?_
  exact ⟨1, rfl, by decide⟩

end MobileUnlock.Network
