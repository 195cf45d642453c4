import MobileUnlock.CredentialProvider.MobileUnlockCredential
import MobileUnlock.Lib.Since

/-!
# `MobileUnlock.Proofs.UnAdvise`: no credential behind `UnAdvise`

`UnAdvise` sets the stop flag and waits for the status thread, which wipes the state at its end.
Two things go wrong with that. The wait ends after 3 seconds, and `FetchAuthState` takes up to 10.
And the next `Advise` takes the stop flag back, so that a thread that an earlier `UnAdvise` gave up
on goes on polling, and the next `UnAdvise` does not wait for it.

Both show at the return of `UnAdvise`, as a thread that has not ended. `ReturnsClean` allows it
when nothing is published and no thread is about to publish. `noCredentialAfterUnAdvise_iff` shows
that a run of such returns gives out no credential between a return and the next `Advise`, and that
any other run has a beginning from which one thread step and one call can give one out.
-/

set_option autoImplicit false

namespace MobileUnlock.CredentialProvider

open MobileUnlock.Lib MobileUnlock.Lsa

/-! ### The rule -/

/-- One step of the credential and its threads. -/
abbrev CredentialEntry := Entry CredentialState CredentialAct (Option CallReturn)

/-- `UnAdvise` has returned, and no `Advise` has succeeded since. -/
def UnAdvised (tr : List CredentialEntry) : Prop :=
  Since (fun x => x.output ≠ some (.advise .S_OK)) (fun x => x.output = some (.unAdvise .S_OK)) tr

/-- `GetSerialization` returns `CPGSR_RETURN_CREDENTIAL_FINISHED`. -/
def ReturnsCredential (output : Option CallReturn) : Prop :=
  ∃ hr outputs, output = some (.getSerialization hr (some outputs)) ∧
    outputs.pcpgsr = .CPGSR_RETURN_CREDENTIAL_FINISHED

/-- No credential between the return of an `UnAdvise` and the next `Advise`. -/
def NoCredentialAfterUnAdvise (hasIpcFactory : Bool) (acts : List CredentialAct) : Prop :=
  ∀ pre x post, credentialMachine.trace (constructed hasIpcFactory) acts = pre ++ x :: post →
    UnAdvised pre → ¬ ReturnsCredential x.output

/-- Nothing is published, and no thread is about to publish. -/
structure NothingPublished (s : CredentialState) : Prop where
  notReady : s.authStateReady = false
  notStoring : ∀ token, token.valid = true → .storing token ∉ s.threads

/-- `UnAdvise` returns when all threads have ended, or with nothing published. -/
def ReturnsClean (s : CredentialState) : CredentialAct → Prop
  | .unAdviseReturns => ∀ hThread hStop since, s.call = .unAdvising hThread hStop since →
      s.unAdviseWaitOver hThread since = true →
      (∀ pc ∈ s.threads, pc = .ended) ∨ NothingPublished s
  | _ => True

/-- Steps of the status threads, time and calls other than `Advise` and `UnAdvise`. -/
def CredentialAct.betweenAdvises : CredentialAct → Bool
  | .advise _ _ _ => false
  | .unAdvise => false
  | .unAdviseReturns => false
  | _ => true

/-! ### What a step of a thread does -/

/-- A step of a thread from `pc` to `pc'`. It ends with the state wiped, it publishes from behind
the stop check only, and it passes the stop check only while the flag is down. -/
structure ThreadStep (s s' : CredentialState) (thread : Nat) (pc pc' : ThreadPc) : Prop where
  threads : s'.threads = s.threads.set thread pc'
  stopThread : s'.stopThread = s.stopThread
  call : s'.call = s.call
  ended : pc' = .ended → s'.authStateReady = false
  ready : s'.authStateReady = true →
    s.authStateReady = true ∨ ∃ token, token.valid = true ∧ pc = .storing token
  storing : ∀ token, pc' = .storing token → s.stopThread = false

/-- A step that changes nothing but the place of the thread. -/
theorem threadStep_movePc (s : CredentialState) (thread : Nat) (pc : ThreadPc) {pc' : ThreadPc}
    (hended : pc' ≠ .ended) (hstoring : ∀ token, pc' = .storing token → s.stopThread = false) :
    ThreadStep s (s.movePc thread pc') thread pc pc' where
  threads := rfl
  stopThread := rfl
  call := rfl
  ended h := absurd h hended
  ready h := Or.inl h
  storing := hstoring

/-- A thread waits, or it takes a step. -/
theorem goOn_cases (s : CredentialState) (thread : Nat) (pc : ThreadPc) :
    s.goOn thread pc = s ∨ ∃ pc', ThreadStep s (s.goOn thread pc) thread pc pc' := by
  cases pc with
  | looping =>
    simp only [CredentialState.goOn]
    split
    · exact .inr ⟨_, threadStep_movePc s thread _ (by simp) (by simp)⟩
    · split
      · exact .inr ⟨_, threadStep_movePc s thread _ (by simp) (by simp)⟩
      · exact .inr ⟨_, threadStep_movePc s thread _ (by simp) (by simp)⟩
  | fetching since => exact .inl rfl
  | fetched token =>
    simp only [CredentialState.goOn]
    split
    next => exact .inr ⟨_, threadStep_movePc s thread _ (by simp) (by simp)⟩
    next hstop =>
      have hdown : s.stopThread = false := Bool.eq_false_iff.mpr hstop
      exact .inr ⟨_, threadStep_movePc s thread _ (by simp) (fun _ _ => hdown)⟩
  | storing token =>
    simp only [CredentialState.goOn]
    split
    next hvalid =>
      exact .inr ⟨_, {
        threads := rfl
        stopThread := rfl
        call := rfl
        ended := by simp
        ready := fun _ => .inr ⟨token, hvalid, rfl⟩
        storing := by simp }⟩
    next =>
      exact .inr ⟨_, {
        threads := rfl
        stopThread := rfl
        call := rfl
        ended := by simp
        ready := fun h => Bool.noConfusion h
        storing := by simp }⟩
  | showing text =>
    exact .inr ⟨_, {
      threads := rfl
      stopThread := rfl
      call := rfl
      ended := by simp
      ready := fun h => .inl h
      storing := by simp }⟩
  | waiting stopEvent since =>
    simp only [CredentialState.goOn]
    split
    · exact .inr ⟨_, threadStep_movePc s thread _ (by simp) (by simp)⟩
    · exact .inl rfl
  | wiping =>
    exact .inr ⟨_, {
      threads := rfl
      stopThread := rfl
      call := rfl
      ended := fun _ => rfl
      ready := fun h => Bool.noConfusion h
      storing := by simp }⟩
  | ended => exact .inl rfl

/-- The return of `FetchAuthState` is a step of the thread that waits for it. -/
theorem fetchReturns_cases (s : CredentialState) (thread : Nat) (token : IpcStateToken)
    (pc : ThreadPc) :
    s.fetchReturns thread token pc = s ∨
      ∃ pc', ThreadStep s (s.fetchReturns thread token pc) thread pc pc' := by
  cases pc with
  | fetching since => exact .inr ⟨_, threadStep_movePc s thread _ (by simp) (by simp)⟩
  | _ => exact .inl rfl

@[simp] theorem advise_authStateReady (s : CredentialState) (pcpce : Nat)
    (eventMade threadMade : Bool) :
    (s.advise pcpce eventMade threadMade).authStateReady = s.authStateReady := by
  unfold CredentialState.advise
  dsimp only
  split <;> rfl

@[simp] theorem advise_call (s : CredentialState) (pcpce : Nat) (eventMade threadMade : Bool) :
    (s.advise pcpce eventMade threadMade).call = s.call := by
  unfold CredentialState.advise
  dsimp only
  split <;> rfl

/-- `Advise` leaves the threads that are there alone. -/
theorem mem_advise_threads {s : CredentialState} {pc : ThreadPc} (h : pc ∈ s.threads)
    (pcpce : Nat) (eventMade threadMade : Bool) :
    pc ∈ (s.advise pcpce eventMade threadMade).threads := by
  unfold CredentialState.advise
  dsimp only
  split
  · exact h
  · cases threadMade with
    | true => exact List.mem_append_left _ h
    | false => exact h

/-- What an act can do: a step of a thread, an `Advise` that succeeds, or a change that starts no
thread, publishes nothing and takes the stop flag not back. -/
inductive StepKind (s s' : CredentialState) (output : Option CallReturn) : Prop where
  | thread (thread : Nat) (pc pc' : ThreadPc) (hpc : s.threads[thread]? = some pc)
      (hstep : ThreadStep s s' thread pc pc')
  | advise (houtput : output = some (.advise .S_OK)) (hcall : s'.call = .idle)
      (hready : s'.authStateReady = s.authStateReady)
      (hthreads : ∀ pc ∈ s.threads, pc ∈ s'.threads)
  | other (hthreads : s'.threads = s.threads)
      (hready : s'.authStateReady = true → s.authStateReady = true)
      (hstop : s.stopThread = true → s'.stopThread = true)
      (hcall : ∀ hThread hStop since, s'.call = .unAdvising hThread hStop since →
        s.call = .unAdvising hThread hStop since ∨ s'.stopThread = true)

/-- An act that changes nothing. -/
theorem stepKind_same (s : CredentialState) (output : Option CallReturn) :
    StepKind s s output :=
  .other rfl id id fun _ _ _ hcall => .inl hcall

theorem credentialStep_kind (s : CredentialState) (act : CredentialAct) :
    StepKind s (credentialStep s act).1 (credentialStep s act).2 := by
  cases act with
  | advance ms =>
    simp only [credentialStep]
    split
    · exact .other rfl id id fun _ _ _ hcall => .inl hcall
    · exact stepKind_same s none
  | goOn thread =>
    simp only [credentialStep]
    split
    next pc hpc =>
      obtain hsame | ⟨pc', hstep⟩ := goOn_cases s thread pc
      · rw [hsame]
        exact stepKind_same s none
      · exact .thread thread pc pc' hpc hstep
    next => exact stepKind_same s none
  | fetchReturns thread token =>
    simp only [credentialStep]
    split
    next pc hpc =>
      obtain hsame | ⟨pc', hstep⟩ := fetchReturns_cases s thread token pc
      · rw [hsame]
        exact stepKind_same s none
      · exact .thread thread pc pc' hpc hstep
    next => exact stepKind_same s none
  | advise pcpce eventMade threadMade =>
    simp only [credentialStep]
    split
    next hidle =>
      cases pcpce with
      | none => exact stepKind_same s _
      | some pcpce =>
        refine .advise rfl ?_ (advise_authStateReady s pcpce eventMade threadMade) ?_
        · rw [advise_call, hidle]
        · intro pc hpc
          exact mem_advise_threads hpc pcpce eventMade threadMade
    next => exact stepKind_same s none
  | unAdvise =>
    simp only [credentialStep]
    split
    · exact .other rfl id (fun _ => rfl) fun _ _ _ _ => .inr rfl
    · exact stepKind_same s none
  | unAdviseReturns =>
    simp only [credentialStep]
    split
    next =>
      split
      · exact .other rfl id id fun _ _ _ hcall => CallPc.noConfusion hcall
      · exact stepKind_same s none
    next => exact stepKind_same s none
  | setDeselected =>
    simp only [credentialStep]
    split
    · exact .other rfl (fun h => Bool.noConfusion h) id
        fun _ _ _ hcall => CallPc.noConfusion hcall
    · exact stepKind_same s none
  | setDeselectedReturns =>
    simp only [credentialStep]
    split
    · exact .other rfl id id fun _ _ _ hcall => CallPc.noConfusion hcall
    · exact stepKind_same s none
  | getSerialization env =>
    simp only [credentialStep]
    split
    · exact stepKind_same s _
    · exact stepKind_same s none

/-- Only the act `unAdviseReturns` is the return of `UnAdvise`. -/
theorem credentialStep_unAdvise {s : CredentialState} {act : CredentialAct}
    (h : (credentialStep s act).2 = some (.unAdvise .S_OK)) :
    act = .unAdviseReturns ∧ ∃ hThread hStop since, s.call = .unAdvising hThread hStop since ∧
      s.unAdviseWaitOver hThread since = true := by
  unfold credentialStep at h
  grind

/-- What the return changes. -/
theorem credentialStep_unAdviseReturns {s : CredentialState} {hThread hStop : Option Nat}
    {since : Nat} (hcall : s.call = .unAdvising hThread hStop since)
    (hover : s.unAdviseWaitOver hThread since = true) :
    credentialStep s .unAdviseReturns =
      ({ s with
          stopEvent := if hStop.isSome then none else s.stopEvent
          call := .idle }, some (.unAdvise .S_OK)) := by
  simp only [credentialStep, hcall, hover, if_true]

/-- `GetSerialization` gives out nothing else than what is published. -/
theorem not_returnsCredential {s : CredentialState} (h : s.authStateReady = false)
    (act : CredentialAct) : ¬ ReturnsCredential (credentialStep s act).2 := by
  rintro ⟨hr, outputs, houtput, hresponse⟩
  unfold credentialStep CredentialState.getSerialization at houtput
  grind

/-! ### What holds in every interleaving -/

/-- What is published has a thread that will wipe it, and the stop flag is up while `UnAdvise`
waits. -/
structure CredentialInv (s : CredentialState) : Prop where
  owned : s.authStateReady = true → ∃ pc ∈ s.threads, pc ≠ .ended
  stopping : ∀ hThread hStop since, s.call = .unAdvising hThread hStop since →
    s.stopThread = true

theorem credentialInv_constructed (hasIpcFactory : Bool) :
    CredentialInv (constructed hasIpcFactory) where
  owned h := Bool.noConfusion h
  stopping _ _ _ h := CallPc.noConfusion h

theorem CredentialInv.threadStep {s s' : CredentialState} (h : CredentialInv s) {thread : Nat}
    {pc pc' : ThreadPc} (hpc : s.threads[thread]? = some pc)
    (hstep : ThreadStep s s' thread pc pc') : CredentialInv s' where
  owned hready := by
    have hlt : thread < s.threads.length := (List.getElem?_eq_some_iff.mp hpc).1
    refine ⟨pc', ?_, ?_⟩
    · rw [hstep.threads]
      exact List.mem_set hlt pc'
    · intro hended
      rw [hstep.ended hended] at hready
      exact Bool.noConfusion hready
  stopping hThread hStop since hcall := by
    rw [hstep.stopThread]
    exact h.stopping hThread hStop since (hstep.call ▸ hcall)

/-- One act. -/
theorem CredentialInv.step {s : CredentialState} (h : CredentialInv s) (act : CredentialAct) :
    CredentialInv (credentialStep s act).1 := by
  cases credentialStep_kind s act with
  | thread thread pc pc' hpc hstep => exact h.threadStep hpc hstep
  | advise _ hcall hready hthreads =>
    refine ⟨?_, ?_⟩
    · intro hafter
      obtain ⟨pc, hpc, hne⟩ := h.owned (hready ▸ hafter)
      exact ⟨pc, hthreads pc hpc, hne⟩
    · intro hThread hStop since hwaits
      rw [hcall] at hwaits
      exact CallPc.noConfusion hwaits
  | other hthreads hready hstop hcall =>
    refine ⟨?_, ?_⟩
    · intro hafter
      rw [hthreads]
      exact h.owned (hready hafter)
    · intro hThread hStop since hwaits
      obtain hbefore | hflag := hcall hThread hStop since hwaits
      · exact hstop (h.stopping hThread hStop since hbefore)
      · exact hflag

/-- When all threads have ended, nothing is published. -/
theorem CredentialInv.nothingPublished {s : CredentialState} (h : CredentialInv s)
    (hended : ∀ pc ∈ s.threads, pc = .ended) : NothingPublished s where
  notReady := by
    rw [Bool.eq_false_iff]
    intro hready
    obtain ⟨pc, hpc, hne⟩ := h.owned hready
    exact hne (hended pc hpc)
  notStoring token _ hmem := ThreadPc.noConfusion (hended _ hmem)

/-! ### Between `UnAdvise` and `Advise` -/

/-- Nothing is published, and nothing will be while the flag is up. -/
structure Quiet (s : CredentialState) : Prop extends NothingPublished s where
  stopping : s.stopThread = true

theorem Quiet.threadStep {s s' : CredentialState} (h : Quiet s) {thread : Nat}
    {pc pc' : ThreadPc} (hpc : s.threads[thread]? = some pc)
    (hstep : ThreadStep s s' thread pc pc') : Quiet s' where
  notReady := by
    rw [Bool.eq_false_iff]
    intro hready
    obtain hbefore | ⟨token, hvalid, rfl⟩ := hstep.ready hready
    · rw [h.notReady] at hbefore
      exact Bool.noConfusion hbefore
    · exact h.notStoring token hvalid (List.mem_of_getElem? hpc)
  notStoring token hvalid hmem := by
    rw [hstep.threads] at hmem
    obtain hold | hnew := List.mem_or_eq_of_mem_set hmem
    · exact h.notStoring token hvalid hold
    · -- The thread has just passed the stop check, against the flag.
      have hdown := hstep.storing token hnew.symm
      rw [h.stopping] at hdown
      exact Bool.noConfusion hdown
  stopping := by
    rw [hstep.stopThread]
    exact h.stopping

/-- Every act but an `Advise` that succeeds. -/
theorem Quiet.step {s : CredentialState} (h : Quiet s) {act : CredentialAct}
    (hact : (credentialStep s act).2 ≠ some (.advise .S_OK)) :
    Quiet (credentialStep s act).1 := by
  cases credentialStep_kind s act with
  | thread thread pc pc' hpc hstep => exact h.threadStep hpc hstep
  | advise houtput _ _ _ => exact absurd houtput hact
  | other hthreads hready hstop _ =>
    refine ⟨⟨?_, ?_⟩, hstop h.stopping⟩
    · rw [Bool.eq_false_iff]
      intro hafter
      exact Bool.eq_false_iff.mp h.notReady (hready hafter)
    · rw [hthreads]
      exact h.notStoring

/-- A clean return leaves nothing published, with the flag up. -/
theorem quiet_of_returnsClean {s : CredentialState} (hinv : CredentialInv s) {act : CredentialAct}
    (hclean : ReturnsClean s act) (hret : (credentialStep s act).2 = some (.unAdvise .S_OK)) :
    Quiet (credentialStep s act).1 := by
  obtain ⟨rfl, hThread, hStop, since, hcall, hover⟩ := credentialStep_unAdvise hret
  have hnothing : NothingPublished s := by
    obtain hended | hnothing := hclean hThread hStop since hcall hover
    · exact hinv.nothingPublished hended
    · exact hnothing
  have hstop : s.stopThread = true := hinv.stopping hThread hStop since hcall
  rw [credentialStep_unAdviseReturns hcall hover]
  exact ⟨⟨hnothing.notReady, hnothing.notStoring⟩, hstop⟩

/-- The history and the state of a run with clean returns. -/
structure Follows (tr : List CredentialEntry) (s : CredentialState) : Prop where
  inv : CredentialInv s
  quiet : UnAdvised tr → Quiet s

theorem follows_run (hasIpcFactory : Bool) {acts : List CredentialAct}
    (h : credentialMachine.Along ReturnsClean (constructed hasIpcFactory) acts) :
    Follows (credentialMachine.trace (constructed hasIpcFactory) acts)
      (credentialMachine.run (constructed hasIpcFactory) acts) := by
  refine credentialMachine.history_invariant ?_ ?_ h
  · exact ⟨credentialInv_constructed hasIpcFactory, fun hpast => absurd hpast not_since_nil⟩
  · intro tr s act hs hclean
    refine ⟨hs.inv.step act, ?_⟩
    intro hpast
    rw [UnAdvised, since_append_singleton] at hpast
    obtain hret | ⟨hact, hpast⟩ := hpast
    · exact quiet_of_returnsClean hs.inv hclean hret
    · exact (hs.quiet hpast).step hact

/-- With clean returns there is no credential between the return of an `UnAdvise` and the next
`Advise`. -/
theorem noCredential_of_returnsClean (hasIpcFactory : Bool) {acts : List CredentialAct}
    (h : credentialMachine.Along ReturnsClean (constructed hasIpcFactory) acts) :
    NoCredentialAfterUnAdvise hasIpcFactory acts := by
  intro pre x post htrace hpast
  obtain ⟨acts₁, act, acts₂, rfl, rfl, rfl, -⟩ := credentialMachine.trace_split htrace
  rw [credentialMachine.along_append] at h
  have hquiet := (follows_run hasIpcFactory h.1).quiet hpast
  exact not_returnsCredential hquiet.notReady act

/-! ### Behind a return that is not clean -/

/-- A call of `GetSerialization` that has its pointers and gets its memory. -/
def serializationEnv : SerializationEnv where
  pointersGiven := true
  lookupStatus := 0
  lookupPkgId := 0
  allocates := true

/-- It gives out what is published. -/
theorem returnsCredential_of_ready {s : CredentialState} (hcall : s.call = .idle)
    (hready : s.authStateReady = true) :
    ReturnsCredential (credentialStep s (.getSerialization serializationEnv)).2 := by
  simp [ReturnsCredential, credentialStep, CredentialState.getSerialization, hcall, hready,
    serializationEnv]

/-- A thread that has a valid token behind the stop check publishes it. -/
theorem credentialStep_storing {s : CredentialState} {thread : Nat} {token : IpcStateToken}
    (hthread : s.threads[thread]? = some (.storing token)) (hvalid : token.valid = true) :
    (credentialStep s (.goOn thread)).2 = none ∧
      (credentialStep s (.goOn thread)).1.call = s.call ∧
      (credentialStep s (.goOn thread)).1.authStateReady = true := by
  simp [credentialStep, hthread, CredentialState.goOn, hvalid, CredentialState.movePc]

/-- Behind a return of `UnAdvise`. -/
theorem unAdvised_append {hasIpcFactory : Bool} {acts : List CredentialAct} {act : CredentialAct}
    (hret : (credentialStep (credentialMachine.run (constructed hasIpcFactory) acts) act).2 =
      some (.unAdvise .S_OK)) :
    UnAdvised (credentialMachine.trace (constructed hasIpcFactory) (acts ++ [act])) := by
  rw [Machine.trace_append_singleton, UnAdvised, since_append_singleton]
  exact Or.inl hret

/-- A run that goes on with a credential while unadvised breaks the rule. -/
theorem not_noCredential_append {hasIpcFactory : Bool} {acts : List CredentialAct}
    {act : CredentialAct}
    (hpast : UnAdvised (credentialMachine.trace (constructed hasIpcFactory) acts))
    (hret : ReturnsCredential
      (credentialStep (credentialMachine.run (constructed hasIpcFactory) acts) act).2) :
    ¬ NoCredentialAfterUnAdvise hasIpcFactory (acts ++ [act]) := by
  intro hrule
  have htrace := credentialMachine.trace_append_singleton (constructed hasIpcFactory) acts act
  exact hrule _ _ [] htrace hpast hret

/-- When something is published or about to be, one thread step and one call give it out. -/
theorem exists_credential {hasIpcFactory : Bool} {acts : List CredentialAct}
    (hpast : UnAdvised (credentialMachine.trace (constructed hasIpcFactory) acts))
    (hcall : (credentialMachine.run (constructed hasIpcFactory) acts).call = .idle)
    (hpublished : ¬ NothingPublished
      (credentialMachine.run (constructed hasIpcFactory) acts)) :
    ∃ later : List CredentialAct, (∀ act ∈ later, act.betweenAdvises = true) ∧
      ¬ NoCredentialAfterUnAdvise hasIpcFactory (acts ++ later) := by
  cases hready : (credentialMachine.run (constructed hasIpcFactory) acts).authStateReady with
  | true =>
    refine ⟨[.getSerialization serializationEnv], by simp [CredentialAct.betweenAdvises], ?_⟩
    exact not_noCredential_append hpast (returnsCredential_of_ready hcall hready)
  | false =>
    have hstoring : ∃ token, token.valid = true ∧ ThreadPc.storing token ∈
        (credentialMachine.run (constructed hasIpcFactory) acts).threads := by
      by_contra hnone
      refine hpublished ⟨hready, fun token hvalid hmem => hnone ⟨token, hvalid, hmem⟩⟩
    obtain ⟨token, hvalid, hmem⟩ := hstoring
    obtain ⟨thread, hthread⟩ := List.mem_iff_getElem?.mp hmem
    obtain ⟨houtput, hkeeps, hpublishes⟩ := credentialStep_storing hthread hvalid
    refine ⟨[.goOn thread, .getSerialization serializationEnv],
      by simp [CredentialAct.betweenAdvises], ?_⟩
    rw [← List.singleton_append, ← List.append_assoc]
    refine not_noCredential_append ?_ ?_
    · rw [Machine.trace_append_singleton, UnAdvised, since_append_singleton]
      refine Or.inr ⟨?_, hpast⟩
      have hnone : (credentialMachine.entry
          (credentialMachine.run (constructed hasIpcFactory) acts) (.goOn thread)).output = none :=
        houtput
      rw [hnone]
      exact nofun
    · rw [Machine.run_append]
      exact returnsCredential_of_ready (hkeeps.trans hcall) hpublishes

/-- A run whose returns are not all clean breaks the rule, or a beginning of it does when it goes
on otherwise. -/
theorem exists_credential_of_not_returnsClean (hasIpcFactory : Bool) {acts : List CredentialAct}
    (h : ¬ credentialMachine.Along ReturnsClean (constructed hasIpcFactory) acts) :
    ∃ before later, before <+: acts ∧ (∀ act ∈ later, act.betweenAdvises = true) ∧
      ¬ NoCredentialAfterUnAdvise hasIpcFactory (before ++ later) := by
  obtain ⟨acts₁, act, acts₂, rfl, -, hfails⟩ := credentialMachine.exists_of_not_along h
  cases act with
  | unAdviseReturns =>
    simp only [ReturnsClean, not_forall, not_or] at hfails
    obtain ⟨hThread, hStop, since, hcall, hover, -, hpublished⟩ := hfails
    have hreturns := credentialStep_unAdviseReturns hcall hover
    -- The state behind the return, which has all that was published.
    have hrun : credentialMachine.run (constructed hasIpcFactory) (acts₁ ++ [.unAdviseReturns]) =
        (credentialStep (credentialMachine.run (constructed hasIpcFactory) acts₁)
          .unAdviseReturns).1 := credentialMachine.run_append _ _ _
    rw [hreturns] at hrun
    have hpast : UnAdvised (credentialMachine.trace (constructed hasIpcFactory)
        (acts₁ ++ [.unAdviseReturns])) := unAdvised_append (congrArg Prod.snd hreturns)
    obtain ⟨later, hlater, hbreaks⟩ := exists_credential hpast (by rw [hrun]) (by
      rw [hrun]
      intro hnothing
      exact hpublished ⟨hnothing.notReady, hnothing.notStoring⟩)
    refine ⟨acts₁ ++ [.unAdviseReturns], later, ?_, hlater, hbreaks⟩
    exact ⟨acts₂, by simp⟩
  | _ => exact absurd trivial hfails

/-- The rule holds of every run whose returns of `UnAdvise` are clean. A run with a return that is
not clean has a beginning that thread steps and other calls continue to a run that breaks the
rule. -/
theorem noCredentialAfterUnAdvise_exact (hasIpcFactory : Bool) (acts : List CredentialAct) :
    (credentialMachine.Along ReturnsClean (constructed hasIpcFactory) acts →
      NoCredentialAfterUnAdvise hasIpcFactory acts) ∧
    (¬ credentialMachine.Along ReturnsClean (constructed hasIpcFactory) acts →
      ∃ before later, before <+: acts ∧ (∀ act ∈ later, act.betweenAdvises = true) ∧
        ¬ NoCredentialAfterUnAdvise hasIpcFactory (before ++ later)) := by
  refine ⟨?_, ?_⟩
  · exact noCredential_of_returnsClean hasIpcFactory
  · exact exists_credential_of_not_returnsClean hasIpcFactory

/-- A token with a valid buffer. -/
def validToken : IpcStateToken where
  valid := true
  lsaBuffer := { zeroBuffer with
    magic := LSA_SUBMIT_BUFFER_MAGIC
    version := LSA_SUBMIT_BUFFER_VERSION }

/-- `Advise`, and a thread that fetches a valid token and publishes it. -/
def publishes : List CredentialAct :=
  [.advise (some 0) true true, .goOn 0, .fetchReturns 0 validToken, .goOn 0, .goOn 0, .goOn 0]

/-- The thread is in its wait when `UnAdvise` comes. It ends at once, and wipes the token. -/
def promptStop : List CredentialAct :=
  publishes ++ [.unAdvise, .goOn 0, .goOn 0, .goOn 0, .unAdviseReturns,
    .getSerialization serializationEnv]

theorem noCredentialAfterUnAdvise_promptStop : NoCredentialAfterUnAdvise true promptStop := by
  refine (noCredentialAfterUnAdvise_exact true promptStop).1 ?_
  have hclean : ReturnsClean (credentialMachine.run (constructed true)
      (publishes ++ [.unAdvise, .goOn 0, .goOn 0, .goOn 0])) .unAdviseReturns :=
    fun _ _ _ _ _ => Or.inl (by decide)
  exact ⟨trivial, trivial, trivial, trivial, trivial, trivial, trivial, trivial, trivial, trivial,
    hclean, trivial, trivial⟩

/-- The thread is in its next `FetchAuthState` when `UnAdvise` comes, and 3 seconds later it still
is. -/
def slowFetch : List CredentialAct :=
  publishes ++ [.advance 2000, .goOn 0, .goOn 0, .unAdvise, .advance 3000]

theorem not_noCredentialAfterUnAdvise_slowFetch :
    ¬ NoCredentialAfterUnAdvise true
      (slowFetch ++ [.unAdviseReturns] ++ [.getSerialization serializationEnv]) := by
  refine not_noCredential_append ?_ ?_
  · exact unAdvised_append (by decide)
  · exact returnsCredential_of_ready (by decide) (by decide)

end MobileUnlock.CredentialProvider
