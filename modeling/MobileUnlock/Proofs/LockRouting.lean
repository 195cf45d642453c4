import MobileUnlock.Proofs.LockAuthorization
import MobileUnlock.Proofs.LockExchange

/-!
# `MobileUnlock.Proofs.LockRouting`: LOCK_RESPONSE messages reach their requesters

`LocksRouted` says what the clients may expect: the responses they get are the answers of the
agent, each at its own requester, and none is lost. It holds in every run in which no request
is stored over another one that still waits (`locksRouted_run`). Without the condition a client
gets the answer that belongs to another one (`locksRouted_twoClients`).
-/

set_option autoImplicit false

namespace MobileUnlock.Service

open MobileUnlock.Lib MobileUnlock.Lib.Win32 MobileUnlock.Protocol MobileUnlock.Pairing
open MobileUnlock.Authentication

/-- The event is a step of the pipe thread. -/
def OfPipeThread : LockEvent → Prop
  | .ipcReceive => True
  | .ipcAct _ => True
  | _ => False

/-- The responses reach their requesters. `sound`: every response that was relayed is owed, and
none is relayed twice. `complete`: when the pipe thread is done, all that are owed were relayed.
`drains`: the pipe thread gets there. -/
structure LocksRouted (obs : List LockObservation) (s : LockState) : Prop where
  sound : (relayedOf obs).Subperm (owedOf obs)
  complete : Settled s → (relayedOf obs).Perm (owedOf obs)
  drains : ∃ es, (∀ e ∈ es, OfPipeThread e) ∧ Settled (lockMachine.run s es)

/-! ### The order of the commands -/

/-- The commands on the pipe are the requests that the agent has not processed. -/
structure InOrder (obs : List LockObservation) (s : LockState) : Prop where
  tasks : ∀ client message, .sendMessageToAgent message ∈ s.tasks client →
    isLockCommand message = true
  pong : ∀ message, s.ipcTask = .pong message → isLockCommand message = false
  order : (processedOf obs).map Prod.fst ++ s.toAgent.filter isLockCommand
    = (forwardedOf obs).map Prod.snd

/-- Other observations say nothing about the order. -/
theorem InOrder.quiet {obs : List LockObservation} {s : LockState} (h : InOrder obs s)
    {o : LockObservation} (hf : forwardedOf [o] = []) (hp : processedOf [o] = []) :
    InOrder (obs ++ [o]) s where
  tasks := h.tasks
  pong := h.pong
  order := by
    rw [processedOf_append, forwardedOf_append, hf, hp, List.append_nil, List.append_nil]
    exact h.order

/-- The writes of a thread that has not started are lock commands. -/
theorem isLockCommand_of_unstarted {client : ClientId} {acts : List ServiceAction}
    (h : Unstarted client acts) {message : Bytes} (hm : .sendMessageToAgent message ∈ acts) :
    isLockCommand message = true := by
  cases h with
  | idle => cases hm
  | refuse header payload => simp at hm
  | dispatch frame =>
    have hmessage : message = lockRequestMessage frame.header frame.payload := by
      simpa [dispatchLock] using hm
    rw [hmessage]
    exact isLockCommand_lockRequestMessage frame

/-- The tasks of one thread change to acts whose writes are lock commands. -/
theorem InOrder.setTasks {obs : List LockObservation} {s : LockState} (h : InOrder obs s)
    {client : ClientId} {acts : List ServiceAction}
    (hacts : ∀ message, .sendMessageToAgent message ∈ acts → isLockCommand message = true) :
    InOrder obs { s with tasks := Function.update s.tasks client acts } where
  tasks c message hm := by
    change .sendMessageToAgent message ∈ Function.update s.tasks client acts c at hm
    by_cases hc : c = client
    · subst hc
      rw [Function.update_self] at hm
      exact hacts message hm
    · rw [Function.update_of_ne hc] at hm
      exact h.tasks c message hm
  pong := h.pong
  order := h.order

/-- A client thread keeps the order. -/
theorem InOrder.clientAct {obs : List LockObservation} {s : LockState} (h : InOrder obs s)
    (client : ClientId) (sent : Bool) :
    InOrder (obs ++ [(lockMachine.step s (.clientAct client sent)).2])
      (lockMachine.step s (.clientAct client sent)).1 := by
  cases htasks : s.tasks client with
  | nil =>
    simp only [lockMachine, htasks]
    exact h.quiet rfl rfl
  | cons act acts =>
    have hrest : InOrder obs { s with tasks := Function.update s.tasks client acts } := by
      refine h.setTasks ?_
      intro message hm
      refine h.tasks client message ?_
      rw [htasks]
      exact List.mem_cons_of_mem act hm
    simp only [lockMachine, htasks]
    cases act with
    | sendFrame c header payload => exact hrest.quiet rfl rfl
    | storePendingLockClientId c =>
      exact ⟨hrest.tasks, hrest.pong, (hrest.quiet (o := .silent) rfl rfl).order⟩
    | storePendingLockMessageId id =>
      exact ⟨hrest.tasks, hrest.pong, (hrest.quiet (o := .silent) rfl rfl).order⟩
    | sendMessageToAgent message =>
      cases sent with
      | false => exact hrest.quiet rfl rfl
      | true =>
        -- A client sends nothing but lock commands to the agent, so it is in both lists.
        have hlock : isLockCommand message = true := by
          refine h.tasks client message ?_
          rw [htasks]
          exact List.mem_cons_self
        refine ⟨hrest.tasks, hrest.pong, ?_⟩
        show List.map Prod.fst (processedOf (obs ++ [.forwarded client message])) ++
            (s.toAgent ++ [message]).filter isLockCommand
          = List.map Prod.snd (forwardedOf (obs ++ [.forwarded client message]))
        rw [processedOf_append, forwardedOf_append, List.filter_append, List.map_append,
          List.map_append, ← h.order]
        simp [processedOf, forwardedOf, hlock]

/-- The agent keeps the order. -/
theorem InOrder.agent {obs : List LockObservation} {s : LockState} (h : InOrder obs s)
    (lockSuccess sent : Bool) :
    InOrder (obs ++ [(lockMachine.step s (.agent lockSuccess sent)).2])
      (lockMachine.step s (.agent lockSuccess sent)).1 := by
  have horder := h.order
  cases hpipe : s.toAgent with
  | nil =>
    simp only [lockMachine, hpipe]
    exact h.quiet rfl rfl
  | cons message rest =>
    rw [hpipe] at horder
    simp only [lockMachine, hpipe]
    cases hcommand : readAgentCommand message with
    | lock header =>
      rw [List.filter_cons_of_pos (by simp [isLockCommand, hcommand])] at horder
      -- The command moves from the pipe to the processed ones, whatever the answer is.
      have hnext : ∀ answer, List.map Prod.fst (processedOf (obs ++ [.processed message answer])) ++
          rest.filter isLockCommand
            = List.map Prod.snd (forwardedOf (obs ++ [.processed message answer])) := by
        intro answer
        rw [processedOf_append, forwardedOf_append, List.map_append, List.map_append, ← horder]
        simp [processedOf, forwardedOf]
      simp only [runAgent, hcommand]
      cases sent with
      | true => exact ⟨h.tasks, h.pong, hnext _⟩
      | false => exact ⟨h.tasks, h.pong, hnext _⟩
    | ping header | ignored =>
      rw [List.filter_cons_of_neg (by simp [isLockCommand, hcommand])] at horder
      have hrest : InOrder obs { s with toAgent := rest } := ⟨h.tasks, h.pong, horder⟩
      simp only [runAgent, hcommand]
      exact ⟨h.tasks, h.pong, (hrest.quiet (o := .silent) rfl rfl).order⟩

/-- The pipe thread keeps the order. Only its answer to a ping goes to the agent. -/
theorem InOrder.ipcAct {obs : List LockObservation} {s : LockState} (h : InOrder obs s)
    (sent : Bool) :
    InOrder (obs ++ [(lockMachine.step s (.ipcAct sent)).2])
      (lockMachine.step s (.ipcAct sent)).1 := by
  have hnoPong : ∀ {task : IpcTask}, (∀ message, task ≠ .pong message) →
      ∀ message, task = .pong message → isLockCommand message = false := by
    intro task hne message htask
    exact absurd htask (hne message)
  cases htask : s.ipcTask with
  | idle =>
    simp only [lockMachine, runIpc, htask]
    exact h.quiet rfl rfl
  | pong message =>
    have hlock := h.pong message htask
    simp only [lockMachine, runIpc, htask]
    refine ⟨h.tasks, hnoPong (by simp), ?_⟩
    have hquiet := (h.quiet (o := .silent) rfl rfl).order
    cases sent with
    | true =>
      -- A pong in the pipe is no lock command, so the filter drops it.
      show _ ++ (s.toAgent ++ [message]).filter isLockCommand = _
      rw [List.filter_append, List.filter_cons_of_neg (by simp [hlock]), List.filter_nil,
        List.append_nil]
      exact hquiet
    | false => exact hquiet
  | exchangeClient payload | loadMessageId client payload =>
    simp only [lockMachine, runIpc, htask]
    exact ⟨h.tasks, hnoPong (by simp), (h.quiet (o := .silent) rfl rfl).order⟩
  | relay client messageId payload =>
    simp only [lockMachine, runIpc, htask]
    refine ⟨h.tasks, hnoPong (by simp), ?_⟩
    split
    · exact (h.quiet (o := .relayed _ _ _) rfl rfl).order
    · exact (h.quiet (o := .silent) rfl rfl).order

/-- Every step keeps the order. -/
theorem inOrder_step {obs : List LockObservation} {s : LockState} (h : InOrder obs s)
    (e : LockEvent) : InOrder (obs ++ [(lockMachine.step s e).2]) (lockMachine.step s e).1 := by
  have hsilent := h.quiet (o := .silent) rfl rfl
  cases e with
  | frame client frame reg env =>
    simp only [lockMachine]
    split
    · refine hsilent.setTasks ?_
      intro message hm
      exact isLockCommand_of_unstarted (unstarted_handleLockRequest reg client frame env) hm
    · exact hsilent
  | clientAct client sent => exact h.clientAct client sent
  | agent lockSuccess sent => exact h.agent lockSuccess sent
  | agentReport state => exact ⟨hsilent.tasks, hsilent.pong, hsilent.order⟩
  | ipcReceive =>
    simp only [lockMachine]
    split
    · rename_i message rest _ _
      refine ⟨hsilent.tasks, ?_, hsilent.order⟩
      show ∀ m, handleIpcMessage message = .pong m → isLockCommand m = false
      intro m hm
      obtain hother | ⟨header, hpong⟩ | ⟨payload, hother⟩ := handleIpcMessage_cases message
      · rw [hother] at hm
        cases hm
      · rw [hpong] at hm
        obtain rfl := IpcTask.pong.inj hm
        exact isLockCommand_pongMessage header
      · rw [hother] at hm
        cases hm
    · exact hsilent
  | ipcAct sent => exact h.ipcAct sent

/-! ### The pipe thread gets done -/

/-- The pipe thread finishes what it is doing. -/
theorem finishes_task (s : LockState) :
    ∃ es, (∀ e ∈ es, OfPipeThread e) ∧ (lockMachine.run s es).ipcTask = .idle ∧
      (lockMachine.run s es).toService = s.toService := by
  have hacts : ∀ n, ∀ e ∈ List.replicate n (LockEvent.ipcAct true), OfPipeThread e := by
    intro n e he
    rw [(List.mem_replicate.mp he).2]
    trivial
  cases htask : s.ipcTask with
  | idle => exact ⟨_, hacts 0, htask, rfl⟩
  | pong message =>
    refine ⟨_, hacts 1, ?_⟩
    simp [lockMachine, runIpc, htask]
  | exchangeClient payload =>
    refine ⟨_, hacts 3, ?_⟩
    simp [List.replicate, lockMachine, runIpc, htask]
  | loadMessageId client payload =>
    refine ⟨_, hacts 2, ?_⟩
    simp [List.replicate, lockMachine, runIpc, htask]
  | relay client messageId payload =>
    refine ⟨_, hacts 1, ?_⟩
    simp [lockMachine, runIpc, htask]

/-- The pipe thread handles everything that waits for it. -/
theorem drains_pipe (s : LockState) :
    ∃ es, (∀ e ∈ es, OfPipeThread e) ∧ Settled (lockMachine.run s es) := by
  generalize hn : s.toService.length = n
  induction n generalizing s with
  | zero =>
    obtain ⟨es, hes, hidle, hsame⟩ := finishes_task s
    refine ⟨es, hes, ?_, .inl hidle⟩
    rw [hsame, List.eq_nil_of_length_eq_zero hn]
    intro message hm
    cases hm
  | succ n ih =>
    obtain ⟨es, hes, hidle, hsame⟩ := finishes_task s
    obtain ⟨message, rest, hpipe⟩ := List.exists_cons_of_length_eq_add_one hn
    -- The thread takes the next message, and one less is left.
    have hreceive : (lockMachine.step (lockMachine.run s es) .ipcReceive).1.toService = rest := by
      simp only [lockMachine] at hidle hsame ⊢
      rw [hidle, hsame, hpipe]
    have hlen : (lockMachine.step (lockMachine.run s es) .ipcReceive).1.toService.length = n := by
      rw [hreceive]
      rw [hpipe, List.length_cons] at hn
      omega
    obtain ⟨fs, hfs, hsettled⟩ := ih _ hlen
    refine ⟨es ++ .ipcReceive :: fs, ?_, ?_⟩
    · intro e he
      obtain he | rfl | he := by simpa using he
      · exact hes e he
      · trivial
      · exact hfs e he
    · rw [Machine.run_append, Machine.run_cons]
      exact hsettled

/-! ### Runs -/

/-- What the run showed. -/
def observations (es : List LockEvent) : List LockObservation :=
  (lockMachine.trace {} es).map (·.output)

/-- The agent takes the requests in the order in which they reached the pipe, in every run. -/
theorem processed_inOrder (es : List LockEvent) :
    (processedOf (observations es)).map Prod.fst ++
        (lockMachine.run {} es).toAgent.filter isLockCommand
      = (forwardedOf (observations es)).map Prod.snd := by
  have hinOrder : InOrder (observations es) (lockMachine.run {} es) := by
    refine lockMachine.history_invariant (P := fun tr s => InOrder (tr.map (·.output)) s) ?_ ?_
      (lockMachine.along_true {} es)
    · constructor
      · intro client message hm
        cases hm
      · intro message hm
        cases hm
      · rfl
    · intro tr s e h _
      rw [List.map_append]
      exact inOrder_step h e
  exact hinOrder.order

/-- In every run from the start of the service whose steps meet the condition, the responses
reach their requesters. -/
theorem locksRouted_run (es : List LockEvent) (halone : lockMachine.Along StoresAlone {} es) :
    LocksRouted (observations es) (lockMachine.run {} es) := by
  have hstart : AtStage .none {} := by
    constructor
    · intro client
      refine .inr ⟨.idle, ?_⟩
      intro acts hstarted
      cases hstarted
    · rfl
    · rfl
    · rfl
    · intro message hmessage
      cases hmessage
    · intro id hid
      cases hid
    · intro id hid
      cases hid
  -- The invariant over the history, step by step.
  have htracks : Tracks (observations es) (lockMachine.run {} es) := by
    refine lockMachine.history_invariant (P := fun tr s => Tracks (tr.map (·.output)) s) ?_ ?_
      halone
    · exact ⟨.none, hstart, [], rfl, rfl, rfl⟩
    · intro tr s e h he
      rw [List.map_append]
      exact tracks_step h he
  obtain ⟨stage, hstage, -, -, -, howed⟩ := htracks
  constructor
  · rw [← howed]
    exact (List.sublist_append_left _ _).subperm
  · intro hsettled
    -- In a settled state nothing is under way, so what is owed has been relayed.
    have hrelaying : relaying (lockMachine.run {} es).ipcTask = [] := by
      obtain hidle | ⟨message, hpong⟩ := hsettled.2
      · rw [hidle]
        rfl
      · rw [hpong]
        rfl
    rw [← howed, hrelaying, hstage.reply_eq_nil hsettled, List.append_nil, List.append_nil]
  · exact drains_pipe _

/-! ### One client and two clients -/

/-- A registry with one paired device. -/
def pairedRegistry : Registry :=
  (writeDeviceRecord RegAccess.ok {} { pairStatus := kStatusActive }).2

/-- A LOCK_REQUEST of the paired device. -/
def pairedFrame (messageId : UInt32) : LockFrame where
  header := lockHeader messageId
  payload := List.replicate 16 0
  size := by decide

/-- A client sends a LOCK_REQUEST, and its thread handles it without a break. -/
def requestEvents (client : ClientId) (messageId : UInt32) : List LockEvent :=
  [.frame client (pairedFrame messageId) pairedRegistry lockEnv, .clientAct client true,
    .clientAct client true, .clientAct client true]

/-- The pipe thread handles a message. -/
def responseEvents : List LockEvent := [.ipcReceive, .ipcAct true, .ipcAct true, .ipcAct true]

def clientOne : ClientId := ⟨1, by decide⟩
def clientTwo : ClientId := ⟨2, by decide⟩

/-- One client asks and gets its answer. -/
theorem locksRouted_run_oneClient :
    LocksRouted (observations (requestEvents clientOne 101 ++ .agent true true :: responseEvents))
      (lockMachine.run {} (requestEvents clientOne 101 ++ .agent true true :: responseEvents)) := by
  have hdispatch : handleLockRequest pairedRegistry clientOne.val (lockHeader 101)
      (List.replicate 16 0) lockEnv
        = dispatchLock clientOne.val (lockHeader 101) (List.replicate 16 0) := by
    decide +kernel
  have hfirst : ¬ LockInFlight (lockMachine.step {} (.frame clientOne (pairedFrame 101)
      pairedRegistry lockEnv)).1 := by
    rintro (⟨client, hstarted⟩ | ⟨message, hm, -⟩ | ⟨message, hm, -⟩ | hawaits)
    · change dispatchStarted (Function.update (fun _ => []) clientOne (handleLockRequest
        pairedRegistry clientOne.val (lockHeader 101) (List.replicate 16 0) lockEnv) client)
          = true at hstarted
      rw [hdispatch] at hstarted
      by_cases hclient : client = clientOne
      · rw [hclient, Function.update_self] at hstarted
        cases hstarted
      · rw [Function.update_of_ne hclient] at hstarted
        cases hstarted
    · cases hm
    · cases hm
    · cases hawaits
  -- The later acts of the thread are no stores of a client id.
  have hsecond : (lockMachine.run {} ((requestEvents clientOne 101).take 2)).tasks clientOne
      = (dispatchLock 1 (lockHeader 101) (List.replicate 16 0)).drop 1 := by
    decide +kernel
  have hthird : (lockMachine.run {} ((requestEvents clientOne 101).take 3)).tasks clientOne
      = (dispatchLock 1 (lockHeader 101) (List.replicate 16 0)).drop 2 := by
    decide +kernel
  refine locksRouted_run _ ⟨trivial, fun _ _ _ => hfirst, ?_, ?_, trivial, trivial, trivial,
    trivial, trivial, trivial⟩
  · intro clientId acts htasks
    cases hsecond.symm.trans htasks
  · intro clientId acts htasks
    cases hthird.symm.trans htasks

/-- Two clients ask before the agent answers. It locks for the first and fails for the second.
The second client gets the answer of the first, and the first one gets none. -/
theorem locksRouted_twoClients :
    ¬ LocksRouted
      (observations (requestEvents clientOne 101 ++ requestEvents clientTwo 102 ++
        [.agent true true, .agent false true] ++ responseEvents ++ responseEvents))
      (lockMachine.run {} (requestEvents clientOne 101 ++ requestEvents clientTwo 102 ++
        [.agent true true, .agent false true] ++ responseEvents ++ responseEvents)) := by
  rintro ⟨hsound, -, -⟩
  generalize hobs : observations (requestEvents clientOne 101 ++ requestEvents clientTwo 102 ++
    [.agent true true, .agent false true] ++ responseEvents ++ responseEvents) = obs at hsound
  have hrelayed : ⟨2, 102, lockOutcome true⟩ ∈ relayedOf obs := by
    rw [← hobs]
    decide +kernel
  have howed : ⟨2, 102, lockOutcome true⟩ ∉ owedOf obs := by
    rw [← hobs]
    decide +kernel
  exact howed (hsound.subset hrelayed)

end MobileUnlock.Service
