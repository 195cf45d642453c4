import MobileUnlock.Proofs.LockAuthorization
import MobileUnlock.Proofs.LockExchange
import MobileUnlock.Service.ServiceMachine

/-!
# `MobileUnlock.Proofs.ServiceAnswers`: how much the service sends

The service sends a frame to a client from two threads. The thread of the client answers what it has
taken up. The thread of the pipe sends the answer of the agent to whoever `m_pendingLockClientId`
names, and sets it back to zero before. A frame can also be answered by nobody: a second lock
overwrites the client of the first.

What is owed to a client is the answer that its thread still has to send, the pending lock if it is
that of the client, and the relay on the thread of the pipe. A frame of the client adds at most one
to it, and what is sent is taken off it (`owed_step`). So no client ever gets more frames than it
has sent, and a client that has sent none gets none (`answers_le_frames`).
-/

set_option autoImplicit false

namespace MobileUnlock.Service

open MobileUnlock.Lib MobileUnlock.Protocol MobileUnlock.Pairing MobileUnlock.Authentication

/-! ### Frames and answers -/

/-- The frames that a client has sent. -/
def ServiceEvent.framesOf (client : ClientId) : ServiceEvent → Nat
  | .frame c _ _ _ => if c = client then 1 else 0
  | _ => 0

/-- The frames that are sent to a client. -/
def LockObservation.answersTo (client : ClientId) : LockObservation → Nat
  | .replied c _ _ => if c = client.val then 1 else 0
  | .relayed c _ _ => if c = client.val then 1 else 0
  | _ => 0

/-! ### What is owed -/

/-- The client that an act is for. -/
def ServiceAction.recipient : ServiceAction → Option UInt64
  | .sendFrame c _ _ => some c
  | .storePendingLockClientId c => some c
  | _ => none

/-- The client that the thread of the pipe is about to send to. -/
def IpcTask.recipient : IpcTask → Option UInt64
  | .loadMessageId c _ => some c
  | .relay c _ _ => some c
  | _ => none

/-- The acts that are for a client. -/
def actsFor (client : ClientId) (acts : List ServiceAction) : Nat :=
  acts.countP fun act => act.recipient = some client.val

/-- The frames that the service may still send to a client. -/
def owed (client : ClientId) (s : LockState) : Nat :=
  actsFor client (s.tasks client) + (if s.pendingLockClientId = client.val then 1 else 0) +
    (if s.ipcTask.recipient = some client.val then 1 else 0)

/-- The acts of every client thread have the property. -/
def ActsSatisfy (P : ClientId → ServiceAction → Prop) (s : LockState) : Prop :=
  ∀ client, ∀ act ∈ s.tasks client, P client act

/-- The act is for the client whose thread does it. -/
def IsOwn (client : ClientId) (act : ServiceAction) : Prop :=
  ∀ c, act.recipient = some c → c = client.val

theorem ClientId.eq_of_val {a b : ClientId} (h : a.val = b.val) : a = b := by
  cases a
  cases b
  cases h
  rfl

/-! ### The handler of a frame -/

/-- Acts for one client, and at most one of them is owed to it. -/
structure AnswersOnce (clientId : UInt64) (acts : List ServiceAction) : Prop where
  own : ∀ act ∈ acts, ∀ c, act.recipient = some c → c = clientId
  once : acts.countP (fun act => act.recipient = some clientId) ≤ 1

theorem answersOnce_sendFrame (clientId : UInt64) (header : FrameHeader) (payload : Bytes) :
    AnswersOnce clientId [.sendFrame clientId header payload] := by
  refine ⟨fun act hact c hc => ?_, List.countP_le_length⟩
  obtain rfl := List.mem_singleton.mp hact
  exact (Option.some.inj hc).symm

theorem answersOnce_dispatchLock (clientId : UInt64) (header : FrameHeader) (payload : Bytes) :
    AnswersOnce clientId (dispatchLock clientId header payload) := by
  refine ⟨fun act hact c hc => ?_, ?_⟩
  · simp only [dispatchLock, List.mem_cons, List.not_mem_nil, or_false] at hact
    obtain rfl | rfl | rfl := hact
    · exact (Option.some.inj hc).symm
    · cases hc
    · cases hc
  · simp [dispatchLock, ServiceAction.recipient]

theorem answersOnce_handleLockRequest (reg : Registry) (clientId : UInt64) (header : FrameHeader)
    (payload : Bytes) (env : FrameEnv) :
    AnswersOnce clientId (handleLockRequest reg clientId header payload env) := by
  have hdispatch : AnswersOnce clientId
      (if ¬ env.agentConnected then [refuseLock clientId header "AGENT_UNAVAILABLE"]
        else dispatchLock clientId header payload) := by
    split
    · exact answersOnce_sendFrame _ _ _
    · exact answersOnce_dispatchLock _ _ _
  cases hid : (lockDeviceId payload env.stackId).1 with
  | false =>
    rw [handleLockRequest_of_no_id hid]
    exact hdispatch
  | true =>
    rw [handleLockRequest_of_id hid]
    split
    · exact answersOnce_sendFrame _ _ _
    · exact hdispatch

theorem answersOnce_handleNetworkFrame (s : AuthState) (clientId : UInt64) (header : FrameHeader)
    (payload : Bytes) (env : FrameEnv) :
    AnswersOnce clientId (handleNetworkFrame s clientId header payload env).2 := by
  rw [handleNetworkFrame]
  split
  · exact answersOnce_sendFrame _ _ _
  · split
    · exact answersOnce_sendFrame _ _ _
    · split
      · exact answersOnce_sendFrame _ _ _
      · split
        · exact answersOnce_handleLockRequest _ _ _ _ _
        · exact ⟨fun act hact => absurd hact List.not_mem_nil, Nat.zero_le 1⟩

/-! ### One step -/

/-- What one act of a client thread does for a client: the frame that is sent, and whether the
client is pending then. -/
theorem runAction_owed (client : ClientId) (s : LockState) (c : ClientId) (sent : Bool)
    (act : ServiceAction) (hown : ∀ r, act.recipient = some r → r = c.val) :
    (runAction s c sent act).2.answersTo client + owed client (runAction s c sent act).1 ≤
      owed client s + if c = client ∧ act.recipient = some client.val then 1 else 0 := by
  have hclient : act.recipient = some client.val → c = client :=
    fun hr => ClientId.eq_of_val (hown _ hr).symm
  cases act with
  | sendFrame r header payload =>
    have hanswer : (LockObservation.replied r header payload).answersTo client ≤
        if c = client ∧ (some r : Option UInt64) = some client.val then 1 else 0 := by
      show (if r = client.val then 1 else 0) ≤ _
      split
      next hr => rw [if_pos ⟨hclient (congrArg some hr), congrArg some hr⟩]
      next => exact Nat.zero_le _
    show _ + owed client s ≤ _
    rw [Nat.add_comm]
    exact Nat.add_le_add_left hanswer _
  | storePendingLockClientId r =>
    have hpending : (if r = client.val then 1 else 0) ≤
        if c = client ∧ (some r : Option UInt64) = some client.val then 1 else 0 := by
      split
      next hr => rw [if_pos ⟨hclient (congrArg some hr), congrArg some hr⟩]
      next => exact Nat.zero_le _
    show 0 + (actsFor client (s.tasks client) + (if r = client.val then 1 else 0) +
      (if s.ipcTask.recipient = some client.val then 1 else 0)) ≤ owed client s + _
    rw [owed]
    have hrecipient : (ServiceAction.storePendingLockClientId r).recipient = some r := rfl
    rw [hrecipient]
    omega
  | storePendingLockMessageId id => exact Nat.le_add_right_of_le (Nat.zero_add _).le
  | sendMessageToAgent message =>
    cases sent with
    | false => exact Nat.le_add_right_of_le (Nat.zero_add _).le
    | true => exact Nat.le_add_right_of_le (Nat.zero_add _).le

/-- Taking an act off the list of a client thread takes it off what is owed. -/
theorem owed_take (client : ClientId) (s : LockState) (c : ClientId) (act : ServiceAction)
    (acts : List ServiceAction) (htasks : s.tasks c = act :: acts) :
    owed client { s with tasks := Function.update s.tasks c acts } +
        (if c = client ∧ act.recipient = some client.val then 1 else 0) =
      owed client s := by
  by_cases hc : c = client
  · subst hc
    simp only [owed, actsFor, htasks, Function.update_self, List.countP_cons, true_and,
      decide_eq_true_eq]
    omega
  · have hupdate : Function.update s.tasks c acts client = s.tasks client :=
      Function.update_of_ne (Ne.symm hc) acts s.tasks
    simp only [owed, hupdate, hc, false_and, if_false, Nat.add_zero]

theorem lockMachine_owed (client : ClientId) {s : LockState} (h : ActsSatisfy IsOwn s)
    {e : LockEvent} (hframe : ∀ c frame reg env, e ≠ .frame c frame reg env) :
    (lockMachine.step s e).2.answersTo client + owed client (lockMachine.step s e).1 ≤
      owed client s := by
  cases e with
  | frame c frame reg env => exact absurd rfl (hframe c frame reg env)
  | clientAct c sent =>
    dsimp only [lockMachine]
    split
    next => exact (Nat.zero_add _).le
    next act acts htasks =>
      have hown : ∀ r, act.recipient = some r → r = c.val := by
        refine h c act ?_
        rw [htasks]
        exact List.mem_cons_self
      rw [← owed_take client s c act acts htasks]
      exact runAction_owed client _ c sent act hown
  | agent lockSuccess sent =>
    dsimp only [lockMachine]
    split
    next => exact (Nat.zero_add _).le
    next message rest _ =>
      rw [runAgent]
      split
      · split
        · exact (Nat.zero_add _).le
        · exact (Nat.zero_add _).le
      · exact (Nat.zero_add _).le
      · exact (Nat.zero_add _).le
  | agentReport state => exact (Nat.zero_add _).le
  | ipcReceive =>
    dsimp only [lockMachine]
    split
    next message rest hidle _ =>
      have hnobody : (handleIpcMessage message).recipient = none := by
        obtain hcase | ⟨header, hcase⟩ | ⟨payload, hcase⟩ := handleIpcMessage_cases message
        · rw [hcase]
          rfl
        · rw [hcase]
          rfl
        · rw [hcase]
          rfl
      simp only [owed, hnobody, hidle, LockObservation.answersTo]
      exact (Nat.zero_add _).le
    next => exact (Nat.zero_add _).le
  | ipcAct sent =>
    dsimp only [lockMachine]
    rw [runIpc]
    cases htask : s.ipcTask with
    | idle => exact (Nat.zero_add _).le
    | pong message => simp [owed, htask, IpcTask.recipient, LockObservation.answersTo]
    | exchangeClient payload =>
      simp only [owed, htask, IpcTask.recipient, LockObservation.answersTo, client.ne_zero.symm,
        Option.some.injEq, if_false, reduceCtorEq]
      omega
    | loadMessageId c payload => simp [owed, htask, IpcTask.recipient, LockObservation.answersTo]
    | relay c messageId payload =>
      simp only [owed, htask, IpcTask.recipient, Option.some.injEq, reduceCtorEq, if_false]
      split
      · simp only [LockObservation.answersTo]
        omega
      · simp only [LockObservation.answersTo]
        omega

/-! ### The acts of the client threads -/

section Acts
variable {P : ClientId → ServiceAction → Prop}

theorem ActsSatisfy.update {s : LockState} (h : ActsSatisfy P s) {c : ClientId}
    {acts : List ServiceAction} (hacts : ∀ act ∈ acts, P c act) {s' : LockState}
    (hs' : s'.tasks = Function.update s.tasks c acts) : ActsSatisfy P s' := by
  intro client act hact
  rw [hs'] at hact
  by_cases hc : client = c
  · subst hc
    rw [Function.update_self] at hact
    exact hacts act hact
  · rw [Function.update_of_ne hc] at hact
    exact h client act hact

/-- Only a client thread changes its acts, and it takes the first one off. -/
theorem ActsSatisfy.lockMachine {s : LockState} (h : ActsSatisfy P s) {e : LockEvent}
    (hframe : ∀ c frame reg env, e ≠ .frame c frame reg env) :
    ActsSatisfy P (lockMachine.step s e).1 := by
  cases e with
  | frame c frame reg env => exact absurd rfl (hframe c frame reg env)
  | clientAct c sent =>
    dsimp only [Service.lockMachine]
    split
    next => exact h
    next act acts htasks =>
      have hrest : ∀ act ∈ acts, P c act := by
        intro act' hact
        refine h c act' ?_
        rw [htasks]
        exact List.mem_cons_of_mem _ hact
      refine h.update hrest ?_
      cases act with
      | sendFrame r header payload => rfl
      | storePendingLockClientId r => rfl
      | storePendingLockMessageId id => rfl
      | sendMessageToAgent message =>
        cases sent with
        | false => rfl
        | true => rfl
  | agent lockSuccess sent =>
    dsimp only [Service.lockMachine]
    split
    next => exact h
    next message rest _ =>
      rw [runAgent]
      split
      · split
        · exact h
        · exact h
      · exact h
      · exact h
  | agentReport state => exact h
  | ipcReceive =>
    dsimp only [Service.lockMachine]
    split
    next => exact h
    next => exact h
  | ipcAct sent =>
    dsimp only [Service.lockMachine]
    rw [runIpc]
    cases s.ipcTask with
    | idle => exact h
    | pong message => exact h
    | exchangeClient payload => exact h
    | loadMessageId c payload => exact h
    | relay c messageId payload => exact h

/-- What the acts of every frame have, the acts of the threads always have. -/
theorem ActsSatisfy.step
    (hhandler : ∀ s (client : ClientId) header payload env,
      ∀ act ∈ (handleNetworkFrame s client.val header payload env).2, P client act)
    {s : ServiceState} (h : ActsSatisfy P s.threads) (e : ServiceEvent) :
    ActsSatisfy P (serviceMachine.step s e).1.threads := by
  cases e with
  | frame c header payload env =>
    dsimp only [serviceMachine]
    split
    next => exact h.update (hhandler s.auth c header payload env) rfl
    next => exact h
  | registry reg => exact h
  | clientAct c sent => exact h.lockMachine (e := .clientAct c sent) (by rintro _ _ _ _ ⟨⟩)
  | agent lockSuccess sent =>
    exact h.lockMachine (e := .agent lockSuccess sent) (by rintro _ _ _ _ ⟨⟩)
  | agentMessage message => exact h
  | ipcReceive => exact h.lockMachine (e := .ipcReceive) (by rintro _ _ _ _ ⟨⟩)
  | ipcAct sent => exact h.lockMachine (e := .ipcAct sent) (by rintro _ _ _ _ ⟨⟩)

end Acts

theorem isOwn_step {s : ServiceState} (h : ActsSatisfy IsOwn s.threads) (e : ServiceEvent) :
    ActsSatisfy IsOwn (serviceMachine.step s e).1.threads :=
  h.step (fun s client header payload env =>
    (answersOnce_handleNetworkFrame s client.val header payload env).own) e

/-! ### Whole runs -/

/-- What is sent to a client is taken off what it is owed, and a frame of it adds at most one. -/
theorem owed_step (client : ClientId) {s : ServiceState} (h : ActsSatisfy IsOwn s.threads)
    (e : ServiceEvent) :
    (serviceMachine.step s e).2.answersTo client +
        owed client (serviceMachine.step s e).1.threads ≤
      owed client s.threads + e.framesOf client := by
  cases e with
  | frame c header payload env =>
    dsimp only [serviceMachine]
    split
    next htasks =>
      have hacts := answersOnce_handleNetworkFrame s.auth c.val header payload env
      generalize (handleNetworkFrame s.auth c.val header payload env).2 = acts at hacts
      simp only [owed, LockObservation.answersTo, ServiceEvent.framesOf]
      by_cases hc : c = client
      · subst hc
        have honce := hacts.once
        rw [Function.update_self, if_pos rfl, htasks]
        simp only [actsFor, List.countP_nil]
        omega
      · rw [Function.update_of_ne (Ne.symm hc), if_neg hc]
        omega
    next => exact Nat.le_add_right_of_le (Nat.zero_add _).le
  | registry reg => exact (Nat.zero_add _).le
  | clientAct c sent =>
    exact lockMachine_owed client (e := .clientAct c sent) h (by rintro _ _ _ _ ⟨⟩)
  | agent lockSuccess sent =>
    exact lockMachine_owed client (e := .agent lockSuccess sent) h (by rintro _ _ _ _ ⟨⟩)
  | agentMessage message => exact (Nat.zero_add _).le
  | ipcReceive =>
    exact lockMachine_owed client (e := .ipcReceive) h (by rintro _ _ _ _ ⟨⟩)
  | ipcAct sent =>
    exact lockMachine_owed client (e := .ipcAct sent) h (by rintro _ _ _ _ ⟨⟩)

/-- In every interleaving, a client gets at most as many frames as it has sent. -/
theorem answers_le_frames (client : ClientId) (es : List ServiceEvent) :
    ((serviceMachine.trace {} es).map fun x => x.output.answersTo client).sum ≤
      (es.map fun e => e.framesOf client).sum := by
  have hstart : ActsSatisfy IsOwn ({} : ServiceState).threads :=
    fun _ _ hact => absurd hact List.not_mem_nil
  have hnothing : owed client ({} : ServiceState).threads = 0 := by
    have hzero : (0 : UInt64) ≠ client.val := client.ne_zero.symm
    simp [owed, actsFor, hzero, IpcTask.recipient]
  have hbound := @Machine.potential _ _ _ serviceMachine (fun s => ActsSatisfy IsOwn s.threads)
    (fun s => owed client s.threads) (fun x => x.output.answersTo client)
    (fun e => e.framesOf client) (fun s e h => owed_step client h e)
    (fun s e h => isOwn_step h e) {} hstart es
  omega

end MobileUnlock.Service
