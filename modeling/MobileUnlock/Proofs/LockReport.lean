import MobileUnlock.Proofs.LockRouting
import MobileUnlock.Service.ServiceMachine

/-!
# `MobileUnlock.Proofs.LockReport`: when the service calls the PC locked

`HandleIpcMessage` ends every LOCK_RESPONSE with `SetState(LOCKED)`, whatever its payload says.
So the answer of a failed lock makes the service LOCKED, too.

The answers travel in order. `unhandled` are their payloads, from the one the pipe thread is at
to the last one on the pipe. The service stays LOCKED once it is, so only the first of them can
change its state. `FirstSucceeds` says that this one reports a success. Every step keeps it
(`firstSucceeds_step`), except for one: `LockWorkStation` fails, and the answer that says so is
the first one.
-/

set_option autoImplicit false

namespace MobileUnlock.Service

open MobileUnlock.Lib MobileUnlock.Protocol MobileUnlock.Pairing MobileUnlock.Authentication

/-! ### What is claimed of a step -/

/-- One step of the service. -/
abbrev ServiceStep := Entry ServiceState ServiceEvent LockObservation

/-- The payload of a LOCK_RESPONSE reports a success. -/
def ReportsSuccess (payload : Bytes) : Prop :=
  jsonGetString payload (ascii "status") = ascii "SUCCESS"

/-- The state of the service changes to LOCKED. -/
def BecomesLocked (x : ServiceStep) : Prop :=
  x.before.threads.currentState ≠ .LOCKED ∧ x.after.threads.currentState = .LOCKED

/-- The pipe thread handles a LOCK_RESPONSE that reports a success. -/
def HandlesSuccess (x : ServiceStep) : Prop :=
  ∃ sent client messageId payload, x.event = .ipcAct sent ∧
    x.before.threads.ipcTask = .relay client messageId payload ∧ ReportsSuccess payload

/-! ### Answers on their way -/

/-- The payload of the LOCK_RESPONSE the pipe thread is at. -/
def taskPayload : IpcTask → Option Bytes
  | .exchangeClient payload | .loadMessageId _ payload | .relay _ _ payload => some payload
  | .idle | .pong _ => none

/-- The payloads of the LOCK_RESPONSEs that are not handled yet, in order. -/
def unhandled (s : LockState) : List Bytes :=
  (taskPayload s.ipcTask).toList ++ s.toService.filterMap responsePayload

/-- The agent reads a lock command next. -/
def LockComesNext (s : LockState) : Prop :=
  ∃ message rest, s.toAgent = message :: rest ∧ isLockCommand message

/-- The agent fails to lock and says so, while the service is not LOCKED and no other answer is
before this one. -/
def ReportsFailureFirst (s : ServiceState) : ServiceEvent → Prop
  | .agent lockSuccess sent =>
    lockSuccess = false ∧ sent = true ∧ LockComesNext s.threads ∧
      s.threads.currentState ≠ .LOCKED ∧ unhandled s.threads = []
  | _ => False

/-- Unless the service is LOCKED, the next answer it handles reports a success. -/
def FirstSucceeds (s : LockState) : Prop :=
  s.currentState ≠ .LOCKED → ∀ payload ∈ (unhandled s).head?, ReportsSuccess payload

theorem taskPayload_handleIpcMessage (message : Bytes) :
    taskPayload (handleIpcMessage message) = responsePayload message := by
  unfold responsePayload
  rcases handleIpcMessage_cases message with h | ⟨header, h⟩ | ⟨payload, h⟩ <;> rw [h] <;> rfl

theorem responsePayload_plain (message : PlainMessage) : responsePayload message.bytes = none := by
  unfold responsePayload
  rcases handleIpcMessage_cases message.bytes with h | ⟨header, h⟩ | ⟨payload, h⟩
  · rw [h]
  · rw [h]
  · exact absurd h (message.plain payload)

theorem reportsSuccess_lockOutcome : ReportsSuccess (lockOutcome true) := by
  unfold ReportsSuccess
  decide +kernel

/-- The answer of a failed lock reports no success. -/
theorem not_reportsSuccess_lockOutcome : ¬ ReportsSuccess (lockOutcome false) := by
  unfold ReportsSuccess
  decide +kernel

/-! ### What a step does to the answers and to the state -/

/-- The step is no matter of the answers. -/
def SameReport (s s' : LockState) : Prop :=
  unhandled s' = unhandled s ∧ s'.currentState = s.currentState

/-- The agent appends an answer. -/
def AppendsReport (lockSuccess : Bool) (s s' : LockState) : Prop :=
  unhandled s' = unhandled s ++ [lockOutcome lockSuccess] ∧ s'.currentState = s.currentState

theorem runAction_report (s : LockState) (client : ClientId) (sent : Bool) (act : ServiceAction) :
    SameReport s (runAction s client sent act).1 := by
  cases act with
  | sendMessageToAgent message => cases sent <;> exact ⟨rfl, rfl⟩
  | _ => exact ⟨rfl, rfl⟩

/-- A new message comes behind the others. -/
theorem unhandled_append (s : LockState) (message : Bytes) :
    unhandled { s with toService := s.toService ++ [message] }
      = unhandled s ++ (responsePayload message).toList := by
  unfold unhandled
  rw [List.filterMap_append, List.append_assoc]
  cases h : responsePayload message <;> simp [h]

theorem unhandled_append_none (s : LockState) {message : Bytes}
    (h : responsePayload message = none) :
    unhandled { s with toService := s.toService ++ [message] } = unhandled s := by
  rw [unhandled_append, h]
  exact List.append_nil _

theorem runAgent_report (s : LockState) (lockSuccess sent : Bool) (message : Bytes) :
    SameReport s (runAgent s lockSuccess sent message).1 ∨
      (sent = true ∧ isLockCommand message = true ∧
        AppendsReport lockSuccess s (runAgent s lockSuccess sent message).1) := by
  unfold runAgent isLockCommand
  cases readAgentCommand message with
  | lock header =>
    cases sent with
    | false => exact .inl ⟨rfl, rfl⟩
    | true =>
      refine .inr ⟨rfl, rfl, ?_, rfl⟩
      have happend := unhandled_append s (lockResponseMessage header lockSuccess)
      rw [responsePayload_lockResponseMessage] at happend
      exact happend
  | ping header =>
    refine .inl ⟨?_, rfl⟩
    cases sent with
    | false => rfl
    | true => exact unhandled_append_none s (responsePayload_pongMessage header)
  | ignored => exact .inl ⟨rfl, rfl⟩

theorem ipcReceive_report (s : LockState) : SameReport s (lockMachine.step s .ipcReceive).1 := by
  simp only [lockMachine]
  split
  · rename_i message rest htask hpipe
    refine ⟨?_, rfl⟩
    show (taskPayload (handleIpcMessage message)).toList ++ rest.filterMap responsePayload
      = unhandled s
    unfold unhandled
    rw [taskPayload_handleIpcMessage, htask, hpipe, List.filterMap_cons]
    cases responsePayload message <;> rfl
  · exact ⟨rfl, rfl⟩

/-- The pipe thread is at its last act for a LOCK_RESPONSE, or the step is no matter of the
answers. -/
theorem runIpc_report (s : LockState) (sent : Bool) :
    SameReport s (runIpc s sent).1 ∨ ((runIpc s sent).1.currentState = .LOCKED ∧
      ∃ client messageId payload, s.ipcTask = .relay client messageId payload) := by
  unfold runIpc SameReport unhandled
  cases htask : s.ipcTask with
  | idle => exact .inl ⟨by rw [htask], rfl⟩
  | relay client messageId payload => exact .inr ⟨rfl, client, messageId, payload, rfl⟩
  | _ => exact .inl ⟨rfl, rfl⟩

/-- Everything a step can do to the answers and to the state. -/
theorem report_cases (s : ServiceState) (e : ServiceEvent) :
    SameReport s.threads (serviceMachine.step s e).1.threads ∨
      (∃ lockSuccess, e = .agent lockSuccess true ∧ LockComesNext s.threads ∧
        AppendsReport lockSuccess s.threads (serviceMachine.step s e).1.threads) ∨
      ((serviceMachine.step s e).1.threads.currentState = .LOCKED ∧
        ∃ sent client messageId payload, e = .ipcAct sent ∧
          s.threads.ipcTask = .relay client messageId payload) := by
  cases e with
  | frame client header payload env =>
    refine .inl ?_
    simp only [serviceMachine]
    split <;> exact ⟨rfl, rfl⟩
  | registry reg => exact .inl ⟨rfl, rfl⟩
  | clientAct client sent =>
    refine .inl ?_
    simp only [serviceMachine, stepThreads, lockMachine]
    split
    · exact ⟨rfl, rfl⟩
    · rename_i act acts _
      exact runAction_report { s.threads with tasks := _ } client sent act
  | agent lockSuccess sent =>
    simp only [serviceMachine, stepThreads, lockMachine]
    split
    · exact .inl ⟨rfl, rfl⟩
    · rename_i message rest hpipe
      rcases runAgent_report { s.threads with toAgent := rest } lockSuccess sent message with
        hsame | ⟨rfl, hlock, happends⟩
      · exact .inl hsame
      · exact .inr (.inl ⟨lockSuccess, rfl, ⟨message, rest, hpipe, hlock⟩, happends⟩)
  | agentMessage message =>
    exact .inl ⟨unhandled_append_none s.threads (responsePayload_plain message), rfl⟩
  | ipcReceive => exact .inl (ipcReceive_report s.threads)
  | ipcAct sent =>
    rcases runIpc_report s.threads sent with hsame | ⟨hlocked, client, messageId, payload, htask⟩
    · exact .inl hsame
    · exact .inr (.inr ⟨hlocked, sent, client, messageId, payload, rfl, htask⟩)

/-! ### Runs -/

theorem firstSucceeds_step (s : ServiceState) (e : ServiceEvent) (h : FirstSucceeds s.threads)
    (hfirst : ¬ ReportsFailureFirst s e) : FirstSucceeds (serviceMachine.step s e).1.threads := by
  rcases report_cases s e with ⟨hsame, hstate⟩ | ⟨lockSuccess, rfl, hnext, happends, hstate⟩ |
    ⟨hlocked, -⟩
  · unfold FirstSucceeds
    rw [hsame, hstate]
    exact h
  · intro hopen payload hpayload
    rw [hstate] at hopen
    rw [happends] at hpayload
    -- Behind another answer the new one is not the first. Without one it reports a success.
    cases hqueue : unhandled s.threads with
    | nil =>
      rw [hqueue] at hpayload
      obtain rfl : lockOutcome lockSuccess = payload := by simpa using hpayload
      cases lockSuccess with
      | true => exact reportsSuccess_lockOutcome
      | false => exact absurd ⟨rfl, rfl, hnext, hopen, hqueue⟩ hfirst
    | cons first others =>
      rw [hqueue] at hpayload
      exact h hopen payload (by rw [hqueue]; exact hpayload)
  · intro hopen
    exact absurd hlocked hopen

/-- A step that makes the service LOCKED handles the first answer. -/
theorem handlesSuccess_of_becomesLocked (s : ServiceState) (e : ServiceEvent)
    (h : FirstSucceeds s.threads) (hbecomes : BecomesLocked (serviceMachine.entry s e)) :
    HandlesSuccess (serviceMachine.entry s e) := by
  obtain ⟨hopen, hlocked⟩ := hbecomes
  change s.threads.currentState ≠ .LOCKED at hopen
  change (serviceMachine.step s e).1.threads.currentState = .LOCKED at hlocked
  rcases report_cases s e with ⟨-, hstate⟩ | ⟨lockSuccess, -, -, -, hstate⟩ |
    ⟨-, sent, client, messageId, payload, he, htask⟩
  · exact absurd (hstate.symm.trans hlocked) hopen
  · exact absurd (hstate.symm.trans hlocked) hopen
  · refine ⟨sent, client, messageId, payload, he, htask, h hopen payload ?_⟩
    unfold unhandled
    rw [htask]
    rfl

/-- In a run in which no failed lock is reported first, the service becomes LOCKED only by
handling a LOCK_RESPONSE that reports a success. -/
theorem becomesLocked_onSuccess (es : List ServiceEvent)
    (hrun : serviceMachine.Along (fun s e => ¬ ReportsFailureFirst s e) {} es) :
    ∀ x ∈ serviceMachine.trace {} es, BecomesLocked x → HandlesSuccess x := by
  intro x hx hbecomes
  obtain ⟨i, hi⟩ := List.mem_iff_getElem?.mp hx
  rw [Machine.trace_getElem?] at hi
  obtain ⟨e, he, rfl⟩ := Option.map_eq_some_iff.mp hi
  have hstart : FirstSucceeds ({} : ServiceState).threads := by
    intro _ payload hpayload
    cases hpayload
  have hfirst := serviceMachine.invariant (P := fun s => FirstSucceeds s.threads)
    firstSucceeds_step hstart (serviceMachine.along_take hrun i)
  exact handlesSuccess_of_becomesLocked _ e hfirst hbecomes

/-! ### One exchange -/

/-- A client asks for a lock, the agent answers, and the pipe thread is at its last act. -/
def lockExchange (lockSuccess : Bool) : List ServiceEvent :=
  [.frame clientOne (lockHeader 7) [] lockEnv, .clientAct clientOne true, .clientAct clientOne true,
    .clientAct clientOne true, .agent lockSuccess true, .ipcReceive, .ipcAct true, .ipcAct true]

/-- The last act. -/
def lastAct (lockSuccess : Bool) : ServiceStep :=
  serviceMachine.entry (serviceMachine.run {} (lockExchange lockSuccess)) (.ipcAct true)

theorem lastAct_mem_trace (lockSuccess : Bool) :
    lastAct lockSuccess ∈ serviceMachine.trace {} (lockExchange lockSuccess ++ [.ipcAct true]) := by
  rw [Machine.trace_append]
  exact List.mem_append_right _ List.mem_cons_self

theorem becomesLocked_lastAct (lockSuccess : Bool) : BecomesLocked (lastAct lockSuccess) := by
  unfold BecomesLocked
  cases lockSuccess <;> decide +kernel

/-- The workstation locks, and the service becomes LOCKED by the answer that says so. -/
theorem becomesLocked_onSuccess_exchange :
    BecomesLocked (lastAct true) ∧ HandlesSuccess (lastAct true) := by
  refine ⟨becomesLocked_lastAct true, ?_⟩
  refine becomesLocked_onSuccess (lockExchange true ++ [.ipcAct true]) ?_ _
    (lastAct_mem_trace true) (becomesLocked_lastAct true)
  refine ⟨id, id, id, id, ?_, id, id, id, id, trivial⟩
  rintro ⟨hfails, -⟩
  cases hfails

/-- The workstation does not lock, and the service becomes LOCKED by the answer that says so. -/
theorem becomesLocked_onFailure :
    ¬ ∀ x ∈ serviceMachine.trace {} (lockExchange false ++ [.ipcAct true]),
      BecomesLocked x → HandlesSuccess x := by
  intro h
  obtain ⟨sent, client, messageId, payload, -, htask, hsuccess⟩ :=
    h _ (lastAct_mem_trace false) (becomesLocked_lastAct false)
  have hrelay : (lastAct false).before.threads.ipcTask = .relay 1 7 (lockOutcome false) := by
    decide +kernel
  cases hrelay.symm.trans htask
  exact not_reportsSuccess_lockOutcome hsuccess

end MobileUnlock.Service
