import MobileUnlock.Proofs.LockAuthorization
import MobileUnlock.Proofs.LockExchange
import MobileUnlock.Proofs.PipeDelivery
import MobileUnlock.Proofs.UnAdvise
import MobileUnlock.Service.UnlockSystem

/-!
# `MobileUnlock.Proofs.CredentialChannel`: what the credential provider gets from the service

The status thread of the credential asks the service for a submit buffer. The service writes two
kinds of messages to its pipe, the answer to a ping and a lock command, and both are frames. A frame
begins with the bytes `4D 55`, and a submit buffer begins with `53 4C 55 4D`. So the thread never
reads a token (`readToken_serialize`).

`no_credential_from_service` follows it through every interleaving of the service, the agent, the
phones and the threads of the credential: `GetSerialization` never gives Winlogon a credential.
-/

set_option autoImplicit false

namespace MobileUnlock.Service

open MobileUnlock.Lib MobileUnlock.Protocol MobileUnlock.Pairing MobileUnlock.Authentication
open MobileUnlock.Lsa MobileUnlock.Ipc MobileUnlock.CredentialProvider

/-! ### Frames are no submit buffers -/

/-- A message that begins with a frame header. -/
def IsFrame (message : Bytes) : Prop :=
  ∃ header payload, header.magic = PROTOCOL_MAGIC ∧
    message = serializeFrameHeader header ++ payload

/-- The first byte of a frame is not that of a submit buffer. -/
theorem readToken_of_isFrame {message : Bytes} (h : IsFrame message) :
    (readToken message).valid = false := by
  obtain ⟨header, payload, hmagic, rfl⟩ := h
  obtain ⟨rest, hrest⟩ : ∃ rest, serializeFrameHeader header ++ payload = 0x4D :: rest := by
    have hbytes : bytesLE 2 (hostToNetwork16 PROTOCOL_MAGIC).toNat = [0x4D, 0x55] := by decide
    rw [serializeFrameHeader, FrameHeader.layout, hmagic, hbytes]
    exact ⟨_, rfl⟩
  have hfront : slice 0 4 (0x4D :: rest) = 0x4D :: rest.take 3 := rfl
  have hne : (MobileUnlockLsaLogonBuffer.ofLayout (0x4D :: rest)).magic ≠
      LSA_SUBMIT_BUFFER_MAGIC := by
    intro hmagic
    have hnat := congrArg UInt32.toNat hmagic
    have hvalue : LSA_SUBMIT_BUFFER_MAGIC.toNat = 0x4D554C53 := rfl
    rw [MobileUnlockLsaLogonBuffer.ofLayout, UInt32.toNat_ofNat', hfront, natOfLE, hvalue] at hnat
    have hbyte : (0x4D : UInt8).toNat = 0x4D := rfl
    omega
  rw [hrest, readToken]
  split
  · rfl
  · simp only
    rw [if_pos (.inl hne)]

/-! ### What the service writes -/

theorem isFrame_lockRequestMessage (header : FrameHeader) (payload : Bytes) :
    IsFrame (lockRequestMessage header payload) := ⟨_, payload, rfl, rfl⟩

theorem isFrame_pongMessage (header : FrameHeader) : IsFrame (pongMessage header) :=
  ⟨_, [], rfl, (List.append_nil _).symm⟩

/-- What a client thread has for the agent is a lock command. -/
theorem isFrame_of_handleNetworkFrame {s : AuthState} {clientId : UInt64} {header : FrameHeader}
    {payload : Bytes} {env : FrameEnv} {message : Bytes}
    (h : .sendMessageToAgent message ∈ (handleNetworkFrame s clientId header payload env).2) :
    IsFrame message := by
  have hlock : .sendMessageToAgent message ∈
      handleLockRequest s.registry clientId header payload env → IsFrame message := by
    have hdispatch : .sendMessageToAgent message ∈
        (if ¬ env.agentConnected then [refuseLock clientId header "AGENT_UNAVAILABLE"]
          else dispatchLock clientId header payload) → IsFrame message := by
      intro h
      split at h
      · simp [refuseLock] at h
      · obtain rfl : message = lockRequestMessage header payload := by
          simpa [dispatchLock] using h
        exact isFrame_lockRequestMessage header payload
    intro h
    cases hid : (lockDeviceId payload env.stackId).1 with
    | false =>
      rw [handleLockRequest_of_no_id hid] at h
      exact hdispatch h
    | true =>
      rw [handleLockRequest_of_id hid] at h
      split at h
      · simp [refuseLock] at h
      · exact hdispatch h
  rw [handleNetworkFrame] at h
  split at h
  · simp at h
  · split at h
    · simp at h
    · split at h
      · simp at h
      · split at h
        · exact hlock h
        · simp at h

/-- The messages that the threads of the service still have to write, and those that they have
handed over. -/
structure WritesFrames (s : LockState) : Prop where
  tasks : ∀ client message, .sendMessageToAgent message ∈ s.tasks client → IsFrame message
  pong : ∀ message, s.ipcTask = .pong message → IsFrame message
  toAgent : ∀ message ∈ s.toAgent, IsFrame message

theorem WritesFrames.setTasks {s : LockState} (h : WritesFrames s) {client : ClientId}
    {acts : List ServiceAction}
    (hacts : ∀ message, .sendMessageToAgent message ∈ acts → IsFrame message) :
    WritesFrames { s with tasks := Function.update s.tasks client acts } where
  tasks c message hm := by
    change .sendMessageToAgent message ∈ Function.update s.tasks client acts c at hm
    by_cases hc : c = client
    · subst hc
      rw [Function.update_self] at hm
      exact hacts message hm
    · rw [Function.update_of_ne hc] at hm
      exact h.tasks c message hm
  pong := h.pong
  toAgent := h.toAgent

theorem WritesFrames.setIpcTask {s : LockState} (h : WritesFrames s) {task : IpcTask}
    (htask : ∀ message, task = .pong message → IsFrame message) :
    WritesFrames { s with ipcTask := task } :=
  ⟨h.tasks, htask, h.toAgent⟩

/-- The handler of a message of the pipe answers with frames. -/
theorem WritesFrames.handleIpcMessage {s : LockState} (h : WritesFrames s) (message : Bytes) :
    WritesFrames { s with ipcTask := handleIpcMessage message } := by
  refine h.setIpcTask ?_
  intro answer hanswer
  rcases handleIpcMessage_cases message with htask | ⟨header, htask⟩ | ⟨payload, htask⟩
  · rw [htask] at hanswer
    cases hanswer
  · rw [htask] at hanswer
    cases hanswer
    exact isFrame_pongMessage header
  · rw [htask] at hanswer
    cases hanswer

/-- The steps of the service that `unlockMachine` takes. -/
def OfService : ServiceEvent → Bool
  | .frame _ _ _ _ | .registry _ | .clientAct _ _ | .ipcAct _ => true
  | _ => false

/-- A step of the service hands over frames only. -/
theorem WritesFrames.step {s : ServiceState} (h : WritesFrames s.threads) {event : ServiceEvent}
    (hevent : OfService event = true) : WritesFrames (serviceMachine.step s event).1.threads := by
  cases event with
  | frame client header payload env =>
    simp only [serviceMachine]
    cases s.threads.tasks client with
    | nil => exact h.setTasks fun message hm => isFrame_of_handleNetworkFrame hm
    | cons act acts => exact h
  | registry reg => exact h
  | clientAct client sent =>
    simp only [serviceMachine, stepThreads, lockMachine]
    cases htasks : s.threads.tasks client with
    | nil => exact h
    | cons act acts =>
      have hrest : WritesFrames
          { s.threads with tasks := Function.update s.threads.tasks client acts } := by
        refine h.setTasks ?_
        intro message hm
        refine h.tasks client message ?_
        rw [htasks]
        exact List.mem_cons_of_mem act hm
      cases act with
      | sendFrame c header payload => exact hrest
      | storePendingLockClientId c => exact ⟨hrest.tasks, hrest.pong, hrest.toAgent⟩
      | storePendingLockMessageId id => exact ⟨hrest.tasks, hrest.pong, hrest.toAgent⟩
      | sendMessageToAgent message =>
        cases sent with
        | false => exact hrest
        | true =>
          refine ⟨hrest.tasks, hrest.pong, ?_⟩
          show ∀ m ∈ s.threads.toAgent ++ [message], IsFrame m
          rw [List.forall_mem_append, List.forall_mem_singleton]
          refine ⟨h.toAgent, h.tasks client message ?_⟩
          rw [htasks]
          exact List.mem_cons_self
  | agent lockSuccess sent => cases hevent
  | agentMessage message => cases hevent
  | ipcReceive => cases hevent
  | ipcAct sent =>
    simp only [serviceMachine, stepThreads, lockMachine, runIpc]
    cases htask : s.threads.ipcTask with
    | idle => exact h
    | pong message =>
      refine ⟨h.tasks, by rintro _ ⟨⟩, ?_⟩
      cases sent with
      | false => exact h.toAgent
      | true =>
        show ∀ m ∈ s.threads.toAgent ++ [message], IsFrame m
        rw [List.forall_mem_append, List.forall_mem_singleton]
        exact ⟨h.toAgent, h.pong message htask⟩
    | exchangeClient payload => exact ⟨h.tasks, by rintro _ ⟨⟩, h.toAgent⟩
    | loadMessageId client payload => exact ⟨h.tasks, by rintro _ ⟨⟩, h.toAgent⟩
    | relay client messageId payload => exact ⟨h.tasks, by rintro _ ⟨⟩, h.toAgent⟩

/-! ### The credential without a token -/

/-- Nothing is published, and no status thread has a token to publish. -/
structure NoToken (s : CredentialState) : Prop where
  ready : s.authStateReady = false
  threads : ∀ pc ∈ s.threads, ∀ token, pc = .fetched token ∨ pc = .storing token →
    token.valid = false

theorem NoToken.movePc {s : CredentialState} (h : NoToken s) (thread : Nat) {pc : ThreadPc}
    (hpc : ∀ token, pc = .fetched token ∨ pc = .storing token → token.valid = false) :
    NoToken (s.movePc thread pc) where
  ready := h.ready
  threads pc' hmem := by
    rcases List.mem_or_eq_of_mem_set hmem with hold | rfl
    · exact h.threads pc' hold
    · exact hpc

theorem NoToken.goOn {s : CredentialState} (h : NoToken s) (thread : Nat) {pc : ThreadPc}
    (hpc : s.threads[thread]? = some pc) : NoToken (s.goOn thread pc) := by
  have htoken := h.threads pc (List.mem_of_getElem? hpc)
  cases pc with
  | looping =>
    simp only [CredentialState.goOn]
    split
    · exact h.movePc thread (by simp)
    · split
      · exact h.movePc thread (by simp)
      · exact h.movePc thread (by simp)
  | fetching since => exact h
  | fetched token =>
    simp only [CredentialState.goOn]
    split
    · exact h.movePc thread (by simp)
    · refine h.movePc thread ?_
      rintro token' (heq | heq)
      · cases heq
      · cases heq
        exact htoken token (.inl rfl)
  | storing token =>
    simp only [CredentialState.goOn]
    rw [if_neg (by rw [htoken token (.inr rfl)]; exact Bool.false_ne_true)]
    exact NoToken.movePc (s := { s with authStateReady := false }) ⟨rfl, h.threads⟩ thread
      (by simp)
  | showing text =>
    exact NoToken.movePc (s := s.updateStatusField text) ⟨h.ready, h.threads⟩ thread (by simp)
  | waiting stopEvent since =>
    simp only [CredentialState.goOn]
    split
    · exact h.movePc thread (by simp)
    · exact h
  | wiping =>
    exact NoToken.movePc (s := s.clearInternalAuthState) ⟨rfl, h.threads⟩ thread (by simp)
  | ended => exact h

theorem NoToken.fetchReturns {s : CredentialState} (h : NoToken s) (thread : Nat)
    {token : IpcStateToken} (htoken : token.valid = false) :
    NoToken (credentialStep s (.fetchReturns thread token)).1 := by
  simp only [credentialStep]
  split
  next pc hpc =>
    cases pc with
    | fetching since =>
      refine h.movePc thread ?_
      rintro token' (heq | heq)
      · cases heq
        exact htoken
      · cases heq
    | _ => exact h
  next => exact h

theorem NoToken.advise {s : CredentialState} (h : NoToken s) (pcpce : Nat)
    (eventMade threadMade : Bool) : NoToken (s.advise pcpce eventMade threadMade) where
  ready := by
    rw [advise_authStateReady]
    exact h.ready
  threads := by
    unfold CredentialState.advise
    dsimp only
    split
    · exact h.threads
    · cases threadMade with
      | false => exact h.threads
      | true =>
        show ∀ pc ∈ s.threads ++ [.looping], _
        rw [List.forall_mem_append, List.forall_mem_singleton]
        exact ⟨h.threads, by simp⟩

/-- An act of the credential publishes nothing without a token. -/
theorem NoToken.step {s : CredentialState} (h : NoToken s) {act : CredentialAct}
    (hact : ∀ thread token, act ≠ .fetchReturns thread token) :
    NoToken (credentialStep s act).1 := by
  cases act with
  | advance ms =>
    simp only [credentialStep]
    split
    · exact ⟨h.ready, h.threads⟩
    · exact h
  | goOn thread =>
    simp only [credentialStep]
    split
    next pc hpc => exact h.goOn thread hpc
    next => exact h
  | fetchReturns thread token => exact absurd rfl (hact thread token)
  | advise pcpce eventMade threadMade =>
    simp only [credentialStep]
    split
    · cases pcpce with
      | none => exact h
      | some pcpce => exact h.advise pcpce eventMade threadMade
    · exact h
  | unAdvise =>
    simp only [credentialStep]
    split
    · exact ⟨h.ready, h.threads⟩
    · exact h
  | unAdviseReturns =>
    simp only [credentialStep]
    split
    · split
      · exact ⟨h.ready, h.threads⟩
      · exact h
    · exact h
  | setDeselected =>
    simp only [credentialStep]
    split
    · exact ⟨rfl, h.threads⟩
    · exact h
  | setDeselectedReturns =>
    simp only [credentialStep]
    split
    · exact ⟨h.ready, h.threads⟩
    · exact h
  | getSerialization env =>
    simp only [credentialStep]
    split
    · exact h
    · exact h

/-! ### The system -/

/-- The service writes frames only, and the credential has no token. -/
structure Tokenless (s : UnlockSystem) : Prop where
  threads : WritesFrames s.service.threads
  pipes : Writes IsFrame s.pipes
  credential : NoToken s.credential

variable {s : UnlockSystem}

theorem Tokenless.setPipes (h : Tokenless s) {pipes : NamedPipes PipeUser}
    (hpipes : Writes IsFrame pipes) : Tokenless { s with pipes := pipes } :=
  ⟨h.threads, hpipes, h.credential⟩

theorem Tokenless.stepService (h : Tokenless s) {event : ServiceEvent}
    (hevent : OfService event = true) (passed written : Bool) :
    Tokenless (s.stepService event passed written).1 := by
  have hservice := h.threads.step hevent
  refine ⟨⟨hservice.tasks, hservice.pong, by rintro _ ⟨⟩⟩, ?_, h.credential⟩
  -- the messages that were handed over are written one after the other
  exact List.foldlRecOn _ _ h.pipes fun pipes hpipes message hmem =>
    hpipes.sendMessageToClient (hservice.toAgent message hmem) passed written

theorem Tokenless.stepWorker (h : Tokenless s) (env : WorkerEnv) :
    Tokenless (s.stepWorker env).1 := by
  have hpipes := h.setPipes (h.pipes.workerStep env)
  simp only [UnlockSystem.stepWorker]
  split
  · exact hpipes
  next message _ => exact ⟨h.threads.handleIpcMessage _, hpipes.pipes, h.credential⟩

theorem Tokenless.stepAgent (h : Tokenless s) (modeSet lockSuccess written : Bool) :
    Tokenless (s.stepAgent modeSet lockSuccess written).1 := by
  simp only [UnlockSystem.stepAgent]
  split
  · exact ⟨h.threads, h.pipes.connect .agent modeSet, h.credential⟩
  · exact ⟨h.threads, h.pipes.sendMessageToServer .agent _ written, h.credential⟩
  · have hread := h.setPipes (h.pipes.readMessageFromServer .agent)
    split
    · exact hread
    · exact ⟨h.threads, hread.pipes, h.credential⟩
  · exact ⟨h.threads, h.pipes.sendMessageToServer .agent _ written, h.credential⟩
  · exact h

theorem Tokenless.stepOther (h : Tokenless s) (n : Nat) (act : OtherAct) :
    Tokenless (s.stepOther n act).1 := by
  cases act with
  | connect modeSet => exact h.setPipes (h.pipes.connect (.other n) modeSet)
  | disconnect => exact h.setPipes (h.pipes.disconnect (.other n))
  | send message written =>
    exact h.setPipes (h.pipes.sendMessageToServer (.other n) message written)
  | read => exact h.setPipes (h.pipes.readMessageFromServer (.other n))

theorem Tokenless.fetchReturns (h : Tokenless s) (thread : Nat) {token : IpcStateToken}
    (htoken : token.valid = false) : Tokenless (s.fetchReturns thread token) :=
  ⟨h.threads, h.pipes.disconnect (.statusThread thread), h.credential.fetchReturns thread htoken⟩

theorem Tokenless.fetchConnect (h : Tokenless s) (thread : Nat) (modeSet : Bool) :
    Tokenless (s.fetchConnect thread modeSet) := by
  have hpipes := h.setPipes (h.pipes.connect (.statusThread thread) modeSet)
  simp only [UnlockSystem.fetchConnect]
  split
  · exact hpipes
  · exact hpipes.fetchReturns thread rfl

theorem Tokenless.fetchSend (h : Tokenless s) (thread : Nat) (written : Bool) :
    Tokenless (s.fetchSend thread written) := by
  have hpipes := h.setPipes
    (h.pipes.sendMessageToServer (.statusThread thread) probePayload written)
  simp only [UnlockSystem.fetchSend]
  split
  · exact ⟨hpipes.threads, hpipes.pipes, hpipes.credential⟩
  · exact hpipes.fetchReturns thread rfl

/-- What the thread reads is a frame, so it gets no token. -/
theorem Tokenless.fetchRead (h : Tokenless s) (thread : Nat) :
    Tokenless (s.fetchRead thread) := by
  have hpipes := h.setPipes (h.pipes.readMessageFromServer (.statusThread thread))
  simp only [UnlockSystem.fetchRead]
  split
  next => exact hpipes
  next pipe message hread =>
    exact hpipes.fetchReturns thread (readToken_of_isFrame (h.pipes.of_read hread))

theorem Tokenless.stepCredential (h : Tokenless s) (act : CredentialAct) :
    Tokenless (stepCredential s act).1 := by
  by_cases hact : ∃ thread token, act = .fetchReturns thread token
  · obtain ⟨thread, token, rfl⟩ := hact
    exact h
  · have hne : ∀ thread token, act ≠ .fetchReturns thread token := by
      intro thread token heq
      exact hact ⟨thread, token, heq⟩
    have hstep : Tokenless { s with credential := (credentialStep s.credential act).1 } :=
      ⟨h.threads, h.pipes, h.credential.step hne⟩
    cases act with
    | fetchReturns thread token => exact h
    | _ => exact hstep

theorem Tokenless.step (h : Tokenless s) (event : UnlockEvent) :
    Tokenless (unlockMachine.step s event).1 := by
  cases event with
  | startPipe threadMade => exact h.setPipes (h.pipes.start threadMade)
  | stopPipe => exact h.setPipes h.pipes.stop
  | worker env =>
    simp only [unlockMachine]
    split
    · exact h.stepWorker env
    · exact h
  | frame client header payload env => exact h.stepService rfl false false
  | registry reg => exact h.stepService rfl false false
  | clientAct client passed written => exact h.stepService rfl passed written
  | ipcAct passed written => exact h.stepService rfl passed written
  | agent modeSet lockSuccess written => exact h.stepAgent modeSet lockSuccess written
  | agentStop => exact ⟨h.threads, h.pipes.disconnect .agent, h.credential⟩
  | other n act => exact h.stepOther n act
  | credential act => exact h.stepCredential act
  | fetchConnect thread modeSet =>
    simp only [unlockMachine]
    split
    · exact h.fetchConnect thread modeSet
    · exact h
  | fetchSend thread written =>
    simp only [unlockMachine]
    split
    · exact h.fetchSend thread written
    · exact h
  | fetchRead thread =>
    simp only [unlockMachine]
    split
    · exact h.fetchRead thread
    · exact h
  | fetchFails thread =>
    simp only [unlockMachine]
    split
    · exact h.fetchReturns thread rfl
    · exact h

/-- The call that has returned at a step. -/
def callOf : UnlockOutput → Option CallReturn
  | .call value => some value
  | _ => none

/-- A call that returns is one of the credential. -/
theorem callOf_step (s : UnlockSystem) (event : UnlockEvent) :
    callOf (unlockMachine.step s event).2 = none ∨
      ∃ act, callOf (unlockMachine.step s event).2 = (credentialStep s.credential act).2 := by
  cases event with
  | worker env =>
    left
    simp only [unlockMachine, UnlockSystem.stepWorker]
    split
    · split
      · rfl
      · rfl
    · rfl
  | agent modeSet lockSuccess written =>
    left
    simp only [unlockMachine, UnlockSystem.stepAgent]
    split
    · rfl
    · rfl
    · split
      · rfl
      · rfl
    · rfl
    · rfl
  | other n act =>
    left
    cases act with
    | _ => rfl
  | credential act =>
    have hvalue : ∀ value : Option CallReturn, callOf (value.elim .silent .call) = value := by
      intro value
      cases value with
      | none => rfl
      | some value => rfl
    by_cases hact : ∃ thread token, act = .fetchReturns thread token
    · obtain ⟨thread, token, rfl⟩ := hact
      exact .inl rfl
    · refine .inr ⟨act, ?_⟩
      cases act with
      | fetchReturns thread token => exact absurd ⟨thread, token, rfl⟩ hact
      | _ => exact hvalue _
  | fetchConnect thread modeSet =>
    left
    simp only [unlockMachine]
    split
    · rfl
    · rfl
  | fetchSend thread written =>
    left
    simp only [unlockMachine]
    split
    · rfl
    · rfl
  | fetchRead thread =>
    left
    simp only [unlockMachine]
    split
    · rfl
    · rfl
  | fetchFails thread =>
    left
    simp only [unlockMachine]
    split
    · rfl
    · rfl
  | _ => exact .inl rfl

theorem tokenless_init : Tokenless {} where
  threads := ⟨by rintro _ _ ⟨⟩, by rintro _ ⟨⟩, by rintro _ ⟨⟩⟩
  pipes := writes_init
  credential := ⟨rfl, by rintro _ ⟨⟩⟩

theorem tokenless_run (events : List UnlockEvent) : Tokenless (unlockMachine.run {} events) :=
  unlockMachine.invariant (fun _ event h _ => h.step event) tokenless_init
    (unlockMachine.along_true {} events)

/-- Whatever the phones, the agent and the other programs on the pipe do, the credential never gives
Winlogon a credential. -/
theorem no_credential_from_service (events : List UnlockEvent) :
    ∀ x ∈ unlockMachine.trace {} events, ¬ ReturnsCredential (callOf x.output) := by
  intro x hx
  obtain ⟨pre, post, htrace⟩ := List.append_of_mem hx
  obtain ⟨events₁, event, -, -, -, rfl, -⟩ := unlockMachine.trace_split htrace
  show ¬ ReturnsCredential (callOf (unlockMachine.step _ event).2)
  rcases callOf_step (unlockMachine.run {} events₁) event with hnone | ⟨act, hact⟩
  · rw [hnone]
    rintro ⟨hr, outputs, houtput, -⟩
    cases houtput
  · rw [hact]
    exact not_returnsCredential (tokenless_run events₁).credential.ready act

/-- A tile asks the service, gives up, and Winlogon asks the tile. -/
def tileEvents : List UnlockEvent :=
  let env : WorkerEnv := { created := true, connects := true, peeked := true }
  [.startPipe true, .worker env, .credential (.advise (some 0) true true), .credential (.goOn 0),
    .fetchConnect 0 true, .worker env, .fetchSend 0 true, .worker env, .ipcAct true true,
    .fetchRead 0, .fetchFails 0, .credential (.goOn 0),
    .credential (.getSerialization serializationEnv)]

theorem no_credential_from_service_tileEvents :
    ((unlockMachine.trace {} tileEvents).map fun x => callOf x.output).getLast? =
        some (some (.getSerialization .S_FALSE (some {}))) ∧
      ¬ ReturnsCredential
        (callOf (unlockMachine.step (unlockMachine.run {} tileEvents.dropLast)
          (.credential (.getSerialization serializationEnv))).2) := by
  refine ⟨by decide +kernel, ?_⟩
  refine no_credential_from_service tileEvents
    (unlockMachine.entry (unlockMachine.run {} tileEvents.dropLast)
      (.credential (.getSerialization serializationEnv))) ?_
  show _ ∈ unlockMachine.trace {} (tileEvents.dropLast ++ [_])
  rw [Machine.trace_append_singleton]
  exact List.mem_concat_self

end MobileUnlock.Service
