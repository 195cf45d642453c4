import MobileUnlock.Proofs.Codec
import MobileUnlock.Service.MobileUnlockService

/-!
# `MobileUnlock.Proofs.LockExchange`: one lock from the request to the reply

The service remembers the requester of a lock in two variables, one for the client and one for
the message id, and the pipe thread reads them when a LOCK_RESPONSE arrives. This works for one
exchange at a time. `StoresAlone` is the condition that no request is stored over another one
that still waits.

Under this condition the exchange that is under way goes through its `Stage`s one by one, and
each of them fixes what is on the pipe, in the two variables and in the tasks of the threads
(`AtStage`). `History` relates it to what was forwarded, processed and relayed so far.
-/

set_option autoImplicit false

namespace MobileUnlock.Service

open MobileUnlock.Lib MobileUnlock.Lib.Win32 MobileUnlock.Protocol MobileUnlock.Pairing
open MobileUnlock.Authentication

/-! ### What the threads and the agent did -/

/-- The requests that reached the pipe, in order. -/
def forwardedOf (obs : List LockObservation) : List (ClientId × Bytes) :=
  obs.filterMap fun
    | .forwarded client message => some (client, message)
    | _ => none

/-- The commands the agent processed, in order, with its answers. -/
def processedOf (obs : List LockObservation) : List (Bytes × Option Bytes) :=
  obs.filterMap fun
    | .processed message answer => some (message, answer)
    | _ => none

/-- A response for a client: the client, the message id and the payload. -/
structure LockReply where
  client : UInt64
  messageId : UInt32
  payload : Bytes
  deriving DecidableEq

/-- The responses the clients got, in order. -/
def relayedOf (obs : List LockObservation) : List LockReply :=
  obs.filterMap fun
    | .relayed client header payload => some ⟨client, header.messageID, payload⟩
    | _ => none

/-- The response a requester is owed for its request, if the agent answered it. -/
def owedReply (request : ClientId × Bytes) (answer : Option Bytes) : Option LockReply :=
  answer.map fun payload => ⟨request.1.val, (headerAt request.2).messageID, payload⟩

/-- The responses that are owed. The agent takes the requests in the order of the pipe
(`processed_inOrder`), so its answers belong to them one by one. -/
def owedOf (obs : List LockObservation) : List LockReply :=
  (List.zip (forwardedOf obs) (processedOf obs)).filterMap fun x => owedReply x.1 x.2.2

/-! ### The pipe -/

/-- The agent reads the message as a lock command. -/
def isLockCommand (message : Bytes) : Bool :=
  match readAgentCommand message with
  | .lock _ => true
  | _ => false

/-- The payload of the message, if the service reads it as a LOCK_RESPONSE. -/
def responsePayload (message : Bytes) : Option Bytes :=
  match handleIpcMessage message with
  | .exchangeClient payload => some payload
  | _ => none

/-- The pipe thread is about to read one of the two variables. -/
def awaitsSlot : IpcTask → Bool
  | .exchangeClient _ => true
  | .loadMessageId _ _ => true
  | _ => false

/-- A client thread has stored its client id and is not done with the dispatch. -/
def dispatchStarted : List ServiceAction → Bool
  | .storePendingLockMessageId _ :: _ => true
  | .sendMessageToAgent _ :: _ => true
  | _ => false

/-- A lock is between the store of its client id and the read of its message id. -/
def LockInFlight (s : LockState) : Prop :=
  (∃ client, dispatchStarted (s.tasks client)) ∨ (∃ message ∈ s.toAgent, isLockCommand message) ∨
    (∃ message ∈ s.toService, (responsePayload message).isSome) ∨ awaitsSlot s.ipcTask

/-- The step does not store a client id while a lock is in flight. -/
def StoresAlone (s : LockState) : LockEvent → Prop
  | .clientAct client _ =>
    ∀ clientId acts, s.tasks client = .storePendingLockClientId clientId :: acts → ¬ LockInFlight s
  | _ => True

/-- The pipe thread has handled every LOCK_RESPONSE. -/
def Settled (s : LockState) : Prop :=
  (∀ message ∈ s.toService, responsePayload message = none) ∧
    (s.ipcTask = .idle ∨ ∃ message, s.ipcTask = .pong message)

/-! ### Messages on the pipe -/

/-- The agent decides by the type of an accepted header. -/
theorem readAgentCommand_serialize {header : FrameHeader} (hacc : header.Accepted)
    (payload : Bytes) :
    readAgentCommand (serializeFrameHeader header ++ payload) =
      if header.messageType = MessageType.LOCK_REQUEST.code then .lock header
      else if header.messageType = MessageType.PING.code then .ping header
      else .ignored := by
  unfold readAgentCommand
  rw [deserializeFrameHeader_serialize hacc]

@[simp] theorem isLockCommand_lockRequestMessage (frame : LockFrame) :
    isLockCommand (lockRequestMessage frame.header frame.payload) = true := by
  have hsize : (UInt32.ofNat frame.payload.length).toNat ≤ MAX_PAYLOAD_SIZE := by
    rw [UInt32.toNat_ofNat']
    exact Nat.le_trans (Nat.mod_le _ _) frame.size
  unfold isLockCommand lockRequestMessage
  rw [readAgentCommand_serialize ⟨rfl, rfl, hsize, rfl⟩]
  rfl

@[simp] theorem messageID_lockRequestMessage (header : FrameHeader) (payload : Bytes) :
    (headerAt (lockRequestMessage header payload)).messageID = header.messageID := by
  unfold lockRequestMessage
  rw [headerAt_serialize]

/-- The service decides by the type of an accepted header, too. -/
theorem handleIpcMessage_serialize {header : FrameHeader} (hacc : header.Accepted)
    (payload : Bytes) :
    handleIpcMessage (serializeFrameHeader header ++ payload) =
      if header.messageType = MessageType.PING.code then .pong (pongMessage header)
      else if header.messageType = MessageType.LOCK_RESPONSE.code then .exchangeClient payload
      else .idle := by
  unfold handleIpcMessage
  rw [deserializeFrameHeader_serialize hacc,
    List.drop_left' (length_serializeFrameHeader header)]

@[simp] theorem responsePayload_lockResponseMessage (header : FrameHeader) (lockSuccess : Bool) :
    responsePayload (lockResponseMessage header lockSuccess) = some (lockOutcome lockSuccess) := by
  have hsize : (UInt32.ofNat (lockOutcome lockSuccess).length).toNat ≤ MAX_PAYLOAD_SIZE := by
    cases lockSuccess <;> decide
  unfold responsePayload lockResponseMessage processLockCommand
  rw [handleIpcMessage_serialize ⟨rfl, rfl, hsize, rfl⟩]
  rfl

@[simp] theorem responsePayload_pongMessage (header : FrameHeader) :
    responsePayload (pongMessage header) = none := by
  unfold responsePayload pongMessage
  rw [← List.append_nil (serializeFrameHeader _),
    handleIpcMessage_serialize ⟨rfl, rfl, Nat.zero_le _, rfl⟩]
  rfl

@[simp] theorem responsePayload_statusMessage (state : PcState) :
    responsePayload (statusMessage state) = none := by
  unfold responsePayload statusMessage
  rw [handleIpcMessage_serialize ⟨rfl, rfl, by cases state <;> decide, rfl⟩]
  rfl

@[simp] theorem isLockCommand_pongMessage (header : FrameHeader) :
    isLockCommand (pongMessage header) = false := by
  unfold isLockCommand pongMessage
  rw [← List.append_nil (serializeFrameHeader _),
    readAgentCommand_serialize ⟨rfl, rfl, Nat.zero_le _, rfl⟩]
  rfl

/-! ### The history of a run -/

theorem forwardedOf_append (obs more : List LockObservation) :
    forwardedOf (obs ++ more) = forwardedOf obs ++ forwardedOf more := List.filterMap_append

theorem processedOf_append (obs more : List LockObservation) :
    processedOf (obs ++ more) = processedOf obs ++ processedOf more := List.filterMap_append

theorem relayedOf_append (obs more : List LockObservation) :
    relayedOf (obs ++ more) = relayedOf obs ++ relayedOf more := List.filterMap_append

/-- The history when the requests `sent` wait for the agent and the replies `waiting` wait for
the pipe thread. -/
def History (sent : List (ClientId × Bytes)) (waiting : List LockReply)
    (obs : List LockObservation) : Prop :=
  ∃ taken, taken.length = (processedOf obs).length ∧ forwardedOf obs = taken ++ sent ∧
    relayedOf obs ++ waiting = owedOf obs

/-- Other observations say nothing about locks. -/
theorem History.quiet {sent : List (ClientId × Bytes)} {waiting : List LockReply}
    {obs : List LockObservation} (h : History sent waiting obs) {o : LockObservation}
    (hf : forwardedOf [o] = []) (hp : processedOf [o] = []) (hr : relayedOf [o] = []) :
    History sent waiting (obs ++ [o]) := by
  obtain ⟨taken, hlen, hfwd, howed⟩ := h
  refine ⟨taken, ?_, ?_, ?_⟩
  · rw [processedOf_append, hp, List.append_nil, hlen]
  · rw [forwardedOf_append, hf, List.append_nil, hfwd]
  · rw [owedOf, forwardedOf_append, processedOf_append, relayedOf_append, hf, hp, hr,
      List.append_nil, List.append_nil, List.append_nil]
    exact howed

/-- A request reaches the pipe. -/
theorem History.forward {sent : List (ClientId × Bytes)} {waiting : List LockReply}
    {obs : List LockObservation} (h : History sent waiting obs) (client : ClientId)
    (message : Bytes) :
    History (sent ++ [(client, message)]) waiting (obs ++ [.forwarded client message]) := by
  obtain ⟨taken, hlen, hfwd, howed⟩ := h
  have hfwd' : forwardedOf (obs ++ [.forwarded client message])
      = taken ++ (sent ++ [(client, message)]) := by
    rw [forwardedOf_append, hfwd, List.append_assoc]
    rfl
  have hprocessed : processedOf (obs ++ [.forwarded client message]) = processedOf obs := by
    rw [processedOf_append]
    exact List.append_nil _
  refine ⟨taken, ?_, hfwd', ?_⟩
  · rw [hprocessed, hlen]
  · -- The agent has not reached the new request, so nothing more is owed.
    have hzip : ∀ more : List (ClientId × Bytes),
        List.zip (taken ++ more) (processedOf obs) = List.zip taken (processedOf obs) := by
      intro more
      rw [← List.append_nil (processedOf obs), List.zip_append hlen]
      simp
    rw [owedOf, hfwd', hprocessed, hzip, ← hzip sent, ← hfwd, relayedOf_append]
    rw [show relayedOf [.forwarded client message] = [] from rfl, List.append_nil]
    exact howed

/-- The agent takes the first waiting request and answers it or not. -/
theorem History.process {client : ClientId} {message : Bytes} {sent : List (ClientId × Bytes)}
    {waiting : List LockReply} {obs : List LockObservation}
    (h : History ((client, message) :: sent) waiting obs) (answer : Option Bytes) :
    History sent (waiting ++ (owedReply (client, message) answer).toList)
      (obs ++ [.processed message answer]) := by
  obtain ⟨taken, hlen, hfwd, howed⟩ := h
  have hfwd' : forwardedOf (obs ++ [.processed message answer])
      = (taken ++ [(client, message)]) ++ sent := by
    rw [forwardedOf_append, hfwd, show forwardedOf [.processed message answer] = [] from rfl,
      List.append_nil, List.append_assoc, List.singleton_append]
  have hprocessed : processedOf (obs ++ [.processed message answer])
      = processedOf obs ++ [(message, answer)] := by
    rw [processedOf_append]
    rfl
  refine ⟨taken ++ [(client, message)], ?_, hfwd', ?_⟩
  · rw [hprocessed, List.length_append, List.length_append, hlen]
    rfl
  · have hnew : owedOf (obs ++ [.processed message answer])
        = owedOf obs ++ (owedReply (client, message) answer).toList := by
      rw [owedOf, owedOf, hfwd', hprocessed, hfwd, List.append_assoc, List.zip_append hlen]
      rw [← List.append_nil (processedOf obs), List.zip_append hlen, List.filterMap_append]
      cases answer <;> simp [owedReply]
    rw [hnew, ← howed, relayedOf_append, show relayedOf [.processed message answer] = [] from rfl,
      List.append_nil, List.append_assoc]

/-- The pipe thread relays the first waiting reply. -/
theorem History.relay {sent : List (ClientId × Bytes)} {client : UInt64} {header : FrameHeader}
    {payload : Bytes} {waiting : List LockReply} {obs : List LockObservation}
    (h : History sent (⟨client, header.messageID, payload⟩ :: waiting) obs) :
    History sent waiting (obs ++ [.relayed client header payload]) := by
  obtain ⟨taken, hlen, hfwd, howed⟩ := h
  have hf : forwardedOf (obs ++ [.relayed client header payload]) = forwardedOf obs := by
    rw [forwardedOf_append]
    exact List.append_nil _
  have hp : processedOf (obs ++ [.relayed client header payload]) = processedOf obs := by
    rw [processedOf_append]
    exact List.append_nil _
  refine ⟨taken, ?_, ?_, ?_⟩
  · rw [hp, hlen]
  · rw [hf, hfwd]
  · have hsame : owedOf (obs ++ [.relayed client header payload]) = owedOf obs := by
      rw [owedOf, owedOf, hf, hp]
    rw [hsame, ← howed, relayedOf_append, List.append_assoc]
    rfl

/-! ### The exchange under way -/

/-- How far the one exchange that is under way has come. -/
inductive Stage where
  | none
  /-- The client id is stored. -/
  | stored (client : ClientId) (frame : LockFrame)
  /-- The message id is stored, too. -/
  | ready (client : ClientId) (frame : LockFrame)
  /-- The request is on the pipe. -/
  | sent (client : ClientId) (frame : LockFrame)
  /-- The answer of the agent is on the pipe. -/
  | answered (client : ClientId) (frame : LockFrame) (payload : Bytes)
  /-- The pipe thread has the answer, and has not read the client id. -/
  | received (client : ClientId) (frame : LockFrame) (payload : Bytes)
  /-- The pipe thread has the answer and the client id. -/
  | exchanged (client : ClientId) (frame : LockFrame) (payload : Bytes)

namespace Stage

/-- The thread of the requester and what it has left to do. -/
def started : Stage → Option (ClientId × List ServiceAction)
  | stored client frame =>
    some (client, [.storePendingLockMessageId frame.header.messageID,
      .sendMessageToAgent (lockRequestMessage frame.header frame.payload)])
  | ready client frame =>
    some (client, [.sendMessageToAgent (lockRequestMessage frame.header frame.payload)])
  | _ => .none

/-- The request on the pipe. -/
def request : Stage → List (ClientId × Bytes)
  | sent client frame => [(client, lockRequestMessage frame.header frame.payload)]
  | _ => []

/-- The answer on the pipe. -/
def response : Stage → List Bytes
  | answered _ _ payload => [payload]
  | _ => []

/-- What the pipe thread is about to read. -/
def ipcTask : Stage → Option IpcTask
  | received _ _ payload => some (.exchangeClient payload)
  | exchanged client _ payload => some (.loadMessageId client.val payload)
  | _ => .none

/-- The reply the requester will get. -/
def reply : Stage → List LockReply
  | answered client frame payload | received client frame payload
  | exchanged client frame payload => [⟨client.val, frame.header.messageID, payload⟩]
  | _ => []

/-- What is in `m_pendingLockClientId`, if it will be read. -/
def clientSlot : Stage → Option UInt64
  | stored client _ | ready client _ | sent client _ | answered client _ _
  | received client _ _ => some client.val
  | _ => .none

/-- What is in `m_pendingLockMessageId`, if it will be read. -/
def messageSlot : Stage → Option UInt32
  | ready _ frame | sent _ frame | answered _ frame _ | received _ frame _
  | exchanged _ frame _ => some frame.header.messageID
  | _ => .none

end Stage

/-- A thread that has not started to dispatch: it is idle, it refuses, or it is about to
dispatch. -/
inductive Unstarted (client : ClientId) : List ServiceAction → Prop where
  | idle : Unstarted client []
  | refuse (header : FrameHeader) (payload : Bytes) :
    Unstarted client [.sendFrame client.val header payload]
  | dispatch (frame : LockFrame) :
    Unstarted client (dispatchLock client.val frame.header frame.payload)

/-- The reply the pipe thread is about to send. -/
def relaying : IpcTask → List LockReply
  | .relay client messageId payload => [⟨client, messageId, payload⟩]
  | _ => []

/-- The state is at a stage of the exchange. -/
structure AtStage (stage : Stage) (s : LockState) : Prop where
  tasks : ∀ client, stage.started = some (client, s.tasks client) ∨
    (Unstarted client (s.tasks client) ∧ ∀ acts, stage.started ≠ some (client, acts))
  commands : s.toAgent.filter isLockCommand = stage.request.map Prod.snd
  responses : s.toService.filterMap responsePayload = stage.response
  pipe : (if awaitsSlot s.ipcTask then some s.ipcTask else none) = stage.ipcTask
  pong : ∀ message, s.ipcTask = .pong message → isLockCommand message = false
  clientSlot : ∀ id, stage.clientSlot = some id → s.pendingLockClientId = id
  messageSlot : ∀ id, stage.messageSlot = some id → s.pendingLockMessageId = id

/-- With no lock in flight there is no exchange. -/
theorem AtStage.eq_none {stage : Stage} {s : LockState} (h : AtStage stage s)
    (hnot : ¬ LockInFlight s) : stage = .none := by
  simp only [LockInFlight, not_or, not_exists, not_and] at hnot
  obtain ⟨htasks, hagent, hservice, hpipe⟩ := hnot
  have hrequest : stage.request = [] := by
    rw [← List.map_eq_nil_iff (f := Prod.snd), ← h.commands, List.filter_eq_nil_iff]
    exact hagent
  have hresponse : stage.response = [] := by
    rw [← h.responses, List.filterMap_eq_nil_iff]
    intro message hm
    exact Option.not_isSome_iff_eq_none.mp (hservice message hm)
  have htask : stage.ipcTask = none := by
    rw [← h.pipe, if_neg hpipe]
  cases stage with
  | none => rfl
  | stored client frame | ready client frame =>
    obtain hstarted | ⟨-, hother⟩ := h.tasks client
    · exfalso
      apply htasks client
      rw [← (Prod.mk.inj (Option.some.inj hstarted)).2]
      rfl
    · exact absurd rfl (hother _)
  | sent => cases hrequest
  | answered => cases hresponse
  | received | exchanged => cases htask

/-! ### One step -/

/-- The state is at a stage of the exchange, and the history fits it. -/
def Tracks (obs : List LockObservation) (s : LockState) : Prop :=
  ∃ stage, AtStage stage s ∧ History stage.request (relaying s.ipcTask ++ stage.reply) obs

/-- What a handler of a LOCK_REQUEST has to do at first. -/
theorem unstarted_handleLockRequest (reg : Registry) (client : ClientId) (frame : LockFrame)
    (env : FrameEnv) :
    Unstarted client (handleLockRequest reg client.val frame.header frame.payload env) := by
  unfold handleLockRequest
  dsimp only
  -- The text of the id is not what the branches differ in.
  generalize (if (lockDeviceId frame.payload env.stackId).1 = true then
    deviceIdToString (lockDeviceId frame.payload env.stackId).2 else []) = devIdStr
  split
  · exact .refuse _ _
  · split
    · exact .refuse _ _
    · exact .dispatch frame

/-- What a message of the agent makes the pipe thread do. -/
theorem handleIpcMessage_cases (message : Bytes) :
    handleIpcMessage message = .idle ∨ (∃ header, handleIpcMessage message = .pong
      (pongMessage header)) ∨ ∃ payload, handleIpcMessage message = .exchangeClient payload := by
  unfold handleIpcMessage
  split
  · exact .inl rfl
  · rename_i header _
    split
    · exact .inr (.inl ⟨header, rfl⟩)
    · split
      · exact .inr (.inr ⟨_, rfl⟩)
      · exact .inl rfl

/-- One thread takes up or does something, and the stage follows it. -/
theorem AtStage.tasks_update {stage stage' : Stage} {s : LockState} (h : AtStage stage s)
    {client : ClientId} {acts : List ServiceAction}
    (hthis : stage'.started = some (client, acts) ∨
      (Unstarted client acts ∧ ∀ acts', stage'.started ≠ some (client, acts')))
    (hother : ∀ c acts', c ≠ client →
      (stage.started = some (c, acts') ↔ stage'.started = some (c, acts'))) (c : ClientId) :
    stage'.started = some (c, Function.update s.tasks client acts c) ∨
      (Unstarted c (Function.update s.tasks client acts c) ∧
        ∀ acts', stage'.started ≠ some (c, acts')) := by
  by_cases hc : c = client
  · subst hc
    rw [Function.update_self]
    exact hthis
  · rw [Function.update_of_ne hc]
    obtain hstarted | ⟨hunstarted, hnot⟩ := h.tasks c
    · exact .inl ((hother c _ hc).mp hstarted)
    · refine .inr ⟨hunstarted, ?_⟩
      intro acts' hstarted
      exact hnot acts' ((hother c acts' hc).mpr hstarted)

/-- A thread that has not started may go on to anything else that has not. -/
theorem AtStage.unstarted {stage : Stage} {s : LockState} (h : AtStage stage s)
    {client : ClientId} {acts : List ServiceAction} (hacts : Unstarted client acts)
    (hnot : ∀ acts', stage.started ≠ some (client, acts')) :
    AtStage stage { s with tasks := Function.update s.tasks client acts } where
  tasks := h.tasks_update (.inr ⟨hacts, hnot⟩) fun _ _ _ => Iff.rfl
  commands := h.commands
  responses := h.responses
  pipe := h.pipe
  pong := h.pong
  clientSlot := h.clientSlot
  messageSlot := h.messageSlot

/-- A thread that has not started is not the one of the exchange. -/
theorem AtStage.not_started {stage : Stage} {s : LockState} (h : AtStage stage s)
    {client : ClientId} (hu : dispatchStarted (s.tasks client) = false)
    (acts : List ServiceAction) : stage.started ≠ some (client, acts) := by
  obtain hstarted | ⟨-, hnot⟩ := h.tasks client
  · -- The remaining acts of a started thread begin with a store or a write.
    intro _
    cases stage with
    | stored c frame | ready c frame =>
      have hacts := (Prod.mk.inj (Option.some.inj hstarted)).2
      rw [← hacts] at hu
      cases hu
    | none | sent | answered | received | exchanged => cases hstarted
  · exact hnot acts

/-- A frame is taken up. -/
theorem tracks_frame {obs : List LockObservation} {s : LockState} (h : Tracks obs s)
    (client : ClientId) (frame : LockFrame) (reg : Registry) (env : FrameEnv) :
    Tracks (obs ++ [(lockMachine.step s (.frame client frame reg env)).2])
      (lockMachine.step s (.frame client frame reg env)).1 := by
  obtain ⟨stage, hstage, hhistory⟩ := h
  simp only [lockMachine]
  split
  · rename_i hidle
    refine ⟨stage, ?_, hhistory.quiet rfl rfl rfl⟩
    refine hstage.unstarted (unstarted_handleLockRequest reg client frame env) ?_
    refine hstage.not_started ?_
    rw [hidle]
    rfl
  · exact ⟨stage, hstage, hhistory.quiet rfl rfl rfl⟩

/-- The client id is stored. -/
theorem AtStage.storeClient {s : LockState} (h : AtStage .none s) (client : ClientId)
    (frame : LockFrame) :
    AtStage (.stored client frame)
      { s with
        tasks := Function.update s.tasks client (dispatchLock client.val frame.header
          frame.payload).tail
        pendingLockClientId := client.val } where
  tasks := by
    refine h.tasks_update (.inl rfl) ?_
    intro c acts hc
    constructor
    · intro hnone
      cases hnone
    · intro hstored
      exact absurd (Prod.mk.inj (Option.some.inj hstored)).1.symm hc
  commands := h.commands
  responses := h.responses
  pipe := h.pipe
  pong := h.pong
  clientSlot _ hid := Option.some.inj hid
  messageSlot _ hid := by cases hid

/-- The message id is stored. -/
theorem AtStage.storeMessage {s : LockState} {client : ClientId} {frame : LockFrame}
    (h : AtStage (.stored client frame) s) :
    AtStage (.ready client frame)
      { s with
        tasks := Function.update s.tasks client
          [.sendMessageToAgent (lockRequestMessage frame.header frame.payload)]
        pendingLockMessageId := frame.header.messageID } where
  tasks := by
    refine h.tasks_update (.inl rfl) ?_
    intro c acts hc
    constructor
    · intro hstored
      exact absurd (Prod.mk.inj (Option.some.inj hstored)).1.symm hc
    · intro hready
      exact absurd (Prod.mk.inj (Option.some.inj hready)).1.symm hc
  commands := h.commands
  responses := h.responses
  pipe := h.pipe
  pong := h.pong
  clientSlot := h.clientSlot
  messageSlot _ hid := Option.some.inj hid

/-- The thread of the exchange is done when the request is on the pipe, or cannot be put there. -/
theorem AtStage.tasks_dispatched {s : LockState} {client : ClientId} {frame : LockFrame}
    (h : AtStage (.ready client frame) s) {stage : Stage} (hstage : stage.started = none)
    (c : ClientId) :
    stage.started = some (c, Function.update s.tasks client [] c) ∨
      (Unstarted c (Function.update s.tasks client [] c) ∧
        ∀ acts', stage.started ≠ some (c, acts')) := by
  have hnone : ∀ c acts', stage.started ≠ some (c, acts') := by
    intro c acts'
    rw [hstage]
    exact Option.some_ne_none _ |>.symm
  refine h.tasks_update (.inr ⟨.idle, hnone client⟩) ?_ c
  intro c acts hc
  constructor
  · intro hready
    exact absurd (Prod.mk.inj (Option.some.inj hready)).1.symm hc
  · intro hstarted
    exact absurd hstarted (hnone c acts)

/-- The request is put on the pipe. -/
theorem AtStage.send {s : LockState} {client : ClientId} {frame : LockFrame}
    (h : AtStage (.ready client frame) s) :
    AtStage (.sent client frame)
      { s with
        tasks := Function.update s.tasks client []
        toAgent := s.toAgent ++ [lockRequestMessage frame.header frame.payload] } where
  tasks := h.tasks_dispatched rfl
  commands := by
    rw [List.filter_append, h.commands]
    simp [Stage.request]
  responses := h.responses
  pipe := h.pipe
  pong := h.pong
  clientSlot := h.clientSlot
  messageSlot := h.messageSlot

/-- The pipe does not take the request. -/
theorem AtStage.giveUp {s : LockState} {client : ClientId} {frame : LockFrame}
    (h : AtStage (.ready client frame) s) :
    AtStage .none { s with tasks := Function.update s.tasks client [] } where
  tasks := h.tasks_dispatched rfl
  commands := h.commands
  responses := h.responses
  pipe := h.pipe
  pong := h.pong
  clientSlot _ hid := by cases hid
  messageSlot _ hid := by cases hid

/-- A client thread does its next act. -/
theorem tracks_clientAct {obs : List LockObservation} {s : LockState} (h : Tracks obs s)
    (client : ClientId) (sent : Bool) (halone : StoresAlone s (.clientAct client sent)) :
    Tracks (obs ++ [(lockMachine.step s (.clientAct client sent)).2])
      (lockMachine.step s (.clientAct client sent)).1 := by
  obtain ⟨stage, hstage, hhistory⟩ := h
  obtain hstarted | ⟨hunstarted, hnot⟩ := hstage.tasks client
  · -- The thread is the one of the exchange.
    cases stage with
    | stored c frame =>
      obtain ⟨rfl, htasks⟩ := Prod.mk.inj (Option.some.inj hstarted)
      simp only [lockMachine, ← htasks]
      exact ⟨.ready c frame, hstage.storeMessage, hhistory.quiet rfl rfl rfl⟩
    | ready c frame =>
      obtain ⟨rfl, htasks⟩ := Prod.mk.inj (Option.some.inj hstarted)
      simp only [lockMachine, ← htasks]
      cases sent with
      | true => exact ⟨.sent c frame, hstage.send, hhistory.forward c _⟩
      | false => exact ⟨.none, hstage.giveUp, hhistory.quiet rfl rfl rfl⟩
    | none | sent | answered | received | exchanged => cases hstarted
  · generalize htasks : s.tasks client = acts at hunstarted
    cases hunstarted with
    | idle =>
      simp only [lockMachine, htasks]
      exact ⟨stage, hstage, hhistory.quiet rfl rfl rfl⟩
    | refuse header payload =>
      simp only [lockMachine, htasks]
      exact ⟨stage, hstage.unstarted .idle hnot, hhistory.quiet rfl rfl rfl⟩
    | dispatch frame =>
      -- Only here a new exchange begins, and the condition says that there is none.
      have hnone := hstage.eq_none (halone _ _ htasks)
      subst hnone
      simp only [lockMachine, htasks, dispatchLock]
      exact ⟨.stored client frame, hstage.storeClient client frame, hhistory.quiet rfl rfl rfl⟩

/-- A lock command at the head of the pipe is the request of the exchange. -/
theorem AtStage.sent_of_command {stage : Stage} {s : LockState} (h : AtStage stage s)
    {message : Bytes} {rest : List Bytes} (hpipe : s.toAgent = message :: rest)
    (hlock : isLockCommand message = true) :
    ∃ client frame, stage = .sent client frame ∧
      message = lockRequestMessage frame.header frame.payload ∧
      rest.filter isLockCommand = [] := by
  have hcommands := h.commands
  rw [hpipe, List.filter_cons_of_pos hlock] at hcommands
  cases stage with
  | sent client frame =>
    obtain ⟨hmessage, hrest⟩ := List.cons.inj hcommands
    exact ⟨client, frame, rfl, hmessage, hrest⟩
  | none | stored | ready | answered | received | exchanged => cases hcommands

/-- A LOCK_RESPONSE at the head of the pipe is the answer of the exchange. -/
theorem AtStage.answered_of_response {stage : Stage} {s : LockState} (h : AtStage stage s)
    {message payload : Bytes} {rest : List Bytes} (hpipe : s.toService = message :: rest)
    (hresponse : responsePayload message = some payload) :
    ∃ client frame, stage = .answered client frame payload ∧
      rest.filterMap responsePayload = [] := by
  have hresponses := h.responses
  rw [hpipe, List.filterMap_cons_some hresponse] at hresponses
  cases stage with
  | answered client frame payload' =>
    obtain ⟨rfl, hrest⟩ := List.cons.inj hresponses
    exact ⟨client, frame, rfl, hrest⟩
  | none | stored | ready | sent | received | exchanged => cases hresponses

/-- Other messages come and go. -/
theorem AtStage.pipes {stage : Stage} {s : LockState} (h : AtStage stage s)
    {toAgent toService : List Bytes}
    (hagent : toAgent.filter isLockCommand = s.toAgent.filter isLockCommand)
    (hservice : toService.filterMap responsePayload = s.toService.filterMap responsePayload) :
    AtStage stage { s with toAgent := toAgent, toService := toService } where
  tasks := h.tasks
  commands := hagent.trans h.commands
  responses := hservice.trans h.responses
  pipe := h.pipe
  pong := h.pong
  clientSlot := h.clientSlot
  messageSlot := h.messageSlot

/-- The agent answers. -/
theorem AtStage.answer {s : LockState} {client : ClientId} {frame : LockFrame}
    (h : AtStage (.sent client frame) s) {rest : List Bytes}
    (hrest : rest.filter isLockCommand = []) (header : FrameHeader) (lockSuccess : Bool) :
    AtStage (.answered client frame (lockOutcome lockSuccess))
      { s with
        toAgent := rest
        toService := s.toService ++ [lockResponseMessage header lockSuccess] } where
  tasks := h.tasks
  commands := hrest
  responses := by
    rw [List.filterMap_append, h.responses]
    simp [Stage.response]
  pipe := h.pipe
  pong := h.pong
  clientSlot := h.clientSlot
  messageSlot := h.messageSlot

/-- The answer of the agent does not get to the pipe. -/
theorem AtStage.noAnswer {s : LockState} {client : ClientId} {frame : LockFrame}
    (h : AtStage (.sent client frame) s) {rest : List Bytes}
    (hrest : rest.filter isLockCommand = []) : AtStage .none { s with toAgent := rest } where
  tasks := h.tasks
  commands := hrest
  responses := h.responses
  pipe := h.pipe
  pong := h.pong
  clientSlot _ hid := by cases hid
  messageSlot _ hid := by cases hid

/-- The agent takes its next message. -/
theorem tracks_agent {obs : List LockObservation} {s : LockState} (h : Tracks obs s)
    (lockSuccess sent : Bool) :
    Tracks (obs ++ [(lockMachine.step s (.agent lockSuccess sent)).2])
      (lockMachine.step s (.agent lockSuccess sent)).1 := by
  obtain ⟨stage, hstage, hhistory⟩ := h
  cases hpipe : s.toAgent with
  | nil =>
    simp only [lockMachine, hpipe]
    exact ⟨stage, hstage, hhistory.quiet rfl rfl rfl⟩
  | cons message rest =>
    simp only [lockMachine, hpipe]
    cases hcommand : readAgentCommand message with
    | lock header =>
      have hlock : isLockCommand message = true := by
        rw [isLockCommand, hcommand]
      -- Only the exchange in flight has put a lock command into the pipe.
      obtain ⟨client, frame, rfl, rfl, hrest⟩ := hstage.sent_of_command hpipe hlock
      simp only [runAgent, hcommand]
      cases sent with
      | true =>
        refine ⟨_, hstage.answer hrest header lockSuccess, ?_⟩
        have hprocessed := hhistory.process (some (lockOutcome lockSuccess))
        simpa [owedReply, Stage.request, Stage.reply] using hprocessed
      | false =>
        refine ⟨_, hstage.noAnswer hrest, ?_⟩
        have hprocessed := hhistory.process none
        simpa [owedReply, Stage.request, Stage.reply] using hprocessed
    | ping header =>
      have hagent : rest.filter isLockCommand = s.toAgent.filter isLockCommand := by
        rw [hpipe, List.filter_cons_of_neg (by simp [isLockCommand, hcommand])]
      simp only [runAgent, hcommand]
      refine ⟨stage, hstage.pipes hagent ?_, hhistory.quiet rfl rfl rfl⟩
      cases sent <;> simp
    | ignored =>
      have hagent : rest.filter isLockCommand = s.toAgent.filter isLockCommand := by
        rw [hpipe, List.filter_cons_of_neg (by simp [isLockCommand, hcommand])]
      simp only [runAgent, hcommand]
      exact ⟨stage, hstage.pipes hagent rfl, hhistory.quiet rfl rfl rfl⟩

/-- The agent reports a state. -/
theorem tracks_agentReport {obs : List LockObservation} {s : LockState} (h : Tracks obs s)
    (state : PcState) :
    Tracks (obs ++ [(lockMachine.step s (.agentReport state)).2])
      (lockMachine.step s (.agentReport state)).1 := by
  obtain ⟨stage, hstage, hhistory⟩ := h
  refine ⟨stage, hstage.pipes rfl ?_, hhistory.quiet rfl rfl rfl⟩
  simp

/-- The pipe thread reads a message that is no answer. -/
theorem AtStage.receive {stage : Stage} {s : LockState} (h : AtStage stage s)
    (hidle : s.ipcTask = .idle) {rest : List Bytes} {task : IpcTask}
    (hrest : rest.filterMap responsePayload = s.toService.filterMap responsePayload)
    (htask : task = .idle ∨ ∃ header, task = .pong (pongMessage header)) :
    AtStage stage { s with toService := rest, ipcTask := task } where
  tasks := h.tasks
  commands := h.commands
  responses := hrest.trans h.responses
  pipe := by
    rw [← h.pipe, hidle]
    obtain rfl | ⟨header, rfl⟩ := htask <;> rfl
  pong message hmessage := by
    obtain rfl | ⟨header, rfl⟩ := htask
    · cases hmessage
    · obtain rfl := IpcTask.pong.inj hmessage
      exact isLockCommand_pongMessage header
  clientSlot := h.clientSlot
  messageSlot := h.messageSlot

/-- The pipe thread reads the answer. -/
theorem AtStage.receiveAnswer {s : LockState} {client : ClientId} {frame : LockFrame}
    {payload : Bytes} (h : AtStage (.answered client frame payload) s) {rest : List Bytes}
    (hrest : rest.filterMap responsePayload = []) :
    AtStage (.received client frame payload)
      { s with toService := rest, ipcTask := .exchangeClient payload } where
  tasks := h.tasks
  commands := h.commands
  responses := hrest
  pipe := rfl
  pong _ hmessage := by cases hmessage
  clientSlot := h.clientSlot
  messageSlot := h.messageSlot

/-- The pipe thread takes its next message. -/
theorem tracks_ipcReceive {obs : List LockObservation} {s : LockState} (h : Tracks obs s) :
    Tracks (obs ++ [(lockMachine.step s .ipcReceive).2]) (lockMachine.step s .ipcReceive).1 := by
  obtain ⟨stage, hstage, hhistory⟩ := h
  simp only [lockMachine]
  split
  · rename_i message rest hidle hpipe
    rw [hidle] at hhistory
    obtain htask | ⟨header, htask⟩ | ⟨payload, htask⟩ := handleIpcMessage_cases message
    · have hrest : rest.filterMap responsePayload = s.toService.filterMap responsePayload := by
        rw [hpipe, List.filterMap_cons_none (by simp [responsePayload, htask])]
      rw [htask]
      exact ⟨stage, hstage.receive hidle hrest (.inl rfl), hhistory.quiet rfl rfl rfl⟩
    · have hrest : rest.filterMap responsePayload = s.toService.filterMap responsePayload := by
        rw [hpipe, List.filterMap_cons_none (by simp [responsePayload, htask])]
      rw [htask]
      exact ⟨stage, hstage.receive hidle hrest (.inr ⟨header, rfl⟩), hhistory.quiet rfl rfl rfl⟩
    · have hresponse : responsePayload message = some payload := by
        rw [responsePayload, htask]
      obtain ⟨client, frame, rfl, hrest⟩ := hstage.answered_of_response hpipe hresponse
      rw [htask]
      exact ⟨_, hstage.receiveAnswer hrest, hhistory.quiet rfl rfl rfl⟩
  · exact ⟨stage, hstage, hhistory.quiet rfl rfl rfl⟩

/-- The pipe thread answers a ping. -/
theorem AtStage.answerPing {stage : Stage} {s : LockState} (h : AtStage stage s)
    {message : Bytes} (htask : s.ipcTask = .pong message) {toAgent : List Bytes}
    (hagent : toAgent.filter isLockCommand = s.toAgent.filter isLockCommand) :
    AtStage stage { s with ipcTask := .idle, toAgent := toAgent } where
  tasks := h.tasks
  commands := hagent.trans h.commands
  responses := h.responses
  pipe := by
    rw [← h.pipe, htask]
    rfl
  pong _ hmessage := by cases hmessage
  clientSlot := h.clientSlot
  messageSlot := h.messageSlot

/-- The pipe thread takes the client id. -/
theorem AtStage.exchange {s : LockState} {client : ClientId} {frame : LockFrame}
    {payload : Bytes} (h : AtStage (.received client frame payload) s) :
    AtStage (.exchanged client frame payload)
      { s with pendingLockClientId := 0, ipcTask := .loadMessageId client.val payload } where
  tasks := h.tasks
  commands := h.commands
  responses := h.responses
  pipe := rfl
  pong _ hmessage := by cases hmessage
  clientSlot _ hid := by cases hid
  messageSlot := h.messageSlot

/-- The pipe thread reads the message id. From here on the exchange does not need the two
variables. -/
theorem AtStage.load {s : LockState} {client : ClientId} {frame : LockFrame} {payload : Bytes}
    (h : AtStage (.exchanged client frame payload) s) :
    AtStage .none
      { s with ipcTask := .relay client.val s.pendingLockMessageId payload } where
  tasks := h.tasks
  commands := h.commands
  responses := h.responses
  pipe := rfl
  pong _ hmessage := by cases hmessage
  clientSlot _ hid := by cases hid
  messageSlot _ hid := by cases hid

/-- The pipe thread has sent a reply. -/
theorem AtStage.relayed {stage : Stage} {s : LockState} (h : AtStage stage s) {client : UInt64}
    {messageId : UInt32} {payload : Bytes} (htask : s.ipcTask = .relay client messageId payload) :
    AtStage stage { s with ipcTask := .idle, currentState := .LOCKED } where
  tasks := h.tasks
  commands := h.commands
  responses := h.responses
  pipe := by
    rw [← h.pipe, htask]
    rfl
  pong _ hmessage := by cases hmessage
  clientSlot := h.clientSlot
  messageSlot := h.messageSlot

/-- Replies are owed to clients only, and no client has the id zero. -/
theorem client_ne_zero_of_mem_owedOf {obs : List LockObservation} {reply : LockReply}
    (h : reply ∈ owedOf obs) : reply.client ≠ 0 := by
  obtain ⟨x, -, hx⟩ := List.mem_filterMap.mp h
  obtain ⟨payload, -, rfl⟩ := Option.map_eq_some_iff.mp hx
  exact x.1.1.ne_zero

/-- The pipe thread does its next act. -/
theorem tracks_ipcAct {obs : List LockObservation} {s : LockState} (h : Tracks obs s)
    (sent : Bool) :
    Tracks (obs ++ [(lockMachine.step s (.ipcAct sent)).2])
      (lockMachine.step s (.ipcAct sent)).1 := by
  obtain ⟨stage, hstage, hhistory⟩ := h
  have hpipe := hstage.pipe
  cases htask : s.ipcTask with
  | idle =>
    simp only [lockMachine, runIpc, htask]
    exact ⟨stage, hstage, hhistory.quiet rfl rfl rfl⟩
  | pong message =>
    have hlock := hstage.pong message htask
    rw [htask] at hhistory
    simp only [lockMachine, runIpc, htask]
    refine ⟨stage, hstage.answerPing htask ?_, hhistory.quiet rfl rfl rfl⟩
    cases sent <;> simp [hlock]
  | exchangeClient payload =>
    rw [htask] at hpipe hhistory
    cases stage with
    | received client frame payload' =>
      obtain rfl := IpcTask.exchangeClient.inj (Option.some.inj hpipe)
      simp only [lockMachine, runIpc, htask]
      -- The slot holds the client of this exchange: nobody else has stored into it.
      rw [hstage.clientSlot client.val rfl]
      exact ⟨_, hstage.exchange, hhistory.quiet rfl rfl rfl⟩
    | none | stored | ready | sent | answered | exchanged => cases hpipe
  | loadMessageId client payload =>
    rw [htask] at hpipe hhistory
    cases stage with
    | exchanged client' frame payload' =>
      obtain ⟨rfl, rfl⟩ := IpcTask.loadMessageId.inj (Option.some.inj hpipe)
      simp only [lockMachine, runIpc, htask]
      refine ⟨.none, hstage.load, ?_⟩
      show History [] [⟨client'.val, s.pendingLockMessageId, payload⟩] _
      -- The slot with the message id is that of this exchange, too.
      rw [hstage.messageSlot frame.header.messageID rfl]
      exact hhistory.quiet rfl rfl rfl
    | none | stored | ready | sent | answered | received => cases hpipe
  | relay client messageId payload =>
    rw [htask] at hhistory
    have hne : client ≠ 0 := by
      -- The reply is owed to a client, and clients are not numbered zero.
      obtain ⟨-, -, -, howed⟩ := hhistory
      have hmem : ⟨client, messageId, payload⟩ ∈ owedOf obs := by
        rw [← howed]
        simp [relaying]
      exact client_ne_zero_of_mem_owedOf hmem
    simp only [lockMachine, runIpc, htask, if_pos hne]
    exact ⟨stage, hstage.relayed htask, History.relay hhistory⟩

/-- Every step that meets the condition can be followed. -/
theorem tracks_step {obs : List LockObservation} {s : LockState} {e : LockEvent}
    (h : Tracks obs s) (he : StoresAlone s e) :
    Tracks (obs ++ [(lockMachine.step s e).2]) (lockMachine.step s e).1 := by
  cases e with
  | frame client frame reg env => exact tracks_frame h client frame reg env
  | clientAct client sent => exact tracks_clientAct h client sent he
  | agent lockSuccess sent => exact tracks_agent h lockSuccess sent
  | agentReport state => exact tracks_agentReport h state
  | ipcReceive => exact tracks_ipcReceive h
  | ipcAct sent => exact tracks_ipcAct h sent

/-- When the pipe thread is done, no reply is on its way. -/
theorem AtStage.reply_eq_nil {stage : Stage} {s : LockState} (h : AtStage stage s)
    (hsettled : Settled s) : stage.reply = [] := by
  obtain ⟨hservice, htask⟩ := hsettled
  have hresponse : stage.response = [] := by
    rw [← h.responses, List.filterMap_eq_nil_iff]
    exact hservice
  have hpipe : stage.ipcTask = none := by
    rw [← h.pipe]
    obtain hidle | ⟨message, hpong⟩ := htask
    · rw [hidle]
      rfl
    · rw [hpong]
      rfl
  cases stage with
  | none | stored | ready | sent => rfl
  | answered => cases hresponse
  | received | exchanged => cases hpipe

end MobileUnlock.Service
