import MobileUnlock.Proofs.CredentialChannel

/-!
# `MobileUnlock.Proofs.AgentConnection`: the agent after its connection has ended

The agent connects when its client has no handle. It never gives a handle back while it runs, and a
handle stays what it is when the server closes its end. So the agent connects once.

`Left` is the state of its instance when the server has gone: nothing is written to it any more.
`commands_after_left` says what the agent does from then on, in every interleaving. It processes
what was still in the pipe, and no command that the service sends later, also when a new server
runs.
-/

set_option autoImplicit false

namespace MobileUnlock.Service

open MobileUnlock.Lib MobileUnlock.Protocol MobileUnlock.Ipc MobileUnlock.CredentialProvider

/-! ### An instance without its server -/

section
variable {κ : Type}

/-- The server is not on the instance, which a client with this handle has opened. The messages are
those that the client has not read. -/
structure Left (pipe : Nat) (client : κ) (handle : Option Nat) (messages : List Bytes)
    (s : NamedPipes κ) : Prop where
  hPipe : s.hPipe ≠ some pipe
  hClient : s.hClient client = handle
  found : ∃ i, s.instances[pipe]? = some i ∧ i.client = some client ∧ i.toClient = messages

variable {pipe : Nat} {client : κ} {handle : Option Nat} {messages : List Bytes}
  {s : NamedPipes κ}

theorem Left.setFlags {s' : NamedPipes κ} (h : Left pipe client handle messages s)
    (hinstance : s'.instances[pipe]? = s.instances[pipe]?) (hhandle : s'.hPipe ≠ some pipe)
    (hclient : s'.hClient client = s.hClient client) : Left pipe client handle messages s' :=
  ⟨hhandle, hclient.trans h.hClient, by rw [hinstance]; exact h.found⟩

theorem Left.modifyOther (h : Left pipe client handle messages s) {p : Nat} (hp : p ≠ pipe)
    (f : PipeInstance κ → PipeInstance κ) :
    Left pipe client handle messages (s.modifyInstance p f) :=
  h.setFlags (by rw [modifyInstance_instances, if_neg hp]) h.hPipe rfl

theorem Left.modifyInstance {messages' : List Bytes} (h : Left pipe client handle messages s)
    {f : PipeInstance κ → PipeInstance κ}
    (hf : ∀ i, s.instances[pipe]? = some i → i.client = some client → i.toClient = messages →
      (f i).client = some client ∧ (f i).toClient = messages') :
    Left pipe client handle messages' (s.modifyInstance pipe f) := by
  obtain ⟨i, hi, hclient, hmessages⟩ := h.found
  refine ⟨h.hPipe, h.hClient, f i, ?_, hf i hi hclient hmessages⟩
  rw [modifyInstance_instances, if_pos rfl, hi]
  rfl

/-- A change of what the server holds is no change of this instance. -/
theorem Left.modifyServed (h : Left pipe client handle messages s) {p : Nat} (hp : s.hPipe = some p)
    (f : PipeInstance κ → PipeInstance κ) :
    Left pipe client handle messages (s.modifyInstance p f) := by
  refine h.modifyOther ?_ f
  rintro rfl
  exact h.hPipe hp

/-! ### The server -/

theorem Left.start (h : Left pipe client handle messages s) (threadMade : Bool) :
    Left pipe client handle messages (s.start threadMade) := by
  rw [NamedPipes.start]
  split
  · exact h
  · exact h.setFlags rfl h.hPipe rfl

theorem Left.closeHandle (h : Left pipe client handle messages s) :
    Left pipe client handle messages s.closeHandle := by
  rw [NamedPipes.closeHandle]
  cases hhandle : s.hPipe with
  | none => exact h
  | some p => exact (h.modifyServed hhandle _).setFlags rfl (by rintro ⟨⟩) rfl

theorem Left.stop (h : Left pipe client handle messages s) :
    Left pipe client handle messages s.stop :=
  Left.closeHandle (h.setFlags rfl h.hPipe rfl)

theorem Left.endTurn (h : Left pipe client handle messages s) :
    Left pipe client handle messages s.endTurn :=
  h.closeHandle.setFlags rfl h.closeHandle.hPipe rfl

theorem Left.disconnectNamedPipe (h : Left pipe client handle messages s) :
    Left pipe client handle messages s.disconnectNamedPipe := by
  rw [NamedPipes.disconnectNamedPipe]
  cases hhandle : s.hPipe with
  | none => exact h
  | some p => exact h.modifyServed hhandle _

theorem Left.serveInstance (h : Left pipe client handle messages s) {p : Nat}
    (hp : s.hPipe = some p) (i : PipeInstance κ) :
    Left pipe client handle messages (s.serveInstance p i).1 := by
  rw [NamedPipes.serveInstance]
  split
  · exact h
  · split
    · exact h
    · dsimp only
      split
      · exact h.modifyServed hp _
      · exact (h.modifyServed hp _).setFlags rfl h.hPipe rfl

/-- The server creates a new instance, and does not come back to this one. -/
theorem Left.workerStep (h : Left pipe client handle messages s) (env : WorkerEnv) :
    Left pipe client handle messages (s.workerStep env).1 := by
  rw [NamedPipes.workerStep]
  cases s.worker with
  | looping =>
    dsimp only
    split
    · exact h.setFlags rfl h.hPipe rfl
    · split
      · exact h
      · obtain ⟨i, hi, -⟩ := h.found
        have hlt : pipe < s.instances.length := (List.getElem?_eq_some_iff.mp hi).1
        refine h.setFlags (List.getElem?_append_left hlt) ?_ rfl
        intro heq
        have hpipe : s.instances.length = pipe := Option.some.inj heq
        omega
  | listening =>
    dsimp only
    split
    · exact h.endTurn
    · split
      · split
        · exact h.setFlags rfl h.hPipe rfl
        · exact h.endTurn
      · exact h
  | serving =>
    dsimp only
    split
    · exact h.setFlags rfl h.hPipe rfl
    · cases hinstance : s.instanceOf s.hPipe with
      | none => exact h.setFlags rfl h.hPipe rfl
      | some found =>
        dsimp only
        split
        · exact h.setFlags rfl h.hPipe rfl
        · exact h.serveInstance (instanceOf_eq_some.mp hinstance).1 found.2
  | disconnecting => exact h.disconnectNamedPipe.endTurn
  | ended => exact h

theorem Left.sendMessageToClient (h : Left pipe client handle messages s) (message : Bytes)
    (passed written : Bool) :
    Left pipe client handle messages (s.sendMessageToClient message passed written).1 := by
  rw [NamedPipes.sendMessageToClient]
  split
  · exact h
  · cases hinstance : s.instanceOf s.hPipe with
    | none => exact h
    | some found =>
      dsimp only
      split
      · exact h.modifyServed (instanceOf_eq_some.mp hinstance).1 _
      · exact h

/-! ### The clients -/

theorem Left.sendMessageToServer (h : Left pipe client handle messages s) (k : κ) (message : Bytes)
    (written : Bool) :
    Left pipe client handle messages (s.sendMessageToServer k message written).1 := by
  rw [NamedPipes.sendMessageToServer]
  split
  · exact h
  · cases s.instanceOf (s.hClient k) with
    | none => exact h
    | some found =>
      obtain ⟨p, i⟩ := found
      dsimp only
      split
      · by_cases hp : p = pipe
        · subst hp
          exact h.modifyInstance fun i _ hclient hmessages => ⟨hclient, hmessages⟩
        · exact h.modifyOther hp _
      · exact h

/-- Another client reads from its own instance. -/
theorem Left.read_other (h : Left pipe client handle messages s) {k : κ}
    (hk : s.hClient k ≠ some pipe) :
    Left pipe client handle messages (s.readMessageFromServer k).1 := by
  rw [NamedPipes.readMessageFromServer]
  cases hinstance : s.instanceOf (s.hClient k) with
  | none => exact h
  | some found =>
    obtain ⟨p, i⟩ := found
    have hp : p ≠ pipe := by
      rintro rfl
      exact hk (instanceOf_eq_some.mp hinstance).1
    dsimp only
    split
    · exact h
    · split
      · exact h
      · split
        · exact h.modifyOther hp _
        · exact h.modifyOther hp _

/-- The client reads the first message that is left, if it reads one. -/
theorem Left.read_self (h : Left pipe client (some pipe) messages s)
    (hne : ∀ m ∈ messages, m ≠ []) :
    ((s.readMessageFromServer client).2 = none ∧
        Left pipe client (some pipe) messages (s.readMessageFromServer client).1) ∨
      ∃ m rest, messages = m :: rest ∧
        (s.readMessageFromServer client).2 = some (pipe, m) ∧
        Left pipe client (some pipe) rest (s.readMessageFromServer client).1 := by
  obtain ⟨i, hi, hclient, htoClient⟩ := h.found
  have hinstance : s.instanceOf (s.hClient client) = some (pipe, i) :=
    instanceOf_eq_some.mpr ⟨h.hClient, hi⟩
  rw [NamedPipes.readMessageFromServer, hinstance]
  dsimp only
  split
  · exact .inl ⟨rfl, h⟩
  · cases hmessages : messages with
    | nil =>
      rw [htoClient, hmessages, readFile]
      subst hmessages
      exact .inl ⟨rfl, h⟩
    | cons m rest =>
      have hm : m ≠ [] := hne m (by rw [hmessages]; exact List.mem_cons_self)
      rw [htoClient, hmessages, readFile_of_le (length_le_bytesAvail m rest)]
      dsimp only
      rw [if_pos ⟨rfl, hm⟩]
      exact .inr ⟨m, rest, rfl, rfl, h.modifyInstance fun i _ hclient _ => ⟨hclient, rfl⟩⟩

theorem Left.disconnect_instance (h : Left pipe client handle messages s) (p : Nat) :
    Left pipe client handle messages
      (s.modifyInstance p fun i => { i with clientOpen := false }) := by
  by_cases hp : p = pipe
  · subst hp
    exact h.modifyInstance fun i _ hclient hmessages => ⟨hclient, hmessages⟩
  · exact h.modifyOther hp _

variable [DecidableEq κ]

theorem Left.connect_other (h : Left pipe client handle messages s) {k : κ} (hk : k ≠ client)
    (modeSet : Bool) : Left pipe client handle messages (s.connect k modeSet) := by
  rw [NamedPipes.connect]
  split
  · exact h
  · cases hinstance : s.instanceOf s.hPipe with
    | none => exact h
    | some found =>
      dsimp only
      split
      · exact h
      · have hopened := h.modifyServed (instanceOf_eq_some.mp hinstance).1 fun i =>
          { i with client := some k, clientOpen := modeSet }
        split
        · exact hopened.setFlags rfl hopened.hPipe (Function.update_of_ne hk.symm _ _)
        · exact hopened

/-- A client with a handle does not connect again. -/
theorem Left.connect_self (h : Left pipe client (some pipe) messages s) (modeSet : Bool) :
    Left pipe client (some pipe) messages (s.connect client modeSet) := by
  rw [NamedPipes.connect, if_pos (by rw [h.hClient]; rfl)]
  exact h

theorem Left.disconnect_other (h : Left pipe client handle messages s) {k : κ}
    (hk : k ≠ client) : Left pipe client handle messages (s.disconnect k) := by
  rw [NamedPipes.disconnect]
  cases s.hClient k with
  | none => exact h
  | some p =>
    have hclosed := h.disconnect_instance p
    exact hclosed.setFlags rfl hclosed.hPipe (Function.update_of_ne hk.symm _ _)

end

/-! ### The agent -/

/-- The command that the agent has read at a step, and the instance it came from. -/
def commandOf : UnlockOutput → Option (Nat × Bytes)
  | .command pipe message => some (pipe, message)
  | _ => none

/-- The agent has a handle to an instance that the server has left, or it has ended. -/
structure AgentLeft (pipe : Nat) (messages : List Bytes) (s : UnlockSystem) : Prop where
  agent : s.agent = .ended ∨ Left pipe .agent (some pipe) messages s.pipes
  writes : Writes (fun _ => True) s.pipes
  nonempty : ∀ m ∈ messages, m ≠ []

variable {pipe : Nat} {messages : List Bytes} {s : UnlockSystem}

/-- Nobody but the agent has a handle to its instance. -/
theorem AgentLeft.hClient_ne (h : AgentLeft pipe messages s)
    (hleft : Left pipe .agent (some pipe) messages s.pipes) {k : PipeUser} (hk : k ≠ .agent) :
    s.pipes.hClient k ≠ some pipe := by
  intro hhandle
  obtain ⟨log, hflow, -⟩ := h.writes pipe
  obtain ⟨i, hi, hclient, -⟩ := hleft.found
  have hk' := hflow.client_of_handle hi hhandle
  exact hk (Option.some.inj (hk'.symm.trans hclient))

/-- A step of the pipe that the agent has no part in. -/
theorem AgentLeft.setPipes (h : AgentLeft pipe messages s) {s' : UnlockSystem}
    (hagent : s'.agent = s.agent)
    (hleft : Left pipe .agent (some pipe) messages s.pipes →
      Left pipe .agent (some pipe) messages s'.pipes)
    (hwrites : Writes (fun _ => True) s'.pipes) : AgentLeft pipe messages s' where
  agent := by
    rw [hagent]
    exact h.agent.imp_right hleft
  writes := hwrites
  nonempty := h.nonempty

theorem AgentLeft.connect (h : AgentLeft pipe messages s) {k : PipeUser} (hk : k ≠ .agent)
    (modeSet : Bool) :
    AgentLeft pipe messages { s with pipes := s.pipes.connect k modeSet } :=
  h.setPipes rfl (fun hleft => hleft.connect_other hk modeSet) (h.writes.connect k modeSet)

theorem AgentLeft.disconnect (h : AgentLeft pipe messages s) {k : PipeUser} (hk : k ≠ .agent) :
    AgentLeft pipe messages { s with pipes := s.pipes.disconnect k } :=
  h.setPipes rfl (fun hleft => hleft.disconnect_other hk) (h.writes.disconnect k)

theorem AgentLeft.send (h : AgentLeft pipe messages s) (k : PipeUser) (message : Bytes)
    (written : Bool) :
    AgentLeft pipe messages
      { s with pipes := (s.pipes.sendMessageToServer k message written).1 } :=
  h.setPipes rfl (fun hleft => hleft.sendMessageToServer k message written)
    (h.writes.sendMessageToServer k message written)

theorem AgentLeft.read (h : AgentLeft pipe messages s) {k : PipeUser} (hk : k ≠ .agent) :
    AgentLeft pipe messages { s with pipes := (s.pipes.readMessageFromServer k).1 } :=
  h.setPipes rfl (fun hleft => hleft.read_other (h.hClient_ne hleft hk))
    (h.writes.readMessageFromServer k)

theorem AgentLeft.stepService (h : AgentLeft pipe messages s) (event : ServiceEvent)
    (passed written : Bool) : AgentLeft pipe messages (s.stepService event passed written).1 := by
  refine h.setPipes rfl ?_ ?_
  · intro hleft
    -- the messages that were handed over go to another instance
    exact List.foldlRecOn _ _ hleft fun pipes hpipes message _ =>
      hpipes.sendMessageToClient message passed written
  · exact List.foldlRecOn _ _ h.writes fun pipes hpipes message _ =>
      hpipes.sendMessageToClient trivial passed written

theorem AgentLeft.fetchReturns (h : AgentLeft pipe messages s) (thread : Nat)
    (token : IpcStateToken) : AgentLeft pipe messages (s.fetchReturns thread token) :=
  h.setPipes rfl (fun hleft => hleft.disconnect_other (by rintro ⟨⟩))
    (h.writes.disconnect (.statusThread thread))

/-- What the agent does at a step: it reads the first of the messages that are left, or none. -/
def ReadsNext (pipe : Nat) (messages : List Bytes) (s : UnlockSystem) (output : UnlockOutput) :
    Prop :=
  (commandOf output = none ∧ AgentLeft pipe messages s) ∨
    ∃ m rest, messages = m :: rest ∧ commandOf output = some (pipe, m) ∧ AgentLeft pipe rest s

theorem AgentLeft.stepAgent (h : AgentLeft pipe messages s) (modeSet lockSuccess written : Bool) :
    ReadsNext pipe messages (s.stepAgent modeSet lockSuccess written).1
      (s.stepAgent modeSet lockSuccess written).2 := by
  rcases h.agent with hended | hleft
  · simp only [UnlockSystem.stepAgent, hended]
    exact .inl ⟨rfl, h⟩
  · have hsend : ∀ message : Bytes, ∀ agent : AgentPc, AgentLeft pipe messages
        { s with
            pipes := (s.pipes.sendMessageToServer .agent message written).1
            agent := agent } := by
      intro message agent
      have hsent := h.send .agent message written
      exact ⟨.inr (hleft.sendMessageToServer .agent message written), hsent.writes, h.nonempty⟩
    rw [UnlockSystem.stepAgent]
    cases s.agent with
    | connecting =>
      exact .inl ⟨rfl, .inr (hleft.connect_self modeSet), h.writes.connect .agent modeSet,
        h.nonempty⟩
    | reporting => exact .inl ⟨rfl, hsend _ _⟩
    | answering answer => exact .inl ⟨rfl, hsend _ _⟩
    | ended => exact .inl ⟨rfl, h⟩
    | reading =>
      have hwrites := h.writes.readMessageFromServer .agent
      rcases hleft.read_self h.nonempty with ⟨hnone, hread⟩ | ⟨m, rest, rfl, hsome, hread⟩
      · simp only [hnone]
        exact .inl ⟨rfl, .inr hread, hwrites, h.nonempty⟩
      · simp only [hsome]
        refine .inr ⟨m, rest, rfl, rfl, .inr hread, hwrites, ?_⟩
        exact fun m' hm' => h.nonempty m' (List.mem_cons_of_mem _ hm')

theorem AgentLeft.step (h : AgentLeft pipe messages s) (event : UnlockEvent) :
    ReadsNext pipe messages (unlockMachine.step s event).1 (unlockMachine.step s event).2 := by
  cases event with
  | startPipe threadMade =>
    exact .inl ⟨rfl, h.setPipes rfl (fun hleft => hleft.start threadMade)
      (h.writes.start threadMade)⟩
  | stopPipe => exact .inl ⟨rfl, h.setPipes rfl (fun hleft => hleft.stop) h.writes.stop⟩
  | worker env =>
    have hworker : AgentLeft pipe messages { s with pipes := (s.pipes.workerStep env).1 } :=
      h.setPipes rfl (fun hleft => hleft.workerStep env) (h.writes.workerStep env)
    left
    simp only [unlockMachine]
    split
    · simp only [UnlockSystem.stepWorker]
      split
      · exact ⟨rfl, hworker⟩
      · exact ⟨rfl, hworker.agent, hworker.writes, h.nonempty⟩
    · exact ⟨rfl, h⟩
  | frame client header payload env => exact .inl ⟨rfl, h.stepService _ false false⟩
  | registry reg => exact .inl ⟨rfl, h.stepService _ false false⟩
  | clientAct client passed written => exact .inl ⟨rfl, h.stepService _ passed written⟩
  | ipcAct passed written => exact .inl ⟨rfl, h.stepService _ passed written⟩
  | agent modeSet lockSuccess written => exact h.stepAgent modeSet lockSuccess written
  | agentStop => exact .inl ⟨rfl, .inl rfl, h.writes.disconnect .agent, h.nonempty⟩
  | other n act =>
    left
    cases act with
    | connect modeSet => exact ⟨rfl, h.connect (by rintro ⟨⟩) modeSet⟩
    | disconnect => exact ⟨rfl, h.disconnect (by rintro ⟨⟩)⟩
    | send message written => exact ⟨rfl, h.send _ message written⟩
    | read => exact ⟨rfl, h.read (by rintro ⟨⟩)⟩
  | credential act =>
    have hcredential : ∀ value : Option CallReturn,
        commandOf (value.elim .silent .call) = none := by
      intro value
      cases value with
      | none => rfl
      | some value => rfl
    left
    cases act with
    | fetchReturns thread token => exact ⟨rfl, h⟩
    | _ => exact ⟨hcredential _, h.agent, h.writes, h.nonempty⟩
  | fetchConnect thread modeSet =>
    have hconnect := h.connect (k := .statusThread thread) (by rintro ⟨⟩) modeSet
    left
    simp only [unlockMachine]
    split
    · refine ⟨rfl, ?_⟩
      simp only [UnlockSystem.fetchConnect]
      split
      · exact hconnect
      · exact hconnect.fetchReturns thread noToken
    · exact ⟨rfl, h⟩
  | fetchSend thread written =>
    have hsend := h.send (.statusThread thread) probePayload written
    left
    simp only [unlockMachine]
    split
    · refine ⟨rfl, ?_⟩
      simp only [UnlockSystem.fetchSend]
      split
      · exact ⟨hsend.agent, hsend.writes, h.nonempty⟩
      · exact hsend.fetchReturns thread noToken
    · exact ⟨rfl, h⟩
  | fetchRead thread =>
    have hread := h.read (k := .statusThread thread) (by rintro ⟨⟩)
    left
    simp only [unlockMachine]
    split
    · refine ⟨rfl, ?_⟩
      simp only [UnlockSystem.fetchRead]
      split
      · exact hread
      · exact hread.fetchReturns thread _
    · exact ⟨rfl, h⟩
  | fetchFails thread =>
    left
    simp only [unlockMachine]
    split
    · exact ⟨rfl, h.fetchReturns thread noToken⟩
    · exact ⟨rfl, h⟩

/-- The commands that the agent reads in a run, with the instances they come from. -/
def commandsOf (s : UnlockSystem) (events : List UnlockEvent) : List (Nat × Bytes) :=
  (unlockMachine.trace s events).filterMap fun x => commandOf x.output

theorem AgentLeft.run (h : AgentLeft pipe messages s) (events : List UnlockEvent) :
    commandsOf s events <+: messages.map fun m => (pipe, m) := by
  induction events generalizing s messages with
  | nil => exact List.nil_prefix
  | cons event events ih =>
    rcases h.step event with ⟨hnone, hnext⟩ | ⟨m, rest, rfl, hsome, hnext⟩
    · have hcommands : commandsOf s (event :: events) =
          commandsOf (unlockMachine.step s event).1 events := List.filterMap_cons_none hnone
      rw [hcommands]
      exact ih hnext
    · have hcommands : commandsOf s (event :: events) =
          (pipe, m) :: commandsOf (unlockMachine.step s event).1 events :=
        List.filterMap_cons_some hsome
      rw [hcommands, List.map_cons]
      exact List.cons_prefix_cons.mpr ⟨rfl, ih hnext⟩

/-- The messages of an instance that its client has not read. -/
def unread (s : NamedPipes PipeUser) (pipe : Nat) : List Bytes :=
  s.instances[pipe]?.elim [] (·.toClient)

/-- When the server has left the instance of the agent, the agent reads what is in the pipe, and
nothing that is sent later. -/
theorem commands_after_left (events₁ events₂ : List UnlockEvent) (pipe : Nat)
    (hagent : (unlockMachine.run {} events₁).pipes.hClient .agent = some pipe)
    (hleft : (unlockMachine.run {} events₁).pipes.hPipe ≠ some pipe) :
    commandsOf (unlockMachine.run {} events₁) events₂ <+:
      (unread (unlockMachine.run {} events₁).pipes pipe).map fun m => (pipe, m) := by
  have hwrites := (tokenless_run events₁).pipes
  obtain ⟨log, hflow, -⟩ := hwrites pipe
  obtain ⟨i, hi, hclient⟩ := hflow.handle _ hagent
  have hunread : unread (unlockMachine.run {} events₁).pipes pipe = i.toClient := by
    rw [unread, hi]
    rfl
  have hnonempty : ∀ m ∈ i.toClient, m ≠ [] := by
    intro m hm
    exact hflow.written m ((hflow.received i hi).subset (List.mem_append_right _ hm))
  rw [hunread]
  have hstart : AgentLeft pipe i.toClient (unlockMachine.run {} events₁) :=
    ⟨.inr ⟨hleft, hagent, i, hi, hclient, rfl⟩, hwrites.mono fun _ _ => trivial, hnonempty⟩
  exact hstart.run events₂

/-- The agent connects, and the service stops its pipe. -/
def stopWithAgent : List UnlockEvent :=
  [.startPipe true, .worker ⟨true, true, true⟩, .agent true true true, .worker ⟨true, true, true⟩,
    .stopPipe]

theorem commands_after_stopWithAgent :
    commandsOf (unlockMachine.run {} stopWithAgent)
      [.worker ⟨true, true, true⟩, .startPipe true, .agent true true true] <+: [] :=
  commands_after_left stopWithAgent _ 0 rfl (by rintro ⟨⟩)

end MobileUnlock.Service
