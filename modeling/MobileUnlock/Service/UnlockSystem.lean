import MobileUnlock.CredentialProvider.ProductionIpcFactory
import MobileUnlock.Ipc.SecureIPC
import MobileUnlock.Service.ServiceMachine

/-!
# `MobileUnlock.Service.UnlockSystem`: the service and the programs on its pipe

The service of `serviceMachine` with the real pipe of `NamedPipes` and those that open it: the
agent in the session of the user, the status threads of the credential provider, and any other
program. The pipe serves them one after the other.

The lists `toAgent` and `toService` of the service hold what goes to the pipe and what comes from
it within one step, and they are empty between the steps. The handler of a message runs on the
worker of the pipe, so the worker goes on when it is done.

A step of the agent and a step of `FetchAuthState` are one call of the pipe each.
-/

set_option autoImplicit false

namespace MobileUnlock.Service

open MobileUnlock.Lib MobileUnlock.Protocol MobileUnlock.Pairing MobileUnlock.Authentication
open MobileUnlock.Ipc MobileUnlock.CredentialProvider

/-- Who opens the pipe. -/
inductive PipeUser where
  | agent
  | statusThread (thread : Nat)
  | other (n : Nat)
  deriving DecidableEq

/-- Where `Run` of the agent stands. -/
inductive AgentPc where
  /-- In `ConnectToService`. -/
  | connecting
  /-- In front of `ReportSessionState`. -/
  | reporting
  /-- In `ReadMessageFromServer`. -/
  | reading
  /-- A command is processed, and the answer is not written yet. -/
  | answering (answer : Bytes)
  | ended
  deriving DecidableEq

structure UnlockSystem where
  service : ServiceState := {}
  pipes : NamedPipes PipeUser := {}
  agent : AgentPc := .connecting
  credential : CredentialState := constructed true
  /-- The threads in `FetchAuthState` that have sent the probe. -/
  probed : Nat → Bool := fun _ => false

/-- What can be observed of a step. -/
inductive UnlockOutput where
  | silent
  /-- The agent has read a message, on this instance of the pipe. -/
  | command (pipe : Nat) (message : Bytes)
  /-- A call of the credential has returned. -/
  | call (value : CallReturn)

/-- The acts of another program on the pipe. -/
inductive OtherAct where
  | connect (modeSet : Bool)
  | disconnect
  | send (message : Bytes) (written : Bool)
  | read

namespace UnlockSystem

/-- A step of the service. A message for the pipe is sent. -/
def stepService (s : UnlockSystem) (event : ServiceEvent) (passed written : Bool) :
    UnlockSystem × UnlockOutput :=
  let (service, _) := serviceMachine.step s.service event
  let pipes := service.threads.toAgent.foldl
    (fun pipes message => (pipes.sendMessageToClient message passed written).1) s.pipes
  ({ s with
      service := { service with threads := { service.threads with toAgent := [] } }
      pipes := pipes }, .silent)

/-- A step of the worker. A message goes to the handler. -/
def stepWorker (s : UnlockSystem) (env : WorkerEnv) : UnlockSystem × UnlockOutput :=
  let (pipes, message) := s.pipes.workerStep env
  let s := { s with pipes := pipes }
  match message with
  | none => (s, .silent)
  | some (_, message) =>
    let threads := { s.service.threads with ipcTask := handleIpcMessage message }
    ({ s with service := { s.service with threads := threads } }, .silent)

/-- A step of the agent. A command that it does not know has no answer. -/
def stepAgent (s : UnlockSystem) (modeSet lockSuccess written : Bool) :
    UnlockSystem × UnlockOutput :=
  match s.agent with
  | .connecting =>
    let pipes := s.pipes.connect .agent modeSet
    ({ s with
        pipes := pipes
        agent := if (pipes.hClient .agent).isSome then .reporting else .connecting }, .silent)
  | .reporting =>
    let (pipes, _) := s.pipes.sendMessageToServer .agent (statusMessage .ONLINE) written
    ({ s with pipes := pipes, agent := .reading }, .silent)
  | .reading =>
    let (pipes, message) := s.pipes.readMessageFromServer .agent
    let s := { s with pipes := pipes }
    match message with
    | none => (s, .silent)
    | some (pipe, message) =>
      let agent :=
        match readAgentCommand message with
        | .lock header => .answering (lockResponseMessage header lockSuccess)
        | .ping header => .answering (pongMessage header)
        | .ignored => .reading
      ({ s with agent := agent }, .command pipe message)
  | .answering answer =>
    let (pipes, _) := s.pipes.sendMessageToServer .agent answer written
    ({ s with pipes := pipes, agent := .reading }, .silent)
  | .ended => (s, .silent)

/-- Another program. -/
def stepOther (s : UnlockSystem) (n : Nat) : OtherAct → UnlockSystem × UnlockOutput
  | .connect modeSet => ({ s with pipes := s.pipes.connect (.other n) modeSet }, .silent)
  | .disconnect => ({ s with pipes := s.pipes.disconnect (.other n) }, .silent)
  | .send message written =>
    ({ s with pipes := (s.pipes.sendMessageToServer (.other n) message written).1 }, .silent)
  | .read => ({ s with pipes := (s.pipes.readMessageFromServer (.other n)).1 }, .silent)

/-! ### `FetchAuthState` -/

/-- The thread is in `FetchAuthState`. -/
def isFetching (s : UnlockSystem) (thread : Nat) : Bool :=
  match s.credential.threads[thread]? with
  | some (.fetching _) => true
  | _ => false

/-- `FetchAuthState` returns, and its client goes out of scope. -/
def fetchReturns (s : UnlockSystem) (thread : Nat) (token : IpcStateToken) : UnlockSystem :=
  { s with
      credential := (credentialStep s.credential (.fetchReturns thread token)).1
      pipes := s.pipes.disconnect (.statusThread thread)
      probed := Function.update s.probed thread false }

def fetchConnect (s : UnlockSystem) (thread : Nat) (modeSet : Bool) : UnlockSystem :=
  let s := { s with pipes := s.pipes.connect (.statusThread thread) modeSet }
  if modeSet then s else s.fetchReturns thread noToken

def fetchSend (s : UnlockSystem) (thread : Nat) (written : Bool) : UnlockSystem :=
  let (pipes, sent) := s.pipes.sendMessageToServer (.statusThread thread) probePayload written
  let s := { s with pipes := pipes }
  if sent.isSome then { s with probed := Function.update s.probed thread true }
  else s.fetchReturns thread noToken

/-- A turn of the wait for the answer. -/
def fetchRead (s : UnlockSystem) (thread : Nat) : UnlockSystem :=
  let (pipes, message) := s.pipes.readMessageFromServer (.statusThread thread)
  let s := { s with pipes := pipes }
  match message with
  | none => s
  | some (_, message) => s.fetchReturns thread (readToken message)

end UnlockSystem

/-! ### Interleavings -/

/-- The steps of all programs. -/
inductive UnlockEvent where
  /-- The service starts its pipe server, or stops it. -/
  | startPipe (threadMade : Bool)
  | stopPipe
  | worker (env : WorkerEnv)
  /-- A client thread of the service takes up a frame. -/
  | frame (client : ClientId) (header : FrameHeader) (payload : Bytes) (env : FrameEnv)
  /-- Somebody else writes to the registry. -/
  | registry (reg : Registry)
  | clientAct (client : ClientId) (passed written : Bool)
  | ipcAct (passed written : Bool)
  | agent (modeSet lockSuccess written : Bool)
  | agentStop
  | other (n : Nat) (act : OtherAct)
  /-- An act of the credential, apart from the return of `FetchAuthState`. -/
  | credential (act : CredentialAct)
  | fetchConnect (thread : Nat) (modeSet : Bool)
  | fetchSend (thread : Nat) (written : Bool)
  | fetchRead (thread : Nat)
  /-- A wait of `FetchAuthState` is over, or a read fails. -/
  | fetchFails (thread : Nat)

/-- An act of the credential from outside of `FetchAuthState`. -/
def stepCredential (s : UnlockSystem) : CredentialAct → UnlockSystem × UnlockOutput
  | .fetchReturns _ _ => (s, .silent)
  | act =>
    let (credential, value) := credentialStep s.credential act
    ({ s with credential := credential }, value.elim .silent .call)

/-- The service and all programs on its pipe. -/
def unlockMachine : Machine UnlockSystem UnlockEvent UnlockOutput where
  step s
    | .startPipe threadMade => ({ s with pipes := s.pipes.start threadMade }, .silent)
    | .stopPipe => ({ s with pipes := s.pipes.stop }, .silent)
    | .worker env =>
      if s.service.threads.ipcTask = .idle then s.stepWorker env else (s, .silent)
    | .frame client header payload env =>
      let env := { env with agentConnected := s.pipes.isConnected }
      s.stepService (.frame client header payload env) false false
    | .registry reg => s.stepService (.registry reg) false false
    | .clientAct client passed written => s.stepService (.clientAct client true) passed written
    | .ipcAct passed written => s.stepService (.ipcAct true) passed written
    | .agent modeSet lockSuccess written => s.stepAgent modeSet lockSuccess written
    | .agentStop => ({ s with pipes := s.pipes.disconnect .agent, agent := .ended }, .silent)
    | .other n act => s.stepOther n act
    | .credential act => stepCredential s act
    | .fetchConnect thread modeSet =>
      if s.isFetching thread ∧ ¬ s.probed thread then (s.fetchConnect thread modeSet, .silent)
      else (s, .silent)
    | .fetchSend thread written =>
      if s.isFetching thread ∧ ¬ s.probed thread ∧
          (s.pipes.hClient (.statusThread thread)).isSome then
        (s.fetchSend thread written, .silent)
      else (s, .silent)
    | .fetchRead thread =>
      if s.isFetching thread ∧ s.probed thread then (s.fetchRead thread, .silent)
      else (s, .silent)
    | .fetchFails thread =>
      if s.isFetching thread then (s.fetchReturns thread noToken, .silent) else (s, .silent)

end MobileUnlock.Service
