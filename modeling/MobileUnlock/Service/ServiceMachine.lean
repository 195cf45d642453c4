import MobileUnlock.Service.MobileUnlockService

/-!
# `MobileUnlock.Service.ServiceMachine`: the service under all of its messages

`lockMachine` takes up LOCK_REQUEST frames only and leaves the registry to its events.
`serviceMachine` is the service as a whole. It keeps the state of the authentication next to
that of the threads, takes up network frames of every type (`handleNetworkFrame`), and reads
whatever the agent writes to the pipe. The acts of the threads are the steps of `lockMachine`.

The agent answers a LOCK_REQUEST with the LOCK_RESPONSE that `processLockCommand` builds, and
sends no other LOCK_RESPONSE. Everything else it may send is a `PlainMessage`.
-/

set_option autoImplicit false

namespace MobileUnlock.Service

open MobileUnlock.Lib MobileUnlock.Protocol MobileUnlock.Pairing MobileUnlock.Authentication

/-- A message of the agent that the service does not read as a LOCK_RESPONSE. -/
structure PlainMessage where
  bytes : Bytes
  plain : ∀ payload, handleIpcMessage bytes ≠ .exchangeClient payload

/-- The authentication, and what the threads of the service share. -/
structure ServiceState where
  auth : AuthState := {}
  threads : LockState := {}

/-- The steps of the service, of the agent and of the other users of the registry. -/
inductive ServiceEvent where
  /-- A client thread takes up a frame. -/
  | frame (client : ClientId) (header : FrameHeader) (payload : Bytes) (env : FrameEnv)
  /-- Somebody else writes to the registry. -/
  | registry (reg : Registry)
  /-- A client thread does its next act. -/
  | clientAct (client : ClientId) (sent : Bool)
  /-- The agent reads its next message. -/
  | agent (lockSuccess sent : Bool)
  /-- The agent sends a message of its own. -/
  | agentMessage (message : PlainMessage)
  /-- The pipe thread reads the next message of the agent. -/
  | ipcReceive
  /-- The pipe thread does its next act. -/
  | ipcAct (sent : Bool)

/-- A step of the threads or of the agent. -/
def stepThreads (s : ServiceState) (event : LockEvent) : ServiceState × LockObservation :=
  let (threads, observation) := lockMachine.step s.threads event
  ({ s with threads := threads }, observation)

/-- The service with its client threads, its pipe thread and the agent. An event whose
thread cannot take it does nothing. -/
def serviceMachine : Machine ServiceState ServiceEvent LockObservation where
  step s
    | .frame client header payload env =>
      match s.threads.tasks client with
      | [] =>
        let (auth, acts) := handleNetworkFrame s.auth client.val header payload env
        let tasks := Function.update s.threads.tasks client acts
        ({ auth := auth, threads := { s.threads with tasks := tasks } }, .silent)
      | _ :: _ => (s, .silent)
    | .registry reg => ({ s with auth := { s.auth with registry := reg } }, .silent)
    | .clientAct client sent => stepThreads s (.clientAct client sent)
    | .agent lockSuccess sent => stepThreads s (.agent lockSuccess sent)
    | .agentMessage message =>
      let toService := s.threads.toService ++ [message.bytes]
      ({ s with threads := { s.threads with toService := toService } }, .silent)
    | .ipcReceive => stepThreads s .ipcReceive
    | .ipcAct sent => stepThreads s (.ipcAct sent)

end MobileUnlock.Service
