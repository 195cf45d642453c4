import MobileUnlock.Lib.Bytes
import MobileUnlock.Lib.Machine
import Mathlib.Logic.Function.Basic

/-!
# `MobileUnlock.Ipc.SecureIPC`: the pipe of the service

The model of `windows/ipc/SecureIPC.cpp`. The worker of `NamedPipeServer` creates an instance of
the pipe, serves one client on it, and closes it before it creates the next one. `NamedPipeClient`
opens the instance that nobody has opened. `κ` names the clients.

Both ends read whole messages. The server reads into 4096 bytes. `ReadFile` cuts a longer message
and reports `ERROR_MORE_DATA`, and the worker ends the connection. The client asks first how many
bytes are in the pipe, and its buffer has that size.

`pipeMachine` interleaves the worker with the other threads of the service and with the clients.
Every event is one act of one of them, and what the system answers is part of the event. A call
that waits for its end is an event that has not come yet.
-/

set_option autoImplicit false

namespace MobileUnlock.Ipc

open MobileUnlock.Lib

/-! ### Messages -/

/-- `ReadFile` into a buffer of `size` bytes: whether it succeeds, the buffer, and the messages that
are left. The rest of a message that does not fit stays in the pipe. -/
def readFile (size : Nat) : List Bytes → Option (Bool × Bytes × List Bytes)
  | [] => none
  | message :: messages =>
    if message.length ≤ size then some (true, message, messages)
    else some (false, message.take size, message.drop size :: messages)

/-- The bytes that `PeekNamedPipe` finds, over all messages. -/
def bytesAvail (messages : List Bytes) : Nat := (messages.map List.length).sum

/-! ### The pipe -/

section
variable {κ : Type}

/-- An instance of the pipe. -/
structure PipeInstance (κ : Type) where
  /-- Who has opened the instance. -/
  client : Option κ := none
  /-- The client has not closed its handle. -/
  clientOpen : Bool := false
  /-- The server has not closed its handle. -/
  serverOpen : Bool := true
  toServer : List Bytes := []
  toClient : List Bytes := []

/-- Where the worker of the server stands. -/
inductive WorkerPc where
  /-- At the condition of the outer loop. -/
  | looping
  /-- In `ConnectNamedPipe`. -/
  | listening
  /-- At the condition of the inner loop. -/
  | serving
  /-- In front of `DisconnectNamedPipe`. -/
  | disconnecting
  | ended
  deriving DecidableEq

/-- The server and its clients. Handles are places in `instances`. -/
structure NamedPipes (κ : Type) where
  isRunning : Bool := false
  isConnected : Bool := false
  /-- `m_hPipe` of the server. -/
  hPipe : Option Nat := none
  worker : WorkerPc := .ended
  instances : List (PipeInstance κ) := []
  /-- `m_hPipe` of the clients. -/
  hClient : κ → Option Nat := fun _ => none

/-- What the system answers to the worker. -/
structure WorkerEnv where
  /-- `CreateNamedPipeW` gives a handle. -/
  created : Bool
  /-- `ConnectNamedPipe` finds a client, or waits for one. Otherwise it fails. -/
  connects : Bool
  /-- `PeekNamedPipe` succeeds. -/
  peeked : Bool

namespace NamedPipes

def modifyInstance (s : NamedPipes κ) (pipe : Nat) (f : PipeInstance κ → PipeInstance κ) :
    NamedPipes κ :=
  { s with instances := s.instances.modify pipe f }

/-- The instance of a handle. -/
def instanceOf (s : NamedPipes κ) (handle : Option Nat) : Option (Nat × PipeInstance κ) :=
  handle.bind fun pipe => s.instances[pipe]?.map fun i => (pipe, i)

/-! ### The server -/

/-- `Start`, of a new server. -/
def start (s : NamedPipes κ) (threadMade : Bool) : NamedPipes κ :=
  if s.isRunning ∨ s.worker ≠ .ended then s
  else { s with isRunning := true, worker := if threadMade then .looping else .ended }

/-- `CloseHandle` on the pipe of the server. -/
def closeHandle (s : NamedPipes κ) : NamedPipes κ :=
  match s.hPipe with
  | none => s
  | some pipe =>
    { s.modifyInstance pipe fun i => { i with serverOpen := false } with hPipe := none }

/-- `DisconnectNamedPipe`. What has not been read is lost. -/
def disconnectNamedPipe (s : NamedPipes κ) : NamedPipes κ :=
  match s.hPipe with
  | none => s
  | some pipe =>
    s.modifyInstance pipe fun i => { i with serverOpen := false, toServer := [], toClient := [] }

def stop (s : NamedPipes κ) : NamedPipes κ :=
  { s with isRunning := false, isConnected := false }.closeHandle

/-- The end of a turn of the outer loop. -/
def endTurn (s : NamedPipes κ) : NamedPipes κ :=
  { s.closeHandle with isConnected := false, worker := .looping }

/-- A turn of the inner loop on an instance: the message for the handler, if one is read. -/
def serveInstance (s : NamedPipes κ) (pipe : Nat) (i : PipeInstance κ) :
    NamedPipes κ × Option (Nat × Bytes) :=
  if bytesAvail i.toServer = 0 then (s, none)
  else
    match readFile 4096 i.toServer with
    | none => (s, none)
    | some (success, message, rest) =>
      let s := s.modifyInstance pipe fun i => { i with toServer := rest }
      if success ∧ message ≠ [] then (s, some (pipe, message))
      else ({ s with isConnected := false }, none)

/-- One step of `ServerWorkerThread`. -/
def workerStep (s : NamedPipes κ) (env : WorkerEnv) : NamedPipes κ × Option (Nat × Bytes) :=
  match s.worker with
  | .looping =>
    if ¬ s.isRunning then ({ s with worker := .ended }, none)
    else if ¬ env.created then (s, none)
    else
      ({ s with
          hPipe := some s.instances.length
          instances := s.instances ++ [{}]
          worker := .listening }, none)
  | .listening =>
    if ¬ env.connects then (s.endTurn, none)
    else if (s.instanceOf s.hPipe).any fun i => i.2.client.isSome then
      if s.isRunning then ({ s with isConnected := true, worker := .serving }, none)
      else (s.endTurn, none)
    else (s, none)
  | .serving =>
    if ¬ (s.isRunning ∧ s.isConnected) then ({ s with worker := .disconnecting }, none)
    else
      match s.instanceOf s.hPipe with
      | none => ({ s with isConnected := false, worker := .disconnecting }, none)
      | some (pipe, i) =>
        if ¬ env.peeked then ({ s with isConnected := false, worker := .disconnecting }, none)
        else s.serveInstance pipe i
  | .disconnecting => (s.disconnectNamedPipe.endTurn, none)
  | .ended => (s, none)

/-- `SendMessageToClient`. It reads the flags before it writes, and the worker may go on in between,
so what they said is an argument. -/
def sendMessageToClient (s : NamedPipes κ) (message : Bytes) (passed written : Bool) :
    NamedPipes κ × Option (Nat × Bytes) :=
  if ¬ passed ∨ message = [] then (s, none)
  else
    match s.instanceOf s.hPipe with
    | none => (s, none)
    | some (pipe, i) =>
      if i.clientOpen ∧ written then
        (s.modifyInstance pipe fun i => { i with toClient := i.toClient ++ [message] },
          some (pipe, message))
      else (s, none)

/-! ### The clients -/

variable [DecidableEq κ]

/-- A turn of the loop of `Connect`. A handle that does not take the mode is closed again. -/
def connect (s : NamedPipes κ) (client : κ) (modeSet : Bool) : NamedPipes κ :=
  if (s.hClient client).isSome then s
  else
    match s.instanceOf s.hPipe with
    | none => s
    | some (pipe, i) =>
      if i.client.isSome then s
      else
        let s := s.modifyInstance pipe fun i =>
          { i with client := some client, clientOpen := modeSet }
        if modeSet then { s with hClient := Function.update s.hClient client (some pipe) } else s

def disconnect (s : NamedPipes κ) (client : κ) : NamedPipes κ :=
  match s.hClient client with
  | none => s
  | some pipe =>
    { s.modifyInstance pipe fun i => { i with clientOpen := false } with
        hClient := Function.update s.hClient client none }

def sendMessageToServer (s : NamedPipes κ) (client : κ) (message : Bytes) (written : Bool) :
    NamedPipes κ × Option (Nat × Bytes) :=
  if message = [] then (s, none)
  else
    match s.instanceOf (s.hClient client) with
    | none => (s, none)
    | some (pipe, i) =>
      if i.serverOpen ∧ written then
        (s.modifyInstance pipe fun i => { i with toServer := i.toServer ++ [message] },
          some (pipe, message))
      else (s, none)

/-- `ReadMessageFromServer`. -/
def readMessageFromServer (s : NamedPipes κ) (client : κ) :
    NamedPipes κ × Option (Nat × Bytes) :=
  match s.instanceOf (s.hClient client) with
  | none => (s, none)
  | some (pipe, i) =>
    if bytesAvail i.toClient = 0 then (s, none)
    else
      match readFile (bytesAvail i.toClient) i.toClient with
      | none => (s, none)
      | some (success, message, rest) =>
        let s := s.modifyInstance pipe fun i => { i with toClient := rest }
        if success ∧ message ≠ [] then (s, some (pipe, message)) else (s, none)

end NamedPipes

/-! ### Interleavings -/

/-- The acts of the service and of the clients. -/
inductive PipeEvent (κ : Type) where
  | start (threadMade : Bool)
  | stop
  | worker (env : WorkerEnv)
  | sendMessageToClient (message : Bytes) (passed written : Bool)
  | connect (client : κ) (modeSet : Bool)
  | disconnect (client : κ)
  | sendMessageToServer (client : κ) (message : Bytes) (written : Bool)
  | readMessageFromServer (client : κ)

/-- What has become of a message, and on which instance. -/
inductive PipeOutput (κ : Type) where
  | nothing
  /-- The handler of the server gets a message. -/
  | handled (pipe : Nat) (message : Bytes)
  /-- The service has written a message. -/
  | written (pipe : Nat) (message : Bytes)
  /-- A client has written a message. -/
  | sent (client : κ) (pipe : Nat) (message : Bytes)
  /-- A client has read a message. -/
  | received (client : κ) (pipe : Nat) (message : Bytes)

/-- The output of a message, if there is one. -/
def outputOf (output : Nat → Bytes → PipeOutput κ) : Option (Nat × Bytes) → PipeOutput κ
  | none => .nothing
  | some (pipe, message) => output pipe message

/-- The pipe with its server and its clients. -/
def pipeMachine [DecidableEq κ] : Machine (NamedPipes κ) (PipeEvent κ) (PipeOutput κ) where
  step s
    | .start threadMade => (s.start threadMade, .nothing)
    | .stop => (s.stop, .nothing)
    | .worker env =>
      let (s, message) := s.workerStep env
      (s, outputOf .handled message)
    | .sendMessageToClient message passed written =>
      let (s, message) := s.sendMessageToClient message passed written
      (s, outputOf .written message)
    | .connect client modeSet => (s.connect client modeSet, .nothing)
    | .disconnect client => (s.disconnect client, .nothing)
    | .sendMessageToServer client message written =>
      let (s, message) := s.sendMessageToServer client message written
      (s, outputOf (.sent client) message)
    | .readMessageFromServer client =>
      let (s, message) := s.readMessageFromServer client
      (s, outputOf (.received client) message)

end

end MobileUnlock.Ipc
