import MobileUnlock.Lib.Machine
import MobileUnlock.Lib.Win32
import Mathlib.Logic.Function.Basic

/-!
# `MobileUnlock.Network.SessionCleanup`: the sessions and the threads that share them

The accept thread, one worker thread for each session and the maintenance thread work on
`m_clients`. The map is guarded by `m_clientsLock`, and the session objects in it are not:
a worker writes `LastActiveTimestampMs` of its session without the lock, and
`CleanupStaleSessions` reads it under the lock, against a tick that it has read before.

`engineMachine` interleaves the threads. An act is one step of one thread, or time that goes by.
An act whose thread is not at that step, or that waits for the lock, changes nothing, so every
list of acts is an interleaving. What the network and the rest of the engine decide (the answer
of `recv`, the outcome of the processing of the data, `m_isRunning`) is part of the act.

`m_nextClientId` counts connections in 64 bits, and the model does not let it turn. Client ids
are natural numbers.
-/

set_option autoImplicit false

namespace MobileUnlock.Network

open MobileUnlock.Lib MobileUnlock.Lib.Win32

/-- A value that `GetTickCount` has returned, with the real time of the call. The code has the
tick only. -/
structure TickReading where
  realMs : Nat
  deriving DecidableEq, Repr

def TickReading.tick (r : TickReading) : UInt32 := getTickCount r.realMs

/-- Where the worker of a session stands. -/
inductive WorkerPc where
  /-- The thread is not started. -/
  | created
  /-- At the condition of the loop. -/
  | looping
  /-- In `recv`. -/
  | receiving
  /-- `recv` has returned data. -/
  | received
  /-- `GetTickCount` has returned, and the result is not stored yet. -/
  | stamping (now : TickReading)
  /-- Behind the stamp: protocol detection, TLS and frames. -/
  | processing
  /-- Behind the loop. -/
  | leaving
  /-- In front of the lock that guards the erasure. -/
  | erasing
  | finished
  deriving DecidableEq, Repr

/-- A session object. `lastData` is the real time at which `recv` last returned data, which the
code does not keep. -/
structure SessionObject where
  socketOpen : Bool := true
  lastActiveTimestampMs : TickReading
  worker : WorkerPc := .created
  lastData : Option Nat := none
  deriving DecidableEq, Repr

/-- What `recv` answers. -/
inductive RecvAnswer where
  | data
  | timedOut
  | failed
  deriving DecidableEq, Repr

/-- How the processing of the data ends: with the next turn of the loop, with a `break`, or with
the socket dropped and a `break`. -/
inductive ProcessOutcome where
  | goOn
  | breakLoop
  | dropSocket
  deriving DecidableEq, Repr

/-- The steps of a worker outside the lock. -/
inductive WorkerAct where
  | testLoop (isRunning : Bool)
  | recv (answer : RecvAnswer)
  | readTick
  | storeTick
  | process (outcome : ProcessOutcome)
  | closeSocket
  deriving DecidableEq, Repr

/-- One step of `ClientWorkerLoop` on its session, at the real time `clock`. -/
def workerAct (clock : Nat) (session : SessionObject) : WorkerAct → SessionObject
  | .testLoop isRunning =>
    if session.worker = .looping then
      if isRunning ∧ session.socketOpen then { session with worker := .receiving }
      else { session with worker := .leaving }
    else session
  | .recv answer =>
    if session.worker = .receiving then
      match answer with
      | .data => { session with worker := .received, lastData := some clock }
      | .timedOut =>
        -- Inactivity check: 30 seconds
        if getTickCount clock - session.lastActiveTimestampMs.tick > 30000 then
          { session with worker := .leaving }
        else { session with worker := .looping }
      | .failed => { session with worker := .leaving }
    else session
  | .readTick =>
    if session.worker = .received then { session with worker := .stamping ⟨clock⟩ } else session
  | .storeTick =>
    match session.worker with
    | .stamping now => { session with lastActiveTimestampMs := now, worker := .processing }
    | _ => session
  | .process outcome =>
    if session.worker = .processing then
      match outcome with
      | .goOn => { session with worker := .looping }
      | .breakLoop => { session with worker := .leaving }
      | .dropSocket => { session with socketOpen := false, worker := .leaving }
    else session
  | .closeSocket =>
    if session.worker = .leaving then { session with socketOpen := false, worker := .erasing }
    else session

/-- Where `CleanupStaleSessions` stands. -/
inductive CleanupPc where
  /-- Between two calls. -/
  | sleeping
  /-- `now` is read, and the lock is not taken. -/
  | waiting (now : TickReading)
  /-- The lock is held, and the sessions `pending` are not tested yet. -/
  | testing (now : TickReading) (pending : List Nat)
  deriving DecidableEq, Repr

/-- The engine: the real time, the session objects by client id, the keys of `m_clients`, and
the maintenance thread. `inserting` is the session the accept thread has made and not inserted
yet. -/
structure EngineState where
  clock : Nat := 0
  nextClientId : Nat := 1
  inserting : Option Nat := none
  sessions : Nat → Option SessionObject := fun _ => none
  clients : List Nat := []
  cleanup : CleanupPc := .sleeping

/-- `m_clientsLock` is free. All other critical sections are one act each. -/
def EngineState.lockFree (s : EngineState) : Bool :=
  match s.cleanup with
  | .testing _ _ => false
  | _ => true

/-- Change one session object. -/
def EngineState.modify (s : EngineState) (id : Nat) (f : SessionObject → SessionObject) :
    EngineState :=
  { s with sessions := Function.update s.sessions id ((s.sessions id).map f) }

/-- The steps of the threads. -/
inductive EngineAct where
  | advance (ms : Nat)
  | accept
  | insert
  | startWorker (id : Nat)
  | worker (id : Nat) (act : WorkerAct)
  | eraseClient (id : Nat)
  | stop
  | cleanupReadTick
  | cleanupEnterLock
  | cleanupTest (id : Nat)
  | cleanupLeaveLock
  deriving DecidableEq, Repr

/-- The condition of `CleanupStaleSessions` on one session. -/
def isStale (now : TickReading) (session : SessionObject) : Bool :=
  now.tick - session.lastActiveTimestampMs.tick > 30000

/-- One act. The output is the client that `CleanupStaleSessions` has removed. -/
def engineStep (s : EngineState) : EngineAct → EngineState × Option Nat
  | .advance ms => ({ s with clock := s.clock + ms }, none)
  | .accept =>
    if s.inserting = none then
      ({ s with
          nextClientId := s.nextClientId + 1
          inserting := some s.nextClientId
          sessions := Function.update s.sessions s.nextClientId
            (some { lastActiveTimestampMs := ⟨s.clock⟩ }) }, none)
    else (s, none)
  | .insert =>
    match s.inserting with
    | some id =>
      if s.lockFree then ({ s with inserting := none, clients := id :: s.clients }, none)
      else (s, none)
    | none => (s, none)
  | .startWorker id =>
    -- The worker looks its session up under the lock, and ends when it is gone.
    if s.lockFree ∧ s.inserting ≠ some id then
      (s.modify id fun session =>
        if session.worker = .created then
          { session with worker := if id ∈ s.clients then .looping else .finished }
        else session, none)
    else (s, none)
  | .worker id act => (s.modify id fun session => workerAct s.clock session act, none)
  | .eraseClient id =>
    if s.lockFree ∧ (s.sessions id).map (·.worker) = some .erasing then
      let s := s.modify id fun session => { session with worker := .finished }
      ({ s with clients := s.clients.filter (· ≠ id) }, none)
    else (s, none)
  | .stop =>
    if s.lockFree then
      ({ s with
          sessions := fun id =>
            if id ∈ s.clients then (s.sessions id).map fun session =>
              { session with socketOpen := false }
            else s.sessions id
          clients := [] }, none)
    else (s, none)
  | .cleanupReadTick =>
    match s.cleanup with
    | .sleeping => ({ s with cleanup := .waiting ⟨s.clock⟩ }, none)
    | _ => (s, none)
  | .cleanupEnterLock =>
    match s.cleanup with
    | .waiting now => ({ s with cleanup := .testing now s.clients }, none)
    | _ => (s, none)
  | .cleanupTest id =>
    match s.cleanup, s.sessions id with
    | .testing now pending, some session =>
      if id ∈ pending then
        let s := { s with cleanup := .testing now (pending.filter (· ≠ id)) }
        if isStale now session then
          let s := s.modify id fun session => { session with socketOpen := false }
          ({ s with clients := s.clients.filter (· ≠ id) }, some id)
        else (s, none)
      else (s, none)
    | _, _ => (s, none)
  | .cleanupLeaveLock =>
    match s.cleanup with
    | .testing _ [] => ({ s with cleanup := .sleeping }, none)
    | _ => (s, none)

/-- The threads of the engine. -/
def engineMachine : Machine EngineState EngineAct (Option Nat) := ⟨engineStep⟩

end MobileUnlock.Network
