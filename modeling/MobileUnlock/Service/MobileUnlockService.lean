import MobileUnlock.Authentication.AuthenticationManager
import MobileUnlock.Pairing.PairingManager
import MobileUnlock.Service.UserSessionAgent

/-!
# `MobileUnlock.Service.MobileUnlockService`: frames, the agent pipe and the pending lock

The model of the two message handlers of `windows/service/MobileUnlockService.cpp`.

Network frames are handled on the threads of their clients, and messages of the agent on the
thread of the pipe. A handler first decides, and then acts on what the threads share. The
decision of `handleNetworkFrame` is a pure function, and its acts are a list of
`ServiceAction`, each of them atomic. `handleIpcMessage` reads shared variables between its
acts, so it is a chain of `IpcTask`.

`lockMachine` runs all of it with the agent: every event is one atomic act of one thread, so
its runs are the interleavings of all handlers. Pipes keep messages whole and in order.
Client ids start at one (`m_nextClientId`), and the frames a client thread delivers have at
most `MAX_PAYLOAD_SIZE` bytes of payload; `ClientId` and `LockFrame` carry these two facts.
-/

set_option autoImplicit false

namespace MobileUnlock.Service

open MobileUnlock.Lib MobileUnlock.Lib.Win32 MobileUnlock.Protocol MobileUnlock.Pairing
open MobileUnlock.Authentication

/-- One atomic act of a handler. -/
inductive ServiceAction where
  | sendFrame (clientId : UInt64) (header : FrameHeader) (payload : Bytes)
  | storePendingLockClientId (clientId : UInt64)
  | storePendingLockMessageId (messageId : UInt32)
  | sendMessageToAgent (message : Bytes)
  deriving DecidableEq

/-- What `handleNetworkFrame` reads from outside. `stackId` is what an uninitialised
`DeviceId` happens to hold. -/
structure FrameEnv where
  stackId : DeviceId
  requestEnv : RequestEnv
  responseEnv : ResponseEnv
  lockAccess : Access
  agentConnected : Bool

/-! ### Network frames -/

/-- The JSON key both handlers look for. -/
def deviceIdKey : Bytes := ascii "\"deviceId\":\""

/-- The id behind the JSON key, parsed into `deviceId`: whether one was found and parsed, and
the id. -/
def jsonDeviceId (payload : Bytes) (deviceId : DeviceId) : Bool × DeviceId :=
  match afterFirst deviceIdKey payload with
  | none => (false, deviceId)
  | some rest => deviceIdFromString (rest.take 36) deviceId

/-- The device id of an AUTH_REQUEST. -/
def authDeviceId (payload : Bytes) (stackId : DeviceId) : DeviceId :=
  if payload.length ≥ 16 then copyBytes 16 0 payload else (jsonDeviceId payload stackId).2

/-- The id in the signed message at the front of a payload, if there is one. -/
def signedDeviceId (payload : Bytes) : Option DeviceId :=
  if payload.length ≥ CANONICAL_SIGNED_MESSAGE_SIZE then
    (deserializeSignedMessage (payload.take CANONICAL_SIGNED_MESSAGE_SIZE)).map (·.deviceIdentity)
  else none

/-- The device id of a LOCK_REQUEST: `hasDeviceId` and the id. -/
def lockDeviceId (payload : Bytes) (stackId : DeviceId) : Bool × DeviceId :=
  match signedDeviceId payload with
  | some deviceId => (true, deviceId)
  | none =>
    if payload.length ≥ 16 then (true, copyBytes 16 0 payload) else jsonDeviceId payload stackId

/-- The LOCK_RESPONSE that refuses a lock. -/
def refuseLock (clientId : UInt64) (header : FrameHeader) (reason : String) : ServiceAction :=
  let errPayload :=
    ascii "\x7b\"status\":\"FAILURE\",\"reason\":\"" ++ ascii reason ++ ascii "\"\x7d"
  .sendFrame clientId
    { magic := PROTOCOL_MAGIC
      majorVersion := PROTOCOL_MAJOR_VERSION
      minorVersion := PROTOCOL_MINOR_VERSION
      messageType := MessageType.LOCK_RESPONSE.code
      reserved := 0
      messageID := header.messageID
      payloadLength := UInt32.ofNat errPayload.length
      sequenceNumber := header.sequenceNumber + 1 } errPayload

/-- The message that dispatches a lock to the agent. -/
def lockRequestMessage (header : FrameHeader) (payload : Bytes) : Bytes :=
  serializeFrameHeader
    { magic := PROTOCOL_MAGIC
      majorVersion := PROTOCOL_MAJOR_VERSION
      minorVersion := PROTOCOL_MINOR_VERSION
      messageType := MessageType.LOCK_REQUEST.code
      reserved := 0
      messageID := header.messageID
      payloadLength := UInt32.ofNat payload.length
      sequenceNumber := 1 } ++ payload

/-- The acts that dispatch a lock. -/
def dispatchLock (clientId : UInt64) (header : FrameHeader) (payload : Bytes) :
    List ServiceAction :=
  [.storePendingLockClientId clientId, .storePendingLockMessageId header.messageID,
    .sendMessageToAgent (lockRequestMessage header payload)]

/-- The LOCK_REQUEST branch. The device is validated if an id was found. -/
def handleLockRequest (reg : Registry) (clientId : UInt64) (header : FrameHeader)
    (payload : Bytes) (env : FrameEnv) : List ServiceAction :=
  let (hasDeviceId, deviceId) := lockDeviceId payload env.stackId
  let devIdStr := if hasDeviceId then deviceIdToString deviceId else []
  if hasDeviceId ∧ ¬ isDeviceActive env.lockAccess reg devIdStr then
    [refuseLock clientId header "DEVICE_UNAUTHORIZED"]
  else if ¬ env.agentConnected then [refuseLock clientId header "AGENT_UNAVAILABLE"]
  else dispatchLock clientId header payload

/-- Handles a frame of a network client. Other message types are dropped. -/
def handleNetworkFrame (s : AuthState) (clientId : UInt64) (header : FrameHeader)
    (payload : Bytes) (env : FrameEnv) : AuthState × List ServiceAction :=
  if header.messageType = MessageType.PING.code then
    let pongHeader : FrameHeader :=
      { messageType := MessageType.PONG.code
        messageID := header.messageID
        sequenceNumber := header.sequenceNumber + 1
        payloadLength := 0 }
    (s, [.sendFrame clientId pongHeader []])
  else if header.messageType = MessageType.AUTH_REQUEST.code then
    let (m, reply) := handleAuthRequest s.manager s.registry (authDeviceId payload env.stackId)
      header {} env.requestEnv
    ({ s with manager := m }, [.sendFrame clientId reply.header reply.payload])
  else if header.messageType = MessageType.AUTH_RESPONSE.code then
    let (m, reg, reply) := handleAuthResponse s.manager s.registry header payload env.responseEnv
    ({ manager := m, registry := reg }, [.sendFrame clientId reply.header reply.payload])
  else if header.messageType = MessageType.LOCK_REQUEST.code then
    (s, handleLockRequest s.registry clientId header payload env)
  else (s, [])

/-! ### Messages of the agent -/

/-- What is left to do of `HandleIpcMessage`. -/
inductive IpcTask where
  | idle
  | pong (message : Bytes)
  /-- `m_pendingLockClientId.exchange(0)` comes next. -/
  | exchangeClient (payload : Bytes)
  /-- `m_pendingLockMessageId.load()` comes next. -/
  | loadMessageId (client : UInt64) (payload : Bytes)
  /-- `SendFrame` and `SetState(LOCKED)` come next. -/
  | relay (client : UInt64) (messageId : UInt32) (payload : Bytes)
  deriving DecidableEq

/-- Reads a message of the agent and decides what to do. -/
def handleIpcMessage (message : Bytes) : IpcTask :=
  match deserializeFrameHeader message with
  | none => .idle
  | some header =>
    if header.messageType = MessageType.PING.code then .pong (pongMessage header)
    else if header.messageType = MessageType.LOCK_RESPONSE.code then
      .exchangeClient (message.drop FRAME_HEADER_SIZE)
    else .idle

/-- The header of a relayed LOCK_RESPONSE. -/
def relayHeader (messageId : UInt32) (payload : Bytes) : FrameHeader where
  magic := PROTOCOL_MAGIC
  majorVersion := PROTOCOL_MAJOR_VERSION
  minorVersion := PROTOCOL_MINOR_VERSION
  messageType := MessageType.LOCK_RESPONSE.code
  reserved := 0
  messageID := messageId
  payloadLength := UInt32.ofNat payload.length
  sequenceNumber := 2

/-! ### Interleavings -/

/-- The id of a network client. -/
structure ClientId where
  val : UInt64
  ne_zero : val ≠ 0
  deriving DecidableEq

/-- A LOCK_REQUEST frame as a client thread delivers it. -/
structure LockFrame where
  header : FrameHeader
  payload : Bytes
  size : payload.length ≤ MAX_PAYLOAD_SIZE

/-- What the threads of the service share, what each has left to do, and the two directions
of the pipe. -/
structure LockState where
  pendingLockClientId : UInt64 := 0
  pendingLockMessageId : UInt32 := 0
  currentState : PcState := .ONLINE
  tasks : ClientId → List ServiceAction := fun _ => []
  ipcTask : IpcTask := .idle
  toAgent : List Bytes := []
  toService : List Bytes := []

/-- The steps of the threads and of the agent. -/
inductive LockEvent where
  /-- A client thread takes up a LOCK_REQUEST. -/
  | frame (client : ClientId) (frame : LockFrame) (reg : Registry) (env : FrameEnv)
  /-- A client thread does its next act. `sent` is the result of a pipe write. -/
  | clientAct (client : ClientId) (sent : Bool)
  /-- The agent reads its next message. `sent` is the result of writing the answer. -/
  | agent (lockSuccess sent : Bool)
  /-- The agent reports a state. -/
  | agentReport (state : PcState)
  /-- The pipe thread reads the next message of the agent. -/
  | ipcReceive
  /-- The pipe thread does its next act. `sent` is the result of a pipe write. -/
  | ipcAct (sent : Bool)

/-- What can be observed of a step. -/
inductive LockObservation where
  | silent
  /-- A frame a client thread sent to its client. -/
  | replied (client : UInt64) (header : FrameHeader) (payload : Bytes)
  /-- A LOCK_REQUEST that reached the pipe to the agent. -/
  | forwarded (client : ClientId) (message : Bytes)
  /-- A command the agent processed, with the payload of its answer if it was written. -/
  | processed (message : Bytes) (answer : Option Bytes)
  /-- A LOCK_RESPONSE the pipe thread sent to a client. -/
  | relayed (client : UInt64) (header : FrameHeader) (payload : Bytes)
  deriving DecidableEq

/-- One act of a client thread. -/
def runAction (s : LockState) (client : ClientId) (sent : Bool) :
    ServiceAction → LockState × LockObservation
  | .sendFrame c header payload => (s, .replied c header payload)
  | .storePendingLockClientId c => ({ s with pendingLockClientId := c }, .silent)
  | .storePendingLockMessageId id => ({ s with pendingLockMessageId := id }, .silent)
  | .sendMessageToAgent message =>
    if sent then ({ s with toAgent := s.toAgent ++ [message] }, .forwarded client message)
    else (s, .silent)

/-- The agent at its next message. -/
def runAgent (s : LockState) (lockSuccess sent : Bool) (message : Bytes) :
    LockState × LockObservation :=
  match readAgentCommand message with
  | .lock header =>
    if sent then
      ({ s with toService := s.toService ++ [lockResponseMessage header lockSuccess] },
        .processed message (some (lockOutcome lockSuccess)))
    else (s, .processed message none)
  | .ping header =>
    ({ s with toService := if sent then s.toService ++ [pongMessage header] else s.toService },
      .silent)
  | .ignored => (s, .silent)

/-- One act of the pipe thread. -/
def runIpc (s : LockState) (sent : Bool) : LockState × LockObservation :=
  match s.ipcTask with
  | .idle => (s, .silent)
  | .pong message =>
    ({ s with
        ipcTask := .idle
        toAgent := if sent then s.toAgent ++ [message] else s.toAgent }, .silent)
  | .exchangeClient payload =>
    ({ s with pendingLockClientId := 0, ipcTask := .loadMessageId s.pendingLockClientId payload },
      .silent)
  | .loadMessageId client payload =>
    ({ s with ipcTask := .relay client s.pendingLockMessageId payload }, .silent)
  | .relay client messageId payload =>
    ({ s with ipcTask := .idle, currentState := .LOCKED },
      if client ≠ 0 then .relayed client (relayHeader messageId payload) payload else .silent)

/-- The service with its client threads, its pipe thread and the agent. An event whose
thread cannot take it does nothing. -/
def lockMachine : Machine LockState LockEvent LockObservation where
  step s
    | .frame client frame reg env =>
      match s.tasks client with
      | [] =>
        let acts := handleLockRequest reg client.val frame.header frame.payload env
        ({ s with tasks := Function.update s.tasks client acts }, .silent)
      | _ :: _ => (s, .silent)
    | .clientAct client sent =>
      match s.tasks client with
      | [] => (s, .silent)
      | act :: acts =>
        runAction { s with tasks := Function.update s.tasks client acts } client sent act
    | .agent lockSuccess sent =>
      match s.toAgent with
      | [] => (s, .silent)
      | message :: rest => runAgent { s with toAgent := rest } lockSuccess sent message
    | .agentReport state => ({ s with toService := s.toService ++ [statusMessage state] }, .silent)
    | .ipcReceive =>
      match s.ipcTask, s.toService with
      | .idle, message :: rest =>
        ({ s with toService := rest, ipcTask := handleIpcMessage message }, .silent)
      | _, _ => (s, .silent)
    | .ipcAct sent => runIpc s sent

end MobileUnlock.Service
