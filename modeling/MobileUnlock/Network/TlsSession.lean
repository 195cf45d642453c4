import MobileUnlock.Lib.Machine
import MobileUnlock.Network.TlsContext

/-!
# `MobileUnlock.Network.TlsSession`: a connection with its handshake and its senders

The model of `InitializeServerCredentials`, `AcceptHandshake` and `EncryptPayload` of
`windows/network/TlsContext.cpp`, and of `SendFrame` and `BroadcastFrame` of
`windows/network/NetworkEngine.cpp` on one connection. The calls of Schannel are an argument. `κ` is
whatever Schannel keeps, so it may answer one call in many ways.

`sessionMachine` interleaves the worker of the connection with the threads that send. A sender gets
the id of the client from the frame callback. `delivered` says that the callback has been called,
which the code does not keep. The callback runs inside a turn of the worker, and what it sends is a
step of its own after the turn. A broadcast collects the active sessions first and sends to them
afterwards, and `broadcasts` has the frames between the two.

The certificate, the rest of the credentials and `Reset`, which only the destructor calls, are left
out.
-/

set_option autoImplicit false

namespace MobileUnlock.Network

open MobileUnlock.Lib MobileUnlock.Protocol

/-! ### `TlsContext` -/

/-- The protocol numbers of the source. -/
def SP_PROT_TLS1_3 : UInt32 := 0x00002000
def SP_PROT_TLS1_2 : UInt32 := 0x00000800

/-- The codes of Schannel that only the handshake tells apart. -/
def SEC_I_CONTINUE_NEEDED : UInt32 := 0x00090312
def SEC_I_COMPLETE_NEEDED : UInt32 := 0x00090313
def SEC_I_COMPLETE_AND_CONTINUE : UInt32 := 0x00090314
def SEC_E_UNSUPPORTED_PRE_SHAREDKEY : UInt32 := 0x8009034E
def SEC_E_ALGORITHM_MISMATCH : UInt32 := 0x80090331

structure TlsConfig where
  enableTls13 : Bool := true
  enableTls12 : Bool := false
  deriving DecidableEq, Repr

/-- `SecPkgContext_StreamSizes`. -/
structure StreamSizes where
  cbHeader : Nat := 0
  cbTrailer : Nat := 0
  deriving DecidableEq, Repr

/-- Schannel on the side of the server. -/
structure SchannelServer (κ : Type) extends Schannel κ where
  /-- `AcquireCredentialsHandleW`, by the enabled protocols and whether it is inbound. -/
  acquireCredentials : κ → UInt32 → Bool → κ × SecurityStatus
  /-- `AcceptSecurityContext`, by whether there is a context, and the token of the client: the
  status, the buffers of the input, and the token for the client. -/
  acceptSecurityContext : κ → Bool → Bytes → κ × SecurityStatus × List SecBuffer × Bytes
  /-- `SECPKG_ATTR_CONNECTION_INFO`: the protocol, unless the query fails. -/
  connectionInfo : κ → Option UInt32
  /-- `SECPKG_ATTR_STREAM_SIZES`. -/
  streamSizes : κ → Option StreamSizes
  /-- `EncryptMessage`: the status, and the contents of the header, the data and the trailer. -/
  encryptMessage : κ → StreamSizes → Bytes → κ × SecurityStatus × Bytes

/-- The members of a `TlsContext`. -/
structure ServerContext (κ : Type) extends SchannelContext κ where
  config : TlsConfig := {}
  credsInitialized : Bool := false
  contextInitialized : Bool := false
  streamSizes : StreamSizes := {}

section
variable {κ : Type} (schannel : SchannelServer κ)

def TlsConfig.enabledProtocols (config : TlsConfig) : UInt32 :=
  (if config.enableTls13 then SP_PROT_TLS1_3 else 0) |||
    (if config.enableTls12 then SP_PROT_TLS1_2 else 0)

/-- Three attempts: with the enabled protocols, with those of the system, and outbound. -/
def initializeServerCredentials (context : ServerContext κ) : ServerContext κ × Bool :=
  if context.credsInitialized then (context, true)
  else
    let attempt := schannel.acquireCredentials
    let (k, status) := attempt context.hContext context.config.enabledProtocols true
    let (k, status) := if status ≠ .SEC_E_OK then attempt k 0 true else (k, status)
    let (k, status) := if status ≠ .SEC_E_OK then attempt k 0 false else (k, status)
    ({ context with hContext := k, credsInitialized := status = .SEC_E_OK }, status = .SEC_E_OK)

/-- The protocol policy, on a context whose handshake Schannel has finished. A query that fails
refuses nothing. -/
def protocolRejected (context : ServerContext κ) : Bool :=
  match schannel.connectionInfo context.hContext with
  | some dwProtocol => !context.config.enableTls12 && dwProtocol < SP_PROT_TLS1_3
  | none => false

/-- What `AcceptHandshake` gives back. -/
structure HandshakeResult (κ : Type) where
  context : ServerContext κ
  status : TlsStatus
  outData : Bytes
  bytesConsumed : Nat

def acceptHandshake (context : ServerContext κ) (inData : Bytes) : HandshakeResult κ :=
  let (context, initialized) := initializeServerCredentials schannel context
  if ¬ initialized then
    { context, status := .ERROR_GENERAL, outData := [], bytesConsumed := 0 }
  else
    let (k, status, inBuffers, outData) :=
      schannel.acceptSecurityContext context.hContext context.contextInitialized inData
    let bytesConsumed :=
      match inBuffers[1]? with
      | some b =>
        if b.bufferType = .SECBUFFER_EXTRA then inData.length - b.cbBuffer else inData.length
      | none => inData.length
    let context := { context with hContext := k, contextInitialized := true }
    match status with
    | .SEC_E_OK =>
      if protocolRejected schannel context then
        { context, status := .PROTOCOL_VERSION_REJECTED, outData, bytesConsumed }
      else
        let context :=
          { context with
              handshakeComplete := true
              streamSizes := (schannel.streamSizes context.hContext).getD context.streamSizes }
        { context, status := .SUCCESS, outData, bytesConsumed }
    | .SEC_E_INCOMPLETE_MESSAGE => { context, status := .INCOMPLETE_DATA, outData, bytesConsumed }
    | .SEC_I_CONTEXT_EXPIRED => { context, status := .HANDSHAKE_FAILED, outData, bytesConsumed }
    | .other code =>
      if code = SEC_I_CONTINUE_NEEDED ∨ code = SEC_I_COMPLETE_NEEDED ∨
          code = SEC_I_COMPLETE_AND_CONTINUE then
        { context, status := .CONTINUE_NEEDED, outData, bytesConsumed }
      else if code = SEC_E_UNSUPPORTED_PRE_SHAREDKEY ∨ code = SEC_E_ALGORITHM_MISMATCH then
        { context, status := .PROTOCOL_VERSION_REJECTED, outData, bytesConsumed }
      else { context, status := .HANDSHAKE_FAILED, outData, bytesConsumed }

/-- Encrypts application data: the context, the status and the record. -/
def encryptPayload (context : ServerContext κ) (plainData : Bytes) :
    ServerContext κ × TlsStatus × Bytes :=
  if ¬ context.handshakeComplete then (context, .ERROR_GENERAL, [])
  else
    let streamSizes :=
      if context.streamSizes.cbHeader = 0 then
        (schannel.streamSizes context.hContext).getD context.streamSizes
      else context.streamSizes
    let (k, status, encryptedData) :=
      schannel.encryptMessage context.hContext streamSizes plainData
    let context := { context with hContext := k, streamSizes := streamSizes }
    if status = .SEC_E_OK then (context, .SUCCESS, encryptedData)
    else (context, .ERROR_GENERAL, [])

/-- The implementation that the worker calls. -/
def serverTls : TlsContext (ServerContext κ) where
  isHandshakeComplete context := context.handshakeComplete
  acceptHandshake context inData :=
    let r := acceptHandshake schannel context inData
    (r.context, r.status, r.outData)
  decryptPayload context encryptedData :=
    let r := decryptPayload schannel.toSchannel context.toSchannelContext encryptedData
    ({ context with toSchannelContext := r.context }, r.status, r.plainData)

/-! ### The connection -/

abbrev ServerSession (κ : Type) := ClientSession (ServerContext κ)

/-- What goes to the callback and to the socket. -/
inductive SessionOutput where
  | frameReceived (header : FrameHeader) (payload : Bytes)
  /-- A token of the handshake. -/
  | token (bytes : Bytes)
  /-- A frame in a TLS record. -/
  | record (bytes : Bytes)
  /-- A frame as it is. -/
  | plain (bytes : Bytes)
  deriving DecidableEq

/-- The kinds of these. -/
inductive OutputKind where
  | frame
  | token
  | record
  | plain
  deriving DecidableEq, Repr

def SessionOutput.kind : SessionOutput → OutputKind
  | .frameReceived _ _ => .frame
  | .token _ => .token
  | .record _ => .record
  | .plain _ => .plain

/-- What the worker does, seen from its connection. -/
def SessionOutput.ofNetwork : NetworkOutput → SessionOutput
  | .frameReceived _ header payload => .frameReceived header payload
  | .rawSend bytes => .token bytes

/-- `SendFrame` on a session that was found. -/
def sendFrame (session : ServerSession κ) (header : FrameHeader) (payload : Bytes) :
    ServerSession κ × List SessionOutput :=
  if ¬ session.socketOpen then (session, [])
  else
    let fullFrame := serializeFrameHeader header ++ payload
    if session.tls.handshakeComplete then
      let (context, status, encrypted) := encryptPayload schannel session.tls fullFrame
      let session := { session with tls := context }
      if status = .SUCCESS then (session, [.record encrypted]) else (session, [])
    else (session, [.plain fullFrame])

/-- A connection, and what the engine is about to do with it. -/
structure TlsSession (κ : Type) where
  session : ServerSession κ
  delivered : Bool := false
  broadcasts : List (FrameHeader × Bytes) := []

/-- The steps of the threads on a connection. -/
inductive SessionEvent where
  /-- A turn of the worker. -/
  | recv (now : UInt32) (r : RecvResult)
  /-- `SendFrame` finds the session. -/
  | sendFrame (header : FrameHeader) (payload : Bytes)
  /-- `BroadcastFrame` collects the session, if it is active. -/
  | broadcastCollects (header : FrameHeader) (payload : Bytes)
  /-- `BroadcastFrame` sends to the session. -/
  | broadcastSends (index : Nat)
  /-- `CleanupStaleSessions` or `Stop` closes the socket. -/
  | socketClosed

/-- The connection. -/
def sessionMachine : Machine (TlsSession κ) SessionEvent (List SessionOutput) where
  step s
    | .recv now r =>
      let (session, outputs) := workerStep (serverTls schannel) s.session now r
      let outputs := outputs.map SessionOutput.ofNetwork
      let delivers := outputs.any fun output => output.kind = .frame
      ({ s with session := session, delivered := s.delivered || delivers }, outputs)
    | .sendFrame header payload =>
      let (session, outputs) := sendFrame schannel s.session header payload
      ({ s with session := session }, outputs)
    | .broadcastCollects header payload =>
      if s.session.state = .ACTIVE_SESSION then
        ({ s with broadcasts := s.broadcasts ++ [(header, payload)] }, [])
      else (s, [])
    | .broadcastSends index =>
      match s.broadcasts[index]? with
      | none => (s, [])
      | some (header, payload) =>
        let (session, outputs) := sendFrame schannel s.session header payload
        ({ s with session := session, broadcasts := s.broadcasts.eraseIdx index }, outputs)
    | .socketClosed => ({ s with session := { s.session with socketOpen := false } }, [])

end

end MobileUnlock.Network
