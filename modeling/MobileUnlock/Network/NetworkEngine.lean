import MobileUnlock.Protocol.Types

/-!
# `MobileUnlock.Network.NetworkEngine`: one client connection

The model of `NetworkEngine::ClientWorkerLoop`. A worker thread reads from its socket and
hands complete frames to the callback. The first byte of a connection decides between TLS
and plaintext. `workerStep` is one turn of the outer loop on the answer of one `recv`, and
`frameLoop` is the inner loop over the receive buffer.

Schannel stands behind `TlsContext`, which is a parameter here: a context type with its
three operations.
-/

set_option autoImplicit false

namespace MobileUnlock.Network

open MobileUnlock.Lib MobileUnlock.Protocol

/-- The states of a connection. -/
inductive ConnectionState where
  | DISCONNECTED
  | TCP_CONNECTING
  | TLS_HANDSHAKE
  | ACTIVE_SESSION
  | RECONNECTING
  | ERROR_STATE
  deriving DecidableEq, Repr

/-- The outcome of a TLS operation. -/
inductive TlsStatus where
  | SUCCESS
  | CONTINUE_NEEDED
  | INCOMPLETE_DATA
  | HANDSHAKE_FAILED
  | PROTOCOL_VERSION_REJECTED
  | CLOSED
  | ERROR_GENERAL
  deriving DecidableEq, Repr

/-- The TLS implementation: contexts and their operations. -/
structure TlsContext (τ : Type) where
  isHandshakeComplete : τ → Bool
  /-- The context, the status and the bytes to send. -/
  acceptHandshake : τ → Bytes → τ × TlsStatus × Bytes
  /-- The context, the status and the plaintext. -/
  decryptPayload : τ → Bytes → τ × TlsStatus × Bytes

/-- A client connection. `socketOpen` is `Socket != INVALID_SOCKET`. -/
structure ClientSession (τ : Type) where
  clientId : UInt64
  socketOpen : Bool := true
  state : ConnectionState := .TCP_CONNECTING
  lastActiveTimestampMs : UInt32 := 0
  tls : τ
  receiveBuffer : Bytes := []

/-- The answer of one `recv`. -/
inductive RecvResult where
  | data (bytes : Bytes)
  | timedOut
  | closed

/-- What the worker does to the outside: callbacks and raw sends. -/
inductive NetworkOutput where
  | frameReceived (clientId : UInt64) (header : FrameHeader) (payload : Bytes)
  | rawSend (bytes : Bytes)
  deriving DecidableEq

/-- What the inner loop leaves: the frames delivered, the receive buffer, and whether the
socket is still valid. -/
structure FrameLoopResult where
  frames : List (FrameHeader × Bytes)
  receiveBuffer : Bytes
  socketOpen : Bool
  deriving DecidableEq

/-- The inner loop `while (frameLen >= FRAME_HEADER_SIZE)`. Every turn that goes on takes
at least a header off the buffer. -/
def frameLoop (receiveBuffer : Bytes) : FrameLoopResult :=
  if _h : receiveBuffer.length < FRAME_HEADER_SIZE then ⟨[], receiveBuffer, true⟩
  else match deserializeFrameHeader receiveBuffer with
    | none => ⟨[], receiveBuffer, false⟩
    | some header =>
      if header.payloadLength.toNat > MAX_PAYLOAD_SIZE then ⟨[], receiveBuffer, false⟩
      else
        let totalMessageLen := FRAME_HEADER_SIZE + header.payloadLength.toNat
        if receiveBuffer.length < totalMessageLen then ⟨[], receiveBuffer, true⟩
        else
          let payload := slice FRAME_HEADER_SIZE header.payloadLength.toNat receiveBuffer
          let r := frameLoop (receiveBuffer.drop totalMessageLen)
          ⟨(header, payload) :: r.frames, r.receiveBuffer, r.socketOpen⟩
termination_by receiveBuffer.length
decreasing_by
  simp only [List.length_drop, FRAME_HEADER_SIZE] at *
  omega

section Worker
variable {τ : Type} (tls : TlsContext τ)

/-- The protocol detection on the first byte of the data, while the connection is new. -/
def detectProtocol (state : ConnectionState) (rawBuffer : Bytes) : ConnectionState :=
  if state = .TCP_CONNECTING then
    if rawBuffer.getD 0 0 = 0x16 then .TLS_HANDSHAKE
    else if rawBuffer.getD 0 0 = 0x4D then .ACTIVE_SESSION
    else state
  else state

/-- What data in the active state adds to the receive buffer: the data itself, or what TLS
makes of it. -/
def receiveData (session : ClientSession τ) (rawBuffer : Bytes) : ClientSession τ :=
  if tls.isHandshakeComplete session.tls then
    let (ctx, decStatus, plainData) := tls.decryptPayload session.tls rawBuffer
    let session := { session with tls := ctx }
    if decStatus = .SUCCESS ∧ plainData ≠ [] then
      { session with receiveBuffer := session.receiveBuffer ++ plainData }
    else session
  else { session with receiveBuffer := session.receiveBuffer ++ rawBuffer }

/-- One turn of the outer loop at clock reading `now`. A `break` is the cleanup behind the
loop: the session is `DISCONNECTED` and its socket is closed. -/
def workerStep (session : ClientSession τ) (now : UInt32) (r : RecvResult) :
    ClientSession τ × List NetworkOutput :=
  let disconnected (s : ClientSession τ) : ClientSession τ :=
    { s with state := .DISCONNECTED, socketOpen := false }
  if ¬ session.socketOpen then (disconnected session, [])
  else match r with
    | .closed => (disconnected session, [])
    | .timedOut =>
      if now - session.lastActiveTimestampMs > 30000 then (disconnected session, [])
      else (session, [])
    | .data rawBuffer =>
      let session := { session with
        lastActiveTimestampMs := now
        state := detectProtocol session.state rawBuffer }
      if session.state = .TLS_HANDSHAKE then
        let (ctx, status, outTls) := tls.acceptHandshake session.tls rawBuffer
        let session := { session with tls := ctx }
        let sends := if outTls = [] then [] else [NetworkOutput.rawSend outTls]
        match status with
        | .SUCCESS => ({ session with state := .ACTIVE_SESSION }, sends)
        | .CONTINUE_NEEDED | .INCOMPLETE_DATA => (session, sends)
        | _ => (disconnected session, sends)
      else if session.state = .ACTIVE_SESSION then
        let session := receiveData tls session rawBuffer
        let r := frameLoop session.receiveBuffer
        let session := { session with
          receiveBuffer := r.receiveBuffer
          socketOpen := r.socketOpen }
        let calls := r.frames.map fun f => NetworkOutput.frameReceived session.clientId f.1 f.2
        if r.socketOpen then (session, calls) else (disconnected session, calls)
      else (session, [])

/-- The worker over a sequence of `recv` answers with the clock readings after them. -/
def clientWorkerLoop (session : ClientSession τ) :
    List (UInt32 × RecvResult) → ClientSession τ × List NetworkOutput
  | [] => (session, [])
  | (now, r) :: rs =>
    let (session, out) := workerStep tls session now r
    let (session, outs) := clientWorkerLoop session rs
    (session, out ++ outs)

end Worker

end MobileUnlock.Network
