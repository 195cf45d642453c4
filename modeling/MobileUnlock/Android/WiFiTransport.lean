import MobileUnlock.Lib.Dart

/-!
# `MobileUnlock.Android.WiFiTransport`: the phone's end of the connection

The model of `flutter_app/lib/network/wifi_transport.dart`: reassembly of frames from what the
socket delivers (`onDataReceived`), and the packets it sends (`sendFrame`). Connecting and the
timers are in `WiFiConnection`. The callback is an output: the frames it is called with, in order.
-/

set_option autoImplicit false

namespace MobileUnlock.Android

open MobileUnlock.Lib MobileUnlock.Lib.Dart

/-- The states of a connection. -/
inductive NetworkConnectionState where
  | disconnected
  | discovering
  | tcpConnecting
  | tlsHandshake
  | activeSession
  | authenticating
  | reconnecting
  | errorState
  deriving DecidableEq, Repr

def NetworkConnectionState.isConnected (s : NetworkConnectionState) : Bool := s == .activeSession

/-- What the callback gets. `sequenceNumber` is of type `BigInt`. -/
structure ReceivedProtocolFrame where
  magic : Int
  majorVersion : Int
  minorVersion : Int
  messageType : Int
  messageId : Int
  payloadLength : Int
  sequenceNumber : Int
  payload : Bytes
  deriving DecidableEq

/-- The transport. `socketOpen` is `_socket != null`. `sequenceNumber` is a `BigInt` that starts at
one and is only ever incremented, so a natural number. -/
structure WiFiTransport where
  state : NetworkConnectionState := .disconnected
  socketOpen : Bool := false
  incomingBuffer : Bytes := []
  shouldAutoReconnect : Bool := true
  messageIdCounter : Int := 1
  sequenceNumber : Nat := 1
  deriving DecidableEq

/-! ### Receiving -/

/-- The test that makes the phone hang up. -/
def malformedHeader (headerBytes : Bytes) : Bool :=
  getUint16 headerBytes 0 ≠ 0x4D55 || getUint8 headerBytes 2 ≠ 1 || getUint32 headerBytes 12 > 4096

/-- The frame of a header and its payload. -/
def receivedFrame (headerBytes payload : Bytes) : ReceivedProtocolFrame where
  magic := getUint16 headerBytes 0
  majorVersion := getUint8 headerBytes 2
  minorVersion := getUint8 headerBytes 3
  messageType := getUint16 headerBytes 4
  messageId := getUint32 headerBytes 8
  payloadLength := getUint32 headerBytes 12
  sequenceNumber := getUint64 headerBytes 16
  payload := payload

/-- What the loop over the buffer leaves: the frames for the callback, the buffer, and whether the
phone hangs up. -/
structure ReceiveResult where
  frames : List ReceivedProtocolFrame
  incomingBuffer : Bytes
  disconnects : Bool
  deriving DecidableEq

/-- The loop `while (_incomingBuffer.length >= 24)`. -/
def receiveLoop (incomingBuffer : Bytes) : ReceiveResult :=
  if _h : incomingBuffer.length < 24 then ⟨[], incomingBuffer, false⟩
  else
    let headerBytes := incomingBuffer.take 24
    if malformedHeader headerBytes then ⟨[], incomingBuffer, true⟩
    else
      let payloadLen := (getUint32 headerBytes 12).toNat
      let totalMsgLen := 24 + payloadLen
      if incomingBuffer.length < totalMsgLen then ⟨[], incomingBuffer, false⟩
      else
        let frame := receivedFrame headerBytes (slice 24 payloadLen incomingBuffer)
        let r := receiveLoop (incomingBuffer.drop totalMsgLen)
        ⟨frame :: r.frames, r.incomingBuffer, r.disconnects⟩
termination_by incomingBuffer.length
decreasing_by
  simp only [List.length_drop]
  omega

namespace WiFiTransport

/-- Hangs up for good. -/
def disconnect (t : WiFiTransport) : WiFiTransport :=
  { t with state := .disconnected, socketOpen := false, shouldAutoReconnect := false }

/-- One event of the socket. -/
def onDataReceived (t : WiFiTransport) (data : Bytes) :
    WiFiTransport × List ReceivedProtocolFrame :=
  let r := receiveLoop (t.incomingBuffer ++ data)
  let t := { t with incomingBuffer := r.incomingBuffer }
  (if r.disconnects then t.disconnect else t, r.frames)

/-- The events of the socket one after the other. -/
def onDataAll (t : WiFiTransport) : List Bytes → WiFiTransport × List ReceivedProtocolFrame
  | [] => (t, [])
  | data :: rest =>
    let (t, frames) := t.onDataReceived data
    let (t, more) := t.onDataAll rest
    (t, frames ++ more)

/-! ### Sending -/

/-- The 24 bytes of a header. -/
def packetHeader (t : WiFiTransport) (messageType : Int) (payload : Bytes) :
    Except DartError Bytes := do
  let bd := List.replicate 24 0
  let bd ← setUint16 bd 0 0x4D55
  let bd ← setUint8 bd 2 1
  let bd ← setUint8 bd 3 0
  let bd ← setUint16 bd 4 messageType
  let bd ← setUint16 bd 6 0
  let bd ← setUint32 bd 8 t.messageIdCounter
  let bd ← setUint32 bd 12 payload.length
  setUint64 bd 16 (bigIntToInt t.sequenceNumber)

/-- Sends a frame: the transport afterwards, and the packet on the socket if there is one. The
result of the source is whether there is one. No setter throws, because the offsets are inside of
the 24 bytes. -/
def sendFrame (t : WiFiTransport) (messageType : Int) (payload : Bytes) :
    WiFiTransport × Option Bytes :=
  if ¬ t.socketOpen ∨ ¬ t.state.isConnected then (t, none)
  else if payload.length > 4096 then (t, none)
  else match t.packetHeader messageType payload with
    | .error _ => (t, none)
    | .ok headerBytes =>
      ({ t with
          messageIdCounter := wrapInt (t.messageIdCounter + 1)
          sequenceNumber := t.sequenceNumber + 1 }, some (headerBytes ++ payload))

end WiFiTransport

end MobileUnlock.Android
