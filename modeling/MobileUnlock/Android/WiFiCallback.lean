import MobileUnlock.Android.PairingService
import MobileUnlock.Android.WiFiConnection

/-!
# `MobileUnlock.Android.WiFiCallback`: the frame callback inside of the receive loop

`WiFiTransport` gives the frames of a chunk as an output. Here the callback runs where the source
calls it: in the middle of the loop of `_onDataReceived`. It may call the transport back and see
what it returns, so a callback is a `CallbackProg`. The `connect` of a callback is its start, since
the rest runs when the socket is there.

The callback cannot see the buffer and has no call that changes it, so the loop keeps the buffer by
itself and writes it back at its end. `callbackMachine` is the connection with a callback.
-/

set_option autoImplicit false

namespace MobileUnlock.Android

open MobileUnlock.Lib

/-- What a callback does: calls of the transport, each with what it returns, and the state of the
callback at its end. -/
inductive CallbackProg (σ : Type) where
  | done (s : σ)
  | getState (next : NetworkConnectionState → CallbackProg σ)
  | sendFrame (messageType : Int) (payload : Bytes) (next : Bool → CallbackProg σ)
  | connect (next : CallbackProg σ)
  | disconnect (next : CallbackProg σ)

/-- `onFrameReceived`, over the state of its owner. -/
abbrev FrameCallback (σ : Type) := σ → ReceivedProtocolFrame → CallbackProg σ

/-- What is observed of a connection, in the order of the calls. -/
inductive TransportNote where
  /-- `onFrameReceived` is called. -/
  | frameReceived (frame : ReceivedProtocolFrame)
  /-- `disconnect` is called. -/
  | disconnects
  /-- A `connect` has got its socket. -/
  | connected

section Callback
variable {σ : Type}

/-- The connection and the owner of the callback. -/
abbrev CallbackState (σ : Type) := WiFiConnection × σ

/-- Runs a callback. -/
def CallbackProg.run : CallbackProg σ → WiFiConnection → CallbackState σ × List TransportNote
  | .done s, c => ((c, s), [])
  | .getState next, c => (next c.transport.state).run c
  | .sendFrame messageType payload next, c =>
    let (c, packet) := c.sendFrame messageType payload
    (next packet.isSome).run c
  | .connect next, c => next.run c.connect
  | .disconnect next, c =>
    let (q, notes) := next.run c.disconnect
    (q, .disconnects :: notes)

variable (cb : FrameCallback σ)

/-- The loop `while (_incomingBuffer.length >= 24)` with the callback in it. -/
def receiveFrames (q : CallbackState σ) (incomingBuffer : Bytes) :
    CallbackState σ × Bytes × List TransportNote :=
  if _h : incomingBuffer.length < 24 then (q, incomingBuffer, [])
  else
    let headerBytes := incomingBuffer.take 24
    if malformedHeader headerBytes then ((q.1.disconnect, q.2), incomingBuffer, [.disconnects])
    else
      let payloadLen := (Dart.getUint32 headerBytes 12).toNat
      let totalMsgLen := 24 + payloadLen
      if incomingBuffer.length < totalMsgLen then (q, incomingBuffer, [])
      else
        let frame := receivedFrame headerBytes (slice 24 payloadLen incomingBuffer)
        let (q, notes) := (cb q.2 frame).run q.1
        let (q, rest, more) := receiveFrames q (incomingBuffer.drop totalMsgLen)
        (q, rest, .frameReceived frame :: (notes ++ more))
termination_by incomingBuffer.length
decreasing_by
  simp only [List.length_drop]
  omega

/-- Data of the socket. -/
def onDataReceived (q : CallbackState σ) (data : Bytes) : CallbackState σ × List TransportNote :=
  let c := { q.1 with inactivityTimer := true }
  let ((c, s), rest, notes) := receiveFrames cb (c, q.2) (q.1.transport.incomingBuffer ++ data)
  (({ c with transport := { c.transport with incomingBuffer := rest } }, s), notes)

/-- The connection with its callback. -/
def callbackMachine : Machine (CallbackState σ) ConnectionEvent (List TransportNote) where
  step q
    | .data data => if q.1.listeners = 0 then (q, []) else onDataReceived cb q data
    | .connected =>
      (((connectionMachine.step q.1 .connected).1, q.2),
        if q.1.pendingConnects = 0 then [] else [.connected])
    | .disconnect => ((q.1.disconnect, q.2), [.disconnects])
    | event => (((connectionMachine.step q.1 event).1, q.2), [])

end Callback

/-- The callback of the pairing service. `now` is the clock. -/
def pairingCallback (now : Int) : FrameCallback PairingService := fun s frame =>
  let (s, output) := s.onFrameReceived frame now
  if .disconnect ∈ output.calls then .disconnect (.done s) else .done s

end MobileUnlock.Android
