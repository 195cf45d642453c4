import MobileUnlock.Android.WiFiTransport
import MobileUnlock.Lib.Machine

/-!
# `MobileUnlock.Android.WiFiConnection`: connecting, losing the connection and reconnecting

The rest of `flutter_app/lib/network/wifi_transport.dart` and the two predicates of
`network_state.dart`: `connect`, the handlers of a lost connection and the three timers.

`connect` waits for a socket, so it is two steps: the call, which starts an attempt or refuses,
and the end of the attempt. Between them anything may happen, a second `connect` included.
`pendingConnects` counts the attempts that wait. A socket that was replaced or destroyed keeps its
listener, so errors and stream ends may come at any time after the first attempt that worked;
`listeners` counts the sockets that can still report one. A timer is modelled by whether it is
set, and the reconnect timer also by its seconds. The state stream and `dispose` are left out.
-/

set_option autoImplicit false

namespace MobileUnlock.Android

open MobileUnlock.Lib

def NetworkConnectionState.isTransitioning (s : NetworkConnectionState) : Bool :=
  s == .discovering || s == .tcpConnecting || s == .tlsHandshake || s == .reconnecting

/-- The transport with its timers and what it waits for. -/
structure WiFiConnection where
  transport : WiFiTransport := {}
  useTls : Bool := true
  heartbeatTimer : Bool := false
  inactivityTimer : Bool := false
  /-- The seconds the timer was set to, if it is set. -/
  reconnectTimer : Option Nat := none
  reconnectDelaySeconds : Nat := 1
  pendingConnects : Nat := 0
  listeners : Nat := 0
  deriving DecidableEq

namespace WiFiConnection

def setState (c : WiFiConnection) (newState : NetworkConnectionState) : WiFiConnection :=
  { c with transport := { c.transport with state := newState } }

def stopTimers (c : WiFiConnection) : WiFiConnection :=
  { c with heartbeatTimer := false, inactivityTimer := false, reconnectTimer := none }

/-- `_socket?.destroy()` and `_socket = null`. -/
def closeSocket (c : WiFiConnection) : WiFiConnection :=
  { c with transport := { c.transport with socketOpen := false } }

def scheduleReconnect (c : WiFiConnection) : WiFiConnection :=
  { c.setState .reconnecting with reconnectTimer := some c.reconnectDelaySeconds }

/-- What the two handlers of a lost connection share. They differ in the state in between. -/
def dropConnection (newState : NetworkConnectionState) (c : WiFiConnection) : WiFiConnection :=
  let c := c.stopTimers.closeSocket.setState newState
  if c.transport.shouldAutoReconnect then c.scheduleReconnect else c

def handleDisconnect : WiFiConnection → WiFiConnection := dropConnection .disconnected

def handleConnectionError : WiFiConnection → WiFiConnection := dropConnection .errorState

/-- Hangs up for good. -/
def disconnect (c : WiFiConnection) : WiFiConnection :=
  { c.stopTimers with transport := c.transport.disconnect }

/-- The test that makes `connect` return at once. -/
def refusesConnect (c : WiFiConnection) : Bool :=
  c.transport.state.isConnected || c.transport.state.isTransitioning

/-- `connect` up to the socket it waits for. -/
def connect (c : WiFiConnection) : WiFiConnection :=
  if c.refusesConnect then c
  else
    let transport := { c.transport with shouldAutoReconnect := true }
    let c := { c with transport := transport, pendingConnects := c.pendingConnects + 1 }
    let c := c.setState .tcpConnecting
    if c.useTls then c.setState .tlsHandshake else c

/-- The rest of `connect` when the socket is there. -/
def connected (c : WiFiConnection) : WiFiConnection :=
  { c with
      transport :=
        { c.transport with state := .activeSession, socketOpen := true, incomingBuffer := [] }
      heartbeatTimer := true
      inactivityTimer := true
      reconnectDelaySeconds := 1
      listeners := c.listeners + 1 }

/-- Data of the socket: the frames for the callback. -/
def onDataReceived (c : WiFiConnection) (data : Bytes) :
    WiFiConnection × List ReceivedProtocolFrame :=
  let disconnects := (receiveLoop (c.transport.incomingBuffer ++ data)).disconnects
  let (transport, frames) := c.transport.onDataReceived data
  let c := { c with inactivityTimer := true, transport := transport }
  (if disconnects then c.stopTimers else c, frames)

/-- Sends a frame: the packet on the socket if there is one. -/
def sendFrame (c : WiFiConnection) (messageType : Int) (payload : Bytes) :
    WiFiConnection × Option Bytes :=
  let (transport, packet) := c.transport.sendFrame messageType payload
  ({ c with transport := transport }, packet)

/-- The callback of the heartbeat timer. -/
def heartbeat (c : WiFiConnection) : WiFiConnection × Option Bytes :=
  if c.transport.state.isConnected then c.sendFrame 0x00E0 [] else (c, none)

/-- The callback of the inactivity timer. -/
def inactivityTimeout (c : WiFiConnection) : WiFiConnection :=
  let c := { c with inactivityTimer := false }
  if c.transport.state.isConnected then c.handleDisconnect else c

/-- The callback of the reconnect timer. -/
def reconnectTimeout (c : WiFiConnection) : WiFiConnection :=
  let delay := max 1 (min (c.reconnectDelaySeconds * 2) 16)
  connect { c with reconnectTimer := none, reconnectDelaySeconds := delay }

end WiFiConnection

/-- What can happen to a connection. -/
inductive ConnectionEvent where
  | connect
  /-- An attempt ends with a socket. -/
  | connected
  /-- An attempt ends without one. -/
  | connectFailed
  | data (data : Bytes)
  | socketError
  | socketDone
  | heartbeat
  | inactivityTimeout
  | reconnectTimeout
  | send (messageType : Int) (payload : Bytes)
  | disconnect

/-- What comes out of a step: frames for the callback, and a packet on the socket. -/
structure ConnectionOutput where
  frames : List ReceivedProtocolFrame := []
  packet : Option Bytes := none

/-- The connection. An event that nothing is there for does nothing: an attempt, a socket or a
timer. A socket that reported an error or its end reports nothing more. -/
def connectionMachine : Machine WiFiConnection ConnectionEvent ConnectionOutput where
  step c
    | .connect => (c.connect, {})
    | .connected =>
      if c.pendingConnects = 0 then (c, {})
      else ({ c with pendingConnects := c.pendingConnects - 1 }.connected, {})
    | .connectFailed =>
      if c.pendingConnects = 0 then (c, {})
      else ({ c with pendingConnects := c.pendingConnects - 1 }.handleConnectionError, {})
    | .data data =>
      if c.listeners = 0 then (c, {})
      else
        let (c, frames) := c.onDataReceived data
        (c, { frames := frames })
    | .socketError =>
      if c.listeners = 0 then (c, {})
      else ({ c with listeners := c.listeners - 1 }.handleConnectionError, {})
    | .socketDone =>
      if c.listeners = 0 then (c, {})
      else ({ c with listeners := c.listeners - 1 }.handleDisconnect, {})
    | .heartbeat =>
      if c.heartbeatTimer then
        let (c, packet) := c.heartbeat
        (c, { packet := packet })
      else (c, {})
    | .inactivityTimeout => (if c.inactivityTimer then c.inactivityTimeout else c, {})
    | .reconnectTimeout => (if c.reconnectTimer.isSome then c.reconnectTimeout else c, {})
    | .send messageType payload =>
      let (c, packet) := c.sendFrame messageType payload
      (c, { packet := packet })
    | .disconnect => (c.disconnect, {})

end MobileUnlock.Android
