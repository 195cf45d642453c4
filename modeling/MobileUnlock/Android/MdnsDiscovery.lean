import MobileUnlock.Lib.DartConvert
import MobileUnlock.Lib.LinkedHashMap
import MobileUnlock.Lib.Machine

/-!
# `MobileUnlock.Android.MdnsDiscovery`: how a phone finds its PCs

The model of `flutter_app/lib/network/mdns_discovery.dart`. A search broadcasts a query, once more
after 1.5 seconds, and ends after a time. Every datagram that holds an announcement adds an endpoint
to `_discovered`, under the text of its address and port. A datagram that does not is passed over
without a word.

`startDiscovery` waits for its socket, so it is two steps, and `pendingBinds` counts the calls that
wait. The timers are not kept by the source and are never cancelled. `repeatTimers` and
`stopTimers` count those that have not fired, so one of an old search can fire into a new one.
Sending can fail, and the source does not look.
-/

set_option autoImplicit false

namespace MobileUnlock.Android

open MobileUnlock.Lib MobileUnlock.Lib.Dart

/-- A PC that has announced itself. `lastSeen` is a `DateTime`. -/
structure DiscoveredPcEndpoint where
  hostName : DartString
  ipAddress : DartString
  port : Int
  state : Int
  serviceType : DartString
  lastSeen : Int
  deriving DecidableEq

/-- An endpoint from a decoded JSON object. `now` is the clock. -/
def DiscoveredPcEndpoint.fromJson (json : List (DartString × Json)) (sourceIp : DartString)
    (now : Int) : Except DartError DiscoveredPcEndpoint := do
  let hostName ← (Json.index json (literal "host")).asNullableString
  let port ← (Json.index json (literal "port")).asNullableInt
  let state ← (Json.index json (literal "state")).asNullableInt
  let serviceType ← (Json.index json (literal "service")).asNullableString
  .ok
    { hostName := hostName.getD (literal "Unknown")
      ipAddress := sourceIp
      port := port.getD 8443
      state := state.getD 0
      serviceType := serviceType.getD (literal "_mobileunlock._tcp.local.")
      lastSeen := now }

/-- The endpoint in the payload of a datagram. -/
def decodeEndpoint (payload : Bytes) (sourceIp : DartString) (now : Int) :
    Except DartError DiscoveredPcEndpoint := do
  let payloadStr ← utf8Decode payload
  let jsonMap ← (← jsonDecode payloadStr).asMap
  DiscoveredPcEndpoint.fromJson jsonMap sourceIp now

/-- The endpoint of a datagram. `none` is a datagram that is passed over. -/
def readDatagram (bytes : Bytes) (sourceIp : DartString) (now : Int) :
    Option DiscoveredPcEndpoint :=
  if bytes.length < 24 then none
  else
    let magic := getUint16 bytes 0
    let majorVer := getUint8 bytes 2
    let msgType := getUint16 bytes 4
    let payloadLen := (getUint32 bytes 12).toNat
    if magic ≠ 0x4D55 ∨ majorVer ≠ 1 ∨ msgType ≠ 0x0002 then none
    else if bytes.length < 24 + payloadLen ∨ payloadLen = 0 ∨ payloadLen > 4096 then none
    else (decodeEndpoint (slice 24 payloadLen bytes) sourceIp now).toOption

/-- `'${endpoint.ipAddress}:${endpoint.port}'`. -/
def DiscoveredPcEndpoint.key (endpoint : DiscoveredPcEndpoint) : DartString :=
  endpoint.ipAddress ++ literal ":" ++ literal (toString endpoint.port)

/-- The bytes of a query. -/
def queryBytes : Except DartError Bytes := do
  let bd := List.replicate 24 0
  let bd ← setUint16 bd 0 0x4D55
  let bd ← setUint8 bd 2 1
  let bd ← setUint8 bd 3 0
  let bd ← setUint16 bd 4 0x0001
  let bd ← setUint16 bd 6 0
  let bd ← setUint32 bd 8 1
  let bd ← setUint32 bd 12 0
  setUint64 bd 16 1

structure MdnsDiscovery where
  isSearching : Bool := false
  /-- `_socket != null`. -/
  socketOpen : Bool := false
  discovered : LinkedHashMap DartString DiscoveredPcEndpoint := {}
  /-- The calls of `startDiscovery` that wait for a socket. -/
  pendingBinds : Nat := 0
  /-- The timers of 1.5 seconds that have not fired. -/
  repeatTimers : Nat := 0
  /-- The timers that end a search and have not fired. -/
  stopTimers : Nat := 0

/-- What comes out of a step: a query on the network, and an event of the stream. -/
structure DiscoveryOutput where
  query : Option Bytes := none
  endpoints : Option (List DiscoveredPcEndpoint) := none
  deriving DecidableEq

namespace MdnsDiscovery

def currentEndpoints (s : MdnsDiscovery) : List DiscoveredPcEndpoint := s.discovered.values

def stopDiscovery (s : MdnsDiscovery) : MdnsDiscovery :=
  { s with isSearching := false, socketOpen := false }

/-- `_broadcastQuery`: what goes out. -/
def broadcastQuery (s : MdnsDiscovery) : Option Bytes :=
  if s.socketOpen then queryBytes.toOption else none

/-- `startDiscovery` up to the socket. -/
def startDiscovery (s : MdnsDiscovery) : MdnsDiscovery × DiscoveryOutput :=
  if s.isSearching then (s, {})
  else
    ({ s with isSearching := true, discovered := {}, pendingBinds := s.pendingBinds + 1 },
      { endpoints := some [] })

/-- The rest of `startDiscovery`. Without a socket the search is over. -/
def socketBound (s : MdnsDiscovery) (bound : Bool) : MdnsDiscovery × DiscoveryOutput :=
  if ¬ bound then (s.stopDiscovery, {})
  else
    let s := { s with socketOpen := true }
    ({ s with repeatTimers := s.repeatTimers + 1, stopTimers := s.stopTimers + 1 },
      { query := s.broadcastQuery })

/-- `_handleDatagram`. -/
def handleDatagram (s : MdnsDiscovery) (bytes : Bytes) (sourceIp : DartString) (now : Int) :
    MdnsDiscovery × DiscoveryOutput :=
  match readDatagram bytes sourceIp now with
  | none => (s, {})
  | some endpoint =>
    let s := { s with discovered := s.discovered.set endpoint.key endpoint }
    (s, { endpoints := some s.currentEndpoints })

end MdnsDiscovery

/-- What reaches the discovery. -/
inductive DiscoveryEvent where
  | startDiscovery
  /-- A call of `startDiscovery` gets its socket, or an error. -/
  | socketBound (bound : Bool)
  | datagram (bytes : Bytes) (sourceIp : DartString) (now : Int)
  | repeatTimer
  | stopTimer
  | stopDiscovery

/-- The discovery. An event that nothing waits for does nothing. -/
def discoveryMachine : Machine MdnsDiscovery DiscoveryEvent DiscoveryOutput where
  step s
    | .startDiscovery => s.startDiscovery
    | .socketBound bound =>
      if s.pendingBinds = 0 then (s, {})
      else { s with pendingBinds := s.pendingBinds - 1 }.socketBound bound
    | .datagram bytes sourceIp now =>
      if s.socketOpen then s.handleDatagram bytes sourceIp now else (s, {})
    | .repeatTimer =>
      if s.repeatTimers = 0 then (s, {})
      else
        let s := { s with repeatTimers := s.repeatTimers - 1 }
        (s, { query := if s.isSearching then s.broadcastQuery else none })
    | .stopTimer =>
      if s.stopTimers = 0 then (s, {})
      else ({ s with stopTimers := s.stopTimers - 1 }.stopDiscovery, {})
    | .stopDiscovery => (s.stopDiscovery, {})

end MobileUnlock.Android
