import MobileUnlock.Pairing.PairingManager

/-!
# `MobileUnlock.Network.MdnsResponder`: the discovery announcement

The model of the two payload functions of `windows/network/MdnsResponder.cpp`, and of a turn of
its listener. An announcement is written as a JSON text, and it is read back by a search for each
quoted key in the whole text. No character of a name is escaped.

The listener reads a datagram into 2048 bytes. A longer one is an error of `recvfrom`, and an empty
one is read as one, so both are passed over (`listenerLoop`). A query is answered with a frame to
its sender.
-/

set_option autoImplicit false

namespace MobileUnlock.Network

open MobileUnlock.Lib MobileUnlock.Protocol
open MobileUnlock.Pairing (afterFirst isSpace quote)

/-- An announcement. The state is the number of the enumeration, since the parser casts whatever
number it finds. -/
structure DiscoveryAnnouncement where
  hostName : Bytes := []
  port : UInt16 := DEFAULT_WIFI_PORT
  state : UInt32 := PcState.ONLINE.code
  serviceType : Bytes := MDNS_SERVICE_TYPE
  deriving DecidableEq, Repr

/-- The decimal text of a number, `operator<<`. -/
def numberText (n : Nat) : Bytes := ascii (toString n)

/-- The payload of an announcement. -/
def buildDiscoveryResponsePayload (ann : DiscoveryAnnouncement) : Bytes :=
  ascii "\x7b\"host\":\"" ++ ann.hostName ++ ascii "\"," ++
    (ascii "\"port\":" ++ numberText ann.port.toNat ++ ascii ",") ++
    (ascii "\"state\":" ++ numberText ann.state.toNat ++ ascii ",") ++
    (ascii "\"service\":\"" ++ ann.serviceType ++ ascii "\"\x7d")

/-! ### Reading -/

/-- A decimal digit. -/
def isDigit (c : UInt8) : Bool := 48 ≤ c && c ≤ 57

/-- The value of a text of decimal digits. -/
def digitsValue (digits : Bytes) : Nat := digits.foldl (fun n c => 10 * n + (c.toNat - 48)) 0

/-- `std::stoi`: white space, a sign, and the digits up to the first other character. `none` is
an exception. -/
def stoi (s : Bytes) : Option Int :=
  let s := s.dropWhile isSpace
  let negative := s.head? = some 45
  let s := if negative ∨ s.head? = some 43 then s.tail else s
  let digits := s.takeWhile isDigit
  if digits = [] then none
  else
    let n : Int := if negative then -(digitsValue digits : Int) else digitsValue digits
    if -2 ^ 31 ≤ n ∧ n < 2 ^ 31 then some n else none

/-- The lambda `extractString`: what stands between the quotes behind the key. -/
def extractString (str key : Bytes) : Bytes :=
  match afterFirst (ascii "\"" ++ key ++ ascii "\":\"") str with
  | none => []
  | some rest => if quote ∈ rest then rest.takeWhile (· ≠ quote) else []

/-- The characters `,` and `}`, which end a number. -/
def endsValue (c : UInt8) : Bool := c = 44 || c = 125

/-- The lambda `extractInt`: the number behind the key, or `-1`. -/
def extractInt (str key : Bytes) : Int :=
  match afterFirst (ascii "\"" ++ key ++ ascii "\":") str with
  | none => -1
  | some rest =>
    if rest.any endsValue then (stoi (rest.takeWhile fun c => !endsValue c)).getD (-1) else -1

/-- Reads an announcement into `outAnn`. -/
def parseDiscoveryResponsePayload (data : Bytes) (outAnn : DiscoveryAnnouncement) :
    Bool × DiscoveryAnnouncement :=
  if data.length = 0 ∨ data.length > MAX_PAYLOAD_SIZE then (false, outAnn)
  else
    let host := extractString data (ascii "host")
    let service := extractString data (ascii "service")
    let port := extractInt data (ascii "port")
    let state := extractInt data (ascii "state")
    if host = [] ∨ port ≤ 0 ∨ port > 65535 ∨ service = [] ∨ state < 0 then (false, outAnn)
    else
      (true,
        { hostName := host
          port := UInt16.ofNat port.toNat
          state := UInt32.ofNat state.toNat
          serviceType := service })

/-! ### Answering -/

/-- The responder while it runs. -/
structure MdnsResponder where
  hostName : Bytes
  tcpPort : UInt16
  state : PcState
  deriving DecidableEq

/-- A datagram is a query: a frame with the opcode DISCOVER, or a short text that names the
service. -/
def isValidQuery (datagram : Bytes) : Bool :=
  if datagram.length ≥ FRAME_HEADER_SIZE then
    match deserializeFrameHeader datagram with
    | some header => header.messageType == MessageType.DISCOVER.code
    | none => false
  else
    (afterFirst (ascii "_mobileunlock._tcp") datagram).isSome ||
      (afterFirst (ascii "DISCOVER") datagram).isSome

namespace MdnsResponder

/-- What the responder announces. -/
def announcement (r : MdnsResponder) : DiscoveryAnnouncement where
  hostName := r.hostName
  port := r.tcpPort
  state := r.state.code
  serviceType := MDNS_SERVICE_TYPE

/-- The frame that carries the announcement. -/
def responseFrame (r : MdnsResponder) : Bytes :=
  let payload := buildDiscoveryResponsePayload r.announcement
  serializeFrameHeader
    { magic := PROTOCOL_MAGIC
      majorVersion := PROTOCOL_MAJOR_VERSION
      minorVersion := PROTOCOL_MINOR_VERSION
      messageType := MessageType.DISCOVERY_RESPONSE.code
      messageID := 1
      payloadLength := UInt32.ofNat payload.length
      sequenceNumber := 1 } ++ payload

/-- One turn of `ListenerLoop` on a datagram: the answer to its sender, if there is one. -/
def listenerLoop (r : MdnsResponder) (datagram : Bytes) : Option Bytes :=
  if datagram.length = 0 ∨ datagram.length > 2048 then none
  else if isValidQuery datagram then some r.responseFrame
  else none

end MdnsResponder

end MobileUnlock.Network
