import MobileUnlock.Lib.Bytes

/-!
# `MobileUnlock.Protocol.Types`: opcodes and the frame header

The model of `shared/protocol/ProtocolTypes.h`. A frame is a 24-byte header followed by its
payload. `serializeFrameHeader` swaps every integer field to network order and copies the
packed struct out. The packed struct of the little-endian Windows host is
`FrameHeader.layout`, and `FrameHeader.ofLayout` is the `memcpy` in the other direction.
`deserializeFrameHeader` then accepts a header by magic, major version, payload bound and
opcode, and looks at no other field.

The ports and the service type are constants of `shared/constants/BleConstants.h`.
-/

set_option autoImplicit false

namespace MobileUnlock.Protocol

open MobileUnlock.Lib

def PROTOCOL_MAGIC : UInt16 := 0x4D55
def PROTOCOL_MAJOR_VERSION : UInt8 := 1
def PROTOCOL_MINOR_VERSION : UInt8 := 0
def MAX_PAYLOAD_SIZE : Nat := 4096
def FRAME_HEADER_SIZE : Nat := 24
def CANONICAL_SIGNED_MESSAGE_SIZE : Nat := 88

def DEFAULT_WIFI_PORT : UInt16 := 8443
def DEFAULT_MDNS_PORT : UInt16 := 8444
def MDNS_SERVICE_TYPE : Bytes := ascii "_mobileunlock._tcp.local."

/-- The opcode enumeration. -/
inductive MessageType where
  | UNKNOWN
  | DISCOVER
  | DISCOVERY_RESPONSE
  | PAIR_REQUEST
  | PAIR_RESPONSE
  | PAIR_CONFIRM
  | PAIR_COMPLETE
  | AUTH_REQUEST
  | AUTH_CHALLENGE
  | AUTH_RESPONSE
  | AUTH_SUCCESS
  | AUTH_FAILURE
  | LOCK_REQUEST
  | LOCK_RESPONSE
  | STATUS_REQUEST
  | STATUS_RESPONSE
  | UNPAIR_REQUEST
  | UNPAIR_RESPONSE
  | PING
  | PONG
  | PROTO_ERROR
  deriving DecidableEq, Repr

/-- The opcode on the wire, `static_cast<uint16_t>`. -/
def MessageType.code : MessageType → UInt16
  | UNKNOWN => 0x0000
  | DISCOVER => 0x0001
  | DISCOVERY_RESPONSE => 0x0002
  | PAIR_REQUEST => 0x0010
  | PAIR_RESPONSE => 0x0011
  | PAIR_CONFIRM => 0x0012
  | PAIR_COMPLETE => 0x0013
  | AUTH_REQUEST => 0x0020
  | AUTH_CHALLENGE => 0x0021
  | AUTH_RESPONSE => 0x0022
  | AUTH_SUCCESS => 0x0023
  | AUTH_FAILURE => 0x0024
  | LOCK_REQUEST => 0x0030
  | LOCK_RESPONSE => 0x0031
  | STATUS_REQUEST => 0x0040
  | STATUS_RESPONSE => 0x0041
  | UNPAIR_REQUEST => 0x0050
  | UNPAIR_RESPONSE => 0x0051
  | PING => 0x00E0
  | PONG => 0x00E1
  | PROTO_ERROR => 0x00FF

/-- The cases of the `switch` in `IsValidMessageType`: every opcode except `UNKNOWN`. -/
def knownMessageTypes : List MessageType :=
  [.DISCOVER, .DISCOVERY_RESPONSE, .PAIR_REQUEST, .PAIR_RESPONSE, .PAIR_CONFIRM,
   .PAIR_COMPLETE, .AUTH_REQUEST, .AUTH_CHALLENGE, .AUTH_RESPONSE, .AUTH_SUCCESS,
   .AUTH_FAILURE, .LOCK_REQUEST, .LOCK_RESPONSE, .STATUS_REQUEST, .STATUS_RESPONSE,
   .UNPAIR_REQUEST, .UNPAIR_RESPONSE, .PING, .PONG, .PROTO_ERROR]

/-- Whether an opcode is one of the known message types. -/
def isValidMessageType (opcode : UInt16) : Bool :=
  knownMessageTypes.any fun t => t.code == opcode

/-- The state of the PC as the service reports it. -/
inductive PcState where
  | UNKNOWN
  | OFFLINE
  | ONLINE
  | LOCKED
  | UNLOCKED
  | SUSPENDED
  | SLEEPING
  | PAIRING
  | AUTHENTICATING
  | PROTO_ERROR
  deriving DecidableEq, Repr

/-- The number of a state, `static_cast<uint32_t>`. -/
def PcState.code : PcState → UInt32
  | UNKNOWN => 0
  | OFFLINE => 1
  | ONLINE => 2
  | LOCKED => 3
  | UNLOCKED => 4
  | SUSPENDED => 5
  | SLEEPING => 6
  | PAIRING => 7
  | AUTHENTICATING => 8
  | PROTO_ERROR => 9

/-- The error codes that the modelled handlers put into `PROTO_ERROR` payloads. -/
inductive ErrorCode where
  | MALFORMED_HEADER
  | UNAUTHORIZED
  | RATE_LIMITED
  | INTERNAL_ERROR
  deriving DecidableEq, Repr

/-- The number of an error code, `static_cast<uint32_t>`. -/
def ErrorCode.code : ErrorCode → Nat
  | MALFORMED_HEADER => 5
  | UNAUTHORIZED => 6
  | RATE_LIMITED => 10
  | INTERNAL_ERROR => 99

/-- The 24-byte frame header. The defaults are those of the source's constructor. -/
structure FrameHeader where
  magic : UInt16 := PROTOCOL_MAGIC
  majorVersion : UInt8 := PROTOCOL_MAJOR_VERSION
  minorVersion : UInt8 := PROTOCOL_MINOR_VERSION
  messageType : UInt16 := 0
  reserved : UInt16 := 0
  messageID : UInt32 := 0
  payloadLength : UInt32 := 0
  sequenceNumber : UInt64 := 0
  deriving DecidableEq, Repr

/-! ### Network byte order

The swaps are their own inverses, and `NetworkToHost` is the same function as
`HostToNetwork` in the source. -/

def hostToNetwork16 (val : UInt16) : UInt16 := UInt16.ofNat (byteSwap 2 val.toNat)
def hostToNetwork32 (val : UInt32) : UInt32 := UInt32.ofNat (byteSwap 4 val.toNat)
def hostToNetwork64 (val : UInt64) : UInt64 := UInt64.ofNat (byteSwap 8 val.toNat)
def networkToHost16 (val : UInt16) : UInt16 := hostToNetwork16 val
def networkToHost32 (val : UInt32) : UInt32 := hostToNetwork32 val
def networkToHost64 (val : UInt64) : UInt64 := hostToNetwork64 val

/-! ### The packed struct in memory -/

/-- The bytes of the packed struct on the little-endian host. -/
def FrameHeader.layout (h : FrameHeader) : Bytes :=
  bytesLE 2 h.magic.toNat ++ ([h.majorVersion] ++ ([h.minorVersion] ++
    (bytesLE 2 h.messageType.toNat ++ (bytesLE 2 h.reserved.toNat ++
      (bytesLE 4 h.messageID.toNat ++ (bytesLE 4 h.payloadLength.toNat ++
        bytesLE 8 h.sequenceNumber.toNat))))))

/-- `memcpy` of the first 24 bytes into the packed struct. -/
def FrameHeader.ofLayout (data : Bytes) : FrameHeader where
  magic := UInt16.ofNat (natOfLE (slice 0 2 data))
  majorVersion := data.getD 2 0
  minorVersion := data.getD 3 0
  messageType := UInt16.ofNat (natOfLE (slice 4 2 data))
  reserved := UInt16.ofNat (natOfLE (slice 6 2 data))
  messageID := UInt32.ofNat (natOfLE (slice 8 4 data))
  payloadLength := UInt32.ofNat (natOfLE (slice 12 4 data))
  sequenceNumber := UInt64.ofNat (natOfLE (slice 16 8 data))

/-! ### The codec -/

/-- Serializes the header in network byte order. -/
def serializeFrameHeader (header : FrameHeader) : Bytes :=
  FrameHeader.layout
    { magic := hostToNetwork16 header.magic
      majorVersion := header.majorVersion
      minorVersion := header.minorVersion
      messageType := hostToNetwork16 header.messageType
      reserved := hostToNetwork16 header.reserved
      messageID := hostToNetwork32 header.messageID
      payloadLength := hostToNetwork32 header.payloadLength
      sequenceNumber := hostToNetwork64 header.sequenceNumber }

/-- Deserializes a header, or rejects it. Bytes behind the header are not read. -/
def deserializeFrameHeader (data : Bytes) : Option FrameHeader :=
  if data.length < FRAME_HEADER_SIZE then none
  else
    let netHeader := FrameHeader.ofLayout data
    let h : FrameHeader :=
      { magic := networkToHost16 netHeader.magic
        majorVersion := netHeader.majorVersion
        minorVersion := netHeader.minorVersion
        messageType := networkToHost16 netHeader.messageType
        reserved := networkToHost16 netHeader.reserved
        messageID := networkToHost32 netHeader.messageID
        payloadLength := networkToHost32 netHeader.payloadLength
        sequenceNumber := networkToHost64 netHeader.sequenceNumber }
    if h.magic ≠ PROTOCOL_MAGIC ∨ h.majorVersion ≠ PROTOCOL_MAJOR_VERSION ∨
        h.payloadLength.toNat > MAX_PAYLOAD_SIZE ∨ ¬ isValidMessageType h.messageType then none
    else some h

end MobileUnlock.Protocol
