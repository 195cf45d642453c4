import MobileUnlock.Protocol.Types

/-!
# `MobileUnlock.Protocol.SignedMessage`: the 88 bytes a phone signs

The model of `shared/protocol/SignedMessage.h`: the packed struct, its two memory images,
and the codec. Only the protocol version and the opcode are checked on the way in.
-/

set_option autoImplicit false

namespace MobileUnlock.Protocol

open MobileUnlock.Lib

/-- The canonical signed message. -/
structure SignedMessage where
  protocolVersion : UInt16
  serverIdentity : ByteArr 16
  deviceIdentity : ByteArr 16
  operation : UInt16
  requestID : UInt32
  sessionID : UInt64
  nonce : ByteArr 32
  timestamp : UInt64
  deriving DecidableEq

/-- The version every signed message must carry. -/
def SIGNED_MESSAGE_VERSION : UInt16 := 0x0100

/-- The bytes of the packed struct on the little-endian host. -/
def SignedMessage.layout (m : SignedMessage) : Bytes :=
  bytesLE 2 m.protocolVersion.toNat ++ (m.serverIdentity.toList ++ (m.deviceIdentity.toList ++
    (bytesLE 2 m.operation.toNat ++ (bytesLE 4 m.requestID.toNat ++
      (bytesLE 8 m.sessionID.toNat ++ (m.nonce.toList ++ bytesLE 8 m.timestamp.toNat))))))

/-- `memcpy` of 88 bytes into the packed struct. -/
def SignedMessage.ofLayout (data : Bytes) : SignedMessage where
  protocolVersion := UInt16.ofNat (natOfLE (slice 0 2 data))
  serverIdentity := copyBytes 16 2 data
  deviceIdentity := copyBytes 16 18 data
  operation := UInt16.ofNat (natOfLE (slice 34 2 data))
  requestID := UInt32.ofNat (natOfLE (slice 36 4 data))
  sessionID := UInt64.ofNat (natOfLE (slice 40 8 data))
  nonce := copyBytes 32 48 data
  timestamp := UInt64.ofNat (natOfLE (slice 80 8 data))

/-- Serializes the message in network byte order. -/
def serializeSignedMessage (msg : SignedMessage) : Bytes :=
  SignedMessage.layout
    { protocolVersion := hostToNetwork16 msg.protocolVersion
      serverIdentity := msg.serverIdentity
      deviceIdentity := msg.deviceIdentity
      operation := hostToNetwork16 msg.operation
      requestID := hostToNetwork32 msg.requestID
      sessionID := hostToNetwork64 msg.sessionID
      nonce := msg.nonce
      timestamp := hostToNetwork64 msg.timestamp }

/-- Deserializes a message, or rejects it. -/
def deserializeSignedMessage (data : Bytes) : Option SignedMessage :=
  if data.length ≠ CANONICAL_SIGNED_MESSAGE_SIZE then none
  else
    let netMsg := SignedMessage.ofLayout data
    let msg : SignedMessage :=
      { protocolVersion := networkToHost16 netMsg.protocolVersion
        serverIdentity := netMsg.serverIdentity
        deviceIdentity := netMsg.deviceIdentity
        operation := networkToHost16 netMsg.operation
        requestID := networkToHost32 netMsg.requestID
        sessionID := networkToHost64 netMsg.sessionID
        nonce := netMsg.nonce
        timestamp := networkToHost64 netMsg.timestamp }
    if msg.protocolVersion ≠ SIGNED_MESSAGE_VERSION ∨ ¬ isValidMessageType msg.operation then none
    else some msg

end MobileUnlock.Protocol
