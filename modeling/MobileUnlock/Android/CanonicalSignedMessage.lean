import MobileUnlock.Lib.Dart

/-!
# `MobileUnlock.Android.CanonicalSignedMessage`: the bytes a phone signs

The model of `flutter_app/lib/models/canonical_signed_message.dart`. The fields that stand for
64-bit words are of type `BigInt`, and they go through `toInt` on their way into the buffer. The
asserts of the class run in debug builds only and are left out.
-/

set_option autoImplicit false

namespace MobileUnlock.Android

open MobileUnlock.Lib MobileUnlock.Lib.Dart

/-- The canonical signed message. `sessionId` and `timestamp` are of type `BigInt`. -/
structure CanonicalSignedMessage where
  protocolVersion : Int := 0x0100
  serverIdentityBytes : Bytes
  deviceIdentityBytes : Bytes
  operation : Int
  requestId : Int
  sessionId : Int
  nonceBytes : Bytes
  timestamp : Int
  deriving DecidableEq

/-- Writes the message into 88 bytes, in big-endian order. -/
def CanonicalSignedMessage.toCanonicalBytes (m : CanonicalSignedMessage) :
    Except DartError Bytes := do
  let bd := List.replicate 88 0
  let offset := 0
  -- 1. ProtocolVersion (uint16)
  let bd ← setUint16 bd offset m.protocolVersion
  let offset := offset + 2
  -- 2. ServerIdentity (16 bytes)
  let bd ← setBytes bd offset m.serverIdentityBytes 16
  let offset := offset + 16
  -- 3. DeviceIdentity (16 bytes)
  let bd ← setBytes bd offset m.deviceIdentityBytes 16
  let offset := offset + 16
  -- 4. Operation (uint16)
  let bd ← setUint16 bd offset m.operation
  let offset := offset + 2
  -- 5. RequestID (uint32)
  let bd ← setUint32 bd offset m.requestId
  let offset := offset + 4
  -- 6. SessionID (uint64)
  let bd ← setUint64 bd offset (bigIntToInt m.sessionId)
  let offset := offset + 8
  -- 7. Nonce (32 bytes)
  let bd ← setBytes bd offset m.nonceBytes 32
  let offset := offset + 32
  -- 8. Timestamp (uint64)
  setUint64 bd offset (bigIntToInt m.timestamp)

end MobileUnlock.Android
