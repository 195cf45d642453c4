import MobileUnlock.Android.CanonicalSignedMessage
import MobileUnlock.Lib.DartConvert

/-!
# `MobileUnlock.Android.AuthenticationService`: how a phone answers a challenge

The model of `flutter_app/lib/models/authentication_models.dart` and
`flutter_app/lib/services/authentication_service.dart`. The phone decodes the JSON of a challenge,
builds the canonical message from it, and puts a signature of the Android Keystore behind it. The
Keystore is an argument.

Nothing in the app calls `fromJson` on a frame yet. `decodeChallenge` decodes the payload the way
the app decodes its discovery responses, with `utf8.decode` and `jsonDecode`.
-/

set_option autoImplicit false

namespace MobileUnlock.Android

open MobileUnlock.Lib MobileUnlock.Lib.Dart

/-- A challenge of the PC. -/
structure AuthChallenge where
  sessionId : Int
  nonce : Bytes
  serverIdentity : Bytes
  timestamp : Int
  deriving DecidableEq

/-- The loop of `_hexToBytes`: two characters a turn. A single last character makes `substring`
throw. -/
def hexBytesLoop : DartString → Except DartError (List Int)
  | [] => .ok []
  | [_] => .error .RangeError
  | a :: b :: hex => do
    let byte ← intParse [a, b] 16
    let bytes ← hexBytesLoop hex
    .ok (byte :: bytes)

/-- The bytes of a hexadecimal text. -/
def hexToBytes (hex : DartString) : Except DartError Bytes := do
  let bytes ← hexBytesLoop hex
  .ok (uint8ListFromList bytes)

/-- A challenge from a decoded JSON object. -/
def AuthChallenge.fromJson (json : List (DartString × Json)) : Except DartError AuthChallenge := do
  let sessionId ← (Json.index json (literal "sessionId")).asInt
  let nonce ← hexToBytes (← (Json.index json (literal "nonce")).asString)
  let serverIdentity ← hexToBytes (← (Json.index json (literal "serverIdentity")).asString)
  let timestamp ← (Json.index json (literal "timestamp")).asInt
  .ok { sessionId, nonce, serverIdentity, timestamp }

/-- The challenge in the payload of a frame. -/
def decodeChallenge (payload : Bytes) : Except DartError AuthChallenge := do
  let payloadStr ← utf8Decode payload
  let jsonMap ← (← jsonDecode payloadStr).asMap
  AuthChallenge.fromJson jsonMap

/-- What signing can throw. -/
inductive SigningError where
  | dart (e : DartError)
  | BiometricSecurityException (code : String)
  deriving DecidableEq

/-- The 88 bytes that answer a challenge. -/
def buildCanonicalSignedMessage (serverIdentity deviceIdentity : Bytes) (requestId sessionId : Int)
    (nonce : Bytes) (timestamp : Int) : Except DartError Bytes :=
  let msg : CanonicalSignedMessage :=
    { serverIdentityBytes := serverIdentity
      deviceIdentityBytes := deviceIdentity
      operation := 0x0022
      requestId := requestId
      sessionId := sessionId
      nonceBytes := nonce
      timestamp := timestamp }
  msg.toCanonicalBytes

/-- Signs a challenge: the 152 bytes of an `AUTH_RESPONSE`, message and signature. -/
def signAuthChallenge (signCanonicalMessage : Bytes → Except SigningError Bytes)
    (challenge : AuthChallenge) (deviceIdentity : Bytes) (requestId : Int) :
    Except SigningError Bytes := do
  let canonicalBytes ← (buildCanonicalSignedMessage challenge.serverIdentity deviceIdentity
    requestId challenge.sessionId challenge.nonce challenge.timestamp).mapError .dart
  let signature ← signCanonicalMessage canonicalBytes
  if signature.length ≠ 64 then .error (.BiometricSecurityException "INVALID_SIGNATURE_LENGTH")
  else
    let payload := List.replicate (88 + 64) 0
    let payload ← (setRange payload 0 88 canonicalBytes).mapError .dart
    (setRange payload 88 152 signature).mapError .dart

end MobileUnlock.Android
