import MobileUnlock.Android.PairingService
import MobileUnlock.Lib.DartEncode

/-!
# `MobileUnlock.Android.PairingModels`: the pairing request as bytes

The model of `PairRequestPayload.toBytes` in `models/pairing_models.dart`. The request is a JSON
object of strings, encoded in UTF-8.
-/

set_option autoImplicit false

namespace MobileUnlock.Android

open MobileUnlock.Lib MobileUnlock.Lib.Dart

/-- `PairRequestPayload.toBytes`. -/
def PairRequestPayload.toBytes (payload : PairRequestPayload) : Bytes :=
  utf8Encode (jsonEncodeMap [
    (literal "deviceId", payload.deviceId),
    (literal "deviceName", payload.deviceName),
    (literal "publicKey", payload.publicKey)])

end MobileUnlock.Android
