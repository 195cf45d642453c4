import MobileUnlock.Android.AndroidKeystoreManager
import MobileUnlock.Android.AuthenticationService
import MobileUnlock.Android.DerToP1363Converter
import MobileUnlock.Lib.Machine

/-!
# `MobileUnlock.Android.BiometricManager`: how the phone signs

The model of `BiometricManager.kt`, of the method channel in `MainActivity.kt`, and of
`lib/security/biometric_security_service.dart` on the other side of the channel. A call of
`signAuthChallenge` goes through all three. It checks the payload, makes a signature object, shows a
prompt, and returns. What becomes of the prompt is told to its callback, which signs the payload
that it was made with.

The prompt behaves as documented. It ends with one success or one error, and a finger that is not
recognised does not end it. A success hands out one of the signature objects that a prompt was shown
with, or none. Which one is left open. The signature of a key is an argument, as are the public
keys.
-/

set_option autoImplicit false

namespace MobileUnlock.Android

open MobileUnlock.Lib MobileUnlock.Lib.Dart MobileUnlock.Android.DerToP1363Converter

/-! ### The errors of the channel -/

/-- What `result.error` gives to the other side. -/
structure ChannelError where
  code : String
  message : String
  deriving DecidableEq

/-- What the service throws. -/
inductive BiometricSecurityException where
  | InvalidPayloadException (message : String)
  | BiometricCancelledException (message : String)
  | BiometricNotEnrolledException (message : String)
  | BiometricUnavailableException (message : String)
  | BiometricLockoutException (message : String)
  | KeyInvalidatedException (message : String)
  | KeyNotFoundException (message : String)
  | KeyGenerationException (message : String)
  | SignatureFailedException (message : String)
  | InvalidSignatureException (message : String)
  | other (code message : String)
  deriving DecidableEq

def BiometricSecurityException.code : BiometricSecurityException → String
  | .InvalidPayloadException _ => "INVALID_PAYLOAD"
  | .BiometricCancelledException _ => "BIOMETRIC_CANCELLED"
  | .BiometricNotEnrolledException _ => "BIOMETRIC_NOT_ENROLLED"
  | .BiometricUnavailableException _ => "BIOMETRIC_UNAVAILABLE"
  | .BiometricLockoutException _ => "BIOMETRIC_LOCKOUT"
  | .KeyInvalidatedException _ => "KEY_INVALIDATED"
  | .KeyNotFoundException _ => "KEY_NOT_FOUND"
  | .KeyGenerationException _ => "KEY_GENERATION_FAILED"
  | .SignatureFailedException _ => "SIGNATURE_FAILED"
  | .InvalidSignatureException _ => "INVALID_SIGNATURE_FORMAT"
  | .other code _ => code

/-- `_mapPlatformException`. -/
def mapPlatformException (e : ChannelError) : BiometricSecurityException :=
  if e.code = "INVALID_PAYLOAD" then .InvalidPayloadException e.message
  else if e.code = "BIOMETRIC_CANCELLED" then .BiometricCancelledException e.message
  else if e.code = "BIOMETRIC_NOT_ENROLLED" then .BiometricNotEnrolledException e.message
  else if e.code = "BIOMETRIC_UNAVAILABLE" then .BiometricUnavailableException e.message
  else if e.code = "BIOMETRIC_LOCKOUT" then .BiometricLockoutException e.message
  else if e.code = "KEY_INVALIDATED" then .KeyInvalidatedException e.message
  else if e.code = "KEY_NOT_FOUND" then .KeyNotFoundException e.message
  else if e.code = "KEY_GENERATION_FAILED" then .KeyGenerationException e.message
  else if e.code = "SIGNATURE_FAILED" then .SignatureFailedException e.message
  else if e.code = "INVALID_SIGNATURE_FORMAT" then .InvalidSignatureException e.message
  else .other e.code e.message

/-- An exception of the service as `signAuthChallenge` passes it on. -/
def BiometricSecurityException.thrown (e : BiometricSecurityException) : SigningError :=
  .BiometricSecurityException e.code

/-! ### `authenticateAndSign` -/

/-- What `canAuthenticate` of the platform returns. -/
inductive BiometricStatus where
  | BIOMETRIC_SUCCESS
  | BIOMETRIC_ERROR_NO_HARDWARE
  | BIOMETRIC_ERROR_HW_UNAVAILABLE
  | BIOMETRIC_ERROR_NONE_ENROLLED
  | BIOMETRIC_ERROR_SECURITY_UPDATE_REQUIRED
  | BIOMETRIC_ERROR_UNSUPPORTED
  | BIOMETRIC_STATUS_UNKNOWN
  | other
  deriving DecidableEq

/-- `getBiometricStatus`. -/
def BiometricStatus.text : BiometricStatus → String
  | .BIOMETRIC_SUCCESS => "SUCCESS"
  | .BIOMETRIC_ERROR_NO_HARDWARE => "NO_HARDWARE"
  | .BIOMETRIC_ERROR_HW_UNAVAILABLE => "HW_UNAVAILABLE"
  | .BIOMETRIC_ERROR_NONE_ENROLLED => "NONE_ENROLLED"
  | .BIOMETRIC_ERROR_SECURITY_UPDATE_REQUIRED => "SECURITY_UPDATE_REQUIRED"
  | .BIOMETRIC_ERROR_UNSUPPORTED => "UNSUPPORTED"
  | .BIOMETRIC_STATUS_UNKNOWN => "UNKNOWN"
  | .other => "UNAVAILABLE"

/-- What the platform answers to a call of `authenticateAndSign`. The status is asked for twice. -/
structure PromptEnv where
  canAuthenticate : BiometricStatus
  status : BiometricStatus
  key : KeyEnv
  /-- `authenticate` throws an exception of this class. -/
  promptThrows : Option String

def CANONICAL_PAYLOAD_SIZE : Nat := 88
def IEEE_P1363_SIGNATURE_SIZE : Nat := 64

/-- The error for an exception of `initSignatureForSigning`. -/
def signatureError : KeystoreException → ChannelError
  | .KeyPermanentlyInvalidatedException =>
    ⟨"KEY_INVALIDATED", "Keystore private key permanently invalidated by biometric changes"⟩
  | .IllegalStateException message => ⟨"KEY_NOT_FOUND", message⟩
  | .other simpleName =>
    ⟨"KEY_INITIALIZATION_FAILED", "Failed to initialize cryptographic signature: " ++ simpleName⟩

/-- `authenticateAndSign` up to the prompt: the key of the signature object it is shown with. -/
def authenticateAndSign (keystore : Keystore) (canonicalPayload : Bytes) (env : PromptEnv) :
    Except ChannelError Nat :=
  -- 1. the length of the payload
  if canonicalPayload.length ≠ CANONICAL_PAYLOAD_SIZE then
    .error ⟨"INVALID_PAYLOAD", "Canonical payload must be exactly " ++
      toString CANONICAL_PAYLOAD_SIZE ++ " bytes (got " ++ toString canonicalPayload.length ++ ")"⟩
  -- 2. the biometric hardware
  else if env.canAuthenticate ≠ .BIOMETRIC_SUCCESS then
    if env.status.text = "NONE_ENROLLED" then
      .error ⟨"BIOMETRIC_NOT_ENROLLED", "No biometric enrollments registered on device"⟩
    else
      .error ⟨"BIOMETRIC_UNAVAILABLE",
        "Strong biometric authentication is not available (" ++ env.status.text ++ ")"⟩
  else
    -- 3. the signature object
    match keystore.initSignatureForSigning env.key with
    | .error e => .error (signatureError e)
    | .ok key =>
      -- 5. the prompt
      match env.promptThrows with
      | some simpleName =>
        .error ⟨"BIOMETRIC_PROMPT_FAILED", "Failed to launch BiometricPrompt: " ++ simpleName⟩
      | none => .ok key

/-- What the signature object of a success does. The number stands for the randomness of a
signature. -/
inductive SignAnswer where
  | signs (randomness : Nat)
  | SignatureException
  | throws (simpleName : String)
  deriving DecidableEq

/-- The keys of the phone: the DER signature of a key for a message, and the encoded public key. -/
structure SigningKeys where
  sign : Nat → Bytes → Nat → Bytes
  publicKey : Nat → Bytes

/-- `onAuthenticationSucceeded`, with the key of the signature object. -/
def onAuthenticationSucceeded (keys : SigningKeys) (canonicalPayload : Bytes)
    (authenticatedSignature : Option Nat) (answer : SignAnswer) : Except ChannelError Bytes :=
  match authenticatedSignature with
  | none =>
    .error ⟨"SIGNATURE_FAILED", "CryptoObject did not contain an authenticated Signature instance"⟩
  | some key =>
    match answer with
    | .SignatureException => .error ⟨"SIGNATURE_FAILED", "Failed to compute ECDSA signature"⟩
    | .throws simpleName => .error ⟨"SIGNATURE_FAILED", "Unexpected signing error: " ++ simpleName⟩
    | .signs randomness =>
      match derToP1363 (keys.sign key canonicalPayload randomness) with
      | .error (.illegalArgument message) =>
        .error ⟨"INVALID_SIGNATURE_FORMAT",
          "Failed to convert DER signature to IEEE P1363: " ++ message⟩
      | .error .indexOutOfBounds =>
        .error ⟨"SIGNATURE_FAILED", "Unexpected signing error: ArrayIndexOutOfBoundsException"⟩
      | .ok p1363Signature =>
        if p1363Signature.length ≠ IEEE_P1363_SIGNATURE_SIZE then
          .error ⟨"INVALID_SIGNATURE_FORMAT", "Converted signature size is " ++
            toString p1363Signature.length ++ ", expected " ++
            toString IEEE_P1363_SIGNATURE_SIZE⟩
        else .ok p1363Signature

/-- The errors of the prompt. -/
inductive PromptError where
  | ERROR_USER_CANCELED
  | ERROR_NEGATIVE_BUTTON
  | ERROR_CANCELED
  | ERROR_NO_BIOMETRICS
  | ERROR_HW_UNAVAILABLE
  | ERROR_HW_NOT_PRESENT
  | ERROR_LOCKOUT
  | ERROR_LOCKOUT_PERMANENT
  | other
  deriving DecidableEq

/-- `onAuthenticationError`. -/
def onAuthenticationError (errorCode : PromptError) (errString : String) : ChannelError :=
  let code :=
    match errorCode with
    | .ERROR_USER_CANCELED | .ERROR_NEGATIVE_BUTTON | .ERROR_CANCELED => "BIOMETRIC_CANCELLED"
    | .ERROR_NO_BIOMETRICS => "BIOMETRIC_NOT_ENROLLED"
    | .ERROR_HW_UNAVAILABLE | .ERROR_HW_NOT_PRESENT => "BIOMETRIC_UNAVAILABLE"
    | .ERROR_LOCKOUT | .ERROR_LOCKOUT_PERMANENT => "BIOMETRIC_LOCKOUT"
    | .other => "BIOMETRIC_FAILED"
  ⟨code, errString⟩

/-! ### The two sides of the channel -/

/-- The handler of `signCanonicalMessage` in `MainActivity`, up to the prompt. -/
def handleSignCanonicalMessage (keystore : Keystore) (payload : Bytes) (env : PromptEnv) :
    Except ChannelError Nat :=
  if payload.length ≠ 88 then
    .error ⟨"INVALID_PAYLOAD", "Canonical payload must be exactly 88 bytes"⟩
  else authenticateAndSign keystore payload env

/-- `signCanonicalMessage` of the service, up to the prompt. -/
def signCanonicalMessage (keystore : Keystore) (payload : Bytes) (env : PromptEnv) :
    Except BiometricSecurityException Nat :=
  if payload.length ≠ 88 then
    .error (.InvalidPayloadException ("Canonical payload must be exactly 88 bytes, got " ++
      toString payload.length))
  else (handleSignCanonicalMessage keystore payload env).mapError mapPlatformException

/-- `signCanonicalMessage` of the service, with the answer of the channel. -/
def signatureOf (answer : Except ChannelError Bytes) : Except BiometricSecurityException Bytes := do
  let signature ← answer.mapError mapPlatformException
  if signature.length ≠ 64 then
    .error (.InvalidSignatureException ("Signature must be exactly 64 bytes IEEE P1363, got " ++
      toString signature.length))
  else .ok signature

/-! ### Interleavings -/

/-- The arguments of a call of `signAuthChallenge`. -/
structure SigningCall where
  challenge : AuthChallenge
  deviceIdentity : Bytes
  requestId : Int
  deriving DecidableEq

/-- The message that a call asks to be signed. -/
def SigningCall.canonicalBytes (call : SigningCall) : Except DartError Bytes :=
  buildCanonicalSignedMessage call.challenge.serverIdentity call.deviceIdentity call.requestId
    call.challenge.sessionId call.challenge.nonce call.challenge.timestamp

/-- What a call returns, with the answer of the service. -/
def SigningCall.result (call : SigningCall) (answer : Except BiometricSecurityException Bytes) :
    Except SigningError Bytes :=
  signAuthChallenge (fun _ => answer.mapError BiometricSecurityException.thrown) call.challenge
    call.deviceIdentity call.requestId

/-- A prompt that has been shown, with the payload and the signature object of its call. -/
structure Prompt where
  callId : Nat
  call : SigningCall
  payload : Bytes
  signatureKey : Nat
  pending : Bool := true
  deriving DecidableEq

/-- The Keystore, the number of calls so far, and the prompts so far. -/
structure PhoneSigner where
  keystore : Keystore := {}
  calls : Nat := 0
  prompts : List Prompt := []
  deriving DecidableEq

inductive SignerEvent where
  | signAuthChallenge (call : SigningCall) (env : PromptEnv)
  /-- The prompt at this place succeeds, with the signature object of a prompt. -/
  | authenticationSucceeded (prompt : Nat) (cryptoObject : Option Nat) (answer : SignAnswer)
  | authenticationError (prompt : Nat) (errorCode : PromptError) (errString : String)
  | authenticationFailed (prompt : Nat)
  | ensureKeyReady (env : ReadyEnv)
  | getPublicKey (found : Bool)
  | getKeyStatus (contains : Bool) (level : LevelEnv) (invalidated : KeyEnv)
  /-- The biometrics of the phone change. -/
  | biometricEnrolled

inductive SignerOutput where
  | silent
  /-- A call of `signAuthChallenge` returns or throws. -/
  | signed (callId : Nat) (result : Except SigningError Bytes)
  | keyReady (result : Except BiometricSecurityException KeyStatusResult)
  | publicKey (encoded : Option Bytes)
  | keyStatus (status : KeyStatusResult)

/-- The message of an exception, as `ensureKeyReady` reports it. -/
def GenerateAnswer.message : GenerateAnswer → String
  | .StrongBoxUnavailableException message => message
  | .throws message => message
  | .generates _ => ""

/-- The error for an exception of `ensureKeyReady`. -/
def generationError (failure : GenerateAnswer) : ChannelError :=
  ⟨"KEY_GENERATION_FAILED", "Failed to ensure Keystore key: " ++ failure.message⟩

namespace PhoneSigner

/-- A call up to its prompt, or to its end. -/
def signAuthChallenge (s : PhoneSigner) (call : SigningCall) (env : PromptEnv) :
    PhoneSigner × SignerOutput :=
  let callId := s.calls
  let s := { s with calls := s.calls + 1 }
  match call.canonicalBytes with
  | .error e => (s, .signed callId (.error (.dart e)))
  | .ok payload =>
    match signCanonicalMessage s.keystore payload env with
    | .error e => (s, .signed callId (call.result (.error e)))
    | .ok key =>
      let prompt := { callId := callId, call := call, payload := payload, signatureKey := key }
      ({ s with prompts := s.prompts ++ [prompt] }, .silent)

/-- The end of a prompt, with what its callback tells the channel. -/
def endPrompt (s : PhoneSigner) (index : Nat) (answer : Prompt → Except ChannelError Bytes) :
    PhoneSigner × SignerOutput :=
  match s.prompts[index]? with
  | none => (s, .silent)
  | some prompt =>
    if ¬ prompt.pending then (s, .silent)
    else
      ({ s with prompts := s.prompts.set index { prompt with pending := false } },
        .signed prompt.callId (prompt.call.result (signatureOf (answer prompt))))

end PhoneSigner

/-- The phone, with its user and its platform. -/
def signerMachine (device : Device) (keys : SigningKeys) :
    Machine PhoneSigner SignerEvent SignerOutput where
  step s
    | .signAuthChallenge call env => s.signAuthChallenge call env
    | .authenticationSucceeded index cryptoObject answer =>
      let key := (cryptoObject.bind fun i => s.prompts[i]?).map (·.signatureKey)
      s.endPrompt index fun prompt => onAuthenticationSucceeded keys prompt.payload key answer
    | .authenticationError index errorCode errString =>
      s.endPrompt index fun _ => .error (onAuthenticationError errorCode errString)
    | .authenticationFailed _ => (s, .silent)
    | .ensureKeyReady env =>
      let (keystore, result) := s.keystore.ensureKeyReady device env
      ({ s with keystore := keystore },
        .keyReady (result.mapError fun failure => mapPlatformException (generationError failure)))
    | .getPublicKey found => (s, .publicKey ((s.keystore.getPublicKey found).map keys.publicKey))
    | .getKeyStatus contains level invalidated =>
      (s, .keyStatus {
        exists_ := s.keystore.keyExists contains
        securityLevel := s.keystore.getKeySecurityLevel device level
        isInvalidated := s.keystore.isKeyInvalidated invalidated })
    | .biometricEnrolled => ({ s with keystore := s.keystore.enrol }, .silent)

end MobileUnlock.Android
