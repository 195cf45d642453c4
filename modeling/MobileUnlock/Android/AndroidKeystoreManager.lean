import Mathlib.Logic.Basic

/-!
# `MobileUnlock.Android.AndroidKeystoreManager`: the identity key of the phone

The model of `AndroidKeystoreManager.kt`. The Android Keystore behaves as documented. An alias holds
one entry, a generation under the alias replaces it, a call may throw, and a key that is bound to
the enrolled biometrics is invalidated for good when the enrolment changes. The app uses one alias,
so the Keystore is the entry of this alias. Keys are numbered in the order of their generation.

What a call of the Keystore answers apart from that is an argument. The parameters of a new key are
the same for all keys, up to StrongBox.
-/

set_option autoImplicit false

namespace MobileUnlock.Android

/-- The security level in `KeyInfo`. -/
inductive HardwareLevel where
  | SECURITY_LEVEL_STRONGBOX
  | SECURITY_LEVEL_TRUSTED_ENVIRONMENT
  | SECURITY_LEVEL_SOFTWARE
  | other
  deriving DecidableEq

structure KeystoreEntry where
  key : Nat
  level : HardwareLevel
  invalidated : Bool := false
  deriving DecidableEq

/-- The entry under the alias, and how many keys have been generated. -/
structure Keystore where
  entry : Option KeystoreEntry := none
  generated : Nat := 0
  deriving DecidableEq

/-- The phone. -/
structure Device where
  sdkInt : Nat
  strongBoxFeature : Bool

/-- `Build.VERSION_CODES`. -/
def VERSION_CODE_P : Nat := 28
def VERSION_CODE_S : Nat := 31

/-- What `keyStore.getKey(KEY_ALIAS, null)` does. -/
inductive GetKeyAnswer where
  | returns
  | null
  | throws
  deriving DecidableEq

/-- What the calls of a function that uses the key answer. -/
structure KeyEnv where
  /-- `containsAlias` returns. -/
  contains : Bool
  getKey : GetKeyAnswer
  /-- `initSign` throws an exception of this class, for another reason than the enrolment. -/
  initSignThrows : Option String
  deriving DecidableEq

/-- What the calls of `getKeySecurityLevel` answer. -/
structure LevelEnv where
  contains : Bool
  getKey : GetKeyAnswer
  /-- `getKeySpec` returns. -/
  keyInfo : Bool
  deriving DecidableEq

/-- What `generateKeyPair` does. -/
inductive GenerateAnswer where
  | generates (level : HardwareLevel)
  | StrongBoxUnavailableException (message : String)
  | throws (message : String)
  deriving DecidableEq

inductive KeystoreException where
  | KeyPermanentlyInvalidatedException
  | IllegalStateException (message : String)
  | other (simpleName : String)
  deriving DecidableEq

structure KeyStatusResult where
  exists_ : Bool
  securityLevel : String
  isInvalidated : Bool
  deriving DecidableEq

/-- What the calls of `ensureKeyReady` answer. `contains` is for the check at its head, and `first`
and `second` are for the generation and its repetition. -/
structure ReadyEnv where
  contains : Bool
  level : LevelEnv
  invalidated : KeyEnv
  first : GenerateAnswer
  second : GenerateAnswer

/-- Whether the phone supports StrongBox. -/
def isStrongBoxSupported (device : Device) : Bool :=
  if device.sdkInt ≥ VERSION_CODE_P then device.strongBoxFeature else false

namespace Keystore

/-- Whether the key exists. An exception is taken for a key that does not. -/
def keyExists (s : Keystore) (contains : Bool) : Bool := contains && s.entry.isSome

/-- `initSign` with the private key of an entry. -/
def initSign (entry : KeystoreEntry) (throws : Option String) : Except KeystoreException Nat :=
  if entry.invalidated then .error .KeyPermanentlyInvalidatedException
  else
    match throws with
    | some simpleName => .error (.other simpleName)
    | none => .ok entry.key

/-- The key of a signature object that is ready for the prompt. -/
def initSignatureForSigning (s : Keystore) (env : KeyEnv) : Except KeystoreException Nat :=
  if ¬ s.keyExists env.contains then
    .error (.IllegalStateException
      "KEY_NOT_FOUND: Device identity key does not exist in Keystore")
  else
    match env.getKey, s.entry with
    | .throws, _ => .error (.other "UnrecoverableKeyException")
    | .returns, some entry => initSign entry env.initSignThrows
    | _, _ =>
      .error (.IllegalStateException "KEY_NOT_FOUND: Failed to retrieve private key entry")

/-- Whether a new enrolment has invalidated the key. -/
def isKeyInvalidated (s : Keystore) (env : KeyEnv) : Bool :=
  if ¬ s.keyExists env.contains then false
  else
    match env.getKey, s.entry with
    | .returns, some entry =>
      match initSign entry env.initSignThrows with
      | .error .KeyPermanentlyInvalidatedException => true
      | _ => false
    | _, _ => false

/-- The name of the level that backs the key. -/
def getKeySecurityLevel (device : Device) (s : Keystore) (env : LevelEnv) : String :=
  if ¬ s.keyExists env.contains then "NONE"
  else
    match env.getKey, s.entry with
    | .throws, _ => "UNKNOWN"
    | .returns, some entry =>
      if ¬ env.keyInfo then "UNKNOWN"
      else if device.sdkInt ≥ VERSION_CODE_S then
        match entry.level with
        | .SECURITY_LEVEL_STRONGBOX => "STRONGBOX"
        | .SECURITY_LEVEL_TRUSTED_ENVIRONMENT => "TEE"
        | .SECURITY_LEVEL_SOFTWARE => "SOFTWARE"
        | .other => "UNKNOWN"
      else
        match entry.level with
        | .SECURITY_LEVEL_STRONGBOX | .SECURITY_LEVEL_TRUSTED_ENVIRONMENT => "TEE"
        | _ => "SOFTWARE"
    | _, _ => "NONE"

/-- Generates a key under the alias. -/
def generateWithParams (s : Keystore) (useStrongBox : Bool) :
    GenerateAnswer → Except GenerateAnswer Keystore
  | .generates level =>
    let level := if useStrongBox then .SECURITY_LEVEL_STRONGBOX else level
    .ok { entry := some { key := s.generated, level := level }, generated := s.generated + 1 }
  | failure => .error failure

/-- Generates a key in StrongBox if the phone has one, and without it if that fails. -/
def generateKeyPairInternal (device : Device) (s : Keystore) (first second : GenerateAnswer) :
    Except GenerateAnswer Keystore :=
  let useStrongBox := isStrongBoxSupported device
  match s.generateWithParams useStrongBox first with
  | .ok s => .ok s
  | .error (.StrongBoxUnavailableException message) =>
    if useStrongBox ∧ device.sdkInt ≥ VERSION_CODE_P then s.generateWithParams false second
    else .error (.StrongBoxUnavailableException message)
  | .error failure => .error failure

/-- Makes sure that there is a key. -/
def ensureKeyReady (device : Device) (s : Keystore) (env : ReadyEnv) :
    Keystore × Except GenerateAnswer KeyStatusResult :=
  if s.keyExists env.contains then
    (s, .ok {
      exists_ := true
      securityLevel := getKeySecurityLevel device s env.level
      isInvalidated := s.isKeyInvalidated env.invalidated })
  else
    match generateKeyPairInternal device s env.first env.second with
    | .error failure => (s, .error failure)
    | .ok s =>
      (s, .ok {
        exists_ := true
        securityLevel := getKeySecurityLevel device s env.level
        isInvalidated := false })

/-- The key behind `getPublicKey`, when there is a certificate under the alias and it is found. -/
def getPublicKey (s : Keystore) (found : Bool) : Option Nat :=
  if found then s.entry.map (·.key) else none

/-- What a change of the enrolled biometrics does to the key. -/
def enrol (s : Keystore) : Keystore :=
  { s with entry := s.entry.map fun entry => { entry with invalidated := true } }

end Keystore

end MobileUnlock.Android
