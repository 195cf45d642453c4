import MobileUnlock.Protocol.SignedMessage

/-!
# `MobileUnlock.Crypto.CryptoManager`: keys and signatures

The model of `windows/crypto/CryptoManager.cpp`. Windows CNG is the oracle `Cng`: hashing,
key import and signature verification may answer anything. What the source itself decides
is modelled in full: which key formats normalise to a 72-byte ECC blob, what the DER reader
`parseSpkiDer` reads and accepts, and which signatures reach the verifier.

`parseSpkiDer` indexes a raw pointer. Here every read is an `Option`: the outer `none` is a
read past the end of the buffer. `size_t` is a natural number reduced modulo `2 ^ 64` at
each addition and shift. What an execution makes of an out-of-bounds read is not determined
by the source, so `normalizePublicKeyToEccBlob` takes that outcome from the oracle
(`Cng.wildKey`).
-/

set_option autoImplicit false

namespace MobileUnlock.Crypto

open MobileUnlock.Lib MobileUnlock.Protocol

def BCRYPT_ECDSA_PUBLIC_P256_MAGIC : Nat := 0x31534345
def P256_COORDINATE_SIZE : Nat := 32
def P256_RAW_POINT_SIZE : Nat := 65
def P256_RAW_COORDS_SIZE : Nat := 64
def BCRYPT_ECC_BLOB_SIZE : Nat := 72
def P1363_SIGNATURE_SIZE : Nat := 64
def SHA256_DIGEST_SIZE : Nat := 32

/-- The answers of Windows CNG during one call. A key handle is a number, `0` is null. -/
structure Cng where
  /-- The digest, or a failure of one of the hash calls. -/
  sha256 : Bytes → Option Bytes
  /-- The handle `BCryptImportKeyPair` gives for a blob, or its failure. -/
  importKeyPair : Bytes → Option Nat
  /-- `BCryptVerifySignature` on handle, digest and signature. -/
  verifySignature : Nat → Bytes → Bytes → Bool
  /-- The key an out-of-bounds read of the DER reader leaves, if it leaves one. -/
  wildKey : Bytes → Option Bytes

/-! ### The DER reader -/

/-- Addition of `size_t`. -/
def addSize (a b : Nat) : Nat := (a + b) % 2 ^ 64

/-- The loop over the length octets: `len = (len << 8) | der[offset++]`. -/
def parseDerLengthOctets (der : Bytes) : Nat → Nat → Nat → Option (Nat × Nat)
  | 0, offset, len => some (offset, len)
  | n + 1, offset, len =>
    match der[offset]? with
    | none => none
    | some b => parseDerLengthOctets der n (offset + 1) ((len * 256 + b.toNat) % 2 ^ 64)

/-- The length at `offset`, short or long form, as the source reads it for the algorithm
sequence and for the bit string. The inner `none` is the reader's `return false`. -/
def parseDerLength (der : Bytes) (offset : Nat) : Option (Option (Nat × Nat)) :=
  match der[offset]? with
  | none => none
  | some b =>
    if b &&& 0x80 ≠ 0 then
      let numLenBytes := (b &&& 0x7F).toNat
      if addSize (offset + 1) numLenBytes > der.length then some none
      else (parseDerLengthOctets der numLenBytes (offset + 1) 0).map some
    else some (some (offset + 1, b.toNat))

/-- The offset behind the root length, which is skipped and not compared with anything. -/
def skipRootLength (der : Bytes) (offset : Nat) : Option (Option Nat) :=
  match der[offset]? with
  | none => none
  | some b =>
    if b &&& 0x80 ≠ 0 then
      let numLenBytes := (b &&& 0x7F).toNat
      if addSize (offset + 1) numLenBytes > der.length then some none
      else some (some (offset + 1 + numLenBytes))
    else some (some (offset + 1))

/-- The subject public key at `offset`: the bit string with its unused-bits byte, the point
format and the two coordinates. -/
def parseSpkiPoint (der : Bytes) (offset : Nat) : Option (Option (Bytes × Bytes)) :=
  match der[offset]? with
  | none => none
  | some tag =>
    if tag ≠ 0x03 then some none
    else if offset + 1 ≥ der.length then some none
    else match parseDerLength der (offset + 1) with
      | none => none
      | some none => some none
      | some (some (offset, bitStrLen)) =>
        if addSize offset bitStrLen > der.length ∨ bitStrLen < 66 then some none
        else match der[offset]? with
          | none => none
          | some unusedBits =>
            if unusedBits ≠ 0x00 then some none
            else match der[offset + 1]? with
              | none => none
              | some pointFormat =>
                if pointFormat ≠ 0x04 then some none
                else if addSize (offset + 2) (2 * P256_COORDINATE_SIZE) > der.length then some none
                else some (some
                  (slice (offset + 2) P256_COORDINATE_SIZE der,
                   slice (offset + 2 + P256_COORDINATE_SIZE) P256_COORDINATE_SIZE der))

/-- The coordinates of an ASN.1 DER SubjectPublicKeyInfo. -/
def parseSpkiDer (der : Bytes) : Option (Option (Bytes × Bytes)) :=
  if der.length < 30 then some none
  else match der[0]? with
    | none => none
    | some root =>
      if root ≠ 0x30 then some none
      else match skipRootLength der 1 with
        | none => none
        | some none => some none
        | some (some offset) =>
          -- `offset >= derLen || der[offset++] != 0x30`
          if offset ≥ der.length then some none
          else match der[offset]? with
            | none => none
            | some alg =>
              if alg ≠ 0x30 then some none
              else match parseDerLength der (offset + 1) with
                | none => none
                | some none => some none
                | some (some (offset, algSeqLen)) =>
                  let offset := addSize offset algSeqLen
                  if offset ≥ der.length then some none
                  else parseSpkiPoint der offset

/-! ### Keys -/

/-- The 72-byte blob of a point: magic, key size and the coordinates. -/
def eccBlob (coords : Bytes) : Bytes :=
  bytesLE 4 BCRYPT_ECDSA_PUBLIC_P256_MAGIC ++ bytesLE 4 P256_COORDINATE_SIZE ++ coords

/-- Normalises a key of any supported format. The four cases are tried in order. -/
def normalizePublicKeyToEccBlob (cng : Cng) (inputKey : Bytes) : Option Bytes :=
  if inputKey = [] then none
  else if inputKey.length = BCRYPT_ECC_BLOB_SIZE ∧
      natOfLE (slice 0 4 inputKey) = BCRYPT_ECDSA_PUBLIC_P256_MAGIC ∧
      natOfLE (slice 4 4 inputKey) = P256_COORDINATE_SIZE then some inputKey
  else if inputKey.length = P256_RAW_COORDS_SIZE then some (eccBlob inputKey)
  else if inputKey.length = P256_RAW_POINT_SIZE ∧ inputKey.getD 0 0 = 0x04 then
    some (eccBlob (inputKey.drop 1))
  else if inputKey.getD 0 0 = 0x30 then
    match parseSpkiDer inputKey with
    | none => cng.wildKey inputKey
    | some none => none
    | some (some (x, y)) => some (eccBlob (x ++ y))
  else none

/-- Imports a public key: a handle, or a failure. -/
def importPublicKey (cng : Cng) (inputKey : Bytes) : Option Nat :=
  (normalizePublicKeyToEccBlob cng inputKey).bind cng.importKeyPair

/-! ### Signatures -/

/-- Splits a signature into `r` and `s` and refuses it when one of them is zero. -/
def validateAndAdaptSignature (signature : Bytes) : Option Bytes :=
  if signature.length ≠ P1363_SIGNATURE_SIZE then none
  else if ¬ (slice 0 P256_COORDINATE_SIZE signature).any (· ≠ 0) then none
  else if ¬ (slice P256_COORDINATE_SIZE P256_COORDINATE_SIZE signature).any (· ≠ 0) then none
  else some signature

/-- Verifies a signature over the SHA-256 digest of a message. -/
def verifySignature (cng : Cng) (hKey : Nat) (message signature : Bytes) : Bool :=
  if hKey = 0 ∨ message = [] ∨ signature.length ≠ P1363_SIGNATURE_SIZE then false
  else match cng.sha256 message with
    | none => false
    | some digest =>
      match validateAndAdaptSignature signature with
      | none => false
      | some adaptedSig => cng.verifySignature hKey digest adaptedSig

/-- Verifies a canonical signed message: the message is serialized again, and the signature
is checked against those bytes. -/
def verifyCanonicalSignedMessage (cng : Cng) (publicKey : Bytes) (msg : SignedMessage)
    (signature : Bytes) : Bool :=
  match importPublicKey cng publicKey with
  | none => false
  | some hKey =>
    let serializedMsg := serializeSignedMessage msg
    if serializedMsg.length ≠ CANONICAL_SIGNED_MESSAGE_SIZE then false
    else verifySignature cng hKey serializedMsg signature

end MobileUnlock.Crypto
