import MobileUnlock.Lib.Bytes

/-!
# `MobileUnlock.Android.DerToP1363Converter`: the two encodings of a signature

The model of `DerToP1363Converter.kt`. The Android keystore returns an ECDSA signature as a DER
SEQUENCE of two INTEGERs, and the protocol carries the 64 bytes of IEEE P1363. `derToP1363` and
`p1363ToDer` convert.

An access to an array can fail in Kotlin. `byteAt`, `copyOfRange` and `arraycopy` raise what the
runtime raises, so the model tells the `IllegalArgumentException` of the converter from an index
error.
-/

set_option autoImplicit false

namespace MobileUnlock.Android.DerToP1363Converter

open MobileUnlock.Lib

/-- What the converter or the runtime throws. -/
inductive KotlinException where
  | illegalArgument (message : String)
  | indexOutOfBounds
  deriving DecidableEq, Repr

/-- `array[index]`. -/
def byteAt (array : Bytes) (index : Nat) : Except KotlinException UInt8 :=
  match array[index]? with
  | some b => .ok b
  | none => .error .indexOutOfBounds

/-- `array.copyOfRange(fromIndex, toIndex)`. -/
def copyOfRange (array : Bytes) (fromIndex toIndex : Nat) : Except KotlinException Bytes :=
  if toIndex > array.length then .error .indexOutOfBounds
  else if fromIndex > toIndex then
    .error (.illegalArgument (toString fromIndex ++ " > " ++ toString toIndex))
  else .ok (slice fromIndex (toIndex - fromIndex) array)

/-- `System.arraycopy(src, srcPos, dest, destPos, length)`: the new content of `dest`. -/
def arraycopy (src : Bytes) (srcPos : Nat) (dest : Bytes) (destPos length : Nat) :
    Except KotlinException Bytes :=
  if srcPos + length > src.length ∨ destPos + length > dest.length then .error .indexOutOfBounds
  else .ok (dest.take destPos ++ slice srcPos length src ++ dest.drop (destPos + length))

def ASN1_SEQUENCE : UInt8 := 0x30
def ASN1_INTEGER : UInt8 := 0x02
def COMPONENT_LEN : Nat := 32
def P1363_SIGNATURE_LEN : Nat := 64

/-- `toString(16)` of a byte. -/
def hexString (b : UInt8) : String := String.ofList (Nat.toDigits 16 b.toNat)

/-! ### From DER -/

/-- `parseDerInteger`: the body of the INTEGER at `startOffset`, and the offset behind it. -/
def parseDerInteger (der : Bytes) (startOffset : Nat) : Except KotlinException (Bytes × Nat) := do
  let offset := startOffset
  if offset ≥ der.length then
    .error (.illegalArgument "Truncated DER signature before INTEGER tag")
  else
    let tag ← byteAt der offset
    let offset := offset + 1
    if tag ≠ ASN1_INTEGER then
      .error (.illegalArgument ("Expected INTEGER tag 0x02, got 0x" ++ hexString tag))
    else if offset ≥ der.length then
      .error (.illegalArgument "Truncated DER signature before INTEGER length")
    else
      let len ← byteAt der offset
      let offset := offset + 1
      if len &&& 0x80 ≠ 0 then
        .error (.illegalArgument "Multi-byte INTEGER lengths not supported for ECDSA P-256")
      else if len = 0 then .error (.illegalArgument "INTEGER length cannot be zero")
      else if offset + len.toNat > der.length then
        .error (.illegalArgument "Truncated DER signature inside INTEGER data")
      else
        let intBytes ← copyOfRange der offset (offset + len.toNat)
        return (intBytes, offset + len.toNat)

/-- The `if` and the `while` that strip leading zeros: they do the same, once and as long as it
goes. `src[0]` is read of an array with more than 32 bytes only. -/
def stripZeros : Bytes → Bytes
  | [] => []
  | b :: rest =>
    if (b :: rest).length > COMPONENT_LEN ∧ b = 0x00 then stripZeros rest else b :: rest

/-- `normalizeTo32Bytes`. -/
def normalizeTo32Bytes (raw : Bytes) (name : String) : Except KotlinException Bytes :=
  let src := stripZeros raw
  if src.length > COMPONENT_LEN then
    .error (.illegalArgument ("Component " ++ name ++ " is oversized (" ++ toString src.length ++
      " bytes > " ++ toString COMPONENT_LEN ++ " bytes)"))
  else if src.length = COMPONENT_LEN then .ok src
  else arraycopy src 0 (List.replicate COMPONENT_LEN 0) (COMPONENT_LEN - src.length) src.length

/-- The SEQUENCE length behind the tag, and the offset behind it. -/
def readSequenceLength (der : Bytes) : Except KotlinException (Nat × Nat) := do
  let seqLen ← byteAt der 1
  if seqLen &&& 0x80 ≠ 0 then
    let numLenBytes := seqLen &&& 0x7F
    if numLenBytes ≠ 1 ∨ 2 ≥ der.length then
      .error (.illegalArgument "Unsupported or invalid DER sequence length encoding")
    else
      let seqLen ← byteAt der 2
      return (seqLen.toNat, 3)
  else return (seqLen.toNat, 2)

/-- The integers from `offset` on: steps 2 to 4. -/
def convertIntegers (der : Bytes) (offset : Nat) : Except KotlinException Bytes := do
  -- 2. Parse Integer r
  let (rBytes, offset) ← parseDerInteger der offset
  -- 3. Parse Integer s
  let (sBytes, offset) ← parseDerInteger der offset
  if offset ≠ der.length then
    .error (.illegalArgument ("Unexpected trailing bytes in DER signature: " ++
      toString (der.length - offset) ++ " bytes remain"))
  else
    -- 4. Normalize r and s to 32 bytes
    let normalizedR ← normalizeTo32Bytes rBytes "r"
    let normalizedS ← normalizeTo32Bytes sBytes "s"
    let result ← arraycopy normalizedR 0 (List.replicate P1363_SIGNATURE_LEN 0) 0 COMPONENT_LEN
    arraycopy normalizedS 0 result COMPONENT_LEN COMPONENT_LEN

/-- `derToP1363`. -/
def derToP1363 (der : Bytes) : Except KotlinException Bytes := do
  if der.length < 8 ∨ der.length > 74 then
    .error (.illegalArgument ("Invalid DER signature length: " ++ toString der.length))
  else
    -- 1. SEQUENCE tag
    let seqTag ← byteAt der 0
    if seqTag ≠ ASN1_SEQUENCE then
      .error (.illegalArgument ("Expected SEQUENCE tag 0x30, got 0x" ++ hexString seqTag))
    else
      let (seqLen, offset) ← readSequenceLength der
      if offset + seqLen ≠ der.length then
        .error (.illegalArgument ("DER sequence length " ++ toString seqLen ++
          " does not match remaining payload " ++ toString (der.length - offset)))
      else convertIntegers der offset

/-! ### To DER -/

/-- The leading zeros of a component stripped, down to its last byte. -/
def trimZeros : Bytes → Bytes
  | [] => []
  | [b] => [b]
  | b :: b' :: rest => if b = 0x00 then trimZeros (b' :: rest) else b :: b' :: rest

/-- `encodeIntegerToDer`. -/
def encodeIntegerToDer (component : Bytes) : Except KotlinException Bytes := do
  let trimmed := trimZeros component
  let first ← byteAt trimmed 0
  -- If highest bit is 1, prepend 0x00
  if first &&& 0x80 ≠ 0 then
    return ASN1_INTEGER :: UInt8.ofNat (trimmed.length + 1) :: 0x00 :: trimmed
  else return ASN1_INTEGER :: UInt8.ofNat trimmed.length :: trimmed

/-- `p1363ToDer`. -/
def p1363ToDer (p1363 : Bytes) : Except KotlinException Bytes := do
  if p1363.length ≠ P1363_SIGNATURE_LEN then
    .error (.illegalArgument ("IEEE P1363 signature must be exactly 64 bytes, got " ++
      toString p1363.length))
  else
    let r ← copyOfRange p1363 0 COMPONENT_LEN
    let s ← copyOfRange p1363 COMPONENT_LEN P1363_SIGNATURE_LEN
    let rDer ← encodeIntegerToDer r
    let sDer ← encodeIntegerToDer s
    let totalLen := rDer.length + sDer.length
    if totalLen < 128 then return ASN1_SEQUENCE :: UInt8.ofNat totalLen :: (rDer ++ sDer)
    else return ASN1_SEQUENCE :: 0x81 :: UInt8.ofNat totalLen :: (rDer ++ sDer)

end MobileUnlock.Android.DerToP1363Converter
