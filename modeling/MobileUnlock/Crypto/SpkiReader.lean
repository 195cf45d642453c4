import MobileUnlock.Crypto.CryptoManager
import MobileUnlock.Lib.BufferProg

/-!
# `MobileUnlock.Crypto.SpkiReader`: the DER reader, read by read

`CryptoManager::ParseSpkiDer` once more, as a `BufferProg`: every `der[…]` is a read node and
every `size_t` computation a size node, in the order of the source. `parseSpkiDer` says what the
reader answers, and this program says what it touches and computes on the way.
-/

set_option autoImplicit false

namespace MobileUnlock.Crypto

open MobileUnlock.Lib MobileUnlock.Lib.BufferProg

/-- `for (i = 0; i < numLenBytes; i++) len = (len << 8) | der[offset++]`. -/
def readLengthOctets : Nat → Nat → Nat → BufferProg (Nat × Nat)
  | 0, offset, len => return (offset, len)
  | n + 1, offset, len => do
    let octet ← readAt offset
    let offset ← sizeT (offset + 1)
    let len ← sizeT (len * 256 + octet.toNat)
    readLengthOctets n offset len

/-- A length, short or long form: the offset behind it and its value. -/
def readLength (derLen offset : Nat) : BufferProg (Nat × Nat) := do
  let form ← readAt offset
  if form &&& 0x80 ≠ 0 then do
    let count ← readAt offset
    let offset ← sizeT (offset + 1)
    let numLenBytes := (count &&& 0x7F).toNat
    let lengthEnd ← sizeT (offset + numLenBytes)
    if lengthEnd > derLen then reject
    else readLengthOctets numLenBytes offset 0
  else do
    let len ← readAt offset
    let offset ← sizeT (offset + 1)
    return (offset, len.toNat)

/-- 1. Root SEQUENCE. Its length is skipped. -/
def readRoot (derLen : Nat) : BufferProg Nat := do
  let tag ← readAt 0
  let offset ← sizeT 1
  if tag ≠ 0x30 then reject
  else if offset ≥ derLen then reject
  else do
    let form ← readAt offset
    if form &&& 0x80 ≠ 0 then do
      let count ← readAt offset
      let offset ← sizeT (offset + 1)
      let numLenBytes := (count &&& 0x7F).toNat
      let lengthEnd ← sizeT (offset + numLenBytes)
      if lengthEnd > derLen then reject
      else sizeT (offset + numLenBytes)
    else sizeT (offset + 1)

/-- 2. AlgorithmIdentifier SEQUENCE. Its content is skipped. -/
def readAlgorithm (derLen offset : Nat) : BufferProg Nat :=
  if offset ≥ derLen then reject
  else do
    let tag ← readAt offset
    let offset ← sizeT (offset + 1)
    if tag ≠ 0x30 then reject
    else do
      let (offset, algSeqLen) ← readLength derLen offset
      let offset ← sizeT (offset + algSeqLen)
      if offset ≥ derLen then reject else return offset

/-- The payload of the bit string: the unused bits, the point format and the coordinates. -/
def readPoint (derLen offset : Nat) : BufferProg (Bytes × Bytes) := do
  let unusedBits ← readAt offset
  let offset ← sizeT (offset + 1)
  if unusedBits ≠ 0x00 then reject
  else do
    let pointFormat ← readAt offset
    let offset ← sizeT (offset + 1)
    if pointFormat ≠ 0x04 then reject
    else do
      let pointEnd ← sizeT (offset + 2 * P256_COORDINATE_SIZE)
      if pointEnd > derLen then reject
      else do
        let outX ← readBytes P256_COORDINATE_SIZE offset
        let offset ← sizeT (offset + P256_COORDINATE_SIZE)
        let outY ← readBytes P256_COORDINATE_SIZE offset
        return (outX, outY)

/-- 3. SubjectPublicKey BIT STRING. -/
def readSubjectPublicKey (derLen offset : Nat) : BufferProg (Bytes × Bytes) := do
  let tag ← readAt offset
  let offset ← sizeT (offset + 1)
  if tag ≠ 0x03 then reject
  else if offset ≥ derLen then reject
  else do
    let (offset, bitStrLen) ← readLength derLen offset
    let bitStrEnd ← sizeT (offset + bitStrLen)
    if bitStrEnd > derLen ∨ bitStrLen < 66 then reject
    else readPoint derLen offset

/-- `ParseSpkiDer`. -/
def spkiReader (derLen : Nat) : BufferProg (Bytes × Bytes) :=
  if derLen < 30 then reject
  else do
    let offset ← readRoot derLen
    let offset ← readAlgorithm derLen offset
    readSubjectPublicKey derLen offset

end MobileUnlock.Crypto
