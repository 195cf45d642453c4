import MobileUnlock.Lib.Bytes

/-!
# `MobileUnlock.Lib.Dart`: integers and typed data of the Dart SDK

The parts of `dart:core` and `dart:typed_data` that a codec rests on, as they behave on the native
platform. A Dart `int` is 64 bits wide. `BigInt.toInt` does not wrap a number that does not fit: it
clamps it to the nearest `int`.

A `Uint8List` and the bytes behind a `ByteData` are byte lists. `setUint` is the family
`setUint8`, `setUint16`, `setUint32` and `setUint64` with `Endian.big`: it stores the low bytes of
the value, and an offset outside of the data is a `RangeError`. `getUint` is the family of
readers.

`setUint_append` is the rule for a writer with a running offset: a write at the end of what has
been written so far appends the bytes of the value.
-/

set_option autoImplicit false

namespace MobileUnlock.Lib.Dart

open MobileUnlock.Lib

/-- What the SDK throws. -/
inductive DartError where
  | RangeError
  | StateError
  | TypeError
  | FormatException
  deriving DecidableEq, Repr

/-! ### Integers -/

/-- The largest and the smallest `int`. -/
def maxInt : Int := 2 ^ 63 - 1
def minInt : Int := -2 ^ 63

/-- `BigInt.toInt`: a number that does not fit is clamped. -/
def bigIntToInt (n : Int) : Int := max minInt (min n maxInt)

/-- The `int` with the low 64 bits of a number, in two's complement. -/
def wrapInt (n : Int) : Int := n.bmod (2 ^ 64)

theorem bigIntToInt_of_fits {n : Nat} (h : n < 2 ^ 63) : bigIntToInt n = n := by
  unfold bigIntToInt minInt maxInt
  omega

theorem bigIntToInt_of_large {n : Nat} (h : 2 ^ 63 ≤ n) : bigIntToInt n = (2 ^ 63 - 1 : Nat) := by
  unfold bigIntToInt minInt maxInt
  omega

theorem wrapInt_of_fits {n : Nat} (h : n < 2 ^ 63) : wrapInt n = n := by
  unfold wrapInt
  exact Int.bmod_eq_of_le (by omega) (by omega)

/-! ### Byte data -/

/-- The low `w` bytes of a value, in big-endian order. -/
def uintBytes (w : Nat) (value : Int) : Bytes := bytesBE w (value % 256 ^ w).toNat

/-- `setUint8` to `setUint64` with `Endian.big`, for `w` bytes. -/
def setUint (w : Nat) (data : Bytes) (byteOffset : Nat) (value : Int) : Except DartError Bytes :=
  if byteOffset + w ≤ data.length then
    .ok (data.take byteOffset ++ uintBytes w value ++ data.drop (byteOffset + w))
  else .error .RangeError

def setUint8 : Bytes → Nat → Int → Except DartError Bytes := setUint 1
def setUint16 : Bytes → Nat → Int → Except DartError Bytes := setUint 2
def setUint32 : Bytes → Nat → Int → Except DartError Bytes := setUint 4
def setUint64 : Bytes → Nat → Int → Except DartError Bytes := setUint 8

/-- `getUint8` to `getUint32` with `Endian.big`, for `w` bytes. A read past the end throws in the
SDK and is zero here. Every use is on data of a known length. -/
def getUint (w : Nat) (data : Bytes) (byteOffset : Nat) : Int := natOfBE (slice byteOffset w data)

def getUint8 : Bytes → Nat → Int := getUint 1
def getUint16 : Bytes → Nat → Int := getUint 2
def getUint32 : Bytes → Nat → Int := getUint 4

/-- `getUint64`: the result is an `int`, so the top half of the range is negative. -/
def getUint64 (data : Bytes) (byteOffset : Nat) : Int := wrapInt (getUint 8 data byteOffset)

/-- `list[i]` of a `Uint8List`. -/
def index (list : Bytes) (i : Nat) : Except DartError Int :=
  match list[i]? with
  | none => .error .RangeError
  | some b => .ok b.toNat

/-- The loop `for (int i = 0; i < n; i++) data.setUint8(offset + i, list[i])`. -/
def setBytes (data : Bytes) (offset : Nat) (list : Bytes) (n : Nat) : Except DartError Bytes :=
  (List.range n).foldlM (fun data i => do setUint8 data (offset + i) (← index list i)) data

/-- `Uint8List.setRange(start, end, source)`. -/
def setRange (list : Bytes) (first last : Nat) (source : Bytes) : Except DartError Bytes :=
  if first ≤ last ∧ last ≤ list.length then
    if last - first ≤ source.length then
      .ok (list.take first ++ source.take (last - first) ++ list.drop last)
    else .error .StateError
  else .error .RangeError

/-- `Uint8List.fromList`: the low byte of every element. -/
def uint8ListFromList (elements : List Int) : Bytes :=
  elements.map fun n => UInt8.ofNat (n % 256).toNat

/-! ### Running offsets -/

@[simp] theorem length_uintBytes (w : Nat) (value : Int) : (uintBytes w value).length = w := by
  simp [uintBytes]

/-- The bytes of any number are the encoding of its low part. -/
theorem uintBytes_natCast (w n : Nat) : uintBytes w n = bytesBE w (n % 256 ^ w) := by
  have hcast : ((n : Int) % 256 ^ w) = ((n % 256 ^ w : Nat) : Int) := by push_cast; rfl
  rw [uintBytes, hcast, Int.toNat_natCast]

/-- The bytes of a number that fits are its big-endian encoding. -/
theorem uintBytes_of_lt {w n : Nat} (h : n < 256 ^ w) : uintBytes w n = bytesBE w n := by
  rw [uintBytes_natCast, Nat.mod_eq_of_lt h]

/-- The byte of an element is the element. -/
theorem uintBytes_byte (b : UInt8) : uintBytes 1 b.toNat = [b] := by
  have hb : b.toNat < 256 ^ 1 := b.toNat_lt
  rw [uintBytes_of_lt hb]
  simp [bytesBE, bytesLE]

/-- A write behind what has been written so far appends to it. -/
theorem setUint_append {w off : Nat} {written rest : Bytes} (hoff : written.length = off)
    (hw : w ≤ rest.length) (value : Int) :
    setUint w (written ++ rest) off value = .ok (written ++ uintBytes w value ++ rest.drop w) := by
  subst hoff
  have hdrop : (written ++ rest).drop (written.length + w) = rest.drop w :=
    List.drop_length_add_append w
  unfold setUint
  rw [if_pos (by rw [List.length_append]; omega), List.take_left, hdrop]

/-- So does a loop over the bytes of a list. -/
theorem setBytes_append {off n : Nat} {written rest list : Bytes} (hoff : written.length = off)
    (hlist : n ≤ list.length) (hn : n ≤ rest.length) :
    setBytes (written ++ rest) off list n = .ok (written ++ list.take n ++ rest.drop n) := by
  induction n with
  | zero => simp [setBytes, pure, Except.pure]
  | succ n ih =>
    have hlt : n < list.length := by omega
    have hprev := ih (by omega) (by omega)
    have hindex : index list n = .ok (list[n].toNat : Int) := by
      rw [index, List.getElem?_eq_getElem hlt]
    -- the turn `n` writes one byte behind the first `n` ones
    have hturn : setUint8 (written ++ list.take n ++ rest.drop n) (off + n) list[n].toNat
        = .ok (written ++ list.take (n + 1) ++ rest.drop (n + 1)) := by
      have hlen : (written ++ list.take n).length = off + n := by
        rw [List.length_append, List.length_take, hoff]
        omega
      have hrest : 1 ≤ (rest.drop n).length := by
        rw [List.length_drop]
        omega
      show setUint 1 _ _ _ = _
      rw [setUint_append hlen hrest, uintBytes_byte, List.drop_drop, List.append_assoc written,
        List.take_append_getElem hlt]
    unfold setBytes at hprev ⊢
    rw [List.range_succ, List.foldlM_append, hprev]
    simp only [List.foldlM_cons, List.foldlM_nil, hindex, bind, Except.bind, hturn, pure,
      Except.pure]

/-- A write into the zeros behind what has been written so far. -/
theorem setUint_zeros {written : Bytes} {off : Nat} (hoff : written.length = off) (w k : Nat)
    (value : Int) :
    setUint w (written ++ List.replicate (w + k) 0) off value
      = .ok (written ++ uintBytes w value ++ List.replicate k 0) := by
  rw [setUint_append hoff (by simp), List.drop_replicate, Nat.add_sub_cancel_left]

theorem setBytes_zeros {written list : Bytes} {off n : Nat} (hoff : written.length = off)
    (hlist : n ≤ list.length) (k : Nat) :
    setBytes (written ++ List.replicate (n + k) 0) off list n
      = .ok (written ++ list.take n ++ List.replicate k 0) := by
  rw [setBytes_append hoff hlist (by simp), List.drop_replicate, Nat.add_sub_cancel_left]

end MobileUnlock.Lib.Dart
