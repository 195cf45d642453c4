import Mathlib.Data.List.GetD
import Mathlib.Data.Vector.Basic
import Mathlib.Tactic.Ring

/-!
# `MobileUnlock.Lib.Bytes`: fixed-width integers as byte lists

A number of fixed width is written as a list of bytes in two orders: `bytesLE` puts the
least significant byte first, and `bytesBE` is the reverse list. `natOfLE` and `natOfBE`
read them back. `byteSwap w` is the byte swap of a `w`-byte word, the operation behind
`htons` and its relatives on a little-endian host. `bytesLE_byteSwap` says what the swap is
for: the little-endian memory image of the swapped word is the big-endian encoding. `intOfBE`
reads a list in two's complement.

`slice off len l` is the field of `len` bytes at offset `off` of a packed record. The slice
lemmas say how a field of a concatenation is found, and how adjacent fields join. A parser that
keeps an offset is followed by what stands there, `l.drop i`.
-/

set_option autoImplicit false

namespace MobileUnlock.Lib

/-- A byte string: a `std::vector<uint8_t>` or the bytes of a `std::string`. -/
abbrev Bytes := List UInt8

/-- The bytes of an ASCII literal. -/
def ascii (s : String) : Bytes := s.toList.map fun c => c.toNat.toUInt8

/-- A statement about every byte, reduced to the 256 of them. -/
theorem forall_byte {p : UInt8 → Prop} (h : ∀ n : Fin 256, p (UInt8.ofNat n.val)) :
    ∀ c : UInt8, p c := by
  intro c
  have hc := h ⟨c.toNat, c.toNat_lt⟩
  rwa [UInt8.ofNat_toNat] at hc

/-! ### Words as bytes -/

/-- The `w` bytes of `n`, least significant first. Higher bits are dropped. -/
def bytesLE : Nat → Nat → Bytes
  | 0, _ => []
  | w + 1, n => UInt8.ofNat n :: bytesLE w (n / 256)

/-- The number with the given bytes, least significant first. -/
def natOfLE : Bytes → Nat
  | [] => 0
  | b :: bs => b.toNat + 256 * natOfLE bs

/-- The `w` bytes of `n`, most significant first. -/
def bytesBE (w n : Nat) : Bytes := (bytesLE w n).reverse

/-- The number with the given bytes, most significant first. -/
def natOfBE (bs : Bytes) : Nat := natOfLE bs.reverse

/-- The byte swap of a `w`-byte word. -/
def byteSwap (w n : Nat) : Nat := natOfBE (bytesLE w n)

@[simp] theorem length_bytesLE (w n : Nat) : (bytesLE w n).length = w := by
  induction w generalizing n with
  | zero => rfl
  | succ w ih => simp [bytesLE, ih]

@[simp] theorem length_bytesBE (w n : Nat) : (bytesBE w n).length = w := by
  simp [bytesBE]

/-- Writing a number and reading it back drops what is above the width. -/
theorem natOfLE_bytesLE (w n : Nat) : natOfLE (bytesLE w n) = n % 256 ^ w := by
  induction w generalizing n with
  | zero => simp [bytesLE, natOfLE, Nat.mod_one]
  | succ w ih =>
    have hbyte : (UInt8.ofNat n).toNat = n % 256 := by simp
    rw [bytesLE, natOfLE, ih, hbyte, Nat.pow_succ', Nat.mod_mul]

/-- A byte list is the encoding of its own value. -/
theorem bytesLE_natOfLE (bs : Bytes) : bytesLE bs.length (natOfLE bs) = bs := by
  induction bs with
  | nil => rfl
  | cons b bs ih =>
    have hb : b.toNat < 256 := b.toNat_lt
    have hhead : UInt8.ofNat (b.toNat + 256 * natOfLE bs) = b := by
      apply UInt8.toNat_inj.mp
      simp
    have htail : (b.toNat + 256 * natOfLE bs) / 256 = natOfLE bs := by omega
    rw [List.length_cons, natOfLE, bytesLE, hhead, htail, ih]

/-- A byte list's value is below the width of the list. -/
theorem natOfLE_lt (bs : Bytes) : natOfLE bs < 256 ^ bs.length := by
  induction bs with
  | nil => simp [natOfLE]
  | cons b bs ih =>
    have hb : b.toNat < 256 := b.toNat_lt
    rw [natOfLE, List.length_cons, Nat.pow_succ]
    omega

theorem natOfBE_lt (bs : Bytes) : natOfBE bs < 256 ^ bs.length := by
  have h := natOfLE_lt bs.reverse
  rwa [List.length_reverse] at h

theorem natOfLE_append (a b : Bytes) :
    natOfLE (a ++ b) = natOfLE a + 256 ^ a.length * natOfLE b := by
  induction a with
  | nil => simp [natOfLE]
  | cons x a ih =>
    rw [List.cons_append, natOfLE, natOfLE, ih, List.length_cons, Nat.pow_succ]
    ring

@[simp] theorem natOfBE_nil : natOfBE [] = 0 := rfl

theorem natOfBE_append (a b : Bytes) :
    natOfBE (a ++ b) = natOfBE a * 256 ^ b.length + natOfBE b := by
  rw [natOfBE, natOfBE, natOfBE, List.reverse_append, natOfLE_append, List.length_reverse]
  ring

@[simp] theorem natOfBE_singleton (x : UInt8) : natOfBE [x] = x.toNat := by
  simp [natOfBE, natOfLE]

theorem natOfBE_cons (x : UInt8) (bs : Bytes) :
    natOfBE (x :: bs) = x.toNat * 256 ^ bs.length + natOfBE bs := by
  rw [← List.singleton_append, natOfBE_append, natOfBE_singleton]

theorem natOfBE_bytesBE (w n : Nat) : natOfBE (bytesBE w n) = n % 256 ^ w := by
  rw [natOfBE, bytesBE, List.reverse_reverse, natOfLE_bytesLE]

/-- A number that fits is read back. -/
theorem natOfBE_bytesBE_of_lt {w n : Nat} (h : n < 256 ^ w) : natOfBE (bytesBE w n) = n := by
  rw [natOfBE_bytesBE, Nat.mod_eq_of_lt h]

/-- The swapped word fits the width again. -/
theorem byteSwap_lt (w n : Nat) : byteSwap w n < 256 ^ w := by
  have h := natOfBE_lt (bytesLE w n)
  rwa [length_bytesLE] at h

/-- The memory image of a swapped word is the big-endian encoding of the word. -/
theorem bytesLE_byteSwap (w n : Nat) : bytesLE w (byteSwap w n) = bytesBE w n := by
  have h := bytesLE_natOfLE (bytesLE w n).reverse
  rwa [List.length_reverse, length_bytesLE] at h

/-- Swapping twice gives the word back. -/
theorem byteSwap_byteSwap {w n : Nat} (h : n < 256 ^ w) : byteSwap w (byteSwap w n) = n := by
  have hswap : byteSwap w (byteSwap w n) = natOfBE (bytesBE w n) := by
    rw [byteSwap, bytesLE_byteSwap]
  rw [hswap, natOfBE_bytesBE, Nat.mod_eq_of_lt h]

/-- Reading a memory image and swapping reads the image big-endian. -/
theorem byteSwap_natOfLE {w : Nat} {bs : Bytes} (h : bs.length = w) :
    byteSwap w (natOfLE bs) = natOfBE bs := by
  rw [byteSwap, ← h, bytesLE_natOfLE]

/-- A big-endian byte list is the encoding of its own value. -/
theorem bytesBE_natOfBE {w : Nat} {bs : Bytes} (h : bs.length = w) :
    bytesBE w (natOfBE bs) = bs := by
  have hrev := bytesLE_natOfLE bs.reverse
  rw [List.length_reverse, h] at hrev
  rw [bytesBE, natOfBE, hrev, List.reverse_reverse]

/-- Leading zeros have no value. -/
theorem natOfBE_zeros_append (k : Nat) (bs : Bytes) :
    natOfBE (List.replicate k 0 ++ bs) = natOfBE bs := by
  induction k with
  | zero => rfl
  | succ k ih =>
    rw [List.replicate_succ, List.cons_append, natOfBE_cons, ih, UInt8.toNat_zero, Nat.zero_mul,
      Nat.zero_add]

/-- The encoding of a shorter list's value is the list with zeros in front. -/
theorem bytesBE_natOfBE_of_le {w : Nat} {bs : Bytes} (h : bs.length ≤ w) :
    bytesBE w (natOfBE bs) = List.replicate (w - bs.length) 0 ++ bs := by
  rw [← natOfBE_zeros_append (w - bs.length) bs]
  refine bytesBE_natOfBE ?_
  rw [List.length_append, List.length_replicate]
  omega

/-- A list is determined by its length and its value. -/
theorem eq_of_natOfBE_eq {a b : Bytes} (hlen : a.length = b.length) (h : natOfBE a = natOfBE b) :
    a = b := by
  rw [← bytesBE_natOfBE hlen, h, bytesBE_natOfBE rfl]

/-- The test of the highest bit of a byte. -/
theorem highBit_iff (b : UInt8) : b &&& 0x80 ≠ 0 ↔ 128 ≤ b.toNat :=
  forall_byte (p := fun b => b &&& 0x80 ≠ 0 ↔ 128 ≤ b.toNat) (by decide +kernel) b

/-- A 16-bit word is read back from its memory image. -/
theorem ofNat_natOfLE_bytesLE_16 (x : UInt16) : UInt16.ofNat (natOfLE (bytesLE 2 x.toNat)) = x := by
  have hx : x.toNat < 256 ^ 2 := x.toNat_lt
  rw [natOfLE_bytesLE, Nat.mod_eq_of_lt hx, UInt16.ofNat_toNat]

/-- A 32-bit word is read back from its memory image. -/
theorem ofNat_natOfLE_bytesLE_32 (x : UInt32) : UInt32.ofNat (natOfLE (bytesLE 4 x.toNat)) = x := by
  have hx : x.toNat < 256 ^ 4 := x.toNat_lt
  rw [natOfLE_bytesLE, Nat.mod_eq_of_lt hx, UInt32.ofNat_toNat]

/-- A 64-bit word is read back from its memory image. -/
theorem ofNat_natOfLE_bytesLE_64 (x : UInt64) : UInt64.ofNat (natOfLE (bytesLE 8 x.toNat)) = x := by
  have hx : x.toNat < 256 ^ 8 := x.toNat_lt
  rw [natOfLE_bytesLE, Nat.mod_eq_of_lt hx, UInt64.ofNat_toNat]

/-! ### Two's complement -/

/-- The number that a list denotes in two's complement, highest byte first. -/
def intOfBE (bs : Bytes) : Int :=
  if 128 ≤ (bs.headD 0).toNat then (natOfBE bs : Int) - 256 ^ bs.length else natOfBE bs

/-- No shorter list denotes the same number in two's complement. -/
def IsShortestInt (bs : Bytes) : Prop :=
  bs ≠ [] ∧ ∀ other, other ≠ [] → intOfBE other = intOfBE bs → bs.length ≤ other.length

/-- The highest bit is the sign. -/
theorem intOfBE_nonneg_iff (bs : Bytes) : 0 ≤ intOfBE bs ↔ (bs.headD 0).toNat < 128 := by
  rw [intOfBE]
  split
  next h =>
    have hlt : (natOfBE bs : Int) < 256 ^ bs.length := by exact_mod_cast natOfBE_lt bs
    omega
  next h => omega

theorem intOfBE_of_nonneg {bs : Bytes} (h : 0 ≤ intOfBE bs) : intOfBE bs = natOfBE bs := by
  rw [intOfBE_nonneg_iff] at h
  rw [intOfBE, if_neg (by omega)]

/-- A number that is not negative leaves the highest bit of its list free. -/
theorem natOfBE_lt_of_nonneg {b : UInt8} {rest : Bytes} (h : 0 ≤ intOfBE (b :: rest)) :
    natOfBE (b :: rest) < 128 * 256 ^ rest.length := by
  rw [intOfBE_nonneg_iff, List.headD_cons] at h
  have hrest := natOfBE_lt rest
  have hle : b.toNat * 256 ^ rest.length ≤ 127 * 256 ^ rest.length :=
    Nat.mul_le_mul_right _ (by omega)
  rw [natOfBE_cons]
  omega

/-- A list is the shortest when one byte less has no room for its number and the sign. -/
theorem isShortestInt_of_le {b : UInt8} {rest : Bytes} (hpos : 0 ≤ intOfBE (b :: rest))
    (hle : rest = [] ∨ 128 * 256 ^ (rest.length - 1) ≤ natOfBE (b :: rest)) :
    IsShortestInt (b :: rest) := by
  refine ⟨List.cons_ne_nil b rest, fun other hne heq => ?_⟩
  obtain ⟨b', rest', rfl⟩ := List.exists_cons_of_ne_nil hne
  rcases hle with rfl | hle
  · exact Nat.succ_le_succ (Nat.zero_le _)
  have hpos' : 0 ≤ intOfBE (b' :: rest') := by rwa [heq]
  have hlt := natOfBE_lt_of_nonneg hpos'
  have hvalue : natOfBE (b' :: rest') = natOfBE (b :: rest) := by
    rw [intOfBE_of_nonneg hpos', intOfBE_of_nonneg hpos] at heq
    exact_mod_cast heq
  rw [hvalue] at hlt
  have hpow : 256 ^ (rest.length - 1) < 256 ^ rest'.length := by omega
  have hlength := (Nat.pow_lt_pow_iff_right (by decide)).mp hpow
  rw [List.length_cons, List.length_cons]
  omega

/-- A number that is not negative has one shortest list. -/
theorem IsShortestInt.unique {a b : Bytes} (ha : IsShortestInt a) (hb : IsShortestInt b)
    (hapos : 0 ≤ intOfBE a) (hbpos : 0 ≤ intOfBE b) (h : natOfBE a = natOfBE b) : a = b := by
  have hint : intOfBE a = intOfBE b := by
    rw [intOfBE_of_nonneg hapos, intOfBE_of_nonneg hbpos, h]
  exact eq_of_natOfBE_eq (Nat.le_antisymm (ha.2 b hb.1 hint.symm) (hb.2 a ha.1 hint)) h

/-! ### Fields of packed records -/

/-- The `len` bytes at offset `off`. -/
def slice {α : Type} (off len : Nat) (l : List α) : List α := (l.drop off).take len

section Slice
variable {α : Type}

theorem length_slice {off len : Nat} {l : List α} (h : off + len ≤ l.length) :
    (slice off len l).length = len := by
  simp only [slice, List.length_take, List.length_drop]
  omega

/-- A field behind the first part of a concatenation is a field of the second part. -/
theorem slice_append_right {off len : Nat} {a b : List α} (h : a.length ≤ off) :
    slice off len (a ++ b) = slice (off - a.length) len b := by
  have hdrop : (a ++ b).drop off = b.drop (off - a.length) := by
    rw [List.drop_append, List.drop_eq_nil_of_le h, List.nil_append]
  rw [slice, hdrop, slice]

/-- A field inside the first part of a concatenation does not see the second part. -/
theorem slice_append_left {off len : Nat} {a b : List α} (h : off + len ≤ a.length) :
    slice off len (a ++ b) = slice off len a := by
  have hdrop : (a ++ b).drop off = a.drop off ++ b := by
    rw [List.drop_append_of_le_length (by omega)]
  rw [slice, hdrop, List.take_append_of_le_length (by rw [List.length_drop]; omega), slice]

theorem slice_all {len : Nat} {l : List α} (h : l.length = len) : slice 0 len l = l := by
  rw [slice, List.drop_zero, List.take_of_length_le (Nat.le_of_eq h)]

/-- Adjacent fields join to one field. -/
theorem slice_append_slice (off m n : Nat) (l : List α) :
    slice off m l ++ slice (off + m) n l = slice off (m + n) l := by
  simp only [slice]
  rw [List.take_add, List.drop_drop]

end Slice

/-! ### What stands at an offset -/

section Offsets
variable {α : Type} {l part rest : List α} {i : Nat} {x : α}

theorem getElem?_of_drop (h : l.drop i = x :: rest) : l[i]? = some x := by
  rw [← List.head?_drop, h]
  rfl

theorem drop_succ_of_drop (h : l.drop i = x :: rest) : l.drop (i + 1) = rest := by
  rw [← List.drop_drop, h]
  rfl

theorem drop_add_of_drop (h : l.drop i = part ++ rest) : l.drop (i + part.length) = rest := by
  rw [← List.drop_drop, h, List.drop_left]

theorem length_of_drop (hpart : part ≠ []) (h : l.drop i = part ++ rest) :
    i + part.length + rest.length = l.length := by
  have hlen := congrArg List.length h
  have hpos := List.length_pos_iff.mpr hpart
  rw [List.length_drop, List.length_append] at hlen
  omega

end Offsets

/-! ### Byte arrays of fixed length -/

/-- A `std::array<uint8_t, n>`. -/
abbrev ByteArr (n : Nat) := List.Vector UInt8 n

/-- `memcpy` of the `n` bytes at offset `off` into an array. Bytes past the end of the
source read as zero, so the function is total. Every use is behind a length check. -/
def copyBytes (n off : Nat) (src : Bytes) : ByteArr n :=
  List.Vector.ofFn fun i => src.getD (off + i.val) 0

theorem toList_copyBytes {n off : Nat} {src : Bytes} (h : off + n ≤ src.length) :
    (copyBytes n off src).toList = slice off n src := by
  apply List.ext_getElem
  · simp only [List.Vector.toList_length, length_slice h]
  · intro i hi hi'
    have hin : i < n := by simpa using hi
    simp only [copyBytes, List.Vector.toList_ofFn, List.getElem_ofFn, slice, List.getElem_take,
      List.getElem_drop]
    rw [List.getD_eq_getElem _ _ (by omega)]

/-- Copying an array back out of its own bytes gives the array. -/
theorem copyBytes_toList {n : Nat} (v : ByteArr n) : copyBytes n 0 v.toList = v := by
  apply List.Vector.eq
  rw [toList_copyBytes (by simp), slice_all (by simp)]

end MobileUnlock.Lib
