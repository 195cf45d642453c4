import MobileUnlock.Crypto.SpkiReader
import Mathlib.Data.Nat.ModEq

/-!
# `MobileUnlock.Proofs.SpkiReader`: the steps of the DER reader

`readLength` reads a length field. `LengthField field octets` says what such a field is, and
`lengthField_cases` that an index of the input has one, or a count of octets that are not there.
The value of a field can be larger than `size_t`. The lemmas come in pairs for that reason:
`stays_…` for a value with room, and `stays_…_overflow` for the others. `sameRun_…` gives the
answer in both cases, with the value reduced modulo `2 ^ 64` as the source does.

The parts of the reader follow, one lemma for each way they can go on. `exec_spkiReader` says
that the program answers what `parseSpkiDer` answers.
-/

set_option autoImplicit false

namespace MobileUnlock.Crypto

open MobileUnlock.Lib MobileUnlock.Lib.BufferProg

/-! ### Length fields -/

/-- A length field, with the octets of its value: one octet below 128, or a count of octets and
the octets. -/
inductive LengthField : Bytes → Bytes → Prop where
  | short {b : UInt8} (hb : b.toNat < 128) : LengthField [b] [b]
  | long {b : UInt8} {octets : Bytes} (hb : b.toNat = 128 + octets.length) :
      LengthField (b :: octets) octets

theorem toNat_numLenBytes {b : UInt8} (h : 128 ≤ b.toNat) :
    (b &&& 0x7F).toNat = b.toNat - 128 :=
  forall_byte (p := fun b => 128 ≤ b.toNat → (b &&& 0x7F).toNat = b.toNat - 128)
    (by decide +kernel) b h

/-- At every index of the input there is a length field, or a count of more octets than there
are. -/
theorem lengthField_cases {der : Bytes} {i : Nat} (hi : i < der.length) :
    (∃ field octets rest, LengthField field octets ∧ der.drop i = field ++ rest) ∨
    ∃ b, der[i]? = some b ∧ 128 ≤ b.toNat ∧ der.length < i + 1 + (b.toNat - 128) := by
  obtain ⟨b, hdrop⟩ : ∃ b, der.drop i = b :: der.drop (i + 1) :=
    ⟨_, List.drop_eq_getElem_cons hi⟩
  rcases Nat.lt_or_ge b.toNat 128 with hshort | hlong
  · exact .inl ⟨[b], [b], der.drop (i + 1), .short hshort, hdrop⟩
  · rcases Nat.lt_or_ge der.length (i + 1 + (b.toNat - 128)) with hover | hfits
    · exact .inr ⟨b, getElem?_of_drop hdrop, hlong, hover⟩
    · refine .inl ⟨b :: (der.drop (i + 1)).take (b.toNat - 128), _,
        (der.drop (i + 1)).drop (b.toNat - 128), .long ?_, ?_⟩
      · rw [List.length_take, List.length_drop]
        omega
      · rw [hdrop, List.cons_append, List.take_append_drop]

theorem LengthField.ne_nil {field octets : Bytes} (h : LengthField field octets) : field ≠ [] := by
  cases h <;> simp

/-- A field is no longer than 128 bytes. -/
theorem LengthField.length_le {field octets : Bytes} (h : LengthField field octets) :
    1 ≤ field.length ∧ field.length ≤ 128 := by
  cases h with
  | short hb => simp
  | @long b octets hb =>
    have := b.toNat_lt
    rw [List.length_cons]
    omega

section Reads
variable {α : Type} {der : Bytes} {i : Nat}

/-- The loop over the octets, unrolled once. -/
theorem readLengthOctets_succ_bind (n i len : Nat) (f : Nat × Nat → BufferProg α) :
    (readLengthOctets (n + 1) i len >>= f) =
      read i fun octet => size (i + 1) fun offset => size (len * 256 + octet.toNat) fun len =>
        readLengthOctets n offset len >>= f := rfl

/-- The value of the octets so far and one octet more. -/
theorem value_cons (len : Nat) (b : UInt8) (octets : Bytes) :
    len * 256 ^ (b :: octets).length + natOfBE (b :: octets) =
      (len * 256 + b.toNat) * 256 ^ octets.length + natOfBE octets := by
  rw [natOfBE_cons, List.length_cons, Nat.pow_succ]
  ring

theorem sameRun_readLengthOctets {octets rest : Bytes} (h : der.drop i = octets ++ rest)
    (hi : i + octets.length < 2 ^ 64) {len : Nat} (hlen : len < 2 ^ 64)
    (f : Nat × Nat → BufferProg α) :
    SameRun der (readLengthOctets octets.length i len >>= f)
      (f (i + octets.length, (len * 256 ^ octets.length + natOfBE octets) % 2 ^ 64)) := by
  induction octets generalizing i len with
  | nil =>
    have hvalue : (len * 256 ^ ([] : Bytes).length + natOfBE []) % 2 ^ 64 = len := by
      simp only [List.length_nil, Nat.pow_zero, natOfBE_nil]
      omega
    rw [hvalue]
    exact .refl _
  | cons b octets ih =>
    rw [List.length_cons] at hi
    rw [value_cons, List.length_cons, readLengthOctets_succ_bind]
    refine (sameRun_read (getElem?_of_drop h)).trans ?_
    refine (sameRun_size_of_lt (by omega)).trans ?_
    refine (sameRun_size _).trans ?_
    have hrun := ih (drop_succ_of_drop h) (by omega)
      (Nat.mod_lt (len * 256 + b.toNat) (by decide : 0 < 2 ^ 64))
    have hmod : ((len * 256 + b.toNat) % 2 ^ 64 * 256 ^ octets.length + natOfBE octets) % 2 ^ 64 =
        ((len * 256 + b.toNat) * 256 ^ octets.length + natOfBE octets) % 2 ^ 64 :=
      Nat.ModEq.add_right _ (Nat.ModEq.mul_right _ (Nat.mod_modEq _ _))
    rw [hmod, show i + 1 + octets.length = i + (octets.length + 1) by omega] at hrun
    exact hrun

/-- The octets have a value that `size_t` can hold: the loop goes through. -/
theorem stays_readLengthOctets {octets rest : Bytes} (h : der.drop i = octets ++ rest)
    (hi : i + octets.length < 2 ^ 64) {len : Nat}
    (hvalue : len * 256 ^ octets.length + natOfBE octets < 2 ^ 64)
    (f : Nat × Nat → BufferProg α) :
    Stays der (readLengthOctets octets.length i len >>= f) ↔
      Stays der (f (i + octets.length, len * 256 ^ octets.length + natOfBE octets)) := by
  induction octets generalizing i len with
  | nil =>
    have hnil : len * 256 ^ ([] : Bytes).length + natOfBE [] = len := by simp
    rw [hnil]
    rfl
  | cons b octets ih =>
    rw [List.length_cons] at hi
    rw [value_cons] at hvalue
    have hpos : 1 ≤ 256 ^ octets.length := Nat.one_le_pow _ _ (by decide)
    have hle : len * 256 + b.toNat ≤ (len * 256 + b.toNat) * 256 ^ octets.length :=
      Nat.le_mul_of_pos_right _ hpos
    rw [value_cons, List.length_cons, readLengthOctets_succ_bind, stays_read (getElem?_of_drop h),
      stays_size (by omega), stays_size (by omega),
      ih (drop_succ_of_drop h) (by omega) hvalue,
      show i + 1 + octets.length = i + (octets.length + 1) by omega]

/-- The octets have a larger value. Then all but the last of them must fit, because the loop reads
on behind them, and what follows the loop must reject. -/
theorem stays_readLengthOctets_overflow {octets rest : Bytes} (h : der.drop i = octets ++ rest)
    (hi : i + octets.length < 2 ^ 64) {len : Nat} (hlen : len < 2 ^ 64)
    (hvalue : 2 ^ 64 ≤ len * 256 ^ octets.length + natOfBE octets)
    (f : Nat × Nat → BufferProg α) :
    Stays der (readLengthOctets octets.length i len >>= f) ↔
      len * 256 ^ octets.dropLast.length + natOfBE octets.dropLast < 2 ^ 64 ∧
      Halts (f (i + octets.length, (len * 256 ^ octets.length + natOfBE octets) % 2 ^ 64)) ∧
      Stays der
        (f (i + octets.length, (len * 256 ^ octets.length + natOfBE octets) % 2 ^ 64)) := by
  induction octets generalizing i len with
  | nil =>
    simp only [List.length_nil, Nat.pow_zero, natOfBE_nil] at hvalue
    omega
  | cons b octets ih =>
    rw [List.length_cons] at hi
    rw [value_cons] at hvalue
    rw [value_cons, List.length_cons, readLengthOctets_succ_bind, stays_read (getElem?_of_drop h),
      stays_size (by omega)]
    cases octets with
    | nil =>
      -- The last octet overflows, so what follows the loop must reject.
      simp only [List.length_nil, Nat.pow_zero, natOfBE_nil, Nat.mul_one, Nat.add_zero] at hvalue
      simp only [List.length_nil, Nat.pow_zero, natOfBE_nil, Nat.mul_one, Nat.add_zero,
        List.dropLast_singleton, hlen, true_and]
      have hnot : ¬ len * 256 + b.toNat < 2 ^ 64 := by omega
      show (_ ∨ Halts (f _)) ∧ Stays der (f _) ↔ _
      rw [or_iff_right hnot]
    | cons b' octets =>
      rw [show (b :: b' :: octets).dropLast = b :: (b' :: octets).dropLast from rfl, value_cons]
      rcases Nat.lt_or_ge (len * 256 + b.toNat) (2 ^ 64) with hfits | hover
      · rw [stays_size hfits, ih (drop_succ_of_drop h) (by omega) hfits hvalue,
          show i + 1 + (b' :: octets).length = i + ((b' :: octets).length + 1) by omega]
      · -- The next octet is read after an overflow.
        have hpos : 1 ≤ 256 ^ (b' :: octets).dropLast.length := Nat.one_le_pow _ _ (by decide)
        have hle := Nat.le_mul_of_pos_right (len * 256 + b.toNat) hpos
        refine iff_of_false ?_ fun hright => ?_
        · rintro ⟨hlt | hhalts, -⟩
          · omega
          · exact not_halts_read _ hhalts
        · have := hright.1
          omega

/-- `readLength`, node by node. -/
theorem readLength_bind (derLen i : Nat) (f : Nat × Nat → BufferProg α) :
    (readLength derLen i >>= f) = read i fun form =>
      if form &&& 0x80 ≠ 0 then
        read i fun count => size (i + 1) fun offset =>
          size (offset + (count &&& 0x7F).toNat) fun lengthEnd =>
            if lengthEnd > derLen then reject
            else readLengthOctets (count &&& 0x7F).toNat offset 0 >>= f
      else read i fun len => size (i + 1) fun offset => f (offset, len.toNat) := by
  simp only [readLength, readAt_bind, sizeT_bind, read_bind, size_bind, ite_bind, reject_bind,
    pure_eq, ret_bind]

/-- A count of more octets than there are is rejected. -/
theorem readLength_truncated {b : UInt8} (hb : der[i]? = some b) (hlong : 128 ≤ b.toNat)
    (hover : der.length < i + 1 + (b.toNat - 128)) (hder : der.length < 2 ^ 63)
    (f : Nat × Nat → BufferProg α) : Steps der (readLength der.length i >>= f) reject := by
  have hi : i < der.length := (List.getElem?_eq_some_iff.mp hb).1
  have hb256 := b.toNat_lt
  have hnum := toNat_numLenBytes hlong
  rw [readLength_bind]
  refine (steps_read hb).trans ?_
  rw [if_pos ((highBit_iff b).mpr hlong)]
  refine (steps_read hb).trans ?_
  refine (steps_size (by omega)).trans ?_
  refine (steps_size (by omega)).trans ?_
  rw [if_pos (by omega)]
  exact .refl _

/-- The nodes of `readLength` before the octets of a long form. -/
theorem readLength_long {b : UInt8} {octets rest : Bytes} (hb : b.toNat = 128 + octets.length)
    (h : der.drop i = b :: octets ++ rest) (hder : der.length < 2 ^ 63)
    (f : Nat × Nat → BufferProg α) :
    Steps der (readLength der.length i >>= f)
      (readLengthOctets octets.length (i + 1) 0 >>= f) := by
  have hget : der[i]? = some b := getElem?_of_drop h
  have hlength := length_of_drop (List.cons_ne_nil b octets) h
  rw [List.length_cons] at hlength
  have hnum : (b &&& 0x7F).toNat = octets.length := by
    rw [toNat_numLenBytes (by omega)]
    omega
  rw [readLength_bind]
  refine (steps_read hget).trans ?_
  rw [if_pos ((highBit_iff b).mpr (by omega))]
  refine (steps_read hget).trans ?_
  refine (steps_size (by omega)).trans ?_
  rw [hnum]
  refine (steps_size (by omega)).trans ?_
  rw [if_neg (by omega)]
  exact .refl _

/-- The nodes of `readLength` on a short form. -/
theorem readLength_short {b : UInt8} (hb : b.toNat < 128) (hget : der[i]? = some b)
    (hder : der.length < 2 ^ 63) (f : Nat × Nat → BufferProg α) :
    Steps der (readLength der.length i >>= f) (f (i + 1, b.toNat)) := by
  have hi : i < der.length := (List.getElem?_eq_some_iff.mp hget).1
  have hform : ¬ b &&& 0x80 ≠ 0 := fun hlong => absurd ((highBit_iff b).mp hlong) (by omega)
  rw [readLength_bind]
  refine (steps_read hget).trans ?_
  rw [if_neg hform]
  refine (steps_read hget).trans ?_
  exact steps_size (by omega)

/-- What `readLength` answers on a length field. -/
theorem sameRun_readLength {field octets rest : Bytes} (hfield : LengthField field octets)
    (h : der.drop i = field ++ rest) (hder : der.length < 2 ^ 63)
    (f : Nat × Nat → BufferProg α) :
    SameRun der (readLength der.length i >>= f)
      (f (i + field.length, natOfBE octets % 2 ^ 64)) := by
  cases hfield with
  | @short b hb =>
    have hvalue : natOfBE [b] % 2 ^ 64 = b.toNat := by
      rw [natOfBE_singleton]
      omega
    rw [hvalue]
    exact (readLength_short hb (getElem?_of_drop h) hder f).run
  | long hb =>
    have hlength := length_of_drop (List.cons_ne_nil _ _) h
    rw [List.length_cons] at hlength
    have hrun := sameRun_readLengthOctets (drop_succ_of_drop h) (by omega)
      (by decide : 0 < 2 ^ 64) f
    rw [Nat.zero_mul, Nat.zero_add, show i + 1 + octets.length = i + (octets.length + 1) by omega]
      at hrun
    exact (readLength_long hb h hder f).run.trans hrun

/-- A field with a value that `size_t` can hold. -/
theorem stays_readLength {field octets rest : Bytes} (hfield : LengthField field octets)
    (h : der.drop i = field ++ rest) (hder : der.length < 2 ^ 63)
    (hvalue : natOfBE octets < 2 ^ 64) (f : Nat × Nat → BufferProg α) :
    Stays der (readLength der.length i >>= f) ↔
      Stays der (f (i + field.length, natOfBE octets)) := by
  cases hfield with
  | @short b hb =>
    rw [natOfBE_singleton]
    exact (readLength_short hb (getElem?_of_drop h) hder f).stays
  | long hb =>
    have hlength := length_of_drop (List.cons_ne_nil _ _) h
    rw [List.length_cons] at hlength
    have hvalue0 : 0 * 256 ^ octets.length + natOfBE octets < 2 ^ 64 := by
      rwa [Nat.zero_mul, Nat.zero_add]
    have hstays := stays_readLengthOctets (drop_succ_of_drop h) (by omega) hvalue0 f
    rw [Nat.zero_mul, Nat.zero_add, show i + 1 + octets.length = i + (octets.length + 1) by omega]
      at hstays
    exact (readLength_long hb h hder f).stays.trans hstays

/-- A field with a larger value. -/
theorem stays_readLength_overflow {field octets rest : Bytes} (hfield : LengthField field octets)
    (h : der.drop i = field ++ rest) (hder : der.length < 2 ^ 63)
    (hvalue : 2 ^ 64 ≤ natOfBE octets) (f : Nat × Nat → BufferProg α) :
    Stays der (readLength der.length i >>= f) ↔
      natOfBE octets.dropLast < 2 ^ 64 ∧
      Halts (f (i + field.length, natOfBE octets % 2 ^ 64)) ∧
      Stays der (f (i + field.length, natOfBE octets % 2 ^ 64)) := by
  cases hfield with
  | @short b hb =>
    rw [natOfBE_singleton] at hvalue
    omega
  | long hb =>
    have hlength := length_of_drop (List.cons_ne_nil _ _) h
    rw [List.length_cons] at hlength
    have hstays := stays_readLengthOctets_overflow (drop_succ_of_drop h) (by omega)
      (by decide : 0 < 2 ^ 64) (by rwa [Nat.zero_mul, Nat.zero_add]) f
    rw [Nat.zero_mul, Nat.zero_add, Nat.zero_mul, Nat.zero_add,
      show i + 1 + octets.length = i + (octets.length + 1) by omega] at hstays
    exact (readLength_long hb h hder f).stays.trans hstays

/-- All but the last octet have no larger value than all. -/
theorem natOfBE_dropLast_le (octets : Bytes) : natOfBE octets.dropLast ≤ natOfBE octets := by
  rcases List.eq_nil_or_concat octets with rfl | ⟨init, b, rfl⟩
  · exact le_refl _
  · rw [List.concat_eq_append, List.dropLast_concat, natOfBE_append]
    have : natOfBE init ≤ natOfBE init * 256 ^ [b].length := Nat.le_mul_of_pos_right _ (by simp)
    omega

/-- A length, and then the end of what it measures: `next offset len (offset + len)`. -/
def lengthThenEnd (next : Nat → Nat → Nat → BufferProg α) (p : Nat × Nat) : BufferProg α :=
  size (p.1 + p.2) (next p.1 p.2)

section Field
variable {field octets rest : Bytes} (hfield : LengthField field octets)
  (h : der.drop i = field ++ rest) (hder : der.length < 2 ^ 63)
  (next : Nat → Nat → Nat → BufferProg α)

include hfield h hder

theorem sameRun_lengthThenEnd :
    SameRun der (readLength der.length i >>= lengthThenEnd next)
      (next (i + field.length) (natOfBE octets % 2 ^ 64)
        ((i + field.length + natOfBE octets) % 2 ^ 64)) := by
  refine (sameRun_readLength hfield h hder _).trans ?_
  have hmod : (i + field.length + natOfBE octets % 2 ^ 64) % 2 ^ 64 =
      (i + field.length + natOfBE octets) % 2 ^ 64 := Nat.add_mod_mod ..
  rw [← hmod]
  exact sameRun_size _

theorem stays_lengthThenEnd (hfits : i + field.length + natOfBE octets < 2 ^ 64) :
    Stays der (readLength der.length i >>= lengthThenEnd next) ↔
      Stays der (next (i + field.length) (natOfBE octets)
        (i + field.length + natOfBE octets)) := by
  rw [stays_readLength hfield h hder (by omega)]
  exact stays_size hfits

/-- The end has no room in a `size_t`. -/
theorem stays_lengthThenEnd_overflow (hover : 2 ^ 64 ≤ i + field.length + natOfBE octets) :
    Stays der (readLength der.length i >>= lengthThenEnd next) ↔
      natOfBE octets.dropLast < 2 ^ 64 ∧
      Halts (next (i + field.length) (natOfBE octets % 2 ^ 64)
        ((i + field.length + natOfBE octets) % 2 ^ 64)) ∧
      Stays der (next (i + field.length) (natOfBE octets % 2 ^ 64)
        ((i + field.length + natOfBE octets) % 2 ^ 64)) := by
  have hend : (i + field.length + natOfBE octets % 2 ^ 64) % 2 ^ 64 =
      (i + field.length + natOfBE octets) % 2 ^ 64 := Nat.add_mod_mod _ _ _
  rcases Nat.lt_or_ge (natOfBE octets) (2 ^ 64) with hlt | hge
  · have hinit : natOfBE octets.dropLast < 2 ^ 64 :=
      lt_of_le_of_lt (natOfBE_dropLast_le octets) hlt
    have hnot : ¬ i + field.length + natOfBE octets < 2 ^ 64 := by omega
    rw [stays_readLength hfield h hder hlt, Nat.mod_eq_of_lt hlt]
    show (_ ∨ _) ∧ _ ↔ _
    rw [or_iff_right hnot]
    exact ⟨fun hs => ⟨hinit, hs⟩, fun hs => hs.2⟩
  · rw [stays_readLength_overflow hfield h hder hge]
    simp only [lengthThenEnd, Halts, Stays, hend]
    exact ⟨fun hs => ⟨hs.1, hs.2.1, hs.2.2.2⟩, fun hs => ⟨hs.1, hs.2.1, .inr hs.2.1, hs.2.2⟩⟩

end Field

end Reads

/-! ### The parts of the reader -/

section Parts
variable {α : Type} {der : Bytes} {i : Nat}

/-- `readRoot`, node by node. -/
theorem readRoot_bind (derLen : Nat) (f : Nat → BufferProg α) :
    (readRoot derLen >>= f) = read 0 fun tag => size 1 fun offset =>
      if tag ≠ 0x30 then reject
      else if offset ≥ derLen then reject
      else read offset fun form =>
        if form &&& 0x80 ≠ 0 then
          read offset fun count => size (offset + 1) fun offset =>
            size (offset + (count &&& 0x7F).toNat) fun lengthEnd =>
              if lengthEnd > derLen then reject else size (offset + (count &&& 0x7F).toNat) f
        else size (offset + 1) f := by
  simp only [readRoot, readAt_bind, sizeT_bind, read_bind, size_bind, ite_bind, reject_bind]

/-- An input without the tag of the root, or with a root length that is cut off, is rejected. In
all others the root length is skipped. -/
theorem readRoot_cases (hmin : 30 ≤ der.length) (hder : der.length < 2 ^ 63) :
    (∃ root octets rest, LengthField root octets ∧ der = 0x30 :: root ++ rest) ∨
    ∀ f : Nat → BufferProg α, Steps der (readRoot der.length >>= f) reject := by
  obtain ⟨tag, hder0⟩ : ∃ tag, der.drop 0 = tag :: der.drop 1 :=
    ⟨_, List.drop_eq_getElem_cons (by omega)⟩
  by_cases htag : tag = 0x30
  · have hone : 1 < der.length := by omega
    rcases lengthField_cases hone with
      ⟨root, octets, rest, hroot, hdrop⟩ | ⟨b, hb, hlong, hover⟩
    · refine .inl ⟨root, octets, rest, hroot, ?_⟩
      rw [← List.drop_zero (l := der), hder0, htag, hdrop, List.cons_append]
    · refine .inr fun f => ?_
      have hb256 := b.toNat_lt
      have hnum := toNat_numLenBytes hlong
      rw [readRoot_bind]
      refine (steps_read (getElem?_of_drop hder0)).trans ?_
      refine (steps_size (by decide)).trans ?_
      rw [if_neg (not_not.mpr htag), if_neg (by omega)]
      refine (steps_read hb).trans ?_
      rw [if_pos ((highBit_iff b).mpr hlong)]
      refine (steps_read hb).trans ?_
      refine (steps_size (by omega)).trans ?_
      refine (steps_size (by omega)).trans ?_
      rw [if_pos (by omega)]
      exact .refl _
  · refine .inr fun f => ?_
    rw [readRoot_bind]
    refine (steps_read (getElem?_of_drop hder0)).trans ?_
    refine (steps_size (by decide)).trans ?_
    rw [if_pos htag]
    exact .refl _

theorem steps_readRoot {root octets rest : Bytes} (hroot : LengthField root octets)
    (h : der = 0x30 :: root ++ rest) (hder : der.length < 2 ^ 63) (f : Nat → BufferProg α) :
    Steps der (readRoot der.length >>= f) (f (1 + root.length)) := by
  have hzero : der.drop 0 = 0x30 :: (root ++ rest) := by rw [List.drop_zero, h, List.cons_append]
  have hdrop : der.drop 1 = root ++ rest := drop_succ_of_drop hzero
  have hlength := length_of_drop hroot.ne_nil hdrop
  have hbounds := hroot.length_le
  rw [readRoot_bind]
  refine (steps_read (getElem?_of_drop hzero)).trans ?_
  refine (steps_size (by decide)).trans ?_
  rw [if_neg (by decide), if_neg (by omega)]
  cases hroot with
  | @short b hb =>
    have hform : ¬ b &&& 0x80 ≠ 0 := fun hlong => absurd ((highBit_iff b).mp hlong) (by omega)
    refine (steps_read (getElem?_of_drop hdrop)).trans ?_
    rw [if_neg hform]
    exact steps_size (by decide)
  | @long b octets hb =>
    have hnum : (b &&& 0x7F).toNat = octets.length := by
      rw [toNat_numLenBytes (by omega)]
      omega
    rw [List.length_cons] at hlength hbounds
    refine (steps_read (getElem?_of_drop hdrop)).trans ?_
    rw [if_pos ((highBit_iff b).mpr (by omega))]
    refine (steps_read (getElem?_of_drop hdrop)).trans ?_
    refine (steps_size (by decide)).trans ?_
    rw [hnum]
    refine (steps_size (by omega)).trans ?_
    rw [if_neg (by omega), List.length_cons, show 1 + (octets.length + 1) = 1 + 1 + octets.length by
      omega]
    exact steps_size (by omega)

/-- The end of the algorithm identifier: behind it, or rejected. -/
def algorithmEnd (derLen : Nat) (f : Nat → BufferProg α) (_ _ algEnd : Nat) : BufferProg α :=
  if algEnd ≥ derLen then reject else f algEnd

/-- `readAlgorithm`, node by node. -/
theorem readAlgorithm_bind (derLen i : Nat) (f : Nat → BufferProg α) :
    (readAlgorithm derLen i >>= f) =
      if i ≥ derLen then reject
      else read i fun tag => size (i + 1) fun offset =>
        if tag ≠ 0x30 then reject
        else readLength derLen offset >>= lengthThenEnd (algorithmEnd derLen f) := by
  simp only [readAlgorithm, readAt_bind, sizeT_bind, read_bind, size_bind, ite_bind, reject_bind,
    BufferProg.bind_assoc, pure_eq, ret_bind]
  rfl

theorem readAlgorithm_tag (h : der[i]? = some 0x30) (hder : der.length < 2 ^ 63)
    (f : Nat → BufferProg α) :
    Steps der (readAlgorithm der.length i >>= f)
      (readLength der.length (i + 1) >>= lengthThenEnd (algorithmEnd der.length f)) := by
  have hi : i < der.length := (List.getElem?_eq_some_iff.mp h).1
  rw [readAlgorithm_bind, if_neg (by omega)]
  refine (steps_read h).trans ?_
  refine (steps_size (by omega)).trans ?_
  rw [if_neg (by decide)]
  exact .refl _

theorem readAlgorithm_other (h : der[i]? ≠ some 0x30) (hder : der.length < 2 ^ 63)
    (f : Nat → BufferProg α) : Steps der (readAlgorithm der.length i >>= f) reject := by
  rw [readAlgorithm_bind]
  rcases Nat.lt_or_ge i der.length with hi | hi
  · have hget : der[i]? = some der[i] := List.getElem?_eq_getElem hi
    rw [if_neg (by omega)]
    refine (steps_read hget).trans ?_
    refine (steps_size (by omega)).trans ?_
    rw [if_pos (fun htag => h (by rw [hget, htag]))]
    exact .refl _
  · rw [if_pos hi]
    exact .refl _

/-- The answer behind the tag and the length of the algorithm identifier. -/
theorem sameRun_readAlgorithm {field octets rest : Bytes} (hfield : LengthField field octets)
    (h : der.drop i = 0x30 :: (field ++ rest)) (hder : der.length < 2 ^ 63)
    (f : Nat → BufferProg α) :
    SameRun der (readAlgorithm der.length i >>= f)
      (algorithmEnd der.length f (i + 1 + field.length) (natOfBE octets % 2 ^ 64)
        ((i + 1 + field.length + natOfBE octets) % 2 ^ 64)) :=
  (readAlgorithm_tag (getElem?_of_drop h) hder f).run.trans
    (sameRun_lengthThenEnd hfield (drop_succ_of_drop h) hder _)

/-- Where the reader expects an algorithm identifier: it rejects, or the tag is the last byte of the
input, or there are the tag and a length field. -/
theorem readAlgorithm_cases (hder : der.length < 2 ^ 63) (i : Nat) :
    (∀ f : Nat → BufferProg α, Steps der (readAlgorithm der.length i >>= f) reject) ∨
    der.drop i = [0x30] ∨
    ∃ field octets rest, LengthField field octets ∧ der.drop i = 0x30 :: (field ++ rest) := by
  by_cases htag : der[i]? = some 0x30
  swap
  · exact .inl fun f => readAlgorithm_other htag hder f
  have hi : i < der.length := (List.getElem?_eq_some_iff.mp htag).1
  have hdrop : der.drop i = 0x30 :: der.drop (i + 1) := by
    rw [List.drop_eq_getElem_cons hi]
    rw [List.getElem?_eq_getElem hi, Option.some.injEq] at htag
    rw [htag]
  rcases Nat.lt_or_ge (i + 1) der.length with hnext | hend
  swap
  · rw [List.drop_of_length_le hend] at hdrop
    exact .inr (.inl hdrop)
  rcases lengthField_cases hnext with
    ⟨field, octets, rest, hfield, hrest⟩ | ⟨b, hb, hlong, hover⟩
  · rw [hrest] at hdrop
    exact .inr (.inr ⟨field, octets, rest, hfield, hdrop⟩)
  · exact .inl fun f => (readAlgorithm_tag htag hder f).trans
      (readLength_truncated hb hlong hover hder _)

/-- The end of the bit string: the point in it, or rejected. -/
def bitStringEnd (derLen offset bitStrLen bitStrEnd : Nat) : BufferProg (Bytes × Bytes) :=
  if bitStrEnd > derLen ∨ bitStrLen < 66 then reject else readPoint derLen offset

/-- `readSubjectPublicKey`, node by node. -/
theorem readSubjectPublicKey_eq (derLen i : Nat) :
    readSubjectPublicKey derLen i = read i fun tag => size (i + 1) fun offset =>
      if tag ≠ 0x03 then reject
      else if offset ≥ derLen then reject
      else readLength derLen offset >>= lengthThenEnd (bitStringEnd derLen) := by
  simp only [readSubjectPublicKey, readAt_bind, sizeT_bind]
  rfl

theorem readSubjectPublicKey_tag (h : der[i]? = some 0x03) (hi : i + 1 < der.length)
    (hder : der.length < 2 ^ 63) :
    Steps der (readSubjectPublicKey der.length i)
      (readLength der.length (i + 1) >>= lengthThenEnd (bitStringEnd der.length)) := by
  rw [readSubjectPublicKey_eq]
  refine (steps_read h).trans ?_
  refine (steps_size (by omega)).trans ?_
  rw [if_neg (by decide), if_neg (by omega)]
  exact .refl _

theorem readSubjectPublicKey_other (hi : i < der.length)
    (h : der[i]? ≠ some 0x03 ∨ der.length ≤ i + 1) (hder : der.length < 2 ^ 63) :
    Steps der (readSubjectPublicKey der.length i) reject := by
  have hget : der[i]? = some der[i] := List.getElem?_eq_getElem hi
  rw [readSubjectPublicKey_eq]
  refine (steps_read hget).trans ?_
  refine (steps_size (by omega)).trans ?_
  by_cases htag : der[i] = 0x03
  · rw [if_neg (not_not.mpr htag), if_pos]
    · exact .refl _
    · rcases h with h | h
      · exact absurd (by rw [hget, htag]) h
      · exact h
  · rw [if_pos htag]
    exact .refl _

/-- The answer behind the tag and the length of the bit string. -/
theorem sameRun_readSubjectPublicKey {field octets rest : Bytes}
    (hfield : LengthField field octets) (h : der.drop i = 0x03 :: (field ++ rest))
    (hder : der.length < 2 ^ 63) :
    SameRun der (readSubjectPublicKey der.length i)
      (bitStringEnd der.length (i + 1 + field.length) (natOfBE octets % 2 ^ 64)
        ((i + 1 + field.length + natOfBE octets) % 2 ^ 64)) := by
  have hdrop : der.drop (i + 1) = field ++ rest := drop_succ_of_drop h
  have hlength := length_of_drop hfield.ne_nil hdrop
  have hpos := List.length_pos_iff.mpr hfield.ne_nil
  exact (readSubjectPublicKey_tag (getElem?_of_drop h) (by omega) hder).run.trans
    (sameRun_lengthThenEnd hfield hdrop hder _)

/-- Where the reader expects a bit string: it rejects, or there are the tag and a length field. -/
theorem readSubjectPublicKey_cases (hder : der.length < 2 ^ 63) (hi : i < der.length) :
    Steps der (readSubjectPublicKey der.length i) reject ∨
    ∃ field octets rest, LengthField field octets ∧ der.drop i = 0x03 :: (field ++ rest) := by
  by_cases htag : der[i]? = some 0x03
  swap
  · exact .inl (readSubjectPublicKey_other hi (.inl htag) hder)
  rcases Nat.lt_or_ge (i + 1) der.length with hnext | hend
  swap
  · exact .inl (readSubjectPublicKey_other hi (.inr hend) hder)
  rcases lengthField_cases hnext with
    ⟨field, octets, rest, hfield, hrest⟩ | ⟨b, hb, hlong, hover⟩
  · refine .inr ⟨field, octets, rest, hfield, ?_⟩
    rw [List.drop_eq_getElem_cons hi, hrest]
    rw [List.getElem?_eq_getElem hi, Option.some.injEq] at htag
    rw [htag]
  · exact .inl ((readSubjectPublicKey_tag htag hnext hder).trans
      (readLength_truncated hb hlong hover hder _))

/-- Bytes inside the buffer are read as they are. -/
theorem steps_readBytes {n : Nat} (h : i + n ≤ der.length) (f : Bytes → BufferProg α) :
    Steps der (readBytes n i >>= f) (f (slice i n der)) := by
  induction n generalizing i f with
  | zero =>
    rw [show slice i 0 der = [] by simp [slice]]
    exact .refl _
  | succ n ih =>
    have hdrop := List.drop_eq_getElem_cons (l := der) (i := i) (by omega)
    have hslice : slice i (n + 1) der = der[i] :: slice (i + 1) n der := by
      rw [slice, hdrop, List.take_succ_cons, slice]
    rw [hslice]
    simp only [readBytes, readAt_bind, read_bind, BufferProg.bind_assoc, pure_eq, ret_bind]
    exact (steps_read (getElem?_of_drop hdrop)).trans (ih (by omega) fun bs => f (_ :: bs))

/-- `readPoint`, node by node. -/
theorem readPoint_eq (derLen i : Nat) :
    readPoint derLen i = read i fun unusedBits => size (i + 1) fun offset =>
      if unusedBits ≠ 0x00 then reject
      else read offset fun pointFormat => size (offset + 1) fun offset =>
        if pointFormat ≠ 0x04 then reject
        else size (offset + 2 * P256_COORDINATE_SIZE) fun pointEnd =>
          if pointEnd > derLen then reject
          else readBytes P256_COORDINATE_SIZE offset >>= fun outX =>
            size (offset + P256_COORDINATE_SIZE) fun offset =>
              readBytes P256_COORDINATE_SIZE offset >>= fun outY => ret (outX, outY) := by
  simp only [readPoint, readAt_bind, sizeT_bind, pure_eq]

/-- A payload of at least 66 bytes: the coordinates behind `00 04`, or rejected. -/
theorem steps_readPoint (h : i + 66 ≤ der.length) (hder : der.length < 2 ^ 63) :
    Steps der (readPoint der.length i)
      (if der[i]? = some 0x00 ∧ der[i + 1]? = some 0x04 then
        ret (slice (i + 2) P256_COORDINATE_SIZE der,
          slice (i + 2 + P256_COORDINATE_SIZE) P256_COORDINATE_SIZE der)
      else reject) := by
  have hget : der[i]? = some der[i] := List.getElem?_eq_getElem (by omega)
  have hget' : der[i + 1]? = some der[i + 1] := List.getElem?_eq_getElem (by omega)
  rw [readPoint_eq]
  refine (steps_read hget).trans ?_
  refine (steps_size (by omega)).trans ?_
  by_cases hzero : der[i] = 0x00
  · rw [if_neg (not_not.mpr hzero)]
    refine (steps_read hget').trans ?_
    refine (steps_size (by omega)).trans ?_
    by_cases hfour : der[i + 1] = 0x04
    · rw [if_neg (not_not.mpr hfour), if_pos ⟨by rw [hget, hzero], by rw [hget', hfour]⟩]
      simp only [P256_COORDINATE_SIZE]
      refine (steps_size (by omega)).trans ?_
      rw [if_neg (by omega)]
      refine (steps_readBytes (by omega) _).trans ?_
      refine (steps_size (by omega)).trans ?_
      exact steps_readBytes (by omega) _
    · rw [if_pos hfour, if_neg]
      · exact .refl _
      · rintro ⟨-, h4⟩
        rw [hget', Option.some.injEq] at h4
        exact hfour h4
  · rw [if_pos hzero, if_neg]
    · exact .refl _
    · rintro ⟨h0, -⟩
      rw [hget, Option.some.injEq] at h0
      exact hzero h0

end Parts

/-! ### The answer of the reader -/

section Answer
variable {der : Bytes}

theorem exec_read_none {α : Type} {i : Nat} (h : der[i]? = none) (k : UInt8 → BufferProg α) :
    exec der (read i k) = none := by
  simp [exec, h]

/-- A byte inside the buffer is read, and the offset moves on without wrapping. -/
theorem exec_readNext {α : Type} (hder : der.length < 2 ^ 63) {i : Nat} {b : UInt8}
    (h : der[i]? = some b) (k : UInt8 → Nat → BufferProg α) :
    exec der (read i fun b => size (i + 1) (k b)) = exec der (k b (i + 1)) := by
  have hi : i < der.length := (List.getElem?_eq_some_iff.mp h).1
  rw [(sameRun_read h).exec, (sameRun_size_of_lt (by omega)).exec]

theorem exec_readLengthOctets {α : Type} (hder : der.length < 2 ^ 63) (n : Nat) {i len : Nat}
    (hlen : len < 2 ^ 64) (f : Nat × Nat → BufferProg α) :
    exec der (readLengthOctets n i len >>= f) =
      (parseDerLengthOctets der n i len).bind fun p => exec der (f p) := by
  induction n generalizing i len with
  | zero => rfl
  | succ n ih =>
    rw [readLengthOctets_succ_bind, parseDerLengthOctets]
    cases hb : der[i]? with
    | none => exact exec_read_none hb _
    | some b =>
      rw [exec_readNext hder hb, (sameRun_size _).exec]
      exact ih (Nat.mod_lt _ (by decide))

/-- What follows the answer of a part: nothing, or the rest of the reader. -/
def thenRun {α β : Type} (answer : Option (Option α)) (next : α → Option (Option β)) :
    Option (Option β) :=
  match answer with
  | none => none
  | some none => some none
  | some (some a) => next a

theorem exec_readLength {α : Type} (hder : der.length < 2 ^ 63) (i : Nat)
    (f : Nat × Nat → BufferProg α) :
    exec der (readLength der.length i >>= f) =
      thenRun (parseDerLength der i) fun p => exec der (f p) := by
  rw [readLength_bind, parseDerLength]
  cases hb : der[i]? with
  | none => exact exec_read_none hb _
  | some b =>
    have hnum : (b &&& 0x7F).toNat < 256 := (b &&& 0x7F).toNat_lt
    rw [(sameRun_read hb).exec]
    dsimp only
    split
    · rw [exec_readNext hder hb, (sameRun_size _).exec]
      show exec der (if addSize _ _ > _ then _ else _) = _
      split
      · rfl
      · rw [exec_readLengthOctets hder _ (by decide)]
        cases parseDerLengthOctets der (b &&& 0x7F).toNat (i + 1) 0 <;> rfl
    · rw [exec_readNext hder hb]
      rfl

theorem exec_readPoint (hder : der.length < 2 ^ 63) (i : Nat) :
    exec der (readPoint der.length i) =
      match der[i]? with
      | none => none
      | some unusedBits =>
        if unusedBits ≠ 0x00 then some none
        else match der[i + 1]? with
          | none => none
          | some pointFormat =>
            if pointFormat ≠ 0x04 then some none
            else if addSize (i + 2) (2 * P256_COORDINATE_SIZE) > der.length then some none
            else some (some (slice (i + 2) P256_COORDINATE_SIZE der,
              slice (i + 2 + P256_COORDINATE_SIZE) P256_COORDINATE_SIZE der)) := by
  rw [readPoint_eq]
  cases hb : der[i]? with
  | none => exact exec_read_none hb _
  | some unusedBits =>
    rw [exec_readNext hder hb]
    dsimp only
    split
    · rfl
    cases hb' : der[i + 1]? with
    | none => exact exec_read_none hb' _
    | some pointFormat =>
      have hi' : i + 1 < der.length := (List.getElem?_eq_some_iff.mp hb').1
      rw [exec_readNext hder hb']
      dsimp only
      split
      · rfl
      have hsize : P256_COORDINATE_SIZE = 32 := rfl
      have hend : addSize (i + 2) (2 * P256_COORDINATE_SIZE) =
          i + 1 + 1 + 2 * P256_COORDINATE_SIZE := by
        rw [addSize]
        omega
      rw [(sameRun_size_of_lt (by omega)).exec, hend]
      by_cases hover : i + 1 + 1 + 2 * P256_COORDINATE_SIZE > der.length
      · rw [if_pos hover, if_pos hover]
        rfl
      · rw [if_neg hover, if_neg hover, (steps_readBytes (by omega) _).run.exec,
          (sameRun_size_of_lt (by omega)).exec]
        exact (steps_readBytes (by omega) _).run.exec

theorem exec_readSubjectPublicKey (hder : der.length < 2 ^ 63) (i : Nat) :
    exec der (readSubjectPublicKey der.length i) = parseSpkiPoint der i := by
  rw [readSubjectPublicKey_eq, parseSpkiPoint]
  cases hb : der[i]? with
  | none => exact exec_read_none hb _
  | some tag =>
    rw [exec_readNext hder hb]
    dsimp only
    split
    · rfl
    split
    · rfl
    rw [exec_readLength hder]
    rcases hlength : parseDerLength der (i + 1) with _ | _ | ⟨offset, bitStrLen⟩
    · rfl
    · rfl
    · show exec der (bitStringEnd der.length offset bitStrLen (addSize offset bitStrLen)) = _
      rw [bitStringEnd]
      dsimp only
      by_cases hout : addSize offset bitStrLen > der.length ∨ bitStrLen < 66
      · rw [if_pos hout, if_pos hout]
        rfl
      · rw [if_neg hout, if_neg hout]
        exact exec_readPoint hder offset

theorem exec_readAlgorithm {α : Type} (hder : der.length < 2 ^ 63) (i : Nat)
    (f : Nat → BufferProg α) :
    exec der (readAlgorithm der.length i >>= f) =
      if i ≥ der.length then some none
      else match der[i]? with
        | none => none
        | some alg =>
          if alg ≠ 0x30 then some none
          else thenRun (parseDerLength der (i + 1)) fun p =>
            if addSize p.1 p.2 ≥ der.length then some none else exec der (f (addSize p.1 p.2)) := by
  rw [readAlgorithm_bind]
  split
  · rfl
  next hi =>
    cases hb : der[i]? with
    | none => exact exec_read_none hb _
    | some alg =>
      rw [exec_readNext hder hb]
      dsimp only
      split
      · rfl
      rw [exec_readLength hder]
      congr 1
      funext p
      show exec der (if addSize _ _ ≥ _ then _ else _) = _
      split <;> rfl

theorem exec_readRoot {α : Type} (hmin : 30 ≤ der.length) {root form : UInt8}
    (hroot : der[0]? = some root) (hform : der[1]? = some form) (f : Nat → BufferProg α) :
    exec der (readRoot der.length >>= f) =
      if root ≠ 0x30 then some none
      else thenRun (skipRootLength der 1) fun offset => exec der (f offset) := by
  have hnum : (form &&& 0x7F).toNat < 256 := (form &&& 0x7F).toNat_lt
  rw [readRoot_bind, skipRootLength, hform, (sameRun_read hroot).exec,
    (sameRun_size_of_lt (by decide)).exec]
  dsimp only
  split
  · rfl
  rw [if_neg (by omega), (sameRun_read hform).exec]
  split
  · rw [(sameRun_read hform).exec, (sameRun_size_of_lt (by decide)).exec, (sameRun_size _).exec]
    show exec der (if addSize _ _ > _ then _ else _) = _
    split
    · rfl
    · rw [(sameRun_size_of_lt (by omega)).exec]
      rfl
  · rw [(sameRun_size_of_lt (by decide)).exec]
    rfl

/-- The program answers what the reader answers. -/
theorem exec_spkiReader (hder : der.length < 2 ^ 63) :
    exec der (spkiReader der.length) = parseSpkiDer der := by
  rw [spkiReader, parseSpkiDer]
  split
  · rfl
  next hmin =>
    obtain ⟨root, hroot⟩ : ∃ root, der[0]? = some root :=
      ⟨_, List.getElem?_eq_getElem (by omega)⟩
    obtain ⟨form, hform⟩ : ∃ form, der[1]? = some form :=
      ⟨_, List.getElem?_eq_getElem (by omega)⟩
    rw [exec_readRoot (by omega) hroot hform, hroot]
    dsimp only
    split
    · rfl
    rcases skipRootLength der 1 with _ | _ | offset
    · rfl
    · rfl
    show exec der (readAlgorithm der.length offset >>= _) = _
    rw [exec_readAlgorithm hder]
    dsimp only
    split
    · rfl
    cases der[offset]? with
    | none => rfl
    | some alg =>
      dsimp only
      split
      · rfl
      rcases parseDerLength der (offset + 1) with _ | _ | ⟨offset, algSeqLen⟩
      · rfl
      · rfl
      · simp only [thenRun, exec_readSubjectPublicKey hder]

end Answer

end MobileUnlock.Crypto
