import MobileUnlock.Proofs.SpkiReader

/-!
# `MobileUnlock.Proofs.SpkiBounds`: the DER reader and the bounds of its input

The reader checks its offset against the length of the input at most places, and it misses two
things. It does not check the offset behind the tag of the algorithm identifier, where it reads
the length. And its sums of an offset and a length are done in `size_t`, where they can come out
small. `stays_spkiReader_iff` says that nothing else goes wrong.
-/

set_option autoImplicit false

namespace MobileUnlock.Crypto

open MobileUnlock.Lib MobileUnlock.Lib.BufferProg

section Stays
variable {der : Bytes} {i : Nat} {field octets rest : Bytes}

/-- An algorithm identifier whose end `size_t` can hold. -/
theorem stays_readAlgorithm {α : Type} (hfield : LengthField field octets)
    (h : der.drop i = 0x30 :: (field ++ rest)) (hder : der.length < 2 ^ 63)
    (hfits : i + 1 + field.length + natOfBE octets < 2 ^ 64) (f : Nat → BufferProg α) :
    Stays der (readAlgorithm der.length i >>= f) ↔
      (i + 1 + field.length + natOfBE octets < der.length →
        Stays der (f (i + 1 + field.length + natOfBE octets))) := by
  rw [(readAlgorithm_tag (getElem?_of_drop h) hder f).stays,
    stays_lengthThenEnd hfield (drop_succ_of_drop h) hder _ hfits, algorithmEnd]
  split
  · exact iff_of_true stays_reject fun hlt => by omega
  · exact ⟨fun hs _ => hs, fun hs => hs (by omega)⟩

/-- One whose end overflows. What follows reads at once, so it must not come to that. -/
theorem stays_readAlgorithm_overflow {α : Type} (hfield : LengthField field octets)
    (h : der.drop i = 0x30 :: (field ++ rest)) (hder : der.length < 2 ^ 63)
    (hover : 2 ^ 64 ≤ i + 1 + field.length + natOfBE octets) {f : Nat → BufferProg α}
    (hf : ∀ o, ¬ Halts (f o)) :
    Stays der (readAlgorithm der.length i >>= f) ↔
      natOfBE octets.dropLast < 2 ^ 64 ∧
      der.length ≤ (i + 1 + field.length + natOfBE octets) % 2 ^ 64 := by
  rw [(readAlgorithm_tag (getElem?_of_drop h) hder f).stays,
    stays_lengthThenEnd_overflow hfield (drop_succ_of_drop h) hder _ hover, algorithmEnd]
  split
  next hge => exact and_congr_right fun _ => iff_of_true ⟨halts_reject, stays_reject⟩ hge
  next hlt =>
    exact and_congr_right fun _ => iff_of_false (fun hs => hf _ hs.1) fun hle => hlt hle

/-- The tag of the algorithm identifier is the last byte: its length is read behind the end. -/
theorem not_stays_readAlgorithm {α : Type} (h : der.drop i = [0x30]) (hder : der.length < 2 ^ 63)
    (f : Nat → BufferProg α) : ¬ Stays der (readAlgorithm der.length i >>= f) := by
  have hlast : der[i + 1]? = none := by
    rw [← List.head?_drop, drop_succ_of_drop h]
    rfl
  rw [(readAlgorithm_tag (getElem?_of_drop h) hder f).stays, readLength_bind]
  exact not_stays_read hlast

/-- A bit string whose end `size_t` can hold. -/
theorem stays_readSubjectPublicKey (hfield : LengthField field octets)
    (h : der.drop i = 0x03 :: (field ++ rest)) (hder : der.length < 2 ^ 63)
    (hfits : i + 1 + field.length + natOfBE octets < 2 ^ 64) :
    Stays der (readSubjectPublicKey der.length i) := by
  have hdrop : der.drop (i + 1) = field ++ rest := drop_succ_of_drop h
  have hlength := length_of_drop hfield.ne_nil hdrop
  have hpos := List.length_pos_iff.mpr hfield.ne_nil
  rw [(readSubjectPublicKey_tag (getElem?_of_drop h) (by omega) hder).stays,
    stays_lengthThenEnd hfield hdrop hder _ hfits, bitStringEnd]
  split
  · exact stays_reject
  next hin =>
    rw [(steps_readPoint (by omega) hder).stays]
    split
    · exact stays_ret _
    · exact stays_reject

/-- One whose end overflows. -/
theorem stays_readSubjectPublicKey_overflow (hfield : LengthField field octets)
    (h : der.drop i = 0x03 :: (field ++ rest)) (hder : der.length < 2 ^ 63)
    (hover : 2 ^ 64 ≤ i + 1 + field.length + natOfBE octets) :
    Stays der (readSubjectPublicKey der.length i) ↔
      natOfBE octets.dropLast < 2 ^ 64 ∧
      (der.length < (i + 1 + field.length + natOfBE octets) % 2 ^ 64 ∨
        natOfBE octets % 2 ^ 64 < 66) := by
  have hdrop : der.drop (i + 1) = field ++ rest := drop_succ_of_drop h
  have hlength := length_of_drop hfield.ne_nil hdrop
  have hpos := List.length_pos_iff.mpr hfield.ne_nil
  rw [(readSubjectPublicKey_tag (getElem?_of_drop h) (by omega) hder).stays,
    stays_lengthThenEnd_overflow hfield hdrop hder _ hover, bitStringEnd]
  split
  next hout => exact and_congr_right fun _ => iff_of_true ⟨halts_reject, stays_reject⟩ hout
  next hin =>
    refine and_congr_right fun _ => iff_of_false ?_ hin
    rintro ⟨hhalts, -⟩
    rw [readPoint_eq] at hhalts
    exact not_halts_read _ hhalts

end Stays

/-- The input ends with the tag of the algorithm identifier. -/
def AlgorithmTagLast (der : Bytes) : Prop :=
  ∃ root rootOctets, LengthField root rootOctets ∧ der = 0x30 :: root ++ [0x30]

/-- The length of the algorithm identifier overflows, and the reader goes on: with the octets
before the last one, or with the end, which turns up inside the input. -/
def AlgorithmLengthOverflows (der : Bytes) : Prop :=
  ∃ root rootOctets field octets rest, LengthField root rootOctets ∧ LengthField field octets ∧
    der = 0x30 :: root ++ 0x30 :: (field ++ rest) ∧
    (2 ^ 64 ≤ natOfBE octets.dropLast ∨
      2 ^ 64 ≤ 2 + root.length + field.length + natOfBE octets ∧
      (2 + root.length + field.length + natOfBE octets) % 2 ^ 64 < der.length)

/-- The length of the bit string overflows, and the reader goes on. -/
def BitStringLengthOverflows (der : Bytes) : Prop :=
  ∃ root rootOctets algField algOctets alg field octets rest,
    LengthField root rootOctets ∧ LengthField algField algOctets ∧ LengthField field octets ∧
    natOfBE algOctets = alg.length ∧
    der = 0x30 :: root ++ 0x30 :: (algField ++ (alg ++ 0x03 :: (field ++ rest))) ∧
    (2 ^ 64 ≤ natOfBE octets.dropLast ∨
      2 ^ 64 ≤ 3 + root.length + algField.length + alg.length + field.length + natOfBE octets ∧
      (3 + root.length + algField.length + alg.length + field.length + natOfBE octets) % 2 ^ 64 ≤
        der.length ∧
      66 ≤ natOfBE octets % 2 ^ 64)

section Bounds
variable {der : Bytes}

/-- Behind the root. -/
theorem steps_spkiReader {root octets rest : Bytes} (hmin : 30 ≤ der.length)
    (hroot : LengthField root octets) (h : der = 0x30 :: root ++ rest)
    (hder : der.length < 2 ^ 63) :
    Steps der (spkiReader der.length)
      (readAlgorithm der.length (1 + root.length) >>= readSubjectPublicKey der.length) := by
  rw [spkiReader, if_neg (by omega)]
  exact steps_readRoot hroot h hder _

theorem not_halts_readSubjectPublicKey (derLen i : Nat) :
    ¬ Halts (readSubjectPublicKey derLen i) := by
  rw [readSubjectPublicKey_eq]
  exact not_halts_read _

theorem drop_of_root {root rest : Bytes} (h : der = 0x30 :: root ++ rest) :
    der.drop (1 + root.length) = rest := by
  rw [h, Nat.add_comm, List.cons_append, List.drop_succ_cons, List.drop_left]

/-- The position behind the algorithm identifier. -/
theorem drop_of_algorithm {root field alg rest : Bytes}
    (h : der = 0x30 :: root ++ 0x30 :: (field ++ (alg ++ rest))) :
    der.drop (1 + root.length + 1 + field.length + alg.length) = rest :=
  drop_add_of_drop (drop_add_of_drop (drop_succ_of_drop (drop_of_root h)))

theorem not_stays_of_algorithmTagLast (hmin : 30 ≤ der.length) (hder : der.length < 2 ^ 63)
    (h : AlgorithmTagLast der) : ¬ Stays der (spkiReader der.length) := by
  obtain ⟨root, octets, hroot, heq⟩ := h
  rw [(steps_spkiReader hmin hroot heq hder).stays]
  exact not_stays_readAlgorithm (drop_of_root heq) hder _

theorem not_stays_of_algorithmLengthOverflows (hmin : 30 ≤ der.length)
    (hder : der.length < 2 ^ 63) (h : AlgorithmLengthOverflows der) :
    ¬ Stays der (spkiReader der.length) := by
  obtain ⟨root, rootOctets, field, octets, rest, hroot, hfield, heq, hover⟩ := h
  have hinit := natOfBE_dropLast_le octets
  rw [(steps_spkiReader hmin hroot heq hder).stays,
    stays_readAlgorithm_overflow hfield (drop_of_root heq) hder (by omega)
      (not_halts_readSubjectPublicKey _)]
  have hend : 1 + root.length + 1 + field.length + natOfBE octets =
      2 + root.length + field.length + natOfBE octets := by omega
  rw [hend]
  omega

theorem not_stays_of_bitStringLengthOverflows (hmin : 30 ≤ der.length)
    (hder : der.length < 2 ^ 63) (h : BitStringLengthOverflows der) :
    ¬ Stays der (spkiReader der.length) := by
  obtain ⟨root, rootOctets, algField, algOctets, alg, field, octets, rest, hroot, halg, hfield,
    hvalue, heq, hover⟩ := h
  have hinit := natOfBE_dropLast_le octets
  have hdrop := drop_of_algorithm heq
  have hlength := length_of_drop (List.cons_ne_nil 0x03 []) hdrop
  have hend : 1 + root.length + 1 + algField.length + alg.length + 1 + field.length +
      natOfBE octets =
      3 + root.length + algField.length + alg.length + field.length + natOfBE octets := by omega
  rw [List.length_singleton] at hlength
  rw [(steps_spkiReader hmin hroot heq hder).stays,
    stays_readAlgorithm halg (drop_of_root heq) hder (by omega), hvalue]
  intro hstays
  have hkey := hstays (by omega)
  rw [stays_readSubjectPublicKey_overflow hfield hdrop hder (by omega), hend] at hkey
  omega

/-- Behind the algorithm identifier, an input whose bit string length does not overflow. -/
theorem stays_of_not_bitStringLengthOverflows {root rootOctets algField algOctets alg tail : Bytes}
    (hder : der.length < 2 ^ 63) (hroot : LengthField root rootOctets)
    (halg : LengthField algField algOctets) (hvalue : natOfBE algOctets = alg.length)
    (heq : der = 0x30 :: root ++ 0x30 :: (algField ++ (alg ++ tail))) (htail : tail ≠ [])
    (hnot : ¬ BitStringLengthOverflows der) :
    Stays der
      (readSubjectPublicKey der.length (1 + root.length + 1 + algField.length + alg.length)) := by
  have htailAt := drop_of_algorithm heq
  generalize hi : 1 + root.length + 1 + algField.length + alg.length = i at htailAt
  have hlength := length_of_drop htail (htailAt.trans (List.append_nil tail).symm)
  have hpos := List.length_pos_iff.mpr htail
  rw [List.length_nil] at hlength
  rcases readSubjectPublicKey_cases hder (i := i) (by omega) with
    hrejects | ⟨field, octets, rest, hfield, hdrop⟩
  · rw [hrejects.stays]
    exact stays_reject
  rcases Nat.lt_or_ge (i + 1 + field.length + natOfBE octets) (2 ^ 64) with hfits | hover
  · exact stays_readSubjectPublicKey hfield hdrop hder hfits
  refine (stays_readSubjectPublicKey_overflow hfield hdrop hder hover).mpr ?_
  by_contra hbad
  rw [← htailAt, hdrop] at heq
  refine hnot ⟨root, rootOctets, algField, algOctets, alg, field, octets, rest, hroot, halg,
    hfield, hvalue, heq, ?_⟩
  have hend : 3 + root.length + algField.length + alg.length + field.length + natOfBE octets =
      i + 1 + field.length + natOfBE octets := by omega
  rw [hend]
  omega

/-- Behind the root, an input of none of the three kinds. -/
theorem stays_behind_root {root rootOctets tail : Bytes} (hder : der.length < 2 ^ 63)
    (hroot : LengthField root rootOctets) (heq : der = 0x30 :: root ++ tail)
    (hlast : ¬ AlgorithmTagLast der) (halgOver : ¬ AlgorithmLengthOverflows der)
    (hbitOver : ¬ BitStringLengthOverflows der) :
    Stays der
      (readAlgorithm der.length (1 + root.length) >>= readSubjectPublicKey der.length) := by
  rcases readAlgorithm_cases (α := Bytes × Bytes) hder (1 + root.length) with
    hrejects | hend | ⟨field, octets, rest, hfield, hdrop⟩
  · rw [(hrejects _).stays]
    exact stays_reject
  · rw [← drop_of_root heq, hend] at heq
    exact absurd ⟨root, rootOctets, hroot, heq⟩ hlast
  have hrest := drop_succ_of_drop hdrop
  rw [← drop_of_root heq, hdrop] at heq
  rcases Nat.lt_or_ge (1 + root.length + 1 + field.length + natOfBE octets) (2 ^ 64) with
    hfits | hover
  · refine (stays_readAlgorithm hfield hdrop hder hfits _).mpr fun hlt => ?_
    -- The content of the algorithm identifier and what is behind it.
    have hlength := length_of_drop hfield.ne_nil hrest
    have hsplit := (List.take_append_drop (natOfBE octets) rest).symm
    have hvalue : natOfBE octets = (rest.take (natOfBE octets)).length := by
      rw [List.length_take]
      omega
    rw [hsplit] at heq
    have hstays := stays_of_not_bitStringLengthOverflows hder hroot hfield hvalue heq (by
      rw [← List.length_pos_iff, List.length_drop]
      omega) hbitOver
    rwa [← hvalue] at hstays
  · refine (stays_readAlgorithm_overflow hfield hdrop hder hover
      (not_halts_readSubjectPublicKey _)).mpr ?_
    by_contra hbad
    refine halgOver ⟨root, rootOctets, field, octets, rest, hroot, hfield, heq, ?_⟩
    have hend : 2 + root.length + field.length + natOfBE octets =
        1 + root.length + 1 + field.length + natOfBE octets := by omega
    rw [hend]
    omega

/-- For an input of any length a vector can have: the reader reads inside the input and goes on
with exact sizes only, unless the input is of one of three kinds. -/
theorem stays_spkiReader_iff (der : Bytes) (hder : der.length < 2 ^ 63) :
    Stays der (spkiReader der.length) ↔
      (30 ≤ der.length → ¬ AlgorithmTagLast der ∧ ¬ AlgorithmLengthOverflows der ∧
        ¬ BitStringLengthOverflows der) := by
  constructor
  · intro hstays hmin
    exact ⟨fun h => not_stays_of_algorithmTagLast hmin hder h hstays,
      fun h => not_stays_of_algorithmLengthOverflows hmin hder h hstays,
      fun h => not_stays_of_bitStringLengthOverflows hmin hder h hstays⟩
  · intro hcond
    rcases Nat.lt_or_ge der.length 30 with hshort | hmin
    · rw [spkiReader, if_pos hshort]
      exact stays_reject
    obtain ⟨hlast, halgOver, hbitOver⟩ := hcond hmin
    rcases readRoot_cases (α := Bytes × Bytes) hmin hder with
      ⟨root, rootOctets, rest, hroot, heq⟩ | hrejects
    swap
    · rw [spkiReader, if_neg (by omega), (hrejects _).stays]
      exact stays_reject
    rw [(steps_spkiReader hmin hroot heq hder).stays]
    exact stays_behind_root hder hroot heq hlast halgOver hbitOver

end Bounds

/-- An input that is rejected at its first byte. -/
theorem stays_spkiReader_zeros : Stays (List.replicate 30 0) (spkiReader 30) := by
  refine (stays_spkiReader_iff (List.replicate 30 0) (by decide)).mpr fun _ => ⟨?_, ?_, ?_⟩
  · rintro ⟨root, rootOctets, -, heq⟩
    cases heq
  · rintro ⟨root, rootOctets, field, octets, rest, -, -, heq, -⟩
    cases heq
  · rintro ⟨root, rootOctets, algField, algOctets, alg, field, octets, rest, -, -, -, -, heq, -⟩
    cases heq

/-- A root length of 27 octets puts the tag of the algorithm identifier at index 29, the last one
of this input, and its length is read at index 30. -/
theorem spkiReader_reads_behind_end :
    ¬ ∀ der : Bytes, der.length < 2 ^ 63 → Stays der (spkiReader der.length) := by
  intro hall
  have hlast : AlgorithmTagLast (0x30 :: (0x9B :: List.replicate 27 0) ++ [0x30]) :=
    ⟨_, _, .long (by decide), rfl⟩
  exact not_stays_of_algorithmTagLast (by decide) (by decide) hlast (hall _ (by decide))

end MobileUnlock.Crypto
