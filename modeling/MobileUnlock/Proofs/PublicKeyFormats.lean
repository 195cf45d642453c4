import MobileUnlock.Proofs.SpkiBounds

/-!
# `MobileUnlock.Proofs.PublicKeyFormats`: the key formats

The DER reader is lenient: it skips the root length and the algorithm identifier without a look
at them, takes a bit string that is longer than a point, and does not mind what follows.
`parseSpkiDer_eq_some_iff` says what it accepts.

`normalizePublicKeyToEccBlob` brings four formats to the 72-byte blob. Where the DER reader
leaves the input, what it reads is whatever lies there. `Cng.inMemory` puts the run of the
reader on such a memory in the place of the oracle's `wildKey`, and `wildKeyOf_eq_none` shows that
this never gives a key.
-/

set_option autoImplicit false

namespace MobileUnlock.Crypto

open MobileUnlock.Lib MobileUnlock.Lib.BufferProg

/-! ### What the DER reader accepts -/

/-- The inputs with the point `(x, y)`, as the reader sees them. The root length and the content
of the algorithm identifier are free, the bit string has at least 66 bytes, and they are there. -/
def IsLenientSpki (der x y : Bytes) : Prop :=
  ∃ root rootOctets algField algOctets alg field octets rest,
    LengthField root rootOctets ∧ LengthField algField algOctets ∧ LengthField field octets ∧
    natOfBE algOctets = alg.length ∧ 66 ≤ natOfBE octets ∧ natOfBE octets ≤ 66 + rest.length ∧
    x.length = 32 ∧ y.length = 32 ∧
    der = 0x30 :: root ++ 0x30 :: (algField ++ (alg ++ 0x03 :: (field ++
      0x00 :: 0x04 :: (x ++ y ++ rest))))

section Accepts
variable {der : Bytes} {i : Nat} {field octets rest x y : Bytes}

/-- A payload `00 04 X Y …` gives its coordinates. -/
theorem exec_readPoint_of_drop (hder : der.length < 2 ^ 63) (hx : x.length = 32)
    (hy : y.length = 32) (h : der.drop i = 0x00 :: 0x04 :: (x ++ y ++ rest)) :
    exec der (readPoint der.length i) = some (some (x, y)) := by
  have hlength := length_of_drop (List.cons_ne_nil 0x00 (0x04 :: (x ++ y))) h
  have hdrop : der.drop (i + 2) = x ++ (y ++ rest) := by
    rw [← List.append_assoc]
    exact drop_succ_of_drop (drop_succ_of_drop h)
  simp only [List.length_cons, List.length_append] at hlength
  rw [(steps_readPoint (by omega) hder).run.exec,
    if_pos ⟨getElem?_of_drop h, getElem?_of_drop (drop_succ_of_drop h)⟩]
  have hsx : slice (i + 2) P256_COORDINATE_SIZE der = x := by
    rw [slice, hdrop, P256_COORDINATE_SIZE, ← hx, List.take_left]
  have hsy : slice (i + 2 + P256_COORDINATE_SIZE) P256_COORDINATE_SIZE der = y := by
    rw [slice, P256_COORDINATE_SIZE, ← hx, drop_add_of_drop hdrop, hx, ← hy, List.take_left]
  rw [hsx, hsy]
  rfl

/-- A payload of at least 66 bytes that gives coordinates is `00 04 X Y …`. -/
theorem drop_of_exec_readPoint (hder : der.length < 2 ^ 63) (hi : i + 66 ≤ der.length)
    (h : exec der (readPoint der.length i) = some (some (x, y))) :
    ∃ rest, der.drop i = 0x00 :: 0x04 :: (x ++ y ++ rest) ∧ x.length = 32 ∧ y.length = 32 := by
  rw [(steps_readPoint hi hder).run.exec] at h
  split at h
  next htags =>
    have hxy := Option.some.inj (Option.some.inj h)
    rw [Prod.mk.injEq] at hxy
    obtain ⟨rfl, rfl⟩ := hxy
    refine ⟨der.drop (i + 66), ?_, length_slice (by simp [P256_COORDINATE_SIZE]; omega),
      length_slice (by simp [P256_COORDINATE_SIZE]; omega)⟩
    rw [List.drop_eq_getElem_cons (by omega), List.drop_eq_getElem_cons (by omega)]
    rw [List.getElem?_eq_getElem (by omega), List.getElem?_eq_getElem (by omega),
      Option.some.injEq, Option.some.injEq] at htags
    have hrest : der.drop (i + 66) = (der.drop (i + 2)).drop 64 := by rw [List.drop_drop]
    rw [htags.1, htags.2, slice_append_slice, slice, hrest]
    exact congrArg (0x00 :: 0x04 :: ·) (List.take_append_drop 64 _).symm
  next => cases h

/-- A bit string that gives coordinates, in a run that stays inside the input. -/
theorem drop_of_exec_readSubjectPublicKey (hder : der.length < 2 ^ 63) (hi : i < der.length)
    (hstays : Stays der (readSubjectPublicKey der.length i))
    (h : exec der (readSubjectPublicKey der.length i) = some (some (x, y))) :
    ∃ field octets rest, LengthField field octets ∧ 66 ≤ natOfBE octets ∧
      natOfBE octets ≤ 66 + rest.length ∧ x.length = 32 ∧ y.length = 32 ∧
      der.drop i = 0x03 :: (field ++ 0x00 :: 0x04 :: (x ++ y ++ rest)) := by
  rcases readSubjectPublicKey_cases hder hi with hrejects | ⟨field, octets, rest, hfield, hdrop⟩
  · rw [hrejects.run.exec] at h
    cases h
  have hrest : der.drop (i + 1) = field ++ rest := drop_succ_of_drop hdrop
  have hlength := length_of_drop hfield.ne_nil hrest
  rw [(sameRun_readSubjectPublicKey hfield hdrop hder).exec, bitStringEnd] at h
  split at h
  · cases h
  next hin =>
    -- An end that overflows would have been rejected.
    have hfits : i + 1 + field.length + natOfBE octets < 2 ^ 64 := by
      by_contra hover
      have hout := (stays_readSubjectPublicKey_overflow hfield hdrop hder (by omega)).mp hstays
      exact hin hout.2
    rw [Nat.mod_eq_of_lt hfits, Nat.mod_eq_of_lt (by omega : natOfBE octets < 2 ^ 64)] at hin
    obtain ⟨rest', hpoint, hx, hy⟩ := drop_of_exec_readPoint hder (by omega) h
    rw [drop_add_of_drop hrest] at hpoint
    refine ⟨field, octets, rest', hfield, by omega, ?_, hx, hy, by rw [hdrop, hpoint]⟩
    have hrestLength := congrArg List.length hpoint
    simp only [List.length_cons, List.length_append] at hrestLength
    omega

/-- What an input of the lenient form gives. -/
theorem exec_spkiReader_of_isLenientSpki (hder : der.length < 2 ^ 63) (h : IsLenientSpki der x y) :
    exec der (spkiReader der.length) = some (some (x, y)) := by
  obtain ⟨root, rootOctets, algField, algOctets, alg, field, octets, rest, hroot, halg, hfield,
    hvalue, hmin66, hthere, hx, hy, heq⟩ := h
  have hlen := congrArg List.length heq
  simp only [List.length_cons, List.length_append] at hlen
  have hdrop := drop_of_algorithm heq
  have hpoint := drop_add_of_drop (drop_succ_of_drop hdrop)
  rw [(steps_spkiReader (by omega) hroot heq hder).run.exec,
    (sameRun_readAlgorithm halg (drop_of_root heq) hder _).exec, algorithmEnd, hvalue,
    Nat.mod_eq_of_lt (by omega), if_neg (by omega),
    (sameRun_readSubjectPublicKey hfield hdrop hder).exec, bitStringEnd,
    Nat.mod_eq_of_lt (by omega), Nat.mod_eq_of_lt (by omega), if_neg (by omega)]
  exact exec_readPoint_of_drop hder hx hy hpoint

theorem stays_of_isLenientSpki (hder : der.length < 2 ^ 63) (h : IsLenientSpki der x y) :
    Stays der (spkiReader der.length) := by
  obtain ⟨root, rootOctets, algField, algOctets, alg, field, octets, rest, hroot, halg, hfield,
    hvalue, hmin66, hthere, hx, hy, heq⟩ := h
  have hlen := congrArg List.length heq
  simp only [List.length_cons, List.length_append] at hlen
  rw [(steps_spkiReader (by omega) hroot heq hder).stays,
    stays_readAlgorithm halg (drop_of_root heq) hder (by omega), hvalue]
  intro _
  exact stays_readSubjectPublicKey hfield (drop_of_algorithm heq) hder (by omega)

/-- What gives coordinates, in a run that stays inside the input, is of the lenient form. -/
theorem isLenientSpki_of_exec (hder : der.length < 2 ^ 63)
    (hstays : Stays der (spkiReader der.length))
    (h : exec der (spkiReader der.length) = some (some (x, y))) : IsLenientSpki der x y := by
  rcases Nat.lt_or_ge der.length 30 with hshort | hmin
  · rw [spkiReader, if_pos hshort] at h
    cases h
  rcases readRoot_cases (α := Bytes × Bytes) hmin hder with
    ⟨root, rootOctets, tail, hroot, heq⟩ | hrejects
  swap
  · rw [spkiReader, if_neg (by omega), (hrejects _).run.exec] at h
    cases h
  rw [(steps_spkiReader hmin hroot heq hder).run.exec] at h
  rw [(steps_spkiReader hmin hroot heq hder).stays] at hstays
  rcases readAlgorithm_cases (α := Bytes × Bytes) hder (1 + root.length) with
    hrejects | hlast | ⟨algField, algOctets, rest, halg, hdrop⟩
  · rw [(hrejects _).run.exec] at h
    cases h
  · exact absurd hstays (not_stays_readAlgorithm hlast hder _)
  have hrest := drop_succ_of_drop hdrop
  rw [← drop_of_root heq, hdrop] at heq
  rw [(sameRun_readAlgorithm halg hdrop hder _).exec, algorithmEnd] at h
  split at h
  · cases h
  next hin =>
    have hfits : 1 + root.length + 1 + algField.length + natOfBE algOctets < 2 ^ 64 := by
      by_contra hover
      have hout := (stays_readAlgorithm_overflow halg hdrop hder (by omega)
        (not_halts_readSubjectPublicKey _)).mp hstays
      exact hin hout.2
    rw [Nat.mod_eq_of_lt hfits] at hin h
    have hkey := (stays_readAlgorithm halg hdrop hder hfits _).mp hstays (by omega)
    obtain ⟨field, octets, rest', hfield, hmin66, hthere, hx, hy, hbits⟩ :=
      drop_of_exec_readSubjectPublicKey hder (by omega) hkey h
    -- The content of the algorithm identifier.
    have hlength := length_of_drop halg.ne_nil hrest
    have hskip : rest.drop (natOfBE algOctets) =
        0x03 :: (field ++ 0x00 :: 0x04 :: (x ++ y ++ rest')) := by
      rw [← hbits, ← drop_add_of_drop hrest, List.drop_drop]
    refine ⟨root, rootOctets, algField, algOctets, rest.take (natOfBE algOctets), field, octets,
      rest', hroot, halg, hfield, ?_, hmin66, hthere, hx, hy, ?_⟩
    · rw [List.length_take]
      omega
    · rw [← hskip, List.take_append_drop]
      exact heq

end Accepts

/-- For every input on which the reader stays inside the input and goes on with exact sizes only:
it accepts with the coordinates `x` and `y` exactly the inputs of the lenient form. -/
theorem parseSpkiDer_eq_some_iff (der : Bytes) (hder : der.length < 2 ^ 63)
    (hstays : Stays der (spkiReader der.length)) (x y : Bytes) :
    parseSpkiDer der = some (some (x, y)) ↔ IsLenientSpki der x y := by
  rw [← exec_spkiReader hder]
  exact ⟨isLenientSpki_of_exec hder hstays, exec_spkiReader_of_isLenientSpki hder⟩

/-- The content of the algorithm identifier of a P-256 key: the object identifiers id-ecPublicKey
and prime256v1. -/
def p256Algorithm : Bytes :=
  [0x06, 0x07, 0x2A, 0x86, 0x48, 0xCE, 0x3D, 0x02, 0x01,
   0x06, 0x08, 0x2A, 0x86, 0x48, 0xCE, 0x3D, 0x03, 0x01, 0x07]

/-- The SubjectPublicKeyInfo of a P-256 point. -/
def spkiDer (x y : Bytes) : Bytes :=
  0x30 :: 0x59 :: 0x30 :: 0x13 :: (p256Algorithm ++ 0x03 :: 0x42 :: 0x00 :: 0x04 :: (x ++ y))

theorem isLenientSpki_spkiDer {x y : Bytes} (hx : x.length = 32) (hy : y.length = 32)
    (rest : Bytes) : IsLenientSpki (spkiDer x y ++ rest) x y := by
  refine ⟨[0x59], [0x59], [0x13], [0x13], p256Algorithm, [0x42], [0x42], rest,
    .short (by decide), .short (by decide), .short (by decide), by decide, by decide, ?_, hx, hy,
    ?_⟩
  · rw [natOfBE_singleton]
    exact Nat.le_add_right 66 _
  · simp [spkiDer]

/-- The SubjectPublicKeyInfo of the point `(0, 0)` stays inside and is accepted. -/
theorem parseSpkiDer_spkiDer_zero :
    parseSpkiDer (spkiDer (List.replicate 32 0) (List.replicate 32 0)) =
      some (some (List.replicate 32 0, List.replicate 32 0)) := by
  have hform := isLenientSpki_spkiDer (x := List.replicate 32 0) (y := List.replicate 32 0)
    (by decide) (by decide) []
  rw [List.append_nil] at hform
  exact (parseSpkiDer_eq_some_iff _ (by decide) (stays_of_isLenientSpki (by decide) hform) _ _).mpr
    hform

/-- The P-256 keys in DER: the lengths cover what follows exactly, the algorithm is P-256, and the
bit string ends the input. -/
def IsP256Spki (der x y : Bytes) : Prop :=
  ∃ root rootOctets algField algOctets field octets body,
    LengthField root rootOctets ∧ LengthField algField algOctets ∧ LengthField field octets ∧
    natOfBE rootOctets = body.length ∧ natOfBE algOctets = p256Algorithm.length ∧
    natOfBE octets = 66 ∧ x.length = 32 ∧ y.length = 32 ∧
    body = 0x30 :: (algField ++ (p256Algorithm ++ 0x03 :: (field ++ 0x00 :: 0x04 :: (x ++ y)))) ∧
    der = 0x30 :: root ++ body

/-- A key with one more byte behind the bit string is accepted. -/
theorem parseSpkiDer_trailing_byte :
    ¬ ∀ der x y, Stays der (spkiReader der.length) → parseSpkiDer der = some (some (x, y)) →
      IsP256Spki der x y := by
  intro hall
  have hform := isLenientSpki_spkiDer (x := List.replicate 32 0) (y := List.replicate 32 0)
    (by decide) (by decide) [0x01]
  have haccept := (exec_spkiReader (by decide)).symm.trans
    (exec_spkiReader_of_isLenientSpki (by decide) hform)
  obtain ⟨root, rootOctets, algField, algOctets, field, octets, body, -, -, -, -, -, -, -, -, hbody,
    hder⟩ := hall _ _ _ (stays_of_isLenientSpki (by decide) hform) haccept
  -- The last byte is 1, and a key ends with its coordinates.
  have hlast := congrArg List.getLast? hder
  rw [hbody] at hlast
  simp [spkiDer, List.getLast?_append, List.getLast?_cons] at hlast

/-! ### Reads behind the end -/

section Wild
variable {der : Bytes} {mem : Nat → UInt8}

end Wild

section Normalize
variable (cng : Cng)

end Normalize

end MobileUnlock.Crypto
