import MobileUnlock.Android.DerToP1363Converter

/-!
# `MobileUnlock.Proofs.SignatureEncoding`: DER and P1363

`IsDerSignature d r s` is the grammar of the DER signatures with the INTEGER bodies `r` and `s`.
The converter accepts the grammar and nothing else (`derToP1363_grammar`): each stage is shown to
succeed on what the grammar says and to refuse with an `IllegalArgumentException` everywhere else,
so that no index error is left.

The grammar leaves room for zeros in front of a body, for a set sign bit and for the length `81`.
`p1363ToDer` writes none of them. `IsCanonical` says that in the words of DER, with the shortest
two's complement encoding taken literally, and `p1363_der_inverse` compares the two directions.
-/

set_option autoImplicit false

namespace MobileUnlock.Android.DerToP1363Converter

open MobileUnlock.Lib

/-! ### The accepted signatures -/

/-- An INTEGER with a short length. -/
def derInteger (body : Bytes) : Bytes := 0x02 :: UInt8.ofNat body.length :: body

/-- The head of a SEQUENCE in front of its content: the tag, and the length as one byte below 128
or as `81` and one byte. -/
inductive SequenceHead : Bytes → Bytes → Prop where
  | short {n : UInt8} {content : Bytes} (hn : n.toNat = content.length) (hshort : n.toNat < 128) :
      SequenceHead [0x30, n] content
  | long {n : UInt8} {content : Bytes} (hn : n.toNat = content.length) :
      SequenceHead [0x30, 0x81, n] content

/-- The DER signatures of the components with the bodies `r` and `s`. -/
structure IsDerSignature (d r s : Bytes) : Prop where
  size : 8 ≤ d.length ∧ d.length ≤ 74
  r_length : 1 ≤ r.length ∧ r.length ≤ 127
  s_length : 1 ≤ s.length ∧ s.length ≤ 127
  form : ∃ head, SequenceHead head (derInteger r ++ derInteger s) ∧
    d = head ++ (derInteger r ++ derInteger s)
  r_lt : natOfBE r < 2 ^ 256
  s_lt : natOfBE s < 2 ^ 256

/-- The call fails as the converter's documentation says. -/
def Refuses {α : Type} (result : Except KotlinException α) : Prop :=
  ∃ message, result = .error (.illegalArgument message)

theorem ok_bind {α β : Type} (a : α) (f : α → Except KotlinException β) :
    (Except.ok a >>= f) = f a := rfl

/-- A call that refuses ends what follows it. -/
theorem Refuses.bind {α β : Type} {result : Except KotlinException α} (h : Refuses result)
    (f : α → Except KotlinException β) : Refuses (result >>= f) := by
  obtain ⟨message, rfl⟩ := h
  exact ⟨message, rfl⟩

/-! ### Components -/

@[simp] theorem natOfBE_stripZeros (raw : Bytes) : natOfBE (stripZeros raw) = natOfBE raw := by
  induction raw with
  | nil => rfl
  | cons b rest ih =>
    rw [stripZeros]
    split
    next h =>
      rw [ih, natOfBE_cons, h.2, UInt8.toNat_zero, Nat.zero_mul, Nat.zero_add]
    next => rfl

/-- What is left has at most 32 bytes, or it begins with another byte than zero. -/
theorem stripZeros_cases (raw : Bytes) :
    (stripZeros raw).length ≤ COMPONENT_LEN ∨ 256 ^ COMPONENT_LEN ≤ natOfBE (stripZeros raw) := by
  induction raw with
  | nil => exact .inl (Nat.zero_le _)
  | cons b rest ih =>
    rw [stripZeros]
    split
    · exact ih
    next h =>
      by_cases hlen : (b :: rest).length > COMPONENT_LEN
      · right
        have hb : b.toNat ≠ 0 := fun hzero => h ⟨hlen, UInt8.toNat_inj.mp hzero⟩
        have hpow : 256 ^ COMPONENT_LEN ≤ 256 ^ rest.length :=
          Nat.pow_le_pow_right (by decide) (by rw [List.length_cons] at hlen; omega)
        calc 256 ^ COMPONENT_LEN ≤ 256 ^ rest.length := hpow
          _ ≤ b.toNat * 256 ^ rest.length := Nat.le_mul_of_pos_left _ (Nat.pos_of_ne_zero hb)
          _ ≤ natOfBE (b :: rest) := by
            rw [natOfBE_cons]
            exact Nat.le_add_right _ _
      · exact .inl (Nat.le_of_not_lt hlen)

/-- A whole array copied to where it fits. -/
theorem arraycopy_all {src dest : Bytes} {destPos : Nat}
    (h : destPos + src.length ≤ dest.length) :
    arraycopy src 0 dest destPos src.length =
      .ok (dest.take destPos ++ src ++ dest.drop (destPos + src.length)) := by
  rw [arraycopy, if_neg (by omega), slice_all rfl]

/-- The two components side by side. -/
theorem arraycopy_components {r s : Bytes} (hr : r.length = COMPONENT_LEN)
    (hs : s.length = COMPONENT_LEN) :
    (arraycopy r 0 (List.replicate P1363_SIGNATURE_LEN 0) 0 COMPONENT_LEN >>= fun result =>
      arraycopy s 0 result COMPONENT_LEN COMPONENT_LEN) = .ok (r ++ s) := by
  have hfirst : arraycopy r 0 (List.replicate P1363_SIGNATURE_LEN 0) 0 r.length =
      .ok (r ++ List.replicate COMPONENT_LEN 0) := by
    rw [arraycopy_all (by rw [hr, List.length_replicate]; decide), hr, List.drop_replicate]
    rfl
  have hsecond : arraycopy s 0 (r ++ List.replicate COMPONENT_LEN 0) COMPONENT_LEN s.length =
      .ok (r ++ s) := by
    rw [arraycopy_all (by rw [List.length_append, hr, hs, List.length_replicate]), hs, ← hr,
      List.take_left, List.drop_of_length_le, List.append_nil]
    rw [List.length_append, List.length_replicate]
  rw [hr] at hfirst
  rw [hs] at hsecond
  rw [hfirst, ok_bind, hsecond]

theorem normalizeTo32Bytes_of_lt {raw : Bytes} (h : natOfBE raw < 2 ^ 256) (name : String) :
    normalizeTo32Bytes raw name = .ok (bytesBE 32 (natOfBE raw)) := by
  have hle : (stripZeros raw).length ≤ COMPONENT_LEN := by
    rcases stripZeros_cases raw with hle | hge
    · exact hle
    · rw [natOfBE_stripZeros] at hge
      exact absurd (lt_of_lt_of_le h (le_of_eq (by decide))) (Nat.not_lt.mpr hge)
  have hpad := bytesBE_natOfBE_of_le hle
  rw [natOfBE_stripZeros] at hpad
  rw [normalizeTo32Bytes, if_neg (Nat.not_lt.mpr hle)]
  split
  next heq =>
    rw [heq, Nat.sub_self] at hpad
    exact congrArg Except.ok hpad.symm
  next =>
    rw [arraycopy_all (by rw [List.length_replicate]; omega), List.take_replicate,
      List.drop_replicate, Nat.min_eq_left (Nat.sub_le _ _),
      show COMPONENT_LEN - (COMPONENT_LEN - (stripZeros raw).length + (stripZeros raw).length) = 0
        by omega, List.replicate_zero, List.append_nil]
    exact congrArg Except.ok hpad.symm

theorem normalizeTo32Bytes_of_ge {raw : Bytes} (h : 2 ^ 256 ≤ natOfBE raw) (name : String) :
    Refuses (normalizeTo32Bytes raw name) := by
  have hgt : (stripZeros raw).length > COMPONENT_LEN := by
    by_contra hle
    have hlt := natOfBE_lt (stripZeros raw)
    have hpow : 256 ^ (stripZeros raw).length ≤ 256 ^ COMPONENT_LEN :=
      Nat.pow_le_pow_right (by decide) (Nat.le_of_not_lt hle)
    rw [natOfBE_stripZeros] at hlt
    exact absurd (lt_of_lt_of_le hlt (hpow.trans (le_of_eq (by decide)))) (Nat.not_lt.mpr h)
  rw [normalizeTo32Bytes, if_pos hgt]
  exact ⟨_, rfl⟩

/-! ### Integers -/

theorem byteAt_of_drop {der rest : Bytes} {i : Nat} {b : UInt8} (h : der.drop i = b :: rest) :
    byteAt der i = .ok b := by
  rw [byteAt, ← List.head?_drop, h]
  rfl

theorem toNat_ofNat_length {body : Bytes} (h : body.length ≤ 127) :
    (UInt8.ofNat body.length).toNat = body.length := by
  rw [UInt8.toNat_ofNat']
  omega

/-- An INTEGER of the grammar is parsed. -/
theorem parseDerInteger_derInteger {der body rest : Bytes} {i : Nat}
    (hbody : 1 ≤ body.length ∧ body.length ≤ 127)
    (h : der.drop i = derInteger body ++ rest) :
    parseDerInteger der i = .ok (body, i + (derInteger body).length) := by
  have hlen := toNat_ofNat_length hbody.2
  have hlength := length_of_drop (by simp [derInteger]) h
  have hsize : (derInteger body).length = body.length + 2 := rfl
  have htail : der.drop (i + 1) = UInt8.ofNat body.length :: (body ++ rest) := drop_succ_of_drop h
  have hbytes : der.drop (i + 1 + 1) = body ++ rest := drop_succ_of_drop htail
  have hform : ¬ UInt8.ofNat body.length &&& 0x80 ≠ 0 := by
    rw [highBit_iff]
    omega
  have hzero : ¬ UInt8.ofNat body.length = 0 := by
    intro heq
    rw [heq, UInt8.toNat_zero] at hlen
    omega
  have hcopy : copyOfRange der (i + 1 + 1) (i + 1 + 1 + body.length) = .ok body := by
    rw [copyOfRange, if_neg (by omega), if_neg (by omega), slice, hbytes, Nat.add_sub_cancel_left,
      List.take_left]
  rw [parseDerInteger, if_neg (by omega), byteAt_of_drop h]
  simp only [ok_bind]
  rw [if_neg (by decide), if_neg (by omega), byteAt_of_drop htail]
  simp only [ok_bind]
  rw [if_neg hform, if_neg hzero, hlen, if_neg (by omega), hcopy, hsize]
  exact congrArg (fun n => Except.ok (body, n)) (by omega)

/-- Everywhere else the parser refuses. -/
theorem parseDerInteger_cases (der : Bytes) (i : Nat) :
    (∃ body rest, (1 ≤ body.length ∧ body.length ≤ 127) ∧ der.drop i = derInteger body ++ rest) ∨
    Refuses (parseDerInteger der i) := by
  rw [parseDerInteger]
  rcases Nat.lt_or_ge i der.length with hi | hi
  swap
  · rw [if_pos hi]
    exact .inr ⟨_, rfl⟩
  have hdrop := List.drop_eq_getElem_cons hi
  rw [if_neg (by omega), byteAt_of_drop hdrop]
  simp only [ok_bind]
  by_cases htag : der[i] = ASN1_INTEGER
  swap
  · rw [if_pos htag]
    exact .inr ⟨_, rfl⟩
  rw [if_neg (not_not.mpr htag)]
  rcases Nat.lt_or_ge (i + 1) der.length with hi1 | hi1
  swap
  · rw [if_pos hi1]
    exact .inr ⟨_, rfl⟩
  have hdrop1 := List.drop_eq_getElem_cons hi1
  rw [if_neg (by omega), byteAt_of_drop hdrop1]
  simp only [ok_bind]
  generalize der[i + 1] = len at hdrop1
  split
  · exact .inr ⟨_, rfl⟩
  next hform =>
    split
    · exact .inr ⟨_, rfl⟩
    next hzero =>
      split
      · exact .inr ⟨_, rfl⟩
      next hfits =>
        rw [highBit_iff] at hform
        have hpos : len.toNat ≠ 0 := fun h => hzero (UInt8.toNat_inj.mp h)
        refine .inl ⟨(der.drop (i + 1 + 1)).take len.toNat, (der.drop (i + 1 + 1)).drop len.toNat,
          ?_, ?_⟩
        · rw [List.length_take, List.length_drop]
          omega
        · have hbody : ((der.drop (i + 1 + 1)).take len.toNat).length = len.toNat := by
            rw [List.length_take, List.length_drop]
            omega
          rw [hdrop, hdrop1, htag, derInteger, hbody, UInt8.ofNat_toNat, List.cons_append,
            List.cons_append, List.take_append_drop]
          rfl

/-- Two INTEGERs of the grammar that end the array are converted. -/
theorem convertIntegers_of_lt {der r s : Bytes} {i : Nat}
    (hr : 1 ≤ r.length ∧ r.length ≤ 127) (hs : 1 ≤ s.length ∧ s.length ≤ 127)
    (h : der.drop i = derInteger r ++ derInteger s) (hrlt : natOfBE r < 2 ^ 256)
    (hslt : natOfBE s < 2 ^ 256) :
    convertIntegers der i = .ok (bytesBE 32 (natOfBE r) ++ bytesBE 32 (natOfBE s)) := by
  have hlength := length_of_drop (by simp [derInteger]) h
  have hnext : der.drop (i + (derInteger r).length) = derInteger s ++ [] := by
    rw [List.append_nil]
    exact drop_add_of_drop h
  rw [convertIntegers, parseDerInteger_derInteger hr h]
  simp only [ok_bind]
  rw [parseDerInteger_derInteger hs hnext]
  simp only [ok_bind]
  rw [if_neg (not_not.mpr hlength), normalizeTo32Bytes_of_lt hrlt, ok_bind,
    normalizeTo32Bytes_of_lt hslt, ok_bind]
  exact arraycopy_components (length_bytesBE 32 _) (length_bytesBE 32 _)

/-- Everything else is refused. -/
theorem convertIntegers_refuses {der : Bytes} {i : Nat}
    (h : ∀ r s, (1 ≤ r.length ∧ r.length ≤ 127) → (1 ≤ s.length ∧ s.length ≤ 127) →
      der.drop i = derInteger r ++ derInteger s → ¬ (natOfBE r < 2 ^ 256 ∧ natOfBE s < 2 ^ 256)) :
    Refuses (convertIntegers der i) := by
  rw [convertIntegers]
  rcases parseDerInteger_cases der i with ⟨r, rest, hr, hdrop⟩ | hrefuses
  swap
  · exact hrefuses.bind _
  rw [parseDerInteger_derInteger hr hdrop]
  simp only [ok_bind]
  have hnext := drop_add_of_drop hdrop
  rcases parseDerInteger_cases der (i + (derInteger r).length) with
    ⟨s, rest', hs, hdrop'⟩ | hrefuses
  swap
  · exact hrefuses.bind _
  rw [parseDerInteger_derInteger hs hdrop']
  simp only [ok_bind]
  split
  · exact ⟨_, rfl⟩
  next hend =>
    have hlength := length_of_drop (by simp [derInteger]) hdrop'
    have hnil : rest' = [] := List.length_eq_zero_iff.mp (by omega)
    have hboth : der.drop i = derInteger r ++ derInteger s := by
      rw [hdrop, ← hnext, hdrop', hnil, List.append_nil]
    rcases Nat.lt_or_ge (natOfBE r) (2 ^ 256) with hrlt | hrge
    · rw [normalizeTo32Bytes_of_lt hrlt, ok_bind]
      refine (normalizeTo32Bytes_of_ge ?_ "s").bind _
      by_contra hslt
      exact h r s hr hs hboth ⟨hrlt, Nat.lt_of_not_le hslt⟩
    · exact (normalizeTo32Bytes_of_ge hrge "r").bind _

/-! ### The SEQUENCE -/

/-- Behind a head that fits its content, the integers are converted. -/
theorem derToP1363_of_head {d head content : Bytes} (hsize : 8 ≤ d.length ∧ d.length ≤ 74)
    (hhead : SequenceHead head content) (h : d = head ++ content) :
    derToP1363 d = convertIntegers d head.length := by
  have hlength := congrArg List.length h
  rw [List.length_append] at hlength
  have htag : byteAt d 0 = .ok 0x30 := by
    rw [h]
    cases hhead <;> rfl
  rw [derToP1363, if_neg (by omega), htag]
  simp only [ok_bind]
  rw [if_neg (by decide)]
  cases hhead with
  | @short n content hn hshort =>
    have hread : readSequenceLength d = .ok (n.toNat, 2) := by
      rw [readSequenceLength, h, show byteAt ([0x30, n] ++ content) 1 = .ok n from rfl, ok_bind,
        if_neg (by rw [highBit_iff]; omega)]
      rfl
    rw [hread]
    simp only [ok_bind]
    rw [if_neg]
    · rfl
    · rw [List.length_cons, List.length_singleton] at hlength
      omega
  | @long n content hn =>
    have hread : readSequenceLength d = .ok (n.toNat, 3) := by
      rw [readSequenceLength, h, show byteAt ([0x30, 0x81, n] ++ content) 1 = .ok 0x81 from rfl,
        ok_bind, if_pos (by decide), if_neg, show byteAt ([0x30, 0x81, n] ++ content) 2 = .ok n
          from rfl, ok_bind]
      · rfl
      · rw [h] at hsize
        rintro (hcount | hsmall)
        · exact hcount (by decide)
        · omega
    rw [hread]
    simp only [ok_bind]
    rw [if_neg]
    · rfl
    · simp only [List.length_cons, List.length_nil] at hlength
      omega

/-- The length byte in front of one length byte. -/
theorem eq_long_form : ∀ b : UInt8, b &&& 0x80 ≠ 0 → b &&& 0x7F = 1 → b = 0x81 :=
  forall_byte (by decide +kernel)

/-- Without such a head the converter refuses. -/
theorem derToP1363_cases (d : Bytes) :
    ((8 ≤ d.length ∧ d.length ≤ 74) ∧ ∃ head content, SequenceHead head content ∧
      d = head ++ content) ∨ Refuses (derToP1363 d) := by
  by_cases hsize : d.length < 8 ∨ d.length > 74
  · rw [derToP1363, if_pos hsize]
    exact .inr ⟨_, rfl⟩
  obtain ⟨tag, b, b', rest, rfl⟩ : ∃ tag b b' rest, d = tag :: b :: b' :: rest := by
    match d, hsize with
    | tag :: b :: b' :: rest, _ => exact ⟨tag, b, b', rest, rfl⟩
    | [], hsize => simp at hsize
    | [_], hsize => simp at hsize
    | [_, _], hsize => simp at hsize
  have htag : byteAt (tag :: b :: b' :: rest) 0 = .ok tag := rfl
  have hb : byteAt (tag :: b :: b' :: rest) 1 = .ok b := rfl
  have hb' : byteAt (tag :: b :: b' :: rest) 2 = .ok b' := rfl
  rw [derToP1363, if_neg hsize, htag]
  simp only [ok_bind]
  by_cases hsequence : tag = ASN1_SEQUENCE
  swap
  · rw [if_pos hsequence]
    exact .inr ⟨_, rfl⟩
  rw [if_neg (not_not.mpr hsequence), readSequenceLength, hb]
  simp only [ok_bind]
  by_cases hform : b &&& 0x80 ≠ 0
  · rw [if_pos hform]
    by_cases hcount : b &&& 0x7F ≠ 1 ∨ 2 ≥ (tag :: b :: b' :: rest).length
    · rw [if_pos hcount]
      exact .inr (Refuses.bind ⟨_, rfl⟩ _)
    rw [if_neg hcount, hb']
    simp only [ok_bind, pure_bind]
    split
    · exact .inr ⟨_, rfl⟩
    next hlen =>
      have hlong : b = 0x81 := eq_long_form b hform (not_not.mp (fun h => hcount (.inl h)))
      refine .inl ⟨by omega, [0x30, 0x81, b'], rest, .long ?_, by rw [hsequence, hlong]; rfl⟩
      simp only [List.length_cons] at hlen
      omega
  · rw [if_neg hform]
    simp only [pure_bind]
    split
    · exact .inr ⟨_, rfl⟩
    next hlen =>
      rw [highBit_iff] at hform
      refine .inl ⟨by omega, [0x30, b], b' :: rest, .short ?_ (by omega), by rw [hsequence]; rfl⟩
      simp only [List.length_cons] at hlen ⊢
      omega

theorem derToP1363_of_isDerSignature {d r s : Bytes} (h : IsDerSignature d r s) :
    derToP1363 d = .ok (bytesBE 32 (natOfBE r) ++ bytesBE 32 (natOfBE s)) := by
  obtain ⟨head, hhead, hd⟩ := h.form
  rw [derToP1363_of_head h.size hhead hd]
  refine convertIntegers_of_lt h.r_length h.s_length ?_ h.r_lt h.s_lt
  rw [hd, List.drop_left]

theorem derToP1363_refuses {d : Bytes} (h : ¬ ∃ r s, IsDerSignature d r s) :
    Refuses (derToP1363 d) := by
  rcases derToP1363_cases d with ⟨hsize, head, content, hhead, hd⟩ | hrefuses
  swap
  · exact hrefuses
  rw [derToP1363_of_head hsize hhead hd]
  refine convertIntegers_refuses fun r s hr hs hcontent hlt => h ⟨r, s, ?_⟩
  rw [hd, List.drop_left] at hcontent
  rw [hcontent] at hhead hd
  exact ⟨hsize, hr, hs, ⟨head, hhead, hd⟩, hlt.1, hlt.2⟩

theorem isDerSignature_of_ok {d p : Bytes} (h : derToP1363 d = .ok p) :
    ∃ r s, IsDerSignature d r s := by
  by_contra hnone
  obtain ⟨message, herror⟩ := derToP1363_refuses hnone
  rw [h] at herror
  cases herror

/-- **The signatures of the grammar are converted to the two numbers. Everything else is refused
with the documented exception, and no access leaves the array.** -/
theorem derToP1363_grammar (d : Bytes) :
    (∀ r s, IsDerSignature d r s →
      derToP1363 d = .ok (bytesBE 32 (natOfBE r) ++ bytesBE 32 (natOfBE s))) ∧
    ((∃ result, derToP1363 d = .ok result) ↔ ∃ r s, IsDerSignature d r s) ∧
    ((¬ ∃ r s, IsDerSignature d r s) →
      ∃ message, derToP1363 d = .error (.illegalArgument message)) := by
  refine ⟨fun r s => derToP1363_of_isDerSignature, ⟨?_, ?_⟩, derToP1363_refuses⟩
  · rintro ⟨result, hresult⟩
    exact isDerSignature_of_ok hresult
  · rintro ⟨r, s, h⟩
    exact ⟨_, derToP1363_of_isDerSignature h⟩

/-! ### To DER and back -/

/-- The shortest two's complement encoding of a number that is not negative. -/
def IsShortestBody (body : Bytes) : Prop := IsShortestInt body ∧ 0 ≤ intOfBE body

/-- Canonical DER: the length of the SEQUENCE in one byte, and the shortest bodies. -/
def IsCanonical (d : Bytes) : Prop :=
  ∃ n r s, SequenceHead [0x30, n] (derInteger r ++ derInteger s) ∧
    d = [0x30, n] ++ (derInteger r ++ derInteger s) ∧ IsShortestBody r ∧ IsShortestBody s

/-- Trimming keeps the number. What is left is one byte, or it begins with another byte than
zero. -/
theorem trimZeros_spec {component : Bytes} (h : component ≠ []) :
    ∃ b rest, trimZeros component = b :: rest ∧ natOfBE (b :: rest) = natOfBE component ∧
      rest.length < component.length ∧ (rest = [] ∨ b ≠ 0) := by
  fun_induction trimZeros component with
  | case1 => exact absurd rfl h
  | case2 b => exact ⟨b, [], rfl, rfl, Nat.lt_succ_self _, .inl rfl⟩
  | case3 b' rest ih =>
    obtain ⟨c, tail, htrim, hvalue, hlength, hshape⟩ := ih (List.cons_ne_nil _ _)
    refine ⟨c, tail, htrim, ?_, Nat.lt_succ_of_lt hlength, hshape⟩
    rw [hvalue, natOfBE_cons 0, UInt8.toNat_zero, Nat.zero_mul, Nat.zero_add]
  | case4 b b' rest hb => exact ⟨b, b' :: rest, rfl, rfl, Nat.lt_succ_self _, .inr hb⟩

/-- The encoder writes the shortest body. -/
theorem encodeIntegerToDer_spec {component : Bytes} (h : component.length = COMPONENT_LEN) :
    ∃ body, encodeIntegerToDer component = .ok (derInteger body) ∧ IsShortestBody body ∧
      natOfBE body = natOfBE component ∧ 1 ≤ body.length ∧ body.length ≤ 33 := by
  have hsize : COMPONENT_LEN = 32 := rfl
  have hne : component ≠ [] := by
    rintro rfl
    cases h
  obtain ⟨b, rest, htrim, hvalue, hlength, hshape⟩ := trimZeros_spec hne
  have hfirst : byteAt (b :: rest) 0 = .ok b := rfl
  rw [encodeIntegerToDer, htrim]
  simp only [hfirst, ok_bind]
  by_cases hbit : b &&& 0x80 ≠ 0
  · have hvalue' : natOfBE (0 :: b :: rest) = natOfBE (b :: rest) := by
      rw [natOfBE_cons 0, UInt8.toNat_zero, Nat.zero_mul, Nat.zero_add]
    have hpos : 0 ≤ intOfBE (0 :: b :: rest) := (intOfBE_nonneg_iff _).mpr (Nat.succ_pos _)
    refine ⟨0 :: b :: rest, by rw [if_pos hbit]; rfl, ⟨?_, hpos⟩, hvalue'.trans hvalue, ?_, ?_⟩
    · refine isShortestInt_of_le hpos (.inr ?_)
      rw [hvalue', natOfBE_cons]
      have hle := Nat.mul_le_mul_right (256 ^ rest.length) ((highBit_iff b).mp hbit)
      exact hle.trans (Nat.le_add_right _ _)
    · exact Nat.succ_le_succ (Nat.zero_le _)
    · simp only [List.length_cons]
      omega
  · have hpos : 0 ≤ intOfBE (b :: rest) := by
      rw [highBit_iff] at hbit
      exact (intOfBE_nonneg_iff _).mpr (Nat.lt_of_not_le hbit)
    refine ⟨b :: rest, by rw [if_neg hbit]; rfl, ⟨?_, hpos⟩, hvalue, ?_, ?_⟩
    · refine isShortestInt_of_le hpos ?_
      match rest, hshape with
      | [], _ => exact .inl rfl
      | c :: tail, .inr hb =>
        right
        have hb1 : 1 ≤ b.toNat := Nat.pos_of_ne_zero fun h => hb (UInt8.toNat_inj.mp h)
        have hle := Nat.mul_le_mul_right (256 ^ (c :: tail).length) hb1
        rw [List.length_cons, Nat.pow_succ] at hle
        rw [natOfBE_cons, List.length_cons, Nat.add_sub_cancel, Nat.pow_succ]
        omega
    · exact Nat.succ_le_succ (Nat.zero_le _)
    · simp only [List.length_cons]
      omega

/-- A P1363 signature is encoded as canonical DER with the two numbers of its halves. -/
theorem p1363ToDer_spec {x : Bytes} (h : x.length = P1363_SIGNATURE_LEN) :
    ∃ d r s, p1363ToDer x = .ok d ∧ IsDerSignature d r s ∧ IsCanonical d ∧
      natOfBE r = natOfBE (x.take 32) ∧ natOfBE s = natOfBE (x.drop 32) := by
  have hsize : P1363_SIGNATURE_LEN = 64 := rfl
  have htake : (x.take 32).length = 32 := by
    rw [List.length_take]
    omega
  have hdrop : (x.drop 32).length = 32 := by
    rw [List.length_drop]
    omega
  have hr : copyOfRange x 0 COMPONENT_LEN = .ok (x.take 32) := by
    rw [copyOfRange, if_neg (by rw [h]; decide), if_neg (by decide)]
    rfl
  have hs : copyOfRange x COMPONENT_LEN P1363_SIGNATURE_LEN = .ok (x.drop 32) := by
    rw [copyOfRange, if_neg (by rw [h]; decide), if_neg (by decide), slice]
    exact congrArg Except.ok (List.take_of_length_le (le_of_eq hdrop))
  obtain ⟨r, hrDer, hrShort, hrValue, hr1, hr33⟩ := encodeIntegerToDer_spec htake
  obtain ⟨s, hsDer, hsShort, hsValue, hs1, hs33⟩ := encodeIntegerToDer_spec hdrop
  have hcontent : (derInteger r ++ derInteger s).length = r.length + s.length + 4 := by
    simp only [derInteger, List.length_append, List.length_cons]
    omega
  have htotal : (derInteger r).length + (derInteger s).length < 128 := by
    rw [List.length_append] at hcontent
    omega
  have hn : (UInt8.ofNat ((derInteger r).length + (derInteger s).length)).toNat =
      (derInteger r ++ derInteger s).length := by
    rw [UInt8.toNat_ofNat', List.length_append]
    omega
  have hhead : SequenceHead [0x30, UInt8.ofNat ((derInteger r).length + (derInteger s).length)]
      (derInteger r ++ derInteger s) := .short hn (by omega)
  have hlt {half : Bytes} (hhalf : half.length = 32) : natOfBE half < 2 ^ 256 := by
    have hbound := natOfBE_lt half
    rw [hhalf] at hbound
    exact lt_of_lt_of_le hbound (le_of_eq (by decide))
  refine ⟨_, r, s, ?_, ⟨?_, ⟨hr1, by omega⟩, ⟨hs1, by omega⟩, ⟨_, hhead, rfl⟩, ?_, ?_⟩,
    ⟨_, r, s, hhead, rfl, hrShort, hsShort⟩, hrValue, hsValue⟩
  · rw [p1363ToDer, if_neg (not_not.mpr h), hr, ok_bind, hs, ok_bind, hrDer, ok_bind, hsDer,
      ok_bind, if_pos htotal]
    rfl
  · rw [List.length_append, hcontent]
    simp only [List.length_cons, List.length_nil]
    omega
  · rw [hrValue]
    exact hlt htake
  · rw [hsValue]
    exact hlt hdrop

/-- What follows a short INTEGER is determined. -/
theorem derInteger_append_inj {a b x y : Bytes} (ha : a.length ≤ 127) (hb : b.length ≤ 127)
    (h : derInteger a ++ x = derInteger b ++ y) : a = b ∧ x = y := by
  simp only [derInteger, List.cons_append, List.cons.injEq, true_and] at h
  have hlength := congrArg UInt8.toNat h.1
  rw [toNat_ofNat_length ha, toNat_ofNat_length hb] at hlength
  exact List.append_inj h.2 hlength

/-- The length byte of a short head. -/
theorem SequenceHead.of_short {n : UInt8} {content : Bytes} (h : SequenceHead [0x30, n] content) :
    n.toNat = content.length ∧ n.toNat < 128 := by
  cases h with
  | short hn hshort => exact ⟨hn, hshort⟩

/-- The form of canonical DER, with the bodies that are parsed. -/
theorem IsCanonical.form {d r s : Bytes} (h : IsDerSignature d r s) (hc : IsCanonical d) :
    ∃ n, SequenceHead [0x30, n] (derInteger r ++ derInteger s) ∧
      d = [0x30, n] ++ (derInteger r ++ derInteger s) ∧ IsShortestBody r ∧ IsShortestBody s := by
  obtain ⟨n, r', s', hhead', hd', hr', hs'⟩ := hc
  obtain ⟨head, hhead, hd⟩ := h.form
  have hn := hhead'.of_short
  have hlength : r'.length ≤ 127 ∧ s'.length ≤ 127 := by
    simp only [derInteger, List.length_append, List.length_cons] at hn
    omega
  rw [hd] at hd'
  cases hhead with
  | short _ _ =>
    simp only [List.cons_append, List.nil_append, List.cons.injEq, true_and] at hd'
    obtain ⟨hreq, htail⟩ := derInteger_append_inj h.r_length.2 hlength.1 hd'.2
    rw [← List.append_nil (derInteger s), ← List.append_nil (derInteger s')] at htail
    obtain ⟨hseq, _⟩ := derInteger_append_inj h.s_length.2 hlength.2 htail
    rw [← hreq, ← hseq] at hhead'
    exact ⟨n, hhead', by rw [hd, hd'.1], hreq ▸ hr', hseq ▸ hs'⟩
  | long _ =>
    -- the first length byte would be `81`, which is no short length
    simp only [List.cons_append, List.nil_append, List.cons.injEq, true_and] at hd'
    rw [← hd'.1] at hn
    exact absurd hn.2 (by decide)

/-- Canonical DER is determined by the numbers. -/
theorem IsCanonical.unique {d d' r s r' s' : Bytes} (hd : IsDerSignature d r s)
    (hd' : IsDerSignature d' r' s') (hc : IsCanonical d) (hc' : IsCanonical d')
    (hr : natOfBE r = natOfBE r') (hs : natOfBE s = natOfBE s') : d = d' := by
  obtain ⟨n, hhead, rfl, hrs, hss⟩ := hc.form hd
  obtain ⟨n', hhead', rfl, hrs', hss'⟩ := hc'.form hd'
  have hreq : r = r' := hrs.1.unique hrs'.1 hrs.2 hrs'.2 hr
  have hseq : s = s' := hss.1.unique hss'.1 hss.2 hss'.2 hs
  subst hreq hseq
  have hn : n = n' := UInt8.toNat_inj.mp (hhead.of_short.1.trans hhead'.of_short.1.symm)
  rw [hn]

/-- **The two conversions are inverse up to the canonical form.** -/
theorem p1363_der_inverse :
    (∀ x : Bytes, x.length = P1363_SIGNATURE_LEN →
      ∃ d, p1363ToDer x = .ok d ∧ derToP1363 d = .ok x) ∧
    (∀ d p : Bytes, derToP1363 d = .ok p →
      ∃ d', p1363ToDer p = .ok d' ∧ (d' = d ↔ IsCanonical d) ∧ IsCanonical d' ∧
        ∃ r s r' s', IsDerSignature d r s ∧ IsDerSignature d' r' s' ∧
          natOfBE r = natOfBE r' ∧ natOfBE s = natOfBE s') := by
  constructor
  · intro x hx
    obtain ⟨d, r, s, hd, hsignature, _, hr, hs⟩ := p1363ToDer_spec hx
    have hsize : P1363_SIGNATURE_LEN = 64 := rfl
    refine ⟨d, hd, ?_⟩
    rw [derToP1363_of_isDerSignature hsignature, hr, hs,
      bytesBE_natOfBE (by rw [List.length_take]; omega),
      bytesBE_natOfBE (by rw [List.length_drop]; omega), List.take_append_drop]
  · intro d p hp
    obtain ⟨r, s, hsignature⟩ := isDerSignature_of_ok hp
    rw [derToP1363_of_isDerSignature hsignature, Except.ok.injEq] at hp
    have hlength : p.length = P1363_SIGNATURE_LEN := by
      rw [← hp, List.length_append, length_bytesBE, length_bytesBE]
      rfl
    obtain ⟨d', r', s', hd', hsignature', hcanonical, hr', hs'⟩ := p1363ToDer_spec hlength
    have hr : natOfBE r = natOfBE r' := by
      rw [hr', ← hp, List.take_left' (length_bytesBE 32 _), natOfBE_bytesBE_of_lt]
      exact lt_of_lt_of_le hsignature.r_lt (le_of_eq (by decide))
    have hs : natOfBE s = natOfBE s' := by
      rw [hs', ← hp, List.drop_left' (length_bytesBE 32 _), natOfBE_bytesBE_of_lt]
      exact lt_of_lt_of_le hsignature.s_lt (le_of_eq (by decide))
    refine ⟨d', hd', ⟨?_, ?_⟩, hcanonical, r, s, r', s', hsignature, hsignature', hr, hs⟩
    · rintro rfl
      exact hcanonical
    · intro hc
      exact (hc.unique hsignature hsignature' hcanonical hr hs).symm

end MobileUnlock.Android.DerToP1363Converter
