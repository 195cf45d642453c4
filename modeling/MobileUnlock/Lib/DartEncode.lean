import MobileUnlock.Lib.DartConvert
import Mathlib.Algebra.Order.BigOperators.Group.List

/-!
# `MobileUnlock.Lib.DartEncode`: writing UTF-8 and JSON with the Dart SDK

The other direction of `Lib/DartConvert.lean`: `utf8Encode` is `utf8.encode`, and `jsonEncodeMap` is
`jsonEncode` of a map from strings to strings.

Both functions look at a string as a list of `Rune`s. A surrogate without its other half is a rune
of its own, because both treat it specially: `utf8.encode` writes the replacement character for it,
and `jsonEncode` writes an escape. `Rune.escaped` is what `jsonEncode` writes for a rune, and the
plain runes are those it copies. Nothing it writes has a surrogate that is alone, so the encoded
JSON text is the encoding of its parts (`utf8Encode_flatMap_units`).
-/

set_option autoImplicit false

namespace MobileUnlock.Lib.Dart

open MobileUnlock.Lib

/-! ### Runes -/

def isLeadSurrogate (c : UInt16) : Bool := 0xD800 ≤ c && c ≤ 0xDBFF

def isTrailSurrogate (c : UInt16) : Bool := 0xDC00 ≤ c && c ≤ 0xDFFF

/-- What a string is made of. -/
inductive Rune where
  | unit (c : UInt16)
  | pair (lead trail : UInt16)
  /-- A surrogate without its other half. -/
  | lone (c : UInt16)
  deriving DecidableEq, Repr

/-- The rune of a code unit that is not part of a pair. -/
def Rune.ofUnit (c : UInt16) : Rune :=
  if isLeadSurrogate c || isTrailSurrogate c then .lone c else .unit c

/-- The runes of a string. -/
def runes : DartString → List Rune
  | [] => []
  | [c] => [.ofUnit c]
  | c :: d :: rest =>
    if isLeadSurrogate c && isTrailSurrogate d then .pair c d :: runes rest
    else .ofUnit c :: runes (d :: rest)

/-- The code units of a rune. -/
def Rune.units : Rune → DartString
  | .unit c => [c]
  | .pair lead trail => [lead, trail]
  | .lone c => [c]

/-! ### `utf8.encode` -/

/-- The bytes of a rune. -/
def Rune.utf8 : Rune → Bytes
  | .unit c =>
    let n := c.toNat
    if n < 0x80 then [UInt8.ofNat n]
    else if n < 0x800 then [UInt8.ofNat (0xC0 + n / 64), UInt8.ofNat (0x80 + n % 64)]
    else [UInt8.ofNat (0xE0 + n / 4096), UInt8.ofNat (0x80 + n / 64 % 64),
      UInt8.ofNat (0x80 + n % 64)]
  | .pair lead trail =>
    let n := 0x10000 + lead.toNat % 1024 * 1024 + trail.toNat % 1024
    [UInt8.ofNat (0xF0 + n / 262144), UInt8.ofNat (0x80 + n / 4096 % 64),
      UInt8.ofNat (0x80 + n / 64 % 64), UInt8.ofNat (0x80 + n % 64)]
  | .lone _ => [0xEF, 0xBF, 0xBD]

/-- `utf8.encode`. -/
def utf8Encode (s : DartString) : Bytes := (runes s).flatMap Rune.utf8

/-! ### `jsonEncode` -/

/-- A hexadecimal digit of an escape. -/
def escapeDigit (n : Nat) : Rune := .unit (UInt16.ofNat (if n < 10 then 48 + n else 87 + n))

/-- What `jsonEncode` writes for a rune of a string. -/
def Rune.escaped : Rune → List Rune
  | .unit c =>
    if c < 32 then
      if c = 8 then [.unit 92, .unit 98]
      else if c = 9 then [.unit 92, .unit 116]
      else if c = 10 then [.unit 92, .unit 110]
      else if c = 12 then [.unit 92, .unit 102]
      else if c = 13 then [.unit 92, .unit 114]
      else [.unit 92, .unit 117, .unit 48, .unit 48, escapeDigit (c.toNat / 16 % 16),
        escapeDigit (c.toNat % 16)]
    else if c = 34 ∨ c = 92 then [.unit 92, .unit c]
    else [.unit c]
  | .pair lead trail => [.pair lead trail]
  | .lone c =>
    [.unit 92, .unit 117, .unit 100, escapeDigit (c.toNat / 256 % 16),
      escapeDigit (c.toNat / 16 % 16), escapeDigit (c.toNat % 16)]

/-- A string as `jsonEncode` writes it between the quotes. -/
def writeStringContent (s : DartString) : DartString :=
  ((runes s).flatMap Rune.escaped).flatMap Rune.units

/-- A string with its quotes. -/
def jsonEncodeString (s : DartString) : DartString := [34] ++ writeStringContent s ++ [34]

/-- The members of a map, separated by commas. -/
def jsonEncodeMembers : List (DartString × DartString) → DartString
  | [] => []
  | [(key, value)] => jsonEncodeString key ++ [58] ++ jsonEncodeString value
  | (key, value) :: member :: rest =>
    jsonEncodeString key ++ [58] ++ jsonEncodeString value ++ [44] ++
      jsonEncodeMembers (member :: rest)

/-- `jsonEncode` of a map from strings to strings, in the order of insertion. -/
def jsonEncodeMap (members : List (DartString × DartString)) : DartString :=
  [123] ++ jsonEncodeMembers members ++ [125]

/-! ### The runes of a text -/

/-- A rune that stands for itself wherever it is written. -/
def Rune.IsWhole : Rune → Prop
  | .unit c => isLeadSurrogate c = false ∧ isTrailSurrogate c = false
  | .pair lead trail => isLeadSurrogate lead = true ∧ isTrailSurrogate trail = true
  | .lone _ => False

theorem runes_cons {c : UInt16} (h : isLeadSurrogate c = false) (rest : DartString) :
    runes (c :: rest) = .ofUnit c :: runes rest := by
  cases rest with
  | nil => rfl
  | cons d rest => rw [runes, h, Bool.false_and, if_neg Bool.false_ne_true]

theorem Rune.ofUnit_of_not_surrogate {c : UInt16} (hlead : isLeadSurrogate c = false)
    (htrail : isTrailSurrogate c = false) : Rune.ofUnit c = .unit c := by
  rw [Rune.ofUnit, hlead, htrail]
  rfl

@[simp] theorem Rune.units_ofUnit (c : UInt16) : (Rune.ofUnit c).units = [c] := by
  rw [Rune.ofUnit]
  split <;> rfl

/-- A string is put together from its runes. -/
theorem flatMap_units_runes (s : DartString) : (runes s).flatMap Rune.units = s := by
  fun_induction runes s with
  | case1 => rfl
  | case2 c => rw [List.flatMap_singleton, Rune.units_ofUnit]
  | case3 c d rest h ih => rw [List.flatMap_cons, ih]; rfl
  | case4 c d rest h ih => rw [List.flatMap_cons, ih, Rune.units_ofUnit]; rfl

/-- A rune of a string is whole, or it is a surrogate that is alone. -/
theorem isWhole_of_mem_runes {s : DartString} {r : Rune} (h : r ∈ runes s) :
    r.IsWhole ∨ ∃ c, r = .lone c := by
  have hunit (c : UInt16) : (Rune.ofUnit c).IsWhole ∨ ∃ c', Rune.ofUnit c = .lone c' := by
    rw [Rune.ofUnit]
    split
    · exact .inr ⟨c, rfl⟩
    next hsurrogate =>
      rw [Bool.or_eq_true, not_or, Bool.not_eq_true, Bool.not_eq_true] at hsurrogate
      exact .inl hsurrogate
  fun_induction runes s with
  | case1 => cases h
  | case2 c =>
    rw [List.mem_singleton.mp h]
    exact hunit c
  | case3 c d rest hpair ih =>
    rcases List.mem_cons.mp h with rfl | h
    · exact .inl (Bool.and_eq_true_iff.mp hpair)
    · exact ih h
  | case4 c d rest _ ih =>
    rcases List.mem_cons.mp h with rfl | h
    · exact hunit c
    · exact ih h

/-- Whole runes are found again. -/
theorem runes_flatMap_units_append {rs : List Rune} (h : ∀ r ∈ rs, r.IsWhole) (rest : DartString) :
    runes (rs.flatMap Rune.units ++ rest) = rs ++ runes rest := by
  induction rs with
  | nil => rfl
  | cons r rs ih =>
    have hrs := ih fun r' hr' => h r' (List.mem_cons_of_mem r hr')
    have hr := h r List.mem_cons_self
    rw [List.flatMap_cons, List.append_assoc, List.cons_append, ← hrs]
    cases r with
    | unit c =>
      rw [Rune.units, List.singleton_append, runes_cons hr.1,
        Rune.ofUnit_of_not_surrogate hr.1 hr.2]
    | pair lead trail =>
      rw [Rune.units, List.cons_append, List.singleton_append, runes, hr.1, hr.2]
      rfl
    | lone c => exact hr.elim

theorem utf8Encode_flatMap_units_append {rs : List Rune} (h : ∀ r ∈ rs, r.IsWhole)
    (rest : DartString) :
    utf8Encode (rs.flatMap Rune.units ++ rest) = rs.flatMap Rune.utf8 ++ utf8Encode rest := by
  rw [utf8Encode, runes_flatMap_units_append h, List.flatMap_append, ← utf8Encode]

/-- The ASCII characters. -/
def Rune.IsAscii : Rune → Prop
  | .unit c => c.toNat < 0x80
  | _ => False

instance : DecidablePred Rune.IsAscii
  | .unit c => inferInstanceAs (Decidable (c.toNat < 0x80))
  | .pair _ _ => .isFalse id
  | .lone _ => .isFalse id

theorem Rune.IsAscii.isWhole : ∀ {r : Rune}, r.IsAscii → r.IsWhole
  | .unit c, h => by
    rw [IsAscii] at h
    simp only [IsWhole, isLeadSurrogate, isTrailSurrogate, Bool.and_eq_false_iff,
      decide_eq_false_iff_not, UInt16.le_iff_toNat_le, UInt16.reduceToNat]
    omega

/-- An ASCII character is encoded as itself, and every other rune as bytes from 128 on. -/
theorem Rune.utf8_cases (r : Rune) :
    (∃ c, r = .unit c ∧ c.toNat < 0x80 ∧ r.utf8 = [UInt8.ofNat c.toNat]) ∨
    (r.utf8 ≠ [] ∧ ∀ b ∈ r.utf8, 0x80 ≤ b.toNat) := by
  cases r with
  | unit c =>
    have hc : c.toNat < 65536 := c.toNat_lt
    by_cases hascii : c.toNat < 0x80
    · exact .inl ⟨c, rfl, hascii, by simp only [Rune.utf8, if_pos hascii]⟩
    · right
      simp only [Rune.utf8, if_neg hascii]
      split
      · refine ⟨List.cons_ne_nil _ _, ?_⟩
        simp only [List.forall_mem_cons, UInt8.toNat_ofNat']
        exact ⟨by omega, by omega, List.forall_mem_nil _⟩
      · refine ⟨List.cons_ne_nil _ _, ?_⟩
        simp only [List.forall_mem_cons, UInt8.toNat_ofNat']
        exact ⟨by omega, by omega, by omega, List.forall_mem_nil _⟩
  | pair lead trail =>
    right
    refine ⟨List.cons_ne_nil _ _, ?_⟩
    simp only [Rune.utf8, List.forall_mem_cons, UInt8.toNat_ofNat']
    exact ⟨by omega, by omega, by omega, by omega, List.forall_mem_nil _⟩
  | lone c =>
    right
    simp [Rune.utf8]

theorem utf8Encode_cons_ascii {c : UInt16} (h : c.toNat < 0x80) (rest : DartString) :
    utf8Encode (c :: rest) = UInt8.ofNat c.toNat :: utf8Encode rest := by
  have hwhole : ∀ r ∈ [Rune.unit c], r.IsWhole := by
    intro r hr
    rw [List.mem_singleton.mp hr]
    exact Rune.IsAscii.isWhole h
  have hutf8 : (Rune.unit c).utf8 = [UInt8.ofNat c.toNat] := by
    simp only [Rune.utf8, if_pos h]
  have happend := utf8Encode_flatMap_units_append hwhole rest
  rwa [List.flatMap_singleton, List.flatMap_singleton, hutf8] at happend

theorem utf8Encode_ne_nil {s : DartString} (h : s ≠ []) : utf8Encode s ≠ [] := by
  intro hnil
  refine h ?_
  rw [← flatMap_units_runes s]
  match hs : runes s with
  | [] => rfl
  | r :: rs =>
    rw [utf8Encode, hs, List.flatMap_cons, List.append_eq_nil_iff] at hnil
    rcases r.utf8_cases with ⟨c, rfl, _, hutf8⟩ | ⟨hne, _⟩
    · rw [hutf8] at hnil
      exact absurd hnil.1 (List.cons_ne_nil _ _)
    · exact absurd hnil.1 hne

/-- ASCII bytes are encoded as themselves. -/
theorem utf8Encode_ascii {bytes : Bytes} (h : ∀ b ∈ bytes, b.toNat < 0x80) :
    utf8Encode (bytes.map UInt8.toUInt16) = bytes := by
  induction bytes with
  | nil => rfl
  | cons b bytes ih =>
    have hb : b.toUInt16.toNat < 0x80 := h b List.mem_cons_self
    rw [List.map_cons, utf8Encode_cons_ascii hb, ih fun c hc => h c (List.mem_cons_of_mem b hc),
      UInt8.toNat_toUInt16, UInt8.ofNat_toNat]

/-- A string with ASCII bytes has these characters. -/
theorem eq_map_of_utf8Encode_ascii {s : DartString} (h : ∀ b ∈ utf8Encode s, b.toNat < 0x80) :
    s = (utf8Encode s).map UInt8.toUInt16 := by
  have hrunes : ∀ rs : List Rune, (∀ b ∈ rs.flatMap Rune.utf8, b.toNat < 0x80) →
      rs.flatMap Rune.units = (rs.flatMap Rune.utf8).map UInt8.toUInt16 := by
    intro rs
    induction rs with
    | nil => exact fun _ => rfl
    | cons r rs ih =>
      intro hrs
      rw [List.flatMap_cons] at hrs
      rw [List.flatMap_cons, List.flatMap_cons, List.map_append,
        ih fun b hb => hrs b (List.mem_append_right _ hb)]
      rcases r.utf8_cases with ⟨c, rfl, hc, hutf8⟩ | ⟨hne, hhigh⟩
      · have hback : (UInt8.ofNat c.toNat).toUInt16 = c := by
          rw [← UInt16.toNat_inj, UInt8.toNat_toUInt16, UInt8.toNat_ofNat']
          omega
        rw [hutf8, List.map_singleton, hback]
        rfl
      · obtain ⟨b, hb⟩ := List.exists_mem_of_ne_nil _ hne
        exact absurd (hrs b (List.mem_append_left _ hb)) (Nat.not_lt.mpr (hhigh b hb))
  have hs := hrunes (runes s) h
  rwa [flatMap_units_runes] at hs

/-! ### Escapes -/

/-- The runes that `jsonEncode` copies. -/
def Rune.IsPlain : Rune → Prop
  | .unit c => 32 ≤ c ∧ c ≠ 34 ∧ c ≠ 92
  | .pair _ _ => True
  | .lone _ => False

instance : DecidablePred Rune.IsPlain
  | .unit c => inferInstanceAs (Decidable (32 ≤ c ∧ c ≠ 34 ∧ c ≠ 92))
  | .pair _ _ => .isTrue trivial
  | .lone _ => .isFalse id

/-- The UTF-8 bytes of what `jsonEncode` writes between the quotes. -/
def contentBytes (s : DartString) : Bytes :=
  ((runes s).flatMap Rune.escaped).flatMap Rune.utf8

theorem Rune.escaped_of_isPlain {r : Rune} (h : r.IsPlain) : r.escaped = [r] := by
  cases r with
  | unit c =>
    have hc : ¬ c < 32 := UInt16.not_lt.mpr h.1
    rw [escaped, if_neg hc, if_neg (not_or.mpr h.2)]
  | pair lead trail => rfl
  | lone c => exact h.elim

theorem escapeDigit_spec (n : Nat) : (escapeDigit (n % 16)).IsAscii ∧
    (escapeDigit (n % 16)).utf8.length = 1 ∧ 34 ∉ (escapeDigit (n % 16)).utf8 := by
  have hall : ∀ m : Fin 16, (escapeDigit m).IsAscii ∧ (escapeDigit m).utf8.length = 1 ∧
      34 ∉ (escapeDigit m).utf8 := by decide
  exact hall ⟨n % 16, Nat.mod_lt n (by decide)⟩

/-- An escape is ASCII and longer than what it stands for, and it has a quote for a quote only. -/
theorem Rune.escaped_of_not_isPlain {r : Rune} (h : ¬ r.IsPlain) :
    (∀ r' ∈ r.escaped, r'.IsAscii) ∧ r.utf8.length < (r.escaped.flatMap utf8).length ∧
    (r ≠ .unit 34 → 34 ∉ r.escaped.flatMap utf8) := by
  cases r with
  | unit c =>
    have hall : ∀ n : Fin 128, ¬ (Rune.unit (UInt16.ofNat n)).IsPlain →
        (∀ r' ∈ (Rune.unit (UInt16.ofNat n)).escaped, r'.IsAscii) ∧
        (Rune.unit (UInt16.ofNat n)).utf8.length <
          ((Rune.unit (UInt16.ofNat n)).escaped.flatMap utf8).length ∧
        (Rune.unit (UInt16.ofNat n) ≠ .unit 34 →
          34 ∉ (Rune.unit (UInt16.ofNat n)).escaped.flatMap utf8) := by
      decide +kernel
    have hc : c.toNat < 128 := by
      by_contra hge
      refine h ⟨UInt16.le_iff_toNat_le.mpr ?_, ?_, ?_⟩
      · exact le_trans (by decide) (Nat.le_of_not_lt hge)
      · rintro rfl
        exact hge (by decide)
      · rintro rfl
        exact hge (by decide)
    have hunit := hall ⟨c.toNat, hc⟩
    rw [UInt16.ofNat_toNat] at hunit
    exact hunit h
  | pair lead trail => exact absurd trivial h
  | lone c =>
    obtain ⟨h1, l1, q1⟩ := escapeDigit_spec (c.toNat / 256)
    obtain ⟨h2, l2, q2⟩ := escapeDigit_spec (c.toNat / 16)
    obtain ⟨h3, l3, q3⟩ := escapeDigit_spec c.toNat
    have hfixed : ∀ r' ∈ [Rune.unit 92, .unit 117, .unit 100], r'.IsAscii := by decide
    refine ⟨?_, ?_, fun _ => ?_⟩
    · intro r' hr'
      simp only [escaped, List.mem_cons, List.not_mem_nil, or_false] at hr'
      rcases hr' with rfl | rfl | rfl | rfl | rfl | rfl
      · decide
      · decide
      · decide
      · exact h1
      · exact h2
      · exact h3
    · simp only [escaped, List.flatMap_cons, List.flatMap_nil, List.length_append, l1, l2, l3]
      show 3 < 6
      decide
    · simp only [escaped, List.flatMap_cons, List.flatMap_nil, List.mem_append, q1, q2, q3]
      decide

theorem isWhole_of_mem_escaped {s : DartString} :
    ∀ r ∈ (runes s).flatMap Rune.escaped, r.IsWhole := by
  intro r hr
  obtain ⟨r', hr', hr⟩ := List.mem_flatMap.mp hr
  by_cases hplain : r'.IsPlain
  · rw [Rune.escaped_of_isPlain hplain, List.mem_singleton] at hr
    rw [hr]
    rcases isWhole_of_mem_runes hr' with hwhole | ⟨c, rfl⟩
    · exact hwhole
    · exact hplain.elim
  · exact ((Rune.escaped_of_not_isPlain hplain).1 r hr).isWhole

/-- The text between the quotes is encoded on its own. -/
theorem utf8Encode_jsonEncodeString_append (s rest : DartString) :
    utf8Encode (jsonEncodeString s ++ rest) =
      [34] ++ contentBytes s ++ [34] ++ utf8Encode rest := by
  rw [jsonEncodeString, List.append_assoc, List.append_assoc, List.singleton_append,
    List.singleton_append, utf8Encode_cons_ascii (by decide), writeStringContent,
    utf8Encode_flatMap_units_append isWhole_of_mem_escaped, utf8Encode_cons_ascii (by decide)]
  simp only [contentBytes, List.append_assoc, List.singleton_append]
  rfl

/-- A string of plain runes is written as it is. -/
theorem contentBytes_of_isPlain {s : DartString} (h : ∀ r ∈ runes s, r.IsPlain) :
    contentBytes s = utf8Encode s := by
  have hescaped : (runes s).flatMap Rune.escaped = runes s := by
    have hmap := List.flatMap_congr fun r hr => Rune.escaped_of_isPlain (h r hr)
    rw [hmap, List.flatMap_singleton']
  rw [contentBytes, hescaped, utf8Encode]

/-- So is a printable ASCII text without quotes and backslashes. -/
theorem contentBytes_ascii {bytes : Bytes}
    (h : ∀ b ∈ bytes, (32 ≤ b.toNat ∧ b.toNat < 0x80) ∧ b ≠ 34 ∧ b ≠ 92) :
    contentBytes (bytes.map UInt8.toUInt16) = bytes := by
  have hplain : ∀ r ∈ runes (bytes.map UInt8.toUInt16), r.IsPlain := by
    induction bytes with
    | nil => exact fun r hr => absurd hr List.not_mem_nil
    | cons b bytes ih =>
      obtain ⟨⟨hlow, hhigh⟩, hquote, hbackslash⟩ := h b List.mem_cons_self
      have hascii : b.toUInt16.toNat < 0x80 := hhigh
      have hwhole := Rune.IsAscii.isWhole (r := .unit b.toUInt16) hascii
      rw [List.map_cons, runes_cons hwhole.1, Rune.ofUnit_of_not_surrogate hwhole.1 hwhole.2]
      refine List.forall_mem_cons.mpr
        ⟨⟨UInt16.le_iff_toNat_le.mpr hlow, ?_, ?_⟩, ih fun c hc => h c (List.mem_cons_of_mem b hc)⟩
      · exact fun heq => hquote (UInt8.toNat_inj.mp (congrArg UInt16.toNat heq))
      · exact fun heq => hbackslash (UInt8.toNat_inj.mp (congrArg UInt16.toNat heq))
  rw [contentBytes_of_isPlain hplain, utf8Encode_ascii fun b hb => (h b hb).1.2]

/-- A quote is written for a quote only. -/
theorem Rune.quote_notMem_escaped {r : Rune} (hne : r ≠ .unit 34) :
    34 ∉ r.escaped.flatMap Rune.utf8 := by
  intro hmem
  by_cases hplain : r.IsPlain
  · rw [Rune.escaped_of_isPlain hplain, List.flatMap_singleton] at hmem
    rcases r.utf8_cases with ⟨c, rfl, hc, hutf8⟩ | ⟨_, hhigh⟩
    · rw [hutf8, List.mem_singleton] at hmem
      have hback : (UInt8.ofNat c.toNat).toNat = c.toNat :=
        UInt8.toNat_ofNat_of_lt (lt_trans hc (by decide))
      rw [← hmem] at hback
      exact hne (congrArg Rune.unit (UInt16.toNat_inj.mp hback.symm))
    · exact absurd (hhigh 34 hmem) (by decide)
  · exact (Rune.escaped_of_not_isPlain hplain).2.2 hne hmem

theorem quote_notMem_contentBytes {s : DartString} (h : .unit 34 ∉ runes s) :
    34 ∉ contentBytes s := by
  intro hmem
  rw [contentBytes, List.flatMap_assoc, List.mem_flatMap] at hmem
  obtain ⟨r, hr, hmem⟩ := hmem
  have hne : r ≠ .unit 34 := by
    rintro rfl
    exact h hr
  exact r.quote_notMem_escaped hne hmem

/-- An escape makes the text longer. -/
theorem length_utf8Encode_lt {s : DartString} (h : ¬ ∀ r ∈ runes s, r.IsPlain) :
    (utf8Encode s).length < (contentBytes s).length := by
  have hlen (r : Rune) : r.utf8.length ≤ (r.escaped.flatMap Rune.utf8).length := by
    by_cases hplain : r.IsPlain
    · rw [Rune.escaped_of_isPlain hplain, List.flatMap_singleton]
    · exact Nat.le_of_lt (Rune.escaped_of_not_isPlain hplain).2.1
  have hlt : ∃ r ∈ runes s, r.utf8.length < (r.escaped.flatMap Rune.utf8).length := by
    rw [not_forall] at h
    obtain ⟨r, hr⟩ := h
    rw [Classical.not_imp] at hr
    exact ⟨r, hr.1, (Rune.escaped_of_not_isPlain hr.2).2.1⟩
  rw [utf8Encode, contentBytes, List.flatMap_assoc, List.length_flatMap, List.length_flatMap]
  exact List.sum_lt_sum _ _ (fun r _ => hlen r) hlt

end MobileUnlock.Lib.Dart
