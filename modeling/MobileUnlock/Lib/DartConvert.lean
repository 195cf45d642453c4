import MobileUnlock.Lib.Dart

/-!
# `MobileUnlock.Lib.DartConvert`: strings and JSON of the Dart SDK

The parts of `dart:core` and `dart:convert` that read a JSON text. A Dart `String` is a list of
UTF-16 code units. `utf8Decode` is `utf8.decode`, and `jsonDecode` is the strict parser behind the
function of that name. `intParse` is `int.parse` with a radix.

The parser recurses through nested values, so it takes fuel. Every level of nesting reads a
character, and `jsonDecode` gives it more fuel than the text has characters. A number that is not an
`int` is a `double`, which is not modelled and is represented by its literal.

The decoding of a text is the decoding of its parts, wherever no character is cut in two
(`decodeUnits_append`).
-/

set_option autoImplicit false

namespace MobileUnlock.Lib.Dart

open MobileUnlock.Lib

/-- A Dart `String`: its UTF-16 code units. -/
abbrev DartString := List UInt16

/-- The string of an ASCII literal. -/
def literal (s : String) : DartString := (ascii s).map UInt8.toUInt16

/-! ### UTF-8 -/

/-- Whether a byte continues a sequence. -/
def isContinuation (b : UInt8) : Bool := 0x80 ≤ b && b ≤ 0xBF

/-- The payload bits of a byte, with the given mask. -/
def payloadBits (b mask : UInt8) : Nat := (b &&& mask).toNat

/-- The code units of the bytes. Overlong forms, surrogates and numbers above 0x10FFFF are
malformed. -/
def decodeUnits : Bytes → Except DartError DartString
  | [] => .ok []
  | a :: s =>
    if a < 0x80 then return a.toUInt16 :: (← decodeUnits s)
    else if a < 0xE0 then
      match s with
      | b :: s =>
        let n := payloadBits a 0x1F * 64 + payloadBits b 0x3F
        if 0xC2 ≤ a ∧ isContinuation b then return UInt16.ofNat n :: (← decodeUnits s)
        else .error .FormatException
      | [] => .error .FormatException
    else if a < 0xF0 then
      match s with
      | b :: c :: s =>
        let n := payloadBits a 0x0F * 4096 + payloadBits b 0x3F * 64 + payloadBits c 0x3F
        if isContinuation b ∧ isContinuation c ∧ 0x800 ≤ n ∧ ¬ (0xD800 ≤ n ∧ n ≤ 0xDFFF) then
          return UInt16.ofNat n :: (← decodeUnits s)
        else .error .FormatException
      | _ => .error .FormatException
    else
      match s with
      | b :: c :: d :: s =>
        let n := payloadBits a 0x07 * 262144 + payloadBits b 0x3F * 4096 + payloadBits c 0x3F * 64 +
          payloadBits d 0x3F
        if a ≤ 0xF4 ∧ isContinuation b ∧ isContinuation c ∧ isContinuation d ∧
            0x10000 ≤ n ∧ n ≤ 0x10FFFF then
          -- the surrogate pair of the character
          return UInt16.ofNat (0xD800 + (n - 0x10000) / 1024) ::
            UInt16.ofNat (0xDC00 + (n - 0x10000) % 1024) :: (← decodeUnits s)
        else .error .FormatException
      | _ => .error .FormatException

/-- `utf8.decode`. A byte order mark at the front is dropped. -/
def utf8Decode (bytes : Bytes) : Except DartError DartString :=
  if bytes.take 3 = [0xEF, 0xBB, 0xBF] then decodeUnits (bytes.drop 3) else decodeUnits bytes

/-! ### `int.parse` -/

/-- The whitespace of `String.trim`. -/
def isWhitespace (c : UInt16) : Bool :=
  0x09 ≤ c && c ≤ 0x0D || c == 0x20 || c == 0x85 || c == 0xA0 || c == 0x1680 ||
    0x2000 ≤ c && c ≤ 0x200A || c == 0x2028 || c == 0x2029 || c == 0x202F || c == 0x205F ||
    c == 0x3000 || c == 0xFEFF

/-- `String.trim`. -/
def trim (s : DartString) : DartString :=
  ((s.dropWhile isWhitespace).reverse.dropWhile isWhitespace).reverse

/-- The value of a digit in a radix up to 36. -/
def digitValue (radix : Nat) (c : UInt16) : Option Nat :=
  let n := c.toNat
  let v := if 48 ≤ n ∧ n ≤ 57 then n - 48
    else if 97 ≤ n ∧ n ≤ 122 then n - 87
    else if 65 ≤ n ∧ n ≤ 90 then n - 55
    else radix
  if v < radix then some v else none

/-- The number of a sequence of digits, if there is at least one and all of them are good. -/
def digitsValue (radix : Nat) (s : DartString) : Except DartError Nat :=
  if s = [] then .error .FormatException
  else s.foldlM (fun n c =>
    match digitValue radix c with
    | some v => .ok (radix * n + v)
    | none => .error .FormatException) 0

/-- `int.parse` with a radix: optional whitespace around an optional sign and digits. A number that
does not fit into an `int` is a `FormatException`, too. -/
def intParse (source : DartString) (radix : Nat) : Except DartError Int := do
  let s := trim source
  let n ← match s with
    | [] => .error .FormatException
    | c :: rest =>
      if c = 0x2D then do
        let n ← digitsValue radix rest
        pure (-(n : Int))
      else if c = 0x2B then do
        let n ← digitsValue radix rest
        pure (n : Int)
      else do
        let n ← digitsValue radix s
        pure (n : Int)
  if minInt ≤ n ∧ n ≤ maxInt then .ok n else .error .FormatException

/-! ### JSON -/

/-- A decoded JSON value. The members of an object are in the order of the text, and a `double` is
represented by its literal. -/
inductive Json where
  | null
  | bool (b : Bool)
  | int (n : Int)
  | double (literal : DartString)
  | string (s : DartString)
  | array (elements : List Json)
  | object (members : List (DartString × Json))

/-- The whitespace of JSON. -/
def isJsonSpace (c : UInt16) : Bool := c == 0x20 || c == 0x09 || c == 0x0A || c == 0x0D

def skipSpace (s : DartString) : DartString := s.dropWhile isJsonSpace

def isDigit (c : UInt16) : Bool := 0x30 ≤ c && c ≤ 0x39

/-- The value of four hexadecimal digits behind a `\u`. -/
def unicodeEscape (s : DartString) : Except DartError UInt16 := do
  let n ← digitsValue 16 s
  pure (UInt16.ofNat n)

/-- The character of an escape of one letter. -/
def simpleEscape (c : UInt16) : Option UInt16 :=
  if c = 0x22 ∨ c = 0x5C ∨ c = 0x2F then some c
  else if c = 0x62 then some 0x08
  else if c = 0x66 then some 0x0C
  else if c = 0x6E then some 0x0A
  else if c = 0x72 then some 0x0D
  else if c = 0x74 then some 0x09
  else none

/-- The string behind an opening quote, and what follows its closing quote. -/
def parseString : DartString → Except DartError (DartString × DartString)
  | [] => .error .FormatException
  | c :: s =>
    if c = 0x22 then .ok ([], s)
    else if c < 0x20 then .error .FormatException
    else if c = 0x5C then
      match s with
      | [] => .error .FormatException
      | e :: s =>
        if e = 0x75 then
          match s with
          | a :: b :: c :: d :: s => do
            let u ← unicodeEscape [a, b, c, d]
            let (str, rest) ← parseString s
            .ok (u :: str, rest)
          | _ => .error .FormatException
        else match simpleEscape e with
          | none => .error .FormatException
          | some u => do
            let (str, rest) ← parseString s
            .ok (u :: str, rest)
    else do
      let (str, rest) ← parseString s
      .ok (c :: str, rest)

/-- The digits behind a decimal point, if there is one. -/
def parseFraction (s : DartString) : Except DartError (DartString × DartString) :=
  match s with
  | c :: s =>
    if c = 0x2E then
      if s.takeWhile isDigit = [] then .error .FormatException
      else .ok (c :: s.takeWhile isDigit, s.dropWhile isDigit)
    else .ok ([], c :: s)
  | [] => .ok ([], [])

/-- The exponent, if there is one. -/
def parseExponent (s : DartString) : Except DartError (DartString × DartString) :=
  match s with
  | c :: s =>
    if c = 0x65 ∨ c = 0x45 then
      let sign := (s.take 1).filter fun d => d = 0x2B ∨ d = 0x2D
      let s := s.drop sign.length
      if s.takeWhile isDigit = [] then .error .FormatException
      else .ok (c :: sign ++ s.takeWhile isDigit, s.dropWhile isDigit)
    else .ok ([], c :: s)
  | [] => .ok ([], [])

/-- The value of decimal digits. -/
def decimalValue (s : DartString) : Nat := s.foldl (fun n c => 10 * n + (c.toNat - 48)) 0

/-- A number. A literal without fraction and exponent that fits is an `int`. -/
def parseNumber (s : DartString) : Except DartError (Json × DartString) := do
  let sign := (s.take 1).filter (· = 0x2D)
  let s := s.drop sign.length
  let whole := s.takeWhile isDigit
  if whole = [] ∨ (whole.head? = some 0x30 ∧ whole.length ≠ 1) then .error .FormatException
  else
    let (fraction, s) ← parseFraction (s.dropWhile isDigit)
    let (exponent, s) ← parseExponent s
    let value : Int := if sign = [] then decimalValue whole else -decimalValue whole
    if fraction = [] ∧ exponent = [] ∧ minInt ≤ value ∧ value ≤ maxInt then .ok (.int value, s)
    else .ok (.double (sign ++ whole ++ fraction ++ exponent), s)

/-- A keyword with its value. -/
def parseKeyword (word : String) (value : Json) (s : DartString) :
    Except DartError (Json × DartString) :=
  if s.take word.length = literal word then .ok (value, s.drop word.length)
  else .error .FormatException

/-- A key with its colon. -/
def parseKey (s : DartString) : Except DartError (DartString × DartString) :=
  match skipSpace s with
  | [] => .error .FormatException
  | c :: s =>
    if c = 0x22 then do
      let (key, s) ← parseString s
      match skipSpace s with
      | [] => .error .FormatException
      | c :: s => if c = 0x3A then .ok (key, s) else .error .FormatException
    else .error .FormatException

mutual

/-- A value, and what follows it. -/
def parseValue : Nat → DartString → Except DartError (Json × DartString)
  | 0, _ => .error .FormatException
  | fuel + 1, s =>
    match skipSpace s with
    | [] => .error .FormatException
    | c :: s =>
      if c = 0x22 then do
        let (str, s) ← parseString s
        .ok (.string str, s)
      else if c = 0x7B then
        match skipSpace s with
        | [] => .error .FormatException
        | d :: rest =>
          if d = 0x7D then .ok (.object [], rest)
          else do
            let (members, s) ← parseMembers fuel s
            .ok (.object members, s)
      else if c = 0x5B then
        match skipSpace s with
        | [] => .error .FormatException
        | d :: rest =>
          if d = 0x5D then .ok (.array [], rest)
          else do
            let (elements, s) ← parseElements fuel s
            .ok (.array elements, s)
      else if c = 0x74 then parseKeyword "true" (.bool true) (c :: s)
      else if c = 0x66 then parseKeyword "false" (.bool false) (c :: s)
      else if c = 0x6E then parseKeyword "null" .null (c :: s)
      else parseNumber (c :: s)

/-- The members of an object up to its closing brace. There is at least one. -/
def parseMembers : Nat → DartString → Except DartError (List (DartString × Json) × DartString)
  | 0, _ => .error .FormatException
  | fuel + 1, s => do
    let (key, s) ← parseKey s
    let (value, s) ← parseValue fuel s
    match skipSpace s with
    | [] => .error .FormatException
    | c :: s =>
      if c = 0x2C then do
        let (members, s) ← parseMembers fuel s
        .ok ((key, value) :: members, s)
      else if c = 0x7D then .ok ([(key, value)], s)
      else .error .FormatException

/-- The elements of an array up to its closing bracket. There is at least one. -/
def parseElements : Nat → DartString → Except DartError (List Json × DartString)
  | 0, _ => .error .FormatException
  | fuel + 1, s => do
    let (value, s) ← parseValue fuel s
    match skipSpace s with
    | [] => .error .FormatException
    | c :: s =>
      if c = 0x2C then do
        let (elements, s) ← parseElements fuel s
        .ok (value :: elements, s)
      else if c = 0x5D then .ok ([value], s)
      else .error .FormatException

end

/-- `jsonDecode`: one value with nothing but whitespace around it. -/
def jsonDecode (source : DartString) : Except DartError Json := do
  let (value, rest) ← parseValue (2 * source.length + 2) source
  if skipSpace rest = [] then .ok value else .error .FormatException

/-- `json[key]` of a map. The last member with the key counts, and a missing key is `null`. -/
def Json.index (members : List (DartString × Json)) (key : DartString) : Json :=
  match members.reverse.find? fun m => m.1 == key with
  | some m => m.2
  | none => .null

/-- `value as int`. -/
def Json.asInt : Json → Except DartError Int
  | .int n => .ok n
  | _ => .error .TypeError

/-- `value as String`. -/
def Json.asString : Json → Except DartError DartString
  | .string s => .ok s
  | _ => .error .TypeError

/-- `value as int?`. -/
def Json.asNullableInt : Json → Except DartError (Option Int)
  | .null => .ok none
  | .int n => .ok (some n)
  | _ => .error .TypeError

/-- `value as String?`. -/
def Json.asNullableString : Json → Except DartError (Option DartString)
  | .null => .ok none
  | .string s => .ok (some s)
  | _ => .error .TypeError

/-- `value as Map<String, dynamic>`. -/
def Json.asMap : Json → Except DartError (List (DartString × Json))
  | .object members => .ok members
  | _ => .error .TypeError

/-! ### Reading ASCII text -/

/-- ASCII bytes are their own code units. -/
theorem decodeUnits_ascii {bytes : Bytes} (h : ∀ b ∈ bytes, b < 0x80) :
    decodeUnits bytes = .ok (bytes.map UInt8.toUInt16) := by
  induction bytes with
  | nil => rfl
  | cons b bytes ih =>
    unfold decodeUnits
    rw [if_pos (h b (by simp)), ih fun c hc => h c (by simp [hc])]
    rfl

theorem utf8Decode_ascii {bytes : Bytes} (h : ∀ b ∈ bytes, b < 0x80) :
    utf8Decode bytes = .ok (bytes.map UInt8.toUInt16) := by
  have hbom : bytes.take 3 ≠ [0xEF, 0xBB, 0xBF] := by
    intro hbom
    have hmem : (0xEF : UInt8) ∈ bytes := List.mem_of_mem_take (by rw [hbom]; simp)
    exact absurd (h _ hmem) (by decide)
  rw [utf8Decode, if_neg hbom, decodeUnits_ascii h]

/-- A digit is no whitespace and no sign. -/
theorem digitValue_some {c : UInt16} {v : Nat} (h : digitValue 16 c = some v) :
    isWhitespace c = false ∧ c ≠ 0x2D ∧ c ≠ 0x2B := by
  have hrange : 48 ≤ c.toNat ∧ c.toNat ≤ 102 := by
    unfold digitValue at h
    dsimp only at h
    split_ifs at h <;> simp_all <;> omega
  have hne : ∀ d : UInt16, c.toNat ≠ d.toNat → c ≠ d := by
    intro d hd hcd
    exact hd (congrArg UInt16.toNat hcd)
  refine ⟨?_, hne 0x2D ?_, hne 0x2B ?_⟩
  · simp only [isWhitespace, UInt16.le_iff_toNat_le, Bool.or_eq_false_iff,
      Bool.and_eq_false_iff, decide_eq_false_iff_not, beq_eq_false_iff_ne, ne_eq,
      UInt16.toNat_inj.symm, UInt16.reduceToNat]
    omega
  · show c.toNat ≠ 45
    omega
  · show c.toNat ≠ 43
    omega

/-- Two hexadecimal digits are a byte. -/
theorem intParse_pair {a b : UInt16} {x y : Nat} (ha : digitValue 16 a = some x)
    (hb : digitValue 16 b = some y) (hx : x < 16) (hy : y < 16) :
    intParse [a, b] 16 = .ok ((16 * x + y : Nat) : Int) := by
  obtain ⟨hspaceA, hminus, hplus⟩ := digitValue_some ha
  obtain ⟨hspaceB, -, -⟩ := digitValue_some hb
  have htrim : trim [a, b] = [a, b] := by simp [trim, hspaceA, hspaceB]
  have hdigits : digitsValue 16 [a, b] = .ok (16 * x + y) := by
    simp [digitsValue, List.foldlM_cons, ha, hb, bind, Except.bind, pure, Except.pure]
  have hfits : minInt ≤ ((16 * x + y : Nat) : Int) ∧ ((16 * x + y : Nat) : Int) ≤ maxInt := by
    unfold minInt maxInt
    omega
  simp only [intParse, htrim, if_neg hminus, if_neg hplus, hdigits, bind, Except.bind, pure,
    Except.pure]
  exact if_pos hfits

/-! ### Reading UTF-8 -/

/-- ASCII bytes in front of a text are read by themselves. -/
theorem decodeUnits_ascii_append {bytes : Bytes} (h : ∀ b ∈ bytes, b < 0x80) (rest : Bytes) :
    decodeUnits (bytes ++ rest) = (do
      let u ← decodeUnits rest
      return bytes.map UInt8.toUInt16 ++ u) := by
  induction bytes with
  | nil =>
    show decodeUnits rest = _
    cases decodeUnits rest <;> rfl
  | cons b bytes ih =>
    rw [List.cons_append, decodeUnits.eq_def]
    dsimp only
    rw [if_pos (h b (by simp)), ih fun c hc => h c (by simp [hc])]
    cases decodeUnits rest <;> rfl

/-- How many bytes follow the first one of a character that is not ASCII. -/
def continuationCount (a : UInt8) : Nat := if a < 0xE0 then 1 else if a < 0xF0 then 2 else 3

/-- A character that is cut short is malformed. -/
theorem decodeUnits_cut {a : UInt8} (ha : ¬ a < 0x80) {t : Bytes} {i : Nat}
    (hi : i < continuationCount a) (ht : ∀ c ∈ t[i]?, isContinuation c = false) :
    decodeUnits (a :: t) = .error .FormatException := by
  rw [decodeUnits.eq_def]
  dsimp only
  rw [if_neg ha]
  unfold continuationCount at hi
  by_cases htwo : a < 0xE0
  · rw [if_pos htwo] at hi ⊢
    obtain rfl : i = 0 := by omega
    rcases t with _ | ⟨b, t⟩
    · rfl
    · have hb := ht b rfl
      dsimp only
      rw [if_neg (by simp [hb])]
  rw [if_neg htwo] at hi ⊢
  by_cases hthree : a < 0xF0
  · rw [if_pos hthree] at hi ⊢
    rcases t with _ | ⟨b, _ | ⟨c, t⟩⟩
    · rfl
    · rfl
    · have hbc : isContinuation b = false ∨ isContinuation c = false := by
        obtain rfl | rfl : i = 0 ∨ i = 1 := by omega
        · exact .inl (ht b rfl)
        · exact .inr (ht c rfl)
      dsimp only
      rw [if_neg (by rintro ⟨hb, hc, -⟩; simp [hb, hc] at hbc)]
  · rw [if_neg hthree] at hi ⊢
    rcases t with _ | ⟨b, _ | ⟨c, _ | ⟨d, t⟩⟩⟩
    · rfl
    · rfl
    · rfl
    · have hbcd : isContinuation b = false ∨ isContinuation c = false ∨
          isContinuation d = false := by
        obtain rfl | rfl | rfl : i = 0 ∨ i = 1 ∨ i = 2 := by omega
        · exact .inl (ht b rfl)
        · exact .inr (.inl (ht c rfl))
        · exact .inr (.inr (ht d rfl))
      dsimp only
      rw [if_neg (by rintro ⟨-, hb, hc, hd, -⟩; simp [hb, hc, hd] at hbcd)]

/-- What stands behind a text cannot finish a character of it, as long as it does not start with a
continuation byte. -/
theorem decodeUnits_append (s : Bytes) {rest : Bytes}
    (hrest : ∀ c ∈ rest.head?, isContinuation c = false) :
    decodeUnits (s ++ rest) = (do
      let u ← decodeUnits s
      let v ← decodeUnits rest
      return u ++ v) := by
  -- the byte behind a text that ends inside of a character
  have hcut {a : UInt8} {t : Bytes} (ha : ¬ a < 0x80) (ht : t.length < continuationCount a) :
      decodeUnits (a :: (t ++ rest)) = .error .FormatException := by
    refine decodeUnits_cut ha ht ?_
    rwa [List.getElem?_append_right (le_refl _), Nat.sub_self, ← List.head?_eq_getElem?]
  fun_induction decodeUnits s with
  | case1 =>
    rw [List.nil_append]
    cases decodeUnits rest <;> rfl
  | case2 a s ha ih =>
    rw [List.cons_append, decodeUnits.eq_def]
    dsimp only
    rw [if_pos ha, ih]
    cases decodeUnits s <;> cases decodeUnits rest <;> rfl
  | case3 a hascii htwo b s n hn ih =>
    rw [List.cons_append, List.cons_append, decodeUnits.eq_def]
    dsimp only
    rw [if_neg hascii, if_pos htwo, if_pos hn, ih]
    cases decodeUnits s <;> cases decodeUnits rest <;> rfl
  | case4 a hascii htwo b s hn =>
    rw [List.cons_append, List.cons_append, decodeUnits.eq_def]
    dsimp only
    rw [if_neg hascii, if_pos htwo, if_neg hn]
    rfl
  | case5 a hascii htwo =>
    exact hcut (t := []) hascii (by rw [continuationCount, if_pos htwo]; decide)
  | case6 a hascii htwo hthree b c s n hn ih =>
    rw [List.cons_append, List.cons_append, List.cons_append, decodeUnits.eq_def]
    dsimp only
    rw [if_neg hascii, if_neg htwo, if_pos hthree, if_pos hn, ih]
    cases decodeUnits s <;> cases decodeUnits rest <;> rfl
  | case7 a hascii htwo hthree b c s n hn =>
    rw [List.cons_append, List.cons_append, List.cons_append, decodeUnits.eq_def]
    dsimp only
    rw [if_neg hascii, if_neg htwo, if_pos hthree, if_neg hn]
    rfl
  | case8 a s hascii htwo hthree hs =>
    refine hcut hascii ?_
    rw [continuationCount, if_neg htwo, if_pos hthree]
    rcases s with _ | ⟨b, _ | ⟨c, s⟩⟩
    · decide
    · simp
    · exact (hs b c s rfl).elim
  | case9 a hascii htwo hthree b c d s n hn ih =>
    rw [List.cons_append, List.cons_append, List.cons_append, List.cons_append, decodeUnits.eq_def]
    dsimp only
    rw [if_neg hascii, if_neg htwo, if_neg hthree, if_pos hn, ih]
    cases decodeUnits s <;> cases decodeUnits rest <;> rfl
  | case10 a hascii htwo hthree b c d s n hn =>
    rw [List.cons_append, List.cons_append, List.cons_append, List.cons_append, decodeUnits.eq_def]
    dsimp only
    rw [if_neg hascii, if_neg htwo, if_neg hthree, if_neg hn]
    rfl
  | case11 a s hascii htwo hthree hs =>
    refine hcut hascii ?_
    rw [continuationCount, if_neg htwo, if_neg hthree]
    rcases s with _ | ⟨b, _ | ⟨c, _ | ⟨d, s⟩⟩⟩
    · decide
    · simp
    · simp
    · exact (hs b c d s rfl).elim

/-- The payload bits of the first byte of two. -/
theorem payloadBits_two {a : UInt8} (h : 0xC2 ≤ a) (h' : a < 0xE0) : 2 ≤ payloadBits a 0x1F :=
  forall_byte (p := fun a => 0xC2 ≤ a → a < 0xE0 → 2 ≤ payloadBits a 0x1F) (by decide +kernel) a
    h h'

theorem payloadBits_le (a mask : UInt8) : payloadBits a mask ≤ mask.toNat := by
  rw [payloadBits, UInt8.toNat_and]
  exact Nat.and_le_right

/-- A character of a decoded text is one of its ASCII bytes, or it is not ASCII. -/
theorem mem_decodeUnits {s : Bytes} {u : DartString} (h : decodeUnits s = .ok u) {c : UInt16}
    (hc : c ∈ u) : 0x80 ≤ c.toNat ∨ ∃ b ∈ s, c = b.toUInt16 := by
  -- the characters in front, and those of the rest of the text
  have hcons (first : DartString) {x : Except DartError DartString} {u : DartString}
      (h : (do let v ← x; pure (first ++ v)) = Except.ok u) :
      ∃ v, x = .ok v ∧ u = first ++ v := by
    cases x with
    | error e => cases h
    | ok v => exact ⟨v, rfl, (Except.ok.inj h).symm⟩
  have hofNat {n : Nat} (hlow : 0x80 ≤ n) (hhigh : n < 0x10000) :
      0x80 ≤ (UInt16.ofNat n).toNat := by
    rw [UInt16.toNat_ofNat']
    omega
  have hlater (first : Bytes) {s : Bytes} (ih : 0x80 ≤ c.toNat ∨ ∃ b ∈ s, c = b.toUInt16) :
      0x80 ≤ c.toNat ∨ ∃ b ∈ first ++ s, c = b.toUInt16 :=
    ih.imp_right fun ⟨b, hb, heq⟩ => ⟨b, List.mem_append_right first hb, heq⟩
  fun_induction decodeUnits s generalizing u with
  | case1 =>
    cases h
    cases hc
  | case2 a s ha ih =>
    obtain ⟨v, hv, rfl⟩ := hcons [a.toUInt16] h
    rcases List.mem_cons.mp hc with rfl | hc
    · exact .inr ⟨a, List.mem_cons_self, rfl⟩
    · exact hlater [a] (ih hv hc)
  | case3 a hascii htwo b s n hn =>
    rename_i ih
    obtain ⟨v, hv, rfl⟩ := hcons [UInt16.ofNat _] h
    rcases List.mem_cons.mp hc with rfl | hc
    · left
      have hlow := payloadBits_two hn.1 htwo
      have ha : payloadBits a 0x1F ≤ 31 := payloadBits_le a 0x1F
      have hb : payloadBits b 0x3F ≤ 63 := payloadBits_le b 0x3F
      exact hofNat (by omega) (by omega)
    · exact hlater [a, b] (ih hv hc)
  | case6 a hascii htwo hthree b d s n hn =>
    rename_i ih
    obtain ⟨v, hv, rfl⟩ := hcons [UInt16.ofNat _] h
    rcases List.mem_cons.mp hc with rfl | hc
    · left
      have ha : payloadBits a 0x0F ≤ 15 := payloadBits_le a 0x0F
      have hb : payloadBits b 0x3F ≤ 63 := payloadBits_le b 0x3F
      have hd : payloadBits d 0x3F ≤ 63 := payloadBits_le d 0x3F
      exact hofNat (by omega) (by omega)
    · exact hlater [a, b, d] (ih hv hc)
  | case9 a hascii htwo hthree b d e s n hn =>
    rename_i ih
    obtain ⟨v, hv, rfl⟩ := hcons
      [UInt16.ofNat (0xD800 + _ / 1024), UInt16.ofNat (0xDC00 + _ % 1024)] h
    rcases List.mem_cons.mp hc with rfl | hc
    · exact .inl (hofNat (by omega) (by omega))
    rcases List.mem_cons.mp hc with rfl | hc
    · exact .inl (hofNat (by omega) (by omega))
    · exact hlater [a, b, d, e] (ih hv hc)
  | case4 => cases h
  | case5 => cases h
  | case7 => cases h
  | case8 => cases h
  | case10 => cases h
  | case11 => cases h

/-! ### Reading the JSON a program wrote -/

/-- A character that stands for itself in a JSON string. -/
def isPlain (c : UInt16) : Bool := 0x20 ≤ c && c != 0x22 && c != 0x5C

theorem parseString_plain {str : DartString} (h : ∀ c ∈ str, isPlain c = true)
    (rest : DartString) : parseString (str ++ 0x22 :: rest) = .ok (str, rest) := by
  induction str with
  | nil =>
    rw [List.nil_append]
    unfold parseString
    exact if_pos rfl
  | cons c str ih =>
    have hc := h c (by simp)
    simp only [isPlain, Bool.and_eq_true, decide_eq_true_eq, bne_iff_ne] at hc
    obtain ⟨⟨hprintable, hquote⟩, hbackslash⟩ := hc
    have hcontrol : ¬ c < 0x20 := by
      rw [UInt16.lt_iff_toNat_lt]
      rw [UInt16.le_iff_toNat_le] at hprintable
      omega
    rw [List.cons_append]
    unfold parseString
    rw [if_neg hquote, if_neg hcontrol, if_neg hbackslash, ih fun d hd => h d (by simp [hd])]
    rfl

theorem skipSpace_cons {c : UInt16} (h : isJsonSpace c = false) (s : DartString) :
    skipSpace (c :: s) = c :: s := by
  rw [skipSpace, List.dropWhile_cons, if_neg (by simp [h])]

/-- A key in quotes with a colon behind it. -/
theorem parseKey_plain {key : DartString} (h : ∀ c ∈ key, isPlain c = true) (rest : DartString) :
    parseKey (0x22 :: (key ++ 0x22 :: 0x3A :: rest)) = .ok (key, rest) := by
  unfold parseKey
  rw [skipSpace_cons (by decide)]
  dsimp only
  rw [if_pos rfl, parseString_plain h]
  rfl

theorem parseValue_string {str : DartString} (h : ∀ c ∈ str, isPlain c = true) (fuel : Nat)
    (rest : DartString) :
    parseValue (fuel + 1) (0x22 :: (str ++ 0x22 :: rest)) = .ok (.string str, rest) := by
  rw [parseValue, skipSpace_cons (by decide)]
  dsimp only
  rw [if_pos rfl, parseString_plain h]
  rfl

/-- A character that ends a number. -/
def endsNumber (c : UInt16) : Bool := !isDigit c && c != 0x2E && c != 0x65 && c != 0x45

/-- The digits of a natural number, as an `int` is written. -/
structure IsDecimal (whole : DartString) (n : Nat) : Prop where
  nonempty : whole ≠ []
  digits : ∀ c ∈ whole, isDigit c = true
  zero : whole.head? = some 0x30 → whole.length = 1
  value : decimalValue whole = n

/-- The code unit of a digit. -/
def digitUnit (n : Nat) : UInt16 := (n.digitChar.toNat.toUInt8).toUInt16

theorem digitUnit_spec : ∀ n < 10, isDigit (digitUnit n) = true ∧ (digitUnit n).toNat - 48 = n := by
  decide

theorem literal_toString_small {n : Nat} (h : n < 10) : literal (toString n) = [digitUnit n] := by
  show (n.repr.toList.map _).map _ = _
  rw [Nat.toList_repr, Nat.toDigits_of_lt_base h]
  rfl

theorem literal_toString_large {n : Nat} (h : 10 ≤ n) :
    literal (toString n) = literal (toString (n / 10)) ++ [digitUnit (n % 10)] := by
  show (n.repr.toList.map _).map _ = ((n / 10).repr.toList.map _).map _ ++ _
  rw [Nat.toList_repr, Nat.toList_repr, Nat.toDigits_of_base_le (by decide) h, List.map_append,
    List.map_append]
  rfl

/-- The text of a natural number is its decimal digits. -/
theorem isDecimal_toString (n : Nat) : IsDecimal (literal (toString n)) n := by
  -- Induction on the number: the last digit is behind the text of `n / 10`.
  induction n using Nat.strongRecOn with
  | ind n ih =>
    by_cases hsmall : n < 10
    · obtain ⟨hdigit, hvalue⟩ := digitUnit_spec n hsmall
      rw [literal_toString_small hsmall]
      exact ⟨by simp, by simpa using hdigit, fun _ => rfl, by simpa [decimalValue] using hvalue⟩
    · obtain ⟨hdigit, hvalue⟩ := digitUnit_spec (n % 10) (by omega)
      obtain ⟨hne, hdigits, hzero, hleading⟩ := ih (n / 10) (by omega)
      rw [literal_toString_large (by omega)]
      refine ⟨by simp, ?_, ?_, ?_⟩
      · intro c hc
        rw [List.mem_append, List.mem_singleton] at hc
        rcases hc with hc | rfl
        · exact hdigits c hc
        · exact hdigit
      · -- `n / 10` is positive, so its text does not start with a zero
        intro hhead
        rw [List.head?_append_of_ne_nil _ hne] at hhead
        obtain ⟨d, hd⟩ := List.length_eq_one_iff.mp (hzero hhead)
        rw [hd] at hhead hleading
        cases hhead
        simp only [decimalValue, List.foldl_cons, List.foldl_nil, UInt16.reduceToNat] at hleading
        omega
      · show List.foldl _ 0 _ = n
        rw [List.foldl_append]
        show 10 * decimalValue (literal (toString (n / 10))) + _ = n
        rw [hleading, hvalue]
        omega

theorem literal_toString_negSucc (n : Nat) :
    literal (toString (Int.negSucc n)) = 0x2D :: literal (toString (n + 1)) := by
  show literal (("-" : String) ++ toString (n + 1)) = _
  simp [literal, ascii, String.toList_append]

/-- The text of a number is not that of another one. -/
theorem literal_toString_injective : Function.Injective fun n : Int => literal (toString n) := by
  intro a b h
  -- a text of digits does not begin with the sign
  have hsign : ∀ m n : Nat, literal (toString m) ≠ 0x2D :: literal (toString (n + 1)) := by
    intro m n h
    have hdigit := (isDecimal_toString m).digits 0x2D (by rw [h]; simp)
    exact absurd hdigit (by decide)
  have hvalue : ∀ m n : Nat, literal (toString m) = literal (toString n) → m = n := by
    intro m n h
    rw [← (isDecimal_toString m).value, h, (isDecimal_toString n).value]
  cases a with
  | ofNat m =>
    cases b with
    | ofNat n => exact congrArg Int.ofNat (hvalue m n h)
    | negSucc n => exact absurd (h.trans (literal_toString_negSucc n)) (hsign m n)
  | negSucc m =>
    cases b with
    | ofNat n => exact absurd (h.symm.trans (literal_toString_negSucc m)) (hsign n m)
    | negSucc n =>
      have htext := (literal_toString_negSucc m).symm.trans (h.trans (literal_toString_negSucc n))
      have hsucc := hvalue _ _ (List.cons.inj htext).2
      exact congrArg Int.negSucc (Nat.succ.inj hsucc)

/-- The characters of a number are digits and the sign. -/
theorem mem_literal_toString {n : Int} {c : UInt16} (hc : c ∈ literal (toString n)) :
    c = 0x2D ∨ isDigit c = true := by
  cases n with
  | ofNat n => exact .inr ((isDecimal_toString n).digits c hc)
  | negSucc n =>
    rw [literal_toString_negSucc, List.mem_cons] at hc
    rcases hc with rfl | hc
    · exact .inl rfl
    · exact .inr ((isDecimal_toString (n + 1)).digits c hc)

theorem IsDecimal.parseNumber {whole : DartString} {n : Nat} (h : IsDecimal whole n)
    (hn : n < 2 ^ 63) {c : UInt16} (hc : endsNumber c = true) (rest : DartString) :
    parseNumber (whole ++ c :: rest) = .ok (.int n, c :: rest) := by
  simp only [endsNumber, Bool.and_eq_true, Bool.not_eq_true', bne_iff_ne] at hc
  obtain ⟨⟨⟨hdigit, hpoint⟩, he⟩, hE⟩ := hc
  obtain ⟨hne, hdigits, hzero, hvalue⟩ := h
  have htake : (whole ++ c :: rest).takeWhile isDigit = whole := by
    rw [List.takeWhile_append_of_pos hdigits, List.takeWhile_cons_of_neg (by simp [hdigit]),
      List.append_nil]
  have hdrop : (whole ++ c :: rest).dropWhile isDigit = c :: rest := by
    rw [List.dropWhile_append_of_pos hdigits, List.dropWhile_cons_of_neg (by simp [hdigit])]
  -- a digit is no minus sign
  have hsign : ((whole ++ c :: rest).take 1).filter (· = 0x2D) = [] := by
    obtain ⟨d, ds, hds⟩ := List.exists_cons_of_ne_nil hne
    have hd : d ≠ 0x2D := by
      intro hminus
      have := hdigits d (by simp [hds])
      rw [hminus] at this
      cases this
    rw [hds]
    simpa using hd
  have hwhole : ¬ (whole = [] ∨ (whole.head? = some 0x30 ∧ whole.length ≠ 1)) := by
    rintro (hnil | ⟨hhead, hlen⟩)
    · exact hne hnil
    · exact hlen (hzero hhead)
  have hfraction : parseFraction (c :: rest) = .ok ([], c :: rest) := if_neg hpoint
  have hexponent : parseExponent (c :: rest) = .ok ([], c :: rest) :=
    if_neg (by simp [he, hE])
  have hfits : minInt ≤ (n : Int) ∧ (n : Int) ≤ maxInt := by
    unfold minInt maxInt
    omega
  unfold Dart.parseNumber
  simp only [hsign, List.length_nil, List.drop_zero, htake, hdrop, if_neg hwhole, hfraction,
    hexponent, bind, Except.bind, hvalue, if_true, true_and]
  exact if_pos hfits

theorem IsDecimal.parseValue {whole : DartString} {n : Nat} (h : IsDecimal whole n)
    (hn : n < 2 ^ 63) {c : UInt16} (hc : endsNumber c = true) (fuel : Nat) (rest : DartString) :
    parseValue (fuel + 1) (whole ++ c :: rest) = .ok (.int n, c :: rest) := by
  have hnumber := h.parseNumber hn hc rest
  obtain ⟨d, ds, hds⟩ := List.exists_cons_of_ne_nil h.nonempty
  -- the first digit starts nothing else
  have hd : isJsonSpace d = false ∧ d ≠ 0x22 ∧ d ≠ 0x7B ∧ d ≠ 0x5B ∧ d ≠ 0x74 ∧ d ≠ 0x66 ∧
      d ≠ 0x6E := by
    have hdigit := h.digits d (by simp [hds])
    simp only [isDigit, Bool.and_eq_true, decide_eq_true_eq, UInt16.le_iff_toNat_le,
      UInt16.reduceToNat] at hdigit
    simp only [isJsonSpace, Bool.or_eq_false_iff, beq_eq_false_iff_ne, ne_eq,
      UInt16.toNat_inj.symm, UInt16.reduceToNat]
    omega
  obtain ⟨hspace, h1, h2, h3, h4, h5, h6⟩ := hd
  rw [hds, List.cons_append] at hnumber ⊢
  rw [Dart.parseValue, skipSpace_cons hspace]
  dsimp only
  rw [if_neg h1, if_neg h2, if_neg h3, if_neg h4, if_neg h5, if_neg h6, hnumber]

/-- A member with more members behind it. -/
theorem parseMembers_cons {fuel : Nat} {s s₁ s₂ rest : DartString} {key : DartString}
    {value : Json} {members : List (DartString × Json)} (hkey : parseKey s = .ok (key, s₁))
    (hvalue : parseValue fuel s₁ = .ok (value, 0x2C :: s₂))
    (hmembers : parseMembers fuel s₂ = .ok (members, rest)) :
    parseMembers (fuel + 1) s = .ok ((key, value) :: members, rest) := by
  rw [parseMembers]
  simp only [hkey, hvalue, bind, Except.bind]
  rw [skipSpace_cons (by decide)]
  dsimp only
  rw [if_pos rfl, hmembers]

/-- The last member of an object. -/
theorem parseMembers_last {fuel : Nat} {s s₁ rest : DartString} {key : DartString} {value : Json}
    (hkey : parseKey s = .ok (key, s₁))
    (hvalue : parseValue fuel s₁ = .ok (value, 0x7D :: rest)) :
    parseMembers (fuel + 1) s = .ok ([(key, value)], rest) := by
  rw [parseMembers]
  simp only [hkey, hvalue, bind, Except.bind]
  rw [skipSpace_cons (by decide)]
  rfl

/-- An object whose first key follows its brace. -/
theorem parseValue_object {fuel : Nat} {s rest : DartString} {members : List (DartString × Json)}
    (hmembers : parseMembers fuel (0x22 :: s) = .ok (members, rest)) :
    parseValue (fuel + 1) (0x7B :: 0x22 :: s) = .ok (.object members, rest) := by
  rw [parseValue, skipSpace_cons (by decide)]
  dsimp only
  rw [if_neg (by decide), if_pos rfl, skipSpace_cons (by decide)]
  dsimp only
  rw [if_neg (by decide), hmembers]
  rfl

end MobileUnlock.Lib.Dart
