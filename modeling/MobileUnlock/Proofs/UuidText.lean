import MobileUnlock.Proofs.DeviceIdentity

/-!
# `MobileUnlock.Proofs.UuidText`: the texts that are parsed to a device id

`BeginsNumber` is the grammar of what `sscanf` with `%02x` converts: blanks, an optional sign and a
digit, where the digit that a prefix `0x` begins does not count. A text is `Readable` if the checks
of `DeviceIdFromString` find 32 characters between the four dashes and a number begins at every
second of them. These are the accepted texts (`deviceIdFromString_iff`).

Every well-formed UUID is readable. Another readable text is taken for an id, too, and it is not the
text of that id.
-/

set_option autoImplicit false

namespace MobileUnlock.Pairing

open MobileUnlock.Lib MobileUnlock.Lib.Win32

/-! ### The conversion -/

/-- The text begins with a number as `%02x` reads it. -/
inductive BeginsNumber : Bytes → Prop where
  | blank {c : UInt8} {rest : Bytes} (hc : isSpace c = true) (h : BeginsNumber rest) :
      BeginsNumber (c :: rest)
  | signed {sign d : UInt8} {rest : Bytes} (hsign : sign = 43 ∨ sign = 45)
      (hd : (hexValue d).isSome) : BeginsNumber (sign :: d :: rest)
  | digit {d : UInt8} {rest : Bytes} (hd : (hexValue d).isSome)
      (hzero : ¬ (d = 48 ∧ (rest.head? = some 120 ∨ rest.head? = some 88))) :
      BeginsNumber (d :: rest)

theorem sscanf02x_blank {c : UInt8} (hc : isSpace c = true) (rest : Bytes) :
    sscanf02x (c :: rest) = sscanf02x rest := by
  have hne : c ≠ 0 := by
    rintro rfl
    cases hc
  rw [sscanf02x, sscanf02x, List.takeWhile_cons_of_pos (by simpa using hne),
    List.dropWhile_cons_of_pos hc]

/-- At a character that is not skipped. -/
theorem takeWhile_dropWhile_cons {c : UInt8} (hne : c ≠ 0) (hc : isSpace c = false) (rest : Bytes) :
    ((c :: rest).takeWhile (· ≠ 0)).dropWhile isSpace = c :: rest.takeWhile (· ≠ 0) := by
  rw [List.takeWhile_cons_of_pos (by simpa using hne), List.dropWhile_cons_of_neg (by simp [hc])]

/-- What is converted after a sign is a digit. -/
theorem sscanf02x_sign {sign : UInt8} (hsign : sign = 43 ∨ sign = 45) (rest : Bytes) :
    (sscanf02x (sign :: rest)).isSome ↔ ∃ d tail, rest = d :: tail ∧ (hexValue d).isSome := by
  have htext : ((sign :: rest).takeWhile (· ≠ 0)).dropWhile isSpace =
      sign :: rest.takeWhile (· ≠ 0) := by
    rcases hsign with rfl | rfl
    · exact takeWhile_dropWhile_cons (by decide) (by decide) rest
    · exact takeWhile_dropWhile_cons (by decide) (by decide) rest
  rw [sscanf02x, htext]
  dsimp only
  rw [if_pos hsign]
  cases rest with
  | nil => simp
  | cons d tail =>
    by_cases hd : d = 0
    · -- the text ends behind the sign
      rw [List.takeWhile_cons_of_neg (by simpa using hd), hd]
      simp [hexValue]
    · rw [List.takeWhile_cons_of_pos (by simpa using hd), Option.isSome_map]
      constructor
      · exact fun h => ⟨d, tail, rfl, h⟩
      · rintro ⟨d', tail', heq, h⟩
        cases heq
        exact h

/-- What is converted without blanks and a sign. -/
theorem sscanf02x_digit {c : UInt8} (hspace : isSpace c = false) (hsign : ¬ (c = 43 ∨ c = 45))
    (rest : Bytes) :
    (sscanf02x (c :: rest)).isSome ↔ (hexValue c).isSome ∧
      ¬ (c = 48 ∧ (rest.head? = some 120 ∨ rest.head? = some 88)) := by
  cases hc : hexValue c with
  | none =>
    by_cases hzero : c = 0
    · rw [sscanf02x, hzero]
      simp
    · rw [sscanf02x, takeWhile_dropWhile_cons hzero hspace]
      dsimp only
      rw [if_neg hsign, hc]
      simp
  | some hi =>
    rw [sscanf02x, takeWhile_dropWhile_cons (hexValue_eq_some hc).2.2.1 hspace]
    dsimp only
    rw [if_neg hsign, hc]
    cases rest with
    | nil => simp
    | cons d tail =>
      by_cases hd : d = 0
      · rw [List.takeWhile_cons_of_neg (by simpa using hd), hd]
        simp
      · rw [List.takeWhile_cons_of_pos (by simpa using hd), List.head?_cons]
        simp only [Option.some.injEq, Option.isSome_some, true_and]
        split
        next hprefix => exact iff_of_false Bool.false_ne_true (not_not.mpr hprefix)
        next hprefix =>
          refine iff_of_true ?_ hprefix
          cases hexValue d <;> rfl

/-- `%02x` converts what begins with a number. -/
theorem sscanf02x_iff (text : Bytes) : (sscanf02x text).isSome ↔ BeginsNumber text := by
  constructor
  · intro h
    induction text with
    | nil => cases h
    | cons c rest ih =>
      by_cases hspace : isSpace c = true
      · rw [sscanf02x_blank hspace] at h
        exact .blank hspace (ih h)
      · by_cases hsign : c = 43 ∨ c = 45
        · obtain ⟨d, tail, rfl, hd⟩ := (sscanf02x_sign hsign rest).mp h
          exact .signed hsign hd
        · obtain ⟨hd, hzero⟩ :=
            (sscanf02x_digit (Bool.eq_false_of_not_eq_true hspace) hsign rest).mp h
          exact .digit hd hzero
  · intro h
    induction h with
    | blank hc _ ih => rwa [sscanf02x_blank hc]
    | signed hsign hd => exact (sscanf02x_sign hsign _).mpr ⟨_, _, rfl, hd⟩
    | digit hd hzero =>
      obtain ⟨v, hv⟩ := Option.isSome_iff_exists.mp hd
      obtain ⟨-, -, -, hspace, hplus, hminus, -, -⟩ := hexValue_eq_some hv
      exact (sscanf02x_digit hspace (not_or.mpr ⟨hplus, hminus⟩) _).mpr ⟨hd, hzero⟩

/-! ### The accepted texts -/

/-- The characters of a text between the dashes. -/
def undashed (s : Bytes) : Bytes := s.filter (· ≠ dash)

/-- The dashes stand where they belong, and a number begins at every second other character. -/
structure Readable (s : Bytes) : Prop where
  length : s.length = 36
  dashes : ∀ i ∈ [8, 13, 18, 23], s.getD i 0 = dash
  length_undashed : (undashed s).length = 32
  numbers : ∀ i < 16, BeginsNumber ((undashed s).drop (2 * i))

/-- The loop succeeds if every conversion does. -/
theorem scanIdBytes_iff {hex : Bytes} (is : List (Fin 16)) (outId : DeviceId) :
    (scanIdBytes hex is outId).1 = true ↔
      ∀ i ∈ is, BeginsNumber (hex.drop (2 * i.val)) := by
  induction is generalizing outId with
  | nil => exact iff_of_true rfl (List.forall_mem_nil _)
  | cons i is ih =>
    rw [List.forall_mem_cons, ← sscanf02x_iff, scanIdBytes]
    cases sscanf02x (hex.drop (2 * i.val)) with
    | none => exact iff_of_false Bool.false_ne_true fun h => Bool.false_ne_true h.1
    | some byte =>
      rw [Option.isSome_some, eq_self, true_and]
      exact ih _

theorem deviceIdFromString_iff (s : Bytes) (outId : DeviceId) :
    (deviceIdFromString s outId).1 = true ↔ Readable s := by
  rw [deviceIdFromString]
  by_cases hlength : s.length = 36
  swap
  · rw [if_pos hlength]
    exact iff_of_false Bool.false_ne_true fun h => hlength h.length
  rw [if_neg (not_not.mpr hlength)]
  by_cases hdash : s.getD 8 0 ≠ dash ∨ s.getD 13 0 ≠ dash ∨ s.getD 18 0 ≠ dash ∨ s.getD 23 0 ≠ dash
  · rw [if_pos hdash]
    refine iff_of_false Bool.false_ne_true fun h => ?_
    rcases hdash with hne | hne | hne | hne
    · exact hne (h.dashes 8 (by simp))
    · exact hne (h.dashes 13 (by simp))
    · exact hne (h.dashes 18 (by simp))
    · exact hne (h.dashes 23 (by simp))
  rw [if_neg hdash]
  by_cases hothers : (undashed s).length = 32
  swap
  · show (if (undashed s).length ≠ 32 then (false, outId)
      else scanIdBytes (undashed s) (List.finRange 16) outId).1 = true ↔ Readable s
    rw [if_pos hothers]
    exact iff_of_false Bool.false_ne_true fun h => hothers h.length_undashed
  show (if (undashed s).length ≠ 32 then (false, outId)
    else scanIdBytes (undashed s) (List.finRange 16) outId).1 = true ↔ Readable s
  rw [if_neg (not_not.mpr hothers), scanIdBytes_iff]
  constructor
  · intro h
    refine ⟨hlength, ?_, hothers, fun i hi => h ⟨i, hi⟩ (List.mem_finRange _)⟩
    simp only [not_or, not_not] at hdash
    simpa using hdash
  · exact fun h i _ => h.numbers i.val i.isLt

/-- A well-formed UUID is readable. -/
theorem WellFormedUuid.readable {s : Bytes} (h : WellFormedUuid s) : Readable s :=
  (deviceIdFromString_iff s zeroDeviceId).mp (deviceIdToString_deviceIdFromString h zeroDeviceId).1

/-- Exactly the UUIDs are accepted, and an accepted text is the text of its id up to case. -/
def ParsedAsUuid (s : Bytes) (outId : DeviceId) : Prop :=
  ((deviceIdFromString s outId).1 = true ↔ WellFormedUuid s) ∧
    ((deviceIdFromString s outId).1 = true →
      deviceIdToString (deviceIdFromString s outId).2 = s.map toLower)

/-- **A text is parsed as it should be if and only if it is a UUID or no readable text at all.** Of
two such texts with one id, each is the other up to case. -/
theorem parsedAsUuid_iff (s : Bytes) (outId : DeviceId) :
    (ParsedAsUuid s outId ↔ WellFormedUuid s ∨ ¬ Readable s) ∧
    ∀ t outId', (WellFormedUuid s ∨ ¬ Readable s) → (WellFormedUuid t ∨ ¬ Readable t) →
      (deviceIdFromString s outId).1 = true → (deviceIdFromString t outId').1 = true →
      (deviceIdFromString s outId).2 = (deviceIdFromString t outId').2 →
      s.map toLower = t.map toLower := by
  have huuid {u : Bytes} {out : DeviceId} (hu : WellFormedUuid u ∨ ¬ Readable u)
      (haccepted : (deviceIdFromString u out).1 = true) : WellFormedUuid u :=
    hu.resolve_right (not_not.mpr ((deviceIdFromString_iff u out).mp haccepted))
  constructor
  · constructor
    · intro h
      by_cases hreadable : Readable s
      · exact .inl (h.1.mp ((deviceIdFromString_iff s outId).mpr hreadable))
      · exact .inr hreadable
    · intro h
      refine ⟨⟨huuid h, fun hs => (deviceIdToString_deviceIdFromString hs outId).1⟩, ?_⟩
      exact fun haccepted => (deviceIdToString_deviceIdFromString (huuid h haccepted) outId).2
  · intro t outId' hs ht hsAccepted htAccepted heq
    calc s.map toLower = deviceIdToString (deviceIdFromString s outId).2 :=
          (deviceIdToString_deviceIdFromString (huuid hs hsAccepted) outId).2.symm
      _ = deviceIdToString (deviceIdFromString t outId').2 := by rw [heq]
      _ = t.map toLower := (deviceIdToString_deviceIdFromString (huuid ht htAccepted) outId').2

/-- A plus sign in place of the first digit is accepted, and the text stands for the id of another
text. -/
theorem deviceIdFromString_plus_sign :
    (¬ ∀ s outId, ParsedAsUuid s outId) ∧
    ¬ ∀ s t outId, (deviceIdFromString s outId).1 = true → (deviceIdFromString t outId).1 = true →
      (deviceIdFromString s outId).2 = (deviceIdFromString t outId).2 →
      s.map toLower = t.map toLower := by
  constructor
  · intro h
    have hplus := (h (ascii "+1234567-89ab-cdef-0123-456789abcdef") zeroDeviceId).1
    revert hplus
    decide +kernel
  · intro h
    have hplus := h (ascii "+1234567-89ab-cdef-0123-456789abcdef")
      (ascii "01234567-89ab-cdef-0123-456789abcdef") zeroDeviceId
    revert hplus
    decide +kernel

end MobileUnlock.Pairing
