import MobileUnlock.Pairing.SasPin
import Mathlib.Data.Set.Card

/-!
# `MobileUnlock.Proofs.RandomMaterial`: PINs and device ids from a random source that may fail

`generateSasPin` looks at the function pointer and not at the result of a draw, so a draw that
fails leaves the old number in the buffer. `redrawLoop_of_firstAccepted` follows the loop to the
first accepted number. `soundPin_iff` says when the PIN is what it should be: no random function,
or an accepted number within 33 draws with no failure in front of it.

`generateDeviceId` sets the version and variant bits whether or not the draw gave bytes, so an id
without a draw is not the empty one (`soundDeviceId_iff`).
-/

set_option autoImplicit false

namespace MobileUnlock.Pairing

open MobileUnlock.Lib

/-! ### The draws of a PIN -/

/-- The draw gives a number that is rejected. -/
def RejectedAt (rng : RandomSource) (j : Nat) : Prop := ∃ w, rng j = .value w ∧ SAS_LIMIT ≤ w

/-- Draw `i` is the first one that is not rejected, and it gives the number `v`. -/
def FirstAccepted (rng : RandomSource) (i : Nat) (v : UInt32) : Prop :=
  rng i = .value v ∧ v < SAS_LIMIT ∧ ∀ j < i, RejectedAt rng j

/-- Draw `i` is made and fails. -/
def FailsAt (rng : RandomSource) (i : Nat) : Prop :=
  (∀ v, rng i ≠ .value v) ∧ ∀ j < i, RejectedAt rng j

/-- The loop runs to the first accepted number. After draw `32 - left` the buffer holds the number
of that draw. -/
theorem redrawLoop_of_firstAccepted {rng : RandomSource} {i : Nat} {v : UInt32}
    (hfirst : FirstAccepted rng i v) (hi : i < 33) (left : Nat) (hleft : left ≤ 32)
    (hdone : 32 - left ≤ i) {w : UInt32} (hw : rng (32 - left) = .value w) :
    redrawLoop rng left w = v := by
  obtain ⟨hvalue, hlt, hrejected⟩ := hfirst
  induction left generalizing w with
  | zero =>
    have hlast : i = 32 - 0 := by omega
    rw [← hlast, hvalue, RandomDraw.value.injEq] at hw
    exact hw.symm
  | succ left ih =>
    rw [redrawLoop]
    by_cases hthis : 32 - (left + 1) = i
    · rw [hthis, hvalue, RandomDraw.value.injEq] at hw
      rw [← hw, if_neg (UInt32.not_le.mpr hlt)]
    · obtain ⟨w', hw', hge⟩ := hrejected (32 - (left + 1)) (by omega)
      rw [hw, RandomDraw.value.injEq] at hw'
      have hnext : ∃ x, rng (32 - left) = .value x := by
        by_cases hlast : 32 - left = i
        · exact ⟨v, by rw [hlast, hvalue]⟩
        · obtain ⟨x, hx, -⟩ := hrejected (32 - left) (by omega)
          exact ⟨x, hx⟩
      obtain ⟨x, hx⟩ := hnext
      rw [if_pos (hw' ▸ hge), hx]
      exact ih (by omega) (by omega) hx

theorem generateSasPin_of_firstAccepted {rng : RandomSource} {i : Nat} {v : UInt32}
    (hfirst : FirstAccepted rng i v) (hi : i < 33) :
    generateSasPin rng = sixDigits (v.toNat % 1000000) := by
  have hzero : ∃ w, rng 0 = .value w := by
    rcases Nat.eq_zero_or_pos i with rfl | hpos
    · exact ⟨v, hfirst.1⟩
    · obtain ⟨w, hw, -⟩ := hfirst.2.2 0 hpos
      exact ⟨w, hw⟩
  obtain ⟨w, hw⟩ := hzero
  rw [generateSasPin, if_neg (by rw [hw]; exact RandomDraw.noConfusion), hw]
  show sixDigits ((redrawLoop rng 32 w).toNat % 1000000) = _
  rw [redrawLoop_of_firstAccepted hfirst hi 32 (Nat.le_refl 32) (Nat.zero_le i) hw]

/-- What a PIN must be: the empty text when a draw that is made fails, and otherwise the digits
of the first accepted number, within 33 draws. -/
def SoundPin (rng : RandomSource) : Prop :=
  ((∃ i < 33, FailsAt rng i) → generateSasPin rng = []) ∧
    ((¬ ∃ i < 33, FailsAt rng i) →
      ∃ i < 33, ∃ v, FirstAccepted rng i v ∧ generateSasPin rng = sixDigits (v.toNat % 1000000))

theorem generateSasPin_eq_nil_iff (rng : RandomSource) :
    generateSasPin rng = [] ↔ rng 0 = .unavailable := by
  rw [generateSasPin]
  split
  next h => exact iff_of_true rfl h
  next h => exact iff_of_false (List.cons_ne_nil _ _) h

theorem soundPin_iff (rng : RandomSource) :
    SoundPin rng ↔ rng 0 = .unavailable ∨ ∃ i < 33, ∃ v, FirstAccepted rng i v := by
  constructor
  · rintro ⟨hfail, hpin⟩
    by_cases hany : ∃ i < 33, FailsAt rng i
    · exact .inl ((generateSasPin_eq_nil_iff rng).mp (hfail hany))
    · obtain ⟨i, hi, v, hfirst, -⟩ := hpin hany
      exact .inr ⟨i, hi, v, hfirst⟩
  · rintro (hnone | ⟨i, hi, v, hfirst⟩)
    · have hempty := (generateSasPin_eq_nil_iff rng).mpr hnone
      have hfails : FailsAt rng 0 :=
        ⟨fun v => by rw [hnone]; exact RandomDraw.noConfusion, fun j hj => absurd hj (by omega)⟩
      exact ⟨fun _ => hempty, fun hno => absurd ⟨0, by omega, hfails⟩ hno⟩
    · refine ⟨?_, fun _ => ⟨i, hi, v, hfirst, generateSasPin_of_firstAccepted hfirst hi⟩⟩
      rintro ⟨k, -, hnovalue, hrejected⟩
      -- a failure in front of the accepted draw, at it, or behind it
      rcases Nat.lt_trichotomy k i with hlt | rfl | hgt
      · obtain ⟨w, hw, -⟩ := hfirst.2.2 k hlt
        exact absurd hw (hnovalue w)
      · exact absurd hfirst.1 (hnovalue v)
      · obtain ⟨w, hw, hge⟩ := hrejected i hgt
        rw [hfirst.1, RandomDraw.value.injEq] at hw
        exact absurd (hw ▸ hfirst.2.1) (UInt32.not_lt.mpr hge)

/-! ### The numbers behind a PIN -/

/-- The accepted numbers whose PIN is `pin`. -/
def numbersFor (pin : Bytes) : Set UInt32 :=
  {v | v < SAS_LIMIT ∧ generateSasPin (fun _ => .value v) = pin}

theorem digitByte_toNat (n : Nat) : (UInt8.ofNat (48 + n % 10)).toNat = 48 + n % 10 := by
  rw [UInt8.toNat_ofNat']
  omega

/-- A number below a million is read off its six digits. -/
theorem sixDigits_inj {p q : Nat} (hp : p < 1000000) (hq : q < 1000000)
    (h : sixDigits p = sixDigits q) : p = q := by
  have hdigit : ∀ {m n : Nat}, UInt8.ofNat (48 + m % 10) = UInt8.ofNat (48 + n % 10) →
      m % 10 = n % 10 := by
    intro m n heq
    have hnat := congrArg UInt8.toNat heq
    rw [digitByte_toNat, digitByte_toNat] at hnat
    omega
  simp only [sixDigits, List.map_cons, List.map_nil, List.cons.injEq, and_true] at h
  obtain ⟨h5, h4, h3, h2, h1, h0⟩ := h
  have e5 := hdigit h5
  have e4 := hdigit h4
  have e3 := hdigit h3
  have e2 := hdigit h2
  have e1 := hdigit h1
  have e0 := hdigit h0
  omega

/-- Every six-digit text is the text of a number below a million. -/
theorem exists_sixDigits {pin : Bytes} (h : isValidPinFormat pin = true) :
    ∃ p < 1000000, sixDigits p = pin := by
  rw [isValidPinFormat, Bool.and_eq_true, beq_iff_eq, List.all_eq_true] at h
  obtain ⟨hlength, hdigits⟩ := h
  obtain ⟨a, b, c, d, e, f, rfl⟩ : ∃ a b c d e f, pin = [a, b, c, d, e, f] := by
    match pin, hlength with
    | [a, b, c, d, e, f], _ => exact ⟨a, b, c, d, e, f, rfl⟩
  have hbound : ∀ x ∈ [a, b, c, d, e, f], 48 ≤ x.toNat ∧ x.toNat ≤ 57 := by
    intro x hx
    have hboth := hdigits x hx
    rw [Bool.and_eq_true, decide_eq_true_eq, decide_eq_true_eq, UInt8.le_iff_toNat_le,
      UInt8.le_iff_toNat_le] at hboth
    exact hboth
  simp only [List.forall_mem_cons] at hbound
  obtain ⟨ha, hb, hc, hd, he, hf, -⟩ := hbound
  have hbyte : ∀ {n : Nat} {x : UInt8}, 48 + n % 10 = x.toNat →
      UInt8.ofNat (48 + n % 10) = x := by
    intro n x heq
    rw [heq, UInt8.ofNat_toNat]
  refine ⟨100000 * (a.toNat - 48) + 10000 * (b.toNat - 48) + 1000 * (c.toNat - 48) +
    100 * (d.toNat - 48) + 10 * (e.toNat - 48) + (f.toNat - 48), by omega, ?_⟩
  simp only [sixDigits, List.map_cons, List.map_nil, List.cons.injEq, and_true]
  exact ⟨hbyte (by omega), hbyte (by omega), hbyte (by omega), hbyte (by omega),
    hbyte (by omega), hbyte (by omega)⟩

theorem mem_numbersFor {pin : Bytes} {v : UInt32} :
    v ∈ numbersFor pin ↔ v < SAS_LIMIT ∧ sixDigits (v.toNat % 1000000) = pin := by
  refine and_congr_right fun hlt => ?_
  have hfirst : FirstAccepted (fun _ => .value v) 0 v :=
    ⟨rfl, hlt, fun j hj => absurd hj (by omega)⟩
  rw [generateSasPin_of_firstAccepted hfirst (by omega)]

/-- Every PIN has exactly 4294 accepted numbers. -/
theorem ncard_numbersFor {pin : Bytes} (h : isValidPinFormat pin = true) :
    (numbersFor pin).ncard = 4294 := by
  obtain ⟨p, hp, rfl⟩ := exists_sixDigits h
  have hnat : ∀ k < 4294, (UInt32.ofNat (p + 1000000 * k)).toNat = p + 1000000 * k := by
    intro k hk
    rw [UInt32.toNat_ofNat']
    omega
  have himage : numbersFor (sixDigits p) =
      (fun k => UInt32.ofNat (p + 1000000 * k)) '' Finset.range 4294 := by
    ext v
    rw [mem_numbersFor, Set.mem_image, UInt32.lt_iff_toNat_lt]
    have hlimit : SAS_LIMIT.toNat = 4294000000 := rfl
    constructor
    · rintro ⟨hlt, hdigits⟩
      have hmod := sixDigits_inj (Nat.mod_lt _ (by omega)) hp hdigits
      refine ⟨v.toNat / 1000000, Finset.mem_coe.mpr (Finset.mem_range.mpr (by omega)), ?_⟩
      show UInt32.ofNat (p + 1000000 * (v.toNat / 1000000)) = v
      rw [← hmod, Nat.mod_add_div, UInt32.ofNat_toNat]
    · rintro ⟨k, hk, rfl⟩
      have hk := Finset.mem_range.mp hk
      show (UInt32.ofNat (p + 1000000 * k)).toNat < _ ∧ _
      rw [hnat k hk]
      refine ⟨by omega, congrArg sixDigits ?_⟩
      omega
  have hinj : Set.InjOn (fun k => UInt32.ofNat (p + 1000000 * k)) (Finset.range 4294) := by
    intro k hk l hl heq
    have hval := congrArg UInt32.toNat heq
    rw [hnat k (Finset.mem_range.mp hk), hnat l (Finset.mem_range.mp hl)] at hval
    omega
  rw [himage, hinj.ncard_image, Set.ncard_coe_finset, Finset.card_range]

/-! ### Device ids -/

/-- What an id must be: the empty id when the draw fails, and otherwise the drawn bytes with the
high four bits of byte 6 replaced by the version 4 and the high two bits of byte 8 by the
variant 1. -/
structure SoundDeviceId (draw : Option DeviceId) : Prop where
  empty : draw = none → deviceIdIsEmpty (generateDeviceId draw) = true
  drawn : ∀ drawn, draw = some drawn →
    (∀ k, k ≠ 6 → k ≠ 8 → (generateDeviceId draw).get k = drawn.get k) ∧
      ((generateDeviceId draw).get 6).toNat = 4 * 16 + (drawn.get 6).toNat % 16 ∧
      ((generateDeviceId draw).get 8).toNat = 2 * 64 + (drawn.get 8).toNat % 64

theorem versionByte_toNat (b : UInt8) : ((b &&& 0x0F) ||| 0x40).toNat = 4 * 16 + b.toNat % 16 :=
  forall_byte (p := fun b => ((b &&& 0x0F) ||| 0x40).toNat = 4 * 16 + b.toNat % 16)
    (by decide +kernel) b

theorem variantByte_toNat (b : UInt8) : ((b &&& 0x3F) ||| 0x80).toNat = 2 * 64 + b.toNat % 64 :=
  forall_byte (p := fun b => ((b &&& 0x3F) ||| 0x80).toNat = 2 * 64 + b.toNat % 64)
    (by decide +kernel) b

/-- The bits are set after a failed draw too. -/
theorem not_soundDeviceId_none : ¬ SoundDeviceId none := by
  intro h
  have hset : deviceIdIsEmpty (generateDeviceId none) = false := by decide
  rw [h.empty rfl] at hset
  cases hset

theorem soundDeviceId_some (drawn : DeviceId) : SoundDeviceId (some drawn) := by
  refine ⟨nofun, ?_⟩
  rintro _ ⟨⟩
  refine ⟨?_, ?_, ?_⟩
  · intro k h6 h8
    rw [generateDeviceId, List.Vector.get_set_of_ne (Ne.symm h8),
      List.Vector.get_set_of_ne (Ne.symm h6), Option.getD_some]
  · rw [generateDeviceId, List.Vector.get_set_of_ne (by decide), List.Vector.get_set_same,
      Option.getD_some, versionByte_toNat]
  · rw [generateDeviceId, List.Vector.get_set_same, List.Vector.get_set_of_ne (by decide),
      Option.getD_some, variantByte_toNat]

theorem soundDeviceId_iff (draw : Option DeviceId) : SoundDeviceId draw ↔ draw ≠ none := by
  cases draw with
  | none => exact iff_of_false not_soundDeviceId_none (not_not.mpr rfl)
  | some drawn => exact iff_of_true (soundDeviceId_some drawn) (Option.some_ne_none drawn)

/-! ### Both together -/

/-- For every behaviour of the random source, PINs and ids are sound or absent, with 4294 accepted
numbers for every PIN, if and only if the PIN's draws find no random function or an accepted
number within 33 draws, without a failure before it, and the draw of the id does not fail. -/
theorem randomMaterial_sound_iff (rng : RandomSource) (draw : Option DeviceId) :
    (SoundPin rng ∧ (∀ pin, isValidPinFormat pin = true → (numbersFor pin).ncard = 4294) ∧
      SoundDeviceId draw) ↔
    (rng 0 = .unavailable ∨ ∃ i < 33, ∃ v, FirstAccepted rng i v) ∧ draw ≠ none := by
  rw [soundPin_iff, soundDeviceId_iff]
  exact and_congr_right fun _ => and_iff_right fun _ => ncard_numbersFor

/-- With a source whose draws fail, the PIN is `000000`, and the id is not empty. -/
theorem randomMaterial_not_sound :
    generateSasPin (fun _ => .failed) = ascii "000000" ∧ ¬ SoundPin (fun _ => .failed) ∧
      deviceIdIsEmpty (generateDeviceId none) = false ∧ ¬ SoundDeviceId none := by
  refine ⟨by decide, fun h => ?_, by decide, not_soundDeviceId_none⟩
  have hfails : FailsAt (fun _ => .failed) 0 :=
    ⟨fun v => RandomDraw.noConfusion, fun j hj => absurd hj (by omega)⟩
  have hempty := h.1 ⟨0, by omega, hfails⟩
  exact absurd hempty (by decide)

end MobileUnlock.Pairing
