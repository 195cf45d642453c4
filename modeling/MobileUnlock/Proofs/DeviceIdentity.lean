import MobileUnlock.Lib.Win32
import MobileUnlock.Pairing.DeviceIdentity

/-!
# `MobileUnlock.Proofs.DeviceIdentity`: the text of a device id

`hexPairs` reads a text of hexadecimal digits two at a time. It undoes `hexBytes`, so the
text of an id without its dashes gives the id back and `deviceIdToString` is injective
(`deviceIdToString_injective`). In the other direction a well-formed UUID text is parsed to
an id whose text is the lower case of the input (`deviceIdToString_deviceIdFromString`), so
both texts name one registry key.
-/

set_option autoImplicit false

namespace MobileUnlock.Pairing

open MobileUnlock.Lib MobileUnlock.Lib.Win32

/-! ### Digits -/

/-- A digit is read back. -/
theorem hexValue_hexDigit {n : Nat} (hn : n < 16) : hexValue (hexDigit n) = some n := by
  have h : ∀ m : Fin 16, hexValue (hexDigit m.val) = some m.val := by decide
  exact h ⟨n, hn⟩

/-- What is known of a character that is a hexadecimal digit: its lower case is the digit
the printer writes, and `sscanf` neither skips it nor takes it for a sign. -/
theorem hexValue_eq_some {c : UInt8} {v : Nat} (h : hexValue c = some v) :
    v < 16 ∧ hexDigit v = toLower c ∧ c ≠ 0 ∧ isSpace c = false ∧ c ≠ 43 ∧ c ≠ 45 ∧
      c ≠ 120 ∧ c ≠ 88 := by
  have hall : ∀ c : UInt8, ∀ v ∈ hexValue c,
      v < 16 ∧ hexDigit v = toLower c ∧ c ≠ 0 ∧ isSpace c = false ∧ c ≠ 43 ∧ c ≠ 45 ∧
        c ≠ 120 ∧ c ≠ 88 :=
    forall_byte (by decide +kernel)
  exact hall c v h

/-- Every character of the text of a byte is a digit. -/
theorem hexValue_isSome_of_mem_hexByte {b c : UInt8} (h : c ∈ hexByte b) :
    (hexValue c).isSome := by
  have hb := b.toNat_lt
  simp only [hexByte, List.mem_cons, List.not_mem_nil, or_false] at h
  rcases h with rfl | rfl
  · rw [hexValue_hexDigit (by omega)]
    rfl
  · rw [hexValue_hexDigit (by omega)]
    rfl

/-- A digit is not a dash. -/
theorem ne_dash_of_hexValue {c : UInt8} (h : (hexValue c).isSome) : c ≠ dash := by
  obtain ⟨v, hv⟩ := Option.isSome_iff_exists.mp h
  exact (hexValue_eq_some hv).2.2.2.2.2.1

/-! ### Texts of digits -/

/-- The byte that two digits stand for. -/
def pairByte (a b : UInt8) : UInt8 :=
  UInt8.ofNat (16 * (hexValue a).getD 0 + (hexValue b).getD 0)

/-- The bytes of a text of digits, two at a time. -/
def hexPairs : Bytes → Bytes
  | a :: b :: rest => pairByte a b :: hexPairs rest
  | _ => []

/-- Induction on a text of even length, two characters at a time. -/
theorem even_induction {motive : (g : Bytes) → g.length % 2 = 0 → Prop} (nil : motive [] rfl)
    (pair : ∀ (a b : UInt8) (rest : Bytes) (h : rest.length % 2 = 0), motive rest h →
      motive (a :: b :: rest) (by simp only [List.length_cons]; omega)) :
    ∀ (g : Bytes) (h : g.length % 2 = 0), motive g h
  | [], _ => nil
  | a :: b :: rest, h => by
    have hrest : rest.length % 2 = 0 := by
      simp only [List.length_cons] at h
      omega
    exact pair a b rest hrest (even_induction nil pair rest hrest)

theorem hexBytes_append (as bs : Bytes) : hexBytes (as ++ bs) = hexBytes as ++ hexBytes bs := by
  simp [hexBytes]

@[simp] theorem length_hexBytes (bs : Bytes) : (hexBytes bs).length = 2 * bs.length := by
  induction bs with
  | nil => rfl
  | cons b bs ih =>
    rw [hexBytes, List.flatMap_cons, List.length_append, ← hexBytes, ih]
    simp [hexByte]
    omega

/-- Reading undoes printing. -/
theorem hexPairs_hexBytes (bs : Bytes) : hexPairs (hexBytes bs) = bs := by
  induction bs with
  | nil => rfl
  | cons b bs ih =>
    have hb := b.toNat_lt
    have hpair : pairByte (hexDigit (b.toNat / 16)) (hexDigit (b.toNat % 16)) = b := by
      rw [pairByte, hexValue_hexDigit (by omega), hexValue_hexDigit (by omega), Option.getD_some,
        Option.getD_some, Nat.div_add_mod, UInt8.ofNat_toNat]
    show pairByte _ _ :: hexPairs (hexBytes bs) = b :: bs
    rw [hpair, ih]

/-- Printing what was read gives the digits in lower case. -/
theorem hexBytes_hexPairs {g : Bytes} (heven : g.length % 2 = 0)
    (hg : ∀ c ∈ g, (hexValue c).isSome) : hexBytes (hexPairs g) = g.map toLower := by
  induction g, heven using even_induction with
  | nil => rfl
  | pair a b rest _ ih =>
    obtain ⟨x, hx⟩ := Option.isSome_iff_exists.mp (hg a (by simp))
    obtain ⟨y, hy⟩ := Option.isSome_iff_exists.mp (hg b (by simp))
    obtain ⟨hx16, hxl, -⟩ := hexValue_eq_some hx
    obtain ⟨hy16, hyl, -⟩ := hexValue_eq_some hy
    -- The two digits make one byte, and printing it gives them back in lower case.
    have hbyte : (pairByte a b).toNat = 16 * x + y := by
      rw [pairByte, hx, hy, Option.getD_some, Option.getD_some]
      exact UInt8.toNat_ofNat_of_lt (by show 16 * x + y < 256; omega)
    have hhex : hexByte (pairByte a b) = [toLower a, toLower b] := by
      rw [hexByte, hbyte, show (16 * x + y) / 16 = x by omega, show (16 * x + y) % 16 = y by omega,
        hxl, hyl]
    have hrest := ih fun c hc => hg c (by simp [hc])
    show hexByte (pairByte a b) ++ hexBytes (hexPairs rest) = _
    rw [hhex, hrest]
    rfl

theorem hexPairs_append {g h : Bytes} (heven : g.length % 2 = 0) :
    hexPairs (g ++ h) = hexPairs g ++ hexPairs h := by
  induction g, heven using even_induction with
  | nil => rfl
  | pair a b rest _ ih =>
    show pairByte a b :: hexPairs (rest ++ h) = pairByte a b :: (hexPairs rest ++ hexPairs h)
    rw [ih]

theorem length_hexPairs (g : Bytes) : (hexPairs g).length = g.length / 2 := by
  induction g using hexPairs.induct with
  | case1 a b rest ih =>
    show (hexPairs rest).length + 1 = (rest.length + 2) / 2
    rw [ih]
    omega
  | case2 g hshort =>
    match g, hshort with
    | [], _ => rfl
    | [c], _ => simp [hexPairs]
    | a :: b :: rest, hshort => exact absurd rfl (hshort a b rest)

theorem hexValue_isSome_of_mem_hexBytes {bs : Bytes} {c : UInt8} (h : c ∈ hexBytes bs) :
    (hexValue c).isSome := by
  obtain ⟨b, -, hc⟩ := List.mem_flatMap.mp h
  exact hexValue_isSome_of_mem_hexByte hc

/-- Removing dashes keeps a text of digits. -/
theorem filter_dash_of_digits {g : Bytes} (hg : ∀ c ∈ g, (hexValue c).isSome) :
    g.filter (· ≠ dash) = g := by
  apply List.filter_eq_self.mpr
  intro c hc
  simpa using ne_dash_of_hexValue (hg c hc)

theorem filter_dash_singleton : [dash].filter (· ≠ dash) = [] := by decide

theorem map_toLower_dash : [dash].map toLower = [dash] := by decide

/-! ### The text of an id -/

/-- The text of an id has 36 characters. -/
@[simp] theorem length_deviceIdToString (id : DeviceId) : (deviceIdToString id).length = 36 := by
  have hlen : id.toList.length = 16 := id.toList_length
  unfold deviceIdToString
  simp only [List.length_append, length_hexBytes, List.length_singleton]
  rw [length_slice (by omega), length_slice (by omega), length_slice (by omega),
    length_slice (by omega), length_slice (by omega)]

/-- The text of an id without its dashes. -/
theorem filter_dash_deviceIdToString (id : DeviceId) :
    (deviceIdToString id).filter (· ≠ dash) = hexBytes id.toList := by
  have hslice : ∀ off len, (hexBytes (slice off len id.toList)).filter (· ≠ dash)
      = hexBytes (slice off len id.toList) :=
    fun off len => filter_dash_of_digits fun c hc => hexValue_isSome_of_mem_hexBytes hc
  have hjoin : slice 0 4 id.toList ++ slice 4 2 id.toList ++ slice 6 2 id.toList ++
      slice 8 2 id.toList ++ slice 10 6 id.toList = id.toList := by
    rw [slice_append_slice 0 4 2, slice_append_slice 0 6 2, slice_append_slice 0 8 2,
      slice_append_slice 0 10 6, slice_all (by simp)]
  rw [deviceIdToString]
  simp only [List.filter_append, hslice, filter_dash_singleton, List.append_nil]
  rw [← hexBytes_append, ← hexBytes_append, ← hexBytes_append, ← hexBytes_append, hjoin]

/-- The text of an id whose bytes come in five groups. -/
theorem deviceIdToString_of_groups {id : DeviceId} {a b c d e : Bytes}
    (hid : id.toList = a ++ (b ++ (c ++ (d ++ e)))) (ha : a.length = 4) (hb : b.length = 2)
    (hc : c.length = 2) (hd : d.length = 2) (he : e.length = 6) :
    deviceIdToString id = hexBytes a ++ [dash] ++ hexBytes b ++ [dash] ++ hexBytes c ++ [dash] ++
      hexBytes d ++ [dash] ++ hexBytes e := by
  rw [deviceIdToString, hid]
  simp (disch := simp [ha, hb, hc, hd, he]) only [slice_append_right, slice_append_left, ha, hb, hc,
    hd, Nat.reduceSub, slice_all]

/-- Two ids with the same text are the same. -/
theorem deviceIdToString_injective : Function.Injective deviceIdToString := by
  intro a b h
  apply List.Vector.eq
  rw [← hexPairs_hexBytes a.toList, ← filter_dash_deviceIdToString, h,
    filter_dash_deviceIdToString, hexPairs_hexBytes]

@[simp] theorem deviceIdToString_inj {a b : DeviceId} :
    deviceIdToString a = deviceIdToString b ↔ a = b :=
  deviceIdToString_injective.eq_iff

/-! ### Parsing -/

/-- Two digits are converted, whatever follows them. -/
theorem sscanf02x_digits {a b : UInt8} {x y : Nat} (ha : hexValue a = some x)
    (hb : hexValue b = some y) (rest : Bytes) :
    sscanf02x (a :: b :: rest) = some (16 * x + y) := by
  obtain ⟨-, -, ha0, hasp, ha43, ha45, -, -⟩ := hexValue_eq_some ha
  obtain ⟨-, -, hb0, -, -, -, hb120, hb88⟩ := hexValue_eq_some hb
  have htext : ((a :: b :: rest).takeWhile (· ≠ 0)).dropWhile isSpace
      = a :: b :: rest.takeWhile (· ≠ 0) := by
    rw [List.takeWhile_cons_of_pos (by simpa using ha0),
      List.takeWhile_cons_of_pos (by simpa using hb0),
      List.dropWhile_cons_of_neg (by simp [hasp])]
  rw [sscanf02x, htext]
  simp [ha, hb, ha43, ha45, hb120, hb88]

/-- The scan loop when every conversion succeeds: byte `i` is written for every `i` of the
list. -/
theorem scanIdBytes_of_some {hex : Bytes} {f : Fin 16 → Nat} (is : List (Fin 16))
    (h : ∀ i ∈ is, sscanf02x (hex.drop (2 * i.val)) = some (f i)) (outId : DeviceId) :
    (scanIdBytes hex is outId).1 = true ∧
      ∀ j, (scanIdBytes hex is outId).2.get j
        = if j ∈ is then UInt8.ofNat (f j) else outId.get j := by
  induction is generalizing outId with
  | nil => exact ⟨rfl, fun j => by simp [scanIdBytes]⟩
  | cons i is ih =>
    have hi := h i (by simp)
    obtain ⟨hok, hget⟩ := ih (fun k hk => h k (by simp [hk])) (outId.set i (UInt8.ofNat (f i)))
    rw [scanIdBytes, hi]
    refine ⟨hok, fun j => ?_⟩
    rw [hget j]
    by_cases hj : j ∈ is
    · simp [hj]
    · rw [if_neg hj, List.Vector.get_set_eq_if]
      by_cases hij : i = j
      · simp [hij]
      · simp [hij, hj, Ne.symm hij]

/-- The byte at a position comes from the two digits there. -/
theorem getElem?_hexPairs (g : Bytes) (i : Nat) (h : 2 * i + 1 < g.length) :
    (hexPairs g)[i]? = some (pairByte g[2 * i] g[2 * i + 1]) := by
  induction g using hexPairs.induct generalizing i with
  | case1 a b rest ih =>
    cases i with
    | zero => rfl
    | succ i =>
      have hrest := ih i (by simp only [List.length_cons] at h; omega)
      simpa [hexPairs, Nat.mul_add] using hrest
  | case2 g hshort =>
    -- fewer than two digits: there is no position
    match g, hshort with
    | [], _ => simp at h
    | [c], _ => simp at h
    | a :: b :: rest, hshort => exact absurd rfl (hshort a b rest)

/-- 32 digits are scanned to the bytes they stand for. -/
theorem scanIdBytes_digits {hex : Bytes} (hlen : hex.length = 32)
    (hhex : ∀ c ∈ hex, (hexValue c).isSome) (outId : DeviceId) :
    (scanIdBytes hex (List.finRange 16) outId).1 = true ∧
      (scanIdBytes hex (List.finRange 16) outId).2.toList = hexPairs hex := by
  have hdigit : ∀ i (hi : i < hex.length), hexValue hex[i] = some ((hexValue hex[i]).getD 0) := by
    intro i hi
    obtain ⟨v, hv⟩ := Option.isSome_iff_exists.mp (hhex hex[i] (List.getElem_mem hi))
    rw [hv, Option.getD_some]
  -- Every `sscanf` reads its two digits, so all of the sixteen bytes are written.
  obtain ⟨hok, hget⟩ := scanIdBytes_of_some
    (f := fun i => 16 * (hexValue (hex.getD (2 * i.val) 0)).getD 0
      + (hexValue (hex.getD (2 * i.val + 1) 0)).getD 0) (List.finRange 16)
    (fun i _ => by
      have h1 : 2 * i.val < hex.length := by omega
      have h2 : 2 * i.val + 1 < hex.length := by omega
      rw [List.drop_eq_getElem_cons h1, List.drop_eq_getElem_cons h2,
        sscanf02x_digits (hdigit _ h1) (hdigit _ h2), List.getD_eq_getElem _ _ h1,
        List.getD_eq_getElem _ _ h2]) outId
  refine ⟨hok, ?_⟩
  apply List.ext_getElem?
  intro i
  by_cases hi : i < 16
  · have h1 : 2 * i < hex.length := by omega
    have h2 : 2 * i + 1 < hex.length := by omega
    have hi' := hget ⟨i, hi⟩
    rw [if_pos (List.mem_finRange _), List.Vector.get_eq_get_toList] at hi'
    rw [getElem?_hexPairs hex i h2, List.getElem?_eq_getElem (by simpa using hi), Option.some.injEq]
    simp only [List.get_eq_getElem, Fin.val_cast] at hi'
    rw [hi', pairByte, List.getD_eq_getElem _ _ h1, List.getD_eq_getElem _ _ h2]
  · rw [List.getElem?_eq_none (by simp; omega),
      List.getElem?_eq_none (by rw [length_hexPairs]; omega)]

/-- A text of the form 8-4-4-4-12 with hexadecimal digits of either case. -/
def WellFormedUuid (s : Bytes) : Prop :=
  s.length = 36 ∧ ∀ i ∈ List.range 36,
    if i ∈ [8, 13, 18, 23] then s.getD i 0 = dash else (hexValue (s.getD i 0)).isSome

instance (s : Bytes) : Decidable (WellFormedUuid s) :=
  inferInstanceAs (Decidable (_ ∧ _))

/-- A stretch of a well-formed text without a dash position has only digits. -/
theorem WellFormedUuid.digits {s : Bytes} (hs : WellFormedUuid s) (off len : Nat)
    (hin : off + len ≤ 36) (hdash : ∀ p ∈ [8, 13, 18, 23], p < off ∨ off + len ≤ p) :
    ∀ c ∈ slice off len s, (hexValue c).isSome := by
  intro c hc
  obtain ⟨i, hi, rfl⟩ := List.getElem_of_mem hc
  have hlen : i < len := by
    have := hs.1
    rw [length_slice (by omega)] at hi
    exact hi
  have hs36 := hs.1
  have hget : (slice off len s)[i] = s.getD (off + i) 0 := by
    rw [List.getD_eq_getElem _ _ (by omega)]
    simp [slice]
  have hpos := hs.2 (off + i) (List.mem_range.mpr (by omega))
  rw [if_neg (by
    intro hmem
    have := hdash (off + i) hmem
    omega)] at hpos
  rw [hget]
  exact hpos

/-- A well-formed text is its five groups with dashes in between. -/
theorem WellFormedUuid.eq_groups {s : Bytes} (hs : WellFormedUuid s) :
    s = slice 0 8 s ++ [dash] ++ slice 9 4 s ++ [dash] ++ slice 14 4 s ++ [dash] ++ slice 19 4 s ++
      [dash] ++ slice 24 12 s := by
  have hs36 := hs.1
  have hone : ∀ p ∈ [8, 13, 18, 23], slice p 1 s = [dash] := by
    intro p hp
    have hp36 : p < 36 := by
      simp only [List.mem_cons, List.not_mem_nil, or_false] at hp
      omega
    have hpos := hs.2 p (List.mem_range.mpr hp36)
    rw [if_pos hp, List.getD_eq_getElem _ _ (by omega)] at hpos
    rw [slice, List.drop_eq_getElem_cons (by omega), hpos]
    rfl
  have hjoin : slice 0 8 s ++ slice 8 1 s ++ slice 9 4 s ++ slice 13 1 s ++ slice 14 4 s ++
      slice 18 1 s ++ slice 19 4 s ++ slice 23 1 s ++ slice 24 12 s = s := by
    rw [slice_append_slice 0 8 1, slice_append_slice 0 9 4, slice_append_slice 0 13 1,
      slice_append_slice 0 14 4, slice_append_slice 0 18 1, slice_append_slice 0 19 4,
      slice_append_slice 0 23 1, slice_append_slice 0 24 12, slice_all hs36]
  rw [hone 8 (by simp), hone 13 (by simp), hone 18 (by simp), hone 23 (by simp)] at hjoin
  exact hjoin.symm

/-- A well-formed text is parsed, and the text of the id is the lower case of the input. -/
theorem deviceIdToString_deviceIdFromString {s : Bytes} (hs : WellFormedUuid s)
    (outId : DeviceId) :
    (deviceIdFromString s outId).1 = true ∧
      deviceIdToString (deviceIdFromString s outId).2 = s.map toLower := by
  have hs36 := hs.1
  have hd1 := hs.digits 0 8 (by omega) (by decide)
  have hd2 := hs.digits 9 4 (by omega) (by decide)
  have hd3 := hs.digits 14 4 (by omega) (by decide)
  have hd4 := hs.digits 19 4 (by omega) (by decide)
  have hd5 := hs.digits 24 12 (by omega) (by decide)
  -- Without the dashes the five groups are left.
  have hfilter : s.filter (· ≠ dash) = slice 0 8 s ++ slice 9 4 s ++ slice 14 4 s ++ slice 19 4 s ++
      slice 24 12 s := by
    conv_lhs => rw [hs.eq_groups]
    simp only [List.filter_append, filter_dash_of_digits hd1, filter_dash_of_digits hd2,
      filter_dash_of_digits hd3, filter_dash_of_digits hd4, filter_dash_of_digits hd5,
      filter_dash_singleton, List.append_nil]
  have hlens : ∀ off len, off + len ≤ 36 → (slice off len s).length = len := by
    intro off len h
    exact length_slice (by omega)
  have hhexlen : (s.filter (· ≠ dash)).length = 32 := by
    rw [hfilter]
    simp [hlens]
  have hhex : ∀ c ∈ s.filter (· ≠ dash), (hexValue c).isSome := by
    intro c hc
    rw [hfilter] at hc
    simp only [List.mem_append] at hc
    rcases hc with (((hc | hc) | hc) | hc) | hc
    · exact hd1 c hc
    · exact hd2 c hc
    · exact hd3 c hc
    · exact hd4 c hc
    · exact hd5 c hc
  obtain ⟨hok, hbytes⟩ := scanIdBytes_digits hhexlen hhex outId
  have hdash : ∀ p ∈ [8, 13, 18, 23], s.getD p 0 = dash := by
    intro p hp
    have hpos := hs.2 p (List.mem_range.mpr (by
      simp only [List.mem_cons, List.not_mem_nil, or_false] at hp
      omega))
    rwa [if_pos hp] at hpos
  have hparse : deviceIdFromString s outId
      = scanIdBytes (s.filter (· ≠ dash)) (List.finRange 16) outId := by
    rw [deviceIdFromString, if_neg (by omega), if_neg (by
      rw [hdash 8 (by simp), hdash 13 (by simp), hdash 18 (by simp), hdash 23 (by simp)]
      simp)]
    exact if_neg (by simpa using hhexlen)
  rw [hparse]
  refine ⟨hok, ?_⟩
  -- The bytes of the id are the pairs of the groups, so each group is printed back.
  have hp : hexPairs (s.filter (· ≠ dash)) = hexPairs (slice 0 8 s) ++ (hexPairs (slice 9 4 s) ++
      (hexPairs (slice 14 4 s) ++ (hexPairs (slice 19 4 s) ++ hexPairs (slice 24 12 s)))) := by
    rw [hfilter, List.append_assoc, List.append_assoc, List.append_assoc]
    rw [hexPairs_append (by rw [hlens _ _ (by omega)]),
      hexPairs_append (by rw [hlens _ _ (by omega)]),
      hexPairs_append (by rw [hlens _ _ (by omega)]),
      hexPairs_append (by rw [hlens _ _ (by omega)])]
  have hl : ∀ off len, off + len ≤ 36 → (hexPairs (slice off len s)).length = len / 2 := by
    intro off len h
    rw [length_hexPairs, hlens off len h]
  rw [hp] at hbytes
  rw [deviceIdToString_of_groups hbytes (hl _ _ (by omega)) (hl _ _ (by omega)) (hl _ _ (by omega))
    (hl _ _ (by omega)) (hl _ _ (by omega))]
  have heven : ∀ off len, off + len ≤ 36 → len % 2 = 0 → (slice off len s).length % 2 = 0 := by
    intro off len h h2
    rw [hlens off len h, h2]
  rw [hexBytes_hexPairs (heven _ _ (by omega) rfl) hd1,
    hexBytes_hexPairs (heven _ _ (by omega) rfl) hd2,
    hexBytes_hexPairs (heven _ _ (by omega) rfl) hd3,
    hexBytes_hexPairs (heven _ _ (by omega) rfl) hd4,
    hexBytes_hexPairs (heven _ _ (by omega) rfl) hd5]
  conv_rhs => rw [hs.eq_groups]
  simp only [List.map_append, map_toLower_dash]

/-- The dashes of a text stand behind groups of eight, four, four and four digits. -/
theorem getD_deviceIdToString_dash (id : DeviceId) :
    ∀ p ∈ [8, 13, 18, 23], (deviceIdToString id).getD p 0 = dash := by
  have hlen : id.toList.length = 16 := id.toList_length
  have hgroup : ∀ off len, off + len ≤ 16 →
      (hexBytes (slice off len id.toList)).length = 2 * len := by
    intro off len h
    rw [length_hexBytes, length_slice (by omega)]
  have h1 := hgroup 0 4 (by omega)
  have h2 := hgroup 4 2 (by omega)
  have h3 := hgroup 6 2 (by omega)
  have h4 := hgroup 8 2 (by omega)
  intro p hp
  rw [deviceIdToString]
  simp only [List.append_assoc]
  simp only [List.mem_cons, List.not_mem_nil, or_false] at hp
  rcases hp with rfl | rfl | rfl | rfl
  all_goals
    simp (disch := simp [h1, h2, h3, h4]) only [List.getD_append_right, h1, h2, h3, h4,
      List.length_singleton, Nat.reduceMul, Nat.reduceSub]
    rfl

/-- The text of an id is parsed to the id. -/
theorem deviceIdFromString_deviceIdToString (id outId : DeviceId) :
    deviceIdFromString (deviceIdToString id) outId = (true, id) := by
  have hlen : id.toList.length = 16 := id.toList_length
  have hdash := getD_deviceIdToString_dash id
  have hfilter := filter_dash_deviceIdToString id
  have hdigits : ∀ c ∈ hexBytes id.toList, (hexValue c).isSome := by
    intro c hc
    exact hexValue_isSome_of_mem_hexBytes hc
  have hhexlen : (hexBytes id.toList).length = 32 := by
    rw [length_hexBytes, hlen]
  obtain ⟨hok, hbytes⟩ := scanIdBytes_digits hhexlen hdigits outId
  rw [deviceIdFromString, if_neg (by simp), if_neg (by
    rw [hdash 8 (by simp), hdash 13 (by simp), hdash 18 (by simp), hdash 23 (by simp)]
    simp)]
  dsimp only
  rw [hfilter, if_neg (not_not.mpr hhexlen)]
  refine Prod.ext hok (List.Vector.eq _ _ ?_)
  rw [hbytes, hexPairs_hexBytes]

end MobileUnlock.Pairing
