import MobileUnlock.Lib.Bytes
import Mathlib.Data.List.AList
import Mathlib.Data.List.TakeWhile

/-!
# `MobileUnlock.Lib.Win32`: ticks, file times and the registry

The parts of the Windows API that a service with a registry store rests on.

`GetTickCount` reads real milliseconds modulo 2^32, so it starts again from zero every 49.7
days.

A `FILETIME` is two 32-bit halves of a count of 100-nanosecond ticks. `FILETIME.toU64` joins
them.

A registry store is the set of subkeys of one key, each with its values. Value names come
from an enumeration `ν`, and value data is raw bytes, because the readers modelled here ask
for the data of a value and not for its type. Key names are compared without regard to
case, and a name passed as a C string ends at its first NUL: `KeyName` is the type of names
in that normal form, so that two texts address the same key exactly when they have the same
`KeyName`. Names come from `char` text, where only ASCII letters have case.

`RegAccess` is what the registry calls of one operation answer apart from the content:
`ERROR_SUCCESS`, or an error that the call reports instead of acting.
-/

set_option autoImplicit false

namespace MobileUnlock.Lib.Win32

open MobileUnlock.Lib

/-- A Win32 result code. -/
abbrev LONG := Nat

def ERROR_SUCCESS : LONG := 0
def ERROR_FILE_NOT_FOUND : LONG := 2
def ERROR_ACCESS_DENIED : LONG := 5
def ERROR_MORE_DATA : LONG := 234
def ERROR_NO_MORE_ITEMS : LONG := 259

/-! ### The tick counter -/

/-- `GetTickCount`: the milliseconds since the start of the system, in 32 bits. -/
def getTickCount (realMs : Nat) : UInt32 := UInt32.ofNat realMs

@[simp] theorem toNat_getTickCount (realMs : Nat) :
    (getTickCount realMs).toNat = realMs % 2 ^ 32 := by
  simp [getTickCount]

/-- The unsigned difference of two readings is the time between them, up to whole turns of the
counter. -/
theorem toNat_getTickCount_sub {earlier later : Nat} (h : earlier ≤ later) :
    (getTickCount later - getTickCount earlier).toNat = (later - earlier) % 2 ^ 32 := by
  rw [UInt32.toNat_sub, toNat_getTickCount, toNat_getTickCount]
  omega

/-! ### File times -/

/-- A time in 100-nanosecond ticks, in two halves. -/
structure FILETIME where
  dwLowDateTime : UInt32 := 0
  dwHighDateTime : UInt32 := 0
  deriving DecidableEq, Repr

/-- The halves joined to a 64-bit count. -/
def FILETIME.toU64 (ft : FILETIME) : UInt64 :=
  (ft.dwHighDateTime.toUInt64 <<< 32) ||| ft.dwLowDateTime.toUInt64

/-- A 64-bit count split into halves. -/
def FILETIME.ofU64 (n : UInt64) : FILETIME where
  dwLowDateTime := (n &&& 0xFFFFFFFF).toUInt32
  dwHighDateTime := (n >>> 32).toUInt32

theorem FILETIME.toNat_toU64 (ft : FILETIME) :
    ft.toU64.toNat = ft.dwHighDateTime.toNat * 2 ^ 32 + ft.dwLowDateTime.toNat := by
  have hlow := ft.dwLowDateTime.toNat_lt
  have hhigh := ft.dwHighDateTime.toNat_lt
  have hshift : ft.dwHighDateTime.toNat <<< 32 % 2 ^ 64 = ft.dwHighDateTime.toNat <<< 32 := by
    rw [Nat.shiftLeft_eq]
    omega
  rw [FILETIME.toU64, UInt64.toNat_or, UInt64.toNat_shiftLeft]
  simp only [UInt32.toNat_toUInt64]
  rw [show (32 : UInt64).toNat % 64 = 32 from rfl, hshift,
    ← Nat.shiftLeft_add_eq_or_of_lt hlow, Nat.shiftLeft_eq]

/-- A time is read back from its count. -/
theorem FILETIME.ofU64_toU64 (ft : FILETIME) : FILETIME.ofU64 ft.toU64 = ft := by
  have hlow := ft.dwLowDateTime.toNat_lt
  have hnat := ft.toNat_toU64
  obtain ⟨lo, hi⟩ := ft
  dsimp only at hlow hnat
  have hlo : ((FILETIME.toU64 ⟨lo, hi⟩) &&& 0xFFFFFFFF).toUInt32 = lo := by
    apply UInt32.toNat_inj.mp
    rw [UInt64.toNat_toUInt32, UInt64.toNat_and, hnat,
      show (0xFFFFFFFF : UInt64).toNat = 2 ^ 32 - 1 from rfl, Nat.and_two_pow_sub_one_eq_mod]
    omega
  have hhi : ((FILETIME.toU64 ⟨lo, hi⟩) >>> 32).toUInt32 = hi := by
    have hhigh := hi.toNat_lt
    apply UInt32.toNat_inj.mp
    rw [UInt64.toNat_toUInt32, UInt64.toNat_shiftRight, hnat,
      show (32 : UInt64).toNat % 64 = 32 from rfl, Nat.shiftRight_eq_div_pow]
    omega
  rw [FILETIME.ofU64, hlo, hhi]

/-! ### Wide text -/

/-- The UTF-16 code unit of a `char`, in memory order. `char` is signed, so a byte above
127 widens with a high byte of ones. -/
def wideChar (c : UInt8) : Bytes := if c < 0x80 then [c, 0] else [c, 0xFF]

/-- The bytes of a narrow text as a wide C string, terminator included. -/
def wideString (s : Bytes) : Bytes := (s ++ [0]).flatMap wideChar

/-- The narrow text of a wide buffer: the low bytes of its units up to the first zero
unit. -/
def narrowString : Bytes → Bytes
  | lo :: hi :: rest => if lo = 0 ∧ hi = 0 then [] else lo :: narrowString rest
  | [lo] => if lo = 0 then [] else [lo]
  | [] => []

@[simp] theorem length_wideString (s : Bytes) : (wideString s).length = 2 * (s.length + 1) := by
  have hchar : ∀ c : UInt8, (wideChar c).length = 2 := by
    intro c
    unfold wideChar
    split
    · rfl
    · rfl
  rw [wideString, List.length_flatMap, List.map_congr_left (fun c _ => hchar c), List.map_const',
    List.sum_replicate, List.length_append]
  simp [Nat.mul_comm]

/-- An ASCII text without NUL is read back from its wide form. -/
theorem narrowString_wideString {s : Bytes} (h : ∀ c ∈ s, c ≠ 0 ∧ c < 0x80) :
    narrowString (wideString s) = s := by
  induction s with
  | nil => rfl
  | cons c s ih =>
    obtain ⟨hnul, hascii⟩ := h c (by simp)
    have hrest := ih fun c' hc' => h c' (by simp [hc'])
    have hwide : wideString (c :: s) = c :: 0 :: wideString s := by
      rw [wideString, List.cons_append, List.flatMap_cons, wideChar, if_pos hascii]
      rfl
    rw [hwide, narrowString, if_neg (fun hzero => hnul hzero.1), hrest]

/-! ### Keys -/

/-- The root handles a store can live under. -/
inductive HKEY where
  | HKEY_LOCAL_MACHINE
  | HKEY_CURRENT_USER
  | other (handle : Nat)
  deriving DecidableEq, Repr

/-- ASCII lower case. -/
def toLower (c : UInt8) : UInt8 := if 65 ≤ c ∧ c ≤ 90 then c + 32 else c

/-- The normal form of a key name given as text. -/
def keyNameText (s : Bytes) : Bytes := (s.takeWhile (· ≠ 0)).map toLower

theorem toLower_eq_zero_iff (c : UInt8) : toLower c = 0 ↔ c = 0 := by
  revert c
  exact forall_byte (by decide +kernel)

theorem toLower_toLower (c : UInt8) : toLower (toLower c) = toLower c := by
  revert c
  exact forall_byte (by decide +kernel)

/-- The normal form is idempotent. -/
theorem keyNameText_keyNameText (s : Bytes) : keyNameText (keyNameText s) = keyNameText s := by
  have hnul : ∀ c ∈ (s.takeWhile (· ≠ 0)).map toLower, c ≠ 0 := by
    intro c hc h0
    obtain ⟨a, ha, rfl⟩ := List.mem_map.mp hc
    have := List.mem_takeWhile_imp ha
    exact absurd ((toLower_eq_zero_iff a).mp h0) (by simpa using this)
  unfold keyNameText
  rw [List.takeWhile_eq_self_iff.mpr (fun c hc => by simpa using hnul c hc), List.map_map]
  apply List.map_congr_left
  intro c _
  exact toLower_toLower c

/-- A key name: a text in normal form. -/
@[ext]
structure KeyName where
  text : Bytes
  normal : keyNameText text = text
  deriving DecidableEq

/-- The key a text addresses. -/
def KeyName.ofText (s : Bytes) : KeyName := ⟨keyNameText s, keyNameText_keyNameText s⟩

/-- A key name, read as text, addresses itself. -/
@[simp] theorem KeyName.ofText_text (k : KeyName) : KeyName.ofText k.text = k :=
  KeyName.ext k.normal

/-- The values of one key. -/
abbrev KeyValues (ν : Type) := ν → Option Bytes

/-- The subkeys of one registry key. -/
abbrev KeyStore (ν : Type) := AList fun _ : KeyName => KeyValues ν

/-- The answers of the registry calls made during one operation. A code other than
`ERROR_SUCCESS` is returned by the call, which then does nothing. -/
structure RegAccess (ν : Type) where
  /-- `RegCreateKeyExW` on the parent key under a root. -/
  createRoot : HKEY → LONG
  /-- `RegOpenKeyExW` on the parent key. -/
  openRoot : LONG
  createKey : KeyName → LONG
  openKey : KeyName → LONG
  setValue : KeyName → ν → LONG
  queryValue : KeyName → ν → LONG
  deleteKey : KeyName → LONG
  /-- `RegEnumKeyExW` at the first indices. It has no fault beyond the list. -/
  enumKey : List LONG

/-- The access under which every call succeeds. -/
def RegAccess.ok {ν : Type} : RegAccess ν where
  createRoot _ := ERROR_SUCCESS
  openRoot := ERROR_SUCCESS
  createKey _ := ERROR_SUCCESS
  openKey _ := ERROR_SUCCESS
  setValue _ _ := ERROR_SUCCESS
  queryValue _ _ := ERROR_SUCCESS
  deleteKey _ := ERROR_SUCCESS
  enumKey := []

section Registry
variable {ν : Type} [DecidableEq ν]

/-- `RegOpenKeyExW`: the values of an existing key. -/
def regOpenKey (acc : RegAccess ν) (store : KeyStore ν) (name : KeyName) :
    Except LONG (KeyValues ν) :=
  if acc.openKey name ≠ ERROR_SUCCESS then .error (acc.openKey name)
  else match store.lookup name with
    | none => .error ERROR_FILE_NOT_FOUND
    | some vals => .ok vals

/-- `RegQueryValueExW` into a buffer of `size` bytes: the data, when the call succeeds. A
value longer than the buffer is `ERROR_MORE_DATA`. -/
def regQueryValue (acc : RegAccess ν) (name : KeyName) (vals : KeyValues ν) (v : ν)
    (size : Nat) : Option Bytes :=
  if acc.queryValue name v ≠ ERROR_SUCCESS then none
  else match vals v with
    | none => none
    | some data => if data.length ≤ size then some data else none

/-- `RegSetValueExW`: the result code and the values afterwards. -/
def regSetValue (acc : RegAccess ν) (name : KeyName) (vals : KeyValues ν) (v : ν)
    (data : Bytes) : LONG × KeyValues ν :=
  if acc.setValue name v ≠ ERROR_SUCCESS then (acc.setValue name v, vals)
  else (ERROR_SUCCESS, Function.update vals v (some data))

/-- `RegDeleteKeyW`. -/
def regDeleteKey (acc : RegAccess ν) (store : KeyStore ν) (name : KeyName) :
    LONG × KeyStore ν :=
  if acc.deleteKey name ≠ ERROR_SUCCESS then (acc.deleteKey name, store)
  else if name ∈ store then (ERROR_SUCCESS, store.erase name)
  else (ERROR_FILE_NOT_FOUND, store)

/-- One answer of `RegEnumKeyExW`. -/
inductive EnumResult where
  | noMoreItems
  | success (name : Bytes)
  | error (code : LONG)

/-- `RegEnumKeyExW` at an index, into a buffer of `size` characters with the terminator. A
longer name is `ERROR_MORE_DATA`. -/
def regEnumKey (acc : RegAccess ν) (store : KeyStore ν) (size index : Nat) : EnumResult :=
  if acc.enumKey.getD index ERROR_SUCCESS ≠ ERROR_SUCCESS then
    .error (acc.enumKey.getD index ERROR_SUCCESS)
  else match store.keys[index]? with
    | none => .noMoreItems
    | some name => if name.text.length < size then .success name.text else .error ERROR_MORE_DATA

end Registry

end MobileUnlock.Lib.Win32
