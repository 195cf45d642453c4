import MobileUnlock.Lib.Bytes
import Mathlib.Data.List.FinRange

/-!
# `MobileUnlock.Pairing.DeviceIdentity`: device ids and their text

The model of `windows/pairing/DeviceIdentity.cpp`. A device id is 16 bytes. Its text is the
hyphenated lower-case UUID form. `deviceIdFromString` removes the dashes and runs
`sscanf("%02x")` at every second character. It writes the bytes as it goes, so a failed
parse leaves a partly written id.

`sscanf02x` follows the C standard: white space is skipped without being counted against
the width, a sign and a `0x` prefix are accepted and counted, and a lone `0x` is a matching
failure. The text ends at its first NUL.
-/

set_option autoImplicit false

namespace MobileUnlock.Pairing

open MobileUnlock.Lib

/-- A 16-byte binary UUID. -/
abbrev DeviceId := ByteArr 16

/-! ### Hexadecimal text -/

/-- The lower-case hexadecimal digit of a value below 16. -/
def hexDigit (n : Nat) : UInt8 := if n < 10 then UInt8.ofNat (48 + n) else UInt8.ofNat (87 + n)

/-- The text of one byte, `%02x`. -/
def hexByte (b : UInt8) : Bytes := [hexDigit (b.toNat / 16), hexDigit (b.toNat % 16)]

/-- The text of a byte string, two digits a byte. -/
def hexBytes (bs : Bytes) : Bytes := bs.flatMap hexByte

/-- The value of a hexadecimal digit of either case. -/
def hexValue (c : UInt8) : Option Nat :=
  if 48 ≤ c ∧ c ≤ 57 then some (c.toNat - 48)
  else if 97 ≤ c ∧ c ≤ 102 then some (c.toNat - 87)
  else if 65 ≤ c ∧ c ≤ 70 then some (c.toNat - 55)
  else none

/-- `isspace` in the C locale. -/
def isSpace (c : UInt8) : Bool := c = 32 || (9 ≤ c && c ≤ 13)

/-- `sscanf(s, "%02x", &byte)`: the value stored, or no conversion. The value is that of an
`unsigned int`, so a minus sign wraps. -/
def sscanf02x (s : Bytes) : Option Nat :=
  match (s.takeWhile (· ≠ 0)).dropWhile isSpace with
  | [] => none
  | c :: rest =>
    if c = 43 ∨ c = 45 then
      -- a sign uses up one of the two characters
      match rest with
      | [] => none
      | d :: _ => (hexValue d).map fun v => if c = 45 then (2 ^ 32 - v) % 2 ^ 32 else v
    else match hexValue c with
      | none => none
      | some hi =>
        match rest with
        | [] => some hi
        | d :: _ =>
          -- `0x` alone is a prefix of a number and not a number
          if c = 48 ∧ (d = 120 ∨ d = 88) then none
          else match hexValue d with
            | none => some hi
            | some lo => some (16 * hi + lo)

/-! ### Device ids -/

/-- The character `-`. -/
def dash : UInt8 := 45

/-- The 36-character text of an id. -/
def deviceIdToString (id : DeviceId) : Bytes :=
  hexBytes (slice 0 4 id.toList) ++ [dash] ++ hexBytes (slice 4 2 id.toList) ++ [dash] ++
    hexBytes (slice 6 2 id.toList) ++ [dash] ++ hexBytes (slice 8 2 id.toList) ++ [dash] ++
    hexBytes (slice 10 6 id.toList)

/-- The loop `for (i = 0; i < 16; ++i)` over the dash-free text. A failed conversion stops
it with the bytes written so far. -/
def scanIdBytes (hex : Bytes) : List (Fin 16) → DeviceId → Bool × DeviceId
  | [], outId => (true, outId)
  | i :: is, outId =>
    match sscanf02x (hex.drop (2 * i.val)) with
    | none => (false, outId)
    | some byte => scanIdBytes hex is (outId.set i (UInt8.ofNat byte))

/-- Parses a UUID text into `outId`. -/
def deviceIdFromString (str : Bytes) (outId : DeviceId) : Bool × DeviceId :=
  if str.length ≠ 36 then (false, outId)
  else if str.getD 8 0 ≠ dash ∨ str.getD 13 0 ≠ dash ∨ str.getD 18 0 ≠ dash ∨
      str.getD 23 0 ≠ dash then (false, outId)
  else
    let hex := str.filter (· ≠ dash)
    if hex.length ≠ 32 then (false, outId)
    else scanIdBytes hex (List.finRange 16) outId

/-- The all-zero id, the value of `DeviceId{}`. -/
def zeroDeviceId : DeviceId := List.Vector.replicate 16 0

/-- Whether every byte of an id is zero. -/
def deviceIdIsEmpty (id : DeviceId) : Bool := id.toList.all (· == 0)

/-- Generates an id from one draw of `RtlGenRandom`. `none` is a draw that fails or a function
that is not available: the id stays zero. The version and variant bits are set in either case. -/
def generateDeviceId (draw : Option DeviceId) : DeviceId :=
  let id := draw.getD zeroDeviceId
  let id := id.set 6 ((id.get 6 &&& 0x0F) ||| 0x40)
  id.set 8 ((id.get 8 &&& 0x3F) ||| 0x80)

end MobileUnlock.Pairing
