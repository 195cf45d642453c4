import MobileUnlock.Lib.Win32
import MobileUnlock.Pairing.DeviceIdentity

/-!
# `MobileUnlock.Pairing.SasPin`: the six-digit PIN

The model of `windows/pairing/SasPin.cpp`. `RtlGenRandom` is the oracle `RandomSource`,
which answers the draws in order. The clock readings (`GetSystemTimeAsFileTime`) are
arguments.
-/

set_option autoImplicit false

namespace MobileUnlock.Pairing

open MobileUnlock.Lib MobileUnlock.Lib.Win32

def SAS_PIN_LENGTH : Nat := 6
def SAS_MAX_ATTEMPTS : Nat := 3
def SAS_EXPIRY_SECONDS : Nat := 60

/-- The answer to one use of the random source: the function is not available, the draw
fails and leaves the buffer as it was, or the draw gives a value. -/
inductive RandomDraw where
  | unavailable
  | failed
  | value (v : UInt32)
  deriving DecidableEq, Repr

/-- The draws, in order. -/
abbrev RandomSource := Nat → RandomDraw

/-- The buffer after a draw. -/
def RandomDraw.into (d : RandomDraw) (buffer : UInt32) : UInt32 :=
  match d with
  | .value v => v
  | .unavailable | .failed => buffer

/-- The rejection bound: the largest multiple of one million below `2 ^ 32`. -/
def SAS_LIMIT : UInt32 := 4294000000

/-- The loop `while (randomVal >= limit && iterations < 32)`. The first argument is the
number of iterations left, and draw `33 - left` is the next one. -/
def redrawLoop (rng : RandomSource) : Nat → UInt32 → UInt32
  | 0, randomVal => randomVal
  | left + 1, randomVal =>
    if randomVal ≥ SAS_LIMIT then redrawLoop rng left ((rng (32 - left)).into randomVal)
    else randomVal

/-- The six decimal digits of a number, `%06u`. -/
def sixDigits (pin : Nat) : Bytes :=
  [100000, 10000, 1000, 100, 10, 1].map fun p => UInt8.ofNat (48 + pin / p % 10)

/-- Generates the PIN text, or the empty string when the random source is not available. A
failed first draw is not noticed and leaves the zero the buffer started with. -/
def generateSasPin (rng : RandomSource) : Bytes :=
  if rng 0 = .unavailable then []
  else sixDigits ((redrawLoop rng 32 ((rng 0).into 0)).toNat % 1000000)

/-- Exactly six decimal digits. -/
def isValidPinFormat (pin : Bytes) : Bool :=
  pin.length == SAS_PIN_LENGTH && pin.all fun c => 48 ≤ c && c ≤ 57

/-- Whether a PIN generated at `generatedAt` has expired at the clock reading `now`. A
reading before the generation counts as expired. -/
def sasPinExpired (generatedAt now : FILETIME) : Bool :=
  if now.toU64 < generatedAt.toU64 then true
  else now.toU64 - generatedAt.toU64 > UInt64.ofNat SAS_EXPIRY_SECONDS * 10000000

/-- Validates a candidate PIN: attempts, expiry, format, and the comparison without early
exit. -/
def validateSasPin (candidatePin storedPin : Bytes) (generatedAt : FILETIME)
    (attemptsSoFar : Nat) (now : FILETIME) : Bool :=
  if attemptsSoFar ≥ SAS_MAX_ATTEMPTS then false
  else if sasPinExpired generatedAt now then false
  else if ¬ isValidPinFormat candidatePin then false
  else if storedPin.length ≠ SAS_PIN_LENGTH then false
  else
    let diff := (List.range SAS_PIN_LENGTH).foldl
      (fun diff i => diff ||| (candidatePin.getD i 0 ^^^ storedPin.getD i 0)) 0
    diff == 0

end MobileUnlock.Pairing
