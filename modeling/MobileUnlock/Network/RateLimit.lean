import MobileUnlock.Lib.Keyed
import MobileUnlock.Lib.Win32

/-!
# `MobileUnlock.Network.RateLimit`: the connection attempts of an address

The model of `NetworkEngine::CheckRateLimit`, which the accept loop asks for every incoming
connection. An address has a window of one minute, in which five attempts are let through. One
attempt more blocks the address for fifteen minutes.

All times are readings of `GetTickCount`. The function holds its lock from the reading of the
tick to the return, so a run is a sequence of calls. A call is an address and the real time of
its tick reading in milliseconds.
-/

set_option autoImplicit false

namespace MobileUnlock.Network

open MobileUnlock.Lib MobileUnlock.Lib.Win32

/-- The attempts of one address. -/
structure RateLimitEntry where
  firstAttemptMs : UInt32 := 0
  attemptCount : UInt32 := 0
  blockedUntilMs : UInt32 := 0
  deriving DecidableEq, Repr

/-- `m_rateLimits`. -/
abbrev RateLimits := Bytes → Option RateLimitEntry

/-- `CheckRateLimit` on what the map holds for the address: what it holds afterwards, and
whether the connection may go on. -/
def checkEntry (now : UInt32) : Option RateLimitEntry → Option RateLimitEntry × Bool
  | none => (some { firstAttemptMs := now, attemptCount := 1, blockedUntilMs := 0 }, true)
  | some entry =>
    if entry.blockedUntilMs > now then (some entry, false)
    else if now - entry.firstAttemptMs > 60000 then
      -- Reset 1-minute window
      (some { firstAttemptMs := now, attemptCount := 1, blockedUntilMs := 0 }, true)
    else
      let entry := { entry with attemptCount := entry.attemptCount + 1 }
      if entry.attemptCount > 5 then
        (some { entry with blockedUntilMs := now + 900000 }, false)
      else (some entry, true)

/-- `CheckRateLimit`, at the tick `now`. -/
def checkRateLimit (rateLimits : RateLimits) (ip : Bytes) (now : UInt32) : RateLimits × Bool :=
  let (entry, allowed) := checkEntry now (rateLimits ip)
  (Function.update rateLimits ip entry, allowed)

/-- The limiter over calls at real times. -/
def connectionLimiter : Machine RateLimits (Bytes × Nat) Bool where
  step rateLimits call := checkRateLimit rateLimits call.1 (getTickCount call.2)

/-- The limiter of one address. -/
def addressLimiter : Machine (Option RateLimitEntry) Nat Bool where
  step entry realMs := checkEntry (getTickCount realMs) entry

/-- Every address has its own limiter. -/
theorem connectionLimiter_eq_keyed : connectionLimiter = addressLimiter.keyed := rfl

end MobileUnlock.Network
