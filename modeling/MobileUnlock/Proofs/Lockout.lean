import Mathlib.Data.List.Induction
import MobileUnlock.Proofs.Authentication

/-!
# `MobileUnlock.Proofs.Lockout`: three failures lock a device for fifteen minutes

`Tally` is what an observer of the calls counts for one device: the failures since the last
success or the last lockout expiry, and the time of the failure that made it three. It reads
the trace only. `LimitMatches` relates it to the rate-limit entry of the manager, and every
step keeps the relation (`limitMatches_step`). The three parts of `lockout_exact` are read off
it.

The times `t` of calls are bounded by `t + 900000 < 2 ^ 64`, so that the end of a lockout does
not wrap. They need not be monotone.
-/

set_option autoImplicit false

namespace MobileUnlock.Authentication

open MobileUnlock.Lib MobileUnlock.Lib.Win32 MobileUnlock.Protocol MobileUnlock.Crypto
open MobileUnlock.Pairing

/-- The length of a lockout in milliseconds. -/
def lockoutMs : Nat := 900000

theorem lockoutMs_toNat : (LOCKOUT_DURATION_SEC * 1000).toNat = lockoutMs := by decide

/-- The time of a call for `d`: a request for `d`, or a response whose payload parses and
names `d`. Other events are `none`. -/
def callTime (d : DeviceId) : AuthEvent → Option UInt64
  | .authRequest d' _ _ env => if d' = d then some env.now else none
  | .authResponse _ payload env =>
    match parseAuthResponse payload with
    | .ok msg => if msg.deviceIdentity = d then some env.now else none
    | .error _ => none
  | .setServerIdentity _ => none
  | .registryChange _ => none

/-- Whether an event is a response. -/
def isResponse : AuthEvent → Bool
  | .authResponse _ _ _ => true
  | _ => false

/-- The result code of a step. -/
def resultOf (x : Entry AuthState AuthEvent (Option AuthReply)) : Option AuthResultCode :=
  x.output.map (·.result)

/-- The step is a counted failure. -/
def isCountedFailure (x : Entry AuthState AuthEvent (Option AuthReply)) : Bool :=
  isResponse x.event && (resultOf x).any countedFailure

/-! ### What an observer counts -/

/-- The failures of a device since its last success or lockout expiry, and the time of the
third one. -/
structure Tally where
  failures : Nat := 0
  lockedAt : Option UInt64 := none
  deriving DecidableEq

/-- The tally when a call comes at time `t`: a lockout that is over is forgotten. -/
def Tally.expire (c : Tally) (t : UInt64) : Tally :=
  match c.lockedAt with
  | some t₀ => if t₀.toNat + lockoutMs ≤ t.toNat then {} else c
  | none => c

/-- The tally after one more failure at time `t`. -/
def Tally.fail (c : Tally) (t : UInt64) : Tally where
  failures := c.failures + 1
  lockedAt := if c.failures + 1 = MAX_FAILED_ATTEMPTS then some t else c.lockedAt

/-- The tally after one more step. -/
def Tally.observe (d : DeviceId) (c : Tally)
    (x : Entry AuthState AuthEvent (Option AuthReply)) : Tally :=
  match callTime d x.event with
  | none => c
  | some t =>
    if isCountedFailure x then (c.expire t).fail t
    else if isResponse x.event ∧ resultOf x = some .SUCCESS then {}
    else c.expire t

theorem Tally.observe_other {d : DeviceId} {c : Tally}
    {x : Entry AuthState AuthEvent (Option AuthReply)} (h : callTime d x.event = none) :
    c.observe d x = c := by
  unfold Tally.observe
  rw [h]

theorem Tally.observe_call {d : DeviceId} {c : Tally} {t : UInt64}
    {x : Entry AuthState AuthEvent (Option AuthReply)} (h : callTime d x.event = some t) :
    c.observe d x = if isCountedFailure x then (c.expire t).fail t
      else if isResponse x.event ∧ resultOf x = some .SUCCESS then {}
      else c.expire t := by
  unfold Tally.observe
  rw [h]

/-- The tally of a trace. -/
def tally (d : DeviceId) (tr : List (Entry AuthState AuthEvent (Option AuthReply))) : Tally :=
  tr.foldl (Tally.observe d) {}

/-- The step is a counted failure for `d` at time `t`, and the third since the last success
or the last lockout expiry of `d`. -/
def IsThirdFailure (d : DeviceId) (tr : List (Entry AuthState AuthEvent (Option AuthReply)))
    (x : Entry AuthState AuthEvent (Option AuthReply)) (t : UInt64) : Prop :=
  callTime d x.event = some t ∧ isCountedFailure x = true ∧
    ((tally d tr).expire t).failures + 1 = MAX_FAILED_ATTEMPTS

/-! ### The entry of the manager -/

/-- The failed count of an entry. No entry is no failure. -/
def failedCount (limit : Option DeviceRateLimit) : Nat := (limit.getD {}).failedCount

/-- The rate-limit entry agrees with the tally: below three failures it has the count and no
lockout, and at the third it has the end of the lockout. -/
def LimitMatches (c : Tally) (limit : Option DeviceRateLimit) : Prop :=
  match c.lockedAt with
  | none => c.failures < MAX_FAILED_ATTEMPTS ∧ limit.getD {} = ⟨c.failures, 0⟩
  | some t₀ => c.failures = MAX_FAILED_ATTEMPTS ∧ t₀.toNat + lockoutMs < 2 ^ 64 ∧
      limit = some ⟨MAX_FAILED_ATTEMPTS, t₀ + LOCKOUT_DURATION_SEC * 1000⟩

/-- The end of a lockout does not wrap. -/
theorem toNat_lockoutEnd {t : UInt64} (ht : t.toNat + lockoutMs < 2 ^ 64) :
    (t + LOCKOUT_DURATION_SEC * 1000).toNat = t.toNat + lockoutMs := by
  rw [UInt64.toNat_add, lockoutMs_toNat, Nat.mod_eq_of_lt ht]

theorem lockoutEnd_ne_zero {t : UInt64} (ht : t.toNat + lockoutMs < 2 ^ 64) :
    t + LOCKOUT_DURATION_SEC * 1000 ≠ 0 := by
  intro h0
  have hzero := congrArg UInt64.toNat h0
  rw [toNat_lockoutEnd ht, UInt64.toNat_zero] at hzero
  have hpos : 0 < lockoutMs := by decide
  omega

/-- Before the end of a lockout the device is limited. -/
theorem isRateLimited_locked {m : AuthenticationManager} {id : Bytes} {limit : DeviceRateLimit}
    {t : UInt64} (hlimit : m.rateLimits id = some limit) (ht : t < limit.lockoutUntilMs) :
    m.isRateLimited id t = (true, m) := by
  unfold AuthenticationManager.isRateLimited
  rw [hlimit]
  exact if_pos ht

/-- From the end of a lockout on the device is free, and its entry is reset. -/
theorem isRateLimited_over {m : AuthenticationManager} {id : Bytes} {limit : DeviceRateLimit}
    {t : UInt64} (hlimit : m.rateLimits id = some limit) (hne : limit.lockoutUntilMs ≠ 0)
    (ht : limit.lockoutUntilMs ≤ t) :
    m.isRateLimited id t
      = (false, { m with rateLimits := Function.update m.rateLimits id (some ⟨0, 0⟩) }) := by
  unfold AuthenticationManager.isRateLimited
  rw [hlimit]
  exact (if_neg (UInt64.not_lt.mpr ht)).trans (if_pos ⟨hne, ht⟩)

/-- Without a lockout the check says no and changes nothing. -/
theorem isRateLimited_free {m : AuthenticationManager} {id : Bytes} {t : UInt64}
    (hlimit : ((m.rateLimits id).getD {}).lockoutUntilMs = 0) :
    m.isRateLimited id t = (false, m) := by
  unfold AuthenticationManager.isRateLimited
  cases hl : m.rateLimits id with
  | none => rfl
  | some limit =>
    rw [hl, Option.getD_some] at hlimit
    dsimp only
    rw [hlimit, if_neg (by simp), if_neg (by simp)]

/-- The rate-limit check at an entry that agrees with the tally: the device is limited
exactly while the lockout of the tally lasts, and otherwise the entry agrees with the tally
after expiry. -/
theorem isRateLimited_of_matches {m : AuthenticationManager} {id : Bytes} {c : Tally}
    (h : LimitMatches c (m.rateLimits id)) (t : UInt64) :
    ((m.isRateLimited id t).1 = true ↔
      ∃ t₀, c.lockedAt = some t₀ ∧ t.toNat < t₀.toNat + lockoutMs) ∧
      ((m.isRateLimited id t).1 = false →
        LimitMatches (c.expire t) ((m.isRateLimited id t).2.rateLimits id) ∧
          (c.expire t).lockedAt = none) := by
  unfold LimitMatches at h
  cases hc : c.lockedAt with
  | none =>
    rw [hc] at h
    obtain ⟨hlt, hlimit⟩ := h
    have hexp : c.expire t = c := by simp [Tally.expire, hc]
    rw [isRateLimited_free (by rw [hlimit])]
    refine ⟨by simp, fun _ => ⟨?_, by rw [hexp, hc]⟩⟩
    rw [hexp, LimitMatches, hc]
    exact ⟨hlt, hlimit⟩
  | some t₀ =>
    rw [hc] at h
    obtain ⟨hthree, hbound, hlimit⟩ := h
    have hend := toNat_lockoutEnd hbound
    have hne := lockoutEnd_ne_zero hbound
    -- The end of the lockout is only compared from here on.
    generalize t₀ + LOCKOUT_DURATION_SEC * 1000 = lockoutEnd at hlimit hend hne
    by_cases hover : t.toNat < t₀.toNat + lockoutMs
    · have hlt : t < lockoutEnd := by
        rw [UInt64.lt_iff_toNat_lt, hend]
        exact hover
      rw [isRateLimited_locked hlimit hlt]
      refine ⟨⟨fun _ => ⟨t₀, rfl, hover⟩, fun _ => rfl⟩, ?_⟩
      intro hno
      cases hno
    · have hle : lockoutEnd ≤ t := by
        rw [UInt64.le_iff_toNat_le, hend]
        exact Nat.le_of_not_lt hover
      have hexp : c.expire t = {} := by
        simp only [Tally.expire, hc]
        exact if_pos (Nat.le_of_not_lt hover)
      rw [isRateLimited_over hlimit hne hle, hexp]
      dsimp only
      rw [Function.update_self]
      refine ⟨⟨(fun h => by cases h), ?_⟩, fun _ => ⟨⟨by decide, rfl⟩, rfl⟩⟩
      rintro ⟨t₁, h₁, hlt⟩
      cases h₁
      exact absurd hlt hover

/-- Counting a failure keeps entry and tally in agreement, when no lockout is in force. -/
theorem limitMatches_recordFailure {m : AuthenticationManager} {id : Bytes} {c : Tally}
    {t : UInt64} (h : LimitMatches c (m.rateLimits id)) (hc : c.lockedAt = none)
    (ht : t.toNat + lockoutMs < 2 ^ 64) :
    LimitMatches (c.fail t) ((m.recordFailure id t).rateLimits id) := by
  unfold LimitMatches at h
  rw [hc] at h
  obtain ⟨hlt, hlimit⟩ := h
  have hentry : (m.recordFailure id t).rateLimits id
      = some (if c.failures + 1 ≥ MAX_FAILED_ATTEMPTS
          then ⟨c.failures + 1, t + LOCKOUT_DURATION_SEC * 1000⟩ else ⟨c.failures + 1, 0⟩) := by
    unfold AuthenticationManager.recordFailure
    simp only [hlimit, Function.update_self]
  rw [hentry]
  unfold LimitMatches Tally.fail
  by_cases hthree : c.failures + 1 = MAX_FAILED_ATTEMPTS
  · simp only [hthree, if_true, ge_iff_le, Nat.le_refl]
    exact ⟨trivial, ht, trivial⟩
  · have hlow : ¬ c.failures + 1 ≥ MAX_FAILED_ATTEMPTS := by omega
    simp only [hthree, if_false, hlow, hc]
    exact ⟨by omega, rfl⟩

/-! ### One step -/

/-- What a call for `d` at time `t` can do to the rate limit of `d`. -/
inductive CallCase (s : AuthState) (e : AuthEvent) (d : DeviceId) (t : UInt64) : Prop
  | limited (h : (s.manager.isRateLimited (deviceIdToString d) t).1 = true)
      (hstate : (authMachine.step s e).1 = s)
      (hresult : resultOf (authMachine.entry s e) = some .RATE_LIMITED)
  | failed (h : (s.manager.isRateLimited (deviceIdToString d) t).1 = false)
      (hcount : isCountedFailure (authMachine.entry s e) = true)
      (hresult : resultOf (authMachine.entry s e) ≠ some .RATE_LIMITED)
      (m' : AuthenticationManager)
      (hm' : m'.rateLimits = (s.manager.isRateLimited (deviceIdToString d) t).2.rateLimits)
      (hlimit : (authMachine.step s e).1.manager = m'.recordFailure (deviceIdToString d) t)
  | succeeded (h : (s.manager.isRateLimited (deviceIdToString d) t).1 = false)
      (hcount : isCountedFailure (authMachine.entry s e) = false)
      (hresponse : isResponse e = true)
      (hresult : resultOf (authMachine.entry s e) = some .SUCCESS)
      (hlimit : (authMachine.step s e).1.manager.rateLimits (deviceIdToString d) = none)
  | uncounted (h : (s.manager.isRateLimited (deviceIdToString d) t).1 = false)
      (hcount : isCountedFailure (authMachine.entry s e) = false)
      (hresponse : isResponse e = false)
      (hresult : resultOf (authMachine.entry s e) ≠ some .RATE_LIMITED)
      (hlimit : (authMachine.step s e).1.manager.rateLimits (deviceIdToString d)
        = (s.manager.isRateLimited (deviceIdToString d) t).2.rateLimits (deviceIdToString d))

/-- What is no response is no response that succeeds. -/
theorem not_success_of_not_response {s : AuthState} {e : AuthEvent} (h : isResponse e = false) :
    ¬ (isResponse (authMachine.entry s e).event = true ∧
      resultOf (authMachine.entry s e) = some .SUCCESS) := by
  rintro ⟨hyes, -⟩
  change isResponse e = true at hyes
  rw [h] at hyes
  cases hyes

/-- A request for `d` is never counted. -/
theorem callCase_authRequest (s : AuthState) (d : DeviceId) (hdr out : FrameHeader)
    (env : RequestEnv) : CallCase s (.authRequest d hdr out env) d env.now := by
  have hcase := handleAuthRequest_case s.manager s.registry d hdr out env
  have hres : resultOf (authMachine.entry s (.authRequest d hdr out env))
      = some (handleAuthRequest s.manager s.registry d hdr out env).2.result := rfl
  have hstate : (authMachine.step s (.authRequest d hdr out env)).1
      = { s with manager := (handleAuthRequest s.manager s.registry d hdr out env).1 } := rfl
  generalize handleAuthRequest s.manager s.registry d hdr out env = r at hcase hres hstate
  cases hcase with
  | limited h => exact .limited h hstate hres
  | refused h r hlookup =>
    refine .uncounted h rfl rfl ?_ (by rw [hstate])
    rw [hres]
    simpa using (lookupDevice_error_ne hlookup).2
  | noNonce h hn =>
    refine .uncounted h rfl rfl ?_ (by rw [hstate])
    rw [hres]
    simp
  | issued h record hlookup nonce hn m' hslots hlimits =>
    refine .uncounted h rfl rfl ?_ ?_
    · rw [hres]
      simp
    · rw [hstate, AuthenticationManager.setChallenge_rateLimits, hlimits]

/-- A response that names `d` is limited, counted or accepted. -/
theorem callCase_authResponse (s : AuthState) (hdr : FrameHeader) (payload : Bytes)
    (env : ResponseEnv) {msg : SignedMessage} (hp : parseAuthResponse payload = .ok msg) :
    CallCase s (.authResponse hdr payload env) msg.deviceIdentity env.now := by
  have hcase := handleAuthResponse_case s.manager s.registry hdr payload env
  have hres : resultOf (authMachine.entry s (.authResponse hdr payload env))
      = some (handleAuthResponse s.manager s.registry hdr payload env).2.2.result := rfl
  have hstate : (authMachine.step s (.authResponse hdr payload env)).1
      = ⟨(handleAuthResponse s.manager s.registry hdr payload env).1,
          (handleAuthResponse s.manager s.registry hdr payload env).2.1⟩ := rfl
  generalize handleAuthResponse s.manager s.registry hdr payload env = r at hcase hres hstate
  cases hcase with
  | invalid r hp' =>
    rw [hp] at hp'
    cases hp'
  | limited msg' hp' h =>
    rw [hp] at hp'
    cases hp'
    exact .limited h hstate hres
  | failed msg' hp' h r hr m' hm' =>
    rw [hp] at hp'
    cases hp'
    refine .failed h ?_ ?_ m' ?_ (by rw [hstate])
    · rw [isCountedFailure, hres]
      simpa [isResponse, Machine.entry] using hr
    · rw [hres]
      simpa using (countedFailure_ne hr).2.1
    · rcases hm' with rfl | ⟨ch, _, rfl⟩
      · rfl
      · exact AuthenticationManager.consumeChallenge_rateLimits _ _ _
  | accepted msg' hp' h record hr ch hslot hfresh hage hsession hnonce hsig =>
    rw [hp] at hp'
    cases hp'
    refine .succeeded h ?_ rfl hres ?_
    · rw [isCountedFailure, hres]
      simp [countedFailure]
    · rw [hstate]
      exact AuthenticationManager.recordSuccess_rateLimits _ _

/-- Every call for `d` is one of the four cases. -/
theorem callCase {s : AuthState} {e : AuthEvent} {d : DeviceId} {t : UInt64}
    (h : callTime d e = some t) : CallCase s e d t := by
  cases e with
  | authRequest d' hdr out env =>
    simp only [callTime, Option.ite_none_right_eq_some, Option.some.injEq] at h
    obtain ⟨rfl, rfl⟩ := h
    exact callCase_authRequest s d' hdr out env
  | authResponse hdr payload env =>
    simp only [callTime] at h
    split at h
    · rename_i msg hp
      simp only [Option.ite_none_right_eq_some, Option.some.injEq] at h
      obtain ⟨rfl, rfl⟩ := h
      exact callCase_authResponse s hdr payload env hp
    · cases h
  | setServerIdentity serverId => cases h
  | registryChange reg => cases h

/-- An event that is not a call for `d` leaves the rate limit of `d`. -/
theorem rateLimits_of_callTime_none {s : AuthState} {e : AuthEvent} {d : DeviceId}
    (h : callTime d e = none) :
    (authMachine.step s e).1.manager.rateLimits (deviceIdToString d)
      = s.manager.rateLimits (deviceIdToString d) := by
  cases e with
  | authRequest d' hdr out env =>
    have hd : d ≠ d' := by
      rintro rfl
      simp [callTime] at h
    have hid : deviceIdToString d ≠ deviceIdToString d' := by simpa using hd
    have hcase := handleAuthRequest_case s.manager s.registry d' hdr out env
    show (handleAuthRequest s.manager s.registry d' hdr out env).1.rateLimits _ = _
    generalize handleAuthRequest s.manager s.registry d' hdr out env = r at hcase
    cases hcase with
    | limited h => rfl
    | refused h r hlookup => exact AuthenticationManager.isRateLimited_rateLimits_ne _ _ _ hid
    | noNonce h hn => exact AuthenticationManager.isRateLimited_rateLimits_ne _ _ _ hid
    | issued h record hlookup nonce hn m' hslots hlimits =>
      rw [AuthenticationManager.setChallenge_rateLimits, hlimits]
      exact AuthenticationManager.isRateLimited_rateLimits_ne _ _ _ hid
  | authResponse hdr payload env =>
    have hcase := handleAuthResponse_case s.manager s.registry hdr payload env
    show (handleAuthResponse s.manager s.registry hdr payload env).1.rateLimits _ = _
    -- A response that is parsed names another device, since it is no call for `d`.
    have hid : ∀ msg, parseAuthResponse payload = .ok msg →
        deviceIdToString d ≠ deviceIdToString msg.deviceIdentity := by
      intro msg hp heq
      rw [deviceIdToString_inj] at heq
      subst heq
      simp [callTime, hp] at h
    generalize handleAuthResponse s.manager s.registry hdr payload env = r at hcase
    cases hcase with
    | invalid r hp => rfl
    | limited msg hp h => rfl
    | failed msg hp h r hr m' hm' =>
      rw [AuthenticationManager.recordFailure_rateLimits_ne _ _ _ (hid msg hp)]
      rcases hm' with rfl | ⟨ch, _, rfl⟩
      · exact AuthenticationManager.isRateLimited_rateLimits_ne _ _ _ (hid msg hp)
      · rw [AuthenticationManager.consumeChallenge_rateLimits]
        exact AuthenticationManager.isRateLimited_rateLimits_ne _ _ _ (hid msg hp)
    | accepted msg hp h record hr ch hslot hfresh hage hsession hnonce hsig =>
      rw [AuthenticationManager.recordSuccess_rateLimits_ne _ _ (hid msg hp),
        AuthenticationManager.consumeChallenge_rateLimits]
      exact AuthenticationManager.isRateLimited_rateLimits_ne _ _ _ (hid msg hp)
  | setServerIdentity serverId => rfl
  | registryChange reg => rfl

/-- Every step keeps the entry of `d` in agreement with the tally of `d`. -/
theorem limitMatches_step {s : AuthState} {e : AuthEvent} {d : DeviceId} {c : Tally}
    (h : LimitMatches c (s.manager.rateLimits (deviceIdToString d)))
    (hclock : ∀ t, callTime d e = some t → t.toNat + lockoutMs < 2 ^ 64) :
    LimitMatches (c.observe d (authMachine.entry s e))
      ((authMachine.step s e).1.manager.rateLimits (deviceIdToString d)) := by
  cases ht : callTime d e with
  | none =>
    rw [Tally.observe_other (x := authMachine.entry s e) ht, rateLimits_of_callTime_none ht]
    exact h
  | some t =>
    obtain ⟨hlimited, hfree⟩ := isRateLimited_of_matches h t
    rw [Tally.observe_call (x := authMachine.entry s e) ht]
    cases callCase (s := s) ht with
    | limited hl hstate hresult =>
      -- During the lockout nothing changes on either side.
      obtain ⟨t₀, hc, hlt⟩ := hlimited.mp hl
      have hexp : c.expire t = c := by
        simp only [Tally.expire, hc]
        exact if_neg (by omega)
      have hcount : isCountedFailure (authMachine.entry s e) = false := by
        rw [isCountedFailure, hresult]
        simp [countedFailure]
      rw [hcount, if_neg (by simp), if_neg (by simp [hresult]), hexp, hstate]
      exact h
    | failed hl hcount hresult m' hm' hlimit =>
      obtain ⟨hmatch, hnone⟩ := hfree hl
      rw [hcount, if_pos rfl, hlimit]
      refine limitMatches_recordFailure ?_ hnone (hclock t ht)
      rw [hm']
      exact hmatch
    | succeeded hl hcount hresponse hresult hlimit =>
      rw [hcount, if_neg (by simp), if_pos ⟨hresponse, hresult⟩, hlimit]
      exact ⟨by decide, rfl⟩
    | uncounted hl hcount hresponse hresult hlimit =>
      rw [hcount, if_neg (by simp), if_neg (not_success_of_not_response hresponse), hlimit]
      exact (hfree hl).1

/-! ### Runs -/

/-- The times of the calls for `d` leave room for a lockout. -/
def ClockBounded (d : DeviceId) (e : AuthEvent) : Prop :=
  ∀ t, callTime d e = some t → t.toNat + lockoutMs < 2 ^ 64

/-- The tally after one more event. -/
theorem tally_trace_snoc (d : DeviceId) (s : AuthState) (es : List AuthEvent) (e : AuthEvent) :
    tally d (authMachine.trace s (es ++ [e]))
      = (tally d (authMachine.trace s es)).observe d
          (authMachine.entry (authMachine.run s es) e) := by
  rw [Machine.trace_append, tally, List.foldl_append]
  rfl

/-- Entry and tally agree along every run from the constructor state. -/
theorem limitMatches_run (reg : Registry) (d : DeviceId) {es : List AuthEvent}
    (hclock : ∀ e ∈ es, ClockBounded d e) :
    LimitMatches (tally d (authMachine.trace { registry := reg } es))
      ((authMachine.run { registry := reg } es).manager.rateLimits (deviceIdToString d)) := by
  refine authMachine.history_invariant
    (P := fun tr s => LimitMatches (tally d tr) (s.manager.rateLimits (deviceIdToString d)))
    ⟨Nat.zero_lt_succ 2, rfl⟩ ?_ (authMachine.along_of_forall hclock _)
  intro tr s e h hbound
  have hsnoc : tally d (tr ++ [authMachine.entry s e])
      = (tally d tr).observe d (authMachine.entry s e) := by
    simp [tally]
  rw [hsnoc]
  exact limitMatches_step h hbound

/-- An entry that agrees with a tally has at most three failures, and it has a lockout
exactly at three. -/
theorem LimitMatches.exact {c : Tally} {limit : DeviceRateLimit}
    (h : LimitMatches c (some limit)) :
    limit.failedCount ≤ MAX_FAILED_ATTEMPTS ∧
      (limit.lockoutUntilMs ≠ 0 ↔ limit.failedCount = MAX_FAILED_ATTEMPTS) := by
  unfold LimitMatches at h
  cases hc : c.lockedAt with
  | none =>
    rw [hc] at h
    obtain ⟨hlt, hlimit⟩ := h
    rw [Option.getD_some] at hlimit
    subst hlimit
    refine ⟨Nat.le_of_lt hlt, ?_⟩
    constructor
    · intro hne
      exact absurd rfl hne
    · intro heq
      exact absurd heq (Nat.ne_of_lt hlt)
  | some t₀ =>
    rw [hc] at h
    obtain ⟨-, hbound, hlimit⟩ := h
    cases hlimit
    exact ⟨Nat.le_refl _, iff_of_true (lockoutEnd_ne_zero hbound) rfl⟩

/-- While a lockout lasts, every call for the device is refused and changes nothing. -/
theorem locked_run {d : DeviceId} {t : UInt64} (es : List AuthEvent) :
    ∀ (s : AuthState) (c : Tally), c.lockedAt = some t →
      LimitMatches c (s.manager.rateLimits (deviceIdToString d)) →
      (∀ e ∈ es, ∀ t', callTime d e = some t' → t'.toNat < t.toNat + lockoutMs) →
      (∀ x ∈ authMachine.trace s es, callTime d x.event ≠ none →
        resultOf x = some .RATE_LIMITED ∧ x.after = x.before) ∧
      LimitMatches c ((authMachine.run s es).manager.rateLimits (deviceIdToString d)) := by
  induction es with
  | nil =>
    intro s c hc h htimes
    exact ⟨by simp [Machine.trace], h⟩
  | cons e es ih =>
    intro s c hc h htimes
    -- The entry of the device is the same after the step, whether it is a call or not.
    have hstep : (callTime d e ≠ none → resultOf (authMachine.entry s e) = some .RATE_LIMITED ∧
        (authMachine.step s e).1 = s) ∧
        LimitMatches c ((authMachine.step s e).1.manager.rateLimits (deviceIdToString d)) := by
      cases ht : callTime d e with
      | none =>
        rw [rateLimits_of_callTime_none ht]
        exact ⟨fun hne => absurd rfl hne, h⟩
      | some t' =>
        obtain ⟨hlimited, -⟩ := isRateLimited_of_matches h t'
        have hyes := hlimited.mpr ⟨t, hc, htimes e (by simp) t' ht⟩
        cases callCase (s := s) ht with
        | limited hl hstate hresult =>
          rw [hstate]
          exact ⟨fun _ => ⟨hresult, rfl⟩, h⟩
        | failed hl => rw [hyes] at hl; cases hl
        | succeeded hl => rw [hyes] at hl; cases hl
        | uncounted hl => rw [hyes] at hl; cases hl
    obtain ⟨hcall, hmatch⟩ := hstep
    obtain ⟨htrace, hrun⟩ := ih (authMachine.step s e).1 c hc hmatch
      (fun e' he' => htimes e' (by simp [he']))
    refine ⟨?_, hrun⟩
    intro x hx hxcall
    rw [Machine.trace, List.mem_cons] at hx
    rcases hx with rfl | hx
    · exact hcall hxcall
    · exact htrace x hx hxcall

/-- The first call after a lockout is not limited, and the count starts again from zero. -/
theorem lockout_over {s : AuthState} {e : AuthEvent} {d : DeviceId} {c : Tally} {t t' : UInt64}
    (hc : c.lockedAt = some t) (h : LimitMatches c (s.manager.rateLimits (deviceIdToString d)))
    (ht' : callTime d e = some t') (hlate : t.toNat + lockoutMs ≤ t'.toNat)
    (hclock : ClockBounded d e) :
    resultOf (authMachine.entry s e) ≠ some .RATE_LIMITED ∧
      failedCount ((authMachine.step s e).1.manager.rateLimits (deviceIdToString d))
        = if isCountedFailure (authMachine.entry s e) then 1 else 0 := by
  have hexp : c.expire t' = {} := by
    simp only [Tally.expire, hc]
    exact if_pos hlate
  have hmatch := limitMatches_step h hclock
  rw [Tally.observe_call (x := authMachine.entry s e) ht', hexp] at hmatch
  obtain ⟨hlimited, -⟩ := isRateLimited_of_matches h t'
  -- Whatever the outcome, the entry agrees with a tally of one failure or none.
  have hzero : ∀ limit : Option DeviceRateLimit, LimitMatches {} limit → failedCount limit = 0 := by
    intro limit hl
    rw [failedCount, hl.2]
  have hone : ∀ limit : Option DeviceRateLimit,
      LimitMatches (Tally.fail {} t') limit → failedCount limit = 1 := by
    intro limit hl
    rw [failedCount, hl.2]
    rfl
  cases callCase (s := s) ht' with
  | limited hl =>
    obtain ⟨t₀, hc', hlt⟩ := hlimited.mp hl
    rw [hc] at hc'
    cases hc'
    omega
  | failed hl hcount hresult m' hm' hlimit =>
    rw [hcount, if_pos rfl] at hmatch
    rw [hcount, if_pos rfl]
    exact ⟨hresult, hone _ hmatch⟩
  | succeeded hl hcount hresponse hresult hlimit =>
    rw [hcount, if_neg (by simp), hresult, hlimit]
    exact ⟨by simp, rfl⟩
  | uncounted hl hcount hresponse hresult hlimit =>
    rw [hcount, if_neg (by simp), if_neg (not_success_of_not_response hresponse)] at hmatch
    rw [hcount, if_neg (by simp)]
    exact ⟨hresult, hzero _ hmatch⟩

/-- Device lockout is exact. In every run from the constructor state, for every device:
the failed count is at most three, and a lockout is set exactly at three. After a counted
failure at time `t` that is the third since the last success or lockout expiry, every call
for the device before `t + 900000` is refused with `RATE_LIMITED` and leaves the state as it
is. The first call from `t + 900000` on is not, and the count starts again from zero. -/
theorem lockout_exact (reg : Registry) (d : DeviceId) (es : List AuthEvent)
    (hclock : ∀ e ∈ es, ClockBounded d e) :
    (∀ limit, (authMachine.run { registry := reg } es).manager.rateLimits (deviceIdToString d)
        = some limit →
      limit.failedCount ≤ 3 ∧ (limit.lockoutUntilMs ≠ 0 ↔ limit.failedCount = 3)) ∧
    ∀ es₁ e es₂ t, es = es₁ ++ e :: es₂ →
      IsThirdFailure d (authMachine.trace { registry := reg } es₁)
        (authMachine.entry (authMachine.run { registry := reg } es₁) e) t →
      (∀ e' ∈ es₂, ∀ t', callTime d e' = some t' → t'.toNat < t.toNat + 900000) →
      (∀ x ∈ authMachine.trace (authMachine.run { registry := reg } (es₁ ++ [e])) es₂,
        callTime d x.event ≠ none → resultOf x = some .RATE_LIMITED ∧ x.after = x.before) ∧
      ∀ e' t', callTime d e' = some t' → t.toNat + 900000 ≤ t'.toNat → ClockBounded d e' →
        resultOf (authMachine.entry (authMachine.run { registry := reg } es) e')
            ≠ some .RATE_LIMITED ∧
        failedCount
            ((authMachine.step (authMachine.run { registry := reg } es) e').1.manager.rateLimits
              (deviceIdToString d))
          = if isCountedFailure (authMachine.entry (authMachine.run { registry := reg } es) e')
            then 1 else 0 := by
  refine ⟨?_, ?_⟩
  · intro limit hlimit
    have hmatch := limitMatches_run reg d hclock
    rw [hlimit] at hmatch
    exact hmatch.exact
  · intro es₁ e es₂ t hes hthird htimes
    subst hes
    obtain ⟨hcall, hcount, hthree⟩ := hthird
    -- The third failure sets the lockout of the tally.
    have hclock₁ : ∀ e' ∈ es₁ ++ [e], ClockBounded d e' := by
      intro e' he'
      apply hclock
      simp only [List.mem_append, List.mem_singleton] at he'
      simp only [List.mem_append, List.mem_cons]
      tauto
    have hmatch := limitMatches_run reg d hclock₁
    have htally : tally d (authMachine.trace { registry := reg } (es₁ ++ [e]))
        = ((tally d (authMachine.trace { registry := reg } es₁)).expire t).fail t := by
      have hobs := Tally.observe_call
        (c := tally d (authMachine.trace { registry := reg } es₁)) hcall
      rw [hcount, if_pos rfl] at hobs
      rw [tally_trace_snoc, hobs]
    have hlocked : (tally d (authMachine.trace { registry := reg } (es₁ ++ [e]))).lockedAt
        = some t := by
      rw [htally, Tally.fail]
      exact if_pos hthree
    obtain ⟨htrace, hrun⟩ := locked_run es₂ _ _ hlocked hmatch htimes
    refine ⟨htrace, ?_⟩
    intro e' t' ht' hlate hbound
    have hsplit : authMachine.run { registry := reg } (es₁ ++ e :: es₂)
        = authMachine.run (authMachine.run { registry := reg } (es₁ ++ [e])) es₂ := by
      rw [← Machine.run_append, List.append_assoc]
      rfl
    rw [hsplit]
    exact lockout_over hlocked hrun ht' hlate hbound

/-! ### Three failures of an unknown device -/

/-- A message signed by the device with the zero id. -/
def unknownDeviceMessage : SignedMessage where
  protocolVersion := SIGNED_MESSAGE_VERSION
  serverIdentity := List.Vector.replicate 16 0
  deviceIdentity := zeroDeviceId
  operation := MessageType.AUTH_RESPONSE.code
  requestID := 1
  sessionID := 1
  nonce := List.Vector.replicate 32 0
  timestamp := 0

/-- What the manager reads from outside at the response. The registry does not know the
device, so neither key nor signature is looked at. -/
def unknownDeviceEnv (t : UInt64) : ResponseEnv where
  now := t
  access := RegAccess.ok
  cng :=
    { sha256 := fun _ => none
      importKeyPair := fun _ => none
      verifySignature := fun _ _ _ => false
      wildKey := fun _ => none }
  seenAccess := RegAccess.ok
  seenTime := {}

/-- The response with that message, at a given time. -/
def unknownDeviceResponse (t : UInt64) : AuthEvent :=
  .authResponse {} (serializeSignedMessage unknownDeviceMessage ++ List.replicate 64 0)
    (unknownDeviceEnv t)

theorem parse_unknownDeviceResponse :
    parseAuthResponse (serializeSignedMessage unknownDeviceMessage ++ List.replicate 64 0)
      = .ok unknownDeviceMessage :=
  parseAuthResponse_serialize rfl (by decide) (by simp [P1363_SIGNATURE_SIZE])

theorem callTime_unknownDeviceResponse (t : UInt64) :
    callTime zeroDeviceId (unknownDeviceResponse t) = some t := by
  simp only [callTime, unknownDeviceResponse, parse_unknownDeviceResponse]
  exact if_pos rfl

/-- Over an empty registry the response is counted, unless a lockout is in force. -/
theorem unknownDeviceResponse_counted {s : AuthState} {c : Tally} {t : UInt64}
    (hreg : s.registry.store = ∅)
    (h : LimitMatches c (s.manager.rateLimits (deviceIdToString zeroDeviceId)))
    (hc : c.lockedAt = none) :
    isCountedFailure (authMachine.entry s (unknownDeviceResponse t)) = true ∧
      (authMachine.step s (unknownDeviceResponse t)).1.registry = s.registry := by
  have hfree : (s.manager.isRateLimited (deviceIdToString unknownDeviceMessage.deviceIdentity)
      (unknownDeviceEnv t).now).1 = false := by
    show (s.manager.isRateLimited (deviceIdToString zeroDeviceId) t).1 = false
    rw [← Bool.not_eq_true, (isRateLimited_of_matches h t).1, hc]
    simp
  have hlookup : lookupDevice (unknownDeviceEnv t).access s.registry
      (deviceIdToString unknownDeviceMessage.deviceIdentity)
      = .error ⟨.UNKNOWN_DEVICE, "UNKNOWN_DEVICE"⟩ := by
    simp [lookupDevice, readDeviceRecord, regOpenKey, unknownDeviceEnv, RegAccess.ok, hreg,
      ERROR_SUCCESS, ERROR_FILE_NOT_FOUND]
  have hrun : (handleAuthResponse s.manager s.registry {}
      (serializeSignedMessage unknownDeviceMessage ++ List.replicate 64 0) (unknownDeviceEnv t)).2
      = (s.registry, refuseResponse {} ⟨.UNKNOWN_DEVICE, "UNKNOWN_DEVICE"⟩) := by
    simp only [handleAuthResponse, parse_unknownDeviceResponse, hfree, hlookup, Bool.false_eq_true,
      if_false]
  constructor
  · simp only [isCountedFailure, Machine.entry, unknownDeviceResponse, authMachine, isResponse,
      resultOf, hrun, Option.map_some, refuseResponse_result, Option.any_some, countedFailure,
      Bool.and_self]
  · simp only [unknownDeviceResponse, authMachine, hrun]

/-- The clock is in bounds at the response when its time is. -/
theorem clockBounded_unknownDevice {ts : List UInt64}
    (hts : ∀ t ∈ ts, t.toNat + lockoutMs < 2 ^ 64) :
    ∀ e ∈ ts.map unknownDeviceResponse, ClockBounded zeroDeviceId e := by
  intro e he t ht
  obtain ⟨t', ht', rfl⟩ := List.mem_map.mp he
  rw [callTime_unknownDeviceResponse] at ht
  cases ht
  exact hts _ ht'

/-- The tally after fewer than three responses is their number, and the next response is
counted. -/
theorem tally_unknownDevice (ts : List UInt64) (hlen : ts.length < MAX_FAILED_ATTEMPTS)
    (hts : ∀ t ∈ ts, t.toNat + lockoutMs < 2 ^ 64) :
    tally zeroDeviceId (authMachine.trace { registry := {} } (ts.map unknownDeviceResponse))
        = ⟨ts.length, none⟩ ∧
      (authMachine.run { registry := {} } (ts.map unknownDeviceResponse)).registry.store = ∅ ∧
      ∀ t, isCountedFailure (authMachine.entry (authMachine.run { registry := {} }
        (ts.map unknownDeviceResponse)) (unknownDeviceResponse t)) = true := by
  induction ts using List.reverseRecOn with
  | nil =>
    refine ⟨rfl, rfl, ?_⟩
    intro t
    exact (unknownDeviceResponse_counted (c := {}) rfl ⟨by decide, rfl⟩ rfl).1
  | append_singleton ts t ih =>
    rw [List.length_append, List.length_singleton] at hlen
    -- Before the last response the tally is one less, below the limit, so it is counted too.
    obtain ⟨htally, hreg, hcounted⟩ := ih (Nat.lt_of_succ_lt hlen)
      (fun t' ht' => hts t' (List.mem_append_left _ ht'))
    have hbefore := limitMatches_run {} zeroDeviceId (clockBounded_unknownDevice
      (fun t' ht' => hts t' (List.mem_append_left _ ht')))
    have hkeep := (unknownDeviceResponse_counted (t := t) hreg hbefore (by rw [htally])).2
    have hafter := limitMatches_run {} zeroDeviceId (clockBounded_unknownDevice hts)
    rw [List.map_append, List.map_singleton] at hafter ⊢
    have hreg' : (authMachine.run { registry := {} } (ts.map unknownDeviceResponse
        ++ [unknownDeviceResponse t])).registry.store = ∅ := by
      rw [Machine.run_append, Machine.run_cons, Machine.run_nil, hkeep]
      exact hreg
    have htally' : tally zeroDeviceId (authMachine.trace { registry := {} }
        (ts.map unknownDeviceResponse ++ [unknownDeviceResponse t]))
        = ⟨(ts ++ [t]).length, none⟩ := by
      rw [tally_trace_snoc, htally, Tally.observe_call
        (x := authMachine.entry _ (unknownDeviceResponse t))
        (callTime_unknownDeviceResponse t), hcounted, if_pos rfl, List.length_append,
        List.length_singleton]
      simp only [Tally.expire, Tally.fail, Tally.mk.injEq, true_and]
      exact if_neg (Nat.ne_of_lt hlen)
    refine ⟨htally', hreg', ?_⟩
    intro t'
    exact (unknownDeviceResponse_counted hreg' hafter (by rw [htally'])).1

/-- Failures at the times 0, 1 and 2 lock the device, and a call at time 3 is refused. -/
theorem lockout_exact_threeFailures :
    resultOf (authMachine.entry (authMachine.run { registry := {} } ([0, 1].map
        unknownDeviceResponse ++ [unknownDeviceResponse 2])) (unknownDeviceResponse 3))
      = some .RATE_LIMITED := by
  have hbound : ∀ t ∈ [(0 : UInt64), 1, 2, 3], t.toNat + lockoutMs < 2 ^ 64 := by
    intro t ht
    simp only [List.mem_cons, List.not_mem_nil, or_false] at ht
    obtain rfl | rfl | rfl | rfl := ht
    all_goals decide
  have hclock : ∀ e ∈ [0, 1].map unknownDeviceResponse ++
      unknownDeviceResponse 2 :: [unknownDeviceResponse 3], ClockBounded zeroDeviceId e :=
    clockBounded_unknownDevice hbound
  obtain ⟨htally, -, hcounted⟩ := tally_unknownDevice [0, 1] (by decide)
    (fun t ht => hbound t (List.mem_append_left [2, 3] ht))
  have h := (lockout_exact {} zeroDeviceId _ hclock).2 _ _ _ 2 rfl
    ⟨callTime_unknownDeviceResponse 2, hcounted 2, by rw [htally]; rfl⟩ (by
    intro e he t ht
    rw [List.mem_singleton.mp he, callTime_unknownDeviceResponse] at ht
    cases ht
    decide)
  refine (h.1 _ (List.mem_singleton_self _) ?_).1
  exact Option.ne_none_iff_exists'.mpr ⟨3, callTime_unknownDeviceResponse 3⟩

end MobileUnlock.Authentication
