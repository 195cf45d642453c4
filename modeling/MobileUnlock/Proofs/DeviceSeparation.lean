import MobileUnlock.Proofs.Lockout
import MobileUnlock.Proofs.RegistryFrame

/-!
# `MobileUnlock.Proofs.DeviceSeparation`: devices do not interfere

The maps of the manager and the keys of the store are shared by all devices. `AgreeOn d` compares
what two states hold for one device: its challenge, its rate-limit entry and its registry key.

Two directions are shown. A call for another device leaves the state in agreement with itself
(`agreeOn_authRequest`, `agreeOn_authResponse`). And a call for `d` from two states that agree
on `d` gives the same answer and leads to agreement again (`agreeOn_responses`,
`agreeOn_requests`). The only trace of the other devices is the session id of a new challenge,
which comes from a counter that all devices share.
-/

set_option autoImplicit false

namespace MobileUnlock.Authentication

open MobileUnlock.Lib MobileUnlock.Lib.Win32 MobileUnlock.Protocol MobileUnlock.Crypto
open MobileUnlock.Pairing
open AuthenticationManager

/-- The device a response names, when its payload is well formed. -/
def namedDevice (payload : Bytes) : Option DeviceId :=
  match parseAuthResponse payload with
  | .ok msg => some msg.deviceIdentity
  | .error _ => none

/-- Two managers hold the same for a device text. -/
structure SameEntry (id : Bytes) (m₁ m₂ : AuthenticationManager) : Prop where
  challenge : m₁.activeChallenges id = m₂.activeChallenges id
  limit : m₁.rateLimits id = m₂.rateLimits id

/-- The stores in force have the same key of a device. -/
def SameRecord (d : DeviceId) (reg₁ reg₂ : Registry) : Prop :=
  reg₁.store.lookup (deviceKey (deviceIdToString d))
    = reg₂.store.lookup (deviceKey (deviceIdToString d))

/-- Two states hold the same for a device: its challenge, its rate-limit entry and its record. -/
structure AgreeOn (d : DeviceId) (s₁ s₂ : AuthState) : Prop where
  entry : SameEntry (deviceIdToString d) s₁.manager s₂.manager
  record : SameRecord d s₁.registry s₂.registry

/-- A challenge without its session id. -/
def ActiveChallenge.forgetSession (ch : ActiveChallenge) : ActiveChallenge :=
  { ch with sessionId := 0 }

/-- Two states hold the same for a device, up to the session id of its challenge. -/
structure AgreeUpToSession (d : DeviceId) (s₁ s₂ : AuthState) : Prop where
  challenge : (s₁.manager.activeChallenges (deviceIdToString d)).map
      ActiveChallenge.forgetSession
    = (s₂.manager.activeChallenges (deviceIdToString d)).map ActiveChallenge.forgetSession
  limit : s₁.manager.rateLimits (deviceIdToString d) = s₂.manager.rateLimits (deviceIdToString d)
  record : SameRecord d s₁.registry s₂.registry

theorem SameEntry.refl (id : Bytes) (m : AuthenticationManager) : SameEntry id m m := ⟨rfl, rfl⟩

theorem SameEntry.trans {id : Bytes} {m₁ m₂ m₃ : AuthenticationManager}
    (h₁ : SameEntry id m₁ m₂) (h₂ : SameEntry id m₂ m₃) : SameEntry id m₁ m₃ :=
  ⟨h₁.challenge.trans h₂.challenge, h₁.limit.trans h₂.limit⟩

/-! ### Calls for other devices -/

section Others
variable {id id' : Bytes} (m : AuthenticationManager) (h : id ≠ id')
include h

theorem sameEntry_isRateLimited (now : UInt64) : SameEntry id m (m.isRateLimited id' now).2 where
  challenge := by rw [isRateLimited_activeChallenges]
  limit := (isRateLimited_rateLimits_ne m id' now h).symm

theorem sameEntry_recordFailure (now : UInt64) : SameEntry id m (m.recordFailure id' now) where
  challenge := rfl
  limit := (recordFailure_rateLimits_ne m id' now h).symm

theorem sameEntry_recordSuccess : SameEntry id m (m.recordSuccess id') where
  challenge := rfl
  limit := (recordSuccess_rateLimits_ne m id' h).symm

theorem sameEntry_setChallenge (ch : ActiveChallenge) : SameEntry id m (m.setChallenge id' ch) where
  challenge := (setChallenge_activeChallenges_ne m id' ch h).symm
  limit := rfl

theorem sameEntry_consumeChallenge (ch : ActiveChallenge) :
    SameEntry id m (m.consumeChallenge id' ch) :=
  sameEntry_setChallenge m h _

end Others

/-- Setting a value of one device leaves the record of every other one. -/
theorem sameRecord_setDeviceValue {d d' : DeviceId} (hd : d ≠ d') (acc : Access) (reg : Registry)
    (v : DeviceValue) (data : Bytes) :
    SameRecord d reg (setDeviceValue acc reg (deviceIdToString d') v data).2 := by
  have hkey : deviceKey (deviceIdToString d) ≠ deviceKey (deviceIdToString d') := by
    intro h
    exact hd (deviceKey_inj.mp h)
  exact ((setDeviceValue_changedAt acc reg (deviceIdToString d') v data).2 _ hkey).symm

/-- A request of another device leaves everything of `d`. -/
theorem agreeOn_authRequest {d d' : DeviceId} (hd : d ≠ d') (s : AuthState)
    (hdr out : FrameHeader) (env : RequestEnv) :
    AgreeOn d s (authMachine.step s (.authRequest d' hdr out env)).1 := by
  have hid : deviceIdToString d ≠ deviceIdToString d' := fun h => hd (deviceIdToString_inj.mp h)
  refine ⟨?_, rfl⟩
  show SameEntry (deviceIdToString d) s.manager
    (handleAuthRequest s.manager s.registry d' hdr out env).1
  have hcase := handleAuthRequest_case s.manager s.registry d' hdr out env
  generalize handleAuthRequest s.manager s.registry d' hdr out env = res at hcase ⊢
  cases hcase with
  | limited h => exact SameEntry.refl _ _
  | refused h r hr => exact sameEntry_isRateLimited s.manager hid env.now
  | noNonce h hn =>
    -- the counter is shared, but it is not an entry
    have hlimits := sameEntry_isRateLimited s.manager hid env.now
    exact ⟨hlimits.challenge, hlimits.limit⟩
  | issued h record hr nonce hn m' hslots hlimits =>
    have hcheck := sameEntry_isRateLimited s.manager hid env.now
    have hm' : SameEntry (deviceIdToString d) s.manager m' := by
      refine ⟨by rw [hslots], ?_⟩
      rw [hlimits]
      exact hcheck.limit
    exact hm'.trans (sameEntry_setChallenge m' hid _)

/-- A response that names another device, or none, leaves everything of `d`. -/
theorem agreeOn_authResponse {d : DeviceId} {payload : Bytes} (hd : namedDevice payload ≠ some d)
    (s : AuthState) (hdr : FrameHeader) (env : ResponseEnv) :
    AgreeOn d s (authMachine.step s (.authResponse hdr payload env)).1 := by
  have hid : ∀ {msg : SignedMessage}, parseAuthResponse payload = .ok msg →
      d ≠ msg.deviceIdentity := by
    intro msg hp hsame
    apply hd
    rw [namedDevice, hp, hsame]
  have htext : ∀ {d' : DeviceId}, d ≠ d' → deviceIdToString d ≠ deviceIdToString d' :=
    fun h h' => h (deviceIdToString_inj.mp h')
  show AgreeOn d s ⟨(handleAuthResponse s.manager s.registry hdr payload env).1,
    (handleAuthResponse s.manager s.registry hdr payload env).2.1⟩
  have hcase := handleAuthResponse_case s.manager s.registry hdr payload env
  generalize handleAuthResponse s.manager s.registry hdr payload env = res at hcase ⊢
  cases hcase with
  | invalid r hp => exact ⟨SameEntry.refl _ _, rfl⟩
  | limited msg hp h => exact ⟨SameEntry.refl _ _, rfl⟩
  | failed msg hp h r hr m' hm' =>
    have hne := htext (hid hp)
    refine ⟨?_, rfl⟩
    have hcheck := sameEntry_isRateLimited s.manager hne env.now
    -- the slot of the named device may have been consumed before the failure is counted
    rcases hm' with rfl | ⟨ch, -, rfl⟩
    · exact hcheck.trans (sameEntry_recordFailure _ hne env.now)
    · exact (hcheck.trans (sameEntry_consumeChallenge _ hne ch)).trans
        (sameEntry_recordFailure _ hne env.now)
  | accepted msg hp h record hr ch hslot hfresh hage hsession hnonce hsig =>
    have hne := htext (hid hp)
    refine ⟨?_, sameRecord_setDeviceValue (hid hp) _ _ _ _⟩
    exact ((sameEntry_isRateLimited s.manager hne env.now).trans
      (sameEntry_consumeChallenge _ hne ch)).trans (sameEntry_recordSuccess _ hne)

/-- A response that is rejected as invalid names no device. -/
theorem namedDevice_of_invalid {s : AuthState} {hdr : FrameHeader} {payload : Bytes}
    {env : ResponseEnv}
    (h : (authMachine.step s (.authResponse hdr payload env)).2.map AuthReply.result
      = some .INVALID_PAYLOAD) : namedDevice payload = none := by
  have hresult : (handleAuthResponse s.manager s.registry hdr payload env).2.2.result
      = .INVALID_PAYLOAD := Option.some.inj h
  have hcase := handleAuthResponse_case s.manager s.registry hdr payload env
  generalize handleAuthResponse s.manager s.registry hdr payload env = res at hcase hresult
  cases hcase with
  | invalid r hp =>
    unfold namedDevice
    rw [hp]
  | limited msg hp h => cases hresult
  | failed msg hp h r hr m' hm' => exact absurd hresult (countedFailure_ne hr).2.2
  | accepted msg hp h record hr ch hslot hfresh hage hsession hnonce hsig => cases hresult

/-! ### Calls for the device in two states -/

section TwoRuns
variable {id : Bytes} {m₁ m₂ : AuthenticationManager}

/-- The rate-limit check reads one entry, and leaves two equal entries equal. -/
theorem isRateLimited_congr (h : SameEntry id m₁ m₂) (now : UInt64) :
    (m₁.isRateLimited id now).1 = (m₂.isRateLimited id now).1 ∧
      SameEntry id (m₁.isRateLimited id now).2 (m₂.isRateLimited id now).2 := by
  have hlimit := h.limit
  unfold isRateLimited
  rw [hlimit]
  cases m₂.rateLimits id with
  | none => exact ⟨rfl, h⟩
  | some limit =>
    dsimp only
    split
    · exact ⟨rfl, h⟩
    · split
      · refine ⟨rfl, h.challenge, ?_⟩
        show Function.update m₁.rateLimits id _ id = Function.update m₂.rateLimits id _ id
        rw [Function.update_self, Function.update_self]
      · exact ⟨rfl, h⟩

theorem recordFailure_congr (h : SameEntry id m₁ m₂) (now : UInt64) :
    SameEntry id (m₁.recordFailure id now) (m₂.recordFailure id now) where
  challenge := h.challenge
  limit := by
    unfold recordFailure
    dsimp only
    rw [Function.update_self, Function.update_self, h.limit]

theorem recordSuccess_congr (h : SameEntry id m₁ m₂) :
    SameEntry id (m₁.recordSuccess id) (m₂.recordSuccess id) where
  challenge := h.challenge
  limit := by rw [recordSuccess_rateLimits, recordSuccess_rateLimits]

theorem consumeChallenge_congr (h : SameEntry id m₁ m₂) (ch : ActiveChallenge) :
    SameEntry id (m₁.consumeChallenge id ch) (m₂.consumeChallenge id ch) where
  challenge := by rw [consumeChallenge_activeChallenges, consumeChallenge_activeChallenges]
  limit := h.limit

/-- The answer to a challenge depends on its slot, and leaves two equal slots equal. -/
theorem answerChallenge_congr (h : SameEntry id m₁ m₂) (now : UInt64) (cng : Cng)
    (publicKey : Bytes) (msg : SignedMessage) (signature : Bytes) :
    (answerChallenge m₁ id now cng publicKey msg signature).2
        = (answerChallenge m₂ id now cng publicKey msg signature).2 ∧
      SameEntry id (answerChallenge m₁ id now cng publicKey msg signature).1
        (answerChallenge m₂ id now cng publicKey msg signature).1 := by
  have hslot := h.challenge
  unfold answerChallenge
  rw [hslot]
  cases m₂.activeChallenges id with
  | none => exact ⟨rfl, h⟩
  | some ch =>
    -- one goal for each way to answer, all of them keep or consume the slot
    have hconsumed := consumeChallenge_congr h ch
    dsimp only
    split
    · exact ⟨rfl, h⟩
    · split
      · exact ⟨rfl, hconsumed⟩
      · split
        · exact ⟨rfl, hconsumed⟩
        · split
          · exact ⟨rfl, hconsumed⟩
          · split
            · exact ⟨rfl, hconsumed⟩
            · exact ⟨rfl, hconsumed⟩

end TwoRuns

/-- The record checks depend on the record. -/
theorem lookupDevice_congr {d : DeviceId} {reg₁ reg₂ : Registry} (h : SameRecord d reg₁ reg₂)
    (acc : Access) :
    lookupDevice acc reg₁ (deviceIdToString d) = lookupDevice acc reg₂ (deviceIdToString d) := by
  unfold lookupDevice
  rw [readDeviceRecord_congr h]

/-- Setting a value leaves two equal records equal. -/
theorem setDeviceValue_congr {d : DeviceId} {reg₁ reg₂ : Registry} (h : SameRecord d reg₁ reg₂)
    (acc : Access) (v : DeviceValue) (data : Bytes) :
    SameRecord d (setDeviceValue acc reg₁ (deviceIdToString d) v data).2
      (setDeviceValue acc reg₂ (deviceIdToString d) v data).2 := by
  have hopen : regOpenKey acc reg₁.store (deviceKey (deviceIdToString d))
      = regOpenKey acc reg₂.store (deviceKey (deviceIdToString d)) := by
    unfold regOpenKey
    rw [h]
  unfold setDeviceValue
  dsimp only
  rw [hopen]
  cases regOpenKey acc reg₂.store (deviceKey (deviceIdToString d)) with
  | error err => exact h
  | ok vals =>
    dsimp only
    split
    · exact h
    · show AList.lookup _ (Registry.store _) = AList.lookup _ (Registry.store _)
      rw [Registry.store_withStore, Registry.store_withStore, AList.lookup_insert,
        AList.lookup_insert]

/-- A response that names `d` gets the same reply in two states that agree on `d`, and they
agree on it afterwards. -/
theorem agreeOn_responses {d : DeviceId} {s₁ s₂ : AuthState} (h : AgreeOn d s₁ s₂)
    {payload : Bytes} (hd : namedDevice payload = some d) (hdr : FrameHeader) (env : ResponseEnv) :
    (authMachine.step s₁ (.authResponse hdr payload env)).2
        = (authMachine.step s₂ (.authResponse hdr payload env)).2 ∧
      AgreeOn d (authMachine.step s₁ (.authResponse hdr payload env)).1
        (authMachine.step s₂ (.authResponse hdr payload env)).1 := by
  show some (handleAuthResponse s₁.manager s₁.registry hdr payload env).2.2
      = some (handleAuthResponse s₂.manager s₂.registry hdr payload env).2.2 ∧
    AgreeOn d ⟨(handleAuthResponse s₁.manager s₁.registry hdr payload env).1,
        (handleAuthResponse s₁.manager s₁.registry hdr payload env).2.1⟩
      ⟨(handleAuthResponse s₂.manager s₂.registry hdr payload env).1,
        (handleAuthResponse s₂.manager s₂.registry hdr payload env).2.1⟩
  unfold namedDevice at hd
  unfold handleAuthResponse
  cases hp : parseAuthResponse payload with
  | error r =>
    rw [hp] at hd
    cases hd
  | ok msg =>
    rw [hp] at hd
    dsimp only at hd ⊢
    cases hd
    -- Check by check: each reads the data of `d` alone, so both runs take the same branch and
    -- leave states that agree on `d` again.
    obtain ⟨hlimited, hchecked⟩ := isRateLimited_congr h.entry env.now
    rw [hlimited]
    split
    · exact ⟨rfl, hchecked, h.record⟩
    · rw [lookupDevice_congr h.record]
      cases lookupDevice env.access s₂.registry (deviceIdToString msg.deviceIdentity) with
      | error r => exact ⟨rfl, recordFailure_congr hchecked env.now, h.record⟩
      | ok record =>
        dsimp only
        obtain ⟨hrefusal, hanswered⟩ := answerChallenge_congr hchecked env.now env.cng
          record.publicKey msg (payload.drop CANONICAL_SIGNED_MESSAGE_SIZE)
        generalize answerChallenge _ _ _ _ _ _ _ = a₁ at hrefusal hanswered ⊢
        generalize answerChallenge _ _ _ _ _ _ _ = a₂ at hrefusal hanswered ⊢
        obtain ⟨n₁, r₁⟩ := a₁
        obtain ⟨n₂, r₂⟩ := a₂
        -- The outcome of the challenge is the same in both.
        cases hrefusal
        cases r₁ with
        | some r => exact ⟨rfl, recordFailure_congr hanswered env.now, h.record⟩
        | none =>
          exact ⟨rfl, recordSuccess_congr hanswered, setDeviceValue_congr h.record _ _ _⟩

/-- A request of `d` gets the same result code in two states that agree on `d`. They agree on it
afterwards as well, up to the session id when a challenge was issued. -/
theorem agreeOn_requests {d : DeviceId} {s₁ s₂ : AuthState} (h : AgreeOn d s₁ s₂)
    (hdr out : FrameHeader) (env : RequestEnv) {r₁ r₂ : AuthReply} {s₁' s₂' : AuthState}
    (h₁ : authMachine.step s₁ (.authRequest d hdr out env) = (s₁', some r₁))
    (h₂ : authMachine.step s₂ (.authRequest d hdr out env) = (s₂', some r₂)) :
    r₁.result = r₂.result ∧ (r₁.result = .SUCCESS → AgreeUpToSession d s₁' s₂') ∧
      (r₁.result ≠ .SUCCESS → AgreeOn d s₁' s₂') := by
  obtain ⟨hlimited, hchecked⟩ := isRateLimited_congr h.entry env.now
  have hlookup := lookupDevice_congr h.record env.access
  simp only [authMachine, handleAuthRequest, hlimited, hlookup] at h₁ h₂
  cases hl : (s₂.manager.isRateLimited (deviceIdToString d) env.now).1 with
  | true =>
    simp only [hl, if_true, Prod.mk.injEq, Option.some.injEq] at h₁ h₂
    obtain ⟨rfl, rfl⟩ := h₁
    obtain ⟨rfl, rfl⟩ := h₂
    refine ⟨rfl, ?_, fun _ => ⟨hchecked, h.record⟩⟩
    intro hsuccess
    cases hsuccess
  | false =>
    simp only [hl, Bool.false_eq_true, if_false] at h₁ h₂
    cases hr : lookupDevice env.access s₂.registry (deviceIdToString d) with
    | error r =>
      simp only [hr, Prod.mk.injEq, Option.some.injEq] at h₁ h₂
      obtain ⟨rfl, rfl⟩ := h₁
      obtain ⟨rfl, rfl⟩ := h₂
      refine ⟨rfl, ?_, fun _ => ⟨hchecked, h.record⟩⟩
      intro hsuccess
      exact absurd hsuccess (lookupDevice_error_ne hr).1
    | ok record =>
      cases hn : env.nonce with
      | none =>
        simp only [hr, hn, Prod.mk.injEq, Option.some.injEq] at h₁ h₂
        obtain ⟨rfl, rfl⟩ := h₁
        obtain ⟨rfl, rfl⟩ := h₂
        -- both counters have moved on, the entries have not
        refine ⟨rfl, ?_, fun _ => ⟨⟨hchecked.challenge, hchecked.limit⟩, h.record⟩⟩
        intro hsuccess
        cases hsuccess
      | some nonce =>
        simp only [hr, hn, Prod.mk.injEq, Option.some.injEq] at h₁ h₂
        obtain ⟨rfl, rfl⟩ := h₁
        obtain ⟨rfl, rfl⟩ := h₂
        rw [challengeReply_result, challengeReply_result]
        refine ⟨rfl, fun _ => ⟨?_, hchecked.limit, h.record⟩, fun hne => absurd rfl hne⟩
        dsimp only
        rw [setChallenge_activeChallenges, setChallenge_activeChallenges]
        rfl

/-- Devices do not interfere. Calls of another device, and responses that are rejected as
invalid, leave everything of `d`. Calls of `d` depend on nothing but what the state holds for
`d`, except that a new challenge takes its session id from the shared counter. -/
theorem devices_separate (d d' : DeviceId) (hd : d ≠ d') :
    (∀ s hdr out env, AgreeOn d s (authMachine.step s (.authRequest d' hdr out env)).1) ∧
    (∀ s hdr payload env,
      (authMachine.step s (.authResponse hdr payload env)).2.map AuthReply.result
          = some .INVALID_PAYLOAD ∨ namedDevice payload = some d' →
        AgreeOn d s (authMachine.step s (.authResponse hdr payload env)).1) ∧
    (∀ s₁ s₂ hdr payload env, AgreeOn d s₁ s₂ → namedDevice payload = some d →
      (authMachine.step s₁ (.authResponse hdr payload env)).2
          = (authMachine.step s₂ (.authResponse hdr payload env)).2 ∧
        AgreeOn d (authMachine.step s₁ (.authResponse hdr payload env)).1
          (authMachine.step s₂ (.authResponse hdr payload env)).1) ∧
    (∀ s₁ s₂ hdr out env, AgreeOn d s₁ s₂ →
      ∃ r₁ r₂ s₁' s₂', authMachine.step s₁ (.authRequest d hdr out env) = (s₁', some r₁) ∧
        authMachine.step s₂ (.authRequest d hdr out env) = (s₂', some r₂) ∧
        r₁.result = r₂.result ∧ (r₁.result = .SUCCESS → AgreeUpToSession d s₁' s₂') ∧
        (r₁.result ≠ .SUCCESS → AgreeOn d s₁' s₂')) := by
  refine ⟨?_, ?_, ?_, ?_⟩
  · intro s hdr out env
    exact agreeOn_authRequest hd s hdr out env
  · intro s hdr payload env hother
    apply agreeOn_authResponse
    rcases hother with hinvalid | hnamed
    · rw [namedDevice_of_invalid hinvalid]
      exact fun h => nomatch h
    · rw [hnamed]
      exact fun h => hd (Option.some.inj h).symm
  · intro s₁ s₂ hdr payload env h hnamed
    exact agreeOn_responses h hnamed hdr env
  · intro s₁ s₂ hdr out env h
    exact ⟨_, _, _, _, rfl, rfl, agreeOn_requests h hdr out env rfl rfl⟩

/-- Two devices. A request of the second one leaves the first, and a response of the first one is
answered alike whatever the session counter is. -/
theorem devices_separate_twoDevices :
    zeroDeviceId ≠ otherDeviceId ∧
      AgreeOn zeroDeviceId {} (authMachine.step {}
        (.authRequest otherDeviceId {} {} ⟨0, RegAccess.ok, none⟩)).1 ∧
      (authMachine.step {} (unknownDeviceResponse 0)).2
        = (authMachine.step ⟨{ sessionCounter := 7 }, {}⟩ (unknownDeviceResponse 0)).2 := by
  obtain ⟨hother, -, hresponses, -⟩ := devices_separate zeroDeviceId otherDeviceId (by decide)
  have hnamed : namedDevice (serializeSignedMessage unknownDeviceMessage ++ List.replicate 64 0)
      = some zeroDeviceId := by
    rw [namedDevice, parse_unknownDeviceResponse]
    rfl
  have hagree : AgreeOn zeroDeviceId {} ⟨{ sessionCounter := 7 }, {}⟩ := ⟨⟨rfl, rfl⟩, rfl⟩
  refine ⟨by decide, hother _ _ _ _, ?_⟩
  rw [unknownDeviceResponse]
  exact (hresponses _ _ {} _ (unknownDeviceEnv 0) hagree hnamed).1

end MobileUnlock.Authentication
