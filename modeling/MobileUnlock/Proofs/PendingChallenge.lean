import MobileUnlock.Proofs.ChallengeUse
import MobileUnlock.Proofs.DeviceSeparation
import MobileUnlock.Proofs.LsaLogon

/-!
# `MobileUnlock.Proofs.PendingChallenge`: what a waiting challenge survives

Between a challenge and its answer the frames of other clients arrive. `Pending d ch t` says that
the challenge `ch` still waits in the slot of `d` and that `d` is not locked out from time `t` on.
A request that issues a challenge makes it pending (`pending_of_issues`), and an answer to a pending
challenge succeeds (`pending_accepts`).

A frame takes the challenge away in two ways only. A request for `d` that is answered with a
challenge replaces it, and a response that names `d` consumes it, whoever sends them and whatever
their signature. Every other frame leaves it (`pending_step`). `unlock_not_spoiled` is the result
over whole runs, and `unlock_spoiled` shows both ways.
-/

set_option autoImplicit false

namespace MobileUnlock.Authentication

open MobileUnlock.Lib MobileUnlock.Lib.Win32 MobileUnlock.Protocol MobileUnlock.Crypto
open MobileUnlock.Pairing MobileUnlock.Lsa
open AuthenticationManager

/-! ### Lockouts -/

/-- The device is not locked out at any time from `t` on. -/
def UnlockedFrom (t : UInt64) (limit : Option DeviceRateLimit) : Prop :=
  ∀ l, limit = some l → l.lockoutUntilMs ≤ t

section Unlocked
variable {m : AuthenticationManager} {id : Bytes} {t : UInt64}

theorem UnlockedFrom.isRateLimited (h : UnlockedFrom t (m.rateLimits id)) {now : UInt64}
    (hnow : t ≤ now) : (m.isRateLimited id now).1 = false := by
  unfold AuthenticationManager.isRateLimited
  cases hl : m.rateLimits id with
  | none => rfl
  | some l =>
    have hle : l.lockoutUntilMs ≤ now := UInt64.le_trans (h l hl) hnow
    dsimp only
    rw [if_neg (by rwa [UInt64.not_lt])]
    split <;> rfl

/-- The check leaves the entry or resets it. -/
theorem isRateLimited_entry (m : AuthenticationManager) (id : Bytes) (now : UInt64) :
    (m.isRateLimited id now).2.rateLimits id = m.rateLimits id ∨
      (m.isRateLimited id now).2.rateLimits id = some {} := by
  unfold AuthenticationManager.isRateLimited
  split
  · exact Or.inl rfl
  · split
    · exact Or.inl rfl
    · split
      · exact Or.inr (Function.update_self _ _ _)
      · exact Or.inl rfl

/-- The rate-limit check, at whatever time it is made, does not lock the device. -/
theorem UnlockedFrom.check (h : UnlockedFrom t (m.rateLimits id)) (now : UInt64) :
    UnlockedFrom t ((m.isRateLimited id now).2.rateLimits id) := by
  rcases isRateLimited_entry m id now with hkept | hreset
  · rwa [hkept]
  · rw [hreset]
    rintro l ⟨⟩
    exact UInt64.zero_le

/-- A device that passes the check at `t` is not locked from then on. -/
theorem unlockedFrom_of_check (h : (m.isRateLimited id t).1 = false) :
    UnlockedFrom t (m.rateLimits id) := by
  intro l hl
  by_contra hlocked
  rw [UInt64.not_le] at hlocked
  unfold AuthenticationManager.isRateLimited at h
  rw [hl] at h
  dsimp only at h
  rw [if_pos hlocked] at h
  cases h

end Unlocked

/-! ### Pending challenges -/

/-- The challenge waits in the slot of the device, which is not locked out from `t` on. -/
structure Pending (d : DeviceId) (ch : ActiveChallenge) (t : UInt64) (s : AuthState) : Prop where
  slot : s.manager.activeChallenges (deviceIdToString d) = some ch
  unlocked : UnlockedFrom t (s.manager.rateLimits (deviceIdToString d))

/-- A request that issues a challenge leaves it pending. -/
theorem pending_of_issues {s : AuthState} {e : AuthEvent} {d : DeviceId} {sessionId : UInt64}
    {nonce : ByteArr 32} {t : UInt64} (h : Issues (authMachine.entry s e) d sessionId nonce t) :
    Pending d ⟨d, sessionId, nonce, t, false⟩ t (authMachine.step s e).1 := by
  obtain ⟨hdr, out, env, reply, he, hout, hsucc, rfl, hnonce, rfl, -⟩ := h
  change e = .authRequest d hdr out env at he
  subst he
  have hreply : (handleAuthRequest s.manager s.registry d hdr out env).2 = reply :=
    Option.some.inj hout
  show Pending d ⟨d, s.manager.sessionCounter, nonce, env.now, false⟩ env.now
    ⟨(handleAuthRequest s.manager s.registry d hdr out env).1, s.registry⟩
  have hcase := handleAuthRequest_case s.manager s.registry d hdr out env
  generalize handleAuthRequest s.manager s.registry d hdr out env = res at hcase hreply ⊢
  subst hreply
  cases hcase with
  | limited h => cases hsucc
  | refused h r hr => exact absurd hsucc (lookupDevice_error_ne hr).1
  | noNonce h hn => cases hsucc
  | issued h record hr nonce' hn m' hslots hlimits =>
    rw [hnonce] at hn
    cases hn
    -- The new challenge is in the slot, and the check that came before found no lock.
    refine ⟨?_, ?_⟩
    · exact setChallenge_activeChallenges m' _ _
    · show UnlockedFrom env.now (m'.rateLimits (deviceIdToString d))
      rw [hlimits]
      exact (unlockedFrom_of_check h).check env.now

/-- What leaves a waiting challenge of `d` alone: no request for `d` that is answered with a
challenge, and no response that names `d`. -/
def LeavesChallenge (d : DeviceId) (s : AuthState) (e : AuthEvent) : Prop :=
  ¬ RequestSucceeds (authMachine.entry s e) d ∧
    ∀ hdr payload env, e = .authResponse hdr payload env → namedDevice payload ≠ some d

/-- A request for the device that issues nothing keeps its challenge. -/
theorem pending_refused {d : DeviceId} {ch : ActiveChallenge} {t : UInt64} {s : AuthState}
    (hp : Pending d ch t s) {hdr out : FrameHeader} {env : RequestEnv}
    (hrefused : (handleAuthRequest s.manager s.registry d hdr out env).2.result ≠ .SUCCESS) :
    Pending d ch t ⟨(handleAuthRequest s.manager s.registry d hdr out env).1, s.registry⟩ := by
  have hcase := handleAuthRequest_case s.manager s.registry d hdr out env
  generalize handleAuthRequest s.manager s.registry d hdr out env = res at hcase hrefused ⊢
  have hslot := hp.slot
  cases hcase with
  | limited h => exact hp
  | refused h r hr =>
    refine ⟨?_, hp.unlocked.check env.now⟩
    show (s.manager.isRateLimited _ _).2.activeChallenges _ = _
    rw [isRateLimited_activeChallenges, hslot]
  | noNonce h hn =>
    refine ⟨?_, hp.unlocked.check env.now⟩
    show (s.manager.isRateLimited _ _).2.activeChallenges _ = _
    rw [isRateLimited_activeChallenges, hslot]
  | issued h record hr nonce hn m' hslots hlimits => exact absurd rfl hrefused

/-- Every frame that leaves the challenge alone leaves it pending. -/
theorem pending_step {d : DeviceId} {ch : ActiveChallenge} {t : UInt64} (s : AuthState)
    (e : AuthEvent) (hp : Pending d ch t s) (he : LeavesChallenge d s e) :
    Pending d ch t (authMachine.step s e).1 := by
  -- a step of another device leaves slot and entry of `d` as they are
  have hother : AgreeOn d s (authMachine.step s e).1 → Pending d ch t (authMachine.step s e).1 := by
    intro hagree
    refine ⟨?_, ?_⟩
    · rw [← hagree.entry.challenge]
      exact hp.slot
    · rw [← hagree.entry.limit]
      exact hp.unlocked
  cases e with
  | authRequest d' hdr out env =>
    by_cases hd : d = d'
    · subst hd
      refine pending_refused hp fun hsucc => he.1 ?_
      exact ⟨hdr, out, env, _, rfl, rfl, hsucc⟩
    · exact hother (agreeOn_authRequest hd s hdr out env)
  | authResponse hdr payload env =>
    exact hother (agreeOn_authResponse (he.2 hdr payload env rfl) s hdr env)
  | setServerIdentity serverId => exact ⟨hp.slot, hp.unlocked⟩
  | registryChange reg => exact ⟨hp.slot, hp.unlocked⟩

/-- So does every run of such frames. -/
theorem pending_run {d : DeviceId} {ch : ActiveChallenge} {t : UInt64} {s : AuthState}
    (hp : Pending d ch t s) {es : List AuthEvent}
    (hes : authMachine.Along (LeavesChallenge d) s es) :
    Pending d ch t (authMachine.run s es) :=
  authMachine.invariant pending_step hp hes

/-! ### The answer -/

/-- A challenge is fresh for thirty seconds. -/
theorem challengeExpired_of_fresh {ch : ActiveChallenge} {now : UInt64}
    (hle : ch.createdAtMs.toNat ≤ now.toNat) (hage : now.toNat ≤ ch.createdAtMs.toNat + 30000) :
    challengeExpired ch now = false := by
  have hsub : (now - ch.createdAtMs).toNat = now.toNat - ch.createdAtMs.toNat :=
    UInt64.toNat_sub_of_le _ _ (by rwa [UInt64.le_iff_toNat_le])
  have httl : (CHALLENGE_TTL_SECONDS * 1000).toNat = 30000 := by decide
  simp only [challengeExpired, Bool.or_eq_false_iff, decide_eq_false_iff_not,
    UInt64.lt_iff_toNat_lt, gt_iff_lt, hsub, httl]
  omega

theorem step_authResponse (s : AuthState) (hdr : FrameHeader) (payload : Bytes)
    (env : ResponseEnv) :
    authMachine.step s (.authResponse hdr payload env)
      = (⟨(handleAuthResponse s.manager s.registry hdr payload env).1,
          (handleAuthResponse s.manager s.registry hdr payload env).2.1⟩,
        some (handleAuthResponse s.manager s.registry hdr payload env).2.2) := rfl

/-- A correctly signed answer to a pending challenge succeeds. -/
theorem pending_accepts {ch : ActiveChallenge} {s : AuthState} {msg : SignedMessage}
    (hp : Pending msg.deviceIdentity ch ch.createdAtMs s) (hfresh : ch.isConsumed = false)
    {payload : Bytes} (hparse : parseAuthResponse payload = .ok msg)
    (hsession : msg.sessionID = ch.sessionId) (hnonce : msg.nonce = ch.nonce)
    {env : ResponseEnv} (hle : ch.createdAtMs.toNat ≤ env.now.toNat)
    (hage : env.now.toNat ≤ ch.createdAtMs.toNat + 30000) {record : DeviceRecord}
    (hrecord : lookupDevice env.access s.registry (deviceIdToString msg.deviceIdentity)
      = .ok record)
    (hsig : verifyCanonicalSignedMessage env.cng record.publicKey msg
      (payload.drop CANONICAL_SIGNED_MESSAGE_SIZE) = true) (hdr : FrameHeader) :
    (authMachine.step s (.authResponse hdr payload env)).2
      = some (successReply hdr record.accountSid) := by
  have hlimited : (s.manager.isRateLimited (deviceIdToString msg.deviceIdentity) env.now).1
      = false := hp.unlocked.isRateLimited (by rwa [UInt64.le_iff_toNat_le])
  have hexpired := challengeExpired_of_fresh hle hage
  have hanswer : (answerChallenge
      (s.manager.isRateLimited (deviceIdToString msg.deviceIdentity) env.now).2
      (deviceIdToString msg.deviceIdentity) env.now env.cng record.publicKey msg
      (payload.drop CANONICAL_SIGNED_MESSAGE_SIZE)).2 = none := by
    simp [answerChallenge, hp.slot, hfresh, hexpired, hsession, hnonce, hsig]
  rw [step_authResponse, handleAuthResponse_accepted _ _ _ _ _ hparse hlimited hrecord hanswer]

/-- A response to a challenge that has been consumed does not succeed. -/
theorem consumed_refused {s : AuthState} {payload : Bytes} {msg : SignedMessage}
    {ch : ActiveChallenge} (hparse : parseAuthResponse payload = .ok msg)
    (hslot : s.manager.activeChallenges (deviceIdToString msg.deviceIdentity) = some ch)
    (hconsumed : ch.isConsumed = true) (hdr : FrameHeader) (env : ResponseEnv) :
    (authMachine.step s (.authResponse hdr payload env)).2.map AuthReply.result
      ≠ some .SUCCESS := by
  intro hsuccess
  have hsucceeds : ResponseSucceeds (authMachine.entry s (.authResponse hdr payload env)) payload
      env.now := ⟨hdr, env, _, rfl, rfl, rfl, Option.some.inj hsuccess⟩
  obtain ⟨msg', ch', hparse', hslot', hfresh, -⟩ := responseSucceeds_slot hsucceeds
  rw [hparse] at hparse'
  cases hparse'
  rw [hslot] at hslot'
  cases hslot'
  rw [hconsumed] at hfresh
  cases hfresh

/-- An honest unlock is not spoiled by the frames that leave its challenge alone. A request issues
a challenge to `d`. Then come any frames of any clients, but no request for `d` that is answered
with another challenge, and no well-formed response that names `d`. Within thirty seconds comes a
response to the challenge that is correctly signed, while the record of `d` is active. It
succeeds. -/
theorem unlock_not_spoiled (s : AuthState) (e : AuthEvent) (d : DeviceId) (sessionId : UInt64)
    (nonce : ByteArr 32) (t : UInt64) (hissued : Issues (authMachine.entry s e) d sessionId nonce t)
    (es : List AuthEvent)
    (hes : authMachine.Along (LeavesChallenge d) (authMachine.step s e).1 es)
    (hdr : FrameHeader) (payload : Bytes) (env : ResponseEnv) (msg : SignedMessage)
    (hparse : parseAuthResponse payload = .ok msg) (hdevice : msg.deviceIdentity = d)
    (hsession : msg.sessionID = sessionId) (hnonce : msg.nonce = nonce)
    (hle : t.toNat ≤ env.now.toNat) (hage : env.now.toNat ≤ t.toNat + 30000)
    (record : DeviceRecord)
    (hrecord : lookupDevice env.access (authMachine.run s (e :: es)).registry (deviceIdToString d)
      = .ok record)
    (hsig : verifyCanonicalSignedMessage env.cng record.publicKey msg
      (payload.drop CANONICAL_SIGNED_MESSAGE_SIZE) = true) :
    (authMachine.step (authMachine.run s (e :: es)) (.authResponse hdr payload env)).2
      = some (successReply hdr record.accountSid) := by
  subst hdevice
  have hpending := pending_run (pending_of_issues hissued) hes
  exact pending_accepts hpending rfl hparse hsession hnonce hle hage hrecord hsig hdr

/-! ### A phone among other clients -/

/-- A request that names the phone, at a time, and a nonce of one repeated byte. -/
def phoneRequest (t : UInt64) (b : UInt8) : AuthEvent :=
  .authRequest phoneId {} {} ⟨t, RegAccess.ok, some (List.Vector.replicate 32 b)⟩

/-- The 152 bytes with which the phone answers its first challenge. -/
def phoneAnswer : Bytes := serializeSignedMessage (phoneMessage .AUTH_RESPONSE) ++ authSignature

theorem parse_phoneAnswer : parseAuthResponse phoneAnswer = .ok (phoneMessage .AUTH_RESPONSE) :=
  parseAuthResponse_serialize rfl (by decide) rfl

theorem phoneAnswer_valid :
    verifyCanonicalSignedMessage phoneCng phoneKey (phoneMessage .AUTH_RESPONSE)
      (phoneAnswer.drop CANONICAL_SIGNED_MESSAGE_SIZE) = true := by
  rw [phoneAnswer, List.drop_left' (length_serializeSignedMessage _)]
  exact authSignature_valid

/-- The service starts and issues its first challenge to the phone. -/
theorem issues_phoneRequest :
    Issues (authMachine.entry { registry := phoneRegistry } (phoneRequest 1000 7)) phoneId 1
      (List.Vector.replicate 32 7) 1000 :=
  ⟨{}, {}, _, _, rfl, rfl, by decide +kernel, rfl, rfl, rfl, by decide +kernel⟩

/-- Another device asks and somebody sends garbage, and the phone is let in. -/
theorem unlock_not_spoiled_twoClients :
    ∃ record, lookupDevice RegAccess.ok phoneRegistry (deviceIdToString phoneId) = .ok record ∧
      (authMachine.step (authMachine.run { registry := phoneRegistry }
          [phoneRequest 1000 7, .authRequest otherDeviceId {} {} ⟨1200, RegAccess.ok, none⟩,
            .authResponse {} [1, 2, 3] phoneEnv])
        (.authResponse {} phoneAnswer phoneEnv)).2 = some (successReply {} record.accountSid) := by
  obtain ⟨record, hlookup, hkey⟩ := lookupDevice_phone
  refine ⟨record, hlookup, ?_⟩
  refine unlock_not_spoiled _ _ phoneId 1 (List.Vector.replicate 32 7) 1000 issues_phoneRequest
    [.authRequest otherDeviceId {} {} ⟨1200, RegAccess.ok, none⟩,
      .authResponse {} [1, 2, 3] phoneEnv]
    ⟨⟨?_, ?_⟩, ⟨?_, ?_⟩, trivial⟩ {} phoneAnswer phoneEnv _ parse_phoneAnswer rfl rfl rfl
    (by decide) (by decide) record ?_ ?_
  · rintro ⟨hdr, out, env, reply, he, -⟩
    cases he
  · rintro hdr payload env ⟨⟩
  · rintro ⟨hdr, out, env, reply, he, -⟩
    cases he
  · rintro hdr payload env ⟨⟩
    decide
  · exact hlookup
  · rw [hkey]
    exact phoneAnswer_valid

/-- A message that names the phone and answers no challenge. -/
def forgedMessage : SignedMessage :=
  { phoneMessage .AUTH_RESPONSE with sessionID := 0, nonce := List.Vector.replicate 32 0 }

/-- What anybody can send: the forged message and a signature of zeros. -/
def forgedAnswer : Bytes := serializeSignedMessage forgedMessage ++ List.replicate 64 0

/-- The forged answer costs the phone its challenge. -/
theorem forged_step :
    ∃ m : AuthenticationManager,
      authMachine.run { registry := phoneRegistry }
        [phoneRequest 1000 7, .authResponse {} forgedAnswer phoneEnv] = ⟨m, phoneRegistry⟩ ∧
      m.activeChallenges (deviceIdToString phoneId)
        = some ⟨phoneId, 1, List.Vector.replicate 32 7, 1000, true⟩ := by
  obtain ⟨record, hlookup, -⟩ := lookupDevice_phone
  have hpending := pending_of_issues issues_phoneRequest
  have hregistry : (authMachine.step { registry := phoneRegistry } (phoneRequest 1000 7)).1.registry
      = phoneRegistry := rfl
  generalize hs : (authMachine.step { registry := phoneRegistry } (phoneRequest 1000 7)).1 = s
    at hpending hregistry
  have hparse : parseAuthResponse forgedAnswer = .ok forgedMessage :=
    parseAuthResponse_serialize rfl (by decide) (by decide)
  have hlimited : (s.manager.isRateLimited (deviceIdToString phoneId) 2000).1 = false :=
    hpending.unlocked.isRateLimited (by decide)
  -- The forged message guesses a wrong session id. That is enough to consume the challenge.
  have hanswer : answerChallenge (s.manager.isRateLimited (deviceIdToString phoneId) 2000).2
      (deviceIdToString phoneId) 2000 phoneCng record.publicKey forgedMessage
      (forgedAnswer.drop CANONICAL_SIGNED_MESSAGE_SIZE)
      = ((s.manager.isRateLimited (deviceIdToString phoneId) 2000).2.consumeChallenge
          (deviceIdToString phoneId) ⟨phoneId, 1, List.Vector.replicate 32 7, 1000, false⟩,
        some ⟨.CHALLENGE_MISMATCH, "SESSION_ID_MISMATCH"⟩) := by
    have hexpired : challengeExpired ⟨phoneId, 1, List.Vector.replicate 32 7, 1000, false⟩ 2000
        = false := by decide
    have hsession : forgedMessage.sessionID ≠ 1 := by decide
    simp only [answerChallenge, isRateLimited_activeChallenges, hpending.slot, hexpired,
      Bool.false_eq_true, if_false, if_pos hsession]
  have hstep : handleAuthResponse s.manager s.registry {} forgedAnswer phoneEnv = _ :=
    handleAuthResponse_failed s.manager s.registry {} forgedAnswer phoneEnv hparse hlimited
      (by rw [hregistry]; exact hlookup) hanswer
  refine ⟨(handleAuthResponse s.manager s.registry {} forgedAnswer phoneEnv).1, ?_, ?_⟩
  · rw [Machine.run_cons, hs, Machine.run_cons, Machine.run_nil, step_authResponse, hstep,
      hregistry]
  · rw [hstep]
    exact consumeChallenge_activeChallenges
      (s.manager.isRateLimited (deviceIdToString phoneId) 2000).2 (deviceIdToString phoneId)
      ⟨phoneId, 1, List.Vector.replicate 32 7, 1000, false⟩

/-- The phone gets a challenge and answers it correctly a second later, and its record is active
all the time. When somebody else has sent a request that names the phone in between, the answer is
a mismatch. When somebody else has sent a response that names the phone, with a signature that is
not valid, the answer does not succeed either. -/
theorem unlock_spoiled :
    Issues (authMachine.entry { registry := phoneRegistry } (phoneRequest 1000 7)) phoneId 1
        (List.Vector.replicate 32 7) 1000 ∧
      parseAuthResponse phoneAnswer = .ok (phoneMessage .AUTH_RESPONSE) ∧
      verifyCanonicalSignedMessage phoneCng phoneKey (phoneMessage .AUTH_RESPONSE)
        (phoneAnswer.drop CANONICAL_SIGNED_MESSAGE_SIZE) = true ∧
      (∃ record, lookupDevice RegAccess.ok phoneRegistry (deviceIdToString phoneId) = .ok record ∧
        record.publicKey = phoneKey) ∧
      (authMachine.run { registry := phoneRegistry }
        [phoneRequest 1000 7, phoneRequest 1500 8]).registry = phoneRegistry ∧
      (authMachine.step (authMachine.run { registry := phoneRegistry }
          [phoneRequest 1000 7, phoneRequest 1500 8])
        (.authResponse {} phoneAnswer phoneEnv)).2.map AuthReply.result
          = some .CHALLENGE_MISMATCH ∧
      verifyCanonicalSignedMessage phoneCng phoneKey forgedMessage (List.replicate 64 0) = false ∧
      (authMachine.run { registry := phoneRegistry }
        [phoneRequest 1000 7, .authResponse {} forgedAnswer phoneEnv]).registry = phoneRegistry ∧
      (authMachine.step (authMachine.run { registry := phoneRegistry }
          [phoneRequest 1000 7, .authResponse {} forgedAnswer phoneEnv])
        (.authResponse {} phoneAnswer phoneEnv)).2.map AuthReply.result ≠ some .SUCCESS := by
  obtain ⟨record, hlookup, hkey⟩ := lookupDevice_phone
  obtain ⟨m, hrun, hslot⟩ := forged_step
  refine ⟨issues_phoneRequest, parse_phoneAnswer, phoneAnswer_valid, ⟨record, hlookup, hkey⟩,
    rfl, ?_, ?_, ?_, ?_⟩
  · decide +kernel
  · decide +kernel
  · rw [hrun]
  · rw [hrun]
    exact consumed_refused parse_phoneAnswer hslot rfl {} phoneEnv

end MobileUnlock.Authentication
