import MobileUnlock.Proofs.ResponseAcceptance

/-!
# `MobileUnlock.Proofs.ResponseContext`: what an accepted answer was signed for

A signed message says for which operation and for which PC it was made. `handleAuthResponse`
compares the session id and the nonce with the open challenge, and looks at neither of the two
other fields. So an answer signed for LOCK_REQUEST, or for another PC, is accepted
(`response_unbound`).

`ContextBound` is what an acceptance should mean: the message was made for AUTH_RESPONSE, and for
the identity that was sent in the challenge it answers. `response_bound` proves it for every run
in which the phones sign nothing else over an open challenge and the identity of the PC does not
change while a challenge is open.
-/

set_option autoImplicit false

namespace MobileUnlock.Authentication

open MobileUnlock.Lib MobileUnlock.Lib.Win32 MobileUnlock.Protocol MobileUnlock.Crypto
open MobileUnlock.Pairing MobileUnlock.Lsa
open AuthenticationManager

/-- The payload was signed for AUTH_RESPONSE, and for the identity that was sent in the challenge
of the latest successful request for its device. -/
def ContextBound (tr : List AuthStep) (payload : Bytes) : Prop :=
  ∃ msg createdAt pre y post reply, parseAuthResponse payload = .ok msg ∧
    tr = pre ++ y :: post ∧
    Issues y msg.deviceIdentity msg.sessionID msg.nonce createdAt ∧
    (∀ z ∈ post, ¬ RequestSucceeds z msg.deviceIdentity) ∧
    msg.operation = MessageType.AUTH_RESPONSE.code ∧
    y.output = some reply ∧
    reply.payload = challengePayload msg.serverIdentity
      ⟨msg.deviceIdentity, msg.sessionID, msg.nonce, createdAt, false⟩

/-- The payload is a valid signature of its device over the challenge that is open for it. -/
def SignsOpenChallenge (s : AuthState) (payload : Bytes) (env : ResponseEnv)
    (msg : SignedMessage) : Prop :=
  parseAuthResponse payload = .ok msg ∧
    ∃ record ch, lookupDevice env.access s.registry (deviceIdToString msg.deviceIdentity)
        = .ok record ∧
      s.manager.activeChallenges (deviceIdToString msg.deviceIdentity) = some ch ∧
      ch.isConsumed = false ∧ msg.sessionID = ch.sessionId ∧ msg.nonce = ch.nonce ∧
      verifyCanonicalSignedMessage env.cng record.publicKey msg
        (payload.drop CANONICAL_SIGNED_MESSAGE_SIZE) = true

/-- What the handler leaves to the others. Whoever holds the key of a device signs an open
challenge for AUTH_RESPONSE and for the identity of this PC only, and the identity does not change
while a challenge is open. -/
def ContextKept (s : AuthState) : AuthEvent → Prop
  | .authRequest _ _ _ _ => True
  | .authResponse _ payload env => ∀ msg, SignsOpenChallenge s payload env msg →
      msg.operation = MessageType.AUTH_RESPONSE.code ∧
        msg.serverIdentity = s.manager.serverIdentity
  | .setServerIdentity serverId => serverId = s.manager.serverIdentity ∨
      ∀ d ch, s.manager.activeChallenges (deviceIdToString d) = some ch → ch.isConsumed = true
  | .registryChange _ => True

/-! ### The identity of the PC -/

theorem handleAuthRequest_serverIdentity (m : AuthenticationManager) (reg : Registry)
    (d : DeviceId) (hdr out : FrameHeader) (env : RequestEnv) :
    (handleAuthRequest m reg d hdr out env).1.serverIdentity = m.serverIdentity := by
  unfold handleAuthRequest
  dsimp only
  split
  · exact isRateLimited_serverIdentity m _ _
  · split
    · exact isRateLimited_serverIdentity m _ _
    · split
      · exact isRateLimited_serverIdentity m _ _
      · exact isRateLimited_serverIdentity m _ _

theorem handleAuthResponse_serverIdentity (m : AuthenticationManager) (reg : Registry)
    (hdr : FrameHeader) (payload : Bytes) (env : ResponseEnv) :
    (handleAuthResponse m reg hdr payload env).1.serverIdentity = m.serverIdentity := by
  have hcase := handleAuthResponse_case m reg hdr payload env
  generalize handleAuthResponse m reg hdr payload env = res at hcase ⊢
  cases hcase with
  | invalid r hp => rfl
  | limited msg hp h => rfl
  | failed msg hp h r hr m' hm' =>
    rcases hm' with rfl | ⟨ch, -, rfl⟩
    · exact isRateLimited_serverIdentity m _ _
    · exact isRateLimited_serverIdentity m _ _
  | accepted msg hp h record hr ch hslot hfresh hage hsession hnonce hsig =>
    exact isRateLimited_serverIdentity m _ _

/-- Only `SetServerIdentity` changes the identity. -/
theorem serverIdentity_step (s : AuthState) (e : AuthEvent)
    (he : ∀ serverId, e ≠ .setServerIdentity serverId) :
    (authMachine.step s e).1.manager.serverIdentity = s.manager.serverIdentity := by
  cases e with
  | authRequest d hdr out env =>
    exact handleAuthRequest_serverIdentity s.manager s.registry d hdr out env
  | authResponse hdr payload env =>
    exact handleAuthResponse_serverIdentity s.manager s.registry hdr payload env
  | setServerIdentity serverId => exact absurd rfl (he serverId)
  | registryChange reg => rfl

/-! ### Runs -/

/-- What the trace says about the open challenges: the latest successful request for the device
issued the challenge, and the PC had the identity that it still has. -/
def OpenHistory (tr : List AuthStep) (s : AuthState) : Prop :=
  ∀ d ch, s.manager.activeChallenges (deviceIdToString d) = some ch → ch.isConsumed = false →
    ∃ pre y post, tr = pre ++ y :: post ∧ Issues y d ch.sessionId ch.nonce ch.createdAtMs ∧
      (∀ z ∈ post, ¬ RequestSucceeds z d) ∧
      y.before.manager.serverIdentity = s.manager.serverIdentity

theorem openHistory_step (tr : List AuthStep) (s : AuthState) (e : AuthEvent)
    (h : OpenHistory tr s) (hC : ContextKept s e) :
    OpenHistory (tr ++ [authMachine.entry s e]) (authMachine.step s e).1 := by
  intro d ch hch hopen
  have hstep := slotStep s e d
  rw [hch] at hstep
  -- A challenge that was open before and still is: the identity has not changed.
  have hidentity : s.manager.activeChallenges (deviceIdToString d) = some ch →
      (authMachine.step s e).1.manager.serverIdentity = s.manager.serverIdentity := by
    intro hold
    by_cases he : ∃ serverId, e = .setServerIdentity serverId
    · obtain ⟨serverId, rfl⟩ := he
      rcases hC with rfl | hclosed
      · rfl
      · have hconsumed := hclosed d ch hold
        rw [hopen] at hconsumed
        cases hconsumed
    · exact serverIdentity_step s e fun serverId heq => he ⟨serverId, heq⟩
  generalize hold : s.manager.activeChallenges (deviceIdToString d) = old at hstep hidentity
  cases hstep with
  | keep _ hreq hres =>
    obtain ⟨pre, y, post, rfl, hy, hpost, hid⟩ := h d ch hold hopen
    refine ⟨pre, y, post ++ [authMachine.entry s e], by simp, hy, ?_, hid.trans ?_⟩
    · exact List.forall_mem_append.mpr ⟨hpost, List.forall_mem_singleton.mpr hreq⟩
    · exact (hidentity rfl).symm
  | issue _ sessionId nonce createdAt hissue =>
    -- The step itself issues the challenge, with the identity of the state before it.
    refine ⟨tr, _, [], rfl, hissue, by simp, ?_⟩
    obtain ⟨hdr, out, env, reply, he, -⟩ := hissue
    refine (serverIdentity_step s e ?_).symm
    rintro serverId rfl
    cases he
  | consume ch' hreq => cases hopen

theorem openHistory_run (reg : Registry) {es : List AuthEvent}
    (hC : authMachine.Along ContextKept { registry := reg } es) :
    OpenHistory (authMachine.trace { registry := reg } es)
      (authMachine.run { registry := reg } es) :=
  authMachine.history_invariant (by intro d ch h; cases h) openHistory_step hC

/-- A response that succeeds is a valid signature over the open challenge of its device. -/
theorem signsOpenChallenge_of_success {s : AuthState} {hdr : FrameHeader} {payload : Bytes}
    {env : ResponseEnv}
    (hsuccess : (handleAuthResponse s.manager s.registry hdr payload env).2.2.result = .SUCCESS) :
    ∃ msg, SignsOpenChallenge s payload env msg := by
  obtain ⟨msg, record, ch, hp, -, hr, hslot, hfresh, -, hsession, hnonce, hsig⟩ :=
    (handleAuthResponse_success_checks s.manager s.registry hdr payload env).mp hsuccess
  exact ⟨msg, hp, record, ch, hr, hslot, hfresh, hsession, hnonce, hsig⟩

/-- A success is bound to its context. In every run from the constructor state whose steps all
keep the context, every response that succeeds was signed for AUTH_RESPONSE and for the identity
that was sent in the challenge it answers. -/
theorem response_bound (reg : Registry) (es : List AuthEvent) (e : AuthEvent)
    (hC : authMachine.Along ContextKept { registry := reg } (es ++ [e])) (payload : Bytes)
    (t : UInt64)
    (h : ResponseSucceeds (authMachine.entry (authMachine.run { registry := reg } es) e)
      payload t) :
    ContextBound (authMachine.trace { registry := reg } es) payload := by
  rw [Machine.along_append] at hC
  obtain ⟨hbefore, hkept, -⟩ := hC
  have hhistory := openHistory_run reg hbefore
  generalize authMachine.run { registry := reg } es = s at h hkept hhistory
  obtain ⟨hdr, env, reply, he, -, hout, hsuccess⟩ := h
  change e = .authResponse hdr payload env at he
  subst he
  have hreply : (handleAuthResponse s.manager s.registry hdr payload env).2.2 = reply :=
    Option.some.inj hout
  rw [← hreply] at hsuccess
  obtain ⟨msg, hsigns⟩ := signsOpenChallenge_of_success hsuccess
  obtain ⟨hoperation, hidentity⟩ := hkept msg hsigns
  obtain ⟨hparse, record, ch, -, hslot, hfresh, hsession, hnonce, -⟩ := hsigns
  -- The request that opened the challenge sent the identity that the PC still has.
  obtain ⟨pre, y, post, htrace, hissues, hlatest, hsent⟩ := hhistory _ ch hslot hfresh
  rw [← hsession, ← hnonce] at hissues
  have hissued := hissues
  obtain ⟨_, _, _, sent, -, houtput, -, -, -, -, hpayload⟩ := hissued
  rw [hsent, ← hidentity] at hpayload
  exact ⟨msg, ch.createdAtMs, pre, y, post, sent, hparse, htrace, hissues, hlatest, hoperation,
    houtput, hpayload⟩

/-! ### A phone that signs for somebody else -/

/-- The answer of the phone is accepted when its challenge is the first one of the service. -/
theorem phoneAnswer_succeeds {s : AuthState}
    (hissues : Issues (authMachine.entry s (phoneRequest 1000 7)) phoneId 1
      (List.Vector.replicate 32 7) 1000) (hregistry : s.registry = phoneRegistry)
    {operation : MessageType} {signature : Bytes}
    (hop : isValidMessageType operation.code = true)
    (hlen : signature.length = P1363_SIGNATURE_SIZE)
    (hsig : verifyCanonicalSignedMessage phoneCng phoneKey (phoneMessage operation) signature
      = true) :
    ResponseSucceeds (authMachine.entry (authMachine.step s (phoneRequest 1000 7)).1
        (.authResponse {} (serializeSignedMessage (phoneMessage operation) ++ signature) phoneEnv))
      (serializeSignedMessage (phoneMessage operation) ++ signature) 2000 := by
  obtain ⟨record, hlookup, hkey⟩ := lookupDevice_phone
  have hparse : parseAuthResponse (serializeSignedMessage (phoneMessage operation) ++ signature)
      = .ok (phoneMessage operation) := parseAuthResponse_serialize rfl hop hlen
  have hafter : (authMachine.step s (phoneRequest 1000 7)).1.registry = phoneRegistry := hregistry
  have hverify : verifyCanonicalSignedMessage phoneEnv.cng record.publicKey (phoneMessage operation)
      ((serializeSignedMessage (phoneMessage operation) ++ signature).drop
        CANONICAL_SIGNED_MESSAGE_SIZE) = true := by
    rw [List.drop_left' (length_serializeSignedMessage _), hkey]
    exact hsig
  have hle : (1000 : UInt64).toNat ≤ (2000 : UInt64).toNat := by decide
  have hage : (2000 : UInt64).toNat ≤ (1000 : UInt64).toNat + 30000 := by decide
  have hrecord : lookupDevice phoneEnv.access
      (authMachine.step s (phoneRequest 1000 7)).1.registry (deviceIdToString phoneId)
      = .ok record := by
    rw [hafter]
    exact hlookup
  have hstep := @pending_accepts ⟨phoneId, 1, List.Vector.replicate 32 7, 1000, false⟩ _
    (phoneMessage operation) (pending_of_issues hissues) rfl _ hparse rfl rfl phoneEnv hle hage
    record hrecord hverify {}
  exact ⟨{}, phoneEnv, _, rfl, rfl, hstep, rfl⟩

/-- The phone answers its challenge, and the context is kept. -/
theorem response_bound_onePhone :
    ContextBound (authMachine.trace { registry := phoneRegistry } [phoneRequest 1000 7])
      phoneAnswer := by
  refine response_bound phoneRegistry [phoneRequest 1000 7] (.authResponse {} phoneAnswer phoneEnv)
    ⟨trivial, ?_, trivial⟩ phoneAnswer 2000
    (phoneAnswer_succeeds issues_phoneRequest rfl (by decide) rfl authSignature_valid)
  rintro msg ⟨hparse, -⟩
  rw [parse_phoneAnswer] at hparse
  cases hparse
  exact ⟨rfl, rfl⟩

/-- The phone answers with a message that it signed for LOCK_REQUEST. -/
def lockAnswer : Bytes := serializeSignedMessage (phoneMessage .LOCK_REQUEST) ++ lockSignature

/-- The PC gets another identity before it issues its first challenge. -/
def renamed : AuthEvent := .setServerIdentity (List.Vector.replicate 16 0xBB)

theorem issues_renamed :
    Issues (authMachine.entry (authMachine.step { registry := phoneRegistry } renamed).1
      (phoneRequest 1000 7)) phoneId 1 (List.Vector.replicate 32 7) 1000 :=
  ⟨{}, {}, _, _, rfl, rfl, by decide +kernel, rfl, rfl, rfl, by decide +kernel⟩

/-- The service accepts an answer that was signed for LOCK_REQUEST. When its identity is BB…BB, it
accepts an answer that was signed for the PC with the identity AA…AA. -/
theorem response_unbound :
    (ResponseSucceeds (authMachine.entry
          (authMachine.run { registry := phoneRegistry } [phoneRequest 1000 7])
          (.authResponse {} lockAnswer phoneEnv)) lockAnswer 2000 ∧
        ¬ ContextBound (authMachine.trace { registry := phoneRegistry } [phoneRequest 1000 7])
          lockAnswer) ∧
      ResponseSucceeds (authMachine.entry
          (authMachine.run { registry := phoneRegistry } [renamed, phoneRequest 1000 7])
          (.authResponse {} phoneAnswer phoneEnv)) phoneAnswer 2000 ∧
        ¬ ContextBound (authMachine.trace { registry := phoneRegistry }
          [renamed, phoneRequest 1000 7]) phoneAnswer := by
  refine ⟨⟨?_, ?_⟩, ?_, ?_⟩
  · exact phoneAnswer_succeeds issues_phoneRequest rfl (by decide) rfl lockSignature_valid
  · rintro ⟨msg, createdAt, pre, y, post, reply, hparse, -, -, -, hoperation, -⟩
    have hlock : parseAuthResponse lockAnswer = .ok (phoneMessage .LOCK_REQUEST) :=
      parseAuthResponse_serialize rfl (by decide) rfl
    rw [hlock] at hparse
    cases hparse
    exact absurd hoperation (by decide)
  · exact phoneAnswer_succeeds issues_renamed rfl (by decide) rfl authSignature_valid
  · rintro ⟨msg, createdAt, pre, y, post, reply, hparse, htrace, hissues, -, -, hout, hpayload⟩
    rw [parse_phoneAnswer] at hparse
    cases hparse
    -- The only request of the run sent the other identity.
    have hy : y = authMachine.entry (authMachine.step { registry := phoneRegistry } renamed).1
        (phoneRequest 1000 7) := by
      have hmem : y ∈ authMachine.trace { registry := phoneRegistry }
          [renamed, phoneRequest 1000 7] := by
        rw [htrace]
        exact List.mem_append_right pre (List.mem_cons_self)
      obtain ⟨_, _, _, _, hevent, -⟩ := hissues
      rcases List.mem_cons.mp hmem with rfl | hmem
      · cases hevent
      · exact List.mem_singleton.mp hmem
    subst hy
    obtain ⟨_, _, env, reply', hevent, hout', -, htime, -, -, hsent⟩ := hissues
    cases hevent
    rw [hout] at hout'
    cases hout'
    rw [hsent, ← htime] at hpayload
    exact absurd hpayload (by decide +kernel)

end MobileUnlock.Authentication
