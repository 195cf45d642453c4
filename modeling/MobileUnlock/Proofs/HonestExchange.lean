import MobileUnlock.Proofs.PhoneChallenge
import MobileUnlock.Proofs.ResponseAcceptance

/-!
# `MobileUnlock.Proofs.HonestExchange`: an honest phone gets in

The whole exchange, over both ends. The service issues a challenge as a JSON text, the phone
decodes it, builds the canonical message and signs it, and the service reads the 152 bytes back,
serializes the message again and verifies the signature. `honest_exchange_succeeds` puts the
pieces together: the codecs of the phone (`PhoneChallenge`), and the challenge that waits in its
slot (`PendingChallenge`).
-/

set_option autoImplicit false

namespace MobileUnlock.Authentication

open MobileUnlock.Lib MobileUnlock.Lib.Win32 MobileUnlock.Protocol MobileUnlock.Crypto
open MobileUnlock.Pairing MobileUnlock.Lsa MobileUnlock.Android
open AuthenticationManager

/-- A request that succeeds has issued a challenge. -/
theorem issues_of_success {s : AuthState} {d : DeviceId} {hdr out : FrameHeader} {env : RequestEnv}
    {reply : AuthReply}
    (hreply : (authMachine.step s (.authRequest d hdr out env)).2 = some reply)
    (hsucc : reply.result = .SUCCESS) :
    ∃ nonce, Issues (authMachine.entry s (.authRequest d hdr out env)) d s.manager.sessionCounter
        nonce env.now ∧
      reply.payload = challengePayload s.manager.serverIdentity
        ⟨d, s.manager.sessionCounter, nonce, env.now, false⟩ := by
  have hresult : (handleAuthRequest s.manager s.registry d hdr out env).2 = reply :=
    Option.some.inj hreply
  have hcase := handleAuthRequest_case s.manager s.registry d hdr out env
  generalize handleAuthRequest s.manager s.registry d hdr out env = res at hcase hresult
  subst hresult
  cases hcase with
  | limited h => cases hsucc
  | refused h r hr => exact absurd hsucc (lookupDevice_error_ne hr).1
  | noNonce h hn => cases hsucc
  | issued h record hr nonce hn m' hslots hlimits =>
    exact ⟨nonce, ⟨hdr, out, env, _, rfl, hreply, rfl, rfl, hn, rfl, rfl⟩, rfl⟩

/-! ### In between -/

/-- What may happen between challenge and answer: nothing that names `d`, and no change of its
record. -/
def Undisturbed (d : DeviceId) (s : AuthState) : AuthEvent → Prop
  | .authRequest d' _ _ _ => d' ≠ d
  | .authResponse _ payload _ => namedDevice payload ≠ some d
  | .setServerIdentity _ => True
  | .registryChange reg => SameRecord d s.registry reg

theorem Undisturbed.leavesChallenge {d : DeviceId} (s : AuthState) (e : AuthEvent)
    (h : Undisturbed d s e) : LeavesChallenge d s e := by
  constructor
  · rintro ⟨hdr, out, env, reply, he, -⟩
    change e = .authRequest d hdr out env at he
    subst he
    exact h rfl
  · rintro hdr payload env rfl
    exact h

/-- The record of `d` stays as it is. -/
theorem Undisturbed.sameRecord {d : DeviceId} (s : AuthState) (e : AuthEvent)
    (h : Undisturbed d s e) : SameRecord d s.registry (authMachine.step s e).1.registry := by
  cases e with
  | authRequest d' hdr out env => exact (agreeOn_authRequest (Ne.symm h) s hdr out env).record
  | authResponse hdr payload env => exact (agreeOn_authResponse h s hdr env).record
  | setServerIdentity serverId => exact rfl
  | registryChange reg => exact h

theorem sameRecord_run {d : DeviceId} {s : AuthState} {es : List AuthEvent}
    (hes : authMachine.Along (Undisturbed d) s es) :
    SameRecord d s.registry (authMachine.run s es).registry := by
  refine authMachine.invariant (P := fun s' => SameRecord d s.registry s'.registry) ?_ rfl hes
  intro s' e hs' he
  exact hs'.trans (Undisturbed.sameRecord s' e he)

/-! ### The exchange -/

/-- An honest exchange succeeds. The service answers a request of `d` with a challenge at a time
and with a session id below `2 ^ 63`. The phone decodes it, builds the 88 bytes and signs them.
When the signature is one that the oracle accepts for the key of `d`, and nothing that names `d`
comes in between, the service answers the 152 bytes of the phone with SUCCESS and the account of
the record at any time within the next thirty seconds. -/
theorem honest_exchange_succeeds (s : AuthState) (d : DeviceId) (hdr out : FrameHeader)
    (env : RequestEnv) (reply : AuthReply)
    (hreply : (authMachine.step s (.authRequest d hdr out env)).2 = some reply)
    (hissued : reply.result = .SUCCESS)
    (hsession : s.manager.sessionCounter.toNat < 2 ^ 63) (htime : env.now.toNat < 2 ^ 63)
    (es : List AuthEvent)
    (hes : authMachine.Along (Undisturbed d) (authMachine.step s (.authRequest d hdr out env)).1 es)
    (renv : ResponseEnv) (hle : env.now.toNat ≤ renv.now.toNat)
    (hage : renv.now.toNat ≤ env.now.toNat + 30000) (record : DeviceRecord)
    (hrecord : lookupDevice renv.access s.registry (deviceIdToString d) = .ok record)
    (hKey : Nat) (himport : importPublicKey renv.cng record.publicKey = some hKey)
    (hkey : hKey ≠ 0) (requestID : UInt32) (rhdr : FrameHeader) :
    ∃ challenge canonicalBytes,
      decodeChallenge reply.payload = .ok challenge ∧
      buildCanonicalSignedMessage challenge.serverIdentity d.toList requestID.toNat
        challenge.sessionId challenge.nonce challenge.timestamp = .ok canonicalBytes ∧
      canonicalBytes.length = 88 ∧
      ∀ (sign : Bytes → Except SigningError Bytes) (signature digest : Bytes),
        sign canonicalBytes = .ok signature → signature.length = 64 →
        (slice 0 32 signature).any (· ≠ 0) = true → (slice 32 32 signature).any (· ≠ 0) = true →
        renv.cng.sha256 canonicalBytes = some digest →
        renv.cng.verifySignature hKey digest signature = true →
        ∃ payload, signAuthChallenge sign challenge d.toList requestID.toNat = .ok payload ∧
          payload = canonicalBytes ++ signature ∧ payload.length = 152 ∧
          (authMachine.step (authMachine.run s (.authRequest d hdr out env :: es))
              (.authResponse rhdr payload renv)).2
            = some (successReply rhdr record.accountSid) := by
  obtain ⟨nonce, hissues, hpayload⟩ := issues_of_success hreply hissued
  generalize hch : ActiveChallenge.mk d s.manager.sessionCounter nonce env.now false = ch
    at hpayload
  have hsession' : ch.sessionId.toNat < 2 ^ 63 := by
    rw [← hch]
    exact hsession
  have htime' : ch.createdAtMs.toNat < 2 ^ 63 := by
    rw [← hch]
    exact htime
  have hdevice : ch.deviceId = d := by rw [← hch]
  -- what the phone reads and builds
  have hdecode := decodeChallenge_challengePayload s.manager.serverIdentity hsession' htime'
  rw [← hpayload] at hdecode
  generalize hmsg : answerMessage s.manager.serverIdentity ch requestID = msg
  generalize hchallenge : AuthChallenge.mk _ _ _ _ = challenge at hdecode
  have hbuild : buildCanonicalSignedMessage challenge.serverIdentity d.toList requestID.toNat
      challenge.sessionId challenge.nonce challenge.timestamp =
        .ok (serializeSignedMessage msg) := by
    rw [← hchallenge, ← hmsg, ← hdevice]
    exact buildCanonicalSignedMessage_eq s.manager.serverIdentity hsession' htime' requestID
  have hlen : (serializeSignedMessage msg).length = 88 := length_serializeSignedMessage msg
  refine ⟨challenge, serializeSignedMessage msg, hdecode, hbuild, hlen, ?_⟩
  intro sign signature digest hsign hsiglen hr hs hdigest hverify
  have hsigned := signAuthChallenge_eq hbuild hlen hsign hsiglen
  refine ⟨_, hsigned, rfl, ?_, ?_⟩
  · rw [List.length_append, hlen, hsiglen]
  · -- what the service makes of it
    have hparse : parseAuthResponse (serializeSignedMessage msg ++ signature) = .ok msg := by
      have hop : isValidMessageType MessageType.AUTH_RESPONSE.code = true := by decide
      subst hmsg
      exact parseAuthResponse_serialize rfl hop hsiglen
    have hpending : Pending msg.deviceIdentity ch ch.createdAtMs
        (authMachine.run s (.authRequest d hdr out env :: es)) := by
      subst hmsg hch
      exact pending_run (pending_of_issues hissues)
        (authMachine.along_mono Undisturbed.leavesChallenge hes)
    have hrecord' : lookupDevice renv.access
        (authMachine.run s (.authRequest d hdr out env :: es)).registry
        (deviceIdToString msg.deviceIdentity) = .ok record := by
      have hsame : SameRecord d s.registry
          (authMachine.run s (.authRequest d hdr out env :: es)).registry := by
        exact @sameRecord_run d (authMachine.step s (.authRequest d hdr out env)).1 es hes
      rw [← hmsg]
      show lookupDevice _ _ (deviceIdToString ch.deviceId) = _
      rw [hdevice, ← lookupDevice_congr hsame, hrecord]
    have hsig : verifyCanonicalSignedMessage renv.cng record.publicKey msg
        ((serializeSignedMessage msg ++ signature).drop CANONICAL_SIGNED_MESSAGE_SIZE) = true := by
      rw [List.drop_left' (length_serializeSignedMessage msg)]
      exact (verifyCanonicalSignedMessage_iff hsiglen).mpr
        ⟨hKey, digest, himport, hkey, by simpa using hr, by simpa using hs, hdigest, hverify⟩
    have hfields : msg.sessionID = ch.sessionId ∧ msg.nonce = ch.nonce := by
      subst hmsg
      exact ⟨rfl, rfl⟩
    refine pending_accepts hpending (by rw [← hch]) hparse hfields.1 hfields.2 ?_ ?_ hrecord' hsig
      rhdr
    · rw [← hch]
      exact hle
    · rw [← hch]
      exact hage

/-- The phone asks the service, which has just started, another device asks, and the phone
answers. -/
theorem honest_exchange_succeeds_onePhone :
    ∃ (record : DeviceRecord) (challenge : AuthChallenge),
      decodeChallenge (challengePayload (List.Vector.replicate 16 0xAA)
        ⟨phoneId, 1, List.Vector.replicate 32 7, 1000, false⟩) = .ok challenge ∧
      signAuthChallenge (fun _ => .ok authSignature) challenge phoneId.toList 1
        = .ok phoneAnswer ∧
      (authMachine.step (authMachine.run { registry := phoneRegistry }
          [phoneRequest 1000 7, .authRequest otherDeviceId {} {} ⟨1200, RegAccess.ok, none⟩])
        (.authResponse {} phoneAnswer phoneEnv)).2 = some (successReply {} record.accountSid) := by
  obtain ⟨record, hlookup, hkey⟩ := lookupDevice_phone
  have himport : importPublicKey phoneCng record.publicKey = some 1 := by
    rw [hkey]
    decide +kernel
  have hother : otherDeviceId ≠ phoneId := by decide
  have hdigest : phoneCng.sha256 (serializeSignedMessage (phoneMessage .AUTH_RESPONSE))
      = some authDigest := by decide +kernel
  have hverify : phoneCng.verifySignature 1 authDigest authSignature = true := by decide +kernel
  obtain ⟨challenge, canonicalBytes, hdecode, hbuild, -, hanswer⟩ :=
    honest_exchange_succeeds { registry := phoneRegistry } phoneId {} {}
      ⟨1000, RegAccess.ok, some (List.Vector.replicate 32 7)⟩
      (challengeReply {} (challengePayload (List.Vector.replicate 16 0xAA)
        ⟨phoneId, 1, List.Vector.replicate 32 7, 1000, false⟩)) rfl rfl (by decide)
      (by decide) [.authRequest otherDeviceId {} {} ⟨1200, RegAccess.ok, none⟩] ⟨hother, trivial⟩
      phoneEnv (by decide) (by decide) record hlookup 1 himport (by decide) 1 {}
  -- the message that the phone has built is the one that its signature is for
  have hbytes : canonicalBytes = serializeSignedMessage (phoneMessage .AUTH_RESPONSE) := by
    have hchallenge := @decodeChallenge_challengePayload (List.Vector.replicate 16 0xAA)
      ⟨phoneId, 1, List.Vector.replicate 32 7, 1000, false⟩ (by decide) (by decide)
    rw [challengeReply_payload, hchallenge] at hdecode
    cases hdecode
    have hmessage := @buildCanonicalSignedMessage_eq (List.Vector.replicate 16 0xAA)
      ⟨phoneId, 1, List.Vector.replicate 32 7, 1000, false⟩ (by decide) (by decide) 1
    exact Except.ok.inj (hbuild.symm.trans hmessage)
  rw [hbytes] at hanswer
  obtain ⟨payload, hsigned, rfl, -, hstep⟩ := hanswer (fun _ => .ok authSignature) authSignature
    authDigest rfl rfl (by decide) (by decide) hdigest hverify
  rw [challengeReply_payload] at hdecode
  refine ⟨record, challenge, hdecode, ?_, ?_⟩
  · rw [phoneAnswer]
    exact hsigned
  · rw [phoneAnswer, phoneRequest]
    exact hstep

end MobileUnlock.Authentication
