import MobileUnlock.Proofs.HonestExchange
import MobileUnlock.Proofs.LsaLogon
import MobileUnlock.Proofs.PhoneSigning

/-!
# `MobileUnlock.Proofs.SignedLogon`: from the fingerprint to the logon

The phone with its prompts and its Keystore, the service, and the package in LSASS, one after the
other. The service issues a challenge, a prompt of the phone ends with a signature for it, the
service accepts the payload, and the package logs on with the buffer that carries it.

`signed_payload_logs_on` says so for every run of the phone that keeps its key and every run of the
service that leaves the challenge alone. Of the two sides, it assumes only that the verifier accepts
what the paired key signs.
-/

set_option autoImplicit false

namespace MobileUnlock.Authentication

open MobileUnlock.Lib MobileUnlock.Lib.Win32 MobileUnlock.Protocol MobileUnlock.Crypto
open MobileUnlock.Pairing MobileUnlock.Lsa MobileUnlock.Android
open MobileUnlock.Android.DerToP1363Converter
open AuthenticationManager

/-- A converted signature has 64 bytes. -/
theorem length_of_derToP1363 {der signature : Bytes} (h : derToP1363 der = .ok signature) :
    signature.length = 64 := by
  obtain ⟨r, s, hder⟩ := isDerSignature_of_ok h
  rw [derToP1363_of_isDerSignature hder] at h
  cases h
  rw [List.length_append, length_bytesBE, length_bytesBE]

/-- The verifier accepts the signatures of a key for a message, and none has an integer that is
zero. -/
def Verifies (cng : Cng) (hKey : Nat) (keys : SigningKeys) (key : Nat) (message : Bytes) : Prop :=
  ∀ randomness signature, derToP1363 (keys.sign key message randomness) = .ok signature →
    (∃ b ∈ slice 0 32 signature, b ≠ 0) ∧ (∃ b ∈ slice 32 32 signature, b ≠ 0) ∧
    ∃ digest, cng.sha256 message = some digest ∧ cng.verifySignature hKey digest signature = true

/-- What the service accepts, the package accepts over the registry that the service leaves, when
the message is one for AUTH_RESPONSE. -/
theorem logon_of_success {m : AuthenticationManager} {reg : Registry} {hdr : FrameHeader}
    {payload : Bytes} {env : ResponseEnv} {msg : SignedMessage} {lsaEnv : LsaEnv}
    (hsuccess : (handleAuthResponse m reg hdr payload env).2.2.result = .SUCCESS)
    (hparse : parseAuthResponse payload = .ok msg)
    (hoperation : msg.operation = MessageType.AUTH_RESPONSE.code)
    (haccess : lsaEnv.access = env.access) (hcng : lsaEnv.cng = env.cng)
    (halloc : ∀ k, lsaEnv.allocates k = true) (heap : LsaHeap) (ptrs : LogonPointers) :
    (logonUserEx2 lsaEnv (handleAuthResponse m reg hdr payload env).2.1 heap ptrs
      (some (logonBuffer payload).layout)).1 = .STATUS_SUCCESS := by
  have hcase := handleAuthResponse_case m reg hdr payload env
  generalize handleAuthResponse m reg hdr payload env = out at hsuccess hcase ⊢
  cases hcase with
  | invalid r hp =>
    rw [hparse] at hp
    cases hp
  | limited => cases hsuccess
  | failed msg' hp h r hr => exact absurd hsuccess (countedFailure_ne hr).1
  | accepted msg' hp h record hr ch hslot hfresh hage hsession hnonce hsig =>
    rw [hparse] at hp
    cases hp
    obtain ⟨hlen, hmsg⟩ := parseAuthResponse_ok hparse
    obtain ⟨-, hdevice, -⟩ := deserializeSignedMessage_some hmsg
    obtain ⟨hfound, hactive, hkey⟩ := lookupDevice_ok.mp hr
    obtain ⟨t, hread⟩ := readDeviceRecord_updateLastSeen hfound
    refine (logonUserEx2_success_iff halloc _ _ _ _).mpr
      ⟨{ record with lastSeen := t }, verifyLogon_ok_iff.mpr ⟨?_, msg, ?_⟩⟩
    · rw [MobileUnlockLsaLogonBuffer.length_layout]
    · rw [MobileUnlockLsaLogonBuffer.ofLayout_layout]
      refine ⟨rfl, rfl, rfl, ?_, hdevice, hoperation, ?_, hactive, hkey, ?_⟩
      · rw [logonBuffer_canonicalMessage hlen, hmsg]
      · rw [haccess]
        exact (congrArg (fun id => readDeviceRecord _ _ (deviceIdToString id) {})
          hdevice.symm).trans hread
      · rw [hcng, logonBuffer_signature hlen]
        exact hsig

/-- The service answers a request of `d` with a challenge, and nothing that names `d` comes in
between. In a run of the phone that keeps its key, a call for this challenge gets its payload, in
whatever order prompts and calls come. When `d` is paired with the key of the phone, the service
accepts the payload within the next thirty seconds, and the package logs on with it. -/
theorem signed_payload_logs_on
    -- the challenge
    (s : AuthState) (d : DeviceId) (hdr out : FrameHeader) (env : RequestEnv) (reply : AuthReply)
    (hreply : (authMachine.step s (.authRequest d hdr out env)).2 = some reply)
    (hissued : reply.result = .SUCCESS)
    (hsession : s.manager.sessionCounter.toNat < 2 ^ 63) (htime : env.now.toNat < 2 ^ 63)
    -- the phone
    (device : Device) (keys : SigningKeys) (signerEvents : List SignerEvent)
    (hkept : (signerMachine device keys).Along (fun s e => ¬ ReplacesKey device s e) {}
      signerEvents)
    (challenge : AuthChallenge) (hdecode : decodeChallenge reply.payload = .ok challenge)
    (requestID : UInt32) (callId : Nat)
    (hcall : (signingCalls signerEvents)[callId]? = some ⟨challenge, d.toList, requestID.toNat⟩)
    (x : Entry PhoneSigner SignerEvent SignerOutput)
    (hx : x ∈ (signerMachine device keys).trace {} signerEvents) (payload : Bytes)
    (hsigned : x.output = .signed callId (.ok payload))
    -- the answer
    (es : List AuthEvent)
    (hes : authMachine.Along (Undisturbed d) (authMachine.step s (.authRequest d hdr out env)).1 es)
    (renv : ResponseEnv) (hle : env.now.toNat ≤ renv.now.toNat)
    (hage : renv.now.toNat ≤ env.now.toNat + 30000) (record : DeviceRecord)
    (hrecord : lookupDevice renv.access s.registry (deviceIdToString d) = .ok record)
    (hKey : Nat) (himport : importPublicKey renv.cng record.publicKey = some hKey)
    (hkey : hKey ≠ 0)
    (hverifies : ∀ message, SigningCall.canonicalBytes ⟨challenge, d.toList, requestID.toNat⟩ =
      .ok message → Verifies renv.cng hKey keys 0 message)
    (rhdr : FrameHeader)
    -- the logon
    (lsaEnv : LsaEnv) (haccess : lsaEnv.access = renv.access) (hcng : lsaEnv.cng = renv.cng)
    (halloc : ∀ k, lsaEnv.allocates k = true) (heap : LsaHeap) (ptrs : LogonPointers) :
    (authMachine.step (authMachine.run s (.authRequest d hdr out env :: es))
        (.authResponse rhdr payload renv)).2 = some (successReply rhdr record.accountSid) ∧
      (logonUserEx2 lsaEnv (authMachine.step (authMachine.run s (.authRequest d hdr out env :: es))
        (.authResponse rhdr payload renv)).1.registry heap ptrs
        (some (logonBuffer payload).layout)).1 = .STATUS_SUCCESS := by
  -- what the phone has signed, and with which key
  have hhistory := (signerHistory device keys signerEvents).signed x hx callId payload hsigned
  rw [Machine.map_event_trace, hcall] at hhistory
  obtain ⟨call, hsame, key, hgenerated, message, randomness, signature, hmessage, hder, rfl⟩ :=
    hhistory
  cases hsame
  have hfirst : key = 0 := Nat.lt_one_iff.mp (Nat.lt_of_lt_of_le hgenerated (along_generated hkept))
  subst hfirst
  obtain ⟨hr, hs, digest, hdigest, hverify⟩ := hverifies message hmessage randomness signature hder
  have hsiglen := length_of_derToP1363 hder
  -- which message it is
  obtain ⟨nonce, hissues, hpayload⟩ := issues_of_success hreply hissued
  generalize hch : ActiveChallenge.mk d s.manager.sessionCounter nonce env.now false = ch
    at hpayload
  have hsession' : ch.sessionId.toNat < 2 ^ 63 := by
    rw [← hch]
    exact hsession
  have htime' : ch.createdAtMs.toNat < 2 ^ 63 := by
    rw [← hch]
    exact htime
  have hdevice : ch.deviceId = d := by rw [← hch]
  rw [hpayload, decodeChallenge_challengePayload s.manager.serverIdentity hsession' htime']
    at hdecode
  cases hdecode
  generalize hmsg : answerMessage s.manager.serverIdentity ch requestID = msg
  have hbuild : message = serializeSignedMessage msg := by
    have hbuilt :=
      buildCanonicalSignedMessage_eq s.manager.serverIdentity hsession' htime' requestID
    rw [hdevice, hmsg] at hbuilt
    exact Except.ok.inj (hmessage.symm.trans hbuilt)
  subst hbuild
  have hoperation : msg.operation = MessageType.AUTH_RESPONSE.code := by rw [← hmsg]; rfl
  have hparse : parseAuthResponse (serializeSignedMessage msg ++ signature) = .ok msg := by
    have hop : isValidMessageType MessageType.AUTH_RESPONSE.code = true := by decide
    subst hmsg
    exact parseAuthResponse_serialize rfl hop hsiglen
  -- what the service makes of it
  have hpending : Pending msg.deviceIdentity ch ch.createdAtMs
      (authMachine.run s (.authRequest d hdr out env :: es)) := by
    subst hmsg hch
    exact pending_run (pending_of_issues hissues)
      (authMachine.along_mono Undisturbed.leavesChallenge hes)
  have hrecord' : lookupDevice renv.access
      (authMachine.run s (.authRequest d hdr out env :: es)).registry
      (deviceIdToString msg.deviceIdentity) = .ok record := by
    have hsame : SameRecord d s.registry
        (authMachine.run s (.authRequest d hdr out env :: es)).registry :=
      @sameRecord_run d (authMachine.step s (.authRequest d hdr out env)).1 es hes
    rw [← hmsg]
    show lookupDevice _ _ (deviceIdToString ch.deviceId) = _
    rw [hdevice, ← lookupDevice_congr hsame, hrecord]
  have hsig : verifyCanonicalSignedMessage renv.cng record.publicKey msg
      ((serializeSignedMessage msg ++ signature).drop CANONICAL_SIGNED_MESSAGE_SIZE) = true := by
    rw [List.drop_left' (length_serializeSignedMessage msg)]
    exact (verifyCanonicalSignedMessage_iff hsiglen).mpr
      ⟨hKey, digest, himport, hkey, hr, hs, hdigest, hverify⟩
  have hfields : msg.sessionID = ch.sessionId ∧ msg.nonce = ch.nonce := by
    subst hmsg
    exact ⟨rfl, rfl⟩
  have hle' : ch.createdAtMs.toNat ≤ renv.now.toNat := by
    rw [← hch]
    exact hle
  have hage' : renv.now.toNat ≤ ch.createdAtMs.toNat + 30000 := by
    rw [← hch]
    exact hage
  have haccepted := pending_accepts hpending (by rw [← hch]) hparse hfields.1 hfields.2 hle' hage'
    hrecord' hsig rhdr
  refine ⟨haccepted, ?_⟩
  -- and the package
  rw [step_authResponse] at haccepted
  rw [step_authResponse]
  refine logon_of_success ?_ hparse hoperation haccess hcng halloc heap ptrs
  rw [Option.some.inj haccepted]
  exact successReply_result _ _

/-! ### One phone -/

/-- The call for the first challenge of the service. -/
def phoneCall : SigningCall where
  challenge := {
    sessionId := 1
    nonce := List.replicate 32 7
    serverIdentity := List.replicate 16 0xAA
    timestamp := 1000 }
  deviceIdentity := phoneId.toList
  requestId := 1

/-- The key of the phone, with the DER form of its signature. -/
def phoneKeys : SigningKeys where
  sign _ _ _ := [0x30, 69, 0x02, 32] ++ authSignature.take 32 ++ [0x02, 33, 0] ++
    authSignature.drop 32
  publicKey _ := phoneKey

/-- The key is made, and the call shows its prompt. -/
def promptEvents : List SignerEvent :=
  [.ensureKeyReady readyEnv, .signAuthChallenge phoneCall promptEnv]

theorem derToP1363_phoneKeys (message : Bytes) (randomness : Nat) :
    derToP1363 (phoneKeys.sign 0 message randomness) = .ok authSignature := by
  show derToP1363 ([0x30, 69, 0x02, 32] ++ authSignature.take 32 ++ [0x02, 33, 0] ++
    authSignature.drop 32) = .ok authSignature
  decide +kernel

theorem canonicalBytes_phoneCall :
    phoneCall.canonicalBytes = .ok (serializeSignedMessage (phoneMessage .AUTH_RESPONSE)) :=
  @buildCanonicalSignedMessage_eq (List.Vector.replicate 16 0xAA)
    ⟨phoneId, 1, List.Vector.replicate 32 7, 1000, false⟩ (by decide) (by decide) 1

theorem run_promptEvents :
    (signerMachine ⟨30, false⟩ phoneKeys).run {} promptEvents =
      { keystore := {
          entry := some { key := 0, level := .SECURITY_LEVEL_TRUSTED_ENVIRONMENT }
          generated := 1 }
        calls := 1
        prompts := [{
          callId := 0
          call := phoneCall
          payload := serializeSignedMessage (phoneMessage .AUTH_RESPONSE)
          signatureKey := 0 }] } := by
  decide +kernel

/-- The prompt succeeds. -/
theorem signed_promptEvents :
    ((signerMachine ⟨30, false⟩ phoneKeys).entry
      ((signerMachine ⟨30, false⟩ phoneKeys).run {} promptEvents)
      (.authenticationSucceeded 0 (some 0) (.signs 0))).output = .signed 0 (.ok phoneAnswer) := by
  have hsigned : signatureOf (onAuthenticationSucceeded phoneKeys
      (serializeSignedMessage (phoneMessage .AUTH_RESPONSE)) (some 0) (.signs 0)) =
      .ok authSignature := by
    simp only [onAuthenticationSucceeded, derToP1363_phoneKeys]
    rfl
  have hresult : phoneCall.result (.ok authSignature) = .ok phoneAnswer :=
    signAuthChallenge_eq canonicalBytes_phoneCall (length_serializeSignedMessage _) rfl rfl
  rw [run_promptEvents]
  show SignerOutput.signed 0 (phoneCall.result (signatureOf (onAuthenticationSucceeded phoneKeys
    (serializeSignedMessage (phoneMessage .AUTH_RESPONSE)) (some 0) (.signs 0)))) = _
  rw [hsigned, hresult]

/-- The phone asks the service, which has just started, another device asks, and the phone signs,
answers and logs on. -/
theorem signed_payload_logs_on_onePhone :
    ∃ record : DeviceRecord,
      (authMachine.step (authMachine.run { registry := phoneRegistry }
          [.authRequest phoneId {} {} ⟨1000, RegAccess.ok, some (List.Vector.replicate 32 7)⟩,
            .authRequest otherDeviceId {} {} ⟨1200, RegAccess.ok, none⟩])
        (.authResponse {} phoneAnswer phoneEnv)).2 = some (successReply {} record.accountSid) ∧
      (logonUserEx2 phoneLsaEnv (authMachine.step (authMachine.run { registry := phoneRegistry }
          [.authRequest phoneId {} {} ⟨1000, RegAccess.ok, some (List.Vector.replicate 32 7)⟩,
            .authRequest otherDeviceId {} {} ⟨1200, RegAccess.ok, none⟩])
        (.authResponse {} phoneAnswer phoneEnv)).1.registry {} {}
        (some (logonBuffer phoneAnswer).layout)).1 = .STATUS_SUCCESS := by
  obtain ⟨record, hlookup, hkey⟩ := lookupDevice_phone
  have himport : importPublicKey phoneCng record.publicKey = some 1 := by
    rw [hkey]
    decide +kernel
  have hother : otherDeviceId ≠ phoneId := by decide
  have hmem : (signerMachine ⟨30, false⟩ phoneKeys).entry
      ((signerMachine ⟨30, false⟩ phoneKeys).run {} promptEvents)
      (.authenticationSucceeded 0 (some 0) (.signs 0)) ∈
      (signerMachine ⟨30, false⟩ phoneKeys).trace {}
        (promptEvents ++ [.authenticationSucceeded 0 (some 0) (.signs 0)]) := by
    rw [Machine.trace_append_singleton]
    exact List.mem_append_right _ List.mem_cons_self
  have hkept : (signerMachine ⟨30, false⟩ phoneKeys).Along
      (fun s e => ¬ ReplacesKey ⟨30, false⟩ s e) {}
      (promptEvents ++ [.authenticationSucceeded 0 (some 0) (.signs 0)]) := by
    refine ⟨?_, ?_, ?_, trivial⟩
    · rintro ⟨env, henv, hcontains, -⟩
      cases henv
      cases hcontains
    · rintro ⟨env, henv, -⟩
      cases henv
    · rintro ⟨env, henv, -⟩
      cases henv
  have hverifies : ∀ message, phoneCall.canonicalBytes = .ok message →
      Verifies phoneCng 1 phoneKeys 0 message := by
    intro message hmessage randomness signature hder
    rw [canonicalBytes_phoneCall] at hmessage
    cases hmessage
    rw [derToP1363_phoneKeys] at hder
    cases hder
    exact ⟨by decide, by decide, authDigest, by decide +kernel, by decide +kernel⟩
  have hdecode := @decodeChallenge_challengePayload (List.Vector.replicate 16 0xAA)
    ⟨phoneId, 1, List.Vector.replicate 32 7, 1000, false⟩ (by decide) (by decide)
  exact ⟨record, signed_payload_logs_on { registry := phoneRegistry } phoneId {} {}
    ⟨1000, RegAccess.ok, some (List.Vector.replicate 32 7)⟩
    (challengeReply {} (challengePayload (List.Vector.replicate 16 0xAA)
      ⟨phoneId, 1, List.Vector.replicate 32 7, 1000, false⟩)) rfl rfl (by decide) (by decide)
    ⟨30, false⟩ phoneKeys _ hkept phoneCall.challenge hdecode 1 0 rfl _ hmem phoneAnswer
    signed_promptEvents [.authRequest otherDeviceId {} {} ⟨1200, RegAccess.ok, none⟩]
    ⟨hother, trivial⟩ phoneEnv (by decide) (by decide) record hlookup 1 himport (by decide)
    hverifies {} phoneLsaEnv rfl rfl (fun _ => rfl) {} {}⟩

end MobileUnlock.Authentication
