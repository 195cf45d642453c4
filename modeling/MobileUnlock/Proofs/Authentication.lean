import MobileUnlock.Authentication.AuthenticationManager
import MobileUnlock.Proofs.Codec
import MobileUnlock.Proofs.DeviceIdentity

/-!
# `MobileUnlock.Proofs.Authentication`: what the two handlers can do

`RequestCase` and `ResponseCase` list everything that `handleAuthRequest` and
`handleAuthResponse` can do, with the guards that lead there. Every result about runs of the
manager is derived from these two lists.

The frame lemmas say which map each part of a handler leaves alone: the rate-limit check and
the two recorders do not touch challenges, and consuming a challenge does not touch rate
limits.
-/

set_option autoImplicit false

namespace MobileUnlock.Authentication

open MobileUnlock.Lib MobileUnlock.Lib.Win32 MobileUnlock.Protocol MobileUnlock.Crypto
open MobileUnlock.Pairing

/-- The result codes of a response that are counted against the device. -/
def countedFailure : AuthResultCode → Bool
  | .UNKNOWN_DEVICE | .DEVICE_REVOKED | .MISSING_PUBLIC_KEY | .REPLAY_DETECTED
  | .CHALLENGE_EXPIRED | .CHALLENGE_MISMATCH | .SIGNATURE_INVALID => true
  | .SUCCESS | .INVALID_PAYLOAD | .RATE_LIMITED | .INTERNAL_ERROR => false

/-! ### Frames -/

namespace AuthenticationManager

variable (m : AuthenticationManager) (id : Bytes) (now : UInt64) (ch : ActiveChallenge)

/-- The rate-limit check changes rate limits only. -/
theorem isRateLimited_frame :
    (m.isRateLimited id now).2.activeChallenges = m.activeChallenges ∧
      (m.isRateLimited id now).2.sessionCounter = m.sessionCounter ∧
      (m.isRateLimited id now).2.serverIdentity = m.serverIdentity := by
  unfold isRateLimited
  split
  · exact ⟨rfl, rfl, rfl⟩
  · split
    · exact ⟨rfl, rfl, rfl⟩
    · split
      · exact ⟨rfl, rfl, rfl⟩
      · exact ⟨rfl, rfl, rfl⟩

@[simp] theorem isRateLimited_activeChallenges :
    (m.isRateLimited id now).2.activeChallenges = m.activeChallenges :=
  (isRateLimited_frame m id now).1

@[simp] theorem isRateLimited_sessionCounter :
    (m.isRateLimited id now).2.sessionCounter = m.sessionCounter :=
  (isRateLimited_frame m id now).2.1

@[simp] theorem isRateLimited_serverIdentity :
    (m.isRateLimited id now).2.serverIdentity = m.serverIdentity :=
  (isRateLimited_frame m id now).2.2

/-- A device that is limited is left as it is. -/
theorem isRateLimited_of_limited (h : (m.isRateLimited id now).1 = true) :
    (m.isRateLimited id now).2 = m := by
  unfold isRateLimited at h ⊢
  split
  · rfl
  · rename_i limit hl
    rw [hl] at h
    dsimp only at h ⊢
    split
    · rfl
    · rename_i hnot
      rw [if_neg hnot] at h
      split at h
      · cases h
      · cases h

/-- The rate-limit check of one device leaves the entries of the others. -/
theorem isRateLimited_rateLimits_ne {id' : Bytes} (h : id' ≠ id) :
    (m.isRateLimited id now).2.rateLimits id' = m.rateLimits id' := by
  unfold isRateLimited
  split
  · rfl
  · split
    · rfl
    · split
      · exact Function.update_of_ne h _ _
      · rfl

@[simp] theorem recordFailure_activeChallenges :
    (m.recordFailure id now).activeChallenges = m.activeChallenges := rfl

@[simp] theorem recordSuccess_activeChallenges :
    (m.recordSuccess id).activeChallenges = m.activeChallenges := rfl

@[simp] theorem consumeChallenge_rateLimits :
    (m.consumeChallenge id ch).rateLimits = m.rateLimits := rfl

@[simp] theorem setChallenge_rateLimits : (m.setChallenge id ch).rateLimits = m.rateLimits := rfl

theorem recordFailure_rateLimits_ne {id' : Bytes} (h : id' ≠ id) :
    (m.recordFailure id now).rateLimits id' = m.rateLimits id' :=
  Function.update_of_ne h _ _

theorem recordSuccess_rateLimits_ne {id' : Bytes} (h : id' ≠ id) :
    (m.recordSuccess id).rateLimits id' = m.rateLimits id' :=
  Function.update_of_ne h _ _

@[simp] theorem recordSuccess_rateLimits : (m.recordSuccess id).rateLimits id = none :=
  Function.update_self _ _ _

@[simp] theorem setChallenge_activeChallenges :
    (m.setChallenge id ch).activeChallenges id = some ch :=
  Function.update_self _ _ _

theorem setChallenge_activeChallenges_ne {id' : Bytes} (h : id' ≠ id) :
    (m.setChallenge id ch).activeChallenges id' = m.activeChallenges id' :=
  Function.update_of_ne h _ _

@[simp] theorem consumeChallenge_activeChallenges :
    (m.consumeChallenge id ch).activeChallenges id = some { ch with isConsumed := true } :=
  Function.update_self _ _ _

theorem consumeChallenge_activeChallenges_ne {id' : Bytes} (h : id' ≠ id) :
    (m.consumeChallenge id ch).activeChallenges id' = m.activeChallenges id' :=
  Function.update_of_ne h _ _

end AuthenticationManager

open AuthenticationManager

/-! ### Requests -/

/-- Everything `handleAuthRequest` can do. -/
inductive RequestCase (m : AuthenticationManager) (reg : Registry) (d : DeviceId)
    (hdr out : FrameHeader) (env : RequestEnv) : AuthenticationManager × AuthReply → Prop
  | limited (h : (m.isRateLimited (deviceIdToString d) env.now).1 = true) :
      RequestCase m reg d hdr out env
        (m, refuseRequest hdr out ⟨.RATE_LIMITED, "RATE_LIMITED"⟩)
  | refused (h : (m.isRateLimited (deviceIdToString d) env.now).1 = false) (r : Refusal)
      (hr : lookupDevice env.access reg (deviceIdToString d) = .error r) :
      RequestCase m reg d hdr out env
        ((m.isRateLimited (deviceIdToString d) env.now).2, refuseRequest hdr out r)
  | noNonce (h : (m.isRateLimited (deviceIdToString d) env.now).1 = false)
      (hn : env.nonce = none) :
      RequestCase m reg d hdr out env
        ({ (m.isRateLimited (deviceIdToString d) env.now).2 with
            sessionCounter := m.sessionCounter + 1 },
          refuseRequest hdr out ⟨.INTERNAL_ERROR, "INTERNAL_ERROR"⟩)
  | issued (h : (m.isRateLimited (deviceIdToString d) env.now).1 = false) (record : DeviceRecord)
      (hr : lookupDevice env.access reg (deviceIdToString d) = .ok record) (nonce : ByteArr 32)
      (hn : env.nonce = some nonce) (m' : AuthenticationManager)
      (hslots : m'.activeChallenges = m.activeChallenges)
      (hlimits : m'.rateLimits = (m.isRateLimited (deviceIdToString d) env.now).2.rateLimits) :
      RequestCase m reg d hdr out env
        (m'.setChallenge (deviceIdToString d) ⟨d, m.sessionCounter, nonce, env.now, false⟩,
          challengeReply hdr
            (challengePayload m.serverIdentity ⟨d, m.sessionCounter, nonce, env.now, false⟩))

theorem handleAuthRequest_case (m : AuthenticationManager) (reg : Registry) (d : DeviceId)
    (hdr out : FrameHeader) (env : RequestEnv) :
    RequestCase m reg d hdr out env (handleAuthRequest m reg d hdr out env) := by
  unfold handleAuthRequest
  dsimp only
  cases hl : (m.isRateLimited (deviceIdToString d) env.now).1 with
  | true =>
    rw [if_pos rfl, isRateLimited_of_limited m _ _ hl]
    exact .limited hl
  | false =>
    rw [if_neg (by simp)]
    cases hr : lookupDevice env.access reg (deviceIdToString d) with
    | error r => exact .refused hl r hr
    | ok record =>
      cases hn : env.nonce with
      | none =>
        dsimp only
        rw [isRateLimited_sessionCounter]
        exact .noNonce hl hn
      | some nonce =>
        dsimp only
        rw [isRateLimited_sessionCounter, isRateLimited_serverIdentity]
        exact .issued hl record hr nonce hn _ (isRateLimited_activeChallenges _ _ _) rfl

/-- A refused lookup is one of the three record failures. -/
theorem lookupDevice_error {acc : Access} {reg : Registry} {id : Bytes} {r : Refusal}
    (h : lookupDevice acc reg id = .error r) :
    r.result = .UNKNOWN_DEVICE ∨ r.result = .DEVICE_REVOKED ∨ r.result = .MISSING_PUBLIC_KEY := by
  unfold lookupDevice at h
  dsimp only at h
  split at h
  · cases h
    exact Or.inl rfl
  · split at h
    · cases h
      exact Or.inr (Or.inl rfl)
    · split at h
      · cases h
        exact Or.inr (Or.inr rfl)
      · cases h

/-- An accepted lookup has read an active record with a key. -/
theorem lookupDevice_ok {acc : Access} {reg : Registry} {id : Bytes} {record : DeviceRecord} :
    lookupDevice acc reg id = .ok record ↔
      readDeviceRecord acc reg id {} = (ERROR_SUCCESS, record) ∧
        record.pairStatus = kStatusActive ∧ record.publicKey ≠ [] := by
  unfold lookupDevice
  obtain ⟨res, rec⟩ := readDeviceRecord acc reg id {}
  dsimp only
  constructor
  · intro h
    split at h
    · cases h
    · split at h
      · cases h
      · split at h
        · cases h
        · rename_i h1 h2 h3
          cases h
          simp only [ne_eq, Decidable.not_not] at h1 h2
          exact ⟨by rw [h1], h2, h3⟩
  · rintro ⟨h1, h2, h3⟩
    cases h1
    rw [if_neg (by simp), if_neg (by simp [h2]), if_neg h3]

/-! ### Responses -/

/-- Everything `answerChallenge` can do. -/
inductive AnswerCase (m : AuthenticationManager) (id : Bytes) (now : UInt64) (cng : Cng)
    (publicKey : Bytes) (msg : SignedMessage) (signature : Bytes) :
    AuthenticationManager × Option Refusal → Prop
  | kept (r : Refusal) (hr : countedFailure r.result = true) :
      AnswerCase m id now cng publicKey msg signature (m, some r)
  | consumed (r : Refusal) (hr : countedFailure r.result = true) (ch : ActiveChallenge)
      (hslot : m.activeChallenges id = some ch) :
      AnswerCase m id now cng publicKey msg signature (m.consumeChallenge id ch, some r)
  | passed (ch : ActiveChallenge) (hslot : m.activeChallenges id = some ch)
      (hfresh : ch.isConsumed = false) (hage : challengeExpired ch now = false)
      (hsession : msg.sessionID = ch.sessionId) (hnonce : msg.nonce = ch.nonce)
      (hsig : verifyCanonicalSignedMessage cng publicKey msg signature = true) :
      AnswerCase m id now cng publicKey msg signature (m.consumeChallenge id ch, none)

theorem answerChallenge_case (m : AuthenticationManager) (id : Bytes) (now : UInt64) (cng : Cng)
    (publicKey : Bytes) (msg : SignedMessage) (signature : Bytes) :
    AnswerCase m id now cng publicKey msg signature
      (answerChallenge m id now cng publicKey msg signature) := by
  -- One split for each check of the handler, in its order. A slot that is empty or consumed
  -- stays as it is; from the age check on, every failure consumes the challenge.
  unfold answerChallenge
  split
  · exact .kept _ rfl
  · rename_i ch hslot
    split
    · exact .kept _ rfl
    · rename_i hfresh
      split
      · exact .consumed _ rfl ch hslot
      · rename_i hage
        split
        · exact .consumed _ rfl ch hslot
        · rename_i hsession
          split
          · exact .consumed _ rfl ch hslot
          · rename_i hnonce
            split
            · exact .consumed _ rfl ch hslot
            · rename_i hsig
              simp only [ne_eq, Decidable.not_not] at hsession hnonce hsig
              exact .passed ch hslot (by simpa using hfresh) (by simpa using hage) hsession hnonce
                hsig

/-- A refused payload is `INVALID_PAYLOAD`. -/
theorem parseAuthResponse_error {payload : Bytes} {r : Refusal}
    (h : parseAuthResponse payload = .error r) : r.result = .INVALID_PAYLOAD := by
  unfold parseAuthResponse at h
  split at h
  · cases h
    rfl
  · split at h
    · cases h
      rfl
    · split at h
      · cases h
        rfl
      · cases h

/-- A serialized message with a signature behind it is parsed. -/
theorem parseAuthResponse_serialize {msg : SignedMessage} {signature : Bytes}
    (hversion : msg.protocolVersion = SIGNED_MESSAGE_VERSION)
    (hop : isValidMessageType msg.operation = true)
    (hsig : signature.length = P1363_SIGNATURE_SIZE) :
    parseAuthResponse (serializeSignedMessage msg ++ signature) = .ok msg := by
  have hlen : (serializeSignedMessage msg ++ signature).length
      = CANONICAL_SIGNED_MESSAGE_SIZE + P1363_SIGNATURE_SIZE := by
    rw [List.length_append, length_serializeSignedMessage, hsig]
  have htake : (serializeSignedMessage msg ++ signature).take CANONICAL_SIGNED_MESSAGE_SIZE
      = serializeSignedMessage msg :=
    List.take_left' (length_serializeSignedMessage msg)
  rw [parseAuthResponse, hlen, if_neg (by omega), if_neg (by simp), htake,
    deserializeSignedMessage_serialize hversion hop]

/-- Everything `handleAuthResponse` can do. -/
inductive ResponseCase (m : AuthenticationManager) (reg : Registry) (hdr : FrameHeader)
    (payload : Bytes) (env : ResponseEnv) : AuthenticationManager × Registry × AuthReply → Prop
  | invalid (r : Refusal) (hp : parseAuthResponse payload = .error r) :
      ResponseCase m reg hdr payload env (m, reg, refuseResponse hdr r)
  | limited (msg : SignedMessage) (hp : parseAuthResponse payload = .ok msg)
      (h : (m.isRateLimited (deviceIdToString msg.deviceIdentity) env.now).1 = true) :
      ResponseCase m reg hdr payload env
        (m, reg, refuseResponse hdr ⟨.RATE_LIMITED, "RATE_LIMITED"⟩)
  | failed (msg : SignedMessage) (hp : parseAuthResponse payload = .ok msg)
      (h : (m.isRateLimited (deviceIdToString msg.deviceIdentity) env.now).1 = false)
      (r : Refusal) (hr : countedFailure r.result = true) (m' : AuthenticationManager)
      (hm' : m' = (m.isRateLimited (deviceIdToString msg.deviceIdentity) env.now).2 ∨
        ∃ ch, m.activeChallenges (deviceIdToString msg.deviceIdentity) = some ch ∧
          m' = (m.isRateLimited (deviceIdToString msg.deviceIdentity) env.now).2.consumeChallenge
            (deviceIdToString msg.deviceIdentity) ch) :
      ResponseCase m reg hdr payload env
        (m'.recordFailure (deviceIdToString msg.deviceIdentity) env.now, reg,
          refuseResponse hdr r)
  | accepted (msg : SignedMessage) (hp : parseAuthResponse payload = .ok msg)
      (h : (m.isRateLimited (deviceIdToString msg.deviceIdentity) env.now).1 = false)
      (record : DeviceRecord)
      (hr : lookupDevice env.access reg (deviceIdToString msg.deviceIdentity) = .ok record)
      (ch : ActiveChallenge)
      (hslot : m.activeChallenges (deviceIdToString msg.deviceIdentity) = some ch)
      (hfresh : ch.isConsumed = false) (hage : challengeExpired ch env.now = false)
      (hsession : msg.sessionID = ch.sessionId) (hnonce : msg.nonce = ch.nonce)
      (hsig : verifyCanonicalSignedMessage env.cng record.publicKey msg
        (payload.drop CANONICAL_SIGNED_MESSAGE_SIZE) = true) :
      ResponseCase m reg hdr payload env
        (((m.isRateLimited (deviceIdToString msg.deviceIdentity) env.now).2.consumeChallenge
            (deviceIdToString msg.deviceIdentity) ch).recordSuccess
              (deviceIdToString msg.deviceIdentity),
          (updateLastSeen env.seenAccess reg (deviceIdToString msg.deviceIdentity)
            env.seenTime).2,
          successReply hdr record.accountSid)

theorem handleAuthResponse_case (m : AuthenticationManager) (reg : Registry) (hdr : FrameHeader)
    (payload : Bytes) (env : ResponseEnv) :
    ResponseCase m reg hdr payload env (handleAuthResponse m reg hdr payload env) := by
  unfold handleAuthResponse
  dsimp only
  cases hp : parseAuthResponse payload with
  | error r => exact .invalid r hp
  | ok msg =>
    dsimp only
    cases hl : (m.isRateLimited (deviceIdToString msg.deviceIdentity) env.now).1 with
    | true =>
      rw [if_pos rfl, isRateLimited_of_limited m _ _ hl]
      exact .limited msg hp hl
    | false =>
      rw [if_neg (by simp)]
      cases hr : lookupDevice env.access reg (deviceIdToString msg.deviceIdentity) with
      | error r =>
        -- The three failures of the lookup are counted like those of the challenge.
        have hcount : countedFailure r.result = true := by
          rcases lookupDevice_error hr with h | h | h <;> rw [h] <;> rfl
        exact .failed msg hp hl r hcount _ (Or.inl rfl)
      | ok record =>
        dsimp only
        have hans := answerChallenge_case
          (m.isRateLimited (deviceIdToString msg.deviceIdentity) env.now).2
          (deviceIdToString msg.deviceIdentity) env.now env.cng record.publicKey msg
          (payload.drop CANONICAL_SIGNED_MESSAGE_SIZE)
        generalize answerChallenge _ _ _ _ _ _ _ = ans at hans ⊢
        cases hans with
        | kept r hcount => exact .failed msg hp hl r hcount _ (Or.inl rfl)
        | consumed r hcount ch hslot =>
          -- The rate limit check before it may reset an entry, but it leaves the slots alone.
          rw [isRateLimited_activeChallenges] at hslot
          exact .failed msg hp hl r hcount _ (Or.inr ⟨ch, hslot, rfl⟩)
        | passed ch hslot hfresh hage hsession hnonce hsig =>
          rw [isRateLimited_activeChallenges] at hslot
          exact .accepted msg hp hl record hr ch hslot hfresh hage hsession hnonce hsig

/-- A response that passes every check is answered with SUCCESS. -/
theorem handleAuthResponse_accepted (m : AuthenticationManager) (reg : Registry)
    (hdr : FrameHeader) (payload : Bytes) (env : ResponseEnv) {msg : SignedMessage}
    {record : DeviceRecord} (hp : parseAuthResponse payload = .ok msg)
    (hl : (m.isRateLimited (deviceIdToString msg.deviceIdentity) env.now).1 = false)
    (hr : lookupDevice env.access reg (deviceIdToString msg.deviceIdentity) = .ok record)
    (hans : (answerChallenge (m.isRateLimited (deviceIdToString msg.deviceIdentity) env.now).2
      (deviceIdToString msg.deviceIdentity) env.now env.cng record.publicKey msg
      (payload.drop CANONICAL_SIGNED_MESSAGE_SIZE)).2 = none) :
    (handleAuthResponse m reg hdr payload env).2.2 = successReply hdr record.accountSid := by
  unfold handleAuthResponse
  rw [hp]
  dsimp only
  rw [hl, if_neg (by simp), hr]
  dsimp only
  generalize answerChallenge _ _ _ _ _ _ _ = ans at hans ⊢
  obtain ⟨m', refusal⟩ := ans
  cases hans
  rfl

/-- A response that names a known device and fails is counted. -/
theorem handleAuthResponse_failed (m : AuthenticationManager) (reg : Registry)
    (hdr : FrameHeader) (payload : Bytes) (env : ResponseEnv) {msg : SignedMessage}
    {record : DeviceRecord} {m' : AuthenticationManager} {r : Refusal}
    (hp : parseAuthResponse payload = .ok msg)
    (hl : (m.isRateLimited (deviceIdToString msg.deviceIdentity) env.now).1 = false)
    (hr : lookupDevice env.access reg (deviceIdToString msg.deviceIdentity) = .ok record)
    (hans : answerChallenge (m.isRateLimited (deviceIdToString msg.deviceIdentity) env.now).2
      (deviceIdToString msg.deviceIdentity) env.now env.cng record.publicKey msg
      (payload.drop CANONICAL_SIGNED_MESSAGE_SIZE) = (m', some r)) :
    handleAuthResponse m reg hdr payload env
      = (m'.recordFailure (deviceIdToString msg.deviceIdentity) env.now, reg,
          refuseResponse hdr r) := by
  unfold handleAuthResponse
  rw [hp]
  dsimp only
  rw [hl, if_neg (by simp), hr]
  dsimp only
  rw [hans]

/-! ### Result codes -/

@[simp] theorem refuseRequest_result (hdr out : FrameHeader) (r : Refusal) :
    (refuseRequest hdr out r).result = r.result := rfl

@[simp] theorem refuseResponse_result (hdr : FrameHeader) (r : Refusal) :
    (refuseResponse hdr r).result = r.result := rfl

@[simp] theorem challengeReply_result (hdr : FrameHeader) (payload : Bytes) :
    (challengeReply hdr payload).result = .SUCCESS := rfl

@[simp] theorem challengeReply_payload (hdr : FrameHeader) (payload : Bytes) :
    (challengeReply hdr payload).payload = payload := rfl

@[simp] theorem successReply_result (hdr : FrameHeader) (sid : Bytes) :
    (successReply hdr sid).result = .SUCCESS := rfl

/-- A counted failure is neither a success nor a rate limit. -/
theorem countedFailure_ne {c : AuthResultCode} (h : countedFailure c = true) :
    c ≠ .SUCCESS ∧ c ≠ .RATE_LIMITED ∧ c ≠ .INVALID_PAYLOAD := by
  cases c <;> simp_all [countedFailure]

/-- A refused lookup is not a success and not a rate limit. -/
theorem lookupDevice_error_ne {acc : Access} {reg : Registry} {id : Bytes} {r : Refusal}
    (h : lookupDevice acc reg id = .error r) :
    r.result ≠ .SUCCESS ∧ r.result ≠ .RATE_LIMITED := by
  rcases lookupDevice_error h with h | h | h <;> rw [h] <;> simp

end MobileUnlock.Authentication
