import MobileUnlock.Proofs.PendingChallenge

/-!
# `MobileUnlock.Proofs.ResponseAcceptance`: which responses are accepted

`handleAuthResponse` leaves through eleven guarded exits, in three modules. `ResponseAccepted`
says in terms of the received bytes what a payload must be to pass them all, and
`handleAuthResponse_success_iff` says that nothing else decides.

The handler works with a deserialized message, and the signature is checked against a second
serialization of it. Both are traced back to the bytes: the fields of the message are slices of
the payload (`deserializeSignedMessage_fields`), and the bytes whose hash is verified are the
first 88 bytes as they were received.
-/

set_option autoImplicit false

namespace MobileUnlock.Authentication

open MobileUnlock.Lib MobileUnlock.Lib.Win32 MobileUnlock.Protocol MobileUnlock.Crypto
open MobileUnlock.Pairing MobileUnlock.Lsa
open AuthenticationManager

/-- The device that a payload names: the sixteen bytes of the DeviceIdentity field. -/
def payloadDevice (payload : Bytes) : DeviceId := copyBytes 16 18 payload

/-- What a response must be to be accepted, for a record, a challenge, a key handle and a
digest. A handle of zero is no handle: `VerifySignature` refuses it. -/
structure ResponseAccepted (m : AuthenticationManager) (reg : Registry) (payload : Bytes)
    (env : ResponseEnv) (record : DeviceRecord) (challenge : ActiveChallenge) (hKey : Nat)
    (digest : Bytes) : Prop where
  size : payload.length = 152
  version : payload.take 2 = [0x01, 0x00]
  operation : ∃ t ∈ knownMessageTypes, slice 34 2 payload = bytesBE 2 t.code.toNat
  unlocked : ∀ limit, m.rateLimits (deviceIdToString (payloadDevice payload)) = some limit →
    limit.lockoutUntilMs ≤ env.now
  found : readDeviceRecord env.access reg (deviceIdToString (payloadDevice payload)) {}
    = (ERROR_SUCCESS, record)
  active : record.pairStatus = kStatusActive
  key : record.publicKey ≠ []
  slot : m.activeChallenges (deviceIdToString (payloadDevice payload)) = some challenge
  unconsumed : challenge.isConsumed = false
  created : challenge.createdAtMs.toNat ≤ env.now.toNat
  fresh : env.now.toNat ≤ challenge.createdAtMs.toNat + 30000
  session : slice 40 8 payload = bytesBE 8 challenge.sessionId.toNat
  nonce : slice 48 32 payload = challenge.nonce.toList
  r : ∃ b ∈ slice 88 32 payload, b ≠ 0
  s : ∃ b ∈ slice 120 32 payload, b ≠ 0
  imports : ∃ blob, normalizePublicKeyToEccBlob env.cng record.publicKey = some blob ∧
    env.cng.importKeyPair blob = some hKey ∧ hKey ≠ 0
  hashed : env.cng.sha256 (payload.take 88) = some digest
  verified : env.cng.verifySignature hKey digest (payload.drop 88) = true

/-! ### The bytes behind the message -/

/-- The fields of a deserialized message are slices of the bytes. -/
theorem deserializeSignedMessage_fields {data : Bytes} {msg : SignedMessage}
    (h : deserializeSignedMessage data = some msg) :
    slice 18 16 data = msg.deviceIdentity.toList ∧
      slice 40 8 data = bytesBE 8 msg.sessionID.toNat ∧ slice 48 32 data = msg.nonce.toList := by
  have hbytes := serializeSignedMessage_deserialize h
  rw [serializeSignedMessage_eq] at hbytes
  subst hbytes
  simp (disch := simp) only [slice_append_right, slice_append_left, length_bytesBE,
    List.Vector.toList_length, Nat.reduceSub, slice_all, and_self]

/-- A field inside the message is a field of the payload. -/
theorem slice_take {off len n : Nat} {data : Bytes} (h : off + len ≤ n) (hn : n ≤ data.length) :
    slice off len (data.take n) = slice off len data := by
  conv_rhs => rw [← List.take_append_drop n data]
  exact (slice_append_left (by rw [List.length_take]; omega)).symm

/-- A word is settled by its eight bytes. -/
theorem bytesBE_eight_inj {x y : UInt64} (h : bytesBE 8 x.toNat = bytesBE 8 y.toNat) : x = y := by
  have hx : natOfBE (bytesBE 8 x.toNat) = x.toNat := natOfBE_bytesBE_of_lt x.toNat_lt
  have hy : natOfBE (bytesBE 8 y.toNat) = y.toNat := natOfBE_bytesBE_of_lt y.toNat_lt
  rw [h, hy] at hx
  exact UInt64.toNat_inj.mp hx.symm

/-- Which payloads are parsed. -/
theorem parseAuthResponse_ok_iff {payload : Bytes} {msg : SignedMessage} :
    parseAuthResponse payload = .ok msg ↔
      payload.length = 152 ∧
        deserializeSignedMessage (payload.take CANONICAL_SIGNED_MESSAGE_SIZE) = some msg := by
  refine ⟨parseAuthResponse_ok, ?_⟩
  rintro ⟨hlen, hmsg⟩
  rw [parseAuthResponse, hlen, if_neg (by decide), if_neg (by decide), hmsg]

/-- Whether a payload is parsed at all depends on its size, its version and its opcode. -/
theorem parses_iff {payload : Bytes} :
    (∃ msg, parseAuthResponse payload = .ok msg) ↔
      payload.length = 152 ∧ payload.take 2 = [0x01, 0x00] ∧
        ∃ t ∈ knownMessageTypes, slice 34 2 payload = bytesBE 2 t.code.toNat := by
  simp only [parseAuthResponse_ok_iff, exists_and_left]
  refine and_congr_right fun hlen => ?_
  have htake : (payload.take CANONICAL_SIGNED_MESSAGE_SIZE).length = 88 := by
    rw [List.length_take, hlen]
    rfl
  have hversion : (payload.take CANONICAL_SIGNED_MESSAGE_SIZE).take 2 = payload.take 2 :=
    List.take_take.trans rfl
  have hopcode : slice 34 2 (payload.take CANONICAL_SIGNED_MESSAGE_SIZE) = slice 34 2 payload :=
    slice_take (by decide) (by rw [hlen]; decide)
  rw [← hopcode, ← isValidMessageType_opcodeAt (by omega), ← hversion, deserializeSignedMessage_eq]
  split
  · rename_i haccepted
    exact iff_of_true ⟨_, rfl⟩ haccepted.2
  · rename_i hrefused
    refine iff_of_false (by simp) ?_
    intro h
    exact hrefused ⟨htake, h⟩

/-! ### The signature -/

/-- What the verifier needs: the key, two parts of the signature that are not zero, and the
oracle. -/
theorem verifyCanonicalSignedMessage_iff {cng : Cng} {publicKey : Bytes} {msg : SignedMessage}
    {signature : Bytes} (hlen : signature.length = 64) :
    verifyCanonicalSignedMessage cng publicKey msg signature = true ↔
      ∃ hKey digest, importPublicKey cng publicKey = some hKey ∧ hKey ≠ 0 ∧
        (∃ b ∈ slice 0 32 signature, b ≠ 0) ∧ (∃ b ∈ slice 32 32 signature, b ≠ 0) ∧
        cng.sha256 (serializeSignedMessage msg) = some digest ∧
        cng.verifySignature hKey digest signature = true := by
  have hne : serializeSignedMessage msg ≠ [] := by
    intro hnil
    have hlength := length_serializeSignedMessage msg
    rw [hnil] at hlength
    cases hlength
  -- The parts that are compared with zero are the two halves.
  have hadapt : validateAndAdaptSignature signature =
      if (∃ b ∈ slice 0 32 signature, b ≠ 0) ∧ (∃ b ∈ slice 32 32 signature, b ≠ 0)
        then some signature else none := by
    have hany : ∀ l : Bytes, l.any (· ≠ 0) = true ↔ ∃ b ∈ l, b ≠ 0 := by simp
    rw [validateAndAdaptSignature, if_neg (by simp [hlen, P1363_SIGNATURE_SIZE])]
    simp only [P256_COORDINATE_SIZE, hany]
    split
    · rename_i hr
      exact (if_neg fun h => hr h.1).symm
    · rename_i hr
      rw [not_not] at hr
      split
      · rename_i hs
        exact (if_neg fun h => hs h.2).symm
      · rename_i hs
        rw [not_not] at hs
        exact (if_pos ⟨hr, hs⟩).symm
  unfold verifyCanonicalSignedMessage
  cases himport : importPublicKey cng publicKey with
  | none => simp
  | some hKey =>
    dsimp only
    rw [if_neg (by simp), verifySignature]
    by_cases hkey : hKey = 0
    · simp [hkey]
    · rw [if_neg (by simp [hkey, hne, hlen, P1363_SIGNATURE_SIZE])]
      cases hdigest : cng.sha256 (serializeSignedMessage msg) with
      | none => simp
      | some digest =>
        dsimp only
        rw [hadapt]
        by_cases hparts : (∃ b ∈ slice 0 32 signature, b ≠ 0) ∧
            (∃ b ∈ slice 32 32 signature, b ≠ 0)
        · rw [if_pos hparts]
          constructor
          · intro hverify
            exact ⟨hKey, digest, rfl, hkey, hparts.1, hparts.2, rfl, hverify⟩
          · rintro ⟨_, _, ⟨⟩, -, -, -, ⟨⟩, hverify⟩
            exact hverify
        · rw [if_neg hparts]
          refine iff_of_false (by simp) ?_
          rintro ⟨_, _, -, -, hr, hs, -, -⟩
          exact hparts ⟨hr, hs⟩

/-! ### The decision -/

/-- A device that is not limited has no lockout that ends later. -/
theorem isRateLimited_eq_false_iff {m : AuthenticationManager} {id : Bytes} {now : UInt64} :
    (m.isRateLimited id now).1 = false ↔
      ∀ limit, m.rateLimits id = some limit → limit.lockoutUntilMs ≤ now := by
  unfold isRateLimited
  cases hlimit : m.rateLimits id with
  | none => simp
  | some limit =>
    dsimp only
    split
    · rename_i hlocked
      simpa using hlocked
    · rename_i hfree
      rw [UInt64.not_lt] at hfree
      split
      · simpa using hfree
      · simpa using hfree

/-- The answer to the challenge passes exactly when the challenge in the slot is the one that was
signed. -/
theorem answerChallenge_eq_none_iff {m : AuthenticationManager} {id : Bytes} {now : UInt64}
    {cng : Cng} {publicKey : Bytes} {msg : SignedMessage} {signature : Bytes} :
    (answerChallenge m id now cng publicKey msg signature).2 = none ↔
      ∃ ch, m.activeChallenges id = some ch ∧ ch.isConsumed = false ∧
        challengeExpired ch now = false ∧ msg.sessionID = ch.sessionId ∧ msg.nonce = ch.nonce ∧
        verifyCanonicalSignedMessage cng publicKey msg signature = true := by
  constructor
  · intro hnone
    have hcase := answerChallenge_case m id now cng publicKey msg signature
    generalize answerChallenge m id now cng publicKey msg signature = ans at hcase hnone
    cases hcase with
    | kept r hr => cases hnone
    | consumed r hr ch hslot => cases hnone
    | passed ch hslot hfresh hage hsession hnonce hsig =>
      exact ⟨ch, hslot, hfresh, hage, hsession, hnonce, hsig⟩
  · rintro ⟨ch, hslot, hfresh, hage, hsession, hnonce, hsig⟩
    simp [answerChallenge, hslot, hfresh, hage, hsession, hnonce, hsig]

/-- A response succeeds exactly when it passes every check of the handler. -/
theorem handleAuthResponse_success_checks (m : AuthenticationManager) (reg : Registry)
    (hdr : FrameHeader) (payload : Bytes) (env : ResponseEnv) :
    (handleAuthResponse m reg hdr payload env).2.2.result = .SUCCESS ↔
      ∃ msg record ch, parseAuthResponse payload = .ok msg ∧
        (m.isRateLimited (deviceIdToString msg.deviceIdentity) env.now).1 = false ∧
        lookupDevice env.access reg (deviceIdToString msg.deviceIdentity) = .ok record ∧
        m.activeChallenges (deviceIdToString msg.deviceIdentity) = some ch ∧
        ch.isConsumed = false ∧ challengeExpired ch env.now = false ∧
        msg.sessionID = ch.sessionId ∧ msg.nonce = ch.nonce ∧
        verifyCanonicalSignedMessage env.cng record.publicKey msg
          (payload.drop CANONICAL_SIGNED_MESSAGE_SIZE) = true := by
  constructor
  · intro hsuccess
    have hcase := handleAuthResponse_case m reg hdr payload env
    generalize handleAuthResponse m reg hdr payload env = res at hcase hsuccess
    cases hcase with
    | invalid r hp => simp [parseAuthResponse_error hp] at hsuccess
    | limited msg hp h => simp at hsuccess
    | failed msg hp h r hr m' hm' => exact absurd hsuccess (countedFailure_ne hr).1
    | accepted msg hp h record hr ch hslot hfresh hage hsession hnonce hsig =>
      exact ⟨msg, record, ch, hp, h, hr, hslot, hfresh, hage, hsession, hnonce, hsig⟩
  · rintro ⟨msg, record, ch, hp, hlimited, hrecord, hslot, hanswer⟩
    rw [← isRateLimited_activeChallenges m (deviceIdToString msg.deviceIdentity) env.now] at hslot
    have hpasses := answerChallenge_eq_none_iff.mpr ⟨ch, hslot, hanswer⟩
    rw [handleAuthResponse_accepted m reg hdr payload env hp hlimited hrecord hpasses]
    rfl

/-- The exact acceptance condition of `HandleAuthResponse`, for every state of the manager and the
registry, every clock reading and every payload. -/
theorem handleAuthResponse_success_iff (m : AuthenticationManager) (reg : Registry)
    (hdr : FrameHeader) (payload : Bytes) (env : ResponseEnv) :
    (handleAuthResponse m reg hdr payload env).2.2.result = .SUCCESS ↔
      ∃ record challenge hKey digest,
        ResponseAccepted m reg payload env record challenge hKey digest := by
  rw [handleAuthResponse_success_checks]
  have hhalves : ∀ off len, slice off len (payload.drop CANONICAL_SIGNED_MESSAGE_SIZE)
      = slice (88 + off) len payload := by
    intro off len
    rw [slice, List.drop_drop]
    rfl
  constructor
  · rintro ⟨msg, record, ch, hp, hlimited, hrecord, hslot, hfresh, hage, hsession, hnonce, hsig⟩
    obtain ⟨hlen, hversion, hoperation⟩ := parses_iff.mp ⟨msg, hp⟩
    obtain ⟨-, hmsg⟩ := parseAuthResponse_ok hp
    obtain ⟨hdevice, hsessionBytes, hnonceBytes⟩ := deserializeSignedMessage_fields hmsg
    rw [slice_take (by decide) (by rw [hlen]; decide)] at hdevice hsessionBytes hnonceBytes
    have hid : msg.deviceIdentity = payloadDevice payload := by
      apply List.Vector.eq
      rw [payloadDevice, toList_copyBytes (by omega), hdevice]
    rw [hid] at hlimited hrecord hslot
    obtain ⟨hfound, hactive, hkey⟩ := lookupDevice_ok.mp hrecord
    obtain ⟨hle, hage⟩ := challengeExpired_eq_false hage
    have hsiglen : (payload.drop CANONICAL_SIGNED_MESSAGE_SIZE).length = 64 := by
      rw [List.length_drop, hlen]
      rfl
    obtain ⟨hKey, digest, himport, hhandle, hr, hs, hhash, hverify⟩ :=
      (verifyCanonicalSignedMessage_iff hsiglen).mp hsig
    rw [hhalves] at hr hs
    obtain ⟨blob, hblob, himported⟩ := Option.bind_eq_some_iff.mp himport
    rw [serializeSignedMessage_deserialize hmsg] at hhash
    exact ⟨record, ch, hKey, digest, hlen, hversion, hoperation,
      isRateLimited_eq_false_iff.mp hlimited, hfound, hactive, hkey, hslot, hfresh, hle, hage,
      by rw [hsessionBytes, hsession], by rw [hnonceBytes, hnonce], hr, hs,
      ⟨blob, hblob, himported, hhandle⟩, hhash, hverify⟩
  · rintro ⟨record, ch, hKey, digest, h⟩
    obtain ⟨msg, hp⟩ := parses_iff.mpr ⟨h.size, h.version, h.operation⟩
    obtain ⟨-, hmsg⟩ := parseAuthResponse_ok hp
    obtain ⟨hdevice, hsessionBytes, hnonceBytes⟩ := deserializeSignedMessage_fields hmsg
    rw [slice_take (by decide) (by rw [h.size]; decide)] at hdevice hsessionBytes hnonceBytes
    have hid : msg.deviceIdentity = payloadDevice payload := by
      apply List.Vector.eq
      rw [payloadDevice, toList_copyBytes (by rw [h.size]; decide), hdevice]
    have hsiglen : (payload.drop CANONICAL_SIGNED_MESSAGE_SIZE).length = 64 := by
      rw [List.length_drop, h.size]
      rfl
    obtain ⟨blob, hblob, himported, hhandle⟩ := h.imports
    refine ⟨msg, record, ch, hp, ?_, ?_, ?_, h.unconsumed, ?_, ?_, ?_, ?_⟩
    · rw [hid]
      exact isRateLimited_eq_false_iff.mpr h.unlocked
    · rw [hid]
      exact lookupDevice_ok.mpr ⟨h.found, h.active, h.key⟩
    · rw [hid]
      exact h.slot
    · exact challengeExpired_of_fresh h.created h.fresh
    · exact bytesBE_eight_inj (hsessionBytes.symm.trans h.session)
    · exact List.Vector.eq _ _ (hnonceBytes.symm.trans h.nonce)
    · refine (verifyCanonicalSignedMessage_iff hsiglen).mpr
        ⟨hKey, digest, Option.bind_eq_some_iff.mpr ⟨blob, hblob, himported⟩, hhandle, ?_, ?_, ?_,
          h.verified⟩
      · rw [hhalves]
        exact h.r
      · rw [hhalves]
        exact h.s
      · rw [serializeSignedMessage_deserialize hmsg]
        exact h.hashed

end MobileUnlock.Authentication
