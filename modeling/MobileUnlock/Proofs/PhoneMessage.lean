import MobileUnlock.Android.CanonicalSignedMessage
import MobileUnlock.Proofs.Codec

/-!
# `MobileUnlock.Proofs.PhoneMessage`: both ends sign the same bytes

`toCanonicalBytes_eq` is what the phone writes: the fields one behind the other, each in
big-endian order. `serializeSignedMessage_eq` says the same of the PC. They differ in one place. The
phone turns a 64-bit field into an `int` first, and from `2 ^ 63` on that clamps it
(`toCanonicalBytes_agrees_iff`).
-/

set_option autoImplicit false

namespace MobileUnlock.Android

open MobileUnlock.Lib MobileUnlock.Lib.Dart MobileUnlock.Protocol

/-- What the phone writes, when its arrays are long enough. -/
theorem toCanonicalBytes_eq {m : CanonicalSignedMessage}
    (hserver : 16 ≤ m.serverIdentityBytes.length) (hdevice : 16 ≤ m.deviceIdentityBytes.length)
    (hnonce : 32 ≤ m.nonceBytes.length) :
    m.toCanonicalBytes = .ok (uintBytes 2 m.protocolVersion ++ m.serverIdentityBytes.take 16 ++
      m.deviceIdentityBytes.take 16 ++ uintBytes 2 m.operation ++ uintBytes 4 m.requestId ++
      uintBytes 8 (bigIntToInt m.sessionId) ++ m.nonceBytes.take 32 ++
      uintBytes 8 (bigIntToInt m.timestamp)) := by
  obtain ⟨version, server, device, operation, requestId, sessionId, nonce, timestamp⟩ := m
  dsimp only at hserver hdevice hnonce ⊢
  -- the first eight fields, and the offset behind each of them
  have l1 : (uintBytes 2 version).length = 2 := length_uintBytes 2 version
  have l2 : (uintBytes 2 version ++ server.take 16).length = 18 := by
    rw [List.length_append, l1, List.length_take, Nat.min_eq_left hserver]
  have l3 : (uintBytes 2 version ++ server.take 16 ++ device.take 16).length = 34 := by
    rw [List.length_append, l2, List.length_take, Nat.min_eq_left hdevice]
  have l4 : (uintBytes 2 version ++ server.take 16 ++ device.take 16 ++
      uintBytes 2 operation).length = 36 := by
    rw [List.length_append, l3, length_uintBytes]
  have l5 : (uintBytes 2 version ++ server.take 16 ++ device.take 16 ++ uintBytes 2 operation ++
      uintBytes 4 requestId).length = 40 := by
    rw [List.length_append, l4, length_uintBytes]
  have l6 : (uintBytes 2 version ++ server.take 16 ++ device.take 16 ++ uintBytes 2 operation ++
      uintBytes 4 requestId ++ uintBytes 8 (bigIntToInt sessionId)).length = 48 := by
    rw [List.length_append, l5, length_uintBytes]
  have l7 : (uintBytes 2 version ++ server.take 16 ++ device.take 16 ++ uintBytes 2 operation ++
      uintBytes 4 requestId ++ uintBytes 8 (bigIntToInt sessionId) ++ nonce.take 32).length
        = 80 := by
    rw [List.length_append, l6, List.length_take, Nat.min_eq_left hnonce]
  -- every write goes into the zeros behind the fields before it
  have w1 : setUint16 (List.replicate 88 0) 0 version = .ok (uintBytes 2 version ++ _) :=
    @setUint_zeros [] 0 rfl 2 86 version
  have w2 := setBytes_zeros l1 hserver 70
  have w3 := setBytes_zeros l2 hdevice 54
  have w4 := setUint_zeros l3 2 52 operation
  have w5 := setUint_zeros l4 4 48 requestId
  have w6 := setUint_zeros l5 8 40 (bigIntToInt sessionId)
  have w7 := setBytes_zeros l6 hnonce 8
  have w8 := setUint_zeros l7 8 0 (bigIntToInt timestamp)
  simp only [Nat.reduceAdd] at w2 w3 w4 w5 w6 w7 w8
  simp only [CanonicalSignedMessage.toCanonicalBytes, setUint32, setUint64, bind, Except.bind,
    Nat.reduceAdd, w1, w2, w3]
  simp only [setUint16, w4, w5, w6, w7, w8, List.replicate_zero, List.append_nil]

/-- The message of the PC as the phone holds it. -/
def ofSignedMessage (m : SignedMessage) : CanonicalSignedMessage where
  protocolVersion := m.protocolVersion.toNat
  serverIdentityBytes := m.serverIdentity.toList
  deviceIdentityBytes := m.deviceIdentity.toList
  operation := m.operation.toNat
  requestId := m.requestID.toNat
  sessionId := m.sessionID.toNat
  nonceBytes := m.nonce.toList
  timestamp := m.timestamp.toNat

/-- The phone writes the fields of the PC, except that the 64-bit words are clamped. -/
theorem toCanonicalBytes_ofSignedMessage (m : SignedMessage) :
    (ofSignedMessage m).toCanonicalBytes = .ok (bytesBE 2 m.protocolVersion.toNat ++
      (m.serverIdentity.toList ++ (m.deviceIdentity.toList ++ (bytesBE 2 m.operation.toNat ++
        (bytesBE 4 m.requestID.toNat ++ (uintBytes 8 (bigIntToInt m.sessionID.toNat) ++
          (m.nonce.toList ++ uintBytes 8 (bigIntToInt m.timestamp.toNat)))))))) := by
  have hversion : uintBytes 2 m.protocolVersion.toNat = bytesBE 2 m.protocolVersion.toNat :=
    uintBytes_of_lt m.protocolVersion.toNat_lt
  have hoperation : uintBytes 2 m.operation.toNat = bytesBE 2 m.operation.toNat :=
    uintBytes_of_lt m.operation.toNat_lt
  have hrequest : uintBytes 4 m.requestID.toNat = bytesBE 4 m.requestID.toNat :=
    uintBytes_of_lt m.requestID.toNat_lt
  have htake : ∀ {n : Nat} (v : ByteArr n), v.toList.take n = v.toList := by
    intro n v
    exact List.take_of_length_le (by simp)
  rw [toCanonicalBytes_eq (by simp [ofSignedMessage]) (by simp [ofSignedMessage])
    (by simp [ofSignedMessage])]
  simp only [ofSignedMessage, hversion, hoperation, hrequest, htake, List.append_assoc]

/-- A 64-bit word is written as it is exactly when it fits into an `int`. -/
theorem uintBytes_bigIntToInt_iff (x : UInt64) :
    uintBytes 8 (bigIntToInt x.toNat) = bytesBE 8 x.toNat ↔ x.toNat < 2 ^ 63 := by
  have hx : x.toNat < 256 ^ 8 := x.toNat_lt
  constructor
  · intro h
    by_contra hlarge
    -- the clamped word is another number, and its bytes tell them apart
    rw [bigIntToInt_of_large (by omega), uintBytes_of_lt (by decide)] at h
    have hvalue := congrArg natOfBE h
    rw [natOfBE_bytesBE, natOfBE_bytesBE, Nat.mod_eq_of_lt hx] at hvalue
    omega
  · intro h
    rw [bigIntToInt_of_fits h, uintBytes_of_lt hx]

/-- With both words in range the phone writes what the PC serializes. -/
theorem toCanonicalBytes_of_fits {m : SignedMessage} (hsession : m.sessionID.toNat < 2 ^ 63)
    (htimestamp : m.timestamp.toNat < 2 ^ 63) :
    (ofSignedMessage m).toCanonicalBytes = .ok (serializeSignedMessage m) := by
  rw [toCanonicalBytes_ofSignedMessage, serializeSignedMessage_eq,
    (uintBytes_bigIntToInt_iff _).mpr hsession, (uintBytes_bigIntToInt_iff _).mpr htimestamp]

/-- Both ends sign the same bytes if and only if session id and timestamp are below `2 ^ 63`. -/
theorem toCanonicalBytes_agrees_iff (m : SignedMessage) :
    (ofSignedMessage m).toCanonicalBytes = .ok (serializeSignedMessage m) ↔
      m.sessionID.toNat < 2 ^ 63 ∧ m.timestamp.toNat < 2 ^ 63 := by
  constructor
  · intro h
    rw [toCanonicalBytes_ofSignedMessage, serializeSignedMessage_eq, Except.ok.injEq] at h
    simp only [List.append_cancel_left_eq] at h
    obtain ⟨hsession, hrest⟩ := List.append_inj h (by simp)
    exact ⟨(uintBytes_bigIntToInt_iff _).mp hsession,
      (uintBytes_bigIntToInt_iff _).mp (List.append_cancel_left hrest)⟩
  · rintro ⟨hsession, htimestamp⟩
    exact toCanonicalBytes_of_fits hsession htimestamp

/-- The first session id that does not fit. -/
def largeSessionMessage : SignedMessage where
  protocolVersion := SIGNED_MESSAGE_VERSION
  serverIdentity := List.Vector.replicate 16 0xAA
  deviceIdentity := List.Vector.replicate 16 1
  operation := MessageType.AUTH_RESPONSE.code
  requestID := 1
  sessionID := 0x8000000000000000
  nonce := List.Vector.replicate 32 7
  timestamp := 1000

/-- The phone signs 7F FF FF FF FF FF FF FF where the PC has 80 00 00 00 00 00 00 00. -/
theorem toCanonicalBytes_largeSession :
    (ofSignedMessage largeSessionMessage).toCanonicalBytes
        ≠ .ok (serializeSignedMessage largeSessionMessage) ∧
      (ofSignedMessage largeSessionMessage).toCanonicalBytes.map (slice 40 8)
        = .ok [0x7F, 0xFF, 0xFF, 0xFF, 0xFF, 0xFF, 0xFF, 0xFF] ∧
      slice 40 8 (serializeSignedMessage largeSessionMessage) = [0x80, 0, 0, 0, 0, 0, 0, 0] := by
  have hphone : (ofSignedMessage largeSessionMessage).toCanonicalBytes.map (slice 40 8)
      = .ok [0x7F, 0xFF, 0xFF, 0xFF, 0xFF, 0xFF, 0xFF, 0xFF] := by
    decide +kernel
  have hpc : slice 40 8 (serializeSignedMessage largeSessionMessage)
      = [0x80, 0, 0, 0, 0, 0, 0, 0] := by
    decide +kernel
  refine ⟨?_, hphone, hpc⟩
  intro h
  rw [h] at hphone
  have hsame := Except.ok.inj hphone
  rw [hpc] at hsame
  exact absurd hsame (by decide)

end MobileUnlock.Android
