import MobileUnlock.Android.AuthenticationService
import MobileUnlock.Authentication.AuthenticationManager
import MobileUnlock.Proofs.DeviceIdentity
import MobileUnlock.Proofs.PhoneMessage

/-!
# `MobileUnlock.Proofs.PhoneChallenge`: a phone reads the challenges of the PC

The PC writes a challenge as a JSON text with decimal numbers and lower-case hexadecimal. The phone
decodes it to the same values (`decodeChallenge_challengePayload`), as long as the two numbers are
below `2 ^ 63`. From them it builds the bytes that the PC serializes for the same fields
(`buildCanonicalSignedMessage_eq`).
-/

set_option autoImplicit false

namespace MobileUnlock.Android

open MobileUnlock.Lib MobileUnlock.Lib.Dart MobileUnlock.Protocol MobileUnlock.Pairing
open MobileUnlock.Authentication

/-! ### Hexadecimal text -/

/-- The code units of an ASCII text. -/
def units (bytes : Bytes) : DartString := bytes.map UInt8.toUInt16

theorem units_append (a b : Bytes) : units (a ++ b) = units a ++ units b := List.map_append

/-- The digits that the PC writes: their value, and what they are not. -/
theorem hexDigit_unit {n : Nat} (hn : n < 16) :
    digitValue 16 (hexDigit n).toUInt16 = some n ∧ isPlain (hexDigit n).toUInt16 = true ∧
      hexDigit n < 0x80 := by
  have h : ∀ m : Fin 16, digitValue 16 (hexDigit m.val).toUInt16 = some m.val ∧
      isPlain (hexDigit m.val).toUInt16 = true ∧ hexDigit m.val < 0x80 := by decide
  exact h ⟨n, hn⟩

/-- Every character of a hexadecimal text is one of those digits. -/
theorem mem_hexBytes {bs : Bytes} {c : UInt8} (h : c ∈ hexBytes bs) :
    ∃ n < 16, c = hexDigit n := by
  obtain ⟨b, -, hb⟩ := List.mem_flatMap.mp h
  have hlt := b.toNat_lt
  simp only [hexByte, List.mem_cons, List.not_mem_nil, or_false] at hb
  rcases hb with rfl | rfl
  · exact ⟨b.toNat / 16, by omega, rfl⟩
  · exact ⟨b.toNat % 16, by omega, rfl⟩

theorem hexBytesLoop_hexBytes (bs : Bytes) :
    hexBytesLoop (units (hexBytes bs)) = .ok (bs.map fun b => (b.toNat : Int)) := by
  induction bs with
  | nil => rfl
  | cons b bs ih =>
    have hlt := b.toNat_lt
    have hhigh := hexDigit_unit (n := b.toNat / 16) (by omega)
    have hlow := hexDigit_unit (n := b.toNat % 16) (by omega)
    have hpair := intParse_pair hhigh.1 hlow.1 (by omega) (by omega)
    have hbyte : 16 * (b.toNat / 16) + b.toNat % 16 = b.toNat := by omega
    rw [hbyte] at hpair
    have hunits : units (hexBytes (b :: bs)) = (hexDigit (b.toNat / 16)).toUInt16 ::
        (hexDigit (b.toNat % 16)).toUInt16 :: units (hexBytes bs) := rfl
    rw [hunits, hexBytesLoop, hpair]
    show (hexBytesLoop (units (hexBytes bs)) >>= fun bytes => _) = _
    rw [ih]
    rfl

/-- The phone reads the bytes that the PC has written. -/
theorem hexToBytes_hexBytes (bs : Bytes) : hexToBytes (units (hexBytes bs)) = .ok bs := by
  have hbytes : uint8ListFromList (bs.map fun b => (b.toNat : Int)) = bs := by
    have hbyte : ∀ b : UInt8, UInt8.ofNat ((b.toNat : Int) % 256).toNat = b := by
      intro b
      have hlt := b.toNat_lt
      have hmod : ((b.toNat : Int) % 256).toNat = b.toNat := by omega
      rw [hmod, UInt8.ofNat_toNat]
    unfold uint8ListFromList
    rw [List.map_map]
    exact List.map_id'' hbyte bs
  rw [hexToBytes, hexBytesLoop_hexBytes]
  show Except.ok (uint8ListFromList _) = _
  rw [hbytes]

/-! ### The payload of a challenge -/

/-- The text of a challenge, cut where the parser cuts it. -/
theorem units_challengePayload (serverIdentity : ByteArr 16) (ch : ActiveChallenge) :
    units (challengePayload serverIdentity ch) =
      0x7B :: 0x22 :: (literal "sessionId" ++ 0x22 :: 0x3A ::
      (literal (toString ch.sessionId.toNat) ++ 0x2C :: 0x22 :: (literal "nonce" ++ 0x22 :: 0x3A ::
      0x22 :: (units (hexBytes ch.nonce.toList) ++ 0x22 :: 0x2C :: 0x22 ::
      (literal "serverIdentity" ++ 0x22 :: 0x3A :: 0x22 ::
      (units (hexBytes serverIdentity.toList) ++ 0x22 :: 0x2C :: 0x22 ::
      (literal "timestamp" ++ 0x22 :: 0x3A ::
      (literal (toString ch.createdAtMs.toNat) ++ [0x7D])))))))) := by
  have h1 : units (ascii "\x7b\"sessionId\":") = 0x7B :: 0x22 :: (literal "sessionId" ++
      [0x22, 0x3A]) := by decide
  have h2 : units (ascii ",\"nonce\":\"") = 0x2C :: 0x22 :: (literal "nonce" ++
      [0x22, 0x3A, 0x22]) := by decide
  have h3 : units (ascii "\",\"serverIdentity\":\"") = 0x22 :: 0x2C :: 0x22 ::
      (literal "serverIdentity" ++ [0x22, 0x3A, 0x22]) := by decide
  have h4 : units (ascii "\",\"timestamp\":") = 0x22 :: 0x2C :: 0x22 :: (literal "timestamp" ++
      [0x22, 0x3A]) := by decide
  have h5 : units (ascii "\x7d") = [0x7D] := by decide
  have hdecimal : ∀ n : Nat, units (decimal n) = literal (toString n) := fun _ => rfl
  simp only [challengePayload, units_append, h1, h2, h3, h4, h5, hdecimal, List.append_assoc,
    List.cons_append, List.nil_append]

/-- Every byte of a challenge is ASCII. -/
theorem challengePayload_ascii (serverIdentity : ByteArr 16) (ch : ActiveChallenge) :
    ∀ b ∈ challengePayload serverIdentity ch, b < 0x80 := by
  -- The payload is made of texts, decimal numbers and hexadecimal digits.
  have hdecimal : ∀ n : Nat, ∀ b ∈ decimal n, b < 0x80 := by
    intro n b hb
    have hdigit := (isDecimal_toString n).digits b.toUInt16 (List.mem_map_of_mem hb)
    simp only [isDigit, Bool.and_eq_true, decide_eq_true_eq, UInt16.le_iff_toNat_le,
      UInt8.toNat_toUInt16, UInt16.reduceToNat] at hdigit
    rw [UInt8.lt_iff_toNat_lt]
    show b.toNat < 128
    omega
  have hhex : ∀ bs : Bytes, ∀ b ∈ hexBytes bs, b < 0x80 := by
    intro bs b hb
    obtain ⟨n, hn, rfl⟩ := mem_hexBytes hb
    exact (hexDigit_unit hn).2.2
  have htext : ∀ text : Bytes, text.all (· < 0x80) = true → ∀ b ∈ text, b < 0x80 := by
    intro text h b hb
    simpa using List.all_eq_true.mp h b hb
  intro b hb
  simp only [challengePayload, List.mem_append] at hb
  rcases hb with (((((((hb | hb) | hb) | hb) | hb) | hb) | hb) | hb) | hb
  · exact htext _ (by decide) b hb
  · exact hdecimal _ b hb
  · exact htext _ (by decide) b hb
  · exact hhex _ b hb
  · exact htext _ (by decide) b hb
  · exact hhex _ b hb
  · exact htext _ (by decide) b hb
  · exact hdecimal _ b hb
  · exact htext _ (by decide) b hb

/-- The members of a challenge. -/
def challengeMembers (serverIdentity : ByteArr 16) (ch : ActiveChallenge) :
    List (DartString × Json) :=
  [(literal "sessionId", .int ch.sessionId.toNat),
   (literal "nonce", .string (units (hexBytes ch.nonce.toList))),
   (literal "serverIdentity", .string (units (hexBytes serverIdentity.toList))),
   (literal "timestamp", .int ch.createdAtMs.toNat)]

/-- The parser finds the four members. -/
theorem jsonDecode_challengePayload (serverIdentity : ByteArr 16) {ch : ActiveChallenge}
    (hsession : ch.sessionId.toNat < 2 ^ 63) (htime : ch.createdAtMs.toNat < 2 ^ 63) :
    jsonDecode (units (challengePayload serverIdentity ch))
      = .ok (.object (challengeMembers serverIdentity ch)) := by
  have hkeys : ∀ key ∈ ["sessionId", "nonce", "serverIdentity", "timestamp"],
      ∀ c ∈ literal key, isPlain c = true := by
    intro key hkey
    simp only [List.mem_cons, List.not_mem_nil, or_false] at hkey
    rcases hkey with rfl | rfl | rfl | rfl
    · exact List.all_eq_true.mp (by decide)
    · exact List.all_eq_true.mp (by decide)
    · exact List.all_eq_true.mp (by decide)
    · exact List.all_eq_true.mp (by decide)
  have hhex : ∀ bs : Bytes, ∀ c ∈ units (hexBytes bs), isPlain c = true := by
    intro bs c hc
    obtain ⟨b, hb, rfl⟩ := List.mem_map.mp hc
    obtain ⟨n, hn, rfl⟩ := mem_hexBytes hb
    exact (hexDigit_unit hn).2.1
  -- the text has more than six characters, so the fuel lasts for the four members
  obtain ⟨fuel, hfuel⟩ : ∃ fuel,
      2 * (units (challengePayload serverIdentity ch)).length + 2 =
        fuel + 1 + 1 + 1 + 1 + 1 + 1 := by
    refine ⟨2 * (units (challengePayload serverIdentity ch)).length - 4, ?_⟩
    have hlen : 2 ≤ (units (challengePayload serverIdentity ch)).length := by
      rw [units_challengePayload]
      simp only [List.length_cons]
      omega
    omega
  -- the members from the last one to the first
  have m4 := @parseMembers_last (fuel + 1) _ _ _ _ _
    (parseKey_plain (hkeys "timestamp" (by simp))
      (literal (toString ch.createdAtMs.toNat) ++ [0x7D]))
    ((isDecimal_toString _).parseValue htime (by decide) fuel [])
  have m3 := parseMembers_cons
    (parseKey_plain (hkeys "serverIdentity" (by simp)) _)
    (parseValue_string (hhex serverIdentity.toList) (fuel + 1) _) m4
  have m2 := parseMembers_cons
    (parseKey_plain (hkeys "nonce" (by simp)) _)
    (parseValue_string (hhex ch.nonce.toList) (fuel + 1 + 1) _) m3
  have m1 := parseMembers_cons
    (parseKey_plain (hkeys "sessionId" (by simp)) _)
    ((isDecimal_toString _).parseValue hsession (by decide) (fuel + 1 + 1 + 1) _) m2
  unfold jsonDecode
  rw [hfuel, units_challengePayload, parseValue_object m1]
  show (if skipSpace [] = [] then Except.ok (Json.object (challengeMembers serverIdentity ch))
    else .error .FormatException) = _
  exact if_pos rfl

/-- What a phone reads from a challenge of the PC. -/
theorem decodeChallenge_challengePayload (serverIdentity : ByteArr 16) {ch : ActiveChallenge}
    (hsession : ch.sessionId.toNat < 2 ^ 63) (htime : ch.createdAtMs.toNat < 2 ^ 63) :
    decodeChallenge (challengePayload serverIdentity ch) = .ok
      { sessionId := ch.sessionId.toNat
        nonce := ch.nonce.toList
        serverIdentity := serverIdentity.toList
        timestamp := ch.createdAtMs.toNat } := by
  have hsessionId : Json.index (challengeMembers serverIdentity ch) (literal "sessionId")
      = .int ch.sessionId.toNat := rfl
  have hnonce : Json.index (challengeMembers serverIdentity ch) (literal "nonce")
      = .string (units (hexBytes ch.nonce.toList)) := rfl
  have hserver : Json.index (challengeMembers serverIdentity ch) (literal "serverIdentity")
      = .string (units (hexBytes serverIdentity.toList)) := rfl
  have htimestamp : Json.index (challengeMembers serverIdentity ch) (literal "timestamp")
      = .int ch.createdAtMs.toNat := rfl
  have hutf8 : utf8Decode (challengePayload serverIdentity ch)
      = .ok (units (challengePayload serverIdentity ch)) :=
    utf8Decode_ascii (challengePayload_ascii serverIdentity ch)
  have hjson := jsonDecode_challengePayload serverIdentity hsession htime
  simp only [decodeChallenge, hutf8, hjson, Json.asMap, AuthChallenge.fromJson, hsessionId, hnonce,
    hserver, htimestamp, Json.asInt, Json.asString, bind, Except.bind, hexToBytes_hexBytes]

/-! ### The answer of the phone -/

/-- The message that answers a challenge. -/
def answerMessage (serverIdentity : ByteArr 16) (ch : ActiveChallenge) (requestID : UInt32) :
    SignedMessage where
  protocolVersion := SIGNED_MESSAGE_VERSION
  serverIdentity := serverIdentity
  deviceIdentity := ch.deviceId
  operation := MessageType.AUTH_RESPONSE.code
  requestID := requestID
  sessionID := ch.sessionId
  nonce := ch.nonce
  timestamp := ch.createdAtMs

/-- The phone builds the bytes that the PC serializes for the answer. -/
theorem buildCanonicalSignedMessage_eq (serverIdentity : ByteArr 16) {ch : ActiveChallenge}
    (hsession : ch.sessionId.toNat < 2 ^ 63) (htime : ch.createdAtMs.toNat < 2 ^ 63)
    (requestID : UInt32) :
    buildCanonicalSignedMessage serverIdentity.toList ch.deviceId.toList requestID.toNat
        ch.sessionId.toNat ch.nonce.toList ch.createdAtMs.toNat
      = .ok (serializeSignedMessage (answerMessage serverIdentity ch requestID)) :=
  @toCanonicalBytes_of_fits (answerMessage serverIdentity ch requestID) hsession htime

/-- The payload of the phone is the message with the signature behind it. -/
theorem signAuthChallenge_eq {sign : Bytes → Except SigningError Bytes} {challenge : AuthChallenge}
    {deviceIdentity canonicalBytes signature : Bytes} {requestId : Int}
    (hbuild : buildCanonicalSignedMessage challenge.serverIdentity deviceIdentity requestId
      challenge.sessionId challenge.nonce challenge.timestamp = .ok canonicalBytes)
    (hlen : canonicalBytes.length = 88) (hsign : sign canonicalBytes = .ok signature)
    (hsig : signature.length = 64) :
    signAuthChallenge sign challenge deviceIdentity requestId
      = .ok (canonicalBytes ++ signature) := by
  have hmessage : setRange (List.replicate (88 + 64) 0) 0 88 canonicalBytes
      = .ok (canonicalBytes ++ List.replicate 64 0) := by
    have htake : canonicalBytes.take 88 = canonicalBytes := List.take_of_length_le (by omega)
    rw [setRange, if_pos (by simp), if_pos (by omega), Nat.sub_zero, htake, List.drop_replicate,
      List.take_zero, List.nil_append]
  have hbehind : setRange (canonicalBytes ++ List.replicate 64 0) 88 152 signature
      = .ok (canonicalBytes ++ signature) := by
    have htotal : (canonicalBytes ++ List.replicate 64 (0 : UInt8)).length = 152 := by
      rw [List.length_append, hlen, List.length_replicate]
    rw [setRange, if_pos ⟨by decide, by omega⟩, if_pos (by omega), List.take_left' hlen,
      List.take_of_length_le (by omega), List.drop_of_length_le (by omega), List.append_nil]
  simp only [signAuthChallenge, hbuild, hsign, Except.mapError, bind, Except.bind, hsig, ne_eq,
    not_true_eq_false, if_false, hmessage, hbehind]

end MobileUnlock.Android
