import MobileUnlock.Protocol.SignedMessage

/-!
# `MobileUnlock.Proofs.Codec`: the codecs of header and signed message

The packed header has 24 bytes, and reading it back from its own bytes gives it back
(`FrameHeader.ofLayout_layout`). With the byte swaps this makes `deserializeFrameHeader` a
left inverse of `serializeFrameHeader` on the headers that pass its checks
(`deserializeFrameHeader_serialize`), whatever bytes follow.

The signed message has the same two facts (`deserializeSignedMessage_serialize`). Its size is
fixed, so the converse holds, too: the bytes that are accepted are the serialization of what is
read from them (`serializeSignedMessage_deserialize`). Both verifiers serialize a message again
before they check its signature, and by this they check the bytes that were received.

A reassembler calls the deserializer on a buffer that keeps growing.
`deserializeFrameHeader_append` says that its answer is settled by the first 24 bytes.
-/

set_option autoImplicit false

namespace MobileUnlock.Protocol

open MobileUnlock.Lib

/-! ### Words in memory -/

@[simp] theorem networkToHost16_hostToNetwork16 (x : UInt16) :
    networkToHost16 (hostToNetwork16 x) = x := by
  have hx : x.toNat < 256 ^ 2 := x.toNat_lt
  have hs : (UInt16.ofNat (byteSwap 2 x.toNat)).toNat = byteSwap 2 x.toNat :=
    UInt16.toNat_ofNat_of_lt (byteSwap_lt 2 x.toNat)
  rw [networkToHost16, hostToNetwork16, hostToNetwork16, hs, byteSwap_byteSwap hx,
    UInt16.ofNat_toNat]

@[simp] theorem networkToHost32_hostToNetwork32 (x : UInt32) :
    networkToHost32 (hostToNetwork32 x) = x := by
  have hx : x.toNat < 256 ^ 4 := x.toNat_lt
  have hs : (UInt32.ofNat (byteSwap 4 x.toNat)).toNat = byteSwap 4 x.toNat :=
    UInt32.toNat_ofNat_of_lt (byteSwap_lt 4 x.toNat)
  rw [networkToHost32, hostToNetwork32, hostToNetwork32, hs, byteSwap_byteSwap hx,
    UInt32.ofNat_toNat]

@[simp] theorem networkToHost64_hostToNetwork64 (x : UInt64) :
    networkToHost64 (hostToNetwork64 x) = x := by
  have hx : x.toNat < 256 ^ 8 := x.toNat_lt
  have hs : (UInt64.ofNat (byteSwap 8 x.toNat)).toNat = byteSwap 8 x.toNat :=
    UInt64.toNat_ofNat_of_lt (byteSwap_lt 8 x.toNat)
  rw [networkToHost64, hostToNetwork64, hostToNetwork64, hs, byteSwap_byteSwap hx,
    UInt64.ofNat_toNat]

/-- In memory a swapped word is the word in network byte order. -/
theorem bytesLE_hostToNetwork16 (x : UInt16) :
    bytesLE 2 (hostToNetwork16 x).toNat = bytesBE 2 x.toNat := by
  have hs : (UInt16.ofNat (byteSwap 2 x.toNat)).toNat = byteSwap 2 x.toNat :=
    UInt16.toNat_ofNat_of_lt (byteSwap_lt 2 x.toNat)
  rw [hostToNetwork16, hs, bytesLE_byteSwap]

theorem bytesLE_hostToNetwork32 (x : UInt32) :
    bytesLE 4 (hostToNetwork32 x).toNat = bytesBE 4 x.toNat := by
  have hs : (UInt32.ofNat (byteSwap 4 x.toNat)).toNat = byteSwap 4 x.toNat :=
    UInt32.toNat_ofNat_of_lt (byteSwap_lt 4 x.toNat)
  rw [hostToNetwork32, hs, bytesLE_byteSwap]

theorem bytesLE_hostToNetwork64 (x : UInt64) :
    bytesLE 8 (hostToNetwork64 x).toNat = bytesBE 8 x.toNat := by
  have hs : (UInt64.ofNat (byteSwap 8 x.toNat)).toNat = byteSwap 8 x.toNat :=
    UInt64.toNat_ofNat_of_lt (byteSwap_lt 8 x.toNat)
  rw [hostToNetwork64, hs, bytesLE_byteSwap]

/-- A field of two bytes, swapped, is the number that the bytes spell in network byte order. -/
theorem networkToHost16_ofNat {bs : Bytes} (h : bs.length = 2) :
    networkToHost16 (UInt16.ofNat (natOfLE bs)) = UInt16.ofNat (natOfBE bs) := by
  have hlt : natOfLE bs < 2 ^ 16 := by
    have hbs := natOfLE_lt bs
    rwa [h] at hbs
  rw [networkToHost16, hostToNetwork16, UInt16.toNat_ofNat', Nat.mod_eq_of_lt hlt,
    byteSwap_natOfLE h]

/-- The number that two bytes spell, against a given word. -/
theorem ofNat_natOfBE_eq_iff {bs : Bytes} (h : bs.length = 2) (x : UInt16) :
    UInt16.ofNat (natOfBE bs) = x ↔ bs = bytesBE 2 x.toNat := by
  have hlt : natOfBE bs < 2 ^ 16 := by
    have hbs := natOfBE_lt bs
    rwa [h] at hbs
  constructor
  · rintro rfl
    rw [UInt16.toNat_ofNat', Nat.mod_eq_of_lt hlt, bytesBE_natOfBE h]
  · intro hbs
    rw [hbs, natOfBE_bytesBE_of_lt x.toNat_lt, UInt16.ofNat_toNat]

/-! ### The packed header -/

@[simp] theorem FrameHeader.length_layout (h : FrameHeader) :
    h.layout.length = FRAME_HEADER_SIZE := by
  simp [FrameHeader.layout, FRAME_HEADER_SIZE]

@[simp] theorem length_serializeFrameHeader (h : FrameHeader) :
    (serializeFrameHeader h).length = FRAME_HEADER_SIZE :=
  FrameHeader.length_layout _

/-- A serialized header is its fields in network byte order, one behind the other. -/
theorem serializeFrameHeader_eq (h : FrameHeader) :
    serializeFrameHeader h = bytesBE 2 h.magic.toNat ++ ([h.majorVersion] ++ ([h.minorVersion] ++
      (bytesBE 2 h.messageType.toNat ++ (bytesBE 2 h.reserved.toNat ++
        (bytesBE 4 h.messageID.toNat ++ (bytesBE 4 h.payloadLength.toNat ++
          bytesBE 8 h.sequenceNumber.toNat)))))) := by
  simp only [serializeFrameHeader, FrameHeader.layout, bytesLE_hostToNetwork16,
    bytesLE_hostToNetwork32, bytesLE_hostToNetwork64]

/-- The packed header is read back from its bytes. -/
theorem FrameHeader.ofLayout_layout (h : FrameHeader) (more : Bytes) :
    FrameHeader.ofLayout (h.layout ++ more) = h := by
  obtain ⟨magic, major, minor, messageType, reserved, messageID, payloadLength, seq⟩ := h
  -- Each field is a slice of the concatenation: walk to its part and take the whole part.
  have hmajor : ∀ rest : Bytes,
      (bytesLE 2 magic.toNat ++ ([major] ++ rest)).getD 2 0 = major := by
    intro rest
    rw [List.getD_append_right _ _ _ _ (by simp)]
    simp
  have hminor : ∀ rest : Bytes,
      (bytesLE 2 magic.toNat ++ ([major] ++ ([minor] ++ rest))).getD 3 0 = minor := by
    intro rest
    rw [List.getD_append_right _ _ _ _ (by simp)]
    simp
  simp only [ofLayout, layout, List.append_assoc, FrameHeader.mk.injEq, hmajor, hminor]
  simp (disch := simp) only [slice_append_right, slice_append_left, length_bytesLE,
    List.length_cons, List.length_nil, Nat.reduceAdd, Nat.reduceSub, slice_all,
    ofNat_natOfLE_bytesLE_16, ofNat_natOfLE_bytesLE_32, ofNat_natOfLE_bytesLE_64, and_self]

/-- The packed header does not depend on what follows its 24 bytes. -/
theorem FrameHeader.ofLayout_append {data : Bytes} (h : FRAME_HEADER_SIZE ≤ data.length)
    (more : Bytes) : FrameHeader.ofLayout (data ++ more) = FrameHeader.ofLayout data := by
  simp only [FRAME_HEADER_SIZE] at h
  have hget : ∀ i, i < 24 → (data ++ more).getD i 0 = data.getD i 0 := by
    intro i hi
    exact List.getD_append _ _ _ _ (by omega)
  simp only [ofLayout, hget 2 (by decide), hget 3 (by decide)]
  simp (disch := omega) only [slice_append_left]

/-! ### Accepted headers -/

/-- The checks of the deserializer, as a property of the header. -/
structure FrameHeader.Accepted (h : FrameHeader) : Prop where
  magic : h.magic = PROTOCOL_MAGIC
  majorVersion : h.majorVersion = PROTOCOL_MAJOR_VERSION
  payloadLength : h.payloadLength.toNat ≤ MAX_PAYLOAD_SIZE
  messageType : isValidMessageType h.messageType = true

/-- The header in the first 24 bytes of a buffer, in host order. -/
def headerAt (data : Bytes) : FrameHeader where
  magic := networkToHost16 (FrameHeader.ofLayout data).magic
  majorVersion := (FrameHeader.ofLayout data).majorVersion
  minorVersion := (FrameHeader.ofLayout data).minorVersion
  messageType := networkToHost16 (FrameHeader.ofLayout data).messageType
  reserved := networkToHost16 (FrameHeader.ofLayout data).reserved
  messageID := networkToHost32 (FrameHeader.ofLayout data).messageID
  payloadLength := networkToHost32 (FrameHeader.ofLayout data).payloadLength
  sequenceNumber := networkToHost64 (FrameHeader.ofLayout data).sequenceNumber

/-- The deserializer returns the header in the first 24 bytes exactly when it passes the
checks. -/
theorem deserializeFrameHeader_eq_some {data : Bytes} {h : FrameHeader} :
    deserializeFrameHeader data = some h ↔
      FRAME_HEADER_SIZE ≤ data.length ∧ h.Accepted ∧ h = headerAt data := by
  have hdef : deserializeFrameHeader data =
      if data.length < FRAME_HEADER_SIZE then none
      else if (headerAt data).magic ≠ PROTOCOL_MAGIC ∨
          (headerAt data).majorVersion ≠ PROTOCOL_MAJOR_VERSION ∨
          (headerAt data).payloadLength.toNat > MAX_PAYLOAD_SIZE ∨
          ¬ isValidMessageType (headerAt data).messageType then none
      else some (headerAt data) := rfl
  rw [hdef]
  split
  · rename_i hlen
    constructor
    · intro h'
      cases h'
    · rintro ⟨hlen', -⟩
      omega
  · rename_i hlen
    simp only [Nat.not_lt] at hlen
    split
    · rename_i hbad
      constructor
      · intro h'
        cases h'
      · rintro ⟨-, hacc, rfl⟩
        obtain ⟨h1, h2, h3, h4⟩ := hacc
        -- One of the four tests fails, against its field of `Accepted`.
        rcases hbad with hb | hb | hb | hb
        · exact absurd h1 hb
        · exact absurd h2 hb
        · omega
        · exact absurd h4 hb
    · rename_i hgood
      simp only [not_or, Decidable.not_not] at hgood
      obtain ⟨h1, h2, h3, h4⟩ := hgood
      constructor
      · intro h'
        cases h'
        exact ⟨hlen, ⟨h1, h2, by omega, h4⟩, rfl⟩
      · rintro ⟨-, -, rfl⟩
        rfl

/-- The header at the front of a serialization is the header. -/
theorem headerAt_serialize (h : FrameHeader) (more : Bytes) :
    headerAt (serializeFrameHeader h ++ more) = h := by
  rw [headerAt, serializeFrameHeader, FrameHeader.ofLayout_layout]
  simp

/-- An accepted header is read back from its serialization, whatever follows it. -/
theorem deserializeFrameHeader_serialize {h : FrameHeader} (hacc : h.Accepted) (more : Bytes) :
    deserializeFrameHeader (serializeFrameHeader h ++ more) = some h := by
  rw [deserializeFrameHeader_eq_some, headerAt_serialize]
  exact ⟨by simp, hacc, rfl⟩

/-- A header that the deserializer returned is accepted. -/
theorem accepted_of_deserializeFrameHeader {data : Bytes} {h : FrameHeader}
    (hd : deserializeFrameHeader data = some h) : h.Accepted :=
  (deserializeFrameHeader_eq_some.mp hd).2.1

/-- The answer of the deserializer is settled by the first 24 bytes. -/
theorem deserializeFrameHeader_append {data : Bytes} (h : FRAME_HEADER_SIZE ≤ data.length)
    (more : Bytes) : deserializeFrameHeader (data ++ more) = deserializeFrameHeader data := by
  apply Option.ext
  intro hdr
  have hlen : FRAME_HEADER_SIZE ≤ (data ++ more).length := by
    rw [List.length_append]
    omega
  rw [deserializeFrameHeader_eq_some, deserializeFrameHeader_eq_some, headerAt, headerAt,
    FrameHeader.ofLayout_append h]
  simp only [h, hlen]

/-! ### The signed message -/

@[simp] theorem SignedMessage.length_layout (m : SignedMessage) :
    m.layout.length = CANONICAL_SIGNED_MESSAGE_SIZE := by
  simp [SignedMessage.layout, CANONICAL_SIGNED_MESSAGE_SIZE]

@[simp] theorem length_serializeSignedMessage (m : SignedMessage) :
    (serializeSignedMessage m).length = CANONICAL_SIGNED_MESSAGE_SIZE :=
  SignedMessage.length_layout _

/-- A serialized message is its fields in network byte order, one behind the other. -/
theorem serializeSignedMessage_eq (m : SignedMessage) :
    serializeSignedMessage m = bytesBE 2 m.protocolVersion.toNat ++ (m.serverIdentity.toList ++
      (m.deviceIdentity.toList ++ (bytesBE 2 m.operation.toNat ++ (bytesBE 4 m.requestID.toNat ++
        (bytesBE 8 m.sessionID.toNat ++ (m.nonce.toList ++ bytesBE 8 m.timestamp.toNat)))))) := by
  simp only [serializeSignedMessage, SignedMessage.layout, bytesLE_hostToNetwork16,
    bytesLE_hostToNetwork32, bytesLE_hostToNetwork64]

/-- An array field of a packed record: the bytes behind the first part. -/
theorem copyBytes_append_right {n off : Nat} {a b : Bytes} (h : a.length ≤ off)
    (hlen : off + n ≤ (a ++ b).length) :
    copyBytes n off (a ++ b) = copyBytes n (off - a.length) b := by
  rw [List.length_append] at hlen
  apply List.Vector.eq
  rw [toList_copyBytes (by rw [List.length_append]; omega), toList_copyBytes (by omega),
    slice_append_right h]

/-- An array field at the front of a packed record. -/
theorem copyBytes_append_left {n : Nat} (v : ByteArr n) (b : Bytes) :
    copyBytes n 0 (v.toList ++ b) = v := by
  apply List.Vector.eq
  have hv : v.toList.length = n := by simp
  rw [toList_copyBytes (by rw [List.length_append]; omega), slice_append_left (by omega),
    slice_all hv]

/-- The packed message is read back from its bytes. -/
theorem SignedMessage.ofLayout_layout (m : SignedMessage) :
    SignedMessage.ofLayout m.layout = m := by
  obtain ⟨version, server, device, operation, requestID, sessionID, nonce, timestamp⟩ := m
  simp only [ofLayout, layout, SignedMessage.mk.injEq]
  simp (disch := simp) only [slice_append_right, slice_append_left, copyBytes_append_right,
    copyBytes_append_left, length_bytesLE, List.Vector.toList_length, Nat.reduceSub,
    slice_all, ofNat_natOfLE_bytesLE_16, ofNat_natOfLE_bytesLE_32, ofNat_natOfLE_bytesLE_64,
    and_self]

/-- A message with the right version and a known opcode is read back from its
serialization. -/
theorem deserializeSignedMessage_serialize {m : SignedMessage}
    (hversion : m.protocolVersion = SIGNED_MESSAGE_VERSION)
    (hop : isValidMessageType m.operation = true) :
    deserializeSignedMessage (serializeSignedMessage m) = some m := by
  rw [deserializeSignedMessage, if_neg (by simp), serializeSignedMessage,
    SignedMessage.ofLayout_layout]
  simp only [networkToHost16_hostToNetwork16, networkToHost32_hostToNetwork32,
    networkToHost64_hostToNetwork64]
  exact if_neg (by simp [hversion, hop])

/-- The memory image of a word is the field it was read from. -/
theorem bytesLE_ofNat_natOfLE_16 {bs : Bytes} (h : bs.length = 2) :
    bytesLE 2 (UInt16.ofNat (natOfLE bs)).toNat = bs := by
  have hlt : natOfLE bs < 2 ^ 16 := by
    have hbs := natOfLE_lt bs
    rwa [h] at hbs
  rw [UInt16.toNat_ofNat', Nat.mod_eq_of_lt hlt, ← h, bytesLE_natOfLE]

theorem bytesLE_ofNat_natOfLE_32 {bs : Bytes} (h : bs.length = 4) :
    bytesLE 4 (UInt32.ofNat (natOfLE bs)).toNat = bs := by
  have hlt : natOfLE bs < 2 ^ 32 := by
    have hbs := natOfLE_lt bs
    rwa [h] at hbs
  rw [UInt32.toNat_ofNat', Nat.mod_eq_of_lt hlt, ← h, bytesLE_natOfLE]

theorem bytesLE_ofNat_natOfLE_64 {bs : Bytes} (h : bs.length = 8) :
    bytesLE 8 (UInt64.ofNat (natOfLE bs)).toNat = bs := by
  have hlt : natOfLE bs < 2 ^ 64 := by
    have hbs := natOfLE_lt bs
    rwa [h] at hbs
  rw [UInt64.toNat_ofNat', Nat.mod_eq_of_lt hlt, ← h, bytesLE_natOfLE]

/-- The bytes of the struct that 88 bytes were copied into are these bytes. -/
theorem SignedMessage.layout_ofLayout {data : Bytes}
    (h : data.length = CANONICAL_SIGNED_MESSAGE_SIZE) :
    (SignedMessage.ofLayout data).layout = data := by
  have hlen : data.length = 88 := h
  -- Every field is a slice of the data, and adjacent slices join to the whole.
  unfold SignedMessage.layout SignedMessage.ofLayout
  dsimp only
  rw [bytesLE_ofNat_natOfLE_16 (length_slice (by omega)), toList_copyBytes (by omega),
    toList_copyBytes (by omega), bytesLE_ofNat_natOfLE_16 (length_slice (by omega)),
    bytesLE_ofNat_natOfLE_32 (length_slice (by omega)),
    bytesLE_ofNat_natOfLE_64 (length_slice (by omega)), toList_copyBytes (by omega),
    bytesLE_ofNat_natOfLE_64 (length_slice (by omega))]
  rw [slice_append_slice 48 32 8, slice_append_slice 40 8 40, slice_append_slice 36 4 48,
    slice_append_slice 34 2 52, slice_append_slice 18 16 54, slice_append_slice 2 16 70,
    slice_append_slice 0 2 86]
  exact slice_all hlen

/-- The bytes of the struct that 24 bytes were copied into are these bytes. -/
theorem FrameHeader.layout_ofLayout {data : Bytes} (h : data.length = FRAME_HEADER_SIZE) :
    (FrameHeader.ofLayout data).layout = data := by
  have hlen : data.length = 24 := h
  have hbyte : ∀ k, k < 24 → [data.getD k 0] = slice k 1 data := by
    intro k hk
    rw [List.getD_eq_getElem _ _ (by omega), slice, List.drop_eq_getElem_cons (by omega)]
    rfl
  -- Every field is a slice of the data, and adjacent slices join to the whole.
  unfold FrameHeader.layout FrameHeader.ofLayout
  dsimp only
  rw [hbyte 2 (by omega), hbyte 3 (by omega), bytesLE_ofNat_natOfLE_16 (length_slice (by omega)),
    bytesLE_ofNat_natOfLE_16 (length_slice (by omega)),
    bytesLE_ofNat_natOfLE_16 (length_slice (by omega)),
    bytesLE_ofNat_natOfLE_32 (length_slice (by omega)),
    bytesLE_ofNat_natOfLE_32 (length_slice (by omega)),
    bytesLE_ofNat_natOfLE_64 (length_slice (by omega))]
  rw [slice_append_slice 12 4 8, slice_append_slice 8 4 12, slice_append_slice 6 2 16,
    slice_append_slice 4 2 18, slice_append_slice 3 1 20, slice_append_slice 2 1 21,
    slice_append_slice 0 2 22]
  exact slice_all hlen

/-- A header that was read serializes to the 24 bytes it was read from. -/
theorem serializeFrameHeader_deserialize {data : Bytes} {h : FrameHeader}
    (hd : deserializeFrameHeader data = some h) :
    serializeFrameHeader h = data.take FRAME_HEADER_SIZE := by
  obtain ⟨hlen, -, rfl⟩ := deserializeFrameHeader_eq_some.mp hd
  have hfront : (data.take FRAME_HEADER_SIZE).length = FRAME_HEADER_SIZE := by
    rw [List.length_take]
    omega
  -- The swaps cancel, field by field.
  have h16 : ∀ x, hostToNetwork16 (networkToHost16 x) = x := networkToHost16_hostToNetwork16
  have h32 : ∀ x, hostToNetwork32 (networkToHost32 x) = x := networkToHost32_hostToNetwork32
  have h64 : ∀ x, hostToNetwork64 (networkToHost64 x) = x := networkToHost64_hostToNetwork64
  have hswap : serializeFrameHeader (headerAt data) = (FrameHeader.ofLayout data).layout := by
    simp only [serializeFrameHeader, headerAt, h16, h32, h64]
  rw [hswap]
  have hsame := FrameHeader.ofLayout_append (Nat.le_of_eq hfront.symm)
    (data.drop FRAME_HEADER_SIZE)
  rw [List.take_append_drop] at hsame
  rw [hsame, FrameHeader.layout_ofLayout hfront]

/-- The opcode of a signed message on the wire. -/
def opcodeAt (data : Bytes) : UInt16 := UInt16.ofNat (natOfBE (slice 34 2 data))

/-- The opcode is known if and only if its two bytes are those of a known message type. -/
theorem isValidMessageType_opcodeAt {data : Bytes} (h : 36 ≤ data.length) :
    isValidMessageType (opcodeAt data) = true ↔
      ∃ t ∈ knownMessageTypes, slice 34 2 data = bytesBE 2 t.code.toNat := by
  have hlen : (slice 34 2 data).length = 2 := length_slice (by omega)
  rw [isValidMessageType, List.any_eq_true]
  constructor
  · rintro ⟨t, ht, hcode⟩
    rw [beq_iff_eq] at hcode
    exact ⟨t, ht, (ofNat_natOfBE_eq_iff hlen t.code).mp hcode.symm⟩
  · rintro ⟨t, ht, hbytes⟩
    refine ⟨t, ht, ?_⟩
    rw [beq_iff_eq]
    exact ((ofNat_natOfBE_eq_iff hlen t.code).mpr hbytes).symm

/-- What the deserializer makes of 88 bytes with the right version and a known opcode. -/
theorem deserializeSignedMessage_eq {data : Bytes} :
    deserializeSignedMessage data =
      if data.length = CANONICAL_SIGNED_MESSAGE_SIZE ∧ data.take 2 = [0x01, 0x00] ∧
          isValidMessageType (opcodeAt data) = true then
        some
          { protocolVersion := SIGNED_MESSAGE_VERSION
            serverIdentity := copyBytes 16 2 data
            deviceIdentity := copyBytes 16 18 data
            operation := opcodeAt data
            requestID := networkToHost32 (SignedMessage.ofLayout data).requestID
            sessionID := networkToHost64 (SignedMessage.ofLayout data).sessionID
            nonce := copyBytes 32 48 data
            timestamp := networkToHost64 (SignedMessage.ofLayout data).timestamp }
      else none := by
  unfold deserializeSignedMessage
  by_cases hlen : data.length = CANONICAL_SIGNED_MESSAGE_SIZE
  · have hlen' : data.length = 88 := hlen
    have hversion : networkToHost16 (SignedMessage.ofLayout data).protocolVersion
        = UInt16.ofNat (natOfBE (data.take 2)) :=
      networkToHost16_ofNat (length_slice (by omega))
    have hoperation : networkToHost16 (SignedMessage.ofLayout data).operation = opcodeAt data :=
      networkToHost16_ofNat (length_slice (by omega))
    have htake : UInt16.ofNat (natOfBE (data.take 2)) = SIGNED_MESSAGE_VERSION ↔
        data.take 2 = [0x01, 0x00] :=
      ofNat_natOfBE_eq_iff (by rw [List.length_take]; omega) SIGNED_MESSAGE_VERSION
    rw [if_neg (not_not.mpr hlen)]
    dsimp only
    rw [hversion, hoperation]
    by_cases hfirst : data.take 2 = [0x01, 0x00]
    · by_cases hop : isValidMessageType (opcodeAt data) = true
      · rw [if_neg (by simp [htake.mpr hfirst, hop]), if_pos ⟨hlen, hfirst, hop⟩,
          htake.mpr hfirst]
        rfl
      · rw [if_pos (Or.inr hop), if_neg (fun h => hop h.2.2)]
    · rw [if_pos (Or.inl fun h => hfirst (htake.mp h)), if_neg (fun h => hfirst h.2.1)]
  · rw [if_pos hlen, if_neg (fun h => hlen h.1)]

/-- The message read from some bytes serializes to these bytes. -/
theorem serializeSignedMessage_deserialize {data : Bytes} {m : SignedMessage}
    (h : deserializeSignedMessage data = some m) : serializeSignedMessage m = data := by
  unfold deserializeSignedMessage at h
  split at h
  · cases h
  rename_i hlen
  rw [not_not] at hlen
  dsimp only at h
  split at h
  · cases h
  cases h
  -- The swaps cancel, field by field.
  show SignedMessage.layout ⟨_, _, _, _, _, _, _, _⟩ = data
  rw [show hostToNetwork16 (networkToHost16 (SignedMessage.ofLayout data).protocolVersion) = _
      from networkToHost16_hostToNetwork16 _,
    show hostToNetwork16 (networkToHost16 (SignedMessage.ofLayout data).operation) = _
      from networkToHost16_hostToNetwork16 _,
    show hostToNetwork32 (networkToHost32 (SignedMessage.ofLayout data).requestID) = _
      from networkToHost32_hostToNetwork32 _,
    show hostToNetwork64 (networkToHost64 (SignedMessage.ofLayout data).sessionID) = _
      from networkToHost64_hostToNetwork64 _,
    show hostToNetwork64 (networkToHost64 (SignedMessage.ofLayout data).timestamp) = _
      from networkToHost64_hostToNetwork64 _]
  exact SignedMessage.layout_ofLayout hlen

/-- The codec of signed messages. The deserializer accepts exactly the 88 bytes that start with
01 00 and have a known opcode at offset 34. What it accepts is serialized to the same bytes again,
and a message with the version 0x0100 and a known opcode is read back from its serialization. -/
theorem signedMessage_codec :
    (∀ data : Bytes, (deserializeSignedMessage data).isSome = true ↔
      data.length = 88 ∧ data.take 2 = [0x01, 0x00] ∧
        ∃ t ∈ knownMessageTypes, slice 34 2 data = bytesBE 2 t.code.toNat) ∧
    (∀ (data : Bytes) (m : SignedMessage), deserializeSignedMessage data = some m →
      serializeSignedMessage m = data) ∧
    (∀ m : SignedMessage, m.protocolVersion = 0x0100 → (∃ t ∈ knownMessageTypes,
      m.operation = t.code) → deserializeSignedMessage (serializeSignedMessage m) = some m) := by
  refine ⟨?_, ?_, ?_⟩
  · intro data
    rw [deserializeSignedMessage_eq]
    split
    · rename_i haccepted
      obtain ⟨hlen, hfirst, hop⟩ := haccepted
      have hlen' : data.length = 88 := hlen
      exact iff_of_true rfl ⟨hlen, hfirst, (isValidMessageType_opcodeAt (by omega)).mp hop⟩
    · rename_i hrefused
      refine iff_of_false (by simp) ?_
      rintro ⟨hlen, hfirst, hop⟩
      exact hrefused ⟨hlen, hfirst, (isValidMessageType_opcodeAt (by omega)).mpr hop⟩
  · intro data m h
    exact serializeSignedMessage_deserialize h
  · rintro m hversion ⟨t, ht, hop⟩
    refine deserializeSignedMessage_serialize hversion ?_
    rw [isValidMessageType, List.any_eq_true]
    exact ⟨t, ht, by simp [hop]⟩

/-- An answer to a challenge, with a session id in the upper half of the range. -/
def sampleMessage : SignedMessage where
  protocolVersion := 0x0100
  serverIdentity := List.Vector.replicate 16 0xAA
  deviceIdentity := List.Vector.replicate 16 1
  operation := MessageType.AUTH_RESPONSE.code
  requestID := 7
  sessionID := 0x8000000000000001
  nonce := List.Vector.replicate 32 9
  timestamp := 1000

theorem signedMessage_codec_sample :
    deserializeSignedMessage (serializeSignedMessage sampleMessage) = some sampleMessage ∧
      (serializeSignedMessage sampleMessage).take 2 = [0x01, 0x00] := by
  obtain ⟨haccepts, -, hreads⟩ := signedMessage_codec
  have hread := hreads sampleMessage rfl ⟨.AUTH_RESPONSE, by decide, rfl⟩
  refine ⟨hread, ?_⟩
  exact ((haccepts (serializeSignedMessage sampleMessage)).mp (by rw [hread]; rfl)).2.1

end MobileUnlock.Protocol
