import MobileUnlock.Android.WiFiTransport
import MobileUnlock.Proofs.StreamFraming

/-!
# `MobileUnlock.Proofs.PhoneFraming`: the phone and the PC frame alike

`phoneFramer` is the framing rule of the phone as a `Framer`, and the loop over its buffer is the
`drain` of that rule (`receiveLoop_eq_drain`). A header that the PC has written is read field by
field (`receivedFrame_serialize`), so the laws of `Framer` give what the phone makes of a stream of
frames, however it is cut (`onDataAll_delivers`).

In the other direction a packet of the phone is the serialization of a header in the format of the
PC, followed by the payload (`packetHeader_eq`). `framing_agrees` has both directions.
-/

set_option autoImplicit false

namespace MobileUnlock.Android

open MobileUnlock.Lib MobileUnlock.Lib.Dart MobileUnlock.Protocol MobileUnlock.Network

/-! ### The framing rule -/

/-- The payload length of the header at the front of a buffer. -/
def payloadLenAt (buf : Bytes) : Nat := (getUint32 (buf.take 24) 12).toNat

/-- What the front of the phone's buffer is. -/
def phoneFront (buf : Bytes) : Front ReceivedProtocolFrame :=
  if buf.length < 24 then .incomplete
  else if malformedHeader (buf.take 24) then .malformed
  else if buf.length < 24 + payloadLenAt buf then .incomplete
  else
    .frame (receivedFrame (buf.take 24) (slice 24 (payloadLenAt buf) buf)) (24 + payloadLenAt buf)

/-- A complete front is a good header with all of its payload behind it. -/
theorem phoneFront_eq_frame {buf : Bytes} {f : ReceivedProtocolFrame} {n : Nat} :
    phoneFront buf = .frame f n ↔
      malformedHeader (buf.take 24) = false ∧ n = 24 + payloadLenAt buf ∧ n ≤ buf.length ∧
        f = receivedFrame (buf.take 24) (slice 24 (payloadLenAt buf) buf) := by
  unfold phoneFront
  split
  · rename_i hlen
    constructor
    · intro h
      cases h
    · rintro ⟨-, rfl, hn, -⟩
      omega
  · split
    · rename_i hbad
      simp [hbad]
    · rename_i hgood
      split
      · rename_i hshort
        constructor
        · intro h
          cases h
        · rintro ⟨-, rfl, hn, -⟩
          omega
      · constructor
        · intro h
          cases h
          exact ⟨by simpa using hgood, rfl, by omega, rfl⟩
        · rintro ⟨-, rfl, -, rfl⟩
          rfl

/-- A malformed front is a bad header. -/
theorem phoneFront_eq_malformed {buf : Bytes} :
    phoneFront buf = .malformed ↔ 24 ≤ buf.length ∧ malformedHeader (buf.take 24) = true := by
  unfold phoneFront
  split
  · rename_i hlen
    constructor
    · intro h
      cases h
    · rintro ⟨hlen', -⟩
      omega
  · rename_i hlen
    split
    · rename_i hbad
      simpa [hbad] using hlen
    · rename_i hgood
      simp only [hgood]
      split <;> simp

/-- A frame takes at least its header, and no more than there is. -/
theorem phoneFront_len {buf : Bytes} {f : ReceivedProtocolFrame} {n : Nat}
    (h : phoneFront buf = .frame f n) : 0 < n ∧ n ≤ buf.length := by
  obtain ⟨-, hn, hlen, -⟩ := phoneFront_eq_frame.mp h
  omega

/-- A complete frame stays the front when more bytes follow. -/
theorem phoneFront_append {buf : Bytes} {f : ReceivedProtocolFrame} {n : Nat} (more : Bytes)
    (h : phoneFront buf = .frame f n) : phoneFront (buf ++ more) = .frame f n := by
  obtain ⟨hgood, hn, hlen, hf⟩ := phoneFront_eq_frame.mp h
  have htake : (buf ++ more).take 24 = buf.take 24 :=
    List.take_append_of_le_length (by omega)
  have hpayload : payloadLenAt (buf ++ more) = payloadLenAt buf := by
    rw [payloadLenAt, htake, payloadLenAt]
  rw [phoneFront_eq_frame, htake, hpayload]
  refine ⟨hgood, hn, ?_, ?_⟩
  · rw [List.length_append]
    omega
  · rw [hf, slice_append_left (by omega)]

/-- A malformed front stays malformed. -/
theorem phoneFront_malformed_append {buf : Bytes} (more : Bytes)
    (h : phoneFront buf = .malformed) : phoneFront (buf ++ more) = .malformed := by
  obtain ⟨hlen, hbad⟩ := phoneFront_eq_malformed.mp h
  rw [phoneFront_eq_malformed, List.take_append_of_le_length hlen, List.length_append]
  exact ⟨by omega, hbad⟩

/-- The framing rule of the phone. -/
def phoneFramer : Framer UInt8 ReceivedProtocolFrame where
  front := phoneFront
  frame_len := phoneFront_len
  frame_append := phoneFront_append
  malformed_append := phoneFront_malformed_append

/-- The loop over the phone's buffer drains it. -/
theorem receiveLoop_eq_drain (buf : Bytes) :
    receiveLoop buf = ⟨(phoneFramer.drain buf).frames, (phoneFramer.drain buf).rest,
      !(phoneFramer.drain buf).isOpen⟩ := by
  -- Induction on the length of the buffer: every frame taken off shortens it.
  induction hn : buf.length using Nat.strongRecOn generalizing buf with
  | ind n ih =>
    rw [receiveLoop]
    split
    · rename_i hlen
      have hfront : phoneFramer.front buf = .incomplete := by
        show phoneFront buf = .incomplete
        rw [phoneFront, if_pos hlen]
      rw [phoneFramer.drain_incomplete hfront]
      rfl
    · rename_i hlen
      dsimp only
      by_cases hbad : malformedHeader (buf.take 24) = true
      · have hfront : phoneFramer.front buf = .malformed :=
          phoneFront_eq_malformed.mpr ⟨by omega, hbad⟩
        rw [phoneFramer.drain_malformed hfront, if_pos hbad]
        rfl
      · rw [if_neg hbad]
        by_cases hshort : buf.length < 24 + payloadLenAt buf
        · have hfront : phoneFramer.front buf = .incomplete := by
            show phoneFront buf = .incomplete
            rw [phoneFront, if_neg hlen, if_neg hbad, if_pos hshort]
          rw [phoneFramer.drain_incomplete hfront]
          exact if_pos hshort
        · have hfront : phoneFramer.front buf
              = .frame (receivedFrame (buf.take 24) (slice 24 (payloadLenAt buf) buf))
                (24 + payloadLenAt buf) :=
            phoneFront_eq_frame.mpr ⟨by simpa using hbad, rfl, by omega, rfl⟩
          have hdrop := ih (buf.drop (24 + payloadLenAt buf)).length
            (by rw [List.length_drop]; omega) _ rfl
          have hlenAt : (getUint32 (buf.take 24) 12).toNat = payloadLenAt buf := rfl
          rw [phoneFramer.drain_frame hfront, hlenAt, if_neg hshort, hdrop]

/-! ### Headers of the PC -/

/-- A frame that the service writes: its header has the magic, the major version and the size of the
payload, and its sequence number is one that a Dart `int` holds. -/
structure ServiceFrame (f : Frame) : Prop where
  magic : f.1.magic = PROTOCOL_MAGIC
  majorVersion : f.1.majorVersion = 1
  sequenceNumber : f.1.sequenceNumber.toNat < 2 ^ 63
  payloadLength : f.1.payloadLength.toNat = f.2.length
  payloadSize : f.2.length ≤ 4096

/-- The frame as the callback of the phone gets it. -/
def received (f : Frame) : ReceivedProtocolFrame where
  magic := f.1.magic.toNat
  majorVersion := f.1.majorVersion.toNat
  minorVersion := f.1.minorVersion.toNat
  messageType := f.1.messageType.toNat
  messageId := f.1.messageID.toNat
  payloadLength := f.1.payloadLength.toNat
  sequenceNumber := f.1.sequenceNumber.toNat
  payload := f.2

/-- The phone finds every field of a serialized header at its offset. -/
theorem receivedFrame_serialize {h : FrameHeader} (hseq : h.sequenceNumber.toNat < 2 ^ 63)
    (payload : Bytes) : receivedFrame (serializeFrameHeader h) payload = received (h, payload) := by
  obtain ⟨magic, major, minor, messageType, reserved, messageID, payloadLength, seq⟩ := h
  have h16 : ∀ x : UInt16, natOfBE (bytesBE 2 x.toNat) = x.toNat :=
    fun x => natOfBE_bytesBE_of_lt x.toNat_lt
  have h32 : ∀ x : UInt32, natOfBE (bytesBE 4 x.toNat) = x.toNat :=
    fun x => natOfBE_bytesBE_of_lt x.toNat_lt
  have h64 : ∀ x : UInt64, natOfBE (bytesBE 8 x.toNat) = x.toNat :=
    fun x => natOfBE_bytesBE_of_lt x.toNat_lt
  have h8 : ∀ x : UInt8, natOfBE [x] = x.toNat := by
    intro x
    simp [natOfBE, natOfLE]
  simp only [receivedFrame, received, getUint8, getUint16, getUint32, getUint64, getUint,
    serializeFrameHeader_eq, ReceivedProtocolFrame.mk.injEq]
  -- Each field is a slice of the concatenation: walk to its part and take the whole part.
  simp (disch := simp) only [slice_append_right, slice_append_left, length_bytesBE,
    List.length_cons, List.length_nil, Nat.reduceAdd, Nat.reduceSub, slice_all, h8, h16, h32, h64,
    wrapInt_of_fits hseq, and_self]

/-- The header of a frame of the service passes the phone's test, and it has the payload length. -/
theorem ServiceFrame.header_good {f : Frame} (hf : ServiceFrame f) :
    malformedHeader (serializeFrameHeader f.1) = false ∧
      (getUint32 (serializeFrameHeader f.1) 12).toNat = f.2.length := by
  have hfields := receivedFrame_serialize hf.sequenceNumber f.2
  have hmagic : getUint16 (serializeFrameHeader f.1) 0 = f.1.magic.toNat :=
    congrArg ReceivedProtocolFrame.magic hfields
  have hmajor : getUint8 (serializeFrameHeader f.1) 2 = f.1.majorVersion.toNat :=
    congrArg ReceivedProtocolFrame.majorVersion hfields
  have hlength : getUint32 (serializeFrameHeader f.1) 12 = f.1.payloadLength.toNat :=
    congrArg ReceivedProtocolFrame.payloadLength hfields
  have hsize := hf.payloadSize
  constructor
  · rw [malformedHeader, hmagic, hmajor, hlength, hf.magic, hf.majorVersion, hf.payloadLength]
    simp only [PROTOCOL_MAGIC, Bool.or_eq_false_iff, decide_eq_false_iff_not]
    exact ⟨⟨by decide, by decide⟩, by omega⟩
  · rw [hlength, hf.payloadLength]
    exact Int.toNat_natCast _

/-- The header at the front of an encoded frame. -/
theorem take_encodeFrame (f : Frame) (more : Bytes) :
    (encodeFrame f ++ more).take 24 = serializeFrameHeader f.1 := by
  have hlen : (serializeFrameHeader f.1).length = 24 := length_serializeFrameHeader f.1
  rw [encodeFrame, List.append_assoc]
  exact List.take_left' hlen

/-- The front of a buffer that starts with a frame of the service is that frame. -/
theorem phoneFront_encodeFrame {f : Frame} (hf : ServiceFrame f) (more : Bytes) :
    phoneFront (encodeFrame f ++ more) = .frame (received f) (encodeFrame f).length := by
  obtain ⟨hgood, hsize⟩ := hf.header_good
  have hpayload : payloadLenAt (encodeFrame f ++ more) = f.2.length := by
    rw [payloadLenAt, take_encodeFrame, hsize]
  have hlen : (serializeFrameHeader f.1).length = 24 := length_serializeFrameHeader f.1
  have hslice : slice 24 f.2.length (encodeFrame f ++ more) = f.2 := by
    rw [encodeFrame, List.append_assoc, slice_append_right (by omega), hlen, Nat.sub_self,
      slice_append_left (by omega), slice_all rfl]
  have htotal : (encodeFrame f).length = 24 + f.2.length := length_encodeFrame f
  rw [phoneFront_eq_frame, take_encodeFrame, hpayload, hslice,
    receivedFrame_serialize hf.sequenceNumber]
  exact ⟨hgood, htotal, by rw [List.length_append]; omega, rfl⟩

/-- The front of a proper beginning of a frame is incomplete. -/
theorem phoneFront_take_encodeFrame {f : Frame} (hf : ServiceFrame f) {n : Nat}
    (hn : n < (encodeFrame f).length) : phoneFront ((encodeFrame f).take n) = .incomplete := by
  have hlen : ((encodeFrame f).take n).length = n := by
    rw [List.length_take]
    omega
  by_cases hshort : n < 24
  · rw [phoneFront, if_pos (by omega)]
  · -- The header is complete, so it is read, and the payload behind it is short.
    obtain ⟨hgood, hsize⟩ := hf.header_good
    have htake : ((encodeFrame f).take n).take 24 = serializeFrameHeader f.1 := by
      have h := take_encodeFrame f []
      rw [List.append_nil] at h
      rw [List.take_take, Nat.min_eq_left (by omega), h]
    have htotal : (encodeFrame f).length = 24 + f.2.length := length_encodeFrame f
    rw [phoneFront, if_neg (by omega), payloadLenAt, htake, if_neg (by simp [hgood]), hsize,
      if_pos (by omega)]

/-! ### Receiving a stream -/

/-- One event of the socket that leaves the stream well formed feeds the framer. -/
theorem onDataReceived_feed (t : WiFiTransport) (data : Bytes)
    (hopen : (phoneFramer.drain (t.incomingBuffer ++ data)).isOpen = true) :
    t.onDataReceived data =
      ({ t with incomingBuffer := (phoneFramer.drain (t.incomingBuffer ++ data)).rest },
        (phoneFramer.drain (t.incomingBuffer ++ data)).frames) := by
  simp [WiFiTransport.onDataReceived, receiveLoop_eq_drain, hopen]

/-- All events of the socket feed the framer. When the stream is well formed, the callback gets the
frames the framer delivers, the phone keeps the framer's rest, and nothing else changes. -/
theorem onDataAll_feed (chunks : List Bytes) :
    ∀ (t : WiFiTransport) (delivered : List ReceivedProtocolFrame),
      (chunks.foldl phoneFramer.feed ⟨delivered, t.incomingBuffer, true⟩).isOpen = true →
      ∃ more : List ReceivedProtocolFrame,
        (chunks.foldl phoneFramer.feed ⟨delivered, t.incomingBuffer, true⟩).frames
          = delivered ++ more ∧
        t.onDataAll chunks =
          ({ t with incomingBuffer :=
              (chunks.foldl phoneFramer.feed ⟨delivered, t.incomingBuffer, true⟩).rest },
            more) := by
  induction chunks with
  | nil =>
    intro t delivered _
    exact ⟨[], by simp, rfl⟩
  | cons data chunks ih =>
    intro t delivered hopen
    rw [List.foldl_cons] at hopen ⊢
    -- The drain of this event is open, since a closed receiver would stay closed.
    have hnow : (phoneFramer.drain (t.incomingBuffer ++ data)).isOpen = true := by
      by_contra hclosed
      rw [Bool.not_eq_true] at hclosed
      have hfeed : (phoneFramer.feed ⟨delivered, t.incomingBuffer, true⟩ data).isOpen = false := by
        simpa [Framer.feed] using hclosed
      have := phoneFramer.foldl_feed_closed chunks hfeed
      rw [this] at hopen
      cases hopen
    have hfeed : phoneFramer.feed ⟨delivered, t.incomingBuffer, true⟩ data =
        ⟨delivered ++ (phoneFramer.drain (t.incomingBuffer ++ data)).frames,
          (phoneFramer.drain (t.incomingBuffer ++ data)).rest, true⟩ := by
      simp [Framer.feed, hnow]
    rw [hfeed] at hopen ⊢
    obtain ⟨more, hframes, hall⟩ := ih
      { t with incomingBuffer := (phoneFramer.drain (t.incomingBuffer ++ data)).rest } _ hopen
    refine ⟨(phoneFramer.drain (t.incomingBuffer ++ data)).frames ++ more, ?_, ?_⟩
    · rw [hframes, List.append_assoc]
    · rw [WiFiTransport.onDataAll, onDataReceived_feed t data hnow]
      simp only [hall]

/-- A stream of frames of the service, followed by a proper beginning of another one, is delivered
frame by frame whatever way it is cut, and the beginning stays in the buffer. -/
theorem onDataAll_delivers {t : WiFiTransport} (hbuf : t.incomingBuffer = [])
    {frames : List Frame} (hframes : ∀ f ∈ frames, ServiceFrame f)
    {last : Frame} (hlast : ServiceFrame last) {n : Nat} (hn : n < (encodeFrame last).length)
    {chunks : List Bytes}
    (hcut : chunks.flatten = (frames.map encodeFrame).flatten ++ (encodeFrame last).take n) :
    t.onDataAll chunks
      = ({ t with incomingBuffer := (encodeFrame last).take n }, frames.map received) := by
  have hdrain : phoneFramer.drain chunks.flatten
      = ⟨frames.map received, (encodeFrame last).take n, true⟩ := by
    rw [hcut]
    exact phoneFramer.drain_encode_map
      (fun f hf more => phoneFront_encodeFrame (hframes f hf) more)
      (phoneFront_take_encodeFrame hlast hn)
  have hempty : phoneFramer.drain [] = ⟨[], [], true⟩ :=
    phoneFramer.drain_incomplete (by show phoneFront [] = _; simp [phoneFront])
  obtain ⟨hfr, hop, hre⟩ := phoneFramer.feedAll_eq_drain chunks
  rw [hempty, hdrain] at hfr hop hre
  obtain ⟨more, hmore, hall⟩ := onDataAll_feed chunks t [] (by rw [hbuf]; exact hop)
  rw [hbuf, hfr, List.nil_append] at hmore
  rw [hall, hbuf, hre hop, ← hmore]

/-! ### Packets of the phone -/

/-- The header of the next packet, in the format of the PC. -/
def packetFrameHeader (t : WiFiTransport) (opcode : UInt16) (payload : Bytes) : FrameHeader where
  messageType := opcode
  messageID := UInt32.ofNat (t.messageIdCounter % 2 ^ 32).toNat
  payloadLength := UInt32.ofNat payload.length
  sequenceNumber := UInt64.ofNat t.sequenceNumber

theorem packetFrameHeader_messageID (t : WiFiTransport) (opcode : UInt16) (payload : Bytes) :
    (packetFrameHeader t opcode payload).messageID.toNat
      = (t.messageIdCounter % 2 ^ 32).toNat := by
  show (UInt32.ofNat (t.messageIdCounter % 2 ^ 32).toNat).toNat = _
  rw [UInt32.toNat_ofNat', Nat.mod_eq_of_lt (by omega)]

theorem packetFrameHeader_payloadLength (t : WiFiTransport) (opcode : UInt16) {payload : Bytes}
    (hsize : payload.length ≤ 4096) :
    (packetFrameHeader t opcode payload).payloadLength.toNat = payload.length := by
  show (UInt32.ofNat payload.length).toNat = _
  rw [UInt32.toNat_ofNat', Nat.mod_eq_of_lt (by omega)]

theorem packetFrameHeader_sequenceNumber {t : WiFiTransport} (hseq : t.sequenceNumber < 2 ^ 63)
    (opcode : UInt16) (payload : Bytes) :
    (packetFrameHeader t opcode payload).sequenceNumber.toNat = t.sequenceNumber := by
  show (UInt64.ofNat t.sequenceNumber).toNat = _
  rw [UInt64.toNat_ofNat', Nat.mod_eq_of_lt (by omega)]

/-- The phone writes its header as the PC serializes it. -/
theorem packetHeader_eq {t : WiFiTransport} (hseq : t.sequenceNumber < 2 ^ 63) (opcode : UInt16)
    {payload : Bytes} (hsize : payload.length ≤ 4096) :
    t.packetHeader opcode.toNat payload
      = .ok (serializeFrameHeader (packetFrameHeader t opcode payload)) := by
  have hmessageID := packetFrameHeader_messageID t opcode payload
  have hpayloadLength := packetFrameHeader_payloadLength t opcode hsize
  have hsequenceNumber := packetFrameHeader_sequenceNumber hseq opcode payload
  generalize hheader : packetFrameHeader t opcode payload = h at *
  have hfixed : h.magic = PROTOCOL_MAGIC ∧ h.majorVersion = 1 ∧ h.minorVersion = 0 ∧
      h.messageType = opcode ∧ h.reserved = 0 := by
    subst hheader
    exact ⟨rfl, rfl, rfl, rfl, rfl⟩
  obtain ⟨hmagic, hmajor, hminor, htype, hreserved⟩ := hfixed
  -- the bytes of every field
  have b1 : uintBytes 2 0x4D55 = bytesBE 2 h.magic.toNat := by
    rw [hmagic]
    decide
  have b2 : uintBytes 1 1 = [h.majorVersion] := by
    rw [hmajor]
    decide
  have b3 : uintBytes 1 0 = [h.minorVersion] := by
    rw [hminor]
    decide
  have b4 : uintBytes 2 opcode.toNat = bytesBE 2 h.messageType.toNat := by
    rw [htype]
    exact uintBytes_of_lt opcode.toNat_lt
  have b5 : uintBytes 2 0 = bytesBE 2 h.reserved.toNat := by
    rw [hreserved]
    decide
  have b6 : uintBytes 4 t.messageIdCounter = bytesBE 4 h.messageID.toNat := by
    rw [hmessageID]
    rfl
  have b7 : uintBytes 4 payload.length = bytesBE 4 h.payloadLength.toNat := by
    rw [hpayloadLength]
    exact uintBytes_of_lt (by omega)
  have b8 : uintBytes 8 (bigIntToInt t.sequenceNumber) = bytesBE 8 h.sequenceNumber.toNat := by
    rw [hsequenceNumber, bigIntToInt_of_fits hseq]
    exact uintBytes_of_lt (by omega)
  -- every write goes into the zeros behind the fields before it
  have w1 := @setUint_zeros [] 0 rfl 2 22 0x4D55
  rw [b1, List.nil_append, List.nil_append] at w1
  have w2 := @setUint_zeros (bytesBE 2 h.magic.toNat) 2 (by simp) 1 21 1
  rw [b2] at w2
  have w3 := @setUint_zeros (bytesBE 2 h.magic.toNat ++ [h.majorVersion]) 3 (by simp) 1 20 0
  rw [b3] at w3
  have w4 := @setUint_zeros (bytesBE 2 h.magic.toNat ++ [h.majorVersion] ++ [h.minorVersion]) 4
    (by simp) 2 18 opcode.toNat
  rw [b4] at w4
  have w5 := @setUint_zeros (bytesBE 2 h.magic.toNat ++ [h.majorVersion] ++ [h.minorVersion] ++
    bytesBE 2 h.messageType.toNat) 6 (by simp) 2 16 0
  rw [b5] at w5
  have w6 := @setUint_zeros (bytesBE 2 h.magic.toNat ++ [h.majorVersion] ++ [h.minorVersion] ++
    bytesBE 2 h.messageType.toNat ++ bytesBE 2 h.reserved.toNat) 8 (by simp)
    4 12 t.messageIdCounter
  rw [b6] at w6
  have w7 := @setUint_zeros (bytesBE 2 h.magic.toNat ++ [h.majorVersion] ++ [h.minorVersion] ++
    bytesBE 2 h.messageType.toNat ++ bytesBE 2 h.reserved.toNat ++ bytesBE 4 h.messageID.toNat) 12
    (by simp) 4 8 payload.length
  rw [b7] at w7
  have w8 := @setUint_zeros (bytesBE 2 h.magic.toNat ++ [h.majorVersion] ++ [h.minorVersion] ++
    bytesBE 2 h.messageType.toNat ++ bytesBE 2 h.reserved.toNat ++ bytesBE 4 h.messageID.toNat ++
    bytesBE 4 h.payloadLength.toNat) 16 (by simp) 8 0 (bigIntToInt t.sequenceNumber)
  rw [b8] at w8
  simp only [Nat.reduceAdd] at w1 w2 w3 w4 w5 w6 w7 w8
  simp only [WiFiTransport.packetHeader, setUint8, setUint16, setUint32, setUint64, bind,
    Except.bind, w1, w2, w3, w4, w5, w6, w7, w8]
  simp only [serializeFrameHeader_eq, List.replicate_zero, List.append_nil, List.append_assoc]

/-- On an open and active connection the phone sends the header and the payload. -/
theorem sendFrame_eq {t : WiFiTransport} (hopen : t.socketOpen = true)
    (hactive : t.state.isConnected = true) (hseq : t.sequenceNumber < 2 ^ 63) (opcode : UInt16)
    {payload : Bytes} (hsize : payload.length ≤ 4096) :
    (t.sendFrame opcode.toNat payload).2
      = some (encodeFrame (packetFrameHeader t opcode payload, payload)) := by
  rw [WiFiTransport.sendFrame, if_neg (by simp [hopen, hactive]), if_neg (by omega),
    packetHeader_eq hseq opcode hsize]
  rfl

/-- On any other connection it sends nothing. -/
theorem sendFrame_isSome {t : WiFiTransport} {messageType : Int} {payload : Bytes}
    (h : (t.sendFrame messageType payload).2.isSome = true) :
    t.socketOpen = true ∧ t.state.isConnected = true := by
  by_contra hclosed
  rw [WiFiTransport.sendFrame, if_pos (by simpa [Decidable.imp_iff_not_or] using hclosed)] at h
  cases h

/-- A packet with a known opcode has a header that the PC accepts. -/
theorem packetFrameHeader_accepted (t : WiFiTransport) {m : MessageType}
    (hm : m ∈ knownMessageTypes) {payload : Bytes} (hsize : payload.length ≤ 4096) :
    (packetFrameHeader t m.code payload).Accepted where
  magic := rfl
  majorVersion := rfl
  payloadLength := by
    rw [packetFrameHeader_payloadLength t m.code hsize]
    exact hsize
  messageType := by
    show isValidMessageType m.code = true
    rw [isValidMessageType, List.any_eq_true]
    exact ⟨m, hm, by simp⟩

/-- The phone and the PC frame alike. A phone with an empty buffer receives a sequence of frames of
the service and a proper beginning of another one, cut in any way. The callback gets exactly these
frames, once each and in order, the beginning stays in the buffer, and nothing else of the transport
changes, so the phone does not hang up. In the other direction a packet leaves the phone if and only
if its connection is open and active, and the PC reads it back with the opcode, the size of the
payload and both counters. -/
theorem framing_agrees (t : WiFiTransport) :
    (t.incomingBuffer = [] →
      ∀ (frames : List Frame) (last : Frame) (n : Nat) (chunks : List Bytes),
        (∀ f ∈ frames, ServiceFrame f) → ServiceFrame last → n < (encodeFrame last).length →
        chunks.flatten = (frames.map encodeFrame).flatten ++ (encodeFrame last).take n →
        t.onDataAll chunks
          = ({ t with incomingBuffer := (encodeFrame last).take n }, frames.map received)) ∧
    (t.sequenceNumber < 2 ^ 63 →
      ∀ m ∈ knownMessageTypes, ∀ payload : Bytes, payload.length ≤ 4096 →
        ((t.sendFrame m.code.toNat payload).2.isSome = true ↔
          t.socketOpen = true ∧ t.state.isConnected = true) ∧
        ∀ packet : Bytes, (t.sendFrame m.code.toNat payload).2 = some packet →
          ∃ header : FrameHeader, deserializeFrameHeader packet = some header ∧
            header.messageType = m.code ∧ header.reserved = 0 ∧
            header.payloadLength.toNat = payload.length ∧
            header.messageID.toNat = (t.messageIdCounter % 2 ^ 32).toNat ∧
            header.sequenceNumber.toNat = t.sequenceNumber) := by
  constructor
  · intro hbuf frames last n chunks hframes hlast hn hcut
    exact onDataAll_delivers hbuf hframes hlast hn hcut
  · intro hseq m hm payload hsize
    -- The header that is sent is the one that the PC would write, so the PC reads it back.
    constructor
    · constructor
      · exact sendFrame_isSome
      · rintro ⟨hopen, hactive⟩
        rw [sendFrame_eq hopen hactive hseq m.code hsize]
        rfl
    · intro packet hpacket
      have hsome : (t.sendFrame m.code.toNat payload).2.isSome = true := by
        rw [hpacket]
        rfl
      obtain ⟨hopen, hactive⟩ := sendFrame_isSome hsome
      rw [sendFrame_eq hopen hactive hseq m.code hsize, Option.some.injEq] at hpacket
      refine ⟨packetFrameHeader t m.code payload, ?_, rfl, rfl, ?_, ?_, ?_⟩
      · rw [← hpacket]
        exact deserializeFrameHeader_serialize (packetFrameHeader_accepted t hm hsize) payload
      · exact packetFrameHeader_payloadLength t m.code hsize
      · exact packetFrameHeader_messageID t m.code payload
      · exact packetFrameHeader_sequenceNumber hseq m.code payload

/-- A phone with an active connection, about to send its first frame. -/
def connectedPhone : WiFiTransport where
  state := .activeSession
  socketOpen := true

/-- Two frames arrive in three pieces, and a lock request goes out. -/
theorem framing_agrees_twoFrames :
    connectedPhone.onDataAll (twoFrameChunks.map Prod.snd)
        = ({ connectedPhone with incomingBuffer := (encodeFrame (pingFrame 9)).take 3 },
          [pingFrame 7, lockFrame 8].map received) ∧
      ∃ packet header,
        (connectedPhone.sendFrame MessageType.LOCK_REQUEST.code.toNat [1, 2]).2 = some packet ∧
        deserializeFrameHeader packet = some header ∧
        header.messageType = MessageType.LOCK_REQUEST.code ∧ header.messageID.toNat = 1 := by
  obtain ⟨hreceive, hsend⟩ := framing_agrees connectedPhone
  have hping : ∀ id, ServiceFrame (pingFrame id) :=
    fun _ => ⟨rfl, rfl, Nat.two_pow_pos 63, rfl, Nat.zero_le _⟩
  have hlock : ServiceFrame (lockFrame 8) := ⟨rfl, rfl, by decide, rfl, by decide⟩
  constructor
  · refine hreceive rfl [pingFrame 7, lockFrame 8] (pingFrame 9) 3 _ ?_ (hping 9) (by decide)
      (by decide)
    intro f hf
    simp only [List.mem_cons, List.not_mem_nil, or_false] at hf
    rcases hf with rfl | rfl
    · exact hping 7
    · exact hlock
  · obtain ⟨hsome, hread⟩ := hsend (by decide) .LOCK_REQUEST (by decide) [1, 2] (by decide)
    obtain ⟨packet, hpacket⟩ := Option.isSome_iff_exists.mp (hsome.mpr ⟨rfl, rfl⟩)
    obtain ⟨header, hheader, htype, -, -, hid, -⟩ := hread packet hpacket
    exact ⟨packet, header, hpacket, hheader, htype, hid⟩

end MobileUnlock.Android
