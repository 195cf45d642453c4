import MobileUnlock.Lib.Framing
import MobileUnlock.Network.NetworkEngine
import MobileUnlock.Proofs.Codec

/-!
# `MobileUnlock.Proofs.StreamFraming`: frames survive any cutting of the stream

`frameFramer` is the framing rule of the protocol as a `Framer`. The inner loop of the
worker is its `drain` (`frameLoop_eq_drain`), and a worker on a plaintext connection does
one `feed` per read (`clientWorkerLoop_feed`). The laws of `Framer` then give the main
result, `clientWorkerLoop_delivers`: whatever way a stream of frames is cut into reads, the
callback sees the frames, once each and in order, and an incomplete last frame stays in the
buffer.
-/

set_option autoImplicit false

namespace MobileUnlock.Network

open MobileUnlock.Lib MobileUnlock.Protocol

/-- A header with its payload. -/
abbrev Frame := FrameHeader × Bytes

/-- The bytes of a frame on the wire. -/
def encodeFrame (f : Frame) : Bytes := serializeFrameHeader f.1 ++ f.2

/-- A frame that can be sent: the deserializer accepts its header, and the header has the
size of the payload. -/
structure WellFormedFrame (f : Frame) : Prop where
  accepted : ∃ data, deserializeFrameHeader data = some f.1
  payloadLength : f.1.payloadLength.toNat = f.2.length

/-! ### The framing rule -/

/-- What the front of a receive buffer is. -/
def frameFront (buf : Bytes) : Front Frame :=
  if buf.length < FRAME_HEADER_SIZE then .incomplete
  else match deserializeFrameHeader buf with
    | none => .malformed
    | some header =>
      if buf.length < FRAME_HEADER_SIZE + header.payloadLength.toNat then .incomplete
      else .frame (header, slice FRAME_HEADER_SIZE header.payloadLength.toNat buf)
        (FRAME_HEADER_SIZE + header.payloadLength.toNat)

/-- A complete front is a header with all of its payload behind it. -/
theorem frameFront_eq_frame {buf : Bytes} {f : Frame} {n : Nat} :
    frameFront buf = .frame f n ↔
      deserializeFrameHeader buf = some f.1 ∧
        n = FRAME_HEADER_SIZE + f.1.payloadLength.toNat ∧ n ≤ buf.length ∧
        f.2 = slice FRAME_HEADER_SIZE f.1.payloadLength.toNat buf := by
  unfold frameFront
  split
  · rename_i hlen
    constructor
    · intro h
      cases h
    · rintro ⟨-, rfl, hn, -⟩
      omega
  · cases hd : deserializeFrameHeader buf with
    | none => simp
    | some header =>
      -- The header is read, and the frame is complete when its payload is there.
      obtain ⟨header', payload⟩ := f
      simp only [Option.some.injEq]
      split
      · rename_i hshort
        constructor
        · intro h
          cases h
        · rintro ⟨rfl, rfl, hn, -⟩
          omega
      · rename_i hlong
        constructor
        · intro h
          cases h
          exact ⟨rfl, rfl, by omega, rfl⟩
        · rintro ⟨rfl, rfl, -, rfl⟩
          rfl

/-- A malformed front is a header that the deserializer rejects. -/
theorem frameFront_eq_malformed {buf : Bytes} :
    frameFront buf = .malformed ↔
      FRAME_HEADER_SIZE ≤ buf.length ∧ deserializeFrameHeader buf = none := by
  unfold frameFront
  split
  · rename_i hlen
    constructor
    · intro h
      cases h
    · rintro ⟨hlen', -⟩
      omega
  · rename_i hlen
    cases hd : deserializeFrameHeader buf with
    | none => simpa using hlen
    | some header =>
      simp only [reduceCtorEq, and_false, iff_false]
      split <;> simp

/-- A frame takes at least its header, and no more than there is. -/
theorem frameFront_len {buf : Bytes} {f : Frame} {n : Nat} (h : frameFront buf = .frame f n) :
    0 < n ∧ n ≤ buf.length := by
  obtain ⟨-, hn, hlen, -⟩ := frameFront_eq_frame.mp h
  simp only [FRAME_HEADER_SIZE] at hn
  omega

/-- A complete frame stays the front when more bytes follow. -/
theorem frameFront_append {buf : Bytes} {f : Frame} {n : Nat} (more : Bytes)
    (h : frameFront buf = .frame f n) : frameFront (buf ++ more) = .frame f n := by
  obtain ⟨hd, hn, hlen, hp⟩ := frameFront_eq_frame.mp h
  refine frameFront_eq_frame.mpr ⟨?_, hn, ?_, ?_⟩
  · rw [deserializeFrameHeader_append (by omega), hd]
  · rw [List.length_append]
    omega
  · rw [hp, slice_append_left (by omega)]

/-- A malformed front stays malformed. -/
theorem frameFront_malformed_append {buf : Bytes} (more : Bytes)
    (h : frameFront buf = .malformed) : frameFront (buf ++ more) = .malformed := by
  obtain ⟨hlen, hd⟩ := frameFront_eq_malformed.mp h
  refine frameFront_eq_malformed.mpr ⟨?_, ?_⟩
  · rw [List.length_append]
    omega
  · rw [deserializeFrameHeader_append hlen, hd]

/-- The framing rule of the protocol. -/
def frameFramer : Framer UInt8 Frame where
  front := frameFront
  frame_len := frameFront_len
  frame_append := frameFront_append
  malformed_append := frameFront_malformed_append

theorem drain_nil : frameFramer.drain [] = ⟨[], [], true⟩ :=
  frameFramer.drain_incomplete (by show frameFront [] = _; simp [frameFront, FRAME_HEADER_SIZE])

/-- The inner loop of the worker drains the buffer. The test of the payload size in the
loop never fires, because the deserializer has made it before. -/
theorem frameLoop_eq_drain (buf : Bytes) :
    frameLoop buf = ⟨(frameFramer.drain buf).frames, (frameFramer.drain buf).rest,
      (frameFramer.drain buf).isOpen⟩ := by
  -- Induction on the length of the buffer: every frame taken off shortens it.
  induction hn : buf.length using Nat.strongRecOn generalizing buf with
  | ind n ih =>
    rw [frameLoop]
    split
    · rename_i hlen
      have hfront : frameFramer.front buf = .incomplete := by
        show frameFront buf = .incomplete
        rw [frameFront, if_pos hlen]
      rw [frameFramer.drain_incomplete hfront]
    · rename_i hlen
      cases hd : deserializeFrameHeader buf with
      | none =>
        have hfront : frameFramer.front buf = .malformed :=
          frameFront_eq_malformed.mpr ⟨by omega, hd⟩
        rw [frameFramer.drain_malformed hfront]
      | some header =>
        have hbound := (accepted_of_deserializeFrameHeader hd).payloadLength
        dsimp only
        rw [if_neg (by omega)]
        by_cases hshort : buf.length < FRAME_HEADER_SIZE + header.payloadLength.toNat
        · have hfront : frameFramer.front buf = .incomplete := by
            show frameFront buf = .incomplete
            rw [frameFront, if_neg hlen, hd]
            exact if_pos hshort
          rw [frameFramer.drain_incomplete hfront, if_pos hshort]
        · have hfront : frameFramer.front buf
              = .frame (header, slice FRAME_HEADER_SIZE header.payloadLength.toNat buf)
                (FRAME_HEADER_SIZE + header.payloadLength.toNat) :=
            frameFront_eq_frame.mpr ⟨hd, rfl, by omega, rfl⟩
          have hdrop := ih (buf.drop (FRAME_HEADER_SIZE + header.payloadLength.toNat)).length
            (by simp only [FRAME_HEADER_SIZE] at *; rw [List.length_drop]; omega) _ rfl
          rw [frameFramer.drain_frame hfront, if_neg hshort, hdrop]

/-! ### Encoded frames -/

theorem WellFormedFrame.header_accepted {f : Frame} (hf : WellFormedFrame f) : f.1.Accepted := by
  obtain ⟨data, hd⟩ := hf.accepted
  exact accepted_of_deserializeFrameHeader hd

@[simp] theorem length_encodeFrame (f : Frame) :
    (encodeFrame f).length = FRAME_HEADER_SIZE + f.2.length := by
  simp [encodeFrame]

/-- The front of a buffer that starts with an encoded frame is that frame. -/
theorem frameFront_encodeFrame {f : Frame} (hf : WellFormedFrame f) (more : Bytes) :
    frameFront (encodeFrame f ++ more) = .frame f (encodeFrame f).length := by
  refine frameFront_eq_frame.mpr ⟨?_, ?_, ?_, ?_⟩
  · rw [encodeFrame, List.append_assoc]
    exact deserializeFrameHeader_serialize hf.header_accepted _
  · rw [length_encodeFrame, hf.payloadLength]
  · rw [List.length_append]
    omega
  · have hlen := length_serializeFrameHeader f.1
    rw [encodeFrame, List.append_assoc, slice_append_right (by omega), hlen, Nat.sub_self,
      hf.payloadLength, slice_append_left (by omega), slice_all rfl]

/-- The front of a proper beginning of an encoded frame is incomplete. -/
theorem frameFront_take_encodeFrame {f : Frame} (hf : WellFormedFrame f) {n : Nat}
    (hn : n < (encodeFrame f).length) :
    frameFront ((encodeFrame f).take n) = .incomplete := by
  have hlen : ((encodeFrame f).take n).length = n := by
    rw [List.length_take]
    omega
  by_cases hshort : n < FRAME_HEADER_SIZE
  · rw [frameFront, if_pos (by omega)]
  · -- The header is complete, so it is read, and the payload behind it is short.
    have hd : deserializeFrameHeader ((encodeFrame f).take n) = some f.1 := by
      have h24 := length_serializeFrameHeader f.1
      rw [encodeFrame, List.take_append, List.take_of_length_le (by omega)]
      exact deserializeFrameHeader_serialize hf.header_accepted _
    rw [length_encodeFrame] at hn
    rw [frameFront, if_neg (by omega), hd]
    exact if_pos (by rw [hlen, hf.payloadLength]; omega)

/-- Every encoded frame starts with the byte that marks a plaintext connection. -/
theorem encodeFrame_head {f : Frame} (hf : WellFormedFrame f) :
    ∃ rest, encodeFrame f = 0x4D :: rest := by
  have hbytes : bytesLE 2 (hostToNetwork16 PROTOCOL_MAGIC).toNat = [0x4D, 0x55] := by decide
  refine ⟨(encodeFrame f).drop 1, ?_⟩
  simp [encodeFrame, serializeFrameHeader, FrameHeader.layout, hf.header_accepted.magic, hbytes]

/-- A stream of frames that is not empty starts with that byte, too. -/
theorem stream_head {frames : List Frame} (hframes : ∀ f ∈ frames, WellFormedFrame f)
    {last : Frame} (hlast : WellFormedFrame last) {n : Nat} {b : UInt8} {rest : Bytes}
    (h : (frames.map encodeFrame).flatten ++ (encodeFrame last).take n = b :: rest) :
    b = 0x4D := by
  cases frames with
  | nil =>
    obtain ⟨t, ht⟩ := encodeFrame_head hlast
    rw [List.map_nil, List.flatten_nil, List.nil_append, ht] at h
    cases n with
    | zero => simp at h
    | succ k =>
      rw [List.take_succ_cons] at h
      cases h
      rfl
  | cons f fs =>
    obtain ⟨t, ht⟩ := encodeFrame_head (hframes f (by simp))
    rw [List.map_cons, List.flatten_cons, ht, List.cons_append, List.cons_append] at h
    cases h
    rfl

/-! ### The worker on a plaintext connection -/

section Worker
variable {τ : Type} {tls : TlsContext τ}

/-- A connection that has been found to be plaintext and is open. -/
structure PlaintextActive (tls : TlsContext τ) (session : ClientSession τ) : Prop where
  socketOpen : session.socketOpen = true
  state : session.state = .ACTIVE_SESSION
  plaintext : tls.isHandshakeComplete session.tls = false

/-- The callbacks of a list of frames. -/
def callbacks (clientId : UInt64) (frames : List Frame) : List NetworkOutput :=
  frames.map fun f => .frameReceived clientId f.1 f.2

/-- One read on an active plaintext connection that stays well formed: the chunk is
appended and the buffer is drained. -/
theorem workerStep_data {session : ClientSession τ} (hs : PlaintextActive tls session)
    (now : UInt32) {chunk : Bytes}
    (hopen : (frameFramer.drain (session.receiveBuffer ++ chunk)).isOpen = true) :
    workerStep tls session now (.data chunk) =
      ({ session with
          lastActiveTimestampMs := now
          receiveBuffer := (frameFramer.drain (session.receiveBuffer ++ chunk)).rest },
        callbacks session.clientId
          (frameFramer.drain (session.receiveBuffer ++ chunk)).frames) := by
  obtain ⟨clientId, socketOpen, state, last, ctx, buf⟩ := session
  obtain ⟨ho, hst, hp⟩ := hs
  simp only at ho hst hp hopen
  subst ho hst
  simp [workerStep, detectProtocol, receiveData, hp, frameLoop_eq_drain, hopen, callbacks]

/-- The worker on an active plaintext connection feeds the framer. When the whole stream is
well formed, it calls back with the frames the framer delivers, and keeps the framer's
rest. -/
theorem clientWorkerLoop_feed (chunks : List (UInt32 × Bytes)) :
    ∀ (session : ClientSession τ) (delivered : List Frame),
      PlaintextActive tls session →
      ((chunks.map Prod.snd).foldl frameFramer.feed
        ⟨delivered, session.receiveBuffer, true⟩).isOpen = true →
      ∃ more : List Frame,
        ((chunks.map Prod.snd).foldl frameFramer.feed
            ⟨delivered, session.receiveBuffer, true⟩).frames = delivered ++ more ∧
        (clientWorkerLoop tls session (chunks.map fun c => (c.1, .data c.2))).2
          = callbacks session.clientId more ∧
        (clientWorkerLoop tls session (chunks.map fun c => (c.1, .data c.2))).1.socketOpen
          = true ∧
        (clientWorkerLoop tls session (chunks.map fun c => (c.1, .data c.2))).1.receiveBuffer
          = ((chunks.map Prod.snd).foldl frameFramer.feed
              ⟨delivered, session.receiveBuffer, true⟩).rest := by
  induction chunks with
  | nil =>
    intro session delivered hs _
    exact ⟨[], by simp, by simp [clientWorkerLoop, callbacks], hs.socketOpen, rfl⟩
  | cons c cs ih =>
    intro session delivered hs hopen
    rw [List.map_cons, List.foldl_cons] at hopen ⊢
    -- The drain of this read is open, since a closed receiver would stay closed.
    have hnow : (frameFramer.drain (session.receiveBuffer ++ c.2)).isOpen = true := by
      by_contra hclosed
      rw [Bool.not_eq_true] at hclosed
      have hfeed : (frameFramer.feed ⟨delivered, session.receiveBuffer, true⟩ c.2).isOpen
          = false := by
        simpa [Framer.feed] using hclosed
      have := frameFramer.foldl_feed_closed (cs.map Prod.snd) hfeed
      rw [this] at hopen
      cases hopen
    have hfeed : frameFramer.feed ⟨delivered, session.receiveBuffer, true⟩ c.2 =
        ⟨delivered ++ (frameFramer.drain (session.receiveBuffer ++ c.2)).frames,
          (frameFramer.drain (session.receiveBuffer ++ c.2)).rest, true⟩ := by
      simp [Framer.feed, hnow]
    rw [hfeed] at hopen ⊢
    have hstep := workerStep_data hs c.1 hnow
    obtain ⟨more, hframes, hout, hsock, hrest⟩ := ih
      { session with
          lastActiveTimestampMs := c.1
          receiveBuffer := (frameFramer.drain (session.receiveBuffer ++ c.2)).rest }
      (delivered ++ (frameFramer.drain (session.receiveBuffer ++ c.2)).frames)
      ⟨hs.socketOpen, hs.state, hs.plaintext⟩ hopen
    refine ⟨(frameFramer.drain (session.receiveBuffer ++ c.2)).frames ++ more, ?_, ?_, ?_, ?_⟩
    · rw [hframes, List.append_assoc]
    · rw [List.map_cons, clientWorkerLoop, hstep]
      simp only [hout, callbacks, List.map_append]
    · rw [List.map_cons, clientWorkerLoop, hstep]
      exact hsock
    · rw [List.map_cons, clientWorkerLoop, hstep]
      exact hrest

/-- A new connection whose first byte marks plaintext behaves as an active one. -/
theorem clientWorkerLoop_detect {session : ClientSession τ}
    (hnew : session.state = .TCP_CONNECTING) (now : UInt32) (rest : Bytes)
    (rs : List (UInt32 × RecvResult)) :
    clientWorkerLoop tls session ((now, .data (0x4D :: rest)) :: rs) =
      clientWorkerLoop tls { session with state := .ACTIVE_SESSION }
        ((now, .data (0x4D :: rest)) :: rs) := by
  obtain ⟨clientId, socketOpen, state, last, ctx, buf⟩ := session
  simp only at hnew
  subst hnew
  have hstep : ∀ open' : Bool,
      workerStep tls ⟨clientId, open', .TCP_CONNECTING, last, ctx, buf⟩ now (.data (0x4D :: rest))
        = workerStep tls ⟨clientId, open', .ACTIVE_SESSION, last, ctx, buf⟩ now
            (.data (0x4D :: rest)) := by
    intro open'
    cases open' <;> simp [workerStep, detectProtocol]
  rw [clientWorkerLoop, clientWorkerLoop, hstep]

/-- Stream framing loses nothing. A new plaintext connection receives a sequence of frames
and a proper beginning of another one, cut into reads of at most 4096 bytes. The callback
is called with exactly these frames, once each and in order, the socket stays open, and the
beginning of the last frame is in the receive buffer. -/
theorem clientWorkerLoop_delivers (session : ClientSession τ)
    (hopen : session.socketOpen = true) (hnew : session.state = .TCP_CONNECTING)
    (hbuf : session.receiveBuffer = [])
    (hplain : tls.isHandshakeComplete session.tls = false)
    (frames : List Frame) (hframes : ∀ f ∈ frames, WellFormedFrame f)
    (last : Frame) (hlast : WellFormedFrame last)
    (n : Nat) (hn : n < (encodeFrame last).length)
    (chunks : List (UInt32 × Bytes))
    (hchunks : ∀ c ∈ chunks, c.2 ≠ [] ∧ c.2.length ≤ 4096)
    (hcut : (chunks.map Prod.snd).flatten
      = (frames.map encodeFrame).flatten ++ (encodeFrame last).take n) :
    let result := clientWorkerLoop tls session (chunks.map fun c => (c.1, .data c.2))
    result.2 = frames.map (fun f => .frameReceived session.clientId f.1 f.2) ∧
      result.1.socketOpen = true ∧ result.1.receiveBuffer = (encodeFrame last).take n := by
  intro result
  have hdrain : frameFramer.drain ((chunks.map Prod.snd).flatten)
      = ⟨frames, (encodeFrame last).take n, true⟩ := by
    rw [hcut]
    exact frameFramer.drain_encode
      (fun f hf more => frameFront_encodeFrame (hframes f hf) more)
      (frameFront_take_encodeFrame hlast hn)
  obtain ⟨hfr, hop, hre⟩ := frameFramer.feedAll_eq_drain (chunks.map Prod.snd)
  rw [drain_nil, hdrain] at hfr hop hre
  cases chunks with
  | nil =>
    -- Nothing was received, so there is no frame and no beginning of one.
    rw [List.map_nil, List.foldl_nil] at hfr hre
    have hfr' : frames = [] := hfr.symm
    have hre' : (encodeFrame last).take n = [] := (hre rfl).symm
    refine ⟨?_, hopen, ?_⟩
    · simp [result, clientWorkerLoop, hfr']
    · rw [hre']
      exact hbuf
  | cons c cs =>
    -- The first byte of the first read is the first byte of the stream.
    obtain ⟨b, rest, hb⟩ := List.exists_cons_of_ne_nil (hchunks c (by simp)).1
    have hstream : (frames.map encodeFrame).flatten ++ (encodeFrame last).take n
        = b :: (rest ++ (cs.map Prod.snd).flatten) := by
      rw [← hcut, List.map_cons, List.flatten_cons, hb, List.cons_append]
    have hc : c.2 = 0x4D :: rest := by
      rw [hb, stream_head hframes hlast hstream]
    have hdetect : result = clientWorkerLoop tls { session with state := .ACTIVE_SESSION }
        ((c :: cs).map fun c => (c.1, .data c.2)) := by
      show clientWorkerLoop tls session ((c :: cs).map fun c => (c.1, .data c.2)) = _
      rw [List.map_cons, hc]
      exact clientWorkerLoop_detect hnew c.1 rest _
    have hactive : PlaintextActive tls { session with state := .ACTIVE_SESSION } :=
      ⟨hopen, rfl, hplain⟩
    have hfold : ({ session with state := .ACTIVE_SESSION } : ClientSession τ).receiveBuffer = [] :=
      hbuf
    obtain ⟨more, hmore, hout, hsock, hkeep⟩ :=
      clientWorkerLoop_feed (c :: cs) { session with state := .ACTIVE_SESSION } [] hactive
        (by rw [hfold]; exact hop)
    rw [hfold, hfr, List.nil_append] at hmore
    refine ⟨?_, ?_, ?_⟩
    · rw [hdetect, hout, ← hmore, callbacks]
    · rw [hdetect, hsock]
    · rw [hdetect, hkeep, hfold]
      exact hre hop

end Worker

/-! ### A stream of two frames -/

/-- A TLS context before any handshake. -/
def freshTls : TlsContext Unit where
  isHandshakeComplete _ := false
  acceptHandshake _ _ := ((), .ERROR_GENERAL, [])
  decryptPayload _ _ := ((), .ERROR_GENERAL, [])

/-- A ping without payload. -/
def pingFrame (id : UInt32) : Frame :=
  ({ messageType := MessageType.PING.code, messageID := id }, [])

/-- A lock request with two bytes. -/
def lockFrame (id : UInt32) : Frame :=
  ({ messageType := MessageType.LOCK_REQUEST.code, messageID := id, payloadLength := 2 }, [1, 2])

/-- A ping, a lock request, and the first three bytes of another ping. -/
def twoFrameStream : Bytes :=
  ([pingFrame 7, lockFrame 8].map encodeFrame).flatten ++ (encodeFrame (pingFrame 9)).take 3

/-- Cuts inside the first header and between header and payload of the second frame. -/
def twoFrameChunks : List (UInt32 × Bytes) :=
  [(0, slice 0 10 twoFrameStream), (5, slice 10 38 twoFrameStream), (9, slice 48 5 twoFrameStream)]

/-- The two frames arrive, and the three bytes wait. -/
theorem clientWorkerLoop_twoFrames :
    let result := clientWorkerLoop freshTls { clientId := 1, tls := () }
      (twoFrameChunks.map fun c => (c.1, .data c.2))
    result.2 = [pingFrame 7, lockFrame 8].map (fun f => .frameReceived 1 f.1 f.2) ∧
      result.1.socketOpen = true ∧
      result.1.receiveBuffer = (encodeFrame (pingFrame 9)).take 3 := by
  refine clientWorkerLoop_delivers { clientId := 1, tls := () } rfl rfl rfl rfl
    [pingFrame 7, lockFrame 8] ?_ (pingFrame 9)
    ⟨⟨serializeFrameHeader (pingFrame 9).1, by decide⟩, by decide⟩ 3 (by decide)
    twoFrameChunks (by decide) (by decide)
  intro f hf
  simp only [List.mem_cons, List.not_mem_nil, or_false] at hf
  rcases hf with rfl | rfl
  · exact ⟨⟨serializeFrameHeader (pingFrame 7).1, by decide⟩, by decide⟩
  · exact ⟨⟨serializeFrameHeader (lockFrame 8).1, by decide⟩, by decide⟩

end MobileUnlock.Network
