import MobileUnlock.Proofs.StreamFraming

/-!
# `MobileUnlock.Proofs.MalformedStream`: what a malformed stream delivers

A malformed stream should deliver its frames up to the first bad byte and nothing more. The frame
loop keeps to that, whatever the cutting, because it drains (`Lib.Framing`). The protocol detection
does not: a chunk that starts with neither 0x16 nor 0x4D is thrown away, the connection stays new,
and a later chunk may start it. `streamBytes` is what a new connection takes for the stream of its
frames, and `deliversWellFormed_iff` is the exact condition.
-/

set_option autoImplicit false

namespace MobileUnlock.Network

open MobileUnlock.Lib MobileUnlock.Protocol

/-! ### The frames of the framer -/

/-- The complete fronts are the well-formed frames. -/
theorem frameFramer_encoded : frameFramer.Encoded encodeFrame WellFormedFrame where
  front_iff := by
    intro buf f n
    constructor
    · intro h
      obtain ⟨hd, hn, hlen, hpayload⟩ := frameFront_eq_frame.mp h
      have hsize : f.1.payloadLength.toNat = f.2.length := by
        rw [hpayload, length_slice (by omega)]
      refine ⟨⟨⟨buf, hd⟩, hsize⟩, by rw [length_encodeFrame, hn, hsize], ?_⟩
      have hbytes : encodeFrame f = buf.take n := by
        have hheader : buf.take FRAME_HEADER_SIZE = slice 0 FRAME_HEADER_SIZE buf := rfl
        rw [encodeFrame, serializeFrameHeader_deserialize hd, hpayload, hn, hheader]
        have hjoin := slice_append_slice 0 FRAME_HEADER_SIZE f.1.payloadLength.toNat buf
        rw [Nat.zero_add] at hjoin
        rw [hjoin]
        rfl
      rw [hbytes]
      exact List.take_prefix _ _
    · rintro ⟨hf, rfl, more, rfl⟩
      exact frameFront_encodeFrame hf more

/-- A well-formed stream that is not empty starts with the byte that marks plaintext. -/
theorem wellFormedStream_head {b : UInt8} {rest : Bytes}
    (h : Framer.WellFormedStream encodeFrame WellFormedFrame (b :: rest)) : b = 0x4D := by
  obtain ⟨frames, hframes, more, hmore⟩ := h
  cases frames with
  | nil => cases hmore
  | cons f frames =>
    obtain ⟨tail, htail⟩ := encodeFrame_head (hframes f (by simp))
    rw [List.map_cons, List.flatten_cons, htail] at hmore
    exact (List.cons.inj hmore).1

/-! ### The rule -/

/-- The bytes of some chunks. -/
def receivedBytes (chunks : List (UInt32 × Bytes)) : Bytes := (chunks.map Prod.snd).flatten

/-- The worker on some chunks. -/
def runChunks {τ : Type} (tls : TlsContext τ) (session : ClientSession τ)
    (chunks : List (UInt32 × Bytes)) : ClientSession τ × List NetworkOutput :=
  clientWorkerLoop tls session (chunks.map fun c => (c.1, .data c.2))

/-- The frames that the callback was called with. -/
def delivered (outputs : List NetworkOutput) : List Frame :=
  outputs.filterMap fun
    | .frameReceived _ header payload => some (header, payload)
    | .rawSend _ => none

/-- The rule for the chunks of a connection. Once the bytes received are not the beginning of any
concatenation of valid frames, the callback is not called again, and the frames delivered are
exactly the complete frames of the longest well-formed beginning of the stream. -/
structure DeliversWellFormed {τ : Type} (tls : TlsContext τ) (session : ClientSession τ)
    (chunks : List (UInt32 × Bytes)) : Prop where
  stops : ∀ before after, chunks = before ++ after →
    ¬ Framer.WellFormedStream encodeFrame WellFormedFrame (receivedBytes before) →
    delivered (runChunks tls (runChunks tls session before).1 after).2 = []
  frames : ∃ p frames,
    Framer.LongestWellFormed encodeFrame WellFormedFrame (receivedBytes chunks) p ∧
    Framer.CompleteFrames encodeFrame WellFormedFrame p frames ∧
    delivered (runChunks tls session chunks).2 = frames

/-! ### What the connection takes for its stream -/

section Worker
variable {τ : Type} (tls : TlsContext τ)

/-- What an active connection takes for bytes of frames: the plaintext of TLS after a handshake, and
the chunks themselves before. -/
def activeBytes : τ → List Bytes → Bytes
  | _, [] => []
  | ctx, chunk :: chunks =>
    if tls.isHandshakeComplete ctx then
      let (ctx, decStatus, plainData) := tls.decryptPayload ctx chunk
      (if decStatus = .SUCCESS then plainData else []) ++ activeBytes ctx chunks
    else chunk ++ activeBytes ctx chunks

/-- The same in the handshake, which takes whole chunks. -/
def handshakeBytes : τ → List Bytes → Bytes
  | _, [] => []
  | ctx, chunk :: chunks =>
    let (ctx, status, _) := tls.acceptHandshake ctx chunk
    match status with
    | .SUCCESS => activeBytes tls ctx chunks
    | .CONTINUE_NEEDED | .INCOMPLETE_DATA => handshakeBytes ctx chunks
    | _ => []

/-- The same on a new connection. The first chunk that starts with 0x16 or 0x4D decides, and the
chunks in front of it are thrown away. -/
def streamBytes (ctx : τ) : List Bytes → Bytes
  | [] => []
  | chunk :: chunks =>
    if chunk.getD 0 0 = 0x16 then handshakeBytes tls ctx (chunk :: chunks)
    else if chunk.getD 0 0 = 0x4D then activeBytes tls ctx (chunk :: chunks)
    else streamBytes ctx chunks

/-! ### What the worker delivers -/

theorem delivered_append (a b : List NetworkOutput) :
    delivered (a ++ b) = delivered a ++ delivered b := List.filterMap_append

theorem delivered_callbacks (clientId : UInt64) (frames : List Frame) :
    delivered (frames.map fun f => .frameReceived clientId f.1 f.2) = frames := by
  induction frames with
  | nil => rfl
  | cons f frames ih =>
    show f :: delivered _ = _
    rw [ih]

variable {tls}

theorem runChunks_cons (session : ClientSession τ) (now : UInt32) (chunk : Bytes)
    (chunks : List (UInt32 × Bytes)) :
    delivered (runChunks tls session ((now, chunk) :: chunks)).2 =
      delivered (workerStep tls session now (.data chunk)).2 ++
        delivered (runChunks tls (workerStep tls session now (.data chunk)).1 chunks).2 :=
  delivered_append _ _

/-- The worker on one part of the chunks after the other. -/
theorem delivered_runChunks_append (session : ClientSession τ)
    (before after : List (UInt32 × Bytes)) :
    delivered (runChunks tls session (before ++ after)).2 =
      delivered (runChunks tls session before).2 ++
        delivered (runChunks tls (runChunks tls session before).1 after).2 := by
  induction before generalizing session with
  | nil => rfl
  | cons c before ih =>
    obtain ⟨now, chunk⟩ := c
    rw [List.cons_append, runChunks_cons, runChunks_cons, ih, List.append_assoc]
    rfl

/-- A closed connection delivers nothing. -/
theorem delivered_closed {session : ClientSession τ} (h : session.socketOpen = false)
    (chunks : List (UInt32 × Bytes)) : delivered (runChunks tls session chunks).2 = [] := by
  induction chunks generalizing session with
  | nil => rfl
  | cons c chunks ih =>
    obtain ⟨now, chunk⟩ := c
    have hstep : workerStep tls session now (.data chunk) =
        ({ session with state := .DISCONNECTED, socketOpen := false }, []) := by
      rw [workerStep, if_pos (by simp [h])]
    rw [runChunks_cons, hstep, ih rfl]
    rfl

/-- An open connection in the active state. -/
structure OpenActive (session : ClientSession τ) : Prop where
  socketOpen : session.socketOpen = true
  state : session.state = .ACTIVE_SESSION

/-- The context and the bytes that a chunk leaves on an active connection. -/
theorem receiveData_active (session : ClientSession τ) (chunk : Bytes) :
    ∃ ctx added, receiveData tls session chunk =
        { session with tls := ctx, receiveBuffer := session.receiveBuffer ++ added } ∧
      ∀ chunks, activeBytes tls session.tls (chunk :: chunks)
        = added ++ activeBytes tls ctx chunks := by
  rw [receiveData]
  by_cases hdone : tls.isHandshakeComplete session.tls = true
  · rw [if_pos hdone]
    cases hdec : tls.decryptPayload session.tls chunk with
    | mk ctx outcome =>
      obtain ⟨decStatus, plainData⟩ := outcome
      refine ⟨ctx, if decStatus = .SUCCESS then plainData else [], ?_, fun chunks => ?_⟩
      · dsimp only
        split
        · next h => rw [if_pos h.1]
        · next h =>
          split
          · next hsuccess =>
            have hempty : plainData = [] := by
              by_contra hdata
              exact h ⟨hsuccess, hdata⟩
            rw [hempty, List.append_nil]
          · rw [List.append_nil]
      · rw [activeBytes, if_pos hdone, hdec]
  · rw [if_neg hdone]
    refine ⟨session.tls, chunk, rfl, fun chunks => ?_⟩
    rw [activeBytes, if_neg hdone]

/-- One read on an active connection: the added bytes are drained. -/
theorem workerStep_active {session : ClientSession τ} (hs : OpenActive session) (now : UInt32)
    (chunk : Bytes) :
    ∃ ctx added,
      (∀ chunks, activeBytes tls session.tls (chunk :: chunks)
        = added ++ activeBytes tls ctx chunks) ∧
      delivered (workerStep tls session now (.data chunk)).2
        = (frameFramer.drain (session.receiveBuffer ++ added)).frames ∧
      ((frameFramer.drain (session.receiveBuffer ++ added)).isOpen = true →
        (workerStep tls session now (.data chunk)).1 =
          { session with
            lastActiveTimestampMs := now
            tls := ctx
            receiveBuffer := (frameFramer.drain (session.receiveBuffer ++ added)).rest }) ∧
      ((frameFramer.drain (session.receiveBuffer ++ added)).isOpen = false →
        (workerStep tls session now (.data chunk)).1.socketOpen = false) := by
  obtain ⟨clientId, socketOpen, state, last, ctx, buf⟩ := session
  obtain ⟨hopen, hstate⟩ := hs
  dsimp only at hopen hstate
  subst hopen hstate
  obtain ⟨ctx', added, hreceive, hbytes⟩ :=
    @receiveData_active τ tls ⟨clientId, true, .ACTIVE_SESSION, now, ctx, buf⟩ chunk
  refine ⟨ctx', added, hbytes, ?_⟩
  dsimp only
  have hstep : workerStep tls ⟨clientId, true, .ACTIVE_SESSION, last, ctx, buf⟩ now (.data chunk) =
      (if (frameFramer.drain (buf ++ added)).isOpen then
        (⟨clientId, true, .ACTIVE_SESSION, now, ctx', (frameFramer.drain (buf ++ added)).rest⟩,
          (frameFramer.drain (buf ++ added)).frames.map fun f => .frameReceived clientId f.1 f.2)
      else
        (⟨clientId, false, .DISCONNECTED, now, ctx', (frameFramer.drain (buf ++ added)).rest⟩,
          (frameFramer.drain (buf ++ added)).frames.map
            fun f => .frameReceived clientId f.1 f.2)) := by
    simp only [workerStep, detectProtocol, not_true_eq_false, if_false, reduceCtorEq, if_true,
      hreceive, frameLoop_eq_drain]
    split
    · next h => rw [h]
    · rfl
  rw [hstep]
  split
  · next h => exact ⟨delivered_callbacks _ _, fun _ => rfl, fun hclosed => by simp [h] at hclosed⟩
  · next h => exact ⟨delivered_callbacks _ _, fun hopen => absurd hopen h, fun _ => rfl⟩

/-- An active connection delivers what its bytes drain to, together with those it has kept. -/
theorem delivered_active (chunks : List (UInt32 × Bytes)) :
    ∀ session : ClientSession τ, OpenActive session →
      frameFramer.drain session.receiveBuffer = ⟨[], session.receiveBuffer, true⟩ →
      delivered (runChunks tls session chunks).2 =
        (frameFramer.drain (session.receiveBuffer ++
          activeBytes tls session.tls (chunks.map Prod.snd))).frames := by
  -- Induction on the chunks: the buffer stays drained.
  induction chunks with
  | nil =>
    intro session _ hdrained
    rw [List.map_nil, activeBytes, List.append_nil, hdrained]
    rfl
  | cons c chunks ih =>
    obtain ⟨now, chunk⟩ := c
    intro session hs hdrained
    obtain ⟨ctx, added, hbytes, hframes, hon, hoff⟩ :=
      @workerStep_active τ tls session hs now chunk
    obtain ⟨happend, -, -⟩ := frameFramer.drain_append (session.receiveBuffer ++ added)
      (activeBytes tls ctx (chunks.map Prod.snd))
    rw [runChunks_cons, hframes, List.map_cons, hbytes, ← List.append_assoc, happend, Framer.feed]
    by_cases hopen : (frameFramer.drain (session.receiveBuffer ++ added)).isOpen = true
    · have hcontinue := ih { session with
          lastActiveTimestampMs := now
          tls := ctx
          receiveBuffer := (frameFramer.drain (session.receiveBuffer ++ added)).rest }
        ⟨hs.socketOpen, hs.state⟩ (frameFramer.drain_drain_rest hopen)
      rw [hon hopen, hcontinue, if_pos hopen]
    · rw [if_neg hopen, delivered_closed (hoff (by simpa using hopen)), List.append_nil]

/-- An active connection that has kept nothing. -/
theorem delivered_active_empty {session : ClientSession τ} (hs : OpenActive session)
    (hbuf : session.receiveBuffer = []) (chunks : List (UInt32 × Bytes)) :
    delivered (runChunks tls session chunks).2 =
      (frameFramer.drain (activeBytes tls session.tls (chunks.map Prod.snd))).frames := by
  have h := @delivered_active τ tls chunks session hs (by rw [hbuf, drain_nil])
  rwa [hbuf, List.nil_append] at h

/-- One read of a connection in the handshake: it goes on, it succeeds, or it fails. -/
theorem workerStep_handshake {ctx ctx' : τ} {chunk outTls : Bytes} {status : TlsStatus}
    (haccept : tls.acceptHandshake ctx chunk = (ctx', status, outTls)) (clientId : UInt64)
    (last now : UInt32) :
    workerStep tls ⟨clientId, true, .TLS_HANDSHAKE, last, ctx, []⟩ now (.data chunk) =
      (if status = .SUCCESS then ⟨clientId, true, .ACTIVE_SESSION, now, ctx', []⟩
        else if status = .CONTINUE_NEEDED ∨ status = .INCOMPLETE_DATA then
          ⟨clientId, true, .TLS_HANDSHAKE, now, ctx', []⟩
        else ⟨clientId, false, .DISCONNECTED, now, ctx', []⟩,
        if outTls = [] then [] else [.rawSend outTls]) := by
  simp only [workerStep, detectProtocol, not_true_eq_false, if_false, reduceCtorEq, if_true,
    haccept]
  cases status <;> rfl

/-- A connection in the handshake. -/
theorem delivered_handshake (chunks : List (UInt32 × Bytes)) :
    ∀ session : ClientSession τ, session.socketOpen = true → session.state = .TLS_HANDSHAKE →
      session.receiveBuffer = [] →
      delivered (runChunks tls session chunks).2 =
        (frameFramer.drain (handshakeBytes tls session.tls (chunks.map Prod.snd))).frames := by
  -- Induction on the chunks: the handshake goes on, succeeds or fails.
  induction chunks with
  | nil =>
    intro session _ _ _
    rw [List.map_nil, handshakeBytes, drain_nil]
    rfl
  | cons c chunks ih =>
    obtain ⟨now, chunk⟩ := c
    rintro ⟨clientId, socketOpen, state, last, ctx, buf⟩ hopen hstate hbuf
    dsimp only at hopen hstate hbuf
    subst hopen hstate hbuf
    rw [runChunks_cons, List.map_cons, handshakeBytes]
    cases haccept : tls.acceptHandshake ctx chunk with
    | mk ctx' outcome =>
      obtain ⟨status, outTls⟩ := outcome
      have hsends : delivered (if outTls = [] then [] else [.rawSend outTls]) = [] := by
        split <;> rfl
      rw [workerStep_handshake haccept]
      cases status with
      | SUCCESS =>
        rw [if_pos rfl, hsends, List.nil_append]
        exact delivered_active_empty ⟨rfl, rfl⟩ rfl chunks
      | CONTINUE_NEEDED | INCOMPLETE_DATA =>
        rw [if_neg (by decide), if_pos (by decide), hsends, List.nil_append]
        exact ih ⟨clientId, true, .TLS_HANDSHAKE, now, ctx', []⟩ rfl rfl rfl
      | HANDSHAKE_FAILED | PROTOCOL_VERSION_REJECTED | CLOSED | ERROR_GENERAL =>
        rw [if_neg (by decide), if_neg (by decide), hsends, List.nil_append, delivered_closed rfl,
          drain_nil]

/-- A connection that has received nothing yet. -/
structure NewSession (tls : TlsContext τ) (session : ClientSession τ) : Prop where
  socketOpen : session.socketOpen = true
  state : session.state = .TCP_CONNECTING
  receiveBuffer : session.receiveBuffer = []
  plaintext : tls.isHandshakeComplete session.tls = false

/-- A new connection delivers what its stream drains to. -/
theorem delivered_new (chunks : List (UInt32 × Bytes)) :
    ∀ session : ClientSession τ, NewSession tls session →
      delivered (runChunks tls session chunks).2 =
        (frameFramer.drain (streamBytes tls session.tls (chunks.map Prod.snd))).frames := by
  -- Induction on the chunks: those in front of the deciding one change nothing but the clock.
  induction chunks with
  | nil =>
    intro session _
    rw [List.map_nil, streamBytes, drain_nil]
    rfl
  | cons c chunks ih =>
    obtain ⟨now, chunk⟩ := c
    rintro ⟨clientId, socketOpen, state, last, ctx, buf⟩ ⟨hopen, hstate, hbuf, hplain⟩
    dsimp only at hopen hstate hbuf hplain
    subst hopen hstate hbuf
    rw [List.map_cons, streamBytes]
    by_cases htls : chunk.getD 0 0 = 0x16
    · have hsame : workerStep tls ⟨clientId, true, .TCP_CONNECTING, last, ctx, []⟩ now
          (.data chunk) =
          workerStep tls ⟨clientId, true, .TLS_HANDSHAKE, last, ctx, []⟩ now (.data chunk) := by
        simp only [workerStep, detectProtocol, if_pos htls, if_true, reduceCtorEq, if_false]
      rw [if_pos htls, runChunks_cons, hsame, ← runChunks_cons]
      exact delivered_handshake ((now, chunk) :: chunks) _ rfl rfl rfl
    · by_cases hplaintext : chunk.getD 0 0 = 0x4D
      · have hsame : workerStep tls ⟨clientId, true, .TCP_CONNECTING, last, ctx, []⟩ now
            (.data chunk) =
            workerStep tls ⟨clientId, true, .ACTIVE_SESSION, last, ctx, []⟩ now
              (.data chunk) := by
          simp only [workerStep, detectProtocol, if_neg htls, if_pos hplaintext, if_true,
            reduceCtorEq, if_false]
        rw [if_neg htls, if_pos hplaintext, runChunks_cons, hsame, ← runChunks_cons]
        exact delivered_active_empty ⟨rfl, rfl⟩ rfl ((now, chunk) :: chunks)
      · have hstep : workerStep tls ⟨clientId, true, .TCP_CONNECTING, last, ctx, []⟩ now
            (.data chunk) = (⟨clientId, true, .TCP_CONNECTING, now, ctx, []⟩, []) := by
          simp only [workerStep, detectProtocol, if_neg htls, if_neg hplaintext, if_true,
            not_true_eq_false, reduceCtorEq, if_false]
        rw [if_neg htls, if_neg hplaintext, runChunks_cons, hstep]
        exact ih ⟨clientId, true, .TCP_CONNECTING, now, ctx, []⟩ ⟨rfl, rfl, rfl, hplain⟩

/-- A plaintext connection takes its chunks as they are. -/
theorem activeBytes_plaintext {ctx : τ} (hplain : tls.isHandshakeComplete ctx = false)
    (chunks : List Bytes) : activeBytes tls ctx chunks = chunks.flatten := by
  induction chunks with
  | nil => rfl
  | cons chunk chunks ih =>
    rw [activeBytes, if_neg (by simp [hplain]), ih, List.flatten_cons]

/-! ### The rule -/

/-- The bytes start with a complete valid frame. -/
def StartsWithFrame (bytes : Bytes) : Prop := ∃ f, WellFormedFrame f ∧ encodeFrame f <+: bytes

/-- A stream that starts with the byte of plaintext is taken as it is. -/
theorem streamBytes_plaintext {session : ClientSession τ} (hnew : NewSession tls session)
    {chunks : List (UInt32 × Bytes)} (hchunks : ∀ c ∈ chunks, c.2 ≠ [])
    (hfirst : (receivedBytes chunks).head? = some 0x4D) :
    streamBytes tls session.tls (chunks.map Prod.snd) = receivedBytes chunks := by
  cases chunks with
  | nil => cases hfirst
  | cons c chunks =>
    obtain ⟨b, rest, hb⟩ := List.exists_cons_of_ne_nil (hchunks c (by simp))
    have hmark : c.2.getD 0 0 = 0x4D := by
      rw [receivedBytes, List.map_cons, List.flatten_cons, hb] at hfirst
      rw [hb]
      exact Option.some.inj hfirst
    rw [List.map_cons, streamBytes, if_neg (by rw [hmark]; decide), if_pos hmark,
      activeBytes_plaintext hnew.plaintext]
    rfl

/-- Without the byte of plaintext in front, nothing of a stream is well formed. -/
theorem longestWellFormed_eq_nil {stream p : Bytes} (hfirst : stream.head? ≠ some 0x4D)
    (hp : Framer.LongestWellFormed encodeFrame WellFormedFrame stream p) : p = [] := by
  cases p with
  | nil => rfl
  | cons b rest =>
    obtain ⟨more, rfl⟩ := hp.isPrefix
    have hb := wellFormedStream_head hp.wellFormed
    rw [hb] at hfirst
    exact absurd rfl hfirst

theorem completeFrames_nil_iff {frames : List Frame} :
    Framer.CompleteFrames encodeFrame WellFormedFrame [] frames ↔ frames = [] := by
  rw [frameFramer_encoded.completeFrames_iff, drain_nil]
  exact eq_comm

/-- A stream that is taken as it is keeps the rule. -/
theorem delivers_of_plaintext {session : ClientSession τ} (hnew : NewSession tls session)
    {chunks : List (UInt32 × Bytes)} (hchunks : ∀ c ∈ chunks, c.2 ≠ [])
    (hfirst : (receivedBytes chunks).head? = some 0x4D) :
    DeliversWellFormed tls session chunks := by
  have hwhole := delivered_new chunks session hnew
  rw [streamBytes_plaintext hnew hchunks hfirst] at hwhole
  constructor
  · rintro before after rfl hbad
    have hsplit : receivedBytes (before ++ after) =
        receivedBytes before ++ receivedBytes after := by
      rw [receivedBytes, List.map_append, List.flatten_append]
      rfl
    -- something has been received, and it starts as the whole stream does
    have hfront : (receivedBytes before).head? = some 0x4D := by
      cases hbefore : receivedBytes before with
      | nil => exact absurd (hbefore ▸ Framer.wellFormedStream_nil) hbad
      | cons b rest =>
        rw [hsplit, hbefore] at hfirst
        exact hfirst
    have hpart := delivered_new before session hnew
    rw [streamBytes_plaintext hnew (fun c hc => hchunks c (List.mem_append_left _ hc)) hfront]
      at hpart
    rw [delivered_runChunks_append, hpart, hsplit,
      frameFramer_encoded.drain_append_of_not_wellFormed hbad] at hwhole
    exact List.append_right_eq_self.mp hwhole
  · obtain ⟨p, hp⟩ : ∃ p, Framer.LongestWellFormed encodeFrame WellFormedFrame
        (receivedBytes chunks) p := Framer.exists_longestWellFormed _
    exact ⟨p, _, hp, frameFramer_encoded.completeFrames_longest hp, hwhole⟩

/-- A connection that delivers nothing keeps the rule when its first byte is bad. -/
theorem delivers_of_silent {session : ClientSession τ} (hnew : NewSession tls session)
    {chunks : List (UInt32 × Bytes)} (hfirst : (receivedBytes chunks).head? ≠ some 0x4D)
    (hsilent : ¬ StartsWithFrame (streamBytes tls session.tls (chunks.map Prod.snd))) :
    DeliversWellFormed tls session chunks := by
  have hnone : delivered (runChunks tls session chunks).2 = [] := by
    rw [delivered_new chunks session hnew]
    by_contra hframes
    exact hsilent (frameFramer_encoded.drain_frames_ne_nil_iff.mp hframes)
  constructor
  · rintro before after rfl _
    rw [delivered_runChunks_append] at hnone
    exact (List.append_eq_nil_iff.mp hnone).2
  · obtain ⟨p, hp⟩ : ∃ p, Framer.LongestWellFormed encodeFrame WellFormedFrame
        (receivedBytes chunks) p := Framer.exists_longestWellFormed _
    obtain rfl := longestWellFormed_eq_nil hfirst hp
    exact ⟨[], [], hp, completeFrames_nil_iff.mpr rfl, hnone⟩

/-- A connection that keeps the rule takes no frame from behind a bad first byte. -/
theorem not_startsWithFrame_of_delivers {session : ClientSession τ} (hnew : NewSession tls session)
    {chunks : List (UInt32 × Bytes)} (h : DeliversWellFormed tls session chunks)
    (hfirst : (receivedBytes chunks).head? ≠ some 0x4D) :
    ¬ StartsWithFrame (streamBytes tls session.tls (chunks.map Prod.snd)) := by
  obtain ⟨p, frames, hp, hcomplete, hdelivered⟩ := h.frames
  obtain rfl := longestWellFormed_eq_nil hfirst hp
  obtain rfl := completeFrames_nil_iff.mp hcomplete
  rw [delivered_new chunks session hnew] at hdelivered
  intro hframe
  exact frameFramer_encoded.drain_frames_ne_nil_iff.mpr hframe hdelivered

/-- A new connection keeps the rule for a sequence of chunks if and only if the first byte is 0x4D,
or the stream that the first chunk with a mark starts does not begin with a complete valid frame:
the chunks themselves from one with 0x4D on, and what TLS makes of them from one with 0x16 on. -/
theorem deliversWellFormed_iff (session : ClientSession τ) (hnew : NewSession tls session)
    (chunks : List (UInt32 × Bytes)) (hchunks : ∀ c ∈ chunks, c.2 ≠ [] ∧ c.2.length ≤ 4096) :
    DeliversWellFormed tls session chunks ↔
      (receivedBytes chunks).head? = some 0x4D ∨
        ¬ StartsWithFrame (streamBytes tls session.tls (chunks.map Prod.snd)) := by
  by_cases hfirst : (receivedBytes chunks).head? = some 0x4D
  · exact iff_of_true (delivers_of_plaintext hnew (fun c hc => (hchunks c hc).1) hfirst)
      (Or.inl hfirst)
  · constructor
    · intro h
      exact Or.inr (not_startsWithFrame_of_delivers hnew h hfirst)
    · rintro (hplaintext | hsilent)
      · exact absurd hplaintext hfirst
      · exact delivers_of_silent hnew hfirst hsilent

end Worker

/-! ### A stray byte -/

/-- A new plaintext connection. -/
def newSession : ClientSession Unit := { clientId := 1, tls := () }

theorem newSession_new : NewSession freshTls newSession := ⟨rfl, rfl, rfl, rfl⟩

theorem wellFormedFrame_ping : WellFormedFrame (pingFrame 7) :=
  ⟨⟨serializeFrameHeader (pingFrame 7).1, by decide⟩, by decide⟩

/-- A ping with a stray byte behind it keeps the rule. -/
theorem deliversWellFormed_strayEnd :
    DeliversWellFormed freshTls newSession [(0, encodeFrame (pingFrame 7) ++ [0])] :=
  (deliversWellFormed_iff newSession newSession_new [(0, encodeFrame (pingFrame 7) ++ [0])]
    (by decide)).mpr (Or.inl (by decide))

/-- A stray byte in a chunk of its own breaks it: the ping behind it is delivered. -/
theorem not_deliversWellFormed_strayStart :
    (receivedBytes [(0, [0]), (5, encodeFrame (pingFrame 7))]).head? ≠ some 0x16 ∧
      ¬ DeliversWellFormed freshTls newSession [(0, [0]), (5, encodeFrame (pingFrame 7))] := by
  refine ⟨by decide, fun h => ?_⟩
  refine not_startsWithFrame_of_delivers newSession_new h (by decide)
    ⟨pingFrame 7, wellFormedFrame_ping, ?_⟩
  have hstream : streamBytes freshTls () [[0], encodeFrame (pingFrame 7)]
      = encodeFrame (pingFrame 7) := by decide
  exact ⟨[], (List.append_nil _).trans hstream.symm⟩

end MobileUnlock.Network
