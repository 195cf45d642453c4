import MobileUnlock.Android.WiFiCallback
import MobileUnlock.Lib.Since
import MobileUnlock.Proofs.PhoneFraming

/-!
# `MobileUnlock.Proofs.QuietDisconnect`: frames behind a disconnect

After `disconnect` the callback should not be called until a `connect` has succeeded. The loop of
`_onDataReceived` never looks at the state of the connection, so it delivers whatever stands
complete in the buffer, also behind the frame whose callback has hung up. `quiet_iff` says which
steps of a run break the rule: data that completes a frame while hung up, and data in which a frame
that makes the callback hang up has another complete frame behind it.

The history is read with `Lib.Since`: `HungUp` is a `disconnect` with no successful `connect` since.
-/

set_option autoImplicit false

namespace MobileUnlock.Android

open MobileUnlock.Lib MobileUnlock.Network MobileUnlock.Protocol

/-! ### The rule -/

/-- `disconnect` has been called, and no `connect` has succeeded since. -/
def HungUp (notes : List TransportNote) : Prop :=
  Since (fun n => n ≠ .connected) (fun n => n = .disconnects) notes

/-- The callback is not called while the connection is hung up. -/
def QuietAfterDisconnect (notes : List TransportNote) : Prop :=
  ∀ pre frame post, notes = pre ++ .frameReceived frame :: post → ¬ HungUp pre

section Callback
variable {σ : Type}

/-- One step of a connection with its callback. -/
abbrev CallbackStep (σ : Type) := Entry (CallbackState σ) ConnectionEvent (List TransportNote)

/-- Everything observed in some steps. -/
def notesOf (steps : List (CallbackStep σ)) : List TransportNote := steps.flatMap (·.output)

variable (cb : FrameCallback σ)

/-- The connection and the owner of the callback after it has been called with a frame. -/
def afterFrame (q : CallbackState σ) (frame : ReceivedProtocolFrame) : CallbackState σ :=
  ((cb q.2 frame).run q.1).1

/-- The same after some frames. -/
def afterFrames (q : CallbackState σ) (frames : List ReceivedProtocolFrame) : CallbackState σ :=
  frames.foldl (afterFrame cb) q

/-- The callback calls `disconnect` when it is called with this frame. -/
def CallsDisconnect (q : CallbackState σ) (frame : ReceivedProtocolFrame) : Prop :=
  .disconnects ∈ ((cb q.2 frame).run q.1).2

/-- Frames that may be complete in one chunk: none while hung up, and none behind a frame that makes
the callback hang up. -/
def QuietFrames (hungUp : Prop) (q : CallbackState σ) (frames : List ReceivedProtocolFrame) :
    Prop :=
  (hungUp → frames = []) ∧
    ∀ before frame next after, frames = before ++ frame :: next :: after →
      ¬ CallsDisconnect cb (afterFrames cb q before) frame

/-- The condition of a step: if it is data for a listener, the frames that are complete in the
buffer and the data are such frames. -/
def QuietStep (past : List TransportNote) (x : CallbackStep σ) : Prop :=
  ∀ data, x.event = .data data → x.before.1.listeners ≠ 0 →
    QuietFrames cb (HungUp past) ({ x.before.1 with inactivityTimer := true }, x.before.2)
      (receiveLoop (x.before.1.transport.incomingBuffer ++ data)).frames

end Callback

/-! ### Histories -/

theorem hungUp_snoc_frame (past : List TransportNote) (frame : ReceivedProtocolFrame) :
    HungUp (past ++ [.frameReceived frame]) ↔ HungUp past := by
  rw [HungUp, since_append_singleton]
  simp [HungUp]

theorem hungUp_snoc_disconnects (past : List TransportNote) :
    HungUp (past ++ [.disconnects]) := by
  rw [HungUp, since_append_singleton]
  exact Or.inl rfl

theorem not_hungUp_snoc_connected (past : List TransportNote) :
    ¬ HungUp (past ++ [.connected]) := by
  rw [HungUp, since_append_singleton]
  simp

/-- The rule from a given moment on, note by note. -/
def QuietFrom : Prop → List TransportNote → Prop
  | _, [] => True
  | hungUp, .frameReceived _ :: notes => ¬ hungUp ∧ QuietFrom hungUp notes
  | _, .disconnects :: notes => QuietFrom True notes
  | _, .connected :: notes => QuietFrom False notes

/-- The rule note by note is the rule for what follows a history. -/
theorem quietFrom_iff (notes : List TransportNote) :
    ∀ past, QuietFrom (HungUp past) notes ↔
      ∀ pre n post, notes = pre ++ n :: post → ∀ frame, n = .frameReceived frame →
        ¬ HungUp (past ++ pre) := by
  -- Induction on the notes: the history grows by the first one.
  induction notes with
  | nil =>
    intro past
    refine iff_of_true trivial ?_
    intro pre n post h
    cases pre <;> cases h
  | cons n notes ih =>
    intro past
    have hrest := ih (past ++ [n])
    simp only [List.append_assoc, List.singleton_append] at hrest
    rw [forall_split_cons, ← hrest, List.append_nil]
    cases n with
    | frameReceived frame =>
      rw [QuietFrom, hungUp_snoc_frame]
      simp
    | disconnects =>
      rw [QuietFrom, eq_true (hungUp_snoc_disconnects past)]
      simp
    | connected =>
      rw [QuietFrom, eq_false (not_hungUp_snoc_connected past)]
      simp

theorem quietAfterDisconnect_iff (notes : List TransportNote) :
    QuietAfterDisconnect notes ↔ QuietFrom (HungUp []) notes := by
  rw [quietFrom_iff]
  constructor
  · rintro h pre n post rfl frame rfl
    exact h pre frame post rfl
  · rintro h pre frame post rfl
    exact h pre _ post rfl frame rfl

/-- The rule for two stretches, one after the other. -/
theorem quietFrom_append (past a b : List TransportNote) :
    QuietFrom (HungUp past) (a ++ b) ↔
      QuietFrom (HungUp past) a ∧ QuietFrom (HungUp (past ++ a)) b := by
  induction a generalizing past with
  | nil => simp [QuietFrom]
  | cons n a ih =>
    have hstep := ih (past ++ [n])
    rw [List.append_assoc] at hstep
    cases n with
    | frameReceived frame =>
      rw [hungUp_snoc_frame] at hstep
      rw [List.cons_append, QuietFrom, QuietFrom, hstep, and_assoc]
      rfl
    | disconnects =>
      rw [eq_true (hungUp_snoc_disconnects past)] at hstep
      rw [List.cons_append, QuietFrom, QuietFrom, hstep]
      rfl
    | connected =>
      rw [eq_false (not_hungUp_snoc_connected past)] at hstep
      rw [List.cons_append, QuietFrom, QuietFrom, hstep]
      rfl

/-! ### The loop -/

section Callback
variable {σ : Type} (cb : FrameCallback σ)

/-- A callback has no other note than its disconnects. -/
theorem eq_disconnects_of_mem_run {p : CallbackProg σ} {c : WiFiConnection} {n : TransportNote}
    (h : n ∈ (p.run c).2) : n = .disconnects := by
  induction p generalizing c with
  | done s => cases h
  | getState next ih => exact ih _ h
  | sendFrame messageType payload next ih => exact ih _ h
  | connect next ih => exact ih h
  | disconnect next ih =>
    rcases List.mem_cons.mp h with rfl | h
    · rfl
    · exact ih h

/-- Behind the notes of a callback the connection is hung up if it was or if the callback hung
up. -/
theorem quietFrom_disconnects {notes : List TransportNote} (h : ∀ n ∈ notes, n = .disconnects)
    (hungUp : Prop) (more : List TransportNote) :
    QuietFrom hungUp (notes ++ more) ↔ QuietFrom (hungUp ∨ .disconnects ∈ notes) more := by
  induction notes generalizing hungUp with
  | nil => simp
  | cons n notes ih =>
    obtain rfl := h n (by simp)
    rw [List.cons_append, QuietFrom, ih fun m hm => h m (by simp [hm])]
    simp

/-- The notes of the loop for its frames. -/
def frameNotes (q : CallbackState σ) : List ReceivedProtocolFrame → List TransportNote
  | [] => []
  | frame :: frames =>
    .frameReceived frame ::
      (((cb q.2 frame).run q.1).2 ++ frameNotes (afterFrame cb q frame) frames)

/-- The loop with the callback takes the frames that the loop without it takes, and whatever the
callback does changes none of them. -/
theorem receiveFrames_eq (buf : Bytes) :
    ∀ q : CallbackState σ, receiveFrames cb q buf =
      let after := afterFrames cb q (receiveLoop buf).frames
      (if (receiveLoop buf).disconnects then (after.1.disconnect, after.2) else after,
        (receiveLoop buf).incomingBuffer,
        frameNotes cb q (receiveLoop buf).frames ++
          if (receiveLoop buf).disconnects then [.disconnects] else []) := by
  -- Induction on the length of the buffer: every frame taken off shortens it.
  induction hn : buf.length using Nat.strongRecOn generalizing buf with
  | ind n ih =>
    intro q
    rw [receiveFrames, receiveLoop]
    by_cases hlen : buf.length < 24
    · rw [dif_pos hlen, dif_pos hlen]
      rfl
    · rw [dif_neg hlen, dif_neg hlen]
      dsimp only
      by_cases hbad : malformedHeader (buf.take 24) = true
      · rw [if_pos hbad, if_pos hbad]
        rfl
      · rw [if_neg hbad, if_neg hbad]
        by_cases hshort : buf.length < 24 + (Dart.getUint32 (buf.take 24) 12).toNat
        · rw [if_pos hshort, if_pos hshort]
          rfl
        · rw [if_neg hshort, if_neg hshort]
          have hdrop := ih (buf.drop (24 + (Dart.getUint32 (buf.take 24) 12).toNat)).length
            (by rw [List.length_drop]; omega) _ rfl
          rw [hdrop]
          dsimp only [frameNotes, afterFrames, List.foldl_cons]
          rw [List.cons_append, List.append_assoc]
          rfl

theorem quietFrames_nil (hungUp : Prop) (q : CallbackState σ) : QuietFrames cb hungUp q [] := by
  refine ⟨fun _ => rfl, fun before frame next after h => ?_⟩
  cases before <;> cases h

/-- The condition frame by frame. -/
theorem quietFrames_cons (hungUp : Prop) (q : CallbackState σ) (frame : ReceivedProtocolFrame)
    (frames : List ReceivedProtocolFrame) :
    QuietFrames cb hungUp q (frame :: frames) ↔
      ¬ hungUp ∧ QuietFrames cb (hungUp ∨ CallsDisconnect cb q frame) (afterFrame cb q frame)
        frames := by
  constructor
  · rintro ⟨hnone, hlast⟩
    have hfirst : ¬ hungUp := by
      intro h
      cases hnone h
    refine ⟨hfirst, ?_, fun before f next after hsplit => ?_⟩
    · -- behind a frame that hangs up there is none
      rintro (h | hcalls)
      · exact absurd h hfirst
      · cases frames with
        | nil => rfl
        | cons next after => exact absurd hcalls (hlast [] frame next after rfl)
    · exact hlast (frame :: before) f next after (by rw [hsplit, List.cons_append])
  · rintro ⟨hfirst, hnone, hlast⟩
    refine ⟨fun h => absurd h hfirst, fun before f next after hsplit => ?_⟩
    cases before with
    | nil =>
      obtain ⟨rfl, rfl⟩ := List.cons.inj hsplit
      intro hcalls
      cases hnone (Or.inr hcalls)
    | cons g before =>
      obtain ⟨rfl, hrest⟩ := List.cons.inj hsplit
      exact hlast before f next after hrest

/-- The rule for the notes of some frames. -/
theorem quietFrom_frameNotes {tail : List TransportNote} (htail : ∀ hungUp, QuietFrom hungUp tail)
    (frames : List ReceivedProtocolFrame) :
    ∀ (hungUp : Prop) (q : CallbackState σ),
      QuietFrom hungUp (frameNotes cb q frames ++ tail) ↔ QuietFrames cb hungUp q frames := by
  induction frames with
  | nil =>
    intro hungUp q
    exact iff_of_true (htail hungUp) (quietFrames_nil cb hungUp q)
  | cons frame frames ih =>
    intro hungUp q
    rw [frameNotes, List.cons_append, List.append_assoc, QuietFrom,
      quietFrom_disconnects fun n hn => eq_disconnects_of_mem_run hn, ih, quietFrames_cons]
    rfl

/-! ### Runs -/

/-- A step keeps the rule exactly under its condition. -/
theorem quietFrom_step (past : List TransportNote) (q : CallbackState σ) (e : ConnectionEvent) :
    QuietFrom (HungUp past) ((callbackMachine cb).entry q e).output ↔
      QuietStep cb past ((callbackMachine cb).entry q e) := by
  have hother : ∀ {output}, ((callbackMachine cb).entry q e).output = output →
      (∀ hungUp, QuietFrom hungUp output) → (∀ data, e ≠ .data data) →
      (QuietFrom (HungUp past) ((callbackMachine cb).entry q e).output ↔
        QuietStep cb past ((callbackMachine cb).entry q e)) := by
    rintro _ rfl hquiet hdata
    exact iff_of_true (hquiet _) fun data hevent => absurd hevent (hdata data)
  cases e with
  | data data =>
    by_cases hlisteners : q.1.listeners = 0
    · have hout : ((callbackMachine cb).entry q (.data data)).output = [] := by
        show (if q.1.listeners = 0 then (q, []) else onDataReceived cb q data).2 = []
        rw [if_pos hlisteners]
      rw [hout]
      refine iff_of_true trivial fun data' _ hnone => absurd hlisteners hnone
    · have hout : ((callbackMachine cb).entry q (.data data)).output =
          (receiveFrames cb ({ q.1 with inactivityTimer := true }, q.2)
            (q.1.transport.incomingBuffer ++ data)).2.2 := by
        show (if q.1.listeners = 0 then (q, []) else onDataReceived cb q data).2 = _
        rw [if_neg hlisteners]
        rfl
      rw [hout, receiveFrames_eq]
      dsimp only
      rw [quietFrom_frameNotes]
      · constructor
        · rintro h _ ⟨⟩ _
          exact h
        · intro h
          exact h data rfl hlisteners
      · intro hungUp
        split
        · trivial
        · trivial
  | connected =>
    refine hother rfl (fun hungUp => ?_) (fun _ h => by cases h)
    show QuietFrom hungUp (if q.1.pendingConnects = 0 then [] else [.connected])
    split
    · trivial
    · trivial
  | disconnect => exact hother rfl (fun _ => trivial) fun _ h => by cases h
  | connect | connectFailed | socketError | socketDone | heartbeat | inactivityTimeout
  | reconnectTimeout | send _ _ => exact hother rfl (fun _ => trivial) fun _ h => by cases h

/-- A run keeps the rule exactly when its steps meet their conditions. -/
theorem quietFrom_trace (events : List ConnectionEvent) :
    ∀ (past : List TransportNote) (q : CallbackState σ),
      QuietFrom (HungUp past) (notesOf ((callbackMachine cb).trace q events)) ↔
        ∀ pre x post, (callbackMachine cb).trace q events = pre ++ x :: post →
          QuietStep cb (past ++ notesOf pre) x := by
  -- Induction on the events: the history grows by the notes of the first step.
  induction events with
  | nil =>
    intro past q
    refine iff_of_true trivial fun pre x post h => ?_
    cases pre <;> cases h
  | cons e events ih =>
    intro past q
    have hrest := ih (past ++ ((callbackMachine cb).entry q e).output)
      ((callbackMachine cb).step q e).1
    simp only [List.append_assoc] at hrest
    rw [Machine.trace, forall_split_cons]
    show QuietFrom (HungUp past) (((callbackMachine cb).entry q e).output ++ notesOf _) ↔ _
    rw [quietFrom_append, quietFrom_step, hrest]
    simp [notesOf]

/-! ### A callback that makes no calls -/

/-- The frames the callback was called with. -/
def framesOf (notes : List TransportNote) : List ReceivedProtocolFrame :=
  notes.filterMap fun
    | .frameReceived frame => some frame
    | _ => none

theorem afterFrames_silent (hsilent : ∀ s frame, ∃ s', cb s frame = .done s')
    (frames : List ReceivedProtocolFrame) (q : CallbackState σ) :
    (afterFrames cb q frames).1 = q.1 := by
  induction frames generalizing q with
  | nil => rfl
  | cons frame frames ih =>
    obtain ⟨s', hs'⟩ := hsilent q.2 frame
    have hframe : (afterFrame cb q frame).1 = q.1 := by
      rw [afterFrame, hs']
      rfl
    rw [← hframe, ← ih (afterFrame cb q frame)]
    rfl

theorem framesOf_frameNotes (hsilent : ∀ s frame, ∃ s', cb s frame = .done s')
    (frames : List ReceivedProtocolFrame) (q : CallbackState σ) :
    framesOf (frameNotes cb q frames) = frames := by
  induction frames generalizing q with
  | nil => rfl
  | cons frame frames ih =>
    obtain ⟨s', hs'⟩ := hsilent q.2 frame
    rw [frameNotes, hs']
    show frame :: framesOf (frameNotes cb _ frames) = _
    rw [ih]

/-- With such a callback the machine is the connection, and the frames of a step are its output. -/
theorem callbackMachine_silent (hsilent : ∀ s frame, ∃ s', cb s frame = .done s')
    (q : CallbackState σ) (e : ConnectionEvent) :
    ((callbackMachine cb).step q e).1.1 = (connectionMachine.step q.1 e).1 ∧
      framesOf ((callbackMachine cb).step q e).2 = (connectionMachine.step q.1 e).2.frames := by
  obtain ⟨c, s⟩ := q
  cases e with
  | data data =>
    by_cases hlisteners : c.listeners = 0
    · have hleft : (callbackMachine cb).step (c, s) (.data data) = ((c, s), []) :=
        if_pos hlisteners
      have hright : connectionMachine.step c (.data data) = (c, {}) := if_pos hlisteners
      rw [hleft, hright]
      exact ⟨rfl, rfl⟩
    · have hleft : (callbackMachine cb).step (c, s) (.data data) =
          onDataReceived cb (c, s) data := if_neg hlisteners
      have hright : connectionMachine.step c (.data data) =
          ((c.onDataReceived data).1, { frames := (c.onDataReceived data).2 }) :=
        if_neg hlisteners
      have hafter := afterFrames_silent cb hsilent
        (receiveLoop (c.transport.incomingBuffer ++ data)).frames
        ({ c with inactivityTimer := true }, s)
      have hframes := framesOf_frameNotes cb hsilent
        (receiveLoop (c.transport.incomingBuffer ++ data)).frames
        ({ c with inactivityTimer := true }, s)
      rw [hleft, hright, onDataReceived, receiveFrames_eq, WiFiConnection.onDataReceived,
        WiFiTransport.onDataReceived]
      dsimp only
      rw [framesOf, List.filterMap_append]
      by_cases hbad : (receiveLoop (c.transport.incomingBuffer ++ data)).disconnects = true
      · rw [if_pos hbad, if_pos hbad, if_pos hbad, if_pos hbad]
        dsimp only
        rw [hafter]
        exact ⟨rfl, (List.append_nil _).trans hframes⟩
      · rw [if_neg hbad, if_neg hbad, if_neg hbad, if_neg hbad]
        rw [hafter]
        exact ⟨rfl, (List.append_nil _).trans hframes⟩
  | connected =>
    refine ⟨rfl, ?_⟩
    show framesOf (if c.pendingConnects = 0 then [] else [.connected])
      = (if c.pendingConnects = 0 then (c, ({} : ConnectionOutput)) else _).2.frames
    split
    · rfl
    · rfl
  | connectFailed | socketError | socketDone | heartbeat =>
    -- nothing is there for the event, or it has no frame
    refine ⟨rfl, ?_⟩
    dsimp only [connectionMachine]
    split
    · rfl
    · rfl
  | connect | disconnect | inactivityTimeout | reconnectTimeout | send _ _ => exact ⟨rfl, rfl⟩

/-! ### The rule for a run -/

/-- The callback stays quiet after every disconnect of a run, until a connect has succeeded, if and
only if every step of the run meets its condition: data for a listener completes no frame while hung
up, and no frame that makes the callback hang up has another complete frame behind it. -/
theorem quiet_iff (q : CallbackState σ) (events : List ConnectionEvent) :
    QuietAfterDisconnect (notesOf ((callbackMachine cb).trace q events)) ↔
      ∀ pre x post, (callbackMachine cb).trace q events = pre ++ x :: post →
        QuietStep cb (notesOf pre) x := by
  rw [quietAfterDisconnect_iff, quietFrom_trace]
  rfl

end Callback

/-! ### The callback of the pairing service -/

/-- The pairing service hangs up on a PROTO_ERROR and on nothing else. -/
theorem callsDisconnect_pairingCallback (now : Int) (q : CallbackState PairingService)
    (frame : ReceivedProtocolFrame) :
    CallsDisconnect (pairingCallback now) q frame ↔ frame.messageType = 0x00FF := by
  have hcalls : .disconnect ∈ (q.2.onFrameReceived frame now).2.calls ↔
      frame.messageType = 0x00FF := by
    unfold PairingService.onFrameReceived
    split
    · next h => simp [h]
    · split
      · next h => simp [h]
      · split
        · next h => simp [h]
        · next h =>
          split
          · simp [h]
          · simp [h]
  rw [CallsDisconnect, pairingCallback]
  dsimp only
  rw [← hcalls]
  split
  · next h => exact iff_of_true List.mem_cons_self h
  · next h => exact iff_of_false List.not_mem_nil h

/-- A frame of the PC without payload. -/
def pcFrame (messageType : UInt16) : Frame := ({ messageType := messageType }, [])

theorem serviceFrame_pcFrame (messageType : UInt16) : ServiceFrame (pcFrame messageType) where
  magic := rfl
  majorVersion := rfl
  sequenceNumber := by simp [pcFrame]
  payloadLength := rfl
  payloadSize := Nat.zero_le _

/-- A PROTO_ERROR and a PAIR_COMPLETE in one chunk. -/
def errorThenComplete : Bytes := encodeFrame (pcFrame 0x00FF) ++ encodeFrame (pcFrame 0x0013)

theorem receiveLoop_errorThenComplete :
    (receiveLoop errorThenComplete).frames
      = [received (pcFrame 0x00FF), received (pcFrame 0x0013)] := by
  have hdrain := @Framer.drain_encode_map _ _ phoneFramer _ encodeFrame received
    [pcFrame 0x00FF, pcFrame 0x0013] [] ?_ ?_
  · have hbytes : ([pcFrame 0x00FF, pcFrame 0x0013].map encodeFrame).flatten ++ []
        = errorThenComplete := by
      simp [errorThenComplete]
    rw [hbytes] at hdrain
    rw [receiveLoop_eq_drain, hdrain]
    rfl
  · intro f hf more
    simp only [List.mem_cons, List.not_mem_nil, or_false] at hf
    rcases hf with rfl | rfl
    · exact phoneFront_encodeFrame (serviceFrame_pcFrame 0x00FF) more
    · exact phoneFront_encodeFrame (serviceFrame_pcFrame 0x0013) more
  · show phoneFront [] = .incomplete
    rw [phoneFront, if_pos (by decide)]

/-- The phone connects to a PC that sends both frames at once. The pairing service hangs up on the
first one and is then called with the second one. -/
theorem not_quiet_errorThenComplete :
    ¬ QuietAfterDisconnect (notesOf ((callbackMachine (pairingCallback 0)).trace ({}, {})
      [.connect, .connected, .data errorThenComplete])) := by
  rw [quietAfterDisconnect_iff, quietFrom_trace]
  intro h
  obtain ⟨-, hlast⟩ := h
    ((callbackMachine (pairingCallback 0)).trace ({}, {}) [.connect, .connected]) _ [] rfl
    errorThenComplete rfl (by decide)
  refine hlast [] (received (pcFrame 0x00FF)) (received (pcFrame 0x0013)) [] ?_ ?_
  · exact receiveLoop_errorThenComplete
  · exact (callsDisconnect_pairingCallback 0 _ _).mpr rfl

end MobileUnlock.Android
