import MobileUnlock.Network.TlsSession
import MobileUnlock.Proofs.MalformedStream

/-!
# `MobileUnlock.Proofs.TlsSession`: TLS and plaintext on one connection

The first byte of a connection decides whether the worker speaks TLS. `SendFrame` does not read that
decision. It asks whether the handshake is complete, and sends the frame as it is when it is not.
Senders have the id of a client from the frame callback, and the callback gets frames only when the
handshake is complete or TLS is not spoken. `tls_or_plain` states what follows for all
interleavings of the worker with the senders: no connection has both TLS bytes and plaintext frames
on it.

`record_after_policy` is the version policy. A record is only sent when the worker has asked for the
protocol before, and the answer was high enough or the query failed. Schannel reports the
protocols of a server with flags that are all lower, so `no_record_of_server_protocol`: with the
default configuration no TLS connection gets through.
-/

set_option autoImplicit false

namespace MobileUnlock.Network

open MobileUnlock.Lib MobileUnlock.Protocol

section
variable {κ : Type} (schannel : SchannelServer κ)

/-! ### The handshake -/

theorem initializeServerCredentials_flags (context : ServerContext κ) :
    (initializeServerCredentials schannel context).1.handshakeComplete =
        context.handshakeComplete ∧
      (initializeServerCredentials schannel context).1.config = context.config := by
  rw [initializeServerCredentials]
  split
  · exact ⟨rfl, rfl⟩
  · exact ⟨rfl, rfl⟩

/-- The handshake is complete after a success, and the policy has been asked. Otherwise it is as
complete as before. -/
theorem acceptHandshake_spec (context : ServerContext κ) (inData : Bytes) :
    let r := acceptHandshake schannel context inData
    r.context.config = context.config ∧
      ((r.status = .SUCCESS ∧ r.context.handshakeComplete = true ∧
          protocolRejected schannel r.context = false) ∨
        (r.status ≠ .SUCCESS ∧ r.context.handshakeComplete = context.handshakeComplete)) := by
  obtain ⟨hcomplete, hconfig⟩ := initializeServerCredentials_flags schannel context
  intro r
  have hr : r = acceptHandshake schannel context inData := rfl
  clear_value r
  rw [acceptHandshake] at hr
  dsimp only at hr
  split at hr
  · subst hr
    exact ⟨hconfig, .inr ⟨by rintro ⟨⟩, hcomplete⟩⟩
  · split at hr
    · split at hr
      next =>
        subst hr
        exact ⟨hconfig, .inr ⟨by rintro ⟨⟩, hcomplete⟩⟩
      next hpolicy =>
        subst hr
        exact ⟨hconfig, .inl ⟨rfl, rfl, Bool.eq_false_iff.mpr hpolicy⟩⟩
    · subst hr
      exact ⟨hconfig, .inr ⟨by rintro ⟨⟩, hcomplete⟩⟩
    · subst hr
      exact ⟨hconfig, .inr ⟨by rintro ⟨⟩, hcomplete⟩⟩
    · split at hr
      · subst hr
        exact ⟨hconfig, .inr ⟨by rintro ⟨⟩, hcomplete⟩⟩
      · split at hr
        · subst hr
          exact ⟨hconfig, .inr ⟨by rintro ⟨⟩, hcomplete⟩⟩
        · subst hr
          exact ⟨hconfig, .inr ⟨by rintro ⟨⟩, hcomplete⟩⟩

theorem encryptPayload_flags (context : ServerContext κ) (plainData : Bytes) :
    (encryptPayload schannel context plainData).1.handshakeComplete =
        context.handshakeComplete ∧
      (encryptPayload schannel context plainData).1.config = context.config := by
  rw [encryptPayload]
  split
  · exact ⟨rfl, rfl⟩
  · dsimp only
    split
    · split
      · exact ⟨rfl, rfl⟩
      · exact ⟨rfl, rfl⟩
    · split
      · exact ⟨rfl, rfl⟩
      · exact ⟨rfl, rfl⟩

theorem decryptPayload_handshakeComplete {κ : Type} (schannel : Schannel κ)
    (context : SchannelContext κ) (encryptedData : Bytes) :
    (decryptPayload schannel context encryptedData).context.handshakeComplete =
      context.handshakeComplete := by
  rw [decryptPayload]
  split
  · rfl
  · dsimp only
    split
    · rfl
    · rfl
    · rfl
    · rfl

/-! ### One turn of the worker -/

/-- A turn of the worker on a connection, by what it reads the data for. -/
inductive RecvStep (before after : ServerSession κ) (outputs : List SessionOutput) : Prop where
  /-- The data is thrown away, or the connection is given up. -/
  | quiet (outputs_eq : outputs = [])
      (state : after.state = before.state ∨ after.state = .DISCONNECTED)
      (complete : after.tls.handshakeComplete = before.tls.handshakeComplete)
  /-- The handshake takes the data, and goes on or fails. -/
  | handshake (state : before.state = .TCP_CONNECTING ∨ before.state = .TLS_HANDSHAKE)
      (tokens : ∀ o ∈ outputs, o.kind = .token)
      (after_state : after.state = .TLS_HANDSHAKE ∨ after.state = .DISCONNECTED)
      (complete : after.tls.handshakeComplete = before.tls.handshakeComplete)
  /-- The handshake takes the data and succeeds. -/
  | success (state : before.state = .TCP_CONNECTING ∨ before.state = .TLS_HANDSHAKE)
      (tokens : ∀ o ∈ outputs, o.kind = .token)
      (after_state : after.state = .ACTIVE_SESSION)
      (complete : after.tls.handshakeComplete = true)
      (policy : protocolRejected schannel after.tls = false)
  /-- The frame loop takes the data. -/
  | active (state : before.state = .TCP_CONNECTING ∨ before.state = .ACTIVE_SESSION)
      (frames : ∀ o ∈ outputs, o.kind = .frame)
      (after_state : after.state = .ACTIVE_SESSION ∨ after.state = .DISCONNECTED)
      (complete : after.tls.handshakeComplete = before.tls.handshakeComplete)

/-- Only a connection of the handshake is in the handshake after the detection, and only an active
one is active. -/
theorem detectProtocol_cases (state : ConnectionState) (rawBuffer : Bytes) :
    (detectProtocol state rawBuffer = .TLS_HANDSHAKE →
        state = .TCP_CONNECTING ∨ state = .TLS_HANDSHAKE) ∧
      (detectProtocol state rawBuffer = .ACTIVE_SESSION →
        state = .TCP_CONNECTING ∨ state = .ACTIVE_SESSION) ∧
      (detectProtocol state rawBuffer = .TLS_HANDSHAKE ∨
        detectProtocol state rawBuffer = .ACTIVE_SESSION ∨
        detectProtocol state rawBuffer = state) := by
  rw [detectProtocol]
  split
  next hnew =>
    refine ⟨fun _ => .inl hnew, fun _ => .inl hnew, ?_⟩
    split
    · exact .inl rfl
    · split
      · exact .inr (.inl rfl)
      · exact .inr (.inr rfl)
  next hold => exact ⟨.inr, .inr, .inr (.inr rfl)⟩

/-- What `receiveData` leaves alone. -/
theorem receiveData_frame (session : ServerSession κ) (rawBuffer : Bytes) :
    (receiveData (serverTls schannel) session rawBuffer).state = session.state ∧
      (receiveData (serverTls schannel) session rawBuffer).tls.handshakeComplete =
        session.tls.handshakeComplete := by
  have hdecrypt := decryptPayload_handshakeComplete schannel.toSchannel
    session.tls.toSchannelContext rawBuffer
  rw [receiveData]
  split
  · dsimp only [serverTls]
    split
    · exact ⟨rfl, hdecrypt⟩
    · exact ⟨rfl, hdecrypt⟩
  · exact ⟨rfl, rfl⟩

theorem ofNetwork_token (outTls : Bytes) :
    ∀ o ∈ (if outTls = [] then [] else [NetworkOutput.rawSend outTls]).map
      SessionOutput.ofNetwork, o.kind = .token := by
  intro o ho
  split at ho
  · cases ho
  · obtain rfl := List.mem_singleton.mp ho
    trivial

theorem ofNetwork_frame (clientId : UInt64) (frames : List (FrameHeader × Bytes)) :
    ∀ o ∈ (frames.map fun f => NetworkOutput.frameReceived clientId f.1 f.2).map
      SessionOutput.ofNetwork, o.kind = .frame := by
  intro o ho
  obtain ⟨output, houtput, rfl⟩ := List.mem_map.mp ho
  obtain ⟨f, -, rfl⟩ := List.mem_map.mp houtput
  trivial

theorem workerStep_recvStep (session : ServerSession κ) (now : UInt32) (r : RecvResult) :
    RecvStep schannel session (workerStep (serverTls schannel) session now r).1
      ((workerStep (serverTls schannel) session now r).2.map SessionOutput.ofNetwork) := by
  unfold workerStep
  dsimp only
  split
  · exact .quiet rfl (.inr rfl) rfl
  · cases r with
    | closed => exact .quiet rfl (.inr rfl) rfl
    | timedOut =>
      dsimp only
      split
      · exact .quiet rfl (.inr rfl) rfl
      · exact .quiet rfl (.inl rfl) rfl
    | data rawBuffer =>
      dsimp only
      obtain ⟨htls, hactive, hdetect⟩ := detectProtocol_cases session.state rawBuffer
      split
      next hstate =>
        obtain ⟨-, hspec⟩ := acceptHandshake_spec schannel session.tls rawBuffer
        have htokens := ofNetwork_token (acceptHandshake schannel session.tls rawBuffer).outData
        dsimp only [serverTls]
        split
        next hstatus =>
          obtain ⟨-, hcomplete, hpolicy⟩ | ⟨hother, -⟩ := hspec
          · exact .success (htls hstate) htokens rfl hcomplete hpolicy
          · exact absurd hstatus hother
        next hstatus =>
          obtain ⟨hother, -⟩ | ⟨-, hcomplete⟩ := hspec
          · rw [hstatus] at hother
            cases hother
          · exact .handshake (htls hstate) htokens (.inl hstate) hcomplete
        next hstatus =>
          obtain ⟨hother, -⟩ | ⟨-, hcomplete⟩ := hspec
          · rw [hstatus] at hother
            cases hother
          · exact .handshake (htls hstate) htokens (.inl hstate) hcomplete
        next hsuccess _ _ =>
          obtain ⟨hother, -⟩ | ⟨-, hcomplete⟩ := hspec
          · exact absurd hother hsuccess
          · exact .handshake (htls hstate) htokens (.inr rfl) hcomplete
      next hnotTls =>
        split
        next hstate =>
          obtain ⟨hreceived, hcomplete⟩ := receiveData_frame schannel
            { session with
                lastActiveTimestampMs := now
                state := detectProtocol session.state rawBuffer } rawBuffer
          generalize receiveData (serverTls schannel) _ rawBuffer = received
            at hreceived hcomplete ⊢
          split
          · exact .active (hactive hstate) (ofNetwork_frame _ _) (.inl (hreceived.trans hstate))
              hcomplete
          · exact .active (hactive hstate) (ofNetwork_frame _ _) (.inr rfl) hcomplete
        next hnotActive =>
          obtain htls | hactive | hsame := hdetect
          · exact absurd htls hnotTls
          · exact absurd hactive hnotActive
          · exact .quiet rfl (.inl hsame) rfl

/-- What the operations of TLS keep of a context, a turn of the worker keeps. -/
theorem workerStep_context {τ : Type} (tls : TlsContext τ) {P : τ → Prop}
    (haccept : ∀ ctx bytes, P ctx → P (tls.acceptHandshake ctx bytes).1)
    (hdecrypt : ∀ ctx bytes, P ctx → P (tls.decryptPayload ctx bytes).1)
    {session : ClientSession τ} (h : P session.tls) (now : UInt32) (r : RecvResult) :
    P (workerStep tls session now r).1.tls := by
  unfold workerStep
  dsimp only
  split
  · exact h
  · cases r with
    | closed => exact h
    | timedOut =>
      dsimp only
      split
      · exact h
      · exact h
    | data rawBuffer =>
      dsimp only
      split
      · have haccepted := haccept session.tls rawBuffer h
        split
        · exact haccepted
        · exact haccepted
        · exact haccepted
        · exact haccepted
      · split
        · have hreceived : P (receiveData tls
              { session with
                  lastActiveTimestampMs := now
                  state := detectProtocol session.state rawBuffer } rawBuffer).tls := by
            rw [receiveData]
            split
            · have hdecrypted := hdecrypt session.tls rawBuffer h
              dsimp only
              split
              · exact hdecrypted
              · exact hdecrypted
            · exact h
          split
          · exact hreceived
          · exact hreceived
        · exact h

/-! ### One step of the connection -/

/-- `SendFrame` sends one record when the handshake is complete, and the frame itself when it is
not. -/
theorem sendFrame_spec (session : ServerSession κ) (header : FrameHeader) (payload : Bytes) :
    (sendFrame schannel session header payload).1.state = session.state ∧
      (sendFrame schannel session header payload).1.tls.handshakeComplete =
        session.tls.handshakeComplete ∧
      (sendFrame schannel session header payload).1.tls.config = session.tls.config ∧
      ∀ o ∈ (sendFrame schannel session header payload).2,
        o.kind = if session.tls.handshakeComplete then .record else .plain := by
  rw [sendFrame]
  split
  · exact ⟨rfl, rfl, rfl, fun o ho => by cases ho⟩
  · dsimp only
    split
    next hcomplete =>
      obtain ⟨hkept, hconfig⟩ := encryptPayload_flags schannel session.tls
        (serializeFrameHeader header ++ payload)
      split
      · refine ⟨rfl, hkept, hconfig, fun o ho => ?_⟩
        obtain rfl := List.mem_singleton.mp ho
        rfl
      · exact ⟨rfl, hkept, hconfig, fun o ho => by cases ho⟩
    next hcomplete =>
      refine ⟨rfl, rfl, rfl, fun o ho => ?_⟩
      obtain rfl := List.mem_singleton.mp ho
      rfl

/-- A step of the connection, by the thread that takes it. -/
inductive SessionStep (before : TlsSession κ) (event : SessionEvent) (after : TlsSession κ)
    (outputs : List SessionOutput) : Prop where
  | recv (now : UInt32) (r : RecvResult) (event_eq : event = .recv now r)
      (turn : RecvStep schannel before.session after.session outputs)
      (delivered : after.delivered = true →
        before.delivered = true ∨ ∃ o ∈ outputs, o.kind = .frame)
      (broadcasts : after.broadcasts = before.broadcasts)
  | send (allowed : (∃ header payload, event = .sendFrame header payload) ∨ before.broadcasts ≠ [])
      (state : after.session.state = before.session.state)
      (complete : after.session.tls.handshakeComplete = before.session.tls.handshakeComplete)
      (outputs_kind : ∀ o ∈ outputs,
        o.kind = if before.session.tls.handshakeComplete then .record else .plain)
  | collect (active : before.session.state = .ACTIVE_SESSION)
      (session : after.session = before.session) (outputs_eq : outputs = [])
  | quiet (state : after.session.state = before.session.state)
      (complete : after.session.tls.handshakeComplete = before.session.tls.handshakeComplete)
      (outputs_eq : outputs = []) (delivered : after.delivered = before.delivered)
      (broadcasts : after.broadcasts = before.broadcasts)

theorem sessionStep (s : TlsSession κ) (e : SessionEvent) :
    SessionStep schannel s e ((sessionMachine schannel).step s e).1
      ((sessionMachine schannel).step s e).2 := by
  cases e with
  | recv now r =>
    refine .recv now r rfl (workerStep_recvStep schannel s.session now r) ?_ rfl
    intro hdelivered
    obtain hbefore | hframe := Bool.or_eq_true_iff.mp hdelivered
    · exact .inl hbefore
    · obtain ⟨o, ho, hkind⟩ := List.any_eq_true.mp hframe
      exact .inr ⟨o, ho, of_decide_eq_true hkind⟩
  | sendFrame header payload =>
    obtain ⟨hstate, hcomplete, -, hkind⟩ := sendFrame_spec schannel s.session header payload
    exact .send (.inl ⟨header, payload, rfl⟩) hstate hcomplete hkind
  | broadcastCollects header payload =>
    dsimp only [sessionMachine]
    split
    next hactive => exact .collect hactive rfl rfl
    next => exact .quiet rfl rfl rfl rfl rfl
  | broadcastSends index =>
    dsimp only [sessionMachine]
    split
    next => exact .quiet rfl rfl rfl rfl rfl
    next header payload hindex =>
      obtain ⟨hstate, hcomplete, -, hkind⟩ := sendFrame_spec schannel s.session header payload
      have hsome : s.broadcasts ≠ [] := by
        intro hnil
        rw [hnil] at hindex
        cases hindex
      exact .send (.inr hsome) hstate hcomplete hkind
  | socketClosed => exact .quiet rfl rfl rfl rfl rfl

/-- The steps of a run on the connection. -/
abbrev SessionEntry (κ : Type) := Entry (TlsSession κ) SessionEvent (List SessionOutput)

/-- A connection that `ServerAcceptLoop` has just made. -/
structure NewTlsSession (s : TlsSession κ) : Prop where
  state : s.session.state = .TCP_CONNECTING
  complete : s.session.tls.handshakeComplete = false
  delivered : s.delivered = false
  broadcasts : s.broadcasts = []

/-! ### TLS or plaintext -/

/-- `SendFrame` is called with the id of a client whose frames the callback has got. -/
def SendsToSeen (s : TlsSession κ) : SessionEvent → Prop
  | .sendFrame _ _ => s.delivered = true
  | _ => True

/-- No output of the trace is of the kind. -/
def Without (kind : OutputKind) (tr : List (SessionEntry κ)) : Prop :=
  ∀ x ∈ tr, ∀ o ∈ x.output, o.kind ≠ kind

instance (kind : OutputKind) (tr : List (SessionEntry κ)) : Decidable (Without kind tr) :=
  inferInstanceAs (Decidable (∀ x ∈ tr, ∀ o ∈ x.output, o.kind ≠ kind))

theorem without_nil (kind : OutputKind) : Without kind ([] : List (SessionEntry κ)) :=
  fun _ hx => absurd hx List.not_mem_nil

theorem without_append_singleton {kind : OutputKind} {tr : List (SessionEntry κ)}
    {x : SessionEntry κ} (htr : Without kind tr) (hx : ∀ o ∈ x.output, o.kind ≠ kind) :
    Without kind (tr ++ [x]) := by
  intro y hy
  obtain hy | hy := List.mem_append.mp hy
  · exact htr y hy
  · obtain rfl := List.mem_singleton.mp hy
    exact hx

/-- What the bytes of a connection are. A connection that nobody knows yet has none. -/
inductive Speaks (tr : List (SessionEntry κ)) (s : TlsSession κ) : Prop where
  | nothing (state : s.session.state = .TCP_CONNECTING ∨ s.session.state = .DISCONNECTED)
      (complete : s.session.tls.handshakeComplete = false) (delivered : s.delivered = false)
      (broadcasts : s.broadcasts = []) (no_tls : Without .token tr ∧ Without .record tr)
      (no_plain : Without .plain tr)
  | plaintext (state : s.session.state = .ACTIVE_SESSION ∨ s.session.state = .DISCONNECTED)
      (complete : s.session.tls.handshakeComplete = false)
      (no_tls : Without .token tr ∧ Without .record tr)
  | tls (state : s.session.state = .TLS_HANDSHAKE ∨ s.session.state = .DISCONNECTED ∨
        s.session.tls.handshakeComplete = true)
      (known : s.delivered = true ∨ s.broadcasts ≠ [] → s.session.tls.handshakeComplete = true)
      (no_plain : Without .plain tr)

/-- Outputs that are all of one kind are of no other. -/
theorem ne_of_kind {outputs : List SessionOutput} {kind other : OutputKind}
    (h : ∀ o ∈ outputs, o.kind = kind) (hother : kind ≠ other) :
    ∀ o ∈ outputs, o.kind ≠ other := fun o ho hkind => hother ((h o ho).symm.trans hkind)

theorem not_delivered {outputs : List SessionOutput} {kind : OutputKind} {before after : Bool}
    (h : after = true → before = true ∨ ∃ o ∈ outputs, o.kind = .frame)
    (hkind : ∀ o ∈ outputs, o.kind = kind) (hother : kind ≠ .frame) :
    after = true → before = true := by
  intro hafter
  obtain hbefore | ⟨o, ho, hframe⟩ := h hafter
  · exact hbefore
  · exact absurd hframe (ne_of_kind hkind hother o ho)

theorem ne_of_nil {outputs : List SessionOutput} (kind : OutputKind) (h : outputs = []) :
    ∀ o ∈ outputs, o.kind ≠ kind := by
  rw [h]
  exact fun o ho => absurd ho List.not_mem_nil

section
variable {tr : List (SessionEntry κ)} {x : SessionEntry κ} {s s' : TlsSession κ}

theorem Speaks.recv (h : Speaks tr s) (hturn : RecvStep schannel s.session s'.session x.output)
    (hdelivered : s'.delivered = true → s.delivered = true ∨ ∃ o ∈ x.output, o.kind = .frame)
    (hbroadcasts : s'.broadcasts = s.broadcasts) : Speaks (tr ++ [x]) s' := by
  cases h with
  | nothing hstate hcomplete hnone hempty hno_tls hno_plain =>
    cases hturn with
    | quiet heq hstate' hcomplete' =>
      have hkinds := fun kind => ne_of_nil kind heq
      refine .nothing ?_ (hcomplete'.trans hcomplete) ?_ (hbroadcasts.trans hempty)
        ⟨without_append_singleton hno_tls.1 (hkinds _),
          without_append_singleton hno_tls.2 (hkinds _)⟩
        (without_append_singleton hno_plain (hkinds _))
      · obtain hsame | hdown := hstate'
        · rwa [hsame]
        · exact .inr hdown
      · rw [Bool.eq_false_iff]
        intro hafter
        obtain hbefore | ⟨o, ho, -⟩ := hdelivered hafter
        · rw [hnone] at hbefore
          cases hbefore
        · rw [heq] at ho
          cases ho
    | handshake _ htokens hstate' hcomplete' =>
      refine .tls (hstate'.imp id .inl) ?_
        (without_append_singleton hno_plain (ne_of_kind htokens (by decide)))
      intro hknown
      obtain hafter | hpending := hknown
      · rw [not_delivered hdelivered htokens (by decide) hafter] at hnone
        cases hnone
      · exact absurd (hbroadcasts.trans hempty) hpending
    | success _ htokens _ hcomplete' =>
      exact .tls (.inr (.inr hcomplete')) (fun _ => hcomplete')
        (without_append_singleton hno_plain (ne_of_kind htokens (by decide)))
    | active _ hframes hstate' hcomplete' =>
      exact .plaintext hstate' (hcomplete'.trans hcomplete)
        ⟨without_append_singleton hno_tls.1 (ne_of_kind hframes (by decide)),
          without_append_singleton hno_tls.2 (ne_of_kind hframes (by decide))⟩
  | plaintext hstate hcomplete hno_tls =>
    cases hturn with
    | quiet heq hstate' hcomplete' =>
      refine .plaintext ?_ (hcomplete'.trans hcomplete)
        ⟨without_append_singleton hno_tls.1 (ne_of_nil _ heq),
          without_append_singleton hno_tls.2 (ne_of_nil _ heq)⟩
      obtain hsame | hdown := hstate'
      · rwa [hsame]
      · exact .inr hdown
    | handshake hbefore =>
      obtain hactive | hdown := hstate
      · rw [hactive] at hbefore
        simp at hbefore
      · rw [hdown] at hbefore
        simp at hbefore
    | success hbefore =>
      obtain hactive | hdown := hstate
      · rw [hactive] at hbefore
        simp at hbefore
      · rw [hdown] at hbefore
        simp at hbefore
    | active _ hframes hstate' hcomplete' =>
      exact .plaintext hstate' (hcomplete'.trans hcomplete)
        ⟨without_append_singleton hno_tls.1 (ne_of_kind hframes (by decide)),
          without_append_singleton hno_tls.2 (ne_of_kind hframes (by decide))⟩
  | tls hstate hknown hno_plain =>
    cases hturn with
    | quiet heq hstate' hcomplete' =>
      refine .tls ?_ ?_ (without_append_singleton hno_plain (ne_of_nil _ heq))
      · rw [hcomplete']
        obtain hsame | hdown := hstate'
        · rwa [hsame]
        · exact .inr (.inl hdown)
      · rw [hcomplete', hbroadcasts]
        intro hknown'
        refine hknown (hknown'.imp ?_ id)
        intro hafter
        obtain hbefore | ⟨o, ho, -⟩ := hdelivered hafter
        · exact hbefore
        · rw [heq] at ho
          cases ho
    | handshake _ htokens hstate' hcomplete' =>
      refine .tls (hstate'.imp id .inl) ?_
        (without_append_singleton hno_plain (ne_of_kind htokens (by decide)))
      rw [hcomplete', hbroadcasts]
      exact fun hknown' =>
        hknown (hknown'.imp (not_delivered hdelivered htokens (by decide)) id)
    | success _ htokens _ hcomplete' =>
      exact .tls (.inr (.inr hcomplete')) (fun _ => hcomplete')
        (without_append_singleton hno_plain (ne_of_kind htokens (by decide)))
    | active hbefore hframes _ hcomplete' =>
      -- The connection is neither new nor in the handshake, so the handshake is complete.
      have hcomplete : s.session.tls.handshakeComplete = true := by
        obtain hhandshake | hdown | hcomplete := hstate
        · rw [hhandshake] at hbefore
          simp at hbefore
        · rw [hdown] at hbefore
          simp at hbefore
        · exact hcomplete
      exact .tls (.inr (.inr (hcomplete'.trans hcomplete))) (fun _ => hcomplete'.trans hcomplete)
        (without_append_singleton hno_plain (ne_of_kind hframes (by decide)))

theorem Speaks.send (h : Speaks tr s) (hseen : s.delivered = true ∨ s.broadcasts ≠ [])
    (hstate' : s'.session.state = s.session.state)
    (hcomplete' : s'.session.tls.handshakeComplete = s.session.tls.handshakeComplete)
    (hkinds : ∀ o ∈ x.output,
      o.kind = if s.session.tls.handshakeComplete then .record else .plain) :
    Speaks (tr ++ [x]) s' := by
  cases h with
  | nothing _ _ hnone hempty =>
    obtain hbefore | hpending := hseen
    · rw [hnone] at hbefore
      cases hbefore
    · exact absurd hempty hpending
  | plaintext hstate hcomplete hno_tls =>
    rw [hcomplete] at hkinds
    exact .plaintext (hstate' ▸ hstate) (hcomplete'.trans hcomplete)
      ⟨without_append_singleton hno_tls.1 (ne_of_kind hkinds (by decide)),
        without_append_singleton hno_tls.2 (ne_of_kind hkinds (by decide))⟩
  | tls hstate hknown hno_plain =>
    rw [hknown hseen] at hkinds
    exact .tls (.inr (.inr (hcomplete'.trans (hknown hseen))))
      (fun _ => hcomplete'.trans (hknown hseen))
      (without_append_singleton hno_plain (ne_of_kind hkinds (by decide)))

theorem Speaks.collect (h : Speaks tr s) (hactive : s.session.state = .ACTIVE_SESSION)
    (hsession : s'.session = s.session) (heq : x.output = []) : Speaks (tr ++ [x]) s' := by
  have hkinds := fun kind => ne_of_nil kind heq
  cases h with
  | nothing hstate =>
    rw [hactive] at hstate
    simp at hstate
  | plaintext hstate hcomplete hno_tls =>
    exact .plaintext (hsession ▸ hstate) (hsession ▸ hcomplete)
      ⟨without_append_singleton hno_tls.1 (hkinds _), without_append_singleton hno_tls.2 (hkinds _)⟩
  | tls hstate hknown hno_plain =>
    have hcomplete : s'.session.tls.handshakeComplete = true := by
      rw [hsession]
      simpa [hactive] using hstate
    exact .tls (.inr (.inr hcomplete)) (fun _ => hcomplete)
      (without_append_singleton hno_plain (hkinds _))

theorem Speaks.quiet (h : Speaks tr s) (hstate' : s'.session.state = s.session.state)
    (hcomplete' : s'.session.tls.handshakeComplete = s.session.tls.handshakeComplete)
    (heq : x.output = []) (hdelivered : s'.delivered = s.delivered)
    (hbroadcasts : s'.broadcasts = s.broadcasts) : Speaks (tr ++ [x]) s' := by
  have hkinds := fun kind => ne_of_nil kind heq
  cases h with
  | nothing hstate hcomplete hnone hempty hno_tls hno_plain =>
    exact .nothing (hstate' ▸ hstate) (hcomplete'.trans hcomplete) (hdelivered.trans hnone)
      (hbroadcasts.trans hempty)
      ⟨without_append_singleton hno_tls.1 (hkinds _), without_append_singleton hno_tls.2 (hkinds _)⟩
      (without_append_singleton hno_plain (hkinds _))
  | plaintext hstate hcomplete hno_tls =>
    exact .plaintext (hstate' ▸ hstate) (hcomplete'.trans hcomplete)
      ⟨without_append_singleton hno_tls.1 (hkinds _), without_append_singleton hno_tls.2 (hkinds _)⟩
  | tls hstate hknown hno_plain =>
    refine .tls ?_ ?_ (without_append_singleton hno_plain (hkinds _))
    · rwa [hstate', hcomplete']
    · rwa [hcomplete', hdelivered, hbroadcasts]

end

theorem speaks_step {tr : List (SessionEntry κ)} {s : TlsSession κ} {e : SessionEvent}
    (h : Speaks tr s) (hC : SendsToSeen s e) :
    Speaks (tr ++ [(sessionMachine schannel).entry s e])
      ((sessionMachine schannel).step s e).1 := by
  cases sessionStep schannel s e with
  | recv now r _ hturn hdelivered hbroadcasts =>
    exact h.recv schannel hturn hdelivered hbroadcasts
  | send hallowed hstate hcomplete hkinds =>
    refine h.send ?_ hstate hcomplete hkinds
    obtain ⟨header, payload, rfl⟩ | hpending := hallowed
    · exact .inl hC
    · exact .inr hpending
  | collect hactive hsession heq => exact h.collect hactive hsession heq
  | quiet hstate hcomplete heq hdelivered hbroadcasts =>
    exact h.quiet hstate hcomplete heq hdelivered hbroadcasts

theorem speaks_run {s : TlsSession κ} (hnew : NewTlsSession s) {es : List SessionEvent}
    (hC : (sessionMachine schannel).Along SendsToSeen s es) :
    Speaks ((sessionMachine schannel).trace s es) ((sessionMachine schannel).run s es) := by
  have hstart : Speaks [] s :=
    .nothing (.inl hnew.state) hnew.complete hnew.delivered hnew.broadcasts
      ⟨without_nil _, without_nil _⟩ (without_nil _)
  exact (sessionMachine schannel).history_invariant hstart
    (fun tr s e h hC => speaks_step schannel h hC) hC

/-- No connection has both plaintext frames and bytes of TLS on it, whatever the threads do, as long
as `SendFrame` is only called for a client whose frames the callback has got. -/
theorem tls_or_plain {s : TlsSession κ} (hnew : NewTlsSession s) {es : List SessionEvent}
    (hC : (sessionMachine schannel).Along SendsToSeen s es) :
    Without .plain ((sessionMachine schannel).trace s es) ∨
      Without .token ((sessionMachine schannel).trace s es) ∧
        Without .record ((sessionMachine schannel).trace s es) := by
  cases speaks_run schannel hnew hC with
  | nothing _ _ _ _ _ hno_plain => exact .inl hno_plain
  | plaintext _ _ hno_tls => exact .inr hno_tls
  | tls _ _ hno_plain => exact .inl hno_plain

/-! ### The version policy -/

/-- The policy on a connection whose handshake is finished. -/
def PolicyMet (context : ServerContext κ) : Prop :=
  context.config.enableTls12 = true ∨ schannel.connectionInfo context.hContext = none ∨
    ∃ dwProtocol, schannel.connectionInfo context.hContext = some dwProtocol ∧
      SP_PROT_TLS1_3 ≤ dwProtocol

theorem policyMet_of_not_rejected {context : ServerContext κ}
    (h : protocolRejected schannel context = false) : PolicyMet schannel context := by
  rw [protocolRejected] at h
  split at h
  next dwProtocol hinfo =>
    obtain henabled | hprotocol := Bool.and_eq_false_iff.mp h
    · exact .inl (by simpa using henabled)
    · exact .inr (.inr ⟨dwProtocol, hinfo, UInt32.not_lt.mp (of_decide_eq_false hprotocol)⟩)
  next hinfo => exact .inr (.inl hinfo)

/-- The turn of the worker in which the handshake is finished and the policy met. -/
def Approves (x : SessionEntry κ) : Prop :=
  (∃ now r, x.event = .recv now r) ∧ x.after.session.tls.handshakeComplete = true ∧
    PolicyMet schannel x.after.session.tls

/-- What holds of a connection on which TLS has started. -/
structure Approved (tr : List (SessionEntry κ)) (s : TlsSession κ) : Prop where
  complete : s.session.tls.handshakeComplete = true → ∃ x ∈ tr, Approves schannel x
  started : ¬ Without .token tr → s.session.state = .TLS_HANDSHAKE ∨
    s.session.state = .DISCONNECTED ∨ s.session.tls.handshakeComplete = true

theorem approved_step {tr : List (SessionEntry κ)} {s : TlsSession κ} (e : SessionEvent)
    (h : Approved schannel tr s) :
    Approved schannel (tr ++ [(sessionMachine schannel).entry s e])
      ((sessionMachine schannel).step s e).1 := by
  obtain ⟨hcomplete, hstarted⟩ := h
  have hkept : (∃ x ∈ tr, Approves schannel x) →
      ∃ x ∈ tr ++ [(sessionMachine schannel).entry s e], Approves schannel x := by
    rintro ⟨x, hx, happroves⟩
    exact ⟨x, List.mem_append_left _ hx, happroves⟩
  -- A step without tokens leaves the connection as started as it was.
  have hbefore : (∀ o ∈ ((sessionMachine schannel).step s e).2, o.kind ≠ .token) →
      ¬ Without .token (tr ++ [(sessionMachine schannel).entry s e]) → ¬ Without .token tr :=
    fun hout htr hno => htr (without_append_singleton hno hout)
  cases sessionStep schannel s e with
  | recv now r hevent hturn =>
    cases hturn with
    | quiet heq hstate hsame =>
      refine ⟨fun hdone => hkept (hcomplete (hsame.symm.trans hdone)), fun htr => ?_⟩
      have hstart := hstarted (hbefore (ne_of_nil _ heq) htr)
      rw [hsame]
      obtain hstate | hdown := hstate
      · rwa [hstate]
      · exact .inr (.inl hdown)
    | handshake _ _ hstate hsame =>
      exact ⟨fun hdone => hkept (hcomplete (hsame.symm.trans hdone)),
        fun _ => hstate.imp id .inl⟩
    | success _ _ _ hdone hpolicy =>
      refine ⟨fun _ => ⟨(sessionMachine schannel).entry s e, by simp, ?_⟩,
        fun _ => .inr (.inr hdone)⟩
      exact ⟨⟨now, r, hevent⟩, hdone, policyMet_of_not_rejected schannel hpolicy⟩
    | active hstate hframes _ hsame =>
      refine ⟨fun hdone => hkept (hcomplete (hsame.symm.trans hdone)), fun htr => ?_⟩
      obtain hhandshake | hdown | hdone :=
        hstarted (hbefore (ne_of_kind hframes (by decide)) htr)
      · rw [hhandshake] at hstate
        simp at hstate
      · rw [hdown] at hstate
        simp at hstate
      · exact .inr (.inr (hsame.trans hdone))
  | send _ hstate hsame hkinds =>
    refine ⟨fun hdone => hkept (hcomplete (hsame.symm.trans hdone)), fun htr => ?_⟩
    have hno_token : ∀ o ∈ ((sessionMachine schannel).step s e).2, o.kind ≠ .token := by
      intro o ho
      rw [hkinds o ho]
      split
      · decide
      · decide
    rw [hstate, hsame]
    exact hstarted (hbefore hno_token htr)
  | collect _ hsession heq =>
    rw [← hsession] at hcomplete hstarted
    exact ⟨fun hdone => hkept (hcomplete hdone),
      fun htr => hstarted (hbefore (ne_of_nil _ heq) htr)⟩
  | quiet hstate hsame heq =>
    refine ⟨fun hdone => hkept (hcomplete (hsame.symm.trans hdone)), fun htr => ?_⟩
    rw [hstate, hsame]
    exact hstarted (hbefore (ne_of_nil _ heq) htr)

theorem approved_run {s : TlsSession κ} (hnew : NewTlsSession s) (es : List SessionEvent) :
    Approved schannel ((sessionMachine schannel).trace s es)
      ((sessionMachine schannel).run s es) := by
  have hstart : Approved schannel [] s := by
    refine ⟨fun hdone => ?_, fun htr => absurd (without_nil _) htr⟩
    rw [hnew.complete] at hdone
    cases hdone
  exact (sessionMachine schannel).history_invariant hstart
    (fun tr s e h _ => approved_step schannel e h) ((sessionMachine schannel).along_true s es)

theorem approved_use {s : TlsSession κ} (hnew : NewTlsSession s) {es : List SessionEvent}
    {xs ys : List (SessionEntry κ)} {x : SessionEntry κ}
    (h : (sessionMachine schannel).trace s es = xs ++ x :: ys) {o : SessionOutput}
    (ho : o ∈ x.output)
    (hkind : o.kind = .record ∨ o.kind = .frame ∧ ¬ Without .token xs) :
    ∃ y ∈ xs, Approves schannel y := by
  obtain ⟨es₁, e, es₂, -, rfl, rfl, -⟩ := (sessionMachine schannel).trace_split h
  have happroved := approved_run schannel hnew es₁
  generalize (sessionMachine schannel).run s es₁ = s' at happroved ho
  refine happroved.complete ?_
  cases sessionStep schannel s' e with
  | recv now r _ hturn =>
    cases hturn with
    | quiet heq => exact absurd rfl (ne_of_nil _ heq o ho)
    | handshake _ htokens => simp [htokens o ho] at hkind
    | success _ htokens => simp [htokens o ho] at hkind
    | active hstate hframes =>
      rw [hframes o ho] at hkind
      obtain hrecord | ⟨-, htokens⟩ := hkind
      · cases hrecord
      · obtain hhandshake | hdown | hdone := happroved.started htokens
        · rw [hhandshake] at hstate
          simp at hstate
        · rw [hdown] at hstate
          simp at hstate
        · exact hdone
  | send _ _ _ hkinds =>
    rw [hkinds o ho] at hkind
    by_cases hdone : s'.session.tls.handshakeComplete = true
    · exact hdone
    · simp [hdone] at hkind
  | collect _ _ heq => exact absurd rfl (ne_of_nil _ heq o ho)
  | quiet _ _ heq => exact absurd rfl (ne_of_nil _ heq o ho)

/-- The flag that Schannel has for a server that speaks TLS 1.3, the highest of a server. The source
takes 0x2000 for it, which is the flag of a client. -/
def SP_PROT_TLS1_3_SERVER : UInt32 := 0x00001000

/-- No thread changes the configuration. -/
theorem session_config (s : TlsSession κ) (e : SessionEvent) :
    ((sessionMachine schannel).step s e).1.session.tls.config = s.session.tls.config := by
  cases e with
  | recv now r =>
    refine workerStep_context (serverTls schannel)
      (P := fun context => context.config = s.session.tls.config) ?_ ?_ rfl now r
    · intro context bytes hcontext
      exact (acceptHandshake_spec schannel context bytes).1.trans hcontext
    · exact fun _ _ hcontext => hcontext
  | sendFrame header payload =>
    obtain ⟨-, -, hconfig, -⟩ := sendFrame_spec schannel s.session header payload
    exact hconfig
  | broadcastCollects header payload =>
    dsimp only [sessionMachine]
    split
    · rfl
    · rfl
  | broadcastSends index =>
    dsimp only [sessionMachine]
    split
    next => rfl
    next header payload _ =>
      obtain ⟨-, -, hconfig, -⟩ := sendFrame_spec schannel s.session header payload
      exact hconfig
  | socketClosed => rfl

/-- When Schannel reports the flag of a server, a context without TLS 1.2 never meets the policy. -/
theorem not_policyMet
    (hreports : ∀ k, ∃ dwProtocol, schannel.connectionInfo k = some dwProtocol ∧
      dwProtocol ≤ SP_PROT_TLS1_3_SERVER)
    {context : ServerContext κ} (hconfig : context.config.enableTls12 = false) :
    ¬ PolicyMet schannel context := by
  obtain ⟨reported, hreported, hlow⟩ := hreports context.hContext
  rintro (henabled | hquery | ⟨dwProtocol, hinfo, hhigh⟩)
  · rw [hconfig] at henabled
    cases henabled
  · rw [hquery] at hreported
    cases hreported
  · obtain rfl := Option.some.inj (hinfo.symm.trans hreported)
    exact absurd (UInt32.le_trans hhigh hlow) (by decide)

/-- When Schannel reports the flag of a server, no connection without TLS 1.2 gets through the
handshake: no record is ever sent, and no frame reaches the callback after a token. -/
theorem no_tls_with_server_flags
    (hreports : ∀ k, ∃ dwProtocol, schannel.connectionInfo k = some dwProtocol ∧
      dwProtocol ≤ SP_PROT_TLS1_3_SERVER)
    {s : TlsSession κ} (hnew : NewTlsSession s)
    (hconfig : s.session.tls.config.enableTls12 = false) {es : List SessionEvent}
    {xs ys : List (SessionEntry κ)} {x : SessionEntry κ}
    (h : (sessionMachine schannel).trace s es = xs ++ x :: ys) {o : SessionOutput}
    (ho : o ∈ x.output) : o.kind ≠ .record ∧ (o.kind = .frame → Without .token xs) := by
  have hnone : ∀ y ∈ xs, ¬ Approves schannel y := by
    rintro y hy ⟨-, -, hpolicy⟩
    obtain ⟨before, after, rfl⟩ := List.append_of_mem hy
    rw [List.append_assoc, List.cons_append] at h
    obtain ⟨es₁, e, es₂, -, -, rfl, -⟩ := (sessionMachine schannel).trace_split h
    have hsame : ((sessionMachine schannel).run s es₁).session.tls.config =
        s.session.tls.config :=
      (sessionMachine schannel).invariant
        (P := fun s' => s'.session.tls.config = s.session.tls.config)
        (fun s' e h _ => (session_config schannel s' e).trans h) rfl
        ((sessionMachine schannel).along_true s es₁)
    refine not_policyMet schannel hreports ?_ hpolicy
    exact (congrArg TlsConfig.enableTls12
      ((session_config schannel _ e).trans hsame)).trans hconfig
  constructor
  · intro hrecord
    obtain ⟨y, hy, happroves⟩ := approved_use schannel hnew h ho (.inl hrecord)
    exact hnone y hy happroves
  · intro hframe
    by_contra htokens
    obtain ⟨y, hy, happroves⟩ := approved_use schannel hnew h ho (.inr ⟨hframe, htokens⟩)
    exact hnone y hy happroves

end

/-! ### Runs -/

section Runs

/-- Schannel where every handshake ends with its first token, and the protocol is given. -/
def schannelOf (dwProtocol : UInt32) : SchannelServer Unit where
  decryptMessage _ bytes := ((), .SEC_E_OK, [⟨.SECBUFFER_DATA, bytes⟩])
  acquireCredentials _ _ _ := ((), .SEC_E_OK)
  acceptSecurityContext _ _ _ := ((), .SEC_E_OK, [], [0x16])
  connectionInfo _ := some dwProtocol
  streamSizes _ := some ⟨5, 16⟩
  encryptMessage _ _ bytes := ((), .SEC_E_OK, bytes)

def newTlsSession : TlsSession Unit :=
  { session := { clientId := 1, tls := { hContext := () } } }

theorem newTlsSession_new : NewTlsSession newTlsSession := ⟨rfl, rfl, rfl, rfl⟩

/-- The phone starts TLS, sends a ping, and gets one back. -/
def pingOverTls : List SessionEvent :=
  [.recv 0 (.data [0x16]), .recv 1 (.data (encodeFrame (pingFrame 7))),
    .sendFrame (pingFrame 7).1 (pingFrame 7).2]

theorem pingOverTls_sendsToSeen :
    (sessionMachine (schannelOf 0x2000)).Along SendsToSeen newTlsSession pingOverTls := by
  have hseen : ((sessionMachine (schannelOf 0x2000)).run newTlsSession
      (pingOverTls.take 2)).delivered = true := by decide +kernel
  exact ⟨trivial, trivial, hseen, trivial⟩

theorem tls_or_plain_ping :
    Without .plain ((sessionMachine (schannelOf 0x2000)).trace newTlsSession pingOverTls) ∨
      Without .token ((sessionMachine (schannelOf 0x2000)).trace newTlsSession pingOverTls) ∧
        Without .record
          ((sessionMachine (schannelOf 0x2000)).trace newTlsSession pingOverTls) :=
  tls_or_plain (schannelOf 0x2000) newTlsSession_new pingOverTls_sendsToSeen

/-- With the flag of a server the token is still sent, and the connection is closed. -/
theorem no_tls_with_server_flags_ping :
    (SessionOutput.token [0x16]).kind ≠ .record ∧
      ((SessionOutput.token [0x16]).kind = .frame →
        Without .token ([] : List (SessionEntry Unit))) := by
  have htrace : (sessionMachine (schannelOf SP_PROT_TLS1_3_SERVER)).trace newTlsSession
        [.recv 0 (.data [0x16])] =
      [] ++ [(sessionMachine (schannelOf SP_PROT_TLS1_3_SERVER)).entry newTlsSession
        (.recv 0 (.data [0x16]))] := rfl
  exact no_tls_with_server_flags (schannelOf SP_PROT_TLS1_3_SERVER)
    (fun _ => ⟨SP_PROT_TLS1_3_SERVER, rfl, UInt32.le_refl _⟩) newTlsSession_new rfl htrace
    (by decide +kernel)

end Runs

end MobileUnlock.Network
