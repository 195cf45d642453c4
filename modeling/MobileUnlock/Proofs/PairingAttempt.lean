import MobileUnlock.Proofs.PhoneFraming
import MobileUnlock.Proofs.PhonePairing
import MobileUnlock.Proofs.ServiceAnswers
import MobileUnlock.Proofs.ServiceReply
import MobileUnlock.Service.PhoneExchange

/-!
# `MobileUnlock.Proofs.PairingAttempt`: a phone that pairs with the service

`HandleNetworkFrame` has no branch for PAIR_REQUEST, PAIR_CONFIRM and UNPAIR_REQUEST. The frames
that the service sends are of five types (`answerTypes`), and the pairing of the phone reacts to
none of them. `pairing_unanswered` states what this means for the two together. In every
interleaving the phone does what it would do alone, and it is never paired.
-/

set_option autoImplicit false

namespace MobileUnlock.Service

open MobileUnlock.Lib MobileUnlock.Protocol MobileUnlock.Authentication MobileUnlock.Android

/-! ### What the service sends -/

/-- The types of the frames that the service sends. -/
def answerTypes : List MessageType :=
  [.PONG, .AUTH_CHALLENGE, .AUTH_SUCCESS, .AUTH_FAILURE, .LOCK_RESPONSE]

/-- The header has one of these types. -/
def IsAnswer (header : FrameHeader) : Prop := ∃ type ∈ answerTypes, header.messageType = type.code

/-- What the act sends is an answer. -/
def SendsAnswer (act : ServiceAction) : Prop :=
  ∀ c header payload, act = .sendFrame c header payload → IsAnswer header

theorem sendsAnswer_sendFrame {header : FrameHeader} (h : IsAnswer header) (c : UInt64)
    (payload : Bytes) : ∀ act ∈ [ServiceAction.sendFrame c header payload], SendsAnswer act := by
  intro act hact c' header' payload' heq
  obtain rfl := List.mem_singleton.mp hact
  cases heq
  exact h

theorem isAnswer_of_types {header : FrameHeader} {types : List MessageType}
    (hsub : ∀ type ∈ types, type ∈ answerTypes)
    (h : ∃ type ∈ types, header.messageType = type.code) : IsAnswer header := by
  obtain ⟨type, htype, heq⟩ := h
  exact ⟨type, hsub type htype, heq⟩

theorem sendsAnswer_handleLockRequest (reg : Pairing.Registry) (clientId : UInt64)
    (header : FrameHeader) (payload : Bytes) (env : FrameEnv) :
    ∀ act ∈ handleLockRequest reg clientId header payload env, SendsAnswer act := by
  have hrefuse : ∀ reason, ∀ act ∈ [refuseLock clientId header reason], SendsAnswer act :=
    fun reason => sendsAnswer_sendFrame ⟨.LOCK_RESPONSE, by decide, rfl⟩ _ _
  have hdispatch : ∀ act ∈ (if ¬ env.agentConnected
      then [refuseLock clientId header "AGENT_UNAVAILABLE"]
      else dispatchLock clientId header payload), SendsAnswer act := by
    split
    · exact hrefuse _
    · intro act hact c header' payload' heq
      subst heq
      simp [dispatchLock] at hact
  cases hid : (lockDeviceId payload env.stackId).1 with
  | false =>
    rw [handleLockRequest_of_no_id hid]
    exact hdispatch
  | true =>
    rw [handleLockRequest_of_id hid]
    split
    · exact hrefuse _
    · exact hdispatch

theorem sendsAnswer_handleNetworkFrame (s : AuthState) (client : ClientId) (header : FrameHeader)
    (payload : Bytes) (env : FrameEnv) :
    ∀ act ∈ (handleNetworkFrame s client.val header payload env).2, SendsAnswer act := by
  rw [handleNetworkFrame]
  split
  · exact sendsAnswer_sendFrame ⟨.PONG, by decide, rfl⟩ _ _
  · split
    · have hreply := replyTo_handleAuthRequest s.manager s.registry
        (authDeviceId payload env.stackId) header env.requestEnv
      exact sendsAnswer_sendFrame (isAnswer_of_types (by decide) hreply.messageType) _ _
    · split
      · have hreply := replyTo_handleAuthResponse s.manager s.registry header payload
          env.responseEnv
        exact sendsAnswer_sendFrame (isAnswer_of_types (by decide) hreply.messageType) _ _
      · split
        · exact sendsAnswer_handleLockRequest _ _ _ _ _
        · exact fun act hact => absurd hact List.not_mem_nil

/-- The frames that the service has sent, and those that its threads still send. -/
structure SendsAnswers (s : PhoneExchange) : Prop where
  acts : ActsSatisfy (fun _ act => SendsAnswer act) s.service.threads
  sent : ∀ f ∈ s.sent, IsAnswer f.1

/-- What a step of the service sends comes from an act of a client thread, or it is relayed. -/
theorem isAnswer_sentFrame {s : ServiceState}
    (h : ActsSatisfy (fun _ act => SendsAnswer act) s.threads) (e : ServiceEvent) :
    ∀ f ∈ sentFrame (serviceMachine.step s e).2, IsAnswer f.1 := by
  have hsilent : ∀ f ∈ sentFrame .silent, IsAnswer f.1 := fun f hf => by cases hf
  cases e with
  | frame c header payload env =>
    dsimp only [serviceMachine]
    split
    · exact hsilent
    · exact hsilent
  | registry reg => exact hsilent
  | clientAct c sent =>
    dsimp only [serviceMachine, stepThreads, lockMachine]
    split
    next => exact hsilent
    next act acts htasks =>
      have hact : SendsAnswer act := by
        refine h c act ?_
        rw [htasks]
        exact List.mem_cons_self
      cases act with
      | sendFrame r header payload =>
        intro f hf
        obtain rfl := Option.mem_some.mp hf
        exact hact r header payload rfl
      | storePendingLockClientId r => exact hsilent
      | storePendingLockMessageId id => exact hsilent
      | sendMessageToAgent message =>
        cases sent with
        | false => exact hsilent
        | true => exact fun f hf => by cases hf
  | agent lockSuccess sent =>
    dsimp only [serviceMachine, stepThreads, lockMachine]
    split
    next => exact hsilent
    next message rest _ =>
      rw [runAgent]
      split
      · split
        · exact fun f hf => by cases hf
        · exact fun f hf => by cases hf
      · exact hsilent
      · exact hsilent
  | agentMessage message => exact hsilent
  | ipcReceive =>
    dsimp only [serviceMachine, stepThreads, lockMachine]
    split
    · exact hsilent
    · exact hsilent
  | ipcAct sent =>
    dsimp only [serviceMachine, stepThreads, lockMachine]
    rw [runIpc]
    cases s.threads.ipcTask with
    | idle => exact hsilent
    | pong message => exact hsilent
    | exchangeClient payload => exact hsilent
    | loadMessageId c payload => exact hsilent
    | relay c messageId payload =>
      dsimp only
      split
      · intro f hf
        obtain rfl := Option.mem_some.mp hf
        exact ⟨.LOCK_RESPONSE, by decide, rfl⟩
      · exact hsilent

theorem SendsAnswers.step {s : PhoneExchange} (h : SendsAnswers s) (e : ExchangeEvent) :
    SendsAnswers (phoneExchange.step s e).1 := by
  cases e with
  | phone event => exact ⟨h.acts, h.sent⟩
  | service event =>
    refine ⟨h.acts.step sendsAnswer_handleNetworkFrame event, ?_⟩
    show ∀ f ∈ s.sent ++ (sentFrame (serviceMachine.step s.service event).2).toList, IsAnswer f.1
    rw [List.forall_mem_append]
    refine ⟨h.sent, fun f hf => ?_⟩
    exact isAnswer_sentFrame h.acts event f (Option.mem_toList.mp hf)
  | delivered index now =>
    dsimp only [phoneExchange]
    split
    · exact h
    · exact ⟨h.acts, h.sent⟩

/-! ### What the phone makes of it -/

theorem messageType_receivedFrame (header : FrameHeader) (payload : Bytes) :
    (receivedFrame (serializeFrameHeader header) payload).messageType =
      header.messageType.toNat := by
  obtain ⟨magic, major, minor, messageType, reserved, messageID, payloadLength, seq⟩ := header
  have h16 : natOfBE (bytesBE 2 messageType.toNat) = messageType.toNat :=
    natOfBE_bytesBE_of_lt messageType.toNat_lt
  simp only [receivedFrame, Dart.getUint16, Dart.getUint, serializeFrameHeader_eq]
  -- The type is behind the magic and the versions.
  simp (disch := simp) only [slice_append_right, slice_append_left, length_bytesBE,
    List.length_cons, List.length_nil, Nat.reduceAdd, Nat.reduceSub, slice_all, h16]

/-- The pairing of the phone does not react to an answer. -/
theorem onFrameReceived_answer {header : FrameHeader} (h : IsAnswer header) (s : PairingService)
    (payload : Bytes) (now : Int) :
    s.onFrameReceived (receivedFrame (serializeFrameHeader header) payload) now = (s, {}) := by
  have htype := messageType_receivedFrame header payload
  obtain ⟨type, hmem, hcode⟩ := h
  have hother : ∀ code ∈ ([0x0011, 0x0013, 0x00FF, 0x0051] : List Int),
      (type.code.toNat : Int) ≠ code := by
    simp only [answerTypes, List.mem_cons, List.not_mem_nil, or_false] at hmem
    obtain rfl | rfl | rfl | rfl | rfl := hmem
    · decide
    · decide
    · decide
    · decide
    · decide
  rw [← hcode, ← htype] at hother
  rw [PairingService.onFrameReceived, if_neg (hother 0x0011 (by simp)),
    if_neg (hother 0x0013 (by simp)), if_neg (hother 0x00FF (by simp)),
    if_neg (hother 0x0051 (by simp))]

/-! ### Whole runs -/

/-- The events of the phone itself. -/
def phoneEvents : List ExchangeEvent → List PairingServiceEvent
  | [] => []
  | .phone event :: es => event.event :: phoneEvents es
  | _ :: es => phoneEvents es

theorem run_phone {s : PhoneExchange} (h : SendsAnswers s) (es : List ExchangeEvent) :
    (phoneExchange.run s es).phone = pairingServiceMachine.run s.phone (phoneEvents es) := by
  induction es generalizing s with
  | nil => rfl
  | cons e es ih =>
    rw [Machine.run_cons, ih (h.step e)]
    cases e with
    | phone event => rfl
    | service event => rfl
    | delivered index now =>
      dsimp only [phoneExchange, phoneEvents]
      split
      next => rfl
      next header payload hindex =>
        have hanswer := h.sent _ (List.mem_of_getElem? hindex)
        have hframe := onFrameReceived_answer hanswer s.phone payload now
        show pairingServiceMachine.run (s.phone.onFrameReceived _ now).1 _ = _
        rw [hframe]

/-- Without a frame of the PC the phone does not become paired. -/
theorem not_paired_step {s : PairingService} {e : PairingServiceEvent} (he : isPcFrame e = false)
    (h : s.state ≠ .paired ∧ s.pairedRecord = none) :
    (pairingServiceMachine.step s e).1.state ≠ .paired ∧
      (pairingServiceMachine.step s e).1.pairedRecord = none := by
  obtain ⟨hstate, hrecord⟩ := h
  cases pairingEffect_step s e with
  | keeps hsame hkept => exact ⟨by rwa [hsame], hkept.trans hrecord⟩
  | leaves _ hother hkept =>
    refine ⟨hother, ?_⟩
    obtain hsame | hgone := hkept
    · exact hsame.trans hrecord
    · exact hgone
  | enters pin sent _ _ hentered hkept =>
    refine ⟨?_, hkept.trans hrecord⟩
    rw [hentered]
    decide
  | completes frame now hevent =>
    rw [hevent] at he
    cases he

theorem phoneEvents_own (es : List ExchangeEvent) :
    ∀ e ∈ phoneEvents es, isPcFrame e = false := by
  induction es with
  | nil => exact fun e he => absurd he List.not_mem_nil
  | cons e es ih =>
    cases e with
    | phone event =>
      rw [phoneEvents, List.forall_mem_cons]
      exact ⟨event.own, ih⟩
    | service event => exact ih
    | delivered index now => exact ih

/-- In every interleaving of the phone, the service with all of its clients, and a network that
delivers what the service has sent in any order, the phone does exactly what it would do alone, and
it is never paired. -/
theorem pairing_unanswered (es : List ExchangeEvent) :
    (phoneExchange.run {} es).phone = pairingServiceMachine.run {} (phoneEvents es) ∧
      (phoneExchange.run {} es).phone.state ≠ .paired ∧
      (phoneExchange.run {} es).phone.pairedRecord = none := by
  have hstart : SendsAnswers {} :=
    ⟨fun _ _ hact => absurd hact List.not_mem_nil, fun _ hf => absurd hf List.not_mem_nil⟩
  have hphone := run_phone hstart es
  refine ⟨hphone, ?_⟩
  rw [hphone]
  exact pairingServiceMachine.invariant (P := fun s => s.state ≠ .paired ∧ s.pairedRecord = none)
    (fun _ _ h he => not_paired_step he h) ⟨show PairingState.unpaired ≠ .paired by decide, rfl⟩
    (pairingServiceMachine.along_of_forall (phoneEvents_own es) _)

end MobileUnlock.Service
