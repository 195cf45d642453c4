import MobileUnlock.Android.PairingService
import MobileUnlock.Lib.Since

/-!
# `MobileUnlock.Proofs.PhonePairing`: when the phone believes that it is paired

A PAIR_COMPLETE frame makes the phone paired in whatever state it is. `submitSasPin` and the timer
look at the state before they act, but this branch of `_onFrameReceived` does not. So a PC can skip
the PIN, and a late frame undoes a cancel.

The state `sasEntered` is the one after the PIN. Everything that ends a pairing leaves it, and only
`submitSasPin` leads to it, whether the PAIR_CONFIRM is sent or not (`pairingEffect_step`). So the
phone keeps the rule in every run in which PAIR_COMPLETE finds the service in this state, or paired
already, and each PIN that is accepted is sent.
-/

set_option autoImplicit false

namespace MobileUnlock.Android

open MobileUnlock.Lib MobileUnlock.Lib.Dart

/-! ### What is claimed of a run -/

/-- One step of the service. -/
abbrev PairingServiceStep := Entry PairingService PairingServiceEvent PairingOutput

/-- `submitSasPin` sends a PAIR_CONFIRM. -/
def SendsConfirm (x : PairingServiceStep) : Prop :=
  ∃ pin payload, x.event = .submitSasPin pin true ∧
    .sendFrame 0x0012 (.pairConfirm payload) ∈ x.output.calls

/-- A new `startPairing`, a cancel, the timeout or a PROTO_ERROR. -/
def Interrupts (x : PairingServiceStep) : Prop :=
  match x.event with
  | .startPairing _ _ _ _ => True
  | .cancelPairing => True
  | .sasTimeout => x.before.sasTimer = true
  | .frame frame _ => frame.messageType = 0x00FF
  | _ => False

/-- A PAIR_CONFIRM was sent since the latest `startPairing`, and nothing ended the pairing
since. -/
def PinSent (tr : List PairingServiceStep) : Prop := Since (fun x => ¬ Interrupts x) SendsConfirm tr

/-- The state becomes `paired`, or there is a paired device from now on. -/
def BecomesPaired (x : PairingServiceStep) : Prop :=
  (x.before.state ≠ .paired ∧ x.after.state = .paired) ∨
    (x.before.pairedRecord = none ∧ x.after.pairedRecord.isSome)

/-- The phone becomes paired only after a PIN was sent. -/
def PairedAfterPin (tr : List PairingServiceStep) : Prop :=
  ∀ pre x post, tr = pre ++ x :: post → BecomesPaired x → PinSent pre

/-- A PIN that is accepted is sent, and a PAIR_COMPLETE comes after a PIN or in a state that is
`paired` already. -/
def Orderly (s : PairingService) : PairingServiceEvent → Prop
  | .submitSasPin pin sent => (s.confirmDeviceId pin).isSome → sent = true
  | .frame frame _ => frame.messageType = 0x0013 → s.state = .sasEntered ∨ s.state = .paired
  | _ => True

/-! ### What a step can do -/

/-- Everything a step can do to the state and to the record. -/
inductive PairingEffect (s : PairingService) (e : PairingServiceEvent) (s' : PairingService) :
    Prop where
  /-- Nothing. The timeout can come without an effect, but not after a PIN. -/
  | keeps (state : s'.state = s.state) (record : s'.pairedRecord = s.pairedRecord)
      (quiet : s.state = .sasEntered → ¬ Interrupts (pairingServiceMachine.entry s e))
  /-- The service goes to a state other than these two. It may forget the PC. -/
  | leaves (entered : s'.state ≠ .sasEntered) (paired : s'.state ≠ .paired)
      (record : s'.pairedRecord = s.pairedRecord ∨ s'.pairedRecord = none)
  /-- A PIN is accepted. -/
  | enters (pin : DartString) (sent : Bool) (event : e = .submitSasPin pin sent)
      (accepted : (s.confirmDeviceId pin).isSome) (state : s'.state = .sasEntered)
      (record : s'.pairedRecord = s.pairedRecord)
  /-- A PAIR_COMPLETE arrives. -/
  | completes (frame : ReceivedProtocolFrame) (now : Int) (event : e = .frame frame now)
      (type : frame.messageType = 0x0013) (record : s'.pairedRecord.isSome)

/-- A frame does something according to its type alone. -/
theorem pairingEffect_frame (s : PairingService) (frame : ReceivedProtocolFrame) (now : Int) :
    PairingEffect s (.frame frame now) (s.onFrameReceived frame now).1 := by
  unfold PairingService.onFrameReceived
  split
  · exact .leaves nofun nofun (.inl rfl)
  · split
    · rename_i hcomplete
      exact .completes frame now rfl hcomplete rfl
    · split
      · exact .leaves nofun nofun (.inl rfl)
      · rename_i hproto
        split
        · exact .leaves nofun nofun (.inr rfl)
        · exact .keeps rfl rfl fun _ => hproto

theorem pairingEffect_step (s : PairingService) (e : PairingServiceEvent) :
    PairingEffect s e (pairingServiceMachine.step s e).1 := by
  cases e with
  | startPairing pcHost pcPort deviceId deviceName => exact .leaves nofun nofun (.inl rfl)
  | startPairingConnected index connected sent =>
    simp only [pairingServiceMachine, PairingService.startPairingConnected]
    split
    · exact .keeps rfl rfl fun _ => id
    · split
      · exact .leaves nofun nofun (.inl rfl)
      · split <;> exact .leaves nofun nofun (.inl rfl)
  | submitSasPin pin sent =>
    simp only [pairingServiceMachine, PairingService.submitSasPin]
    split
    · exact .keeps rfl rfl fun _ => id
    · rename_i deviceId hid
      exact .enters pin sent rfl (by rw [hid]; rfl) rfl rfl
  | cancelPairing => exact .leaves nofun nofun (.inl rfl)
  | sasTimeout =>
    simp only [pairingServiceMachine, PairingService.sasTimeout]
    split
    · split
      · exact .leaves nofun nofun (.inl rfl)
      · rename_i hstate
        exact .keeps rfl rfl fun h => absurd (.inr h) hstate
    · rename_i htimer
      exact .keeps rfl rfl fun _ => htimer
  | unpairDevice =>
    simp only [pairingServiceMachine, PairingService.unpairDevice]
    split <;> exact .keeps rfl rfl fun _ => id
  | unpairConnected connected =>
    simp only [pairingServiceMachine, PairingService.unpairConnected]
    split
    · exact .keeps rfl rfl fun _ => id
    · split
      · exact .leaves nofun nofun (.inr rfl)
      · split <;> exact .keeps rfl rfl fun _ => id
  | unpairDelayed =>
    simp only [pairingServiceMachine]
    split
    · exact .keeps rfl rfl fun _ => id
    · exact .leaves nofun nofun (.inr rfl)
  | frame frame now => exact pairingEffect_frame s frame now

/-- A PIN that is accepted and sent sends a PAIR_CONFIRM. -/
theorem sendsConfirm_submitSasPin {s : PairingService} {pin : DartString}
    (h : (s.confirmDeviceId pin).isSome) :
    SendsConfirm (pairingServiceMachine.entry s (.submitSasPin pin true)) := by
  obtain ⟨deviceId, hid⟩ := Option.isSome_iff_exists.mp h
  refine ⟨pin, { deviceId := deviceId, sasPin := pin }, rfl, ?_⟩
  show _ ∈ (s.submitSasPin pin true).2.calls
  simp [PairingService.submitSasPin, hid]

/-! ### Runs -/

/-- After a PIN the history has the PAIR_CONFIRM, and a paired phone has a record. -/
structure Believes (tr : List PairingServiceStep) (s : PairingService) : Prop where
  pin : s.state = .sasEntered → PinSent tr
  record : s.state = .paired → s.pairedRecord.isSome

theorem believes_step (tr : List PairingServiceStep) (s : PairingService) (e : PairingServiceEvent)
    (h : Believes tr s) (horderly : Orderly s e) :
    Believes (tr ++ [pairingServiceMachine.entry s e]) (pairingServiceMachine.step s e).1 := by
  cases pairingEffect_step s e with
  | keeps hstate hrecord hquiet =>
    refine ⟨fun hpin => ?_, ?_⟩
    · rw [hstate] at hpin
      exact (since_append_singleton _ _).mpr (.inr ⟨hquiet hpin, h.pin hpin⟩)
    · rw [hstate, hrecord]
      exact h.record
  | leaves hentered hpaired _ =>
    exact ⟨fun hpin => absurd hpin hentered, fun hp => absurd hp hpaired⟩
  | enters pin sent hevent haccepted hstate _ =>
    subst hevent
    obtain rfl : sent = true := horderly haccepted
    refine ⟨fun _ => ?_, ?_⟩
    · exact (since_append_singleton _ _).mpr (.inl (sendsConfirm_submitSasPin haccepted))
    · rw [hstate]
      exact nofun
  | completes frame now hevent htype hrecord =>
    refine ⟨?_, fun _ => hrecord⟩
    subst hevent
    intro hpin
    change (s.onFrameReceived frame now).1.state = .sasEntered at hpin
    simp [PairingService.onFrameReceived, htype] at hpin

/-- A step that makes the phone paired comes after a PIN. -/
theorem pinSent_of_becomesPaired {tr : List PairingServiceStep} {s : PairingService}
    {e : PairingServiceEvent} (h : Believes tr s) (horderly : Orderly s e)
    (hbecomes : BecomesPaired (pairingServiceMachine.entry s e)) : PinSent tr := by
  change (s.state ≠ .paired ∧ (pairingServiceMachine.step s e).1.state = .paired) ∨
    (s.pairedRecord = none ∧ (pairingServiceMachine.step s e).1.pairedRecord.isSome) at hbecomes
  cases pairingEffect_step s e with
  | keeps hstate hrecord _ =>
    rw [hstate, hrecord] at hbecomes
    rcases hbecomes with ⟨hnot, hpaired⟩ | ⟨hnone, hsome⟩
    · exact absurd hpaired hnot
    · rw [hnone] at hsome
      cases hsome
  | leaves _ hpaired hrecord =>
    rcases hbecomes with ⟨_, hp⟩ | ⟨hnone, hsome⟩
    · exact absurd hp hpaired
    · rcases hrecord with hrecord | hrecord <;> simp [hrecord, hnone] at hsome
  | enters pin sent _ _ hstate hrecord =>
    rw [hstate, hrecord] at hbecomes
    rcases hbecomes with ⟨_, hp⟩ | ⟨hnone, hsome⟩
    · cases hp
    · rw [hnone] at hsome
      cases hsome
  | completes frame now hevent htype _ =>
    subst hevent
    rcases horderly htype with hentered | hpaired
    · exact h.pin hentered
    · -- A phone that is paired has a record, so nothing becomes.
      rcases hbecomes with ⟨hnot, -⟩ | ⟨hnone, -⟩
      · exact absurd hpaired hnot
      · have hsome := h.record hpaired
        rw [hnone] at hsome
        cases hsome

/-- In a run in which every accepted PIN is sent and PAIR_COMPLETE comes after a PIN, the phone
becomes paired only after a PIN was sent. -/
theorem pairedAfterPin_run (es : List PairingServiceEvent)
    (hrun : pairingServiceMachine.Along Orderly {} es) :
    PairedAfterPin (pairingServiceMachine.trace {} es) := by
  intro pre x post htrace hbecomes
  obtain ⟨es₁, e, es₂, rfl, rfl, rfl, -⟩ := pairingServiceMachine.trace_split htrace
  rw [Machine.along_append] at hrun
  obtain ⟨hbefore, hnow, -⟩ := hrun
  have hstart : Believes [] ({} : PairingService) := ⟨nofun, nofun⟩
  have hbelieves := pairingServiceMachine.history_invariant hstart believes_step hbefore
  exact pinSent_of_becomesPaired hbelieves hnow hbecomes

/-! ### With and without a PIN -/

/-- A PAIR_COMPLETE without a payload. -/
def completeFrame : ReceivedProtocolFrame where
  magic := 0x4D55
  majorVersion := 1
  minorVersion := 0
  messageType := 0x0013
  messageId := 1
  payloadLength := 0
  sequenceNumber := 1
  payload := []

/-- The user enters the PIN, and the PC completes the pairing. -/
def pinEvents : List PairingServiceEvent :=
  [.startPairing (literal "10.0.0.2") 8443 (literal "id") (literal "phone"),
    .startPairingConnected 0 true true, .submitSasPin (literal "123456") true]

theorem pairedAfterPin_run_pin :
    (pairingServiceMachine.run {} (pinEvents ++ [.frame completeFrame 0])).state = .paired ∧
      PairedAfterPin (pairingServiceMachine.trace {} (pinEvents ++ [.frame completeFrame 0])) := by
  refine ⟨by decide, pairedAfterPin_run _ ?_⟩
  refine ⟨trivial, trivial, fun _ => rfl, fun _ => ?_, trivial⟩
  exact .inl (by decide)

/-- The PC sends a PAIR_COMPLETE as soon as the phone is connected, and the phone is paired without
a PIN. -/
theorem pairedAfterPin_noPin :
    ¬ PairedAfterPin
      (pairingServiceMachine.trace {} (pinEvents.take 2 ++ [.frame completeFrame 0])) := by
  intro h
  have hbecomes : BecomesPaired (pairingServiceMachine.entry
      (pairingServiceMachine.run {} (pinEvents.take 2)) (.frame completeFrame 0)) := by
    unfold BecomesPaired
    decide
  obtain ⟨pre, x, post, hpre, ⟨pin, payload, hevent, -⟩, -⟩ :=
    h _ _ [] (pairingServiceMachine.trace_append _ _ _) hbecomes
  -- Neither of the two steps before is a submission.
  have hmem : x ∈ pairingServiceMachine.trace {} (pinEvents.take 2) := by
    rw [hpre]
    exact List.mem_append_right pre List.mem_cons_self
  simp only [pinEvents, List.take, Machine.trace, List.mem_cons, List.not_mem_nil, or_false] at hmem
  rcases hmem with rfl | rfl <;> cases hevent

end MobileUnlock.Android
