import MobileUnlock.Android.PairingService
import MobileUnlock.Service.ServiceMachine

/-!
# `MobileUnlock.Service.PhoneExchange`: the pairing of a phone with the service

`pairingServiceMachine` and `serviceMachine` with the network between them. The phone's
`PairingService` gets frames from the service only. The network keeps every frame that the service
has sent to a client, and it may deliver any of them at any time, twice or never, so the phone may
have had any number of connections. In the other direction nothing is assumed: the service may get
frames of every type from everybody.
-/

set_option autoImplicit false

namespace MobileUnlock.Service

open MobileUnlock.Lib MobileUnlock.Protocol MobileUnlock.Android

/-- Whether the event is a frame of the PC. -/
def isPcFrame : PairingServiceEvent → Bool
  | .frame _ _ => true
  | _ => false

/-- What happens on the phone itself: the user, the timer, and calls that go on. -/
structure PhoneEvent where
  event : PairingServiceEvent
  own : isPcFrame event = false

/-- The phone, the service, and the frames that the service has sent. -/
structure PhoneExchange where
  phone : PairingService := {}
  service : ServiceState := {}
  sent : List (FrameHeader × Bytes) := []

inductive ExchangeEvent where
  | phone (event : PhoneEvent)
  | service (event : ServiceEvent)
  /-- The network delivers the frame at this place to the phone. -/
  | delivered (index : Nat) (now : Int)

/-- The frame that a step of the service sends to a client. -/
def sentFrame : LockObservation → Option (FrameHeader × Bytes)
  | .replied _ header payload => some (header, payload)
  | .relayed _ header payload => some (header, payload)
  | _ => none

/-- The phone and the service. The output is that of the phone. -/
def phoneExchange : Machine PhoneExchange ExchangeEvent PairingOutput where
  step s
    | .phone event =>
      let (phone, output) := pairingServiceMachine.step s.phone event.event
      ({ s with phone := phone }, output)
    | .service event =>
      let (service, observation) := serviceMachine.step s.service event
      ({ s with service := service, sent := s.sent ++ (sentFrame observation).toList }, {})
    | .delivered index now =>
      match s.sent[index]? with
      | none => (s, {})
      | some (header, payload) =>
        let frame := receivedFrame (serializeFrameHeader header) payload
        let (phone, output) := pairingServiceMachine.step s.phone (.frame frame now)
        ({ s with phone := phone }, output)

end MobileUnlock.Service
