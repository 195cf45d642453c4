import MobileUnlock.Android.MdnsDiscovery
import MobileUnlock.Network.MdnsResponder

/-!
# `MobileUnlock.Network.DiscoveryNetwork`: a phone and its PCs on one network

The phone of `discoveryMachine` and a responder on every PC, with the datagrams between them. `ι`
names the PCs, and `address` gives each its address as the phone sees it.

A datagram that was sent stays on the network. It may reach a socket at any later time, several
times or never, so a run has the datagrams lost, repeated and in any order. A query of the phone
is a broadcast. Any socket of the service hears it, and the phone hears what a PC sends. The
responders hear one another as well.
-/

set_option autoImplicit false

namespace MobileUnlock.Network

open MobileUnlock.Lib MobileUnlock.Lib.Dart MobileUnlock.Protocol MobileUnlock.Android

section
variable {ι : Type} [DecidableEq ι]

/-- A datagram on the network. The sender of a query is `none`. -/
structure SentDatagram (ι : Type) where
  sender : Option ι
  bytes : Bytes

structure DiscoveryNetwork (ι : Type) where
  phone : MdnsDiscovery := {}
  responders : ι → MdnsResponder
  sent : List (SentDatagram ι) := []

/-- The steps of the phone, of the PCs and of the network. -/
inductive NetworkEvent (ι : Type) where
  /-- The user starts or ends a search, the phone gets its socket, or a timer fires. -/
  | startDiscovery
  | socketBound (bound : Bool)
  | repeatTimer
  | stopTimer
  | stopDiscovery
  /-- The phone reads the datagram at this place of `sent`. `now` is its clock. -/
  | phoneReceives (index : Nat) (now : Int)
  /-- A PC reads the datagram at this place of `sent`. -/
  | responderReceives (pc : ι) (index : Nat)
  /-- The service of a PC sets the state to announce. -/
  | setState (pc : ι) (state : PcState)

/-- A step of the phone, with its query on the network. -/
def stepPhone (s : DiscoveryNetwork ι) (event : DiscoveryEvent) : DiscoveryNetwork ι :=
  let (phone, output) := discoveryMachine.step s.phone event
  { s with
      phone := phone
      sent := s.sent ++ output.query.toList.map fun query => ⟨none, query⟩ }

/-- The network. The output is the datagram that a PC has answered. -/
def networkMachine (address : ι → DartString) :
    Machine (DiscoveryNetwork ι) (NetworkEvent ι) (Option (SentDatagram ι)) where
  step s
    | .startDiscovery => (stepPhone s .startDiscovery, none)
    | .socketBound bound => (stepPhone s (.socketBound bound), none)
    | .repeatTimer => (stepPhone s .repeatTimer, none)
    | .stopTimer => (stepPhone s .stopTimer, none)
    | .stopDiscovery => (stepPhone s .stopDiscovery, none)
    | .phoneReceives index now =>
      match s.sent[index]? with
      | some ⟨some pc, bytes⟩ => (stepPhone s (.datagram bytes (address pc) now), none)
      | _ => (s, none)
    | .responderReceives pc index =>
      match s.sent[index]? with
      | none => (s, none)
      | some datagram =>
        match (s.responders pc).listenerLoop datagram.bytes with
        | none => (s, none)
        | some answer => ({ s with sent := s.sent ++ [⟨some pc, answer⟩] }, some datagram)
    | .setState pc state =>
      ({ s with
          responders := Function.update s.responders pc
            { s.responders pc with state := state } }, none)

end

end MobileUnlock.Network
