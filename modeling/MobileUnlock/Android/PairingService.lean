import MobileUnlock.Android.WiFiTransport
import MobileUnlock.Lib.DartConvert
import MobileUnlock.Lib.Machine

/-!
# `MobileUnlock.Android.PairingService`: the phone's side of the pairing

The model of `flutter_app/lib/services/pairing_service.dart` with the states and records of
`models/pairing_models.dart`. User actions, frames of the PC and the timer of 60 seconds reach the
service in any order.

The calls of the transport are outputs, and what they return is part of the events. Two functions
wait. `startPairing` waits for the connection, and `unpairDevice` waits for the connection and then
for 300 milliseconds. Each of them is a call and the steps after its waits; `pendingStarts`,
`pendingUnpairs` and `delayedUnpairs` hold the calls that wait. The state stream, the encoding of
the payloads and `dispose` are left out.
-/

set_option autoImplicit false

namespace MobileUnlock.Android

open MobileUnlock.Lib MobileUnlock.Lib.Dart

inductive PairingState where
  | unpaired
  | discovering
  | pairingRequested
  | waitingForSas
  | sasEntered
  | pairingConfirmed
  | paired
  | expired
  | cancelled
  | failed
  deriving DecidableEq, Repr

/-- What the phone keeps of a paired PC. `pairedAt` is a `DateTime`. -/
structure PairedDeviceRecord where
  deviceId : DartString
  deviceName : DartString
  pcHostname : DartString
  pcIp : DartString
  pcPort : Int := 8443
  pairedAt : Int
  isActive : Bool := true
  deriving DecidableEq

structure PairRequestPayload where
  deviceId : DartString
  deviceName : DartString
  publicKey : DartString := []
  deriving DecidableEq

structure PairConfirmPayload where
  deviceId : DartString
  sasPin : DartString
  deriving DecidableEq

/-- The payloads the service sends. -/
inductive PairingPayload where
  | pairRequest (payload : PairRequestPayload)
  | pairConfirm (payload : PairConfirmPayload)
  /-- The map with the key `deviceId`. -/
  | unpairRequest (deviceId : DartString)
  deriving DecidableEq

/-- The calls of the transport. -/
inductive TransportCall where
  | connect (host : DartString) (port : Int) (useTls : Bool)
  | sendFrame (messageType : Int) (payload : PairingPayload)
  | disconnect
  deriving DecidableEq

/-- What comes out of a step: calls of the transport, and what the function returns if it returns
something at this step. -/
structure PairingOutput where
  calls : List TransportCall := []
  result : Option Bool := none
  deriving DecidableEq

structure PairingService where
  state : PairingState := .unpaired
  pairedRecord : Option PairedDeviceRecord := none
  currentDeviceId : Option DartString := none
  currentDeviceName : Option DartString := none
  currentPcHost : Option DartString := none
  currentPcPort : Int := 8443
  /-- The timer is set. -/
  sasTimer : Bool := false
  /-- The PAIR_REQUESTs of the calls of `startPairing` that wait for a connection. -/
  pendingStarts : List PairRequestPayload := []
  /-- The calls of `unpairDevice` that wait for a connection. -/
  pendingUnpairs : Nat := 0
  /-- The calls of `unpairDevice` that have sent their request. -/
  delayedUnpairs : Nat := 0
  deriving DecidableEq

namespace PairingService

/-- `startPairing` up to the connection. -/
def startPairing (s : PairingService) (pcHost : DartString) (pcPort : Int)
    (deviceId deviceName : DartString) : PairingService × PairingOutput :=
  ({ s with
      currentDeviceId := some deviceId
      currentDeviceName := some deviceName
      currentPcHost := some pcHost
      currentPcPort := pcPort
      state := .pairingRequested
      pendingStarts := s.pendingStarts ++ [{ deviceId := deviceId, deviceName := deviceName }] },
    { calls := [.connect pcHost pcPort true] })

/-- `startPairing` after the connection, with the result of `sendFrame`. -/
def startPairingConnected (s : PairingService) (req : PairRequestPayload)
    (connected sent : Bool) : PairingService × PairingOutput :=
  if ¬ connected then ({ s with state := .failed }, { result := some false })
  else
    let calls := [.sendFrame 0x0010 (.pairRequest req)]
    if ¬ sent then ({ s with state := .failed }, { calls := calls, result := some false })
    else
      ({ s with state := .waitingForSas, sasTimer := true },
        { calls := calls, result := some true })

/-- The device id for the PAIR_CONFIRM, if `submitSasPin` passes its checks. -/
def confirmDeviceId (s : PairingService) (pin : DartString) : Option DartString :=
  if s.state ≠ .waitingForSas then none
  else if pin.length ≠ 6 then none
  else s.currentDeviceId

/-- Submits the PIN of the user, with the result of `sendFrame`. -/
def submitSasPin (s : PairingService) (pin : DartString) (sent : Bool) :
    PairingService × PairingOutput :=
  match s.confirmDeviceId pin with
  | none => (s, { result := some false })
  | some deviceId =>
    let confirm := { deviceId := deviceId, sasPin := pin }
    ({ s with state := .sasEntered },
      { calls := [.sendFrame 0x0012 (.pairConfirm confirm)], result := some sent })

def cancelPairing (s : PairingService) : PairingService × PairingOutput :=
  ({ s with sasTimer := false, state := .cancelled }, { calls := [.disconnect] })

/-- The callback of the timer. -/
def sasTimeout (s : PairingService) : PairingService × PairingOutput :=
  let s := { s with sasTimer := false }
  if s.state = .waitingForSas ∨ s.state = .sasEntered then s.cancelPairing else (s, {})

/-- `unpairDevice` up to the connection. -/
def unpairDevice (s : PairingService) : PairingService × PairingOutput :=
  match s.pairedRecord with
  | none => (s, { result := some true })
  | some record =>
    ({ s with pendingUnpairs := s.pendingUnpairs + 1 },
      { calls := [.connect record.pcIp record.pcPort true] })

/-- The PC is forgotten. -/
def forget (s : PairingService) : PairingService :=
  { s with pairedRecord := none, state := .unpaired }

/-- `unpairDevice` after the connection. The record is read again, and the call throws if it is
gone. -/
def unpairConnected (s : PairingService) (connected : Bool) : PairingService × PairingOutput :=
  if ¬ connected then (s.forget, { result := some true })
  else
    match s.pairedRecord with
    | none => (s, {})
    | some record =>
      ({ s with delayedUnpairs := s.delayedUnpairs + 1 },
        { calls := [.sendFrame 0x0050 (.unpairRequest record.deviceId)] })

/-- `unpairDevice` after the 300 milliseconds. -/
def unpairDelayed (s : PairingService) : PairingService × PairingOutput :=
  (s.forget, { calls := [.disconnect], result := some true })

/-- The record of a completed pairing. -/
def newRecord (s : PairingService) (now : Int) : PairedDeviceRecord where
  deviceId := s.currentDeviceId.getD []
  deviceName := s.currentDeviceName.getD []
  pcHostname := s.currentPcHost.getD (literal "PC")
  pcIp := s.currentPcHost.getD (literal "127.0.0.1")
  pcPort := s.currentPcPort
  pairedAt := now
  isActive := true

/-- A frame of the PC. `now` is the clock. -/
def onFrameReceived (s : PairingService) (frame : ReceivedProtocolFrame) (now : Int) :
    PairingService × PairingOutput :=
  if frame.messageType = 0x0011 then ({ s with state := .waitingForSas }, {})
  else if frame.messageType = 0x0013 then
    ({ s with sasTimer := false, pairedRecord := some (s.newRecord now), state := .paired }, {})
  else if frame.messageType = 0x00FF then
    ({ s with sasTimer := false, state := .failed }, { calls := [.disconnect] })
  else if frame.messageType = 0x0051 then (s.forget, {})
  else (s, {})

end PairingService

/-- What reaches the service. -/
inductive PairingServiceEvent where
  | startPairing (pcHost : DartString) (pcPort : Int) (deviceId deviceName : DartString)
  /-- The call at this place of `pendingStarts` goes on. -/
  | startPairingConnected (index : Nat) (connected sent : Bool)
  | submitSasPin (pin : DartString) (sent : Bool)
  | cancelPairing
  | sasTimeout
  | unpairDevice
  /-- A call of `unpairDevice` that waits for its connection goes on. -/
  | unpairConnected (connected : Bool)
  /-- The delay of a call of `unpairDevice` is over. -/
  | unpairDelayed
  | frame (frame : ReceivedProtocolFrame) (now : Int)

/-- The service. An event that nothing waits for does nothing. -/
def pairingServiceMachine : Machine PairingService PairingServiceEvent PairingOutput where
  step s
    | .startPairing pcHost pcPort deviceId deviceName =>
      s.startPairing pcHost pcPort deviceId deviceName
    | .startPairingConnected index connected sent =>
      match s.pendingStarts[index]? with
      | none => (s, {})
      | some req =>
        { s with pendingStarts := s.pendingStarts.eraseIdx index }.startPairingConnected req
          connected sent
    | .submitSasPin pin sent => s.submitSasPin pin sent
    | .cancelPairing => s.cancelPairing
    | .sasTimeout => if s.sasTimer then s.sasTimeout else (s, {})
    | .unpairDevice => s.unpairDevice
    | .unpairConnected connected =>
      if s.pendingUnpairs = 0 then (s, {})
      else { s with pendingUnpairs := s.pendingUnpairs - 1 }.unpairConnected connected
    | .unpairDelayed =>
      if s.delayedUnpairs = 0 then (s, {})
      else { s with delayedUnpairs := s.delayedUnpairs - 1 }.unpairDelayed
    | .frame frame now => s.onFrameReceived frame now

end MobileUnlock.Android
