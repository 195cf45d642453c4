import MobileUnlock.Authentication.AuthenticationManager
import MobileUnlock.Lsa.LsaPackage
import MobileUnlock.Pairing.PairingManager

/-!
# `MobileUnlock.Service.SharedRegistry`: everything that reads and writes the device registry

The service (`AuthenticationManager`, `PairingManager`, the lock branch), the logon package in
LSASS and administrative callers share one device registry and no other state. `sharedMachine`
runs them together: an event is one call of one of them, so its runs are the interleavings of
their calls.
-/

set_option autoImplicit false

namespace MobileUnlock.Service

open MobileUnlock.Lib MobileUnlock.Lib.Win32 MobileUnlock.Protocol MobileUnlock.Pairing
open MobileUnlock.Authentication MobileUnlock.Lsa

/-- The managers and the registry. -/
structure SharedState where
  authentication : AuthenticationManager := {}
  pairing : PairingManager := {}
  registry : Registry := {}

/-- One call. -/
inductive SharedEvent where
  | authRequest (deviceId : DeviceId) (requestHeader outHeader : FrameHeader) (env : RequestEnv)
  | authResponse (requestHeader : FrameHeader) (payload : Bytes) (env : ResponseEnv)
  | pairing (event : PairingEvent)
  | logon (env : LsaEnv) (heap : LsaHeap) (ptrs : LogonPointers) (submitBuffer : Option Bytes)
  | isDeviceActive (deviceIdStr : Bytes) (acc : Access)
  | setDeviceStatus (deviceIdStr : Bytes) (status : UInt32) (acc : Access)
  | updateLastSeen (deviceIdStr : Bytes) (now : FILETIME) (acc : Access)
  | deleteDeviceRecord (deviceIdStr : Bytes) (acc : Access)
  | writeDeviceRecord (record : DeviceRecord) (acc : Access)

/-- What a call returns. -/
inductive SharedOutput where
  | auth (reply : AuthReply)
  | pairing (reply : Option PairingReply)
  | logon (status : NTSTATUS)
  | active (answer : Bool)
  | registry (err : LONG)

/-- The callers over one registry. -/
def sharedMachine : Machine SharedState SharedEvent SharedOutput where
  step s
    | .authRequest deviceId requestHeader outHeader env =>
      let (m, reply) := handleAuthRequest s.authentication s.registry deviceId requestHeader
        outHeader env
      ({ s with authentication := m }, .auth reply)
    | .authResponse requestHeader payload env =>
      let (m, reg, reply) := handleAuthResponse s.authentication s.registry requestHeader payload
        env
      ({ s with authentication := m, registry := reg }, .auth reply)
    | .pairing event =>
      let (world, reply) := pairingMachine.step ⟨s.pairing, s.registry⟩ event
      ({ s with pairing := world.manager, registry := world.registry }, .pairing reply)
    | .logon env heap ptrs submitBuffer =>
      (s, .logon (logonUserEx2 env s.registry heap ptrs submitBuffer).1)
    | .isDeviceActive deviceIdStr acc =>
      (s, .active (Pairing.isDeviceActive acc s.registry deviceIdStr))
    | .setDeviceStatus deviceIdStr status acc =>
      let (err, reg) := Pairing.setDeviceStatus acc s.registry deviceIdStr status
      ({ s with registry := reg }, .registry err)
    | .updateLastSeen deviceIdStr now acc =>
      let (err, reg) := Pairing.updateLastSeen acc s.registry deviceIdStr now
      ({ s with registry := reg }, .registry err)
    | .deleteDeviceRecord deviceIdStr acc =>
      let (err, reg) := Pairing.deleteDeviceRecord acc s.registry deviceIdStr
      ({ s with registry := reg }, .registry err)
    | .writeDeviceRecord record acc =>
      let (err, reg) := Pairing.writeDeviceRecord acc s.registry record
      ({ s with registry := reg }, .registry err)

end MobileUnlock.Service
