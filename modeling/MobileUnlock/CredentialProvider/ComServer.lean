import MobileUnlock.Lib.Machine
import MobileUnlock.Lib.SlotTable

/-!
# `MobileUnlock.CredentialProvider.ComServer`: the objects of the provider DLL

The model of `dllmain.cpp`, `ClassFactory.cpp` and `CredentialProvider.cpp`, and of the reference
count and the event sink in `MobileUnlockCredential.cpp`. An object lives as long as its count is
not zero, and `g_cDllRef` says whether Windows may unload the DLL.

The objects are in one heap, and a pointer is an address of it. The event sinks belong to the
clients. Of a sink the model has how many more calls of `AddRef` than of `Release` it has got.
Whether an allocation succeeds is an argument, and so are the pointers that a caller may leave null,
apart from the out parameters. A count is an `Int`: a `LONG` overflows when there are `2 ^ 31`
references to one object.

`comMachine` is the DLL with its clients. A client calls through a reference that it holds, and it
gives one back with `Release`. A call on an address without an object does nothing here.
-/

set_option autoImplicit false

namespace MobileUnlock.CredentialProvider.Com

open MobileUnlock.Lib

/-- The result codes of the calls. -/
inductive HRESULT where
  | S_OK
  | S_FALSE
  | E_POINTER
  | E_OUTOFMEMORY
  | E_NOINTERFACE
  | E_INVALIDARG
  | E_NOTIMPL
  | CLASS_E_NOAGGREGATION
  | CLASS_E_CLASSNOTAVAILABLE
  deriving DecidableEq

/-- `CREDENTIAL_PROVIDER_USAGE_SCENARIO`. -/
inductive UsageScenario where
  | CPUS_INVALID
  | CPUS_LOGON
  | CPUS_UNLOCK_WORKSTATION
  | CPUS_CHANGE_PASSWORD
  | CPUS_CREDUI
  | CPUS_PLAP
  deriving DecidableEq

/-! ### The heap -/

/-- The members of a `CredentialProvider`, apart from its count. -/
structure ProviderMembers where
  cpus : UsageScenario := .CPUS_INVALID
  usageScenarioSet : Bool := false
  credential : Option Nat := none
  credentialProviderEvents : Option Nat := none
  upAdviseContext : Nat := 0
  deriving DecidableEq

/-- The class of an object, with its members. -/
inductive Body where
  | classFactory
  | credentialProvider (members : ProviderMembers)
  | mobileUnlockCredential (credentialEvents : Option Nat)
  deriving DecidableEq

structure ComObject where
  cRef : Int := 1
  body : Body
  deriving DecidableEq

/-- The credential that an object holds a reference to. -/
def Body.credential : Body → Option Nat
  | .credentialProvider members => members.credential
  | _ => none

/-- The sink that an object holds a reference to. -/
def Body.events : Body → Option Nat
  | .classFactory => none
  | .credentialProvider members => members.credentialProviderEvents
  | .mobileUnlockCredential credentialEvents => credentialEvents

structure ComServer where
  heap : SlotTable ComObject := []
  /-- `g_cDllRef`. -/
  cDllRef : Int := 0
  sinkRefs : Nat → Int := fun _ => 0

namespace ComServer

/-- A write to the members of an object. -/
def setBody (s : ComServer) (pThis : Nat) (object : ComObject) (body : Body) : ComServer :=
  { s with heap := s.heap.set pThis (some { object with body := body }) }

/-- `AddRef` of a sink. -/
def addRefEvents (s : ComServer) (events : Option Nat) : ComServer :=
  { s with sinkRefs := fun sink => s.sinkRefs sink + if events = some sink then 1 else 0 }

/-- `Release` of a sink. -/
def releaseEvents (s : ComServer) (events : Option Nat) : ComServer :=
  { s with sinkRefs := fun sink => s.sinkRefs sink - if events = some sink then 1 else 0 }

/-- `Release` of the three classes, up to the destructor. -/
def releaseWith (destroy : ComServer → Body → ComServer) (s : ComServer) (pThis : Nat) :
    ComServer × Int :=
  match s.heap.lookup pThis with
  | none => (s, 0)
  | some object =>
    let cRef := object.cRef - 1
    if cRef = 0 then (destroy { s with heap := s.heap.set pThis none } object.body, cRef)
    else ({ s with heap := s.heap.set pThis (some { object with cRef := cRef }) }, cRef)

/-- The destructor of a credential, and the end of a class factory. -/
def destroyMembers (s : ComServer) (body : Body) : ComServer :=
  let s := s.releaseEvents body.events
  { s with cDllRef := s.cDllRef - 1 }

/-- `Release` of the credential that a provider holds. -/
def releaseCredential (s : ComServer) : Option Nat → ComServer
  | none => s
  | some pCredential => (s.releaseWith destroyMembers pCredential).1

/-- The destructors of the three classes. Only a provider holds a credential. -/
def destroy (s : ComServer) (body : Body) : ComServer :=
  (s.releaseCredential body.credential).destroyMembers body

/-- `Release`. -/
def release (s : ComServer) (pThis : Nat) : ComServer × Int := s.releaseWith destroy pThis

end ComServer

/-! ### The clients -/

/-- The DLL, the references that its clients hold, and the locks of the server that they have. -/
structure ComProcess where
  server : ComServer := {}
  held : List Nat := []
  locks : Nat := 0

inductive ComOutput where
  /-- No client can make the call. -/
  | silent
  /-- The call is through a reference to an object that has been deleted. -/
  | dangling
  | hresult (hr : HRESULT)
  | object (hr : HRESULT) (ppv : Option Nat)
  | count (cRef : Int)
  | credentialCount (count : Nat)

namespace ComProcess

/-- A call through a reference. A client makes it only if it holds the reference. -/
def call (p : ComProcess) (pThis : Nat) (method : ComObject → ComProcess × ComOutput) :
    ComProcess × ComOutput :=
  if pThis ∉ p.held then (p, .silent)
  else
    match p.server.heap.lookup pThis with
    | none => (p, .dangling)
    | some object => method object

/-- A call that hands out a reference. -/
def receive (p : ComProcess) (answer : ComServer × HRESULT × Option Nat) :
    ComProcess × ComOutput :=
  ({ p with server := answer.1, held := answer.2.2.toList ++ p.held },
    .object answer.2.1 answer.2.2)

end ComProcess

end MobileUnlock.CredentialProvider.Com
