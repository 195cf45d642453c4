import MobileUnlock.Lib.Machine
import MobileUnlock.Lsa.LsaPackage

/-!
# `MobileUnlock.CredentialProvider.MobileUnlockCredential`: the tile and its status thread

The model of `Advise`, `UnAdvise`, `StatusThreadFunc`, `SetDeselected` and `GetSerialization` of
`windows/credential_provider/MobileUnlockCredential.cpp`. The calls come one after the other, since
the provider is registered with the threading model `Apartment`. The status threads run beside
them: `Advise` starts one, and one that `UnAdvise` did not wait for to its end goes on.

`credentialMachine` interleaves them. An act is one step of one thread, or time that goes by. A
critical section is one step. An act whose thread is not at that step, or still waits, changes
nothing, so every list of acts is an interleaving. Time does not go by a limit: `FetchAuthState`
takes at most its two timeouts, a wait for the stop event takes at most the poll interval, and
`UnAdvise` waits at most 3 seconds.

`UnAdvise` closes the stop event after it has set it. A wait for a closed event fails at once, so
an event stays set here.
-/

set_option autoImplicit false

namespace MobileUnlock.CredentialProvider

open MobileUnlock.Lib MobileUnlock.Lsa

/-- The result codes of the calls. -/
inductive HRESULT where
  | S_OK
  | S_FALSE
  | E_POINTER
  | E_OUTOFMEMORY
  deriving DecidableEq, Repr

/-- What `FetchAuthState` returns. -/
structure IpcStateToken where
  valid : Bool
  lsaBuffer : MobileUnlockLsaLogonBuffer
  deriving DecidableEq

/-- The buffer after `SecureZeroMemory`. -/
def zeroBuffer : MobileUnlockLsaLogonBuffer where
  magic := 0
  version := 0
  deviceId := .replicate 16 0
  reserved := 0
  canonicalMessage := .replicate 88 0
  signature := .replicate 64 0

def CONNECT_TIMEOUT_MS : Nat := 5000
def READ_TIMEOUT_MS : Nat := 5000
def POLL_INTERVAL_MS : Nat := 2000

/-! ### The state -/

/-- Where a status thread stands. -/
inductive ThreadPc where
  /-- At the condition of the loop. -/
  | looping
  /-- In `FetchAuthState`, since the given time. -/
  | fetching (since : Nat)
  /-- `FetchAuthState` has returned, and the stop flag is not read again yet. -/
  | fetched (token : IpcStateToken)
  /-- Behind the stop check, in front of the lock. -/
  | storing (token : IpcStateToken)
  /-- In front of `UpdateStatusField`. -/
  | showing (text : String)
  /-- In the wait for the stop event. The handle is null when the event could not be made. -/
  | waiting (stopEvent : Option Nat) (since : Nat)
  /-- Behind the loop, in front of the lock. -/
  | wiping
  | ended
  deriving DecidableEq

/-- Where the thread of the calls stands. -/
inductive CallPc where
  | idle
  /-- `UnAdvise` has left the lock, with the handles it has taken. -/
  | unAdvising (hThread hStop : Option Nat) (since : Nat)
  /-- `SetDeselected` has left the lock. -/
  | deselecting
  deriving DecidableEq, Repr

/-- The credential with its threads. Handles of threads and events are places in the lists
`threads` and `stopEvents`. An event is `true` when it is set. `fieldStrings` are the calls of
`SetFieldString`, the last one first. -/
structure CredentialState where
  clock : Nat := 0
  hasIpcFactory : Bool
  credentialEvents : Option Nat := none
  statusText : String := "Waiting for phone..."
  fieldStrings : List (Nat × String) := []
  authStateReady : Bool := false
  internalAuthBuffer : MobileUnlockLsaLogonBuffer := zeroBuffer
  statusThread : Option Nat := none
  stopThread : Bool := false
  stopEvent : Option Nat := none
  threads : List ThreadPc := []
  stopEvents : List Bool := []
  call : CallPc := .idle

/-- The time at which what the thread waits for has come to an end. -/
def ThreadPc.limit : ThreadPc → Option Nat
  | .fetching since => some (since + CONNECT_TIMEOUT_MS + READ_TIMEOUT_MS)
  | .waiting _ since => some (since + POLL_INTERVAL_MS)
  | _ => none

/-- The same for the thread of the calls. -/
def CallPc.limit : CallPc → Option Nat
  | .unAdvising (some _) _ since => some (since + 3000)
  | _ => none

/-- No wait is longer than its limit at the given time. -/
def CredentialState.mayReach (s : CredentialState) (clock : Nat) : Bool :=
  (s.call.limit :: s.threads.map ThreadPc.limit).all fun limit =>
    match limit with
    | some t => clock ≤ t
    | none => true

def CredentialState.movePc (s : CredentialState) (thread : Nat) (pc : ThreadPc) :
    CredentialState :=
  { s with threads := s.threads.set thread pc }

/-! ### The status thread -/

def CredentialState.updateStatusField (s : CredentialState) (text : String) : CredentialState :=
  { s with
      statusText := text
      fieldStrings :=
        match s.credentialEvents with
        | some pcpce => (pcpce, text) :: s.fieldStrings
        | none => s.fieldStrings }

def CredentialState.clearInternalAuthState (s : CredentialState) : CredentialState :=
  { s with internalAuthBuffer := zeroBuffer, authStateReady := false }

/-- `WaitForSingleObject` on a stop event returns: the handle is null, the event is set, or the
interval is over. -/
def CredentialState.stopWaitOver (s : CredentialState) (stopEvent : Option Nat) (since : Nat) :
    Bool :=
  match stopEvent with
  | some event => s.stopEvents[event]? = some true || since + POLL_INTERVAL_MS ≤ s.clock
  | none => true

/-- One step of `StatusThreadFunc`, apart from the return of `FetchAuthState`. -/
def CredentialState.goOn (s : CredentialState) (thread : Nat) : ThreadPc → CredentialState
  | .looping =>
    if s.stopThread then s.movePc thread .wiping
    else if s.hasIpcFactory then s.movePc thread (.fetching s.clock)
    else s.movePc thread (.showing "Internal error")
  | .fetching _ => s
  | .fetched token =>
    if s.stopThread then s.movePc thread .wiping else s.movePc thread (.storing token)
  | .storing token =>
    if token.valid then
      { s with internalAuthBuffer := token.lsaBuffer, authStateReady := true }.movePc thread
        (.showing "Authentication ready")
    else
      { s with authStateReady := false }.movePc thread (.showing "Waiting for phone...")
  | .showing text => (s.updateStatusField text).movePc thread (.waiting s.stopEvent s.clock)
  | .waiting stopEvent since =>
    if s.stopWaitOver stopEvent since then s.movePc thread .looping else s
  | .wiping => s.clearInternalAuthState.movePc thread .ended
  | .ended => s

/-- `FetchAuthState` returns. -/
def CredentialState.fetchReturns (s : CredentialState) (thread : Nat) (token : IpcStateToken) :
    ThreadPc → CredentialState
  | .fetching _ => s.movePc thread (.fetched token)
  | _ => s

/-! ### The calls -/

/-- Under the lock. The two answers are those of `CreateEventW` and `CreateThread`. -/
def CredentialState.advise (s : CredentialState) (pcpce : Nat) (eventMade threadMade : Bool) :
    CredentialState :=
  let s := { s with credentialEvents := some pcpce }
  match s.statusThread with
  | some _ => s
  | none =>
    { s with
        stopThread := false
        stopEvent := if eventMade then some s.stopEvents.length else none
        stopEvents := if eventMade then s.stopEvents ++ [false] else s.stopEvents
        statusThread := if threadMade then some s.threads.length else none
        threads := if threadMade then s.threads ++ [.looping] else s.threads }

/-- Under the lock. -/
def CredentialState.unAdvise (s : CredentialState) : CredentialState :=
  { s with
      stopThread := true
      stopEvents :=
        match s.stopEvent with
        | some event => s.stopEvents.set event true
        | none => s.stopEvents
      statusThread := none
      credentialEvents := none
      call := .unAdvising s.statusThread s.stopEvent s.clock }

/-- `UnAdvise` has waited to the end: there is no thread, the thread has ended, or the 3 seconds
are over. -/
def CredentialState.unAdviseWaitOver (s : CredentialState) (hThread : Option Nat) (since : Nat) :
    Bool :=
  match hThread with
  | some thread => s.threads[thread]? = some .ended || since + 3000 ≤ s.clock
  | none => true

structure GUID where
  data1 : UInt32 := 0
  data2 : UInt16 := 0
  data3 : UInt16 := 0
  data4 : List UInt8 := List.replicate 8 0
  deriving DecidableEq, Repr

def CLSID_MobileUnlockProvider : GUID where
  data1 := 0xA82D1234
  data2 := 0x5678
  data3 := 0x90AB
  data4 := [0xCD, 0xEF, 0x12, 0x34, 0x56, 0x78, 0x90, 0xAB]

/-- The responses the credential gives to Winlogon. -/
inductive SerializationResponse where
  | CPGSR_NO_CREDENTIAL_FINISHED
  | CPGSR_RETURN_CREDENTIAL_FINISHED
  deriving DecidableEq, Repr

/-- The structure for Winlogon. It is zero before it is filled. -/
structure CredentialSerialization where
  clsidCredentialProvider : GUID := {}
  ulAuthenticationPackage : UInt32 := 0
  cbSerialization : UInt32 := 0
  rgbSerialization : Option Bytes := none
  deriving DecidableEq, Repr

/-- The four outputs. The status text stays null, and the icon stays `CPSI_NONE`. -/
structure SerializationOutputs where
  pcpgsr : SerializationResponse := .CPGSR_NO_CREDENTIAL_FINISHED
  pcpcs : CredentialSerialization := {}
  ppwszOptionalStatusText : Option WideText := none
  /-- `CPSI_NONE` is zero. -/
  pcpsiOptionalStatusIcon : Nat := 0
  deriving DecidableEq, Repr

/-- What a call of `GetSerialization` gets from outside: whether its four pointers are given, the
status and the number that the LSA package lookup returns, and whether `CoTaskMemAlloc` has
memory. -/
structure SerializationEnv where
  pointersGiven : Bool
  lookupStatus : UInt32
  lookupPkgId : UInt32
  allocates : Bool
  deriving DecidableEq, Repr

/-- The result code, and the outputs when the pointers are given. -/
def CredentialState.getSerialization (s : CredentialState) (env : SerializationEnv) :
    HRESULT × Option SerializationOutputs :=
  if ¬ env.pointersGiven then (.E_POINTER, none)
  else if ¬ s.authStateReady then (.S_FALSE, some {})
  else
    let authPkgId :=
      if env.lookupStatus ≠ 0 ∨ env.lookupPkgId = 0 then 100 else env.lookupPkgId
    if ¬ env.allocates then (.E_OUTOFMEMORY, some {})
    else
      (.S_OK, some {
        pcpgsr := .CPGSR_RETURN_CREDENTIAL_FINISHED
        pcpcs := {
          clsidCredentialProvider := CLSID_MobileUnlockProvider
          ulAuthenticationPackage := authPkgId
          cbSerialization := UInt32.ofNat LSA_LOGON_BUFFER_SIZE
          rgbSerialization := some s.internalAuthBuffer.layout } })

/-! ### The interleaving -/

/-- The steps of the threads. -/
inductive CredentialAct where
  | advance (ms : Nat)
  | goOn (thread : Nat)
  | fetchReturns (thread : Nat) (token : IpcStateToken)
  | advise (pcpce : Option Nat) (eventMade threadMade : Bool)
  | unAdvise
  | unAdviseReturns
  | setDeselected
  | setDeselectedReturns
  | getSerialization (env : SerializationEnv)
  deriving DecidableEq

/-- What a call returns. -/
inductive CallReturn where
  | advise (hr : HRESULT)
  | unAdvise (hr : HRESULT)
  | setDeselected (hr : HRESULT)
  | getSerialization (hr : HRESULT) (outputs : Option SerializationOutputs)
  deriving DecidableEq, Repr

/-- One act. The output is what a call returns with it. -/
def credentialStep (s : CredentialState) : CredentialAct → CredentialState × Option CallReturn
  | .advance ms =>
    if s.mayReach (s.clock + ms) then ({ s with clock := s.clock + ms }, none) else (s, none)
  | .goOn thread =>
    match s.threads[thread]? with
    | some pc => (s.goOn thread pc, none)
    | none => (s, none)
  | .fetchReturns thread token =>
    match s.threads[thread]? with
    | some pc => (s.fetchReturns thread token pc, none)
    | none => (s, none)
  | .advise pcpce eventMade threadMade =>
    if s.call = .idle then
      match pcpce with
      | some pcpce => (s.advise pcpce eventMade threadMade, some (.advise .S_OK))
      | none => (s, some (.advise .E_POINTER))
    else (s, none)
  | .unAdvise => if s.call = .idle then (s.unAdvise, none) else (s, none)
  | .unAdviseReturns =>
    match s.call with
    | .unAdvising hThread hStop since =>
      if s.unAdviseWaitOver hThread since then
        ({ s with
            stopEvent := if hStop.isSome then none else s.stopEvent
            call := .idle }, some (.unAdvise .S_OK))
      else (s, none)
    | _ => (s, none)
  | .setDeselected =>
    if s.call = .idle then ({ s.clearInternalAuthState with call := .deselecting }, none)
    else (s, none)
  | .setDeselectedReturns =>
    if s.call = .deselecting then
      ({ s.updateStatusField "Waiting for phone..." with call := .idle },
        some (.setDeselected .S_OK))
    else (s, none)
  | .getSerialization env =>
    if s.call = .idle then
      let (hr, outputs) := s.getSerialization env
      (s, some (.getSerialization hr outputs))
    else (s, none)

/-- The credential and its threads. -/
def credentialMachine : Machine CredentialState CredentialAct (Option CallReturn) :=
  ⟨credentialStep⟩

/-- The state after construction. -/
def constructed (hasIpcFactory : Bool) : CredentialState := { hasIpcFactory := hasIpcFactory }

end MobileUnlock.CredentialProvider
