import MobileUnlock.Android.WiFiConnection
import MobileUnlock.Lib.Since

/-!
# `MobileUnlock.Proofs.Reconnect`: what the reconnect timer achieves

`_scheduleReconnect` sets the state to `reconnecting` and starts the timer, and the timer calls
`connect`. But `isTransitioning` counts `reconnecting` among the states in which `connect` returns
at once. While the timer runs, the state can only change to `activeSession`, by an older attempt
that ends late, and `connect` returns at once there, too. So the timer never starts an attempt
(`Tracks.timer`), and `autoReconnects_iff` says that auto-reconnect does its duty exactly in the
runs in which the timer does not fire.

The rest of the duty is met in every run: an attempt that fails sets the timer, and the delay is
`2 ^ n` seconds after `n` firings, up to 16 (`Tracks.delay`).
-/

set_option autoImplicit false

namespace MobileUnlock.Android

open MobileUnlock.Lib

/-! ### What is claimed of a run -/

/-- One step of a connection. -/
abbrev ConnectionStep := Entry WiFiConnection ConnectionEvent ConnectionOutput

/-- What a step means for the reconnects. -/
inductive StepKind where
  /-- A call of `connect` that is not refused. -/
  | connects
  /-- An attempt ends with a socket. -/
  | establishes
  /-- An attempt ends without one. -/
  | attemptFails
  /-- A call of `disconnect`, also the one for a malformed packet. -/
  | disconnects
  /-- The reconnect timer fires. -/
  | fires
  | other
  deriving DecidableEq

def kindOf (x : ConnectionStep) : StepKind :=
  match x.event with
  | .connect => if x.before.refusesConnect then .other else .connects
  | .connected => if x.before.pendingConnects = 0 then .other else .establishes
  | .connectFailed => if x.before.pendingConnects = 0 then .other else .attemptFails
  | .data data =>
    if x.before.listeners ≠ 0 ∧
        (receiveLoop (x.before.transport.incomingBuffer ++ data)).disconnects then .disconnects
    else .other
  | .reconnectTimeout => if x.before.reconnectTimer.isSome then .fires else .other
  | .disconnect => .disconnects
  | _ => .other

/-- No disconnect since the last connect. -/
def InService (tr : List ConnectionStep) : Prop :=
  ¬ Since (fun x => kindOf x ≠ .connects) (fun x => kindOf x = .disconnects) tr

/-- How often the reconnect timer fired since the last connection, or since the start. -/
def firings (tr : List ConnectionStep) : Nat :=
  tr.foldl (fun n x =>
    match kindOf x with
    | .fires => n + 1
    | .establishes => 0
    | _ => n) 0

/-- The step starts a connection attempt. -/
def StartsAttempt (x : ConnectionStep) : Prop :=
  x.after.transport.state = .tcpConnecting ∨ x.after.transport.state = .tlsHandshake

/-- With no disconnect since the last connect, the timer starts an attempt when it fires, and a
failed attempt sets the timer, with a delay that doubles from firing to firing up to 16. -/
def AutoReconnects (tr : List ConnectionStep) : Prop :=
  ∀ pre x post, tr = pre ++ x :: post → InService pre →
    (kindOf x = .fires → StartsAttempt x) ∧
      (kindOf x = .attemptFails → x.after.reconnectTimer = some (min (2 ^ firings pre) 16))

/-- Only the timer fires. -/
theorem kindOf_eq_fires {x : ConnectionStep} (h : kindOf x = .fires) :
    x.event = .reconnectTimeout ∧ x.before.reconnectTimer.isSome := by
  unfold kindOf at h
  grind

/-- Only an attempt that waits can fail. -/
theorem kindOf_eq_attemptFails {x : ConnectionStep} (h : kindOf x = .attemptFails) :
    x.event = .connectFailed ∧ x.before.pendingConnects ≠ 0 := by
  unfold kindOf at h
  grind

/-! ### The history of a run -/

@[simp] theorem inService_append_singleton (tr : List ConnectionStep) (x : ConnectionStep) :
    InService (tr ++ [x]) ↔ kindOf x ≠ .disconnects ∧ (kindOf x = .connects ∨ InService tr) := by
  unfold InService
  rw [since_append_singleton, not_or, not_and_or, not_not]

@[simp] theorem firings_append_singleton (tr : List ConnectionStep) (x : ConnectionStep) :
    firings (tr ++ [x]) =
      match kindOf x with
      | .fires => firings tr + 1
      | .establishes => 0
      | _ => firings tr := by
  unfold firings
  rw [List.foldl_append, List.foldl_cons, List.foldl_nil]

/-- What the state of the transport has to do with the history. -/
structure Tracks (tr : List ConnectionStep) (c : WiFiConnection) : Prop where
  auto : c.transport.shouldAutoReconnect = true ↔ InService tr
  delay : c.reconnectDelaySeconds = min (2 ^ firings tr) 16
  timer : c.reconnectTimer.isSome → c.transport.shouldAutoReconnect = true ∧
    (c.transport.state = .reconnecting ∨ c.transport.state = .activeSession)

theorem Tracks.refusesConnect {tr : List ConnectionStep} {c : WiFiConnection} (h : Tracks tr c)
    (htimer : c.reconnectTimer.isSome) : c.refusesConnect = true := by
  unfold WiFiConnection.refusesConnect
  rcases (h.timer htimer).2 with hstate | hstate <;> rw [hstate] <;> rfl

theorem tracks_start (useTls : Bool) : Tracks [] { useTls := useTls } where
  auto := ⟨fun _ => not_since_nil, fun _ => rfl⟩
  delay := rfl
  timer := nofun

/-! ### The steps -/

/-- A step of no kind that leaves the state, the timer and its delay alone. -/
theorem Tracks.other {tr : List ConnectionStep} {c c' : WiFiConnection} (h : Tracks tr c)
    {x : ConnectionStep} (hkind : kindOf x = .other)
    (hauto : c'.transport.shouldAutoReconnect = c.transport.shouldAutoReconnect)
    (hstate : c'.transport.state = c.transport.state)
    (hdelay : c'.reconnectDelaySeconds = c.reconnectDelaySeconds)
    (htimer : c'.reconnectTimer = c.reconnectTimer) : Tracks (tr ++ [x]) c' where
  auto := by simp [hkind, hauto, h.auto]
  delay := by simp [hkind, hdelay, h.delay]
  timer := by
    rw [htimer, hauto, hstate]
    exact h.timer

/-- A lost connection is given up, or the timer is set. -/
theorem dropConnection_eq (newState : NetworkConnectionState) (c : WiFiConnection) :
    c.dropConnection newState =
      if c.transport.shouldAutoReconnect then
        { c.stopTimers.closeSocket.setState .reconnecting with
            reconnectTimer := some c.reconnectDelaySeconds }
      else c.stopTimers.closeSocket.setState newState := rfl

@[simp] theorem shouldAutoReconnect_dropConnection (newState : NetworkConnectionState)
    (c : WiFiConnection) : (c.dropConnection newState).transport.shouldAutoReconnect
      = c.transport.shouldAutoReconnect := by
  rw [dropConnection_eq]
  split <;> rfl

@[simp] theorem reconnectDelaySeconds_dropConnection (newState : NetworkConnectionState)
    (c : WiFiConnection) : (c.dropConnection newState).reconnectDelaySeconds
      = c.reconnectDelaySeconds := by
  rw [dropConnection_eq]
  split <;> rfl

/-- A connection is lost or an attempt fails. -/
theorem Tracks.drop {tr : List ConnectionStep} {c : WiFiConnection} (h : Tracks tr c)
    {x : ConnectionStep} (hkind : kindOf x = .other ∨ kindOf x = .attemptFails)
    (c₁ : WiFiConnection)
    (hauto : c₁.transport.shouldAutoReconnect = c.transport.shouldAutoReconnect)
    (hdelay : c₁.reconnectDelaySeconds = c.reconnectDelaySeconds)
    (newState : NetworkConnectionState) :
    Tracks (tr ++ [x]) (c₁.dropConnection newState) := by
  refine ⟨?_, ?_, ?_⟩
  · rw [shouldAutoReconnect_dropConnection, hauto, h.auto]
    rcases hkind with hkind | hkind <;> simp [hkind]
  · rw [reconnectDelaySeconds_dropConnection, hdelay, h.delay]
    rcases hkind with hkind | hkind <;> simp [hkind]
  · intro htimer
    rw [dropConnection_eq] at htimer ⊢
    split at htimer
    · rename_i hshould
      rw [if_pos hshould]
      exact ⟨hshould, .inl rfl⟩
    · cases htimer

/-- The user hangs up, or the transport does for a malformed packet. -/
theorem Tracks.disconnect {tr : List ConnectionStep} {c : WiFiConnection} (h : Tracks tr c)
    {x : ConnectionStep} (hkind : kindOf x = .disconnects) {c' : WiFiConnection}
    (hauto : c'.transport.shouldAutoReconnect = false)
    (hdelay : c'.reconnectDelaySeconds = c.reconnectDelaySeconds)
    (htimer : c'.reconnectTimer = none) : Tracks (tr ++ [x]) c' where
  auto := by simp [hkind, hauto]
  delay := by simp [hkind, hdelay, h.delay]
  timer := by simp [htimer]

theorem sendFrame_same (t : WiFiTransport) (messageType : Int) (payload : Bytes) :
    (t.sendFrame messageType payload).1.shouldAutoReconnect = t.shouldAutoReconnect ∧
      (t.sendFrame messageType payload).1.state = t.state := by
  unfold WiFiTransport.sendFrame
  split
  · exact ⟨rfl, rfl⟩
  · split
    · exact ⟨rfl, rfl⟩
    · split <;> exact ⟨rfl, rfl⟩

theorem Tracks.sendFrame {tr : List ConnectionStep} {c : WiFiConnection} (h : Tracks tr c)
    {x : ConnectionStep} (hkind : kindOf x = .other) (messageType : Int) (payload : Bytes) :
    Tracks (tr ++ [x]) (c.sendFrame messageType payload).1 := by
  obtain ⟨hauto, hstate⟩ := sendFrame_same c.transport messageType payload
  exact h.other hkind hauto hstate rfl rfl

/-- The call of `connect`. -/
theorem Tracks.connect {tr : List ConnectionStep} {c : WiFiConnection} (h : Tracks tr c) :
    Tracks (tr ++ [connectionMachine.entry c .connect]) c.connect := by
  cases hrefuses : c.refusesConnect with
  | true =>
    have hkind : kindOf (connectionMachine.entry c .connect) = .other := if_pos hrefuses
    have hsame : c.connect = c := if_pos hrefuses
    rw [hsame]
    exact h.other hkind rfl rfl rfl rfl
  | false =>
    have hnot : ¬ c.refusesConnect = true := by simp [hrefuses]
    have hkind : kindOf (connectionMachine.entry c .connect) = .connects := if_neg hnot
    have htimer : c.reconnectTimer = none := by
      rw [← Option.not_isSome_iff_eq_none]
      intro hsome
      rw [h.refusesConnect hsome] at hrefuses
      cases hrefuses
    unfold WiFiConnection.connect
    rw [if_neg hnot]
    refine ⟨?_, ?_, ?_⟩
    · cases c.useTls <;> simp [hkind, WiFiConnection.setState]
    · cases c.useTls <;> simp [hkind, WiFiConnection.setState, h.delay]
    · cases c.useTls <;> simp [WiFiConnection.setState, htimer]

/-- An attempt ends with a socket. The delay starts over, and the timer is left alone. -/
theorem Tracks.connected {tr : List ConnectionStep} {c : WiFiConnection} (h : Tracks tr c)
    {x : ConnectionStep} (hkind : kindOf x = .establishes) (n : Nat) :
    Tracks (tr ++ [x]) { c with pendingConnects := n }.connected where
  auto := by simp [hkind, WiFiConnection.connected, h.auto]
  delay := by simp [hkind, WiFiConnection.connected]
  timer := fun htimer => ⟨(h.timer htimer).1, .inr rfl⟩

theorem Tracks.data {tr : List ConnectionStep} {c : WiFiConnection} (h : Tracks tr c)
    (hlisteners : c.listeners ≠ 0) (data : Bytes) :
    Tracks (tr ++ [connectionMachine.entry c (.data data)]) (c.onDataReceived data).1 := by
  cases hbad : (receiveLoop (c.transport.incomingBuffer ++ data)).disconnects with
  | true =>
    have hkind : kindOf (connectionMachine.entry c (.data data)) = .disconnects :=
      if_pos ⟨hlisteners, hbad⟩
    simp only [WiFiConnection.onDataReceived, WiFiTransport.onDataReceived, hbad]
    exact h.disconnect hkind rfl rfl rfl
  | false =>
    have hkind : kindOf (connectionMachine.entry c (.data data)) = .other := by
      refine if_neg ?_
      rintro ⟨-, hbad'⟩
      cases hbad.symm.trans hbad'
    simp only [WiFiConnection.onDataReceived, WiFiTransport.onDataReceived, hbad]
    exact h.other hkind rfl rfl rfl rfl

/-- The reconnect timer fires. All it changes is the delay. -/
theorem reconnectTimeout_eq {c : WiFiConnection} (hrefuses : c.refusesConnect = true) :
    c.reconnectTimeout =
      { c with
          reconnectTimer := none
          reconnectDelaySeconds := max 1 (min (c.reconnectDelaySeconds * 2) 16) } :=
  if_pos hrefuses

theorem Tracks.reconnectTimeout {tr : List ConnectionStep} {c : WiFiConnection} (h : Tracks tr c)
    (htimer : c.reconnectTimer.isSome) {x : ConnectionStep} (hkind : kindOf x = .fires) :
    Tracks (tr ++ [x]) c.reconnectTimeout := by
  rw [reconnectTimeout_eq (h.refusesConnect htimer)]
  refine ⟨?_, ?_, nofun⟩
  · simp [hkind, h.auto]
  · have hdelay := h.delay
    have hpos : 0 < 2 ^ firings tr := Nat.two_pow_pos _
    simp only [firings_append_singleton, hkind, Nat.pow_succ]
    omega

/-- An event that nothing is there for does nothing. -/
theorem Tracks.same {tr : List ConnectionStep} {c c' : WiFiConnection} (h : Tracks tr c)
    (hsame : c' = c) {x : ConnectionStep} (hkind : kindOf x = .other) : Tracks (tr ++ [x]) c' := by
  rw [hsame]
  exact h.other hkind rfl rfl rfl rfl

theorem tracks_step (tr : List ConnectionStep) (c : WiFiConnection) (e : ConnectionEvent)
    (h : Tracks tr c) :
    Tracks (tr ++ [connectionMachine.entry c e]) (connectionMachine.step c e).1 := by
  -- `kindOf` reads the event and the state before it, so the entry itself can stay abstract.
  generalize hx : connectionMachine.entry c e = x
  have hevent : x.event = e := by rw [← hx]; rfl
  have hbefore : x.before = c := by rw [← hx]; rfl
  cases e with
  | connect =>
    rw [← hx]
    exact h.connect
  | connected =>
    simp only [connectionMachine]
    split
    · rename_i hpending
      exact h.same rfl (by simp [kindOf, hevent, hbefore, hpending])
    · rename_i hpending
      exact h.connected (by simp [kindOf, hevent, hbefore, hpending]) _
  | connectFailed =>
    simp only [connectionMachine]
    split
    · rename_i hpending
      exact h.same rfl (by simp [kindOf, hevent, hbefore, hpending])
    · rename_i hpending
      have hkind : kindOf x = .attemptFails := by simp [kindOf, hevent, hbefore, hpending]
      exact h.drop (.inr hkind) { c with pendingConnects := c.pendingConnects - 1 } rfl rfl _
  | data data =>
    simp only [connectionMachine]
    split
    · rename_i hlisteners
      exact h.same rfl (by simp [kindOf, hevent, hbefore, hlisteners])
    · rename_i hlisteners
      rw [← hx]
      exact h.data hlisteners data
  | socketError | socketDone =>
    have hkind : kindOf x = .other := by simp [kindOf, hevent]
    simp only [connectionMachine]
    split
    · exact h.same rfl hkind
    · exact h.drop (.inl hkind) { c with listeners := c.listeners - 1 } rfl rfl _
  | heartbeat =>
    have hkind : kindOf x = .other := by simp [kindOf, hevent]
    simp only [connectionMachine, WiFiConnection.heartbeat]
    split
    · split
      · exact h.sendFrame hkind _ _
      · exact h.same rfl hkind
    · exact h.same rfl hkind
  | inactivityTimeout =>
    have hkind : kindOf x = .other := by simp [kindOf, hevent]
    simp only [connectionMachine, WiFiConnection.inactivityTimeout]
    split
    · split
      · exact h.drop (.inl hkind) { c with inactivityTimer := false } rfl rfl _
      · exact h.other hkind rfl rfl rfl rfl
    · exact h.same rfl hkind
  | reconnectTimeout =>
    simp only [connectionMachine]
    split
    · rename_i htimer
      exact h.reconnectTimeout htimer (by simp [kindOf, hevent, hbefore, htimer])
    · rename_i htimer
      exact h.same rfl (by simp [kindOf, hevent, hbefore, htimer])
  | send messageType payload =>
    exact h.sendFrame (by simp [kindOf, hevent]) messageType payload
  | disconnect => exact h.disconnect (by simp [kindOf, hevent]) rfl rfl rfl

theorem tracks_trace (useTls : Bool) (es : List ConnectionEvent) :
    Tracks (connectionMachine.trace { useTls := useTls } es)
      (connectionMachine.run { useTls := useTls } es) :=
  connectionMachine.history_invariant (tracks_start useTls)
    (fun tr c e h _ => tracks_step tr c e h) (connectionMachine.along_true _ es)

/-! ### The two halves of the duty -/

/-- The timer is set for a reason, but it starts no attempt. -/
theorem Tracks.fires {tr : List ConnectionStep} {c : WiFiConnection} (h : Tracks tr c)
    {e : ConnectionEvent} (hfires : kindOf (connectionMachine.entry c e) = .fires) :
    InService tr ∧ ¬ StartsAttempt (connectionMachine.entry c e) := by
  obtain ⟨rfl, hset⟩ : e = .reconnectTimeout ∧ c.reconnectTimer.isSome := kindOf_eq_fires hfires
  obtain ⟨hauto, hstate⟩ := h.timer hset
  have hafter : (connectionMachine.entry c .reconnectTimeout).after.transport = c.transport := by
    show (if c.reconnectTimer.isSome then c.reconnectTimeout else c).transport = c.transport
    rw [if_pos hset, reconnectTimeout_eq (h.refusesConnect hset)]
  refine ⟨h.auto.mp hauto, ?_⟩
  unfold StartsAttempt
  rw [hafter]
  rcases hstate with hstate | hstate <;> rw [hstate] <;> decide

/-- A failed attempt sets the timer. -/
theorem Tracks.attemptFails {tr : List ConnectionStep} {c : WiFiConnection} (h : Tracks tr c)
    (hservice : InService tr) {e : ConnectionEvent}
    (hfails : kindOf (connectionMachine.entry c e) = .attemptFails) :
    (connectionMachine.entry c e).after.reconnectTimer = some (min (2 ^ firings tr) 16) := by
  obtain ⟨rfl, hpending⟩ : e = .connectFailed ∧ c.pendingConnects ≠ 0 :=
    kindOf_eq_attemptFails hfails
  have hafter : (connectionMachine.entry c .connectFailed).after
      = { c with pendingConnects := c.pendingConnects - 1 }.dropConnection .errorState := by
    show (if c.pendingConnects = 0 then (c, ({} : ConnectionOutput)) else _).1 = _
    rw [if_neg hpending]
    rfl
  rw [hafter, dropConnection_eq, if_pos (h.auto.mpr hservice)]
  exact congrArg some h.delay

/-- Auto-reconnect does its duty exactly in the runs in which the timer does not fire. -/
theorem autoReconnects_iff (useTls : Bool) (es : List ConnectionEvent) :
    AutoReconnects (connectionMachine.trace { useTls := useTls } es) ↔
      ∀ x ∈ connectionMachine.trace { useTls := useTls } es, kindOf x ≠ .fires := by
  constructor
  · intro hduty x hx hfires
    obtain ⟨pre, post, htrace⟩ := List.append_of_mem hx
    obtain ⟨es₁, e, es₂, -, rfl, rfl, -⟩ := connectionMachine.trace_split htrace
    obtain ⟨hservice, hnot⟩ := (tracks_trace useTls es₁).fires hfires
    exact hnot ((hduty _ _ _ htrace hservice).1 hfires)
  · intro hquiet pre x post htrace hservice
    refine ⟨fun hfires => absurd hfires (hquiet x (by simp [htrace])), fun hfails => ?_⟩
    obtain ⟨es₁, e, es₂, -, rfl, rfl, -⟩ := connectionMachine.trace_split htrace
    exact (tracks_trace useTls es₁).attemptFails hservice hfails

/-- The first attempt fails, the timer fires after its second, and the state stays
`reconnecting`. -/
theorem autoReconnects_firstTimer :
    ¬ AutoReconnects
      (connectionMachine.trace {} [.connect, .connectFailed, .reconnectTimeout]) := by
  intro hduty
  have hservice : InService (connectionMachine.trace {} [.connect, .connectFailed]) :=
    (tracks_trace true [.connect, .connectFailed]).auto.mp rfl
  obtain ⟨hstarts, -⟩ := hduty _ _ [] rfl hservice
  have hstuck : ¬ StartsAttempt (connectionMachine.entry
      (connectionMachine.run {} [.connect, .connectFailed]) .reconnectTimeout) := by
    unfold StartsAttempt
    decide
  exact hstuck (hstarts rfl)

end MobileUnlock.Android
