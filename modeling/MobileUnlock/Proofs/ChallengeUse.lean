import MobileUnlock.Proofs.Authentication

/-!
# `MobileUnlock.Proofs.ChallengeUse`: one success per challenge

The slot of a device always holds the challenge of the latest successful request for that
device, and as long as the slot is not consumed no response for the device has succeeded
since (`slot_history`). A successful response finds a slot that is not consumed and leaves
it consumed. So every successful response is matched to the latest successful request of its
device, and no request is matched twice (`authResponse_matched`).

`SlotStep` says once what a step does to a slot. The rest is an induction over runs.
-/

set_option autoImplicit false

namespace MobileUnlock.Authentication

open MobileUnlock.Lib MobileUnlock.Lib.Win32 MobileUnlock.Protocol MobileUnlock.Crypto
open MobileUnlock.Pairing

/-- A step of a run of the manager. -/
abbrev AuthStep := Entry AuthState AuthEvent (Option AuthReply)

/-- The step is a request for `d` that succeeds. -/
def RequestSucceeds (x : AuthStep) (d : DeviceId) : Prop :=
  ∃ hdr out env reply, x.event = .authRequest d hdr out env ∧ x.output = some reply ∧
    reply.result = .SUCCESS

/-- The step is a request for `d` that succeeds and issues the given session id and nonce at
the given time. -/
def Issues (x : AuthStep) (d : DeviceId) (sessionId : UInt64) (nonce : ByteArr 32)
    (createdAt : UInt64) : Prop :=
  ∃ hdr out env reply, x.event = .authRequest d hdr out env ∧ x.output = some reply ∧
    reply.result = .SUCCESS ∧ env.now = createdAt ∧ env.nonce = some nonce ∧
    x.before.manager.sessionCounter = sessionId ∧
    reply.payload
      = challengePayload x.before.manager.serverIdentity ⟨d, sessionId, nonce, createdAt, false⟩

/-- The step is a response at time `t` that succeeds. -/
def ResponseSucceeds (x : AuthStep) (payload : Bytes) (t : UInt64) : Prop :=
  ∃ hdr env reply, x.event = .authResponse hdr payload env ∧ env.now = t ∧
    x.output = some reply ∧ reply.result = .SUCCESS

/-- The step is a response that names `d` and succeeds. -/
def ResponseSucceedsFor (x : AuthStep) (d : DeviceId) : Prop :=
  ∃ payload t msg, ResponseSucceeds x payload t ∧ parseAuthResponse payload = .ok msg ∧
    msg.deviceIdentity = d

/-! ### One step -/

/-- What a step `x` can do to the slot of `d`. -/
inductive SlotStep (d : DeviceId) (x : AuthStep) :
    Option ActiveChallenge → Option ActiveChallenge → Prop
  | keep (slot : Option ActiveChallenge) (hreq : ¬ RequestSucceeds x d)
      (hres : ¬ ResponseSucceedsFor x d) : SlotStep d x slot slot
  | issue (slot : Option ActiveChallenge) (sessionId : UInt64) (nonce : ByteArr 32)
      (createdAt : UInt64) (h : Issues x d sessionId nonce createdAt) :
      SlotStep d x slot (some ⟨d, sessionId, nonce, createdAt, false⟩)
  | consume (ch : ActiveChallenge) (hreq : ¬ RequestSucceeds x d) :
      SlotStep d x (some ch) (some { ch with isConsumed := true })

/-- A step that is not a request is not a successful one. -/
theorem not_requestSucceeds_of_response {x : AuthStep} {hdr : FrameHeader} {payload : Bytes}
    {env : ResponseEnv} (hx : x.event = .authResponse hdr payload env) (d : DeviceId) :
    ¬ RequestSucceeds x d := by
  rintro ⟨_, _, _, _, he, _⟩
  rw [hx] at he
  cases he

/-- A request is not a successful response. -/
theorem not_responseSucceedsFor_of_request {x : AuthStep} {d' : DeviceId}
    {hdr out : FrameHeader} {env : RequestEnv} (hx : x.event = .authRequest d' hdr out env)
    (d : DeviceId) : ¬ ResponseSucceedsFor x d := by
  rintro ⟨_, _, _, ⟨_, _, _, he, _⟩, _⟩
  rw [hx] at he
  cases he

/-- The slot of `d` at a request. -/
theorem slotStep_authRequest (s : AuthState) (d d' : DeviceId) (hdr out : FrameHeader)
    (env : RequestEnv) :
    SlotStep d (authMachine.entry s (.authRequest d' hdr out env))
      (s.manager.activeChallenges (deviceIdToString d))
      ((authMachine.step s (.authRequest d' hdr out env)).1.manager.activeChallenges
        (deviceIdToString d)) := by
  have hres := not_responseSucceedsFor_of_request
    (x := authMachine.entry s (.authRequest d' hdr out env)) rfl d
  have hcase := handleAuthRequest_case s.manager s.registry d' hdr out env
  -- A request that does not succeed is not a successful one for `d`.
  have hfail : (handleAuthRequest s.manager s.registry d' hdr out env).2.result ≠ .SUCCESS →
      ¬ RequestSucceeds (authMachine.entry s (.authRequest d' hdr out env)) d := by
    intro hne
    rintro ⟨_, _, _, reply, _, hout, hsucc⟩
    cases hout
    exact hne hsucc
  show SlotStep d _ _
    ((handleAuthRequest s.manager s.registry d' hdr out env).1.activeChallenges _)
  generalize hr : handleAuthRequest s.manager s.registry d' hdr out env = r at hcase hfail
  cases hcase with
  | limited h => exact .keep _ (hfail (by simp)) hres
  | refused h r hlookup =>
    dsimp only
    rw [AuthenticationManager.isRateLimited_activeChallenges]
    exact .keep _ (hfail (lookupDevice_error_ne hlookup).1) hres
  | noNonce h hn =>
    dsimp only
    rw [AuthenticationManager.isRateLimited_activeChallenges]
    exact .keep _ (hfail (by simp)) hres
  | issued h record hlookup nonce hn m' hslots hlimits =>
    dsimp only
    by_cases hd : d = d'
    · subst hd
      rw [AuthenticationManager.setChallenge_activeChallenges]
      have hout : (authMachine.entry s (.authRequest d hdr out env)).output
          = some (handleAuthRequest s.manager s.registry d hdr out env).2 := rfl
      rw [hr] at hout
      exact .issue _ _ _ _ ⟨hdr, out, env, _, rfl, hout, rfl, rfl, hn, rfl, rfl⟩
    · rw [AuthenticationManager.setChallenge_activeChallenges_ne _ _ _ (by simpa using hd), hslots]
      refine .keep _ ?_ hres
      rintro ⟨_, _, _, _, he, _⟩
      cases he
      exact hd rfl

/-- The slot of `d` at a response. -/
theorem slotStep_authResponse (s : AuthState) (d : DeviceId) (hdr : FrameHeader)
    (payload : Bytes) (env : ResponseEnv) :
    SlotStep d (authMachine.entry s (.authResponse hdr payload env))
      (s.manager.activeChallenges (deviceIdToString d))
      ((authMachine.step s (.authResponse hdr payload env)).1.manager.activeChallenges
        (deviceIdToString d)) := by
  have hreq := not_requestSucceeds_of_response
    (x := authMachine.entry s (.authResponse hdr payload env)) rfl d
  have hcase := handleAuthResponse_case s.manager s.registry hdr payload env
  have hfail : (handleAuthResponse s.manager s.registry hdr payload env).2.2.result ≠ .SUCCESS →
      ¬ ResponseSucceedsFor (authMachine.entry s (.authResponse hdr payload env)) d := by
    intro hne
    rintro ⟨_, _, _, ⟨_, _, reply, _, _, hout, hsucc⟩, _⟩
    cases hout
    exact hne hsucc
  -- A response that names another device is not a success for `d`.
  have hother : ∀ msg, parseAuthResponse payload = .ok msg → d ≠ msg.deviceIdentity →
      ¬ ResponseSucceedsFor (authMachine.entry s (.authResponse hdr payload env)) d := by
    intro msg hp hd
    rintro ⟨_, _, msg', ⟨_, _, _, he, _⟩, hp', hd'⟩
    cases he
    rw [hp] at hp'
    cases hp'
    exact hd hd'.symm
  show SlotStep d _ _
    ((handleAuthResponse s.manager s.registry hdr payload env).1.activeChallenges _)
  generalize handleAuthResponse s.manager s.registry hdr payload env = r at hcase hfail
  cases hcase with
  | invalid r hp =>
    exact .keep _ hreq (hfail (by simp [parseAuthResponse_error hp]))
  | limited msg hp h => exact .keep _ hreq (hfail (by simp))
  | failed msg hp h r hr m' hm' =>
    have hres := hfail (countedFailure_ne hr).1
    dsimp only
    rw [AuthenticationManager.recordFailure_activeChallenges]
    rcases hm' with rfl | ⟨ch, hslot, rfl⟩
    · rw [AuthenticationManager.isRateLimited_activeChallenges]
      exact .keep _ hreq hres
    · by_cases hd : d = msg.deviceIdentity
      · subst hd
        rw [AuthenticationManager.consumeChallenge_activeChallenges, hslot]
        exact .consume ch hreq
      · rw [AuthenticationManager.consumeChallenge_activeChallenges_ne _ _ _ (by simpa using hd),
          AuthenticationManager.isRateLimited_activeChallenges]
        exact .keep _ hreq hres
  | accepted msg hp h record hr ch hslot hfresh hage hsession hnonce hsig =>
    dsimp only
    rw [AuthenticationManager.recordSuccess_activeChallenges]
    by_cases hd : d = msg.deviceIdentity
    · subst hd
      rw [AuthenticationManager.consumeChallenge_activeChallenges, hslot]
      exact .consume ch hreq
    · rw [AuthenticationManager.consumeChallenge_activeChallenges_ne _ _ _ (by simpa using hd),
        AuthenticationManager.isRateLimited_activeChallenges]
      exact .keep _ hreq (hother msg hp hd)

/-- Every step does one of the three things to a slot. -/
theorem slotStep (s : AuthState) (e : AuthEvent) (d : DeviceId) :
    SlotStep d (authMachine.entry s e) (s.manager.activeChallenges (deviceIdToString d))
      ((authMachine.step s e).1.manager.activeChallenges (deviceIdToString d)) := by
  cases e with
  | authRequest d' hdr out env => exact slotStep_authRequest s d d' hdr out env
  | authResponse hdr payload env => exact slotStep_authResponse s d hdr payload env
  | setServerIdentity serverId =>
    refine .keep _ ?_ ?_
    · rintro ⟨_, _, _, _, he, _⟩
      cases he
    · rintro ⟨_, _, _, ⟨_, _, _, he, _⟩, _⟩
      cases he
  | registryChange reg =>
    refine .keep _ ?_ ?_
    · rintro ⟨_, _, _, _, he, _⟩
      cases he
    · rintro ⟨_, _, _, ⟨_, _, _, he, _⟩, _⟩
      cases he

/-- A challenge that is not expired is at most thirty seconds old. -/
theorem challengeExpired_eq_false {ch : ActiveChallenge} {now : UInt64}
    (h : challengeExpired ch now = false) :
    ch.createdAtMs.toNat ≤ now.toNat ∧ now.toNat ≤ ch.createdAtMs.toNat + 30000 := by
  simp only [challengeExpired, Bool.or_eq_false_iff, decide_eq_false_iff_not] at h
  obtain ⟨hle, hage⟩ := h
  have hle' : ch.createdAtMs.toNat ≤ now.toNat := by
    rw [UInt64.lt_iff_toNat_lt] at hle
    omega
  have hsub : (now - ch.createdAtMs).toNat = now.toNat - ch.createdAtMs.toNat :=
    UInt64.toNat_sub_of_le _ _ (by rwa [UInt64.le_iff_toNat_le])
  have httl : (CHALLENGE_TTL_SECONDS * 1000).toNat = 30000 := by decide
  refine ⟨hle', ?_⟩
  rw [gt_iff_lt, UInt64.lt_iff_toNat_lt, hsub, httl] at hage
  omega

/-- A successful response names a device whose slot holds a challenge that is not consumed,
not too old, and has the session id and the nonce of the signed message. -/
theorem responseSucceeds_slot {s : AuthState} {e : AuthEvent} {payload : Bytes} {t : UInt64}
    (h : ResponseSucceeds (authMachine.entry s e) payload t) :
    ∃ msg ch, parseAuthResponse payload = .ok msg ∧
      s.manager.activeChallenges (deviceIdToString msg.deviceIdentity) = some ch ∧
      ch.isConsumed = false ∧ ch.sessionId = msg.sessionID ∧ ch.nonce = msg.nonce ∧
      ch.createdAtMs.toNat ≤ t.toNat ∧ t.toNat ≤ ch.createdAtMs.toNat + 30000 := by
  obtain ⟨hdr, env, reply, he, rfl, hout, hsucc⟩ := h
  change e = .authResponse hdr payload env at he
  subst he
  have hout' : (handleAuthResponse s.manager s.registry hdr payload env).2.2 = reply := by
    simpa [Machine.entry, authMachine] using hout
  have hcase := handleAuthResponse_case s.manager s.registry hdr payload env
  generalize handleAuthResponse s.manager s.registry hdr payload env = r at hcase hout'
  subst hout'
  cases hcase with
  | invalid r hp => simp [parseAuthResponse_error hp] at hsucc
  | limited msg hp h => simp at hsucc
  | failed msg hp h r hr m' hm' => exact absurd hsucc (countedFailure_ne hr).1
  | accepted msg hp h record hr ch hslot hfresh hage hsession hnonce hsig =>
    obtain ⟨hlo, hhi⟩ := challengeExpired_eq_false hage
    exact ⟨msg, ch, hp, hslot, hfresh, hsession.symm, hnonce.symm, hlo, hhi⟩

/-! ### Runs -/

/-- What the trace says about the slots: the challenge in a slot was issued by the latest
successful request for the device, and if it is not consumed, no response for the device has
succeeded since. -/
def SlotHistory (tr : List AuthStep) (s : AuthState) : Prop :=
  ∀ d ch, s.manager.activeChallenges (deviceIdToString d) = some ch →
    ∃ pre y post, tr = pre ++ y :: post ∧ Issues y d ch.sessionId ch.nonce ch.createdAtMs ∧
      (∀ z ∈ post, ¬ RequestSucceeds z d) ∧
      (ch.isConsumed = false → ∀ z ∈ post, ¬ ResponseSucceedsFor z d)

/-- Every step keeps the history of the slots. -/
theorem slotHistory_step (tr : List AuthStep) (s : AuthState) (e : AuthEvent)
    (h : SlotHistory tr s) :
    SlotHistory (tr ++ [authMachine.entry s e]) (authMachine.step s e).1 := by
  intro d ch hch
  have hstep := slotStep s e d
  rw [hch] at hstep
  generalize hold : s.manager.activeChallenges (deviceIdToString d) = old at hstep
  cases hstep with
  | keep _ hreq hres =>
    -- The slot is untouched: the step joins those after the issuing one.
    obtain ⟨pre, y, post, rfl, hy, hpost, hpost'⟩ := h d ch hold
    refine ⟨pre, y, post ++ [authMachine.entry s e], by simp, hy, ?_, ?_⟩
    · exact List.forall_mem_append.mpr ⟨hpost, List.forall_mem_singleton.mpr hreq⟩
    · intro hfresh
      exact List.forall_mem_append.mpr ⟨hpost' hfresh, List.forall_mem_singleton.mpr hres⟩
  | issue _ sessionId nonce createdAt hissue =>
    -- The step itself issues the challenge, and nothing comes after it yet.
    exact ⟨tr, _, [], rfl, hissue, by simp, by simp⟩
  | consume ch' hreq =>
    -- A consumed challenge promises nothing about the responses after it.
    obtain ⟨pre, y, post, rfl, hy, hpost, -⟩ := h d ch' hold
    refine ⟨pre, y, post ++ [authMachine.entry s e], by simp, hy, ?_, by simp⟩
    exact List.forall_mem_append.mpr ⟨hpost, List.forall_mem_singleton.mpr hreq⟩

/-- The history of the slots holds along every run from the constructor state. -/
theorem slotHistory_run (reg : Registry) (es : List AuthEvent) :
    SlotHistory (authMachine.trace { registry := reg } es)
      (authMachine.run { registry := reg } es) :=
  authMachine.history_invariant (C := fun _ _ => True)
    (by intro d ch h; cases h) (fun tr s e h _ => slotHistory_step tr s e h)
    (authMachine.along_true _ _)

/-- A successful response after a run: the latest successful request for its device issued
what was signed, at most thirty seconds ago, and no response for the device has succeeded
since. -/
theorem responseSucceeds_history {reg : Registry} {es : List AuthEvent} {e : AuthEvent}
    {payload : Bytes} {t : UInt64}
    (h : ResponseSucceeds (authMachine.entry (authMachine.run { registry := reg } es) e)
      payload t) :
    ∃ msg createdAt pre y post, parseAuthResponse payload = .ok msg ∧
      authMachine.trace { registry := reg } es = pre ++ y :: post ∧
      Issues y msg.deviceIdentity msg.sessionID msg.nonce createdAt ∧
      (∀ z ∈ post, ¬ RequestSucceeds z msg.deviceIdentity) ∧
      (∀ z ∈ post, ¬ ResponseSucceedsFor z msg.deviceIdentity) ∧
      createdAt.toNat ≤ t.toNat ∧ t.toNat ≤ createdAt.toNat + 30000 := by
  obtain ⟨msg, ch, hp, hslot, hfresh, hsid, hnonce, hlo, hhi⟩ := responseSucceeds_slot h
  obtain ⟨pre, y, post, htr, hy, hpost, hpost'⟩ :=
    slotHistory_run reg es msg.deviceIdentity ch hslot
  rw [hsid, hnonce] at hy
  exact ⟨msg, ch.createdAtMs, pre, y, post, hp, htr, hy, hpost, hpost' hfresh, hlo, hhi⟩

/-- The device of a step that issues a challenge. -/
theorem Issues.device_unique {x : AuthStep} {d d' : DeviceId} {sid sid' : UInt64}
    {nonce nonce' : ByteArr 32} {t t' : UInt64} (h : Issues x d sid nonce t)
    (h' : Issues x d' sid' nonce' t') : d = d' := by
  obtain ⟨_, _, _, _, he, _⟩ := h
  obtain ⟨_, _, _, _, he', _⟩ := h'
  rw [he] at he'
  cases he'
  rfl

/-- The request at index `j` of a trace is the one that the response at index `i` answers. -/
def Answers (tr : List AuthStep) (i j : Nat) : Prop :=
  ∀ x payload t, tr[i]? = some x → ResponseSucceeds x payload t →
    ∃ msg createdAt y, parseAuthResponse payload = .ok msg ∧ j < i ∧ tr[j]? = some y ∧
      Issues y msg.deviceIdentity msg.sessionID msg.nonce createdAt ∧
      (∀ k z, j < k → k < i → tr[k]? = some z → ¬ RequestSucceeds z msg.deviceIdentity) ∧
      createdAt.toNat ≤ t.toNat ∧ t.toNat ≤ createdAt.toNat + 30000

/-- Every index of a trace has a request that it answers, with no other successful response
for the device in between. -/
theorem exists_answers (reg : Registry) (es : List AuthEvent) (i : Nat) :
    ∃ j, Answers (authMachine.trace { registry := reg } es) i j ∧
      ∀ x payload t msg, (authMachine.trace { registry := reg } es)[i]? = some x →
        ResponseSucceeds x payload t → parseAuthResponse payload = .ok msg →
        ∀ k z, j < k → k < i → (authMachine.trace { registry := reg } es)[k]? = some z →
          ¬ ResponseSucceedsFor z msg.deviceIdentity := by
  by_cases hsucc : ∃ x payload t, (authMachine.trace { registry := reg } es)[i]? = some x ∧
      ResponseSucceeds x payload t
  · obtain ⟨x, payload, t, hx, hres⟩ := hsucc
    have hx' := hx
    rw [Machine.trace_getElem?, Option.map_eq_some_iff] at hx'
    obtain ⟨e, he, rfl⟩ := hx'
    obtain ⟨msg, createdAt, pre, y, post, hp, htr, hy, hreq, hno, hlo, hhi⟩ :=
      responseSucceeds_history hres
    have hi : i < es.length := by
      by_contra hge
      rw [List.getElem?_eq_none (by omega)] at he
      cases he
    have hlen : pre.length + 1 + post.length = i := by
      have := congrArg List.length htr
      rw [Machine.length_trace, List.length_take, List.length_append, List.length_cons] at this
      omega
    -- The trace up to `i` is `pre ++ y :: post`.
    have hget : ∀ k, k < i → (authMachine.trace { registry := reg } es)[k]?
        = (pre ++ y :: post)[k]? := by
      intro k hk
      rw [← htr, ← Machine.trace_take, List.getElem?_take_of_lt hk]
    have hpost : ∀ k z, pre.length < k → k < i →
        (authMachine.trace { registry := reg } es)[k]? = some z → z ∈ post := by
      intro k z hk hki hz
      rw [hget k hki, List.getElem?_append_right (by omega)] at hz
      obtain ⟨n, hn⟩ := Nat.exists_eq_add_of_lt hk
      rw [show k - pre.length = n + 1 by omega, List.getElem?_cons_succ] at hz
      exact List.mem_of_getElem? hz
    -- Two readings of the same entry agree.
    have hsame : ∀ x' payload' t',
        (authMachine.trace { registry := reg } es)[i]? = some x' →
        ResponseSucceeds x' payload' t' → payload' = payload ∧ t' = t := by
      intro x' payload' t' hx' hres'
      rw [hx] at hx'
      cases hx'
      obtain ⟨hdr, env, _, hev, rfl, _⟩ := hres
      obtain ⟨hdr', env', _, hev', rfl, _⟩ := hres'
      rw [hev] at hev'
      cases hev'
      exact ⟨rfl, rfl⟩
    refine ⟨pre.length, ?_, ?_⟩
    · intro x' payload' t' hx' hres'
      obtain ⟨rfl, rfl⟩ := hsame x' payload' t' hx' hres'
      refine ⟨msg, createdAt, y, hp, by omega, ?_, hy, ?_, hlo, hhi⟩
      · rw [hget _ (by omega), List.getElem?_append_right (Nat.le_refl _), Nat.sub_self]
        rfl
      · intro k z hk hki hz
        exact hreq z (hpost k z hk hki hz)
    · intro x' payload' t' msg' hx' hres' hp' k z hk hki hz
      obtain ⟨rfl, rfl⟩ := hsame x' payload' t' hx' hres'
      rw [hp] at hp'
      cases hp'
      exact hno z (hpost k z hk hki hz)
  · refine ⟨0, ?_, ?_⟩
    · intro x payload t hx hres
      exact absurd ⟨x, payload, t, hx, hres⟩ hsucc
    · intro x payload t msg hx hres
      exact absurd ⟨x, payload, t, hx, hres⟩ hsucc

/-- One success per challenge. In every run from the constructor state, over any registry
and with any events in between, every response that succeeds can be matched to an earlier
request for its device that succeeded. That request issued the signed session id and nonce
and is the latest successful one for the device, the response comes at most thirty seconds
after it, and no two successful responses are matched to the same request. -/
theorem authResponse_matched (reg : Registry) (es : List AuthEvent) :
    ∃ f : Nat → Nat,
      (∀ i, Answers (authMachine.trace { registry := reg } es) i (f i)) ∧
      ∀ i j x y payload t payload' t',
        (authMachine.trace { registry := reg } es)[i]? = some x →
        ResponseSucceeds x payload t →
        (authMachine.trace { registry := reg } es)[j]? = some y →
        ResponseSucceeds y payload' t' → f i = f j → i = j := by
  choose f hf hno using exists_answers reg es
  refine ⟨f, hf, ?_⟩
  -- The later of two responses with one request would have the earlier one in between.
  have hlt : ∀ i j x y payload t payload' t',
      (authMachine.trace { registry := reg } es)[i]? = some x → ResponseSucceeds x payload t →
      (authMachine.trace { registry := reg } es)[j]? = some y → ResponseSucceeds y payload' t' →
      f i = f j → ¬ i < j := by
    intro i j x y payload t payload' t' hx hresx hy hresy hfij hij
    obtain ⟨msg, _, z, hp, hji, hz, hiss, _⟩ := hf i x payload t hx hresx
    obtain ⟨msg', _, z', hp', _, hz', hiss', _⟩ := hf j y payload' t' hy hresy
    have hzz : z = z' := by
      rw [hfij, hz', Option.some.injEq] at hz
      exact hz.symm
    subst hzz
    have hd := Issues.device_unique hiss hiss'
    exact hno j y payload' t' msg' hy hresy hp' i x (by omega) hij hx
      ⟨payload, t, msg, hresx, hp, hd⟩
  intro i j x y payload t payload' t' hx hresx hy hresy hfij
  have h1 := hlt i j x y payload t payload' t' hx hresx hy hresy hfij
  have h2 := hlt j i y x payload' t' payload t hy hresy hx hresx hfij.symm
  omega

end MobileUnlock.Authentication
