import MobileUnlock.Proofs.Pairing

/-!
# `MobileUnlock.Proofs.PinSoundness`: a PIN pairs the client that asked for it

`SessionHistory` relates the trace so far to the waiting sessions of the manager: each of them
was opened by a request of its client, nothing has interrupted it since, and its attempts are
the confirmations since. Every step keeps the relation (`sessionHistory_step`). The first part
of `pairConfirm_sound` reads it off at the step that answers PAIR_COMPLETE.

The second part counts. `guessBudget` is the number of guesses a client has left, and
`completionBudget` the number of pairings it can complete. Every step other than a request of
the client pays for what it does out of these.
-/

set_option autoImplicit false

namespace MobileUnlock.Pairing

open MobileUnlock.Lib MobileUnlock.Lib.Win32 MobileUnlock.Protocol

/-- A PAIR_REQUEST of client `c`. -/
def isRequest (c : UInt64) (x : PairingEntry) : Bool :=
  match x.event with
  | .pairRequest clientId _ _ _ => clientId = c
  | _ => false

/-- A PAIR_CONFIRM of client `c`. -/
def isConfirm (c : UInt64) (x : PairingEntry) : Bool :=
  match x.event with
  | .pairConfirm clientId _ _ => clientId = c
  | _ => false

/-- A PAIR_CONFIRM of client `c` that is answered with PAIR_COMPLETE. -/
def isCompletion (c : UInt64) (x : PairingEntry) : Bool :=
  isConfirm c x && replyType x == some .PAIR_COMPLETE

/-- A PAIR_CONFIRM of client `c` that meets a waiting session. -/
def isGuess (c : UInt64) (x : PairingEntry) : Bool :=
  isConfirm c x && x.output != some noSessionReply

/-- The session of client `c` is cancelled. -/
def isCancel (c : UInt64) (x : PairingEntry) : Bool :=
  match x.event with
  | .cancelSession clientId => clientId = c
  | _ => false

/-- An expiry that removes the session of client `c`. -/
def isExpiry (c : UInt64) (x : PairingEntry) : Bool :=
  match x.event with
  | .expireSessions _ =>
    (x.before.manager.sessions c).isSome && (x.after.manager.sessions c).isNone
  | _ => false

/-- What ends the use of a PIN of client `c`. -/
def interrupts (c : UInt64) (x : PairingEntry) : Bool :=
  isRequest c x || isCancel c x || isExpiry c x || isCompletion c x

/-- Of the confirmations only the completions interrupt. -/
theorem interrupts_pairConfirm (c clientId : UInt64) (s : PairingWorld) (payload : Bytes)
    (env : PairConfirmEnv) :
    interrupts c (pairingMachine.entry s (.pairConfirm clientId payload env))
      = isCompletion c (pairingMachine.entry s (.pairConfirm clientId payload env)) := rfl

/-- Of the expiries only the removals interrupt. -/
theorem interrupts_expireSessions (c : UInt64) (s : PairingWorld) (now : UInt64 → FILETIME) :
    interrupts c (pairingMachine.entry s (.expireSessions now))
      = isExpiry c (pairingMachine.entry s (.expireSessions now)) :=
  Bool.or_false _

/-! ### Where a waiting session comes from -/

/-- The session was opened in the trace by a request of `c`, has not been interrupted since,
and has one attempt for each confirmation since. -/
def OpenedIn (tr : List PairingEntry) (c : UInt64) (session : PairingSession) : Prop :=
  ∃ before r between clientIp request env, tr = before ++ r :: between ∧
    r.event = .pairRequest c clientIp request env ∧ replyType r = some .PAIR_RESPONSE ∧
    (∀ y ∈ between, interrupts c y = false) ∧
    session = { openSession (parsePairRequest request) c clientIp (generateSasPin env.rng)
      env.generatedNow with sasAttempts := between.countP (isConfirm c) }

/-- Every waiting session was opened in the trace. -/
def SessionHistory (tr : List PairingEntry) (s : PairingWorld) : Prop :=
  ∀ c session, s.manager.sessions c = some session → session.state = .WAITING_FOR_SAS →
    OpenedIn tr c session

/-- A step that does not interrupt adds itself to the history, and its attempt if it is a
confirmation. -/
theorem OpenedIn.snoc {tr : List PairingEntry} {c : UInt64} {session session' : PairingSession}
    {x : PairingEntry} (h : OpenedIn tr c session) (hx : interrupts c x = false)
    (hsession : session'
      = { session with sasAttempts := session.sasAttempts + (isConfirm c x).toNat }) :
    OpenedIn (tr ++ [x]) c session' := by
  obtain ⟨before, r, between, clientIp, request, env, htr, hr, hreply, hbetween, hs⟩ := h
  refine ⟨before, r, between ++ [x], clientIp, request, env, ?_, hr, hreply, ?_, ?_⟩
  · rw [htr, List.append_assoc, List.cons_append]
  · exact List.forall_mem_append.mpr ⟨hbetween, List.forall_mem_singleton.mpr hx⟩
  · rw [hsession, hs, List.countP_append, List.countP_singleton]
    cases isConfirm c x <;> rfl

/-- A session that a step of somebody else leaves alone keeps its history. -/
theorem OpenedIn.snoc_same {tr : List PairingEntry} {c : UInt64} {session : PairingSession}
    {x : PairingEntry} (h : OpenedIn tr c session) (hx : interrupts c x = false)
    (hconfirm : isConfirm c x = false) : OpenedIn (tr ++ [x]) c session :=
  h.snoc hx (by rw [hconfirm]; rfl)

theorem sessionHistory_step (tr : List PairingEntry) (s : PairingWorld) (e : PairingEvent)
    (h : SessionHistory tr s) :
    SessionHistory (tr ++ [pairingMachine.entry s e]) (pairingMachine.step s e).1 := by
  intro c session hs hwait
  cases e with
  | pairRequest clientId clientIp payload env =>
    by_cases hc : c = clientId
    · -- The request of `c` itself: the session is new.
      subst hc
      obtain ⟨rfl, hreply, -⟩ := handlePairRequest_session hs
      refine ⟨tr, _, [], clientIp, payload, env, rfl, rfl, ?_, by simp, rfl⟩
      exact congrArg some hreply
    · have hold : s.manager.sessions c = some session := by
        rw [← handlePairRequest_sessions_ne hc]
        exact hs
      exact (h c session hold hwait).snoc_same
        (by simp [interrupts, isRequest, isCancel, isExpiry, isCompletion, isConfirm,
          Machine.entry, Ne.symm hc]) rfl
  | pairConfirm clientId payload env =>
    by_cases hc : c = clientId
    · -- A confirmation of `c` that leaves the session waiting is one more attempt.
      subst hc
      obtain ⟨old, hold, holdwait, hnew, -, hreply⟩ := handlePairConfirm_waiting hs hwait
      have hconfirm : isConfirm c (pairingMachine.entry s (.pairConfirm c payload env)) = true := by
        simp [isConfirm, Machine.entry]
      refine (h c old hold holdwait).snoc ?_ (by rw [hconfirm]; exact hnew)
      have hcomplete : replyType (pairingMachine.entry s (.pairConfirm c payload env))
          ≠ some .PAIR_COMPLETE := by
        intro htype
        exact hreply (Option.some.inj htype)
      rw [interrupts_pairConfirm, isCompletion, beq_eq_false_iff_ne.mpr hcomplete, Bool.and_false]
    · have hold : s.manager.sessions c = some session := by
        rw [← handlePairConfirm_sessions_ne hc]
        exact hs
      have hconfirm : isConfirm c (pairingMachine.entry s (.pairConfirm clientId payload env))
          = false := by
        simp [isConfirm, Machine.entry, Ne.symm hc]
      exact (h c session hold hwait).snoc_same
        (by rw [interrupts_pairConfirm, isCompletion, hconfirm, Bool.false_and]) hconfirm
  | cancelSession clientId =>
    obtain ⟨hold, hc⟩ := clearSession_session hs
    exact (h c session hold hwait).snoc_same
      (by simp [interrupts, isRequest, isCancel, isExpiry, isCompletion, isConfirm,
        Machine.entry, Ne.symm hc]) rfl
  | expireSessions now =>
    have hold : s.manager.sessions c = some session := expireStaleSessions_session hs
    refine (h c session hold hwait).snoc_same ?_ rfl
    -- The session is still there, so this expiry was none of its own.
    have hafter : (pairingMachine.entry s (.expireSessions now)).after.manager.sessions c
        = some session := hs
    rw [interrupts_expireSessions]
    show ((s.manager.sessions c).isSome && Option.isNone _) = false
    rw [hafter, Option.isNone_some, Bool.and_false]
  | unpairRequest clientId payload acc => exact (h c session hs hwait).snoc_same rfl rfl
  | revokeDevice deviceIdStr acc => exact (h c session hs hwait).snoc_same rfl rfl
  | deleteDevice deviceIdStr acc => exact (h c session hs hwait).snoc_same rfl rfl

theorem sessionHistory_run (reg : Registry) (es : List PairingEvent) :
    SessionHistory (pairingMachine.trace { registry := reg } es)
      (pairingMachine.run { registry := reg } es) := by
  refine pairingMachine.history_invariant (C := fun _ _ => True) ?_ ?_
    (pairingMachine.along_true _ _)
  · intro c session hs
    cases hs
  · intro tr s e h _
    exact sessionHistory_step tr s e h

/-- A confirmation that is answered with PAIR_COMPLETE stores the record of a session, and the
history of the session names its request. -/
theorem completion_history {reg : Registry} {es : List PairingEvent} {pre : List PairingEntry}
    {x : PairingEntry} {post : List PairingEntry}
    (htrace : pairingMachine.trace { registry := reg } es = pre ++ x :: post) {c : UInt64}
    {payload : Bytes} {env : PairConfirmEnv} (hx : x.event = .pairConfirm c payload env)
    (hreply : replyType x = some .PAIR_COMPLETE) :
    ∃ session, acceptedSession x.before.manager c payload env = some session ∧
      OpenedIn pre c session ∧
      writeDeviceRecord env.writeAccess x.before.registry
          (confirmedRecord session env.accountSid env.pairedNow)
        = (ERROR_SUCCESS, x.after.registry) := by
  obtain ⟨es₁, e, es₂, -, rfl, rfl, -⟩ := pairingMachine.trace_split htrace
  change e = _ at hx
  subst hx
  obtain ⟨session, haccepted, hwrite, -⟩ := handlePairConfirm_complete (Option.some.inj hreply)
  obtain ⟨hs, hwait, -, -⟩ := acceptedSession_eq_some.mp haccepted
  exact ⟨session, haccepted, sessionHistory_run reg es₁ c session hs hwait, hwrite⟩

/-! ### How often a PIN can be used -/

/-- The guesses a client has left: three for a session without attempts. -/
def guessesLeft : Option PairingSession → Nat
  | some session =>
    if session.state = .WAITING_FOR_SAS then 1 + (2 - session.sasAttempts) else 0
  | none => 0

/-- The pairings a client can complete without a new request. -/
def completionsLeft : Option PairingSession → Nat
  | some session => if session.state = .WAITING_FOR_SAS then 1 else 0
  | none => 0

theorem guessesLeft_waiting {session : PairingSession} (h : session.state = .WAITING_FOR_SAS) :
    guessesLeft (some session) = 1 + (2 - session.sasAttempts) := if_pos h

theorem completionsLeft_waiting {session : PairingSession}
    (h : session.state = .WAITING_FOR_SAS) : completionsLeft (some session) = 1 := if_pos h

/-- What a step takes from client `c` is covered by what the client had left. -/
def Paid (c : UInt64) (x : PairingEntry) : Prop :=
  (isGuess c x).toNat + guessesLeft (x.after.manager.sessions c)
      ≤ guessesLeft (x.before.manager.sessions c) ∧
    (isCompletion c x).toNat + completionsLeft (x.after.manager.sessions c)
      ≤ completionsLeft (x.before.manager.sessions c)

/-- A step that takes nothing and leaves the session alone is paid. -/
theorem paid_of_same {c : UInt64} {x : PairingEntry} (hconfirm : isConfirm c x = false)
    (hs : x.after.manager.sessions c = x.before.manager.sessions c) : Paid c x := by
  unfold Paid isGuess isCompletion
  rw [hconfirm, hs]
  simp

/-- A step that takes nothing and drops the session is paid. -/
theorem paid_of_dropped {c : UInt64} {x : PairingEntry} (hconfirm : isConfirm c x = false)
    (hs : x.after.manager.sessions c = none) : Paid c x := by
  unfold Paid isGuess isCompletion
  rw [hconfirm, hs]
  simp [guessesLeft, completionsLeft]

/-- A waiting session that is dropped pays for one guess and one pairing. -/
theorem paid_by_dropped {m m' : PairingManager} {c : UInt64} {session : PairingSession}
    (hs : m.sessions c = some session) (hstate : session.state = .WAITING_FOR_SAS)
    (hm' : m'.sessions = (m.clearSession c).sessions) {guess done : Nat} (hguess : guess ≤ 1)
    (hdone : done ≤ 1) :
    guess + guessesLeft (m'.sessions c) ≤ guessesLeft (m.sessions c) ∧
      done + completionsLeft (m'.sessions c) ≤ completionsLeft (m.sessions c) := by
  rw [hm', PairingManager.clearSession_self, hs, guessesLeft_waiting hstate,
    completionsLeft_waiting hstate]
  simp only [guessesLeft, completionsLeft]
  omega

/-- A confirmation is paid by the waiting session it meets. -/
theorem handlePairConfirm_paid (m : PairingManager) (reg : Registry) (c : UInt64)
    (payload : Bytes) (env : PairConfirmEnv) :
    ((handlePairConfirm m reg c payload env).2.2 != noSessionReply).toNat
        + guessesLeft ((handlePairConfirm m reg c payload env).1.sessions c)
        ≤ guessesLeft (m.sessions c) ∧
      ((handlePairConfirm m reg c payload env).2.2.responseType == .PAIR_COMPLETE).toNat
        + completionsLeft ((handlePairConfirm m reg c payload env).1.sessions c)
        ≤ completionsLeft (m.sessions c) := by
  have hcase := handlePairConfirm_case m reg c payload env
  generalize handlePairConfirm m reg c payload env = out at hcase
  have hguess := Bool.toNat_le (out.2.2 != noSessionReply)
  have hdone := Bool.toNat_le (out.2.2.responseType == MessageType.PAIR_COMPLETE)
  have herror : ∀ code message callbacks,
      ((protoError code message callbacks).responseType == MessageType.PAIR_COMPLETE).toNat = 0 :=
    fun _ _ _ => rfl
  cases hcase with
  | noSession =>
    rw [herror, show (protoError .UNAUTHORIZED "No active pairing session" != noSessionReply).toNat
      = 0 from by rw [noSessionReply, bne_self_eq_false]; rfl]
    simp
  | malformed hno session hs hstate m' hm' =>
    dsimp only at hguess
    rw [herror, hm', PairingManager.setSession_self, hs, guessesLeft_waiting hstate,
      completionsLeft_waiting hstate]
    dsimp only [countAttempt, guessesLeft, completionsLeft]
    -- A malformed confirmation costs an attempt. At the third one the session stops waiting.
    by_cases hmax : session.sasAttempts + 1 ≥ SAS_MAX_ATTEMPTS
    · have hmax' : 3 ≤ session.sasAttempts + 1 := hmax
      simp only [if_pos hmax]
      rw [if_neg (by simp), if_neg (by simp)]
      omega
    · simp only [if_neg hmax, if_pos hstate]
      have hmax' : session.sasAttempts + 1 < 3 := Nat.lt_of_not_le hmax
      omega
  | wrongPin hno session hs hstate hmore m' hm' =>
    dsimp only at hguess
    rw [herror, hm', PairingManager.setSession_self, hs, guessesLeft_waiting hstate,
      completionsLeft_waiting hstate]
    -- A wrong PIN costs an attempt, too.
    have hmore' : session.sasAttempts + 1 < 3 := hmore
    simp only [guessesLeft, completionsLeft, if_pos hstate]
    omega
  | closed hno session hs hstate reason hreason m' hm' =>
    exact paid_by_dropped hs hstate hm' hguess hdone
  | stored session hs herr m' hm' =>
    obtain ⟨hs', hstate, -⟩ := acceptedSession_eq_some.mp hs
    exact paid_by_dropped hs' hstate hm' hguess hdone
  | writeFailed session hs herr m' hm' =>
    obtain ⟨hs', hstate, -⟩ := acceptedSession_eq_some.mp hs
    exact paid_by_dropped hs' hstate hm' hguess hdone

/-- Every step other than a request of `c` is paid. -/
theorem paid_step (c : UInt64) (s : PairingWorld) (e : PairingEvent)
    (h : isRequest c (pairingMachine.entry s e) = false) : Paid c (pairingMachine.entry s e) := by
  cases e with
  | pairRequest clientId clientIp payload env =>
    have hc : c ≠ clientId := by
      rintro rfl
      simp [isRequest, Machine.entry] at h
    exact paid_of_same rfl (handlePairRequest_sessions_ne hc)
  | pairConfirm clientId payload env =>
    by_cases hc : c = clientId
    · subst hc
      have hconfirm : isConfirm c (pairingMachine.entry s (.pairConfirm c payload env)) = true := by
        simp [isConfirm, Machine.entry]
      obtain ⟨hguess, hdone⟩ := handlePairConfirm_paid s.manager s.registry c payload env
      unfold Paid isGuess isCompletion
      rw [hconfirm, Bool.true_and, Bool.true_and]
      exact ⟨hguess, hdone⟩
    · exact paid_of_same (by simp [isConfirm, Machine.entry, Ne.symm hc])
        (handlePairConfirm_sessions_ne hc)
  | cancelSession clientId =>
    by_cases hc : c = clientId
    · subst hc
      exact paid_of_dropped rfl (s.manager.clearSession_self c)
    · exact paid_of_same rfl (s.manager.clearSession_ne clientId hc)
  | expireSessions now =>
    cases hs : (expireStaleSessions s.manager now).sessions c with
    | none => exact paid_of_dropped rfl hs
    | some session => exact paid_of_same rfl (hs.trans (expireStaleSessions_session hs).symm)
  | unpairRequest clientId payload acc => exact paid_of_same rfl rfl
  | revokeDevice deviceIdStr acc => exact paid_of_same rfl rfl
  | deleteDevice deviceIdStr acc => exact paid_of_same rfl rfl

/-- A run without a request of `c` is paid by what `c` has left at its start. -/
theorem paid_run (c : UInt64) (es : List PairingEvent) (s : PairingWorld)
    (h : ∀ y ∈ pairingMachine.trace s es, isRequest c y = false) :
    (pairingMachine.trace s es).countP (isGuess c) ≤ guessesLeft (s.manager.sessions c) ∧
      (pairingMachine.trace s es).countP (isCompletion c)
        ≤ completionsLeft (s.manager.sessions c) := by
  induction es generalizing s with
  | nil => simp [Machine.trace]
  | cons e es ih =>
    rw [Machine.trace, List.forall_mem_cons] at h
    obtain ⟨hguess, hdone⟩ := paid_step c s e h.1
    obtain ⟨hguesses, hdones⟩ := ih _ h.2
    have hone : ∀ p : PairingEntry → Bool, ∀ x xs,
        (x :: xs).countP p = xs.countP p + (p x).toNat := by
      intro p x xs
      rw [List.countP_cons]
      cases p x <;> rfl
    rw [Machine.trace, hone, hone]
    change _ + guessesLeft ((pairingMachine.step s e).1.manager.sessions c)
      ≤ guessesLeft (s.manager.sessions c) at hguess
    change _ + completionsLeft ((pairingMachine.step s e).1.manager.sessions c)
      ≤ completionsLeft (s.manager.sessions c) at hdone
    omega

/-- After a request of `c` it has at most three guesses and one pairing left. -/
theorem left_of_request (c : UInt64) (s : PairingWorld) (clientIp payload : Bytes)
    (env : PairRequestEnv) :
    guessesLeft ((handlePairRequest s.manager s.registry c clientIp payload env).1.sessions c) ≤ 3 ∧
      completionsLeft ((handlePairRequest s.manager s.registry c clientIp payload env).1.sessions c)
        ≤ 1 := by
  cases hs : (handlePairRequest s.manager s.registry c clientIp payload env).1.sessions c with
  | none => simp [guessesLeft, completionsLeft]
  | some session =>
    obtain ⟨rfl, -⟩ := handlePairRequest_session hs
    simp [guessesLeft, completionsLeft, openSession]

/-- The PIN of a pairing is sound. In every run from the constructor state:

- A confirmation of client `c` that is answered with PAIR_COMPLETE comes after a request of `c`
  that was answered with PAIR_RESPONSE, with no other request, cancellation, expiry removal or
  PAIR_COMPLETE of `c` in between. The submitted PIN is the six digits generated for that
  request, at most 60 seconds before and not after, and fewer than three confirmations of `c`
  have failed since. The record handed to `writeDeviceRecord` is active and has the name and the
  decoded key of that request.
- From a request of `c` to its next one there are at most three guesses and at most one
  PAIR_COMPLETE. -/
theorem pairConfirm_sound (reg : Registry) (es : List PairingEvent) (c : UInt64) :
    (∀ pre x post payload env, pairingMachine.trace { registry := reg } es = pre ++ x :: post →
      x.event = .pairConfirm c payload env → replyType x = some .PAIR_COMPLETE →
      ∃ before r between clientIp request requestEnv record,
        pre = before ++ r :: between ∧
        r.event = .pairRequest c clientIp request requestEnv ∧
        replyType r = some .PAIR_RESPONSE ∧
        (∀ y ∈ between, interrupts c y = false) ∧
        (parsePairConfirm payload).sasPin = generateSasPin requestEnv.rng ∧
        isValidPinFormat (generateSasPin requestEnv.rng) = true ∧
        requestEnv.generatedNow.toU64.toNat ≤ env.validateNow.toU64.toNat ∧
        env.validateNow.toU64.toNat ≤ requestEnv.generatedNow.toU64.toNat + 600000000 ∧
        between.countP (isConfirm c) < 3 ∧
        writeDeviceRecord env.writeAccess x.before.registry record
          = (ERROR_SUCCESS, x.after.registry) ∧
        record.pairStatus = kStatusActive ∧
        record.deviceName = (parsePairRequest request).deviceName ∧
        record.publicKey = (parsePairRequest request).publicKey) ∧
    (∀ before r between after, pairingMachine.trace { registry := reg } es
        = before ++ r :: (between ++ after) →
      isRequest c r = true → (∀ y ∈ between, isRequest c y = false) →
      between.countP (isGuess c) ≤ 3 ∧ between.countP (isCompletion c) ≤ 1) := by
  constructor
  · intro pre x post payload env htrace hx hreply
    obtain ⟨session, haccepted, hopened, hwrite⟩ := completion_history htrace hx hreply
    obtain ⟨-, -, -, hpin⟩ := acceptedSession_eq_some.mp haccepted
    obtain ⟨hattempts, hexpired, hformat, hsame⟩ := validateSasPin_eq_true hpin
    obtain ⟨hpast, hage⟩ := sasPinExpired_eq_false hexpired
    -- The history of the session names the request.
    obtain ⟨before, r, between, clientIp, request, requestEnv, hsplit, hr, hrtype, hbetween, rfl⟩ :=
      hopened
    refine ⟨before, r, between, clientIp, request, requestEnv, _, hsplit, hr, hrtype, hbetween,
      hsame, ?_, hpast, hage, hattempts, hwrite, rfl, rfl, rfl⟩
    rw [hsame] at hformat
    exact hformat
  · intro before r between after htrace hr hbetween
    obtain ⟨es₁, e, es₂, -, -, rfl, hrest⟩ := pairingMachine.trace_split htrace
    obtain ⟨es₃, es₄, -, rfl, -⟩ := pairingMachine.trace_eq_append hrest.symm
    obtain ⟨hguess, hdone⟩ := paid_run c es₃ _ hbetween
    -- Of the events only a request of `c` starts such a stretch.
    cases e with
    | pairRequest clientId clientIp payload env =>
      have hc : clientId = c := by simpa [isRequest, Machine.entry] using hr
      subst hc
      obtain ⟨hg, hd⟩ := left_of_request clientId
        (pairingMachine.run { registry := reg } es₁) clientIp payload env
      exact ⟨Nat.le_trans hguess hg, Nat.le_trans hdone hd⟩
    | pairConfirm | cancelSession | expireSessions | unpairRequest | revokeDevice | deleteDevice =>
      cases hr

/-- A phone that confirms at once: its record is stored, and it has used one of its guesses. -/
theorem pairConfirm_sound_firstGuess :
    (∃ record, writeDeviceRecord RegAccess.ok {} record
        = (ERROR_SUCCESS, (pairingMachine.run {} [phoneRequest 1 49, phoneConfirm 1 49]).registry) ∧
      record.pairStatus = kStatusActive) ∧
    ([pairingMachine.entry (pairingMachine.run {} [phoneRequest 1 49])
      (phoneConfirm 1 49)].countP (isGuess 1) ≤ 3) := by
  obtain ⟨hsound, hcount⟩ := pairConfirm_sound {} [phoneRequest 1 49, phoneConfirm 1 49] 1
  constructor
  · obtain ⟨-, -, -, -, -, -, record, -, -, -, -, -, -, -, -, -, hwrite, hactive, -⟩ :=
      hsound [pairingMachine.entry {} (phoneRequest 1 49)] _ [] (confirmPayload 49) confirmEnv rfl
        rfl (by decide +kernel)
    exact ⟨record, hwrite, hactive⟩
  · exact (hcount [] (pairingMachine.entry {} (phoneRequest 1 49)) _ [] rfl rfl
      (by simp [isRequest, phoneConfirm, Machine.entry])).1

end MobileUnlock.Pairing
