import MobileUnlock.Proofs.PairingFlow

/-!
# `MobileUnlock.Proofs.SessionStore`: which sessions are stored

Between two operations every stored session should be one that still waits for its PIN, and a
session that has ended should be gone. One exit of `handlePairConfirm` breaks this: a malformed
confirmation that uses up the last attempt marks the session as failed and leaves it in the map,
with its PIN.

`storeKept_iff` settles every step of the machine from a sound store, and `sessionStore_iff` gives
the runs in which all is well: exactly those in which no malformed confirmation meets a session at
its last attempt.
-/

set_option autoImplicit false

namespace MobileUnlock.Pairing

open MobileUnlock.Lib MobileUnlock.Lib.Win32 MobileUnlock.Protocol

/-- What a session stored under `c` should be: waiting, with attempts left and its six digits. -/
structure SessionSound (c : UInt64) (session : PairingSession) : Prop where
  waiting : session.state = .WAITING_FOR_SAS
  attempts : session.sasAttempts < SAS_MAX_ATTEMPTS
  pin : isValidPinFormat session.sasPin = true
  owner : session.sessionClientId = c

def StoreSound (m : PairingManager) : Prop :=
  ∀ c session, m.sessions c = some session → SessionSound c session

/-- Whether a confirmation ends a waiting session. A malformed one does so at the last attempt. A
well-formed one does so with the right PIN, whether or not the record can be written, and with a
wrong one when the PIN has expired or the attempts are used up. -/
def confirmEnds (session : PairingSession) (payload : Bytes) (env : PairConfirmEnv) : Bool :=
  let conf := parsePairConfirm payload
  if ¬ conf.valid then session.sasAttempts + 1 ≥ SAS_MAX_ATTEMPTS
  else
    validateSasPin conf.sasPin session.sasPin session.sasGeneratedAt session.sasAttempts
        env.validateNow ||
      sasPinExpired session.sasGeneratedAt env.expiredNow ||
      session.sasAttempts + 1 ≥ SAS_MAX_ATTEMPTS

/-- The operation completes, fails, expires or cancels the session of `c`. -/
def Ends (c : UInt64) (m : PairingManager) : PairingEvent → Prop
  | .pairConfirm clientId payload env => clientId = c ∧ ∃ session, m.sessions c = some session ∧
      session.state = .WAITING_FOR_SAS ∧ confirmEnds session payload env = true
  | .cancelSession clientId => clientId = c
  | .expireSessions now => ∃ session, m.sessions c = some session ∧
      sasPinExpired session.sasGeneratedAt (now c) = true
  | _ => False

/-- The invariant of the store at one step: the sessions afterwards are sound, and those that the
step has ended are gone. -/
def StoreKept (x : PairingEntry) : Prop :=
  StoreSound x.after.manager ∧ ∀ c, Ends c x.before.manager x.event →
    x.after.manager.hasActivePairingSession c = false

/-- No malformed confirmation meets a waiting session at its last attempt. -/
def NoMalformedLast (s : PairingWorld) : PairingEvent → Prop
  | .pairConfirm clientId payload _ => ∀ session, s.manager.sessions clientId = some session →
      session.state = .WAITING_FOR_SAS → (parsePairConfirm payload).valid = false →
      session.sasAttempts + 1 < SAS_MAX_ATTEMPTS
  | _ => True

/-! ### Confirmations -/

/-- A malformed confirmation counts an attempt and keeps the session in any case. -/
theorem handlePairConfirm_malformed {m : PairingManager} (reg : Registry) {c : UInt64}
    {payload : Bytes} (env : PairConfirmEnv) {session : PairingSession}
    (hs : m.sessions c = some session) (hwait : session.state = .WAITING_FOR_SAS)
    (hconf : (parsePairConfirm payload).valid = false) :
    (handlePairConfirm m reg c payload env).1.sessions c = some (countAttempt session) := by
  unfold handlePairConfirm
  rw [hs]
  dsimp only
  rw [if_neg (not_not.mpr hwait), if_pos (by simp [hconf])]
  exact PairingManager.setSession_self m c (countAttempt session)

/-- A well-formed confirmation drops the session that it ends, and counts an attempt for the one
that it does not. -/
theorem handlePairConfirm_wellFormed {m : PairingManager} (reg : Registry) {c : UInt64}
    {payload : Bytes} (env : PairConfirmEnv) {session : PairingSession}
    (hs : m.sessions c = some session) (hwait : session.state = .WAITING_FOR_SAS)
    (hconf : (parsePairConfirm payload).valid = true) :
    (handlePairConfirm m reg c payload env).1.sessions c =
      if confirmEnds session payload env then none
      else some { session with sasAttempts := session.sasAttempts + 1 } := by
  unfold handlePairConfirm confirmEnds
  simp only [hs, hwait, hconf, ne_eq, not_true_eq_false, if_false]
  cases hpin : validateSasPin (parsePairConfirm payload).sasPin session.sasPin
      session.sasGeneratedAt session.sasAttempts env.validateNow with
  | true =>
    simp only [not_true_eq_false, if_false, Bool.true_or, if_true]
    split
    · exact PairingManager.clearSession_self _ _
    · exact PairingManager.clearSession_self _ _
  | false =>
    simp only [Bool.false_eq_true, not_false_eq_true, if_true, Bool.false_or, Bool.or_eq_true,
      decide_eq_true_eq]
    split
    · exact PairingManager.clearSession_self _ _
    · exact PairingManager.setSession_self _ _ _

/-- A session that does not wait is left alone. -/
theorem handlePairConfirm_not_waiting {m : PairingManager} (reg : Registry) {c : UInt64}
    (payload : Bytes) (env : PairConfirmEnv)
    (hs : ∀ session, m.sessions c = some session → session.state ≠ .WAITING_FOR_SAS) :
    (handlePairConfirm m reg c payload env).1 = m := by
  unfold handlePairConfirm
  split
  · rfl
  · rename_i session hsession
    rw [if_pos (hs session hsession)]

/-! ### One step -/

/-- A step that changes the session of one client only. -/
theorem storeSound_at {m m' : PairingManager} {clientId : UInt64} (hm : StoreSound m)
    (hne : ∀ c, c ≠ clientId → m'.sessions c = m.sessions c)
    (hself : ∀ session, m'.sessions clientId = some session → SessionSound clientId session) :
    StoreSound m' := by
  intro c session hs
  by_cases hc : c = clientId
  · subst hc
    exact hself session hs
  · rw [hne c hc] at hs
    exact hm c session hs

theorem storeKept_pairRequest {s : PairingWorld} (hm : StoreSound s.manager) (clientId : UInt64)
    (clientIp payload : Bytes) (env : PairRequestEnv) :
    StoreKept (pairingMachine.entry s (.pairRequest clientId clientIp payload env)) := by
  refine ⟨?_, fun c hends => hends.elim⟩
  refine @storeSound_at _ _ clientId hm (fun c hc => handlePairRequest_sessions_ne hc) ?_
  intro session hs
  obtain ⟨rfl, htype, -⟩ := handlePairRequest_session hs
  obtain ⟨-, hpin, -⟩ := handlePairRequest_response htype
  exact ⟨rfl, Nat.succ_pos 2, isValidPinFormat_generateSasPin hpin, rfl⟩

/-- A malformed confirmation keeps the store in order exactly when attempts are left. At the last
one the session is marked as failed, and it is still there. -/
theorem storeKept_malformed {s : PairingWorld} (hm : StoreSound s.manager) {clientId : UInt64}
    {payload : Bytes} (env : PairConfirmEnv) {session : PairingSession}
    (hs : s.manager.sessions clientId = some session)
    (hconf : (parsePairConfirm payload).valid = false) :
    StoreKept (pairingMachine.entry s (.pairConfirm clientId payload env)) ↔
      session.sasAttempts + 1 < SAS_MAX_ATTEMPTS := by
  have hsound := hm clientId session hs
  have hafter : (pairingMachine.entry s (.pairConfirm clientId payload env)).after.manager.sessions
      clientId = some (countAttempt session) :=
    handlePairConfirm_malformed s.registry env hs hsound.waiting hconf
  constructor
  · rintro ⟨hstore, -⟩
    have hfailed := (hstore clientId _ hafter).waiting
    by_contra hlast
    rw [countAttempt, if_pos (Nat.not_lt.mp hlast)] at hfailed
    cases hfailed
  · intro hlast
    have hcount : countAttempt session = { session with sasAttempts := session.sasAttempts + 1 } :=
      if_neg (Nat.not_le.mpr hlast)
    refine ⟨storeSound_at hm (fun c hc => handlePairConfirm_sessions_ne hc) ?_, ?_⟩
    · intro session' hsession'
      rw [hafter, hcount] at hsession'
      cases hsession'
      exact ⟨hsound.waiting, hlast, hsound.pin, hsound.owner⟩
    · rintro c ⟨rfl, session', hsession', -, hends⟩
      cases hs.symm.trans hsession'
      rw [confirmEnds, hconf, if_pos (by simp), decide_eq_true_eq] at hends
      exact absurd hlast (Nat.not_lt.mpr hends)

/-- A well-formed confirmation keeps the store in order. -/
theorem storeKept_wellFormed {s : PairingWorld} (hm : StoreSound s.manager) {clientId : UInt64}
    {payload : Bytes} (env : PairConfirmEnv) {session : PairingSession}
    (hs : s.manager.sessions clientId = some session)
    (hconf : (parsePairConfirm payload).valid = true) :
    StoreKept (pairingMachine.entry s (.pairConfirm clientId payload env)) := by
  have hsound := hm clientId session hs
  have hafter : (pairingMachine.entry s (.pairConfirm clientId payload env)).after.manager.sessions
      clientId = if confirmEnds session payload env then none
        else some { session with sasAttempts := session.sasAttempts + 1 } :=
    handlePairConfirm_wellFormed s.registry env hs hsound.waiting hconf
  refine ⟨storeSound_at hm (fun c hc => handlePairConfirm_sessions_ne hc) ?_, ?_⟩
  · intro session' hsession'
    rw [hafter] at hsession'
    split at hsession'
    · cases hsession'
    · rename_i hgoes
      cases hsession'
      refine ⟨hsound.waiting, ?_, hsound.pin, hsound.owner⟩
      simp only [confirmEnds, hconf, not_true_eq_false, if_false, Bool.or_eq_true,
        decide_eq_true_eq, not_or] at hgoes
      exact Nat.lt_of_not_le hgoes.2
  · rintro c ⟨rfl, session', hsession', -, hends⟩
    cases hs.symm.trans hsession'
    rw [PairingManager.hasActivePairingSession, hafter, if_pos hends]
    rfl

/-- A confirmation keeps the store in order unless it is malformed and the last attempt. -/
theorem storeKept_pairConfirm {s : PairingWorld} (hm : StoreSound s.manager) (clientId : UInt64)
    (payload : Bytes) (env : PairConfirmEnv) :
    StoreKept (pairingMachine.entry s (.pairConfirm clientId payload env)) ↔
      NoMalformedLast s (.pairConfirm clientId payload env) := by
  cases hs : s.manager.sessions clientId with
  | none =>
    -- Nobody is waiting, so nothing happens.
    have hsame : (pairingMachine.entry s (.pairConfirm clientId payload env)).after.manager
        = s.manager := handlePairConfirm_not_waiting s.registry payload env (by simp [hs])
    refine iff_of_true ⟨by rwa [hsame], ?_⟩ ?_
    · rintro c ⟨rfl, session, hsession, -⟩
      cases hs.symm.trans hsession
    · intro session hsession
      cases hs.symm.trans hsession
  | some session =>
    cases hconf : (parsePairConfirm payload).valid with
    | false =>
      rw [storeKept_malformed hm env hs hconf]
      constructor
      · intro hlast session' hsession' _ _
        cases hs.symm.trans hsession'
        exact hlast
      · intro h
        exact h session hs (hm clientId session hs).waiting hconf
    | true =>
      refine iff_of_true (storeKept_wellFormed hm env hs hconf) ?_
      intro session' _ _ hinvalid
      cases hconf.symm.trans hinvalid

/-- Every step from a sound store keeps the store in order, but for the malformed confirmation at
the last attempt. -/
theorem storeKept_iff (s : PairingWorld) (e : PairingEvent) (hm : StoreSound s.manager) :
    StoreKept (pairingMachine.entry s e) ↔ NoMalformedLast s e := by
  cases e with
  | pairRequest clientId clientIp payload env =>
    exact iff_of_true (storeKept_pairRequest hm clientId clientIp payload env) trivial
  | pairConfirm clientId payload env => exact storeKept_pairConfirm hm clientId payload env
  | cancelSession clientId =>
    refine iff_of_true ⟨storeSound_at hm (fun c hc => s.manager.clearSession_ne clientId hc) ?_, ?_⟩
      trivial
    · intro session hs
      change (s.manager.clearSession clientId).sessions clientId = _ at hs
      rw [PairingManager.clearSession_self] at hs
      cases hs
    · rintro c rfl
      show Option.isSome ((s.manager.clearSession clientId).sessions clientId) = false
      rw [PairingManager.clearSession_self]
      rfl
  | expireSessions now =>
    refine iff_of_true ⟨?_, ?_⟩ trivial
    · intro c session hs
      exact hm c session (expireStaleSessions_session hs)
    · rintro c ⟨session, hs, hexpired⟩
      show Option.isSome ((expireStaleSessions s.manager now).sessions c) = false
      change s.manager.sessions c = _ at hs
      simp only [expireStaleSessions, hs, if_pos hexpired, Option.isSome_none]
  | unpairRequest | revokeDevice | deleteDevice =>
    exact iff_of_true ⟨hm, fun c hends => hends.elim⟩ trivial

/-! ### Runs -/

/-- The session store. In a run from the constructor state every stored session is waiting, has
attempts left and its PIN, and belongs to its client, and every session that an operation has
ended is gone, if and only if no malformed confirmation of the run meets a session at its last
attempt. -/
theorem sessionStore_iff (reg : Registry) (es : List PairingEvent) :
    (∀ x ∈ pairingMachine.trace { registry := reg } es, StoreKept x) ↔
      pairingMachine.Along NoMalformedLast { registry := reg } es := by
  refine pairingMachine.forall_trace_iff_along (I := fun s => StoreSound s.manager) storeKept_iff
    (fun s e _ hkept => hkept.1) ?_ es
  intro c session hs
  cases hs

/-- Three malformed confirmations leave a session that has failed, with its PIN. -/
theorem sessionStore_malformed :
    ¬ (∀ x ∈ pairingMachine.trace {} [phoneRequest 1 49, .pairConfirm 1 [] confirmEnv,
        .pairConfirm 1 [] confirmEnv, .pairConfirm 1 [] confirmEnv], StoreKept x) ∧
      (pairingMachine.run {} [phoneRequest 1 49, .pairConfirm 1 [] confirmEnv,
        .pairConfirm 1 [] confirmEnv, .pairConfirm 1 [] confirmEnv]).manager.hasActivePairingSession
          1 = true := by
  have hfailed : ((pairingMachine.run {} [phoneRequest 1 49, .pairConfirm 1 [] confirmEnv,
      .pairConfirm 1 [] confirmEnv, .pairConfirm 1 [] confirmEnv]).manager.sessions 1).map
        PairingSession.state = some .FAILED := by
    decide +kernel
  refine ⟨?_, ?_⟩
  · intro hall
    -- the last step
    have hlast := hall (pairingMachine.entry (pairingMachine.run {} [phoneRequest 1 49,
      .pairConfirm 1 [] confirmEnv, .pairConfirm 1 [] confirmEnv]) (.pairConfirm 1 [] confirmEnv))
      (List.mem_cons_of_mem _ (List.mem_cons_of_mem _ (List.mem_cons_of_mem _
        List.mem_cons_self)))
    obtain ⟨session, hs, hstate⟩ := Option.map_eq_some_iff.mp hfailed
    have hwaiting := (hlast.1 1 session hs).waiting
    rw [hstate] at hwaiting
    cases hwaiting
  · obtain ⟨session, hs, -⟩ := Option.map_eq_some_iff.mp hfailed
    rw [PairingManager.hasActivePairingSession, hs]
    rfl

end MobileUnlock.Pairing
