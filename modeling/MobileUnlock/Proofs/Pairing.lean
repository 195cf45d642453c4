import MobileUnlock.Pairing.PairingManager
import MobileUnlock.Proofs.DeviceRegistry

/-!
# `MobileUnlock.Proofs.Pairing`: what the pairing handlers can do

`RequestCase` and `ConfirmCase` list everything that `handlePairRequest` and
`handlePairConfirm` can do, with the guards that lead there. Every result about runs of
`pairingMachine` is derived from these two lists.

`acceptedSession` is the session a PAIR_CONFIRM passes all checks for, if there is one. It
alone decides whether the registry is written to (`handlePairConfirm_registry`).
-/

set_option autoImplicit false

namespace MobileUnlock.Pairing

open MobileUnlock.Lib MobileUnlock.Lib.Win32 MobileUnlock.Protocol

/-! ### Frames -/

namespace PairingManager

variable (m : PairingManager) (c : UInt64) (session : PairingSession) (id : Bytes) (now : FILETIME)

@[simp] theorem setSession_self : (m.setSession c session).sessions c = some session := by
  simp [setSession]

@[simp] theorem clearSession_self : (m.clearSession c).sessions c = none := by
  simp [clearSession]

theorem setSession_ne {c' : UInt64} (h : c' ≠ c) :
    (m.setSession c session).sessions c' = m.sessions c' := by
  simp [setSession, h]

theorem clearSession_ne {c' : UInt64} (h : c' ≠ c) :
    (m.clearSession c).sessions c' = m.sessions c' := by
  simp [clearSession, h]

@[simp] theorem recordFailedAttempt_sessions :
    (m.recordFailedAttempt id now).sessions = m.sessions := rfl

@[simp] theorem clearFailedAttempts_sessions :
    (m.clearFailedAttempts id).sessions = m.sessions := rfl

end PairingManager

/-! ### PAIR_REQUEST -/

/-- Everything `handlePairRequest` can do. -/
inductive RequestCase (m : PairingManager) (reg : Registry) (clientId : UInt64)
    (clientIp payload : Bytes) (env : PairRequestEnv) : PairingManager × PairingReply → Prop
  | refused (reply : PairingReply) (htype : reply.responseType = .PROTO_ERROR) :
      RequestCase m reg clientId clientIp payload env (m.clearSession clientId, reply)
  | opened (hvalid : (parsePairRequest payload).valid = true)
      (hactive : isDeviceActive env.activeAccess reg (parsePairRequest payload).deviceId = false)
      (hcount : env.accountSid = [] ∨
        countActiveDevicesForAccount env.countAccess reg env.accountSid < kMaxDevicesPerAccount)
      (hpin : generateSasPin env.rng ≠ []) (reply : PairingReply)
      (htype : reply.responseType = .PAIR_RESPONSE) :
      RequestCase m reg clientId clientIp payload env
        ((m.clearSession clientId).setSession clientId (openSession (parsePairRequest payload)
          clientId clientIp (generateSasPin env.rng) env.generatedNow), reply)

theorem handlePairRequest_case (m : PairingManager) (reg : Registry) (clientId : UInt64)
    (clientIp payload : Bytes) (env : PairRequestEnv) :
    RequestCase m reg clientId clientIp payload env
      (handlePairRequest m reg clientId clientIp payload env) := by
  unfold handlePairRequest
  dsimp only
  split
  · exact .refused _ rfl
  rename_i hvalid
  split
  · exact .refused _ rfl
  split
  · exact .refused _ rfl
  rename_i hactive
  split
  · exact .refused _ rfl
  rename_i hcount
  split
  · exact .refused _ rfl
  rename_i hpin
  rw [not_not] at hvalid
  rw [Bool.not_eq_true] at hactive
  refine .opened hvalid hactive ?_ hpin _ rfl
  by_cases hsid : env.accountSid = []
  · exact Or.inl hsid
  · exact Or.inr (Nat.lt_of_not_le fun hge => hcount ⟨hsid, hge⟩)

/-! ### PAIR_CONFIRM -/

/-- The session for which a PAIR_CONFIRM passes every check. -/
def acceptedSession (m : PairingManager) (clientId : UInt64) (payload : Bytes)
    (env : PairConfirmEnv) : Option PairingSession :=
  match m.sessions clientId with
  | none => none
  | some session =>
    if session.state = .WAITING_FOR_SAS ∧ (parsePairConfirm payload).valid = true ∧
        validateSasPin (parsePairConfirm payload).sasPin session.sasPin session.sasGeneratedAt
          session.sasAttempts env.validateNow = true then some session
    else none

theorem acceptedSession_eq_some {m : PairingManager} {clientId : UInt64} {payload : Bytes}
    {env : PairConfirmEnv} {session : PairingSession} :
    acceptedSession m clientId payload env = some session ↔
      m.sessions clientId = some session ∧ session.state = .WAITING_FOR_SAS ∧
        (parsePairConfirm payload).valid = true ∧
        validateSasPin (parsePairConfirm payload).sasPin session.sasPin session.sasGeneratedAt
          session.sasAttempts env.validateNow = true := by
  unfold acceptedSession
  cases hs : m.sessions clientId with
  | none => simp
  | some session' =>
    dsimp only
    constructor
    · intro h
      split at h
      · rename_i hcheck
        cases h
        exact ⟨rfl, hcheck⟩
      · cases h
    · rintro ⟨hsame, hcheck⟩
      cases hsame
      exact if_pos hcheck

/-- A session with one more attempt, failed at the third. -/
def countAttempt (session : PairingSession) : PairingSession :=
  let session := { session with sasAttempts := session.sasAttempts + 1 }
  if session.sasAttempts ≥ SAS_MAX_ATTEMPTS then { session with state := .FAILED } else session

/-- Everything `handlePairConfirm` can do. -/
inductive ConfirmCase (m : PairingManager) (reg : Registry) (clientId : UInt64)
    (payload : Bytes) (env : PairConfirmEnv) : PairingManager × Registry × PairingReply → Prop
  | noSession (hno : acceptedSession m clientId payload env = none)
      (hs : ∀ session, m.sessions clientId = some session → session.state ≠ .WAITING_FOR_SAS) :
      ConfirmCase m reg clientId payload env
        (m, reg, protoError .UNAUTHORIZED "No active pairing session")
  | malformed (hno : acceptedSession m clientId payload env = none) (session : PairingSession)
      (hs : m.sessions clientId = some session) (hstate : session.state = .WAITING_FOR_SAS)
      (m' : PairingManager) (hm' : m'.sessions
        = (m.setSession clientId (countAttempt session)).sessions) :
      ConfirmCase m reg clientId payload env
        (m', reg, protoError .MALFORMED_HEADER "Invalid PAIR_CONFIRM payload"
          [.failure "Invalid PAIR_CONFIRM payload"])
  | wrongPin (hno : acceptedSession m clientId payload env = none) (session : PairingSession)
      (hs : m.sessions clientId = some session) (hstate : session.state = .WAITING_FOR_SAS)
      (hmore : session.sasAttempts + 1 < SAS_MAX_ATTEMPTS)
      (m' : PairingManager) (hm' : m'.sessions = (m.setSession clientId
        { session with sasAttempts := session.sasAttempts + 1 }).sessions) :
      ConfirmCase m reg clientId payload env
        (m', reg, protoError .UNAUTHORIZED "Incorrect SAS PIN")
  | closed (hno : acceptedSession m clientId payload env = none) (session : PairingSession)
      (hs : m.sessions clientId = some session) (hstate : session.state = .WAITING_FOR_SAS)
      (reason : String)
      (hreason : reason = "SAS PIN expired" ∨ reason = "Maximum SAS attempts exceeded")
      (m' : PairingManager) (hm' : m'.sessions = (m.clearSession clientId).sessions) :
      ConfirmCase m reg clientId payload env
        (m', reg, protoError .UNAUTHORIZED reason [.failure reason])
  | stored (session : PairingSession)
      (hs : acceptedSession m clientId payload env = some session)
      (herr : (writeDeviceRecord env.writeAccess reg
        (confirmedRecord session env.accountSid env.pairedNow)).1 = ERROR_SUCCESS)
      (m' : PairingManager) (hm' : m'.sessions = (m.clearSession clientId).sessions)
      (reply : PairingReply) (htype : reply.responseType = .PAIR_COMPLETE) :
      ConfirmCase m reg clientId payload env
        (m', (writeDeviceRecord env.writeAccess reg
          (confirmedRecord session env.accountSid env.pairedNow)).2, reply)
  | writeFailed (session : PairingSession)
      (hs : acceptedSession m clientId payload env = some session)
      (herr : (writeDeviceRecord env.writeAccess reg
        (confirmedRecord session env.accountSid env.pairedNow)).1 ≠ ERROR_SUCCESS)
      (m' : PairingManager) (hm' : m'.sessions = (m.clearSession clientId).sessions) :
      ConfirmCase m reg clientId payload env
        (m', (writeDeviceRecord env.writeAccess reg
          (confirmedRecord session env.accountSid env.pairedNow)).2,
          protoError .INTERNAL_ERROR "Registry write failed" [.failure "Registry write failed"])

theorem handlePairConfirm_case (m : PairingManager) (reg : Registry) (clientId : UInt64)
    (payload : Bytes) (env : PairConfirmEnv) :
    ConfirmCase m reg clientId payload env (handlePairConfirm m reg clientId payload env) := by
  unfold handlePairConfirm
  cases hs : m.sessions clientId with
  | none =>
    refine .noSession ?_ ?_
    · rw [acceptedSession, hs]
    · rw [hs]
      simp
  | some session =>
    -- Any check that fails means that no session is accepted.
    have hno : ¬ (session.state = .WAITING_FOR_SAS ∧ (parsePairConfirm payload).valid = true ∧
        validateSasPin (parsePairConfirm payload).sasPin session.sasPin session.sasGeneratedAt
          session.sasAttempts env.validateNow = true) →
        acceptedSession m clientId payload env = none := by
      intro hcheck
      rw [acceptedSession, hs]
      exact if_neg hcheck
    dsimp only
    split
    · rename_i hstate
      refine .noSession (hno fun h => hstate h.1) ?_
      intro session' hs'
      rw [hs] at hs'
      cases hs'
      exact hstate
    rename_i hstate
    rw [not_not] at hstate
    split
    · rename_i hconf
      exact .malformed (hno fun h => hconf h.2.1) session hs hstate _ rfl
    rename_i hconf
    rw [not_not] at hconf
    split
    · rename_i hpin
      split
      · -- the session is closed, expired or at its last attempt
        refine .closed (hno fun h => hpin h.2.2) session hs hstate _ ?_ _ ?_
        · split
          · exact Or.inl rfl
          · exact Or.inr rfl
        · funext c
          by_cases hc : c = clientId
          · subst hc
            simp
          · simp [PairingManager.clearSession_ne, PairingManager.setSession_ne, hc]
      · rename_i hmore
        rw [not_or] at hmore
        exact .wrongPin (hno fun h => hpin h.2.2) session hs hstate (Nat.lt_of_not_le hmore.2) _ rfl
    · rename_i hpin
      rw [not_not] at hpin
      have haccepted : acceptedSession m clientId payload env = some session :=
        acceptedSession_eq_some.mpr ⟨hs, hstate, hconf, hpin⟩
      split
      · rename_i herr
        refine .stored session haccepted herr _ ?_ _ ?_
        · rfl
        · rfl
      · rename_i herr
        exact .writeFailed session haccepted herr _ rfl

/-- The registry after a confirmation: written to exactly for an accepted session. -/
theorem handlePairConfirm_registry (m : PairingManager) (reg : Registry) (clientId : UInt64)
    (payload : Bytes) (env : PairConfirmEnv) :
    (handlePairConfirm m reg clientId payload env).2.1
      = match acceptedSession m clientId payload env with
        | none => reg
        | some session => (writeDeviceRecord env.writeAccess reg
            (confirmedRecord session env.accountSid env.pairedNow)).2 := by
  have hcase := handlePairConfirm_case m reg clientId payload env
  generalize handlePairConfirm m reg clientId payload env = out at hcase
  cases hcase with
  | noSession hno => rw [hno]
  | malformed hno => rw [hno]
  | wrongPin hno => rw [hno]
  | closed hno => rw [hno]
  | stored session hs => rw [hs]
  | writeFailed session hs => rw [hs]

/-- A confirmation answered with PAIR_COMPLETE has stored the record of an accepted session. -/
theorem handlePairConfirm_complete {m : PairingManager} {reg : Registry} {clientId : UInt64}
    {payload : Bytes} {env : PairConfirmEnv}
    (h : (handlePairConfirm m reg clientId payload env).2.2.responseType = .PAIR_COMPLETE) :
    ∃ session, acceptedSession m clientId payload env = some session ∧
      writeDeviceRecord env.writeAccess reg (confirmedRecord session env.accountSid env.pairedNow)
        = (ERROR_SUCCESS, (handlePairConfirm m reg clientId payload env).2.1) ∧
      (handlePairConfirm m reg clientId payload env).1.sessions clientId = none := by
  have hcase := handlePairConfirm_case m reg clientId payload env
  generalize handlePairConfirm m reg clientId payload env = out at h hcase
  cases hcase with
  | noSession => cases h
  | malformed => cases h
  | wrongPin => cases h
  | closed => cases h
  | writeFailed => cases h
  | stored session hs herr m' hm' reply htype =>
    refine ⟨session, hs, Prod.ext herr rfl, ?_⟩
    rw [hm']
    simp

/-! ### Sessions -/

/-- A request leaves the sessions of other clients alone. -/
theorem handlePairRequest_sessions_ne {m : PairingManager} {reg : Registry} {clientId c : UInt64}
    {clientIp payload : Bytes} {env : PairRequestEnv} (h : c ≠ clientId) :
    (handlePairRequest m reg clientId clientIp payload env).1.sessions c = m.sessions c := by
  have hcase := handlePairRequest_case m reg clientId clientIp payload env
  generalize handlePairRequest m reg clientId clientIp payload env = out at hcase
  cases hcase with
  | refused => exact m.clearSession_ne clientId h
  | opened =>
    show ((m.clearSession clientId).setSession clientId _).sessions c = m.sessions c
    rw [PairingManager.setSession_ne _ _ _ h, m.clearSession_ne clientId h]

/-- A session that a request leaves to its client is the one it has opened. -/
theorem handlePairRequest_session {m : PairingManager} {reg : Registry} {clientId : UInt64}
    {clientIp payload : Bytes} {env : PairRequestEnv} {session : PairingSession}
    (h : (handlePairRequest m reg clientId clientIp payload env).1.sessions clientId
      = some session) :
    session = openSession (parsePairRequest payload) clientId clientIp (generateSasPin env.rng)
        env.generatedNow ∧
      (handlePairRequest m reg clientId clientIp payload env).2.responseType = .PAIR_RESPONSE ∧
      (parsePairRequest payload).valid = true ∧
      isDeviceActive env.activeAccess reg (parsePairRequest payload).deviceId = false := by
  have hcase := handlePairRequest_case m reg clientId clientIp payload env
  generalize handlePairRequest m reg clientId clientIp payload env = out at h hcase
  cases hcase with
  | refused =>
    rw [PairingManager.clearSession_self] at h
    cases h
  | opened hvalid hactive hcount hpin reply htype =>
    rw [PairingManager.setSession_self] at h
    cases h
    exact ⟨rfl, htype, hvalid, hactive⟩

/-- A confirmation leaves the sessions of other clients alone. -/
theorem handlePairConfirm_sessions_ne {m : PairingManager} {reg : Registry} {clientId c : UInt64}
    {payload : Bytes} {env : PairConfirmEnv} (h : c ≠ clientId) :
    (handlePairConfirm m reg clientId payload env).1.sessions c = m.sessions c := by
  have hcase := handlePairConfirm_case m reg clientId payload env
  generalize handlePairConfirm m reg clientId payload env = out at hcase
  cases hcase with
  | noSession => rfl
  | malformed hno session hs hstate m' hm' => rw [hm', PairingManager.setSession_ne _ _ _ h]
  | wrongPin hno session hs hstate hmore m' hm' => rw [hm', PairingManager.setSession_ne _ _ _ h]
  | closed hno session hs hstate reason hreason m' hm' =>
    rw [hm', PairingManager.clearSession_ne _ _ h]
  | stored session hs herr m' hm' => rw [hm', PairingManager.clearSession_ne _ _ h]
  | writeFailed session hs herr m' hm' => rw [hm', PairingManager.clearSession_ne _ _ h]

/-- A session that is still waiting after a confirmation of its client was waiting before, has
one attempt more, and has not reached the third. -/
theorem handlePairConfirm_waiting {m : PairingManager} {reg : Registry} {clientId : UInt64}
    {payload : Bytes} {env : PairConfirmEnv} {session' : PairingSession}
    (h : (handlePairConfirm m reg clientId payload env).1.sessions clientId = some session')
    (hwait : session'.state = .WAITING_FOR_SAS) :
    ∃ session, m.sessions clientId = some session ∧ session.state = .WAITING_FOR_SAS ∧
      session' = { session with sasAttempts := session.sasAttempts + 1 } ∧
      session.sasAttempts + 1 < SAS_MAX_ATTEMPTS ∧
      (handlePairConfirm m reg clientId payload env).2.2.responseType ≠ .PAIR_COMPLETE := by
  have hcase := handlePairConfirm_case m reg clientId payload env
  generalize handlePairConfirm m reg clientId payload env = out at h hcase
  cases hcase with
  | noSession hno hs => exact absurd hwait (hs session' h)
  | malformed hno session hs hstate m' hm' =>
    rw [hm', PairingManager.setSession_self] at h
    cases h
    simp only [countAttempt] at hwait ⊢
    by_cases hmax : session.sasAttempts + 1 ≥ SAS_MAX_ATTEMPTS
    · rw [if_pos hmax] at hwait
      cases hwait
    · rw [if_neg hmax]
      exact ⟨session, hs, hstate, rfl, Nat.lt_of_not_le hmax, by simp [protoError]⟩
  | wrongPin hno session hs hstate hmore m' hm' =>
    rw [hm', PairingManager.setSession_self] at h
    cases h
    exact ⟨session, hs, hstate, rfl, hmore, by simp [protoError]⟩
  | closed hno session hs hstate reason hreason m' hm' =>
    rw [hm', PairingManager.clearSession_self] at h
    cases h
  | stored session hs herr m' hm' =>
    rw [hm', PairingManager.clearSession_self] at h
    cases h
  | writeFailed session hs herr m' hm' =>
    rw [hm', PairingManager.clearSession_self] at h
    cases h

/-- The reply to a confirmation of a client without a waiting session. -/
def noSessionReply : PairingReply := protoError .UNAUTHORIZED "No active pairing session"

/-- A session that a cancellation leaves is one of another client. -/
theorem clearSession_session {m : PairingManager} {clientId c : UInt64}
    {session : PairingSession} (h : (m.clearSession clientId).sessions c = some session) :
    m.sessions c = some session ∧ c ≠ clientId := by
  by_cases hc : c = clientId
  · rw [hc, PairingManager.clearSession_self] at h
    cases h
  · exact ⟨(m.clearSession_ne clientId hc).symm.trans h, hc⟩

/-- Expiry keeps a session as it is or drops it. -/
theorem expireStaleSessions_session {m : PairingManager} {now : UInt64 → FILETIME} {c : UInt64}
    {session : PairingSession} (h : (expireStaleSessions m now).sessions c = some session) :
    m.sessions c = some session := by
  simp only [expireStaleSessions] at h
  split at h
  · cases h
  · rename_i hs
    split at h
    · cases h
    · cases h
      exact hs

/-! ### The PIN -/

/-- The accumulated difference is zero exactly when every difference is. -/
theorem foldl_or_eq_zero (f : Nat → UInt8) (is : List Nat) (diff : UInt8) :
    is.foldl (fun diff i => diff ||| f i) diff = 0 ↔ diff = 0 ∧ ∀ i ∈ is, f i = 0 := by
  induction is generalizing diff with
  | nil => simp
  | cons i is ih => rw [List.foldl_cons, ih, UInt8.or_eq_zero_iff, List.forall_mem_cons, and_assoc]

/-- A PIN that is validated is the stored one, in time and with attempts left. -/
theorem validateSasPin_eq_true {candidate stored : Bytes} {generatedAt now : FILETIME}
    {attempts : Nat} (h : validateSasPin candidate stored generatedAt attempts now = true) :
    attempts < SAS_MAX_ATTEMPTS ∧ sasPinExpired generatedAt now = false ∧
      isValidPinFormat candidate = true ∧ candidate = stored := by
  unfold validateSasPin at h
  split at h
  · cases h
  rename_i hattempts
  split at h
  · cases h
  rename_i hexpired
  split at h
  · cases h
  rename_i hformat
  split at h
  · cases h
  rename_i hlen
  rw [not_not] at hformat hlen
  rw [Bool.not_eq_true] at hexpired
  refine ⟨Nat.lt_of_not_le hattempts, hexpired, hformat, ?_⟩
  -- The comparison goes over all positions of the PIN. Its accumulated difference is zero, so
  -- the two texts, which have the same length, have the same characters.
  have hcand : candidate.length = SAS_PIN_LENGTH := by
    simp only [isValidPinFormat, Bool.and_eq_true, beq_iff_eq] at hformat
    exact hformat.1
  dsimp only at h
  rw [beq_iff_eq, foldl_or_eq_zero] at h
  apply List.ext_getElem (hcand.trans hlen.symm)
  intro i hi hi'
  have hxor := h.2 i (List.mem_range.mpr (by omega))
  rw [UInt8.xor_eq_zero_iff, List.getD_eq_getElem _ _ hi, List.getD_eq_getElem _ _ hi'] at hxor
  exact hxor

/-- A PIN that has not expired was generated at most 60 seconds ago, in ticks of 100 ns, and
not in the future. -/
theorem sasPinExpired_eq_false {generatedAt now : FILETIME}
    (h : sasPinExpired generatedAt now = false) :
    generatedAt.toU64.toNat ≤ now.toU64.toNat ∧
      now.toU64.toNat ≤ generatedAt.toU64.toNat + 600000000 := by
  unfold sasPinExpired at h
  split at h
  · cases h
  rename_i hpast
  have hle : generatedAt.toU64 ≤ now.toU64 := UInt64.not_lt.mp hpast
  have hbound : ¬ now.toU64 - generatedAt.toU64 > UInt64.ofNat SAS_EXPIRY_SECONDS * 10000000 := by
    simpa using h
  have hlimit : (UInt64.ofNat SAS_EXPIRY_SECONDS * 10000000).toNat = 600000000 := by decide
  rw [gt_iff_lt, UInt64.lt_iff_toNat_lt, hlimit, UInt64.toNat_sub_of_le _ _ hle] at hbound
  rw [UInt64.le_iff_toNat_le] at hle
  omega

/-! ### Steps -/

/-- A step of the pairing machine. -/
abbrev PairingEntry := Entry PairingWorld PairingEvent (Option PairingReply)

/-- The message type of the reply. -/
def replyType (x : PairingEntry) : Option MessageType := x.output.map (·.responseType)

/-- An UNPAIR_REQUEST deletes the record of the device it names, or changes nothing. -/
theorem handleUnpairRequest_registry (reg : Registry) (payload : Bytes) (acc : Access) :
    (handleUnpairRequest reg payload acc).1 = reg ∨
      (handleUnpairRequest reg payload acc).1
        = (deleteDeviceRecord acc reg (jsonGetString payload (ascii "deviceId"))).2 := by
  unfold handleUnpairRequest
  dsimp only
  split
  · exact Or.inl rfl
  · exact Or.inr rfl

/-- An accepted confirmation closes the session. -/
theorem handlePairConfirm_accepted {m : PairingManager} {reg : Registry} {clientId : UInt64}
    {payload : Bytes} {env : PairConfirmEnv} {session : PairingSession}
    (h : acceptedSession m clientId payload env = some session) :
    (handlePairConfirm m reg clientId payload env).1.sessions clientId = none := by
  have hcase := handlePairConfirm_case m reg clientId payload env
  generalize handlePairConfirm m reg clientId payload env = out at hcase
  cases hcase with
  | noSession hno | malformed hno | wrongPin hno | closed hno =>
    rw [hno] at h
    cases h
  | stored session' hs herr m' hm' => rw [hm', PairingManager.clearSession_self]
  | writeFailed session' hs herr m' hm' => rw [hm', PairingManager.clearSession_self]

/-- Where a waiting session comes from in one step: a request of its client has just opened it,
or it was there before, for the same device, and has not been accepted. -/
theorem waiting_step {s : PairingWorld} {e : PairingEvent} {c : UInt64}
    {session' : PairingSession}
    (hs : (pairingMachine.step s e).1.manager.sessions c = some session')
    (hwait : session'.state = .WAITING_FOR_SAS) :
    (∃ clientIp payload env, e = .pairRequest c clientIp payload env ∧
      session'.deviceId
        = (deviceIdFromString (parsePairRequest payload).deviceId zeroDeviceId).2 ∧
      (parsePairRequest payload).valid = true ∧
      isDeviceActive env.activeAccess s.registry (parsePairRequest payload).deviceId = false) ∨
    ∃ session, s.manager.sessions c = some session ∧ session.state = .WAITING_FOR_SAS ∧
      session.deviceId = session'.deviceId ∧
      ∀ payload env, e = .pairConfirm c payload env →
        acceptedSession s.manager c payload env = none := by
  cases e with
  | pairRequest clientId clientIp payload env =>
    by_cases hc : c = clientId
    · subst hc
      obtain ⟨rfl, -, hvalid, hactive⟩ := handlePairRequest_session hs
      exact Or.inl ⟨clientIp, payload, env, rfl, rfl, hvalid, hactive⟩
    · refine Or.inr ⟨session', ?_, hwait, rfl, by simp⟩
      rw [← handlePairRequest_sessions_ne hc]
      exact hs
  | pairConfirm clientId payload env =>
    by_cases hc : c = clientId
    · subst hc
      obtain ⟨session, hold, holdwait, rfl, -⟩ := handlePairConfirm_waiting hs hwait
      refine Or.inr ⟨session, hold, holdwait, rfl, ?_⟩
      rintro payload' env' ⟨⟩
      -- An accepted session would be gone.
      cases haccepted : acceptedSession s.manager c payload env with
      | none => rfl
      | some session₁ =>
        have hgone : (handlePairConfirm s.manager s.registry c payload env).1.sessions c = none :=
          handlePairConfirm_accepted haccepted
        change (handlePairConfirm s.manager s.registry c payload env).1.sessions c = _ at hs
        rw [hgone] at hs
        cases hs
    · refine Or.inr ⟨session', ?_, hwait, rfl, ?_⟩
      · rw [← handlePairConfirm_sessions_ne hc]
        exact hs
      · rintro payload' env' ⟨⟩
        exact absurd rfl hc
  | cancelSession clientId =>
    exact Or.inr ⟨session', (clearSession_session hs).1, hwait, rfl, by simp⟩
  | expireSessions now =>
    exact Or.inr ⟨session', expireStaleSessions_session hs, hwait, rfl, by simp⟩
  | unpairRequest | revokeDevice | deleteDevice =>
    exact Or.inr ⟨session', hs, hwait, rfl, by simp⟩

/-! ### Phones that pair

A phone here is known by the last digit of its id. Its PIN is the one of a random source that
draws 7. -/

/-- The id text of a phone. -/
def phoneText (digit : UInt8) : Bytes := ascii "00000000-0000-0000-0000-00000000000" ++ [digit]

/-- The PAIR_REQUEST of a phone. -/
def requestPayload (digit : UInt8) : Bytes :=
  ascii "\x7b\"deviceId\":\"" ++ phoneText digit ++
    ascii "\",\"deviceName\":\"Phone\",\"publicKey\":\"04\"\x7d"

/-- The PAIR_CONFIRM of a phone, with the right PIN. -/
def confirmPayload (digit : UInt8) : Bytes :=
  ascii "\x7b\"deviceId\":\"" ++ phoneText digit ++ ascii "\",\"sasPin\":\"000007\"\x7d"

/-- The account the process runs under. -/
def ownSid : Bytes := ascii "S-1-5-18"

/-- A request without faults. -/
def requestEnv : PairRequestEnv where
  rateLimitNow := {}
  activeAccess := RegAccess.ok
  accountSid := ownSid
  countAccess := RegAccess.ok
  rng := fun _ => .value 7
  generatedNow := {}
  hostname := []

/-- A confirmation without faults. -/
def confirmEnv : PairConfirmEnv where
  failureNow := {}
  validateNow := {}
  expiredNow := {}
  accountSid := ownSid
  pairedNow := {}
  writeAccess := RegAccess.ok

/-- The request of a phone over a connection. -/
def phoneRequest (clientId : UInt64) (digit : UInt8) : PairingEvent :=
  .pairRequest clientId [] (requestPayload digit) requestEnv

/-- Its confirmation. -/
def phoneConfirm (clientId : UInt64) (digit : UInt8) : PairingEvent :=
  .pairConfirm clientId (confirmPayload digit) confirmEnv

end MobileUnlock.Pairing
