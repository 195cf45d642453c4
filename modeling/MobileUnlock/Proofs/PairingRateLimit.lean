import MobileUnlock.Proofs.Pairing

/-!
# `MobileUnlock.Proofs.PairingRateLimit`: when a device is refused for its failures

A device with five failed confirmations within a minute should have its next request refused. The
manager keeps one entry per device text: a count that only a confirmation with the right PIN
clears, and the time of the first failure. `limitHistory_run` ties the entry to the trace: it is
the number of failures since the device was last accepted, and the time of the first of them.

From that the exact outcome of a request follows (`rateLimited_iff`). The window never moves, the
check looks up the text of the request while the failures are counted under the canonical text,
and a right PIN whose record cannot be written clears the count as well. Each of the three lets a
request pass that should be refused (`rateLimit_missed`).
-/

set_option autoImplicit false

namespace MobileUnlock.Pairing

open MobileUnlock.Lib MobileUnlock.Lib.Win32 MobileUnlock.Protocol

/-- The session that a confirmation of a client meets. -/
def waitingSession (m : PairingManager) (clientId : UInt64) : Option PairingSession :=
  (m.sessions clientId).filter fun session => session.state = .WAITING_FOR_SAS

/-- The time of a failed confirmation for a session of `d`: the payload is malformed or the PIN is
wrong. -/
def failureOf (d : DeviceId) (x : PairingEntry) : Option FILETIME :=
  match x.event with
  | .pairConfirm clientId payload env =>
    match waitingSession x.before.manager clientId with
    | none => none
    | some session =>
      if session.deviceId = d ∧ acceptedSession x.before.manager clientId payload env = none
        then some env.failureNow else none
  | _ => none

/-- A confirmation with the right PIN for a session of `d`. -/
def acceptedFor (d : DeviceId) (x : PairingEntry) : Bool :=
  match x.event with
  | .pairConfirm clientId payload env =>
    (acceptedSession x.before.manager clientId payload env).any fun session => session.deviceId = d
  | _ => false

/-- A completed pairing of `d`. -/
def completedFor (d : DeviceId) (x : PairingEntry) : Bool :=
  acceptedFor d x && replyType x == some .PAIR_COMPLETE

/-- The failures of `d` since it was last accepted, oldest first. -/
def failureTimes (d : DeviceId) (tr : List PairingEntry) : List FILETIME :=
  tr.foldl (fun times x => if acceptedFor d x then [] else times ++ (failureOf d x).toList) []

/-- A failure of `d` within the sixty seconds before a reading. -/
def recentFailure (d : DeviceId) (now : FILETIME) (x : PairingEntry) : Bool :=
  (failureOf d x).any fun t =>
    t.toU64.toNat ≤ now.toU64.toNat && now.toU64.toNat ≤ t.toU64.toNat + 600000000

/-- A request names `d` after at least five failures of `d` within sixty seconds, and no pairing
of `d` has been completed in between. -/
def LimitDue (d : DeviceId) (tr : List PairingEntry) (payload : Bytes) (now : FILETIME) : Prop :=
  deviceIdFromString (parsePairRequest payload).deviceId zeroDeviceId = (true, d) ∧
    ∃ before between, tr = before ++ between ∧ (∀ x ∈ between, completedFor d x = false) ∧
      5 ≤ between.countP (recentFailure d now)

/-- The request is refused with RATE_LIMITED and opens no session. -/
def RefusedAsLimited (s : PairingWorld) (clientId : UInt64) (clientIp payload : Bytes)
    (env : PairRequestEnv) : Prop :=
  (pairingMachine.step s (.pairRequest clientId clientIp payload env)).2
      = some (protoError .RATE_LIMITED "Pairing rate limit exceeded") ∧
    (pairingMachine.step s (.pairRequest clientId clientIp payload env)).1.manager.sessions clientId
      = none

/-! ### The entry and the trace -/

/-- What the map holds after some failures. -/
def limitEntry : List FILETIME → Option (Nat × FILETIME)
  | [] => none
  | first :: later => some (later.length + 1, first)

theorem recordFailedAttempt_entry {m : PairingManager} {id : Bytes} {times : List FILETIME}
    (h : m.rateLimitMap id = limitEntry times) (now : FILETIME) :
    (m.recordFailedAttempt id now).rateLimitMap id = limitEntry (times ++ [now]) := by
  rw [PairingManager.recordFailedAttempt]
  simp only [Function.update_self, h]
  cases times with
  | nil => rfl
  | cons first later => simp [limitEntry]

theorem failureTimes_snoc (d : DeviceId) (tr : List PairingEntry) (x : PairingEntry) :
    failureTimes d (tr ++ [x]) = if acceptedFor d x then []
      else failureTimes d tr ++ (failureOf d x).toList := by
  rw [failureTimes, List.foldl_append]
  rfl

/-- A confirmation counts a failure against the device of the session it meets, or clears the
failures of that device. -/
theorem handlePairConfirm_rateLimitMap (m : PairingManager) (reg : Registry) (clientId : UInt64)
    (payload : Bytes) (env : PairConfirmEnv) :
    (handlePairConfirm m reg clientId payload env).1.rateLimitMap =
      match waitingSession m clientId with
      | none => m.rateLimitMap
      | some session =>
        if acceptedSession m clientId payload env = none
          then (m.recordFailedAttempt (deviceIdToString session.deviceId)
            env.failureNow).rateLimitMap
          else (m.clearFailedAttempts (deviceIdToString session.deviceId)).rateLimitMap := by
  unfold handlePairConfirm waitingSession
  cases hs : m.sessions clientId with
  | none => rfl
  | some session =>
    dsimp only
    by_cases hwait : session.state = .WAITING_FOR_SAS
    · rw [if_neg (not_not.mpr hwait), Option.filter_some_pos (by simpa using hwait)]
      dsimp only
      by_cases hconf : (parsePairConfirm payload).valid = true
      · rw [if_neg (not_not.mpr hconf)]
        by_cases hpin : validateSasPin (parsePairConfirm payload).sasPin session.sasPin
            session.sasGeneratedAt session.sasAttempts env.validateNow = true
        · have hsome : acceptedSession m clientId payload env ≠ none := by
            rw [acceptedSession_eq_some.mpr ⟨hs, hwait, hconf, hpin⟩]
            exact Option.some_ne_none session
          rw [if_neg (not_not.mpr hpin), if_neg hsome]
          split
          · rfl
          · rfl
        · have hno : acceptedSession m clientId payload env = none := by
            rw [acceptedSession, hs]
            exact if_neg fun h => hpin h.2.2
          rw [if_pos hpin, if_pos hno]
          split
          · rfl
          · rfl
      · have hno : acceptedSession m clientId payload env = none := by
          rw [acceptedSession, hs]
          exact if_neg fun h => hconf h.2.1
        rw [if_pos hconf, if_pos hno]
        rfl
    · rw [if_pos hwait, Option.filter_some_neg (by simpa using hwait)]

/-- The entry of a device is the one of its failures, and there are no entries for other texts. -/
structure LimitHistory (tr : List PairingEntry) (s : PairingWorld) : Prop where
  entry : ∀ d, s.manager.rateLimitMap (deviceIdToString d) = limitEntry (failureTimes d tr)
  canonical : ∀ text, s.manager.rateLimitMap text ≠ none → ∃ d, text = deviceIdToString d

/-- A step that counts nothing and leaves the map alone. -/
theorem LimitHistory.same {tr : List PairingEntry} {s s' : PairingWorld} (h : LimitHistory tr s)
    {x : PairingEntry} (hmap : s'.manager.rateLimitMap = s.manager.rateLimitMap)
    (htimes : ∀ d, failureTimes d (tr ++ [x]) = failureTimes d tr) :
    LimitHistory (tr ++ [x]) s' := by
  refine ⟨?_, ?_⟩
  · intro d
    rw [hmap, htimes, h.entry]
  · rw [hmap]
    exact h.canonical

/-- A step that counts for one device and changes its entry. -/
theorem LimitHistory.update {tr : List PairingEntry} {s s' : PairingWorld} (h : LimitHistory tr s)
    {x : PairingEntry} (d₀ : DeviceId) {entry : Option (Nat × FILETIME)}
    (hmap : s'.manager.rateLimitMap
      = Function.update s.manager.rateLimitMap (deviceIdToString d₀) entry)
    (hentry : entry = limitEntry (failureTimes d₀ (tr ++ [x])))
    (hother : ∀ d, d ≠ d₀ → failureTimes d (tr ++ [x]) = failureTimes d tr) :
    LimitHistory (tr ++ [x]) s' := by
  refine ⟨?_, ?_⟩
  · intro d
    by_cases hd : d = d₀
    · rw [hd, hmap, Function.update_self, hentry]
    · rw [hmap, Function.update_of_ne (by simpa using hd), hother d hd, h.entry]
  · intro text htext
    by_cases hd : text = deviceIdToString d₀
    · exact ⟨d₀, hd⟩
    · rw [hmap, Function.update_of_ne hd] at htext
      exact h.canonical text htext

/-- A step that is no confirmation changes neither side. -/
theorem LimitHistory.quiet {tr : List PairingEntry} {s : PairingWorld} {e : PairingEvent}
    (h : LimitHistory tr s) (he : ∀ clientId payload env, e ≠ .pairConfirm clientId payload env)
    (hmap : (pairingMachine.step s e).1.manager.rateLimitMap = s.manager.rateLimitMap) :
    LimitHistory (tr ++ [pairingMachine.entry s e]) (pairingMachine.step s e).1 := by
  refine h.same hmap ?_
  intro d
  rw [failureTimes_snoc]
  cases e with
  | pairConfirm clientId payload env => exact absurd rfl (he clientId payload env)
  | pairRequest | cancelSession | expireSessions | unpairRequest | revokeDevice | deleteDevice =>
    exact List.append_nil _

theorem handlePairRequest_rateLimitMap (m : PairingManager) (reg : Registry) (clientId : UInt64)
    (clientIp payload : Bytes) (env : PairRequestEnv) :
    (handlePairRequest m reg clientId clientIp payload env).1.rateLimitMap = m.rateLimitMap := by
  have hcase := handlePairRequest_case m reg clientId clientIp payload env
  generalize handlePairRequest m reg clientId clientIp payload env = out at hcase
  cases hcase with
  | refused | opened => rfl

/-- The session that a confirmation is accepted for is the one that waits. -/
theorem waitingSession_of_accepted {m : PairingManager} {clientId : UInt64} {payload : Bytes}
    {env : PairConfirmEnv} {session : PairingSession}
    (h : acceptedSession m clientId payload env = some session) :
    waitingSession m clientId = some session := by
  obtain ⟨hs, hwait, -⟩ := acceptedSession_eq_some.mp h
  rw [waitingSession, hs, Option.filter_some_pos (by simpa using hwait)]

/-- A confirmation adds a failure of the device of the session it meets, or clears them. -/
theorem failureTimes_pairConfirm (d : DeviceId) (tr : List PairingEntry) (s : PairingWorld)
    (clientId : UInt64) (payload : Bytes) (env : PairConfirmEnv) :
    failureTimes d (tr ++ [pairingMachine.entry s (.pairConfirm clientId payload env)]) =
      match waitingSession s.manager clientId with
      | none => failureTimes d tr
      | some session =>
        if session.deviceId = d then
          if acceptedSession s.manager clientId payload env = none
            then failureTimes d tr ++ [env.failureNow] else []
        else failureTimes d tr := by
  rw [failureTimes_snoc, acceptedFor, failureOf]
  simp only [Machine.entry]
  cases hw : waitingSession s.manager clientId with
  | none =>
    have hno : acceptedSession s.manager clientId payload env = none := by
      rw [← Option.not_isSome_iff_eq_none, Option.isSome_iff_exists]
      rintro ⟨session, haccepted⟩
      cases hw.symm.trans (waitingSession_of_accepted haccepted)
    simp [hno]
  | some session =>
    by_cases hno : acceptedSession s.manager clientId payload env = none
    · by_cases hd : session.deviceId = d <;> simp [hno, hd]
    · obtain ⟨session', haccepted⟩ := Option.ne_none_iff_exists'.mp hno
      cases hw.symm.trans (waitingSession_of_accepted haccepted)
      by_cases hd : session.deviceId = d <;> simp [haccepted, hd]

theorem limitHistory_pairConfirm {tr : List PairingEntry} {s : PairingWorld}
    (h : LimitHistory tr s) (clientId : UInt64) (payload : Bytes) (env : PairConfirmEnv) :
    LimitHistory (tr ++ [pairingMachine.entry s (.pairConfirm clientId payload env)])
      (pairingMachine.step s (.pairConfirm clientId payload env)).1 := by
  have hmap : (pairingMachine.step s (.pairConfirm clientId payload env)).1.manager.rateLimitMap
      = _ := handlePairConfirm_rateLimitMap s.manager s.registry clientId payload env
  have htimes := fun d => failureTimes_pairConfirm d tr s clientId payload env
  cases hw : waitingSession s.manager clientId with
  | none =>
    -- Nobody waits for a PIN.
    rw [hw] at hmap htimes
    exact h.same hmap htimes
  | some session =>
    rw [hw] at hmap htimes
    dsimp only at hmap htimes
    have hother : ∀ d, d ≠ session.deviceId →
        failureTimes d (tr ++ [pairingMachine.entry s (.pairConfirm clientId payload env)]) =
          failureTimes d tr := by
      intro d hd
      rw [htimes, if_neg (Ne.symm hd)]
    have hself := htimes session.deviceId
    rw [if_pos rfl] at hself
    by_cases hno : acceptedSession s.manager clientId payload env = none
    · -- A failure, counted for the device of the session.
      rw [if_pos hno] at hmap hself
      refine h.update session.deviceId hmap ?_ hother
      rw [hself, ← recordFailedAttempt_entry (h.entry session.deviceId) env.failureNow]
      exact (Function.update_self (deviceIdToString session.deviceId) _ s.manager.rateLimitMap).symm
    · -- The right PIN: the failures of the device are forgotten.
      rw [if_neg hno] at hmap hself
      refine h.update session.deviceId hmap ?_ hother
      rw [hself]
      rfl

theorem limitHistory_step (tr : List PairingEntry) (s : PairingWorld) (e : PairingEvent)
    (h : LimitHistory tr s) :
    LimitHistory (tr ++ [pairingMachine.entry s e]) (pairingMachine.step s e).1 := by
  cases e with
  | pairConfirm clientId payload env => exact limitHistory_pairConfirm h clientId payload env
  | pairRequest clientId clientIp payload env =>
    exact h.quiet (by simp) (handlePairRequest_rateLimitMap _ _ _ _ _ _)
  | cancelSession | expireSessions | unpairRequest | revokeDevice | deleteDevice =>
    exact h.quiet (by simp) rfl

theorem limitHistory_run (reg : Registry) (es : List PairingEvent) :
    LimitHistory (pairingMachine.trace { registry := reg } es)
      (pairingMachine.run { registry := reg } es) :=
  pairingMachine.history_invariant (C := fun _ _ => True)
    ⟨fun _ => rfl, fun _ h => absurd rfl h⟩ (fun tr s e h _ => limitHistory_step tr s e h)
    (pairingMachine.along_true _ _)

/-! ### The request -/

theorem isRateLimited_iff {m : PairingManager} {id : Bytes} {now : FILETIME} :
    m.isRateLimited id now = true ↔
      ∃ count first, m.rateLimitMap id = some (count, first) ∧
        now.toU64 - first.toU64 ≤ 600000000 ∧ 5 ≤ count := by
  unfold PairingManager.isRateLimited
  cases m.rateLimitMap id with
  | none => simp
  | some entry =>
    obtain ⟨count, first⟩ := entry
    dsimp only
    by_cases hover : now.toU64 - first.toU64 > 600000000
    · rw [if_pos hover]
      refine iff_of_false (by simp) ?_
      rintro ⟨_, _, ⟨⟩, hle, -⟩
      exact absurd hover (UInt64.not_lt.mpr hle)
    · rw [if_neg hover, decide_eq_true_eq]
      constructor
      · intro hcount
        exact ⟨count, first, rfl, UInt64.not_lt.mp hover, hcount⟩
      · rintro ⟨_, _, ⟨⟩, -, hcount⟩
        exact hcount

/-- The other refusals of a request are different ones. -/
theorem limited_reply_unique :
    ∀ reply ∈ [protoError .MALFORMED_HEADER "Invalid PAIR_REQUEST payload",
      protoError .UNAUTHORIZED "Device already paired. Unpair first.",
      protoError .UNAUTHORIZED "Maximum paired devices reached",
      protoError .INTERNAL_ERROR "SAS generation failed"],
      reply ≠ protoError .RATE_LIMITED "Pairing rate limit exceeded" := by
  decide +kernel

/-- The limiter refuses the valid requests whose text is limited, and no others. -/
theorem refusedAsLimited_iff {s : PairingWorld} {clientId : UInt64} {clientIp payload : Bytes}
    {env : PairRequestEnv} :
    RefusedAsLimited s clientId clientIp payload env ↔
      (parsePairRequest payload).valid = true ∧
        s.manager.isRateLimited (parsePairRequest payload).deviceId env.rateLimitNow = true := by
  have hcleared : (s.manager.clearSession clientId).isRateLimited
      = s.manager.isRateLimited := rfl
  have hstep : pairingMachine.step s (.pairRequest clientId clientIp payload env)
      = (⟨(handlePairRequest s.manager s.registry clientId clientIp payload env).1, s.registry⟩,
        some (handlePairRequest s.manager s.registry clientId clientIp payload env).2) := rfl
  rw [RefusedAsLimited, hstep, Option.some.injEq]
  unfold handlePairRequest
  dsimp only
  rw [hcleared]
  split
  · rename_i hinvalid
    exact iff_of_false (fun h => limited_reply_unique _ (by simp) h.1) fun h => hinvalid h.1
  rename_i hvalid
  rw [not_not] at hvalid
  split
  · rename_i hlimited
    exact iff_of_true ⟨rfl, PairingManager.clearSession_self _ _⟩ ⟨hvalid, hlimited⟩
  rename_i hfree
  -- Every answer behind the check is a different one.
  refine iff_of_false ?_ fun h => hfree h.2
  rintro ⟨hreply, -⟩
  split at hreply
  · exact limited_reply_unique _ (by simp) hreply
  split at hreply
  · exact limited_reply_unique _ (by simp) hreply
  split at hreply
  · exact limited_reply_unique _ (by simp) hreply
  cases hreply

/-- What it takes to be refused: a valid request that spells the id of `d` as the manager does, and
at least five failures since `d` was last accepted, the first of them in the last minute. -/
structure LimitMet (d : DeviceId) (tr : List PairingEntry) (payload : Bytes) (now : FILETIME) :
    Prop where
  valid : (parsePairRequest payload).valid = true
  spelling : (parsePairRequest payload).deviceId = deviceIdToString d
  failures : 5 ≤ (failureTimes d tr).length
  window : ∀ first later, failureTimes d tr = first :: later →
    now.toU64 - first.toU64 ≤ 600000000

/-- The outcome of a request that names `d`, read off the trace. -/
theorem refusedAsLimited_run (reg : Registry) (es : List PairingEvent) {d : DeviceId}
    (clientId : UInt64) (clientIp : Bytes) {payload : Bytes} (env : PairRequestEnv)
    (hid : deviceIdFromString (parsePairRequest payload).deviceId zeroDeviceId = (true, d)) :
    RefusedAsLimited (pairingMachine.run { registry := reg } es) clientId clientIp payload env ↔
      LimitMet d (pairingMachine.trace { registry := reg } es) payload env.rateLimitNow := by
  have hhistory := limitHistory_run reg es
  rw [refusedAsLimited_iff, isRateLimited_iff]
  constructor
  · rintro ⟨hvalid, count, first, hentry, hwindow, hcount⟩
    -- An entry means that the text is canonical, so it is the text of `d`.
    obtain ⟨d', htext⟩ := hhistory.canonical _ (by rw [hentry]; simp)
    rw [htext, deviceIdFromString_deviceIdToString, Prod.mk.injEq] at hid
    obtain ⟨-, rfl⟩ := hid
    rw [htext, hhistory.entry] at hentry
    cases htimes : failureTimes d' (pairingMachine.trace { registry := reg } es) with
    | nil =>
      rw [htimes] at hentry
      cases hentry
    | cons first' later =>
      rw [htimes] at hentry
      cases hentry
      refine ⟨hvalid, htext, ?_, ?_⟩
      · rw [htimes]
        exact hcount
      · intro first'' later' hsplit
        rw [htimes] at hsplit
        cases hsplit
        exact hwindow
  · intro hmet
    refine ⟨hmet.valid, ?_⟩
    have hfailures := hmet.failures
    rw [hmet.spelling, hhistory.entry]
    cases htimes : failureTimes d (pairingMachine.trace { registry := reg } es) with
    | nil =>
      rw [htimes] at hfailures
      cases hfailures
    | cons first later =>
      rw [htimes] at hfailures
      exact ⟨later.length + 1, first, rfl, hmet.window first later htimes, hfailures⟩

/-- The pairing rate limit. When five failures of `d` within a minute make the limit due, a request
that names `d` is refused if and only if it is valid and spells the id in lower case, five failures
have come since a right PIN for `d`, and the first of those is in the last minute. -/
theorem rateLimited_iff (reg : Registry) (es : List PairingEvent) (d : DeviceId)
    (clientId : UInt64) (clientIp payload : Bytes) (env : PairRequestEnv) :
    (LimitDue d (pairingMachine.trace { registry := reg } es) payload env.rateLimitNow →
      RefusedAsLimited (pairingMachine.run { registry := reg } es) clientId clientIp payload env) ↔
    (LimitDue d (pairingMachine.trace { registry := reg } es) payload env.rateLimitNow →
      LimitMet d (pairingMachine.trace { registry := reg } es) payload env.rateLimitNow) := by
  refine forall_congr' fun hdue => ?_
  exact refusedAsLimited_run reg es clientId clientIp env hdue.1

/-! ### Requests that get through -/

/-- A malformed confirmation of client 1 at a time. -/
def badConfirm (t : UInt32) : PairingEvent :=
  .pairConfirm 1 [] { confirmEnv with failureNow := { dwLowDateTime := t } }

/-- A phone asks three times and fails at time 0, and then five times at a time `t`. -/
def failingRun (t : UInt32) : List PairingEvent :=
  [phoneRequest 1 97, badConfirm 0, badConfirm t, phoneRequest 1 97, badConfirm t, badConfirm t,
    phoneRequest 1 97, badConfirm t, badConfirm t]

-- The limiter works: the phone is refused after five failures at once.
example : ((pairingMachine.step (pairingMachine.run {} (failingRun 0)) (phoneRequest 1 97)).2.map
    PairingReply.payload) = some (buildErrorPayload ErrorCode.RATE_LIMITED.code
      "Pairing rate limit exceeded") := by
  decide +kernel

/-- The id of the phone. -/
def limitedId : DeviceId := (deviceIdFromString (phoneText 97) zeroDeviceId).2

/-- A right PIN whose record cannot be written. -/
def unwrittenConfirm : PairingEvent :=
  .pairConfirm 1 (confirmPayload 97)
    { confirmEnv with
      writeAccess := { RegAccess.ok with createRoot := fun _ => ERROR_FILE_NOT_FOUND } }

theorem not_refusedAsLimited {s : PairingWorld} {clientId : UInt64} {clientIp payload : Bytes}
    {env : PairRequestEnv}
    (h : (pairingMachine.step s (.pairRequest clientId clientIp payload env)).2.map
      PairingReply.responseType = some .PAIR_RESPONSE) :
    ¬ RefusedAsLimited s clientId clientIp payload env := by
  rintro ⟨hreply, -⟩
  rw [hreply] at h
  cases h

theorem limitDue_run {es : List PairingEvent} {payload : Bytes} {now : FILETIME}
    (hid : deviceIdFromString (parsePairRequest payload).deviceId zeroDeviceId = (true, limitedId))
    (hopen : (pairingMachine.trace {} es).all (fun x => !completedFor limitedId x) = true)
    (hcount : 5 ≤ (pairingMachine.trace {} es).countP (recentFailure limitedId now)) :
    LimitDue limitedId (pairingMachine.trace {} es) payload now := by
  refine ⟨hid, [], _, rfl, ?_, hcount⟩
  simpa using hopen

/-- After five failures within a minute the phone gets through when it spells its id in upper case,
when its first failure was two minutes earlier, and after a right PIN that could not be stored. -/
theorem rateLimit_missed :
    (LimitDue limitedId (pairingMachine.trace {} (failingRun 0)) (requestPayload 65) {} ∧
        ¬ RefusedAsLimited (pairingMachine.run {} (failingRun 0)) 1 [] (requestPayload 65)
          requestEnv) ∧
      (LimitDue limitedId (pairingMachine.trace {} (failingRun 1200000000)) (requestPayload 97)
          { dwLowDateTime := 1200000000 } ∧
        ¬ RefusedAsLimited (pairingMachine.run {} (failingRun 1200000000)) 1 [] (requestPayload 97)
          { requestEnv with rateLimitNow := { dwLowDateTime := 1200000000 } }) ∧
      LimitDue limitedId (pairingMachine.trace {} (failingRun 0 ++ [unwrittenConfirm]))
          (requestPayload 97) {} ∧
        ¬ RefusedAsLimited (pairingMachine.run {} (failingRun 0 ++ [unwrittenConfirm])) 1 []
          (requestPayload 97) requestEnv := by
  refine ⟨⟨?_, ?_⟩, ⟨?_, ?_⟩, ?_, ?_⟩
  · exact limitDue_run (by decide +kernel) (by decide +kernel) (by decide +kernel)
  · exact not_refusedAsLimited (by decide +kernel)
  · exact limitDue_run (by decide +kernel) (by decide +kernel) (by decide +kernel)
  · exact not_refusedAsLimited (by decide +kernel)
  · exact limitDue_run (by decide +kernel) (by decide +kernel) (by decide +kernel)
  · exact not_refusedAsLimited (by decide +kernel)

end MobileUnlock.Pairing
