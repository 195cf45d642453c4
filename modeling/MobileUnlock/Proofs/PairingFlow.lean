import MobileUnlock.Proofs.Pairing

/-!
# `MobileUnlock.Proofs.PairingFlow`: pairing completes whatever other clients do

A client opens a session with a PAIR_REQUEST and confirms its PIN within a minute. In between
other clients request, confirm, cancel and unpair, and expired sessions are dropped.
`session_foreign_run` shows that none of this touches the session: the sessions are keyed by the
client, and the session is not expired at any clock reading between its PIN and the
confirmation. `pairing_completes` adds that the confirmation is then accepted and that its write
makes the device active.
-/

set_option autoImplicit false

namespace MobileUnlock.Pairing

open MobileUnlock.Lib MobileUnlock.Lib.Win32 MobileUnlock.Protocol

/-! ### The PIN -/

/-- A decimal digit as a character. -/
theorem digit_in_range (n : Nat) :
    (48 ≤ UInt8.ofNat (48 + n % 10) && UInt8.ofNat (48 + n % 10) ≤ 57) = true := by
  have hlt : n % 10 < 10 := Nat.mod_lt n (by omega)
  have hall : ∀ k : Fin 10,
      (48 ≤ UInt8.ofNat (48 + k.val) && UInt8.ofNat (48 + k.val) ≤ 57) = true := by decide
  exact hall ⟨n % 10, hlt⟩

/-- A PIN that is generated has the format of a PIN. -/
theorem isValidPinFormat_generateSasPin {rng : RandomSource} (h : generateSasPin rng ≠ []) :
    isValidPinFormat (generateSasPin rng) = true := by
  unfold generateSasPin at h ⊢
  split
  · rename_i hno
    rw [if_pos hno] at h
    exact absurd rfl h
  · unfold isValidPinFormat sixDigits
    rw [Bool.and_eq_true, List.all_map, List.all_eq_true]
    refine ⟨by simp [SAS_PIN_LENGTH], ?_⟩
    intro p _
    exact digit_in_range _

/-- The stored PIN is validated at the first attempt, as long as it has not expired. -/
theorem validateSasPin_self {pin : Bytes} {generatedAt now : FILETIME}
    (hformat : isValidPinFormat pin = true) (hfresh : sasPinExpired generatedAt now = false) :
    validateSasPin pin pin generatedAt 0 now = true := by
  have hlen : pin.length = SAS_PIN_LENGTH := by
    simp only [isValidPinFormat, Bool.and_eq_true, beq_iff_eq] at hformat
    exact hformat.1
  unfold validateSasPin
  rw [if_neg (by decide), hfresh, if_neg (by simp), if_neg (not_not.mpr hformat),
    if_neg (not_not.mpr hlen)]
  dsimp only
  rw [beq_iff_eq, foldl_or_eq_zero]
  refine ⟨rfl, ?_⟩
  intro i _
  rw [UInt8.xor_self]

/-- A PIN does not expire within a minute, and its expiry is monotone in the clock. -/
theorem sasPinExpired_of_le {generatedAt now later : FILETIME}
    (hge : generatedAt.toU64 ≤ now.toU64) (hle : now.toU64 ≤ later.toU64)
    (hlater : later.toU64.toNat ≤ generatedAt.toU64.toNat + 600000000) :
    sasPinExpired generatedAt now = false := by
  have hlimit : (UInt64.ofNat SAS_EXPIRY_SECONDS * 10000000).toNat = 600000000 := by decide
  unfold sasPinExpired
  rw [if_neg (UInt64.not_lt.mpr hge), decide_eq_false_iff_not, gt_iff_lt, UInt64.lt_iff_toNat_lt,
    hlimit, UInt64.toNat_sub_of_le _ _ hge]
  rw [UInt64.le_iff_toNat_le] at hle
  omega

/-! ### The session -/

/-- A request answered with PAIR_RESPONSE has opened a session with the PIN it displays. -/
theorem handlePairRequest_response {m : PairingManager} {reg : Registry} {clientId : UInt64}
    {clientIp payload : Bytes} {env : PairRequestEnv}
    (h : (handlePairRequest m reg clientId clientIp payload env).2.responseType
      = .PAIR_RESPONSE) :
    (parsePairRequest payload).valid = true ∧ generateSasPin env.rng ≠ [] ∧
      (handlePairRequest m reg clientId clientIp payload env).2.callbacks
        = [.sasDisplay (generateSasPin env.rng) (parsePairRequest payload).deviceName] ∧
      (handlePairRequest m reg clientId clientIp payload env).1.sessions clientId
        = some (openSession (parsePairRequest payload) clientId clientIp
          (generateSasPin env.rng) env.generatedNow) := by
  -- Every refusal has the type PROTO_ERROR, so each check has been passed.
  unfold handlePairRequest at h ⊢
  dsimp only at h ⊢
  split at h
  · cases h
  rename_i hvalid
  rw [if_neg hvalid]
  split at h
  · cases h
  rename_i hlimited
  rw [if_neg hlimited]
  split at h
  · cases h
  rename_i hactive
  rw [if_neg hactive]
  split at h
  · cases h
  rename_i hcount
  rw [if_neg hcount]
  split at h
  · cases h
  rename_i hpin
  rw [if_neg hpin]
  exact ⟨not_not.mp hvalid, hpin, rfl, PairingManager.setSession_self _ _ _⟩

/-- The event is not an operation of client `c`, and an expiry that it brings reads the clock for
`c` between `t` and `t'`. -/
def Foreign (c : UInt64) (t t' : FILETIME) : PairingEvent → Prop
  | .pairRequest clientId _ _ _ => clientId ≠ c
  | .pairConfirm clientId _ _ => clientId ≠ c
  | .cancelSession clientId => clientId ≠ c
  | .unpairRequest clientId _ _ => clientId ≠ c
  | .expireSessions now => t.toU64 ≤ (now c).toU64 ∧ (now c).toU64 ≤ t'.toU64
  | .revokeDevice _ _ => True
  | .deleteDevice _ _ => True

/-- A foreign event leaves the session, which is not expired until `t'`. -/
theorem session_foreign_step {c : UInt64} {t t' : FILETIME} {session : PairingSession}
    (ht : session.sasGeneratedAt = t) (hlater : t'.toU64.toNat ≤ t.toU64.toNat + 600000000)
    (s : PairingWorld) (e : PairingEvent) (hs : s.manager.sessions c = some session)
    (he : Foreign c t t' e) :
    (pairingMachine.step s e).1.manager.sessions c = some session := by
  cases e with
  | pairRequest clientId clientIp payload env =>
    show (handlePairRequest s.manager s.registry clientId clientIp payload env).1.sessions c = _
    rw [handlePairRequest_sessions_ne (Ne.symm he), hs]
  | pairConfirm clientId payload env =>
    show (handlePairConfirm s.manager s.registry clientId payload env).1.sessions c = _
    rw [handlePairConfirm_sessions_ne (Ne.symm he), hs]
  | cancelSession clientId =>
    show (s.manager.clearSession clientId).sessions c = _
    rw [s.manager.clearSession_ne clientId (Ne.symm he), hs]
  | expireSessions now =>
    -- The only foreign event that looks at the session of `c`, and its PIN is still fresh.
    have hfresh : sasPinExpired session.sasGeneratedAt (now c) = false := by
      rw [ht]
      exact sasPinExpired_of_le he.1 he.2 hlater
    show (expireStaleSessions s.manager now).sessions c = _
    simp only [expireStaleSessions, hs, hfresh, Bool.false_eq_true, if_false]
  | unpairRequest | revokeDevice | deleteDevice => exact hs

/-- So do any number of foreign events. -/
theorem session_foreign_run {c : UInt64} {t t' : FILETIME} {session : PairingSession}
    (ht : session.sasGeneratedAt = t) (hlater : t'.toU64.toNat ≤ t.toU64.toNat + 600000000)
    {s : PairingWorld} (hs : s.manager.sessions c = some session) {es : List PairingEvent}
    (hes : ∀ e ∈ es, Foreign c t t' e) :
    (pairingMachine.run s es).manager.sessions c = some session := by
  refine pairingMachine.invariant (P := fun s => s.manager.sessions c = some session) ?_ hs
    (pairingMachine.along_of_forall hes s)
  intro s e hs he
  exact session_foreign_step ht hlater s e hs he

/-! ### The write -/

/-- Without faults a write succeeds. -/
theorem writeDeviceRecord_ok (reg : Registry) (record : DeviceRecord) :
    (writeDeviceRecord RegAccess.ok reg record).1 = ERROR_SUCCESS := rfl

/-- Writing an active record without faults makes the key of the device active. -/
theorem keyActive_writeDeviceRecord (reg : Registry) {record : DeviceRecord}
    (h : record.pairStatus = kStatusActive) :
    KeyActive (writeDeviceRecord RegAccess.ok reg record).2
      (deviceKey (deviceIdToString record.deviceId)) := by
  obtain ⟨err, herr, hsame⟩ | ⟨vals, hwrite⟩ := writeDeviceRecord_cases RegAccess.ok reg record
  · have hok := writeDeviceRecord_ok reg record
    rw [hsame] at hok
    exact absurd hok herr
  · rw [hwrite]
    refine ⟨storeRecord RegAccess.ok (deviceKey (deviceIdToString record.deviceId)) record vals,
      ?_, ?_⟩
    · rw [Registry.store_withStore, AList.lookup_insert]
    · have hdata := @recordData_ne_nil record .pairStatus (by decide)
      rw [storedStatus, storeRecord_apply, if_pos ⟨hdata, rfl⟩, recordData, h]
      decide

/-- An accepted confirmation whose write has no faults completes the pairing. -/
theorem handlePairConfirm_completes {m : PairingManager} {c : UInt64} {confirm : Bytes}
    {env : PairConfirmEnv} {session : PairingSession}
    (haccepted : acceptedSession m c confirm env = some session)
    (hok : env.writeAccess = RegAccess.ok) (reg : Registry) :
    (handlePairConfirm m reg c confirm env).2.2.responseType = .PAIR_COMPLETE ∧
      (handlePairConfirm m reg c confirm env).1.sessions c = none ∧
      KeyActive (handlePairConfirm m reg c confirm env).2.1
        (deviceKey (deviceIdToString session.deviceId)) := by
  have hcase := handlePairConfirm_case m reg c confirm env
  generalize handlePairConfirm m reg c confirm env = out at hcase
  cases hcase with
  | noSession hno | malformed hno | wrongPin hno | closed hno =>
    rw [hno] at haccepted
    cases haccepted
  | writeFailed session' hs herr =>
    rw [hok] at herr
    exact absurd (writeDeviceRecord_ok _ _) herr
  | stored session' hs herr m' hm' reply htype =>
    rw [hs, Option.some.injEq] at haccepted
    subst haccepted
    refine ⟨htype, ?_, ?_⟩
    · show m'.sessions c = none
      rw [hm', PairingManager.clearSession_self]
    · rw [hok]
      exact keyActive_writeDeviceRecord reg rfl

/-! ### The flow -/

/-- The session of a request with a well-formed id is confirmed with its PIN within a minute: the
pairing completes and the device is active. -/
theorem openSession_confirmed {s : PairingWorld} {c : UInt64} {clientIp pin confirm : Bytes}
    {req : PairRequestPayload} {t : FILETIME} {env : PairConfirmEnv}
    (hid : WellFormedUuid req.deviceId) (hpin : isValidPinFormat pin = true)
    (hs : s.manager.sessions c = some (openSession req c clientIp pin t))
    (hfresh : sasPinExpired t env.validateNow = false)
    (hvalid : (parsePairConfirm confirm).valid = true)
    (hguess : (parsePairConfirm confirm).sasPin = pin) (hok : env.writeAccess = RegAccess.ok) :
    (pairingMachine.step s (.pairConfirm c confirm env)).2.map PairingReply.responseType
        = some .PAIR_COMPLETE ∧
      (pairingMachine.step s (.pairConfirm c confirm env)).1.manager.sessions c = none ∧
      isDeviceActive RegAccess.ok (pairingMachine.step s (.pairConfirm c confirm env)).1.registry
        (req.deviceId.map toLower) = true := by
  have haccepted : acceptedSession s.manager c confirm env
      = some (openSession req c clientIp pin t) := by
    refine acceptedSession_eq_some.mpr ⟨hs, rfl, hvalid, ?_⟩
    rw [hguess]
    exact validateSasPin_self hpin hfresh
  obtain ⟨hcomplete, hgone, hactive⟩ := handlePairConfirm_completes haccepted hok s.registry
  refine ⟨congrArg some hcomplete, hgone, ?_⟩
  -- the lower-case text and the parsed id address the same key
  have hkey : deviceKey (req.deviceId.map toLower)
      = deviceKey (deviceIdToString (deviceIdFromString req.deviceId zeroDeviceId).2) := by
    rw [hid.deviceKey_eq zeroDeviceId]
    exact KeyName.ext (keyNameText_map_toLower _)
  rw [isDeviceActive_ok, hkey]
  exact hactive

/-- A PAIR_REQUEST of client `c` with a well-formed id opens a session, and `c` confirms the PIN
within a minute. Whatever other clients do in between, the pairing completes and the device is
active. -/
theorem pairing_completes (s : PairingWorld) (c : UInt64) (clientIp request confirm : Bytes)
    (renv : PairRequestEnv) (cenv : PairConfirmEnv) (es : List PairingEvent)
    (reply : PairingReply) (pin name : Bytes)
    (hid : WellFormedUuid (parsePairRequest request).deviceId)
    (hreply : (pairingMachine.step s (.pairRequest c clientIp request renv)).2 = some reply)
    (htype : reply.responseType = .PAIR_RESPONSE) (hpin : .sasDisplay pin name ∈ reply.callbacks)
    (hes : ∀ e ∈ es, Foreign c renv.generatedNow cenv.validateNow e)
    (htime : renv.generatedNow.toU64.toNat ≤ cenv.validateNow.toU64.toNat)
    (htime' : cenv.validateNow.toU64.toNat ≤ renv.generatedNow.toU64.toNat + 600000000)
    (hvalid : (parsePairConfirm confirm).valid = true)
    (hguess : (parsePairConfirm confirm).sasPin = pin)
    (hok : cenv.writeAccess = RegAccess.ok) :
    let before := pairingMachine.run
      (pairingMachine.step s (.pairRequest c clientIp request renv)).1 es
    let after := pairingMachine.step before (.pairConfirm c confirm cenv)
    after.2.map PairingReply.responseType = some .PAIR_COMPLETE ∧
      after.1.manager.sessions c = none ∧
      isDeviceActive RegAccess.ok after.1.registry
        ((parsePairRequest request).deviceId.map toLower) = true := by
  have hreply' : (handlePairRequest s.manager s.registry c clientIp request renv).2 = reply :=
    Option.some.inj hreply
  rw [← hreply'] at htype hpin
  obtain ⟨-, hnonempty, hcallbacks, hopened⟩ := handlePairRequest_response htype
  have hpin' : pin = generateSasPin renv.rng := by
    rw [hcallbacks, List.mem_singleton] at hpin
    injection hpin
  have hfresh : sasPinExpired renv.generatedNow cenv.validateNow = false :=
    sasPinExpired_of_le (UInt64.le_iff_toNat_le.mpr htime) (UInt64.le_refl _) htime'
  have hopened' : (pairingMachine.step s
      (.pairRequest c clientIp request renv)).1.manager.sessions c
      = some (openSession (parsePairRequest request) c clientIp (generateSasPin renv.rng)
        renv.generatedNow) := hopened
  have hstart : (openSession (parsePairRequest request) c clientIp (generateSasPin renv.rng)
      renv.generatedNow).sasGeneratedAt = renv.generatedNow := rfl
  -- the session is still there when the confirmation arrives
  have hsession := session_foreign_run hstart htime' hopened' hes
  exact openSession_confirmed hid (isValidPinFormat_generateSasPin hnonempty) hsession hfresh
    hvalid (hguess.trans hpin') hok

/-- Two phones pair at once over two connections, and stale sessions are dropped in between. The
first one completes. -/
theorem pairing_completes_twoPhones :
    let before := pairingMachine.run (pairingMachine.step {} (phoneRequest 1 49)).1
      [phoneRequest 2 50, phoneConfirm 2 50, .expireSessions fun _ => {}]
    let after := pairingMachine.step before (phoneConfirm 1 49)
    after.2.map PairingReply.responseType = some .PAIR_COMPLETE ∧
      after.1.manager.sessions 1 = none ∧
      isDeviceActive RegAccess.ok after.1.registry
        ((parsePairRequest (requestPayload 49)).deviceId.map toLower) = true := by
  exact pairing_completes {} 1 [] (requestPayload 49) (confirmPayload 49) requestEnv confirmEnv _
    ⟨.PAIR_RESPONSE, buildPairResponse [], [.sasDisplay (ascii "000007") (ascii "Phone")]⟩
    (ascii "000007") (ascii "Phone")
    (by decide +kernel) (by decide +kernel) rfl (by simp)
    (by
      intro e he
      simp only [List.mem_cons, List.not_mem_nil, or_false] at he
      rcases he with rfl | rfl | rfl
      · show (2 : UInt64) ≠ 1
        decide
      · show (2 : UInt64) ≠ 1
        decide
      · exact ⟨UInt64.le_refl _, UInt64.le_refl _⟩)
    (by decide) (by decide) (by decide +kernel) (by decide +kernel) rfl

end MobileUnlock.Pairing
