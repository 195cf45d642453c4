import MobileUnlock.Proofs.Pairing

/-!
# `MobileUnlock.Proofs.ActivePairing`: an active pairing is not overwritten

Whether a device is already paired is checked when a session is opened, under the id text of
the request. The record is written when the session is confirmed, under the id parsed from that
text. Two clients that ask for one device both pass the check, and the second confirmation
overwrites an active record (`keepsActive_twoClients`).

`AloneForDevice` is the condition on a step that closes these gaps: a request gives a
well-formed id, its check can read the registry, and no other client has a waiting session for
the device. Along every run whose steps meet it, no waiting session belongs to an active device
(`PendingInactive`), and so no active pairing is overwritten (`keepsActive_run`).
-/

set_option autoImplicit false

namespace MobileUnlock.Pairing

open MobileUnlock.Lib MobileUnlock.Lib.Win32 MobileUnlock.Protocol

/-! ### Statement -/

/-- The event unpairs or revokes `d`. -/
def Unpairs (d : DeviceId) : PairingEvent → Prop
  | .unpairRequest _ payload _ =>
    deviceKey (jsonGetString payload (ascii "deviceId")) = deviceKey (deviceIdToString d)
  | .revokeDevice deviceIdStr _ => deviceKey deviceIdStr = deviceKey (deviceIdToString d)
  | .deleteDevice deviceIdStr _ => deviceKey deviceIdStr = deviceKey (deviceIdToString d)
  | _ => False

/-- The step does not overwrite an active pairing. A confirmation answered with PAIR_COMPLETE
finds the device of its session not active. The values of an active device change only when it
is unpaired or revoked. -/
def KeepsActive (x : PairingEntry) : Prop :=
  (∀ c payload env session, x.event = .pairConfirm c payload env →
    replyType x = some .PAIR_COMPLETE → x.before.manager.sessions c = some session →
    isDeviceActive RegAccess.ok x.before.registry (deviceIdToString session.deviceId) = false) ∧
  ∀ d, isDeviceActive RegAccess.ok x.before.registry (deviceIdToString d) = true →
    ¬ Unpairs d x.event →
    x.after.registry.store.lookup (deviceKey (deviceIdToString d))
      = x.before.registry.store.lookup (deviceKey (deviceIdToString d))

/-- The condition on a step. A valid request gives a well-formed id, the check can open its key
and read its status, and no other client has a waiting session for that device. The write of a
confirmation is not turned away from `HKLM` to `HKCU`. -/
def AloneForDevice (s : PairingWorld) : PairingEvent → Prop
  | .pairRequest c _ payload env =>
    (parsePairRequest payload).valid = true →
      WellFormedUuid (parsePairRequest payload).deviceId ∧
      env.activeAccess.openKey (deviceKey (parsePairRequest payload).deviceId) = ERROR_SUCCESS ∧
      env.activeAccess.queryValue (deviceKey (parsePairRequest payload).deviceId) .pairStatus
        = ERROR_SUCCESS ∧
      ∀ c' session, c' ≠ c → s.manager.sessions c' = some session →
        session.state = .WAITING_FOR_SAS →
        session.deviceId ≠ (deviceIdFromString (parsePairRequest payload).deviceId zeroDeviceId).2
  | .pairConfirm _ _ env => (ensureRoot env.writeAccess s.registry).2 = s.registry
  | _ => True

/-! ### What a step changes in the registry -/

/-- The key a step may change. -/
def touchedKey (s : PairingWorld) : PairingEvent → Option KeyName
  | .pairConfirm c payload env =>
    (acceptedSession s.manager c payload env).map fun session =>
      deviceKey (deviceIdToString session.deviceId)
  | .unpairRequest _ payload _ => some (deviceKey (jsonGetString payload (ascii "deviceId")))
  | .revokeDevice deviceIdStr _ => some (deviceKey deviceIdStr)
  | .deleteDevice deviceIdStr _ => some (deviceKey deviceIdStr)
  | _ => none

/-- Other keys stay as they are. -/
theorem lookup_step {s : PairingWorld} {e : PairingEvent} (halone : AloneForDevice s e)
    {name : KeyName} (hname : touchedKey s e ≠ some name) :
    (pairingMachine.step s e).1.registry.store.lookup name = s.registry.store.lookup name := by
  cases e with
  | pairConfirm c payload env =>
    show (handlePairConfirm s.manager s.registry c payload env).2.1.store.lookup name = _
    rw [handlePairConfirm_registry]
    cases haccepted : acceptedSession s.manager c payload env with
    | none => rfl
    | some session =>
      have hkey : name ≠ deviceKey (deviceIdToString session.deviceId) := by
        rintro rfl
        exact hname (by rw [touchedKey, haccepted, Option.map_some])
      -- The write stays in the hive of the readers, and there it changes the key of its session.
      have hroot : (ensureRoot env.writeAccess s.registry).2 = s.registry := halone
      have hchanged := writeDeviceRecord_changedAt env.writeAccess s.registry
        (confirmedRecord session env.accountSid env.pairedNow)
      rw [hroot] at hchanged
      exact hchanged.2 name hkey
  | unpairRequest clientId payload acc =>
    show (handleUnpairRequest s.registry payload acc).1.store.lookup name = _
    obtain hsame | hdel := handleUnpairRequest_registry s.registry payload acc
    · rw [hsame]
    · rw [hdel]
      exact (deleteDeviceRecord_changedAt _ _ _).2 name fun h => hname (by rw [touchedKey, h])
  | revokeDevice deviceIdStr acc =>
    exact (setDeviceValue_changedAt _ _ _ _ _).2 name fun h => hname (by rw [touchedKey, h])
  | deleteDevice deviceIdStr acc =>
    exact (deleteDeviceRecord_changedAt _ _ _).2 name fun h => hname (by rw [touchedKey, h])
  | pairRequest | cancelSession | expireSessions => rfl

/-- Only an accepted confirmation makes a key active. -/
theorem keyActive_step {s : PairingWorld} {e : PairingEvent} (halone : AloneForDevice s e)
    {name : KeyName}
    (hname : ∀ c payload env session, e = .pairConfirm c payload env →
      acceptedSession s.manager c payload env = some session →
      deviceKey (deviceIdToString session.deviceId) ≠ name)
    (h : KeyActive (pairingMachine.step s e).1.registry name) : KeyActive s.registry name := by
  by_cases htouched : touchedKey s e = some name
  · cases e with
    | pairConfirm c payload env =>
      obtain ⟨session, haccepted, hkey⟩ := Option.map_eq_some_iff.mp htouched
      exact absurd hkey (hname c payload env session rfl haccepted)
    | unpairRequest clientId payload acc =>
      change KeyActive (handleUnpairRequest s.registry payload acc).1 name at h
      obtain hsame | hdel := handleUnpairRequest_registry s.registry payload acc
      · rwa [hsame] at h
      · rw [hdel] at h
        exact keyActive_of_deleteDeviceRecord h
    | revokeDevice deviceIdStr acc => exact keyActive_of_setDeviceStatus (by decide) h
    | deleteDevice deviceIdStr acc => exact keyActive_of_deleteDeviceRecord h
    | pairRequest | cancelSession | expireSessions => cases htouched
  · rwa [keyActive_congr (lookup_step halone htouched)] at h

/-! ### The invariant -/

/-- No waiting session belongs to an active device, and no two clients wait for one device. -/
structure PendingInactive (s : PairingWorld) : Prop where
  inactive : ∀ c session, s.manager.sessions c = some session →
    session.state = .WAITING_FOR_SAS →
    ¬ KeyActive s.registry (deviceKey (deviceIdToString session.deviceId))
  distinct : ∀ c c' session session', c ≠ c' → s.manager.sessions c = some session →
    session.state = .WAITING_FOR_SAS → s.manager.sessions c' = some session' →
    session'.state = .WAITING_FOR_SAS → session.deviceId ≠ session'.deviceId

/-- A device that a request has just passed is not active. -/
theorem not_keyActive_of_request {reg : Registry} {acc : Access} {text : Bytes}
    (hform : WellFormedUuid text) (hopen : acc.openKey (deviceKey text) = ERROR_SUCCESS)
    (hquery : acc.queryValue (deviceKey text) .pairStatus = ERROR_SUCCESS)
    (hactive : isDeviceActive acc reg text = false) :
    ¬ KeyActive reg
      (deviceKey (deviceIdToString (deviceIdFromString text zeroDeviceId).2)) := by
  rw [hform.deviceKey_eq]
  intro hkey
  rw [isDeviceActive_of_keyActive hopen hquery hkey] at hactive
  cases hactive

theorem pendingInactive_step (s : PairingWorld) (e : PairingEvent) (h : PendingInactive s)
    (halone : AloneForDevice s e) : PendingInactive (pairingMachine.step s e).1 := by
  constructor
  · intro c session' hs' hwait' hkey
    obtain ⟨clientIp, payload, env, rfl, hid, hvalid, hactive⟩ |
        ⟨session, hs, hwait, hid, hno⟩ := waiting_step hs' hwait'
    · -- A session that is just open: the check has read the key that will be written.
      obtain ⟨hform, hopen, hquery, -⟩ := halone hvalid
      rw [hid] at hkey
      exact not_keyActive_of_request hform hopen hquery hactive hkey
    · -- A session that was there: only a confirmation of another client makes a key active,
      -- and that client waits for another device.
      rw [← hid] at hkey
      refine h.inactive c session hs hwait (keyActive_step halone ?_ hkey)
      intro c' payload env accepted he haccepted hsame
      obtain ⟨hs₁, hwait₁, -⟩ := acceptedSession_eq_some.mp haccepted
      by_cases hc : c' = c
      · subst hc
        rw [hno payload env he] at haccepted
        cases haccepted
      · exact h.distinct c' c accepted session hc hs₁ hwait₁ hs hwait (deviceKey_inj.mp hsame)
  · intro c c' session session' hne hs hwait hs' hwait'
    obtain ⟨clientIp, payload, env, he, hid, hvalid, -⟩ | ⟨old, hold, holdwait, hid, -⟩ :=
      waiting_step hs hwait
    · obtain ⟨clientIp', payload', env', he', -⟩ | ⟨old', hold', holdwait', hid', -⟩ :=
        waiting_step hs' hwait'
      · -- One step opens one session.
        rw [he] at he'
        cases he'
        exact absurd rfl hne
      · subst he
        obtain ⟨-, -, -, hothers⟩ := halone hvalid
        rw [hid, ← hid']
        exact Ne.symm (hothers c' old' (Ne.symm hne) hold' holdwait')
    · obtain ⟨clientIp', payload', env', he', hid', hvalid', -⟩ |
          ⟨old', hold', holdwait', hid', -⟩ := waiting_step hs' hwait'
      · subst he'
        obtain ⟨-, -, -, hothers⟩ := halone hvalid'
        rw [hid', ← hid]
        exact hothers c old hne hold holdwait
      · rw [← hid, ← hid']
        exact h.distinct c c' old old' hne hold holdwait hold' holdwait'

/-- A step from a state with the invariant does not overwrite an active pairing. -/
theorem keepsActive_entry {s : PairingWorld} {e : PairingEvent} (h : PendingInactive s)
    (halone : AloneForDevice s e) : KeepsActive (pairingMachine.entry s e) := by
  constructor
  · intro c payload env session he hreply hs
    change e = _ at he
    subst he
    -- A completed pairing had a waiting session, and the invariant keeps its device inactive.
    obtain ⟨accepted, haccepted, -, -⟩ := handlePairConfirm_complete (Option.some.inj hreply)
    obtain ⟨hs', hwait, -⟩ := acceptedSession_eq_some.mp haccepted
    change s.manager.sessions c = some session at hs
    rw [hs] at hs'
    cases hs'
    rw [← Bool.not_eq_true, isDeviceActive_ok]
    exact h.inactive c session hs hwait
  · intro d hactive hunpairs
    -- Any other key that changes would belong to a waiting session or to an unpairing.
    refine lookup_step halone ?_
    intro htouched
    cases e with
    | pairConfirm c payload env =>
      obtain ⟨session, haccepted, hkey⟩ := Option.map_eq_some_iff.mp htouched
      obtain ⟨hs, hwait, -⟩ := acceptedSession_eq_some.mp haccepted
      refine h.inactive c session hs hwait ?_
      rw [hkey]
      exact isDeviceActive_ok.mp hactive
    | unpairRequest clientId payload acc => exact hunpairs (Option.some.inj htouched)
    | revokeDevice deviceIdStr acc => exact hunpairs (Option.some.inj htouched)
    | deleteDevice deviceIdStr acc => exact hunpairs (Option.some.inj htouched)
    | pairRequest | cancelSession | expireSessions => cases htouched

/-! ### Runs -/

/-- Along every run from the constructor state whose steps meet the condition, no step
overwrites an active pairing. -/
theorem keepsActive_run (reg : Registry) (es : List PairingEvent)
    (halone : pairingMachine.Along AloneForDevice { registry := reg } es) :
    ∀ x ∈ pairingMachine.trace { registry := reg } es, KeepsActive x := by
  have hstart : PendingInactive { registry := reg } := by
    constructor
    · intro c session hs
      cases hs
    · intro c c' session session' _ hs
      cases hs
  intro x hx
  obtain ⟨n, hn⟩ := List.mem_iff_getElem?.mp hx
  rw [Machine.trace_getElem?] at hn
  obtain ⟨e, he, rfl⟩ := Option.map_eq_some_iff.mp hn
  refine keepsActive_entry ?_ (pairingMachine.along_getElem? halone he)
  exact pairingMachine.invariant pendingInactive_step hstart (pairingMachine.along_take halone n)

/-- One phone pairs, from an empty registry. -/
theorem keepsActive_run_onePhone :
    KeepsActive (pairingMachine.entry (pairingMachine.run { registry := {} } [phoneRequest 1 49])
      (phoneConfirm 1 49)) := by
  have hrequest : AloneForDevice { registry := {} } (phoneRequest 1 49) := by
    intro _
    refine ⟨by decide +kernel, rfl, rfl, ?_⟩
    intro c' session _ hs
    cases hs
  have hconfirm : ∀ reg : Registry, (ensureRoot RegAccess.ok reg).2 = reg := by
    intro reg
    simp [ensureRoot, RegAccess.ok, ERROR_SUCCESS, ERROR_ACCESS_DENIED]
  refine keepsActive_run {} [phoneRequest 1 49, phoneConfirm 1 49]
    (And.intro hrequest (And.intro (hconfirm _) trivial)) _ ?_
  exact List.mem_cons_of_mem _ (List.mem_singleton_self _)

/-- Two clients ask for one device before either of them confirms. The first confirmation makes
it active, and the second one writes over the active record. -/
theorem keepsActive_twoClients :
    ¬ KeepsActive (pairingMachine.entry (pairingMachine.run {}
      [phoneRequest 1 49, phoneRequest 2 49, phoneConfirm 1 49]) (phoneConfirm 2 49)) := by
  rintro ⟨hinactive, -⟩
  have hfalse := hinactive 2 (confirmPayload 49) confirmEnv
    (openSession (parsePairRequest (requestPayload 49)) 2 [] (generateSasPin requestEnv.rng) {})
    rfl (by decide +kernel) (by decide +kernel)
  exact absurd hfalse (by decide +kernel)

end MobileUnlock.Pairing
