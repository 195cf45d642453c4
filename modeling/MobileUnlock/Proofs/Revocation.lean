import MobileUnlock.Proofs.LsaLogon
import MobileUnlock.Proofs.Pairing
import MobileUnlock.Service.SharedRegistry

/-!
# `MobileUnlock.Proofs.Revocation`: a revoked device is refused at once

Every decision for a device reads the registry anew, so it is enough that the key of a revoked
device stays inactive. `Restores` lists the two calls that can make it active again. Every other
call keeps it inactive, whoever makes it (`not_keyActive_step`), and from an inactive key no
request, response, logon or query of the device succeeds (`Refused`).

The registry root is process-wide and `writeDeviceRecord` may move it. Runs here keep it.
-/

set_option autoImplicit false

namespace MobileUnlock.Service

open MobileUnlock.Lib MobileUnlock.Lib.Win32 MobileUnlock.Protocol MobileUnlock.Pairing
open MobileUnlock.Authentication MobileUnlock.Lsa

/-- The text names the device. -/
def NamesDevice (d : DeviceId) (deviceIdStr : Bytes) : Prop :=
  deviceKey deviceIdStr = deviceKey (deviceIdToString d)

/-- The call revokes `d` or deletes its record, and succeeds. -/
def Revokes (d : DeviceId) (s : SharedState) : SharedEvent → Prop
  | .setDeviceStatus str status acc =>
    NamesDevice d str ∧ status = kStatusRevoked ∧
      (setDeviceStatus acc s.registry str status).1 = ERROR_SUCCESS
  | .deleteDeviceRecord str acc =>
    NamesDevice d str ∧ (deleteDeviceRecord acc s.registry str).1 = ERROR_SUCCESS
  | .pairing (.revokeDevice str acc) =>
    NamesDevice d str ∧ (setDeviceStatus acc s.registry str kStatusRevoked).1 = ERROR_SUCCESS
  | .pairing (.deleteDevice str acc) =>
    NamesDevice d str ∧ (deleteDeviceRecord acc s.registry str).1 = ERROR_SUCCESS
  | .pairing (.unpairRequest _ payload acc) =>
    (jsonGetString payload (ascii "deviceId")).length = 36 ∧
      NamesDevice d (jsonGetString payload (ascii "deviceId")) ∧
      (deleteDeviceRecord acc s.registry (jsonGetString payload (ascii "deviceId"))).1
        = ERROR_SUCCESS
  | _ => False

/-- The call writes a record for `d`, or sets its status to active. -/
def Restores (d : DeviceId) (s : SharedState) : SharedEvent → Prop
  | .writeDeviceRecord record _ => record.deviceId = d
  | .pairing (.pairConfirm clientId payload env) =>
    ∃ session, acceptedSession s.pairing clientId payload env = some session ∧
      session.deviceId = d
  | .setDeviceStatus str status _ => NamesDevice d str ∧ status = kStatusActive
  | _ => False

/-- The call does not restore `d` and leaves the registry root where it is. -/
def LeavesRevoked (d : DeviceId) (s : SharedState) (e : SharedEvent) : Prop :=
  ¬ Restores d s e ∧ (sharedMachine.step s e).1.registry.root = s.registry.root

/-- Nothing succeeds for `d` in this state. -/
structure Refused (d : DeviceId) (s : SharedState) : Prop where
  request : ∀ hdr out env,
    (handleAuthRequest s.authentication s.registry d hdr out env).2.result ≠ .SUCCESS
  response : ∀ hdr payload env msg, parseAuthResponse payload = .ok msg →
    msg.deviceIdentity = d →
    (handleAuthResponse s.authentication s.registry hdr payload env).2.2.result ≠ .SUCCESS
  logon : ∀ env heap ptrs data, (MobileUnlockLsaLogonBuffer.ofLayout data).deviceId = d →
    (logonUserEx2 env s.registry heap ptrs (some data)).1 ≠ .STATUS_SUCCESS
  query : ∀ str acc, NamesDevice d str → isDeviceActive acc s.registry str = false

/-! ### An inactive key is refused -/

/-- A record lookup succeeds for an active key only. -/
theorem keyActive_of_lookupDevice {acc : Access} {reg : Registry} {str : Bytes}
    {record : DeviceRecord} (h : lookupDevice acc reg str = .ok record) :
    KeyActive reg (deviceKey str) := by
  obtain ⟨hread, hactive, -⟩ := lookupDevice_ok.mp h
  have hsuccess : (readDeviceRecord acc reg str {}).1 = ERROR_SUCCESS := by rw [hread]
  refine keyActive_of_readDeviceRecord hsuccess ?_
  rw [hread]
  exact hactive

/-- A request that succeeds is for an active key. -/
theorem keyActive_of_authRequest {m : AuthenticationManager} {reg : Registry} {d : DeviceId}
    {hdr out : FrameHeader} {env : RequestEnv}
    (h : (handleAuthRequest m reg d hdr out env).2.result = .SUCCESS) :
    KeyActive reg (deviceKey (deviceIdToString d)) := by
  have hcase := handleAuthRequest_case m reg d hdr out env
  generalize handleAuthRequest m reg d hdr out env = reply at h hcase
  cases hcase with
  | limited => cases h
  | refused hl r hr => exact absurd h (lookupDevice_error_ne hr).1
  | noNonce => cases h
  | issued hl record hr => exact keyActive_of_lookupDevice hr

/-- A response that succeeds is for an active key, whatever challenge it answers. -/
theorem keyActive_of_authResponse {m : AuthenticationManager} {reg : Registry}
    {hdr : FrameHeader} {payload : Bytes} {env : ResponseEnv} {msg : SignedMessage}
    (hp : parseAuthResponse payload = .ok msg)
    (h : (handleAuthResponse m reg hdr payload env).2.2.result = .SUCCESS) :
    KeyActive reg (deviceKey (deviceIdToString msg.deviceIdentity)) := by
  have hcase := handleAuthResponse_case m reg hdr payload env
  generalize handleAuthResponse m reg hdr payload env = out at h hcase
  cases hcase with
  | invalid r hp' =>
    rw [hp] at hp'
    cases hp'
  | limited => cases h
  | failed msg' hp' hl r hr => exact absurd h (countedFailure_ne hr).1
  | accepted msg' hp' hl record hr =>
    rw [hp] at hp'
    cases hp'
    exact keyActive_of_lookupDevice hr

/-- A logon that succeeds is for an active key. -/
theorem keyActive_of_logon {env : LsaEnv} {reg : Registry} {heap : LsaHeap}
    {ptrs : LogonPointers} {data : Bytes}
    (h : (logonUserEx2 env reg heap ptrs (some data)).1 = .STATUS_SUCCESS) :
    KeyActive reg
      (deviceKey (deviceIdToString (MobileUnlockLsaLogonBuffer.ofLayout data).deviceId)) := by
  obtain ⟨record, hv⟩ := verifyLogon_of_success h
  obtain ⟨-, msg, haccepted⟩ := verifyLogon_ok_iff.mp hv
  have hfound := haccepted.found
  refine keyActive_of_readDeviceRecord (congrArg Prod.fst hfound) ?_
  rw [hfound]
  exact haccepted.active

/-- With an inactive key nothing succeeds. -/
theorem refused_of_not_keyActive {d : DeviceId} {s : SharedState}
    (h : ¬ KeyActive s.registry (deviceKey (deviceIdToString d))) : Refused d s where
  request hdr out env hsuccess := h (keyActive_of_authRequest hsuccess)
  response hdr payload env msg hp hd hsuccess := by
    subst hd
    exact h (keyActive_of_authResponse hp hsuccess)
  logon env heap ptrs data hd hsuccess := by
    subst hd
    exact h (keyActive_of_logon hsuccess)
  query str acc hstr := by
    rw [← Bool.not_eq_true]
    intro hactive
    apply h
    rw [← hstr]
    exact keyActive_of_isDeviceActive hactive

/-! ### Revoking -/

/-- A successful revocation leaves the key inactive. -/
theorem not_keyActive_of_revokes {d : DeviceId} {s : SharedState} {e : SharedEvent}
    (h : Revokes d s e) :
    ¬ KeyActive (sharedMachine.step s e).1.registry (deviceKey (deviceIdToString d)) := by
  cases e with
  | setDeviceStatus str status acc =>
    obtain ⟨hstr, rfl, herr⟩ := h
    rw [← hstr]
    exact setDeviceStatus_not_keyActive (by decide) herr
  | deleteDeviceRecord str acc =>
    obtain ⟨hstr, herr⟩ := h
    rw [← hstr]
    exact deleteDeviceRecord_not_keyActive herr
  | pairing event =>
    cases event with
    | revokeDevice str acc =>
      obtain ⟨hstr, herr⟩ := h
      rw [← hstr]
      exact setDeviceStatus_not_keyActive (by decide) herr
    | deleteDevice str acc =>
      obtain ⟨hstr, herr⟩ := h
      rw [← hstr]
      exact deleteDeviceRecord_not_keyActive herr
    | unpairRequest clientId payload acc =>
      obtain ⟨hlen, hstr, herr⟩ := h
      rw [← hstr]
      have hreg : (handleUnpairRequest s.registry payload acc).1
          = (deleteDeviceRecord acc s.registry (jsonGetString payload (ascii "deviceId"))).2 := by
        unfold handleUnpairRequest
        dsimp only
        rw [if_neg (not_not.mpr hlen)]
      show ¬ KeyActive (handleUnpairRequest s.registry payload acc).1 _
      rw [hreg]
      exact deleteDeviceRecord_not_keyActive herr
    | pairRequest | pairConfirm | cancelSession | expireSessions => exact h.elim
  | authRequest | authResponse | logon | isDeviceActive | updateLastSeen | writeDeviceRecord =>
    exact h.elim

/-! ### One step -/

/-- A record written for another device, with the root kept, makes no other key active. -/
theorem keyActive_of_writeDeviceRecord {acc : Access} {reg : Registry} {record : DeviceRecord}
    {name : KeyName} (hname : name ≠ deviceKey (deviceIdToString record.deviceId))
    (hroot : (writeDeviceRecord acc reg record).2.root = reg.root)
    (h : KeyActive (writeDeviceRecord acc reg record).2 name) : KeyActive reg name := by
  have hchanged := writeDeviceRecord_changedAt acc reg record
  have hkept : (ensureRoot acc reg).2 = reg := by
    obtain hsame | ⟨hlocal, -, hmoved⟩ := ensureRoot_cases acc reg
    · exact hsame
    · -- The root would be HKCU now.
      rw [hchanged.1, hmoved, hlocal] at hroot
      cases hroot
  rw [hkept] at hchanged
  exact (hchanged.keyActive_iff hname).mp h

/-- A response changes the registry by a last-seen time at most. -/
theorem keyActive_of_authResponse_registry {m : AuthenticationManager} {reg : Registry}
    {hdr : FrameHeader} {payload : Bytes} {env : ResponseEnv} {name : KeyName}
    (h : KeyActive (handleAuthResponse m reg hdr payload env).2.1 name) : KeyActive reg name := by
  have hcase := handleAuthResponse_case m reg hdr payload env
  generalize handleAuthResponse m reg hdr payload env = out at h hcase
  cases hcase with
  | invalid | limited | failed => exact h
  | accepted => exact keyActive_of_setDeviceValue (by decide) h

/-- A pairing operation that does not write a record for `d` keeps its key inactive. -/
theorem keyActive_of_pairing {w : PairingWorld} {event : PairingEvent} {d : DeviceId}
    (hother : ∀ clientId payload env session, event = .pairConfirm clientId payload env →
      acceptedSession w.manager clientId payload env = some session → session.deviceId ≠ d)
    (hroot : (pairingMachine.step w event).1.registry.root = w.registry.root)
    (h : KeyActive (pairingMachine.step w event).1.registry (deviceKey (deviceIdToString d))) :
    KeyActive w.registry (deviceKey (deviceIdToString d)) := by
  cases event with
  | pairConfirm clientId payload env =>
    change (handlePairConfirm w.manager w.registry clientId payload env).2.1.root = _ at hroot
    change KeyActive (handlePairConfirm w.manager w.registry clientId payload env).2.1 _ at h
    rw [handlePairConfirm_registry] at hroot h
    cases haccepted : acceptedSession w.manager clientId payload env with
    | none =>
      rw [haccepted] at h
      exact h
    | some session =>
      rw [haccepted] at hroot h
      -- The write restores the device of its session, which is not `d`.
      refine keyActive_of_writeDeviceRecord ?_ hroot h
      intro hkey
      exact hother clientId payload env session rfl haccepted (deviceKey_inj.mp hkey).symm
  | unpairRequest clientId payload acc =>
    change KeyActive (handleUnpairRequest w.registry payload acc).1 _ at h
    obtain hsame | hdel := handleUnpairRequest_registry w.registry payload acc
    · rwa [hsame] at h
    · rw [hdel] at h
      exact keyActive_of_deleteDeviceRecord h
  | revokeDevice str acc => exact keyActive_of_setDeviceStatus (by decide) h
  | deleteDevice str acc => exact keyActive_of_deleteDeviceRecord h
  | pairRequest | cancelSession | expireSessions => exact h

/-- A call that does not restore `d` keeps its key inactive. -/
theorem not_keyActive_step (d : DeviceId) (s : SharedState) (e : SharedEvent)
    (h : ¬ KeyActive s.registry (deviceKey (deviceIdToString d))) (he : LeavesRevoked d s e) :
    ¬ KeyActive (sharedMachine.step s e).1.registry (deviceKey (deviceIdToString d)) := by
  obtain ⟨hother, hroot⟩ := he
  intro hactive
  apply h
  cases e with
  | authResponse hdr payload env => exact keyActive_of_authResponse_registry hactive
  | pairing event =>
    refine keyActive_of_pairing (w := ⟨s.pairing, s.registry⟩) ?_ hroot hactive
    rintro clientId payload env session rfl haccepted hd
    exact hother ⟨session, haccepted, hd⟩
  | setDeviceStatus str status acc =>
    by_cases hstatus : status = kStatusActive
    · -- The status is set to active, but of another device.
      have hkey : deviceKey (deviceIdToString d) ≠ deviceKey str := by
        intro hkey
        exact hother ⟨hkey.symm, hstatus⟩
      exact ((setDeviceValue_changedAt acc s.registry str _ _).keyActive_iff hkey).mp hactive
    · exact keyActive_of_setDeviceStatus hstatus hactive
  | updateLastSeen str now acc => exact keyActive_of_setDeviceValue (by decide) hactive
  | deleteDeviceRecord str acc => exact keyActive_of_deleteDeviceRecord hactive
  | writeDeviceRecord record acc =>
    refine keyActive_of_writeDeviceRecord ?_ hroot hactive
    intro hkey
    exact hother (deviceKey_inj.mp hkey).symm
  | authRequest | logon | isDeviceActive => exact hactive

/-! ### Runs -/

/-- Revocation takes effect at once. After a call that revokes or deletes `d`, from any state
and with any challenges outstanding, and along every run of calls that neither restore `d` nor
move the registry root, nothing succeeds for `d`. -/
theorem refused_after_revocation (d : DeviceId) (s : SharedState) (e : SharedEvent)
    (es : List SharedEvent) (hrevoked : Revokes d s e)
    (hrun : sharedMachine.Along (LeavesRevoked d) (sharedMachine.step s e).1 es) :
    Refused d (sharedMachine.run (sharedMachine.step s e).1 es) := by
  refine refused_of_not_keyActive ?_
  refine sharedMachine.invariant
    (P := fun s => ¬ KeyActive s.registry (deviceKey (deviceIdToString d))) ?_ ?_ hrun
  · intro s e h he
    exact not_keyActive_step d s e h he
  · exact not_keyActive_of_revokes hrevoked

/-- A phone is revoked while its challenge is outstanding, and its last-seen time is written
after that. Nothing succeeds for it. -/
theorem refused_after_revocation_phone :
    Refused phoneId (sharedMachine.run
      (sharedMachine.step { authentication := phoneManager, registry := phoneRegistry }
        (.setDeviceStatus (deviceIdToString phoneId) kStatusRevoked RegAccess.ok)).1
      [.updateLastSeen (deviceIdToString phoneId) {} RegAccess.ok]) := by
  have hopen : phoneRegistry.store.lookup (deviceKey (deviceIdToString phoneId))
      = some phoneValues := AList.lookup_insert _
  have hrevokes : Revokes phoneId { authentication := phoneManager, registry := phoneRegistry }
      (.setDeviceStatus (deviceIdToString phoneId) kStatusRevoked RegAccess.ok) := by
    refine ⟨rfl, rfl, ?_⟩
    show (setDeviceStatus RegAccess.ok phoneRegistry _ kStatusRevoked).1 = ERROR_SUCCESS
    simp [setDeviceStatus, setDeviceValue, regOpenKey, regSetValue, hopen, RegAccess.ok]
  have hkept : ∀ s : SharedState,
      LeavesRevoked phoneId s (.updateLastSeen (deviceIdToString phoneId) {} RegAccess.ok) := by
    intro s
    exact ⟨id, (setDeviceValue_changedAt RegAccess.ok s.registry _ .lastSeen _).1⟩
  exact refused_after_revocation phoneId _ _ _ hrevokes ⟨hkept _, trivial⟩

end MobileUnlock.Service
