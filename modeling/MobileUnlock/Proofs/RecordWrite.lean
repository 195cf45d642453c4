import MobileUnlock.Proofs.PairingIdentity

/-!
# `MobileUnlock.Proofs.RecordWrite`: what a written record leaves in the registry

`storeRecord_apply` says what a device key holds after the six writes of `WriteDeviceRecord`, and
`writeDeviceRecord_created` what the registry holds. A value is the record's when its call
succeeds, and what was there before otherwise. An empty public key is not written at all.

Two results rest on this. `readDeviceRecord_writeDeviceRecord_iff` is the round trip without faults:
it fails for a record without a key over a key that an earlier pairing has left. And because the
results of the calls are not looked at, a write that is reported as a success is complete only in
the cases that `writeDeviceRecord_complete_iff` names.
-/

set_option autoImplicit false

namespace MobileUnlock.Pairing

open MobileUnlock.Lib MobileUnlock.Lib.Win32 MobileUnlock.Protocol

/-- The key of the device of a record. -/
def recordKey (record : DeviceRecord) : KeyName := deviceKey (deviceIdToString record.deviceId)

/-- The root under which a record is written. -/
def rootInForce (acc : Access) (reg : Registry) : HKEY :=
  if acc.createRoot reg.root = ERROR_ACCESS_DENIED ∧ reg.root = .HKEY_LOCAL_MACHINE
    then .HKEY_CURRENT_USER else reg.root

theorem ensureRoot_eq (acc : Access) (reg : Registry) :
    ensureRoot acc reg
      = (acc.createRoot (rootInForce acc reg), { reg with root := rootInForce acc reg }) := by
  unfold ensureRoot rootInForce
  dsimp only
  split
  · rfl
  · rfl

/-- The values that the key of a record has before it is written. -/
def priorValues (acc : Access) (reg : Registry) (record : DeviceRecord) : KeyValues DeviceValue :=
  ((reg.hive (rootInForce acc reg)).lookup (recordKey record)).getD fun _ => none

/-- The two keys that a record needs can be opened or created. -/
def KeyCreated (acc : Access) (reg : Registry) (record : DeviceRecord) : Prop :=
  acc.createRoot (rootInForce acc reg) = ERROR_SUCCESS ∧
    acc.createKey (recordKey record) = ERROR_SUCCESS

/-- A write is a success exactly when the keys are there, and then it leaves the six values. -/
theorem writeDeviceRecord_created {acc : Access} {reg : Registry} {record : DeviceRecord} :
    ((writeDeviceRecord acc reg record).1 = ERROR_SUCCESS ↔ KeyCreated acc reg record) ∧
      (KeyCreated acc reg record →
        (writeDeviceRecord acc reg record).2.store.lookup (recordKey record)
          = some (storeRecord acc (recordKey record) record (priorValues acc reg record))) := by
  have hname : deviceKey (deviceIdToString record.deviceId) = recordKey record := rfl
  unfold writeDeviceRecord
  rw [ensureRoot_eq]
  dsimp only
  rw [hname]
  by_cases hroot : acc.createRoot (rootInForce acc reg) = ERROR_SUCCESS
  · rw [if_neg (not_not.mpr hroot)]
    by_cases hkey : acc.createKey (recordKey record) = ERROR_SUCCESS
    · rw [if_neg (not_not.mpr hkey)]
      refine ⟨iff_of_true rfl ⟨hroot, hkey⟩, ?_⟩
      intro _
      rw [Registry.store_withStore]
      exact AList.lookup_insert _
    · rw [if_pos hkey]
      exact ⟨iff_of_false hkey fun h => hkey h.2, fun h => absurd h.2 hkey⟩
  · rw [if_pos hroot]
    exact ⟨iff_of_false hroot fun h => hroot h.1, fun h => absurd h.1 hroot⟩

/-! ### The round trip -/

/-- A text that fits the buffers of `ReadDeviceRecord`: NUL-free ASCII of at most 255
characters. -/
def PlainText (s : Bytes) : Prop := s.length ≤ 255 ∧ ∀ c ∈ s, c ≠ 0 ∧ c < 0x80

theorem regQueryValue_ok {name : KeyName} {vals : KeyValues DeviceValue} {v : DeviceValue}
    {data : Bytes} {size : Nat} (h : vals v = some data) (hlen : data.length ≤ size) :
    regQueryValue RegAccess.ok name vals v size = some data := by
  rw [regQueryValue, if_neg (by simp [RegAccess.ok]), h]
  exact if_pos hlen

theorem readText_ok {name : KeyName} {vals : KeyValues DeviceValue} {v : DeviceValue} {s : Bytes}
    (h : vals v = some (wideString s)) (hs : PlainText s) (out : Bytes) :
    readText RegAccess.ok name vals v out = s := by
  have hlen : (wideString s).length ≤ WIDE_BUFFER_SIZE := by
    have hs255 := hs.1
    rw [length_wideString, WIDE_BUFFER_SIZE]
    omega
  rw [readText, regQueryValue_ok h hlen]
  exact narrowString_wideString hs.2

theorem readTime_ok {name : KeyName} {vals : KeyValues DeviceValue} {v : DeviceValue}
    {t : FILETIME} (h : vals v = some (bytesLE 8 t.toU64.toNat)) (out : FILETIME) :
    readTime RegAccess.ok name vals v out = t := by
  rw [readTime, regQueryValue_ok h (by simp)]
  dsimp only
  rw [ofNat_natOfLE_bytesLE_64, FILETIME.ofU64_toU64]

theorem readPairStatus_ok {name : KeyName} {vals : KeyValues DeviceValue} {status : UInt32}
    (h : vals .pairStatus = some (bytesLE 4 status.toNat)) :
    readPairStatus RegAccess.ok name vals = status := by
  rw [readPairStatus, regQueryValue_ok h (by simp)]
  exact ofNat_natOfLE_bytesLE_32 status

/-- A key value that a reader without faults takes for no key. -/
def NoKey (value : Option Bytes) : Prop := ∀ data, value = some data → data = [] ∨ 256 < data.length

theorem readPublicKey_eq_nil {name : KeyName} {vals : KeyValues DeviceValue} :
    readPublicKey RegAccess.ok name vals [] = [] ↔ NoKey (vals .publicKey) := by
  unfold readPublicKey regQueryValue NoKey
  rw [if_neg (by simp [RegAccess.ok])]
  cases vals .publicKey with
  | none => simp
  | some data =>
    dsimp only
    by_cases hlong : data.length ≤ KEY_BUFFER_SIZE
    · rw [if_pos hlong]
      rw [KEY_BUFFER_SIZE] at hlong
      cases data with
      | nil => simp
      | cons b data => simpa using hlong
    · rw [if_neg hlong]
      rw [KEY_BUFFER_SIZE] at hlong
      exact iff_of_true rfl fun data' hdata' => Or.inr (by cases hdata'; omega)

/-- The round trip of a record. The record is written without faults over any registry, and read
back into a fresh record. All of it comes back, unless the record has no key and the registry has
one from before that a reader takes. -/
theorem readDeviceRecord_writeDeviceRecord_iff (reg : Registry) (record : DeviceRecord)
    (hname : PlainText record.deviceName) (hsid : PlainText record.accountSid)
    (hkey : record.publicKey.length ≤ 256) :
    readDeviceRecord RegAccess.ok (writeDeviceRecord RegAccess.ok reg record).2
        (deviceIdToString record.deviceId) {} = (ERROR_SUCCESS, record) ↔
      record.publicKey ≠ [] ∨ NoKey (priorValues RegAccess.ok reg record .publicKey) := by
  have hstored := (@writeDeviceRecord_created RegAccess.ok reg record).2 ⟨rfl, rfl⟩
  have hvals := storeRecord_apply RegAccess.ok (recordKey record) record
    (priorValues RegAccess.ok reg record)
  generalize storeRecord RegAccess.ok (recordKey record) record
    (priorValues RegAccess.ok reg record) = vals at hstored hvals
  -- Every value but the public key is the record's.
  have hwritten : ∀ v, v ≠ .publicKey → vals v = some (recordData record v) := by
    intro v hv
    rw [hvals v, if_pos ⟨recordData_ne_nil hv, rfl⟩]
  have hread : readDeviceRecord RegAccess.ok (writeDeviceRecord RegAccess.ok reg record).2
      (deviceIdToString record.deviceId) {} = (ERROR_SUCCESS,
        { record with publicKey := readPublicKey RegAccess.ok (recordKey record) vals [] }) := by
    unfold readDeviceRecord regOpenKey
    dsimp only
    rw [show deviceKey (deviceIdToString record.deviceId) = recordKey record from rfl,
      if_neg (by simp [RegAccess.ok]), hstored]
    dsimp only
    rw [deviceIdFromString_deviceIdToString,
      readText_ok (hwritten .deviceName (by decide)) hname,
      readText_ok (hwritten .accountSid (by decide)) hsid,
      readPairStatus_ok (hwritten .pairStatus (by decide)),
      readTime_ok (hwritten .pairedTime (by decide)),
      readTime_ok (hwritten .lastSeen (by decide))]
  rw [hread]
  by_cases hempty : record.publicKey = []
  · have hprior : vals .publicKey = priorValues RegAccess.ok reg record .publicKey := by
      rw [hvals, if_neg fun h => h.1 hempty]
    constructor
    · intro hback
      have hback' : readPublicKey RegAccess.ok (recordKey record) vals [] = record.publicKey :=
        congrArg (fun r => r.2.publicKey) hback
      rw [hempty, readPublicKey_eq_nil, hprior] at hback'
      exact Or.inr hback'
    · rintro (hkey | hnone)
      · exact absurd hempty hkey
      · rw [← hprior, ← @readPublicKey_eq_nil (recordKey record)] at hnone
        rw [hnone, ← hempty]
  · refine iff_of_true ?_ (Or.inl hempty)
    have hvalue : vals .publicKey = some record.publicKey := by
      rw [hvals, if_pos ⟨hempty, rfl⟩]
      rfl
    have hquery : regQueryValue RegAccess.ok (recordKey record) vals .publicKey KEY_BUFFER_SIZE
        = some record.publicKey := regQueryValue_ok hvalue hkey
    rw [readPublicKey, hquery]
    dsimp only
    rw [if_pos (List.length_pos_of_ne_nil hempty)]

/-- The record of a phone that has paired with a key. -/
def pairedRecord : DeviceRecord where
  deviceName := ascii "Phone"
  accountSid := ownSid
  publicKey := [4, 1, 2, 3]
  pairStatus := kStatusActive

theorem readDeviceRecord_writeDeviceRecord_pairedRecord :
    readDeviceRecord RegAccess.ok (writeDeviceRecord RegAccess.ok {} pairedRecord).2
        (deviceIdToString pairedRecord.deviceId) {} = (ERROR_SUCCESS, pairedRecord) :=
  (readDeviceRecord_writeDeviceRecord_iff {} pairedRecord ⟨by decide, by decide +kernel⟩
    ⟨by decide, by decide +kernel⟩ (by decide)).mpr (Or.inl (by decide))

/-- The phone is written again without a key, and its old key is read back. -/
theorem readDeviceRecord_writeDeviceRecord_staleKey :
    PlainText pairedRecord.deviceName ∧ PlainText pairedRecord.accountSid ∧
      readDeviceRecord RegAccess.ok
          (writeDeviceRecord RegAccess.ok (writeDeviceRecord RegAccess.ok {} pairedRecord).2
            { pairedRecord with publicKey := [] }).2
          (deviceIdToString pairedRecord.deviceId) {}
        ≠ (ERROR_SUCCESS, { pairedRecord with publicKey := [] }) := by
  refine ⟨⟨by decide, by decide +kernel⟩, ⟨by decide, by decide +kernel⟩, ?_⟩
  intro hback
  have hkey := congrArg (fun r => r.2.publicKey) hback
  exact absurd hkey (by decide +kernel)

/-! ### Complete writes -/

/-- The store holds all of a record. An absent value is an empty one, which only the public key
can be. -/
def Persisted (reg : Registry) (record : DeviceRecord) : Prop :=
  ∃ vals, reg.store.lookup (recordKey record) = some vals ∧
    ∀ v, (vals v).getD [] = recordData record v

/-- Every value is either written, by a call that succeeds, or already there. -/
def ValuesStick (acc : Access) (reg : Registry) (record : DeviceRecord) : Prop :=
  ∀ v, recordData record v ≠ [] ∧ acc.setValue (recordKey record) v = ERROR_SUCCESS ∨
    (priorValues acc reg record v).getD [] = recordData record v

theorem persisted_iff {acc : Access} {reg : Registry} {record : DeviceRecord}
    (h : KeyCreated acc reg record) :
    Persisted (writeDeviceRecord acc reg record).2 record ↔ ValuesStick acc reg record := by
  have hstored := writeDeviceRecord_created.2 h
  have hvalue : ∀ v, ((storeRecord acc (recordKey record) record
      (priorValues acc reg record) v).getD [] = recordData record v ↔
        recordData record v ≠ [] ∧ acc.setValue (recordKey record) v = ERROR_SUCCESS ∨
          (priorValues acc reg record v).getD [] = recordData record v) := by
    intro v
    rw [storeRecord_apply]
    split
    · rename_i hwritten
      exact iff_of_true rfl (Or.inl hwritten)
    · rename_i hkept
      exact ⟨Or.inr, fun h => h.resolve_left hkept⟩
  constructor
  · rintro ⟨vals, hvals, hall⟩
    rw [hstored] at hvals
    cases hvals
    exact fun v => (hvalue v).mp (hall v)
  · intro hstick
    exact ⟨_, hstored, fun v => (hvalue v).mpr (hstick v)⟩

/-- What a confirmation should mean: PAIR_COMPLETE is answered for a record that is there with all
its values, and every other answer leaves the stores as they are. -/
def ConfirmComplete (m : PairingManager) (reg : Registry) (clientId : UInt64) (payload : Bytes)
    (env : PairConfirmEnv) : Prop :=
  ((handlePairConfirm m reg clientId payload env).2.2.responseType = .PAIR_COMPLETE →
    ∃ session, acceptedSession m clientId payload env = some session ∧
      Persisted (handlePairConfirm m reg clientId payload env).2.1
        (confirmedRecord session env.accountSid env.pairedNow)) ∧
  ((handlePairConfirm m reg clientId payload env).2.2.responseType ≠ .PAIR_COMPLETE →
    (handlePairConfirm m reg clientId payload env).2.1.hive = reg.hive)

/-- An answer other than PAIR_COMPLETE leaves nothing behind. -/
theorem handlePairConfirm_hive {m : PairingManager} {reg : Registry} {clientId : UInt64}
    {payload : Bytes} {env : PairConfirmEnv}
    (h : (handlePairConfirm m reg clientId payload env).2.2.responseType ≠ .PAIR_COMPLETE) :
    (handlePairConfirm m reg clientId payload env).2.1.hive = reg.hive := by
  have hcase := handlePairConfirm_case m reg clientId payload env
  generalize handlePairConfirm m reg clientId payload env = out at h hcase
  cases hcase with
  | noSession | malformed | wrongPin | closed => rfl
  | stored session hs herr m' hm' reply htype => exact absurd htype h
  | writeFailed session hs herr m' hm' => exact (writeDeviceRecord_stored _ _ _).2 herr

/-- An accepted confirmation is answered with PAIR_COMPLETE exactly when the keys of the record
are there. -/
theorem handlePairConfirm_created {m : PairingManager} {reg : Registry} {clientId : UInt64}
    {payload : Bytes} {env : PairConfirmEnv} {session : PairingSession}
    (hs : acceptedSession m clientId payload env = some session) :
    (handlePairConfirm m reg clientId payload env).2.2.responseType = .PAIR_COMPLETE ↔
      KeyCreated env.writeAccess reg (confirmedRecord session env.accountSid env.pairedNow) := by
  rw [← writeDeviceRecord_created.1]
  have hcase := handlePairConfirm_case m reg clientId payload env
  generalize handlePairConfirm m reg clientId payload env = out at hcase
  cases hcase with
  | noSession hno | malformed hno | wrongPin hno | closed hno =>
    rw [hno] at hs
    cases hs
  | stored session' hs' herr m' hm' reply htype =>
    rw [hs', Option.some.injEq] at hs
    subst hs
    exact iff_of_true htype herr
  | writeFailed session' hs' herr m' hm' =>
    rw [hs', Option.some.injEq] at hs
    subst hs
    exact iff_of_false (fun htype => by cases htype) herr

/-- When a reported write is a complete one. A write that returns ERROR_SUCCESS has stored the
whole record, and a confirmation means what it says, exactly when every value of the record is
written by a call that succeeds or was there before. -/
theorem writeDeviceRecord_complete_iff (acc : Access) (reg : Registry) (record : DeviceRecord)
    (m : PairingManager) (clientId : UInt64) (payload : Bytes) (env : PairConfirmEnv) :
    (((writeDeviceRecord acc reg record).1 = ERROR_SUCCESS →
        Persisted (writeDeviceRecord acc reg record).2 record) ↔
      (KeyCreated acc reg record → ValuesStick acc reg record)) ∧
    (ConfirmComplete m reg clientId payload env ↔
      ∀ session, acceptedSession m clientId payload env = some session →
        KeyCreated env.writeAccess reg (confirmedRecord session env.accountSid env.pairedNow) →
        ValuesStick env.writeAccess reg
          (confirmedRecord session env.accountSid env.pairedNow)) := by
  refine ⟨?_, ?_⟩
  · rw [writeDeviceRecord_created.1]
    exact forall_congr' fun hcreated => persisted_iff hcreated
  · constructor
    · rintro ⟨hcomplete, -⟩ session hs hcreated
      obtain ⟨session', hs', hpersisted⟩ := hcomplete ((handlePairConfirm_created hs).mpr hcreated)
      rw [hs, Option.some.injEq] at hs'
      subst hs'
      rw [handlePairConfirm_registry, hs] at hpersisted
      exact (persisted_iff hcreated).mp hpersisted
    · intro hstick
      refine ⟨?_, handlePairConfirm_hive⟩
      intro htype
      obtain ⟨session, hs, -⟩ := handlePairConfirm_complete htype
      have hcreated := (handlePairConfirm_created hs).mp htype
      refine ⟨session, hs, ?_⟩
      rw [handlePairConfirm_registry, hs]
      exact (persisted_iff hcreated).mpr (hstick session hs hcreated)

/-- Every call succeeds but the one that writes the public key. -/
def keyRefused : Access :=
  { RegAccess.ok with
    setValue := fun _ v => if v = .publicKey then ERROR_ACCESS_DENIED else ERROR_SUCCESS }

/-- The manager after the request of a phone. -/
def requestedManager : PairingManager := (pairingMachine.run {} [phoneRequest 1 49]).manager

/-- The public key cannot be written. The write is reported as a success, and so is the pairing,
and what is left is an ACTIVE record without a key. -/
theorem writeDeviceRecord_incomplete :
    (writeDeviceRecord keyRefused {} pairedRecord).1 = ERROR_SUCCESS ∧
      ¬ Persisted (writeDeviceRecord keyRefused {} pairedRecord).2 pairedRecord ∧
      (handlePairConfirm requestedManager {} 1 (confirmPayload 49)
        { confirmEnv with writeAccess := keyRefused }).2.2.responseType = .PAIR_COMPLETE ∧
      ¬ ConfirmComplete requestedManager {} 1 (confirmPayload 49)
        { confirmEnv with writeAccess := keyRefused } := by
  have hcomplete : (handlePairConfirm requestedManager {} 1 (confirmPayload 49)
      { confirmEnv with writeAccess := keyRefused }).2.2.responseType = .PAIR_COMPLETE := by
    decide +kernel
  refine ⟨rfl, ?_, hcomplete, ?_⟩
  · rw [persisted_iff ⟨rfl, rfl⟩]
    intro hstick
    rcases hstick .publicKey with ⟨-, hset⟩ | hprior
    · exact absurd hset (by decide)
    · exact absurd hprior (by decide)
  · rintro ⟨hmeans, -⟩
    obtain ⟨session, hs, hpersisted⟩ := hmeans hcomplete
    have hsession : session.clientPublicKey = [4] := by
      have hkey : (acceptedSession requestedManager 1 (confirmPayload 49)
          { confirmEnv with writeAccess := keyRefused }).map PairingSession.clientPublicKey
            = some [4] := by decide +kernel
      rw [hs] at hkey
      exact Option.some.inj hkey
    rw [handlePairConfirm_registry, hs] at hpersisted
    have hcreated : KeyCreated keyRefused {} (confirmedRecord session ownSid {}) := ⟨rfl, rfl⟩
    have hstick := (persisted_iff hcreated).mp hpersisted
    rcases hstick .publicKey with ⟨-, hset⟩ | hprior
    · cases hset
    · change [] = session.clientPublicKey at hprior
      rw [hsession] at hprior
      cases hprior

end MobileUnlock.Pairing
