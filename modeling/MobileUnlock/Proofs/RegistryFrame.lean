import MobileUnlock.Proofs.DeviceRegistry

/-!
# `MobileUnlock.Proofs.RegistryFrame`: what writing one device does to the others

`writeDeviceRecord` changes one key of the store in force. But it may also put another store in
force: when `HKLM` denies access, the root moves to `HKCU` for good, and every reader moves with
it (`writeDeviceRecord_moves_readers`).

`AnswersAlike` compares what the three readers say about a device in two registries.
`writeDeviceRecord_frame` shows that for every other device they answer after the write as they
answered before it over the root that the write leaves in force.
-/

set_option autoImplicit false

namespace MobileUnlock.Pairing

open MobileUnlock.Lib MobileUnlock.Lib.Win32

/-- The record of `d` reads the same in both registries. `acc` are the answers of the registry
calls that the readers make. -/
structure ReadsAlike (acc : Access) (d : DeviceId) (reg reg' : Registry) : Prop where
  record : ∀ out, readDeviceRecord acc reg' (deviceIdToString d) out
    = readDeviceRecord acc reg (deviceIdToString d) out
  active : isDeviceActive acc reg' (deviceIdToString d)
    = isDeviceActive acc reg (deviceIdToString d)

/-- All three readers give the same answers about `d` in both registries. -/
structure AnswersAlike (acc : Access) (d : DeviceId) (reg reg' : Registry) : Prop
    extends ReadsAlike acc d reg reg' where
  listed : deviceIdToString d ∈ enumerateDeviceIds acc reg' ↔
    deviceIdToString d ∈ enumerateDeviceIds acc reg

/-- A record is read from one key. -/
theorem readDeviceRecord_congr {reg reg' : Registry} {s : Bytes}
    (h : reg'.store.lookup (deviceKey s) = reg.store.lookup (deviceKey s)) (acc : Access)
    (out : DeviceRecord) : readDeviceRecord acc reg' s out = readDeviceRecord acc reg s out := by
  have hopen : regOpenKey acc reg'.store (deviceKey s) =
      regOpenKey acc reg.store (deviceKey s) := by
    unfold regOpenKey
    rw [h]
  unfold readDeviceRecord
  dsimp only
  rw [hopen]

/-- Without failing enumeration calls the list has all short names, unless the parent key cannot
be opened. -/
theorem enumerateDeviceIds_of_no_fault {acc : Access} (h : acc.enumKey = []) (reg : Registry) :
    enumerateDeviceIds acc reg =
      if acc.openRoot ≠ ERROR_SUCCESS then []
      else (reg.store.keys.filter shortName).map KeyName.text := by
  have hsame : regEnumKey acc reg.store SUBKEY_BUFFER_SIZE
      = regEnumKey RegAccess.ok reg.store SUBKEY_BUFFER_SIZE := by
    funext index
    unfold regEnumKey
    rw [h]
    rfl
  unfold enumerateDeviceIds
  split
  · rfl
  · rw [hsame, h, enumLoop_ok reg _ _ _ (by simp) (by simp), Option.getD_some, List.drop_zero,
      List.nil_append]

/-- A device is listed if and only if its key exists. -/
theorem mem_enumerateDeviceIds {acc : Access} (h : acc.enumKey = [])
    (hopen : acc.openRoot = ERROR_SUCCESS) (reg : Registry) (d : DeviceId) :
    deviceIdToString d ∈ enumerateDeviceIds acc reg ↔
      (reg.store.lookup (deviceKey (deviceIdToString d))).isSome := by
  have htext : (deviceKey (deviceIdToString d)).text = deviceIdToString d :=
    keyNameText_deviceIdToString d
  have hshort : shortName (deviceKey (deviceIdToString d)) = true := by
    unfold shortName
    rw [htext, length_deviceIdToString]
    decide
  rw [enumerateDeviceIds_of_no_fault h, if_neg (not_not.mpr hopen), ← mem_keys_iff, List.mem_map]
  constructor
  · rintro ⟨name, hname, hsame⟩
    have hkey : name = deviceKey (deviceIdToString d) := KeyName.ext (hsame.trans htext.symm)
    rw [← hkey]
    exact (List.mem_filter.mp hname).1
  · intro hmem
    exact ⟨_, List.mem_filter.mpr ⟨hmem, hshort⟩, htext⟩

/-- Where the key of the device is the same, its record reads the same. -/
theorem readsAlike_of_lookup {d : DeviceId} {reg reg' : Registry}
    (h : reg'.store.lookup (deviceKey (deviceIdToString d))
      = reg.store.lookup (deviceKey (deviceIdToString d))) (acc : Access) :
    ReadsAlike acc d reg reg' where
  record := readDeviceRecord_congr h acc
  active := by
    unfold isDeviceActive
    rw [readDeviceRecord_congr h]

/-- Where the key of the device is the same, the readers answer alike. -/
theorem answersAlike_of_lookup {acc : Access} (henum : acc.enumKey = []) {d : DeviceId}
    {reg reg' : Registry}
    (h : reg'.store.lookup (deviceKey (deviceIdToString d))
      = reg.store.lookup (deviceKey (deviceIdToString d))) : AnswersAlike acc d reg reg' where
  toReadsAlike := readsAlike_of_lookup h acc
  listed := by
    by_cases hopen : acc.openRoot = ERROR_SUCCESS
    · rw [mem_enumerateDeviceIds henum hopen, mem_enumerateDeviceIds henum hopen, h]
    · rw [enumerateDeviceIds_of_no_fault henum, enumerateDeviceIds_of_no_fault henum, if_pos hopen,
        if_pos hopen]

/-- The root after a write is the one before, except that `HKLM` becomes `HKCU` when its parent
key is denied. -/
theorem writeDeviceRecord_root (acc : Access) (reg : Registry) (record : DeviceRecord) :
    (writeDeviceRecord acc reg record).2.root =
      if reg.root = .HKEY_LOCAL_MACHINE ∧ acc.createRoot .HKEY_LOCAL_MACHINE = ERROR_ACCESS_DENIED
      then .HKEY_CURRENT_USER else reg.root := by
  rw [(writeDeviceRecord_changedAt acc reg record).1]
  unfold ensureRoot
  by_cases hlocal : reg.root = .HKEY_LOCAL_MACHINE
  · by_cases hdenied : acc.createRoot .HKEY_LOCAL_MACHINE = ERROR_ACCESS_DENIED
    · rw [if_pos ⟨by rw [hlocal]; exact hdenied, hlocal⟩, if_pos ⟨hlocal, hdenied⟩]
    · rw [if_neg (by rw [hlocal]; exact fun h => hdenied h.1), if_neg fun h => hdenied h.2]
  · rw [if_neg fun h => hlocal h.2, if_neg fun h => hlocal h.1]

/-- The store a write starts from is the one under the root it leaves in force. -/
theorem ensureRoot_snd (acc : Access) (reg : Registry) (record : DeviceRecord) :
    (ensureRoot acc reg).2 = { reg with root := (writeDeviceRecord acc reg record).2.root } := by
  rw [(writeDeviceRecord_changedAt acc reg record).1]
  obtain hsame | ⟨-, -, hmoved⟩ := ensureRoot_cases acc reg
  · rw [hsame]
  · rw [hmoved]

/-- The key of every other device is after a write what it was over the root that the write
leaves in force. -/
theorem writeDeviceRecord_lookup_ne (acc : Access) (reg : Registry) (record : DeviceRecord)
    {d : DeviceId} (hd : d ≠ record.deviceId) :
    (writeDeviceRecord acc reg record).2.store.lookup (deviceKey (deviceIdToString d))
      = (Registry.store { reg with root := (writeDeviceRecord acc reg record).2.root }).lookup
          (deviceKey (deviceIdToString d)) := by
  rw [← ensureRoot_snd]
  refine (writeDeviceRecord_changedAt acc reg record).2 _ ?_
  intro hkey
  exact hd (deviceKey_inj.mp hkey)

/-- Writing a record leaves what is said about every other device as it was over the root that
the write leaves in force. That root is the one before, or it has moved from `HKLM` to `HKCU`
because `HKLM` denied access. The list of devices is meant without failing enumeration calls. -/
theorem writeDeviceRecord_frame (acc racc : Access) (reg : Registry) (record : DeviceRecord)
    (d : DeviceId) (hd : d ≠ record.deviceId) :
    ReadsAlike racc d { reg with root := (writeDeviceRecord acc reg record).2.root }
        (writeDeviceRecord acc reg record).2 ∧
      (racc.enumKey = [] →
        AnswersAlike racc d { reg with root := (writeDeviceRecord acc reg record).2.root }
          (writeDeviceRecord acc reg record).2) ∧
      (writeDeviceRecord acc reg record).2.root =
        if reg.root = .HKEY_LOCAL_MACHINE ∧
          acc.createRoot .HKEY_LOCAL_MACHINE = ERROR_ACCESS_DENIED
        then .HKEY_CURRENT_USER else reg.root := by
  have hkey := writeDeviceRecord_lookup_ne acc reg record hd
  refine ⟨readsAlike_of_lookup hkey racc, ?_, writeDeviceRecord_root acc reg record⟩
  intro henum
  exact answersAlike_of_lookup henum hkey

/-! ### A write that moves the readers -/

/-- A second device. -/
def otherDeviceId : DeviceId := List.Vector.replicate 16 1

/-- Only the second device is paired, under `HKLM`. -/
def otherPairedRegistry : Registry :=
  (writeDeviceRecord RegAccess.ok {}
    { deviceId := otherDeviceId, pairStatus := kStatusActive }).2

/-- A caller without the right to create keys under `HKLM`. -/
def unprivileged : Access :=
  { RegAccess.ok with
    createRoot := fun root =>
      if root = .HKEY_LOCAL_MACHINE then ERROR_ACCESS_DENIED else ERROR_SUCCESS }

/-- A caller whose first enumeration call fails. -/
def firstNameLost : Access := { RegAccess.ok with enumKey := [ERROR_MORE_DATA] }

/-- Writing a record of one device takes the record of another one out of sight: the root has
moved to `HKCU`. A write without a move can bring a device into a list: a failing enumeration
call now meets another key. -/
theorem writeDeviceRecord_moves_readers :
    ¬ AnswersAlike RegAccess.ok otherDeviceId otherPairedRegistry
        (writeDeviceRecord unprivileged otherPairedRegistry { deviceId := zeroDeviceId }).2 ∧
      ¬ AnswersAlike firstNameLost otherDeviceId otherPairedRegistry
        (writeDeviceRecord RegAccess.ok otherPairedRegistry { deviceId := zeroDeviceId }).2 := by
  constructor
  · intro h
    -- The denied write moves the root to HKCU, where the other device is not known.
    have hbefore : isDeviceActive RegAccess.ok otherPairedRegistry
        (deviceIdToString otherDeviceId) = true := by
      decide +kernel
    have hafter : isDeviceActive RegAccess.ok
        (writeDeviceRecord unprivileged otherPairedRegistry { deviceId := zeroDeviceId }).2
        (deviceIdToString otherDeviceId) = false := by
      decide +kernel
    have hsame := h.active
    rw [hbefore, hafter] at hsame
    cases hsame
  · intro h
    -- The call for index 0 fails in both enumerations. The write puts its own key there, and
    -- the other device moves to index 1.
    have hbefore : deviceIdToString otherDeviceId ∉
        enumerateDeviceIds firstNameLost otherPairedRegistry := by
      decide +kernel
    have hafter : deviceIdToString otherDeviceId ∈ enumerateDeviceIds firstNameLost
        (writeDeviceRecord RegAccess.ok otherPairedRegistry { deviceId := zeroDeviceId }).2 := by
      decide +kernel
    exact hbefore (h.listed.mp hafter)

/-- The denied write of one device, seen from the other one. -/
theorem writeDeviceRecord_frame_denied :
    zeroDeviceId ≠ otherDeviceId ∧
      AnswersAlike RegAccess.ok otherDeviceId
        { otherPairedRegistry with
          root := (writeDeviceRecord unprivileged otherPairedRegistry {}).2.root }
        (writeDeviceRecord unprivileged otherPairedRegistry {}).2 ∧
      (writeDeviceRecord unprivileged otherPairedRegistry {}).2.root = .HKEY_CURRENT_USER := by
  have h := writeDeviceRecord_frame unprivileged RegAccess.ok otherPairedRegistry {} otherDeviceId
    (by decide)
  exact ⟨by decide, h.2.1 rfl, h.2.2⟩

end MobileUnlock.Pairing
