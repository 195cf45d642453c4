import MobileUnlock.Proofs.LsaLogon

/-!
# `MobileUnlock.Proofs.LogonName`: who chooses the account name of a logon

The name that `logonUserEx2` hands out should come from the account SID of the record, and never
from the text a phone gave when it paired. `SameUpToName` relates registries that differ in those
texts only. Two such registries lead to the same status, always. They lead to the same account
name exactly when every record for which a name is handed out has a SID with a name
(`logon_ignores_deviceName_iff`): without one, the package falls back to the text of the phone
(`logon_takes_deviceName`).
-/

set_option autoImplicit false

namespace MobileUnlock.Lsa

open MobileUnlock.Lib MobileUnlock.Lib.Win32 MobileUnlock.Protocol MobileUnlock.Crypto
open MobileUnlock.Pairing

/-! ### Registries that differ in names -/

/-- The values of a key without the device name. -/
def withoutName (vals : KeyValues DeviceValue) : KeyValues DeviceValue :=
  Function.update vals .deviceName none

/-- The two registries differ in device names only. -/
def SameUpToName (reg reg' : Registry) : Prop :=
  reg'.root = reg.root ∧ ∀ hive name,
    ((reg'.hive hive).lookup name).map withoutName = ((reg.hive hive).lookup name).map withoutName

theorem SameUpToName.store {reg reg' : Registry} (h : SameUpToName reg reg') (name : KeyName) :
    (reg'.store.lookup name).map withoutName = (reg.store.lookup name).map withoutName := by
  have hname := h.2 reg.root name
  unfold Registry.store
  rw [h.1]
  exact hname

theorem withoutName_eq {vals vals' : KeyValues DeviceValue}
    (h : withoutName vals' = withoutName vals) {v : DeviceValue} (hv : v ≠ .deviceName) :
    vals' v = vals v := by
  have hat := congrFun h v
  unfold withoutName at hat
  rwa [Function.update_of_ne hv, Function.update_of_ne hv] at hat

/-- A value other than the name is queried alike. -/
theorem regQueryValue_congr {vals vals' : KeyValues DeviceValue} {v : DeviceValue}
    (h : vals' v = vals v) (acc : Access) (name : KeyName) (size : Nat) :
    regQueryValue acc name vals' v size = regQueryValue acc name vals v size := by
  unfold regQueryValue
  rw [h]

/-- A record reads the same up to its name. The name is read as empty in both registries when its
query fails. -/
theorem readDeviceRecord_rename {reg reg' : Registry} (h : SameUpToName reg reg') (acc : Access)
    (s : Bytes) :
    ∃ n, readDeviceRecord acc reg' s {} = ((readDeviceRecord acc reg s {}).1,
        { (readDeviceRecord acc reg s {}).2 with deviceName := n }) ∧
      (acc.queryValue (deviceKey s) .deviceName ≠ ERROR_SUCCESS →
        n = (readDeviceRecord acc reg s {}).2.deviceName) := by
  have hstore := h.store (deviceKey s)
  unfold readDeviceRecord regOpenKey
  dsimp only
  by_cases hopen : acc.openKey (deviceKey s) ≠ ERROR_SUCCESS
  · rw [if_pos hopen, if_pos hopen]
    exact ⟨[], rfl, fun _ => rfl⟩
  · rw [if_neg hopen, if_neg hopen]
    cases hl : reg.store.lookup (deviceKey s) with
    | none =>
      rw [hl, Option.map_none, Option.map_eq_none_iff] at hstore
      rw [hstore]
      exact ⟨[], rfl, fun _ => rfl⟩
    | some vals =>
      rw [hl, Option.map_some, Option.map_eq_some_iff] at hstore
      obtain ⟨vals', hl', hvals⟩ := hstore
      rw [hl']
      -- five of the six values are the same
      have hq : ∀ {v : DeviceValue}, v ≠ .deviceName → ∀ size,
          regQueryValue acc (deviceKey s) vals' v size
            = regQueryValue acc (deviceKey s) vals v size :=
        fun hv => regQueryValue_congr (withoutName_eq hvals hv) acc (deviceKey s)
      refine ⟨readText acc (deviceKey s) vals' .deviceName [], ?_, ?_⟩
      · simp only [readText, readPublicKey, readPairStatus, readTime, hq (v := .accountSid) nofun,
          hq (v := .publicKey) nofun, hq (v := .pairStatus) nofun, hq (v := .pairedTime) nofun,
          hq (v := .lastSeen) nofun]
      · intro hfault
        simp only [readText, regQueryValue, if_pos hfault]

/-- A check that two decisions share. -/
theorem ite_map_congr {ε α β : Type} {c : Prop} [Decidable c] {f : α → β} {x y : Except ε α}
    {x' y' : Except ε β} (hx : x' = x.map f) (hy : y' = y.map f) :
    (if c then x' else y') = (if c then x else y).map f := by
  split
  · exact hx
  · exact hy

/-- The decision is the same up to the name of the record. -/
theorem verifyLogon_rename {reg reg' : Registry} (h : SameUpToName reg reg') (env : LsaEnv)
    (data : Bytes) :
    ∃ n, verifyLogon env reg' (some data)
        = (verifyLogon env reg (some data)).map (fun r => { r with deviceName := n }) ∧
      ∀ record, verifyLogon env reg (some data) = .ok record →
        env.access.queryValue
          (deviceKey (deviceIdToString (MobileUnlockLsaLogonBuffer.ofLayout data).deviceId))
          .deviceName ≠ ERROR_SUCCESS → n = record.deviceName := by
  obtain ⟨n, hread, hfault⟩ := readDeviceRecord_rename h env.access
    (deviceIdToString (MobileUnlockLsaLogonBuffer.ofLayout data).deviceId)
  refine ⟨n, ?_, ?_⟩
  · unfold verifyLogon
    dsimp only
    rw [hread]
    generalize MobileUnlockLsaLogonBuffer.ofLayout data = buf
    generalize readDeviceRecord env.access reg _ {} = res
    obtain ⟨regRes, record⟩ := res
    dsimp only
    -- the checks are the same, one by one
    refine ite_map_congr rfl (ite_map_congr rfl ?_)
    cases deserializeSignedMessage buf.canonicalMessage.toList with
    | none => rfl
    | some msg =>
      exact ite_map_congr rfl (ite_map_congr rfl (ite_map_congr rfl (ite_map_congr rfl
        (ite_map_congr rfl (ite_map_congr rfl (ite_map_congr rfl (ite_map_congr rfl rfl)))))))
  · intro record hv hquery
    obtain ⟨-, msg, haccepted⟩ := verifyLogon_ok_iff.mp hv
    rw [hfault hquery, haccepted.found]

/-! ### The name that is handed out -/

/-- The string in a block. -/
def unicodeString (block : Nat) (str : WideText) : UnicodeString where
  block := block
  length := UInt16.ofNat (str.length * 2)
  maximumLength := UInt16.ofNat ((str.length + 1) * 2)
  buffer := str

/-- An output string takes one allocation when it is asked for, whatever the text is. -/
theorem outputString_eq (env : LsaEnv) (heap : LsaHeap) (given : Bool) (str : WideText) :
    outputString env heap given str =
      if given then
        if env.allocates heap.requests then
          (some (some (unicodeString heap.requests str)),
            ⟨heap.requests + 1, heap.requests :: heap.live⟩)
        else (none, { heap with requests := heap.requests + 1 })
      else (some none, heap) := by
  unfold outputString createUnicodeStringOnLsaHeap allocateHeap
  cases given with
  | false => rfl
  | true =>
    dsimp only
    rw [if_pos rfl, if_pos rfl, if_neg (by omega)]
    cases env.allocates heap.requests with
    | false => rfl
    | true => rfl

/-- The allocations that a call asks for after its decision, answered or not. -/
def allocationsSucceed (env : LsaEnv) (heap : LsaHeap) (ptrs : LogonPointers) : Bool :=
  (!ptrs.accountName || env.allocates heap.requests) &&
    (!ptrs.authenticatingAuthority ||
      env.allocates (heap.requests + if ptrs.accountName then 1 else 0))

/-- After the decision only the allocations count. -/
theorem logonUserEx2_status {env : LsaEnv} {reg : Registry} {submitBuffer : Option Bytes}
    {record : DeviceRecord} (hv : verifyLogon env reg submitBuffer = .ok record) (heap : LsaHeap)
    (ptrs : LogonPointers) :
    (logonUserEx2 env reg heap ptrs submitBuffer).1
      = if allocationsSucceed env heap ptrs then .STATUS_SUCCESS
        else .STATUS_INSUFFICIENT_RESOURCES := by
  unfold logonUserEx2 allocationsSucceed
  rw [hv]
  simp only [outputString_eq]
  cases ptrs.accountName with
  | false =>
    cases ptrs.authenticatingAuthority with
    | false => rfl
    | true => cases ha : env.allocates heap.requests <;> simp [ha]
  | true =>
    cases ha : env.allocates heap.requests with
    | false => simp
    | true =>
      cases ptrs.authenticatingAuthority with
      | false => simp
      | true => cases hb : env.allocates (heap.requests + 1) <;> simp [hb]

/-- The account name of a logon that succeeds. -/
theorem logonUserEx2_accountName {env : LsaEnv} {reg : Registry} {submitBuffer : Option Bytes}
    {record : DeviceRecord} (hv : verifyLogon env reg submitBuffer = .ok record) {heap : LsaHeap}
    {ptrs : LogonPointers} (halloc : allocationsSucceed env heap ptrs = true) :
    (logonUserEx2 env reg heap ptrs submitBuffer).2.1.accountName
      = if ptrs.accountName then
          some (some (unicodeString heap.requests (resolveUserName env record)))
        else none := by
  unfold logonUserEx2
  unfold allocationsSucceed at halloc
  rw [hv]
  simp only [outputString_eq]
  cases hname : ptrs.accountName with
  | false =>
    cases hauth : ptrs.authenticatingAuthority with
    | false => simp
    | true =>
      simp only [hname, hauth] at halloc
      simp_all
  | true =>
    cases hauth : ptrs.authenticatingAuthority with
    | false =>
      simp only [hname, hauth] at halloc
      simp_all
    | true =>
      simp only [hname, hauth] at halloc
      simp_all

/-! ### When the name is not the phone's -/

/-- The account of a record has a name: there is a SID, and its lookup gives a name. -/
def AccountNamed (env : LsaEnv) (record : DeviceRecord) : Prop :=
  record.accountSid ≠ [] ∧ ∃ name, env.lookupAccountSid record.accountSid = some name ∧ name ≠ []

/-- The name of an account is the one the system knows. -/
theorem resolveUserName_of_named {env : LsaEnv} {record : DeviceRecord}
    (h : AccountNamed env record) (n : Bytes) :
    resolveUserName env { record with deviceName := n } = resolveUserName env record := by
  obtain ⟨hsid, name, hlookup, hname⟩ := h
  simp only [resolveUserName, if_neg hsid, hlookup, Option.getD_some, ne_eq, hname,
    not_false_eq_true, if_true]

/-- Without one it is the text of the phone. -/
theorem resolveUserName_of_not_named {env : LsaEnv} {record : DeviceRecord}
    (h : ¬ AccountNamed env record) {n : Bytes} (hn : n ≠ []) :
    resolveUserName env { record with deviceName := n } = widen n := by
  have hempty : (if record.accountSid = [] then []
      else (env.lookupAccountSid record.accountSid).getD []) = [] := by
    by_cases hsid : record.accountSid = []
    · rw [if_pos hsid]
    · rw [if_neg hsid]
      cases hlookup : env.lookupAccountSid record.accountSid with
      | none => rfl
      | some name =>
        by_contra hname
        exact h ⟨hsid, name, hlookup, hname⟩
  unfold resolveUserName
  dsimp only
  rw [hempty, if_neg (not_not.mpr rfl), if_pos hn]

/-- The two calls return the same status and, on success, the same account name. -/
def SameLogon (env : LsaEnv) (reg reg' : Registry) (heap : LsaHeap) (ptrs : LogonPointers)
    (submitBuffer : Option Bytes) : Prop :=
  (logonUserEx2 env reg' heap ptrs submitBuffer).1 =
      (logonUserEx2 env reg heap ptrs submitBuffer).1 ∧
    ((logonUserEx2 env reg heap ptrs submitBuffer).1 = .STATUS_SUCCESS →
      (logonUserEx2 env reg' heap ptrs submitBuffer).2.1.accountName
        = (logonUserEx2 env reg heap ptrs submitBuffer).2.1.accountName)

/-- A buffer passes the checks for a record, the account name is asked for, the allocations
succeed, and the device name can be read. -/
structure NameHandedOut (env : LsaEnv) (reg : Registry) (heap : LsaHeap) (ptrs : LogonPointers)
    (data : Bytes) (record : DeviceRecord) : Prop where
  size : LSA_LOGON_BUFFER_SIZE ≤ data.length
  accepted : ∃ msg, LogonAccepted env reg (.ofLayout data) msg record
  given : ptrs.accountName = true
  allocated : allocationsSucceed env heap ptrs = true
  readable : env.access.queryValue
    (deviceKey (deviceIdToString (MobileUnlockLsaLogonBuffer.ofLayout data).deviceId))
    .deviceName = ERROR_SUCCESS

/-- The registry with another name in one of its keys. -/
def renameDevice (reg : Registry) (name : KeyName) (vals : KeyValues DeviceValue) (n : Bytes) :
    Registry :=
  reg.withStore (reg.store.insert name
    (Function.update vals .deviceName (some (wideString n))))

theorem sameUpToName_renameDevice {reg : Registry} {name : KeyName}
    {vals : KeyValues DeviceValue} (hl : reg.store.lookup name = some vals) (n : Bytes) :
    SameUpToName reg (renameDevice reg name vals n) := by
  refine ⟨rfl, ?_⟩
  intro hive k
  show ((Function.update reg.hive reg.root _ hive).lookup k).map withoutName = _
  by_cases hhive : hive = reg.root
  · subst hhive
    rw [Function.update_self]
    by_cases hk : k = name
    · subst hk
      have hlookup : (reg.hive reg.root).lookup k = some vals := hl
      rw [AList.lookup_insert, hlookup, Option.map_some, Option.map_some, withoutName,
        Function.update_idem, withoutName]
    · rw [AList.lookup_insert_ne hk]
      rfl
  · rw [Function.update_of_ne hhive]

/-- The new name is read when it fits its buffer, and nothing else has changed. -/
theorem readDeviceRecord_renameDevice {acc : Access} {reg : Registry} {s : Bytes}
    {record : DeviceRecord} {vals : KeyValues DeviceValue}
    (hl : reg.store.lookup (deviceKey s) = some vals)
    (h : readDeviceRecord acc reg s {} = (ERROR_SUCCESS, record)) {n : Bytes}
    (hquery : acc.queryValue (deviceKey s) .deviceName = ERROR_SUCCESS)
    (hlen : (wideString n).length ≤ WIDE_BUFFER_SIZE) (hn : narrowString (wideString n) = n) :
    readDeviceRecord acc (renameDevice reg (deviceKey s) vals n) s {}
      = (ERROR_SUCCESS, { record with deviceName := n }) := by
  have hopen : acc.openKey (deviceKey s) = ERROR_SUCCESS :=
    openKey_of_readDeviceRecord (congrArg Prod.fst h)
  obtain ⟨n', hread, -⟩ := readDeviceRecord_rename (sameUpToName_renameDevice hl n) acc s
  rw [h] at hread
  have hname : (readDeviceRecord acc (renameDevice reg (deviceKey s) vals n) s {}).2.deviceName
      = n := by
    simp only [readDeviceRecord, regOpenKey, hopen, renameDevice, Registry.store_withStore,
      AList.lookup_insert, ne_eq, not_true_eq_false, if_false, readText, regQueryValue, hquery,
      Function.update_self, if_pos hlen, hn]
  rw [hread] at hname ⊢
  rw [show n' = n from hname]

/-- The same logon under another name. -/
theorem NameHandedOut.rename {env : LsaEnv} {reg : Registry} {heap : LsaHeap}
    {ptrs : LogonPointers} {data : Bytes} {record : DeviceRecord}
    (h : NameHandedOut env reg heap ptrs data record) {n : Bytes}
    (hlen : (wideString n).length ≤ WIDE_BUFFER_SIZE) (hn : narrowString (wideString n) = n) :
    ∃ reg', SameUpToName reg reg' ∧
      verifyLogon env reg' (some data) = .ok { record with deviceName := n } := by
  obtain ⟨msg, haccepted⟩ := h.accepted
  obtain ⟨vals, hl, -⟩ := readDeviceRecord_success (congrArg Prod.fst haccepted.found)
  refine ⟨_, sameUpToName_renameDevice hl n, verifyLogon_ok_iff.mpr ⟨h.size, msg, ?_⟩⟩
  exact { haccepted with
    found := readDeviceRecord_renameDevice hl haccepted.found h.readable hlen hn }

/-- Take any call of the package. No other choice of device names changes its status or its
account name if and only if, whenever it hands out a name for a record, the account of that
record has a name. -/
theorem logon_ignores_deviceName_iff (env : LsaEnv) (reg : Registry) (heap : LsaHeap)
    (ptrs : LogonPointers) (submitBuffer : Option Bytes) :
    (∀ reg', SameUpToName reg reg' → SameLogon env reg reg' heap ptrs submitBuffer) ↔
      ∀ data record, submitBuffer = some data → NameHandedOut env reg heap ptrs data record →
        AccountNamed env record := by
  constructor
  · intro hsame data record hdata hname
    subst hdata
    by_contra hnot
    -- two names that the phone could have given lead to two account names
    have key : ∀ n : Bytes, n ≠ [] → (wideString n).length ≤ WIDE_BUFFER_SIZE →
        narrowString (wideString n) = n →
        widen n = resolveUserName env record := by
      intro n hne hlen hn
      have hv := verifyLogon_ok_iff.mpr ⟨hname.size, hname.accepted⟩
      obtain ⟨reg', hreg', hv'⟩ := hname.rename hlen hn
      have hstatus : (logonUserEx2 env reg heap ptrs (some data)).1 = .STATUS_SUCCESS := by
        rw [logonUserEx2_status hv, if_pos hname.allocated]
      have haccount := (hsame reg' hreg').2 hstatus
      rw [logonUserEx2_accountName hv' hname.allocated,
        logonUserEx2_accountName hv hname.allocated, if_pos hname.given, if_pos hname.given,
        Option.some.injEq, Option.some.injEq] at haccount
      have hbuffer := congrArg UnicodeString.buffer haccount
      rw [← resolveUserName_of_not_named hnot hne]
      exact hbuffer
    have hx := key [120] (by decide) (by decide) (by decide)
    have hy := key [121] (by decide) (by decide) (by decide)
    exact absurd (hx.trans hy.symm) (by decide)
  · intro hnamed reg' hreg'
    cases submitBuffer with
    | none => exact ⟨rfl, fun _ => rfl⟩
    | some data =>
      obtain ⟨n, hv', hfault⟩ := verifyLogon_rename hreg' env data
      cases hv : verifyLogon env reg (some data) with
      | error status =>
        rw [hv] at hv'
        unfold SameLogon logonUserEx2
        rw [hv, show verifyLogon env reg' (some data) = .error status from hv']
        exact ⟨rfl, fun _ => rfl⟩
      | ok record =>
        rw [hv] at hv'
        refine ⟨?_, ?_⟩
        · rw [logonUserEx2_status hv', logonUserEx2_status hv]
        · intro hstatus
          rw [logonUserEx2_status hv] at hstatus
          have halloc : allocationsSucceed env heap ptrs = true := by
            by_contra hno
            rw [if_neg hno] at hstatus
            cases hstatus
          rw [logonUserEx2_accountName hv' halloc, logonUserEx2_accountName hv halloc]
          by_cases hgiven : ptrs.accountName = true
          · rw [if_pos hgiven, if_pos hgiven]
            obtain ⟨hsize, haccepted⟩ := verifyLogon_ok_iff.mp hv
            by_cases hquery : env.access.queryValue
                (deviceKey (deviceIdToString (MobileUnlockLsaLogonBuffer.ofLayout data).deviceId))
                .deviceName = ERROR_SUCCESS
            · have haccount := hnamed data record rfl ⟨hsize, haccepted, hgiven, halloc, hquery⟩
              rw [resolveUserName_of_named haccount]
            · rw [hfault record hv hquery]
          · rw [if_neg hgiven, if_neg hgiven]

/-! ### A phone that names its account -/

/-- The registry with the phone under a name of its choice. Its SID is that of an account the
system cannot name. -/
def namedPhoneRegistry (name : Bytes) : Registry where
  hive _ := (∅ : KeyStore DeviceValue).insert (deviceKey (deviceIdToString phoneId)) fun
    | .deviceName => some (wideString name)
    | .accountSid => some (wideString (ascii "S-1-5-21-1-2-3-1001"))
    | v => phoneValues v

/-- Two names that the phone can give lead to two account names. -/
theorem logon_takes_deviceName :
    SameUpToName (namedPhoneRegistry (ascii "Alice")) (namedPhoneRegistry (ascii "Administrator")) ∧
      (logonUserEx2 phoneLsaEnv (namedPhoneRegistry (ascii "Alice")) {} {}
        (some (logonBuffer (serializeSignedMessage (phoneMessage .AUTH_RESPONSE) ++
          authSignature)).layout)).1 = .STATUS_SUCCESS ∧
      (logonUserEx2 phoneLsaEnv (namedPhoneRegistry (ascii "Alice")) {} {}
        (some (logonBuffer (serializeSignedMessage (phoneMessage .AUTH_RESPONSE) ++
          authSignature)).layout)).2.1.accountName
            = some (some (unicodeString 0 (widen (ascii "Alice")))) ∧
      (logonUserEx2 phoneLsaEnv (namedPhoneRegistry (ascii "Administrator")) {} {}
        (some (logonBuffer (serializeSignedMessage (phoneMessage .AUTH_RESPONSE) ++
          authSignature)).layout)).2.1.accountName
            = some (some (unicodeString 0 (widen (ascii "Administrator")))) := by
  refine ⟨⟨rfl, ?_⟩, by decide +kernel, by decide +kernel, by decide +kernel⟩
  intro hive k
  -- The two registries differ in one value of one key.
  unfold namedPhoneRegistry
  dsimp only
  by_cases hk : k = deviceKey (deviceIdToString phoneId)
  · subst hk
    rw [AList.lookup_insert, AList.lookup_insert, Option.map_some, Option.map_some]
    congr 1
    funext v
    cases v <;> rfl
  · rw [AList.lookup_insert_ne hk, AList.lookup_insert_ne hk]

end MobileUnlock.Lsa
