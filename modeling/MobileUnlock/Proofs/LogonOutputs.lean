import MobileUnlock.Lsa.LogonUser
import MobileUnlock.Proofs.LsaLogon

/-!
# `MobileUnlock.Proofs.LogonOutputs`: a logon leaves clean outputs

Every exit of the call writes the status it returns to the sub-status (`checkLogon_eq`). Before
step 7 nothing is allocated, so a call that fails there leaves the outputs as `clearOutputs` wrote
them. In step 7 an allocation either fails or gives one new block
(`HeapLog.createUnicodeString_cases`), which leaves six ways through the two outputs.

`logonUserEx2InPlace_agrees` connects this with `logonUserEx2`: both return the same status, and
the locations hold what that function gives.
-/

set_option autoImplicit false

namespace MobileUnlock.Lsa

open MobileUnlock.Lib MobileUnlock.Lib.Win32 MobileUnlock.Protocol MobileUnlock.Crypto
open MobileUnlock.Pairing

/-! ### The exits before step 7 -/

/-- The two statuses of an exit that writes the status it returns. -/
def sameStatus (status : NTSTATUS) : NTSTATUS × NTSTATUS := (status, status)

/-- One check. -/
theorem check_eq {p : Prop} [Decidable p] (status : NTSTATUS)
    {x : Except (NTSTATUS × NTSTATUS) DeviceRecord} {y : Except NTSTATUS DeviceRecord}
    (h : x = y.mapError sameStatus) :
    (if p then .error (status, status) else x) =
      (if p then .error status else y).mapError sameStatus := by
  split
  · rfl
  · exact h

/-- Every exit writes the status it returns. -/
theorem checkLogon_eq (env : LsaEnv) (reg : Registry) (submitBuffer : Option Bytes) :
    checkLogon env reg submitBuffer =
      (verifyLogon env reg submitBuffer).mapError sameStatus := by
  cases submitBuffer with
  | none => rfl
  | some data =>
    refine check_eq _ (check_eq _ ?_)
    cases deserializeSignedMessage
      (MobileUnlockLsaLogonBuffer.ofLayout data).canonicalMessage.toList with
    | none => rfl
    | some msg =>
      refine check_eq _ (check_eq _ (check_eq _ (check_eq _ (check_eq _ (check_eq _
        (check_eq _ (check_eq _ rfl)))))))

/-! ### The heap -/

/-- One output string: no block, or one new block. -/
theorem HeapLog.createUnicodeString_cases (env : LsaEnv) (heap : HeapLog) (str : WideText) :
    heap.createUnicodeString env str = (none, { heap with requests := heap.requests + 1 }) ∨
      ∃ s : UnicodeString, s.block = heap.requests ∧
        heap.createUnicodeString env str =
          (some s, ⟨heap.requests + 1, heap.calls ++ [.allocated s.block]⟩) := by
  have hlength : ¬ 16 + (str.length + 1) * 2 = 0 := by omega
  rw [createUnicodeString, allocate, if_neg hlength]
  dsimp only
  cases halloc : env.allocates heap.requests with
  | false => exact .inl rfl
  | true => exact .inr ⟨_, rfl, rfl⟩

/-- A block of the call that was not given back. -/
def Live (calls : List HeapCall) (block : Nat) : Prop :=
  .allocated block ∈ calls ∧ .freed block ∉ calls

/-- The location holds a pointer to a string in this block. -/
def PointsTo (location : Option (Slot (Option UnicodeString))) (block : Nat) : Prop :=
  ∃ s : UnicodeString, location = some (.written (some s)) ∧ s.block = block

/-! ### What a call must leave -/

/-- What a call that failed must leave: in every output that is given null or zero, the status in
the sub-status, and every block given back once. -/
structure FailedCleanly (mem mem' : LogonMemory) (status : NTSTATUS) (calls : List HeapCall) :
    Prop where
  profileBuffer : mem'.profileBuffer = put mem.profileBuffer none
  profileBufferLength : mem'.profileBufferLength = put mem.profileBufferLength 0
  tokenInformationType : mem'.tokenInformationType = put mem.tokenInformationType 0
  tokenInformation : mem'.tokenInformation = put mem.tokenInformation none
  accountName : mem'.accountName = put mem.accountName none
  authority : mem'.authenticatingAuthority = put mem.authenticatingAuthority none
  machineName : mem'.machineName = put mem.machineName none
  supplementalCredentials :
    mem'.supplementalCredentials = put mem.supplementalCredentials none
  subStatus : mem'.subStatus = put mem.subStatus status
  freedOnce : ∀ block, .allocated block ∈ calls → calls.count (.freed block) = 1
  freedOwn : ∀ block, .freed block ∈ calls → .allocated block ∈ calls

/-- What a call that succeeded must leave: success in the sub-status, and pointers to the only
live blocks in the two names, as far as they are given. -/
structure SucceededCleanly (mem mem' : LogonMemory) (calls : List HeapCall) : Prop where
  subStatus : mem'.subStatus = put mem.subStatus .STATUS_SUCCESS
  accountName : mem.accountName.isSome → ∃ block, PointsTo mem'.accountName block
  authority : mem.authenticatingAuthority.isSome →
    ∃ block, PointsTo mem'.authenticatingAuthority block
  live : ∀ block, Live calls block ↔
    PointsTo mem'.accountName block ∨ PointsTo mem'.authenticatingAuthority block
  distinct : ∀ block, PointsTo mem'.accountName block →
    ¬ PointsTo mem'.authenticatingAuthority block

/-- Every byte of the credentials is zero. -/
def CredentialsZero (mem mem' : LogonMemory) : Prop :=
  mem'.primaryCredentials =
    mem.primaryCredentials.map fun bytes => List.replicate bytes.length 0

/-- The outcome of a call is clean. -/
def CleanOutcome (mem : LogonMemory) (outcome : NTSTATUS × LogonMemory × HeapLog) : Prop :=
  (outcome.1 ≠ .STATUS_SUCCESS → FailedCleanly mem outcome.2.1 outcome.1 outcome.2.2.calls) ∧
    (outcome.1 = .STATUS_SUCCESS → SucceededCleanly mem outcome.2.1 outcome.2.2.calls) ∧
    CredentialsZero mem outcome.2.1

/-! ### The exits -/

theorem put_put {α : Type} (location : Option (Slot α)) (a b : α) :
    put (put location a) b = put location b := by
  cases location <;> rfl

theorem pointsTo_iff {s : UnicodeString} {block : Nat} :
    PointsTo (some (.written (some s))) block ↔ s.block = block := by
  constructor
  · rintro ⟨t, ht, hblock⟩
    cases ht
    exact hblock
  · intro hblock
    exact ⟨s, rfl, hblock⟩

theorem not_pointsTo_none (block : Nat) : ¬ PointsTo none block := by
  rintro ⟨s, hs, -⟩
  cases hs

/-- An exit that failed, with the outputs cleared. -/
theorem cleanOutcome_failed (mem : LogonMemory) (heap : HeapLog) {status : NTSTATUS}
    (hstatus : status ≠ .STATUS_SUCCESS)
    (hfreed : ∀ block, .allocated block ∈ heap.calls → heap.calls.count (.freed block) = 1)
    (hown : ∀ block, .freed block ∈ heap.calls → .allocated block ∈ heap.calls) :
    CleanOutcome mem (exitLogon (clearOutputs mem) heap status status) := by
  refine ⟨fun _ => ?_, fun hsuccess => absurd hsuccess hstatus, rfl⟩
  exact ⟨rfl, rfl, rfl, rfl, rfl, rfl, rfl, rfl, put_put _ _ _, hfreed, hown⟩

/-- An exit before step 7: nothing is allocated. -/
theorem cleanOutcome_unallocated (mem : LogonMemory) (requests : Nat) {status : NTSTATUS}
    (hstatus : status ≠ .STATUS_SUCCESS) :
    CleanOutcome mem (exitLogon (clearOutputs mem) ⟨requests, []⟩ status status) :=
  cleanOutcome_failed mem _ hstatus (fun _ h => absurd h List.not_mem_nil)
    fun _ h => absurd h List.not_mem_nil

/-- The exit that succeeded. -/
theorem cleanOutcome_succeeded (mem : LogonMemory) (heap : HeapLog)
    (name authority : Option (Slot (Option UnicodeString)))
    (hname : mem.accountName.isSome → ∃ block, PointsTo name block)
    (hauthority : mem.authenticatingAuthority.isSome → ∃ block, PointsTo authority block)
    (hlive : ∀ block, Live heap.calls block ↔ PointsTo name block ∨ PointsTo authority block)
    (hdistinct : ∀ block, PointsTo name block → ¬ PointsTo authority block) :
    CleanOutcome mem (exitLogon { clearOutputs mem with
      accountName := name
      authenticatingAuthority := authority
      tokenInformationType := put (clearOutputs mem).tokenInformationType 0 } heap
        .STATUS_SUCCESS .STATUS_SUCCESS) :=
  ⟨fun h => absurd rfl h, fun _ => ⟨put_put _ _ _, hname, hauthority, hlive, hdistinct⟩, rfl⟩

theorem live_single (block b : Nat) : Live [.allocated block] b ↔ block = b := by
  constructor
  · rintro ⟨hmem, -⟩
    cases List.mem_singleton.mp hmem
    rfl
  · rintro rfl
    exact ⟨List.mem_cons_self, by simp⟩

theorem live_pair {block block' : Nat} (b : Nat) :
    Live [.allocated block, .allocated block'] b ↔ block = b ∨ block' = b := by
  simp [Live, eq_comm]

/-! ### Step 7 -/

/-- The authority without an account name: the only block, or none. -/
theorem cleanOutcome_authority_alone (env : LsaEnv) {mem : LogonMemory}
    (hname : mem.accountName = none) :
    CleanOutcome mem (outputAuthority env (clearOutputs mem) {}) := by
  obtain ⟨pb, pbl, sub, tit, ti, name, authority, mn, pc, sc⟩ := mem
  cases hname
  cases authority with
  | none =>
    refine cleanOutcome_succeeded _ {} none none (fun h => nomatch h) (fun h => nomatch h)
      (fun block => ?_) (fun block h => absurd h (not_pointsTo_none block))
    exact iff_of_false (fun h => absurd h.1 List.not_mem_nil)
      fun h => h.elim (not_pointsTo_none block) (not_pointsTo_none block)
  | some slot =>
    rw [outputAuthority]
    rcases HeapLog.createUnicodeString_cases env {} AUTH_AUTHORITY_W with
      hcreate | ⟨s, -, hcreate⟩
    · simp only [clearOutputs, put, Option.map_some, hcreate]
      exact cleanOutcome_unallocated ⟨pb, pbl, sub, tit, ti, none, some slot, mn, pc, sc⟩ 1
        (by decide)
    · simp only [clearOutputs, put, Option.map_some, hcreate]
      refine cleanOutcome_succeeded ⟨pb, pbl, sub, tit, ti, none, some slot, mn, pc, sc⟩
        ⟨1, [.allocated s.block]⟩ none (some (.written (some s))) (fun h => nomatch h)
        (fun _ => ⟨s.block, pointsTo_iff.mpr rfl⟩) (fun block => ?_)
        (fun block h => absurd h (not_pointsTo_none block))
      rw [live_single, pointsTo_iff]
      exact (or_iff_right (not_pointsTo_none block)).symm

/-- The authority behind an account name in block 0: two blocks, or the name is given back. -/
theorem cleanOutcome_authority_named (env : LsaEnv) {mem : LogonMemory}
    {slot : Slot (Option UnicodeString)} (hname : mem.accountName = some slot)
    {t : UnicodeString} (ht : t.block = 0) :
    CleanOutcome mem (outputAuthority env
      { clearOutputs mem with accountName := some (.written (some t)) }
      ⟨1, [.allocated t.block]⟩) := by
  obtain ⟨pb, pbl, sub, tit, ti, name, authority, mn, pc, sc⟩ := mem
  cases hname
  have hnamed : ∃ block, PointsTo (some (.written (some t))) block :=
    ⟨t.block, pointsTo_iff.mpr rfl⟩
  cases authority with
  | none =>
    refine cleanOutcome_succeeded ⟨pb, pbl, sub, tit, ti, some slot, none, mn, pc, sc⟩
      ⟨1, [.allocated t.block]⟩ (some (.written (some t))) none (fun _ => hnamed)
      (fun h => nomatch h) (fun block => ?_) (fun block _ => not_pointsTo_none block)
    rw [live_single, pointsTo_iff]
    exact (or_iff_left (not_pointsTo_none block)).symm
  | some slot' =>
    rw [outputAuthority]
    rcases HeapLog.createUnicodeString_cases env ⟨1, [.allocated t.block]⟩ AUTH_AUTHORITY_W with
      hcreate | ⟨s, hs, hcreate⟩
    · simp only [clearOutputs, put, Option.map_some, hcreate]
      refine cleanOutcome_failed
        ⟨pb, pbl, sub, tit, ti, some slot, some slot', mn, pc, sc⟩
        ⟨2, [.allocated t.block, .freed t.block]⟩ (by decide) ?_ ?_
      · simp
      · simp
    · simp only [clearOutputs, put, Option.map_some, hcreate]
      refine cleanOutcome_succeeded
        ⟨pb, pbl, sub, tit, ti, some slot, some slot', mn, pc, sc⟩
        ⟨2, [.allocated t.block, .allocated s.block]⟩ (some (.written (some t)))
        (some (.written (some s))) (fun _ => hnamed)
        (fun _ => ⟨s.block, pointsTo_iff.mpr rfl⟩) (fun block => ?_) (fun block h h' => ?_)
      · rw [live_pair, pointsTo_iff, pointsTo_iff]
      · rw [pointsTo_iff] at h h'
        dsimp only at hs
        omega

/-- Step 7 from the cleared outputs. -/
theorem cleanOutcome_outputs (env : LsaEnv) (mem : LogonMemory) (userName : WideText) :
    CleanOutcome mem (outputAccountName env (clearOutputs mem) {} userName) := by
  cases hname : mem.accountName with
  | none =>
    have hcleared : (clearOutputs mem).accountName = none := by
      rw [clearOutputs, hname]
      rfl
    rw [outputAccountName, hcleared]
    exact cleanOutcome_authority_alone env hname
  | some slot =>
    have hcleared : (clearOutputs mem).accountName = some (.written none) := by
      rw [clearOutputs, hname]
      rfl
    rw [outputAccountName, hcleared]
    rcases HeapLog.createUnicodeString_cases env {} userName with hcreate | ⟨t, ht, hcreate⟩
    · simp only [hcreate]
      have hsame : { clearOutputs mem with accountName := put (some (.written none)) none } =
          clearOutputs mem := by
        rw [put, Option.map_some, ← hcleared]
      rw [hsame]
      exact cleanOutcome_unallocated mem 1 (by decide)
    · simp only [hcreate]
      exact cleanOutcome_authority_named env hname ht

/-! ### The outputs at once -/

/-- Which pointers are given. -/
def LogonMemory.pointers (mem : LogonMemory) : LogonPointers where
  profileBuffer := mem.profileBuffer.isSome
  profileBufferLength := mem.profileBufferLength.isSome
  subStatus := mem.subStatus.isSome
  tokenInformationType := mem.tokenInformationType.isSome
  tokenInformation := mem.tokenInformation.isSome
  accountName := mem.accountName.isSome
  authenticatingAuthority := mem.authenticatingAuthority.isSome
  machineName := mem.machineName.isSome
  primaryCredentials := mem.primaryCredentials.isSome
  supplementalCredentials := mem.supplementalCredentials.isSome

/-- The locations hold these outputs. -/
structure Holds (mem : LogonMemory) (out : LogonOutputs) : Prop where
  profileBuffer : mem.profileBuffer = out.profileBuffer.map .written
  profileBufferLength : mem.profileBufferLength = out.profileBufferLength.map .written
  subStatus : mem.subStatus = out.subStatus.map .written
  tokenInformation : mem.tokenInformation = out.tokenInformation.map .written
  accountName : mem.accountName = out.accountName.map .written
  authority : mem.authenticatingAuthority = out.authenticatingAuthority.map .written
  machineName : mem.machineName = out.machineName.map .written
  supplementalCredentials :
    mem.supplementalCredentials = out.supplementalCredentials.map .written

theorem put_eq {α : Type} (location : Option (Slot α)) (a : α) :
    put location a = (if location.isSome then some a else none).map .written := by
  cases location <;> rfl

/-- Cleared locations with a status and two names, as every exit leaves them. -/
theorem holds_exit (mem : LogonMemory) (status : NTSTATUS)
    (name authority : Option (Option UnicodeString)) (tokenType : Option (Slot Nat))
    (heap : HeapLog) :
    Holds (exitLogon { clearOutputs mem with
        accountName := name.map .written
        authenticatingAuthority := authority.map .written
        tokenInformationType := tokenType } heap status status).2.1
      { clearedOutputs mem.pointers status with
        accountName := name
        authenticatingAuthority := authority } :=
  ⟨put_eq _ _, put_eq _ _, (put_put _ _ _).trans (put_eq _ _), put_eq _ _, rfl, rfl, put_eq _ _,
    put_eq _ _⟩

/-- Both heaps give the same string. -/
theorem createUnicodeString_agrees (env : LsaEnv) (heap : HeapLog) (heap' : LsaHeap)
    (str : WideText) (hrequests : heap.requests = heap'.requests) :
    ∃ result after after', heap.createUnicodeString env str = (result, after) ∧
      createUnicodeStringOnLsaHeap env heap' str = (result, after') ∧
      after.requests = after'.requests := by
  have hlength : ¬ 16 + (str.length + 1) * 2 = 0 := by omega
  rw [HeapLog.createUnicodeString, createUnicodeStringOnLsaHeap, HeapLog.allocate, allocateHeap,
    if_neg hlength, if_neg hlength, hrequests]
  dsimp only
  cases env.allocates heap'.requests with
  | false => exact ⟨none, _, _, rfl, rfl, rfl⟩
  | true => exact ⟨_, _, _, rfl, rfl, rfl⟩

/-- The second output of `logonUserEx2`, after the first. -/
def finishSummary (env : LsaEnv) (ptrs : LogonPointers) (accountName : Option UnicodeString)
    (heap : LsaHeap) : NTSTATUS × LogonOutputs × LsaHeap :=
  match outputString env heap ptrs.authenticatingAuthority AUTH_AUTHORITY_W with
  | (none, heap) =>
    (.STATUS_INSUFFICIENT_RESOURCES, clearedOutputs ptrs .STATUS_INSUFFICIENT_RESOURCES,
      match accountName with
      | some s => freeHeap heap s.block
      | none => heap)
  | (some authority, heap) =>
    (.STATUS_SUCCESS,
      { clearedOutputs ptrs .STATUS_SUCCESS with
        accountName := if ptrs.accountName then some accountName else none
        authenticatingAuthority :=
          if ptrs.authenticatingAuthority then some authority else none }, heap)

theorem outputString_given {env : LsaEnv} {heap after : LsaHeap} {str : WideText}
    {result : Option UnicodeString}
    (h : createUnicodeStringOnLsaHeap env heap str = (result, after)) :
    outputString env heap true str = (result.map some, after) := by
  rw [outputString, if_pos rfl, h]
  cases result <;> rfl

/-- Same status, and the locations hold the outputs. -/
def Agrees (outcome : NTSTATUS × LogonMemory × HeapLog)
    (outcome' : NTSTATUS × LogonOutputs × LsaHeap) : Prop :=
  outcome.1 = outcome'.1 ∧ Holds outcome.2.1 outcome'.2.1

/-- The second output. -/
theorem outputAuthority_agrees (env : LsaEnv) (mem : LogonMemory) {heap : HeapLog}
    {heap' : LsaHeap} (hrequests : heap.requests = heap'.requests)
    (name : Option UnicodeString) (hname : mem.accountName.isSome = name.isSome) :
    Agrees (outputAuthority env
        { clearOutputs mem with accountName := name.map fun s => .written (some s) } heap)
      (finishSummary env mem.pointers name heap') := by
  obtain ⟨second, after, after', hsecond, hsecond', -⟩ :=
    createUnicodeString_agrees env heap heap' AUTH_AUTHORITY_W hrequests
  obtain ⟨pb, pbl, sub, tit, ti, first, authority, mn, pc, sc⟩ := mem
  cases authority with
  | none =>
    cases name with
    | none =>
      cases first with
      | none =>
        exact ⟨rfl, holds_exit ⟨pb, pbl, sub, tit, ti, none, none, mn, pc, sc⟩ _ none none _ _⟩
      | some slot => cases hname
    | some s =>
      cases first with
      | none => cases hname
      | some slot =>
        exact ⟨rfl, holds_exit ⟨pb, pbl, sub, tit, ti, some slot, none, mn, pc, sc⟩ _
          (some (some s)) none _ _⟩
  | some slot' =>
    have hout := outputString_given hsecond'
    simp only [Agrees, finishSummary, LogonMemory.pointers, Option.isSome_some, outputAuthority,
      clearOutputs, put, Option.map_some, hsecond, hout]
    cases name with
    | none =>
      cases first with
      | none =>
        cases second with
        | none =>
          exact ⟨rfl, holds_exit ⟨pb, pbl, sub, tit, ti, none, some slot', mn, pc, sc⟩ _ none
            (some none) _ _⟩
        | some t =>
          exact ⟨rfl, holds_exit ⟨pb, pbl, sub, tit, ti, none, some slot', mn, pc, sc⟩ _ none
            (some (some t)) _ _⟩
      | some slot => cases hname
    | some s =>
      cases first with
      | none => cases hname
      | some slot =>
        cases second with
        | none =>
          exact ⟨rfl, holds_exit ⟨pb, pbl, sub, tit, ti, some slot, some slot', mn, pc, sc⟩ _
            (some none) (some none) _ _⟩
        | some t =>
          exact ⟨rfl, holds_exit ⟨pb, pbl, sub, tit, ti, some slot, some slot', mn, pc, sc⟩ _
            (some (some s)) (some (some t)) _ _⟩

/-- The call in place returns the status of `logonUserEx2`, and the locations hold its outputs. -/
theorem logonUserEx2InPlace_agrees (env : LsaEnv) (reg : Registry) (mem : LogonMemory)
    (submitBuffer : Option Bytes) :
    Agrees (logonUserEx2InPlace env reg mem {} submitBuffer)
      (logonUserEx2 env reg {} mem.pointers submitBuffer) := by
  rw [logonUserEx2InPlace, logonUserEx2, checkLogon_eq]
  cases verifyLogon env reg submitBuffer with
  | error status =>
    exact ⟨rfl, put_eq _ _, put_eq _ _, (put_put _ _ _).trans (put_eq _ _), put_eq _ _,
      put_eq _ _, put_eq _ _, put_eq _ _, put_eq _ _⟩
  | ok deviceRecord =>
    obtain ⟨first, after, after', hfirst, hfirst', hrequests⟩ :=
      createUnicodeString_agrees env {} {} (resolveUserName env deviceRecord) rfl
    obtain ⟨pb, pbl, sub, tit, ti, name, authority, mn, pc, sc⟩ := mem
    cases name with
    | none =>
      exact outputAuthority_agrees env ⟨pb, pbl, sub, tit, ti, none, authority, mn, pc, sc⟩ rfl
        none rfl
    | some slot =>
      have hout := outputString_given hfirst'
      simp only [LogonMemory.pointers, Option.isSome_some, hout, Except.mapError,
        outputAccountName, clearOutputs, put, Option.map_some, hfirst]
      cases first with
      | none =>
        exact ⟨rfl, put_eq _ _, put_eq _ _, (put_put _ _ _).trans (put_eq _ _), put_eq _ _, rfl,
          put_eq _ _, put_eq _ _, put_eq _ _⟩
      | some s =>
        exact outputAuthority_agrees env ⟨pb, pbl, sub, tit, ti, some slot, authority, mn, pc, sc⟩
          hrequests (some s) rfl

/-! ### The call -/

/-- For every submit buffer, every choice of null pointers, every registry, every oracle and every
pattern of allocation failures, a call leaves clean outputs. -/
theorem logonUserEx2_clean (env : LsaEnv) (reg : Registry) (mem : LogonMemory)
    (submitBuffer : Option Bytes) :
    CleanOutcome mem (logonUserEx2InPlace env reg mem {} submitBuffer) := by
  rw [logonUserEx2InPlace, checkLogon_eq]
  cases hverify : verifyLogon env reg submitBuffer with
  | error status =>
    have hstatus : status ≠ .STATUS_SUCCESS := verifyLogon_error_ne hverify
    exact cleanOutcome_unallocated mem 0 hstatus
  | ok deviceRecord => exact cleanOutcome_outputs env mem (resolveUserName env deviceRecord)

end MobileUnlock.Lsa
