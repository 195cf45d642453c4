import MobileUnlock.Proofs.Authentication
import MobileUnlock.Proofs.LsaLogon
import MobileUnlock.Proofs.PairRequest
import MobileUnlock.Proofs.Pairing
import MobileUnlock.Service.SharedRegistry

/-!
# `MobileUnlock.Proofs.AppPairing`: a phone that is paired by the app

`startPairing` of the app builds its PAIR_REQUEST without a public key, so the member `publicKey` is
empty. The PC does not miss it: the session is opened, the PIN is confirmed, and the record is
written. An empty key is not stored, and what reads the record asks for one.

`app_paired_not_granted` follows a device through every run of all callers of the registry. While
its pairings are those of the app, it gets no challenge, no answer of it is accepted, and no logon
with it succeeds, whatever the other devices do. For this the search for the member has to be safe
against names and ids of every form (`parsePairRequest_no_key`).
-/

set_option autoImplicit false

namespace MobileUnlock.Service

open MobileUnlock.Lib MobileUnlock.Lib.Dart MobileUnlock.Lib.Win32 MobileUnlock.Protocol
open MobileUnlock.Pairing MobileUnlock.Authentication MobileUnlock.Lsa

/-! ### The request of the app -/

/-- A PAIR_REQUEST that the app sends in one of its runs. -/
def SentByApp (request : Android.PairRequestPayload) : Prop :=
  ∃ events, ∃ x ∈ Android.pairingServiceMachine.trace {} events,
    .sendFrame 0x0010 (.pairRequest request) ∈ x.output.calls

/-- The requests that wait for a connection have no key, nor has one that is sent. -/
theorem pairRequest_step {s : Android.PairingService}
    (h : ∀ request ∈ s.pendingStarts, request.publicKey = [])
    (e : Android.PairingServiceEvent) :
    (∀ request ∈ (Android.pairingServiceMachine.step s e).1.pendingStarts,
      request.publicKey = []) ∧
    ∀ request, .sendFrame 0x0010 (.pairRequest request) ∈
      (Android.pairingServiceMachine.step s e).2.calls → request.publicKey = [] := by
  have hquiet : ∀ request, .sendFrame 0x0010 (.pairRequest request) ∈
      ([] : List Android.TransportCall) → request.publicKey = [] :=
    fun _ hmem => absurd hmem List.not_mem_nil
  cases e with
  | startPairing pcHost pcPort deviceId deviceName =>
    refine ⟨?_, fun request hmem => by simp [Android.pairingServiceMachine,
      Android.PairingService.startPairing] at hmem⟩
    show ∀ request ∈ s.pendingStarts ++ [_], request.publicKey = []
    rw [List.forall_mem_append, List.forall_mem_singleton]
    exact ⟨h, rfl⟩
  | startPairingConnected index connected sent =>
    dsimp only [Android.pairingServiceMachine]
    split
    next => exact ⟨h, hquiet⟩
    next req hindex =>
      have hreq := h req (List.mem_of_getElem? hindex)
      have hrest : ∀ request ∈ s.pendingStarts.eraseIdx index, request.publicKey = [] :=
        fun request hmem => h request (List.mem_of_mem_eraseIdx hmem)
      have hsent : ∀ request, .sendFrame 0x0010 (.pairRequest request) ∈
          [Android.TransportCall.sendFrame 0x0010 (.pairRequest req)] →
          request.publicKey = [] := by
        intro request hmem
        cases List.mem_singleton.mp hmem
        exact hreq
      rw [Android.PairingService.startPairingConnected]
      split
      · exact ⟨hrest, hquiet⟩
      · dsimp only
        split
        · exact ⟨hrest, hsent⟩
        · exact ⟨hrest, hsent⟩
  | submitSasPin pin sent =>
    dsimp only [Android.pairingServiceMachine]
    rw [Android.PairingService.submitSasPin]
    split
    · exact ⟨h, hquiet⟩
    · exact ⟨h, fun request hmem => by simp at hmem⟩
  | cancelPairing => exact ⟨h, fun request hmem => by
      simp [Android.pairingServiceMachine, Android.PairingService.cancelPairing] at hmem⟩
  | sasTimeout =>
    dsimp only [Android.pairingServiceMachine]
    split
    · rw [Android.PairingService.sasTimeout]
      dsimp only
      split
      · exact ⟨h, fun request hmem => by simp [Android.PairingService.cancelPairing] at hmem⟩
      · exact ⟨h, hquiet⟩
    · exact ⟨h, hquiet⟩
  | unpairDevice =>
    dsimp only [Android.pairingServiceMachine]
    rw [Android.PairingService.unpairDevice]
    split
    · exact ⟨h, hquiet⟩
    · exact ⟨h, fun request hmem => by simp at hmem⟩
  | unpairConnected connected =>
    dsimp only [Android.pairingServiceMachine]
    split
    · exact ⟨h, hquiet⟩
    · rw [Android.PairingService.unpairConnected]
      split
      · exact ⟨h, hquiet⟩
      · split
        · exact ⟨h, hquiet⟩
        · exact ⟨h, fun request hmem => by simp at hmem⟩
  | unpairDelayed =>
    dsimp only [Android.pairingServiceMachine]
    split
    · exact ⟨h, hquiet⟩
    · exact ⟨h, fun request hmem => by simp [Android.PairingService.unpairDelayed] at hmem⟩
  | frame frame now =>
    dsimp only [Android.pairingServiceMachine]
    rw [Android.PairingService.onFrameReceived]
    split
    · exact ⟨h, hquiet⟩
    · split
      · exact ⟨h, hquiet⟩
      · split
        · exact ⟨h, fun request hmem => by simp at hmem⟩
        · split
          · exact ⟨h, hquiet⟩
          · exact ⟨h, hquiet⟩

theorem publicKey_sentByApp {request : Android.PairRequestPayload} (h : SentByApp request) :
    request.publicKey = [] := by
  obtain ⟨events, x, hx, hcall⟩ := h
  obtain ⟨pre, post, htrace⟩ := List.append_of_mem hx
  obtain ⟨events₁, event, -, -, -, rfl, -⟩ := Android.pairingServiceMachine.trace_split htrace
  have hpending := Android.pairingServiceMachine.invariant
    (P := fun s => ∀ request ∈ s.pendingStarts, request.publicKey = [])
    (fun s e hs _ => (pairRequest_step hs e).1)
    (show ∀ request ∈ ({} : Android.PairingService).pendingStarts, request.publicKey = [] from
      List.forall_mem_nil _)
    (Android.pairingServiceMachine.along_true {} events₁)
  exact (pairRequest_step hpending event).2 request hcall

/-! ### What the PC reads -/

/-- What `jsonEncode` writes for a string, cut at its quotes. A backslash is in front of each. -/
theorem contentBytes_quoted (s : DartString) :
    ∃ pieces last, contentBytes s = quoted pieces ++ last ∧
      (∀ piece ∈ pieces, quote ∉ piece ∧ ∃ head, piece = head ++ [92]) ∧ quote ∉ last := by
  rw [contentBytes, List.flatMap_assoc]
  induction runes s with
  | nil => exact ⟨[], [], rfl, List.forall_mem_nil _, List.not_mem_nil⟩
  | cons r rs ih =>
    obtain ⟨pieces, last, htext, hpieces, hlast⟩ := ih
    rw [List.flatMap_cons, htext]
    by_cases hr : r = .unit 34
    · subst hr
      refine ⟨[92] :: pieces, last, rfl, ?_, hlast⟩
      exact List.forall_mem_cons.mpr ⟨⟨by decide, [], rfl⟩, hpieces⟩
    · have hquote : quote ∉ r.escaped.flatMap Rune.utf8 := r.quote_notMem_escaped hr
      cases pieces with
      | nil =>
        refine ⟨[], r.escaped.flatMap Rune.utf8 ++ last, rfl, List.forall_mem_nil _, ?_⟩
        rw [List.mem_append, not_or]
        exact ⟨hquote, hlast⟩
      | cons piece pieces =>
        obtain ⟨⟨hpiece, head, hhead⟩, hrest⟩ := List.forall_mem_cons.mp hpieces
        refine ⟨(r.escaped.flatMap Rune.utf8 ++ piece) :: pieces, last, ?_, ?_, hlast⟩
        · rw [quoted_cons, quoted_cons, List.append_assoc, List.append_assoc, List.append_assoc]
        · refine List.forall_mem_cons.mpr ⟨⟨?_, r.escaped.flatMap Rune.utf8 ++ head, ?_⟩, hrest⟩
          · rw [List.mem_append, not_or]
            exact ⟨hquote, hpiece⟩
          · rw [hhead, List.append_assoc]

/-- A key with a comma behind it is read as nothing. -/
theorem jsonGetString_comma (key first : Bytes) (pieces : List Bytes) (hkey : quote ∉ key)
    (hfirst : quote ∉ first) (hpieces : ∀ piece ∈ pieces, quote ∉ piece) (hne : key ∉ pieces)
    (post : List Bytes) (rest : Bytes) :
    jsonGetString (quoted (first :: pieces ++ key :: [44] :: post) ++ rest) key = [] := by
  have hsearch : [quote] ++ key ++ [quote] = quote :: (key ++ [quote]) := rfl
  have hsplit : quoted (first :: pieces ++ key :: [44] :: post) ++ rest =
      quoted (first :: pieces) ++ (key ++ quote :: (44 :: quote :: (quoted post ++ rest))) := by
    simp only [quoted, List.flatMap_append, List.flatMap_cons, List.append_assoc, List.cons_append,
      List.nil_append]
  rw [jsonGetString, hsearch, hsplit, afterFirst_quoted hkey hfirst hpieces hne]
  rfl

/-- With no key in it, a request of the phone is read as one without a key, whatever the id and the
name are. -/
theorem jsonGetString_no_key (id name : DartString) :
    jsonGetString (requestText (contentBytes id) (contentBytes name) []) (ascii "publicKey") =
      [] := by
  have hkey : quote ∉ ascii "publicKey" := by decide
  obtain ⟨ids, idLast, hid, hids, hidLast⟩ := contentBytes_quoted id
  obtain ⟨names, nameLast, hname, hnames, hnameLast⟩ := contentBytes_quoted name
  have hescape : ∀ pieces : List Bytes,
      (∀ piece ∈ pieces, quote ∉ piece ∧ ∃ head, piece = head ++ [92]) →
      ascii "publicKey" ∉ pieces := by
    intro pieces hpieces hmem
    obtain ⟨-, head, hhead⟩ := hpieces _ hmem
    have hlast := congrArg List.getLast? hhead
    rw [List.getLast?_concat] at hlast
    revert hlast
    decide
  -- the text up to the end of the id, up to the end of the name, and up to the member
  let front : List Bytes := [ascii "deviceId", [58]] ++ ids
  let middle : List Bytes := [idLast, [44], ascii "deviceName", [58]] ++ names
  have hfront : (∀ piece ∈ front, quote ∉ piece) ∧ ascii "publicKey" ∉ front := by
    refine ⟨?_, ?_⟩
    · rw [List.forall_mem_append]
      exact ⟨by decide, fun piece hmem => (hids piece hmem).1⟩
    · rw [List.mem_append, not_or]
      exact ⟨by decide, hescape ids hids⟩
  have hmiddle : (∀ piece ∈ middle, quote ∉ piece) ∧
      (ascii "publicKey" ≠ idLast → ascii "publicKey" ∉ middle) := by
    refine ⟨?_, fun hne => ?_⟩
    · rw [List.forall_mem_append]
      refine ⟨?_, fun piece hmem => (hnames piece hmem).1⟩
      rw [List.forall_mem_cons]
      exact ⟨hidLast, by decide⟩
    · rw [List.mem_append, not_or, List.mem_cons, not_or]
      exact ⟨⟨hne, by decide⟩, hescape names hnames⟩
  have htext : requestText (contentBytes id) (contentBytes name) [] =
      quoted ([123] :: front ++ (middle ++ [nameLast, [44], ascii "publicKey", [58], []])) ++
        [125] := by
    rw [hid, hname]
    simp only [requestText, quoted, front, middle, List.flatMap_append, List.flatMap_cons,
      List.flatMap_nil, List.append_assoc, List.cons_append, List.nil_append]
  rw [htext]
  by_cases hidKey : ascii "publicKey" = idLast
  · have hfound := jsonGetString_comma (ascii "publicKey") [123] front hkey (by decide) hfront.1
      hfront.2 ([ascii "deviceName", [58]] ++ names ++
        [nameLast, [44], ascii "publicKey", [58], []]) [125]
    rw [hidKey] at hfound ⊢
    simp only [middle, List.cons_append, List.nil_append] at hfound ⊢
    exact hfound
  · have hpieces : ∀ piece ∈ front ++ middle, quote ∉ piece := by
      rw [List.forall_mem_append]
      exact ⟨hfront.1, hmiddle.1⟩
    have hmem : ascii "publicKey" ∉ front ++ middle := by
      rw [List.mem_append, not_or]
      exact ⟨hfront.2, hmiddle.2 hidKey⟩
    by_cases hnameKey : ascii "publicKey" = nameLast
    · have hfound := jsonGetString_comma (ascii "publicKey") [123] (front ++ middle) hkey
        (by decide) hpieces hmem [ascii "publicKey", [58], []] [125]
      rw [hnameKey] at hfound ⊢
      simp only [List.append_assoc, List.cons_append] at hfound ⊢
      exact hfound
    · have hfound := jsonGetString_quoted (ascii "publicKey") [123]
        (front ++ middle ++ [nameLast, [44]]) hkey (by decide) ?_ ?_ [] [] [125]
      · simp only [List.append_assoc, List.cons_append, List.nil_append] at hfound ⊢
        exact hfound.trans (takeWhile_piece List.not_mem_nil _)
      · rw [List.forall_mem_append]
        refine ⟨hpieces, ?_⟩
        rw [List.forall_mem_cons]
        exact ⟨hnameLast, by decide⟩
      · rw [List.mem_append, not_or, List.mem_cons, not_or]
        exact ⟨hmem, hnameKey, by decide⟩

theorem parsePairRequest_no_key {request : Android.PairRequestPayload}
    (h : request.publicKey = []) : (parsePairRequest request.toBytes).publicKey = [] := by
  have hempty : contentBytes [] = [] := rfl
  have htext := toBytes_pairRequest request
  rw [h, hempty] at htext
  have hne : requestText (contentBytes request.deviceId) (contentBytes request.deviceName) [] ≠
      [] := List.cons_ne_nil _ _
  rw [htext, parsePairRequest, if_neg hne]
  exact congrArg hexToBytes (jsonGetString_no_key request.deviceId request.deviceName)

/-! ### A device without a key -/

/-- No root has a key value for the device. -/
def Keyless (name : KeyName) (reg : Registry) : Prop :=
  ∀ root vals, (reg.hive root).lookup name = some vals → vals .publicKey = none

namespace Keyless
variable {name : KeyName} {reg : Registry}

theorem withStore (h : Keyless name reg) {st : KeyStore DeviceValue}
    (hst : ∀ vals, st.lookup name = some vals → vals .publicKey = none) :
    Keyless name (reg.withStore st) := by
  intro root vals hvals
  dsimp only [Registry.withStore] at hvals
  by_cases hroot : root = reg.root
  · rw [hroot, Function.update_self] at hvals
    exact hst vals hvals
  · rw [Function.update_of_ne hroot] at hvals
    exact h root vals hvals

/-- A key of the device in force, or another one. -/
theorem insert (h : Keyless name reg) {name' : KeyName} {vals : KeyValues DeviceValue}
    (hvals : name' = name → vals .publicKey = none) :
    Keyless name (reg.withStore (reg.store.insert name' vals)) := by
  refine h.withStore fun vals' hlookup => ?_
  by_cases hname : name' = name
  · subst hname
    rw [AList.lookup_insert, Option.some.injEq] at hlookup
    exact hlookup ▸ hvals rfl
  · rw [AList.lookup_insert_ne (Ne.symm hname)] at hlookup
    exact h reg.root vals' hlookup

theorem setDeviceValue (h : Keyless name reg) (acc : Access) (s : Bytes) {v : DeviceValue}
    (hv : v ≠ .publicKey) (data : Bytes) : Keyless name (setDeviceValue acc reg s v data).2 := by
  obtain ⟨err, -, hsame⟩ | ⟨vals, hlookup, hset⟩ := setDeviceValue_cases acc reg s v data
  · rwa [hsame]
  · rw [hset]
    refine h.insert fun hname => ?_
    rw [Function.update_of_ne hv.symm]
    exact h reg.root vals (hname ▸ hlookup)

theorem deleteDeviceRecord (h : Keyless name reg) (acc : Access) (s : Bytes) :
    Keyless name (deleteDeviceRecord acc reg s).2 := by
  obtain ⟨err, -, hsame⟩ | hdel := deleteDeviceRecord_cases acc reg s
  · rwa [hsame]
  · rw [hdel]
    refine h.withStore fun vals hlookup => ?_
    by_cases hname : name = deviceKey s
    · subst hname
      rw [AList.lookup_erase] at hlookup
      cases hlookup
    · rw [AList.lookup_erase_ne hname] at hlookup
      exact h reg.root vals hlookup

theorem ensureRoot (h : Keyless name reg) (acc : Access) : Keyless name (ensureRoot acc reg).2 := by
  obtain hsame | ⟨-, -, hmoved⟩ := ensureRoot_cases acc reg
  · rwa [hsame]
  · rw [hmoved]
    exact h

/-- Writing a record without a key. -/
theorem writeDeviceRecord (h : Keyless name reg) (acc : Access) {record : DeviceRecord}
    (hrecord : deviceKey (deviceIdToString record.deviceId) = name → record.publicKey = []) :
    Keyless name (writeDeviceRecord acc reg record).2 := by
  have hroot := h.ensureRoot acc
  unfold Pairing.writeDeviceRecord
  generalize Pairing.ensureRoot acc reg = out at hroot
  obtain ⟨err, reg'⟩ := out
  dsimp only at hroot ⊢
  split
  · exact hroot
  · split
    · exact hroot
    · refine hroot.insert fun hname => ?_
      rw [storeRecord_apply, if_neg fun hwritten => hwritten.1 (hrecord hname)]
      cases hlookup : reg'.store.lookup (deviceKey (deviceIdToString record.deviceId)) with
      | none => rfl
      | some vals => exact hroot _ vals (hname ▸ hlookup)

/-- A reader gets no key either. -/
theorem readDeviceRecord {s : Bytes} (h : Keyless (deviceKey s) reg) (acc : Access) :
    (readDeviceRecord acc reg s {}).2.publicKey = [] := by
  rw [Pairing.readDeviceRecord, regOpenKey]
  split
  · next herr => rfl
  · next vals hopen =>
    split at hopen
    · cases hopen
    · split at hopen
      · cases hopen
      · next vals' hlookup =>
        cases hopen
        have hnone := h reg.root vals hlookup
        simp only [readPublicKey, regQueryValue, hnone, ite_self]

end Keyless

/-! ### One step -/

/-- Neither the registry nor a session has a key for the device. -/
structure KeylessDevice (d : DeviceId) (s : SharedState) : Prop where
  registry : Keyless (deviceKey (deviceIdToString d)) s.registry
  sessions : ∀ client session, s.pairing.sessions client = some session → session.deviceId = d →
    session.clientPublicKey = []

/-- The device is paired by the app: a PAIR_REQUEST for it is one that the app sends, and nobody but
`HandlePairConfirm` writes a record of it. -/
def PairsByApp (d : DeviceId) : SharedEvent → Prop
  | .pairing (.pairRequest _ _ payload _) =>
    (deviceIdFromString (parsePairRequest payload).deviceId zeroDeviceId).2 = d →
      ∃ request, SentByApp request ∧ payload = request.toBytes
  | .writeDeviceRecord record _ => record.deviceId ≠ d
  | _ => True

/-- A confirmation leaves the device and the key of a session as they are. -/
theorem handlePairConfirm_session {m : PairingManager} {reg : Registry} {clientId c : UInt64}
    {payload : Bytes} {env : PairConfirmEnv} {session' : PairingSession}
    (h : (handlePairConfirm m reg clientId payload env).1.sessions c = some session') :
    ∃ session, m.sessions c = some session ∧ session'.deviceId = session.deviceId ∧
      session'.clientPublicKey = session.clientPublicKey := by
  by_cases hc : c = clientId
  · subst hc
    have hcase := handlePairConfirm_case m reg c payload env
    generalize handlePairConfirm m reg c payload env = out at h hcase
    cases hcase with
    | noSession => exact ⟨session', h, rfl, rfl⟩
    | malformed hno session hs hstate m' hm' =>
      rw [hm', PairingManager.setSession_self] at h
      cases h
      refine ⟨session, hs, ?_, ?_⟩
      · rw [countAttempt]
        split
        · rfl
        · rfl
      · rw [countAttempt]
        split
        · rfl
        · rfl
    | wrongPin hno session hs hstate hmore m' hm' =>
      rw [hm', PairingManager.setSession_self] at h
      cases h
      exact ⟨session, hs, rfl, rfl⟩
    | closed hno session hs hstate reason hreason m' hm' =>
      rw [hm', PairingManager.clearSession_self] at h
      cases h
    | stored session hs herr m' hm' =>
      rw [hm', PairingManager.clearSession_self] at h
      cases h
    | writeFailed session hs herr m' hm' =>
      rw [hm', PairingManager.clearSession_self] at h
      cases h
  · rw [handlePairConfirm_sessions_ne hc] at h
    exact ⟨session', h, rfl, rfl⟩

theorem KeylessDevice.pairing {d : DeviceId} {s : SharedState} (h : KeylessDevice d s)
    {e : PairingEvent} (he : PairsByApp d (.pairing e)) :
    KeylessDevice d (sharedMachine.step s (.pairing e)).1 := by
  cases e with
  | pairRequest clientId clientIp payload env =>
    refine ⟨h.registry, fun client session hsession hdevice => ?_⟩
    by_cases hc : client = clientId
    · subst hc
      obtain ⟨hopened, -⟩ := handlePairRequest_session hsession
      rw [hopened] at hdevice ⊢
      obtain ⟨request, hsent, rfl⟩ := he hdevice
      exact parsePairRequest_no_key (publicKey_sentByApp hsent)
    · refine h.sessions client session ?_ hdevice
      rw [← handlePairRequest_sessions_ne hc]
      exact hsession
  | pairConfirm clientId payload env =>
    refine ⟨?_, fun client session' hsession hdevice => ?_⟩
    · show Keyless _ (handlePairConfirm s.pairing s.registry clientId payload env).2.1
      rw [handlePairConfirm_registry]
      cases haccepted : acceptedSession s.pairing clientId payload env with
      | none => exact h.registry
      | some session =>
        refine h.registry.writeDeviceRecord _ fun hname => ?_
        exact h.sessions clientId session (acceptedSession_eq_some.mp haccepted).1
          (deviceKey_inj.mp hname)
    · obtain ⟨session, hold, hsame, hkey⟩ := handlePairConfirm_session hsession
      rw [hkey]
      exact h.sessions client session hold (hsame ▸ hdevice)
  | cancelSession clientId =>
    refine ⟨h.registry, fun client session hsession => ?_⟩
    exact h.sessions client session (clearSession_session hsession).1
  | expireSessions now =>
    refine ⟨h.registry, fun client session hsession => ?_⟩
    exact h.sessions client session (expireStaleSessions_session hsession)
  | unpairRequest clientId payload acc =>
    refine ⟨?_, h.sessions⟩
    show Keyless _ (handleUnpairRequest s.registry payload acc).1
    obtain hsame | hdeleted := handleUnpairRequest_registry s.registry payload acc
    · rw [hsame]
      exact h.registry
    · rw [hdeleted]
      exact h.registry.deleteDeviceRecord _ _
  | revokeDevice deviceIdStr acc =>
    exact ⟨h.registry.setDeviceValue acc _ (by decide) _, h.sessions⟩
  | deleteDevice deviceIdStr acc => exact ⟨h.registry.deleteDeviceRecord acc _, h.sessions⟩

theorem KeylessDevice.step {d : DeviceId} {s : SharedState} (h : KeylessDevice d s)
    {e : SharedEvent} (he : PairsByApp d e) : KeylessDevice d (sharedMachine.step s e).1 := by
  cases e with
  | authRequest deviceId requestHeader outHeader env => exact ⟨h.registry, h.sessions⟩
  | authResponse requestHeader payload env =>
    refine ⟨?_, h.sessions⟩
    show Keyless _ (handleAuthResponse s.authentication s.registry requestHeader payload env).2.1
    have hcase := handleAuthResponse_case s.authentication s.registry requestHeader payload env
    generalize handleAuthResponse s.authentication s.registry requestHeader payload env = out
      at hcase
    cases hcase with
    | invalid => exact h.registry
    | limited => exact h.registry
    | failed => exact h.registry
    | accepted => exact h.registry.setDeviceValue _ _ (by decide) _
  | pairing event => exact h.pairing he
  | logon env heap ptrs submitBuffer => exact h
  | isDeviceActive deviceIdStr acc => exact h
  | setDeviceStatus deviceIdStr status acc =>
    exact ⟨h.registry.setDeviceValue acc _ (by decide) _, h.sessions⟩
  | updateLastSeen deviceIdStr now acc =>
    exact ⟨h.registry.setDeviceValue acc _ (by decide) _, h.sessions⟩
  | deleteDeviceRecord deviceIdStr acc => exact ⟨h.registry.deleteDeviceRecord acc _, h.sessions⟩
  | writeDeviceRecord record acc =>
    refine ⟨h.registry.writeDeviceRecord acc fun hname => ?_, h.sessions⟩
    exact absurd (deviceKey_inj.mp hname) he

/-! ### Whole runs -/

/-- The call grants the device something: a challenge, an authentication or a logon. -/
def Grants (d : DeviceId) : SharedEvent → SharedOutput → Prop
  | .authRequest deviceId _ _ _, .auth reply => deviceId = d ∧ reply.result = .SUCCESS
  | .authResponse _ payload _, .auth reply =>
    ∃ msg, parseAuthResponse payload = .ok msg ∧ msg.deviceIdentity = d ∧ reply.result = .SUCCESS
  | .logon _ _ _ (some data), .logon status =>
    (MobileUnlockLsaLogonBuffer.ofLayout data).deviceId = d ∧ status = .STATUS_SUCCESS
  | _, _ => False

theorem KeylessDevice.lookupDevice {d : DeviceId} {s : SharedState} (h : KeylessDevice d s)
    (acc : Access) (record : DeviceRecord) :
    lookupDevice acc s.registry (deviceIdToString d) ≠ .ok record := by
  intro hfound
  obtain ⟨hread, -, hkey⟩ := lookupDevice_ok.mp hfound
  have hnone := h.registry.readDeviceRecord acc
  rw [hread] at hnone
  exact hkey hnone

/-- Nothing is granted to a device without a key. -/
theorem KeylessDevice.not_grants {d : DeviceId} {s : SharedState} (h : KeylessDevice d s)
    (e : SharedEvent) : ¬ Grants d e (sharedMachine.step s e).2 := by
  intro hgrants
  cases e with
  | authRequest deviceId requestHeader outHeader env =>
    obtain ⟨rfl, hsuccess⟩ := hgrants
    change (handleAuthRequest s.authentication s.registry deviceId requestHeader outHeader
      env).2.result = .SUCCESS at hsuccess
    have hcase := handleAuthRequest_case s.authentication s.registry deviceId requestHeader
      outHeader env
    generalize handleAuthRequest s.authentication s.registry deviceId requestHeader outHeader env =
      out at hcase hsuccess
    cases hcase with
    | limited => cases hsuccess
    | refused hl r hr =>
      have hfailed := lookupDevice_error hr
      change r.result = .SUCCESS at hsuccess
      rw [hsuccess] at hfailed
      simp at hfailed
    | noNonce => cases hsuccess
    | issued hl record hr => exact h.lookupDevice env.access record hr
  | authResponse requestHeader payload env =>
    obtain ⟨msg, hparse, rfl, hsuccess⟩ := hgrants
    change (handleAuthResponse s.authentication s.registry requestHeader payload
      env).2.2.result = .SUCCESS at hsuccess
    have hcase := handleAuthResponse_case s.authentication s.registry requestHeader payload env
    generalize handleAuthResponse s.authentication s.registry requestHeader payload env = out
      at hcase hsuccess
    cases hcase with
    | invalid r hp =>
      rw [hparse] at hp
      cases hp
    | limited => cases hsuccess
    | failed msg' hp hl r hr =>
      change r.result = .SUCCESS at hsuccess
      rw [hsuccess] at hr
      cases hr
    | accepted msg' hp hl record hr =>
      rw [hparse] at hp
      cases hp
      exact h.lookupDevice env.access record hr
  | logon env heap ptrs submitBuffer =>
    cases submitBuffer with
    | none => exact hgrants
    | some data =>
      obtain ⟨rfl, hsuccess⟩ := hgrants
      obtain ⟨record, hverified⟩ := verifyLogon_of_success hsuccess
      obtain ⟨-, msg, haccepted⟩ := verifyLogon_ok_iff.mp hverified
      have hnone := h.registry.readDeviceRecord env.access
      rw [haccepted.found] at hnone
      exact haccepted.key hnone
  | _ => exact hgrants

/-- **A device that is paired by the app gets no challenge, no authentication and no logon**, in any
run of all callers of the registry that begins without a key for it. -/
theorem app_paired_not_granted {d : DeviceId} {s : SharedState} (h0 : KeylessDevice d s)
    {events : List SharedEvent} (h : ∀ e ∈ events, PairsByApp d e) :
    ∀ x ∈ sharedMachine.trace s events, ¬ Grants d x.event x.output := by
  intro x hx
  obtain ⟨pre, post, htrace⟩ := List.append_of_mem hx
  obtain ⟨events₁, event, events₂, rfl, -, rfl, -⟩ := sharedMachine.trace_split htrace
  have hbefore : ∀ e ∈ events₁, PairsByApp d e := fun e he => h e (List.mem_append_left _ he)
  have hkeyless := sharedMachine.invariant (P := KeylessDevice d) (fun s e hs he => hs.step he) h0
    (sharedMachine.along_of_forall hbefore s)
  exact hkeyless.not_grants event

/-- The request of a phone with the app. -/
def appRequest : Android.PairRequestPayload where
  deviceId := Android.units (phoneText 49)
  deviceName := literal "Phone"

theorem sentByApp_appRequest : SentByApp appRequest :=
  ⟨[.startPairing (literal "10.0.0.2") 8443 appRequest.deviceId appRequest.deviceName,
      .startPairingConnected 0 true true], _,
    List.mem_cons_of_mem _ List.mem_cons_self, List.mem_cons_self⟩

/-- The phone is paired, and asks for a challenge. -/
def appEvents : List SharedEvent :=
  [.pairing (.pairRequest 1 [] appRequest.toBytes requestEnv),
    .pairing (.pairConfirm 1 (confirmPayload 49) confirmEnv),
    .authRequest (deviceIdFromString (phoneText 49) zeroDeviceId).2 {} {}
      { now := 1000, access := RegAccess.ok, nonce := some (List.Vector.replicate 32 7) }]

theorem app_paired_not_granted_onePhone :
    isDeviceActive RegAccess.ok (sharedMachine.run {} (appEvents.take 2)).registry
        (phoneText 49) = true ∧
      ∀ x ∈ sharedMachine.trace {} appEvents,
        ¬ Grants (deviceIdFromString (phoneText 49) zeroDeviceId).2 x.event x.output := by
  refine ⟨by decide +kernel, app_paired_not_granted ?_ ?_⟩
  · refine ⟨fun root vals hvals => ?_, fun client session hsession => ?_⟩
    · cases hvals
    · cases hsession
  · intro e he
    simp only [appEvents, List.mem_cons, List.not_mem_nil, or_false] at he
    obtain rfl | rfl | rfl := he
    · exact fun _ => ⟨appRequest, sentByApp_appRequest, rfl⟩
    · trivial
    · trivial

end MobileUnlock.Service
