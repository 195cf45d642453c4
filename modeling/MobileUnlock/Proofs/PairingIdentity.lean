import MobileUnlock.Proofs.PairingFlow
import MobileUnlock.Proofs.PinSoundness

/-!
# `MobileUnlock.Proofs.PairingIdentity`: the identity of a completed pairing

A completed pairing should belong to one well-formed id: the text of the request that opened the
session, the text of the confirmation, and the key of the record. The manager checks the length
of the two texts and nothing else. It does not look at the result of the id parse, and it does
not compare the id of a confirmation with the session (`pairing_unbound`).

`IdentityChecked` are the two checks that are missing. `pairing_bound` shows that every run whose
steps pass them has the property: the history of a session (`SessionHistory`) names the request,
and the text of that request denotes the device of the record.
-/

set_option autoImplicit false

namespace MobileUnlock.Pairing

open MobileUnlock.Lib MobileUnlock.Lib.Win32 MobileUnlock.Protocol

/-- The text is a well-formed UUID, and it is the text of `d` in either case. -/
def Denotes (text : Bytes) (d : DeviceId) : Prop :=
  WellFormedUuid text ∧ text.map toLower = deviceIdToString d

instance (text : Bytes) (d : DeviceId) : Decidable (Denotes text d) :=
  inferInstanceAs (Decidable (_ ∧ _))

/-- From `reg` to `reg'` a record has been stored for `d`, and for no other device. -/
structure StoredUnder (d : DeviceId) (reg reg' : Registry) : Prop where
  present : (reg'.store.lookup (deviceKey (deviceIdToString d))).isSome
  others : ∀ hive k, k ≠ deviceKey (deviceIdToString d) →
    (reg'.hive hive).lookup k = (reg.hive hive).lookup k

/-- The checks that are missing. The id of a valid request is well formed. The id of a
confirmation that would be accepted denotes the device of the session. -/
def IdentityChecked (s : PairingWorld) : PairingEvent → Prop
  | .pairRequest _ _ payload _ =>
    (parsePairRequest payload).valid = true → WellFormedUuid (parsePairRequest payload).deviceId
  | .pairConfirm c payload env =>
    ∀ session, acceptedSession s.manager c payload env = some session →
      Denotes (parsePairConfirm payload).deviceId session.deviceId
  | _ => True

/-! ### What a write changes -/

/-- Choosing the root leaves the stores. -/
theorem ensureRoot_hive (acc : Access) (reg : Registry) :
    (ensureRoot acc reg).2.hive = reg.hive := by
  obtain hsame | ⟨-, -, hmoved⟩ := ensureRoot_cases acc reg
  · rw [hsame]
  · rw [hmoved]

/-- Replacing the store in force by one that differs at one key changes one key in all stores. -/
theorem withStore_lookup_ne {reg : Registry} {st : KeyStore DeviceValue} {k : KeyName}
    (h : st.lookup k = reg.store.lookup k) (hive : HKEY) :
    ((reg.withStore st).hive hive).lookup k = (reg.hive hive).lookup k := by
  show (Function.update reg.hive reg.root st hive).lookup k = _
  by_cases hroot : hive = reg.root
  · subst hroot
    rw [Function.update_self, h]
    rfl
  · rw [Function.update_of_ne hroot]

/-- A write that succeeds stores one record, and one that fails stores none. -/
theorem writeDeviceRecord_stored (acc : Access) (reg : Registry) (record : DeviceRecord) :
    ((writeDeviceRecord acc reg record).1 = ERROR_SUCCESS →
      StoredUnder record.deviceId reg (writeDeviceRecord acc reg record).2) ∧
    ((writeDeviceRecord acc reg record).1 ≠ ERROR_SUCCESS →
      (writeDeviceRecord acc reg record).2.hive = reg.hive) := by
  obtain ⟨err, herr, hfailed⟩ | ⟨vals, hwrite⟩ := writeDeviceRecord_cases acc reg record
  · rw [hfailed]
    exact ⟨fun h => absurd h herr, fun _ => ensureRoot_hive acc reg⟩
  · rw [hwrite]
    refine ⟨fun _ => ⟨?_, ?_⟩, fun h => absurd rfl h⟩
    · rw [Registry.store_withStore, AList.lookup_insert]
      rfl
    · intro hive k hk
      rw [withStore_lookup_ne (AList.lookup_insert_ne hk), ensureRoot_hive]

/-- A deletion stores no record. -/
theorem deleteDeviceRecord_lookup {acc : Access} {reg : Registry} {s : Bytes} {hive : HKEY}
    {k : KeyName} {vals : KeyValues DeviceValue}
    (h : ((deleteDeviceRecord acc reg s).2.hive hive).lookup k = some vals) :
    (reg.hive hive).lookup k = some vals := by
  obtain ⟨err, -, hfailed⟩ | hdelete := deleteDeviceRecord_cases acc reg s
  · rwa [hfailed] at h
  · rw [hdelete] at h
    by_cases hk : k = deviceKey s
    · subst hk
      change (Function.update reg.hive reg.root _ hive).lookup (deviceKey s) = some vals at h
      by_cases hroot : hive = reg.root
      · subst hroot
        rw [Function.update_self, AList.lookup_erase] at h
        cases h
      · rwa [Function.update_of_ne hroot] at h
    · rwa [withStore_lookup_ne (AList.lookup_erase_ne hk)] at h

/-! ### Runs -/

/-- A record appears or changes, other than by a revocation, in a confirmation that is answered
with PAIR_COMPLETE. -/
theorem storing_step {s : PairingWorld} {e : PairingEvent} {hive : HKEY} {k : KeyName}
    {vals : KeyValues DeviceValue}
    (hafter : ((pairingMachine.step s e).1.registry.hive hive).lookup k = some vals)
    (hbefore : (s.registry.hive hive).lookup k ≠ some vals)
    (hrevoke : ∀ text acc, e ≠ .revokeDevice text acc) :
    ∃ c payload env, e = .pairConfirm c payload env ∧
      replyType (pairingMachine.entry s e) = some .PAIR_COMPLETE := by
  cases e with
  | pairRequest | cancelSession | expireSessions => exact absurd hafter hbefore
  | revokeDevice text acc => exact absurd rfl (hrevoke text acc)
  | deleteDevice text acc => exact absurd (deleteDeviceRecord_lookup hafter) hbefore
  | unpairRequest clientId payload acc =>
    change ((handleUnpairRequest s.registry payload acc).1.hive hive).lookup k = some vals at hafter
    obtain hsame | hdelete := handleUnpairRequest_registry s.registry payload acc
    · rw [hsame] at hafter
      exact absurd hafter hbefore
    · rw [hdelete] at hafter
      exact absurd (deleteDeviceRecord_lookup hafter) hbefore
  | pairConfirm c payload env =>
    refine ⟨c, payload, env, rfl, ?_⟩
    change ((handlePairConfirm s.manager s.registry c payload env).2.1.hive hive).lookup k
      = some vals at hafter
    show some (handlePairConfirm s.manager s.registry c payload env).2.2.responseType = _
    -- A write that fails leaves no new values behind, so the record comes from a pairing that
    -- is answered with PAIR_COMPLETE.
    have hcase := handlePairConfirm_case s.manager s.registry c payload env
    generalize handlePairConfirm s.manager s.registry c payload env = out at hcase hafter
    cases hcase with
    | noSession | malformed | wrongPin | closed => exact absurd hafter hbefore
    | stored session hs herr m' hm' reply htype => exact congrArg some htype
    | writeFailed session hs herr =>
      rw [(writeDeviceRecord_stored _ _ _).2 herr] at hafter
      exact absurd hafter hbefore

/-- A well-formed text denotes the id that is parsed from it. -/
theorem WellFormedUuid.denotes {text : Bytes} (h : WellFormedUuid text) (outId : DeviceId) :
    Denotes text (deviceIdFromString text outId).2 :=
  ⟨h, (deviceIdToString_deviceIdFromString h outId).2.symm⟩

/-- Take a run whose steps pass the missing checks.

- A confirmation of client `c` that is answered with PAIR_COMPLETE belongs to the request of `c`
  that opened its session. The texts of both denote one device, and a record of that device, and
  of no other, is stored.
- No other step than such a confirmation stores a record, apart from revocations by somebody
  else. -/
theorem pairing_bound (reg : Registry) (es : List PairingEvent)
    (hchecked : pairingMachine.Along IdentityChecked { registry := reg } es)
    (pre : List PairingEntry) (x : PairingEntry) (post : List PairingEntry)
    (htrace : pairingMachine.trace { registry := reg } es = pre ++ x :: post) :
    (∀ c payload env, x.event = .pairConfirm c payload env → replyType x = some .PAIR_COMPLETE →
      ∃ before r between clientIp request requestEnv d,
        pre = before ++ r :: between ∧
        r.event = .pairRequest c clientIp request requestEnv ∧
        replyType r = some .PAIR_RESPONSE ∧
        (∀ y ∈ between, interrupts c y = false) ∧
        Denotes (parsePairRequest request).deviceId d ∧
        Denotes (parsePairConfirm payload).deviceId d ∧
        StoredUnder d x.before.registry x.after.registry) ∧
    (∀ hive k vals, (x.after.registry.hive hive).lookup k = some vals →
      (x.before.registry.hive hive).lookup k ≠ some vals →
      (∀ text acc, x.event ≠ .revokeDevice text acc) →
      ∃ c payload env, x.event = .pairConfirm c payload env ∧
        replyType x = some .PAIR_COMPLETE) := by
  obtain ⟨es₁, e, es₂, rfl, rfl, rfl, -⟩ := pairingMachine.trace_split htrace
  rw [Machine.along_append] at hchecked
  obtain ⟨halong, hstep, -⟩ := hchecked
  refine ⟨?_, fun hive k vals hafter hbefore hrevoke => storing_step hafter hbefore hrevoke⟩
  intro c payload env hx hreply
  obtain ⟨session, haccepted, hopened, hwrite⟩ := completion_history htrace hx hreply
  have hstored := (writeDeviceRecord_stored _ _ _).1 (congrArg Prod.fst hwrite)
  rw [hwrite] at hstored
  change e = _ at hx
  subst hx
  have hconfirm := hstep session haccepted
  -- the history of the session names the request
  obtain ⟨before, r, between, clientIp, request, requestEnv, hsplit, hr, hrtype, hbetween, rfl⟩ :=
    hopened
  refine ⟨before, r, between, clientIp, request, requestEnv, _, hsplit, hr, hrtype, hbetween, ?_,
    hconfirm, hstored⟩
  obtain ⟨s', e', rfl, hcheck⟩ := pairingMachine.along_mem_trace halong
    (by rw [hsplit]; simp : r ∈ pairingMachine.trace { registry := reg } es₁)
  change e' = _ at hr
  subst hr
  have hvalid := (handlePairRequest_response (Option.some.inj hrtype)).1
  exact (hcheck hvalid).denotes zeroDeviceId

/-- A phone that pairs with its own id. -/
theorem pairing_bound_onePhone :
    pairingMachine.Along IdentityChecked {} [phoneRequest 1 49, phoneConfirm 1 49] ∧
      ∃ d, Denotes (parsePairConfirm (confirmPayload 49)).deviceId d ∧
        StoredUnder d {}
          (pairingMachine.run {} [phoneRequest 1 49, phoneConfirm 1 49]).registry := by
  have hchecked : pairingMachine.Along IdentityChecked {}
      [phoneRequest 1 49, phoneConfirm 1 49] := by
    refine ⟨fun _ => by decide +kernel, ?_, trivial⟩
    intro session haccepted
    obtain ⟨hs, -⟩ := acceptedSession_eq_some.mp haccepted
    have hs' : (handlePairRequest {} {} 1 [] (requestPayload 49) requestEnv).1.sessions 1
        = some session := hs
    obtain ⟨rfl, -⟩ := handlePairRequest_session hs'
    decide +kernel
  refine ⟨hchecked, ?_⟩
  obtain ⟨-, -, -, -, -, -, d, -, -, -, -, -, hconfirm, hstored⟩ :=
    (pairing_bound {} _ hchecked [pairingMachine.entry {} (phoneRequest 1 49)] _ [] rfl).1 1
      (confirmPayload 49) confirmEnv rfl (by decide +kernel)
  exact ⟨d, hconfirm, hstored⟩

/-! ### A pairing without an identity -/

/-- A text of 36 characters that is no UUID. -/
def noUuid : Bytes := ascii "zzzzzzzz-zzzz-zzzz-zzzz-zzzzzzzzzzzz"

/-- A PAIR_REQUEST with that text. -/
def noUuidRequest : Bytes :=
  ascii "\x7b\"deviceId\":\"" ++ noUuid ++
    ascii "\",\"deviceName\":\"Phone\",\"publicKey\":\"04\"\x7d"

/-- The request has no well-formed id, and the confirmation gives the id of another phone. The
pairing completes, and a record is stored under the zero id. -/
theorem pairing_unbound :
    replyType (pairingMachine.entry
        (pairingMachine.run {} [.pairRequest 1 [] noUuidRequest requestEnv]) (phoneConfirm 1 50))
          = some .PAIR_COMPLETE ∧
      ¬ WellFormedUuid (parsePairRequest noUuidRequest).deviceId ∧
      ¬ Denotes (parsePairConfirm (confirmPayload 50)).deviceId zeroDeviceId ∧
      isDeviceActive RegAccess.ok (pairingMachine.run {}
        [.pairRequest 1 [] noUuidRequest requestEnv, phoneConfirm 1 50]).registry
          (deviceIdToString zeroDeviceId) = true := by
  refine ⟨?_, ?_, ?_, ?_⟩ <;> decide +kernel

end MobileUnlock.Pairing
