import MobileUnlock.Proofs.DeviceSeparation
import MobileUnlock.Proofs.LockAuthorization
import MobileUnlock.Proofs.PhoneChallenge

/-!
# `MobileUnlock.Proofs.DeviceResolution`: the device a request acts for

An AUTH_REQUEST and a LOCK_REQUEST may name their device by its 16 raw bytes or by a JSON object.
Both handlers choose by length. From 16 bytes on they take the first 16 bytes of the payload,
whatever they spell, so a JSON text is acted for only when it starts with the very bytes of the id
it names. Below 16 bytes the id of an AUTH_REQUEST is never written.

`resolvesDevice_iff` is the exact condition. `authRequestOf_injective` tells two ids apart by what
their requests do: a request clears the expired lockout of its own device and of no other.
-/

set_option autoImplicit false

namespace MobileUnlock.Service

open MobileUnlock.Lib MobileUnlock.Lib.Dart MobileUnlock.Lib.Win32 MobileUnlock.Protocol
open MobileUnlock.Pairing MobileUnlock.Authentication MobileUnlock.Android

/-! ### The encodings -/

/-- The payload is the text of a JSON object with the text of `d` under `deviceId`, in the reading
of `utf8.decode` and `jsonDecode`. -/
def JsonNames (payload : Bytes) (d : DeviceId) : Prop :=
  ∃ members, (utf8Decode payload >>= jsonDecode) = .ok (.object members) ∧
    Json.index members (literal "deviceId") = .string (units (deviceIdToString d))

/-- The payload is one of the two encodings of `d`. -/
def Encodes (payload : Bytes) (d : DeviceId) : Prop :=
  payload = d.toList ∨ JsonNames payload d

/-! ### What a request acts for -/

/-- What an AUTH_REQUEST of `d` does. -/
def authRequestOf (s : AuthState) (clientId : UInt64) (header : FrameHeader) (d : DeviceId)
    (env : FrameEnv) : AuthState × List ServiceAction :=
  let (m, reply) := handleAuthRequest s.manager s.registry d header {} env.requestEnv
  ({ s with manager := m }, [.sendFrame clientId reply.header reply.payload])

/-- What a LOCK_REQUEST of `d` does. -/
def lockRequestOf (s : AuthState) (clientId : UInt64) (header : FrameHeader) (payload : Bytes)
    (d : DeviceId) (env : FrameEnv) : AuthState × List ServiceAction :=
  (s,
    if ¬ isDeviceActive env.lockAccess s.registry (deviceIdToString d) then
      [refuseLock clientId header "DEVICE_UNAUTHORIZED"]
    else if ¬ env.agentConnected then [refuseLock clientId header "AGENT_UNAVAILABLE"]
    else dispatchLock clientId header payload)

/-- Every AUTH_REQUEST frame with this payload is handled as one of `d`. -/
def ActsForAuth (payload : Bytes) (d : DeviceId) : Prop :=
  ∀ s clientId header env, header.messageType = MessageType.AUTH_REQUEST.code →
    handleNetworkFrame s clientId header payload env = authRequestOf s clientId header d env

/-- Every LOCK_REQUEST frame with this payload is handled as one of `d`. -/
def ActsForLock (payload : Bytes) (d : DeviceId) : Prop :=
  ∀ s clientId header env, header.messageType = MessageType.LOCK_REQUEST.code →
    handleNetworkFrame s clientId header payload env
      = lockRequestOf s clientId header payload d env

/-- A request frame with this payload leaves the challenge, the rate-limit entry and the record of
`d` as they are. -/
def LeavesDevice (payload : Bytes) (d : DeviceId) : Prop :=
  ∀ s clientId header env,
    header.messageType = MessageType.AUTH_REQUEST.code ∨
        header.messageType = MessageType.LOCK_REQUEST.code →
      AgreeOn d s (handleNetworkFrame s clientId header payload env).1

/-- The rule for the device of a request: both handlers act for exactly the device that is encoded.
If none is, the id of an AUTH_REQUEST still depends on nothing but the payload, and no device that
the payload does not name is affected. -/
structure ResolvesDevice (payload : Bytes) : Prop where
  encoded : ∀ d, Encodes payload d → ActsForAuth payload d ∧ ActsForLock payload d
  determined : (∀ d, ¬ Encodes payload d) → ∃ d, ActsForAuth payload d
  separate : (∀ d, ¬ Encodes payload d) → ∀ d, ¬ Identifies payload d → LeavesDevice payload d

/-! ### AUTH_REQUEST -/

/-- The frame of an AUTH_REQUEST goes to its branch. -/
theorem handleNetworkFrame_authRequest {header : FrameHeader}
    (hauth : header.messageType = MessageType.AUTH_REQUEST.code) (s : AuthState)
    (clientId : UInt64) (payload : Bytes) (env : FrameEnv) :
    handleNetworkFrame s clientId header payload env
      = authRequestOf s clientId header (authDeviceId payload env.stackId) env := by
  unfold handleNetworkFrame
  rw [hauth, if_neg (by decide), if_pos rfl]
  rfl

theorem actsForAuth_long {payload : Bytes} (h : 16 ≤ payload.length) :
    ActsForAuth payload (copyBytes 16 0 payload) := by
  intro s clientId header env hauth
  rw [handleNetworkFrame_authRequest hauth, authDeviceId, if_pos h]

/-- Below 16 bytes the id stays what the stack happens to hold. -/
theorem authDeviceId_short {payload : Bytes} (h : payload.length < 16) (stackId : DeviceId) :
    authDeviceId payload stackId = stackId := by
  rw [authDeviceId, if_neg (by omega), jsonDeviceId]
  cases hfind : afterFirst deviceIdKey payload with
  | none => rfl
  | some rest =>
    have hrest := length_of_afterFirst hfind
    dsimp only
    rw [deviceIdFromString_short (by rw [List.length_take]; omega)]

/-- A manager with an expired lockout of every device. -/
def expiredLockouts : AuthenticationManager :=
  { rateLimits := fun _ => some { failedCount := 1, lockoutUntilMs := 1 } }

/-- A clock reading behind those lockouts. -/
def laterEnv : FrameEnv :=
  { lockEnv with requestEnv := { lockEnv.requestEnv with now := 2 } }

/-- A request clears the expired lockout of its device. -/
theorem authRequestOf_clears (header : FrameHeader) (d : DeviceId) :
    (authRequestOf { manager := expiredLockouts } 1 header d laterEnv).1.manager.rateLimits
      (deviceIdToString d) = some {} := by
  have hcheck : expiredLockouts.isRateLimited (deviceIdToString d) 2 =
      (false, { expiredLockouts with
        rateLimits := Function.update expiredLockouts.rateLimits (deviceIdToString d)
          (some {}) }) := rfl
  show (handleAuthRequest expiredLockouts {} d header {} laterEnv.requestEnv).1.rateLimits _ = _
  have hcase := handleAuthRequest_case expiredLockouts {} d header {} laterEnv.requestEnv
  generalize handleAuthRequest expiredLockouts {} d header {} laterEnv.requestEnv = res at hcase ⊢
  have hcleared : (expiredLockouts.isRateLimited (deviceIdToString d) 2).2.rateLimits
      (deviceIdToString d) = some {} := by
    rw [hcheck]
    exact Function.update_self _ _ _
  cases hcase with
  | limited h => cases h
  | refused h r hr => exact hcleared
  | noNonce h hn => exact hcleared
  | issued h record hr nonce hn m' hslots hlimits =>
    show m'.rateLimits _ = _
    rw [hlimits]
    exact hcleared

/-- The requests of two devices do different things. -/
theorem authRequestOf_injective {d d' : DeviceId} (header : FrameHeader)
    (h : authRequestOf { manager := expiredLockouts } 1 header d laterEnv =
      authRequestOf { manager := expiredLockouts } 1 header d' laterEnv) : d = d' := by
  by_contra hne
  have hframe := (agreeOn_authRequest hne { manager := expiredLockouts } header {}
    laterEnv.requestEnv).entry.limit
  have hclears := authRequestOf_clears header d
  rw [h] at hclears
  have hold : (some { failedCount := 1, lockoutUntilMs := 1 } : Option DeviceRateLimit) =
      some {} := hframe.trans hclears
  cases hold

/-- A payload acts for one device. -/
theorem ActsForAuth.unique {payload : Bytes} {d d' : DeviceId} (h : ActsForAuth payload d)
    (h' : ActsForAuth payload d') : d = d' := by
  let header : FrameHeader := { messageType := MessageType.AUTH_REQUEST.code }
  have hd := h { manager := expiredLockouts } 1 header laterEnv rfl
  have hd' := h' { manager := expiredLockouts } 1 header laterEnv rfl
  exact authRequestOf_injective header (hd.symm.trans hd')

/-- A payload below 16 bytes acts for no device: the id changes with the stack. -/
theorem not_actsForAuth_short {payload : Bytes} (h : payload.length < 16) (d : DeviceId) :
    ¬ ActsForAuth payload d := by
  intro hd
  let header : FrameHeader := { messageType := MessageType.AUTH_REQUEST.code }
  have hstack : ∀ d', d' = d := by
    intro d'
    have hd := hd { manager := expiredLockouts } 1 header { laterEnv with stackId := d' } rfl
    rw [handleNetworkFrame_authRequest rfl, authDeviceId_short h] at hd
    exact authRequestOf_injective header hd
  have hdiffer : zeroDeviceId = List.Vector.replicate 16 1 :=
    (hstack _).trans (hstack _).symm
  exact absurd hdiffer (by decide)

/-! ### LOCK_REQUEST -/

/-- With an id, a LOCK_REQUEST is handled as one of it. -/
theorem actsForLock_of_id {payload : Bytes} {d : DeviceId}
    (h : ∀ stackId, lockDeviceId payload stackId = (true, d)) : ActsForLock payload d := by
  intro s clientId header env hlock
  have hid : (lockDeviceId payload env.stackId).1 = true := by rw [h]
  rw [handleNetworkFrame_lockRequest hlock, handleLockRequest_of_id hid, h]
  rfl

/-- The raw bytes are used when there is no signed message at the front. -/
theorem lockDeviceId_unsigned {payload : Bytes} (h : 16 ≤ payload.length)
    (hsigned : signedDeviceId payload = none) (stackId : DeviceId) :
    lockDeviceId payload stackId = (true, copyBytes 16 0 payload) := by
  rw [lockDeviceId, hsigned]
  exact if_pos h

theorem signedDeviceId_short {payload : Bytes} (h : payload.length < 88) :
    signedDeviceId payload = none := by
  unfold signedDeviceId
  exact if_neg (by simp only [CANONICAL_SIGNED_MESSAGE_SIZE]; omega)

/-- A signed message starts with the high byte of its version, which is 1. -/
theorem head_of_signedDeviceId {payload : Bytes} {d : DeviceId}
    (h : signedDeviceId payload = some d) : ∃ rest, payload = 1 :: rest := by
  unfold signedDeviceId at h
  split at h
  · rw [deserializeSignedMessage_eq] at h
    split at h
    · next haccepted =>
      obtain ⟨-, hversion, -⟩ := haccepted
      rw [List.take_take] at hversion
      cases payload with
      | nil => cases hversion
      | cons a rest =>
        have hhead : a = 1 := (List.cons.inj hversion).1
        exact ⟨rest, by rw [hhead]⟩
    · cases h
  · cases h

/-- No JSON text starts with that character. -/
theorem jsonDecode_control (s : DartString) : jsonDecode (1 :: s) = .error .FormatException := by
  rw [jsonDecode, Dart.parseValue, skipSpace_cons (by decide)]
  rfl

/-- A payload with a JSON text has no signed message at its front. -/
theorem signedDeviceId_of_jsonNames {payload : Bytes} {d : DeviceId} (h : JsonNames payload d) :
    signedDeviceId payload = none := by
  cases hsigned : signedDeviceId payload with
  | none => rfl
  | some d' =>
    obtain ⟨rest, rfl⟩ := head_of_signedDeviceId hsigned
    obtain ⟨members, hdecode, -⟩ := h
    have hbom : (1 :: rest).take 3 ≠ [0xEF, 0xBB, 0xBF] := by
      intro hbom
      cases hbom
    rw [utf8Decode, if_neg hbom, decodeUnits.eq_def] at hdecode
    dsimp only at hdecode
    rw [if_pos (by decide)] at hdecode
    cases hrest : decodeUnits rest with
    | error e =>
      rw [hrest] at hdecode
      cases hdecode
    | ok units =>
      rw [hrest] at hdecode
      have hcontrol : jsonDecode (1 :: units) = .ok (.object members) := hdecode
      rw [jsonDecode_control] at hcontrol
      cases hcontrol

/-! ### The rule -/

/-- An encoding is acted for when its first 16 bytes are those of the id. -/
theorem actsFor_of_encodes {payload : Bytes} {d : DeviceId} (henc : Encodes payload d)
    (hfront : d.toList = payload.take 16) : ActsForAuth payload d ∧ ActsForLock payload d := by
  have hlen : 16 ≤ payload.length := by
    have htake := congrArg List.length hfront
    rw [List.Vector.toList_length, List.length_take] at htake
    omega
  have hcopy : copyBytes 16 0 payload = d := by
    apply List.Vector.eq
    rw [toList_copyBytes (by omega), hfront]
    rfl
  have hsigned : signedDeviceId payload = none := by
    rcases henc with hraw | hjson
    · refine signedDeviceId_short ?_
      rw [hraw, List.Vector.toList_length]
      decide
    · exact signedDeviceId_of_jsonNames hjson
  constructor
  · rw [← hcopy]
    exact actsForAuth_long hlen
  · exact actsForLock_of_id fun stackId => by rw [lockDeviceId_unsigned hlen hsigned, hcopy]

/-- A device that the payload does not name is left alone from 16 bytes on. -/
theorem leavesDevice_long {payload : Bytes} (h : 16 ≤ payload.length) {d : DeviceId}
    (hd : ¬ Identifies payload d) : LeavesDevice payload d := by
  intro s clientId header env htype
  rcases htype with hauth | hlock
  · have hne : d ≠ copyBytes 16 0 payload := by
      rintro rfl
      exact hd (Or.inr (Or.inl ⟨h, rfl⟩))
    rw [actsForAuth_long h s clientId header env hauth]
    exact agreeOn_authRequest hne s header {} env.requestEnv
  · rw [handleNetworkFrame_lockRequest hlock]
    exact ⟨SameEntry.refl _ _, rfl⟩

/-- A JSON text that is acted for starts with the bytes of its id. -/
theorem front_of_resolvesDevice {payload : Bytes} (h : ResolvesDevice payload) {d : DeviceId}
    (hjson : JsonNames payload d) : 16 ≤ payload.length ∧ d.toList = payload.take 16 := by
  have hacts := (h.encoded d (Or.inr hjson)).1
  have hlen : 16 ≤ payload.length := by
    by_contra hshort
    exact not_actsForAuth_short (by omega) d hacts
  refine ⟨hlen, ?_⟩
  rw [hacts.unique (actsForAuth_long hlen), toList_copyBytes (by omega)]
  rfl

/-- The rule holds for a payload if and only if it has at least 16 bytes and, where it is a JSON
text that names a device, starts with the 16 bytes of that id. -/
theorem resolvesDevice_iff (payload : Bytes) :
    ResolvesDevice payload ↔
      16 ≤ payload.length ∧ ∀ d, JsonNames payload d → d.toList = payload.take 16 := by
  constructor
  · intro h
    refine ⟨?_, fun d hjson => (front_of_resolvesDevice h hjson).2⟩
    -- some id is acted for in either case, and that takes 16 bytes
    obtain ⟨d, hacts⟩ : ∃ d, ActsForAuth payload d := by
      by_cases hnone : ∀ d, ¬ Encodes payload d
      · exact h.determined hnone
      · obtain ⟨d, hd⟩ := not_forall_not.mp hnone
        exact ⟨d, (h.encoded d hd).1⟩
    by_contra hshort
    exact not_actsForAuth_short (by omega) d hacts
  · rintro ⟨hlen, hjson⟩
    refine ⟨fun d hd => ?_, fun _ => ⟨_, actsForAuth_long hlen⟩,
      fun _ d hd => leavesDevice_long hlen hd⟩
    refine actsFor_of_encodes hd ?_
    rcases hd with hraw | hnames
    · rw [hraw, List.take_of_length_le (by rw [List.Vector.toList_length])]
    · exact hjson d hnames

/-! ### A JSON text -/

/-- The JSON text of an id, without further members. -/
def deviceIdJson (d : DeviceId) : Bytes :=
  ascii "\x7b\"deviceId\":\"" ++ deviceIdToString d ++ ascii "\"\x7d"

theorem head?_deviceIdJson (d : DeviceId) : (deviceIdJson d).head? = some 0x7B := rfl

/-- Every character of the text of an id is a hexadecimal digit or a dash. -/
theorem mem_deviceIdToString {d : DeviceId} {c : UInt8} (h : c ∈ deviceIdToString d) :
    c < 0x80 ∧ isPlain c.toUInt16 = true := by
  have hhex : ∀ bs : Bytes, c ∈ hexBytes bs → c < 0x80 ∧ isPlain c.toUInt16 = true := by
    intro bs hc
    obtain ⟨n, hn, rfl⟩ := mem_hexBytes hc
    exact ⟨(hexDigit_unit hn).2.2, (hexDigit_unit hn).2.1⟩
  have hdash : c ∈ [dash] → c < 0x80 ∧ isPlain c.toUInt16 = true := by
    intro hc
    cases List.mem_singleton.mp hc
    decide
  simp only [deviceIdToString, List.mem_append] at h
  rcases h with (((((((h | h) | h) | h) | h) | h) | h) | h) | h
  all_goals first | exact hhex _ h | exact hdash h

/-- An ASCII text is decoded from its own code units. -/
theorem decode_ascii {bytes : Bytes} (h : ∀ b ∈ bytes, b < 0x80) :
    (utf8Decode bytes >>= jsonDecode) = jsonDecode (units bytes) := by
  rw [utf8Decode_ascii h]
  rfl

theorem index_single (key : DartString) (value : Json) : Json.index [(key, value)] key = value := by
  simp [Json.index]

/-- The text names its id. -/
theorem jsonNames_deviceIdJson (d : DeviceId) : JsonNames (deviceIdJson d) d := by
  have htext : ∀ text : Bytes, text.all (· < 0x80) = true → ∀ b ∈ text, b < 0x80 := by
    intro text h b hb
    simpa using List.all_eq_true.mp h b hb
  have hascii : ∀ b ∈ deviceIdJson d, b < 0x80 := by
    intro b hb
    simp only [deviceIdJson, List.mem_append] at hb
    rcases hb with (hb | hb) | hb
    · exact htext _ (by decide) b hb
    · exact (mem_deviceIdToString hb).1
    · exact htext _ (by decide) b hb
  have hfront : units (ascii "\x7b\"deviceId\":\"") =
      0x7B :: 0x22 :: (literal "deviceId" ++ [0x22, 0x3A, 0x22]) := by decide
  have hback : units (ascii "\"\x7d") = [0x22, 0x7D] := by decide
  have hunits : units (deviceIdJson d) = 0x7B :: 0x22 :: (literal "deviceId" ++ 0x22 :: 0x3A ::
      0x22 :: (units (deviceIdToString d) ++ 0x22 :: 0x7D :: [])) := by
    simp only [deviceIdJson, units_append, hfront, hback, List.append_assoc, List.cons_append,
      List.nil_append]
  have hplain : ∀ c ∈ units (deviceIdToString d), isPlain c = true := by
    intro c hc
    obtain ⟨b, hb, rfl⟩ := List.mem_map.mp hc
    exact (mem_deviceIdToString hb).2
  have hkey : ∀ c ∈ literal "deviceId", isPlain c = true := List.all_eq_true.mp (by decide)
  refine ⟨[(literal "deviceId", .string (units (deviceIdToString d)))], ?_,
    index_single _ _⟩
  obtain ⟨fuel, hfuel⟩ : ∃ fuel, 2 * (units (deviceIdJson d)).length + 2 = fuel + 1 + 1 + 1 :=
    ⟨2 * (units (deviceIdJson d)).length - 1, by rw [hunits]; simp only [List.length_cons]; omega⟩
  have hmembers := @parseMembers_last (fuel + 1) _ _ _ _ _
    (parseKey_plain hkey (0x22 :: (units (deviceIdToString d) ++ 0x22 :: 0x7D :: [])))
    (parseValue_string hplain fuel _)
  rw [decode_ascii hascii, jsonDecode, hfuel, hunits, parseValue_object hmembers]
  show (if skipSpace [] = [] then Except.ok (Json.object _) else .error .FormatException) = _
  exact if_pos rfl

/-- The id of a phone. -/
def jsonPhone : DeviceId :=
  ⟨[0x00, 0x11, 0x22, 0x33, 0x44, 0x55, 0x66, 0x77, 0x88, 0x99, 0xAA, 0xBB, 0xCC, 0xDD, 0xEE,
    0xFF], rfl⟩

/-- The JSON text of 00112233-4455-6677-8899-aabbccddeeff is handled as a request of another
device, 7b226465-7669-6365-4964-223a22303031. -/
theorem not_resolvesDevice_json :
    JsonNames (deviceIdJson jsonPhone) jsonPhone ∧ ¬ ResolvesDevice (deviceIdJson jsonPhone) := by
  refine ⟨jsonNames_deviceIdJson jsonPhone, fun h => ?_⟩
  have hfront := (front_of_resolvesDevice h (jsonNames_deviceIdJson jsonPhone)).2
  have hhead := congrArg List.head? hfront
  rw [List.head?_take, if_neg (by decide), head?_deviceIdJson] at hhead
  exact absurd hhead (by decide)

end MobileUnlock.Service
