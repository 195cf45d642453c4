import MobileUnlock.Proofs.DeviceIdentity
import MobileUnlock.Service.MobileUnlockService

/-!
# `MobileUnlock.Proofs.LockAuthorization`: which LOCK_REQUEST reaches the agent

`LockAuthorized` is the rule for one LOCK_REQUEST frame: what goes to the agent names an
active device, and everything else is refused. `handleNetworkFrame` keeps it exactly for
payloads of at least 16 bytes and while no agent is connected (`lockAuthorized_iff`). A
shorter payload names no device in any of the three encodings, and the handler validates the
device only if it has found one.
-/

set_option autoImplicit false

namespace MobileUnlock.Service

open MobileUnlock.Lib MobileUnlock.Lib.Win32 MobileUnlock.Protocol MobileUnlock.Pairing
open MobileUnlock.Authentication

/-! ### The device a payload names -/

/-- The payload names `d` in one of the encodings of the handler: a signed message at its
front, 16 raw bytes at its front, or an id text behind the JSON key. -/
def Identifies (payload : Bytes) (d : DeviceId) : Prop :=
  signedDeviceId payload = some d ∨
  (16 ≤ payload.length ∧ copyBytes 16 0 payload = d) ∨
  ∃ rest, afterFirst deviceIdKey payload = some rest ∧
    deviceIdFromString (rest.take 36) zeroDeviceId = (true, d)

/-- What follows an occurrence is no longer than the text. -/
theorem length_of_afterFirst {search l rest : Bytes} (h : afterFirst search l = some rest) :
    rest.length ≤ l.length := by
  induction l with
  | nil =>
    unfold afterFirst at h
    split at h
    · cases h
      exact Nat.le_refl _
    · cases h
  | cons c l ih =>
    unfold afterFirst at h
    split at h
    · cases h
      rw [List.length_drop]
      exact Nat.sub_le _ _
    · exact Nat.le_succ_of_le (ih h)

/-- A text that is too short is not parsed. -/
theorem deviceIdFromString_short {s : Bytes} (h : s.length < 36) (outId : DeviceId) :
    deviceIdFromString s outId = (false, outId) := by
  unfold deviceIdFromString
  exact if_pos (Nat.ne_of_lt h)

/-- The handler finds no id in a payload below 16 bytes: the JSON key alone has 12, which
leaves no room for the 36 characters of an id. -/
theorem lockDeviceId_short {payload : Bytes} (h : payload.length < 16) (stackId : DeviceId) :
    (lockDeviceId payload stackId).1 = false := by
  have hsigned : signedDeviceId payload = none := by
    unfold signedDeviceId
    exact if_neg (by simp only [CANONICAL_SIGNED_MESSAGE_SIZE]; omega)
  unfold lockDeviceId
  rw [hsigned]
  show (if payload.length ≥ 16 then (true, copyBytes 16 0 payload)
    else jsonDeviceId payload stackId).1 = false
  rw [if_neg (by omega)]
  unfold jsonDeviceId
  cases hfind : afterFirst deviceIdKey payload with
  | none => rfl
  | some rest =>
    have hrest := length_of_afterFirst hfind
    show (deviceIdFromString (rest.take 36) stackId).1 = false
    rw [deviceIdFromString_short (by rw [List.length_take]; omega)]

/-- Such a payload names no device. -/
theorem not_identifies_short {payload : Bytes} (h : payload.length < 16) (d : DeviceId) :
    ¬ Identifies payload d := by
  rintro (hsigned | ⟨hraw, -⟩ | ⟨rest, hfind, hparse⟩)
  · unfold signedDeviceId at hsigned
    rw [if_neg (by simp only [CANONICAL_SIGNED_MESSAGE_SIZE]; omega)] at hsigned
    cases hsigned
  · omega
  · have hrest := length_of_afterFirst hfind
    rw [deviceIdFromString_short (by rw [List.length_take]; omega)] at hparse
    cases hparse

/-- From 16 bytes on the handler finds an id, and the payload names it. -/
theorem lockDeviceId_long {payload : Bytes} (h : 16 ≤ payload.length) (stackId : DeviceId) :
    (lockDeviceId payload stackId).1 = true ∧
      Identifies payload (lockDeviceId payload stackId).2 := by
  unfold lockDeviceId
  cases hsigned : signedDeviceId payload with
  | some d => exact ⟨rfl, Or.inl hsigned⟩
  | none =>
    show (if payload.length ≥ 16 then (true, copyBytes 16 0 payload)
        else jsonDeviceId payload stackId).1 = true ∧
      Identifies payload (if payload.length ≥ 16 then (true, copyBytes 16 0 payload)
        else jsonDeviceId payload stackId).2
    rw [if_pos h]
    exact ⟨rfl, Or.inr (Or.inl ⟨h, rfl⟩)⟩

/-! ### Authorisation -/

/-- The acts send something to the agent. -/
def Forwards (acts : List ServiceAction) : Prop :=
  ∃ message, ServiceAction.sendMessageToAgent message ∈ acts

theorem forwards_dispatchLock (clientId : UInt64) (header : FrameHeader) (payload : Bytes) :
    Forwards (dispatchLock clientId header payload) :=
  ⟨lockRequestMessage header payload, by simp [dispatchLock]⟩

theorem not_forwards_refuseLock (clientId : UInt64) (header : FrameHeader) (reason : String) :
    ¬ Forwards [refuseLock clientId header reason] := by
  rintro ⟨message, hmem⟩
  rw [List.mem_singleton] at hmem
  cases hmem

/-- The rule for the acts of a LOCK_REQUEST. What is forwarded comes with a payload that names
an active device. If nothing is forwarded, the only act is a reply FAILURE to the client. -/
def LockAuthorized (acc : Access) (reg : Registry) (clientId : UInt64) (header : FrameHeader)
    (payload : Bytes) (acts : List ServiceAction) : Prop :=
  (Forwards acts →
    ∃ d, Identifies payload d ∧ isDeviceActive acc reg (deviceIdToString d) = true) ∧
  (¬ Forwards acts → ∃ reason, acts = [refuseLock clientId header reason])

/-- A refusal is authorised, whatever the payload. -/
theorem lockAuthorized_refuseLock (acc : Access) (reg : Registry) (clientId : UInt64)
    (header : FrameHeader) (payload : Bytes) (reason : String) :
    LockAuthorized acc reg clientId header payload [refuseLock clientId header reason] := by
  constructor
  · intro hfwd
    exact absurd hfwd (not_forwards_refuseLock _ _ _)
  · intro _
    exact ⟨reason, rfl⟩

/-- The frame of a LOCK_REQUEST goes to the lock branch. -/
theorem handleNetworkFrame_lockRequest {header : FrameHeader}
    (hlock : header.messageType = MessageType.LOCK_REQUEST.code) (s : AuthState)
    (clientId : UInt64) (payload : Bytes) (env : FrameEnv) :
    handleNetworkFrame s clientId header payload env
      = (s, handleLockRequest s.registry clientId header payload env) := by
  unfold handleNetworkFrame
  rw [hlock, if_neg (by decide), if_neg (by decide), if_neg (by decide), if_pos rfl]

/-- With an id, the lock branch forwards exactly for an active device and a connected
agent. -/
theorem handleLockRequest_of_id {payload : Bytes} {env : FrameEnv}
    (hid : (lockDeviceId payload env.stackId).1 = true) (reg : Registry) (clientId : UInt64)
    (header : FrameHeader) :
    handleLockRequest reg clientId header payload env
      = if ¬ isDeviceActive env.lockAccess reg
            (deviceIdToString (lockDeviceId payload env.stackId).2) then
          [refuseLock clientId header "DEVICE_UNAUTHORIZED"]
        else if ¬ env.agentConnected then [refuseLock clientId header "AGENT_UNAVAILABLE"]
        else dispatchLock clientId header payload := by
  simp only [handleLockRequest, hid, if_true, true_and]

/-- Without an id, the lock branch forwards whenever the agent is connected. -/
theorem handleLockRequest_of_no_id {payload : Bytes} {env : FrameEnv}
    (hid : (lockDeviceId payload env.stackId).1 = false) (reg : Registry) (clientId : UInt64)
    (header : FrameHeader) :
    handleLockRequest reg clientId header payload env
      = if ¬ env.agentConnected then [refuseLock clientId header "AGENT_UNAVAILABLE"]
        else dispatchLock clientId header payload := by
  simp only [handleLockRequest, hid, Bool.false_eq_true, false_and, if_false]

/-- The handler keeps the rule for a LOCK_REQUEST if and only if the payload has at least 16
bytes or no agent is connected. -/
theorem lockAuthorized_iff (s : AuthState) (clientId : UInt64) (header : FrameHeader)
    (payload : Bytes) (env : FrameEnv)
    (hlock : header.messageType = MessageType.LOCK_REQUEST.code) :
    LockAuthorized env.lockAccess s.registry clientId header payload
        (handleNetworkFrame s clientId header payload env).2 ↔
      16 ≤ payload.length ∨ env.agentConnected = false := by
  rw [handleNetworkFrame_lockRequest hlock]
  show LockAuthorized env.lockAccess s.registry clientId header payload
    (handleLockRequest s.registry clientId header payload env) ↔ _
  by_cases hlen : 16 ≤ payload.length
  · -- An id is found, so the registry decides.
    obtain ⟨hid, hnames⟩ := lockDeviceId_long hlen env.stackId
    refine ⟨fun _ => Or.inl hlen, fun _ => ?_⟩
    rw [handleLockRequest_of_id hid]
    split
    · exact lockAuthorized_refuseLock _ _ _ _ _ _
    · rename_i hactive
      rw [not_not] at hactive
      split
      · exact lockAuthorized_refuseLock _ _ _ _ _ _
      · refine ⟨fun _ => ⟨_, hnames, hactive⟩, fun hno => ?_⟩
        exact absurd (forwards_dispatchLock _ _ _) hno
  · -- No id is found, so nothing is validated.
    have hshort : payload.length < 16 := Nat.lt_of_not_le hlen
    rw [handleLockRequest_of_no_id (lockDeviceId_short hshort env.stackId)]
    cases hconn : env.agentConnected with
    | false =>
      refine ⟨fun _ => Or.inr rfl, fun _ => ?_⟩
      rw [if_pos (by simp)]
      exact lockAuthorized_refuseLock _ _ _ _ _ _
    | true =>
      rw [if_neg (by simp)]
      constructor
      · rintro ⟨hrule, -⟩
        obtain ⟨d, hnames, -⟩ := hrule (forwards_dispatchLock _ _ _)
        exact absurd hnames (not_identifies_short hshort d)
      · rintro (hlong | hno)
        · exact absurd hlong hlen
        · cases hno

/-! ### The empty payload -/

/-- A LOCK_REQUEST header. -/
def lockHeader (messageId : UInt32) : FrameHeader :=
  { messageType := MessageType.LOCK_REQUEST.code, messageID := messageId }

/-- A LOCK_REQUEST with an agent connected and a registry without faults. -/
def lockEnv : FrameEnv where
  stackId := zeroDeviceId
  requestEnv := { now := 0, access := RegAccess.ok, nonce := none }
  responseEnv :=
    { now := 0
      access := RegAccess.ok
      cng :=
        { sha256 := fun _ => none
          importKeyPair := fun _ => none
          verifySignature := fun _ _ _ => false
          wildKey := fun _ => none }
      seenAccess := RegAccess.ok
      seenTime := {} }
  lockAccess := RegAccess.ok
  agentConnected := true

/-- Over an empty registry, with no device paired at all, an empty LOCK_REQUEST goes to the
agent. -/
theorem lockAuthorized_emptyPayload :
    (lockHeader 7).messageType = MessageType.LOCK_REQUEST.code ∧
      Forwards (handleNetworkFrame {} 1 (lockHeader 7) [] lockEnv).2 ∧
      ¬ LockAuthorized lockEnv.lockAccess {} 1 (lockHeader 7) []
        (handleNetworkFrame {} 1 (lockHeader 7) [] lockEnv).2 := by
  have hacts : (handleNetworkFrame {} 1 (lockHeader 7) [] lockEnv).2
      = dispatchLock 1 (lockHeader 7) [] := by
    rw [handleNetworkFrame_lockRequest rfl]
    show handleLockRequest {} 1 (lockHeader 7) [] lockEnv = _
    rw [handleLockRequest_of_no_id (lockDeviceId_short (by simp) _)]
    rfl
  rw [hacts]
  refine ⟨rfl, forwards_dispatchLock _ _ _, ?_⟩
  rintro ⟨hrule, -⟩
  obtain ⟨d, hnames, -⟩ := hrule (forwards_dispatchLock _ _ _)
  exact not_identifies_short (by simp) d hnames

/-- With the 16 bytes of an unknown device the rule is kept. -/
theorem lockAuthorized_iff_unknownDevice :
    LockAuthorized lockEnv.lockAccess {} 1 (lockHeader 7) (List.replicate 16 0)
      (handleNetworkFrame {} 1 (lockHeader 7) (List.replicate 16 0) lockEnv).2 :=
  (lockAuthorized_iff {} 1 (lockHeader 7) (List.replicate 16 0) lockEnv rfl).mpr
    (Or.inl (by simp))

end MobileUnlock.Service
