import MobileUnlock.Proofs.Authentication
import MobileUnlock.Proofs.Codec
import MobileUnlock.Proofs.LockAuthorization

/-!
# `MobileUnlock.Proofs.ServiceReply`: every reply of the service is a well-formed frame

Every exit of the two authentication handlers fills the header of its reply by hand. `ReplyTo`
says what a reply to a request must be, and there are three ways to build one: a refused request,
whose header keeps the constructor's defaults, a challenge, and a reply to a response. What is left
is the size of the payloads. The reasons are fixed texts, the numbers have at most twenty digits,
and the account SID comes out of a buffer of 512 bytes.
-/

set_option autoImplicit false

namespace MobileUnlock.Authentication

open MobileUnlock.Lib MobileUnlock.Lib.Win32 MobileUnlock.Protocol MobileUnlock.Pairing
open AuthenticationManager

/-! ### Sizes -/

theorem length_ascii (s : String) : (ascii s).length = s.length := by
  rw [ascii, List.length_map, String.length_toList]

theorem length_decimal_le (n : UInt64) : (decimal n.toNat).length ≤ 20 := by
  have hn := n.toNat_lt
  show (n.toNat.repr.toList.map _).length ≤ 20
  rw [List.length_map, Nat.toList_repr, Nat.length_toDigits_le_iff (by decide) (by decide)]
  omega

theorem length_narrowString_le (data : Bytes) : (narrowString data).length ≤ data.length := by
  induction data using narrowString.induct with
  | case1 lo hi rest hzero =>
    rw [narrowString, if_pos hzero]
    exact Nat.zero_le _
  | case2 lo hi rest hzero ih =>
    rw [narrowString, if_neg hzero, List.length_cons, List.length_cons, List.length_cons]
    omega
  | case3 => decide
  | case4 lo hzero =>
    rw [narrowString, if_neg hzero]
  | case5 => exact Nat.le_refl _

/-- A text value has at most as many characters as its buffer has bytes. -/
theorem length_readText_le (acc : Access) (name : KeyName) (vals : KeyValues DeviceValue)
    (v : DeviceValue) : (readText acc name vals v []).length ≤ WIDE_BUFFER_SIZE := by
  rw [readText]
  split
  next data hdata =>
    have hsize : data.length ≤ WIDE_BUFFER_SIZE := by
      unfold regQueryValue at hdata
      split at hdata
      · cases hdata
      split at hdata
      · cases hdata
      split at hdata
      next hle =>
        cases hdata
        exact hle
      · cases hdata
    exact (length_narrowString_le data).trans hsize
  · exact Nat.zero_le _

theorem length_accountSid_le {acc : Access} {reg : Registry} {id : Bytes} {record : DeviceRecord}
    (h : lookupDevice acc reg id = .ok record) : record.accountSid.length ≤ WIDE_BUFFER_SIZE := by
  have hread := (lookupDevice_ok.mp h).1
  unfold readDeviceRecord at hread
  dsimp only at hread
  split at hread
  · cases hread
    exact Nat.zero_le _
  · cases hread
    exact length_readText_le _ _ _ _

/-! ### Replies -/

/-- A well-formed reply: its header answers the request's, with the payload's length, and a
receiver reads it back. -/
structure ReplyTo (request : FrameHeader) (types : List MessageType) (header : FrameHeader)
    (payload : Bytes) : Prop where
  messageID : header.messageID = request.messageID
  sequenceNumber : header.sequenceNumber = request.sequenceNumber + 1
  magic : header.magic = PROTOCOL_MAGIC
  majorVersion : header.majorVersion = PROTOCOL_MAJOR_VERSION
  minorVersion : header.minorVersion = PROTOCOL_MINOR_VERSION
  reserved : header.reserved = 0
  messageType : ∃ type ∈ types, header.messageType = type.code
  payloadLength : header.payloadLength.toNat = payload.length
  size : payload.length ≤ 4096
  deserialized : deserializeFrameHeader (serializeFrameHeader header) = some header

/-- The header that every reply comes down to. -/
def replyHeader (request : FrameHeader) (type : MessageType) (payload : Bytes) : FrameHeader where
  magic := PROTOCOL_MAGIC
  majorVersion := PROTOCOL_MAJOR_VERSION
  minorVersion := PROTOCOL_MINOR_VERSION
  messageType := type.code
  reserved := 0
  messageID := request.messageID
  payloadLength := UInt32.ofNat payload.length
  sequenceNumber := request.sequenceNumber + 1

theorem replyTo_replyHeader (request : FrameHeader) {types : List MessageType}
    {type : MessageType} (htype : type ∈ types) (hknown : isValidMessageType type.code = true)
    {payload : Bytes} (hsize : payload.length ≤ 4096) :
    ReplyTo request types (replyHeader request type payload) payload := by
  have hlength : (UInt32.ofNat payload.length).toNat = payload.length := by
    rw [UInt32.toNat_ofNat']
    omega
  have haccepted : (replyHeader request type payload).Accepted := by
    refine ⟨rfl, rfl, ?_, hknown⟩
    show (UInt32.ofNat payload.length).toNat ≤ MAX_PAYLOAD_SIZE
    rw [hlength]
    exact hsize
  have hback := deserializeFrameHeader_serialize haccepted []
  rw [List.append_nil] at hback
  exact ⟨rfl, rfl, rfl, rfl, rfl, rfl, ⟨type, htype, rfl⟩, hlength, hsize, hback⟩

/-! ### The reasons -/

theorem lookupDevice_reason_le {acc : Access} {reg : Registry} {id : Bytes} {r : Refusal}
    (h : lookupDevice acc reg id = .error r) : r.reason.length ≤ 64 := by
  unfold lookupDevice at h
  dsimp only at h
  split at h
  · cases h
    decide
  split at h
  · cases h
    decide
  split at h
  · cases h
    decide
  · cases h

theorem parseAuthResponse_reason_le {payload : Bytes} {r : Refusal}
    (h : parseAuthResponse payload = .error r) : r.reason.length ≤ 64 := by
  unfold parseAuthResponse at h
  split at h
  · cases h
    decide
  split at h
  · cases h
    decide
  split at h
  · cases h
    decide
  · cases h

theorem answerChallenge_reason_le {m m' : AuthenticationManager} {id : Bytes} {now : UInt64}
    {cng : Crypto.Cng} {publicKey : Bytes} {msg : SignedMessage} {signature : Bytes} {r : Refusal}
    (h : answerChallenge m id now cng publicKey msg signature = (m', some r)) :
    r.reason.length ≤ 64 := by
  unfold answerChallenge at h
  split at h
  · cases h
    decide
  split at h
  · cases h
    decide
  split at h
  · cases h
    decide
  split at h
  · cases h
    decide
  split at h
  · cases h
    decide
  split at h
  · cases h
    decide
  · cases h

/-! ### The replies of the handlers -/

/-- The header of a refused request keeps the defaults of the constructor. -/
theorem replyTo_refuseRequest (hdr : FrameHeader) {r : Refusal} (hreason : r.reason.length ≤ 64) :
    ReplyTo hdr [.AUTH_CHALLENGE, .AUTH_FAILURE] (refuseRequest hdr {} r).header
      (refuseRequest hdr {} r).payload := by
  refine @replyTo_replyHeader hdr _ .AUTH_FAILURE (by decide) (by decide) _ ?_
  show (ascii _ ++ ascii _ ++ ascii _).length ≤ _
  rw [List.length_append, List.length_append, length_ascii, length_ascii r.reason, length_ascii]
  have hfront : "\x7b\"status\":\"ERROR\",\"reason\":\"".length = 28 := by decide
  have hback : "\"\x7d".length = 2 := by decide
  omega

theorem replyTo_challengeReply (hdr : FrameHeader) (serverIdentity : ByteArr 16)
    (challenge : ActiveChallenge) :
    ReplyTo hdr [.AUTH_CHALLENGE, .AUTH_FAILURE]
      (challengeReply hdr (challengePayload serverIdentity challenge)).header
      (challengeReply hdr (challengePayload serverIdentity challenge)).payload := by
  refine @replyTo_replyHeader hdr _ .AUTH_CHALLENGE (by decide) (by decide) _ ?_
  have hsession := length_decimal_le challenge.sessionId
  have htime := length_decimal_le challenge.createdAtMs
  have htexts : (ascii "\x7b\"sessionId\":").length + (ascii ",\"nonce\":\"").length +
      (ascii "\",\"serverIdentity\":\"").length + (ascii "\",\"timestamp\":").length +
      (ascii "\x7d").length = 58 := by decide
  show (challengePayload serverIdentity challenge).length ≤ 4096
  simp only [challengePayload, List.length_append, length_hexBytes, List.Vector.toList_length]
  omega

theorem replyTo_responseReply (hdr : FrameHeader) {type : MessageType}
    (htype : type ∈ [MessageType.AUTH_SUCCESS, .AUTH_FAILURE]) (result : AuthResultCode)
    {payload : Bytes} (hsize : payload.length ≤ 4096) :
    ReplyTo hdr [.AUTH_SUCCESS, .AUTH_FAILURE] (responseReply hdr type result payload).header
      (responseReply hdr type result payload).payload := by
  refine replyTo_replyHeader hdr htype ?_ hsize
  rcases List.mem_pair.mp htype with rfl | rfl
  · decide
  · decide

theorem replyTo_refuseResponse (hdr : FrameHeader) {r : Refusal}
    (hreason : r.reason.length ≤ 64) :
    ReplyTo hdr [.AUTH_SUCCESS, .AUTH_FAILURE] (refuseResponse hdr r).header
      (refuseResponse hdr r).payload := by
  refine replyTo_responseReply hdr (by decide) r.result ?_
  rw [List.length_append, List.length_append, length_ascii, length_ascii r.reason, length_ascii]
  have hfront : "\x7b\"status\":\"FAILURE\",\"reason\":\"".length = 30 := by decide
  have hback : "\"\x7d".length = 2 := by decide
  omega

theorem replyTo_successReply (hdr : FrameHeader) {accountSid : Bytes}
    (hsid : accountSid.length ≤ WIDE_BUFFER_SIZE) :
    ReplyTo hdr [.AUTH_SUCCESS, .AUTH_FAILURE] (successReply hdr accountSid).header
      (successReply hdr accountSid).payload := by
  refine replyTo_responseReply hdr (by decide) .SUCCESS ?_
  rw [List.length_append, List.length_append, length_ascii, length_ascii]
  have hfront : "\x7b\"status\":\"SUCCESS\",\"accountSid\":\"".length = 34 := by decide
  have hback : "\"\x7d".length = 2 := by decide
  have hsize : WIDE_BUFFER_SIZE = 512 := rfl
  omega

/-- Every exit of `HandleAuthRequest`. -/
theorem replyTo_handleAuthRequest (m : AuthenticationManager) (reg : Registry) (d : DeviceId)
    (hdr : FrameHeader) (env : RequestEnv) :
    ReplyTo hdr [.AUTH_CHALLENGE, .AUTH_FAILURE] (handleAuthRequest m reg d hdr {} env).2.header
      (handleAuthRequest m reg d hdr {} env).2.payload := by
  have hcase := handleAuthRequest_case m reg d hdr {} env
  generalize handleAuthRequest m reg d hdr {} env = result at hcase
  cases hcase with
  | limited h => exact replyTo_refuseRequest hdr (by decide)
  | refused h r hr => exact replyTo_refuseRequest hdr (lookupDevice_reason_le hr)
  | noNonce h hn => exact replyTo_refuseRequest hdr (by decide)
  | issued h record hr nonce hn m' hslots hlimits => exact replyTo_challengeReply hdr _ _

/-- Every exit of `HandleAuthResponse`. -/
theorem replyTo_handleAuthResponse (m : AuthenticationManager) (reg : Registry)
    (hdr : FrameHeader) (payload : Bytes) (env : ResponseEnv) :
    ReplyTo hdr [.AUTH_SUCCESS, .AUTH_FAILURE]
      (handleAuthResponse m reg hdr payload env).2.2.header
      (handleAuthResponse m reg hdr payload env).2.2.payload := by
  unfold handleAuthResponse
  dsimp only
  split
  next r hparse => exact replyTo_refuseResponse hdr (parseAuthResponse_reason_le hparse)
  next signedMsg hparse =>
  split
  · exact replyTo_refuseResponse hdr (by decide)
  split
  next r hlookup => exact replyTo_refuseResponse hdr (lookupDevice_reason_le hlookup)
  next record hlookup =>
  split
  next m' r hanswer => exact replyTo_refuseResponse hdr (answerChallenge_reason_le hanswer)
  next m' hanswer => exact replyTo_successReply hdr (length_accountSid_le hlookup)

end MobileUnlock.Authentication

namespace MobileUnlock.Service

open MobileUnlock.Lib MobileUnlock.Protocol MobileUnlock.Authentication

/-- The opcodes with which the service replies at once to a request. -/
def replyTypes : MessageType → List MessageType
  | .PING => [.PONG]
  | .AUTH_REQUEST => [.AUTH_CHALLENGE, .AUTH_FAILURE]
  | .AUTH_RESPONSE => [.AUTH_SUCCESS, .AUTH_FAILURE]
  | _ => []

/-- To every PING, AUTH_REQUEST and AUTH_RESPONSE the service sends exactly one frame, to the same
client, and it is a well-formed reply. -/
theorem handleNetworkFrame_reply (s : AuthState) (clientId : UInt64) (header : FrameHeader)
    (payload : Bytes) (env : FrameEnv) (type : MessageType)
    (htype : type ∈ [MessageType.PING, .AUTH_REQUEST, .AUTH_RESPONSE])
    (hheader : header.messageType = type.code) :
    ∃ replyHeader replyPayload,
      (handleNetworkFrame s clientId header payload env).2 =
        [.sendFrame clientId replyHeader replyPayload] ∧
      ReplyTo header (replyTypes type) replyHeader replyPayload := by
  simp only [List.mem_cons, List.not_mem_nil, or_false] at htype
  rcases htype with rfl | rfl | rfl
  · have hframe : (handleNetworkFrame s clientId header payload env).2 =
        [.sendFrame clientId (replyHeader header .PONG []) []] := by
      rw [handleNetworkFrame, if_pos hheader]
      rfl
    exact ⟨_, _, hframe, replyTo_replyHeader header (by decide) (by decide) (by decide)⟩
  · have hping : ¬ header.messageType = MessageType.PING.code := by
      rw [hheader]
      decide
    refine ⟨_, _, ?_, replyTo_handleAuthRequest s.manager s.registry
      (authDeviceId payload env.stackId) header env.requestEnv⟩
    rw [handleNetworkFrame, if_neg hping, if_pos hheader]
  · have hping : ¬ header.messageType = MessageType.PING.code := by
      rw [hheader]
      decide
    have hrequest : ¬ header.messageType = MessageType.AUTH_REQUEST.code := by
      rw [hheader]
      decide
    refine ⟨_, _, ?_, replyTo_handleAuthResponse s.manager s.registry header payload
      env.responseEnv⟩
    rw [handleNetworkFrame, if_neg hping, if_neg hrequest, if_pos hheader]

/-- The header of an AUTH_RESPONSE with the last sequence number there is. -/
def lastResponseHeader : FrameHeader :=
  { messageType := MessageType.AUTH_RESPONSE.code, messageID := 7, sequenceNumber := -1 }

/-- The empty AUTH_RESPONSE is refused, with the sequence number 0. -/
theorem handleNetworkFrame_reply_last :
    ∃ replyHeader replyPayload,
      (handleNetworkFrame {} 1 lastResponseHeader [] lockEnv).2 =
        [.sendFrame 1 replyHeader replyPayload] ∧
      ReplyTo lastResponseHeader (replyTypes .AUTH_RESPONSE) replyHeader replyPayload :=
  handleNetworkFrame_reply {} 1 lastResponseHeader [] lockEnv .AUTH_RESPONSE (by decide) rfl

end MobileUnlock.Service
