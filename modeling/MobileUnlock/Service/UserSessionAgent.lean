import MobileUnlock.Protocol.Types

/-!
# `MobileUnlock.Service.UserSessionAgent`: the agent in the user's session

The model of the command loop of `windows/user_session_agent/UserSessionAgent.cpp`. The
agent reads one message at a time from the service and answers a LOCK_REQUEST with the
outcome of `LockWorkStation`, which is an argument.
-/

set_option autoImplicit false

namespace MobileUnlock.Service

open MobileUnlock.Lib MobileUnlock.Protocol

/-- The payload of a LOCK_RESPONSE. -/
def lockOutcome (lockSuccess : Bool) : Bytes :=
  if lockSuccess then ascii "\x7b\"status\":\"SUCCESS\"\x7d"
  else ascii "\x7b\"status\":\"FAILURE\",\"reason\":\"LOCK_FAILED\"\x7d"

/-- Executes a lock command: the result, the header and the payload of the response. -/
def processLockCommand (header : FrameHeader) (lockSuccess : Bool) :
    Bool × FrameHeader × Bytes :=
  let payload := lockOutcome lockSuccess
  (lockSuccess,
    { magic := PROTOCOL_MAGIC
      majorVersion := PROTOCOL_MAJOR_VERSION
      minorVersion := PROTOCOL_MINOR_VERSION
      messageType := MessageType.LOCK_RESPONSE.code
      reserved := 0
      messageID := header.messageID
      payloadLength := UInt32.ofNat payload.length
      sequenceNumber := header.sequenceNumber + 1 }, payload)

/-- What a message of the service is to the agent. -/
inductive AgentCommand where
  | lock (header : FrameHeader)
  | ping (header : FrameHeader)
  | ignored

/-- Reads a message of the service. -/
def readAgentCommand (message : Bytes) : AgentCommand :=
  match deserializeFrameHeader message with
  | none => .ignored
  | some hdr =>
    if hdr.messageType = MessageType.LOCK_REQUEST.code then .lock hdr
    else if hdr.messageType = MessageType.PING.code then .ping hdr
    else .ignored

/-- The message that answers a lock command. -/
def lockResponseMessage (header : FrameHeader) (lockSuccess : Bool) : Bytes :=
  let (_, respHeader, respPayload) := processLockCommand header lockSuccess
  serializeFrameHeader respHeader ++ respPayload

/-- The message that answers a ping. -/
def pongMessage (header : FrameHeader) : Bytes :=
  serializeFrameHeader
    { messageType := MessageType.PONG.code
      messageID := header.messageID
      sequenceNumber := header.sequenceNumber + 1
      payloadLength := 0 }

/-- The number of a PC state, as the status report prints it. -/
def pcStateCode : PcState → Nat
  | .UNKNOWN => 0
  | .OFFLINE => 1
  | .ONLINE => 2
  | .LOCKED => 3
  | .UNLOCKED => 4
  | .SUSPENDED => 5
  | .SLEEPING => 6
  | .PAIRING => 7
  | .AUTHENTICATING => 8
  | .PROTO_ERROR => 9

/-- The message of `ReportSessionState`. -/
def statusMessage (state : PcState) : Bytes :=
  let payload := ascii "\x7b\"state\":" ++ ascii (toString (pcStateCode state)) ++ ascii "\x7d"
  serializeFrameHeader
    { messageType := MessageType.STATUS_RESPONSE.code
      messageID := 1
      sequenceNumber := 1
      payloadLength := UInt32.ofNat payload.length } ++ payload

end MobileUnlock.Service
