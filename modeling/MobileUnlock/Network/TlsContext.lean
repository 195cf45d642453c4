import MobileUnlock.Network.NetworkEngine

/-!
# `MobileUnlock.Network.TlsContext`: decryption with Schannel

The model of `TlsContext::DecryptPayload` in `windows/network/TlsContext.cpp`. `DecryptMessage` of
Schannel is an argument: it gets the context and the encrypted bytes, and it gives a status and
the four buffers of the descriptor as it leaves them. `decryptPayload` also tells how many bytes
have been used, and `schannelTls` shows what the worker makes of that: nothing.

The handshake is an argument as well. Credentials, certificates and encryption are left out.
-/

set_option autoImplicit false

namespace MobileUnlock.Network

open MobileUnlock.Lib

/-- The types of a buffer that matter here. -/
inductive SecBufferType where
  | SECBUFFER_EMPTY
  | SECBUFFER_DATA
  | SECBUFFER_MISSING
  | SECBUFFER_EXTRA
  | SECBUFFER_STREAM_TRAILER
  | SECBUFFER_STREAM_HEADER
  deriving DecidableEq, Repr

/-- A buffer: `pvBuffer` with its `cbBuffer` bytes. -/
structure SecBuffer where
  bufferType : SecBufferType
  pvBuffer : Bytes
  deriving DecidableEq

def SecBuffer.cbBuffer (b : SecBuffer) : Nat := b.pvBuffer.length

/-- The status codes that the source tells apart. -/
inductive SecurityStatus where
  | SEC_E_OK
  | SEC_E_INCOMPLETE_MESSAGE
  | SEC_I_CONTEXT_EXPIRED
  | other (code : UInt32)
  deriving DecidableEq, Repr

/-- Schannel: its contexts, and `DecryptMessage` on a context and encrypted bytes. -/
structure Schannel (κ : Type) where
  decryptMessage : κ → Bytes → κ × SecurityStatus × List SecBuffer

/-- The members of a `TlsContext` that decryption uses. -/
structure SchannelContext (κ : Type) where
  hContext : κ
  handshakeComplete : Bool := false

/-- What `DecryptPayload` gives back. -/
structure DecryptResult (κ : Type) where
  context : SchannelContext κ
  status : TlsStatus
  plainData : Bytes
  bytesConsumed : Nat

section Decrypt
variable {κ : Type} (schannel : Schannel κ)

/-- The bytes that have been used: all but those of the first `SECBUFFER_EXTRA`. -/
def consumedBytes (encryptedLen : Nat) (buffers : List SecBuffer) : Nat :=
  match buffers.find? fun b => b.bufferType = .SECBUFFER_EXTRA with
  | some b => encryptedLen - b.cbBuffer
  | none => encryptedLen

/-- The contents of the first `SECBUFFER_DATA` that is not empty. -/
def plainBytes (buffers : List SecBuffer) : Bytes :=
  match buffers.find? fun b => b.bufferType = .SECBUFFER_DATA ∧ b.cbBuffer > 0 with
  | some b => b.pvBuffer
  | none => []

/-- Decrypts what is at the front of `encryptedData`. The plaintext is empty when there is none, as
the caller passes an empty vector. -/
def decryptPayload (context : SchannelContext κ) (encryptedData : Bytes) : DecryptResult κ :=
  if ¬ context.handshakeComplete then
    { context, status := .ERROR_GENERAL, plainData := [], bytesConsumed := 0 }
  else
    let (hContext, status, buffers) := schannel.decryptMessage context.hContext encryptedData
    let context := { context with hContext := hContext }
    let bytesConsumed := consumedBytes encryptedData.length buffers
    match status with
    | .SEC_E_OK => { context, status := .SUCCESS, plainData := plainBytes buffers, bytesConsumed }
    | .SEC_E_INCOMPLETE_MESSAGE =>
      { context, status := .INCOMPLETE_DATA, plainData := [], bytesConsumed }
    | .SEC_I_CONTEXT_EXPIRED => { context, status := .CLOSED, plainData := [], bytesConsumed }
    | .other _ => { context, status := .ERROR_GENERAL, plainData := [], bytesConsumed }

/-- The implementation that the worker calls. It does not look at `bytesConsumed`. -/
def schannelTls (acceptHandshake :
      SchannelContext κ → Bytes → SchannelContext κ × TlsStatus × Bytes) :
    TlsContext (SchannelContext κ) where
  isHandshakeComplete context := context.handshakeComplete
  acceptHandshake := acceptHandshake
  decryptPayload context encryptedData :=
    let r := decryptPayload schannel context encryptedData
    (r.context, r.status, r.plainData)

end Decrypt

end MobileUnlock.Network
