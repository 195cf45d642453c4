import MobileUnlock.CredentialProvider.MobileUnlockCredential

/-!
# `MobileUnlock.CredentialProvider.ProductionIpcFactory`: the token of `FetchAuthState`

The model of the message and of the checks in `ProductionIpcFactory::FetchAuthState` of
`windows/credential_provider/MobileUnlockCredential.cpp`. Its steps on the pipe are those of
`UnlockSystem`.
-/

set_option autoImplicit false

namespace MobileUnlock.CredentialProvider

open MobileUnlock.Lib MobileUnlock.Lsa

/-- The probe that asks for the state. -/
def probePayload : Bytes :=
  ascii "\x7b\"type\":\"AUTH_REQUEST\",\"source\":\"CredentialProvider\"\x7d"

/-- The token when nothing was read. -/
def noToken : IpcStateToken where
  valid := false
  lsaBuffer := zeroBuffer

/-- The token in a message that was read. -/
def readToken (data : Bytes) : IpcStateToken :=
  if data = [] ∨ data.length < LSA_LOGON_BUFFER_SIZE then noToken
  else
    let lsaBuffer := MobileUnlockLsaLogonBuffer.ofLayout data
    if lsaBuffer.magic ≠ LSA_SUBMIT_BUFFER_MAGIC ∨
        lsaBuffer.version ≠ LSA_SUBMIT_BUFFER_VERSION then
      { valid := false, lsaBuffer := lsaBuffer }
    else { valid := true, lsaBuffer := lsaBuffer }

end MobileUnlock.CredentialProvider
