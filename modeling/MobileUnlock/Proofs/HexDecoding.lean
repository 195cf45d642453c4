import MobileUnlock.Proofs.PairRequest
import MobileUnlock.Proofs.PinSoundness
import MobileUnlock.Proofs.UuidText

/-!
# `MobileUnlock.Proofs.HexDecoding`: the key of a PAIR_REQUEST is decoded in part

The key of a request is a hexadecimal text. `HexToBytes` gives the empty key for a text of odd
length, but a conversion that fails later on ends the loop with the bytes so far, and `%02x` also
converts blanks, signs and single digits. So the decoding is whole or empty exactly for the texts
that are `Harmless` (`decodesAllOrNothing_iff`).

Nothing behind the decoder looks at the key again. A pairing that completes registers what was
decoded from the request that opened its session, and `registersWholeKeys_iff` says for which
requests that is a whole key.
-/

set_option autoImplicit false

namespace MobileUnlock.Pairing

open MobileUnlock.Lib MobileUnlock.Lib.Win32 MobileUnlock.Protocol

/-- A text of bytes in hexadecimal: digits of either case, two for each byte. -/
structure HexText (s : Bytes) : Prop where
  even : s.length % 2 = 0
  digits : ∀ c ∈ s, (hexValue c).isSome

/-- A hexadecimal text is decoded whole, and every other text gives nothing. -/
structure DecodesAllOrNothing (s : Bytes) : Prop where
  whole : HexText s → hexToBytes s = hexPairs s
  nothing : ¬ HexText s → hexToBytes s = []

/-- The texts without a part that is taken for a key: the first conversion is not made or fails,
or all of them read two digits. -/
def Harmless (s : Bytes) : Prop := s.length % 2 = 1 ∨ HexText s ∨ ¬ BeginsNumber s

/-- The text of the key in a PAIR_REQUEST. -/
def publicKeyText (payload : Bytes) : Bytes := jsonGetString payload (ascii "publicKey")

/-- There is no key, or it is the whole of the hexadecimal text in the request. -/
def KeyOfRequest (payload key : Bytes) : Prop :=
  key = [] ∨ (HexText (publicKeyText payload) ∧ key = hexPairs (publicKeyText payload))

/-! ### The decoder -/

theorem HexText.hexToBytes_eq {s : Bytes} (h : HexText s) : hexToBytes s = hexPairs s :=
  hexToBytes_digits h.even h.digits

/-- Nothing is decoded if the length is odd or the first conversion fails. -/
theorem hexToBytes_eq_nil_iff (s : Bytes) :
    hexToBytes s = [] ↔ s.length % 2 = 1 ∨ ¬ BeginsNumber s := by
  rw [hexToBytes, ← sscanf02x_iff]
  by_cases hodd : s.length % 2 = 1
  · rw [if_pos (by omega)]
    exact iff_of_true rfl (.inl hodd)
  rw [if_neg (by omega)]
  cases s with
  | nil => exact iff_of_true rfl (.inr Bool.false_ne_true)
  | cons a tail =>
    cases tail with
    | nil => exact absurd rfl hodd
    | cons b rest =>
      rw [hexToBytesLoop]
      cases sscanf02x (a :: b :: rest) with
      | none => exact iff_of_true rfl (.inr Bool.false_ne_true)
      | some byte =>
        refine iff_of_false (List.cons_ne_nil _ _) ?_
        rintro (h | h)
        · exact hodd h
        · exact h rfl

theorem decodesAllOrNothing_iff (s : Bytes) : DecodesAllOrNothing s ↔ Harmless s := by
  constructor
  · intro h
    by_cases hhex : HexText s
    · exact .inr (.inl hhex)
    · obtain hodd | hnumber := (hexToBytes_eq_nil_iff s).mp (h.nothing hhex)
      · exact .inl hodd
      · exact .inr (.inr hnumber)
  · intro h
    refine ⟨HexText.hexToBytes_eq, fun hhex => (hexToBytes_eq_nil_iff s).mpr ?_⟩
    obtain hodd | hhex' | hnumber := h
    · exact .inl hodd
    · exact absurd hhex' hhex
    · exact .inr hnumber

/-! ### The registered key -/

/-- The key of a request is what is decoded from its text. -/
theorem parsePairRequest_publicKey (payload : Bytes) :
    (parsePairRequest payload).publicKey = hexToBytes (publicKeyText payload) := by
  unfold parsePairRequest
  split
  next hempty =>
    subst hempty
    decide
  next hne => rfl

/-- What is decoded is a whole key or none exactly for the harmless texts. -/
theorem keyOfRequest_iff (payload : Bytes) :
    KeyOfRequest payload (hexToBytes (publicKeyText payload)) ↔
      Harmless (publicKeyText payload) := by
  rw [KeyOfRequest, hexToBytes_eq_nil_iff]
  constructor
  · rintro ((hodd | hnumber) | ⟨hhex, -⟩)
    · exact .inl hodd
    · exact .inr (.inr hnumber)
    · exact .inr (.inl hhex)
  · rintro (hodd | hhex | hnumber)
    · exact .inl (.inl hodd)
    · exact .inr ⟨hhex, hhex.hexToBytes_eq⟩
    · exact .inl (.inr hnumber)

/-- **The decoding is whole or empty if and only if the text is harmless.** So a pairing that
completes registers the key that was decoded from the request of its session, and that is a whole
key or none if and only if the text in the request is harmless. -/
theorem hexToBytes_allOrNothing_iff (s : Bytes) :
    (DecodesAllOrNothing s ↔ Harmless s) ∧
    ∀ (reg : Registry) (es : List PairingEvent) (pre : List PairingEntry) (x : PairingEntry)
      (post : List PairingEntry),
      pairingMachine.trace { registry := reg } es = pre ++ x :: post →
      ∀ c payload env, x.event = .pairConfirm c payload env → replyType x = some .PAIR_COMPLETE →
      ∃ before r between clientIp request requestEnv record,
        pre = before ++ r :: between ∧
        r.event = .pairRequest c clientIp request requestEnv ∧
        (∀ y ∈ between, interrupts c y = false) ∧
        writeDeviceRecord env.writeAccess x.before.registry record
          = (ERROR_SUCCESS, x.after.registry) ∧
        (KeyOfRequest request record.publicKey ↔ Harmless (publicKeyText request)) := by
  refine ⟨decodesAllOrNothing_iff s, ?_⟩
  intro reg es pre x post htrace c payload env hx hreply
  obtain ⟨session, -, hopened, hwrite⟩ := completion_history htrace hx hreply
  -- the history of the session names the request
  obtain ⟨before, r, between, clientIp, request, requestEnv, hsplit, hr, -, hbetween, rfl⟩ :=
    hopened
  refine ⟨before, r, between, clientIp, request, requestEnv, _, hsplit, hr, hbetween, hwrite, ?_⟩
  show KeyOfRequest request (parsePairRequest request).publicKey ↔ _
  rw [parsePairRequest_publicKey]
  exact keyOfRequest_iff request

/-! ### A key that is decoded in part -/

/-- A PAIR_REQUEST whose key stops being hexadecimal behind the first byte. -/
def brokenKeyRequest : Bytes :=
  ascii "\x7b\"deviceId\":\"" ++ phoneText 49 ++
    ascii "\",\"deviceName\":\"Phone\",\"publicKey\":\"04zz\"\x7d"

/-- The first byte is taken for the key, and the pairing with this key completes. -/
theorem hexToBytes_part :
    (¬ ∀ s, DecodesAllOrNothing s) ∧
    ¬ KeyOfRequest brokenKeyRequest (parsePairRequest brokenKeyRequest).publicKey ∧
    replyType (pairingMachine.entry
        (pairingMachine.run {} [.pairRequest 1 [] brokenKeyRequest requestEnv])
        (phoneConfirm 1 49)) = some .PAIR_COMPLETE := by
  have htext : publicKeyText brokenKeyRequest = ascii "04zz" := by decide +kernel
  have hnot : ¬ HexText (ascii "04zz") := by
    intro h
    have hdigits := h.digits
    revert hdigits
    decide +kernel
  refine ⟨?_, ?_, by decide +kernel⟩
  · intro h
    have hnothing := (h (ascii "04zz")).nothing hnot
    revert hnothing
    decide +kernel
  · rw [parsePairRequest_publicKey, KeyOfRequest, htext]
    rintro (hnil | ⟨hhex, -⟩)
    · revert hnil
      decide +kernel
    · exact hnot hhex

end MobileUnlock.Pairing
