import MobileUnlock.Android.PairingModels
import MobileUnlock.Pairing.PairingManager
import MobileUnlock.Proofs.PhoneChallenge

/-!
# `MobileUnlock.Proofs.PairRequest`: the PC reads the phone's pairing request

The phone writes the request with a JSON encoder, and the PC looks for the quoted keys and reads up
to the next quote. The text is therefore cut at its quotes: `quoted` puts pieces together,
`afterFirst_quoted` finds the first piece that is the key, and `jsonGetString_quoted` reads the
piece two behind it. As long as no value brings a quote, the pieces are the keys and the values.

Only the name can spoil that. A name that `jsonEncode` escapes comes back longer or cut, and the
name `publicKey` is found in place of the key. `parsePairRequest_toBytes_iff` says that these are
all such names.
-/

set_option autoImplicit false

namespace MobileUnlock.Pairing

open MobileUnlock.Lib MobileUnlock.Lib.Dart

/-! ### Texts cut at their quotes -/

/-- Pieces of a text, each with a quote behind it. -/
def quoted (pieces : List Bytes) : Bytes := pieces.flatMap (· ++ [quote])

theorem quoted_cons (piece : Bytes) (pieces : List Bytes) :
    quoted (piece :: pieces) = piece ++ quote :: quoted pieces := by
  rw [quoted, List.flatMap_cons, List.append_assoc]
  rfl

/-- A piece is read up to its quote. -/
theorem takeWhile_piece {piece : Bytes} (h : quote ∉ piece) (l : Bytes) :
    (piece ++ quote :: l).takeWhile (· ≠ quote) = piece := by
  have hall : ∀ c ∈ piece, (decide (c ≠ quote)) = true := by
    intro c hc
    rw [decide_eq_true_eq]
    rintro rfl
    exact h hc
  rw [List.takeWhile_append_of_pos hall, List.takeWhile_cons_of_neg (by simp), List.append_nil]

/-- The search jumps over what has no quote. -/
theorem afterFirst_skip {w piece : Bytes} (h : quote ∉ piece) (l : Bytes) :
    afterFirst (quote :: w) (piece ++ l) = afterFirst (quote :: w) l := by
  induction piece with
  | nil => rfl
  | cons c piece ih =>
    have hc : quote ≠ c := by
      rintro rfl
      exact h List.mem_cons_self
    rw [List.cons_append, afterFirst, if_neg, ih fun hmem => h (List.mem_cons_of_mem c hmem)]
    rw [List.isPrefixOf_cons_cons, Bool.and_eq_true, beq_iff_eq]
    exact fun hhead => hc hhead.1

/-- At a quote, the key is found if and only if the piece behind the quote is the key. -/
theorem afterFirst_quote {key piece : Bytes} (hkey : quote ∉ key) (hpiece : quote ∉ piece)
    (l : Bytes) :
    afterFirst (quote :: (key ++ [quote])) (quote :: (piece ++ quote :: l)) =
      if key = piece then some l
      else afterFirst (quote :: (key ++ [quote])) (piece ++ quote :: l) := by
  have hiff : (quote :: (key ++ [quote])).isPrefixOf (quote :: (piece ++ quote :: l)) = true ↔
      key = piece := by
    rw [List.isPrefixOf_iff_prefix]
    constructor
    · rintro ⟨tail, htail⟩
      rw [List.cons_append, List.append_assoc, List.singleton_append, List.cons.injEq] at htail
      have htake := congrArg (List.takeWhile (· ≠ quote)) htail.2
      rwa [takeWhile_piece hkey, takeWhile_piece hpiece] at htake
    · rintro rfl
      exact ⟨l, by rw [List.cons_append, List.append_assoc]; rfl⟩
  rw [afterFirst]
  by_cases heq : key = piece
  · have hsplit : quote :: (piece ++ quote :: l) = quote :: (piece ++ [quote]) ++ l := by
      rw [List.cons_append, List.append_assoc, List.singleton_append]
    rw [if_pos (hiff.mpr heq), if_pos heq, heq, hsplit, List.drop_left]
  · rw [if_neg (mt hiff.mp heq), if_neg heq]

/-- The first occurrence of a key: behind the pieces that are not the key. -/
theorem afterFirst_quoted {key first : Bytes} {pieces : List Bytes} (hkey : quote ∉ key)
    (hfirst : quote ∉ first) (hpieces : ∀ piece ∈ pieces, quote ∉ piece) (hne : key ∉ pieces)
    (post : Bytes) :
    afterFirst (quote :: (key ++ [quote])) (quoted (first :: pieces) ++ (key ++ quote :: post)) =
      some post := by
  induction pieces generalizing first with
  | nil =>
    rw [quoted_cons, List.append_assoc, afterFirst_skip hfirst]
    exact (afterFirst_quote hkey hkey post).trans (if_pos rfl)
  | cons piece pieces ih =>
    have hpiece := hpieces piece List.mem_cons_self
    have hneq : key ≠ piece := fun heq => hne (heq ▸ List.mem_cons_self)
    have hrest := ih hpiece (fun p hp => hpieces p (List.mem_cons_of_mem piece hp))
      fun hmem => hne (List.mem_cons_of_mem piece hmem)
    rw [quoted_cons, List.append_assoc] at hrest
    rw [quoted_cons, quoted_cons, List.append_assoc, afterFirst_skip hfirst, List.cons_append,
      List.append_assoc]
    exact (afterFirst_quote hkey hpiece _).trans ((if_neg hneq).trans hrest)

/-- The value of a key: the piece two behind it. -/
theorem jsonGetString_quoted (key first : Bytes) (pieces : List Bytes) (hkey : quote ∉ key)
    (hfirst : quote ∉ first) (hpieces : ∀ piece ∈ pieces, quote ∉ piece) (hne : key ∉ pieces)
    (val : Bytes) (post : List Bytes) (rest : Bytes) :
    jsonGetString (quoted (first :: pieces ++ key :: [58] :: val :: post) ++ rest) key =
      (val ++ quote :: (quoted post ++ rest)).takeWhile (· ≠ quote) := by
  have hsearch : [quote] ++ key ++ [quote] = quote :: (key ++ [quote]) := rfl
  have hsplit : quoted (first :: pieces ++ key :: [58] :: val :: post) ++ rest =
      quoted (first :: pieces) ++
        (key ++ quote :: 58 :: quote :: (val ++ quote :: (quoted post ++ rest))) := by
    simp only [quoted, List.flatMap_append, List.flatMap_cons, List.append_assoc, List.cons_append,
      List.nil_append]
  rw [jsonGetString, hsearch, hsplit, afterFirst_quoted hkey hfirst hpieces hne]
  rfl

/-! ### The payload of the phone -/

/-- The text of a request, cut at the quotes that its values do not bring. -/
def requestText (id name key : Bytes) : Bytes :=
  quoted [[123], ascii "deviceId", [58], id, [44], ascii "deviceName", [58], name, [44],
    ascii "publicKey", [58], key] ++ [125]

theorem toBytes_pairRequest (payload : Android.PairRequestPayload) :
    payload.toBytes = requestText (contentBytes payload.deviceId) (contentBytes payload.deviceName)
      (contentBytes payload.publicKey) := by
  have hid : contentBytes (literal "deviceId") = ascii "deviceId" := by decide
  have hname : contentBytes (literal "deviceName") = ascii "deviceName" := by decide
  have hkey : contentBytes (literal "publicKey") = ascii "publicKey" := by decide
  have hend : utf8Encode [125] = [125] := by decide
  have hquote : quote = 34 := rfl
  simp only [Android.PairRequestPayload.toBytes, jsonEncodeMap, jsonEncodeMembers,
    List.append_assoc, List.cons_append, List.nil_append]
  rw [utf8Encode_cons_ascii (by decide), utf8Encode_jsonEncodeString_append,
    utf8Encode_cons_ascii (by decide), utf8Encode_jsonEncodeString_append,
    utf8Encode_cons_ascii (by decide), utf8Encode_jsonEncodeString_append,
    utf8Encode_cons_ascii (by decide), utf8Encode_jsonEncodeString_append,
    utf8Encode_cons_ascii (by decide), utf8Encode_jsonEncodeString_append,
    utf8Encode_cons_ascii (by decide), utf8Encode_jsonEncodeString_append, hid, hname, hkey, hend]
  simp only [requestText, quoted, List.flatMap_cons, List.flatMap_nil, List.append_assoc,
    List.cons_append, List.nil_append, hquote]
  rfl

/-- A hexadecimal digit or a dash is written as it is. -/
theorem isPrintable_of_digit {c : UInt8} (h : (hexValue c).isSome ∨ c = dash) :
    (32 ≤ c.toNat ∧ c.toNat < 0x80) ∧ c ≠ 34 ∧ c ≠ 92 := by
  have hall : ∀ c : UInt8, (hexValue c).isSome ∨ c = dash →
      (32 ≤ c.toNat ∧ c.toNat < 0x80) ∧ c ≠ 34 ∧ c ≠ 92 :=
    forall_byte (by decide +kernel)
  exact hall c h

/-- A text of digits is converted whole. -/
theorem hexToBytes_digits {hex : Bytes} (heven : hex.length % 2 = 0)
    (hhex : ∀ c ∈ hex, (hexValue c).isSome) : hexToBytes hex = hexPairs hex := by
  rw [hexToBytes, if_neg (not_not.mpr heven)]
  induction hex, heven using even_induction with
  | nil => rfl
  | pair a b rest _ ih =>
    obtain ⟨x, hx⟩ := Option.isSome_iff_exists.mp (hhex a (by simp))
    obtain ⟨y, hy⟩ := Option.isSome_iff_exists.mp (hhex b (by simp))
    have hrest := ih fun c hc => hhex c (by simp [hc])
    rw [hexToBytesLoop, sscanf02x_digits hx hy, hexPairs, pairByte, hx, hy]
    exact congrArg _ hrest

/-! ### What the PC finds -/

section Found
variable {id name key : Bytes}

theorem jsonGetString_deviceId (hid : quote ∉ id) :
    jsonGetString (requestText id name key) (ascii "deviceId") = id := by
  have hfound := jsonGetString_quoted (ascii "deviceId") [123] [] (by decide) (by decide)
    (by decide) (by decide) id
    [[44], ascii "deviceName", [58], name, [44], ascii "publicKey", [58], key] [125]
  exact hfound.trans (takeWhile_piece hid _)

/-- The name is found, and it ends at its first quote. -/
theorem jsonGetString_deviceName (hid : quote ∉ id) (hlength : id.length = 36) :
    ∃ rest, jsonGetString (requestText id name key) (ascii "deviceName") =
      (name ++ quote :: rest).takeWhile (· ≠ quote) := by
  have hne : ascii "deviceName" ≠ id := by
    rintro rfl
    cases hlength
  refine ⟨_, jsonGetString_quoted (ascii "deviceName") [123] [ascii "deviceId", [58], id, [44]]
    (by decide) (by decide) ?_ ?_ name [[44], ascii "publicKey", [58], key] [125]⟩
  · simp only [List.forall_mem_cons]
    exact ⟨by decide, by decide, hid, by decide, List.forall_mem_nil _⟩
  · simp only [List.mem_cons, List.not_mem_nil, or_false, not_or]
    exact ⟨by decide, by decide, hne, by decide⟩

/-- Behind a name without quotes the key is found, unless the name itself is taken for it. -/
theorem jsonGetString_publicKey (hid : quote ∉ id) (hlength : id.length = 36)
    (hname : quote ∉ name) (hkey : quote ∉ key) :
    jsonGetString (requestText id name key) (ascii "publicKey") =
      if name = ascii "publicKey" then [] else key := by
  have hne : ascii "publicKey" ≠ id := by
    rintro rfl
    cases hlength
  have hpieces : ∀ piece ∈ [ascii "deviceId", [58], id, [44], ascii "deviceName", [58]],
      quote ∉ piece := by
    simp only [List.forall_mem_cons]
    exact ⟨by decide, by decide, hid, by decide, by decide, by decide, List.forall_mem_nil _⟩
  have hmem : ascii "publicKey" ∉ [ascii "deviceId", [58], id, [44], ascii "deviceName", [58]] := by
    simp only [List.mem_cons, List.not_mem_nil, or_false, not_or]
    exact ⟨by decide, by decide, hne, by decide, by decide, by decide⟩
  split
  next heq =>
    -- a comma follows the name, where the search expects a value
    have hsplit : requestText id name key =
        quoted ([123] :: [ascii "deviceId", [58], id, [44], ascii "deviceName", [58]]) ++
          (ascii "publicKey" ++
            quote :: (quoted [[44], ascii "publicKey", [58], key] ++ [125])) := by
      rw [heq]
      simp only [requestText, quoted, List.flatMap_cons, List.flatMap_nil, List.append_assoc,
        List.cons_append, List.nil_append]
    have hfound := afterFirst_quoted (show quote ∉ ascii "publicKey" by decide)
      (show quote ∉ [123] by decide) hpieces hmem
      (quoted [[44], ascii "publicKey", [58], key] ++ [125])
    have hsearch : [quote] ++ ascii "publicKey" ++ [quote] =
        quote :: (ascii "publicKey" ++ [quote]) := rfl
    rw [jsonGetString, hsearch, hsplit, hfound]
    rfl
  next hneq =>
    have hfound := jsonGetString_quoted (ascii "publicKey") [123]
      ([ascii "deviceId", [58], id, [44], ascii "deviceName", [58]] ++ [name, [44]]) (by decide)
      (by decide) ?_ ?_ key [] [125]
    · exact hfound.trans (takeWhile_piece hkey _)
    · rw [List.forall_mem_append]
      refine ⟨hpieces, ?_⟩
      simp only [List.forall_mem_cons]
      exact ⟨hname, by decide, List.forall_mem_nil _⟩
    · rw [List.mem_append, not_or]
      refine ⟨hmem, ?_⟩
      simp only [List.mem_cons, List.not_mem_nil, or_false, not_or]
      exact ⟨Ne.symm hneq, by decide⟩

end Found

/-! ### The round trip -/

/-- A text of digits and dashes is written as it is, and it has no quote. -/
theorem contentBytes_digits {s : Bytes} (h : ∀ c ∈ s, (hexValue c).isSome ∨ c = dash) :
    contentBytes (Android.units s) = s ∧ quote ∉ s :=
  ⟨contentBytes_ascii fun c hc => isPrintable_of_digit (h c hc),
    fun hmem => (isPrintable_of_digit (h quote hmem)).2.1 rfl⟩

theorem WellFormedUuid.mem {s : Bytes} (h : WellFormedUuid s) :
    ∀ c ∈ s, (hexValue c).isSome ∨ c = dash := by
  intro c hc
  obtain ⟨i, hi, rfl⟩ := List.mem_iff_getElem.mp hc
  have hchar := h.2 i (List.mem_range.mpr (h.1 ▸ hi))
  rw [List.getD_eq_getElem _ _ hi] at hchar
  split at hchar
  · exact .inr hchar
  · exact .inl hchar

/-- A name that comes back needed no escape. -/
theorem isPlain_of_takeWhile_eq {name : DartString} {rest : Bytes}
    (h : (contentBytes name ++ quote :: rest).takeWhile (· ≠ quote) = utf8Encode name) :
    ∀ r ∈ runes name, r.IsPlain := by
  have hquote : .unit 34 ∉ runes name := by
    intro hmem
    have hin : quote ∈ utf8Encode name := List.mem_flatMap.mpr ⟨_, hmem, by decide⟩
    rw [← h] at hin
    have hne := List.mem_takeWhile_imp hin
    simp at hne
  rw [takeWhile_piece (quote_notMem_contentBytes hquote)] at h
  by_contra hplain
  have hlt := length_utf8Encode_lt hplain
  rw [h] at hlt
  exact Nat.lt_irrefl _ hlt

/-- A plain name has the bytes of the key only if it is the key. -/
theorem utf8Encode_eq_publicKey_iff (name : DartString) :
    utf8Encode name = ascii "publicKey" ↔ name = literal "publicKey" := by
  constructor
  · intro h
    have hascii : ∀ b ∈ utf8Encode name, b.toNat < 0x80 := by
      rw [h]
      decide +kernel
    rw [eq_map_of_utf8Encode_ascii hascii, h]
    rfl
  · rintro rfl
    decide

/-- **The PC reads the request as the phone means it if and only if the name needs no JSON escape
and is not taken for the key of the public key.** -/
theorem parsePairRequest_toBytes_iff {id key : Bytes} {name : DartString} (hid : WellFormedUuid id)
    (hname : name ≠ []) (heven : key.length % 2 = 0) (hhex : ∀ c ∈ key, (hexValue c).isSome) :
    parsePairRequest (Android.PairRequestPayload.toBytes
        ⟨Android.units id, name, Android.units key⟩) =
      ⟨id, utf8Encode name, hexPairs key, true⟩ ↔
    (∀ r ∈ runes name, r.IsPlain) ∧ (name ≠ literal "publicKey" ∨ key = []) := by
  obtain ⟨hidText, hidQuote⟩ := contentBytes_digits hid.mem
  obtain ⟨hkeyText, hkeyQuote⟩ := contentBytes_digits fun c hc => .inl (hhex c hc)
  have htext := toBytes_pairRequest ⟨Android.units id, name, Android.units key⟩
  rw [hidText, hkeyText] at htext
  have hne : requestText id (contentBytes name) key ≠ [] := List.cons_ne_nil _ _
  obtain ⟨rest, hfound⟩ := jsonGetString_deviceName hidQuote hid.1
  have hpublicKey (hplain : ∀ r ∈ runes name, r.IsPlain) :
      jsonGetString (requestText id (contentBytes name) key) (ascii "publicKey") =
        if name = literal "publicKey" then [] else key := by
    have hquote : .unit 34 ∉ runes name := fun hmem => (hplain _ hmem).2.1 rfl
    rw [jsonGetString_publicKey hidQuote hid.1 (quote_notMem_contentBytes hquote) hkeyQuote,
      contentBytes_of_isPlain hplain]
    exact if_congr (utf8Encode_eq_publicKey_iff name) rfl rfl
  rw [htext, parsePairRequest, if_neg hne, jsonGetString_deviceId hidQuote, hfound]
  constructor
  · intro h
    rw [PairRequestPayload.mk.injEq] at h
    obtain ⟨_, hdeviceName, hbytes, _⟩ := h
    have hplain := isPlain_of_takeWhile_eq hdeviceName
    refine ⟨hplain, ?_⟩
    by_cases hkeyName : name = literal "publicKey"
    · right
      rw [hpublicKey hplain, if_pos hkeyName] at hbytes
      have hlength := congrArg List.length hbytes
      rw [length_hexPairs] at hlength
      exact List.length_eq_zero_iff.mp (by simp [hexToBytes, hexToBytesLoop] at hlength; omega)
    · exact .inl hkeyName
  · rintro ⟨hplain, hkeyName⟩
    have hquote : .unit 34 ∉ runes name := fun hmem => (hplain _ hmem).2.1 rfl
    have hvalid : (id.length == 36 && !(utf8Encode name).isEmpty) = true := by
      rw [hid.1, Bool.and_eq_true, Bool.not_eq_true', List.isEmpty_eq_false_iff]
      exact ⟨rfl, utf8Encode_ne_nil hname⟩
    have hbytes : hexToBytes (if name = literal "publicKey" then [] else key) = hexPairs key := by
      rcases hkeyName with hkeyName | rfl
      · rw [if_neg hkeyName, hexToBytes_digits heven hhex]
      · rw [ite_self]
        rfl
    rw [takeWhile_piece (quote_notMem_contentBytes hquote), hpublicKey hplain,
      contentBytes_of_isPlain hplain]
    exact (PairRequestPayload.mk.injEq ..).mpr ⟨rfl, rfl, hbytes, hvalid⟩

/-- The key is read back from a request with a plain name. -/
theorem parsePairRequest_toBytes_pixel :
    parsePairRequest (Android.PairRequestPayload.toBytes
        ⟨Android.units (ascii "00112233-4455-6677-8899-aabbccddeeff"), literal "Pixel",
          Android.units (ascii "30a1")⟩) =
      ⟨ascii "00112233-4455-6677-8899-aabbccddeeff", utf8Encode (literal "Pixel"),
        hexPairs (ascii "30a1"), true⟩ :=
  (parsePairRequest_toBytes_iff (by decide) (by decide) (by decide) (by decide +kernel)).mpr
    ⟨by decide, .inl (by decide)⟩

/-- A quoted name is cut at the backslash that `jsonEncode` puts in front of its quote. -/
theorem parsePairRequest_quoted_name :
    ¬ ∀ (id key : Bytes) (name : DartString), WellFormedUuid id → name ≠ [] →
      key.length % 2 = 0 → (∀ c ∈ key, (hexValue c).isSome) →
      parsePairRequest (Android.PairRequestPayload.toBytes
          ⟨Android.units id, name, Android.units key⟩) =
        ⟨id, utf8Encode name, hexPairs key, true⟩ := by
  intro h
  have hquoted := h (ascii "00112233-4455-6677-8899-aabbccddeeff") (ascii "30a1")
    (literal "Tom \"Z\"") (by decide) (by decide) (by decide) (by decide +kernel)
  revert hquoted
  decide +kernel

end MobileUnlock.Pairing
