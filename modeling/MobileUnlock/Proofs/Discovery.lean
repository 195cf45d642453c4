import MobileUnlock.Network.MdnsResponder
import MobileUnlock.Proofs.PairRequest

/-!
# `MobileUnlock.Proofs.Discovery`: announcements come back as they were sent

The parser searches the whole text for `"key":`, and the names are not escaped. The text is cut at
its quotes, as in `MobileUnlock.Proofs.PairRequest`. A name without a quote is one piece, and the
piece behind it begins with a comma or a brace, never with a colon. So a name that spells a key is
passed over (`afterFirst_keyed`), and the first hit is the key itself.
-/

set_option autoImplicit false

namespace MobileUnlock.Network

open MobileUnlock.Lib MobileUnlock.Protocol
open MobileUnlock.Pairing (afterFirst afterFirst_skip isSpace quote quoted quoted_cons
  takeWhile_piece)

/-! ### Numbers -/

/-- The digit of a value below ten. -/
theorem digitChar_spec : ∀ n < 10, isDigit (n.digitChar.toNat.toUInt8) = true ∧
    isSpace (n.digitChar.toNat.toUInt8) = false ∧
    n.digitChar.toNat.toUInt8 ≠ 45 ∧ n.digitChar.toNat.toUInt8 ≠ 43 ∧
    endsValue (n.digitChar.toNat.toUInt8) = false ∧ n.digitChar.toNat.toUInt8 ≠ quote ∧
    n.digitChar.toNat.toUInt8.toNat - 48 = n := by
  decide

theorem numberText_of_lt {n : Nat} (h : n < 10) :
    numberText n = [n.digitChar.toNat.toUInt8] := by
  show n.repr.toList.map _ = _
  rw [Nat.toList_repr, Nat.toDigits_of_lt_base h]
  rfl

theorem numberText_of_le {n : Nat} (h : 10 ≤ n) :
    numberText n = numberText (n / 10) ++ [(n % 10).digitChar.toNat.toUInt8] := by
  show n.repr.toList.map _ = (n / 10).repr.toList.map _ ++ _
  rw [Nat.toList_repr, Nat.toList_repr, Nat.toDigits_of_base_le (by decide) h, List.map_append]
  rfl

theorem numberText_ne_nil (n : Nat) : numberText n ≠ [] := by
  show n.repr.toList.map _ ≠ []
  rw [Nat.toList_repr]
  exact List.map_eq_nil_iff.not.mpr Nat.toDigits_ne_nil

/-- Every character of a number is the digit of a value below ten. -/
theorem exists_digit_of_mem (n : Nat) :
    ∀ c ∈ numberText n, ∃ d < 10, c = d.digitChar.toNat.toUInt8 := by
  induction n using Nat.strongRecOn with
  | ind n ih =>
    intro c hc
    by_cases hsmall : n < 10
    · rw [numberText_of_lt hsmall, List.mem_singleton] at hc
      exact ⟨n, hsmall, hc⟩
    · rw [numberText_of_le (by omega), List.mem_append, List.mem_singleton] at hc
      rcases hc with hc | hc
      · exact ih (n / 10) (by omega) c hc
      · exact ⟨n % 10, by omega, hc⟩

theorem digitsValue_numberText (n : Nat) : digitsValue (numberText n) = n := by
  induction n using Nat.strongRecOn with
  | ind n ih =>
    by_cases hsmall : n < 10
    · rw [numberText_of_lt hsmall]
      show 10 * 0 + _ = n
      rw [(digitChar_spec n hsmall).2.2.2.2.2.2]
      omega
    · rw [numberText_of_le (by omega), digitsValue, List.foldl_append]
      show 10 * digitsValue (numberText (n / 10)) + _ = n
      rw [ih (n / 10) (by omega), (digitChar_spec (n % 10) (by omega)).2.2.2.2.2.2]
      omega

/-- A number is read back. -/
theorem stoi_numberText {n : Nat} (hn : n < 2 ^ 31) : stoi (numberText n) = some (n : Int) := by
  obtain ⟨c, cs, hcs⟩ := List.exists_cons_of_ne_nil (numberText_ne_nil n)
  obtain ⟨d, hd, hc⟩ := exists_digit_of_mem n c (by rw [hcs]; exact List.mem_cons_self)
  obtain ⟨-, hspace, hminus, hplus, -⟩ := digitChar_spec d hd
  rw [← hc] at hspace hminus hplus
  have hdrop : (numberText n).dropWhile isSpace = numberText n := by
    rw [hcs, List.dropWhile_cons_of_neg (by rw [hspace]; exact Bool.false_ne_true)]
  have hhead : ∀ k, c ≠ k → ¬ (numberText n).head? = some k := by
    intro k hk
    rw [hcs]
    exact fun h => hk (Option.some.inj h)
  have hdigits : (numberText n).takeWhile isDigit = numberText n := by
    rw [List.takeWhile_eq_self_iff]
    intro x hx
    obtain ⟨e, he, rfl⟩ := exists_digit_of_mem n x hx
    exact (digitChar_spec e he).1
  have hsign : ¬ ((numberText n).head? = some 45 ∨ (numberText n).head? = some 43) :=
    fun h => h.elim (hhead 45 hminus) (hhead 43 hplus)
  simp only [stoi, hdrop, if_neg hsign, hdigits, if_neg (numberText_ne_nil n),
    if_neg (hhead 45 hminus), digitsValue_numberText]
  exact if_pos ⟨by omega, by omega⟩

/-- A number ends in front of the comma. -/
theorem takeWhile_numberText (n : Nat) (rest : Bytes) :
    (numberText n ++ 44 :: rest).takeWhile (fun c => !endsValue c) = numberText n := by
  have hall : ∀ c ∈ numberText n, (!endsValue c) = true := by
    intro c hc
    obtain ⟨d, hd, rfl⟩ := exists_digit_of_mem n c hc
    rw [(digitChar_spec d hd).2.2.2.2.1]
    rfl
  rw [List.takeWhile_append_of_pos hall, List.takeWhile_cons_of_neg (by decide), List.append_nil]

theorem quote_not_mem_numberText (n : Nat) : quote ∉ numberText n := by
  intro hmem
  obtain ⟨d, hd, hquote⟩ := exists_digit_of_mem n quote hmem
  exact (digitChar_spec d hd).2.2.2.2.2.1 hquote.symm

/-! ### The search for a key -/

/-- A piece that the search for a key with its colon passes over. -/
def PassedOver (key piece next : Bytes) : Prop := piece = key → next.head? ≠ some 58

/-- At a quote, the key with its colon is found only if the piece behind the quote is the key and
the piece after it begins with the colon. -/
theorem not_isPrefixOf_keyed {key piece next w : Bytes} (hkey : quote ∉ key)
    (hpiece : quote ∉ piece) (hnext : PassedOver key piece next) (l : Bytes) :
    ¬ (quote :: (key ++ quote :: 58 :: w)).isPrefixOf
      (quote :: (piece ++ quote :: (next ++ quote :: l))) = true := by
  rw [List.isPrefixOf_iff_prefix]
  rintro ⟨tail, htail⟩
  rw [List.cons_append, List.append_assoc, List.cons.injEq, List.cons_append] at htail
  have hsame : key = piece := by
    have htake := congrArg (List.takeWhile (· ≠ quote)) htail.2
    rwa [takeWhile_piece hkey, takeWhile_piece hpiece] at htake
  have hrest := htail.2
  rw [hsame, List.append_cancel_left_eq, List.cons.injEq] at hrest
  refine hnext hsame.symm ?_
  cases next with
  | nil => cases hrest.2
  | cons c next =>
    have hc : 58 = c := (List.cons.inj hrest.2).1
    rw [← hc]
    rfl

/-- A text is found at the front. -/
theorem afterFirst_append (c : UInt8) (search post : Bytes) :
    afterFirst (c :: search) (c :: search ++ post) = some post := by
  have hprefix : (c :: search).isPrefixOf (c :: (search ++ post)) = true :=
    List.isPrefixOf_iff_prefix.mpr (List.prefix_append (c :: search) post)
  rw [List.cons_append, afterFirst, if_pos hprefix, ← List.cons_append, List.drop_left]

/-- The first occurrence of a key with its colon: behind the pieces that are passed over. -/
theorem afterFirst_keyed {key first : Bytes} {pieces : List Bytes} (hkey : quote ∉ key)
    (hfirst : quote ∉ first) (hpieces : ∀ piece ∈ pieces, quote ∉ piece)
    (hchain : (pieces ++ [key]).IsChain (PassedOver key)) (w post : Bytes) :
    afterFirst (quote :: (key ++ quote :: 58 :: w))
      (quoted (first :: pieces) ++ (key ++ quote :: 58 :: (w ++ post))) = some post := by
  induction pieces generalizing first with
  | nil =>
    have hsplit : quote :: (key ++ quote :: 58 :: (w ++ post)) =
        quote :: (key ++ quote :: 58 :: w) ++ post := by
      rw [List.cons_append, List.append_assoc]
      rfl
    rw [quoted_cons, List.append_assoc, afterFirst_skip hfirst]
    show afterFirst _ (quote :: (key ++ quote :: 58 :: (w ++ post))) = some post
    rw [hsplit, afterFirst_append]
  | cons piece pieces ih =>
    have hpiece := hpieces piece List.mem_cons_self
    have hrest := ih hpiece (fun p hp => hpieces p (List.mem_cons_of_mem piece hp)) hchain.of_cons
    rw [quoted_cons, List.append_assoc, List.cons_append] at hrest
    rw [quoted_cons, quoted_cons, List.append_assoc, afterFirst_skip hfirst, List.cons_append,
      List.append_assoc, List.cons_append, afterFirst, if_neg, hrest]
    cases pieces with
    | nil =>
      refine not_isPrefixOf_keyed hkey hpiece ?_ (58 :: (w ++ post))
      exact (List.isChain_cons_cons.mp hchain).1
    | cons next pieces =>
      rw [quoted_cons, List.append_assoc, List.cons_append]
      exact not_isPrefixOf_keyed hkey hpiece (List.isChain_cons_cons.mp hchain).1 _

/-! ### The payload of an announcement -/

/-- The text of an announcement, cut at its quotes. -/
def announcementPieces (ann : DiscoveryAnnouncement) : List Bytes :=
  [[123], ascii "host", [58], ann.hostName, [44], ascii "port",
    58 :: (numberText ann.port.toNat ++ [44]), ascii "state",
    58 :: (numberText ann.state.toNat ++ [44]), ascii "service", [58], ann.serviceType]

theorem buildDiscoveryResponsePayload_eq (ann : DiscoveryAnnouncement) :
    buildDiscoveryResponsePayload ann = quoted (announcementPieces ann) ++ [125] := by
  have hhost : ascii "\x7b\"host\":\"" = [123, quote] ++ ascii "host" ++ [quote, 58, quote] := by
    decide
  have hport : ascii "\"port\":" = quote :: ascii "port" ++ [quote, 58] := by decide
  have hstate : ascii "\"state\":" = quote :: ascii "state" ++ [quote, 58] := by decide
  have hservice : ascii "\"service\":\"" = quote :: ascii "service" ++ [quote, 58, quote] := by
    decide
  have hcomma : ascii "," = [44] := by decide
  have hquote : ascii "\"," = [quote, 44] := by decide
  have hend : ascii "\"\x7d" = [quote, 125] := by decide
  rw [buildDiscoveryResponsePayload, hhost, hport, hstate, hservice, hcomma, hquote, hend]
  simp only [announcementPieces, quoted, List.flatMap_cons, List.flatMap_nil, List.append_assoc,
    List.cons_append, List.nil_append]

/-- No piece has a quote. -/
theorem quote_not_mem_pieces {ann : DiscoveryAnnouncement} (hhost : quote ∉ ann.hostName)
    (hservice : quote ∉ ann.serviceType) :
    ∀ piece ∈ announcementPieces ann, quote ∉ piece := by
  have hnumber : ∀ n, quote ∉ 58 :: (numberText n ++ [44]) := by
    intro n hmem
    rw [List.mem_cons, List.mem_append] at hmem
    rcases hmem with hcolon | hmem | hcomma
    · cases hcolon
    · exact quote_not_mem_numberText n hmem
    · cases List.mem_singleton.mp hcomma
  simp only [announcementPieces, List.forall_mem_cons]
  exact ⟨by decide, by decide, by decide, hhost, by decide, by decide, hnumber _, by decide,
    hnumber _, by decide, by decide, hservice, List.forall_mem_nil _⟩

section Found
variable {ann : DiscoveryAnnouncement} {key first : Bytes} {rest : List Bytes}

/-- The text value of a key: the piece two behind it. -/
theorem extractString_piece (pieces : List Bytes) {val : Bytes}
    (hsplit : announcementPieces ann = first :: pieces ++ key :: [58] :: val :: rest)
    (hquote : ∀ piece ∈ announcementPieces ann, quote ∉ piece)
    (hchain : (pieces ++ [key]).IsChain (PassedOver key)) :
    extractString (buildDiscoveryResponsePayload ann) key = val := by
  rw [hsplit] at hquote
  simp only [List.forall_mem_append, List.forall_mem_cons] at hquote
  obtain ⟨⟨hfirst, hpieces⟩, hkey, -, hval, -⟩ := hquote
  have hpattern : ascii "\"" ++ key ++ ascii "\":\"" = quote :: (key ++ quote :: 58 :: [quote]) :=
    rfl
  have htext : quoted (first :: pieces ++ key :: [58] :: val :: rest) ++ [125] =
      quoted (first :: pieces) ++
        (key ++ quote :: 58 :: ([quote] ++ (val ++ quote :: (quoted rest ++ [125])))) := by
    simp only [quoted, List.flatMap_append, List.flatMap_cons, List.append_assoc, List.cons_append,
      List.nil_append]
  rw [extractString, hpattern, buildDiscoveryResponsePayload_eq, hsplit, htext,
    afterFirst_keyed hkey hfirst hpieces hchain]
  show (if quote ∈ val ++ quote :: (quoted rest ++ [125]) then _ else _) = _
  rw [if_pos (List.mem_append_right _ List.mem_cons_self), takeWhile_piece hval]

/-- The number of a key: the piece behind it, between the colon and the comma. -/
theorem extractInt_piece (pieces : List Bytes) {n : Nat} (hn : n < 2 ^ 31)
    (hsplit : announcementPieces ann =
      first :: pieces ++ key :: (58 :: (numberText n ++ [44])) :: rest)
    (hquote : ∀ piece ∈ announcementPieces ann, quote ∉ piece)
    (hchain : (pieces ++ [key]).IsChain (PassedOver key)) :
    extractInt (buildDiscoveryResponsePayload ann) key = n := by
  rw [hsplit] at hquote
  simp only [List.forall_mem_append, List.forall_mem_cons] at hquote
  obtain ⟨⟨hfirst, hpieces⟩, hkey, -, -⟩ := hquote
  have hpattern : ascii "\"" ++ key ++ ascii "\":" = quote :: (key ++ quote :: 58 :: []) := rfl
  have htext : quoted (first :: pieces ++ key :: (58 :: (numberText n ++ [44])) :: rest) ++ [125] =
      quoted (first :: pieces) ++ (key ++ quote :: 58 ::
        ([] ++ (numberText n ++ 44 :: quote :: (quoted rest ++ [125])))) := by
    simp only [quoted, List.flatMap_append, List.flatMap_cons, List.append_assoc, List.cons_append,
      List.nil_append]
  have hcomma : (numberText n ++ 44 :: quote :: (quoted rest ++ [125])).any endsValue = true :=
    List.any_eq_true.mpr ⟨44, List.mem_append_right _ List.mem_cons_self, rfl⟩
  rw [extractInt, hpattern, buildDiscoveryResponsePayload_eq, hsplit, htext,
    afterFirst_keyed hkey hfirst hpieces hchain]
  show (if (numberText n ++ 44 :: quote :: (quoted rest ++ [125])).any endsValue = true
    then _ else _) = _
  rw [if_pos hcomma, takeWhile_numberText, stoi_numberText hn]
  rfl

end Found

/-! ### The round trip -/

theorem passedOver_of_ne {key piece next : Bytes} (h : piece ≠ key) : PassedOver key piece next :=
  fun heq => absurd heq h

/-- A number piece is no key. -/
theorem passedOver_number {key next : Bytes} (hkey : key.head? ≠ some 58) (n : Nat) :
    PassedOver key (58 :: (numberText n ++ [44])) next := by
  rintro rfl
  exact absurd rfl hkey

/-- A search for a later key passes over the host. A name that spells the key is followed by a
comma. -/
theorem isChain_host {key next host : Bytes} {pieces : List Bytes} (hkey : ascii "host" ≠ key)
    (hhead : key.head? ≠ some 58 ∧ key.head? ≠ some 44)
    (hrest : (next :: pieces).IsChain (PassedOver key)) :
    (ascii "host" :: [58] :: host :: [44] :: next :: pieces).IsChain (PassedOver key) := by
  have hcolon : [58] ≠ key := by
    rintro rfl
    exact hhead.1 rfl
  have hcomma : [44] ≠ key := by
    rintro rfl
    exact hhead.2 rfl
  have hhost : PassedOver key host [44] := fun _ => by decide
  exact .cons_cons (passedOver_of_ne hkey) (.cons_cons (passedOver_of_ne hcolon)
    (.cons_cons hhost (.cons_cons (passedOver_of_ne hcomma) hrest)))

/-- What the four searches find. -/
theorem extract_eq {ann : DiscoveryAnnouncement} (hstate : ann.state.toNat < 2 ^ 31)
    (hquote : ∀ piece ∈ announcementPieces ann, quote ∉ piece) :
    extractString (buildDiscoveryResponsePayload ann) (ascii "host") = ann.hostName ∧
    extractInt (buildDiscoveryResponsePayload ann) (ascii "port") = ann.port.toNat ∧
    extractInt (buildDiscoveryResponsePayload ann) (ascii "state") = ann.state.toNat ∧
    extractString (buildDiscoveryResponsePayload ann) (ascii "service") = ann.serviceType := by
  have hport : ann.port.toNat < 2 ^ 31 := by
    have := ann.port.toNat_lt
    omega
  refine ⟨extractString_piece [] rfl hquote (.singleton _),
    extractInt_piece [ascii "host", [58], ann.hostName, [44]] hport rfl hquote ?_,
    extractInt_piece [ascii "host", [58], ann.hostName, [44], ascii "port",
      58 :: (numberText ann.port.toNat ++ [44])] hstate rfl hquote ?_,
    extractString_piece [ascii "host", [58], ann.hostName, [44], ascii "port",
      58 :: (numberText ann.port.toNat ++ [44]), ascii "state",
      58 :: (numberText ann.state.toNat ++ [44])] rfl hquote ?_⟩
  · exact isChain_host (by decide) (by decide) (.singleton _)
  · exact isChain_host (by decide) (by decide) (.cons_cons (passedOver_of_ne (by decide))
      (.cons_cons (passedOver_number (by decide) _) (.singleton _)))
  · exact isChain_host (by decide) (by decide) (.cons_cons (passedOver_of_ne (by decide))
      (.cons_cons (passedOver_number (by decide) _) (.cons_cons (passedOver_of_ne (by decide))
        (.cons_cons (passedOver_number (by decide) _) (.singleton _)))))

theorem pcState_code_lt (state : PcState) : state.code.toNat < 2 ^ 31 := by
  cases state <;> decide

/-- Every announcement with non-empty names without a double quote, a port other than zero and
any state of the PC comes back from its payload, as long as the payload has at most 4096 bytes. -/
theorem parseDiscoveryResponsePayload_build (ann outAnn : DiscoveryAnnouncement)
    (hhost : ann.hostName ≠ []) (hservice : ann.serviceType ≠ [])
    (hhostQuote : quote ∉ ann.hostName) (hserviceQuote : quote ∉ ann.serviceType)
    (hport : 1 ≤ ann.port.toNat) (hstate : ∃ state : PcState, ann.state = state.code)
    (hsize : (buildDiscoveryResponsePayload ann).length ≤ 4096) :
    parseDiscoveryResponsePayload (buildDiscoveryResponsePayload ann) outAnn = (true, ann) := by
  have hlength : ¬ ((buildDiscoveryResponsePayload ann).length = 0 ∨
      (buildDiscoveryResponsePayload ann).length > MAX_PAYLOAD_SIZE) := by
    rintro (hzero | hbig)
    · rw [List.length_eq_zero_iff] at hzero
      cases hzero
    · exact Nat.not_lt.mpr hsize hbig
  have hstateLt : ann.state.toNat < 2 ^ 31 := by
    obtain ⟨state, hstate⟩ := hstate
    rw [hstate]
    exact pcState_code_lt state
  obtain ⟨hfoundHost, hfoundPort, hfoundState, hfoundService⟩ :=
    extract_eq hstateLt (quote_not_mem_pieces hhostQuote hserviceQuote)
  have hbounds : ¬ (ann.hostName = [] ∨ (ann.port.toNat : Int) ≤ 0 ∨
      (ann.port.toNat : Int) > 65535 ∨ ann.serviceType = [] ∨ (ann.state.toNat : Int) < 0) := by
    have hportLt := ann.port.toNat_lt
    rintro (h | h | h | h | h)
    · exact hhost h
    · omega
    · omega
    · exact hservice h
    · omega
  rw [parseDiscoveryResponsePayload, if_neg hlength]
  simp only [hfoundHost, hfoundPort, hfoundState, hfoundService, if_neg hbounds, Int.toNat_natCast,
    UInt16.ofNat_toNat, UInt32.ofNat_toNat]

/-- An announcement whose host is named like a key and whose service spells another one. -/
def keyNamedAnnouncement : DiscoveryAnnouncement where
  hostName := ascii "port"
  port := 8443
  state := PcState.LOCKED.code
  serviceType := ascii "state:7,host:\x7b\x7d"

theorem parseDiscoveryResponsePayload_build_keyNamed :
    parseDiscoveryResponsePayload (buildDiscoveryResponsePayload keyNamedAnnouncement) {} =
      (true, keyNamedAnnouncement) :=
  parseDiscoveryResponsePayload_build keyNamedAnnouncement {} (by decide) (by decide) (by decide)
    (by decide) (by decide) ⟨.LOCKED, rfl⟩ (by decide)

end MobileUnlock.Network
