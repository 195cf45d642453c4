import MobileUnlock.Network.DiscoveryNetwork
import MobileUnlock.Proofs.DiscoveredEndpoints
import MobileUnlock.Proofs.Discovery
import MobileUnlock.Proofs.PhoneChallenge
import MobileUnlock.Proofs.PhoneFraming

/-!
# `MobileUnlock.Proofs.DiscoveryExchange`: a phone reads the announcements of the PCs

The listener answers the query of a phone (`listenerLoop_query`) with an announcement. The JSON of
it holds the computer name as `GetComputerNameA` gives it, in the code page of the system, and the
phone reads the payload as UTF-8. `readDatagram_responseFrame` says what that comes to: the phone
reads every field as it was written when the name is UTF-8, and passes the announcement over when
it is not. So a search finds a PC exactly when it can read its name (`search_currentEndpoints`).

`currentEndpoints_announced` is about every run of the network, where datagrams are lost, repeated
and late. The PCs answer no datagram of one another, and what a phone lists is a PC in a state that
it has had. The state need not be the one that it has now.
-/

set_option autoImplicit false

namespace MobileUnlock.Network

open MobileUnlock.Lib MobileUnlock.Lib.Dart MobileUnlock.Protocol MobileUnlock.Android

/-- What `GetComputerNameA` gives: at most `MAX_COMPUTERNAME_LENGTH` bytes, none of them a control
character, a quote or a backslash. -/
structure IsComputerName (name : Bytes) : Prop where
  length_le : name.length ≤ 15
  plain : ∀ b ∈ name, 32 ≤ b.toNat ∧ b ≠ 34 ∧ b ≠ 92

/-- The endpoint that an announcement describes, with a name for the bytes of the host name. -/
def announcedEndpoint (r : MdnsResponder) (hostName sourceIp : DartString) (now : Int) :
    DiscoveredPcEndpoint where
  hostName := hostName
  ipAddress := sourceIp
  port := r.tcpPort.toNat
  state := r.state.code.toNat
  serviceType := literal "_mobileunlock._tcp.local."
  lastSeen := now

/-! ### The payload -/

/-- The text in front of the name, and the text behind it. -/
def payloadFront : Bytes := ascii "\x7b\"host\":\""

def payloadBack (r : MdnsResponder) : Bytes :=
  ascii "\",\"port\":" ++ (numberText r.tcpPort.toNat ++ (ascii ",\"state\":" ++
    (numberText r.state.code.toNat ++ ascii ",\"service\":\"_mobileunlock._tcp.local.\"\x7d")))

theorem buildDiscoveryResponsePayload_announcement (r : MdnsResponder) :
    buildDiscoveryResponsePayload r.announcement =
      payloadFront ++ (r.hostName ++ payloadBack r) := by
  have h1 : ascii "\",\"port\":" = ascii "\"," ++ ascii "\"port\":" := rfl
  have h2 : ascii ",\"state\":" = ascii "," ++ ascii "\"state\":" := rfl
  have h3 : ascii ",\"service\":\"_mobileunlock._tcp.local.\"\x7d" =
      ascii "," ++ (ascii "\"service\":\"" ++ (MDNS_SERVICE_TYPE ++ ascii "\"\x7d")) := rfl
  simp only [buildDiscoveryResponsePayload, payloadFront, payloadBack, MdnsResponder.announcement,
    h1, h2, h3, List.append_assoc]

/-- Every byte around the name is ASCII. -/
theorem payload_ascii (r : MdnsResponder) :
    (∀ b ∈ payloadFront, b < 0x80) ∧ ∀ b ∈ payloadBack r, b < 0x80 := by
  have htext : ∀ text : Bytes, text.all (· < 0x80) = true → ∀ b ∈ text, b < 0x80 := by
    intro text h b hb
    simpa using List.all_eq_true.mp h b hb
  have hnumber : ∀ n : Nat, ∀ b ∈ numberText n, b < 0x80 := by
    intro n b hb
    have hdigit := (isDecimal_toString n).digits b.toUInt16 (List.mem_map_of_mem hb)
    simp only [Dart.isDigit, Bool.and_eq_true, decide_eq_true_eq, UInt16.le_iff_toNat_le,
      UInt8.toNat_toUInt16, UInt16.reduceToNat] at hdigit
    rw [UInt8.lt_iff_toNat_lt]
    show b.toNat < 128
    omega
  refine ⟨htext _ (by decide), ?_⟩
  intro b hb
  simp only [payloadBack, List.mem_append] at hb
  rcases hb with hb | hb | hb | hb | hb
  · exact htext _ (by decide) b hb
  · exact hnumber _ b hb
  · exact htext _ (by decide) b hb
  · exact hnumber _ b hb
  · exact htext _ (by decide) b hb

/-- The phone reads the text of the payload when it can read the name. -/
theorem utf8Decode_payload (r : MdnsResponder) :
    utf8Decode (buildDiscoveryResponsePayload r.announcement) = (do
      let name ← decodeUnits r.hostName
      return units payloadFront ++ (name ++ units (payloadBack r))) := by
  obtain ⟨hfront, hback⟩ := payload_ascii r
  have hcontinues : ∀ c ∈ (payloadBack r).head?, isContinuation c = false := by
    intro c hc
    have hhead : (payloadBack r).head? = some 34 := rfl
    rw [hhead, Option.mem_some] at hc
    rw [← hc]
    rfl
  have hmark : (payloadFront ++ (r.hostName ++ payloadBack r)).take 3 ≠ [0xEF, 0xBB, 0xBF] := by
    rw [List.take_append_of_le_length (by decide)]
    decide
  rw [buildDiscoveryResponsePayload_announcement, utf8Decode, if_neg hmark,
    decodeUnits_ascii_append hfront, decodeUnits_append _ hcontinues, decodeUnits_ascii hback]
  cases decodeUnits r.hostName with
  | error e => rfl
  | ok name => rfl

/-- The members of an announcement. -/
def announcementMembers (r : MdnsResponder) (name : DartString) : List (DartString × Json) :=
  [(literal "host", .string name),
   (literal "port", .int r.tcpPort.toNat),
   (literal "state", .int r.state.code.toNat),
   (literal "service", .string (literal "_mobileunlock._tcp.local."))]

/-- The text of an announcement, cut where the parser cuts it. -/
theorem payloadText_eq (r : MdnsResponder) (name : DartString) :
    units payloadFront ++ (name ++ units (payloadBack r)) =
      0x7B :: 0x22 :: (literal "host" ++ 0x22 :: 0x3A :: 0x22 :: (name ++ 0x22 :: 0x2C :: 0x22 ::
      (literal "port" ++ 0x22 :: 0x3A :: (literal (toString r.tcpPort.toNat) ++ 0x2C :: 0x22 ::
      (literal "state" ++ 0x22 :: 0x3A :: (literal (toString r.state.code.toNat) ++ 0x2C :: 0x22 ::
      (literal "service" ++ 0x22 :: 0x3A :: 0x22 ::
      (literal "_mobileunlock._tcp.local." ++ 0x22 :: [0x7D])))))))) := by
  have h1 : units payloadFront = 0x7B :: 0x22 :: (literal "host" ++ [0x22, 0x3A, 0x22]) := by
    decide
  have h2 : units (ascii "\",\"port\":") = 0x22 :: 0x2C :: 0x22 :: (literal "port" ++
      [0x22, 0x3A]) := by decide
  have h3 : units (ascii ",\"state\":") = 0x2C :: 0x22 :: (literal "state" ++ [0x22, 0x3A]) := by
    decide
  have h4 : units (ascii ",\"service\":\"_mobileunlock._tcp.local.\"\x7d") = 0x2C :: 0x22 ::
      (literal "service" ++ 0x22 :: 0x3A :: 0x22 :: (literal "_mobileunlock._tcp.local." ++
      [0x22, 0x7D])) := by decide
  have hnumber : ∀ n : Nat, units (numberText n) = literal (toString n) := fun _ => rfl
  simp only [payloadBack, units_append, h1, h2, h3, h4, hnumber, List.append_assoc,
    List.cons_append, List.nil_append]

/-- The parser finds the four members. -/
theorem jsonDecode_payloadText (r : MdnsResponder) {name : DartString}
    (hname : ∀ c ∈ name, isPlain c = true) :
    jsonDecode (units payloadFront ++ (name ++ units (payloadBack r)))
      = .ok (.object (announcementMembers r name)) := by
  have hkeys : ∀ key ∈ ["host", "port", "state", "service", "_mobileunlock._tcp.local."],
      ∀ c ∈ literal key, isPlain c = true := by
    intro key hkey
    simp only [List.mem_cons, List.not_mem_nil, or_false] at hkey
    rcases hkey with rfl | rfl | rfl | rfl | rfl
    · exact List.all_eq_true.mp (by decide)
    · exact List.all_eq_true.mp (by decide)
    · exact List.all_eq_true.mp (by decide)
    · exact List.all_eq_true.mp (by decide)
    · exact List.all_eq_true.mp (by decide)
  have hport : r.tcpPort.toNat < 2 ^ 63 := lt_trans r.tcpPort.toNat_lt (by decide)
  have hstate : r.state.code.toNat < 2 ^ 63 := lt_trans r.state.code.toNat_lt (by decide)
  -- the text has more than six characters, so the fuel lasts for the four members
  obtain ⟨fuel, hfuel⟩ : ∃ fuel,
      2 * (units payloadFront ++ (name ++ units (payloadBack r))).length + 2 =
        fuel + 1 + 1 + 1 + 1 + 1 + 1 := by
    refine ⟨2 * (units payloadFront ++ (name ++ units (payloadBack r))).length - 4, ?_⟩
    have hlen : 2 ≤ (units payloadFront ++ (name ++ units (payloadBack r))).length := by
      rw [payloadText_eq]
      simp only [List.length_cons]
      omega
    omega
  -- the members from the last one to the first
  have m4 := @parseMembers_last (fuel + 1) _ _ _ _ _
    (parseKey_plain (hkeys "service" (by simp)) _)
    (parseValue_string (hkeys "_mobileunlock._tcp.local." (by simp)) fuel [0x7D])
  have m3 := parseMembers_cons
    (parseKey_plain (hkeys "state" (by simp)) _)
    ((isDecimal_toString _).parseValue hstate (by decide) (fuel + 1) _) m4
  have m2 := parseMembers_cons
    (parseKey_plain (hkeys "port" (by simp)) _)
    ((isDecimal_toString _).parseValue hport (by decide) (fuel + 1 + 1) _) m3
  have m1 := parseMembers_cons
    (parseKey_plain (hkeys "host" (by simp)) _)
    (parseValue_string hname (fuel + 1 + 1 + 1) _) m2
  unfold jsonDecode
  rw [hfuel, payloadText_eq, parseValue_object m1]
  show (if skipSpace [] = [] then Except.ok (Json.object (announcementMembers r name))
    else .error .FormatException) = _
  exact if_pos rfl

/-- The characters of a computer name stand for themselves in JSON. -/
theorem IsComputerName.isPlain_of_mem {hostName : Bytes} (h : IsComputerName hostName)
    {name : DartString} (hname : decodeUnits hostName = .ok name) :
    ∀ c ∈ name, isPlain c = true := by
  intro c hc
  have hne : ∀ d : UInt16, c.toNat ≠ d.toNat → c ≠ d := fun d hd hcd => hd (congrArg _ hcd)
  have hplain : 32 ≤ c.toNat ∧ c.toNat ≠ 34 ∧ c.toNat ≠ 92 := by
    rcases mem_decodeUnits hname hc with hhigh | ⟨b, hb, rfl⟩
    · omega
    · obtain ⟨hlow, hquote, hbackslash⟩ := h.plain b hb
      rw [UInt8.toNat_toUInt16]
      exact ⟨hlow, fun heq => hquote (UInt8.toNat_inj.mp heq),
        fun heq => hbackslash (UInt8.toNat_inj.mp heq)⟩
  simp only [isPlain, Bool.and_eq_true, decide_eq_true_eq, bne_iff_ne, UInt16.le_iff_toNat_le]
  exact ⟨⟨hplain.1, hne 0x22 hplain.2.1⟩, hne 0x5C hplain.2.2⟩

/-- What the phone makes of the payload of an announcement. -/
theorem decodeEndpoint_announcement (r : MdnsResponder) (hname : IsComputerName r.hostName)
    (sourceIp : DartString) (now : Int) :
    (decodeEndpoint (buildDiscoveryResponsePayload r.announcement) sourceIp now).toOption =
      (decodeUnits r.hostName).toOption.map
        fun hostName => announcedEndpoint r hostName sourceIp now := by
  rw [decodeEndpoint, utf8Decode_payload]
  cases h : decodeUnits r.hostName with
  | error e => rfl
  | ok name =>
    have hjson := jsonDecode_payloadText r (hname.isPlain_of_mem h)
    have hhost : Json.index (announcementMembers r name) (literal "host") = .string name := rfl
    have hport : Json.index (announcementMembers r name) (literal "port")
        = .int r.tcpPort.toNat := rfl
    have hstate : Json.index (announcementMembers r name) (literal "state")
        = .int r.state.code.toNat := rfl
    have hservice : Json.index (announcementMembers r name) (literal "service")
        = .string (literal "_mobileunlock._tcp.local.") := rfl
    simp only [hjson, bind, Except.bind, pure, Except.pure, Json.asMap,
      DiscoveredPcEndpoint.fromJson, hhost, hport, hstate, hservice, Json.asNullableString,
      Json.asNullableInt, Except.toOption]
    rfl

/-! ### The datagram -/

theorem length_numberText_le {n k : Nat} (hk : 0 < k) (hn : n < 10 ^ k) :
    (numberText n).length ≤ k := by
  show ((toString n).toList.map _).length ≤ k
  rw [List.length_map, String.length_toList]
  exact (Nat.length_repr_le_iff hk).mpr hn

/-- The payload of a PC with a computer name is short, and it is not empty. -/
theorem length_payload (r : MdnsResponder) (hname : IsComputerName r.hostName) :
    0 < (buildDiscoveryResponsePayload r.announcement).length ∧
      (buildDiscoveryResponsePayload r.announcement).length ≤ 4096 := by
  have hfront : payloadFront.length = 9 := by decide
  have hport : (numberText r.tcpPort.toNat).length ≤ 5 :=
    length_numberText_le (by decide) (lt_trans r.tcpPort.toNat_lt (by decide))
  have hstate : (numberText r.state.code.toNat).length ≤ 10 :=
    length_numberText_le (by decide) (lt_trans r.state.code.toNat_lt (by decide))
  have hback : (payloadBack r).length ≤ 100 := by
    have h1 : (ascii "\",\"port\":").length = 9 := by decide
    have h2 : (ascii ",\"state\":").length = 9 := by decide
    have h3 : (ascii ",\"service\":\"_mobileunlock._tcp.local.\"\x7d").length = 39 := by decide
    simp only [payloadBack, List.length_append, h1, h2, h3]
    omega
  have hlen := hname.length_le
  rw [buildDiscoveryResponsePayload_announcement]
  simp only [List.length_append, hfront]
  omega

/-- The header of an answer. -/
def responseHeader (r : MdnsResponder) : FrameHeader where
  messageType := MessageType.DISCOVERY_RESPONSE.code
  messageID := 1
  payloadLength := UInt32.ofNat (buildDiscoveryResponsePayload r.announcement).length
  sequenceNumber := 1

theorem responseFrame_eq (r : MdnsResponder) :
    r.responseFrame =
      serializeFrameHeader (responseHeader r) ++ buildDiscoveryResponsePayload r.announcement := rfl

/-- The phone reads the announcement in an answer, if the name in it is UTF-8. -/
theorem readDatagram_responseFrame (r : MdnsResponder) (hname : IsComputerName r.hostName)
    (sourceIp : DartString) (now : Int) :
    readDatagram r.responseFrame sourceIp now =
      (decodeUnits r.hostName).toOption.map
        fun hostName => announcedEndpoint r hostName sourceIp now := by
  obtain ⟨hpos, hle⟩ := length_payload r hname
  have hheader : (serializeFrameHeader (responseHeader r)).length = 24 :=
    length_serializeFrameHeader _
  have hlen : (UInt32.ofNat (buildDiscoveryResponsePayload r.announcement).length).toNat
      = (buildDiscoveryResponsePayload r.announcement).length := by
    rw [UInt32.toNat_ofNat']
    omega
  have hseq : (responseHeader r).sequenceNumber.toNat < 2 ^ 63 := by
    show (1 : UInt64).toNat < 2 ^ 63
    decide
  have hfields := receivedFrame_serialize hseq []
  -- a field of the header is read from the datagram as from the header alone
  have hfield : ∀ {w off : Nat}, off + w ≤ 24 → getUint w r.responseFrame off
      = getUint w (serializeFrameHeader (responseHeader r)) off := by
    intro w off h
    rw [responseFrame_eq, getUint, slice_append_left (by omega), getUint]
  have hmagic : getUint16 r.responseFrame 0 = 0x4D55 :=
    (hfield (by decide)).trans (congrArg ReceivedProtocolFrame.magic hfields)
  have hmajor : getUint8 r.responseFrame 2 = 1 :=
    (hfield (by decide)).trans (congrArg ReceivedProtocolFrame.majorVersion hfields)
  have htype : getUint16 r.responseFrame 4 = 0x0002 :=
    (hfield (by decide)).trans (congrArg ReceivedProtocolFrame.messageType hfields)
  have hlength : getUint32 r.responseFrame 12
      = (buildDiscoveryResponsePayload r.announcement).length :=
    (hfield (by decide)).trans
      ((congrArg ReceivedProtocolFrame.payloadLength hfields).trans (congrArg Nat.cast hlen))
  have htotal : r.responseFrame.length
      = 24 + (buildDiscoveryResponsePayload r.announcement).length := by
    rw [responseFrame_eq, List.length_append, hheader]
  have hslice : slice 24 (buildDiscoveryResponsePayload r.announcement).length r.responseFrame
      = buildDiscoveryResponsePayload r.announcement := by
    rw [responseFrame_eq, slice_append_right (by omega), hheader, Nat.sub_self, slice_all rfl]
  rw [readDatagram, if_neg (by omega)]
  simp only [hmagic, hmajor, htype, hlength, Int.toNat_natCast, hslice]
  rw [if_neg (by simp), if_neg (by omega), decodeEndpoint_announcement r hname]

/-! ### Queries and answers -/

/-- The listener answers the query of a phone. -/
theorem listenerLoop_query (r : MdnsResponder) :
    ∃ query, queryBytes = .ok query ∧ r.listenerLoop query = some r.responseFrame := by
  refine ⟨_, rfl, ?_⟩
  rw [MdnsResponder.listenerLoop, if_neg (by decide +kernel), if_pos (by decide +kernel)]

/-- The listener of a PC does not answer an answer. -/
theorem listenerLoop_responseFrame (r r' : MdnsResponder) :
    r'.listenerLoop r.responseFrame = none := by
  have hheader : (serializeFrameHeader (responseHeader r)).length = FRAME_HEADER_SIZE :=
    length_serializeFrameHeader _
  have hlong : FRAME_HEADER_SIZE ≤ r.responseFrame.length := by
    rw [responseFrame_eq, List.length_append, hheader]
    omega
  have hquery : isValidQuery r.responseFrame = false := by
    rw [isValidQuery, if_pos hlong]
    cases h : deserializeFrameHeader r.responseFrame with
    | none => rfl
    | some header =>
      have htype : header = responseHeader r := by
        rw [(deserializeFrameHeader_eq_some.mp h).2.2, responseFrame_eq, headerAt_serialize]
      rw [htype]
      rfl
  rw [MdnsResponder.listenerLoop, hquery]
  split <;> rfl

/-! ### A search -/

section
variable {ι : Type} (address : ι → DartString)

/-- A search that one PC answers lists that PC, and no other, when the phone can read its name. -/
theorem search_currentEndpoints [DecidableEq ι] (s : DiscoveryNetwork ι)
    (hidle : s.phone.isSearching = false) (pc : ι)
    (hname : IsComputerName (s.responders pc).hostName) (now : Int) :
    ((networkMachine address).run s
        [.startDiscovery, .socketBound true, .responderReceives pc s.sent.length,
          .phoneReceives (s.sent.length + 1) now]).phone.currentEndpoints =
      ((decodeUnits (s.responders pc).hostName).toOption.map fun hostName =>
        announcedEndpoint (s.responders pc) hostName (address pc) now).toList := by
  obtain ⟨query, hquery, hanswer⟩ := listenerLoop_query (s.responders pc)
  have hread := readDatagram_responseFrame (s.responders pc) hname (address pc) now
  -- the search is on, with its query as the last datagram
  let phone : MdnsDiscovery :=
    { s.phone with
        isSearching := true
        socketOpen := true
        discovered := {}
        repeatTimers := s.phone.repeatTimers + 1
        stopTimers := s.phone.stopTimers + 1 }
  have hsearch : (networkMachine address).run s [.startDiscovery, .socketBound true] =
      ⟨phone, s.responders, s.sent ++ [⟨none, query⟩]⟩ := by
    simp [networkMachine, stepPhone, discoveryMachine, MdnsDiscovery.startDiscovery, hidle,
      MdnsDiscovery.socketBound, MdnsDiscovery.broadcastQuery, hquery, Except.toOption, phone]
  have hanswered : ((networkMachine address).step
      ⟨phone, s.responders, s.sent ++ [⟨none, query⟩]⟩ (.responderReceives pc s.sent.length)).1 =
      ⟨phone, s.responders, s.sent ++ [⟨none, query⟩] ++
        [⟨some pc, (s.responders pc).responseFrame⟩]⟩ := by
    simp [networkMachine, hanswer]
  have hreceived : (s.sent ++ [⟨none, query⟩] ++
      [⟨some pc, (s.responders pc).responseFrame⟩])[s.sent.length + 1]? =
        some ⟨some pc, (s.responders pc).responseFrame⟩ := by
    simp
  show ((networkMachine address).run ((networkMachine address).run s
    [.startDiscovery, .socketBound true]) [_, _]).phone.currentEndpoints = _
  rw [hsearch, Machine.run_cons, hanswered, Machine.run_cons, Machine.run_nil]
  simp only [networkMachine, hreceived, stepPhone, discoveryMachine, phone, if_true,
    MdnsDiscovery.handleDatagram, hread]
  cases decodeUnits (s.responders pc).hostName with
  | error e => rfl
  | ok hostName => rfl

/-- A PC with an English name. -/
def officePc : MdnsResponder := ⟨ascii "OFFICE-PC", DEFAULT_WIFI_PORT, .ONLINE⟩

theorem isComputerName_officePc : IsComputerName officePc.hostName :=
  ⟨by decide +kernel, by decide +kernel⟩

theorem search_finds_officePc :
    ((networkMachine fun _ : Unit => literal "10.0.0.2").run { responders := fun _ => officePc }
        [.startDiscovery, .socketBound true, .responderReceives () 0,
          .phoneReceives 1 7]).phone.currentEndpoints =
      [announcedEndpoint officePc (literal "OFFICE-PC") (literal "10.0.0.2") 7] :=
  (search_currentEndpoints (fun _ => literal "10.0.0.2") { responders := fun _ => officePc } rfl ()
    isComputerName_officePc 7).trans (by decide +kernel)

/-! ### Runs of the network -/

/-- A state that the responder of a PC has had: the first one, or one that was set. -/
def HadState (responders : ι → MdnsResponder) (events : List (NetworkEvent ι)) (pc : ι)
    (state : PcState) : Prop :=
  state = (responders pc).state ∨ .setState pc state ∈ events

/-- The endpoint describes a PC as it was at some time of the run. -/
def IsAnnounced (responders : ι → MdnsResponder) (events : List (NetworkEvent ι)) (pc : ι)
    (endpoint : DiscoveredPcEndpoint) : Prop :=
  ∃ state hostName now, HadState responders events pc state ∧
    decodeUnits (responders pc).hostName = .ok hostName ∧
    endpoint = announcedEndpoint { responders pc with state := state } hostName (address pc) now

/-- A datagram on the network is a query of the phone, or the answer of a PC in a state that it
has had. -/
def IsHonest (responders : ι → MdnsResponder) (events : List (NetworkEvent ι))
    (datagram : SentDatagram ι) : Prop :=
  (datagram.sender = none ∧ queryBytes = .ok datagram.bytes) ∨
    ∃ pc state, datagram.sender = some pc ∧ HadState responders events pc state ∧
      datagram.bytes = { responders pc with state := state }.responseFrame

/-- What holds of the network after some events. -/
structure NetworkInvariant (responders : ι → MdnsResponder) (events : List (NetworkEvent ι))
    (s : DiscoveryNetwork ι) : Prop where
  responder : ∀ pc, ∃ state, HadState responders events pc state ∧
    s.responders pc = { responders pc with state := state }
  sent : ∀ datagram ∈ s.sent, IsHonest responders events datagram
  discovered : ∀ entry ∈ s.phone.discovered.entries,
    ∃ pc, IsAnnounced address responders events pc entry.2

variable {address} {responders : ι → MdnsResponder} {events : List (NetworkEvent ι)}
  {s : DiscoveryNetwork ι}

theorem HadState.append {pc : ι} {state : PcState} (h : HadState responders events pc state)
    (event : NetworkEvent ι) : HadState responders (events ++ [event]) pc state :=
  h.imp_right fun hmem => List.mem_append_left _ hmem

theorem NetworkInvariant.append (h : NetworkInvariant address responders events s)
    (event : NetworkEvent ι) : NetworkInvariant address responders (events ++ [event]) s where
  responder pc := by
    obtain ⟨state, hstate, heq⟩ := h.responder pc
    exact ⟨state, hstate.append event, heq⟩
  sent datagram hdatagram := by
    refine (h.sent datagram hdatagram).imp_right ?_
    rintro ⟨pc, state, hsender, hstate, hbytes⟩
    exact ⟨pc, state, hsender, hstate.append event, hbytes⟩
  discovered entry hentry := by
    obtain ⟨pc, state, hostName, now, hstate, hrest⟩ := h.discovered entry hentry
    exact ⟨pc, state, hostName, now, hstate.append event, hrest⟩

/-- A step of the phone keeps the invariant, if an endpoint that it takes up is one of a PC. -/
theorem NetworkInvariant.stepPhone (h : NetworkInvariant address responders events s)
    (event : DiscoveryEvent)
    (hendpoint : ∀ endpoint ∈ acceptedEndpoint s.phone event,
      ∃ pc, IsAnnounced address responders events pc endpoint) :
    NetworkInvariant address responders events (stepPhone s event) where
  responder := h.responder
  sent := by
    intro datagram hdatagram
    rcases List.mem_append.mp hdatagram with hold | hquery
    · exact h.sent datagram hold
    · obtain ⟨query, hmem, rfl⟩ := List.mem_map.mp hquery
      exact .inl ⟨rfl, step_query (s := s.phone) (Option.mem_toList.mp hmem)⟩
  discovered := by
    intro entry hentry
    have hstep : entry ∈ (discoveryMachine.step s.phone event).1.discovered.entries := hentry
    rw [step_discovered] at hstep
    cases haccepted : acceptedEndpoint s.phone event with
    | none =>
      rw [haccepted, Option.elim_none] at hstep
      split at hstep
      · cases hstep
      · exact h.discovered entry hstep
    | some endpoint =>
      rw [haccepted, Option.elim_some, LinkedHashMap.mem_entries_set] at hstep
      rcases hstep with rfl | ⟨hold, -⟩
      · exact hendpoint endpoint haccepted
      · exact h.discovered entry hold

/-- The phone takes up nothing but the announcement of a PC. -/
theorem NetworkInvariant.phoneReceives (hnames : ∀ pc, IsComputerName (responders pc).hostName)
    (h : NetworkInvariant address responders events s) {pc : ι} {bytes : Bytes}
    (hsent : ⟨some pc, bytes⟩ ∈ s.sent) (now : Int) :
    NetworkInvariant address responders events
      (Network.stepPhone s (.datagram bytes (address pc) now)) := by
  refine h.stepPhone _ ?_
  intro endpoint hendpoint
  obtain ⟨hsender, -⟩ | ⟨pc', state, hsender, hstate, hbytes⟩ := h.sent _ hsent
  · cases hsender
  · obtain rfl : pc = pc' := Option.some.inj hsender
    have hread := readDatagram_responseFrame { responders pc with state := state } (hnames pc)
      (address pc) now
    have hopen : acceptedEndpoint s.phone (.datagram bytes (address pc) now) =
        if s.phone.socketOpen then readDatagram bytes (address pc) now else none := rfl
    simp only at hbytes
    rw [hopen, hbytes, hread] at hendpoint
    split at hendpoint
    · obtain ⟨hostName, hname, rfl⟩ := Option.map_eq_some_iff.mp hendpoint
      refine ⟨pc, state, hostName, now, hstate, ?_, rfl⟩
      cases hdecode : decodeUnits (responders pc).hostName with
      | error e => rw [hdecode] at hname; cases hname
      | ok name => rw [hdecode] at hname; cases hname; rfl
    · cases hendpoint

/-- A PC answers queries only. -/
theorem NetworkInvariant.sender_of_answer (h : NetworkInvariant address responders events s)
    {datagram : SentDatagram ι} (hsent : datagram ∈ s.sent) {pc : ι} {answer : Bytes}
    (hanswer : (s.responders pc).listenerLoop datagram.bytes = some answer) :
    datagram.sender = none ∧ answer = (s.responders pc).responseFrame := by
  obtain ⟨hsender, hquery⟩ | ⟨pc', state, -, -, hbytes⟩ := h.sent datagram hsent
  · refine ⟨hsender, ?_⟩
    obtain ⟨query, hbytes, hloop⟩ := listenerLoop_query (s.responders pc)
    rw [Except.ok.inj (hquery.symm.trans hbytes), hloop] at hanswer
    exact (Option.some.inj hanswer).symm
  · rw [hbytes, listenerLoop_responseFrame] at hanswer
    cases hanswer

variable [DecidableEq ι]

theorem NetworkInvariant.step (hnames : ∀ pc, IsComputerName (responders pc).hostName)
    (h : NetworkInvariant address responders events s) (event : NetworkEvent ι) :
    NetworkInvariant address responders (events ++ [event])
        ((networkMachine address).step s event).1 ∧
      ∀ datagram ∈ ((networkMachine address).step s event).2, datagram.sender = none := by
  have hkeep := h.append event
  cases event with
  | startDiscovery => exact ⟨hkeep.stepPhone .startDiscovery (by rintro _ ⟨⟩), by rintro _ ⟨⟩⟩
  | socketBound bound =>
    exact ⟨hkeep.stepPhone (.socketBound bound) (by rintro _ ⟨⟩), by rintro _ ⟨⟩⟩
  | repeatTimer => exact ⟨hkeep.stepPhone .repeatTimer (by rintro _ ⟨⟩), by rintro _ ⟨⟩⟩
  | stopTimer => exact ⟨hkeep.stepPhone .stopTimer (by rintro _ ⟨⟩), by rintro _ ⟨⟩⟩
  | stopDiscovery => exact ⟨hkeep.stepPhone .stopDiscovery (by rintro _ ⟨⟩), by rintro _ ⟨⟩⟩
  | phoneReceives index now =>
    simp only [networkMachine]
    split
    next pc bytes hindex =>
      exact ⟨hkeep.phoneReceives hnames (List.mem_of_getElem? hindex) now, by rintro _ ⟨⟩⟩
    next => exact ⟨hkeep, by rintro _ ⟨⟩⟩
  | responderReceives pc index =>
    simp only [networkMachine]
    split
    next => exact ⟨hkeep, by rintro _ ⟨⟩⟩
    next datagram hindex =>
      split
      next => exact ⟨hkeep, by rintro _ ⟨⟩⟩
      next answer hanswer =>
        obtain ⟨hsender, rfl⟩ := h.sender_of_answer (List.mem_of_getElem? hindex) hanswer
        refine ⟨⟨hkeep.responder, ?_, hkeep.discovered⟩, ?_⟩
        · intro other hother
          rcases List.mem_append.mp hother with hold | hnew
          · exact hkeep.sent other hold
          · obtain rfl := List.mem_singleton.mp hnew
            obtain ⟨state, hstate, heq⟩ := hkeep.responder pc
            exact .inr ⟨pc, state, rfl, hstate, by rw [heq]⟩
        · rintro _ ⟨⟩
          exact hsender
  | setState pc state =>
    refine ⟨⟨?_, hkeep.sent, hkeep.discovered⟩, by rintro _ ⟨⟩⟩
    intro pc'
    by_cases hpc : pc' = pc
    · subst hpc
      obtain ⟨old, -, heq⟩ := hkeep.responder pc'
      refine ⟨state, .inr (by simp), ?_⟩
      simp only [networkMachine, Function.update_self, heq]
    · obtain ⟨old, hold, heq⟩ := hkeep.responder pc'
      refine ⟨old, hold, ?_⟩
      simp only [networkMachine, Function.update_of_ne hpc, heq]

/-- In every run, a PC answers queries of the phone and nothing else, and an endpoint that the
phone lists is a PC with the name, the address and the port of that PC, in a state that it has
had. -/
theorem currentEndpoints_announced (hnames : ∀ pc, IsComputerName (responders pc).hostName)
    (events : List (NetworkEvent ι)) :
    (∀ x ∈ (networkMachine address).trace { responders := responders } events,
      ∀ datagram ∈ x.output, datagram.sender = none) ∧
    ∀ endpoint ∈ ((networkMachine address).run
        { responders := responders } events).phone.currentEndpoints,
      ∃ pc, IsAnnounced address responders events pc endpoint := by
  -- The invariant over the events of the history, with what its steps have answered.
  have hrun := (networkMachine address).history_invariant
    (P := fun history s => NetworkInvariant address responders (history.map (·.event)) s ∧
      ∀ x ∈ history, ∀ datagram ∈ x.output, datagram.sender = none)
    (s := { responders := responders })
    ⟨⟨fun pc => ⟨_, .inl rfl, rfl⟩, by simp, by rintro _ ⟨⟩⟩, by simp⟩
    (fun history s event ⟨h, hanswered⟩ _ => by
      obtain ⟨hnext, hanswer⟩ := h.step hnames event
      rw [List.map_append, List.map_singleton, List.forall_mem_append, List.forall_mem_singleton]
      exact ⟨hnext, hanswered, hanswer⟩)
    ((networkMachine address).along_true _ events)
  rw [Machine.map_event_trace] at hrun
  refine ⟨hrun.2, ?_⟩
  intro endpoint hendpoint
  obtain ⟨entry, hentry, rfl⟩ := List.mem_map.mp hendpoint
  exact hrun.1.discovered entry hentry

/-- A datagram that arrives after the PC has gone to another state. -/
def officePcEvents : List (NetworkEvent Unit) :=
  [.startDiscovery, .socketBound true, .responderReceives () 0, .setState () .LOCKED,
    .phoneReceives 1 7]

theorem currentEndpoints_announced_officePc :
    (∀ x ∈ (networkMachine fun _ => literal "10.0.0.2").trace
        { responders := fun _ => officePc } officePcEvents,
      ∀ datagram ∈ x.output, datagram.sender = none) ∧
    ∀ endpoint ∈ ((networkMachine fun _ => literal "10.0.0.2").run
        { responders := fun _ => officePc } officePcEvents).phone.currentEndpoints,
      ∃ pc, IsAnnounced (fun _ => literal "10.0.0.2") (fun _ => officePc) officePcEvents pc
        endpoint :=
  currentEndpoints_announced (fun _ => isComputerName_officePc) officePcEvents

end

end MobileUnlock.Network
