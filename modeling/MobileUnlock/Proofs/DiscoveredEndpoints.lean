import MobileUnlock.Android.MdnsDiscovery

/-!
# `MobileUnlock.Proofs.DiscoveredEndpoints`: the endpoints of a search

`step_discovered` says what a step does to `_discovered`. It empties the map when a search starts,
and adds the endpoint of a datagram to it. `accepted` collects these endpoints from the history of
a run, and the map is always the one that they make (`discovered_eq_ofList`).

`currentEndpoints_run` states that in terms of addresses and ports. The key of the map is their
text, with a colon between them. An address may have colons of its own, and a port has none
(`key_injective`).
-/

set_option autoImplicit false

namespace MobileUnlock.Android

open MobileUnlock.Lib MobileUnlock.Lib.Dart

/-! ### Keys -/

/-- The address and the port. -/
def DiscoveredPcEndpoint.socketAddress (endpoint : DiscoveredPcEndpoint) : DartString × Int :=
  (endpoint.ipAddress, endpoint.port)

/-- The key of an address and a port. -/
def socketKey (address : DartString × Int) : DartString :=
  address.1 ++ literal ":" ++ literal (toString address.2)

/-- What stands in front of the last colon, and behind it. -/
theorem append_colon_injective {a b s t : DartString} (hs : 0x3A ∉ s) (ht : 0x3A ∉ t)
    (h : a ++ 0x3A :: s = b ++ 0x3A :: t) : a = b ∧ s = t := by
  -- Read from the end, what stands in front of the first colon.
  have htail : ∀ a s : DartString, 0x3A ∉ s →
      (a ++ 0x3A :: s).reverse.takeWhile (· ≠ 0x3A) = s.reverse := by
    intro a s hs
    rw [List.reverse_append, List.reverse_cons, List.append_assoc, List.takeWhile_append_of_pos]
    · simp
    · intro c hc
      have hne : c ≠ 0x3A := fun heq => hs (heq ▸ List.mem_reverse.mp hc)
      simpa using hne
  have hst : s = t := by
    rw [← List.reverse_inj, ← htail a s hs, h, htail b t ht]
  subst hst
  exact ⟨List.append_cancel_right h, rfl⟩

theorem key_injective : Function.Injective socketKey := by
  rintro ⟨ip, port⟩ ⟨ip', port'⟩ h
  have hcolon : ∀ n : Int, 0x3A ∉ literal (toString n) := by
    intro n hmem
    rcases mem_literal_toString hmem with heq | hdigit
    · exact absurd heq (by decide)
    · exact absurd hdigit (by decide)
  have hshape : ∀ address : DartString × Int,
      socketKey address = address.1 ++ 0x3A :: literal (toString address.2) := by
    intro address
    rw [socketKey, List.append_assoc]
    rfl
  rw [hshape, hshape] at h
  obtain ⟨hip, hport⟩ := append_colon_injective (hcolon port) (hcolon port') h
  rw [Prod.mk.injEq]
  exact ⟨hip, literal_toString_injective hport⟩

/-! ### Steps -/

/-- A step that starts a search. -/
def startsSearch (s : MdnsDiscovery) : DiscoveryEvent → Bool
  | .startDiscovery => !s.isSearching
  | _ => false

/-- The endpoint that a step takes up. -/
def acceptedEndpoint (s : MdnsDiscovery) : DiscoveryEvent → Option DiscoveredPcEndpoint
  | .datagram bytes sourceIp now =>
    if s.socketOpen then readDatagram bytes sourceIp now else none
  | _ => none

/-- The map after a step. -/
theorem step_discovered (s : MdnsDiscovery) (event : DiscoveryEvent) :
    (discoveryMachine.step s event).1.discovered =
      (acceptedEndpoint s event).elim (if startsSearch s event then {} else s.discovered)
        fun endpoint => s.discovered.set endpoint.key endpoint := by
  cases event with
  | startDiscovery =>
    by_cases h : s.isSearching = true
    · simp [discoveryMachine, MdnsDiscovery.startDiscovery, acceptedEndpoint, startsSearch, h]
    · simp [discoveryMachine, MdnsDiscovery.startDiscovery, acceptedEndpoint, startsSearch, h]
  | socketBound bound =>
    simp only [discoveryMachine, acceptedEndpoint, startsSearch]
    split
    · rfl
    · cases bound with
      | true => rfl
      | false => rfl
  | datagram bytes sourceIp now =>
    simp only [discoveryMachine, acceptedEndpoint, startsSearch]
    split
    · simp only [MdnsDiscovery.handleDatagram]
      cases readDatagram bytes sourceIp now with
      | none => rfl
      | some endpoint => rfl
    · rfl
  | repeatTimer =>
    simp only [discoveryMachine, acceptedEndpoint, startsSearch]
    split
    · rfl
    · rfl
  | stopTimer =>
    simp only [discoveryMachine, acceptedEndpoint, startsSearch]
    split
    · rfl
    · rfl
  | stopDiscovery => rfl

/-- What goes out at a step is a query. -/
theorem step_query {s : MdnsDiscovery} {event : DiscoveryEvent} {query : Bytes}
    (h : query ∈ (discoveryMachine.step s event).2.query) : queryBytes = .ok query := by
  have hbroadcast : ∀ s : MdnsDiscovery, query ∈ s.broadcastQuery → queryBytes = .ok query := by
    intro s h
    rw [MdnsDiscovery.broadcastQuery] at h
    split at h
    · cases hbytes : queryBytes with
      | error e => rw [hbytes] at h; cases h
      | ok bytes => rw [hbytes] at h; cases h; rfl
    · cases h
  cases event with
  | startDiscovery =>
    simp only [discoveryMachine, MdnsDiscovery.startDiscovery] at h
    split at h
    · cases h
    · cases h
  | socketBound bound =>
    simp only [discoveryMachine] at h
    split at h
    · cases h
    · cases bound with
      | true => exact hbroadcast { s with socketOpen := true } h
      | false => cases h
  | datagram bytes sourceIp now =>
    simp only [discoveryMachine] at h
    split at h
    · simp only [MdnsDiscovery.handleDatagram] at h
      split at h
      · cases h
      · cases h
    · cases h
  | repeatTimer =>
    simp only [discoveryMachine] at h
    split at h
    · cases h
    · simp only at h
      split at h
      · exact hbroadcast _ h
      · cases h
  | stopTimer =>
    simp only [discoveryMachine] at h
    split at h
    · cases h
    · cases h
  | stopDiscovery => cases h

/-! ### Runs -/

/-- The endpoints that were taken up since the last search started, oldest first. -/
def accepted (history : List (Entry MdnsDiscovery DiscoveryEvent DiscoveryOutput)) :
    List DiscoveredPcEndpoint :=
  history.foldl
    (fun endpoints x =>
      (if startsSearch x.before x.event then [] else endpoints) ++
        (acceptedEndpoint x.before x.event).toList) []

/-- The map is the one that the endpoints taken up make. -/
theorem discovered_eq_ofList (events : List DiscoveryEvent) :
    (discoveryMachine.run {} events).discovered =
      LinkedHashMap.ofList ((accepted (discoveryMachine.trace {} events)).map
        fun endpoint => (endpoint.key, endpoint)) := by
  refine discoveryMachine.history_invariant
    (P := fun history s => s.discovered = LinkedHashMap.ofList ((accepted history).map
      fun endpoint => (endpoint.key, endpoint)))
    rfl ?_ (discoveryMachine.along_true {} events)
  intro history s event hmap _
  rw [step_discovered, accepted, List.foldl_append]
  show _ = LinkedHashMap.ofList (((if startsSearch s event then [] else accepted history) ++
    (acceptedEndpoint s event).toList).map _)
  cases hendpoint : acceptedEndpoint s event with
  | none =>
    rw [Option.elim_none, Option.toList_none, List.append_nil]
    split
    · rfl
    · exact hmap
  | some endpoint =>
    have hstarts : startsSearch s event = false := by
      cases event with
      | datagram bytes sourceIp now => rfl
      | _ => cases hendpoint
    rw [Option.elim_some, hstarts, if_neg Bool.false_ne_true, Option.toList_some, List.map_append,
      List.map_singleton, LinkedHashMap.ofList_append_singleton, hmap]

/-- The list of a search has every address and port that announced itself since it started, in the
order in which they came first, each with the last announcement. -/
theorem currentEndpoints_run (events : List DiscoveryEvent) :
    let taken := accepted (discoveryMachine.trace {} events)
    let listed := (discoveryMachine.run {} events).currentEndpoints
    listed.map (·.socketAddress) = (taken.map (·.socketAddress)).eraseDups ∧
    ∀ endpoint, endpoint ∈ listed ↔ ∃ pre post, taken = pre ++ endpoint :: post ∧
      ∀ later ∈ post, later.socketAddress ≠ endpoint.socketAddress := by
  intro taken listed
  have hmap := discovered_eq_ofList events
  -- an entry of the map has the key of its endpoint
  have hentry : ∀ entry ∈ (discoveryMachine.run {} events).discovered.entries,
      entry.1 = entry.2.key := by
    intro entry hentry
    rw [hmap, LinkedHashMap.mem_entries_ofList] at hentry
    obtain ⟨pre, post, heq, -⟩ := hentry
    have hmem : entry ∈ taken.map fun endpoint => (endpoint.key, endpoint) := by
      rw [heq]
      simp
    obtain ⟨endpoint, -, rfl⟩ := List.mem_map.mp hmem
    rfl
  have hkeys : listed.map (·.key) = (discoveryMachine.run {} events).discovered.keys := by
    show (List.map _ (List.map _ _)) = List.map _ _
    rw [List.map_map]
    exact List.map_congr_left fun entry h => (hentry entry h).symm
  constructor
  · -- the keys are those of the addresses and ports, one for one
    have hlisted : (listed.map (·.socketAddress)).map socketKey =
        ((taken.map (·.socketAddress)).eraseDups).map socketKey := by
      rw [← eraseDups_map key_injective, List.map_map, List.map_map]
      show listed.map (·.key) = (taken.map (·.key)).eraseDups
      rw [hkeys, hmap, LinkedHashMap.keys_ofList, List.map_map]
      rfl
    exact List.map_injective_iff.mpr key_injective hlisted
  · intro endpoint
    have hmem : endpoint ∈ listed ↔
        (endpoint.key, endpoint) ∈ (discoveryMachine.run {} events).discovered.entries := by
      constructor
      · intro h
        obtain ⟨entry, hmem, rfl⟩ := List.mem_map.mp h
        rw [← hentry entry hmem]
        exact hmem
      · exact fun h => List.mem_map_of_mem h
    rw [hmem, hmap, LinkedHashMap.mem_entries_ofList]
    constructor
    · rintro ⟨pre, post, heq, hlater⟩
      obtain ⟨pre', rest, htaken, rfl, hrest⟩ := List.map_eq_append_iff.mp heq
      obtain ⟨first, post', rfl, hfirst, rfl⟩ := List.map_eq_cons_iff.mp hrest
      obtain rfl : first = endpoint := congrArg Prod.snd hfirst
      refine ⟨pre', post', htaken, ?_⟩
      intro later hmem hsame
      refine hlater _ (List.mem_map_of_mem hmem) ?_
      exact congrArg socketKey hsame
    · rintro ⟨pre, post, htaken, hlater⟩
      refine ⟨pre.map fun endpoint => (endpoint.key, endpoint),
        post.map fun endpoint => (endpoint.key, endpoint), ?_, ?_⟩
      · exact (congrArg (List.map _) htaken).trans List.map_append
      · rw [List.forall_mem_map]
        intro later hmem hsame
        exact hlater later hmem (key_injective hsame)

end MobileUnlock.Android
