import MobileUnlock.Ipc.SecureIPC

/-!
# `MobileUnlock.Proofs.PipeDelivery`: what becomes of a message in the pipe

`Flow` is the invariant of one instance of the pipe, over the messages that have gone in and out of
it so far (`MessageLog`). While the server serves the instance, what has gone in is what has come
out and what is still there. After that, what has come out is the front of what has gone in.

Every operation of the server and of the clients keeps it, so it holds in every interleaving
(`delivered_in_order`). A handle of a client leads to an instance that it has opened itself, so
all messages of an instance are those of one client.
-/

set_option autoImplicit false

namespace MobileUnlock.Ipc

open MobileUnlock.Lib

/-! ### Whole messages -/

/-- A message that fits into the buffer is read whole. -/
theorem readFile_of_le {size : Nat} {message : Bytes} (h : message.length ≤ size)
    (messages : List Bytes) :
    readFile size (message :: messages) = some (true, message, messages) :=
  if_pos h

theorem readFile_of_lt {size : Nat} {message : Bytes} (h : size < message.length)
    (messages : List Bytes) :
    readFile size (message :: messages) =
      some (false, message.take size, message.drop size :: messages) :=
  if_neg (by omega)

/-- What is in the pipe is at least its first message. -/
theorem length_le_bytesAvail (message : Bytes) (messages : List Bytes) :
    message.length ≤ bytesAvail (message :: messages) := by
  simp [bytesAvail]

section
variable {κ : Type}

/-! ### Instances -/

theorem instanceOf_eq_some {s : NamedPipes κ} {handle : Option Nat} {pipe : Nat}
    {i : PipeInstance κ} :
    s.instanceOf handle = some (pipe, i) ↔ handle = some pipe ∧ s.instances[pipe]? = some i := by
  cases handle with
  | none => simp [NamedPipes.instanceOf]
  | some p =>
    simp only [NamedPipes.instanceOf, Option.bind_some, Option.map_eq_some_iff, Prod.mk.injEq,
      Option.some.injEq]
    constructor
    · rintro ⟨i', hi, rfl, rfl⟩
      exact ⟨rfl, hi⟩
    · rintro ⟨rfl, hi⟩
      exact ⟨i, hi, rfl, rfl⟩

theorem modifyInstance_instances (s : NamedPipes κ) (p : Nat)
    (f : PipeInstance κ → PipeInstance κ) (pipe : Nat) :
    (s.modifyInstance p f).instances[pipe]? =
      if p = pipe then s.instances[pipe]?.map f else s.instances[pipe]? := by
  show (s.instances.modify p f)[pipe]? = _
  rw [List.getElem?_modify]
  split
  · rfl
  · simp

theorem length_modifyInstance (s : NamedPipes κ) (p : Nat)
    (f : PipeInstance κ → PipeInstance κ) :
    (s.modifyInstance p f).instances.length = s.instances.length :=
  List.length_modify ..

/-! ### The messages of an instance -/

/-- The messages of an instance so far, oldest first, and the clients that have used it. -/
structure MessageLog (κ : Type) where
  /-- Given to the handler of the server. -/
  handled : List Bytes := []
  /-- Written by a client. -/
  sent : List Bytes := []
  /-- Written by the service. -/
  written : List Bytes := []
  /-- Read by a client. -/
  received : List Bytes := []
  users : List κ := []

/-- The messages of an instance after one more step. -/
def MessageLog.add (log : MessageLog κ) (pipe : Nat) : PipeOutput κ → MessageLog κ
  | .nothing => log
  | .handled p m => if p = pipe then { log with handled := log.handled ++ [m] } else log
  | .written p m => if p = pipe then { log with written := log.written ++ [m] } else log
  | .sent k p m =>
    if p = pipe then { log with sent := log.sent ++ [m], users := log.users ++ [k] } else log
  | .received k p m =>
    if p = pipe then { log with received := log.received ++ [m], users := log.users ++ [k] }
    else log

/-- The messages of an instance in a history. -/
def logOf {σ ε : Type} (pipe : Nat) (history : List (Entry σ ε (PipeOutput κ))) : MessageLog κ :=
  history.foldl (fun log x => log.add pipe x.output) {}

/-- The worker may still read from the instance. -/
def IsServed (s : NamedPipes κ) (pipe : Nat) : Prop :=
  s.hPipe = some pipe ∧ (s.worker = .listening ∨ (s.worker = .serving ∧ s.isConnected = true))

/-- What holds of an instance of the pipe. -/
structure Flow (pipe : Nat) (log : MessageLog κ) (s : NamedPipes κ) : Prop where
  fresh : s.instances[pipe]? = none → log = {}
  connected : s.isConnected = true → s.isRunning = true ∧ s.worker = .serving
  handle : ∀ k, s.hClient k = some pipe → ∃ i, s.instances[pipe]? = some i ∧ i.client = some k
  user : ∀ k ∈ log.users, ∃ i, s.instances[pipe]? = some i ∧ i.client = some k
  small : ∀ m ∈ log.handled, m ≠ [] ∧ m.length ≤ 4096
  written : ∀ m ∈ log.written, m ≠ []
  handled : log.handled <+: log.sent
  received : ∀ i, s.instances[pipe]? = some i → log.received ++ i.toClient <+: log.written
  toServer : ∀ i, s.instances[pipe]? = some i → IsServed s pipe →
    log.sent = log.handled ++ i.toServer
  toClient : ∀ i, s.instances[pipe]? = some i → s.hPipe = some pipe →
    log.written = log.received ++ i.toClient

variable {pipe : Nat} {log : MessageLog κ} {s : NamedPipes κ}

/-- At first there is no instance, and nothing has been written. -/
theorem flow_init : Flow pipe {} ({} : NamedPipes κ) where
  fresh _ := rfl
  connected := by rintro ⟨⟩
  handle := by rintro _ ⟨⟩
  user := by rintro _ ⟨⟩
  small := by rintro _ ⟨⟩
  written := by rintro _ ⟨⟩
  handled := List.prefix_refl _
  received := by rintro _ ⟨⟩
  toServer := by rintro _ ⟨⟩
  toClient := by rintro _ ⟨⟩

theorem Flow.client_of_handle (h : Flow pipe log s) {i : PipeInstance κ}
    (hi : s.instances[pipe]? = some i) {k : κ} (hk : s.hClient k = some pipe) :
    i.client = some k := by
  obtain ⟨i', hi', hclient⟩ := h.handle k hk
  rw [Option.some.inj (hi.symm.trans hi')]
  exact hclient

theorem Flow.client_of_user (h : Flow pipe log s) {i : PipeInstance κ}
    (hi : s.instances[pipe]? = some i) {k : κ} (hk : k ∈ log.users) : i.client = some k := by
  obtain ⟨i', hi', hclient⟩ := h.user k hk
  rw [Option.some.inj (hi.symm.trans hi')]
  exact hclient

theorem Flow.received_prefix (h : Flow pipe log s) : log.received <+: log.written := by
  cases hi : s.instances[pipe]? with
  | none =>
    obtain rfl := h.fresh hi
    exact List.prefix_refl _
  | some i => exact (List.prefix_append _ _).trans (h.received i hi)

/-- A step that leaves the instance as it is. The server does not begin to serve it. -/
theorem Flow.setFlags {s' : NamedPipes κ} (h : Flow pipe log s)
    (hinstance : s'.instances[pipe]? = s.instances[pipe]?)
    (hclient : ∀ k, s'.hClient k = some pipe → s.hClient k = some pipe)
    (hhandle : s'.hPipe = some pipe → s.hPipe = some pipe)
    (hserved : IsServed s' pipe → IsServed s pipe)
    (hconnected : s'.isConnected = true → s'.isRunning = true ∧ s'.worker = .serving) :
    Flow pipe log s' where
  fresh := by rw [hinstance]; exact h.fresh
  connected := hconnected
  handle k hk := by rw [hinstance]; exact h.handle k (hclient k hk)
  user := by rw [hinstance]; exact h.user
  small := h.small
  written := h.written
  handled := h.handled
  received := by rw [hinstance]; exact h.received
  toServer i hi hs := h.toServer i (by rw [← hinstance]; exact hi) (hserved hs)
  toClient i hi hs := h.toClient i (by rw [← hinstance]; exact hi) (hhandle hs)

theorem Flow.modifyOther (h : Flow pipe log s) {p : Nat} (hp : p ≠ pipe)
    (f : PipeInstance κ → PipeInstance κ) : Flow pipe log (s.modifyInstance p f) :=
  h.setFlags (by rw [modifyInstance_instances, if_neg hp]) (fun _ hk => hk) id id h.connected

/-- The invariant after a change of the instance itself. -/
theorem Flow.modifySelf {log' : MessageLog κ} (h : Flow pipe log s) {i : PipeInstance κ}
    (hi : s.instances[pipe]? = some i) {f : PipeInstance κ → PipeInstance κ}
    (hclient : ∀ k, i.client = some k → (f i).client = some k)
    (huser : ∀ k ∈ log'.users, k ∈ log.users ∨ i.client = some k)
    (hsmall : ∀ m ∈ log'.handled, m ≠ [] ∧ m.length ≤ 4096)
    (hwritten : ∀ m ∈ log'.written, m ≠ [])
    (hhandled : log'.handled <+: log'.sent)
    (hreceived : log'.received ++ (f i).toClient <+: log'.written)
    (htoServer : IsServed s pipe → log'.sent = log'.handled ++ (f i).toServer)
    (htoClient : s.hPipe = some pipe → log'.written = log'.received ++ (f i).toClient) :
    Flow pipe log' (s.modifyInstance pipe f) := by
  have hinstance : (s.modifyInstance pipe f).instances[pipe]? = some (f i) := by
    rw [modifyInstance_instances, if_pos rfl, hi]
    rfl
  constructor
  · rw [hinstance]
    intro hnone
    cases hnone
  · exact h.connected
  · exact fun k hk => ⟨f i, hinstance, hclient k (h.client_of_handle hi hk)⟩
  · intro k hk
    rcases huser k hk with hold | hnew
    · exact ⟨f i, hinstance, hclient k (h.client_of_user hi hold)⟩
    · exact ⟨f i, hinstance, hclient k hnew⟩
  · exact hsmall
  · exact hwritten
  · exact hhandled
  · rw [hinstance]
    rintro _ ⟨⟩
    exact hreceived
  · rw [hinstance]
    rintro _ ⟨⟩
    exact htoServer
  · rw [hinstance]
    rintro _ ⟨⟩
    exact htoClient

/-- A change of an instance that leaves the messages and the client as they are. -/
theorem Flow.modifyInstance (h : Flow pipe log s) {p : Nat} {f : PipeInstance κ → PipeInstance κ}
    (hf : ∀ i, s.instances[p]? = some i → (f i).toServer = i.toServer ∧
      (f i).toClient = i.toClient ∧ ∀ k, i.client = some k → (f i).client = some k) :
    Flow pipe log (s.modifyInstance p f) := by
  by_cases hp : p = pipe
  · subst hp
    cases hi : s.instances[p]? with
    | none =>
      refine h.setFlags ?_ (fun _ hk => hk) id id h.connected
      rw [modifyInstance_instances, if_pos rfl, hi]
      rfl
    | some i =>
      obtain ⟨htoServer, htoClient, hclient⟩ := hf i hi
      refine h.modifySelf hi hclient (fun k hk => .inl hk) h.small h.written h.handled ?_ ?_ ?_
      · rw [htoClient]
        exact h.received i hi
      · rw [htoServer]
        exact h.toServer i hi
      · rw [htoClient]
        exact h.toClient i hi
  · exact h.modifyOther hp f

/-! ### The server -/

theorem Flow.start (h : Flow pipe log s) (threadMade : Bool) :
    Flow pipe log (s.start threadMade) := by
  rw [NamedPipes.start]
  split
  · exact h
  next hidle =>
    obtain ⟨-, hworker⟩ := not_or.mp hidle
    rw [not_not] at hworker
    -- the flag is only set while the worker serves, and this worker has ended
    have hconnected : s.isConnected ≠ true := by
      intro hset
      rw [(h.connected hset).2] at hworker
      cases hworker
    refine h.setFlags rfl (fun _ hk => hk) id ?_ (fun hset => absurd hset hconnected)
    rintro ⟨-, hserved | ⟨-, hset⟩⟩
    · cases threadMade with
      | true => cases hserved
      | false => cases hserved
    · exact absurd hset hconnected

theorem Flow.closeHandle (h : Flow pipe log s) : Flow pipe log s.closeHandle := by
  rw [NamedPipes.closeHandle]
  cases s.hPipe with
  | none => exact h
  | some p =>
    have hmodify := h.modifyInstance (p := p) (f := fun i => { i with serverOpen := false })
      fun i _ => ⟨rfl, rfl, fun _ hk => hk⟩
    refine hmodify.setFlags rfl (fun _ hk => hk) ?_ ?_ hmodify.connected
    · intro hnone
      cases hnone
    · rintro ⟨⟨⟩, -⟩

/-- `closeHandle` changes nothing but the instance and the handle of the server. -/
theorem closeHandle_flags (s : NamedPipes κ) :
    s.closeHandle.hPipe = none ∧ s.closeHandle.isConnected = s.isConnected ∧
      s.closeHandle.worker = s.worker := by
  rw [NamedPipes.closeHandle]
  cases hhandle : s.hPipe with
  | none => exact ⟨hhandle, rfl, rfl⟩
  | some p => exact ⟨rfl, rfl, rfl⟩

theorem Flow.stop (h : Flow pipe log s) : Flow pipe log s.stop := by
  have hflags : Flow pipe log { s with isRunning := false, isConnected := false } := by
    refine h.setFlags rfl (fun _ hk => hk) id ?_ (fun hset => absurd hset Bool.false_ne_true)
    rintro ⟨hhandle, hserved | ⟨-, hset⟩⟩
    · exact ⟨hhandle, .inl hserved⟩
    · exact absurd hset Bool.false_ne_true
  exact hflags.closeHandle

theorem Flow.endTurn (h : Flow pipe log s) : Flow pipe log s.endTurn := by
  have hclose := h.closeHandle
  have hnone : s.endTurn.hPipe = none := (closeHandle_flags s).1
  refine hclose.setFlags rfl (fun _ hk => hk) ?_ ?_ (fun hset => absurd hset Bool.false_ne_true)
  · rw [hnone]
    intro hsome
    cases hsome
  · rintro ⟨hsome, -⟩
    rw [hnone] at hsome
    cases hsome

/-- A disconnect may lose messages. No turn reads from the instance after that. -/
theorem Flow.disconnectNamedPipe (h : Flow pipe log s) :
    Flow pipe log s.disconnectNamedPipe.endTurn := by
  cases hhandle : s.hPipe with
  | none =>
    rw [NamedPipes.disconnectNamedPipe, hhandle]
    exact h.endTurn
  | some p =>
    -- the handle goes first, since nothing is promised for the messages without it
    have hclosed : Flow pipe log { s with hPipe := none } :=
      h.setFlags rfl (fun _ hk => hk) (by rintro ⟨⟩) (by rintro ⟨⟨⟩, -⟩) h.connected
    have hlost : Flow pipe log ({ s with hPipe := none }.modifyInstance p fun i =>
        { i with serverOpen := false, toServer := [], toClient := [] }) := by
      by_cases hp : p = pipe
      · subst hp
        cases hi : s.instances[p]? with
        | none =>
          refine hclosed.setFlags ?_ (fun _ hk => hk) id id hclosed.connected
          rw [modifyInstance_instances, if_pos rfl, hi]
          rfl
        | some i =>
          refine hclosed.modifySelf hi (fun _ hk => hk) (fun k hk => .inl hk) h.small h.written
            h.handled ?_ (by rintro ⟨⟨⟩, -⟩) (by rintro ⟨⟩)
          rw [List.append_nil]
          exact (List.prefix_append _ _).trans (h.received i hi)
      · exact hclosed.modifyOther hp _
    have hagain := hlost.modifyInstance (p := p) (f := fun i => { i with serverOpen := false })
      fun i _ => ⟨rfl, rfl, fun _ hk => hk⟩
    have hstate : s.disconnectNamedPipe.endTurn =
        { ({ s with hPipe := none }.modifyInstance p fun i =>
            { i with serverOpen := false, toServer := [], toClient := [] }).modifyInstance p
              (fun i => { i with serverOpen := false }) with
            isConnected := false, worker := .looping } := by
      rw [NamedPipes.disconnectNamedPipe, hhandle]
      simp only [NamedPipes.endTurn, NamedPipes.closeHandle, NamedPipes.modifyInstance, hhandle]
    rw [hstate]
    refine hagain.setFlags rfl (fun _ hk => hk) (by rintro ⟨⟩) (by rintro ⟨⟨⟩, -⟩) ?_
    exact fun hset => absurd hset Bool.false_ne_true

/-- The worker creates an instance. -/
theorem Flow.create (h : Flow pipe log s) (hworker : s.worker = .looping) :
    Flow pipe log
      { s with
          hPipe := some s.instances.length
          instances := s.instances ++ [{}]
          worker := .listening } := by
  have hconnected : s.isConnected ≠ true := by
    intro hset
    rw [(h.connected hset).2] at hworker
    cases hworker
  have hlt : ∀ i, s.instances[pipe]? = some i → pipe < s.instances.length :=
    fun i hi => (List.getElem?_eq_some_iff.mp hi).1
  by_cases hp : pipe = s.instances.length
  · -- the new instance, with nothing in it
    subst hp
    have hnone : s.instances[s.instances.length]? = none := List.getElem?_eq_none (le_refl _)
    have hnew : (s.instances ++ [({} : PipeInstance κ)])[s.instances.length]? = some {} := by simp
    have hlog := h.fresh hnone
    subst hlog
    constructor
    · rw [hnew]
      rintro ⟨⟩
    · exact fun hset => absurd hset hconnected
    · intro k hk
      obtain ⟨i, hi, -⟩ := h.handle k hk
      rw [hnone] at hi
      cases hi
    · rintro _ ⟨⟩
    · rintro _ ⟨⟩
    · rintro _ ⟨⟩
    · exact List.prefix_refl _
    · rw [hnew]
      rintro _ ⟨⟩
      exact List.prefix_refl _
    · rw [hnew]
      rintro _ ⟨⟩ -
      rfl
    · rw [hnew]
      rintro _ ⟨⟩ -
      rfl
  · have hinstance : (s.instances ++ [({} : PipeInstance κ)])[pipe]? = s.instances[pipe]? := by
      rcases Nat.lt_or_gt_of_ne hp with hlt | hgt
      · exact List.getElem?_append_left hlt
      · rw [List.getElem?_eq_none (by simp; omega), List.getElem?_eq_none (by omega)]
    refine h.setFlags hinstance (fun _ hk => hk) ?_ ?_ (fun hset => absurd hset hconnected)
    · rintro ⟨⟩
      exact absurd rfl hp
    · rintro ⟨⟨⟩, -⟩
      exact absurd rfl hp

/-- The worker reads a message that fits, and gives it to the handler. -/
theorem Flow.handle_message (h : Flow pipe log s) (hserved : IsServed s pipe)
    {i : PipeInstance κ} (hi : s.instances[pipe]? = some i) {message : Bytes} {rest : List Bytes}
    (htoServer : i.toServer = message :: rest) (hne : message ≠ [])
    (hle : message.length ≤ 4096) :
    Flow pipe { log with handled := log.handled ++ [message] }
      (s.modifyInstance pipe fun i => { i with toServer := rest }) := by
  have hsent := h.toServer i hi hserved
  rw [htoServer] at hsent
  refine h.modifySelf hi (fun _ hk => hk) (fun k hk => .inl hk) ?_ h.written ?_ (h.received i hi)
    ?_ (h.toClient i hi)
  · rw [List.forall_mem_append, List.forall_mem_singleton]
    exact ⟨h.small, hne, hle⟩
  · show log.handled ++ [message] <+: log.sent
    exact ⟨rest, by rw [hsent, List.append_assoc]; rfl⟩
  · intro _
    show log.sent = log.handled ++ [message] ++ rest
    rw [hsent, List.append_cons]

/-- The end of the serving, with a changed instance or without. -/
theorem Flow.stopServing (h : Flow pipe log s) {p : Nat} (hhandle : s.hPipe = some p)
    (f : PipeInstance κ → PipeInstance κ)
    (hf : ∀ i, (f i).toClient = i.toClient ∧ (f i).client = i.client) (worker : WorkerPc)
    (hworker : worker ≠ .listening) :
    Flow pipe log { s.modifyInstance p f with isConnected := false, worker := worker } := by
  have hclosed : Flow pipe log { s with isConnected := false, worker := worker } := by
    refine h.setFlags rfl (fun _ hk => hk) id ?_ (fun hset => absurd hset Bool.false_ne_true)
    rintro ⟨-, hlistening | ⟨-, hset⟩⟩
    · exact absurd hlistening hworker
    · exact absurd hset Bool.false_ne_true
  have hunserved : ¬ IsServed { s with isConnected := false, worker := worker } pipe := by
    rintro ⟨-, hlistening | ⟨-, hset⟩⟩
    · exact absurd hlistening hworker
    · exact absurd hset Bool.false_ne_true
  show Flow pipe log ({ s with isConnected := false, worker := worker }.modifyInstance p f)
  by_cases hp : p = pipe
  · subst hp
    cases hi : s.instances[p]? with
    | none =>
      refine hclosed.setFlags ?_ (fun _ hk => hk) id id hclosed.connected
      rw [modifyInstance_instances, if_pos rfl, hi]
      rfl
    | some i =>
      obtain ⟨htoClient, hclient⟩ := hf i
      refine hclosed.modifySelf hi ?_ (fun k hk => .inl hk) h.small h.written h.handled ?_ ?_ ?_
      · rw [hclient]
        exact fun _ hk => hk
      · rw [htoClient]
        exact h.received i hi
      · exact fun hserved => absurd hserved hunserved
      · rw [htoClient]
        exact fun _ => h.toClient i hi hhandle
  · exact hclosed.modifyOther hp f

/-- A turn of the inner loop on the instance that the worker serves. -/
theorem Flow.serveInstance (h : Flow pipe log s) (hworker : s.worker = .serving)
    (hconnected : s.isConnected = true) {p : Nat} {i : PipeInstance κ}
    (hinstance : s.instanceOf s.hPipe = some (p, i)) :
    Flow pipe (log.add pipe (outputOf .handled (s.serveInstance p i).2))
      (s.serveInstance p i).1 := by
  obtain ⟨hhandle, hi⟩ := instanceOf_eq_some.mp hinstance
  rw [NamedPipes.serveInstance]
  split
  next => exact h
  next hne =>
    cases htoServer : i.toServer with
    | nil =>
      rw [htoServer] at hne
      exact absurd rfl hne
    | cons message rest =>
      by_cases hle : message.length ≤ 4096
      · rw [readFile_of_le hle]
        simp only [true_and]
        by_cases hempty : message = []
        · rw [if_neg (not_not.mpr hempty)]
          have hcut := h.stopServing hhandle (fun i => { i with toServer := rest })
            (fun i => ⟨rfl, rfl⟩) .serving (by decide)
          rw [← hworker] at hcut
          exact hcut
        · rw [if_pos hempty]
          show Flow pipe (log.add pipe (.handled p message)) _
          by_cases hp : p = pipe
          · subst hp
            rw [MessageLog.add, if_pos rfl]
            exact h.handle_message ⟨hhandle, .inr ⟨hworker, hconnected⟩⟩ hi htoServer hempty hle
          · rw [MessageLog.add, if_neg hp]
            exact h.modifyOther hp _
      · rw [readFile_of_lt (by omega)]
        simp only [Bool.false_eq_true, false_and, if_false]
        have hcut := h.stopServing hhandle
          (fun i => { i with toServer := message.drop 4096 :: rest }) (fun i => ⟨rfl, rfl⟩)
          .serving (by decide)
        rw [← hworker] at hcut
        exact hcut

theorem Flow.workerStep (h : Flow pipe log s) (env : WorkerEnv) :
    Flow pipe (log.add pipe (outputOf .handled (s.workerStep env).2)) (s.workerStep env).1 := by
  rw [NamedPipes.workerStep]
  cases hworker : s.worker with
  | looping =>
    have hconnected : s.isConnected ≠ true := by
      intro hset
      rw [(h.connected hset).2] at hworker
      cases hworker
    dsimp only
    split
    · refine h.setFlags rfl (fun _ hk => hk) id ?_ (fun hset => absurd hset hconnected)
      rintro ⟨-, hlistening | ⟨hserving, -⟩⟩
      · cases hlistening
      · cases hserving
    · split
      · exact h
      · exact h.create hworker
  | listening =>
    dsimp only
    split
    · exact h.endTurn
    · split
      · split
        next hrunning =>
          refine h.setFlags rfl (fun _ hk => hk) id ?_ (fun _ => ⟨hrunning, rfl⟩)
          rintro ⟨hhandle, -⟩
          exact ⟨hhandle, .inl hworker⟩
        · exact h.endTurn
      · exact h
  | serving =>
    dsimp only
    split
    next hstop =>
      have hconnected : s.isConnected ≠ true := by
        intro hset
        exact hstop ⟨(h.connected hset).1, hset⟩
      refine h.setFlags rfl (fun _ hk => hk) id ?_ (fun hset => absurd hset hconnected)
      rintro ⟨-, hlistening | ⟨hserving, -⟩⟩
      · cases hlistening
      · cases hserving
    next hgo =>
      rw [not_not] at hgo
      have hleave : Flow pipe log { s with isConnected := false, worker := .disconnecting } := by
        refine h.setFlags rfl (fun _ hk => hk) id ?_ (fun hset => absurd hset Bool.false_ne_true)
        rintro ⟨-, hlistening | ⟨hserving, -⟩⟩
        · cases hlistening
        · cases hserving
      cases hinstance : s.instanceOf s.hPipe with
      | none => exact hleave
      | some found =>
        dsimp only
        split
        · exact hleave
        · exact h.serveInstance hworker hgo.2 hinstance
  | disconnecting => exact h.disconnectNamedPipe
  | ended => exact h

theorem Flow.sendMessageToClient (h : Flow pipe log s) (message : Bytes) (passed written : Bool) :
    Flow pipe (log.add pipe (outputOf .written (s.sendMessageToClient message passed written).2))
      (s.sendMessageToClient message passed written).1 := by
  rw [NamedPipes.sendMessageToClient]
  split
  next => exact h
  next hrefused =>
    cases hinstance : s.instanceOf s.hPipe with
    | none => exact h
    | some found =>
      obtain ⟨p, i⟩ := found
      obtain ⟨hhandle, hi⟩ := instanceOf_eq_some.mp hinstance
      dsimp only
      split
      · show Flow pipe (log.add pipe (.written p message)) _
        by_cases hp : p = pipe
        · subst hp
          have hwritten := h.toClient i hi hhandle
          have happend : log.written ++ [message] = log.received ++ (i.toClient ++ [message]) := by
            rw [hwritten, List.append_assoc]
          rw [MessageLog.add, if_pos rfl]
          refine h.modifySelf hi (fun _ hk => hk) (fun k hk => .inl hk) h.small ?_ h.handled ?_
            (h.toServer i hi) (fun _ => happend)
          · rw [List.forall_mem_append, List.forall_mem_singleton]
            exact ⟨h.written, fun hempty => hrefused (.inr hempty)⟩
          · exact ⟨[], (List.append_nil _).trans happend.symm⟩
        · rw [MessageLog.add, if_neg hp]
          exact h.modifyOther hp _
      · exact h

/-! ### The clients -/

theorem Flow.sendMessageToServer (h : Flow pipe log s) (client : κ) (message : Bytes)
    (written : Bool) :
    Flow pipe
      (log.add pipe (outputOf (.sent client) (s.sendMessageToServer client message written).2))
      (s.sendMessageToServer client message written).1 := by
  rw [NamedPipes.sendMessageToServer]
  split
  · exact h
  · cases hinstance : s.instanceOf (s.hClient client) with
    | none => exact h
    | some found =>
      obtain ⟨p, i⟩ := found
      obtain ⟨hhandle, hi⟩ := instanceOf_eq_some.mp hinstance
      dsimp only
      split
      · show Flow pipe (log.add pipe (.sent client p message)) _
        by_cases hp : p = pipe
        · subst hp
          rw [MessageLog.add, if_pos rfl]
          refine h.modifySelf hi (fun _ hk => hk) ?_ h.small h.written
            (h.handled.trans (List.prefix_append _ _)) (h.received i hi) ?_ (h.toClient i hi)
          · intro k hk
            rcases List.mem_append.mp hk with hold | hnew
            · exact .inl hold
            · rw [List.mem_singleton.mp hnew]
              exact .inr (h.client_of_handle hi hhandle)
          · intro hserved
            show log.sent ++ [message] = log.handled ++ (i.toServer ++ [message])
            rw [h.toServer i hi hserved, List.append_assoc]
        · rw [MessageLog.add, if_neg hp]
          exact h.modifyOther hp _
      · exact h

theorem Flow.readMessageFromServer (h : Flow pipe log s) (client : κ) :
    Flow pipe (log.add pipe (outputOf (.received client) (s.readMessageFromServer client).2))
      (s.readMessageFromServer client).1 := by
  rw [NamedPipes.readMessageFromServer]
  cases hinstance : s.instanceOf (s.hClient client) with
  | none => exact h
  | some found =>
    obtain ⟨p, i⟩ := found
    obtain ⟨hhandle, hi⟩ := instanceOf_eq_some.mp hinstance
    dsimp only
    split
    · exact h
    · cases htoClient : i.toClient with
      | nil => exact h
      | cons message rest =>
        -- the buffer has room for all that is in the pipe
        rw [readFile_of_le (length_le_bytesAvail message rest)]
        simp only [true_and]
        by_cases hp : p = pipe
        · subst hp
          have hread : log.received ++ message :: rest <+: log.written := by
            rw [← htoClient]
            exact h.received i hi
          have hne : message ≠ [] := h.written message (hread.subset (by simp))
          rw [if_pos hne]
          show Flow p (log.add p (.received client p message)) _
          rw [MessageLog.add, if_pos rfl]
          refine h.modifySelf hi (fun _ hk => hk) ?_ h.small h.written h.handled ?_
            (h.toServer i hi) ?_
          · intro k hk
            rcases List.mem_append.mp hk with hold | hnew
            · exact .inl hold
            · rw [List.mem_singleton.mp hnew]
              exact .inr (h.client_of_handle hi hhandle)
          · rw [List.append_cons] at hread
            exact hread
          · intro hserver
            have hwritten := h.toClient i hi hserver
            rw [htoClient, List.append_cons] at hwritten
            exact hwritten
        · split
          · show Flow pipe (log.add pipe (.received client p message)) _
            rw [MessageLog.add, if_neg hp]
            exact h.modifyOther hp _
          · exact h.modifyOther hp _

theorem Flow.connect [DecidableEq κ] (h : Flow pipe log s) (client : κ) (modeSet : Bool) :
    Flow pipe log (s.connect client modeSet) := by
  rw [NamedPipes.connect]
  split
  · exact h
  · cases hinstance : s.instanceOf s.hPipe with
    | none => exact h
    | some found =>
      obtain ⟨p, i⟩ := found
      obtain ⟨-, hi⟩ := instanceOf_eq_some.mp hinstance
      dsimp only
      split
      · exact h
      next hfree =>
        have hopened := h.modifyInstance (p := p)
          (f := fun i => { i with client := some client, clientOpen := modeSet }) (by
            intro i' hi'
            obtain rfl := Option.some.inj (hi.symm.trans hi')
            refine ⟨rfl, rfl, ?_⟩
            intro k hk
            rw [hk] at hfree
            exact absurd rfl hfree)
        split
        · -- the handle leads to the instance that the client has opened
          have hown : (s.modifyInstance p fun i =>
              { i with client := some client, clientOpen := modeSet }).instances[p]? =
                some { i with client := some client, clientOpen := modeSet } := by
            rw [modifyInstance_instances, if_pos rfl, hi]
            rfl
          refine { hopened with handle := ?_ }
          intro k hk
          by_cases hclient : k = client
          · subst hclient
            obtain rfl : p = pipe := by simpa using hk
            exact ⟨_, hown, rfl⟩
          · exact hopened.handle k (by simpa [Function.update_of_ne hclient] using hk)
        · exact hopened

theorem Flow.disconnect [DecidableEq κ] (h : Flow pipe log s) (client : κ) :
    Flow pipe log (s.disconnect client) := by
  rw [NamedPipes.disconnect]
  cases hhandle : s.hClient client with
  | none => exact h
  | some p =>
    have hclosed := h.modifyInstance (p := p) (f := fun i => { i with clientOpen := false })
      fun i _ => ⟨rfl, rfl, fun _ hk => hk⟩
    refine hclosed.setFlags rfl ?_ id id hclosed.connected
    intro k hk
    by_cases hclient : k = client
    · subst hclient
      simp at hk
    · rw [← hk]
      exact (Function.update_of_ne hclient none s.hClient).symm

/-! ### What the service writes -/

/-- Everything that the service has written to an instance is a `P`. -/
def Writes (P : Bytes → Prop) (s : NamedPipes κ) : Prop :=
  ∀ pipe, ∃ log, Flow pipe log s ∧ ∀ m ∈ log.written, P m

variable {P : Bytes → Prop}

theorem writes_init : Writes P ({} : NamedPipes κ) := fun _ => ⟨{}, flow_init, by rintro _ ⟨⟩⟩

theorem Writes.mono {Q : Bytes → Prop} (h : Writes P s) (hPQ : ∀ m, P m → Q m) : Writes Q s := by
  intro pipe
  obtain ⟨log, hflow, hwritten⟩ := h pipe
  exact ⟨log, hflow, fun m hm => hPQ m (hwritten m hm)⟩

/-- A step that keeps `Flow` writes nothing but what its output says. -/
theorem Writes.of_flow {s' : NamedPipes κ} (h : Writes P s) (output : PipeOutput κ)
    (hflow : ∀ pipe log, Flow pipe log s → Flow pipe (log.add pipe output) s')
    (houtput : ∀ p m, output = .written p m → P m) : Writes P s' := by
  intro pipe
  obtain ⟨log, hlog, hwritten⟩ := h pipe
  refine ⟨log.add pipe output, hflow pipe log hlog, ?_⟩
  cases output with
  | written p message =>
    rw [MessageLog.add]
    split
    · show ∀ m ∈ log.written ++ [message], P m
      rw [List.forall_mem_append, List.forall_mem_singleton]
      exact ⟨hwritten, houtput p message rfl⟩
    · exact hwritten
  | nothing => exact hwritten
  | handled p message => rw [MessageLog.add]; split <;> exact hwritten
  | sent k p message => rw [MessageLog.add]; split <;> exact hwritten
  | received k p message => rw [MessageLog.add]; split <;> exact hwritten

theorem outputOf_ne_written {output : Nat → Bytes → PipeOutput κ}
    (houtput : ∀ p m p' m', output p m ≠ .written p' m') (found : Option (Nat × Bytes)) :
    ∀ p m, outputOf output found = .written p m → P m := by
  intro p m h
  cases found with
  | none => cases h
  | some found => exact (houtput _ _ _ _ h).elim

/-- What a client reads has been written by the service. -/
theorem Writes.of_read (h : Writes P s) {client : κ} {pipe : Nat} {message : Bytes}
    (hread : (s.readMessageFromServer client).2 = some (pipe, message)) : P message := by
  obtain ⟨log, hflow, hwritten⟩ := h pipe
  have hnext := hflow.readMessageFromServer client
  have hadd : log.add pipe (.received client pipe message) =
      { log with received := log.received ++ [message], users := log.users ++ [client] } :=
    if_pos rfl
  rw [hread, outputOf, hadd] at hnext
  exact hwritten message (hnext.received_prefix.subset (by simp))

theorem Writes.start (h : Writes P s) (threadMade : Bool) : Writes P (s.start threadMade) :=
  h.of_flow .nothing (fun _ _ hlog => hlog.start threadMade) (by rintro _ _ ⟨⟩)

theorem Writes.stop (h : Writes P s) : Writes P s.stop :=
  h.of_flow .nothing (fun _ _ hlog => hlog.stop) (by rintro _ _ ⟨⟩)

theorem Writes.workerStep (h : Writes P s) (env : WorkerEnv) : Writes P (s.workerStep env).1 :=
  h.of_flow _ (fun _ _ hlog => hlog.workerStep env)
    (outputOf_ne_written (by rintro _ _ _ _ ⟨⟩) _)

theorem sendMessageToClient_eq_some {message : Bytes} {passed written : Bool}
    {found : Nat × Bytes}
    (h : (s.sendMessageToClient message passed written).2 = some found) : found.2 = message := by
  rw [NamedPipes.sendMessageToClient] at h
  split at h
  · cases h
  · split at h
    · cases h
    · split at h
      · cases h
        rfl
      · cases h

theorem Writes.sendMessageToClient (h : Writes P s) {message : Bytes} (hmessage : P message)
    (passed written : Bool) : Writes P (s.sendMessageToClient message passed written).1 := by
  refine h.of_flow _ (fun _ _ hlog => hlog.sendMessageToClient message passed written) ?_
  intro p m houtput
  cases hsent : (s.sendMessageToClient message passed written).2 with
  | none =>
    rw [hsent] at houtput
    cases houtput
  | some found =>
    rw [hsent] at houtput
    obtain ⟨rfl, rfl⟩ : found.1 = p ∧ found.2 = m := by
      cases houtput
      exact ⟨rfl, rfl⟩
    rw [sendMessageToClient_eq_some hsent]
    exact hmessage

theorem Writes.sendMessageToServer (h : Writes P s) (client : κ) (message : Bytes)
    (written : Bool) : Writes P (s.sendMessageToServer client message written).1 :=
  h.of_flow _ (fun _ _ hlog => hlog.sendMessageToServer client message written)
    (outputOf_ne_written (by rintro _ _ _ _ ⟨⟩) _)

theorem Writes.readMessageFromServer (h : Writes P s) (client : κ) :
    Writes P (s.readMessageFromServer client).1 :=
  h.of_flow _ (fun _ _ hlog => hlog.readMessageFromServer client)
    (outputOf_ne_written (by rintro _ _ _ _ ⟨⟩) _)

theorem Writes.connect [DecidableEq κ] (h : Writes P s) (client : κ) (modeSet : Bool) :
    Writes P (s.connect client modeSet) :=
  h.of_flow .nothing (fun _ _ hlog => hlog.connect client modeSet) (by rintro _ _ ⟨⟩)

theorem Writes.disconnect [DecidableEq κ] (h : Writes P s) (client : κ) :
    Writes P (s.disconnect client) :=
  h.of_flow .nothing (fun _ _ hlog => hlog.disconnect client) (by rintro _ _ ⟨⟩)

/-! ### Runs -/

variable [DecidableEq κ]

/-- One act of the server or of a client. -/
theorem Flow.step (h : Flow pipe log s) (event : PipeEvent κ) :
    Flow pipe (log.add pipe (pipeMachine.step s event).2) (pipeMachine.step s event).1 := by
  cases event with
  | start threadMade => exact h.start threadMade
  | stop => exact h.stop
  | worker env => exact h.workerStep env
  | sendMessageToClient message passed written =>
    exact h.sendMessageToClient message passed written
  | connect client modeSet => exact h.connect client modeSet
  | disconnect client => exact h.disconnect client
  | sendMessageToServer client message written =>
    exact h.sendMessageToServer client message written
  | readMessageFromServer client => exact h.readMessageFromServer client

/-- In every interleaving, the messages that come out of an instance are whole, and they are the
first of those that have gone in, in their order. The handler gets no message of more than 4096
bytes, and nothing that a client has written behind one. One client uses the instance. While the
server is connected, no message on its instance is lost. -/
theorem delivered_in_order (pipe : Nat) (events : List (PipeEvent κ)) :
    let log := logOf pipe (pipeMachine.trace {} events)
    let s := pipeMachine.run {} events
    log.handled <+: log.sent ∧ log.received <+: log.written ∧
      (∀ m ∈ log.handled, m ≠ [] ∧ m.length ≤ 4096) ∧
      (∀ k ∈ log.users, ∀ k' ∈ log.users, k = k') ∧
      (s.isConnected = true → ∀ i, s.instanceOf s.hPipe = some (pipe, i) →
        log.sent = log.handled ++ i.toServer ∧ log.written = log.received ++ i.toClient) := by
  intro log s
  have h : Flow pipe log s := by
    refine pipeMachine.history_invariant (P := fun history s => Flow pipe (logOf pipe history) s)
      flow_init ?_ (pipeMachine.along_true {} events)
    intro history s event h _
    rw [logOf, List.foldl_append]
    exact h.step event
  refine ⟨h.handled, h.received_prefix, h.small, ?_, ?_⟩
  · intro k hk k' hk'
    obtain ⟨i, hi, hclient⟩ := h.user k hk
    exact Option.some.inj (hclient.symm.trans (h.client_of_user hi hk'))
  · intro hconnected i hinstance
    obtain ⟨hhandle, hi⟩ := instanceOf_eq_some.mp hinstance
    have hserved : IsServed s pipe := ⟨hhandle, .inr ⟨(h.connected hconnected).2, hconnected⟩⟩
    exact ⟨h.toServer i hi hserved, h.toClient i hi hhandle⟩

end

end MobileUnlock.Ipc
