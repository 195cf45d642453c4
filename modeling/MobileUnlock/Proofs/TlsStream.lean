import MobileUnlock.Lib.Matching
import MobileUnlock.Network.TlsContext
import Mathlib.Data.List.DropRight
import Mathlib.Data.List.Flatten

/-!
# `MobileUnlock.Proofs.TlsStream`: what arrives over TLS

A client sends plaintexts as TLS records, and the worker gets their bytes in chunks that are cut
anywhere. It gives every chunk to `DecryptPayload` alone: it keeps nothing of a chunk that ends
inside of a record, and it does not look at how much of a chunk has been used. So it reads a
record only when a chunk starts with it (`appendedBytes_eq`), and the rest is lost.
`tls_stream_kept_iff` says for which records and chunks nothing is lost.

`RecordLayer` has what is assumed of `DecryptMessage`. `recordSchannel` is an implementation that
meets it.
-/

set_option autoImplicit false

namespace MobileUnlock.Network

open MobileUnlock.Lib

/-- A TLS record with the plaintext it stands for. -/
structure TlsRecord where
  bytes : Bytes
  plaintext : Bytes
  deriving DecidableEq

/-- The bytes of some records on the wire. -/
def recordBytes (records : List TlsRecord) : Bytes := records.flatMap TlsRecord.bytes

/-- The plaintexts of some records. -/
def plaintexts (records : List TlsRecord) : Bytes := records.flatMap TlsRecord.plaintext

section Assumptions
variable {κ : Type}

/-- What `DecryptMessage` does. A context expects certain records, one after the other. A buffer
with a proper beginning of the next one is incomplete. A buffer that starts with the next one is
decrypted: its plaintext is the second buffer, and what follows it is the `SECBUFFER_EXTRA`. No
other buffer is decrypted. Only a record that is decrypted moves the context on. -/
structure RecordLayer (schannel : Schannel κ) (expects : κ → List TlsRecord) : Prop where
  incomplete : ∀ {k r rs buf}, expects k = r :: rs → buf <+: r.bytes → buf ≠ r.bytes →
    (schannel.decryptMessage k buf).2.1 = .SEC_E_INCOMPLETE_MESSAGE ∧
      expects (schannel.decryptMessage k buf).1 = r :: rs
  complete : ∀ {k r rs} (rest : Bytes), expects k = r :: rs →
    (schannel.decryptMessage k (r.bytes ++ rest)).2.1 = .SEC_E_OK ∧
      expects (schannel.decryptMessage k (r.bytes ++ rest)).1 = rs ∧
      ∃ header trailer, (schannel.decryptMessage k (r.bytes ++ rest)).2.2
        = [⟨.SECBUFFER_STREAM_HEADER, header⟩, ⟨.SECBUFFER_DATA, r.plaintext⟩,
           ⟨.SECBUFFER_STREAM_TRAILER, trailer⟩,
           if rest = [] then ⟨.SECBUFFER_EMPTY, []⟩ else ⟨.SECBUFFER_EXTRA, rest⟩]
  refused : ∀ {k buf}, (∀ r rs, expects k = r :: rs → ¬ r.bytes <+: buf) →
    (schannel.decryptMessage k buf).2.1 ≠ .SEC_E_OK ∧
      expects (schannel.decryptMessage k buf).1 = expects k

/-- A chunk that starts with a record. -/
def startsWith (r : TlsRecord) (chunk : Bytes) : Bool := r.bytes.isPrefixOf chunk

theorem startsWith_iff {r : TlsRecord} {chunk : Bytes} :
    startsWith r chunk = true ↔ r.bytes <+: chunk := List.isPrefixOf_iff_prefix

/-- What `DecryptPayload` makes of a chunk that starts with the next record. -/
theorem decryptPayload_complete {schannel : Schannel κ} {expects : κ → List TlsRecord}
    (layer : RecordLayer schannel expects) {context : SchannelContext κ}
    (hdone : context.handshakeComplete = true) {r : TlsRecord} {rs : List TlsRecord}
    (hexpects : expects context.hContext = r :: rs) {chunk : Bytes}
    (hstarts : startsWith r chunk = true) :
    (decryptPayload schannel context chunk).status = .SUCCESS ∧
      (decryptPayload schannel context chunk).plainData = r.plaintext ∧
      (decryptPayload schannel context chunk).context.handshakeComplete = true ∧
      expects (decryptPayload schannel context chunk).context.hContext = rs := by
  obtain ⟨rest, rfl⟩ := startsWith_iff.mp hstarts
  obtain ⟨hstatus, hnext, header, trailer, hbuffers⟩ := layer.complete rest hexpects
  -- the buffers from the first to the last: only the second one is data
  have hplain : plainBytes (schannel.decryptMessage context.hContext (r.bytes ++ rest)).2.2
      = r.plaintext := by
    rw [hbuffers]
    cases hp : r.plaintext with
    | nil => cases rest <;> rfl
    | cons b bs => rfl
  generalize hres : schannel.decryptMessage context.hContext (r.bytes ++ rest) = res at *
  obtain ⟨hContext, status, buffers⟩ := res
  dsimp only at hstatus hnext hplain
  subst hstatus
  unfold decryptPayload
  rw [if_neg (by simp [hdone]), hres]
  exact ⟨rfl, hplain, hdone, hnext⟩

/-- And of every other chunk. -/
theorem decryptPayload_refused {schannel : Schannel κ} {expects : κ → List TlsRecord}
    (layer : RecordLayer schannel expects) {context : SchannelContext κ}
    (hdone : context.handshakeComplete = true) {chunk : Bytes}
    (hother : ∀ r rs, expects context.hContext = r :: rs → startsWith r chunk = false) :
    (decryptPayload schannel context chunk).status ≠ .SUCCESS ∧
      (decryptPayload schannel context chunk).context.handshakeComplete = true ∧
      expects (decryptPayload schannel context chunk).context.hContext
        = expects context.hContext := by
  -- Whatever the reason is, it is not decrypted, and the context waits for the same record.
  have hnot : ∀ r rs, expects context.hContext = r :: rs → ¬ r.bytes <+: chunk := by
    intro r rs hr hprefixed
    rw [← startsWith_iff, hother r rs hr] at hprefixed
    cases hprefixed
  obtain ⟨hstatus, hnext⟩ := layer.refused hnot
  generalize hres : schannel.decryptMessage context.hContext chunk = res at *
  obtain ⟨hContext, status, buffers⟩ := res
  dsimp only at hstatus hnext
  unfold decryptPayload
  rw [if_neg (by simp [hdone]), hres]
  cases status with
  | SEC_E_OK => exact absurd rfl hstatus
  | SEC_E_INCOMPLETE_MESSAGE => exact ⟨by simp, hdone, hnext⟩
  | SEC_I_CONTEXT_EXPIRED => exact ⟨by simp, hdone, hnext⟩
  | other code => exact ⟨by simp, hdone, hnext⟩

end Assumptions

/-! ### The worker -/

section Worker
variable {τ : Type} (tls : TlsContext τ)

/-- What a chunk adds to the receive buffer of a connection. -/
def addedBytes (session : ClientSession τ) (chunk : Bytes) : Bytes :=
  if session.socketOpen ∧ detectProtocol session.state chunk = .ACTIVE_SESSION then
    (receiveData tls session chunk).receiveBuffer.drop session.receiveBuffer.length
  else []

/-- What a sequence of chunks adds to the receive buffer, whatever the frame loop takes off it in
between. -/
def appendedBytes : ClientSession τ → List (UInt32 × Bytes) → Bytes
  | _, [] => []
  | session, (now, chunk) :: chunks =>
    addedBytes tls session chunk ++
      appendedBytes (workerStep tls session now (.data chunk)).1 chunks

/-- The worker receives all of the chunks: its socket is open when each of them comes. -/
def Receives : ClientSession τ → List (UInt32 × Bytes) → Prop
  | _, [] => True
  | session, (now, chunk) :: chunks =>
    session.socketOpen = true ∧ Receives (workerStep tls session now (.data chunk)).1 chunks

end Worker

section Stream
variable {κ : Type} {schannel : Schannel κ} {expects : κ → List TlsRecord}
variable {acceptHandshake : SchannelContext κ → Bytes → SchannelContext κ × TlsStatus × Bytes}

/-- A connection after its handshake, as long as it is open. -/
structure TlsActive (session : ClientSession (SchannelContext κ)) : Prop where
  state : session.socketOpen = true → session.state = .ACTIVE_SESSION
  handshake : session.tls.handshakeComplete = true

/-- The plaintext that the worker takes from a chunk. -/
def takenBytes (schannel : Schannel κ) (context : SchannelContext κ) (chunk : Bytes) : Bytes :=
  if (decryptPayload schannel context chunk).status = .SUCCESS
  then (decryptPayload schannel context chunk).plainData else []

/-- After the handshake the data of a chunk is what the decryption makes of it. -/
theorem receiveData_tls {session : ClientSession (SchannelContext κ)}
    (hdone : session.tls.handshakeComplete = true) (chunk : Bytes) :
    receiveData (schannelTls schannel acceptHandshake) session chunk =
      { session with
          tls := (decryptPayload schannel session.tls chunk).context
          receiveBuffer := session.receiveBuffer ++ takenBytes schannel session.tls chunk } := by
  show (if session.tls.handshakeComplete = true then _ else _) = _
  rw [if_pos hdone, takenBytes]
  dsimp only [schannelTls]
  by_cases hsuccess : (decryptPayload schannel session.tls chunk).status = .SUCCESS
  · rw [if_pos hsuccess]
    by_cases hempty : (decryptPayload schannel session.tls chunk).plainData = []
    · rw [if_neg (by simp [hempty]), hempty, List.append_nil]
    · rw [if_pos ⟨hsuccess, hempty⟩]
  · rw [if_neg (fun h => hsuccess h.1), if_neg hsuccess, List.append_nil]

/-- What a chunk adds on an active connection. -/
theorem addedBytes_tls {session : ClientSession (SchannelContext κ)} (hactive : TlsActive session)
    (hopen : session.socketOpen = true) (chunk : Bytes) :
    addedBytes (schannelTls schannel acceptHandshake) session chunk
      = takenBytes schannel session.tls chunk := by
  have hdetect : detectProtocol session.state chunk = .ACTIVE_SESSION := by
    rw [hactive.state hopen]
    rfl
  rw [addedBytes, if_pos ⟨hopen, hdetect⟩, receiveData_tls hactive.handshake, List.drop_left]

/-- The connection goes on with the context that the decryption leaves. -/
theorem workerStep_tls {session : ClientSession (SchannelContext κ)} (hactive : TlsActive session)
    (hopen : session.socketOpen = true) (now : UInt32) (chunk : Bytes) :
    (workerStep (schannelTls schannel acceptHandshake) session now (.data chunk)).1.tls
        = (decryptPayload schannel session.tls chunk).context ∧
      ((workerStep (schannelTls schannel acceptHandshake) session now (.data chunk)).1.socketOpen
          = true →
        (workerStep (schannelTls schannel acceptHandshake) session now (.data chunk)).1.state
          = .ACTIVE_SESSION) := by
  obtain ⟨clientId, socketOpen, state, last, context, buffer⟩ := session
  obtain ⟨hstate, hdone⟩ := hactive
  dsimp only at hopen hstate hdone
  subst hopen
  have hstate' := hstate rfl
  subst hstate'
  have hreceive := @receiveData_tls κ schannel acceptHandshake
    ⟨clientId, true, .ACTIVE_SESSION, now, context, buffer⟩ hdone chunk
  -- The frame loop that follows either keeps the connection as it is or closes the socket.
  simp only [workerStep, detectProtocol, not_true_eq_false, if_false, reduceCtorEq, if_true,
    hreceive]
  split
  · exact ⟨rfl, fun _ => rfl⟩
  · exact ⟨rfl, fun h => by cases h⟩

/-- The worker appends the plaintexts of the records that it finds at the beginning of a chunk, in
order, and nothing else. -/
theorem appendedBytes_eq (layer : RecordLayer schannel expects) (chunks : List (UInt32 × Bytes)) :
    ∀ session : ClientSession (SchannelContext κ), TlsActive session →
      Receives (schannelTls schannel acceptHandshake) session chunks →
      appendedBytes (schannelTls schannel acceptHandshake) session chunks
        = plaintexts ((expects session.tls.hContext).take
            (matchCount startsWith (expects session.tls.hContext) (chunks.map Prod.snd))) := by
  -- Induction on the chunks: one `DecryptMessage` for each of them.
  induction chunks with
  | nil =>
    intro session _ _
    rfl
  | cons c chunks ih =>
    obtain ⟨now, chunk⟩ := c
    intro session hactive hrecv
    obtain ⟨hopen, hrecv⟩ := hrecv
    have hdone := hactive.handshake
    obtain ⟨htls, hstate⟩ :=
      @workerStep_tls κ schannel acceptHandshake session hactive hopen now chunk
    rw [appendedBytes, addedBytes_tls hactive hopen, List.map_cons]
    generalize hnext : (workerStep (schannelTls schannel acceptHandshake) session now
      (.data chunk)).1 = next at *
    -- the next record is at the beginning of the chunk, or it is not
    by_cases hmatch : ∃ r rs, expects session.tls.hContext = r :: rs ∧ startsWith r chunk = true
    · obtain ⟨r, rs, hexpects, hstarts⟩ := hmatch
      obtain ⟨hstatus, hplain, hdone', hrest⟩ :=
        decryptPayload_complete layer hdone hexpects hstarts
      have hcontinue := ih next ⟨hstate, by rw [htls, hdone']⟩ hrecv
      rw [htls, hrest] at hcontinue
      rw [takenBytes, if_pos hstatus, hplain, hcontinue, hexpects,
        matchCount_cons_of_match startsWith hstarts, List.take_succ_cons]
      rfl
    · have hother : ∀ r rs, expects session.tls.hContext = r :: rs →
          startsWith r chunk = false := by
        intro r rs hr
        by_contra hstarts
        exact hmatch ⟨r, rs, hr, by simpa using hstarts⟩
      obtain ⟨hstatus, hdone', hrest⟩ := decryptPayload_refused layer hdone hother
      have hcontinue := ih next ⟨hstate, by rw [htls, hdone']⟩ hrecv
      rw [htls, hrest] at hcontinue
      rw [takenBytes, if_neg hstatus, List.nil_append, hcontinue]
      cases hexpects : expects session.tls.hContext with
      | nil => rw [List.take_nil, List.take_nil]
      | cons r rs => rw [matchCount_cons_of_pass startsWith (hother r rs hexpects)]

end Stream

/-! ### Complete records -/

/-- The records that have been received completely, when `received` is the beginning of the
stream. -/
def completeRecords : List TlsRecord → Bytes → List TlsRecord
  | [], _ => []
  | r :: records, received =>
    if startsWith r received then
      r :: completeRecords records (received.drop r.bytes.length)
    else []

theorem completeRecords_isPrefix (records : List TlsRecord) (received : Bytes) :
    completeRecords records received <+: records := by
  induction records generalizing received with
  | nil => exact List.nil_prefix
  | cons r records ih =>
    rw [completeRecords]
    split
    · exact List.prefix_cons_inj r |>.mpr (ih _)
    · exact List.nil_prefix

/-- As many records are complete as fit into what has been received. -/
theorem le_length_completeRecords {records : List TlsRecord} {received : Bytes} {j : Nat}
    (hj : j ≤ records.length) (h : recordBytes (records.take j) <+: received) :
    j ≤ (completeRecords records received).length := by
  induction records generalizing received j with
  | nil => exact hj.trans (Nat.zero_le _)
  | cons r records ih =>
    cases j with
    | zero => exact Nat.zero_le _
    | succ j =>
      obtain ⟨rest, rfl⟩ := h
      have hbytes : recordBytes ((r :: records).take (j + 1)) ++ rest
          = r.bytes ++ (recordBytes (records.take j) ++ rest) := by
        rw [List.take_succ_cons, recordBytes, List.flatMap_cons, List.append_assoc]
        rfl
      have hstarts : startsWith r (r.bytes ++ (recordBytes (records.take j) ++ rest)) = true :=
        startsWith_iff.mpr (List.prefix_append _ _)
      rw [hbytes, completeRecords, if_pos hstarts, List.drop_left, List.length_cons]
      exact Nat.succ_le_succ (ih (Nat.le_of_succ_le_succ hj) (List.prefix_append _ _))

/-- The records up to the last one with a plaintext that is not empty. -/
def upToLastData (records : List TlsRecord) : List TlsRecord :=
  records.rdropWhile fun r => r.plaintext = []

/-- The first records give a beginning of what all of them give. -/
theorem flatMap_take_isPrefix (f : TlsRecord → Bytes) (records : List TlsRecord) (k : Nat) :
    (records.take k).flatMap f <+: records.flatMap f := by
  refine ⟨(records.drop k).flatMap f, ?_⟩
  rw [← List.flatMap_append, List.take_append_drop]

/-- Nothing is missing from the first `k` records if and only if the last data is among them. -/
theorem plaintexts_take_iff (records : List TlsRecord) (k : Nat) :
    plaintexts (records.take k) = plaintexts records ↔ (upToLastData records).length ≤ k := by
  induction records using List.reverseRecOn with
  | nil => simp [upToLastData]
  | append_singleton records r ih =>
    have hall : plaintexts (records ++ [r]) = plaintexts records ++ r.plaintext := by
      simp [plaintexts]
    by_cases hk : k ≤ records.length
    · rw [List.take_append_of_le_length hk, hall]
      by_cases hdata : r.plaintext = []
      · rw [hdata, List.append_nil, ih, upToLastData, upToLastData,
          List.rdropWhile_concat_pos _ _ _ (by simpa using hdata)]
      · rw [upToLastData, List.rdropWhile_concat_neg _ _ _ (by simpa using hdata)]
        -- the data of the last record is missing
        have hlen : (plaintexts (records.take k)).length ≤ (plaintexts records).length := by
          exact (flatMap_take_isPrefix TlsRecord.plaintext records k).length_le
        have hpos : 0 < r.plaintext.length := List.length_pos_of_ne_nil hdata
        constructor
        · intro h
          have := congrArg List.length h
          rw [List.length_append] at this
          omega
        · intro h
          rw [List.length_append, List.length_singleton] at h
          omega
    · have htake : (records ++ [r]).take k = records ++ [r] := by
        apply List.take_of_length_le
        rw [List.length_append, List.length_singleton]
        omega
      rw [htake]
      refine ⟨fun _ => ?_, fun _ => rfl⟩
      have hle := (List.rdropWhile_prefix (fun r : TlsRecord => r.plaintext = [])
        (records ++ [r])).length_le
      rw [List.length_append, List.length_singleton] at hle
      exact hle.trans (by omega)

/-! ### The result -/

/-- In order, every record lies at the beginning of a chunk of its own. -/
def InOwnChunks (records : List TlsRecord) (chunks : List Bytes) : Prop :=
  ∃ own, own.Sublist chunks ∧ List.Forall₂ (fun r chunk => startsWith r chunk = true) records own

/-- Records in chunks of their own have no more bytes than the chunks. -/
theorem InOwnChunks.length_le {records : List TlsRecord} {chunks : List Bytes}
    (h : InOwnChunks records chunks) : (recordBytes records).length ≤ chunks.flatten.length := by
  obtain ⟨own, hsub, hmatch⟩ := h
  have hown : (recordBytes records).length ≤ own.flatten.length := by
    clear hsub
    induction hmatch with
    | nil => exact Nat.le_refl _
    | cons hstarts _ ih =>
      have hle := (startsWith_iff.mp hstarts).length_le
      simp only [recordBytes, List.flatMap_cons, List.flatten_cons, List.length_append] at ih ⊢
      omega
  exact hown.trans hsub.flatten.length_le

/-- Nothing is lost if and only if the records keep to their chunks. The handshake of a connection
is done, the context expects the records that the client sends, and the worker receives the
beginning of their bytes in chunks. It appends to the receive buffer exactly the plaintexts of the
records that have been received completely, if and only if these records, up to the last one with
data, lie in order at the beginning of a chunk of their own. -/
theorem tls_stream_kept_iff {κ : Type} (schannel : Schannel κ) (expects : κ → List TlsRecord)
    (layer : RecordLayer schannel expects)
    (acceptHandshake : SchannelContext κ → Bytes → SchannelContext κ × TlsStatus × Bytes)
    (session : ClientSession (SchannelContext κ)) (hstate : session.state = .ACTIVE_SESSION)
    (hdone : session.tls.handshakeComplete = true) (chunks : List (UInt32 × Bytes))
    (hrecv : Receives (schannelTls schannel acceptHandshake) session chunks)
    (hcut : (chunks.map Prod.snd).flatten <+: recordBytes (expects session.tls.hContext)) :
    appendedBytes (schannelTls schannel acceptHandshake) session chunks
        = plaintexts (completeRecords (expects session.tls.hContext)
            (chunks.map Prod.snd).flatten) ↔
      InOwnChunks (upToLastData (completeRecords (expects session.tls.hContext)
        (chunks.map Prod.snd).flatten)) (chunks.map Prod.snd) := by
  rw [appendedBytes_eq layer chunks session ⟨fun _ => hstate, hdone⟩ hrecv]
  generalize expects session.tls.hContext = records at hcut ⊢
  generalize chunks.map Prod.snd = cs at hcut ⊢
  have hread := matchCount_le_length startsWith records cs
  generalize hk : matchCount startsWith records cs = k at hread ⊢
  have hcomplete := completeRecords_isPrefix records cs.flatten
  -- the records that have been read are complete
  have hown : InOwnChunks (records.take k) cs :=
    (le_matchCount_iff startsWith hread).mp (Nat.le_of_eq hk.symm)
  have hreceived : recordBytes (records.take k) <+: cs.flatten := by
    exact List.prefix_of_prefix_length_le (flatMap_take_isPrefix TlsRecord.bytes records k) hcut
      hown.length_le
  have hle := le_length_completeRecords hread hreceived
  generalize completeRecords records cs.flatten = complete at hcomplete hle ⊢
  have htake : records.take k = complete.take k := by
    rw [List.prefix_iff_eq_take.mp hcomplete, List.take_take, Nat.min_eq_left hle]
  -- the records that have to be read
  have hneeded : upToLastData complete <+: records :=
    (List.rdropWhile_prefix _ _).trans hcomplete
  rw [htake, plaintexts_take_iff, ← hk, le_matchCount_iff startsWith hneeded.length_le,
    ← List.prefix_iff_eq_take.mp hneeded]
  rfl

/-! ### Two records -/

/-- A record layer whose context is the list of the records to come. -/
def recordSchannel : Schannel (List TlsRecord) where
  decryptMessage
    | [], _ => ([], .other 0x80090330, [])
    | r :: records, buf =>
      if startsWith r buf then
        (records, .SEC_E_OK,
          [⟨.SECBUFFER_STREAM_HEADER, r.bytes.take 5⟩, ⟨.SECBUFFER_DATA, r.plaintext⟩,
           ⟨.SECBUFFER_STREAM_TRAILER, []⟩,
           if buf.drop r.bytes.length = [] then ⟨.SECBUFFER_EMPTY, []⟩
           else ⟨.SECBUFFER_EXTRA, buf.drop r.bytes.length⟩])
      else if buf.isPrefixOf r.bytes then
        (r :: records, .SEC_E_INCOMPLETE_MESSAGE, [⟨.SECBUFFER_MISSING, []⟩])
      else (r :: records, .other 0x80090330, [])

theorem recordLayer_recordSchannel : RecordLayer recordSchannel id where
  incomplete := by
    rintro _ r rs buf rfl hbuf hne
    have hnot : ¬ startsWith r buf = true := by
      intro hstarts
      have hlen := (startsWith_iff.mp hstarts).length_le
      exact hne (hbuf.eq_of_length_le hlen)
    simp only [recordSchannel]
    rw [if_neg hnot, if_pos (List.isPrefixOf_iff_prefix.mpr hbuf)]
    exact ⟨rfl, rfl⟩
  complete := by
    rintro _ r rs rest rfl
    have hstarts : startsWith r (r.bytes ++ rest) = true :=
      startsWith_iff.mpr (List.prefix_append _ _)
    simp only [recordSchannel]
    rw [if_pos hstarts, List.drop_left]
    exact ⟨rfl, rfl, _, _, rfl⟩
  refused := by
    intro k buf h
    cases k with
    | nil => exact ⟨by simp [recordSchannel], rfl⟩
    | cons r rs =>
      have hnot : ¬ startsWith r buf = true := fun hstarts =>
        h r rs rfl (startsWith_iff.mp hstarts)
      simp only [recordSchannel]
      rw [if_neg hnot]
      split
      · exact ⟨by simp, rfl⟩
      · exact ⟨by simp, rfl⟩

/-- A record with one byte of plaintext: a header with the length 18, and the ciphertext. -/
def byteRecord (b : UInt8) : TlsRecord where
  bytes := [0x17, 0x03, 0x03, 0x00, 0x12] ++ List.replicate 18 (b + 0x80)
  plaintext := [b]

/-- A connection after its handshake. Its client sends the bytes 1 and 2 in two records. -/
def twoRecordSession : ClientSession (SchannelContext (List TlsRecord)) where
  clientId := 1
  state := .ACTIVE_SESSION
  tls := ⟨[byteRecord 1, byteRecord 2], true⟩

/-- No handshake comes after the first one. -/
def noHandshake (context : SchannelContext (List TlsRecord)) (_ : Bytes) :
    SchannelContext (List TlsRecord) × TlsStatus × Bytes := (context, .ERROR_GENERAL, [])

/-- The TLS implementation of the connection. -/
def recordTls : TlsContext (SchannelContext (List TlsRecord)) :=
  schannelTls recordSchannel noHandshake

/-- With every record in a chunk of its own, both bytes arrive. -/
theorem tls_stream_kept_ownChunks :
    appendedBytes recordTls twoRecordSession
      [(0, (byteRecord 1).bytes), (5, (byteRecord 2).bytes)] = [1, 2] := by
  exact (tls_stream_kept_iff recordSchannel id recordLayer_recordSchannel noHandshake
    twoRecordSession rfl rfl [(0, (byteRecord 1).bytes), (5, (byteRecord 2).bytes)]
    ⟨rfl, by decide +kernel, trivial⟩ (by decide)).mpr
    ⟨_, List.Sublist.refl _, .cons (by decide) (.cons (by decide) .nil)⟩

/-- When both records come with one `recv`, the second one is lost. When the first one is cut in
two, both are lost. -/
theorem tls_stream_lost :
    RecordLayer recordSchannel id ∧
      (let chunks : List (UInt32 × Bytes) := [(0, (byteRecord 1).bytes ++ (byteRecord 2).bytes)]
      Receives recordTls twoRecordSession chunks ∧
        (chunks.map Prod.snd).flatten = recordBytes [byteRecord 1, byteRecord 2] ∧
        appendedBytes recordTls twoRecordSession chunks = [1] ∧
        plaintexts (completeRecords [byteRecord 1, byteRecord 2] (chunks.map Prod.snd).flatten)
          = [1, 2]) ∧
      (let chunks : List (UInt32 × Bytes) :=
        [(0, (byteRecord 1).bytes.take 10), (5, (byteRecord 1).bytes.drop 10),
          (9, (byteRecord 2).bytes)]
      Receives recordTls twoRecordSession chunks ∧
        (chunks.map Prod.snd).flatten = recordBytes [byteRecord 1, byteRecord 2] ∧
        appendedBytes recordTls twoRecordSession chunks = [] ∧
        plaintexts (completeRecords [byteRecord 1, byteRecord 2] (chunks.map Prod.snd).flatten)
          = [1, 2]) := by
  refine ⟨recordLayer_recordSchannel, ⟨⟨rfl, trivial⟩, ?_, ?_, ?_⟩,
    ⟨⟨rfl, ?_, ?_, trivial⟩, ?_, ?_, ?_⟩⟩
  · decide +kernel
  · decide +kernel
  · decide +kernel
  · decide +kernel
  · decide +kernel
  · decide +kernel
  · decide +kernel
  · decide +kernel

end MobileUnlock.Network
