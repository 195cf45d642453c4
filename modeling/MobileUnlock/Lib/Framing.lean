import Mathlib.Data.List.Induction

/-!
# `MobileUnlock.Lib.Framing`: reassembly of frames from a byte stream

A receiver of a stream keeps the bytes that are not used yet, appends every chunk it gets,
and takes complete frames off the front. A `Framer` says what the front of a buffer is: an
incomplete frame, a malformed one, or a complete frame of a given length. Its laws are what
makes reassembly independent of the cutting: a frame takes at least one byte and no more
than there are, and a verdict other than "incomplete" does not change when more bytes
follow.

* `drain buf` takes all complete frames off `buf`.
* `feed` is one read: append the chunk, then drain. A receiver that met a malformed front
  is closed and ignores what follows.
* `feedAll_eq_drain`: reading a stream in chunks delivers what draining the whole stream
  delivers, whatever the cutting.
* `drain_encode`: a concatenation of encoded frames, followed by an incomplete front, is
  delivered frame by frame, and the front is what remains.
* `Encoded` says that the complete fronts are the encodings of the valid frames. Then a stream
  drains to the complete frames of its longest well-formed beginning
  (`Encoded.completeFrames_longest`), and what follows a stream that is not well formed adds
  nothing (`Encoded.drain_append_of_not_wellFormed`).
-/

set_option autoImplicit false

namespace MobileUnlock.Lib

/-- What the front of a receive buffer is. -/
inductive Front (φ : Type) where
  | incomplete
  | malformed
  | frame (f : φ) (len : Nat)

/-- A framing rule for streams of `β` that carry frames `φ`. -/
structure Framer (β φ : Type) where
  front : List β → Front φ
  /-- A frame takes at least one symbol and no more than the buffer has. -/
  frame_len : ∀ {buf f n}, front buf = .frame f n → 0 < n ∧ n ≤ buf.length
  /-- A complete frame stays the front when more symbols follow. -/
  frame_append : ∀ {buf f n} (more : List β), front buf = .frame f n →
    front (buf ++ more) = .frame f n
  /-- A malformed front stays malformed. -/
  malformed_append : ∀ {buf} (more : List β), front buf = .malformed →
    front (buf ++ more) = .malformed

/-- The outcome of draining a buffer: the frames delivered, the symbols left, and whether
the stream is still well formed. -/
structure Drained (β φ : Type) where
  frames : List φ
  rest : List β
  isOpen : Bool

namespace Framer

variable {β φ : Type} (F : Framer β φ)

/-- Take complete frames off the front until the front is incomplete or malformed. -/
def drain (buf : List β) : Drained β φ :=
  match _h : F.front buf with
  | .incomplete => ⟨[], buf, true⟩
  | .malformed => ⟨[], buf, false⟩
  | .frame f n =>
    let d := drain (buf.drop n)
    ⟨f :: d.frames, d.rest, d.isOpen⟩
termination_by buf.length
decreasing_by
  have := F.frame_len _h
  simp only [List.length_drop]
  omega

theorem drain_incomplete {buf : List β} (h : F.front buf = .incomplete) :
    F.drain buf = ⟨[], buf, true⟩ := by
  rw [drain]
  split <;> simp_all

theorem drain_malformed {buf : List β} (h : F.front buf = .malformed) :
    F.drain buf = ⟨[], buf, false⟩ := by
  rw [drain]
  split <;> simp_all

theorem drain_frame {buf : List β} {f : φ} {n : Nat} (h : F.front buf = .frame f n) :
    F.drain buf = ⟨f :: (F.drain (buf.drop n)).frames, (F.drain (buf.drop n)).rest,
      (F.drain (buf.drop n)).isOpen⟩ := by
  rw [drain]
  split <;> simp_all

/-- One read of the receiver: append the chunk and drain. -/
def feed (d : Drained β φ) (chunk : List β) : Drained β φ :=
  if d.isOpen then
    let d' := F.drain (d.rest ++ chunk)
    ⟨d.frames ++ d'.frames, d'.rest, d'.isOpen⟩
  else d

/-- Draining a longer buffer is draining its first part and then feeding the second. Once
the first part is malformed, the second adds no frame. -/
theorem drain_append (buf more : List β) :
    (F.drain (buf ++ more)).frames = (F.feed (F.drain buf) more).frames ∧
    (F.drain (buf ++ more)).isOpen = (F.feed (F.drain buf) more).isOpen ∧
    ((F.drain buf).isOpen = true →
      (F.drain (buf ++ more)).rest = (F.feed (F.drain buf) more).rest) := by
  -- Induction on the length of `buf`: every frame taken off shortens it.
  induction hn : buf.length using Nat.strongRecOn generalizing buf with
  | ind n ih =>
    cases hf : F.front buf with
    | incomplete => simp [F.drain_incomplete hf, feed]
    | malformed =>
      simp [F.drain_malformed hf, F.drain_malformed (F.malformed_append more hf), feed]
    | frame f k =>
      have hk := F.frame_len hf
      have hdrop : (buf ++ more).drop k = buf.drop k ++ more :=
        List.drop_append_of_le_length hk.2
      obtain ⟨h1, h2, h3⟩ := ih (buf.drop k).length
        (by rw [List.length_drop]; omega) (buf.drop k) rfl
      rw [F.drain_frame hf, F.drain_frame (F.frame_append more hf), hdrop]
      by_cases hopen : (F.drain (buf.drop k)).isOpen = true
      · simp_all [feed]
      · simp_all [feed]

/-- Reading a stream chunk by chunk from an open receiver delivers what draining the whole
stream at once delivers. The rest agrees as long as the stream stays well formed. -/
theorem feedAll_eq_drain (chunks : List (List β)) :
    let d := chunks.foldl F.feed (F.drain [])
    d.frames = (F.drain chunks.flatten).frames ∧
    d.isOpen = (F.drain chunks.flatten).isOpen ∧
    (d.isOpen = true → d.rest = (F.drain chunks.flatten).rest) := by
  -- Generalised over the buffer that has been read before.
  have key : ∀ (chunks : List (List β)) (buf : List β) (d : Drained β φ),
      d.frames = (F.drain buf).frames → d.isOpen = (F.drain buf).isOpen →
      (d.isOpen = true → d.rest = (F.drain buf).rest) →
      (chunks.foldl F.feed d).frames = (F.drain (buf ++ chunks.flatten)).frames ∧
      (chunks.foldl F.feed d).isOpen = (F.drain (buf ++ chunks.flatten)).isOpen ∧
      ((chunks.foldl F.feed d).isOpen = true →
        (chunks.foldl F.feed d).rest = (F.drain (buf ++ chunks.flatten)).rest) := by
    intro chunks
    induction chunks with
    | nil =>
      intro buf d hf ho hr
      simpa using ⟨hf, ho, hr⟩
    | cons c cs ih =>
      intro buf d hf ho hr
      obtain ⟨h1, h2, h3⟩ := F.drain_append buf c
      have hflat : buf ++ (c :: cs).flatten = (buf ++ c) ++ cs.flatten := by simp
      rw [List.foldl_cons, hflat]
      by_cases hopen : d.isOpen = true
      · have hbuf : (F.drain buf).isOpen = true := ho ▸ hopen
        refine ih (buf ++ c) (F.feed d c) ?_ ?_ ?_
        · rw [h1]
          simp [feed, hopen, hbuf, hf, hr hopen]
        · rw [h2]
          simp [feed, hopen, hbuf, hr hopen]
        · intro _
          rw [h3 hbuf]
          simp [feed, hopen, hbuf, hr hopen]
      · have hbuf : ¬ (F.drain buf).isOpen = true := ho ▸ hopen
        refine ih (buf ++ c) (F.feed d c) ?_ ?_ ?_
        · rw [h1]
          simp [feed, hopen, hbuf, hf]
        · rw [h2]
          simp [feed, hopen, hbuf]
        · intro hclosed
          simp [feed, hopen] at hclosed
  have h := key chunks [] (F.drain []) rfl rfl (fun _ => rfl)
  simpa using h

/-- A receiver that is closed stays closed. -/
theorem foldl_feed_closed {d : Drained β φ} (chunks : List (List β)) (hd : d.isOpen = false) :
    (chunks.foldl F.feed d).isOpen = false := by
  induction chunks generalizing d with
  | nil => exact hd
  | cons c cs ih =>
    rw [List.foldl_cons]
    refine ih ?_
    rw [feed, if_neg (by simp [hd]), hd]

/-- A concatenation of encoded frames, followed by an incomplete front, drains to what the
receiver reads for each of them, and leaves the front. -/
theorem drain_encode_map {ψ : Type} {encode : ψ → List β} {read : ψ → φ} {fs : List ψ}
    {tail : List β}
    (hframe : ∀ f ∈ fs, ∀ more, F.front (encode f ++ more) = .frame (read f) (encode f).length)
    (htail : F.front tail = .incomplete) :
    F.drain ((fs.map encode).flatten ++ tail) = ⟨fs.map read, tail, true⟩ := by
  induction fs with
  | nil => simpa using F.drain_incomplete htail
  | cons f fs ih =>
    have hsplit : ((f :: fs).map encode).flatten ++ tail
        = encode f ++ ((fs.map encode).flatten ++ tail) := by simp
    have hfront := hframe f (by simp) ((fs.map encode).flatten ++ tail)
    rw [hsplit, F.drain_frame hfront, List.drop_left,
      ih (fun g hg => hframe g (by simp [hg])), List.map_cons]

/-- A concatenation of encoded frames, followed by an incomplete front, drains to exactly
those frames and leaves the front. -/
theorem drain_encode {encode : φ → List β} {fs : List φ} {tail : List β}
    (hframe : ∀ f ∈ fs, ∀ more, F.front (encode f ++ more) = .frame f (encode f).length)
    (htail : F.front tail = .incomplete) :
    F.drain ((fs.map encode).flatten ++ tail) = ⟨fs, tail, true⟩ := by
  have h := F.drain_encode_map (fun f hf more => hframe f hf more) htail
  rwa [List.map_id'] at h

/-- What an open receiver keeps is the beginning of a frame. -/
theorem drain_drain_rest {buf : List β} (h : (F.drain buf).isOpen = true) :
    F.drain (F.drain buf).rest = ⟨[], (F.drain buf).rest, true⟩ := by
  -- Induction on the length of the buffer: every frame taken off shortens it.
  induction hn : buf.length using Nat.strongRecOn generalizing buf with
  | ind n ih =>
    cases hf : F.front buf with
    | incomplete =>
      rw [F.drain_incomplete hf]
      exact F.drain_incomplete hf
    | malformed =>
      rw [F.drain_malformed hf] at h
      cases h
    | frame f k =>
      have hk := F.frame_len hf
      rw [F.drain_frame hf] at h ⊢
      exact ih (buf.drop k).length (by rw [List.length_drop]; omega) h rfl

/-! ### Well-formed streams -/

/-- The complete fronts are the encodings of the valid frames. -/
structure Encoded (encode : φ → List β) (Valid : φ → Prop) : Prop where
  front_iff : ∀ {buf f n},
    F.front buf = .frame f n ↔ Valid f ∧ n = (encode f).length ∧ encode f <+: buf

section WellFormed
variable (encode : φ → List β) (Valid : φ → Prop)

/-- The symbols are the beginning of a concatenation of valid frames. -/
def WellFormedStream (stream : List β) : Prop :=
  ∃ frames : List φ, (∀ f ∈ frames, Valid f) ∧ stream <+: (frames.map encode).flatten

/-- The longest well-formed beginning of a stream. -/
structure LongestWellFormed (stream p : List β) : Prop where
  isPrefix : p <+: stream
  wellFormed : WellFormedStream encode Valid p
  longest : ∀ q, q <+: stream → WellFormedStream encode Valid q → q.length ≤ p.length

/-- The complete frames at the front of some symbols: no other valid frame follows them. -/
structure CompleteFrames (stream : List β) (frames : List φ) : Prop where
  valid : ∀ f ∈ frames, Valid f
  split : ∃ rest, stream = (frames.map encode).flatten ++ rest ∧
    ∀ f, Valid f → ¬ encode f <+: rest

variable {encode Valid}

theorem wellFormedStream_nil : WellFormedStream encode Valid [] :=
  ⟨[], fun _ h => absurd h List.not_mem_nil, List.nil_prefix⟩

/-- Every stream has a longest well-formed beginning. -/
theorem exists_longestWellFormed (stream : List β) :
    ∃ p, LongestWellFormed encode Valid stream p := by
  induction stream using List.reverseRecOn with
  | nil =>
    exact ⟨[], List.prefix_rfl, wellFormedStream_nil, fun q hq _ => hq.length_le⟩
  | append_singleton stream b ih =>
    by_cases hwhole : WellFormedStream encode Valid (stream ++ [b])
    · exact ⟨stream ++ [b], List.prefix_rfl, hwhole, fun q hq _ => hq.length_le⟩
    · obtain ⟨p, hp⟩ := ih
      refine ⟨p, hp.isPrefix.trans (List.prefix_append _ _), hp.wellFormed, fun q hq hwf => ?_⟩
      rcases List.prefix_concat_iff.mp hq with rfl | hq
      · exact absurd hwf hwhole
      · exact hp.longest q hq hwf

variable {F} (hF : F.Encoded encode Valid)
include hF

/-- Valid frames at the front are drained. -/
theorem Encoded.drain_flatten {frames : List φ} (hframes : ∀ f ∈ frames, Valid f)
    (rest : List β) :
    (F.drain ((frames.map encode).flatten ++ rest)).frames = frames ++ (F.drain rest).frames := by
  induction frames with
  | nil => rfl
  | cons f frames ih =>
    have hfront : F.front (((f :: frames).map encode).flatten ++ rest)
        = .frame f (encode f).length := by
      refine hF.front_iff.mpr ⟨hframes f (by simp), rfl, ?_⟩
      rw [List.map_cons, List.flatten_cons, List.append_assoc]
      exact List.prefix_append _ _
    rw [F.drain_frame hfront, List.map_cons, List.flatten_cons, List.append_assoc, List.drop_left,
      ih fun g hg => hframes g (by simp [hg])]
    rfl

/-- Without a valid frame at the front nothing is drained. -/
theorem Encoded.drain_of_not_frame {rest : List β} (h : ∀ f, Valid f → ¬ encode f <+: rest) :
    (F.drain rest).frames = [] := by
  cases hf : F.front rest with
  | incomplete => rw [F.drain_incomplete hf]
  | malformed => rw [F.drain_malformed hf]
  | frame f n =>
    obtain ⟨hvalid, -, hfront⟩ := hF.front_iff.mp hf
    exact absurd hfront (h f hvalid)

/-- The complete frames of a stream are what it drains to. -/
theorem Encoded.completeFrames_iff {stream : List β} {frames : List φ} :
    CompleteFrames encode Valid stream frames ↔ (F.drain stream).frames = frames := by
  constructor
  · rintro ⟨hvalid, rest, rfl, hrest⟩
    rw [hF.drain_flatten hvalid, hF.drain_of_not_frame hrest, List.append_nil]
  · -- Induction on the length of the stream: every frame taken off shortens it.
    induction hn : stream.length using Nat.strongRecOn generalizing stream frames with
    | ind n ih =>
      rintro rfl
      cases hf : F.front stream with
      | incomplete =>
        rw [F.drain_incomplete hf]
        refine ⟨fun _ h => absurd h List.not_mem_nil, stream, rfl, fun f hvalid hfront => ?_⟩
        rw [hF.front_iff.mpr ⟨hvalid, rfl, hfront⟩] at hf
        cases hf
      | malformed =>
        rw [F.drain_malformed hf]
        refine ⟨fun _ h => absurd h List.not_mem_nil, stream, rfl, fun f hvalid hfront => ?_⟩
        rw [hF.front_iff.mpr ⟨hvalid, rfl, hfront⟩] at hf
        cases hf
      | frame f k =>
        have hk := F.frame_len hf
        obtain ⟨hvalid, rfl, more, rfl⟩ := hF.front_iff.mp hf
        obtain ⟨hframes, rest, hsplit, hrest⟩ := ih more.length
          (by rw [List.length_append] at hn; omega) rfl rfl
        rw [F.drain_frame hf, List.drop_left]
        refine ⟨fun g hg => ?_, rest, ?_, hrest⟩
        · rcases List.mem_cons.mp hg with rfl | hg
          · exact hvalid
          · exact hframes g hg
        · rw [List.map_cons, List.flatten_cons, List.append_assoc, ← hsplit]

/-- A stream starts with a valid frame if and only if it drains to some frame. -/
theorem Encoded.drain_frames_ne_nil_iff {stream : List β} :
    (F.drain stream).frames ≠ [] ↔ ∃ f, Valid f ∧ encode f <+: stream := by
  constructor
  · intro h
    by_contra hnone
    exact h (hF.drain_of_not_frame fun f hvalid hfront => hnone ⟨f, hvalid, hfront⟩)
  · rintro ⟨f, hvalid, hfront⟩
    rw [F.drain_frame (hF.front_iff.mpr ⟨hvalid, rfl, hfront⟩)]
    exact List.cons_ne_nil _ _

/-- What follows a stream that is not well formed adds no frame. -/
theorem Encoded.drain_append_of_not_wellFormed {stream : List β}
    (h : ¬ WellFormedStream encode Valid stream) (more : List β) :
    (F.drain (stream ++ more)).frames = (F.drain stream).frames := by
  obtain ⟨hvalid, rest, hsplit, hrest⟩ :=
    hF.completeFrames_iff.mpr (Eq.refl (F.drain stream).frames)
  generalize (F.drain stream).frames = frames at hvalid hsplit ⊢
  subst hsplit
  rw [List.append_assoc, hF.drain_flatten hvalid, hF.drain_of_not_frame, List.append_nil]
  -- a frame across the end of the stream would make the stream well formed
  intro f hf hfront
  rcases List.prefix_or_prefix_of_prefix hfront (List.prefix_append rest more) with hin | hover
  · exact hrest f hf hin
  · refine h ⟨frames ++ [f], fun g hg => ?_, ?_⟩
    · rcases List.mem_append.mp hg with hg | hg
      · exact hvalid g hg
      · rw [List.mem_singleton.mp hg]
        exact hf
    · rw [List.map_append, List.flatten_append, List.prefix_append_right_inj]
      simpa using hover

/-- A stream drains to the complete frames of its longest well-formed beginning. -/
theorem Encoded.completeFrames_longest {stream p : List β}
    (hp : LongestWellFormed encode Valid stream p) :
    CompleteFrames encode Valid p (F.drain stream).frames := by
  rw [hF.completeFrames_iff]
  obtain ⟨hvalid, rest, hsplit, hrest⟩ :=
    hF.completeFrames_iff.mpr (Eq.refl (F.drain stream).frames)
  generalize (F.drain stream).frames = frames at hvalid hsplit ⊢
  subst hsplit
  -- the frames are well formed, so the longest beginning has all of them
  have hle := hp.longest _ (List.prefix_append _ _) ⟨frames, hvalid, List.prefix_rfl⟩
  obtain ⟨more, rfl⟩ := List.prefix_of_prefix_length_le (List.prefix_append _ _) hp.isPrefix hle
  rw [hF.drain_flatten hvalid, hF.drain_of_not_frame, List.append_nil]
  intro f hf hfront
  exact hrest f hf (hfront.trans ((List.prefix_append_right_inj _).mp hp.isPrefix))

end WellFormed

end Framer

end MobileUnlock.Lib
