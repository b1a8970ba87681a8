-- The order of a program's output. In whatever chunks the two streams are read, and in whatever
-- order the chunks arrive, the bytes of each stream stay in their order, none is lost on the way
-- and none comes twice; and a text is read from all bytes at once, so a chunk may end inside a
-- character.
import Worksheet.Proofs.OutputLoss
import Worksheet.Proofs.Utf8RoundTrip
import Worksheet.Run.Readers

namespace Worksheet

open Text (Bytes)

/-! ## Interleavings -/

/-- The third list is made of the first two, each in its own order. -/
inductive Interleaves {α : Type} : List α → List α → List α → Prop
  | nil : Interleaves [] [] []
  | left {a : α} {as bs cs : List α} : Interleaves as bs cs → Interleaves (a :: as) bs (a :: cs)
  | right {b : α} {as bs cs : List α} : Interleaves as bs cs → Interleaves as (b :: bs) (b :: cs)

namespace Interleaves

variable {α : Type} {as bs cs as' bs' cs' : List α}

theorem append (h : Interleaves as bs cs) (h' : Interleaves as' bs' cs') :
    Interleaves (as ++ as') (bs ++ bs') (cs ++ cs') := by
  induction h with
  | nil => exact h'
  | left _ ih => exact .left ih
  | right _ ih => exact .right ih

theorem onlyLeft (as : List α) : Interleaves as [] as := by
  induction as with
  | nil => exact .nil
  | cons a as ih => exact .left ih

theorem onlyRight (bs : List α) : Interleaves [] bs bs := by
  induction bs with
  | nil => exact .nil
  | cons b bs ih => exact .right ih

theorem eq_left (h : Interleaves as [] cs) : cs = as := by
  generalize hnone : ([] : List α) = bs at h
  induction h with
  | nil => rfl
  | left _ ih => rw [ih hnone]
  | right => cases hnone

theorem eq_right (h : Interleaves [] bs cs) : cs = bs := by
  generalize hnone : ([] : List α) = as at h
  induction h with
  | nil => rfl
  | left => cases hnone
  | right _ ih => rw [ih hnone]

end Interleaves

/-! ## Arrivals -/

namespace Drain

variable {d : Drain} {stream : OutputStream}

theorem after_concat (reads : List (OutputStream × Except Fault Bytes)) (stream : OutputStream)
    (result : Except Fault Bytes) :
    after (reads ++ [(stream, result)]) = (after reads).read stream result := by
  rw [after, List.foldl_append]
  rfl

/-- The end that a reader has come to first is the one that counts. -/
theorem ending_concat (stream : OutputStream) (reads : List (OutputStream × Except Fault Bytes))
    (s : OutputStream) (result : Except Fault Bytes) :
    ending stream (reads ++ [(s, result)]) =
      (ending stream reads).or (ending stream [(s, result)]) := by
  induction reads with
  | nil => rfl
  | cons r reads ih =>
    obtain ⟨s', result'⟩ := r
    by_cases hs : s' = stream
    · subst hs
      match result' with
      | .error fault => simp [ending]
      | .ok [] => simp [ending]
      | .ok (b :: bytes) => simpa [ending] using ih
    · simpa [ending, hs] using ih

theorem ending_eq_none_of_isReading {reads : List (OutputStream × Except Fault Bytes)}
    (h : ((after reads).reader stream).isReading = true) : ending stream reads = none := by
  rw [reader_after] at h
  match hend : ending stream reads with
  | none => rfl
  | some none => simp [hend, readerOf, Reader.isReading] at h
  | some (some fault) =>
    rw [hend, readerOf, Reader.stoppedBy] at h
    split at h <;> cases h

theorem isReading_iff : (d.reader stream).isReading = true ↔ d.reader stream = .reading := by
  cases d.reader stream <;> simp [Reader.isReading]

theorem chunks_setReader (d : Drain) (r : Reader) (stream : OutputStream) :
    (d.setReader r stream).chunks = d.chunks := by
  cases stream <;> rfl

/-- A chunk that arrives comes last, and the reader goes on. -/
theorem read_chunk {chunk : Bytes} (hreading : d.reader stream = .reading) (hchunk : chunk ≠ []) :
    d.read stream (.ok chunk) = { d with chunks := (stream, chunk) :: d.chunks } := by
  cases chunk with
  | nil => exact absurd rfl hchunk
  | cons b bytes =>
    unfold read
    rw [hreading]

/-- What is no chunk adds nothing. -/
theorem chunks_read {result : Except Fault Bytes}
    (h : result = .ok [] ∨ ∃ fault, result = .error fault) :
    (d.read stream result).chunks = d.chunks := by
  unfold read
  split
  · rfl
  · exact chunks_setReader d _ _
  · exact chunks_setReader d _ _
  · simp at h

theorem outputOf_chunk (d : Drain) (stream s : OutputStream) (chunk : Bytes) :
    outputOf { d with chunks := (s, chunk) :: d.chunks } stream =
      d.outputOf stream ++ if s = stream then chunk else [] := by
  unfold outputOf
  rw [List.reverse_cons, List.filter_append, List.flatMap_append]
  by_cases hs : s = stream <;> simp [hs]

/-- The output is an interleaving of what has arrived from each of the streams. -/
theorem interleaves_output (d : Drain) :
    Interleaves (d.outputOf .stdout) (d.outputOf .stderr) d.output := by
  unfold outputOf output
  induction d.chunks.reverse with
  | nil => exact .nil
  | cons c chunks ih =>
    obtain ⟨stream, chunk⟩ := c
    cases stream with
    | stdout => simpa using (Interleaves.onlyLeft chunk).append ih
    | stderr => simpa using (Interleaves.onlyRight chunk).append ih

end Drain

/-! ## What the readers have taken -/

namespace Readers

variable {streams : OutputStream → Bytes} {r r' : Readers}

/-- The reader has found the end of its stream. -/
def AtEnd (r : Readers) (stream : OutputStream) : Prop := Drain.ending stream r.reads = some none

/-- The account of a stream: what has arrived is from its start, and as long as the reader goes on
nothing is missing between that and what is left. -/
structure Accounts (streams : OutputStream → Bytes) (r : Readers) (stream : OutputStream) :
    Prop where
  arrived : r.drain.outputOf stream <+: streams stream
  reading : r.isReading stream →
    r.drain.outputOf stream ++ (r.inHand stream).getD [] ++ r.left stream = streams stream
  chunk : ∀ chunk, r.inHand stream = some chunk → chunk ≠ []
  ended : r.AtEnd stream → r.drain.outputOf stream = streams stream

theorem accounts_start (streams : OutputStream → Bytes) (stream : OutputStream) :
    (start streams).Accounts streams stream :=
  ⟨List.nil_prefix, fun _ => rfl, fun _ h => (nomatch h), fun h => (nomatch h)⟩

theorem drain_arrive (r : Readers) (stream : OutputStream) (result : Except Fault Bytes) :
    (r.arrive stream result).drain = r.drain.read stream result :=
  Drain.after_concat r.reads stream result

/-- The account of a stream is kept when something arrives from the other one. -/
theorem Accounts.arrive_of_ne {stream s : OutputStream} {result : Except Fault Bytes}
    (h : r.Accounts streams stream) (hs : s ≠ stream)
    (houtput : (r.drain.read s result).outputOf stream = r.drain.outputOf stream) :
    (r.arrive s result).Accounts streams stream := by
  have hhand := r.inHand_arrive_of_ne hs.symm result
  refine ⟨?_, fun hreading => ?_, fun chunk hchunk => ?_, fun hend => ?_⟩
  · rw [drain_arrive, houtput]
    exact h.arrived
  · rw [isReading, drain_arrive, Drain.reader_read_of_ne _ _ hs] at hreading
    rw [drain_arrive, houtput, hhand]
    exact h.reading hreading
  · rw [hhand] at hchunk
    exact h.chunk chunk hchunk
  · rw [AtEnd, arrive, Drain.ending_concat] at hend
    have hother : Drain.ending stream [(s, result)] = none := by simp [Drain.ending, hs]
    rw [hother, Option.or_none] at hend
    rw [drain_arrive, houtput]
    exact h.ended hend

/-- What is handed on is no longer in hand. -/
theorem Accounts.handOn {stream s : OutputStream} {chunk : Bytes}
    (h : r.Accounts streams stream) (hreading : r.isReading s) (hchunk : r.inHand s = some chunk)
    (hne : chunk ≠ []) : (r.arrive s (.ok chunk)).Accounts streams stream := by
  have hread := Drain.read_chunk (Drain.isReading_iff.mp hreading) hne
  have houtput := r.drain.outputOf_chunk stream s chunk
  by_cases hs : s = stream
  · subst hs
    rw [if_pos rfl] at houtput
    have hwhole := h.reading hreading
    rw [hchunk, Option.getD_some] at hwhole
    refine ⟨?_, fun _ => ?_, fun chunk' hchunk' => ?_, fun hend => ?_⟩
    · rw [drain_arrive, hread, houtput, ← hwhole]
      exact List.prefix_append _ _
    · rw [drain_arrive, hread, houtput, inHand_arrive_self, Option.getD_none, List.append_nil]
      exact hwhole
    · rw [inHand_arrive_self] at hchunk'
      cases hchunk'
    · rw [AtEnd, arrive, Drain.ending_concat, Drain.ending_eq_none_of_isReading hreading,
        Option.none_or] at hend
      cases chunk with
      | nil => exact absurd rfl hne
      | cons b bytes => simp [Drain.ending] at hend
  · rw [if_neg hs, List.append_nil] at houtput
    exact h.arrive_of_ne hs (by rw [hread]; exact houtput)

/-- A reader that stops has handed on what it has; at the end of its stream that is all. -/
theorem Accounts.stop {stream s : OutputStream} {result : Except Fault Bytes}
    (h : r.Accounts streams stream) (hreading : r.isReading s)
    (hstop : (result = .ok [] ∧ r.inHand s = none ∧ r.left s = []) ∨
      ∃ fault, result = .error fault) :
    (r.arrive s result).Accounts streams stream := by
  have hsame : ∀ s', (r.drain.read s result).outputOf s' = r.drain.outputOf s' := by
    intro s'
    unfold Drain.outputOf
    rw [Drain.chunks_read (hstop.imp And.left id)]
  by_cases hs : s = stream
  · subst hs
    have hending := Drain.ending_concat s r.reads s result
    rw [Drain.ending_eq_none_of_isReading hreading, Option.none_or] at hending
    refine ⟨?_, fun hgoes => ?_, fun chunk hchunk => ?_, fun hend => ?_⟩
    · rw [drain_arrive, hsame]
      exact h.arrived
    · have hnone := Drain.ending_eq_none_of_isReading hgoes
      rw [arrive, hending] at hnone
      rcases hstop with ⟨rfl, -⟩ | ⟨fault, rfl⟩
      · simp [Drain.ending] at hnone
      · simp [Drain.ending] at hnone
    · rw [inHand_arrive_self] at hchunk
      cases hchunk
    · rw [drain_arrive, hsame]
      rcases hstop with ⟨-, hhand, hleft⟩ | ⟨fault, rfl⟩
      · have hwhole := h.reading hreading
        rwa [hhand, hleft, Option.getD_none, List.append_nil, List.append_nil] at hwhole
      · rw [AtEnd, arrive, hending] at hend
        simp [Drain.ending] at hend
  · exact h.arrive_of_ne hs (hsame stream)

theorem Accounts.step {stream : OutputStream} (h : ∀ stream, r.Accounts streams stream)
    (hstep : r.Step r') : r'.Accounts streams stream := by
  cases hstep with
  | take s chunk rest hreading hhand hne hleft =>
    refine ⟨(h stream).arrived, fun hgoes => ?_, fun chunk' hchunk' => ?_, (h stream).ended⟩
    · have hwhole := (h stream).reading hgoes
      by_cases hs : stream = s
      · subst hs
        rw [hhand, hleft, Option.getD_none, List.append_nil] at hwhole
        rw [drain_take, inHand_take_self, left_take_self, Option.getD_some, List.append_assoc]
        exact hwhole
      · rw [drain_take, inHand_take_of_ne r hs, left_take_of_ne r hs]
        exact hwhole
    · by_cases hs : stream = s
      · subst hs
        rw [inHand_take_self] at hchunk'
        cases hchunk'
        exact hne
      · rw [inHand_take_of_ne r hs] at hchunk'
        exact (h stream).chunk chunk' hchunk'
  | handOn s chunk hreading hchunk =>
    exact (h stream).handOn hreading hchunk ((h s).chunk chunk hchunk)
  | finish s hreading hhand hleft => exact (h stream).stop hreading (.inl ⟨rfl, hhand, hleft⟩)
  | fail s fault hreading => exact (h stream).stop hreading (.inr ⟨fault, rfl⟩)

theorem accounts_of_steps (h : (start streams).Steps r) (stream : OutputStream) :
    r.Accounts streams stream := by
  induction h generalizing stream with
  | refl => exact accounts_start streams stream
  | tail _ hstep ih => exact .step ih hstep

/-- At the ends of both streams the output is an interleaving of the two. -/
theorem interleaves_of_atEnd (h : (start streams).Steps r) (hend : ∀ stream, r.AtEnd stream) :
    Interleaves (streams .stdout) (streams .stderr) r.drain.output := by
  rw [← (accounts_of_steps h .stdout).ended (hend .stdout),
    ← (accounts_of_steps h .stderr).ended (hend .stderr)]
  exact r.drain.interleaves_output

/-- A stream is the whole output when the other one is empty. -/
theorem output_eq_of_atEnd (h : (start streams).Steps r) (hend : ∀ stream, r.AtEnd stream)
    {stream : OutputStream} (hempty : ∀ other, other ≠ stream → streams other = []) :
    r.drain.output = streams stream := by
  have hmixed := interleaves_of_atEnd h hend
  cases stream with
  | stdout =>
    rw [hempty .stderr (by decide)] at hmixed
    exact hmixed.eq_left
  | stderr =>
    rw [hempty .stdout (by decide)] at hmixed
    exact hmixed.eq_right

/-- No reader that has found the end of its stream tells of a fault. -/
theorem fault?_of_atEnd (hend : ∀ stream, r.AtEnd stream) : r.drain.fault? = none := by
  rw [Drain.fault?_eq_none_iff]
  intro stream
  rw [drain, Drain.reader_after, hend stream]
  rfl

end Readers

/-! ## Texts -/

/-- Any bytes can be read as UTF-8. -/
theorem Text.Encoding.read_utf8_eq (bytes : Bytes) :
    Encoding.read "utf-8" bytes = .ok (.ofChars (Utf8.decodeLossy bytes)) := by
  unfold Encoding.read
  have hname : ("utf-8" : String).toList.contains '\x00' = false := by decide
  have hfind : Encoding.find? "utf-8" = some (.text .utf8) := by decide +kernel
  rw [hname, hfind, if_neg Bool.false_ne_true]
  cases bytes with
  | nil =>
    unfold Utf8.decodeLossy Utf8.pieces Utf8.piecesAfter
    rfl
  | cons b rest => rfl

theorem Text.Encoding.read_utf8 (text : String) :
    Encoding.read "utf-8" (Utf8.encodeString text) = .ok (Points.ofString text) := by
  have hread : Utf8.decodeLossy (Utf8.encodeString text) = text.toList :=
    Utf8.decodeLossy_encodeChars text.toList
  rw [Encoding.read_utf8_eq, hread]
  rfl

/-! ## Runs -/

namespace Session

variable {σ : Type} {ops : ChildOps σ} {readers : σ → Readers}

theorem steps_kill (hops : ops.DrainedBy readers) (s : σ) :
    (readers s).Steps (readers (kill ops s)) :=
  (hops.killGroup s).trans (hops.reap _)

theorem steps_finishStream (hops : ops.DrainedBy readers) (patience : Rat)
    (stream : OutputStream) (s : σ) :
    (readers s).Steps (readers (finishStream ops patience stream s)) := by
  have hjoin := hops.join stream patience s
  unfold finishStream
  dsimp only
  split
  · exact hjoin
  · exact hjoin.trans (hops.close stream _)

theorem steps_finishStreams (hops : ops.DrainedBy readers) (p : Patience) (s : σ) :
    (readers s).Steps (readers (finishStreams ops p s)) := by
  have hjoin : (readers s).Steps
      (readers (ops.join .stderr p.grace (ops.join .stdout p.grace s))) :=
    (hops.join .stdout p.grace s).trans (hops.join .stderr p.grace _)
  unfold finishStreams
  dsimp only
  split
  · exact ((hjoin.trans (steps_kill hops _)).trans (steps_finishStream hops _ _ _)).trans
      (steps_finishStream hops _ _ _)
  · exact (hjoin.trans (steps_finishStream hops _ _ _)).trans (steps_finishStream hops _ _ _)

variable {p : Patience} {command encoding : String} {wait : σ → Except Fault Int × σ} {s : σ}

/-- From the start of a run to the moment at which its output is looked at, the readers go on by
their steps. -/
theorem steps_run (hops : ops.DrainedBy readers)
    (hwait : (readers s).Steps (readers (wait s).2)) :
    (readers s).Steps (readers (run ops p command encoding wait s).2) := by
  unfold run
  dsimp only
  split
  · exact (hwait.trans (steps_kill hops _)).trans (steps_finishStreams hops _ _)
  · exact hwait.trans (steps_finishStreams hops _ _)

variable {streams : OutputStream → Bytes}

/-- For any streams, any chunks and any order of the readers' steps. The output of a run is an
interleaving of the start of one stream and the start of the other, and of both streams as they
are when both readers have come to the end; the text of the result is read from all of it. A text
in one of the streams is the result's text when the other one is empty. -/
theorem output_keeps_each_stream_in_order (hops : ops.DrainedBy readers)
    (hstart : readers s = .start streams) (hwait : (readers s).Steps (readers (wait s).2)) :
    (∃ out err, out <+: streams .stdout ∧ err <+: streams .stderr ∧
      Interleaves out err (ops.drain (run ops p command encoding wait s).2).output) ∧
    (∀ result, (run ops p command encoding wait s).1 = .ok result →
      decode encoding (ops.drain (run ops p command encoding wait s).2).output =
        .ok result.output) ∧
    ((∀ stream, (readers (run ops p command encoding wait s).2).AtEnd stream) →
      Interleaves (streams .stdout) (streams .stderr)
        (ops.drain (run ops p command encoding wait s).2).output ∧
      ∀ stream text code, streams stream = Text.Utf8.encodeString text →
        (∀ other, other ≠ stream → streams other = []) → encoding = "utf-8" →
        (wait s).1 = .ok code → 0 ≤ code →
          (run ops p command encoding wait s).1 = .ok ⟨.ofString text, code⟩) := by
  have hsteps : (readers s).Steps (readers (run ops p command encoding wait s).2) :=
    steps_run hops hwait
  rw [hstart] at hsteps
  refine ⟨?_, fun result hresult => ?_, fun hend => ⟨?_, ?_⟩⟩
  · rw [hops.drain]
    exact ⟨_, _, (Readers.accounts_of_steps hsteps .stdout).arrived,
      (Readers.accounts_of_steps hsteps .stderr).arrived, Drain.interleaves_output _⟩
  · rw [run_eq_verdict, verdict_eq_ok_iff] at hresult
    exact hresult.2.2.1
  · rw [hops.drain]
    exact Readers.interleaves_of_atEnd hsteps hend
  · intro stream text code hstream hempty hencoding hcode hpositive
    have houtput := Readers.output_eq_of_atEnd hsteps hend hempty
    rw [run_eq_verdict, verdict_eq_ok_iff, hops.drain, houtput, hstream, hencoding]
    refine ⟨hcode, hpositive, ?_, Readers.fault?_of_atEnd hend⟩
    unfold decode
    rw [Text.Encoding.read_utf8]
    rfl

/-- A program that has ended. A reader that is waited for finds the end of its stream, when it has
handed on all of it. -/
def atRest : ChildOps Readers where
  killGroup := id
  reap := id
  join stream _ r :=
    if r.isReading stream ∧ r.inHand stream = none ∧ r.left stream = [] then
      r.arrive stream (.ok [])
    else r
  close _ r := r
  drain := Readers.drain

theorem drainedBy_atRest : atRest.DrainedBy id := by
  refine ⟨fun _ => rfl, fun _ => .refl, fun _ => .refl, fun stream _ r => ?_, fun _ _ => .refl⟩
  unfold atRest id
  dsimp only
  split
  · rename_i hrest
    obtain ⟨hreading, hhand, hleft⟩ := hrest
    exact .single (.finish stream hreading hhand hleft)
  · exact .refl

/-- A letter of two bytes in one stream, and nothing in the other one. -/
def letter : OutputStream → Bytes
  | .stdout => [0xC3, 0xA9]
  | .stderr => []

/-- While the program is waited for, the two bytes come in two chunks. -/
def letterByHalves (r : Readers) : Except Fault Int × Readers :=
  (.ok 3, (((r.take .stdout [0xC3] [0xA9]).arrive .stdout (.ok [0xC3])).take
    .stdout [0xA9] []).arrive .stdout (.ok [0xA9]))

theorem steps_letterByHalves :
    (Readers.start letter).Steps (letterByHalves (.start letter)).2 := by
  refine .head (.take .stdout [0xC3] [0xA9] rfl rfl (by decide) rfl) ?_
  refine .head (.handOn .stdout [0xC3] rfl rfl) ?_
  refine .head (.take .stdout [0xA9] [] rfl rfl (by decide) rfl) ?_
  exact .single (.handOn .stdout [0xA9] rfl rfl)

/-- A letter that is cut in two by its chunks is read as the letter. -/
theorem a_letter_is_read_from_two_chunks :
    (run atRest .usual "rt" "utf-8" letterByHalves (.start letter)).1 = .ok ⟨.ofString "é", 3⟩ := by
  obtain ⟨-, -, hwhole⟩ := output_keeps_each_stream_in_order (p := .usual) drainedBy_atRest rfl
    steps_letterByHalves
  obtain ⟨-, htext⟩ := hwhole fun stream => by cases stream <;> rfl
  refine htext .stdout "é" 3 (by decide +kernel) (fun other hother => ?_) rfl rfl (by decide)
  cases other with
  | stdout => exact absurd rfl hother
  | stderr => rfl

end Session

end Worksheet
