-- Characters in a mixed output. The bytes of the two streams come into one buffer chunk by chunk
-- and are read together, so a character is kept only if no chunk of the other stream comes while it
-- is incomplete.
import Mathlib.Data.List.Induction
import Worksheet.Proofs.OutputOrder
import Worksheet.Proofs.WholeTexts

namespace Worksheet

open Text (Bytes)
open Text.Utf8

namespace Interleaves

variable {α : Type} {as bs cs : List α}

theorem perm (h : Interleaves as bs cs) : cs.Perm (as ++ bs) := by
  induction h with
  | nil => exact .nil
  | left _ ih => exact ih.cons _
  | right _ ih => exact (ih.cons _).trans List.perm_middle.symm

end Interleaves

namespace Drain

/-- What comes from one stream, of some chunks in the order of their arrival. -/
def bytesOf (stream : OutputStream) (chunks : List (OutputStream × Bytes)) : Bytes :=
  (chunks.filter fun c => c.1 = stream).flatMap (·.2)

/-- Whenever a chunk of a stream comes, the other stream is at the end of a character. -/
def Unbroken (chunks : List (OutputStream × Bytes)) : Prop :=
  ∀ before stream chunk after other, chunks = before ++ (stream, chunk) :: after →
    other ≠ stream → Whole (bytesOf other before)

/-- What has come is whole but for the tail of one stream. -/
def Pending (chunks : List (OutputStream × Bytes)) (stream : OutputStream) (tail : Bytes) : Prop :=
  ∃ (texts : OutputStream → List Char) (cs : List Char),
    Interleaves (texts .stdout) (texts .stderr) cs ∧
    (∀ s, bytesOf s chunks = encodeChars (texts s) ++ if s = stream then tail else []) ∧
    chunks.flatMap (·.2) = encodeChars cs ++ tail

variable {chunks before after : List (OutputStream × Bytes)} {stream s : OutputStream}
  {chunk tail : Bytes} {texts : OutputStream → List Char}

theorem bytesOf_append (stream : OutputStream) (before after : List (OutputStream × Bytes)) :
    bytesOf stream (before ++ after) = bytesOf stream before ++ bytesOf stream after := by
  unfold bytesOf
  rw [List.filter_append, List.flatMap_append]

theorem bytesOf_cons (stream s : OutputStream) (chunk : Bytes)
    (chunks : List (OutputStream × Bytes)) :
    bytesOf stream ((s, chunk) :: chunks) =
      (if stream = s then chunk else []) ++ bytesOf stream chunks := by
  unfold bytesOf
  by_cases hs : stream = s
  · simp [hs]
  · simp [hs, Ne.symm hs]

theorem bytesOf_nil (stream : OutputStream) : bytesOf stream [] = [] := rfl

/-! ## Chunk by chunk -/

theorem pending_nil (stream : OutputStream) : Pending [] stream [] :=
  ⟨fun _ => [], [], .nil, fun s => by cases s <;> cases stream <;> rfl, rfl⟩

/-- A chunk of the same stream adds to the tail. -/
theorem Pending.goOn (h : Pending chunks stream tail) (chunk : Bytes) :
    Pending (chunks ++ [(stream, chunk)]) stream (tail ++ chunk) := by
  obtain ⟨texts, cs, hmixed, hstreams, houtput⟩ := h
  refine ⟨texts, cs, hmixed, fun s => ?_, ?_⟩
  · rw [bytesOf_append, bytesOf_cons, bytesOf_nil, hstreams]
    by_cases hs : s = stream <;> simp [hs]
  · rw [List.flatMap_append, houtput, List.append_assoc]
    simp

/-- Characters that come from one stream. -/
theorem interleaves_update {cs : List Char} (h : Interleaves (texts .stdout) (texts .stderr) cs)
    (stream : OutputStream) (more : List Char) :
    Interleaves (Function.update texts stream (texts stream ++ more) .stdout)
      (Function.update texts stream (texts stream ++ more) .stderr) (cs ++ more) := by
  cases stream with
  | stdout => simpa using h.append (.onlyLeft more)
  | stderr => simpa using h.append (.onlyRight more)

/-- A tail of whole characters is no tail, and the next chunk may come from any stream. -/
theorem Pending.change (h : Pending chunks stream tail) (htail : Whole tail) (s : OutputStream) :
    Pending chunks s [] := by
  obtain ⟨texts, cs, hmixed, hstreams, houtput⟩ := h
  obtain ⟨more, rfl⟩ := htail
  refine ⟨_, _, interleaves_update hmixed stream more, fun s' => ?_, ?_⟩
  · rw [hstreams s', ite_self, List.append_nil]
    by_cases hs : s' = stream
    · subst hs
      rw [if_pos rfl, Function.update_self, encodeChars_append]
    · rw [if_neg hs, Function.update_of_ne hs, List.append_nil]
  · rw [houtput, encodeChars_append, List.append_nil]

/-- A stream is at the end of a character when its tail is. -/
theorem Pending.whole_iff (h : Pending chunks stream tail) :
    Whole (bytesOf stream chunks) ↔ Whole tail := by
  obtain ⟨texts, -, -, hstreams, -⟩ := h
  rw [hstreams stream, if_pos rfl]
  constructor
  · rintro ⟨all, hall⟩
    obtain ⟨more, -, hmore⟩ := encodeChars_append_eq hall
    exact ⟨more, hmore⟩
  · rintro ⟨more, rfl⟩
    exact ⟨_, (encodeChars_append _ more).symm⟩

theorem Pending.whole_of_ne (h : Pending chunks stream tail) (hs : s ≠ stream) :
    Whole (bytesOf s chunks) := by
  obtain ⟨texts, -, -, hstreams, -⟩ := h
  rw [hstreams s, if_neg hs, List.append_nil]
  exact whole_encodeChars _

/-- The next chunk is added to what has come: it comes from the stream with the tail, or the tail is
whole. -/
theorem Pending.add (h : Pending chunks stream tail) (s : OutputStream) (chunk : Bytes)
    (hchange : s ≠ stream → Whole tail) :
    ∃ tail', Pending (chunks ++ [(s, chunk)]) s tail' := by
  by_cases hs : s = stream
  · subst hs
    exact ⟨_, h.goOn chunk⟩
  · exact ⟨_, (h.change (hchange hs) s).goOn chunk⟩

theorem unbroken_of_append (h : Unbroken (before ++ after)) : Unbroken before := by
  rintro b s chunk a other rfl hother
  exact h b s chunk (a ++ after) other (by simp) hother

/-- As long as no character is broken, all that has come is whole but for one tail. -/
theorem pending_of_unbroken (h : Unbroken chunks) : ∃ stream tail, Pending chunks stream tail := by
  induction chunks using List.reverseRecOn with
  | nil => exact ⟨.stdout, [], pending_nil .stdout⟩
  | append_singleton chunks c ih =>
    obtain ⟨s, chunk⟩ := c
    obtain ⟨stream, tail, hpending⟩ := ih (unbroken_of_append h)
    obtain ⟨tail', hadded⟩ := hpending.add s chunk fun hs =>
      hpending.whole_iff.mp (h chunks s chunk [] stream rfl (Ne.symm hs))
    exact ⟨s, tail', hadded⟩

/-! ## The whole output -/

theorem interleaves_bytesOf (chunks : List (OutputStream × Bytes)) :
    Interleaves (bytesOf .stdout chunks) (bytesOf .stderr chunks) (chunks.flatMap (·.2)) := by
  simpa [outputOf, output, bytesOf] using interleaves_output ⟨chunks.reverse, .reading, .reading⟩

section Output

variable (hstreams : ∀ s, bytesOf s chunks = encodeChars (texts s))

include hstreams

/-- Unbroken characters come out as they went in. -/
theorem interleaves_of_unbroken (h : Unbroken chunks) : ∃ cs,
    chunks.flatMap (·.2) = encodeChars cs ∧ Interleaves (texts .stdout) (texts .stderr) cs := by
  obtain ⟨stream, tail, hpending⟩ := pending_of_unbroken h
  have htail : Whole tail := hpending.whole_iff.mp (hstreams stream ▸ whole_encodeChars _)
  obtain ⟨texts', cs, hmixed, hsame, houtput⟩ := hpending.change htail stream
  have htexts : ∀ s, texts' s = texts s := by
    intro s
    have hbytes := hsame s
    rw [ite_self, List.append_nil, hstreams s] at hbytes
    exact (encodeChars_inj hbytes).symm
  rw [htexts, htexts] at hmixed
  exact ⟨cs, by rw [houtput, List.append_nil], hmixed⟩

/-- When the output is whole, a chunk of the other stream can only come where a character ends: it
begins with the first byte of one. -/
theorem whole_of_change (houtput : Whole (chunks.flatMap (·.2)))
    (hchunks : chunks = before ++ (s, chunk) :: after) (hchunk : chunk ≠ [])
    (hpending : Pending before stream tail) (hs : s ≠ stream) : Whole tail := by
  obtain ⟨texts', cs, -, hsame, hbefore⟩ := hpending
  obtain ⟨all, hall⟩ := houtput
  obtain ⟨b, rest, rfl⟩ := List.exists_cons_of_ne_nil hchunk
  have hlead : isContinuation b = false := by
    have hbytes := hstreams s
    rw [hchunks, bytesOf_append, bytesOf_cons, if_pos rfl, hsame s, if_neg hs, List.append_nil,
      List.cons_append] at hbytes
    obtain ⟨more, -, hmore⟩ := encodeChars_append_eq hbytes
    exact isContinuation_of_cons hmore
  rw [hchunks, List.flatMap_append, hbefore, List.flatMap_cons, List.append_assoc,
    List.cons_append] at hall
  obtain ⟨more, -, hmore⟩ := encodeChars_append_eq hall
  exact whole_of_append_cons ⟨more, hmore⟩ hlead

theorem pending_of_whole (houtput : Whole (chunks.flatMap (·.2)))
    (hne : ∀ c ∈ chunks, c.2 ≠ []) (hchunks : chunks = before ++ after) :
    ∃ stream tail, Pending before stream tail := by
  induction before using List.reverseRecOn generalizing after with
  | nil => exact ⟨.stdout, [], pending_nil .stdout⟩
  | append_singleton before c ih =>
    obtain ⟨s, chunk⟩ := c
    rw [List.append_assoc, List.singleton_append] at hchunks
    obtain ⟨stream, tail, hpending⟩ := ih hchunks
    have hchunk : chunk ≠ [] := hne (s, chunk) (by simp [hchunks])
    obtain ⟨tail', hadded⟩ := hpending.add s chunk
      (whole_of_change hstreams houtput hchunks hchunk hpending)
    exact ⟨s, tail', hadded⟩

/-- Characters are broken in every output but a whole one. -/
theorem unbroken_of_whole (houtput : Whole (chunks.flatMap (·.2)))
    (hne : ∀ c ∈ chunks, c.2 ≠ []) : Unbroken chunks := by
  intro before s chunk after other hchunks hother
  obtain ⟨stream, tail, hpending⟩ := pending_of_whole hstreams houtput hne hchunks
  have hchunk : chunk ≠ [] := hne (s, chunk) (by simp [hchunks])
  by_cases hs : other = stream
  · subst hs
    exact hpending.whole_iff.mpr
      (whole_of_change hstreams houtput hchunks hchunk hpending (Ne.symm hother))
  · exact hpending.whole_of_ne hs

/-- The output is whole when it is read as so many characters as have gone in. -/
theorem whole_of_length (hlength : (decodeLossy (chunks.flatMap (·.2))).length =
    (texts .stdout).length + (texts .stderr).length) : Whole (chunks.flatMap (·.2)) := by
  have hperm := (interleaves_bytesOf chunks).perm
  rw [hstreams, hstreams, ← encodeChars_append] at hperm
  obtain ⟨hbegun, hdue⟩ := counts_encodeChars (texts .stdout ++ texts .stderr)
  have hdue' : due (chunks.flatMap (·.2)) = (chunks.flatMap (·.2)).length := by
    rw [hperm.length_eq, ← hdue]
    exact (hperm.map announced).sum_nat
  have hbegun' : begun (chunks.flatMap (·.2)) =
      (texts .stdout).length + (texts .stderr).length := by
    rw [← List.length_append, ← hbegun]
    exact hperm.countP_eq _
  exact ⟨_, whole_of_counts hdue' (Nat.le_of_eq (hlength.trans hbegun'.symm))⟩

/-- Characters come out as they went in exactly when none is broken; otherwise their numbers are not
even the same. -/
theorem unbroken_iff (hne : ∀ c ∈ chunks, c.2 ≠ []) {text : List Char}
    (htext : text = decodeLossy (chunks.flatMap (·.2))) :
    (Unbroken chunks ↔ Interleaves (texts .stdout) (texts .stderr) text) ∧
    (Unbroken chunks ↔
      ∀ c, text.count c = (texts .stdout).count c + (texts .stderr).count c) := by
  have hmixed : Unbroken chunks → Interleaves (texts .stdout) (texts .stderr) text := by
    intro h
    obtain ⟨cs, houtput, hcs⟩ := interleaves_of_unbroken hstreams h
    rw [htext, houtput, decodeLossy_encodeChars]
    exact hcs
  have hcounts : Interleaves (texts .stdout) (texts .stderr) text →
      ∀ c, text.count c = (texts .stdout).count c + (texts .stderr).count c := by
    intro h c
    rw [h.perm.count_eq, List.count_append]
  have hunbroken : (∀ c, text.count c = (texts .stdout).count c + (texts .stderr).count c) →
      Unbroken chunks := by
    intro h
    have hperm : text.Perm (texts .stdout ++ texts .stderr) :=
      List.perm_iff_count.mpr fun c => by rw [h, List.count_append]
    have hlength := hperm.length_eq
    rw [htext, List.length_append] at hlength
    exact unbroken_of_whole hstreams (whole_of_length hstreams hlength) hne
  exact ⟨⟨hmixed, fun h => hunbroken (hcounts h)⟩, fun h => hcounts (hmixed h), hunbroken⟩

end Output

/-- No empty chunk is kept. -/
theorem ne_nil_of_mem_chunks (reads : List (OutputStream × Except Fault Bytes)) :
    ∀ c ∈ (Drain.after reads).chunks, c.2 ≠ [] := by
  induction reads using List.reverseRecOn with
  | nil => exact fun c hc => nomatch hc
  | append_singleton reads r ih =>
    obtain ⟨stream, result⟩ := r
    rw [after_concat]
    unfold read
    split
    · exact ih
    · rw [chunks_setReader]
      exact ih
    · rw [chunks_setReader]
      exact ih
    · rintro c hc
      rcases List.mem_cons.mp hc with rfl | hc
      · exact List.cons_ne_nil _ _
      · exact ih c hc

end Drain

/-! ## Runs -/

namespace Session

variable {σ : Type} {ops : ChildOps σ} {readers : σ → Readers} {p : Patience} {command : String}
  {wait : σ → Except Fault Int × σ} {s : σ} {streams : OutputStream → Bytes}

/-- For any texts that a program writes, any chunks that they are read in, and any order of their
arrival. A run that ends without a fault has a result. Its text is an interleaving of the two texts
exactly when no chunk of one stream comes while a character of the other one is incomplete; and if
one does, then some character does not come out as often as it went in. -/
theorem characters_are_kept_unless_the_other_stream_cuts_in (hops : ops.DrainedBy readers)
    (hstart : readers s = .start streams) (hwait : (readers s).Steps (readers (wait s).2))
    (hend : ∀ stream, (readers (run ops p command "utf-8" wait s).2).AtEnd stream)
    {texts : OutputStream → String}
    (htexts : ∀ stream, streams stream = encodeString (texts stream)) {code : Int}
    (hcode : (wait s).1 = .ok code) (hpositive : 0 ≤ code) :
    ∃ text : List Char,
      (run ops p command "utf-8" wait s).1 = .ok ⟨.ofChars text, code⟩ ∧
      (Drain.Unbroken (ops.drain (run ops p command "utf-8" wait s).2).chunks.reverse ↔
        Interleaves (texts .stdout).toList (texts .stderr).toList text) ∧
      (Drain.Unbroken (ops.drain (run ops p command "utf-8" wait s).2).chunks.reverse ↔
        ∀ c, text.count c = (texts .stdout).toList.count c + (texts .stderr).toList.count c) := by
  have hsteps : (readers s).Steps (readers (run ops p command "utf-8" wait s).2) :=
    steps_run hops hwait
  rw [hstart] at hsteps
  have hstreams : ∀ stream, Drain.bytesOf stream
      (ops.drain (run ops p command "utf-8" wait s).2).chunks.reverse =
        encodeChars (texts stream).toList := by
    intro stream
    rw [hops.drain]
    exact ((Readers.accounts_of_steps hsteps stream).ended (hend stream)).trans (htexts stream)
  have hne : ∀ c ∈ (ops.drain (run ops p command "utf-8" wait s).2).chunks.reverse,
      c.2 ≠ [] := by
    intro c hc
    rw [List.mem_reverse, hops.drain] at hc
    exact Drain.ne_nil_of_mem_chunks _ c hc
  refine ⟨_, ?_, Drain.unbroken_iff hstreams hne rfl⟩
  rw [run_eq_verdict, verdict_eq_ok_iff]
  refine ⟨hcode, hpositive, ?_, ?_⟩
  · unfold decode
    rw [Text.Encoding.read_utf8_eq]
    rfl
  · rw [hops.drain]
    exact Readers.fault?_of_atEnd hend

/-- A letter of two bytes in one stream, and one of one byte in the other. -/
def letters : OutputStream → String
  | .stdout => "é"
  | .stderr => "x"

def letterBytes : OutputStream → Bytes
  | .stdout => [0xC3, 0xA9]
  | .stderr => [0x78]

theorem letterBytes_eq (stream : OutputStream) :
    letterBytes stream = encodeString (letters stream) := by
  cases stream <;> decide

/-- A chunk is read and handed on at once. -/
def deliver (stream : OutputStream) (chunk rest : Bytes) (r : Readers) : Readers :=
  (r.take stream chunk rest).arrive stream (.ok chunk)

theorem steps_deliver {r : Readers} (stream : OutputStream) (chunk rest : Bytes)
    (hreading : r.isReading stream = true) (hhand : r.inHand stream = none) (hne : chunk ≠ [])
    (hleft : r.left stream = chunk ++ rest) : r.Steps (deliver stream chunk rest r) := by
  refine .head (.take stream chunk rest hreading hhand hne hleft)
    (.single (.handOn stream chunk hreading ?_))
  exact r.inHand_take_self stream chunk rest

/-- While the program is waited for, its first letter comes in two chunks, and then the other. -/
def inTurn (r : Readers) : Except Fault Int × Readers :=
  (.ok 0, deliver .stderr [0x78] [] (deliver .stdout [0xA9] [] (deliver .stdout [0xC3] [0xA9] r)))

/-- The other letter comes between the two chunks of the first. -/
def cutInTwo (r : Readers) : Except Fault Int × Readers :=
  (.ok 0, deliver .stdout [0xA9] [] (deliver .stderr [0x78] [] (deliver .stdout [0xC3] [0xA9] r)))

theorem steps_inTurn : (Readers.start letterBytes).Steps (inTurn (.start letterBytes)).2 := by
  exact ((steps_deliver .stdout [0xC3] [0xA9] rfl rfl (by decide) rfl).trans
    (steps_deliver .stdout [0xA9] [] rfl rfl (by decide) rfl)).trans
    (steps_deliver .stderr [0x78] [] rfl rfl (by decide) rfl)

/-- Two letters are kept when the second one waits for the first. -/
theorem letters_in_turn_are_kept : ∃ text : List Char,
    (run atRest .usual "rt" "utf-8" inTurn (.start letterBytes)).1 = .ok ⟨.ofChars text, 0⟩ ∧
    Interleaves (letters .stdout).toList (letters .stderr).toList text := by
  have hend : ∀ stream, Readers.AtEnd
      (id (run atRest .usual "rt" "utf-8" inTurn (.start letterBytes)).2) stream := fun stream => by
    cases stream <;> rfl
  obtain ⟨text, hrun, hmixed, -⟩ := characters_are_kept_unless_the_other_stream_cuts_in
    drainedBy_atRest rfl steps_inTurn hend letterBytes_eq rfl (Int.le_refl 0)
  refine ⟨text, hrun, hmixed.mp ?_⟩
  have hstreams : ∀ stream, Drain.bytesOf stream
      [(.stdout, [0xC3]), (.stdout, [0xA9]), (.stderr, [0x78])] =
        encodeChars (letters stream).toList := fun stream => by
    cases stream <;> decide
  exact Drain.unbroken_of_whole hstreams ⟨"éx".toList, by decide⟩ (by decide)

/-- A letter that the other stream cuts in two comes out as two other characters. -/
theorem a_letter_is_cut_in_two_by_the_other_stream :
    (Readers.start letterBytes).Steps (cutInTwo (.start letterBytes)).2 ∧
    (run atRest .usual "rt" "utf-8" cutInTwo (.start letterBytes)).1 =
      .ok ⟨.ofChars [replacement, 'x', replacement], 0⟩ ∧
    ¬Interleaves (letters .stdout).toList (letters .stderr).toList
      [replacement, 'x', replacement] := by
  refine ⟨?_, ?_, ?_⟩
  · exact ((steps_deliver .stdout [0xC3] [0xA9] rfl rfl (by decide) rfl).trans
      (steps_deliver .stderr [0x78] [] rfl rfl (by decide) rfl)).trans
      (steps_deliver .stdout [0xA9] [] rfl rfl (by decide) rfl)
  · rw [run_eq_verdict, verdict_eq_ok_iff]
    refine ⟨rfl, Int.le_refl 0, ?_, rfl⟩
    change decode "utf-8" [0xC3, 0x78, 0xA9] = _
    unfold decode
    rw [Text.Encoding.read_utf8_eq]
    have hread : decodeLossy [0xC3, 0x78, 0xA9] = [replacement, 'x', replacement] := by
      decide +kernel
    rw [hread]
    rfl
  · intro h
    exact absurd h.perm.length_eq (by decide)

end Session

end Worksheet
