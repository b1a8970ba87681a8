-- What the reader of `javac`'s output makes of a whole text. The text falls into blocks, each a
-- line of a known form and the lines up to the next one, and each block tells one diagnostic at
-- most. The diagnostics of two texts in a row are those of the one and then those of the other,
-- unless the second text begins with lines that still belong to the last block of the first.
import Mathlib.Data.List.Basic
import Worksheet.Proofs.JavacLines

namespace Worksheet

/-! ## Lines of two texts in a row -/

namespace Text

theorem splitLines_line {line rest : List Char} {e : Char}
    (hline : ∀ c ∈ line, isLineEnd c = false) (he : isLineEnd e = true) :
    splitLines (line ++ e :: rest) = line :: splitLines (dropLineEnd (e :: rest)) := by
  have hnot : ∀ c ∈ line, (!isLineEnd c) = true := fun c hc => by rw [hline c hc]; rfl
  have htake : (line ++ e :: rest).takeWhile (fun d => !isLineEnd d) = line := by
    rw [List.takeWhile_append_of_pos hnot, List.takeWhile_cons_of_neg (by simp [he]),
      List.append_nil]
  have hdrop : (line ++ e :: rest).dropWhile (fun d => !isLineEnd d) = e :: rest := by
    rw [List.dropWhile_append_of_pos hnot, List.dropWhile_cons_of_neg (by simp [he])]
  obtain ⟨c, cs, hcs⟩ := List.exists_cons_of_ne_nil
    (show line ++ e :: rest ≠ [] by simp)
  rw [hcs] at htake hdrop ⊢
  rw [splitLines]
  split
  · next hnone => simp [hdrop] at hnone
  · next e' rest' hsome =>
    obtain ⟨rfl, rfl⟩ := List.cons.inj (hdrop.symm.trans hsome)
    rw [htake]

theorem splitLines_of_no_end {line : List Char} (hne : line ≠ [])
    (hline : ∀ c ∈ line, isLineEnd c = false) : splitLines line = [line] := by
  have hnot : ∀ c ∈ line, (!isLineEnd c) = true := fun c hc => by rw [hline c hc]; rfl
  have htake : line.takeWhile (fun d => !isLineEnd d) = line := List.takeWhile_eq_self_iff.mpr hnot
  have hdrop : line.dropWhile (fun d => !isLineEnd d) = [] := List.dropWhile_eq_nil_iff.mpr hnot
  obtain ⟨c, cs, rfl⟩ := List.exists_cons_of_ne_nil hne
  rw [splitLines]
  split
  · rw [htake]
  · next hsome => simp [hdrop] at hsome

theorem dropLineEnd_append {e : Char} {rest : List Char}
    (h : (e :: rest).getLast? = some '\n') (b : List Char) :
    dropLineEnd (e :: (rest ++ b)) = dropLineEnd (e :: rest) ++ b := by
  cases rest with
  | nil =>
    obtain rfl : e = '\n' := by simpa using h
    rfl
  | cons d rest =>
    by_cases hboth : e = '\r' ∧ d = '\n'
    · obtain ⟨rfl, rfl⟩ := hboth
      rfl
    · have hone : ∀ cs, dropLineEnd (e :: d :: cs) = d :: cs := fun cs => by
        unfold dropLineEnd
        split <;> simp_all
      rw [List.cons_append, hone, hone, List.cons_append]

theorem getLast?_dropLineEnd {e : Char} {rest : List Char}
    (h : (e :: rest).getLast? = some '\n') (hne : dropLineEnd (e :: rest) ≠ []) :
    (dropLineEnd (e :: rest)).getLast? = some '\n' := by
  have hsuffix : dropLineEnd (e :: rest) <:+ e :: rest := by
    unfold dropLineEnd
    split
    · next heq => exact heq ▸ (List.suffix_cons _ _).trans (List.suffix_cons _ _)
    · next heq => exact heq ▸ List.suffix_cons _ _
    · next heq => cases heq
  obtain ⟨before, hbefore⟩ := hsuffix
  rwa [← hbefore, List.getLast?_append_of_ne_nil before hne] at h

/-- A text that ends in a line feed ends a line there, so the next text begins a new one. -/
theorem splitLines_append {a : List Char} (ha : a.getLast? = some '\n') (b : List Char) :
    splitLines (a ++ b) = splitLines a ++ splitLines b := by
  fun_induction splitLines a with
  | case1 => cases ha
  | case2 c cs line hdrop =>
    have hend : isLineEnd '\n' = true := by decide
    have hmem := List.dropWhile_eq_nil_iff.mp hdrop '\n' (List.mem_of_getLast? ha)
    simp [hend] at hmem
  | case3 c cs line e rest hdrop ih =>
    have hline : ∀ d ∈ line, isLineEnd d = false := fun d hd => by
      simpa using List.mem_takeWhile_imp hd
    have he : isLineEnd e = true := by
      have hne : (c :: cs).dropWhile (fun d => !isLineEnd d) ≠ [] := by simp [hdrop]
      have := List.head_dropWhile_not (fun d => !isLineEnd d) hne
      simpa [hdrop] using this
    have hsplit : c :: cs = line ++ e :: rest := by
      rw [← hdrop]
      exact (List.takeWhile_append_dropWhile).symm
    have hlast : (e :: rest).getLast? = some '\n' := by
      rwa [hsplit, List.getLast?_append_of_ne_nil line (List.cons_ne_nil e rest)] at ha
    rw [hsplit, List.append_assoc, List.cons_append, splitLines_line hline he,
      dropLineEnd_append hlast, List.cons_append]
    by_cases hnil : dropLineEnd (e :: rest) = []
    · simp [hnil, splitLines]
    · rw [ih (getLast?_dropLineEnd hlast hnil)]

/-- Digits without low lines between them are one group. -/
theorem ungroup_of_digits {digits : List Char} (h : ∀ c ∈ digits, isDigit c = true)
    {wasDigit : Bool} (hne : wasDigit = true ∨ digits ≠ []) :
    ungroup wasDigit digits = some digits := by
  induction digits generalizing wasDigit with
  | nil => simp [ungroup, hne.resolve_right (by simp)]
  | cons c rest ih =>
    have hc : isDigit c = true := h c List.mem_cons_self
    have hline : c ≠ '_' := by
      rintro rfl
      exact absurd hc (by decide)
    have hrest : ungroup true rest = some rest :=
      ih (fun d hd => h d (List.mem_cons_of_mem _ hd)) (.inl rfl)
    simp [ungroup, hline, hc, hrest]

theorem readDigits_of_digits {digits : List Char} (h : ∀ c ∈ digits, isDigit c = true)
    (hne : digits ≠ []) :
    readDigits digits = if digits.length > maxDigits then .error (.tooLong digits.length)
      else .ok (digitsValue digits) := by
  simp only [readDigits, ungroup_of_digits h (.inr hne)]

end Text

namespace JavacOutput

open Text

/-! ## Blocks -/

/-- A line that ends the block before it. -/
def isBoundary (cs : List Char) : Bool := kindOf cs != .other

/-- The lines before the first boundary. -/
def leading (lines : List (List Char)) : List (List Char) :=
  lines.takeWhile fun cs => !isBoundary cs

structure Block where
  opening : List Char
  body : List (List Char)

/-- Each boundary with the lines up to the next one. -/
def blocks : List (List Char) → List Block
  | [] => []
  | cs :: rest => if isBoundary cs then ⟨cs, leading rest⟩ :: blocks rest else blocks rest

@[simp]
theorem leading_nil : leading [] = [] := rfl

theorem leading_cons_of_boundary {cs : List Char} (h : isBoundary cs = true)
    (rest : List (List Char)) : leading (cs :: rest) = [] :=
  List.takeWhile_cons_of_neg (by simp [h])

theorem leading_cons_of_other {cs : List Char} (h : isBoundary cs = false)
    (rest : List (List Char)) : leading (cs :: rest) = cs :: leading rest :=
  List.takeWhile_cons_of_pos (by simp [h])

@[simp]
theorem blocks_nil : blocks [] = [] := rfl

theorem blocks_cons_of_boundary {cs : List Char} (h : isBoundary cs = true)
    (rest : List (List Char)) : blocks (cs :: rest) = ⟨cs, leading rest⟩ :: blocks rest :=
  if_pos h

theorem blocks_cons_of_other {cs : List Char} (h : isBoundary cs = false)
    (rest : List (List Char)) : blocks (cs :: rest) = blocks rest :=
  if_neg (by simp [h])

/-- Lines that extend a message: without the blanks around them, and none that is empty then. -/
def continuation (lines : List (List Char)) : List (List Char) :=
  (lines.map trimBlank).filter fun cs => !cs.isEmpty

/-- The lines after the first caret line. -/
def afterCaret : List (List Char) → List (List Char)
  | [] => []
  | cs :: rest => if (caretIndent? cs).isSome then rest else afterCaret rest

namespace Block

def lines (b : Block) : List (List Char) := b.opening :: b.body

/-- The column that the first caret line of a block tells. -/
def column? (b : Block) : Option Int :=
  (b.body.findSome? caretIndent?).map fun indent => (indent : Int) + 1

/-- What a block tells. Under a line with a place the source is echoed, and its message goes on
after the caret. -/
def diagnostic? (b : Block) : Option Diagnostic :=
  match kindOf b.opening with
  | .header digits severity message =>
    some ⟨severity,
      String.ofList (Pending.joined (message :: continuation (afterCaret b.body))),
      some ⟨digitsValue digits, b.column?⟩⟩
  | .bare severity message =>
    some ⟨severity, String.ofList (Pending.joined (message :: continuation b.body)), none⟩
  | .note message => some ⟨.info, String.ofList message, none⟩
  | .summary => none
  | .other => none

/-- The block with more lines at its end. -/
def extended (b : Block) (lines : List (List Char)) : Block := ⟨b.opening, b.body ++ lines⟩

end Block

/-- What the blocks of a text tell, in order. -/
def told (output : List Char) : List Diagnostic :=
  (blocks (splitLines output)).filterMap Block.diagnostic?

/-- No line with a place has a longer number than numbers are read. -/
def isReadable (output : List Char) : Bool :=
  (splitLines output).all fun cs =>
    match kindOf cs with
    | .header digits _ _ => digits.length ≤ maxDigits
    | _ => true

/-- The lines that the second text begins with tell nothing more of the last block of the
first. -/
def SetApart (a b : List Char) : Prop :=
  ∀ block ∈ (blocks (splitLines a)).getLast?,
    (block.extended (leading (splitLines b))).diagnostic? = block.diagnostic?

/-! ## One block is read -/

@[simp]
theorem continuation_nil : continuation [] = [] := rfl

theorem continuation_cons (cs : List Char) (lines : List (List Char)) :
    continuation (cs :: lines) =
      if (trimBlank cs).isEmpty then continuation lines
      else trimBlank cs :: continuation lines := by
  unfold continuation
  rw [List.map_cons, List.filter_cons]
  cases (trimBlank cs).isEmpty <;> rfl

theorem afterCaret_of_none {lines : List (List Char)} (h : lines.findSome? caretIndent? = none) :
    afterCaret lines = [] := by
  induction lines with
  | nil => rfl
  | cons cs rest ih =>
    obtain ⟨hcs, hrest⟩ := List.findSome?_eq_none_iff.mp h |> List.forall_mem_cons.mp
    simp only [afterCaret, hcs, Option.isSome_none, Bool.false_eq_true, if_false]
    exact ih (List.findSome?_eq_none_iff.mpr hrest)

namespace Pending

/-- After the caret each line extends the message, a second caret too. -/
theorem foldl_extend_of_seen (p : Pending) (hseen : p.caretSeen = true)
    (lines : List (List Char)) : lines.foldl extend p =
      { p with message := (continuation lines).reverse ++ p.message } := by
  induction lines generalizing p with
  | nil => rfl
  | cons cs rest ih =>
    have hstep : p.extend cs = if (trimBlank cs).isEmpty then p
        else { p with message := trimBlank cs :: p.message } := by
      simp only [extend, hseen]
    rw [List.foldl_cons, hstep, continuation_cons]
    split
    · exact ih p hseen
    · exact (ih { p with message := trimBlank cs :: p.message } hseen).trans (by simp)

/-- Before the caret lines do not count, and the first caret gives the column. -/
theorem foldl_extend_of_not_seen (p : Pending) (hseen : p.caretSeen = false)
    (lines : List (List Char)) : lines.foldl extend p =
      match lines.findSome? caretIndent? with
      | none => p
      | some indent =>
        { p with
          column := some (indent + 1)
          caretSeen := true
          message := (continuation (afterCaret lines)).reverse ++ p.message } := by
  induction lines with
  | nil => rfl
  | cons cs rest ih =>
    rw [List.foldl_cons, List.findSome?_cons]
    cases hcaret : caretIndent? cs with
    | none =>
      have hstep : p.extend cs = p := by simp only [extend, hcaret, hseen]
      simp only [hstep, ih, afterCaret, hcaret, Option.isSome_none, Bool.false_eq_true, if_false]
    | some indent =>
      have hstep : p.extend cs = { p with column := some (indent + 1), caretSeen := true } := by
        simp only [extend, hcaret, hseen]
      rw [hstep, foldl_extend_of_seen _ rfl]
      simp [afterCaret, hcaret]

/-- What becomes of a diagnostic with a place. -/
theorem diagnostic_of_header (severity : Severity) (message : List Char) (line : Int)
    (lines : List (List Char)) :
    (lines.foldl extend ⟨severity, [message], some line, none, false⟩).diagnostic =
      ⟨severity, String.ofList (joined (message :: continuation (afterCaret lines))),
        some ⟨line, (lines.findSome? caretIndent?).map fun indent => (indent : Int) + 1⟩⟩ := by
  rw [foldl_extend_of_not_seen _ rfl]
  cases hcaret : lines.findSome? caretIndent? with
  | none => simp [diagnostic, afterCaret_of_none hcaret]
  | some indent => simp [diagnostic]

/-- What becomes of a diagnostic without a place. -/
theorem diagnostic_of_bare (severity : Severity) (message : List Char)
    (lines : List (List Char)) :
    (lines.foldl extend ⟨severity, [message], none, none, true⟩).diagnostic =
      ⟨severity, String.ofList (joined (message :: continuation lines)), none⟩ := by
  rw [foldl_extend_of_seen _ rfl]
  simp [diagnostic]

end Pending

namespace Progress

/-- The progress after lines that are no boundaries. -/
def goneOn (p : Progress) (lines : List (List Char)) : Progress :=
  { p with pending := p.pending.map fun opened => lines.foldl Pending.extend opened }

@[simp]
theorem goneOn_nil (p : Progress) : p.goneOn [] = p := by
  cases p with
  | mk finished pending => cases pending <;> rfl

theorem goneOn_cons (p : Progress) (cs : List Char) (lines : List (List Char)) :
    p.goneOn (cs :: lines) = (p.goneOn [cs]).goneOn lines := by
  cases p with
  | mk finished pending => cases pending <;> rfl

theorem readLine_of_other (p : Progress) {cs : List Char} (h : isBoundary cs = false) :
    p.readLine cs = .ok (p.goneOn [cs]) := by
  have hkind : kindOf cs = .other := by simpa [isBoundary] using h
  simp only [readLine, hkind]
  rfl

/-- A boundary ends the diagnostic before it, and with the lines after it tells its own. -/
theorem readLine_of_boundary (p : Progress) {cs : List Char} (h : isBoundary cs = true)
    (hread : ∀ digits severity message, kindOf cs = .header digits severity message →
      digits.length ≤ maxDigits) :
    ∃ q, p.readLine cs = .ok q ∧ ∀ body, (q.goneOn body).close.reverse =
      p.close.reverse ++ (Block.mk cs body).diagnostic?.toList := by
  cases hkind : kindOf cs with
  | header digits severity message =>
    cases kindOf_eq_iff.mp hkind with
    | header hheader _ =>
      obtain ⟨_, _, _, _, ⟨_, hdigits, _, _⟩, _⟩ := hheader
      have hnumber : readDigits digits = .ok (digitsValue digits) := by
        rw [readDigits_of_digits hdigits.2 hdigits.1,
          if_neg (Nat.not_lt.mpr (hread _ _ _ hkind))]
      refine ⟨⟨p.close, some ⟨severity, [message], some (digitsValue digits), none, false⟩⟩,
        by simp only [readLine, hkind, hnumber], fun body => ?_⟩
      simp [goneOn, close, Pending.diagnostic_of_header, Block.diagnostic?, Block.column?, hkind]
  | bare severity message =>
    refine ⟨⟨p.close, some ⟨severity, [message], none, none, true⟩⟩,
      by simp only [readLine, hkind], fun body => ?_⟩
    simp [goneOn, close, Pending.diagnostic_of_bare, Block.diagnostic?, hkind]
  | note message =>
    refine ⟨⟨⟨.info, String.ofList message, none⟩ :: p.close, none⟩,
      by simp only [readLine, hkind], fun body => ?_⟩
    simp [goneOn, close, Block.diagnostic?, hkind]
  | summary =>
    refine ⟨⟨p.close, none⟩, by simp only [readLine, hkind], fun body => ?_⟩
    simp [goneOn, close, Block.diagnostic?, hkind]
  | other => simp [isBoundary, hkind] at h

/-- The lines before the first boundary go to the open diagnostic, and the blocks follow. -/
theorem readLines_eq (lines : List (List Char)) (p : Progress)
    (hread : ∀ cs ∈ lines, ∀ digits severity message, kindOf cs = .header digits severity message →
      digits.length ≤ maxDigits) :
    ∃ q, readLines lines p = .ok q ∧ q.close.reverse =
      (p.goneOn (leading lines)).close.reverse ++ (blocks lines).filterMap Block.diagnostic? := by
  induction lines generalizing p with
  | nil => exact ⟨p, rfl, by simp⟩
  | cons cs rest ih =>
    obtain ⟨hcs, hrest⟩ := List.forall_mem_cons.mp hread
    cases hboundary : isBoundary cs with
    | false =>
      obtain ⟨q, hq, hclose⟩ := ih (p.goneOn [cs]) hrest
      refine ⟨q, by simp only [readLines, p.readLine_of_other hboundary, hq], ?_⟩
      rw [hclose, ← goneOn_cons, leading_cons_of_other hboundary, blocks_cons_of_other hboundary]
    | true =>
      obtain ⟨opened, hopened, hblock⟩ := p.readLine_of_boundary hboundary hcs
      obtain ⟨q, hq, hclose⟩ := ih opened hrest
      refine ⟨q, by simp only [readLines, hopened, hq], ?_⟩
      rw [hclose, hblock, leading_cons_of_boundary hboundary, blocks_cons_of_boundary hboundary,
        goneOn_nil, List.append_assoc]
      cases hdiag : (Block.mk cs (leading rest)).diagnostic? with
      | none => rw [List.filterMap_cons_none hdiag, Option.toList_none, List.nil_append]
      | some d => rw [List.filterMap_cons_some hdiag, Option.toList_some, List.singleton_append]

end Progress

theorem isReadable_iff {output : List Char} : isReadable output = true ↔
    ∀ cs ∈ splitLines output, ∀ digits severity message,
      kindOf cs = .header digits severity message → digits.length ≤ maxDigits := by
  unfold isReadable
  rw [List.all_eq_true]
  refine forall₂_congr fun cs _ => ?_
  cases kindOf cs <;> simp

/-- A text is read block by block. -/
theorem diagnostics_eq_told {output : List Char} (h : isReadable output = true) :
    diagnostics output = .ok (told output) := by
  obtain ⟨q, hq, hclose⟩ := Progress.readLines_eq (splitLines output) ⟨[], none⟩
    (isReadable_iff.mp h)
  unfold diagnostics
  rw [hq]
  exact congrArg Except.ok hclose

/-! ## Two texts in a row -/

/-- The blocks hold each line from the first boundary on, in order. -/
theorem flatMap_lines_blocks (lines : List (List Char)) :
    (blocks lines).flatMap Block.lines = lines.dropWhile fun cs => !isBoundary cs := by
  induction lines with
  | nil => rfl
  | cons cs rest ih =>
    cases hboundary : isBoundary cs with
    | false =>
      rw [blocks_cons_of_other hboundary, ih, List.dropWhile_cons_of_pos (by simp [hboundary])]
    | true =>
      rw [blocks_cons_of_boundary hboundary, List.flatMap_cons, ih,
        List.dropWhile_cons_of_neg (by simp [hboundary])]
      exact congrArg (cs :: ·) (List.takeWhile_append_dropWhile)

theorem leading_append_of_blocks {xs : List (List Char)} (h : blocks xs ≠ [])
    (ys : List (List Char)) : leading (xs ++ ys) = leading xs := by
  induction xs with
  | nil => exact absurd rfl h
  | cons cs rest ih =>
    cases hboundary : isBoundary cs with
    | false =>
      rw [blocks_cons_of_other hboundary] at h
      rw [List.cons_append, leading_cons_of_other hboundary, leading_cons_of_other hboundary,
        ih h]
    | true => rw [List.cons_append, leading_cons_of_boundary hboundary,
        leading_cons_of_boundary hboundary]

theorem leading_append_of_no_blocks {xs : List (List Char)} (h : blocks xs = [])
    (ys : List (List Char)) : leading (xs ++ ys) = leading xs ++ leading ys := by
  induction xs with
  | nil => rfl
  | cons cs rest ih =>
    cases hboundary : isBoundary cs with
    | false =>
      rw [blocks_cons_of_other hboundary] at h
      rw [List.cons_append, leading_cons_of_other hboundary, leading_cons_of_other hboundary,
        ih h, List.cons_append]
    | true =>
      rw [blocks_cons_of_boundary hboundary] at h
      cases h

/-- The last block goes on with the lines before the next boundary. -/
theorem blocks_append (xs ys : List (List Char)) :
    blocks (xs ++ ys) = (blocks xs).dropLast ++
      ((blocks xs).getLast?.map fun block => block.extended (leading ys)).toList ++
        blocks ys := by
  induction xs with
  | nil => rfl
  | cons cs rest ih =>
    cases hboundary : isBoundary cs with
    | false =>
      rw [List.cons_append, blocks_cons_of_other hboundary, blocks_cons_of_other hboundary, ih]
    | true =>
      rw [List.cons_append, blocks_cons_of_boundary hboundary, blocks_cons_of_boundary hboundary,
        ih]
      by_cases hrest : blocks rest = []
      · rw [leading_append_of_no_blocks hrest, hrest]
        rfl
      · rw [leading_append_of_blocks hrest, List.dropLast_cons_of_ne_nil hrest,
          List.getLast?_cons_of_ne_nil hrest]
        rfl

theorem isReadable_append {a : List Char} (ha : a.getLast? = some '\n') (b : List Char) :
    isReadable (a ++ b) = (isReadable a && isReadable b) := by
  rw [isReadable, splitLines_append ha, List.all_append]
  rfl

/-- What two texts in a row tell is what each tells exactly when they are set apart. -/
theorem told_append_iff {a : List Char} (ha : a.getLast? = some '\n') (b : List Char) :
    told (a ++ b) = told a ++ told b ↔ SetApart a b := by
  unfold told SetApart
  rw [splitLines_append ha, blocks_append]
  cases hlast : (blocks (splitLines a)).getLast? with
  | none => simp [List.getLast?_eq_none_iff.mp hlast]
  | some block =>
    obtain ⟨before, hblocks⟩ := List.getLast?_eq_some_iff.mp hlast
    rw [hblocks, List.dropLast_concat, Option.map_some, Option.toList_some]
    have hone : ∀ c : Block, [c].filterMap Block.diagnostic? = c.diagnostic?.toList :=
      fun c => by cases hc : c.diagnostic? <;> simp [hc]
    simp only [List.filterMap_append, hone, List.append_assoc, List.append_cancel_left_eq,
      List.append_cancel_right_eq, Option.mem_some_iff, forall_eq']
    cases (block.extended (leading (splitLines b))).diagnostic? <;>
      cases block.diagnostic? <;> simp

theorem setApart_of_leading {a b : List Char} (h : leading (splitLines b) = []) :
    SetApart a b := by
  intro block _
  rw [h, Block.extended, List.append_nil]

/-- The output of `javac` is read block by block, and nothing of it is lost, told twice or told in
another place. A boundary is a line with a place, a severity, a note or a count, whichever form
comes first. Two texts in a row, the first ended by a line feed, tell what each of them tells
exactly if the lines before the first boundary of the second leave the last block of the first as
it is, and so if there are no such lines. -/
theorem output_is_read_block_by_block :
    (∀ cs kind, kindOf cs = kind ↔ HasKind cs kind) ∧
    (∀ cs indent, caretIndent? cs = some indent ↔ IsCaret cs indent) ∧
    (∀ lines, (blocks lines).flatMap Block.lines = lines.dropWhile fun cs => !isBoundary cs) ∧
    (∀ output, isReadable output = true → diagnostics output = .ok (told output)) ∧
    ∀ a b, a.getLast? = some '\n' → isReadable (a ++ b) = true →
      ∃ first second, diagnostics a = .ok first ∧ diagnostics b = .ok second ∧
        (diagnostics (a ++ b) = .ok (first ++ second) ↔ SetApart a b) ∧
        (leading (splitLines b) = [] → diagnostics (a ++ b) = .ok (first ++ second)) := by
  refine ⟨fun _ _ => kindOf_eq_iff, fun _ _ => caretIndent?_eq_some_iff, flatMap_lines_blocks,
    fun _ => diagnostics_eq_told, ?_⟩
  intro a b ha hread
  have hparts : isReadable a = true ∧ isReadable b = true := by
    rwa [isReadable_append ha, Bool.and_eq_true] at hread
  have happend : diagnostics (a ++ b) = .ok (told a ++ told b) ↔ SetApart a b := by
    rw [diagnostics_eq_told hread, Except.ok.injEq]
    exact told_append_iff ha b
  exact ⟨told a, told b, diagnostics_eq_told hparts.1, diagnostics_eq_told hparts.2, happend,
    fun hnone => happend.mpr (setApart_of_leading hnone)⟩

/-- Two texts that are set apart, each with one diagnostic. -/
theorem two_texts_tell_two_diagnostics :
    ∃ a b : List Char, a.getLast? = some '\n' ∧ isReadable (a ++ b) = true ∧
      leading (splitLines b) = [] ∧
      diagnostics (a ++ b) = .ok [⟨.error, "x", some ⟨1, some 3⟩⟩, ⟨.warning, "y", none⟩] := by
  refine ⟨"A.java:1: error: x\n  ^\n".toList, "warning: y\n".toList, by decide +kernel,
    by decide +kernel, by decide +kernel, ?_⟩
  obtain ⟨-, -, -, -, happend⟩ := output_is_read_block_by_block
  obtain ⟨first, second, hfirst, hsecond, -, hall⟩ := happend "A.java:1: error: x\n  ^\n".toList
    "warning: y\n".toList (by decide +kernel) (by decide +kernel)
  have hone : diagnostics "A.java:1: error: x\n  ^\n".toList =
      .ok [⟨.error, "x", some ⟨1, some 3⟩⟩] := by decide +kernel
  have htwo : diagnostics "warning: y\n".toList = .ok [⟨.warning, "y", none⟩] := by
    decide +kernel
  rw [hall (by decide +kernel)]
  cases hone.symm.trans hfirst
  cases htwo.symm.trans hsecond
  rfl

theorem not_isLineEnd_of_isDigit {c : Char} (h : isDigit c = true) : isLineEnd c = false := by
  have hends : ∀ n ∈ [0x0A, 0x0B, 0x0C, 0x0D, 0x1C, 0x1D, 0x1E, 0x85, 0x2028, 0x2029],
      digitZeros.find? (fun z => z ≤ n && n < z + 10) = none := by decide
  by_contra hend
  rw [Bool.not_eq_false] at hend
  have hnone := hends c.toNat (of_decide_eq_true hend)
  simp [isDigit, digit?, hnone] at h

/-- A line with a place whose number is too long ends the reading. -/
theorem diagnostics_of_long_number {digits : List Char} (hdigits : IsNumber digits)
    (hlong : maxDigits < digits.length) :
    diagnostics ("A.java:".toList ++ digits ++ ": error: x".toList) =
      .error (.value (.tooManyDigits digits.length)) := by
  have hplace : place? (".java:".toList ++ digits ++ ": error: x".toList) =
      some (.header digits .error "x".toList) :=
    place?_eq_some_iff.mpr ⟨":".toList ++ digits ++ ": ".toList ++ "error: x".toList, _, _, _,
      ⟨_, hdigits, .error "x".toList, rfl⟩, by simp, rfl⟩
  have hkind : kindOf ("A.java:".toList ++ digits ++ ": error: x".toList) =
      .header digits .error "x".toList := by
    change kindOf ('A' :: (".java:".toList ++ digits ++ ": error: x".toList)) = _
    simp only [kindOf, header?, hplace]
  have hline : ∀ c ∈ "A.java:".toList ++ digits ++ ": error: x".toList, isLineEnd c = false := by
    have hwords : ∀ c ∈ "A.java:".toList ++ ": error: x".toList, isLineEnd c = false := by
      simp [isLineEnd]
    intro c hc
    rw [List.append_assoc, List.mem_append, List.mem_append] at hc
    rcases hc with hc | hc | hc
    · exact hwords c (List.mem_append_left _ hc)
    · exact not_isLineEnd_of_isDigit (hdigits.2 c hc)
    · exact hwords c (List.mem_append_right _ hc)
  have hnumber : readDigits digits = .error (.tooLong digits.length) := by
    rw [readDigits_of_digits hdigits.2 hdigits.1, if_pos hlong]
  unfold diagnostics
  rw [splitLines_of_no_end (by simp) hline]
  simp only [Progress.readLines, Progress.readLine, hkind, hnumber]
  rfl

/-- A caret that comes with the second text counts for the first, and a text is not read if a
number in it is too long, so neither condition can be left out. -/
theorem a_block_goes_on_in_the_next_text :
    (diagnostics "A.java:1: error: x\n".toList = .ok [⟨.error, "x", some ⟨1, none⟩⟩] ∧
      diagnostics "  ^\n".toList = .ok [] ∧
      diagnostics ("A.java:1: error: x\n".toList ++ "  ^\n".toList) =
        .ok [⟨.error, "x", some ⟨1, some 3⟩⟩]) ∧
    diagnostics ("A.java:".toList ++ List.replicate 4301 '1' ++ ": error: x".toList) =
      .error (.value (.tooManyDigits 4301)) := by
  refine ⟨⟨by decide +kernel, by decide +kernel, by decide +kernel⟩, ?_⟩
  have hlength : (List.replicate 4301 '1').length = 4301 := List.length_replicate
  have hones : IsNumber (List.replicate 4301 '1') :=
    ⟨List.ne_nil_of_length_pos (by rw [hlength]; decide),
      fun c hc => by rw [List.eq_of_mem_replicate hc]; decide⟩
  have hread := diagnostics_of_long_number hones (by rw [hlength]; decide)
  rwa [hlength] at hread

end JavacOutput

end Worksheet
