-- The source line that `javac` echoes between a line with a place and its caret. It goes through
-- the same forms as `javac`'s own lines, so the caret gives the column of the diagnostic exactly
-- if the echo has none of these forms and is no caret itself. What is told otherwise is told here
-- too: an echo that is a boundary takes the caret to its own block, and an echo that is a caret
-- leaves the second one to the message.
import Worksheet.Proofs.JavacBlocks

namespace Worksheet.JavacOutput

open Text

/-! ## Caret lines -/

/-- The line that points below a column: blanks up to the column, and a caret. -/
def caretLine (indent : Nat) : List Char := List.replicate indent ' ' ++ ['^']

theorem isCaret_caretLine (indent : Nat) : IsCaret (caretLine indent) indent := by
  refine ⟨List.replicate indent ' ', [], ?_, by simp, List.length_replicate, rfl⟩
  intro c hc
  rw [List.eq_of_mem_replicate hc]
  decide

/-- A caret line has nothing but blanks beside its caret. -/
theorem IsCaret.isBlank_of_mem {cs : List Char} {indent : Nat} (h : IsCaret cs indent) {c : Char}
    (hc : c ∈ cs) (hne : c ≠ '^') : isBlank c = true := by
  obtain ⟨before, after, hbefore, hafter, -, rfl⟩ := h
  rcases List.mem_append.mp hc with hc | hc
  · exact hbefore c hc
  · rcases List.mem_cons.mp hc with rfl | hc
    · exact absurd rfl hne
    · exact hafter c hc

/-- Of each form but the last, every line has a colon or a letter that all counts have. -/
theorem mem_of_hasKind {cs : List Char} {kind : LineKind} (h : HasKind cs kind)
    (hne : kind ≠ .other) : ':' ∈ cs ∨ 'r' ∈ cs := by
  cases h with
  | header hheader _ =>
    obtain ⟨stem, place, -, -, ⟨told, -, -, rfl⟩, rfl⟩ := hheader
    left
    simp
  | bare _ hseverity =>
    left
    cases hseverity with
    | error message => simp
    | warning message => simp
  | note _ _ hnote =>
    left
    rw [hnote]
    simp
  | summary _ _ _ hsummary =>
    obtain ⟨digits, word, -, hword, rfl⟩ := hsummary
    right
    have hr : ∀ word ∈ [" error", " errors", " warning", " warnings"], 'r' ∈ word.toList := by
      simp
    exact List.mem_append_right digits (hr word hword)
  | other => exact absurd rfl hne

/-- A caret line is no line of another form. -/
theorem IsCaret.kindOf_eq {cs : List Char} {indent : Nat} (h : IsCaret cs indent) :
    kindOf cs = .other := by
  by_contra hne
  rcases mem_of_hasKind (hasKind_kindOf cs) hne with hcolon | hr
  · have hblank := h.isBlank_of_mem hcolon (by decide)
    exact absurd hblank (by decide)
  · have hblank := h.isBlank_of_mem hr (by decide)
    exact absurd hblank (by decide)

theorem isBoundary_eq_false_iff {cs : List Char} : isBoundary cs = false ↔ kindOf cs = .other := by
  simp [isBoundary]

theorem IsCaret.isBoundary_eq {cs : List Char} {indent : Nat} (h : IsCaret cs indent) :
    isBoundary cs = false :=
  isBoundary_eq_false_iff.mpr h.kindOf_eq

/-- Without the blanks around it, the caret is left. -/
theorem IsCaret.trimBlank_eq {cs : List Char} {indent : Nat} (h : IsCaret cs indent) :
    trimBlank cs = ['^'] := by
  obtain ⟨before, after, hbefore, hafter, -, rfl⟩ := h
  have hcaret : ¬ isBlank '^' = true := by decide
  have hreverse : ∀ c ∈ after.reverse, isBlank c = true := by
    intro c hc
    exact hafter c (List.mem_reverse.mp hc)
  unfold trimBlank trim
  rw [List.dropWhile_append_of_pos hbefore, List.dropWhile_cons_of_neg hcaret, List.reverse_cons,
    List.dropWhile_append_of_pos hreverse, List.dropWhile_cons_of_neg hcaret]
  rfl

/-! ## Three lines -/

section
variable {output header echo digits message : List Char} {severity : Severity} {indent : Nat}

theorem isReadable_three (hlines : splitLines output = [header, echo, caretLine indent])
    (hheader : kindOf header = .header digits severity message) :
    isReadable output = true ↔ digits.length ≤ maxDigits ∧
      ∀ digits' severity' message', kindOf echo = .header digits' severity' message' →
        digits'.length ≤ maxDigits := by
  rw [isReadable_iff, hlines]
  simp [hheader, (isCaret_caretLine indent).kindOf_eq]

theorem isReadable_three_of_other (hlines : splitLines output = [header, echo, caretLine indent])
    (hheader : kindOf header = .header digits severity message) (hecho : kindOf echo = .other)
    (hlength : digits.length ≤ maxDigits) : isReadable output = true := by
  rw [isReadable_three hlines hheader]
  refine ⟨hlength, ?_⟩
  intro digits' severity' message' hplace
  rw [hecho] at hplace
  cases hplace

/-- The first line alone tells no column. -/
theorem diagnostic?_of_no_lines (hheader : kindOf header = .header digits severity message) :
    (Block.mk header []).diagnostic? =
      some ⟨severity, String.ofList message, some ⟨digitsValue digits, none⟩⟩ := by
  simp [Block.diagnostic?, hheader, Block.column?, afterCaret, Pending.joined]

/-- Below an echo that is no caret, the caret line tells the column. -/
theorem diagnostic?_of_echo (hheader : kindOf header = .header digits severity message)
    (hecho : ∀ k, ¬ IsCaret echo k) :
    (Block.mk header [echo, caretLine indent]).diagnostic? =
      some ⟨severity, String.ofList message, some ⟨digitsValue digits, some (indent + 1)⟩⟩ := by
  have hnone : caretIndent? echo = none := by
    rw [Option.eq_none_iff_forall_ne_some]
    intro k hk
    exact hecho k (caretIndent?_eq_some_iff.mp hk)
  have hcaret : caretIndent? (caretLine indent) = some indent :=
    caretIndent?_eq_some_iff.mpr (isCaret_caretLine indent)
  simp [Block.diagnostic?, hheader, Block.column?, afterCaret, hnone, hcaret, Pending.joined]

/-- An echo that is a caret tells the column, and the caret line below it extends the message. -/
theorem diagnostic?_of_caret {k : Nat}
    (hheader : kindOf header = .header digits severity message) (hecho : IsCaret echo k) :
    (Block.mk header [echo, caretLine indent]).diagnostic? =
      some ⟨severity, String.ofList (message ++ ['\n', '^']),
        some ⟨digitsValue digits, some (k + 1)⟩⟩ := by
  have hcaret : caretIndent? echo = some k := caretIndent?_eq_some_iff.mpr hecho
  have htrim := (isCaret_caretLine indent).trimBlank_eq
  simp [Block.diagnostic?, hheader, Block.column?, afterCaret, hcaret, continuation, htrim,
    Pending.joined]

/-- An echo that is no boundary belongs to the block of the first line, and so does the caret. -/
theorem blocks_three_of_other (hheader : isBoundary header = true)
    (hecho : isBoundary echo = false) :
    blocks [header, echo, caretLine indent] = [⟨header, [echo, caretLine indent]⟩] := by
  have hcaret := (isCaret_caretLine indent).isBoundary_eq
  rw [blocks_cons_of_boundary hheader, blocks_cons_of_other hecho, blocks_cons_of_other hcaret,
    leading_cons_of_other hecho, leading_cons_of_other hcaret, leading_nil, blocks_nil]

/-- An echo that is a boundary ends the block of the first line, and the caret goes to its own. -/
theorem blocks_three_of_boundary (hheader : isBoundary header = true)
    (hecho : isBoundary echo = true) :
    blocks [header, echo, caretLine indent] = [⟨header, []⟩, ⟨echo, [caretLine indent]⟩] := by
  have hcaret := (isCaret_caretLine indent).isBoundary_eq
  rw [blocks_cons_of_boundary hheader, blocks_cons_of_boundary hecho, blocks_cons_of_other hcaret,
    leading_cons_of_boundary hecho, leading_cons_of_other hcaret, leading_nil, blocks_nil]

end

/-! ## Texts that are read -/

/-- Reading ends at a line with a place whose number is too long. -/
theorem length_le_of_readLine {p q : Progress} {cs digits message : List Char}
    {severity : Severity} (h : p.readLine cs = .ok q)
    (hkind : kindOf cs = .header digits severity message) : digits.length ≤ maxDigits := by
  have hnumber : IsNumber digits := by
    cases kindOf_eq_iff.mp hkind with
    | header hheader _ =>
      obtain ⟨_, _, _, _, ⟨_, hdigits, _, _⟩, _⟩ := hheader
      exact hdigits
  by_contra hlong
  have hread := readDigits_of_digits hnumber.2 hnumber.1
  rw [if_pos (Nat.lt_of_not_le hlong)] at hread
  simp only [Progress.readLine, hkind, hread] at h
  cases h

theorem length_le_of_readLines {lines : List (List Char)} {p q : Progress}
    (h : Progress.readLines lines p = .ok q) : ∀ cs ∈ lines, ∀ digits severity message,
      kindOf cs = .header digits severity message → digits.length ≤ maxDigits := by
  induction lines generalizing p with
  | nil => simp
  | cons cs rest ih =>
    cases hline : p.readLine cs with
    | error e =>
      simp only [Progress.readLines, hline] at h
      cases h
    | ok p' =>
      simp only [Progress.readLines, hline] at h
      rw [List.forall_mem_cons]
      refine ⟨?_, ih h⟩
      intro digits severity message hkind
      exact length_le_of_readLine hline hkind

/-- A text whose diagnostics are told is one that can be read. -/
theorem isReadable_of_diagnostics {output : List Char} {found : List Diagnostic}
    (h : diagnostics output = .ok found) : isReadable output = true := by
  unfold diagnostics at h
  cases hlines : Progress.readLines (splitLines output) ⟨[], none⟩ with
  | error e =>
    rw [hlines] at h
    cases h
  | ok q => exact isReadable_iff.mpr (length_le_of_readLines hlines)

/-! ## The diagnostic of three lines -/

/-- A line with a place, an echoed source line and a caret line tell one diagnostic with the
column of the caret exactly if the echo has none of the forms that end a block and is no caret
itself, and the line number is no longer than numbers are read. An echo that is a caret gives its
own column, and the caret line below it is taken into the message. An echo of another form leaves
the diagnostic without a column, and tells what it tells with the caret line below it. -/
theorem a_caret_counts_unless_the_echo_is_taken_for_another_line
    {output header echo digits message : List Char} {severity : Severity} {indent : Nat}
    (hheader : HasKind header (.header digits severity message))
    (hlines : splitLines output = [header, echo, caretLine indent]) :
    (diagnostics output = .ok [⟨severity, String.ofList message,
        some ⟨digitsValue digits, some (indent + 1)⟩⟩] ↔
      digits.length ≤ maxDigits ∧ HasKind echo .other ∧ ∀ k, ¬ IsCaret echo k) ∧
    (∀ k, IsCaret echo k → digits.length ≤ maxDigits →
      diagnostics output = .ok [⟨severity, String.ofList (message ++ ['\n', '^']),
        some ⟨digitsValue digits, some (k + 1)⟩⟩]) ∧
    (∀ kind, HasKind echo kind → kind ≠ .other → isReadable output = true →
      diagnostics output = .ok (⟨severity, String.ofList message,
        some ⟨digitsValue digits, none⟩⟩ ::
          (Block.mk echo [caretLine indent]).diagnostic?.toList)) := by
  have hkind := hheader.kindOf_eq
  have hboundary : isBoundary header = true := by simp [isBoundary, hkind]
  have hsource : ∀ k, IsCaret echo k → digits.length ≤ maxDigits →
      diagnostics output = .ok [⟨severity, String.ofList (message ++ ['\n', '^']),
        some ⟨digitsValue digits, some (k + 1)⟩⟩] := by
    intro k hecho hlength
    have hread := isReadable_three_of_other hlines hkind hecho.kindOf_eq hlength
    rw [diagnostics_eq_told hread, told, hlines,
      blocks_three_of_other hboundary hecho.isBoundary_eq]
    simp [diagnostic?_of_caret hkind hecho]
  have hother : ∀ kind, HasKind echo kind → kind ≠ .other → isReadable output = true →
      diagnostics output = .ok (⟨severity, String.ofList message,
        some ⟨digitsValue digits, none⟩⟩ ::
          (Block.mk echo [caretLine indent]).diagnostic?.toList) := by
    intro kind hecho hne hread
    have hends : isBoundary echo = true := by
      simpa [isBoundary, hecho.kindOf_eq] using hne
    rw [diagnostics_eq_told hread, told, hlines, blocks_three_of_boundary hboundary hends,
      List.filterMap_cons_some (diagnostic?_of_no_lines hkind)]
    cases hnext : (Block.mk echo [caretLine indent]).diagnostic? <;> simp [hnext]
  refine ⟨⟨?_, ?_⟩, hsource, hother⟩
  · intro htold
    have hread := isReadable_of_diagnostics htold
    have hlength := ((isReadable_three hlines hkind).mp hread).1
    refine ⟨hlength, ?_, ?_⟩
    · by_contra hnot
      have hne : kindOf echo ≠ .other := by
        intro heq
        exact hnot (kindOf_eq_iff.mp heq)
      have hlost := hother (kindOf echo) (hasKind_kindOf echo) hne hread
      rw [htold] at hlost
      simp at hlost
    · intro k hecho
      have hlong := hsource k hecho hlength
      rw [htold] at hlong
      simp only [Except.ok.injEq, List.cons.injEq, Diagnostic.mk.injEq, String.ofList_inj]
        at hlong
      have hmessage := congrArg List.length hlong.1.2.1
      simp at hmessage
  · rintro ⟨hlength, hecho, hcaret⟩
    have hread := isReadable_three_of_other hlines hkind hecho.kindOf_eq hlength
    have hinside : isBoundary echo = false := isBoundary_eq_false_iff.mpr hecho.kindOf_eq
    rw [diagnostics_eq_told hread, told, hlines, blocks_three_of_other hboundary hinside]
    simp [diagnostic?_of_echo hkind hcaret]

/-- An echo that has a place in a comment and a caret at its end is skipped. -/
theorem an_echo_with_a_place_in_a_comment_is_skipped :
    ∃ output header echo : List Char, HasKind header (.header "12".toList .error "x".toList) ∧
      splitLines output = [header, echo, caretLine 4] ∧
      echo = "  error: f(); // A.java:3: note: ^".toList ∧
      diagnostics output = .ok [⟨.error, "x", some ⟨12, some 5⟩⟩] := by
  let header := "a b/A.java:12: error: x".toList
  let echo := "  error: f(); // A.java:3: note: ^".toList
  let output := header ++ "\n".toList ++ echo ++ "\n    ^\n".toList
  have hheader : HasKind header (.header "12".toList .error "x".toList) :=
    kindOf_eq_iff.mp (by decide +kernel)
  have hlines : splitLines output = [header, echo, caretLine 4] := by decide +kernel
  have hecho : HasKind echo .other := kindOf_eq_iff.mp (by decide +kernel)
  have hcaret : ∀ k, ¬ IsCaret echo k := by
    intro k hk
    have hnone : caretIndent? echo = none := by decide +kernel
    rw [caretIndent?_eq_some_iff.mpr hk] at hnone
    cases hnone
  have hcounts := a_caret_counts_unless_the_echo_is_taken_for_another_line hheader hlines
  have htold := hcounts.1.mpr ⟨by decide, hecho, hcaret⟩
  exact ⟨output, header, echo, hheader, hlines, rfl, htold⟩

/-- A source line that begins with a label named like a severity is taken for a line of `javac`,
and the diagnostic loses its column to a second one. -/
theorem an_echo_that_begins_with_a_severity_is_told :
    splitLines "A.java:3: error: cannot find symbol\nerror: frob();\n       ^\n".toList =
      ["A.java:3: error: cannot find symbol".toList, "error: frob();".toList, caretLine 7] ∧
    diagnostics "A.java:3: error: cannot find symbol\nerror: frob();\n       ^\n".toList =
      .ok [⟨.error, "cannot find symbol", some ⟨3, none⟩⟩, ⟨.error, "frob();\n^", none⟩] ∧
    diagnostics "A.java:3: error: cannot find symbol\nerror: frob();\n       ^\n".toList ≠
      .ok [⟨.error, "cannot find symbol", some ⟨3, some 8⟩⟩] := by
  refine ⟨by decide +kernel, by decide +kernel, by decide +kernel⟩

end Worksheet.JavacOutput
