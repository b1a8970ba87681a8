-- Texts of compile failures. A text has one line for each diagnostic and a last one that counts the
-- errors, and the diagnostics can be read back from it.
import Worksheet.Proofs.JavacLines
import Worksheet.Proofs.NumberTexts
import Worksheet.Proofs.TemplateTexts
import Worksheet.Proofs.TwoCommands

namespace Worksheet

/-! ## Lines -/

namespace Text

variable {α : Type} [DecidableEq α] {sep : α} {piece : List α}

theorem split_of_not_mem (h : sep ∉ piece) : split sep piece = [piece] := by
  rw [split_eq_splitOn, List.splitOn_eq_singleton h]

theorem split_append_cons (h : sep ∉ piece) (rest : List α) :
    split sep (piece ++ sep :: rest) = piece :: split sep rest := by
  rw [split_eq_splitOn, split_eq_splitOn, List.splitOn_append_cons_self_of_not_mem h]

end Text

/-! ## Reading -/

open JavacOutput (after?)

namespace Position

/-- A number with a colon behind it, unless there is a blank here. -/
def takeNumber? : List Char → Option (Option Int × List Char)
  | ' ' :: rest => some (none, ' ' :: rest)
  | cs =>
    match Json.takeNumberOrWord cs.length cs with
    | some (.integer n, ':' :: rest) => some (some n, rest)
    | _ => none

/-- A place, and what follows the blank behind it. -/
def take? (cs : List Char) : Option (Option Position × List Char) := do
  match ← takeNumber? cs with
  | (none, rest) => some (none, ← after? " " rest)
  | (some line, rest) =>
    let (column, rest) ← takeNumber? rest
    some (some ⟨line, column⟩, ← after? " " rest)

end Position

/-- A severity, and the message behind it. -/
def Severity.take? (cs : List Char) : Option (Severity × List Char) :=
  [info, warning, error].findSome? fun v =>
    (after? (v.text ++ ": ") cs).map fun message => (v, message)

/-- The diagnostic that a line tells. -/
def Diagnostic.ofLine? (sourceName : String) (cs : List Char) : Option Diagnostic := do
  let (position, rest) ← Position.take? (← after? (sourceName ++ ":") cs)
  let (severity, message) ← Severity.take? rest
  some ⟨severity, String.ofList message, position⟩

/-- The diagnostics that a text tells, one on each line but the last. -/
def Report.diagnosticsOf? (sourceName text : String) : Option (List Diagnostic) :=
  (Text.split '\n' text.toList).dropLast.mapM (Diagnostic.ofLine? sourceName)

namespace Position

theorem takeNumber?_repr (n : Int) (rest : List Char) :
    takeNumber? (n.repr.toList ++ ':' :: rest) = some (some n, rest) := by
  have hblank : ' ' ∉ (toString n).toList := Json.not_mem_toString (by decide) (by decide) n
  have hends : Json.EndsNumber (':' :: rest) := Json.stops_cons (by decide) rest
  have hlength : (Nat.toDigits 10 n.natAbs).length ≤
      ((toString n).toList ++ ':' :: rest).length := by
    rw [Json.toList_toString]
    simp only [List.length_append]
    omega
  have hnumber := Json.takeNumberOrWord_toString hends n hlength
  rw [← Int.toString_eq_repr]
  unfold takeNumber?
  split
  · next more hmore =>
    cases htext : (toString n).toList with
    | nil =>
      rw [htext] at hmore
      exact absurd (List.cons.inj hmore).1 (by decide)
    | cons c cs =>
      rw [htext] at hmore hblank
      obtain ⟨rfl, -⟩ := List.cons.inj hmore
      exact absurd List.mem_cons_self hblank
  · rw [hnumber]
    rfl

theorem takeNumber?_blank (rest : List Char) :
    takeNumber? (' ' :: rest) = some (none, ' ' :: rest) := rfl

theorem after?_blank (rest : List Char) : after? " " (' ' :: rest) = some rest :=
  JavacOutput.after?_eq_some_iff.mpr rfl

theorem take?_blank (rest : List Char) : take? (' ' :: rest) = some (none, rest) := by
  simp [take?, takeNumber?_blank, after?_blank]

/-- A line that no column follows has the blank behind it. -/
theorem take?_text (p : Position) (rest : List Char) :
    take? (p.text.toList ++ ':' :: ' ' :: rest) = some (some p, rest) := by
  obtain ⟨line, _ | column⟩ := p
  · simp [take?, text, takeNumber?_repr, takeNumber?_blank, after?_blank]
  · simp [take?, text, takeNumber?_repr, after?_blank]

end Position

theorem Severity.take?_text (v : Severity) (message : List Char) :
    take? (v.text.toList ++ ':' :: ' ' :: message) = some (v, message) := by
  cases v <;> rfl

/-- No message can be taken for a part of what stands before it. -/
theorem Diagnostic.ofLine?_line (sourceName : String) (d : Diagnostic) :
    ofLine? sourceName (d.line sourceName).toList = some d := by
  have hname : ∀ rest, after? (sourceName ++ ":") (sourceName.toList ++ ':' :: rest) = some rest :=
    fun rest => JavacOutput.after?_eq_some_iff.mpr (by simp)
  obtain ⟨severity, message, position⟩ := d
  unfold ofLine? line
  cases position with
  | none => simp [hname, Position.take?_blank, Severity.take?_text]
  | some p => simp [hname, Position.take?_text, Severity.take?_text]

/-! ## Reports -/

namespace Diagnostic

/-- Only its source name and its message can break the line of a diagnostic. -/
theorem newline_not_mem_line {sourceName : String} {d : Diagnostic}
    (hname : '\n' ∉ sourceName.toList) (hmessage : '\n' ∉ d.message.toList) :
    '\n' ∉ (d.line sourceName).toList := by
  have hnumber : ∀ n : Int, '\n' ∉ n.repr.toList := by
    intro n
    rw [← Int.toString_eq_repr]
    exact Json.not_mem_toString (by decide) (by decide) n
  have hseverity : '\n' ∉ d.severity.text.toList := by
    cases d.severity <;> decide
  obtain ⟨severity, message, position⟩ := d
  rcases position with _ | ⟨line, _ | column⟩ <;>
    simp [Diagnostic.line, Position.text, hname, hmessage, hnumber, hseverity]

end Diagnostic

namespace Report

/-- The name of the source and each of the messages stand on one line. -/
structure IsLined (r : Report) : Prop where
  name : '\n' ∉ r.sourceName.toList
  messages : ∀ d ∈ r.diagnostics, '\n' ∉ d.message.toList

/-- What is said of how many errors there are. -/
def tally (r : Report) : String :=
  let n := r.diagnostics.countP fun d => d.severity = .error
  if n = 1 then "1 error found" else toString n ++ " errors found"

variable {r : Report}

theorem errorCount_eq_tally (r : Report) : Outcome.errorCount r.errors.length = r.tally := by
  have hcount : r.errors.length = r.diagnostics.countP fun d => d.severity = .error :=
    List.countP_eq_length_filter.symm
  unfold Outcome.errorCount tally
  rw [hcount]
  by_cases hone : (r.diagnostics.countP fun d => d.severity = .error) = 1
  · rw [hone]
    rfl
  · simp [hone, String.append_assoc]

theorem newline_not_mem_tally (r : Report) : '\n' ∉ r.tally.toList := by
  have hdigits : ∀ n : Nat, '\n' ∉ Nat.toDigits 10 n := by
    intro n hmem
    have hdigit := Nat.isDigit_of_mem_toDigits (by decide) (by decide) hmem
    cases hdigit
  unfold tally
  dsimp only
  split
  · decide
  · simp [hdigits]

/-- Diagnostics whose texts have no line breaks are a line each, in front of any text. -/
theorem split_lines {sourceName : String} {ds : List Diagnostic} (hname : '\n' ∉ sourceName.toList)
    (hmessages : ∀ d ∈ ds, '\n' ∉ d.message.toList) (rest : String) :
    Text.split '\n' (String.join (ds.map fun d => d.line sourceName ++ "\n") ++ rest).toList =
      ds.map (fun d => (d.line sourceName).toList) ++ Text.split '\n' rest.toList := by
  induction ds with
  | nil => simp
  | cons d ds ih =>
    have hline := Diagnostic.newline_not_mem_line hname (hmessages d List.mem_cons_self)
    have hrest := ih fun d hd => hmessages d (List.mem_cons_of_mem _ hd)
    rw [List.map_cons, List.map_cons, List.cons_append, ← hrest, ← Text.split_append_cons hline]
    simp

theorem split_renderReport (h : r.IsLined) :
    Text.split '\n' (Outcome.renderReport r).toList =
      r.diagnostics.map (fun d => (d.line r.sourceName).toList) ++ [r.tally.toList] := by
  unfold Outcome.renderReport
  rw [errorCount_eq_tally, split_lines h.name h.messages,
    Text.split_of_not_mem (newline_not_mem_tally r)]

theorem diagnosticsOf?_renderReport (h : r.IsLined) :
    diagnosticsOf? r.sourceName (Outcome.renderReport r) = some r.diagnostics := by
  unfold diagnosticsOf?
  rw [split_renderReport h, List.dropLast_concat]
  induction r.diagnostics with
  | nil => rfl
  | cons d ds ih => simp [Diagnostic.ofLine?_line, ih]

theorem getLast?_renderReport (r : Report) :
    (Outcome.renderReport r).toList.getLast? = some 'd' := by
  unfold Outcome.renderReport Outcome.errorCount
  rw [← String.append_assoc, String.toList_append, List.getLast?_append]
  rfl

/-- The text of a success has the same lines, and then one that says so. -/
theorem split_compiled {path : Path} (hname : '\n' ∉ path.name.toList)
    (hmessages : ∀ d ∈ r.diagnostics, '\n' ∉ d.message.toList) :
    ∃ text : String, Cli.Workbench.compiled path r = .printed text ∧
      Text.split '\n' text.toList = r.diagnostics.map (fun d => (d.line path.name).toList) ++
        [("Compiled " ++ path.name).toList, []] := by
  have hlast : '\n' ∉ ("Compiled " ++ path.name).toList := by
    simp [hname]
  have hend : ("Compiled " ++ (path.name ++ "\n")).toList =
      ("Compiled " ++ path.name).toList ++ '\n' :: [] := by
    simp
  refine ⟨_, rfl, ?_⟩
  rw [String.append_assoc, String.append_assoc, split_lines hname hmessages, hend,
    Text.split_append_cons hlast]
  rfl

/-- The text of a compile failure can be read back, since nothing else gives it: of two reports
under one name that make the same text the diagnostics are the same. It has a line for each
diagnostic, in their order, and then one that counts the errors, without a break behind it. A
compilation that succeeds under this name prints the same lines of its diagnostics. -/
theorem a_rendered_failure_is_read_back {engine : Template.Engine} (hengine : engine.Follows)
    {r : Report} (h : r.IsLined) :
    ∃ text : String, (Outcome.compileFailure r).filledBy? engine = some (.ofString text) ∧
      (Outcome.compileFailure r).render = .ofString text ∧
      diagnosticsOf? r.sourceName text = some r.diagnostics ∧
      (∀ r' : Report, r'.IsLined → r'.sourceName = r.sourceName →
        (Outcome.compileFailure r').filledBy? engine = some (.ofString text) →
        r'.diagnostics = r.diagnostics) ∧
      Text.split '\n' text.toList =
        r.diagnostics.map (fun d => (d.line r.sourceName).toList) ++ [r.tally.toList] ∧
      text.toList.getLast? ≠ some '\n' ∧
      ∀ {σ : Type} (b : Cli.Workbench σ) (c : Config) (a : Cli.SourceArguments) (s s' : σ)
        (path : Path) (report : Report), b.report c a s = (.ok (path, report), s') →
        path.name = r.sourceName → report.hasErrors = false →
        (∀ d ∈ report.diagnostics, '\n' ∉ d.message.toList) →
        ∃ printed : String, b.compile c a s = (.ok (.printed printed), s') ∧
          Text.split '\n' printed.toList =
            report.diagnostics.map (fun d => (d.line r.sourceName).toList) ++
              [("Compiled " ++ r.sourceName).toList, []] := by
  refine ⟨Outcome.renderReport r, Outcome.filledBy?_eq hengine _, rfl,
    diagnosticsOf?_renderReport h, ?_, split_renderReport h, ?_, ?_⟩
  · intro r' h' hname hsame
    rw [Outcome.filledBy?_eq hengine] at hsame
    have htext : Outcome.renderReport r' = Outcome.renderReport r :=
      Text.Points.ofString_inj (Option.some.inj hsame)
    have hread := diagnosticsOf?_renderReport h'
    rw [hname, htext, diagnosticsOf?_renderReport h] at hread
    exact (Option.some.inj hread).symm
  · rw [getLast?_renderReport]
    decide
  · intro σ b c a s s' path report hreport hname hfree hmessages
    obtain ⟨printed, hcompiled, hsplit⟩ := split_compiled (hname ▸ h.name) hmessages
    refine ⟨printed, ?_, hname ▸ hsplit⟩
    unfold Cli.Workbench.compile
    rw [hreport, ← hcompiled]
    simp [hfree]

/-- Diagnostics with all kinds of places, and messages that look like what stands before one. -/
def colonFailure (directory : String) : Report where
  diagnostics := [⟨.info, "", none⟩, ⟨.error, "3:4: error: x", some ⟨-1, none⟩⟩,
    ⟨.warning, ": m$instrumented.py: 1 error found", some ⟨0, some (-2)⟩⟩]
  output := none
  sourcePath := some ⟨.current, [directory, "m$instrumented.py"]⟩

/-- A workbench whose compiler warns of a line that the source does not have. -/
def warningBench : Cli.Workbench (Site Nat) :=
  { Cli.Workbench.sampleBench with
    tools := { Cli.Workbench.sampleBench.tools with
      generate := fun request s => (⟨[⟨"SyntaxWarning: 1:2: odd", 3⟩], .ok request.source⟩, s) } }

/-- The file that the sample is written to, and what is said of it. -/
theorem report_warningBench :
    ∃ path report s', warningBench.report .defaults Cli.Workbench.sampleSource
        Cli.Workbench.sampleSite = (.ok (path, report), s') ∧
      path.name = "m$instrumented.py" ∧
      report.diagnostics = [⟨.warning, "SyntaxWarning: 1:2: odd", some ⟨3, none⟩⟩] := by
  have hfound : (warningBench.report .defaults Cli.Workbench.sampleSource
      Cli.Workbench.sampleSite).1.toOption.map (fun found => (found.1.name, found.2.diagnostics)) =
        some ("m$instrumented.py", [⟨.warning, "SyntaxWarning: 1:2: odd", some ⟨3, none⟩⟩]) := by
    decide +kernel
  rcases hreport : warningBench.report .defaults Cli.Workbench.sampleSource
    Cli.Workbench.sampleSite with ⟨fault | ⟨path, report⟩, s'⟩
  · rw [hreport] at hfound
    cases hfound
  · rw [hreport] at hfound
    obtain ⟨hname, hdiagnostics⟩ := Prod.mk.inj (Option.some.inj hfound)
    exact ⟨path, report, s', rfl, hname, hdiagnostics⟩

theorem a_failure_with_colons_is_read_back :
    Template.Engine.Follows Template.fillChars? ∧
    (colonFailure "a").IsLined ∧ (colonFailure "b").IsLined ∧
    (colonFailure "b").sourceName = (colonFailure "a").sourceName ∧
    ∃ text : String,
      (Outcome.compileFailure (colonFailure "a")).filledBy? Template.fillChars? =
        some (.ofString text) ∧
      (Outcome.compileFailure (colonFailure "b")).filledBy? Template.fillChars? =
        some (.ofString text) ∧
      (colonFailure "b").diagnostics = (colonFailure "a").diagnostics ∧
      diagnosticsOf? "m$instrumented.py" text = some (colonFailure "a").diagnostics ∧
      ∃ printed s', warningBench.compile .defaults Cli.Workbench.sampleSource
          Cli.Workbench.sampleSite = (.ok (.printed printed), s') ∧
        Text.split '\n' printed.toList =
          ["m$instrumented.py:3: warning: SyntaxWarning: 1:2: odd".toList,
            "Compiled m$instrumented.py".toList, []] := by
  have hname : ∀ directory, (colonFailure directory).sourceName = "m$instrumented.py" :=
    fun _ => rfl
  have hbreak : '\n' ∉ "m$instrumented.py".toList := by simp
  have hmessages : ∀ d ∈ (colonFailure "a").diagnostics, '\n' ∉ d.message.toList := by
    simp [colonFailure]
  have hlined : ∀ directory, (colonFailure directory).IsLined := fun _ => ⟨hbreak, hmessages⟩
  have hsame : (colonFailure "b").sourceName = (colonFailure "a").sourceName := rfl
  have hengine := Template.follows_fillChars?
  obtain ⟨text, hfilled, hrender, hread, hunique, -, -, hsuccess⟩ :=
    a_rendered_failure_is_read_back hengine (hlined "a")
  have hdiagnostics' : (colonFailure "b").diagnostics = (colonFailure "a").diagnostics := rfl
  have hfilled' : (Outcome.compileFailure (colonFailure "b")).filledBy? Template.fillChars? =
      some (.ofString text) := by
    rw [Outcome.filledBy?_eq hengine, ← hrender]
    unfold Outcome.render Outcome.renderReport errors
    simp only [hsame, hdiagnostics']
  obtain ⟨path, report, s', hreport, hpath, hdiagnostics⟩ := report_warningBench
  have hfree : report.hasErrors = false := by
    unfold hasErrors
    rw [hdiagnostics]
    rfl
  have hwarning : ∀ d ∈ report.diagnostics, '\n' ∉ d.message.toList := by
    simp [hdiagnostics]
  obtain ⟨printed, hcompile, hsplit⟩ :=
    hsuccess warningBench _ _ _ s' path report hreport (hpath.trans (hname "a").symm) hfree hwarning
  rw [hname] at hread
  rw [hdiagnostics, hname] at hsplit
  refine ⟨hengine, hlined "a", hlined "b", hsame, text, hfilled, hfilled',
    hunique _ (hlined "b") hsame hfilled', hread, printed, s', hcompile, ?_⟩
  rw [hsplit]
  simp [Diagnostic.line, Position.text, Severity.text]
  rfl

end Report

end Worksheet
