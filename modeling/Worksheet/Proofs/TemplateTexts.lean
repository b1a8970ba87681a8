-- The texts of outcomes and their templates. Whatever engine fills the templates as the language of
-- templates says makes just the texts that are written out for the outcomes.
import Worksheet.OutcomeTemplates

namespace Worksheet

/-! ## Texts -/

namespace Text.Points

theorem ofString_append (a b : String) : ofString (a ++ b) = ofString a ++ ofString b := by
  simp [ofString, ofChars]

theorem ofString_join (texts : List String) :
    ofString (String.join texts) = (texts.map ofString).flatten := by
  induction texts with
  | nil => rfl
  | cons text texts ih =>
    rw [List.map_cons, List.flatten_cons, ← ih, ← ofString_append]
    simp [ofString]

end Text.Points

/-! ## What the templates say -/

namespace Template

/-- The line of a diagnostic. -/
def diagnosticLine : Template :=
  .value (.path "source_name" []) <| .text [':'] <|
  .when (.path "d" ["position"]) (.value (.path "d" ["position"]) (.text [':'] .done)) <|
  .text [' '] <| .value (.path "d" ["severity", "value"]) <| .text [':', ' '] <|
  .value (.path "d" ["message"]) <| .text ['\n'] .done

/-- The last line, which counts the errors. -/
def countLine : Template :=
  .set "n" (.size "report" ["errors"]) <|
  .value (.path "n" []) <| .text " error".toList <|
  .value (.choice (.literal "") (.path "n" []) (.number 1) (.literal "s")) <|
  .text " found".toList .done

def compileFailure : Template :=
  .each "d" (.path "report" ["diagnostics"]) diagnosticLine countLine

def executionFailure : Template :=
  .text "Evaluation failed (".toList <| .value (.path "outcome" ["kind", "value"]) <|
  .text "): ".toList <| .value (.path "outcome" ["cause"]) .done

def ofOutcome : Outcome → Template
  | .success .. => .value (.path "outcome" ["output"]) .done
  | .compileFailure _ => compileFailure
  | .executionFailure .. => executionFailure

set_option maxRecDepth 2000 in
/-- Of the line breaks of a template only the one behind a message is kept: the others stand behind
blocks, or at the end. -/
theorem ofChars?_template (o : Outcome) : ofChars? o.template = some (ofOutcome o) := by
  cases o with
  | success output exitCode => rfl
  | compileFailure report =>
    unfold Outcome.template Outcome.compileFailureTemplate valueTag blockTag
    simp only [String.reduceToList]
    rfl
  | executionFailure cause kind => rfl

variable {s : Scope} {name : String}

theorem fill?_diagnosticLine (hname : s.lookup "source_name" = some (.text (.ofString name)))
    (d : Diagnostic) :
    diagnosticLine.fill? (("d", d.value) :: s) = some (.ofString (d.line name ++ "\n")) := by
  obtain ⟨severity, message, position⟩ := d
  cases position <;>
    simp [diagnosticLine, fill?, Expression.pathValue?, List.lookup_cons, hname,
      Value.points?, Value.field?, Value.holds, Diagnostic.value, Severity.value, Position.value,
      Diagnostic.line, Text.Points.ofString, Text.Points.ofChars]

theorem mapM_diagnosticLine (hname : s.lookup "source_name" = some (.text (.ofString name)))
    (ds : List Diagnostic) :
    (ds.map Diagnostic.value).mapM (fun v => diagnosticLine.fill? (("d", v) :: s)) =
      some (ds.map fun d => .ofString (d.line name ++ "\n")) := by
  induction ds with
  | nil => rfl
  | cons d ds ih => simp [fill?_diagnosticLine hname, ih]

/-- The text that follows the number of errors. -/
theorem value?_plural (n : Nat) (s : Scope) :
    (Expression.choice (.literal "") (.path "n" []) (.number 1) (.literal "s")).value?
      (("n", .number n) :: s) = some (.text (.ofString (if n = 1 then "" else "s"))) := by
  have hone : ((n : Int) = 1) ↔ n = 1 := by omega
  by_cases h : n = 1 <;>
    simp [Expression.value?, Expression.pathValue?, Value.same?, hone, h]

theorem fill?_countLine {r : Report} (hreport : s.lookup "report" = some r.value) :
    countLine.fill? s = some (.ofString (Outcome.errorCount r.errors.length)) := by
  have herrors : r.value.field? "errors" = some (.list (r.errors.map Diagnostic.value)) := by
    simp [Report.value, Value.field?, List.lookup_cons]
  unfold countLine Outcome.errorCount
  simp [fill?, Expression.pathValue?, hreport, herrors, Value.items?, Value.points?, value?_plural,
    Text.Points.ofString_append]
  rfl

theorem fill?_compileFailure (r : Report) :
    compileFailure.fill? (Outcome.compileFailure r).scope =
      some (Outcome.compileFailure r).render := by
  have hreport : (Outcome.compileFailure r).scope.lookup "report" = some r.value := by
    simp [Outcome.scope, List.lookup_cons]
  have hname : (Outcome.compileFailure r).scope.lookup "source_name" =
      some (.text (.ofString r.sourceName)) := by
    simp [Outcome.scope, List.lookup_cons]
  have hdiagnostics : r.value.field? "diagnostics" =
      some (.list (r.diagnostics.map Diagnostic.value)) := rfl
  unfold compileFailure Outcome.render Outcome.renderReport
  simp [fill?, Expression.pathValue?, hreport, hdiagnostics, Value.items?,
    mapM_diagnosticLine hname, fill?_countLine hreport, Text.Points.ofString_append,
    Text.Points.ofString_join, Function.comp_def]

theorem fill?_ofOutcome (o : Outcome) : (ofOutcome o).fill? o.scope = some o.render := by
  cases o with
  | success output exitCode =>
    simp [ofOutcome, fill?, Expression.pathValue?, Outcome.scope, Value.field?, Value.points?,
      Outcome.render]
  | compileFailure report => exact fill?_compileFailure report
  | executionFailure cause kind =>
    simp [ofOutcome, executionFailure, fill?, Expression.pathValue?, Outcome.scope, List.lookup_cons,
      Value.field?, FailureKind.value, Value.points?, Outcome.render, Text.Points.ofString,
      Text.Points.ofChars]

end Template

/-- The text of an outcome is what its template makes of it. -/
theorem Outcome.filledBy?_eq {engine : Template.Engine} (h : engine.Follows) (o : Outcome) :
    o.filledBy? engine = some o.render :=
  h _ _ _ _ (Template.ofChars?_template o) (Template.fill?_ofOutcome o)

end Worksheet
