-- Texts of outcomes. What a run prints as JSON tells its whole outcome: only the artifacts of a
-- compilation are left out.
import Worksheet.Cli.Commands
import Worksheet.Proofs.JsonTexts
import Worksheet.Proofs.PathForm

namespace Worksheet

/-! ## Reading -/

namespace Json

def string? : Json → Option String
  | .string s => some s
  | _ => none

def integer? : Json → Option Int
  | .integer n => some n
  | _ => none

def items? : Json → Option (List Json)
  | .array items => some items
  | _ => none

end Json

/-- A place is a line, with a column or without one. Where there is no line there is no place. -/
def Position.ofJson? : (line column : Json) → Option (Option Position)
  | .null, .null => some none
  | .integer line, .null => some (some ⟨line, none⟩)
  | .integer line, .integer column => some (some ⟨line, some column⟩)
  | _, _ => none

def Diagnostic.ofJson? (v : Json) : Option Diagnostic := do
  let severity ← v.field? "severity" >>= Json.string? >>= Severity.ofText?
  let message ← v.field? "message" >>= Json.string?
  let position ← Position.ofJson? (← v.field? "line") (← v.field? "column")
  some ⟨severity, message, position⟩

def Path.ofJson? : Json → Option (Option Path)
  | .null => some none
  | .string text => some (some (.ofString text))
  | _ => none

/-- A report without its artifacts. -/
def Report.ofJson? (v : Json) : Option Report := do
  let sourcePath ← v.field? "source_path" >>= Path.ofJson?
  let items ← v.field? "diagnostics" >>= Json.items?
  let diagnostics ← items.mapM Diagnostic.ofJson?
  some ⟨diagnostics, none, sourcePath⟩

namespace Outcome

def successOfJson? (v : Json) : Option Outcome := do
  let output ← v.field? "output" >>= Json.string?
  let exitCode ← v.field? "exit_code" >>= Json.integer?
  some (.success (.ofString output) exitCode)

def compileFailureOfJson? (v : Json) : Option Outcome := do
  let report ← v.field? "report" >>= Report.ofJson?
  some (.compileFailure report)

def executionFailureOfJson? (v : Json) : Option Outcome := do
  let cause ← v.field? "cause" >>= Json.string?
  let kind ← v.field? "kind" >>= Json.string? >>= FailureKind.ofText?
  some (.executionFailure cause kind)

/-- The status says which fields there are. -/
def ofJson? (v : Json) : Option Outcome :=
  match v.field? "status" >>= Json.string? with
  | some "success" => successOfJson? v
  | some "compile_failure" => compileFailureOfJson? v
  | some "execution_failure" => executionFailureOfJson? v
  | _ => none

/-- The outcome that a text tells. -/
def ofText? (text : String) : Option Outcome := Json.ofText? text >>= ofJson?

/-- The outcome without the artifacts of its report. -/
def withoutArtifacts : Outcome → Outcome
  | .compileFailure report => .compileFailure { report with output := none }
  | outcome => outcome

/-- An outcome whose output holds no surrogates. A path is in normal form, as all paths are that were
read from a text. -/
def IsPlain : Outcome → Prop
  | .success output _ => ∃ s, output = .ofString s
  | .compileFailure report => ∀ p, report.sourcePath = some p → p.IsNormal
  | .executionFailure .. => True

end Outcome

/-! ## Words -/

theorem Severity.ofText?_text (v : Severity) : ofText? v.text = some v := by
  cases v <;> decide

theorem FailureKind.ofText?_text (v : FailureKind) : ofText? v.text = some v := by
  cases v <;> decide

theorem Text.CodePoint.toChar?_ofChar (c : Char) : (CodePoint.ofChar c).toChar? = some c := by
  unfold CodePoint.toChar?
  rw [CodePoint.isSurrogate_ofChar, if_neg Bool.false_ne_true]
  exact congrArg some (Char.ofNat_toNat c)

theorem Text.Points.toString?_ofString (s : String) : (Points.ofString s).toString? = some s := by
  have hall : ∀ cs : List Char, (cs.map CodePoint.ofChar).mapM CodePoint.toChar? = some cs := by
    intro cs
    induction cs with
    | nil => rfl
    | cons c cs ih => simp [CodePoint.toChar?_ofChar, ih]
  unfold Points.toString? Points.ofString Points.ofChars
  rw [hall, Option.map_some, String.ofList_toList]

/-! ## Values -/

theorem Position.ofJson?_toJson (p : Option Position) :
    Position.ofJson? (Json.ofOption (fun p => .integer p.line) p)
      (Json.ofOption .integer (p.bind (·.column))) = some p := by
  rcases p with _ | ⟨line, _ | column⟩ <;> rfl

theorem Diagnostic.ofJson?_toJson (d : Diagnostic) : Diagnostic.ofJson? d.toJson = some d := by
  obtain ⟨severity, message, position⟩ := d
  unfold Diagnostic.ofJson? toJson
  simp [Json.field?, List.lookup_cons, Json.string?, Severity.ofText?_text, Position.ofJson?_toJson]

theorem Path.ofJson?_toJson {p : Option Path} (h : ∀ q, p = some q → q.IsNormal) :
    Path.ofJson? (Json.ofOption (fun p => .string p.text) p) = some p := by
  cases p with
  | none => rfl
  | some q => exact congrArg (fun q => some (some q)) (ofString_text (h q rfl))

theorem Report.ofJson?_toJson {r : Report} (h : ∀ p, r.sourcePath = some p → p.IsNormal) :
    Report.ofJson? r.toJson = some { r with output := none } := by
  have hall : (r.diagnostics.map Diagnostic.toJson).mapM Diagnostic.ofJson? =
      some r.diagnostics := by
    induction r.diagnostics with
    | nil => rfl
    | cons d ds ih => simp [Diagnostic.ofJson?_toJson, ih]
  unfold Report.ofJson? toJson
  simp [Json.field?, List.lookup_cons, Path.ofJson?_toJson h, Json.items?, hall]

namespace Outcome

theorem ofJson?_toJson {o : Outcome} (h : o.IsPlain) :
    ofJson? o.toJson = some o.withoutArtifacts := by
  cases o with
  | success output exitCode =>
    obtain ⟨s, rfl⟩ := h
    simp [ofJson?, toJson, status, Json.field?, List.lookup_cons, Json.string?, successOfJson?,
      Json.ofPoints, Text.Points.toString?_ofString, Json.integer?, withoutArtifacts]
  | compileFailure report =>
    simp [ofJson?, toJson, status, Json.field?, List.lookup_cons, Json.string?,
      compileFailureOfJson?, Report.ofJson?_toJson h, withoutArtifacts]
  | executionFailure cause kind =>
    simp [ofJson?, toJson, status, Json.field?, List.lookup_cons, Json.string?,
      executionFailureOfJson?, FailureKind.ofText?_text, withoutArtifacts]

end Outcome

/-! ## Texts -/

variable {P : Double → Prop}

theorem Json.readable_ofOption {α : Type} {f : α → Json} (hf : ∀ a, (f a).Readable P)
    (value : Option α) : (Json.ofOption f value).Readable P := by
  cases value with
  | none => trivial
  | some a => exact hf a

theorem Diagnostic.readable_toJson (d : Diagnostic) : d.toJson.Readable P := by
  refine ⟨?_, trivial, trivial, ?_, ?_, trivial⟩
  · change List.Nodup ["severity", "message", "line", "column"]
    decide
  · apply Json.readable_ofOption
    exact fun p => trivial
  · apply Json.readable_ofOption
    exact fun n => trivial

theorem Report.readable_toJson (r : Report) : r.toJson.Readable P := by
  refine ⟨?_, ?_, trivial, ?_, trivial⟩
  · change List.Nodup ["source_path", "has_errors", "diagnostics"]
    decide
  · apply Json.readable_ofOption
    exact fun p => trivial
  · change Json.ItemsReadable P (r.diagnostics.map Diagnostic.toJson)
    induction r.diagnostics with
    | nil => trivial
    | cons d ds ih => exact ⟨d.readable_toJson, ih⟩

namespace Outcome

theorem readable_toJson {o : Outcome} (h : o.IsPlain) : o.toJson.Readable P := by
  cases o with
  | success output exitCode =>
    obtain ⟨s, rfl⟩ := h
    refine ⟨?_, trivial, ?_, trivial, trivial⟩
    · change List.Nodup ["status", "output", "exit_code"]
      decide
    · unfold Json.ofPoints
      rw [Text.Points.toString?_ofString]
      trivial
  | compileFailure report =>
    refine ⟨?_, trivial, report.readable_toJson, trivial⟩
    change List.Nodup ["status", "report"]
    decide
  | executionFailure cause kind =>
    refine ⟨?_, trivial, trivial, trivial, trivial⟩
    change List.Nodup ["status", "kind", "cause"]
    decide

end Outcome

end Worksheet
