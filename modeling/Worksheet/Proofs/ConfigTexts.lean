-- Texts of configurations. A configuration is read back from the text that is printed for it, unless
-- one of its limits is infinite: such a limit is written as one that is not given.
import Worksheet.Proofs.CheckedFields
import Worksheet.Proofs.CopiedSources
import Worksheet.Proofs.JsonTexts

namespace Worksheet

namespace Config

open Json (storedStyle)

variable {c : Config} {limit compileLimit : Json} {P : Double → Prop} {digits level : Nat}

/-! ## What is written -/

theorem fits_ofOption {α : Type} {f : α → Json} (hf : ∀ a, (f a).Fits P digits level)
    (value : Option α) : (Json.ofOption f value).Fits P digits level := by
  cases value with
  | none => trivial
  | some a => exact hf a

theorem fits_ofStrings (hlevel : 0 < level) (items : List String) :
    (Json.ofStrings items).Fits P digits level := by
  refine ⟨fun _ => hlevel, ?_⟩
  induction items with
  | nil => trivial
  | cons text items ih => exact ⟨trivial, ih⟩

/-- A configuration is an object of texts, lists of texts, and limits. -/
theorem fits_fieldsWith (hlimit : limit.Fits P digits (level + 1))
    (hcompileLimit : compileLimit.Fits P digits (level + 1)) :
    (Json.object (c.fieldsWith limit compileLimit)).Fits P digits (level + 2) := by
  have hstrings : ∀ items, (Json.ofStrings items).Fits P digits (level + 1) :=
    fits_ofStrings (Nat.succ_pos level)
  have htext : ∀ value, (Json.ofOption Json.string value).Fits P digits (level + 1) :=
    fits_ofOption fun _ => trivial
  refine ⟨fun _ => Nat.succ_pos _, ?_, ?_⟩
  · change List.Nodup ["language", "runtime_command", "javac_command", "compiler_classpath",
      "compiler_arguments", "output_directory", "source_directory", "timeout_sec",
      "compile_timeout_sec", "output_encoding"]
    decide
  · exact ⟨trivial, fits_ofOption hstrings _, trivial, hstrings _, hstrings _, htext _, htext _,
      hlimit, hcompileLimit, trivial, trivial⟩

theorem write_fieldsWith_congr {s : Json.Style} {limit' compileLimit' : Json}
    (hlimit : ∀ depth, limit.write s depth = limit'.write s depth)
    (hcompileLimit : ∀ depth, compileLimit.write s depth = compileLimit'.write s depth)
    (depth : Nat) :
    (Json.object (c.fieldsWith limit compileLimit)).write s depth =
      (Json.object (c.fieldsWith limit' compileLimit')).write s depth := by
  unfold fieldsWith
  simp only [Json.write, Json.writeFields, hlimit, hcompileLimit]

/-- What is written of a limit: nothing, if it is infinite. -/
def storedLimit (x : Double) : Json := if x.isFinite then .real x else .null

theorem write_storedLimit (x : Double) (depth : Nat) :
    (Json.real x).write storedStyle depth = (storedLimit x).write storedStyle depth := by
  unfold storedLimit
  split
  · rfl
  · next hx => exact Json.write_storedStyle_real (Bool.eq_false_iff.mpr hx) depth

/-- The fields that the text of a configuration tells. -/
def storedFields (c : Config) : List (String × Json) :=
  c.fieldsWith (Json.ofOption storedLimit c.timeout) (storedLimit c.compileTimeout)

theorem text_eq (c : Config) :
    c.text = String.ofList ((Json.object c.storedFields).write storedStyle 0) := by
  have hlimit : ∀ depth, (Json.ofOption .real c.timeout).write storedStyle depth =
      (Json.ofOption storedLimit c.timeout).write storedStyle depth := by
    cases c.timeout with
    | none => exact fun _ => rfl
    | some x => exact write_storedLimit x
  unfold text Json.lines toJson
  rw [fields_eq, write_fieldsWith_congr hlimit (write_storedLimit c.compileTimeout)]
  rfl

theorem fits_storedFields (c : Config) :
    (Json.object c.storedFields).Fits (fun x => x.isFinite = true) Json.Limits.strict.digits
      Json.Limits.strict.depth := by
  have hlimit : ∀ x, (storedLimit x).Fits (fun x => x.isFinite = true) Json.Limits.strict.digits
      (198 + 1) := by
    intro x
    unfold storedLimit
    split
    · next hx => exact hx
    · trivial
  exact fits_fieldsWith (fits_ofOption hlimit _) (hlimit _)

/-! ## What is read -/

/-- The text of a configuration, with blanks behind it or none, is read as its fields. -/
theorem ofText_text_append (c : Config) {blanks : String}
    (h : ∀ ch ∈ blanks.toList, Json.isJsonBlank ch = true) :
    ofText (c.text ++ blanks) = ofFields .text c.storedFields := by
  have hread := Json.read_write (Json.tells_storedStyle (by decide)) (fits_storedFields c) h
  unfold ofText
  rw [text_eq, String.toList_append, String.toList_ofList, hread]

/-- The limit on the compiler is refused when nothing is given for it. -/
def noCompileLimit : FieldFault :=
  ⟨some "compile_timeout_sec", none, .number, .text, .null⟩

theorem checkOptional_storedLimit {timeout : Option Double}
    (h : ∀ x, timeout = some x → x.isPositive = true) (o : FieldOrigin) (field : String) :
    checkOptional (checkPositive o field) (Json.ofOption storedLimit timeout) =
      .ok (timeout.filter Double.isFinite) := by
  cases timeout with
  | none => rfl
  | some x =>
    dsimp only [Json.ofOption]
    unfold storedLimit
    rw [Option.filter_some]
    split
    · rw [checkOptional_real, if_pos (h x rfl)]
    · rfl

theorem ofFields_storedFields (h : c.Valid) :
    ofFields .text c.storedFields =
      if c.compileTimeout.isFinite then .ok { c with timeout := c.timeout.filter Double.isFinite }
      else .error [noCompileLimit] := by
  unfold storedFields
  rw [ofFields_fieldsWith .text h.command, checkOptional_storedLimit h.timeout]
  unfold storedLimit
  cases c.compileTimeout.isFinite with
  | true =>
    rw [if_pos rfl, checkPositive_real, if_pos h.compileTimeout]
    rfl
  | false => rfl

/-- A limit on the compiler that is infinite is refused, and one on programs is lost. -/
theorem ofText_text_append_eq (h : c.Valid) {blanks : String}
    (hblanks : ∀ ch ∈ blanks.toList, Json.isJsonBlank ch = true) :
    ofText (c.text ++ blanks) =
      if c.compileTimeout.isFinite then .ok { c with timeout := c.timeout.filter Double.isFinite }
      else .error [noCompileLimit] :=
  (ofText_text_append c hblanks).trans (ofFields_storedFields h)

theorem ofText_text (h : c.Valid) :
    ofText c.text =
      if c.compileTimeout.isFinite then .ok { c with timeout := c.timeout.filter Double.isFinite }
      else .error [noCompileLimit] := by
  have hempty := @ofText_text_append_eq c h "" (by simp)
  rwa [String.append_empty] at hempty

theorem ofText_text_eq_ok_iff (h : c.Valid) :
    ofText c.text = .ok c ↔
      (∀ x, c.timeout = some x → x.isFinite = true) ∧ c.compileTimeout.isFinite = true := by
  have hself : c.timeout.filter Double.isFinite = c.timeout ↔
      ∀ x, c.timeout = some x → x.isFinite = true := by
    cases c.timeout <;> simp [Option.filter_some]
  have hsame : { c with timeout := c.timeout.filter Double.isFinite } = c ↔
      ∀ x, c.timeout = some x → x.isFinite = true := by
    rw [← hself]
    constructor
    · exact fun hsame => congrArg Config.timeout hsame
    · exact fun hfilter => by rw [hfilter]
  rw [ofText_text h]
  cases c.compileTimeout.isFinite with
  | true => rw [if_pos rfl, Except.ok.injEq, hsame, and_iff_left rfl]
  | false => exact iff_of_false nofun fun hfinite => Bool.false_ne_true hfinite.2

theorem not_mem_text (c : Config) : '\r' ∉ c.text.toList := by
  rw [text_eq, String.toList_ofList]
  exact Json.not_mem_write _ 0

end Config

namespace Cli

open Text (Points)

variable {σ : Type} {c : Config} {fields : List (String × Json)} {origin : FieldOrigin}
  {d : Disk} {file : String} {content : Text.Bytes} {time : Int} {o : Overrides}

/-! ## Through a file -/

/-- A file whose bytes are those of a text without carriage returns gives the configuration of this
text. -/
theorem loadConfig_of_bytes {text : String} (hread : (Disk.readBytes (.ofString file) d).1 =
      .ok (Text.Utf8.encodeString text, time)) (htext : '\r' ∉ text.toList)
    (hfile : o.config = some file) (hnamed : file ≠ "") (hfields : o.fields = []) :
    loadConfig o d = (Config.ofText text).mapError .invalid := by
  have hsaid : textSaid (some file) = some file := by
    unfold textSaid
    rw [Option.filter_some, if_pos (by simpa using hnamed)]
  have htext : (Disk.readText (.ofString file) d).1 = .ok text := by
    unfold Disk.readText
    rcases hbytes : Disk.readBytes (.ofString file) d with ⟨found, d'⟩
    rw [hbytes] at hread
    cases hread
    dsimp only
    unfold Text.Utf8.encodeString
    rw [Text.Utf8.decode_encodeChars]
    dsimp only
    rw [Text.unifyLineEnds_of_not_mem htext, String.ofList_toList]
  have hbase : baseConfig o.config d = (Config.ofText text).mapError .invalid := by
    unfold baseConfig
    rw [hfile, hsaid]
    dsimp only
    rw [htext]
  unfold loadConfig override
  rw [hbase, hfields]
  cases Config.ofText text <;> rfl

/-- Every configuration that has passed the checks of its fields is given back by the text that is
made of it, just if its limits are finite. If the one on programs is infinite, it is lost; if the one
on the compiler is, the text is refused. What is printed of a configuration, put into a file and
given as the configuration, says the same. -/
theorem a_configuration_is_read_back_unless_a_limit_is_infinite
    (h : Config.ofFields origin fields = .ok c) :
    (Config.ofText c.text = .ok c ↔
      (∀ x, c.timeout = some x → x.isFinite = true) ∧ c.compileTimeout.isFinite = true) ∧
    (Config.ofText c.text =
      if c.compileTimeout.isFinite then .ok { c with timeout := c.timeout.filter Double.isFinite }
      else .error [Config.noCompileLimit]) ∧
    ∀ (b : Workbench σ) (s : σ), ∃ printed content,
      b.command c .config s = (.ok (.success printed), s) ∧ Text.Utf8.encode printed = .ok content ∧
      ∀ (o : Overrides) (d : Disk) (file : String) (time : Int), o.config = some file → file ≠ "" →
        o.fields = [] → (Disk.readBytes (.ofString file) d).1 = .ok (content, time) →
          loadConfig o d = (Config.ofText c.text).mapError .invalid := by
  have hvalid := Config.valid_of_ofFields h
  refine ⟨Config.ofText_text_eq_ok_iff hvalid, Config.ofText_text hvalid, fun b s => ?_⟩
  refine ⟨.ofString (c.text ++ "\n"), Text.Utf8.encodeString (c.text ++ "\n"), rfl,
    Text.Utf8.encode_ofChars _, fun o d file time hfile hnamed hfields hread => ?_⟩
  have hplain : '\r' ∉ (c.text ++ "\n").toList := by
    rw [String.toList_append, List.mem_append, not_or]
    exact ⟨Config.not_mem_text c, by decide⟩
  rw [loadConfig_of_bytes hread hplain hfile hnamed hfields,
    Config.ofText_text_append_eq hvalid (by simp [Json.isJsonBlank]), Config.ofText_text hvalid]

/-- The double next to a tenth. -/
def tenth : Double := .finite false 7205759403792794 (-56) (by decide)

/-- Texts with quotes and control characters, lists that are empty or not, and a limit that is not
whole. -/
def variedFields : List (String × Json) := [
  ("runtime_command", .array [.string "", .string "sh \"-c\""]),
  ("javac_command", .string "C:\\javac\n\r\t\x00"),
  ("compiler_classpath", .array []),
  ("source_directory", .string "é \u0800 😀"),
  ("timeout_sec", .real tenth)]

theorem varied_fields_are_read_back :
    ∃ c, Config.ofFields .values variedFields = .ok c ∧ c.timeout = some tenth ∧
      Config.ofText c.text = .ok c := by
  refine ⟨_, rfl, rfl, ?_⟩
  have hread := a_configuration_is_read_back_unless_a_limit_is_infinite (σ := Unit)
    (show Config.ofFields .values variedFields = .ok _ from rfl)
  refine hread.1.mpr ⟨?_, by decide⟩
  rintro x ⟨⟩
  rfl

/-- An infinite limit on the compiler is not refused, but its text is. -/
theorem an_infinite_limit_is_not_read_back :
    ¬∀ (origin : FieldOrigin) (fields : List (String × Json)) (c : Config),
      Config.ofFields origin fields = .ok c → Config.ofText c.text = .ok c := by
  intro hall
  have hread := hall .text [("compile_timeout_sec", .real (.infinite false))] _ rfl
  rw [Config.ofText_text (by decide)] at hread
  cases hread

end Cli

end Worksheet
