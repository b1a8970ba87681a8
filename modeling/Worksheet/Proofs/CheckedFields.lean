-- Configurations that pass the checks of their fields. The checks accept just the configurations
-- that start a program and whose limits are above zero, and give them back as they are.
import Worksheet.Config.Validation

namespace Worksheet

namespace Config

variable {o : FieldOrigin} {c : Config} {fields : List (String × Json)} {field : String} {v : Json}

/-! ## Valid configurations -/

/-- A command is not empty, and limits are above zero. -/
structure Valid (c : Config) : Prop where
  command : c.runtimeCommand ≠ some []
  timeout : ∀ x, c.timeout = some x → x.isPositive = true
  compileTimeout : c.compileTimeout.isPositive = true

instance (c : Config) : Decidable c.Valid :=
  decidable_of_iff (c.runtimeCommand ≠ some [] ∧ (∀ x, c.timeout = some x → x.isPositive = true) ∧
      c.compileTimeout.isPositive = true)
    ⟨fun h => ⟨h.1, h.2.1, h.2.2⟩, fun h => ⟨h.command, h.timeout, h.compileTimeout⟩⟩

theorem valid_defaults : defaults.Valid := by decide

/-! ## Single checks -/

theorem ofText?_text (l : Language) : Language.ofText? l.text = some l := by cases l <;> rfl

theorem checkLanguage_text (l : Language) :
    checkLanguage o field (.string l.text) = .ok l := by
  unfold checkLanguage
  dsimp only
  rw [ofText?_text]

theorem checkItems_strings (i : Nat) (items : List String) :
    checkItems o field i (items.map .string) = .ok items := by
  induction items generalizing i with
  | nil => rfl
  | cons s items ih =>
    rw [List.map_cons, checkItems, ih]
    rfl

theorem checkStrings_ofStrings (items : List String) :
    checkStrings o field (Json.ofStrings items) = .ok items :=
  checkItems_strings 0 items

/-- A check that refuses null lets an optional value through when it lets the value through. -/
theorem checkOptional_ofOption {α : Type} {check : FieldCheck α} {f : α → Json}
    (hnull : ∀ a, f a ≠ .null) {value : Option α} (h : ∀ a, value = some a → check (f a) = .ok a) :
    checkOptional check (Json.ofOption f value) = .ok value := by
  cases value with
  | none => rfl
  | some a =>
    unfold checkOptional Json.ofOption
    dsimp only
    split
    · next hnone => exact absurd hnone (hnull a)
    · rw [h a rfl]
      rfl

theorem checkCommand_ofOption {command : Option (List String)} (h : command ≠ some []) :
    checkCommand o field (Json.ofOption Json.ofStrings command) = .ok command := by
  have hoptional : checkOptional (checkStrings o field) (Json.ofOption Json.ofStrings command) =
      .ok command := checkOptional_ofOption nofun fun a _ => checkStrings_ofStrings a
  unfold checkCommand
  rw [hoptional]
  split
  · next hempty => exact absurd (Except.ok.inj hempty) h
  · rfl

theorem checkPositive_real (x : Double) :
    checkPositive o field (.real x) =
      if x.isPositive then .ok x else refuse field none .notPositive o (.real x) := rfl

theorem checkOptional_real (x : Double) :
    checkOptional (checkPositive o field) (.real x) =
      if x.isPositive then .ok (some x) else refuse field none .notPositive o (.real x) := by
  change (checkPositive o field (.real x)).map some = _
  rw [checkPositive_real]
  split <;> rfl

theorem isPositive_of_checkPositive {x : Double} (h : checkPositive o field v = .ok x) :
    x.isPositive = true := by
  unfold checkPositive at h
  cases hnumber : checkNumber o field v with
  | error faults =>
    rw [hnumber] at h
    cases h
  | ok y =>
    rw [hnumber] at h
    dsimp only at h
    split at h
    · next hpositive =>
      cases h
      exact hpositive
    · cases h

theorem isPositive_of_checkOptional {value : Option Double}
    (h : checkOptional (checkPositive o field) v = .ok value) :
    ∀ x, value = some x → x.isPositive = true := by
  rintro x rfl
  unfold checkOptional at h
  split at h
  · cases h
  · cases hpositive : checkPositive o field v with
    | error faults =>
      rw [hpositive] at h
      cases h
    | ok y =>
      rw [hpositive] at h
      cases h
      exact isPositive_of_checkPositive hpositive

theorem ne_of_checkCommand {command : Option (List String)}
    (h : checkCommand o field v = .ok command) : command ≠ some [] := by
  rintro rfl
  unfold checkCommand at h
  split at h
  · cases h
  · next hother => exact hother h

theorem fieldOr_property {α : Type} {check : String → FieldCheck α} {fallback value : α}
    {P : α → Prop} (hfallback : P fallback) (hcheck : ∀ v, check field v = .ok value → P value)
    (h : fieldOr fields field check fallback = .ok value) : P value := by
  unfold fieldOr at h
  split at h
  · next v _ => exact hcheck v h
  · cases h
    exact hfallback

/-! ## All checks -/

/-- The checks give a configuration when each field has passed its own. -/
theorem ofFields_eq_ok_iff :
    ofFields o fields = .ok c ↔
      fieldOr fields "language" (checkLanguage o) defaults.language = .ok c.language ∧
      fieldOr fields "runtime_command" (checkCommand o) defaults.runtimeCommand =
        .ok c.runtimeCommand ∧
      fieldOr fields "javac_command" (fun f => checkString o f none) defaults.javacCommand =
        .ok c.javacCommand ∧
      fieldOr fields "compiler_classpath" (checkStrings o) defaults.compilerClasspath =
        .ok c.compilerClasspath ∧
      fieldOr fields "compiler_arguments" (checkStrings o) defaults.compilerArguments =
        .ok c.compilerArguments ∧
      fieldOr fields "output_directory" (fun f => checkOptional (checkString o f none))
        defaults.outputDirectory = .ok c.outputDirectory ∧
      fieldOr fields "source_directory" (fun f => checkOptional (checkString o f none))
        defaults.sourceDirectory = .ok c.sourceDirectory ∧
      fieldOr fields "timeout_sec" (fun f => checkOptional (checkPositive o f)) defaults.timeout =
        .ok c.timeout ∧
      fieldOr fields "compile_timeout_sec" (checkPositive o) defaults.compileTimeout =
        .ok c.compileTimeout ∧
      fieldOr fields "output_encoding" (fun f => checkString o f none) defaults.outputEncoding =
        .ok c.outputEncoding := by
  unfold ofFields
  dsimp only
  constructor
  · intro h
    split at h
    · next h₁ h₂ h₃ h₄ h₅ h₆ h₇ h₈ h₉ h₁₀ =>
      cases h
      exact ⟨h₁, h₂, h₃, h₄, h₅, h₆, h₇, h₈, h₉, h₁₀⟩
    · cases h
  · rintro ⟨h₁, h₂, h₃, h₄, h₅, h₆, h₇, h₈, h₉, h₁₀⟩
    rw [h₁, h₂, h₃, h₄, h₅, h₆, h₇, h₈, h₉, h₁₀]

theorem valid_of_ofFields (h : ofFields o fields = .ok c) : c.Valid := by
  obtain ⟨-, hcommand, -, -, -, -, -, htimeout, hcompileTimeout, -⟩ := ofFields_eq_ok_iff.mp h
  exact {
    command := fieldOr_property (P := (· ≠ some [])) valid_defaults.command
      (fun _ => ne_of_checkCommand) hcommand
    timeout := fieldOr_property (P := fun value => ∀ x, value = some x → x.isPositive = true)
      valid_defaults.timeout (fun _ => isPositive_of_checkOptional) htimeout
    compileTimeout := fieldOr_property (P := fun x => x.isPositive = true)
      valid_defaults.compileTimeout (fun _ => isPositive_of_checkPositive) hcompileTimeout }

theorem valid_of_ofText {text : String} (h : ofText text = .ok c) : c.Valid := by
  unfold ofText at h
  split at h
  · cases h
  · exact valid_of_ofFields h
  · cases h

/-! ## The fields of a configuration -/

theorem fieldOr_of_lookup {α : Type} {check : String → FieldCheck α} {fallback : α}
    (h : fields.lookup field = some v) : fieldOr fields field check fallback = check field v := by
  unfold fieldOr
  rw [h]

/-- The fields of a configuration, with other values for its limits. -/
def fieldsWith (c : Config) (limit compileLimit : Json) : List (String × Json) := [
  ("language", .string c.language.text),
  ("runtime_command", Json.ofOption Json.ofStrings c.runtimeCommand),
  ("javac_command", .string c.javacCommand),
  ("compiler_classpath", Json.ofStrings c.compilerClasspath),
  ("compiler_arguments", Json.ofStrings c.compilerArguments),
  ("output_directory", Json.ofOption .string c.outputDirectory),
  ("source_directory", Json.ofOption .string c.sourceDirectory),
  ("timeout_sec", limit),
  ("compile_timeout_sec", compileLimit),
  ("output_encoding", .string c.outputEncoding)]

theorem fields_eq (c : Config) :
    c.fields = c.fieldsWith (Json.ofOption .real c.timeout) (.real c.compileTimeout) := rfl

/-- Of the fields of a configuration that starts a program, at most the limits are at fault. -/
theorem ofFields_fieldsWith (o : FieldOrigin) (hcommand : c.runtimeCommand ≠ some [])
    (limit compileLimit : Json) :
    ofFields o (c.fieldsWith limit compileLimit) =
      match checkOptional (checkPositive o "timeout_sec") limit,
        checkPositive o "compile_timeout_sec" compileLimit with
      | .ok timeout, .ok compileTimeout => .ok { c with timeout, compileTimeout }
      | checked, checked' => .error (faultsOf checked ++ faultsOf checked') := by
  have hlanguage : fieldOr (c.fieldsWith limit compileLimit) "language" (checkLanguage o)
      defaults.language = .ok c.language :=
    (fieldOr_of_lookup rfl).trans (checkLanguage_text c.language)
  have hruntime : fieldOr (c.fieldsWith limit compileLimit) "runtime_command" (checkCommand o)
      defaults.runtimeCommand = .ok c.runtimeCommand :=
    (fieldOr_of_lookup rfl).trans (checkCommand_ofOption hcommand)
  have hjavac : fieldOr (c.fieldsWith limit compileLimit) "javac_command"
      (fun f => checkString o f none) defaults.javacCommand = .ok c.javacCommand :=
    (fieldOr_of_lookup rfl).trans rfl
  have hclasspath : fieldOr (c.fieldsWith limit compileLimit) "compiler_classpath" (checkStrings o)
      defaults.compilerClasspath = .ok c.compilerClasspath :=
    (fieldOr_of_lookup rfl).trans (checkStrings_ofStrings c.compilerClasspath)
  have harguments : fieldOr (c.fieldsWith limit compileLimit) "compiler_arguments" (checkStrings o)
      defaults.compilerArguments = .ok c.compilerArguments :=
    (fieldOr_of_lookup rfl).trans (checkStrings_ofStrings c.compilerArguments)
  have houtput : fieldOr (c.fieldsWith limit compileLimit) "output_directory"
      (fun f => checkOptional (checkString o f none)) defaults.outputDirectory =
        .ok c.outputDirectory :=
    (fieldOr_of_lookup rfl).trans (checkOptional_ofOption nofun fun _ _ => rfl)
  have hsource : fieldOr (c.fieldsWith limit compileLimit) "source_directory"
      (fun f => checkOptional (checkString o f none)) defaults.sourceDirectory =
        .ok c.sourceDirectory :=
    (fieldOr_of_lookup rfl).trans (checkOptional_ofOption nofun fun _ _ => rfl)
  have htimeout : fieldOr (c.fieldsWith limit compileLimit) "timeout_sec"
      (fun f => checkOptional (checkPositive o f)) defaults.timeout =
        checkOptional (checkPositive o "timeout_sec") limit := fieldOr_of_lookup rfl
  have hcompileTimeout : fieldOr (c.fieldsWith limit compileLimit) "compile_timeout_sec"
      (checkPositive o) defaults.compileTimeout =
        checkPositive o "compile_timeout_sec" compileLimit := fieldOr_of_lookup rfl
  have hencoding : fieldOr (c.fieldsWith limit compileLimit) "output_encoding"
      (fun f => checkString o f none) defaults.outputEncoding = .ok c.outputEncoding :=
    (fieldOr_of_lookup rfl).trans rfl
  unfold ofFields
  rw [hlanguage, hruntime, hjavac, hclasspath, harguments, houtput, hsource, htimeout,
    hcompileTimeout, hencoding]
  rcases checkOptional (checkPositive o "timeout_sec") limit with faults | timeout <;>
    rcases checkPositive o "compile_timeout_sec" compileLimit with faults' | compileTimeout <;>
    simp [faultsOf]

/-- What the limit on programs is told, when it is not above zero. -/
def notPositive (o : FieldOrigin) (x : Double) : FieldFault :=
  ⟨some "timeout_sec", none, .notPositive, o, .real x⟩

/-- If the limit on the compiler is above zero, only the one on programs can be at fault. -/
theorem ofFields_fields_eq (o : FieldOrigin) (hcommand : c.runtimeCommand ≠ some [])
    (hcompileTimeout : c.compileTimeout.isPositive = true) :
    ofFields o c.fields =
      match c.timeout with
      | some x => if x.isPositive then .ok c else .error [notPositive o x]
      | none => .ok c := by
  rw [fields_eq, ofFields_fieldsWith o hcommand, checkPositive_real, if_pos hcompileTimeout]
  obtain ⟨_, _, _, _, _, _, _, timeout, _, _⟩ := c
  cases timeout with
  | none => rfl
  | some x =>
    dsimp only [Json.ofOption]
    rw [checkOptional_real]
    cases x.isPositive <;> rfl

theorem ofFields_fields (o : FieldOrigin) (h : c.Valid) : ofFields o c.fields = .ok c := by
  rw [ofFields_fields_eq o h.command h.compileTimeout]
  cases htimeout : c.timeout with
  | none => rfl
  | some x => exact if_pos (h.timeout x htimeout)

/-- The valid configurations are those that there are fields for. -/
theorem valid_iff : c.Valid ↔ ∃ o fields, ofFields o fields = .ok c :=
  ⟨fun h => ⟨.text, c.fields, ofFields_fields .text h⟩, fun ⟨_, _, h⟩ => valid_of_ofFields h⟩

end Config

end Worksheet
