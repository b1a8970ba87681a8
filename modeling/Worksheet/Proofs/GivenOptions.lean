-- Options that change a configuration. One that is given sets its field to its value and leaves the
-- others as they are, or the configuration is refused; but a value that is empty or zero counts as
-- none, and is passed over without a word.
import Worksheet.Cli.Overrides
import Worksheet.Proofs.AcceptedValues
import Worksheet.Proofs.CheckedFields

namespace Worksheet

namespace Cli

open CommandLine (CommandReading readCommand)

/-! ## What is given -/

/-- The options that set a field, each with its field. -/
def fieldOptions : List (String × String) :=
  [("language", "language"), ("output_dir", "output_directory"), ("timeout", "timeout_sec")]

/-- The value of an option as a field would hold it. Without words it is an empty list. -/
def fieldValue? : ParameterValue → Option Json
  | .absent => none
  | .wordless => some (.array [])
  | .flag b => some (.bool b)
  | .text s => some (.string s)
  | .number x => some (.real x)
  | .texts items => some (.array (items.map fun item => item.elim (.array []) .string))

/-- The value that a command line gives for an option. -/
def given (values : List (String × ParameterValue)) (key : String) : Option Json :=
  (values.lookup key).bind fieldValue?

/-- An empty text or list, or a zero of either sign. -/
def isEmptyValue : Json → Bool
  | .string s => s.isEmpty
  | .real x => x.isZero
  | .array items => items.isEmpty
  | _ => false

/-- The value that is given for an option, if it is not empty. -/
def said (values : List (String × ParameterValue)) (key : String) : Option Json :=
  (given values key).filter fun v => !isEmptyValue v

/-- A configuration has the values that are given for options, and all else from another one. -/
structure Heeds (values : String → Option Json) (base c : Config) : Prop where
  heeded : ∀ option ∈ fieldOptions, ∀ v, values option.1 = some v →
    c.fields.lookup option.2 = some v
  others : ∀ field, (∀ option ∈ fieldOptions, option.2 = field → values option.1 = none) →
    c.fields.lookup field = base.fields.lookup field

/-! ## Fields that are set -/

theorem lookup_entry (field key : String) (v : Json) (rest : List (String × Json)) :
    ((key, v) :: rest).lookup field = if field = key then some v else rest.lookup field := by
  rw [List.lookup_cons]
  by_cases h : field = key
  · rw [if_pos h, beq_iff_eq.mpr h]
  · rw [if_neg h, beq_eq_false_iff_ne.mpr h]

theorem lookup_setField (key : String) (v : Json) (fields : List (String × Json)) (field : String) :
    (Json.setField key v fields).lookup field =
      if field = key then some v else fields.lookup field := by
  induction fields with
  | nil => exact lookup_entry field key v []
  | cons entry rest ih =>
    obtain ⟨k, old⟩ := entry
    unfold Json.setField
    split
    · next hk =>
      subst hk
      rw [lookup_entry, lookup_entry]
      split <;> rfl
    · next hk =>
      rw [lookup_entry, lookup_entry, ih]
      by_cases h : field = k
      · rw [if_pos h, if_pos h, if_neg fun hkey => hk (h.symm.trans hkey)]
      · rw [if_neg h, if_neg h]

theorem lookup_setFields_of_not_mem {changes fields : List (String × Json)} {field : String}
    (h : ∀ v, (field, v) ∉ changes) : (setFields changes fields).lookup field =
      fields.lookup field := by
  unfold setFields
  induction changes generalizing fields with
  | nil => rfl
  | cons change rest ih =>
    obtain ⟨key, v⟩ := change
    have hne : field ≠ key := by
      rintro rfl
      exact h v List.mem_cons_self
    rw [List.foldl_cons, ih fun v' hv' => h v' (List.mem_cons_of_mem _ hv'), lookup_setField,
      if_neg hne]

theorem lookup_setFields_of_mem {changes fields : List (String × Json)} {field : String} {v : Json}
    (hnodup : (changes.map (·.1)).Nodup) (h : (field, v) ∈ changes) :
    (setFields changes fields).lookup field = some v := by
  induction changes generalizing fields with
  | nil => cases h
  | cons change rest ih =>
    rw [List.map_cons, List.nodup_cons] at hnodup
    change (setFields rest (Json.setField change.1 change.2 fields)).lookup field = some v
    rcases List.mem_cons.mp h with rfl | hrest
    · rw [lookup_setFields_of_not_mem fun v' hv' => hnodup.1 (List.mem_map.mpr ⟨_, hv', rfl⟩),
        lookup_setField, if_pos rfl]
    · exact ih hnodup.2 hrest

/-! ## Options that have their say -/

variable {values : List (String × ParameterValue)} {o : Overrides} {base c : Config} {d : Disk}

theorem said_eq_of_text {key : String}
    (h : ∀ v, values.lookup key = some v → v = .absent ∨ v = .wordless ∨ ∃ s, v = .text s) :
    said values key = (textSaid (text? values key)).map .string := by
  unfold said given text? textSaid
  cases hlookup : values.lookup key with
  | none => rfl
  | some v =>
    obtain rfl | rfl | ⟨s, rfl⟩ := h v hlookup
    · rfl
    · rfl
    · change (if !s.isEmpty then some (Json.string s) else none) =
        (if !s.isEmpty then some s else none).map .string
      split <;> rfl

theorem said_eq_of_number {key : String}
    (h : ∀ v, values.lookup key = some v → v = .absent ∨ v = .wordless ∨ ∃ x, v = .number x) :
    said values key = (numberSaid (number? values key)).map .real := by
  unfold said given number? numberSaid
  cases hlookup : values.lookup key with
  | none => rfl
  | some v =>
    obtain rfl | rfl | ⟨x, rfl⟩ := h v hlookup
    · rfl
    · rfl
    · change (if !x.isZero then some (Json.real x) else none) =
        (if !x.isZero then some x else none).map .real
      split <;> rfl

/-- The values that the options of the command line can have. -/
structure OptionValues (values : List (String × ParameterValue)) : Prop where
  language : ∀ v, values.lookup "language" = some v →
    v = .absent ∨ v = .wordless ∨ ∃ l : Language, v = .text l.text
  output : ∀ v, values.lookup "output_dir" = some v → v = .absent ∨ v = .wordless ∨ ∃ s, v = .text s
  timeout : ∀ v, values.lookup "timeout" = some v → v = .absent ∨ v = .wordless ∨ ∃ x, v = .number x

/-- Of what kind the options are, in each command that has them. -/
theorem kind_of_option :
    ∀ c ∈ commands.commands, ∀ p ∈ c.grammar.parameters,
      (p.key = "language" → p.kind = .choice ["python", "java"]) ∧
      (p.key = "output_dir" → p.kind = .text none) ∧ (p.key = "timeout" → p.kind = .number) := by
  decide

theorem optionValues_of_readCommand {words : List String} {r : CommandReading}
    (h : readCommand commands words = .ok r) : OptionValues r.values := by
  have haccepts : ∀ {key : String} {v : ParameterValue}, r.values.lookup key = some v →
      ∃ c ∈ commands.commands, ∃ p ∈ c.grammar.parameters, p.key = key ∧ p.Accepts v := by
    intro key v hlookup
    obtain ⟨before, after, hsplit, -⟩ := List.lookup_eq_some_iff.mp hlookup
    exact CommandLine.accepts_of_readCommand h (by rw [hsplit]; simp)
  constructor
  · intro v hlookup
    obtain ⟨c, hc, p, hp, hkey, hv⟩ := haccepts hlookup
    have hkind := (kind_of_option c hc p hp).1 hkey
    cases hv with
    | initial => exact Or.inl (by unfold Parameter.initial; rw [hkind])
    | wordless => exact Or.inr (Or.inl rfl)
    | choice hchoice hs =>
      cases hkind.symm.trans hchoice
      obtain rfl | rfl : _ = "python" ∨ _ = "java" := by simpa using hs
      · exact Or.inr (Or.inr ⟨.python, rfl⟩)
      · exact Or.inr (Or.inr ⟨.java, rfl⟩)
    | _ hother => cases hkind.symm.trans hother
  · intro v hlookup
    obtain ⟨c, hc, p, hp, hkey, hv⟩ := haccepts hlookup
    have hkind := (kind_of_option c hc p hp).2.1 hkey
    cases hv with
    | initial => exact Or.inl (by unfold Parameter.initial; rw [hkind])
    | wordless => exact Or.inr (Or.inl rfl)
    | text => exact Or.inr (Or.inr ⟨_, rfl⟩)
    | _ hother => cases hkind.symm.trans hother
  · intro v hlookup
    obtain ⟨c, hc, p, hp, hkey, hv⟩ := haccepts hlookup
    have hkind := (kind_of_option c hc p hp).2.2 hkey
    cases hv with
    | initial => exact Or.inl (by unfold Parameter.initial; rw [hkind])
    | wordless => exact Or.inr (Or.inl rfl)
    | number => exact Or.inr (Or.inr ⟨_, rfl⟩)
    | _ hother => cases hkind.symm.trans hother

theorem OptionValues.text_language (h : OptionValues values) {s : String}
    (hs : textSaid (text? values "language") = some s) : ∃ l : Language, s = l.text := by
  have htext := (Option.filter_eq_some_iff.mp hs).1
  unfold text? at htext
  split at htext
  · next hlookup =>
    cases htext
    obtain habsent | hwordless | ⟨l, hl⟩ := h.language _ hlookup
    · cases habsent
    · cases hwordless
    · exact ⟨l, ParameterValue.text.inj hl⟩
  · cases htext

/-- The fields that are set are those of the options that have a say. -/
theorem mem_fields_iff (h : OptionValues values) {field : String} {v : Json} :
    (field, v) ∈ (overridesOf values).fields ↔
      ∃ option ∈ fieldOptions, option.2 = field ∧ said values option.1 = some v := by
  have hlanguage : said values "language" = (textSaid (text? values "language")).map .string :=
    said_eq_of_text fun v hv => (h.language v hv).imp_right (·.imp_right fun ⟨l, hl⟩ => ⟨_, hl⟩)
  have houtput := said_eq_of_text h.output
  have htimeout := said_eq_of_number h.timeout
  unfold Overrides.fields overridesOf fieldOptions
  simp only [List.mem_append, List.mem_map, Option.mem_toList, List.mem_cons, List.not_mem_nil,
    or_false, exists_eq_or_imp, exists_eq_left, hlanguage, houtput, htimeout, Option.map_eq_some_iff,
    Prod.mk.injEq]
  simp only [exists_and_left, and_left_comm, or_assoc]

theorem nodup_fields (o : Overrides) : (o.fields.map (·.1)).Nodup := by
  unfold Overrides.fields
  cases textSaid o.language <;> cases textSaid o.outputDirectory <;> cases numberSaid o.timeout <;>
    simp

theorem heeds_of_fields (h : OptionValues values)
    (hc : c.fields = setFields (overridesOf values).fields base.fields) :
    Heeds (said values) base c := by
  constructor
  · intro option hoption v hv
    rw [hc]
    exact lookup_setFields_of_mem (nodup_fields _)
      ((mem_fields_iff h).mpr ⟨option, hoption, rfl, hv⟩)
  · intro field hnone
    rw [hc]
    refine lookup_setFields_of_not_mem fun v hmem => ?_
    obtain ⟨option, hoption, hfield, hv⟩ := (mem_fields_iff h).mp hmem
    cases (hnone option hoption hfield).symm.trans hv

/-! ## The changed configuration -/

/-- A configuration with the values that options say. -/
def asked (o : Overrides) (base : Config) : Config :=
  { base with
    language := ((textSaid o.language).bind Language.ofText?).getD base.language
    outputDirectory := (textSaid o.outputDirectory).or base.outputDirectory
    timeout := (numberSaid o.timeout).or base.timeout }

theorem setFields_fields (hlanguage : ∀ s, textSaid o.language = some s → ∃ l : Language, s = l.text)
    (base : Config) : setFields o.fields base.fields = (asked o base).fields := by
  unfold Overrides.fields asked
  cases hl : textSaid o.language with
  | none =>
    cases textSaid o.outputDirectory <;> cases numberSaid o.timeout <;> rfl
  | some s =>
    obtain ⟨l, rfl⟩ := hlanguage s hl
    rw [Option.bind_some, Config.ofText?_text]
    cases textSaid o.outputDirectory <;> cases numberSaid o.timeout <;> rfl

/-- Where nothing is set nothing has to be checked again. -/
theorem override_eq (hlanguage : ∀ s, textSaid o.language = some s → ∃ l : Language, s = l.text)
    (hbase : base.Valid) : override o base = Config.ofFields .values (asked o base).fields := by
  have hfields := setFields_fields hlanguage base
  unfold override
  split
  · next hnone =>
    rw [hnone] at hfields
    rw [← hfields]
    exact (Config.ofFields_fields .values hbase).symm
  · rw [hfields]

theorem loadConfig_eq (hlanguage : ∀ s, textSaid o.language = some s → ∃ l : Language, s = l.text)
    (hvalid : base.Valid) (hbase : baseConfig o.config d = .ok base) :
    loadConfig o d =
      match numberSaid o.timeout with
      | some x => if x.isPositive then .ok (asked o base)
        else .error (.invalid [Config.notPositive .values x])
      | none => .ok (asked o base) := by
  unfold loadConfig
  rw [hbase]
  dsimp only
  rw [override_eq hlanguage hvalid, Config.ofFields_fields_eq (c := asked o base) .values
    hvalid.command hvalid.compileTimeout]
  cases hsaid : numberSaid o.timeout with
  | none =>
    have htimeout : (asked o base).timeout = base.timeout := by
      unfold asked
      rw [hsaid]
      rfl
    rw [htimeout]
    cases hold : base.timeout with
    | none => rfl
    | some x =>
      dsimp only
      rw [if_pos (hvalid.timeout x hold)]
      rfl
  | some x =>
    have htimeout : (asked o base).timeout = some x := by
      unfold asked
      rw [hsaid]
      rfl
    rw [htimeout]
    dsimp only
    split <;> rfl

theorem valid_of_baseConfig {file : Option String} (h : baseConfig file d = .ok base) :
    base.Valid := by
  unfold baseConfig at h
  split at h
  · cases h
    exact Config.valid_defaults
  split at h
  · cases h
  next text _ =>
  cases hread : Config.ofText text with
  | error faults =>
    rw [hread] at h
    cases h
  | ok c =>
    rw [hread] at h
    cases h
    exact Config.valid_of_ofText hread

/-! ## Options that are passed over -/

theorem said_of_given {key : String} {v : Json} (h : given values key = some v) :
    said values key = if isEmptyValue v then none else some v := by
  unfold said
  rw [h, Option.filter_some]
  cases isEmptyValue v <;> rfl

/-- Each field has one option. -/
theorem option_of_field : ∀ option ∈ fieldOptions, ∀ option' ∈ fieldOptions,
    option'.2 = option.2 → option' = option := by
  decide

/-- All options have their say just if those with an empty value ask for what there is already. -/
theorem heeds_given_iff (h : Heeds (said values) base c) :
    Heeds (given values) base c ↔ ∀ option ∈ fieldOptions, ∀ v, given values option.1 = some v →
      isEmptyValue v = true → base.fields.lookup option.2 = some v := by
  have hempty : ∀ option ∈ fieldOptions, ∀ v, given values option.1 = some v →
      isEmptyValue v = true → c.fields.lookup option.2 = base.fields.lookup option.2 := by
    intro option hoption v hv hisEmpty
    refine h.others option.2 fun option' hoption' hfield => ?_
    rw [option_of_field option hoption option' hoption' hfield, said_of_given hv, if_pos hisEmpty]
  constructor
  · intro hall option hoption v hv hisEmpty
    exact (hempty option hoption v hv hisEmpty).symm.trans (hall.heeded option hoption v hv)
  · intro hsame
    refine ⟨fun option hoption v hv => ?_, fun field hnone => h.others field ?_⟩
    · by_cases hisEmpty : isEmptyValue v = true
      · exact (hempty option hoption v hv hisEmpty).trans (hsame option hoption v hv hisEmpty)
      · exact h.heeded option hoption v (by rw [said_of_given hv, if_neg hisEmpty])
    · intro option hoption hfield
      unfold said
      rw [hnone option hoption hfield]
      rfl

/-- Either the limit that is asked for is not positive and all is refused, or what is asked for is
what there is afterwards. -/
theorem loadConfig_cases {words : List String} {r : CommandReading}
    (hread : readCommand commands words = .ok r)
    (hbase : baseConfig (overridesOf r.values).config d = .ok base) :
    (∃ x, said r.values "timeout" = some (.real x) ∧ x.isPositive = false ∧
      loadConfig (overridesOf r.values) d = .error (.invalid [Config.notPositive .values x])) ∨
    ∃ c, loadConfig (overridesOf r.values) d = .ok c ∧ Heeds (said r.values) base c ∧
      ∀ x, said r.values "timeout" = some (.real x) → x.isPositive = true := by
  have hvalues := optionValues_of_readCommand hread
  have hload := loadConfig_eq (o := overridesOf r.values) (fun _ => hvalues.text_language)
    (valid_of_baseConfig hbase) hbase
  have hheeds : Heeds (said r.values) base (asked (overridesOf r.values) base) :=
    heeds_of_fields hvalues (setFields_fields (fun _ => hvalues.text_language) base).symm
  have htimeout : said r.values "timeout" =
      (numberSaid (overridesOf r.values).timeout).map .real := said_eq_of_number hvalues.timeout
  rw [htimeout, hload]
  cases numberSaid (overridesOf r.values).timeout with
  | none => exact Or.inr ⟨_, rfl, hheeds, fun x hx => by cases hx⟩
  | some x =>
    dsimp only
    cases hx : x.isPositive with
    | true =>
      refine Or.inr ⟨_, rfl, hheeds, ?_⟩
      rintro _ ⟨⟩
      exact hx
    | false => exact Or.inl ⟨x, rfl, hx, rfl⟩

/-- Whatever words the command line is read from, and whatever the configuration is that it starts
with: either all is refused, or the options whose values are not empty set their fields to them, and
nothing else changes. It is refused just if the limit on programs is given as a number below zero or
as no number. So the options as they were given are all heeded, or refused, just if those that have
an empty value, or a zero, ask for what is there already. -/
theorem options_are_heeded_unless_their_value_is_empty {words : List String} {r : CommandReading}
    (hread : readCommand commands words = .ok r)
    (hbase : baseConfig (overridesOf r.values).config d = .ok base) :
    ((∃ faults, loadConfig (overridesOf r.values) d = .error (.invalid faults)) ∨
      ∃ c, loadConfig (overridesOf r.values) d = .ok c ∧ Heeds (said r.values) base c) ∧
    (∀ fault, loadConfig (overridesOf r.values) d = .error fault ↔
      ∃ x, said r.values "timeout" = some (.real x) ∧ x.isPositive = false ∧
        fault = .invalid [Config.notPositive .values x]) ∧
    ∀ c, loadConfig (overridesOf r.values) d = .ok c →
      (Heeds (given r.values) base c ↔ ∀ option ∈ fieldOptions, ∀ v,
        given r.values option.1 = some v → isEmptyValue v = true →
          base.fields.lookup option.2 = some v) := by
  rcases loadConfig_cases hread hbase with ⟨x, hsaid, hx, herror⟩ | ⟨c, hok, hheeds, hpositive⟩
  · refine ⟨Or.inl ⟨_, herror⟩, fun fault => ?_, fun c hc => by cases herror.symm.trans hc⟩
    constructor
    · intro hfault
      exact ⟨x, hsaid, hx, Except.error.inj (hfault.symm.trans herror)⟩
    · rintro ⟨y, hy, -, rfl⟩
      cases hsaid.symm.trans hy
      exact herror
  · refine ⟨Or.inr ⟨c, hok, hheeds⟩, fun fault => ?_, fun c' hc' => ?_⟩
    · refine iff_of_false (fun hfault => by cases hok.symm.trans hfault) ?_
      rintro ⟨x, hsaid, hx, -⟩
      cases (hpositive x hsaid).symm.trans hx
    · cases hok.symm.trans hc'
      exact heeds_given_iff hheeds

/-! ## Samples -/

def emptyDisk : Disk := ⟨.directory 493 0 [], [], [], 0, 0, 0⟩

/-- A language and a limit are taken over as they are given. -/
theorem a_language_and_a_limit_are_taken :
    ∃ r, readCommand commands ["run", "s.py", "-e", "m", "--language", "java", "-t", "7"] = .ok r ∧
      baseConfig (overridesOf r.values).config emptyDisk = .ok .defaults ∧
      loadConfig (overridesOf r.values) emptyDisk =
        .ok { Config.defaults with language := .java, timeout := some (.ofInt 7) } ∧
      Heeds (given r.values) .defaults
        { Config.defaults with language := .java, timeout := some (.ofInt 7) } := by
  refine ⟨_, rfl, rfl, rfl, ?_⟩
  obtain ⟨-, -, hgiven⟩ := options_are_heeded_unless_their_value_is_empty
    (show readCommand commands ["run", "s.py", "-e", "m", "--language", "java", "-t", "7"] = .ok _
      from rfl)
    (show baseConfig none emptyDisk = .ok .defaults from rfl)
  refine (hgiven _ rfl).mpr fun option hoption v hv hempty => ?_
  rcases hoption with _ | ⟨_, _ | ⟨_, _ | ⟨_, ⟨⟩⟩⟩⟩
  · cases hv
    cases hempty
  · cases hv
  · cases hv
    cases hempty

/-- A limit of zero seconds is neither taken over nor refused. -/
theorem zero_seconds_are_passed_over :
    ¬∀ (words : List String) (r : CommandReading) (d : Disk) (base : Config),
      readCommand commands words = .ok r →
      baseConfig (overridesOf r.values).config d = .ok base →
      (∃ faults, loadConfig (overridesOf r.values) d = .error (.invalid faults)) ∨
        ∃ c, loadConfig (overridesOf r.values) d = .ok c ∧ Heeds (given r.values) base c := by
  intro hall
  obtain ⟨faults, herror⟩ | ⟨c, hc, hheeds⟩ :=
    hall ["run", "s.py", "-e", "m", "-t", "0"] _ emptyDisk .defaults rfl rfl
  · cases herror
  · cases hc
    have hzero := hheeds.heeded ("timeout", "timeout_sec") (by decide) (.real (.zero false)) rfl
    cases hzero

end Cli

end Worksheet
