-- The command line of the bytecode compiler, when options that were configured come before the
-- module and the source of an evaluation. An option at the end of the configured ones takes the
-- next word for its value, whatever it says.
import Worksheet.Compile.Backend
import Worksheet.Compile.Settings

namespace Worksheet

/-! ## Options without a value -/

/-- The last word is an option, and its value is still to come. -/
def awaitsValue : List String → Bool
  | [] => false
  | word :: rest =>
    if (SettingsFlag.ofWord? word).isNone && (SettingsOption.ofWord? word).isSome then
      match rest with
      | [] => true
      | _ :: rest' => awaitsValue rest'
    else awaitsValue rest

theorem awaitsValue_option {o : SettingsOption} (word : String)
    (hflag : SettingsFlag.ofWord? word = none) (h : SettingsOption.ofWord? word = some o)
    (value : String) (rest : List String) :
    awaitsValue (word :: value :: rest) = awaitsValue rest := by
  rw [awaitsValue]
  simp [hflag, h]

theorem awaitsValue_item {word : String}
    (hword : ¬((SettingsFlag.ofWord? word).isNone && (SettingsOption.ofWord? word).isSome) = true)
    (rest : List String) : awaitsValue (word :: rest) = awaitsValue rest := by
  rw [awaitsValue.eq_def]
  simp only [hword, Bool.false_eq_true, ↓reduceIte]

theorem option_of_word {word : String}
    (hword : ((SettingsFlag.ofWord? word).isNone && (SettingsOption.ofWord? word).isSome) = true) :
    SettingsFlag.ofWord? word = none ∧ ∃ o, SettingsOption.ofWord? word = some o := by
  simpa [Option.isSome_iff_exists] using hword

/-- Words that leave no option open do not matter to what follows them. -/
theorem awaitsValue_append {before : List String} (h : awaitsValue before = false)
    (after : List String) : awaitsValue (before ++ after) = awaitsValue after := by
  induction before using awaitsValue.induct with
  | case1 => rfl
  | case2 word hword => simp [awaitsValue, hword] at h
  | case3 word hword value rest ih =>
    obtain ⟨hflag, o, ho⟩ := option_of_word hword
    rw [awaitsValue_option _ hflag ho] at h
    rw [List.cons_append, List.cons_append, awaitsValue_option _ hflag ho, ih h]
  | case4 word rest hword ih =>
    rw [awaitsValue_item hword] at h
    rw [List.cons_append, awaitsValue_item hword, ih h]

/-! ## Items -/

theorem readItems_flag {word : String} {f : SettingsFlag} (h : SettingsFlag.ofWord? word = some f)
    (rest : List String) : readItems (word :: rest) = (readItems rest).map (.flag f :: ·) := by
  rw [readItems]
  simp only [h]

theorem readItems_option {o : SettingsOption} (word : String)
    (hflag : SettingsFlag.ofWord? word = none) (h : SettingsOption.ofWord? word = some o)
    (value : String) (rest : List String) :
    readItems (word :: value :: rest) = (readItems rest).map (.option o value :: ·) := by
  rw [readItems]
  simp only [hflag, h]

theorem readItems_word {word : String} (hflag : SettingsFlag.ofWord? word = none)
    (h : SettingsOption.ofWord? word = none) (rest : List String) :
    readItems (word :: rest) =
      if isOptionWord word then .error (.unknownOption word)
      else (readItems rest).map (.source word :: ·) := by
  rw [readItems.eq_def]
  simp only [hflag, h]

/-- A word with the ending of a source names no flag and no option. -/
theorem ofWord?_of_source {word : String} (h : ['.', 'p', 'y'] <:+ word.toList) :
    SettingsFlag.ofWord? word = none ∧ SettingsOption.ofWord? word = none := by
  have hne : ∀ other : String, ¬['.', 'p', 'y'] <:+ other.toList → word ≠ other := by
    rintro other hother rfl
    exact hother h
  constructor
  · unfold SettingsFlag.ofWord?
    rw [if_neg (hne _ (by decide)), if_neg (hne _ (by decide))]
  · unfold SettingsOption.ofWord?
    rw [if_neg (hne _ (by decide)), if_neg (hne _ (by decide)), if_neg (hne _ (by decide)),
      if_neg (hne _ (by decide)), if_neg (hne _ (by decide))]

/-- So it is a source, unless it opens an option that is not known. -/
theorem readItems_source {word : String} (h : ['.', 'p', 'y'] <:+ word.toList)
    {items : List SettingsItem} (hitems : readItems [word] = .ok items) :
    items = [.source word] := by
  obtain ⟨hflag, hoption⟩ := ofWord?_of_source h
  rw [readItems_word hflag hoption] at hitems
  split at hitems
  · cases hitems
  · cases hitems
    rfl

/-- A word that is understood and takes no value is an item of its own, whatever follows. -/
theorem exists_item {word : String}
    (hword : ¬((SettingsFlag.ofWord? word).isNone && (SettingsOption.ofWord? word).isSome) = true)
    {rest : List String} {items : List SettingsItem} (h : readItems (word :: rest) = .ok items) :
    ∃ item, ∀ rest, readItems (word :: rest) = (readItems rest).map (item :: ·) := by
  cases hflag : SettingsFlag.ofWord? word with
  | some f => exact ⟨.flag f, readItems_flag hflag⟩
  | none =>
    have hoption : SettingsOption.ofWord? word = none := by simpa [hflag] using hword
    rw [readItems_word hflag hoption] at h
    refine ⟨.source word, fun rest => ?_⟩
    rw [readItems_word hflag hoption]
    split at h
    · cases h
    · rename_i hplain
      rw [if_neg hplain]

theorem exists_of_map_ok {ε α β : Type} {f : α → β} {r : Except ε α} {b : β}
    (h : r.map f = .ok b) : ∃ a, r = .ok a ∧ b = f a := by
  cases r with
  | error e => cases h
  | ok a =>
    cases h
    exact ⟨a, rfl, rfl⟩

/-- Options and their values, in front of what is left of a command line. -/
theorem readItems_append {before after : List String} (hcut : awaitsValue before = false)
    {items : List SettingsItem} (h : readItems (before ++ after) = .ok items) :
    ∃ a b, readItems before = .ok a ∧ readItems after = .ok b ∧ items = a ++ b := by
  induction before using awaitsValue.induct generalizing items with
  | case1 => exact ⟨[], items, rfl, h, rfl⟩
  | case2 word hword => simp [awaitsValue, hword] at hcut
  | case3 word hword value rest ih =>
    obtain ⟨hflag, o, ho⟩ := option_of_word hword
    rw [awaitsValue_option _ hflag ho] at hcut
    rw [List.cons_append, List.cons_append, readItems_option _ hflag ho] at h
    obtain ⟨items', hitems', rfl⟩ := exists_of_map_ok h
    obtain ⟨a, b, ha, hb, rfl⟩ := ih hcut hitems'
    refine ⟨.option o value :: a, b, ?_, hb, rfl⟩
    rw [readItems_option _ hflag ho, ha]
    rfl
  | case4 word rest hword ih =>
    rw [awaitsValue_item hword] at hcut
    obtain ⟨item, hitem⟩ := exists_item hword h
    rw [List.cons_append, hitem] at h
    obtain ⟨items', hitems', rfl⟩ := exists_of_map_ok h
    obtain ⟨a, b, ha, hb, rfl⟩ := ih hcut hitems'
    refine ⟨item :: a, b, ?_, hb, rfl⟩
    rw [hitem, ha]
    rfl

/-! ## Settings -/

namespace Settings

/-- Accepted settings have one source, and the last module that is named. -/
theorem ofArguments_spec {arguments : List String} {s : Settings}
    (h : ofArguments arguments = .ok s) :
    ∃ items word, readItems arguments = .ok items ∧ sources items = [word] ∧
      s.source = Path.ofString word ∧
      s.module = (lastValue? .module items).getD (moduleOfSource s.source) ∧
      isModuleName s.module = true ∧
      s.outputDirectory = (lastValue? .outputDirectory items).map Path.ofString := by
  unfold ofArguments at h
  cases hitems : readItems arguments with
  | error e => simp [hitems] at h
  | ok items =>
    simp only [hitems] at h
    unfold ofItems at h
    split at h
    · rename_i word hsources
      split at h
      · cases h
      · dsimp only at h
        split at h
        · rename_i hname
          cases h
          exact ⟨items, word, rfl, hsources, rfl, rfl, hname, rfl⟩
        · cases h
    · cases h

theorem sources_append (a b : List SettingsItem) : sources (a ++ b) = sources a ++ sources b :=
  List.filterMap_append

theorem lastValue?_append (o : SettingsOption) (a b : List SettingsItem) :
    lastValue? o (a ++ b) = (lastValue? o b).or (lastValue? o a) := by
  unfold lastValue?
  rw [List.filterMap_append, List.getLast?_append]

theorem lastValue?_eq_none {o : SettingsOption} {items : List SettingsItem}
    (h : ∀ value, .option o value ∉ items) : lastValue? o items = none := by
  unfold lastValue?
  rw [List.getLast?_eq_none_iff, List.filterMap_eq_nil_iff]
  intro item hitem
  cases item with
  | option o' value =>
    have hne : o' ≠ o := by
      rintro rfl
      exact h value hitem
    simp [hne]
  | _ => rfl

/-- The options that a configuration gives, after the class path. -/
def configured (c : Config) : List String :=
  (match c.outputDirectory with
    | some d => if d.isEmpty then [] else ["-d", d]
    | none => []) ++ c.compilerArguments

theorem awaitsValue_configured (c : Config) (rest : List String) :
    awaitsValue (configured c ++ rest) = awaitsValue (c.compilerArguments ++ rest) := by
  unfold configured
  split
  · split
    · rfl
    · exact awaitsValue_option "-d" rfl rfl _ _
  · rfl

/-- The directory that the options of a configuration name. -/
def directoryOf (c : Config) : Option Path :=
  match readItems (configured c) with
  | .ok items => (lastValue? .outputDirectory items).map Path.ofString
  | .error _ => none

/-- Where the words of an evaluation come in its command line. -/
theorem arguments_eq (c : Config) (source : Path) (entry : String) (classpath : List String) :
    ∃ before, (∀ rest, awaitsValue (before ++ rest) = awaitsValue (c.compilerArguments ++ rest)) ∧
      (∀ items, readItems before = .ok items →
        (lastValue? .outputDirectory items).map Path.ofString = directoryOf c) ∧
      Backend.arguments c source (Backend.moduleArguments entry) classpath =
        before ++ ["-module", entry, source.text] := by
  unfold Backend.arguments Backend.moduleArguments
  by_cases hnone : (classpath ++ c.compilerClasspath).isEmpty = true
  · refine ⟨configured c, awaitsValue_configured c, fun items hitems => ?_, ?_⟩
    · unfold directoryOf
      rw [hitems]
    · unfold configured
      simp only [hnone, ↓reduceIte, List.nil_append, List.append_assoc]
      rfl
  · refine ⟨["-cp", joinClasspath (classpath ++ c.compilerClasspath)] ++ configured c, ?_, ?_, ?_⟩
    · intro rest
      exact (awaitsValue_option "-cp" rfl rfl _ _).trans (awaitsValue_configured c rest)
    · intro items hitems
      rw [List.cons_append, List.singleton_append,
        readItems_option "-cp" rfl rfl] at hitems
      obtain ⟨items', hitems', rfl⟩ := exists_of_map_ok hitems
      unfold directoryOf
      rw [hitems']
      rfl
    · unfold configured
      simp only [hnone, List.append_assoc]
      rfl

variable {c : Config} {source : Path} {entry : String} {classpath : List String} {s : Settings}

/-- The source of the settings is the source of the evaluation, unless an option takes it for its
value. -/
theorem source_of_arguments (hsource : ['.', 'p', 'y'] <:+ source.text.toList)
    (hcut : awaitsValue (c.compilerArguments ++ Backend.moduleArguments entry) = false)
    (h : ofArguments (Backend.arguments c source (Backend.moduleArguments entry) classpath) =
      .ok s) :
    s.source = Path.ofString source.text := by
  obtain ⟨before, hbefore, -, heq⟩ := arguments_eq c source entry classpath
  obtain ⟨items, word, hitems, hsources, hword, -⟩ := ofArguments_spec h
  have hfront : awaitsValue (before ++ ["-module", entry]) = false :=
    (hbefore _).trans hcut
  have hcall : before ++ ["-module", entry, source.text] =
      (before ++ ["-module", entry]) ++ [source.text] := by simp
  rw [heq, hcall] at hitems
  obtain ⟨a, b, -, hb, rfl⟩ := readItems_append hfront hitems
  rw [readItems_source hsource hb, sources_append] at hsources
  have hlast : sources a ++ [source.text] = [] ++ [word] := hsources
  obtain ⟨-, hlast⟩ := List.append_inj' hlast rfl
  cases hlast
  exact hword

/-- Behind options that have their values, the entry point is the module, and the directory is the
configured one. -/
theorem module_of_arguments (hsource : ['.', 'p', 'y'] <:+ source.text.toList)
    (hcut : awaitsValue c.compilerArguments = false)
    (h : ofArguments (Backend.arguments c source (Backend.moduleArguments entry) classpath) =
      .ok s) :
    isModuleName entry = true ∧ s.module = entry ∧ s.outputDirectory = directoryOf c := by
  obtain ⟨before, hbefore, hdirectory, heq⟩ := arguments_eq c source entry classpath
  obtain ⟨items, word, hitems, -, -, hmodule, hname, houtput⟩ := ofArguments_spec h
  have hfront : awaitsValue before = false := by
    have hall := hbefore []
    rwa [List.append_nil, List.append_nil, hcut] at hall
  rw [heq] at hitems
  obtain ⟨a, b, ha, hb, rfl⟩ := readItems_append hfront hitems
  rw [readItems_option "-module" rfl rfl] at hb
  obtain ⟨b', hb', rfl⟩ := exists_of_map_ok hb
  rw [readItems_source hsource hb', lastValue?_append] at hmodule houtput
  have hentry : s.module = entry := hmodule
  refine ⟨hentry ▸ hname, hentry, houtput.trans (hdirectory a ha)⟩

end Settings

end Worksheet
