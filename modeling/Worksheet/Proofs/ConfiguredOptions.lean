-- What the configured options can do to the command line of an evaluation. They can have it
-- refused, and they can name a class path and a directory; which source is compiled, and as which
-- module, they do not decide.
import Worksheet.Proofs.Isolation
import Worksheet.Proofs.LoneEvaluation

namespace Worksheet

/-! ## Items -/

/-- Behind options that have their values, reading starts anew. -/
theorem readItems_of_append {before : List String} (hcut : awaitsValue before = false)
    (after : List String) :
    readItems (before ++ after) =
      match readItems before with
      | .error e => .error e
      | .ok items => (readItems after).map (items ++ ·) := by
  have hmaps : ∀ (item : SettingsItem) (r : Except SettingsFault (List SettingsItem)),
      (match r with
        | .error e => Except.error e
        | .ok items => (readItems after).map (items ++ ·)).map (item :: ·) =
      match r.map (item :: ·) with
      | .error e => .error e
      | .ok items => (readItems after).map (items ++ ·) := by
    intro item r
    cases r with
    | error e => rfl
    | ok items => cases readItems after <;> rfl
  induction before using readItems.induct with
  | case1 =>
    rw [List.nil_append, readItems]
    cases readItems after <;> rfl
  | case2 word rest f hflag ih =>
    rw [awaitsValue_item (by simp [hflag])] at hcut
    rw [List.cons_append, readItems_flag hflag, readItems_flag hflag, ih hcut, hmaps]
  | case3 word hflag o ho =>
    simp [awaitsValue, hflag, ho] at hcut
  | case4 word hflag o ho value rest ih =>
    rw [awaitsValue_option _ hflag ho] at hcut
    rw [List.cons_append, List.cons_append, readItems_option _ hflag ho,
      readItems_option _ hflag ho, ih hcut, hmaps]
  | case5 word rest hflag ho hoption =>
    rw [List.cons_append, readItems_word hflag ho, readItems_word hflag ho, if_pos hoption,
      if_pos hoption]
  | case6 word rest hflag ho hplain ih =>
    rw [awaitsValue_item (by simp [ho])] at hcut
    rw [List.cons_append, readItems_word hflag ho, readItems_word hflag ho, if_neg hplain,
      if_neg hplain, ih hcut, hmaps]

/-- An option is among the items because its word is on the command line. -/
theorem exists_word_of_mem {words : List String} {items : List SettingsItem}
    (h : readItems words = .ok items) {o : SettingsOption} {value : String}
    (hmem : .option o value ∈ items) : ∃ word ∈ words, SettingsOption.ofWord? word = some o := by
  induction words using readItems.induct generalizing items with
  | case1 =>
    cases h
    cases hmem
  | case2 word rest f hflag ih =>
    rw [readItems_flag hflag] at h
    obtain ⟨items', hitems', rfl⟩ := exists_of_map_ok h
    rcases List.mem_cons.mp hmem with heq | hrest
    · cases heq
    · obtain ⟨found, hfound, ho⟩ := ih hitems' hrest
      exact ⟨found, List.mem_cons_of_mem _ hfound, ho⟩
  | case3 word hflag o' ho' =>
    simp [readItems, hflag, ho'] at h
  | case4 word hflag o' ho' value' rest ih =>
    rw [readItems_option _ hflag ho'] at h
    obtain ⟨items', hitems', rfl⟩ := exists_of_map_ok h
    rcases List.mem_cons.mp hmem with heq | hrest
    · cases heq
      exact ⟨word, List.mem_cons_self .., ho'⟩
    · obtain ⟨found, hfound, ho⟩ := ih hitems' hrest
      exact ⟨found, List.mem_cons_of_mem _ (List.mem_cons_of_mem _ hfound), ho⟩
  | case5 word rest hflag ho' hoption =>
    rw [readItems_word hflag ho', if_pos hoption] at h
    cases h
  | case6 word rest hflag ho' hplain ih =>
    rw [readItems_word hflag ho', if_neg hplain] at h
    obtain ⟨items', hitems', rfl⟩ := exists_of_map_ok h
    rcases List.mem_cons.mp hmem with heq | hrest
    · cases heq
    · obtain ⟨found, hfound, ho⟩ := ih hitems' hrest
      exact ⟨found, List.mem_cons_of_mem _ hfound, ho⟩

namespace Settings

/-- What no word on the command line names has no value. -/
theorem lastValue?_of_words {words : List String} {items : List SettingsItem}
    (h : readItems words = .ok items) {o : SettingsOption}
    (hwords : ∀ word ∈ words, SettingsOption.ofWord? word ≠ some o) :
    lastValue? o items = none := by
  refine lastValue?_eq_none fun value hmem => ?_
  obtain ⟨word, hword, ho⟩ := exists_word_of_mem h hmem
  exact hwords word hword ho

theorem word_of_ofWord? {word : String} :
    (SettingsOption.ofWord? word = some .classpath → word = "-cp" ∨ word = "-classpath") ∧
      (SettingsOption.ofWord? word = some .outputDirectory → word = "-d") := by
  unfold SettingsOption.ofWord?
  constructor
  · intro h
    split at h
    · cases h
    split at h
    · next hcp => exact Or.inl hcp
    split at h
    · next hclasspath => exact Or.inr hclasspath
    split at h
    · cases h
    split at h <;> cases h
  · intro h
    split at h
    · next hd => exact hd
    split at h
    · cases h
    split at h
    · cases h
    split at h
    · cases h
    split at h <;> cases h

/-! ## The command line of an evaluation -/

/-- Words that give a class path and a directory, or neither, and nothing else. -/
structure Places (words : List String) (classpath directory : Option String)
    (items : List SettingsItem) : Prop where
  cut : awaitsValue words = false
  read : readItems words = .ok items
  sources : sources items = []
  module : lastValue? .module items = none
  optimize : lastValue? .optimize items = none
  classpath : lastValue? .classpath items = classpath
  outputDirectory : lastValue? .outputDirectory items = directory

theorem Places.append {words words' : List String}
    {classpath classpath' directory directory' : Option String} {items items' : List SettingsItem}
    (h : Places words classpath directory items)
    (h' : Places words' classpath' directory' items') :
    Places (words ++ words') (classpath'.or classpath) (directory'.or directory)
      (items ++ items') := by
  refine ⟨?_, ?_, ?_, ?_, ?_, ?_, ?_⟩
  · rw [awaitsValue_append h.cut, h'.cut]
  · rw [readItems_of_append h.cut, h.read, h'.read]
    rfl
  · rw [sources_append, h.sources, h'.sources]
    rfl
  · rw [lastValue?_append, h.module, h'.module]
    rfl
  · rw [lastValue?_append, h.optimize, h'.optimize]
    rfl
  · rw [lastValue?_append, h.classpath, h'.classpath]
  · rw [lastValue?_append, h.outputDirectory, h'.outputDirectory]

/-- The directory that a configuration names for the output; an empty name is none. -/
def namedDirectory (c : Config) : Option String := c.outputDirectory.filter fun d => !d.isEmpty

/-- The option for the class path, which is left out if there are no entries. -/
theorem exists_classpath_places (entries : List String) :
    ∃ words given items,
      (if entries.isEmpty then [] else ["-cp", joinClasspath entries]) = words ∧
      Places words given none items ∧ given.getD "" = joinClasspath entries := by
  by_cases hnone : entries.isEmpty = true
  · refine ⟨[], none, [], if_pos hnone, ⟨rfl, rfl, rfl, rfl, rfl, rfl, rfl⟩, ?_⟩
    rw [List.isEmpty_iff.mp hnone]
    rfl
  · exact ⟨["-cp", _], some _, [.option .classpath _], if_neg hnone,
      ⟨rfl, rfl, rfl, rfl, rfl, rfl, rfl⟩, rfl⟩

/-- The option for the output directory, which is left out if none is named. -/
theorem exists_directory_places (c : Config) :
    ∃ words items,
      (match c.outputDirectory with
        | some d => if d.isEmpty then [] else ["-d", d]
        | none => []) = words ∧
      Places words none (namedDirectory c) items := by
  unfold namedDirectory
  cases c.outputDirectory with
  | none => exact ⟨[], [], rfl, ⟨rfl, rfl, rfl, rfl, rfl, rfl, rfl⟩⟩
  | some d =>
    cases hempty : d.isEmpty with
    | true =>
      refine ⟨[], [], if_pos hempty, ⟨rfl, rfl, rfl, rfl, rfl, rfl, ?_⟩⟩
      rw [Option.filter_some_neg (by simp [hempty])]
      rfl
    | false =>
      refine ⟨["-d", d], [.option .outputDirectory d], by simp [hempty],
        ⟨rfl, rfl, rfl, rfl, rfl, rfl, ?_⟩⟩
      rw [Option.filter_some_pos (by simp [hempty])]
      rfl

/-- In front of the configured options stand the class path and the configured directory. -/
theorem exists_places (c : Config) (source : Path) (further classpath : List String) :
    ∃ words given items,
      Backend.arguments c source further classpath =
        words ++ (c.compilerArguments ++ (further ++ [source.text])) ∧
      Places words given (namedDirectory c) items ∧
      given.getD "" = joinClasspath (classpath ++ c.compilerClasspath) := by
  obtain ⟨path, given, pathItems, hpath, hplaces, hgiven⟩ :=
    exists_classpath_places (classpath ++ c.compilerClasspath)
  obtain ⟨directory, items, hdirectory, hplaces'⟩ := exists_directory_places c
  refine ⟨path ++ directory, given, pathItems ++ items, ?_, ?_, hgiven⟩
  · unfold Backend.arguments
    rw [← hpath, ← hdirectory]
    exact (List.append_assoc ..).trans (List.append_assoc ..)
  · have hboth := hplaces.append hplaces'
    rwa [Option.none_or, Option.or_none] at hboth

end Settings

/-- The configured options let a source pass: each has its value, they name no source and no level
that there is not, and the path of the source does not look like an option. -/
structure Config.Accepts (c : Config) (source : Path) : Prop where
  complete : awaitsValue c.compilerArguments = false
  options : ∃ items level, readItems c.compilerArguments = .ok items ∧
    Settings.sources items = [] ∧ Settings.readOptimize items = .ok level
  plain : isOptionWord source.text = false

namespace Settings

variable {c : Config} {source : Path} {entry : String} {classpath : List String}

/-- The items of an evaluation's command line, when every configured option has its value. -/
theorem exists_items_of_complete (source : Path) (entry : String) (classpath : List String)
    (hcut : awaitsValue c.compilerArguments = false) :
    ∃ words given front, Places words given (namedDirectory c) front ∧
      given.getD "" = joinClasspath (classpath ++ c.compilerClasspath) ∧
      readItems (Backend.arguments c source (Backend.moduleArguments entry) classpath) =
        match readItems c.compilerArguments with
        | .error e => .error e
        | .ok items => (readItems [source.text]).map fun last =>
          front ++ (items ++ .option .module entry :: last) := by
  obtain ⟨words, given, front, hwords, hplaces, hgiven⟩ :=
    exists_places c source (Backend.moduleArguments entry) classpath
  refine ⟨words, given, front, hplaces, hgiven, ?_⟩
  have hmodule : readItems (Backend.moduleArguments entry ++ [source.text]) =
      (readItems [source.text]).map (.option .module entry :: ·) :=
    readItems_option "-module" rfl rfl entry [source.text]
  rw [hwords, readItems_of_append hplaces.cut, hplaces.read, readItems_of_append hcut, hmodule]
  cases readItems c.compilerArguments with
  | error e => rfl
  | ok items => cases readItems [source.text] <;> rfl

/-- Only options that let the source pass are accepted. -/
theorem accepts_of_ofArguments (hentry : isModuleName entry = true)
    (hsource : ['.', 'p', 'y'] <:+ source.text.toList) {s : Settings}
    (h : ofArguments (Backend.arguments c source (Backend.moduleArguments entry) classpath) =
      .ok s) : c.Accepts source := by
  have hcut := awaitsValue_of_ofArguments hentry hsource h
  obtain ⟨words, given, front, hplaces, -, hitems⟩ :=
    exists_items_of_complete source entry classpath hcut
  obtain ⟨hflag, hoption⟩ := ofWord?_of_source hsource
  unfold ofArguments at h
  rw [hitems, readItems_word hflag hoption] at h
  cases hconfigured : readItems c.compilerArguments with
  | error e =>
    rw [hconfigured] at h
    cases h
  | ok items =>
    cases hplain : isOptionWord source.text with
    | true =>
      rw [hconfigured, hplain] at h
      cases h
    | false =>
      simp only [hconfigured, hplain, Bool.false_eq_true, if_false, readItems, Except.map,
        ofItems] at h
      refine ⟨hcut, ⟨items, ?_⟩, hplain⟩
      split at h
      · next word hword =>
        rw [sources_append, hplaces.sources, sources_append] at hword
        have hlast : sources items ++ [source.text] = [] ++ [word] := hword
        split at h
        · cases h
        next level hlevel =>
        refine ⟨level, hconfigured, (List.append_inj' hlast rfl).1, ?_⟩
        have hsame : lastValue? .optimize
            (front ++ (items ++ [.option .module entry, .source source.text])) =
              lastValue? .optimize items := by
          rw [lastValue?_append, lastValue?_append, hplaces.optimize, Option.or_none]
          rfl
        unfold readOptimize at hlevel ⊢
        rwa [hsame] at hlevel
      · cases h

/-- And options that let it pass give what they name, and leave the rest as it is. -/
theorem ofArguments_of_accepts (classpath : List String) (hentry : isModuleName entry = true)
    (hsource : ['.', 'p', 'y'] <:+ source.text.toList) (h : c.Accepts source) :
    ∃ items s, readItems c.compilerArguments = .ok items ∧
      ofArguments (Backend.arguments c source (Backend.moduleArguments entry) classpath) = .ok s ∧
      s.source = Path.ofString source.text ∧ s.module = entry ∧
      (lastValue? .classpath items = none →
        s.classpath = joinClasspath (classpath ++ c.compilerClasspath)) ∧
      (lastValue? .outputDirectory items = none →
        s.outputDirectory = (namedDirectory c).map Path.ofString) := by
  obtain ⟨words, given, front, hplaces, hgiven, hitems⟩ :=
    exists_items_of_complete source entry classpath h.complete
  obtain ⟨items, level, hconfigured, hsources, hlevel⟩ := h.options
  obtain ⟨hflag, hoption⟩ := ofWord?_of_source hsource
  have hall : readItems (Backend.arguments c source (Backend.moduleArguments entry) classpath) =
      .ok (front ++ (items ++ [.option .module entry, .source source.text])) := by
    rw [hitems, hconfigured, readItems_word hflag hoption, h.plain]
    rfl
  have hword : sources (front ++ (items ++ [.option .module entry, .source source.text])) =
      [source.text] := by
    rw [sources_append, sources_append, hplaces.sources, hsources]
    rfl
  have hvalue : ∀ o, lastValue? o
      (front ++ (items ++ [.option .module entry, .source source.text])) =
        ((lastValue? o [.option .module entry, .source source.text]).or (lastValue? o items)).or
          (lastValue? o front) := by
    intro o
    rw [lastValue?_append, lastValue?_append]
  have hmodule : lastValue? .module
      (front ++ (items ++ [.option .module entry, .source source.text])) = some entry := by
    rw [hvalue]
    rfl
  have hother : ∀ o, o ≠ .module → lastValue? o
      [.option .module entry, .source source.text] = none := by
    intro o hne
    refine lastValue?_eq_none fun value hmem => ?_
    rcases List.mem_cons.mp hmem with heq | hmem
    · exact hne (SettingsItem.option.inj heq).1
    · cases List.mem_singleton.mp hmem
  have hoptimize : readOptimize
      (front ++ (items ++ [.option .module entry, .source source.text])) = .ok level := by
    unfold readOptimize at hlevel ⊢
    rwa [hvalue, hother _ (by decide), hplaces.optimize, Option.none_or, Option.or_none]
  unfold ofArguments
  rw [hall]
  simp only [ofItems, hword, hoptimize, hmodule, Option.getD_some, hentry, if_true]
  refine ⟨items, _, hconfigured, rfl, rfl, rfl, fun hnone => ?_, fun hnone => ?_⟩
  · dsimp only
    rw [hvalue, hother _ (by decide), hnone, hplaces.classpath, Option.none_or, Option.none_or,
      hgiven]
  · dsimp only
    rw [hvalue, hother _ (by decide), hnone, hplaces.outputDirectory, Option.none_or,
      Option.none_or]

theorem simpleName_of_isModuleName {module : String} (h : isModuleName module = true) :
    simpleName module ≠ "" := by
  obtain ⟨init, hsplit⟩ := Text.split_eq_append '.' module.toList
  have hlast : Text.isIdentifier (Text.afterLast '.' module.toList) = true := by
    unfold isModuleName at h
    rw [hsplit, List.all_append] at h
    simpa using (Bool.and_eq_true_iff.mp h).2
  intro hempty
  have hnil : Text.afterLast '.' module.toList = [] := by
    simpa [simpleName] using congrArg String.toList hempty
  rw [hnil] at hlast
  cases hlast

end Settings

namespace Assignment

variable {τ : Type}

/-- An evaluation of a module has a source, whatever is configured. Its command line is refused,
because of the options that are configured, or it is accepted, and then this source is compiled as
this module. Unless a configured word names another, the class path has the entries of the request
and then those of the configuration, and the directory is the configured one. -/
theorem configured_options_do_not_redirect (a : Assignment τ) {d : Disk}
    (hcurrent : d.current.path.IsNormal)
    (hentry : Settings.isModuleName a.request.entryPoint = true) :
    ∃ path, a.sourcePath d = .ok path ∧
      ((∃ fault, Settings.ofArguments (a.arguments path) = .error fault ∧
          ¬a.config.Accepts path) ∨
        ∃ s, Settings.ofArguments (a.arguments path) = .ok s ∧ a.config.Accepts path ∧
          s.source = path ∧ s.module = a.request.entryPoint ∧
          (("-cp" ∉ a.config.compilerArguments ∧ "-classpath" ∉ a.config.compilerArguments ∧
              "-d" ∉ a.config.compilerArguments) →
            s.classpath = joinClasspath (a.request.classpath ++ a.config.compilerClasspath) ∧
            s.outputDirectory =
              (a.config.outputDirectory.filter fun d => !d.isEmpty).map Path.ofString)) := by
  obtain ⟨path, hpath⟩ : ∃ path, a.sourcePath d = .ok path := by
    have hname : (simpleName a.request.entryPoint).isEmpty = false := by
      simpa using Settings.simpleName_of_isModuleName hentry
    unfold sourcePath Materializer.sourcePath
    simp [hname]
  have hsource := eq_source_of_sourcePath hpath
  have htext : ['.', 'p', 'y'] <:+ path.text.toList := hsource ▸ a.text_source d.current
  have hnormal : path.IsNormal := hsource ▸ isNormal_source hcurrent
  refine ⟨path, hpath, ?_⟩
  by_cases haccepts : a.config.Accepts path
  · obtain ⟨items, s, hitems, hsettings, hpathOf, hmodule, hclasspath, hdirectory⟩ :=
      Settings.ofArguments_of_accepts a.request.classpath hentry htext haccepts
    rw [Path.ofString_text hnormal] at hpathOf
    refine Or.inr ⟨s, hsettings, haccepts, hpathOf, hmodule, fun ⟨hcp, hlong, hd⟩ => ?_⟩
    have hno : ∀ o : SettingsOption, (o = .classpath ∨ o = .outputDirectory) →
        Settings.lastValue? o items = none := by
      intro o ho
      refine Settings.lastValue?_of_words hitems fun word hword hnames => ?_
      rcases ho with rfl | rfl
      · rcases Settings.word_of_ofWord?.1 hnames with rfl | rfl
        · exact hcp hword
        · exact hlong hword
      · cases Settings.word_of_ofWord?.2 hnames
        exact hd hword
    exact ⟨hclasspath (hno _ (Or.inl rfl)), hdirectory (hno _ (Or.inr rfl))⟩
  · cases hsettings : Settings.ofArguments (a.arguments path) with
    | error fault => exact Or.inl ⟨fault, rfl, haccepts⟩
    | ok s => exact absurd (Settings.accepts_of_ofArguments hentry htext hsettings) haccepts

/-- A level lets the source pass, and an option at the end that takes `-module` for its value does
not. -/
theorem a_level_is_accepted_and_an_open_option_is_not :
    (∃ path s, path.text = "/m$instrumented.py" ∧
      Settings.ofArguments ((sample ["-optimize", "1"] "p.m" "x = 1\n").arguments path) = .ok s ∧
      s.source = path ∧ s.module = "p.m" ∧ s.classpath = "" ∧ s.outputDirectory = none) ∧
    ∃ path fault, path.text = "/m$instrumented.py" ∧
      Settings.ofArguments ((sample ["-optimize", "1", "-cp"] "p.m" "x = 1\n").arguments path) =
        .error fault := by
  have hroot : (sampleSite []).disk.current.path.IsNormal := nofun
  have hname : Settings.isModuleName "p.m" = true := by decide +kernel
  have htext : ∀ options path, (sample options "p.m" "x = 1\n").sourcePath (sampleSite []).disk =
      .ok path → path.text = "/m$instrumented.py" := by
    intro options path hpath
    rw [eq_source_of_sourcePath hpath]
    have hsame : ((sample [] "p.m" "x = 1\n").source []).text = "/m$instrumented.py" := by
      decide +kernel
    exact hsame
  have hcut : awaitsValue ["-optimize", "1"] = false := by decide
  have hopen : awaitsValue ["-optimize", "1", "-cp"] = true := by decide
  have hpasses : ∀ path : Path, path.text = "/m$instrumented.py" →
      (sample ["-optimize", "1"] "p.m" "x = 1\n").config.Accepts path := fun path hpath =>
    ⟨hcut, ⟨[.option .optimize "1"], 1, rfl, rfl, rfl⟩, by rw [hpath]; decide⟩
  constructor
  · obtain ⟨path, hpath, hsettings⟩ := configured_options_do_not_redirect
      (sample ["-optimize", "1"] "p.m" "x = 1\n") (d := (sampleSite []).disk) hroot hname
    rcases hsettings with ⟨fault, -, hno⟩ | ⟨s, haccepted, -, hsource, hmodule, hplaces⟩
    · exact absurd (hpasses path (htext _ path hpath)) hno
    · obtain ⟨hclasspath, hdirectory⟩ := hplaces (by decide)
      exact ⟨path, s, htext _ path hpath, haccepted, hsource, hmodule, hclasspath, hdirectory⟩
  · obtain ⟨path, hpath, hsettings⟩ := configured_options_do_not_redirect
      (sample ["-optimize", "1", "-cp"] "p.m" "x = 1\n") (d := (sampleSite []).disk) hroot hname
    rcases hsettings with ⟨fault, hrefused, -⟩ | ⟨s, -, haccepts, -⟩
    · exact ⟨path, fault, htext _ path hpath, hrefused⟩
    · cases hopen.symm.trans haccepts.complete

end Assignment

end Worksheet
