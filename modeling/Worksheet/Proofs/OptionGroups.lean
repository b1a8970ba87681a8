-- The grammar of the bytecode compiler's command line. A command line that is understood can be cut
-- into groups in one way, the groups of each destination say on their own what is set, and so only
-- their order among each other matters.
import Worksheet.Fault
import Worksheet.Proofs.CommandLine

namespace Worksheet

/-! ## Groups -/

def SettingsFlag.spelling : SettingsFlag → String
  | .fatalWarnings => "-Werror"
  | .noWarnings => "-nowarn"

/-- The words that an option is given by. -/
def SettingsOption.spellings : SettingsOption → List String
  | .outputDirectory => ["-d"]
  | .classpath => ["-cp", "-classpath"]
  | .module => ["-module"]
  | .optimize => ["-optimize"]

theorem SettingsFlag.ofWord?_eq_some_iff {word : String} {f : SettingsFlag} :
    ofWord? word = some f ↔ word = f.spelling := by
  unfold ofWord?
  constructor
  · intro h
    split at h
    · next heq =>
      cases h
      exact heq
    split at h
    · next heq =>
      cases h
      exact heq
    · cases h
  · rintro rfl
    cases f <;> decide

theorem SettingsOption.ofWord?_eq_some_iff {word : String} {o : SettingsOption} :
    ofWord? word = some o ↔ word ∈ o.spellings := by
  constructor
  · unfold ofWord?
    intro h
    split at h
    · next heq =>
      cases h
      exact List.mem_singleton.mpr heq
    split at h
    · next heq =>
      cases h
      exact heq ▸ List.mem_cons_self ..
    split at h
    · next heq =>
      cases h
      exact heq ▸ List.mem_cons_of_mem _ (List.mem_cons_self ..)
    split at h
    · next heq =>
      cases h
      exact List.mem_singleton.mpr heq
    split at h
    · next heq =>
      cases h
      exact List.mem_singleton.mpr heq
    · cases h
  · intro h
    cases o <;> simp only [spellings, List.mem_cons, List.not_mem_nil, or_false] at h
    · subst h
      decide
    · rcases h with rfl | rfl <;> decide
    · subst h
      decide
    · subst h
      decide

theorem isOptionWord_eq_false_iff {word : String} :
    isOptionWord word = false ↔ word.toList.head? ≠ some '-' := by
  unfold isOptionWord
  exact decide_eq_false_iff_not

/-- The spellings of flags and options open with a dash, and no word spells both. -/
theorem SettingsOption.opens_of_mem_spellings {word : String} {o : SettingsOption}
    (h : word ∈ o.spellings) :
    SettingsFlag.ofWord? word = none ∧ word.toList.head? = some '-' := by
  cases o <;> simp only [spellings, List.mem_cons, List.not_mem_nil, or_false] at h
  · subst h
    decide
  · rcases h with rfl | rfl <;> decide
  · subst h
    decide
  · subst h
    decide

/-- A piece of a command line: a flag, an option with the word after it, whatever that says, or a
word that does not open with a dash. -/
inductive OptionGroup
  | flag (flag : SettingsFlag)
  | option (option : SettingsOption) (word : String) (named : word ∈ option.spellings)
      (value : String)
  | source (word : String) (plain : word.toList.head? ≠ some '-')

namespace OptionGroup

/-- What a group sets. -/
inductive Destination
  | flag (flag : SettingsFlag)
  | option (option : SettingsOption)
  | source
  deriving DecidableEq

def destination : OptionGroup → Destination
  | flag f => .flag f
  | option o .. => .option o
  | source .. => .source

def words : OptionGroup → List String
  | flag f => [f.spelling]
  | option _ word _ value => [word, value]
  | source word _ => [word]

def item : OptionGroup → SettingsItem
  | flag f => .flag f
  | option o _ _ value => .option o value
  | source word _ => .source word

/-- The command line of groups. -/
def line (groups : List OptionGroup) : List String := groups.flatMap words

theorem line_cons (g : OptionGroup) (groups : List OptionGroup) :
    line (g :: groups) = g.words ++ line groups :=
  List.flatMap_cons

theorem source_ofWord? {word : String} (plain : word.toList.head? ≠ some '-') :
    SettingsFlag.ofWord? word = none ∧ SettingsOption.ofWord? word = none := by
  refine ⟨Option.eq_none_iff_forall_ne_some.mpr fun f hf => plain ?_,
    Option.eq_none_iff_forall_ne_some.mpr fun o ho => plain ?_⟩
  · rw [SettingsFlag.ofWord?_eq_some_iff.mp hf]
    cases f <;> rfl
  · exact (SettingsOption.opens_of_mem_spellings (SettingsOption.ofWord?_eq_some_iff.mp ho)).2

theorem readItems_group (g : OptionGroup) (rest : List String) :
    readItems (g.words ++ rest) = (readItems rest).map (g.item :: ·) := by
  cases g with
  | flag f => exact readItems_flag (SettingsFlag.ofWord?_eq_some_iff.mpr rfl) rest
  | option o word named value =>
    exact readItems_option word (SettingsOption.opens_of_mem_spellings named).1
      (SettingsOption.ofWord?_eq_some_iff.mpr named) value rest
  | source word plain =>
    obtain ⟨hflag, hoption⟩ := source_ofWord? plain
    have hread := readItems_word hflag hoption rest
    rw [isOptionWord_eq_false_iff.mpr plain] at hread
    exact hread

/-- The items of a command line are those of its groups. -/
theorem readItems_line (groups : List OptionGroup) :
    readItems (line groups) = .ok (groups.map item) := by
  induction groups with
  | nil => rfl
  | cons g groups ih =>
    rw [line_cons, readItems_group, ih]
    rfl

/-- What is understood is a line of groups. -/
theorem exists_groups {words : List String} {items : List SettingsItem}
    (h : readItems words = .ok items) : ∃ groups, words = line groups := by
  induction words using readItems.induct generalizing items with
  | case1 => exact ⟨[], rfl⟩
  | case2 word rest f hflag ih =>
    rw [readItems_flag hflag] at h
    obtain ⟨items', hitems', -⟩ := exists_of_map_ok h
    obtain ⟨groups, rfl⟩ := ih hitems'
    obtain rfl := SettingsFlag.ofWord?_eq_some_iff.mp hflag
    exact ⟨.flag f :: groups, rfl⟩
  | case3 word hflag o ho => simp [readItems, hflag, ho] at h
  | case4 word hflag o ho value rest ih =>
    rw [readItems_option _ hflag ho] at h
    obtain ⟨items', hitems', -⟩ := exists_of_map_ok h
    obtain ⟨groups, rfl⟩ := ih hitems'
    exact ⟨.option o word (SettingsOption.ofWord?_eq_some_iff.mp ho) value :: groups, rfl⟩
  | case5 word rest hflag ho hoption =>
    rw [readItems_word hflag ho, if_pos hoption] at h
    cases h
  | case6 word rest hflag ho hplain ih =>
    rw [readItems_word hflag ho, if_neg hplain] at h
    obtain ⟨items', hitems', -⟩ := exists_of_map_ok h
    obtain ⟨groups, rfl⟩ := ih hitems'
    exact ⟨.source word (isOptionWord_eq_false_iff.mp (Bool.eq_false_iff.mpr hplain)) :: groups,
      rfl⟩

/-- The first word tells which group it opens, so two cuts of a line are the same. -/
theorem line_injective {groups groups' : List OptionGroup} (h : line groups = line groups') :
    groups = groups' := by
  induction groups generalizing groups' with
  | nil =>
    cases groups' with
    | nil => rfl
    | cons g' rest' => cases g' <;> cases h
  | cons g rest ih =>
    cases groups' with
    | nil => cases g <;> cases h
    | cons g' rest' =>
      have hitems := congrArg readItems h
      rw [readItems_line, readItems_line] at hitems
      have hitem : g.item = g'.item := (List.cons.inj (Except.ok.inj hitems)).1
      rw [line_cons, line_cons] at h
      cases g with
      | flag f =>
        cases g' <;> cases hitem
        rw [ih (List.append_cancel_left h)]
      | option o word named value =>
        cases g' <;> cases hitem
        obtain ⟨rfl, hrest⟩ := List.cons.inj h
        rw [ih (List.cons.inj hrest).2]
      | source word plain =>
        cases g' <;> cases hitem
        rw [ih (List.append_cancel_left h)]

/-! ## What groups say -/

/-- The last group of an option gives it a value; without such a group it has none. -/
def LastGiven (groups : List OptionGroup) (o : SettingsOption) : Option String → Prop
  | none => ∀ g ∈ groups, g.destination ≠ .option o
  | some value => ∃ before word named after,
      groups = before ++ option o word named value :: after ∧
        ∀ g ∈ after, g.destination ≠ .option o

theorem lastValue?_eq_none {groups : List OptionGroup} {o : SettingsOption}
    (h : ∀ g ∈ groups, g.destination ≠ .option o) :
    Settings.lastValue? o (groups.map item) = none := by
  refine Settings.lastValue?_eq_none fun value hmem => ?_
  obtain ⟨g, hg, hitem⟩ := List.mem_map.mp hmem
  cases g <;> cases hitem
  exact h _ hg rfl

theorem lastGiven_lastValue? (groups : List OptionGroup) (o : SettingsOption) :
    LastGiven groups o (Settings.lastValue? o (groups.map item)) := by
  induction groups with
  | nil => exact nofun
  | cons g groups ih =>
    have hcons : Settings.lastValue? o ((g :: groups).map item) =
        (Settings.lastValue? o (groups.map item)).or (Settings.lastValue? o [g.item]) :=
      Settings.lastValue?_append o [g.item] (groups.map item)
    rw [hcons]
    cases hrest : Settings.lastValue? o (groups.map item) with
    | some value =>
      rw [hrest] at ih
      obtain ⟨before, word, named, after, rfl, hafter⟩ := ih
      exact ⟨g :: before, word, named, after, rfl, hafter⟩
    | none =>
      rw [hrest] at ih
      rw [Option.none_or]
      by_cases hg : g.destination = .option o
      · cases g with
        | option o' word named value =>
          cases hg
          have hvalue : Settings.lastValue? o [(option o word named value).item] = some value := by
            simp [Settings.lastValue?, item]
          rw [hvalue]
          exact ⟨[], word, named, groups, rfl, ih⟩
        | _ => cases hg
      · have hsingle : ∀ g' ∈ [g], g'.destination ≠ .option o := fun g' hg' =>
          List.mem_singleton.mp hg' ▸ hg
        have hnone : Settings.lastValue? o [g.item] = none := lastValue?_eq_none hsingle
        rw [hnone]
        exact fun g' hg' => (List.mem_cons.mp hg').elim (fun heq => heq ▸ hg) (ih g')

theorem lastGiven_iff {groups : List OptionGroup} {o : SettingsOption} {given : Option String} :
    LastGiven groups o given ↔ Settings.lastValue? o (groups.map item) = given := by
  refine ⟨fun h => ?_, fun h => h ▸ lastGiven_lastValue? groups o⟩
  cases given with
  | none => exact lastValue?_eq_none h
  | some value =>
    obtain ⟨before, word, named, after, rfl, hafter⟩ := h
    have hlast : Settings.lastValue? o ((option o word named value :: after).map item) =
        some value := by
      have hcons := Settings.lastValue?_append o [.option o value] (after.map item)
      rw [lastValue?_eq_none hafter, Option.none_or] at hcons
      exact hcons.trans (by simp [Settings.lastValue?])
    rw [List.map_append, Settings.lastValue?_append, hlast, Option.some_or]

/-- The one word of a command line that is no option. -/
def OneSource (groups : List OptionGroup) (word : String) : Prop :=
  ∃ plain, groups.filter (·.destination = .source) = [source word plain]

theorem sources_map_item (groups : List OptionGroup) :
    Settings.sources (groups.map item) =
      Settings.sources ((groups.filter (·.destination = .source)).map item) := by
  induction groups with
  | nil => rfl
  | cons g groups ih =>
    cases g with
    | source word plain =>
      rw [List.filter_cons_of_pos (by simp [destination])]
      exact congrArg (word :: ·) ih
    | _ =>
      rw [List.filter_cons_of_neg (by simp [destination])]
      exact ih

theorem lastValue?_map_item (groups : List OptionGroup) (o : SettingsOption) :
    Settings.lastValue? o (groups.map item) =
      Settings.lastValue? o ((groups.filter (·.destination = .option o)).map item) := by
  unfold Settings.lastValue?
  rw [List.filterMap_map, List.filterMap_map, List.filterMap_filter]
  refine congrArg (fun f => (groups.filterMap f).getLast?) (funext fun g => ?_)
  cases g with
  | option o' word named value => by_cases ho : o' = o <;> simp [item, destination, ho]
  | _ => simp [item, destination]

theorem oneSource_iff {groups : List OptionGroup} {word : String} :
    OneSource groups word ↔ Settings.sources (groups.map item) = [word] := by
  rw [sources_map_item]
  unfold OneSource
  have hall : ∀ g ∈ groups.filter (·.destination = .source),
      ∃ word plain, g = source word plain := by
    intro g hg
    cases g with
    | source word plain => exact ⟨word, plain, rfl⟩
    | _ => simp [destination] at hg
  constructor
  · rintro ⟨plain, hone⟩
    rw [hone]
    rfl
  · intro h
    revert hall h
    cases groups.filter (·.destination = .source) with
    | nil =>
      intro _ h
      cases h
    | cons g rest =>
      intro hall h
      obtain ⟨w, plain, rfl⟩ := hall g (List.mem_cons_self ..)
      cases rest with
      | nil =>
        cases h
        exact ⟨plain, rfl⟩
      | cons g' rest =>
        obtain ⟨w', plain', rfl⟩ := hall g' (List.mem_cons_of_mem _ (List.mem_cons_self ..))
        cases h

theorem flag_mem_iff {groups : List OptionGroup} {f : SettingsFlag} :
    (groups.map item).contains (.flag f) = true ↔ flag f ∈ groups := by
  rw [List.contains_iff_mem]
  constructor
  · intro h
    obtain ⟨g, hg, hitem⟩ := List.mem_map.mp h
    cases g <;> cases hitem
    exact hg
  · exact fun h => List.mem_map.mpr ⟨_, h, rfl⟩

end OptionGroup

/-- A source stands for the module of its stem, or of what is before the ending of instrumented
sources there. -/
def Path.NamesModule (source : Path) (name : String) : Prop :=
  source.stem = name ++ instrumentedSuffix ∨
    name = source.stem ∧ ∀ front, source.stem ≠ front ++ instrumentedSuffix

theorem Text.endsWith_iff {ending cs : List Char} :
    endsWith ending cs = true ↔ ∃ front, cs = front ++ ending := by
  unfold endsWith
  rw [List.isPrefixOf_iff_prefix, List.reverse_prefix]
  exact exists_congr fun front => eq_comm

theorem Path.namesModule_iff {source : Path} {name : String} :
    source.NamesModule name ↔ name = Settings.moduleOfSource source := by
  unfold NamesModule Settings.moduleOfSource
  by_cases hends : Text.endsWith instrumentedSuffix.toList source.stem.toList = true
  · obtain ⟨front, hfront⟩ := Text.endsWith_iff.mp hends
    have hstem : source.stem = String.ofList front ++ instrumentedSuffix :=
      String.toList_inj.mp (by rw [hfront, String.toList_append, String.toList_ofList])
    have hbefore : source.stem.toList.take
        (source.stem.toList.length - instrumentedSuffix.toList.length) = front := by
      rw [hfront, List.length_append, Nat.add_sub_cancel, List.take_left]
    simp only [hends, if_true, hbefore]
    constructor
    · rintro (hname | ⟨-, hnone⟩)
      · have happend := congrArg String.toList (hname.symm.trans hstem)
        rw [String.toList_append, String.toList_append] at happend
        exact String.toList_inj.mp (List.append_cancel_right happend)
      · exact absurd hstem (hnone _)
    · rintro rfl
      exact Or.inl hstem
  · have hnone : ∀ front, source.stem ≠ front ++ instrumentedSuffix := fun front heq =>
      hends (Text.endsWith_iff.mpr ⟨front.toList, by rw [heq, String.toList_append]⟩)
    simp only [hends, Bool.false_eq_true, if_false]
    exact ⟨fun h => (h.resolve_left (hnone name)).1, fun h => Or.inr ⟨h, hnone⟩⟩

namespace OptionGroup

/-- The module is the one that is given, or else the one that the source stands for. -/
def ModuleFrom (source : Path) (name : String) : Option String → Prop
  | some value => name = value
  | none => source.NamesModule name

theorem moduleFrom_iff {source : Path} {name : String} {given : Option String} :
    ModuleFrom source name given ↔ name = given.getD (Settings.moduleOfSource source) := by
  cases given with
  | some value => exact Iff.rfl
  | none =>
    rw [Option.getD_none]
    exact Path.namesModule_iff

/-- The level is the number that is given, or else -1. -/
def LevelFrom (level : Int) : Option String → Prop
  | some value => Text.readWhole value.toList = .ok level
  | none => level = -1

/-- The levels that there are. -/
def levels : List Int := [-1, 0, 1, 2]

/-- Which groups make a command line that is accepted. -/
structure Accepted (groups : List OptionGroup) : Prop where
  source : ∃ word, OneSource groups word
  level : ∀ value, LastGiven groups .optimize (some value) →
    ∃ level ∈ levels, Text.readWhole value.toList = .ok level
  module : ∀ word given name, OneSource groups word → LastGiven groups .module given →
    ModuleFrom (Path.ofString word) name given →
    ∀ part ∈ Text.split '.' name.toList, Text.isIdentifier part = true

/-- What groups say about settings. -/
structure Describes (groups : List OptionGroup) (s : Settings) : Prop where
  source : ∃ word, OneSource groups word ∧ s.source = Path.ofString word
  outputDirectory : ∃ given, LastGiven groups .outputDirectory given ∧
    s.outputDirectory = given.map Path.ofString
  classpath : ∃ given, LastGiven groups .classpath given ∧ s.classpath = given.getD ""
  module : ∃ given, LastGiven groups .module given ∧ ModuleFrom s.source s.module given
  optimize : ∃ given, LastGiven groups .optimize given ∧ LevelFrom s.optimize given
  fatalWarnings : s.fatalWarnings = true ↔ flag .fatalWarnings ∈ groups
  noWarnings : s.noWarnings = true ↔ flag .noWarnings ∈ groups

/-- Groups in another order, in which those of one destination follow each other as before. -/
def Rearranged (groups groups' : List OptionGroup) : Prop :=
  ∀ d, groups.filter (·.destination = d) = groups'.filter (·.destination = d)

theorem rearranged_swap {g g' : OptionGroup} (hne : g.destination ≠ g'.destination)
    (before after : List OptionGroup) :
    Rearranged (before ++ g :: g' :: after) (before ++ g' :: g :: after) := by
  intro d
  rw [List.filter_append, List.filter_append]
  refine congrArg _ ?_
  by_cases hg : g.destination = d
  · have hg' : g'.destination ≠ d := fun heq => hne (hg.trans heq.symm)
    simp [hg, hg']
  · simp [List.filter_cons, hg]

end OptionGroup

namespace Settings

/-- A level is read as one that there is. -/
theorem readLevel_eq_ok_iff {value : String} {n : Int} :
    readLevel value = .ok n ↔
      Text.readWhole value.toList = .ok n ∧ n ∈ OptionGroup.levels := by
  have hrange : ∀ m : Int, (-1 ≤ m ∧ m ≤ 2) ↔ m ∈ OptionGroup.levels := by
    intro m
    simp only [OptionGroup.levels, List.mem_cons, List.not_mem_nil, or_false]
    omega
  unfold readLevel
  cases Text.readWhole value.toList with
  | error e => simp
  | ok m =>
    dsimp only
    by_cases hm : -1 ≤ m ∧ m ≤ 2
    · rw [if_pos hm, Except.ok.injEq]
      constructor
      · rintro rfl
        exact ⟨rfl, (hrange m).mp hm⟩
      · exact fun h => Except.ok.inj h.1
    · rw [if_neg hm]
      constructor
      · rintro ⟨⟩
      · rintro ⟨hsame, hlevel⟩
        obtain rfl := Except.ok.inj hsame
        exact absurd ((hrange m).mpr hlevel) hm

theorem readOptimize_eq_ok_iff {items : List SettingsItem} {level : Int} :
    readOptimize items = .ok level ↔
      OptionGroup.LevelFrom level (lastValue? .optimize items) ∧ level ∈ OptionGroup.levels := by
  unfold readOptimize
  cases lastValue? .optimize items with
  | some value => exact readLevel_eq_ok_iff
  | none =>
    refine ⟨fun h => ?_, fun h => congrArg Except.ok h.1.symm⟩
    obtain rfl := Except.ok.inj h
    exact ⟨rfl, List.mem_cons_self ..⟩

/-- What is read of a line of groups. -/
theorem ofArguments_line (groups : List OptionGroup) :
    ofArguments (OptionGroup.line groups) = ofItems (groups.map OptionGroup.item) := by
  unfold ofArguments
  rw [OptionGroup.readItems_line]

/-- Settings depend on the sources, the last values and the flags among the items only. -/
theorem ofItems_congr {items items' : List SettingsItem} (hsources : sources items = sources items')
    (hvalues : ∀ o, lastValue? o items = lastValue? o items')
    (hflags : ∀ f, items.contains (.flag f) = items'.contains (.flag f)) :
    ofItems items = ofItems items' := by
  unfold ofItems readOptimize
  simp only [hsources, hvalues, hflags]

open OptionGroup

variable {groups groups' : List OptionGroup} {s : Settings}

theorem isModuleName_iff {name : String} :
    isModuleName name = true ↔
      ∀ part ∈ Text.split '.' name.toList, Text.isIdentifier part = true :=
  List.all_eq_true

theorem describes_of_ofItems (h : ofItems (groups.map item) = .ok s) :
    Accepted groups ∧ Describes groups s := by
  unfold ofItems at h
  split at h
  · next word hword =>
    have hsource := oneSource_iff.mpr hword
    split at h
    · cases h
    next level hlevel =>
    obtain ⟨hfrom, hlevel⟩ := readOptimize_eq_ok_iff.mp hlevel
    dsimp only at h
    split at h
    · next hname =>
      cases h
      refine ⟨⟨⟨word, hsource⟩, fun value hvalue => ?_,
        fun word' given name hword' hgiven hsays => ?_⟩,
        ⟨⟨word, hsource, rfl⟩, ⟨_, lastGiven_lastValue? .., rfl⟩, ⟨_, lastGiven_lastValue? .., rfl⟩,
          ⟨_, lastGiven_lastValue? .., moduleFrom_iff.mpr rfl⟩, ⟨_, lastGiven_lastValue? .., hfrom⟩,
          flag_mem_iff, flag_mem_iff⟩⟩
      · rw [lastGiven_iff.mp hvalue] at hfrom
        exact ⟨level, hlevel, hfrom⟩
      · obtain rfl : word = word' :=
          (List.cons.inj (hword.symm.trans (oneSource_iff.mp hword'))).1
        rw [lastGiven_iff.mp hgiven, ← moduleFrom_iff.mp hsays] at hname
        exact isModuleName_iff.mp hname
    · cases h
  · cases h

theorem exists_ofItems (h : Accepted groups) : ∃ s, ofItems (groups.map item) = .ok s := by
  obtain ⟨⟨word, hsource⟩, hlevel, hmodule⟩ := h
  obtain ⟨level, hreads⟩ : ∃ level, readOptimize (groups.map item) = .ok level := by
    have hgiven := lastGiven_lastValue? groups .optimize
    unfold readOptimize
    cases hvalue : lastValue? .optimize (groups.map item) with
    | none => exact ⟨-1, rfl⟩
    | some value =>
      rw [hvalue] at hgiven
      obtain ⟨level, hmem, hread⟩ := hlevel value hgiven
      exact ⟨level, readLevel_eq_ok_iff.mpr ⟨hread, hmem⟩⟩
  have hname := isModuleName_iff.mpr
    (hmodule word _ _ hsource (lastGiven_lastValue? groups .module) (moduleFrom_iff.mpr rfl))
  unfold ofItems
  rw [oneSource_iff.mp hsource, hreads]
  dsimp only
  rw [if_pos hname]
  exact ⟨_, rfl⟩

theorem ofItems_of_rearranged (h : Rearranged groups groups') :
    ofItems (groups.map item) = ofItems (groups'.map item) := by
  refine ofItems_congr ?_ (fun o => ?_) fun f => ?_
  · rw [sources_map_item, sources_map_item groups', h .source]
  · rw [lastValue?_map_item, lastValue?_map_item groups', h (.option o)]
  · have hmem : ∀ gs : List OptionGroup, flag f ∈ gs ↔
        flag f ∈ gs.filter (·.destination = .flag f) := by
      intro gs
      simp [List.mem_filter, destination]
    refine Bool.eq_iff_iff.mpr ?_
    rw [flag_mem_iff, flag_mem_iff, hmem groups, hmem groups', h (.flag f)]

/-- A command line is accepted if it can be cut into groups, in the one way that there is, with one
source, a level that there is and a module whose name is made of identifiers. The last group of each
destination says what is set, and groups of different destinations may change their places. All
other command lines are refused as calls that the compiler does not understand. -/
theorem command_lines_are_read_group_by_group (words : List String) :
    ((∃ s, ofArguments words = .ok s) ↔ ∃ groups, words = line groups ∧ Accepted groups) ∧
      (∀ fault, ofArguments words = .error fault →
        (Fault.invocation (.settings fault)).className = "CompilerInvocationError") ∧
      ∀ groups, words = line groups →
        (∀ groups', words = line groups' → groups = groups') ∧
        (∀ s, ofArguments words = .ok s → Describes groups s) ∧
        ∀ groups', Rearranged groups groups' → ofArguments (line groups') = ofArguments words := by
  refine ⟨⟨fun ⟨s, hs⟩ => ?_, ?_⟩, fun fault _ => rfl, ?_⟩
  · obtain ⟨items, word, hitems, -⟩ := ofArguments_spec hs
    obtain ⟨groups, rfl⟩ := exists_groups hitems
    rw [ofArguments_line] at hs
    exact ⟨groups, rfl, (describes_of_ofItems hs).1⟩
  · rintro ⟨groups, rfl, haccepted⟩
    rw [ofArguments_line]
    exact exists_ofItems haccepted
  · rintro groups rfl
    refine ⟨fun groups' => line_injective, fun s hs => ?_, fun groups' hsame => ?_⟩
    · rw [ofArguments_line] at hs
      exact (describes_of_ofItems hs).2
    · rw [ofArguments_line, ofArguments_line, ofItems_of_rearranged hsame]

/-- A value may look like an option, the last class path counts, and the source may stand anywhere
between the other groups. -/
theorem a_source_stands_between_options :
    ∃ s, ofArguments ["-cp", "-d", "Main.py", "-d", "-out", "-classpath", "lib"] = .ok s ∧
      s.classpath = "lib" ∧ s.outputDirectory = some (Path.ofString "-out") ∧
      s.noWarnings = false ∧
      ofArguments ["-cp", "-d", "-d", "-out", "Main.py", "-classpath", "lib"] = .ok s := by
  let source : OptionGroup := .source "Main.py" (by decide)
  let before : List OptionGroup := [.option .classpath "-cp" (by decide) "-d"]
  let directory : OptionGroup := .option .outputDirectory "-d" (by decide) "-out"
  let after : List OptionGroup := [.option .classpath "-classpath" (by decide) "lib"]
  let groups := before ++ source :: directory :: after
  obtain ⟨⟨-, haccepted⟩, -, hgroups⟩ := command_lines_are_read_group_by_group (line groups)
  have hmodule : ∀ word given name, OneSource groups word → LastGiven groups .module given →
      ModuleFrom (Path.ofString word) name given → name = "Main" := by
    intro word given name hword hgiven hname
    obtain rfl : "Main.py" = word := (List.cons.inj (oneSource_iff.mp hword)).1
    obtain rfl : none = given := lastGiven_iff.mp hgiven
    rw [moduleFrom_iff.mp hname]
    decide +kernel
  have hmain : ∀ part ∈ Text.split '.' "Main".toList, Text.isIdentifier part = true := by
    decide +kernel
  have hall : Accepted groups := by
    refine ⟨⟨"Main.py", oneSource_iff.mpr rfl⟩, fun value hvalue => ?_,
      fun word given name hword hgiven hname => ?_⟩
    · have hnone : none = some value := lastGiven_iff.mp hvalue
      cases hnone
    · rw [hmodule word given name hword hgiven hname]
      exact hmain
  obtain ⟨s, hs⟩ := haccepted ⟨groups, rfl, hall⟩
  obtain ⟨-, hdescribes, hsame⟩ := hgroups groups rfl
  obtain ⟨-, ⟨given, hgiven, hdirectory⟩, ⟨given', hgiven', hclasspath⟩, -, -, -, hflag⟩ :=
    hdescribes s hs
  obtain rfl : some "-out" = given := lastGiven_iff.mp hgiven
  obtain rfl : some "lib" = given' := lastGiven_iff.mp hgiven'
  refine ⟨s, hs, hclasspath, hdirectory, Bool.eq_false_iff.mpr fun hset => ?_, ?_⟩
  · have hmem := hflag.mp hset
    simp [groups, before, source, directory, after] at hmem
  · exact (hsame _ (rearranged_swap (by decide) before after)).trans hs

end Settings

end Worksheet
