-- The order of a search. The launcher takes the class path of a command apart again, and looks
-- through its entries from the first to the last, in each of them for bytecode before a source.
import Worksheet.Proofs.LaunchedFiles

namespace Worksheet

namespace Launch

open Text (Octets)

variable {d : Disk} {entries : List String} {entryPoint : String}

/-! ## Entries -/

/-- The entries of a class path that count. -/
def named (entries : List String) : List String := entries.filter fun e => !e.isEmpty

/-- A class path is taken apart into the entries that it was put together from. -/
theorem entriesOf_joinClasspath (hcolon : ∀ e ∈ entries, ':' ∉ e.toList) :
    entriesOf (joinClasspath entries) = named entries := by
  unfold entriesOf named Text.splitString
  by_cases hnil : entries = []
  · subst hnil
    decide
  have hsplit : Text.split ':' (joinClasspath entries).toList = entries.map String.toList := by
    unfold joinClasspath
    rw [Text.split_eq_splitOn, String.toList_intercalate]
    refine List.splitOn_intercalate ':' ?_ (by simpa using hnil)
    intro piece hpiece
    obtain ⟨e, he, rfl⟩ := List.mem_map.mp hpiece
    exact hcolon e he
  rw [hsplit, List.map_map]
  simp [Function.comp_def]

/-! ## The order of files -/

/-- There is a regular file for a dotted name below an entry, with an ending. -/
def HasFile (d : Disk) (entryPoint e ending : String) : Prop :=
  d.isFile (Octets.ofString (basePath e entryPoint ++ ending)) = true

/-- The file of the first entry that has one, and there of the first ending. -/
def FirstFile (d : Disk) (entries : List String) (entryPoint file : String) : Prop :=
  ∃ before e after earlier ending later,
    entries = before ++ e :: after ∧ suffixes = earlier ++ ending :: later ∧
    file = basePath e entryPoint ++ ending ∧ HasFile d entryPoint e ending ∧
    (∀ ending' ∈ earlier, ¬HasFile d entryPoint e ending') ∧
    ∀ e' ∈ before, ∀ ending' ∈ suffixes, ¬HasFile d entryPoint e' ending'

/-- The file of one entry. -/
def fileIn (d : Disk) (entryPoint e : String) : Option String :=
  (suffixes.find? fun ending => d.isFile (Octets.ofString (basePath e entryPoint ++ ending))).map
    (basePath e entryPoint ++ ·)

theorem find?_eq_findSome? : find? d entries entryPoint = entries.findSome? (fileIn d entryPoint) := by
  unfold find? candidates
  rw [List.find?_flatMap]
  congr 1
  funext e
  exact List.find?_map

theorem fileIn_eq_none_iff {e : String} :
    fileIn d entryPoint e = none ↔ ∀ ending ∈ suffixes, ¬HasFile d entryPoint e ending := by
  unfold fileIn HasFile
  rw [Option.map_eq_none_iff, List.find?_eq_none]

theorem fileIn_eq_some_iff {e file : String} :
    fileIn d entryPoint e = some file ↔ ∃ earlier ending later,
      suffixes = earlier ++ ending :: later ∧ file = basePath e entryPoint ++ ending ∧
      HasFile d entryPoint e ending ∧ ∀ ending' ∈ earlier, ¬HasFile d entryPoint e ending' := by
  unfold fileIn HasFile
  rw [Option.map_eq_some_iff]
  constructor
  · rintro ⟨ending, hfound, rfl⟩
    obtain ⟨hfile, earlier, later, hsplit, hnone⟩ := List.find?_eq_some_iff_append.mp hfound
    exact ⟨earlier, ending, later, hsplit, rfl, hfile, by simpa using hnone⟩
  · rintro ⟨earlier, ending, later, hsplit, rfl, hfile, hnone⟩
    exact ⟨ending, List.find?_eq_some_iff_append.mpr
      ⟨hfile, earlier, later, hsplit, by simpa using hnone⟩, rfl⟩

theorem find?_eq_none_iff :
    find? d entries entryPoint = none ↔
      ∀ e ∈ entries, ∀ ending ∈ suffixes, ¬HasFile d entryPoint e ending := by
  rw [find?_eq_findSome?, List.findSome?_eq_none_iff]
  exact forall₂_congr fun _ _ => fileIn_eq_none_iff

theorem find?_eq_some_iff {file : String} :
    find? d entries entryPoint = some file ↔ FirstFile d entries entryPoint file := by
  rw [find?_eq_findSome?, List.findSome?_eq_some_iff]
  constructor
  · rintro ⟨before, e, after, hentries, hfile, hnone⟩
    obtain ⟨earlier, ending, later, hsuffixes, rfl, hhas, hearlier⟩ := fileIn_eq_some_iff.mp hfile
    exact ⟨before, e, after, earlier, ending, later, hentries, hsuffixes, rfl, hhas, hearlier,
      fun e' he' => fileIn_eq_none_iff.mp (hnone e' he')⟩
  · rintro ⟨before, e, after, earlier, ending, later, hentries, hsuffixes, rfl, hhas, hearlier,
      hnone⟩
    exact ⟨before, e, after, hentries,
      fileIn_eq_some_iff.mpr ⟨earlier, ending, later, hsuffixes, rfl, hhas, hearlier⟩,
      fun e' he' => fileIn_eq_none_iff.mpr (hnone e' he')⟩

/-- Later entries are looked through when the earlier ones have nothing. -/
theorem find?_append (before after : List String) :
    find? d (before ++ after) entryPoint =
      (find? d before entryPoint).or (find? d after entryPoint) := by
  unfold find? candidates
  rw [List.flatMap_append, List.find?_append]

/-- Behind an entry with a file, whatever its ending, nothing is looked for. -/
theorem find?_of_hasFile {e ending : String} (hending : ending ∈ suffixes)
    (hfile : HasFile d entryPoint e ending) (before after : List String) :
    (find? d (before ++ [e]) entryPoint).isSome ∧
      find? d (before ++ e :: after) entryPoint = find? d (before ++ [e]) entryPoint := by
  have hsome : (find? d (before ++ [e]) entryPoint).isSome = true := by
    rw [← Option.ne_none_iff_isSome]
    intro hnone
    exact find?_eq_none_iff.mp hnone e (by simp) ending hending hfile
  refine ⟨hsome, ?_⟩
  rw [← List.singleton_append (l := after), ← List.append_assoc, find?_append,
    Option.or_of_isSome hsome]

/-! ## Whole launches -/

/-- What a search through the entries of a class path comes to. They take the place of the first
element of the search path. -/
inductive Searched (d : Disk) (entries searchPath : List String) (entryPoint : String) :
    Launched → Prop
  | found {file : String} : FirstFile d entries entryPoint file →
    Searched d entries searchPath entryPoint
      (.run file (entries ++ searchPath.drop 1) [entryPoint])
  | missing : (∀ e ∈ entries, ∀ ending ∈ suffixes, ¬HasFile d entryPoint e ending) →
    Searched d entries searchPath entryPoint
      (.notFound ("Error: Could not find or load main module " ++ entryPoint ++ "\n"))

/-- The words that a runtime is given after its own. -/
def wordsOf (runtime classpath : List String) (entryPoint : String) : List String :=
  (runCommand runtime classpath entryPoint).drop runtime.length

theorem wordsOf_eq (runtime classpath : List String) (entryPoint : String) :
    wordsOf runtime classpath entryPoint = ["-cp", joinClasspath classpath, entryPoint] := by
  unfold wordsOf runCommand
  rw [List.drop_left]

theorem searched_launch_iff (hcolon : ∀ e ∈ entries, ':' ∉ e.toList) (searchPath : List String)
    (launched : Launched) :
    launch d searchPath (joinClasspath entries) entryPoint = launched ↔
      Searched d (named entries) searchPath entryPoint launched := by
  unfold launch
  rw [entriesOf_joinClasspath hcolon]
  dsimp only
  cases hfound : find? d (named entries) entryPoint with
  | none =>
    have hnone := find?_eq_none_iff.mp hfound
    constructor
    · rintro rfl
      exact .missing hnone
    · rintro (hfirst | -)
      · cases hfound.symm.trans (find?_eq_some_iff.mpr hfirst)
      · rfl
  | some file =>
    have hfirst := find?_eq_some_iff.mp hfound
    constructor
    · rintro rfl
      exact .found hfirst
    · rintro (hfirst' | hnone)
      · cases hfound.symm.trans (find?_eq_some_iff.mpr hfirst')
        rfl
      · cases hfound.symm.trans (find?_eq_none_iff.mpr hnone)

theorem program_words (d : Disk) (searchPath runtime : List String)
    (hclasspath : (joinClasspath entries).toList.head? ≠ some '-')
    (hentry : entryPoint.toList.head? ≠ some '-') :
    program d searchPath (wordsOf runtime entries entryPoint) =
      .ok (launch d searchPath (joinClasspath entries) entryPoint) := by
  rw [wordsOf_eq, program_command d searchPath hclasspath hentry]

theorem Searched.status?_eq_one_iff {searchPath : List String} {launched : Launched}
    (h : Searched d entries searchPath entryPoint launched) :
    launched.status? = some 1 ↔
      ∀ e ∈ entries, ∀ ending ∈ suffixes, ¬HasFile d entryPoint e ending := by
  cases h with
  | missing hnone => exact iff_of_true rfl hnone
  | found hfirst =>
    refine iff_of_false nofun fun hnone => ?_
    cases (find?_eq_some_iff.mpr hfirst).symm.trans (find?_eq_none_iff.mpr hnone)

/-- A dotted name whose parts are names of files leads from one directory to the next. -/
theorem basePath_of_names {e : String} (he : e ≠ "") (hend : e.toList.getLast? ≠ some '/')
    (hparts : ∀ part ∈ Text.splitString '.' entryPoint, part ≠ "" ∧ '/' ∉ part.toList) :
    basePath e entryPoint = "/".intercalate (e :: Text.splitString '.' entryPoint) :=
  foldl_joinText hparts he hend

theorem ne_empty_of_mem_named {e : String} (h : e ∈ named entries) : e ≠ "" := by
  simpa using (List.mem_filter.mp h).2

/-- For every class path without colons in its entries, every entry point and every disk: the words
that a runtime is given are taken apart again, and the launcher looks through just the entries that
are not empty, in their order, and in each of them for bytecode before a source. It runs the first
regular file that there is, with those entries in place of the first element of the search path; and
its status is 1, with the message that there is none, exactly if no entry has one. So a class path
in two parts is searched through the first and then through the second, and an entry that has any
file at all keeps the later ones from being looked at. -/
theorem a_class_path_is_searched_entry_by_entry (d : Disk) (searchPath runtime : List String)
    (hcolon : ∀ e ∈ entries, ':' ∉ e.toList)
    (hclasspath : (joinClasspath entries).toList.head? ≠ some '-')
    (hentry : entryPoint.toList.head? ≠ some '-') :
    (∃ launched, program d searchPath (wordsOf runtime entries entryPoint) = .ok launched ∧
      (launched.status? = some 1 ↔
        ∀ e ∈ named entries, ∀ ending ∈ suffixes, ¬HasFile d entryPoint e ending)) ∧
    (∀ launched, program d searchPath (wordsOf runtime entries entryPoint) = .ok launched ↔
      Searched d (named entries) searchPath entryPoint launched) ∧
    (∀ file, find? d (named entries) entryPoint = some file ↔
      FirstFile d (named entries) entryPoint file) ∧
    (∀ before after, entries = before ++ after →
      find? d (named entries) entryPoint =
        (find? d (named before) entryPoint).or (find? d (named after) entryPoint)) ∧
    (∀ before e after ending, named entries = before ++ e :: after → ending ∈ suffixes →
      HasFile d entryPoint e ending →
        (find? d (before ++ [e]) entryPoint).isSome ∧
          find? d (named entries) entryPoint = find? d (before ++ [e]) entryPoint) ∧
    ∀ e ∈ named entries, e.toList.getLast? ≠ some '/' →
      (∀ part ∈ Text.splitString '.' entryPoint, part ≠ "" ∧ '/' ∉ part.toList) →
        basePath e entryPoint = "/".intercalate (e :: Text.splitString '.' entryPoint) := by
  have hprogram := program_words d searchPath runtime hclasspath hentry
  have hsearched : Searched d (named entries) searchPath entryPoint
      (launch d searchPath (joinClasspath entries) entryPoint) :=
    (searched_launch_iff hcolon searchPath _).mp rfl
  refine ⟨⟨_, hprogram, hsearched.status?_eq_one_iff⟩, fun launched => ?_,
    fun file => find?_eq_some_iff, ?_, ?_, ?_⟩
  · rw [hprogram, Except.ok.injEq, searched_launch_iff hcolon]
  · rintro before after rfl
    unfold named
    rw [List.filter_append, find?_append]
  · intro before e after ending hsplit hending hfile
    rw [hsplit]
    exact find?_of_hasFile hending hfile before after
  · intro e he hend hparts
    exact basePath_of_names (ne_empty_of_mem_named he) hend hparts

/-- Two directories with a module each, one as a source and the other as bytecode. -/
def moduleDisk : Disk where
  root := .directory 493 0 [
    (['a'], .directory 493 0 [
      (['p'], .directory 493 0 [(['m', '.', 'p', 'y'], .file [] 420 0 0)])]),
    (['b'], .directory 493 0 [
      (['p'], .directory 493 0 [(['m', '.', 'p', 'y', 'c'], .file [] 420 0 0)])])]
  current := []
  scratch := []
  scratchCount := 0
  groupCount := 0
  now := 0

/-- A source in the first directory wins over bytecode in the second one. -/
theorem a_source_of_an_earlier_entry_is_run :
    (∀ e ∈ ["a", "", "b"], ':' ∉ e.toList) ∧
    (joinClasspath ["a", "", "b"]).toList.head? ≠ some '-' ∧ "p.m".toList.head? ≠ some '-' ∧
    HasFile moduleDisk "p.m" "b" ".pyc" ∧
    program moduleDisk ["/here", "/lib"] (wordsOf ["python"] ["a", "", "b"] "p.m") =
      .ok (.run "a/p/m.py" ["a", "b", "/lib"] ["p.m"]) := by
  have hcolon : ∀ e ∈ ["a", "", "b"], ':' ∉ e.toList := by decide
  have hclasspath : (joinClasspath ["a", "", "b"]).toList.head? ≠ some '-' := by decide
  have hentry : "p.m".toList.head? ≠ some '-' := by decide
  have hnone : ¬HasFile moduleDisk "p.m" "a" ".pyc" := by
    unfold HasFile
    decide +kernel
  have hfile : HasFile moduleDisk "p.m" "a" ".py" := by
    unfold HasFile
    decide +kernel
  obtain ⟨-, hlaunched, -⟩ := a_class_path_is_searched_entry_by_entry moduleDisk ["/here", "/lib"]
    ["python"] hcolon hclasspath hentry
  refine ⟨hcolon, hclasspath, hentry, by unfold HasFile; decide +kernel, ?_⟩
  refine (hlaunched (.run "a/p/m.py" ["a", "b", "/lib"] ["p.m"])).mpr (.found ?_)
  refine ⟨[], "a", ["b"], [".pyc"], ".py", [], by decide, rfl, by decide, hfile, ?_, nofun⟩
  rintro _ (_ | ⟨_, ⟨⟩⟩)
  exact hnone

end Launch

end Worksheet
