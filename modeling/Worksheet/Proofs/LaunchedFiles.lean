-- The file that a launch runs. The launcher understands the command that is built for it, the first
-- entry of the class path is looked at first, and the path that is tried there is the path of the
-- module's bytecode file.
import Worksheet.Launch.Program
import Worksheet.Proofs.ModuleFiles
import Worksheet.Request

namespace Worksheet

open Text (Octets)

/-! ## Texts of paths -/

theorem Text.Octets.ofString_intercalate (sep : String) (parts : List String) :
    ofString (sep.intercalate parts) = (ofString sep).intercalate (parts.map ofString) := by
  induction parts with
  | nil => rw [String.intercalate_nil]; rfl
  | cons part parts ih =>
    cases parts with
    | nil => simp
    | cons next parts =>
      rw [String.intercalate_cons_cons, ofString_append, ofString_append, ih]
      exact List.intercalate_cons_cons.symm

namespace Path

/-- A path is given to the system as its text is encoded. -/
theorem octets_way (p : Path) : p.way.octets = Octets.ofString p.text := by
  obtain ⟨anchor, parts⟩ := p
  have hanchor : Octets.ofString anchor.text = anchor.text.toList := by cases anchor <;> decide
  have hslash : Octets.ofString "/" = ['/'] := by decide
  unfold way Way.octets text
  by_cases hpoint : anchor = .current ∧ parts = []
  · rw [if_pos hpoint, if_pos ⟨hpoint.1, by rw [hpoint.2]; rfl⟩]
    decide
  · rw [if_neg hpoint, if_neg (by simpa using hpoint), Text.Octets.ofString_append, hanchor,
      Text.Octets.ofString_intercalate, hslash]

theorem text_of_parts {p : Path} (hne : p.parts ≠ []) :
    p.text = p.anchor.text ++ "/".intercalate p.parts := by
  unfold text
  rw [if_neg (by simp [hne])]

end Path

/-- A module's name is no option. -/
theorem Settings.head?_of_isModuleName {module : String}
    (h : Settings.isModuleName module = true) : module.toList.head? ≠ some '-' := by
  intro hhead
  have hmem := List.mem_of_head? hhead
  rw [← Text.intercalate_split '.' module.toList,
    Text.mem_intercalate_of_ne (by decide)] at hmem
  obtain ⟨p, hp, hdash⟩ := hmem
  exact not_mem_of_isIdentifier (by decide) (List.all_eq_true.mp h p hp) hdash

/-! ## The command line -/

namespace CommandLine

/-- A word that does not open with a dash is no option, whatever the grammar. -/
theorem tokens_word (g : Grammar) {word : String} (h : word.toList.head? ≠ some '-')
    (rest : List String) : tokens g (word :: rest) = (tokens g rest).map (.word word :: ·) := by
  have hseparator : word ≠ "--" := by
    rintro rfl
    exact h rfl
  have htoken : tokenOf g word = .ok (.word word) := by
    unfold tokenOf
    split
    next c rest hopens => exact absurd (by rw [hopens]; rfl) h
    next => rfl
  rw [tokens, if_neg hseparator, htoken]

end CommandLine

namespace Launch

open CommandLine

/-- The parameter of the class path. -/
def classpathParameter : Parameter :=
  ⟨["-cp", "-classpath"], "classpath", .text (some ""), false, ""⟩

theorem tokens_classpath (rest : List String) :
    tokens grammar ("-cp" :: rest) =
      (tokens grammar rest).map (.option "-cp" (.known classpathParameter "-cp" none) :: ·) := by
  have htoken : tokenOf grammar "-cp" =
      .ok (.option "-cp" (.known classpathParameter "-cp" none)) := rfl
  rw [tokens, if_neg (by decide), htoken]

/-- The launcher takes the command of a run apart: a class path and an entry point. -/
theorem program_command (d : Disk) (searchPath : List String) {classpath entryPoint : String}
    (hclasspath : classpath.toList.head? ≠ some '-') (hentry : entryPoint.toList.head? ≠ some '-') :
    program d searchPath ["-cp", classpath, entryPoint] =
      .ok (launch d searchPath classpath entryPoint) := by
  have htokens : tokens grammar ["-cp", classpath, entryPoint] =
      .ok [.option "-cp" (.known classpathParameter "-cp" none), .word classpath,
        .word entryPoint] := by
    rw [tokens_classpath, tokens_word _ hclasspath, tokens_word _ hentry]
    rfl
  have hread : CommandLine.read grammar ["-cp", classpath, entryPoint] =
      .ok [("classpath", .text classpath), ("entry_point", .text entryPoint)] := by
    unfold CommandLine.read readKnown
    rw [htokens]
    rfl
  unfold program
  rw [hread]
  rfl

/-! ## The class path -/

/-- A name is joined to a directory with a slash, unless there is one at the end. -/
theorem joinText_name {base part : String} (hbase : base ≠ "")
    (hend : base.toList.getLast? ≠ some '/') (hpart : part.toList.head? ≠ some '/') :
    joinText base part = base ++ "/" ++ part := by
  unfold joinText
  rw [if_neg hpart, if_neg (by simp [hbase, hend])]

theorem foldl_joinText {parts : List String}
    (hparts : ∀ part ∈ parts, part ≠ "" ∧ '/' ∉ part.toList) {base : String} (hbase : base ≠ "")
    (hend : base.toList.getLast? ≠ some '/') :
    parts.foldl joinText base = "/".intercalate (base :: parts) := by
  induction parts generalizing base with
  | nil => simp
  | cons part parts ih =>
    obtain ⟨hne, hslash⟩ := hparts part (List.mem_cons_self ..)
    have hhead : part.toList.head? ≠ some '/' := fun hhead => hslash (List.mem_of_head? hhead)
    have hlast : (base ++ "/" ++ part).toList.getLast? ≠ some '/' := by
      have hnil : part.toList ≠ [] := mt String.toList_eq_nil_iff.mp hne
      rw [String.toList_append, List.getLast?_append, List.getLast?_eq_some_getLast hnil]
      exact fun hlast => hslash (Option.some.inj hlast ▸ List.getLast_mem hnil)
    rw [List.foldl_cons, joinText_name hbase hend hhead,
      ih (fun other hother => hparts other (List.mem_cons_of_mem _ hother)) (by simp) hlast,
      String.intercalate_cons_cons]
    cases parts with
    | nil => simp
    | cons next parts =>
      rw [String.intercalate_cons_cons, String.intercalate_cons_cons]
      simp only [String.append_assoc]

end Launch

end Worksheet
