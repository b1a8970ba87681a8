-- Where sources are written. A name without a slash is that of an entry of the directory, and all
-- that a call changes is there; with a slash it is a path of its own, and leads below the directory
-- or away from it.
import Worksheet.Proofs.RootedPaths
import Worksheet.Proofs.SourceFiles

namespace Worksheet

open Text (Octets Points)

/-! ## Names that are joined to a directory -/

namespace Path

variable {p : Path} {s : String}

/-- No component of a path is a text with a slash. -/
theorem name_joinString_ne (hparts : (ofString s).parts ≠ []) (hslash : '/' ∈ s.toList) :
    (p.joinString s).name ≠ s := by
  have hlast : (p.joinString s).name = (ofString s).parts.getLast hparts := by
    unfold joinString join name
    split
    · rw [List.getLast?_eq_some_getLast hparts]
      rfl
    · rw [List.getLast?_append_of_ne_nil _ hparts, List.getLast?_eq_some_getLast hparts]
      rfl
  intro heq
  have hcomponent := isNormal_ofString s _ (List.getLast_mem hparts)
  rw [← hlast, heq] at hcomponent
  exact hcomponent.2.2 hslash

theorem joinString_of_leading_slash (h : s.toList.head? = some '/') :
    p.joinString s = ofString s ∧ (ofString s).isAbsolute = true := by
  have habsolute : (ofString s).isAbsolute = true := by
    obtain ⟨rest, hrest⟩ := List.head?_eq_some_iff.mp h
    unfold ofString ofChars isAbsolute anchorOf
    rw [hrest, List.takeWhile_cons_of_pos (by decide), List.length_cons]
    generalize (rest.takeWhile fun c => decide (c = '/')).length = n
    rcases n with _ | _ | n <;> rfl
  refine ⟨?_, habsolute⟩
  unfold joinString join
  rw [if_pos habsolute]

/-- The first piece of a text that does not open with a separator is not empty. -/
theorem exists_first_piece {cs : List Char} {init : List (List Char)} {last : List Char}
    (hinit : init ≠ []) (hsplit : ['/'].intercalate (init ++ [last]) = cs)
    (hfirst : cs.head? ≠ some '/') : ∃ c piece, c :: piece ∈ init ∧ c ∈ cs := by
  obtain ⟨first, more, rfl⟩ := List.exists_cons_of_ne_nil hinit
  rw [List.cons_append, List.intercalate_cons_of_ne_nil (by simp)] at hsplit
  subst hsplit
  cases first with
  | nil => exact absurd rfl hfirst
  | cons c piece => exact ⟨c, piece, List.mem_cons_self .., List.mem_cons_self ..⟩

/-- A text with a slash inside, and no points, leads down from a directory. -/
theorem joinString_of_inner_slash {ending : String} (hinner : '/' ∈ s.toList)
    (hfirst : s.toList.head? ≠ some '/') (hpoint : '.' ∉ s.toList)
    (hending : '/' ∉ ending.toList) (hlong : 2 ≤ ending.toList.length) (p : Path) :
    ∃ down last, down ≠ [] ∧ ".." ∉ down ∧
      p.joinString (s ++ ending) = ⟨p.anchor, p.parts ++ (down ++ [last])⟩ := by
  obtain ⟨init, hinit, hsplit, hparts⟩ := exists_pieces_ofString s hending hlong
  have hnil : init ≠ [] := by
    rintro rfl
    have hlength := Text.length_split '/' (s ++ ending).toList
    have hcount := List.count_pos_iff.mpr (List.mem_append_left ending.toList hinner)
    rw [hsplit, String.toList_append, List.nil_append, List.length_singleton] at hlength
    omega
  have hhead : (s ++ ending).toList.head? ≠ some '/' := by
    rwa [String.toList_append, List.head?_append_of_ne_nil _ (List.ne_nil_of_mem hinner)]
  have hnames : ∀ piece ∈ init, '.' ∉ piece := fun piece hpiece hmem =>
    hpoint (Text.mem_of_mem_split (hinit piece hpiece) hmem)
  obtain ⟨c, piece, hfirst, -⟩ :=
    exists_first_piece hnil (hsplit ▸ Text.intercalate_split '/' (s ++ ending).toList) hhead
  have hcomponent : isComponent (c :: piece) = true := by
    have hne : c :: piece ≠ ['.'] := fun heq => hnames _ hfirst (heq ▸ List.mem_singleton_self '.')
    simp [isComponent, hne]
  refine ⟨(init.filter isComponent).map String.ofList,
    String.ofList (Text.afterLast '/' s.toList) ++ ending, ?_, fun hup => ?_, ?_⟩
  · exact List.ne_nil_of_mem (List.mem_map_of_mem (List.mem_filter.mpr ⟨hfirst, hcomponent⟩))
  · obtain ⟨piece, hpiece, heq⟩ := List.mem_map.mp hup
    refine hnames piece (List.mem_filter.mp hpiece).1 ?_
    have hpoints : piece = ['.', '.'] := by simpa using congrArg String.toList heq
    rw [hpoints]
    decide
  · have hanchor : (ofString (s ++ ending)).anchor = .current := anchorOf_text .current _ hhead
    unfold joinString join isAbsolute
    rw [hanchor, if_neg (by decide), hparts]

end Path

namespace Disk

variable {d : Disk} {directory : Path} {name : String} {q : Place}

/-- A path that ends in a name leads through its directory, and to the entry there, unless a link
has the name. -/
theorem exists_base_of_locateWith (hdirectory : directory.IsNormal) (hname : IsComponent name)
    (hpoints : name ≠ "..")
    (h : d.locateWith true d.current (directory.joinString name).way.octets = .ok q) :
    ∃ base, d.LeadsTo directory base ∧
      ((∀ target time, d.node? (base ++ [Octets.ofString name]) ≠ some (.link target time)) →
        q = base ++ [Octets.ofString name]) := by
  obtain ⟨hne, hpoint, hslash⟩ := hname
  have hnames : AreNames [Octets.ofString name] := by
    refine ⟨fun c hc => ?_, fun c hc => ?_⟩ <;> rw [List.mem_singleton.mp hc]
    · exact ⟨mt Octets.ofString_eq_nil_iff.mp hne,
        mt (Octets.mem_of_mem_ofString (by decide)) hslash⟩
    · exact ⟨fun heq => hpoint (Octets.ofString_inj.mp (heq.trans (by decide))),
        fun heq => hpoints (Octets.ofString_inj.mp (heq.trans (by decide)))⟩
  have hway : (directory.joinString name).way =
      Artifacts.wayBelow directory [Octets.ofString name] := by
    rw [Path.joinString_eq ⟨hne, hpoint, hslash⟩]
    simp [Path.way, Artifacts.wayBelow]
  rw [hway] at h
  obtain ⟨base, k, hleads, hreaches⟩ :=
    exists_leadsTo hdirectory hnames.named (List.cons_ne_nil _ _) h
  refine ⟨base, hleads, fun hlink => hreaches.eq_of_names hnames.names ?_⟩
  intro further target time hup hfurther
  rcases List.prefix_concat_iff.mp (show further <+: [] ++ [Octets.ofString name] from hup) with
    rfl | hnil
  · exact hlink target time
  · exact absurd (List.prefix_nil.mp hnil) hfurther

end Disk

/-! ## Where a source lies -/

namespace Materializer

variable {m : Materializer} {entryPoint : String} {source : Points} {d d' : Disk}
  {w : Materialized}

/-- The directory of the sources, as it is configured or else the current one. -/
def directoryFor (m : Materializer) (d : Disk) : Path := m.directory.getD d.currentPath

theorem isComponent_fileName_iff (m : Materializer) (name : String) :
    IsComponent (m.fileName name) ↔ '/' ∉ (m.fileName name).toList := by
  have hne : ∀ other : String, '$' ∉ other.toList → m.fileName name ≠ other := by
    rintro other hother heq
    exact hother (heq ▸ m.dollar_mem_fileName name)
  exact ⟨fun h => h.2.2, fun h => ⟨hne "" (by decide), hne "." (by decide), h⟩⟩

/-- A simple name has no point. -/
theorem point_not_mem_simpleName (entryPoint : String) : '.' ∉ (simpleName entryPoint).toList := by
  unfold simpleName
  rw [String.toList_ofList]
  exact Text.not_mem_afterLast '.' _

/-- What a name gets behind it. -/
def ending (m : Materializer) : String := instrumentedSuffix ++ "." ++ m.extension

theorem fileName_eq (m : Materializer) (name : String) : m.fileName name = name ++ m.ending := by
  unfold fileName ending
  rw [String.append_assoc, String.append_assoc, String.append_assoc]

theorem two_le_ending (m : Materializer) : 2 ≤ m.ending.toList.length := by
  have hsuffix : 2 ≤ instrumentedSuffix.toList.length := by decide
  unfold ending
  rw [String.toList_append, String.toList_append, List.length_append, List.length_append]
  omega

theorem slash_not_mem_ending (h : '/' ∉ m.extension.toList) : '/' ∉ m.ending.toList := by
  have hsuffix : '/' ∉ (instrumentedSuffix ++ ".").toList := by decide
  unfold ending
  rw [String.toList_append]
  exact List.not_mem_append hsuffix h

/-- A source lies directly in a directory: its path has this directory for a parent and ends in the
name, and it leads to the entry of the directory, unless a link has the name. -/
structure LiesIn (d : Disk) (directory : Path) (name : String) (path : Path) (q : Place) :
    Prop where
  parent : path.parent = directory
  named : path.name = name
  entry : ∃ base, d.LeadsTo directory base ∧
    ((∀ target time, d.node? (base ++ [Octets.ofString name]) ≠ some (.link target time)) →
      q = base ++ [Octets.ofString name])

/-- All that a call changes is the file that the path of its source leads to. It lies directly in
the directory of the sources, under the name that is made of the simple name, just if there is no
slash in this name. A slash in front makes a path that has nothing to do with the directory, and one
behind it leads into directories below. -/
theorem a_source_lies_in_its_directory_unless_its_name_has_a_slash
    (hcurrent : d.currentPath.IsNormal)
    (hdirectory : ∀ directory, m.directory = some directory → directory.IsNormal)
    (h : m.materialize entryPoint source d = (.ok w, d')) :
    ∃ q, d.locateWith true d.current w.path.way.octets = .ok q ∧
      (∀ p, ¬d.SameFile q p → d'.face? p = d.face? p) ∧
      (LiesIn d (m.directoryFor d) (m.fileName (simpleName entryPoint)) w.path q ↔
        '/' ∉ (m.fileName (simpleName entryPoint)).toList) ∧
      ((simpleName entryPoint).toList.head? = some '/' →
        w.path = .ofString (m.fileName (simpleName entryPoint)) ∧ w.path.isAbsolute = true) ∧
      ('/' ∈ (simpleName entryPoint).toList → (simpleName entryPoint).toList.head? ≠ some '/' →
        '/' ∉ m.extension.toList → ∃ down last, down ≠ [] ∧ ".." ∉ down ∧
          w.path = ⟨(m.directoryFor d).anchor, (m.directoryFor d).parts ++ (down ++ [last])⟩) := by
  rcases materialize_cases hcurrent hdirectory h with
    ⟨w', hw, -, hpath, cs, q, -, hleads, -, -, hothers⟩ | ⟨⟨fault, hfault⟩, -⟩
  · cases hw
    have hnormal : (m.directoryFor d).IsNormal := by
      unfold directoryFor
      cases hm : m.directory with
      | none => exact hcurrent
      | some directory => exact hdirectory directory hm
    have hwpath : w.path = (m.directoryFor d).joinString (m.fileName (simpleName entryPoint)) := by
      unfold sourcePath at hpath
      dsimp only at hpath
      split at hpath
      · cases hpath
      · exact (Except.ok.inj hpath).symm
    have hdollar := m.dollar_mem_fileName (simpleName entryPoint)
    have hparts := Path.parts_ofString_ne_nil hdollar (by decide) (by decide)
    refine ⟨q, hleads, hothers, ⟨fun hlies hslash => ?_, fun hslash => ?_⟩, fun hhead => ?_,
      fun hinner hhead hextension => ?_⟩
    · exact Path.name_joinString_ne hparts hslash (hwpath ▸ hlies.named)
    · have hcomponent := (m.isComponent_fileName_iff _).mpr hslash
      have hpoints : m.fileName (simpleName entryPoint) ≠ ".." := fun heq => by
        rw [heq] at hdollar
        exact absurd hdollar (by decide)
      have hjoin := Path.joinString_eq hcomponent (m.directoryFor d)
      refine ⟨?_, ?_, Disk.exists_base_of_locateWith hnormal hcomponent hpoints (hwpath ▸ hleads)⟩
      · rw [hwpath, hjoin, Path.parent, List.dropLast_concat]
      · rw [hwpath, hjoin, Path.name, List.getLast?_concat]
        rfl
    · have hfirst : (m.fileName (simpleName entryPoint)).toList.head? = some '/' := by
        rw [fileName_eq, String.toList_append, List.head?_append, hhead]
        rfl
      obtain ⟨hjoin, habsolute⟩ := Path.joinString_of_leading_slash (p := m.directoryFor d) hfirst
      rw [hwpath, hjoin]
      exact ⟨rfl, habsolute⟩
    · rw [hwpath, fileName_eq]
      exact Path.joinString_of_inner_slash hinner hhead (point_not_mem_simpleName entryPoint)
        (slash_not_mem_ending hextension) m.two_le_ending _
  · cases hfault

/-- A name without a slash stays in the directory. -/
theorem a_plain_name_stays_in_its_directory :
    ∃ w d' q, sampleMaterializer.materialize "p.k" (.ofString "x") sourceDisk = (.ok w, d') ∧
      LiesIn sourceDisk (.ofString "s") "k$instrumented.py" w.path q ∧
      ∀ p, ¬sourceDisk.SameFile q p → d'.face? p = sourceDisk.face? p := by
  have hok : (sampleMaterializer.materialize "p.k" (.ofString "x") sourceDisk).1 =
      .ok ⟨.ofString "s/k$instrumented.py", "k"⟩ := by decide +kernel
  generalize hcall : sampleMaterializer.materialize "p.k" (.ofString "x") sourceDisk = ended at hok
  obtain ⟨r, d'⟩ := ended
  obtain rfl := hok
  obtain ⟨q, -, hothers, hlies, -⟩ := a_source_lies_in_its_directory_unless_its_name_has_a_slash
    (fun _ hpart => absurd hpart List.not_mem_nil)
    (by rintro _ ⟨⟩; exact Path.isNormal_ofString "s") hcall
  exact ⟨_, d', q, rfl, hlies.mpr (by decide), hothers⟩

/-- A slash inside a name leads into a directory below, and one in front leads to the root. -/
theorem a_slash_leads_out_of_the_directory :
    (∃ w d', sampleMaterializer.materialize "b/k" (.ofString "x") sourceDisk = (.ok w, d') ∧
      w.path.parent = .ofString "s/b" ∧ d'.readFile w.path.way.octets = .ok ([0x78], 0)) ∧
    ∃ w d', sampleMaterializer.materialize "/k" (.ofString "x") sourceDisk = (.ok w, d') ∧
      w.path.parent = .ofString "/" ∧ d'.readFile w.path.way.octets = .ok ([0x78], 0) := by
  have hinner : (sampleMaterializer.materialize "b/k" (.ofString "x") sourceDisk).1 =
      .ok ⟨.ofString "s/b/k$instrumented.py", "b/k"⟩ := by decide +kernel
  have hfront : (sampleMaterializer.materialize "/k" (.ofString "x") sourceDisk).1 =
      .ok ⟨.ofString "/k$instrumented.py", "/k"⟩ := by decide +kernel
  exact ⟨⟨_, _, Prod.ext hinner rfl, by decide, by decide +kernel⟩,
    ⟨_, _, Prod.ext hfront rfl, by decide, by decide +kernel⟩⟩

end Materializer

end Worksheet
