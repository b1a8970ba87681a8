-- Names of sources and of bytecode files. The last component of a source is made of a simple name,
-- the components of a bytecode file are the parts of a module's name, and the file is the same
-- whether it is written below a directory or exported to it.
import Worksheet.Compile.Bytecode
import Worksheet.Materialize
import Worksheet.Proofs.PathForm

namespace Worksheet

open Text (Bytes Octets Points)

/-! ## The last piece of a text -/

namespace Text

theorem takeWhile_eq_self {sep : Char} {cs : List Char} (h : sep ∉ cs) :
    cs.takeWhile (· ≠ sep) = cs := by
  rw [← List.append_nil cs, List.takeWhile_append_of_pos]
  · simp
  · intro c hc
    have hne : c ≠ sep := by
      rintro rfl
      exact h hc
    simpa using hne

/-- What follows the last separator is the last piece. -/
theorem split_eq_append (sep : Char) (cs : List Char) :
    ∃ init, split sep cs = init ++ [afterLast sep cs] := by
  rw [split_eq_splitOn]
  by_cases hmem : sep ∈ cs.reverse
  · obtain ⟨after, before, hcs, hafter⟩ := List.eq_append_cons_of_mem hmem
    have hcut : cs = before.reverse ++ sep :: after.reverse := by
      rw [← List.reverse_reverse cs, hcs]
      simp
    have hlast : afterLast sep cs = after.reverse := by
      unfold afterLast
      rw [hcs, List.takeWhile_append, takeWhile_eq_self hafter]
      simp
    have hpiece : after.reverse.splitOn sep = [after.reverse] :=
      List.splitOn_eq_singleton fun hback => hafter (List.mem_reverse.mp hback)
    refine ⟨before.reverse.splitOn sep, ?_⟩
    rw [hlast, hcut, List.splitOn_append_cons_self, hpiece]
  · have hlast : afterLast sep cs = cs := by
      unfold afterLast
      rw [takeWhile_eq_self hmem, List.reverse_reverse]
    refine ⟨[], ?_⟩
    rw [hlast, List.splitOn_eq_singleton fun hback => hmem (List.mem_reverse.mpr hback)]
    rfl

theorem not_mem_afterLast (sep : Char) (cs : List Char) : sep ∉ afterLast sep cs := by
  obtain ⟨init, hsplit⟩ := split_eq_append sep cs
  have hlast : afterLast sep cs ∈ split sep cs := by
    rw [hsplit]
    simp
  exact not_mem_of_mem_split hlast

theorem intercalate_split {α : Type} [DecidableEq α] (sep : α) (cs : List α) :
    [sep].intercalate (split sep cs) = cs := by
  rw [split_eq_splitOn, List.intercalate_splitOn]

/-- An ending belongs to the last piece. -/
theorem intercalate_append_ending (sep : Char) (init : List (List Char)) (last ending : List Char) :
    [sep].intercalate (init ++ [last ++ ending]) =
      [sep].intercalate (init ++ [last]) ++ ending := by
  induction init with
  | nil => simp
  | cons p init ih =>
    rw [List.cons_append, List.cons_append, List.intercalate_cons_of_ne_nil (by simp),
      List.intercalate_cons_of_ne_nil (by simp), ih]
    simp

theorem map_intercalate {α β : Type} (f : α → β) (sep : α) (pieces : List (List α)) :
    ([sep].intercalate pieces).map f = [f sep].intercalate (pieces.map (List.map f)) := by
  induction pieces with
  | nil => rfl
  | cons p pieces ih =>
    cases pieces with
    | nil => simp
    | cons q pieces =>
      rw [List.intercalate_cons_cons, List.map_cons, List.map_cons, List.intercalate_cons_cons,
        ← List.map_cons, ← ih]
      simp

theorem mem_intercalate_of_ne {α : Type} {c sep : α} (hne : c ≠ sep) (pieces : List (List α)) :
    c ∈ [sep].intercalate pieces ↔ ∃ piece ∈ pieces, c ∈ piece := by
  induction pieces with
  | nil => simp
  | cons piece pieces ih =>
    cases pieces with
    | nil => simp
    | cons other pieces =>
      rw [List.intercalate_cons_cons]
      simp [hne, ih]

/-- With one separator in the place of another, the pieces are the same. -/
theorem map_swap {α : Type} [DecidableEq α] (sep other : α) (cs : List α) :
    cs.map (fun c => if c = sep then other else c) = [other].intercalate (split sep cs) := by
  have hkept : ∀ p ∈ split sep cs, p.map (fun c => if c = sep then other else c) = p := by
    intro p hp
    refine (List.map_congr_left fun c hc => if_neg ?_).trans (List.map_id p)
    rintro rfl
    exact not_mem_of_mem_split hp hc
  conv => lhs; rw [← intercalate_split sep cs]
  rw [map_intercalate, if_pos rfl, List.map_congr_left hkept, List.map_id']

/-- The pieces of a text to which an ending is added. -/
theorem split_append_ending {sep : Char} (cs : List Char) {ending : List Char}
    (h : sep ∉ ending) :
    ∃ init, (∀ p ∈ init, p ∈ split sep cs) ∧
      split sep (cs ++ ending) = init ++ [afterLast sep cs ++ ending] := by
  obtain ⟨init, hsplit⟩ := split_eq_append sep cs
  refine ⟨init, fun p hp => by rw [hsplit]; exact List.mem_append_left _ hp, ?_⟩
  have hfree : ∀ p ∈ init ++ [afterLast sep cs ++ ending], sep ∉ p := by
    intro p hp
    rcases List.mem_append.mp hp with hinit | hlast
    · have hpiece : p ∈ split sep cs := by
        rw [hsplit]
        exact List.mem_append_left _ hinit
      exact not_mem_of_mem_split hpiece
    · rw [List.mem_singleton.mp hlast]
      exact List.not_mem_append (not_mem_afterLast sep cs) h
  have hcs : cs ++ ending = [sep].intercalate (init ++ [afterLast sep cs ++ ending]) := by
    rw [intercalate_append_ending, ← hsplit, intercalate_split]
  rw [split_eq_splitOn, hcs]
  exact List.splitOn_intercalate sep hfree (by simp)

end Text

/-! ## Identifiers -/

/-- A name of a file that stands for itself, in a path and among artifacts. -/
def IsFileName (part : String) : Prop :=
  IsComponent part ∧ part ≠ ".." ∧ '\\' ∉ part.toList

theorem not_mem_of_isIdentifier {c : Char} (hsep : c ∈ ['.', '/', '\\', '-'])
    {cs : List Char} (hcs : Text.isIdentifier cs = true) : c ∉ cs := by
  have h := Text.continuesIdentifier_of_separator hsep
  intro hc
  unfold Text.isIdentifier at hcs
  cases cs with
  | nil => cases hcs
  | cons b cs =>
    obtain ⟨hfirst, hrest⟩ := Bool.and_eq_true_iff.mp hcs
    rcases List.mem_cons.mp hc with rfl | hmem
    · unfold Text.continuesIdentifier at h
      unfold Text.startsIdentifier at hfirst
      rw [hfirst] at h
      cases h
    · rw [List.all_eq_true.mp hrest c hmem] at h
      cases h

/-- An identifier, with or without an ending, is a name of a file. -/
theorem isFileName_of_isIdentifier {cs : List Char} (h : Text.isIdentifier cs = true)
    {ending : List Char} (hslash : '/' ∉ ending) (hback : '\\' ∉ ending) :
    IsFileName (String.ofList (cs ++ ending)) := by
  have hpoint : '.' ∉ cs := not_mem_of_isIdentifier (by decide) h
  obtain ⟨b, rest, rfl⟩ : ∃ b rest, cs = b :: rest := by
    cases cs with
    | nil => cases h
    | cons b rest => exact ⟨b, rest, rfl⟩
  have hb : b ≠ '.' := fun heq => hpoint (heq ▸ List.mem_cons_self ..)
  have hne : ∀ other : String, other.toList.head? ≠ some b →
      String.ofList (b :: rest ++ ending) ≠ other := by
    rintro other hother rfl
    exact hother (by simp)
  have hfirst : ∀ other : String, other.toList.head? = some '.' →
      other.toList.head? ≠ some b := by
    intro other hother hsame
    exact hb (Option.some.inj (hsame.symm.trans hother))
  refine ⟨⟨hne _ (by simp), hne _ (hfirst _ rfl), ?_⟩, hne _ (hfirst _ rfl), ?_⟩
  · rw [String.toList_ofList]
    exact List.not_mem_append (not_mem_of_isIdentifier (by decide) h) hslash
  · rw [String.toList_ofList]
    exact List.not_mem_append (not_mem_of_isIdentifier (by decide) h) hback

theorem Path.joinString_eq {part : String} (h : IsComponent part) (p : Path) :
    p.joinString part = ⟨p.anchor, p.parts ++ [part]⟩ := by
  have hnormal : (⟨.current, [part]⟩ : Path).IsNormal := by
    intro other hother
    rw [List.mem_singleton.mp hother]
    exact h
  have htext : (⟨.current, [part]⟩ : Path).text = part := by
    simp [Path.text, Anchor.text]
  have hread := Path.ofString_text hnormal
  rw [htext] at hread
  unfold Path.joinString Path.join
  rw [hread]
  rfl

/-- Names lead on from a place as they are. -/
theorem Place.settle_names {parts : List String}
    (h : ∀ part ∈ parts, part ≠ "" ∧ part ≠ "." ∧ part ≠ "..") (start : Place) :
    start.settle (parts.map Octets.ofString) = start ++ parts.map Octets.ofString := by
  induction parts generalizing start with
  | nil => simp [settle]
  | cons part parts ih =>
    obtain ⟨hne, hpoint, hpoints⟩ := h part (List.mem_cons_self ..)
    have hfirst : Octets.ofString part ≠ [] := fun hnil =>
      hne (Octets.ofString_eq_nil_iff.mp hnil)
    have hsecond : Octets.ofString part ≠ ['.'] := fun heq =>
      hpoint (Octets.ofString_inj.mp (heq.trans (by decide)))
    have hthird : Octets.ofString part ≠ ['.', '.'] := fun heq =>
      hpoints (Octets.ofString_inj.mp (heq.trans (by decide)))
    rw [List.map_cons, settle_name _ _ hfirst hsecond hthird,
      ih fun other hother => h other (List.mem_cons_of_mem _ hother)]
    simp

/-! ## Files of modules -/

namespace Bytecode

/-- The file of a module is named after the last part of the module's name. -/
theorem moduleParts_eq {module : String} (h : Settings.isModuleName module = true) :
    ∃ init, moduleParts module = init ++ [simpleName module ++ ".pyc"] ∧
      ∀ part ∈ moduleParts module, IsFileName part := by
  have hpieces : ∀ p ∈ Text.split '.' module.toList, Text.isIdentifier p = true :=
    List.all_eq_true.mp h
  obtain ⟨init, hsplit⟩ := Text.split_eq_append '.' module.toList
  have hslash : ∀ p ∈ Text.split '.' module.toList, '/' ∉ p := fun p hp =>
    not_mem_of_isIdentifier (by decide) (hpieces p hp)
  have hlast : ∀ p ∈ init ++ [Text.afterLast '.' module.toList ++ ".pyc".toList], '/' ∉ p := by
    intro p hp
    rcases List.mem_append.mp hp with hinit | hend
    · exact hslash p (by rw [hsplit]; exact List.mem_append_left _ hinit)
    · rw [List.mem_singleton.mp hend]
      exact List.not_mem_append (hslash _ (by rw [hsplit]; simp)) (by decide)
  have hparts : moduleParts module =
      (init ++ [Text.afterLast '.' module.toList ++ ".pyc".toList]).map String.ofList := by
    unfold moduleParts Text.splitString
    rw [String.toList_append, String.toList_ofList, Text.map_swap, hsplit,
      ← Text.intercalate_append_ending, Text.split_eq_splitOn,
      List.splitOn_intercalate '/' hlast (by simp)]
  refine ⟨init.map String.ofList, ?_, ?_⟩
  · rw [hparts]
    simp [simpleName, String.ofList_append]
  · rw [hparts]
    intro part hpart
    obtain ⟨p, hp, rfl⟩ := List.mem_map.mp hpart
    rcases List.mem_append.mp hp with hinit | hend
    · have hidentifier := hpieces p (by rw [hsplit]; exact List.mem_append_left _ hinit)
      rw [← List.append_nil p]
      exact isFileName_of_isIdentifier hidentifier List.not_mem_nil List.not_mem_nil
    · rw [List.mem_singleton.mp hend]
      exact isFileName_of_isIdentifier (hpieces _ (by rw [hsplit]; simp)) (by decide) (by decide)

theorem moduleFile_eq {module : String} (h : Settings.isModuleName module = true)
    (directory : Path) :
    moduleFile directory module = ⟨directory.anchor, directory.parts ++ moduleParts module⟩ := by
  obtain ⟨-, -, hnames⟩ := moduleParts_eq h
  unfold moduleFile
  generalize moduleParts module = parts at hnames
  induction parts generalizing directory with
  | nil => simp
  | cons part parts ih =>
    rw [List.foldl_cons, Path.joinString_eq (hnames part (List.mem_cons_self ..)).1,
      ih _ fun other hother => hnames other (List.mem_cons_of_mem _ hother)]
    simp

/-- Where it lies: below the place of its directory, by the parts of the module's name. -/
theorem destination_moduleFile {module : String} (h : Settings.isModuleName module = true)
    (directory : Path) (current : Place) :
    (moduleFile directory module).way.destination current =
      directory.way.destination current ++ (moduleParts module).map Octets.ofString := by
  obtain ⟨-, -, hnames⟩ := moduleParts_eq h
  rw [moduleFile_eq h]
  unfold Path.way Way.destination
  rw [List.map_append, Place.settle_append, Place.settle_names fun part hpart =>
    let hname := hnames part hpart
    ⟨hname.1.1, hname.1.2.1, hname.2.1⟩]

end Bytecode

/-! ## Sources -/

namespace Path

/-- The pieces of a text with an ending, and the components of its path. -/
theorem exists_pieces_ofString (s : String) {ending : String} (hslash : '/' ∉ ending.toList)
    (hlong : 2 ≤ ending.toList.length) :
    ∃ init, (∀ piece ∈ init, piece ∈ Text.split '/' s.toList) ∧
      Text.split '/' (s ++ ending).toList =
        init ++ [Text.afterLast '/' s.toList ++ ending.toList] ∧
      (ofString (s ++ ending)).parts = (init.filter isComponent).map String.ofList ++
        [String.ofList (Text.afterLast '/' s.toList) ++ ending] := by
  obtain ⟨init, hinit, hsplit⟩ := Text.split_append_ending s.toList hslash
  have hkept : isComponent (Text.afterLast '/' s.toList ++ ending.toList) = true := by
    have hne : ∀ other : List Char, other.length < 2 →
        Text.afterLast '/' s.toList ++ ending.toList ≠ other := by
      rintro other hother rfl
      rw [List.length_append] at hother
      omega
    simp [isComponent, hne [] (by decide), hne ['.'] (by decide)]
  refine ⟨init, hinit, by rw [String.toList_append, hsplit], ?_⟩
  unfold ofString ofChars
  rw [String.toList_append, hsplit, List.filter_append, List.filter_cons_of_pos hkept,
    List.filter_nil, List.map_append, List.map_singleton, String.ofList_append,
    String.ofList_toList]

/-- The last component of a path has the ending of its text. -/
theorem exists_parts_ofString (s : String) {ending : String} (hslash : '/' ∉ ending.toList)
    (hlong : 2 ≤ ending.toList.length) :
    ∃ init last, (ofString (s ++ ending)).parts = init ++ [last ++ ending] := by
  obtain ⟨init, -, -, hparts⟩ := exists_pieces_ofString s hslash hlong
  exact ⟨_, _, hparts⟩

theorem exists_parts_joinString (p : Path) (s : String) {ending : String}
    (hslash : '/' ∉ ending.toList) (hlong : 2 ≤ ending.toList.length) :
    ∃ init last, (p.joinString (s ++ ending)).parts = init ++ [last ++ ending] := by
  obtain ⟨init, last, hparts⟩ := exists_parts_ofString s hslash hlong
  unfold joinString join
  split
  · exact ⟨init, last, hparts⟩
  · refine ⟨p.parts ++ init, last, ?_⟩
    rw [hparts, List.append_assoc]

/-- Where a path with a name leads: to the name, in the place of its parent. -/
theorem destination_of_name {p : Path} {init : List String} {name : String}
    (hparts : p.parts = init ++ [name]) (hname : name ≠ "" ∧ name ≠ "." ∧ name ≠ "..")
    (current : Place) :
    p.name = name ∧
      p.way.destination current =
        p.parent.way.destination current ++ [Octets.ofString name] := by
  refine ⟨by simp [Path.name, hparts], ?_⟩
  have hnames : ∀ part ∈ [name], part ≠ "" ∧ part ≠ "." ∧ part ≠ ".." := by
    simpa using hname
  have hlast := Place.settle_names hnames (p.parent.way.destination current)
  unfold parent way Way.destination at hlast ⊢
  rw [hparts, List.dropLast_concat] at hlast ⊢
  rw [List.map_append, Place.settle_append]
  exact hlast

theorem text_of_name {p : Path} {init : List String} {last ending : String}
    (hparts : p.parts = init ++ [last ++ ending]) : ending.toList <:+ p.text.toList := by
  have hno : ¬(p.anchor = .current ∧ p.parts = []) := by simp [hparts]
  unfold text
  rw [if_neg hno, String.toList_append, String.toList_intercalate, hparts, List.map_append,
    List.map_singleton, String.toList_append]
  have hend := Text.intercalate_append_ending '/' (init.map String.toList) last.toList ending.toList
  refine List.IsSuffix.trans ?_ (List.suffix_append _ _)
  exact ⟨_, hend.symm⟩

end Path

/-! ## Exported files -/

namespace Text

theorem CodePoint.ofChar_inj {c d : Char} (h : CodePoint.ofChar c = CodePoint.ofChar d) :
    c = d := by
  have hval := congrArg Fin.val h
  rw [← Char.ofNat_toNat c, ← Char.ofNat_toNat d]
  exact congrArg Char.ofNat hval

theorem Points.ofString_inj {s t : String} (h : Points.ofString s = Points.ofString t) : s = t :=
  String.toList_inj.mp (List.map_inj_right (fun _ _ => CodePoint.ofChar_inj) |>.mp h)

theorem Points.not_mem_ofString {c : Char} {s : String} (h : c ∉ s.toList) :
    CodePoint.ofChar c ∉ Points.ofString s := by
  intro hmem
  obtain ⟨d, hd, heq⟩ := List.mem_map.mp hmem
  exact h (CodePoint.ofChar_inj heq ▸ hd)

/-- No character is a surrogate for an octet. -/
theorem FileName.strayOctet?_ofChar (c : Char) : strayOctet? (.ofChar c) = none := by
  have hvalid : c.toNat < 0xD800 ∨ 0xDFFF < c.toNat := c.valid.imp_right And.left
  unfold strayOctet? CodePoint.ofChar
  simp only [Bool.and_eq_true, decide_eq_true_eq]
  rw [if_neg (by omega)]

/-- The name of a file that a text without surrogates is the text of. -/
theorem FileName.ofPoints_ofString (s : String) :
    FileName.ofPoints (Points.ofString s) = Octets.ofString s := by
  unfold FileName.ofPoints Points.ofString Points.ofChars Octets.ofString Octets.ofBytes
    Utf8.encodeString Utf8.encodeChars
  rw [List.flatMap_map, List.map_flatMap]
  simp only [strayOctet?_ofChar]
  rfl

end Text

namespace Artifacts

/-- A component of a key. -/
def IsKeyPart (part : Points) : Prop := isComponent part = true ∧ slash ∉ part ∧ backslash ∉ part

theorem isKeyPart_ofString {part : String} (h : IsFileName part) :
    IsKeyPart (Points.ofString part) := by
  obtain ⟨⟨hempty, hpoint, hslash⟩, -, hback⟩ := h
  have hfirst : Points.ofString part ≠ [] := fun heq =>
    hempty (Text.Points.ofString_inj (heq.trans (rfl : [] = Points.ofString "")))
  have hsecond : Points.ofString part ≠ Points.ofString "." := fun heq =>
    hpoint (Text.Points.ofString_inj heq)
  exact ⟨by simp [isComponent, hfirst, hsecond], Text.Points.not_mem_ofString hslash,
    Text.Points.not_mem_ofString hback⟩

/-- The components of a key are those that it has been made of. -/
theorem partsOf_joinParts {parts : List Points} (h : ∀ part ∈ parts, IsKeyPart part) :
    partsOf (joinParts parts) = parts := by
  by_cases hnil : parts = []
  · subst hnil
    decide
  have hback : ([slash].intercalate parts).map (fun c => if c = backslash then slash else c) =
      [slash].intercalate parts := by
    have hkept : ∀ part ∈ parts, part.map (fun c => if c = backslash then slash else c) = part := by
      intro part hpart
      refine (List.map_congr_left fun c hc => if_neg ?_).trans (List.map_id part)
      rintro rfl
      exact (h part hpart).2.2 hc
    rw [Text.map_intercalate, ite_self, List.map_congr_left hkept, List.map_id']
  unfold joinParts partsOf
  rw [if_neg hnil, hback, Text.split_eq_splitOn,
    List.splitOn_intercalate slash (fun part hpart => (h part hpart).2.1) hnil]
  exact List.filter_eq_self.mpr fun part hpart => (h part hpart).1

/-- The components of a path text, when each is a name of a file. -/
theorem partsOf_intercalate {parts : List String} (hne : parts ≠ [])
    (h : ∀ part ∈ parts, IsFileName part) :
    partsOf ([slash].intercalate (parts.map Points.ofString)) = parts.map Points.ofString := by
  have hkey : ∀ part ∈ parts.map Points.ofString, IsKeyPart part := by
    intro part hpart
    obtain ⟨name, hname, rfl⟩ := List.mem_map.mp hpart
    exact isKeyPart_ofString (h name hname)
  have hjoin := partsOf_joinParts hkey
  unfold joinParts at hjoin
  rwa [if_neg (by simpa using hne)] at hjoin

/-- Names of files between slashes are a key of their own. -/
theorem key?_intercalate {parts : List String} (hne : parts ≠ [])
    (h : ∀ part ∈ parts, IsFileName part) :
    key? ([slash].intercalate (parts.map Points.ofString)) =
      some ([slash].intercalate (parts.map Points.ofString)) := by
  have hparts := partsOf_intercalate hne h
  have hrelative : isAbsolute ([slash].intercalate (parts.map Points.ofString)) = false := by
    obtain ⟨part, rest, rfl⟩ := List.exists_cons_of_ne_nil hne
    obtain ⟨⟨hempty, -, hslash⟩, -, hback⟩ := h part (List.mem_cons_self ..)
    obtain ⟨b, cs, hcs⟩ := List.exists_cons_of_ne_nil (mt String.toList_eq_nil_iff.mp hempty)
    have hfirst : ([slash].intercalate ((part :: rest).map Points.ofString)).head? =
        some (.ofChar b) := by
      cases rest <;> simp [Points.ofString, Text.Points.ofChars, hcs, List.intercalate_cons_cons]
    have hother : ∀ c : Char, c ∉ part.toList → Text.CodePoint.ofChar b ≠ .ofChar c := by
      rintro c hc heq
      rw [hcs, Text.CodePoint.ofChar_inj heq] at hc
      exact hc (List.mem_cons_self ..)
    unfold isAbsolute
    rw [hfirst]
    simp [slash, backslash, hother _ hslash, hother _ hback]
  have hparent : (parts.map Points.ofString).contains parentPart = false := by
    rw [List.contains_eq_mem, decide_eq_false_iff_not]
    intro hmem
    obtain ⟨part, hpart, heq⟩ := List.mem_map.mp hmem
    exact (h part hpart).2.1 (Text.Points.ofString_inj heq)
  unfold key? joinParts
  rw [hparts, hrelative, hparent, if_neg (by simp), if_neg (by simpa using hne)]

end Artifacts

namespace Bytecode

theorem ofString_modulePath (module : String) : Points.ofString (modulePath module) =
    [Artifacts.slash].intercalate ((moduleParts module).map Points.ofString) := by
  unfold modulePath Points.ofString Text.Points.ofChars
  rw [String.toList_intercalate]
  exact (Text.map_intercalate _ _ _).trans (by rw [List.map_map]; rfl)

/-- The file of a module can always be kept in memory, under its path. -/
theorem emitInMemory_eq {module : String} (h : Settings.isModuleName module = true)
    (data : Bytes) :
    emitInMemory module data =
      .ok ⟨Artifacts.defaultName, [(Points.ofString (modulePath module), data)]⟩ := by
  obtain ⟨init, hinit, hnames⟩ := moduleParts_eq h
  have hkey := Artifacts.key?_intercalate (by simp [hinit]) hnames
  rw [← ofString_modulePath] at hkey
  unfold emitInMemory Artifacts.write Artifacts.key
  rw [hkey]
  rfl

end Bytecode

namespace Artifacts

/-- The path of a module leads, below any root, to the file of the module there. -/
theorem target_modulePath {module : String} (h : Settings.isModuleName module = true)
    (root : Path) :
    target root (Points.ofString (Bytecode.modulePath module)) =
      (Bytecode.moduleFile root module).way := by
  obtain ⟨init, hinit, hnames⟩ := Bytecode.moduleParts_eq h
  have hsame : (Bytecode.moduleParts module).map (Text.FileName.ofPoints ∘ Points.ofString) =
      (Bytecode.moduleParts module).map Octets.ofString :=
    List.map_congr_left fun part _ => Text.FileName.ofPoints_ofString part
  unfold target Path.way
  rw [Bytecode.ofString_modulePath, partsOf_intercalate (by simp [hinit]) hnames,
    Bytecode.moduleFile_eq h, List.map_map, List.map_append, hsame]

/-- The one file of a module that is kept in memory is exported to where it would have been
written. -/
theorem target_of_emitInMemory {module : String} (h : Settings.isModuleName module = true)
    {data : Bytes} {artifacts : Artifacts}
    (hemit : Bytecode.emitInMemory module data = .ok artifacts) :
    ∃ k, artifacts.files = [(k, data)] ∧
      ∀ root, target root k = (Bytecode.moduleFile root module).way := by
  rw [Bytecode.emitInMemory_eq h] at hemit
  cases hemit
  exact ⟨_, rfl, target_modulePath h⟩

end Artifacts

end Worksheet
