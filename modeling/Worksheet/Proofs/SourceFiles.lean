-- Sources on the disk, whatever the entry point and the text. A text that has an encoding is
-- written as a whole, or nothing changes; a call that is made again leaves everything as it is.
import Mathlib.Data.List.TakeWhile
import Worksheet.Proofs.RewrittenFiles
import Worksheet.Proofs.TwoCommands

namespace Worksheet

open Text (Bytes CodePoint Octets Points)

/-! ## Texts that have an encoding -/

namespace Text

theorem CodePoint.exists_char {p : CodePoint} (h : p.isSurrogate = false) :
    ∃ c, p = .ofChar c := by
  have hvalid : p.val.isValidChar := by
    have hbound := p.isLt
    unfold CodePoint.isSurrogate at h
    simp only [Bool.and_eq_false_iff, decide_eq_false_iff_not] at h
    unfold Nat.isValidChar
    omega
  exact ⟨Char.ofNat p.val, Fin.ext (char_toNat_ofNat hvalid).symm⟩

theorem Points.exists_chars {text : Points} (h : ∀ p ∈ text, p.isSurrogate = false) :
    ∃ cs, text = Points.ofChars cs := by
  induction text with
  | nil => exact ⟨[], rfl⟩
  | cons p rest ih =>
    obtain ⟨c, rfl⟩ := CodePoint.exists_char (h p (List.mem_cons_self ..))
    obtain ⟨cs, rfl⟩ := ih fun q hq => h q (List.mem_cons_of_mem _ hq)
    exact ⟨c :: cs, rfl⟩

theorem Utf8.surrogateRun?_eq_none_iff {text : Points} :
    surrogateRun? text = none ↔ ∀ p ∈ text, p.isSurrogate = false := by
  have hiff := List.dropWhile_eq_nil_iff (l := text) (p := fun p => !p.isSurrogate)
  simp only [Bool.not_eq_true'] at hiff
  rw [← hiff]
  unfold surrogateRun?
  cases text.dropWhile fun p => !p.isSurrogate with
  | nil => exact iff_of_true rfl rfl
  | cons p rest => exact iff_of_false nofun nofun

/-- What has no encoding holds a surrogate. -/
theorem Utf8.encode_eq_error_iff {text : Points} :
    (∃ run, encode text = .error run) ↔ ∃ p ∈ text, p.isSurrogate = true := by
  unfold encode
  cases hrun : surrogateRun? text with
  | none =>
    have hnone := surrogateRun?_eq_none_iff.mp hrun
    refine iff_of_false nofun ?_
    rintro ⟨p, hp, hsurrogate⟩
    rw [hnone p hp] at hsurrogate
    cases hsurrogate
  | some run =>
    refine iff_of_true ⟨run, rfl⟩ (Classical.byContradiction fun hno => ?_)
    rw [surrogateRun?_eq_none_iff.mpr fun p hp => Bool.eq_false_iff.mpr fun hs => hno ⟨p, hp, hs⟩]
      at hrun
    cases hrun

/-- And all else has one, from which it is read again. -/
theorem Utf8.chars_of_encode {text : Points} {content : Bytes} (h : encode text = .ok content) :
    ∃ cs, text = Points.ofChars cs ∧ content = encodeChars cs := by
  unfold encode at h
  split at h
  · cases h
  next hrun =>
  obtain ⟨cs, rfl⟩ := Points.exists_chars (surrogateRun?_eq_none_iff.mp hrun)
  refine ⟨cs, rfl, ?_⟩
  rw [← Except.ok.inj h]
  unfold Points.ofChars encodeChars
  rw [List.flatMap_map]
  rfl

end Text

namespace Materializer

variable {m : Materializer} {entryPoint : String} {path : Path} {source : Points} {d d' : Disk}
  {r : Except Fault Materialized} {content : Bytes}

/-! ## Ends of a call -/

/-- As what the end of a write is told. -/
def told (path : Path) (entryPoint : String) : Except Fault Unit → Except Fault Materialized
  | .ok () => .ok ⟨path, simpleName entryPoint⟩
  | .error (.system e) => .error (.materialization (.unwritable path e))
  | .error fault => .error fault

theorem told_ne_unencodable {ending : Except Fault Unit}
    (h : Disk.writeBytes path content d = (ending, d')) (p : Path) (run : Text.Utf8.SurrogateRun) :
    told path entryPoint ending ≠ .error (.materialization (.unencodable p run)) := by
  rcases ending with fault | _
  · rcases Disk.fault_of_writeBytes h with ⟨rfl, -⟩ | ⟨e, rfl⟩ <;> exact nofun
  · exact nofun

section Steps

variable (hname : simpleName entryPoint ≠ "")

/-- The path of the source of an entry point that has a name. -/
def pathOf (m : Materializer) (current : Path) (entryPoint : String) : Path :=
  (m.directory.getD current).joinString (m.fileName (simpleName entryPoint))

theorem materialize_of_no_name (hname : simpleName entryPoint = "") (source : Points) (d : Disk) :
    m.materialize entryPoint source d =
      (.error (.materialization (.noName entryPoint)), d) := by
  unfold materialize sourcePath
  rw [hname]
  rfl

include hname

theorem sourcePath_eq (current : Path) :
    m.sourcePath current entryPoint = .ok (m.pathOf current entryPoint) := by
  unfold sourcePath pathOf
  exact if_neg (mt String.isEmpty_iff.mp hname)

theorem materialize_of_no_encoding {run : Text.Utf8.SurrogateRun}
    (hencode : Text.Utf8.encode source = .error run) (d : Disk) :
    m.materialize entryPoint source d =
      (.error (.materialization (.unencodable (m.pathOf d.currentPath entryPoint) run)), d) := by
  unfold materialize
  rw [sourcePath_eq hname, hencode]

theorem materialize_of_encoding (hencode : Text.Utf8.encode source = .ok content) (d : Disk) :
    m.materialize entryPoint source d =
      (told (m.pathOf d.currentPath entryPoint) entryPoint
          (Disk.writeBytes (m.pathOf d.currentPath entryPoint) content d).1,
        (Disk.writeBytes (m.pathOf d.currentPath entryPoint) content d).2) := by
  unfold materialize writeSource
  rw [sourcePath_eq hname, hencode]
  dsimp only
  rcases Disk.writeBytes (m.pathOf d.currentPath entryPoint) content d with ⟨fault | _, d'⟩
  · cases fault <;> rfl
  · rfl

end Steps

theorem isNormal_pathOf {current : Path} (hcurrent : current.IsNormal)
    (hdirectory : ∀ directory, m.directory = some directory → directory.IsNormal)
    (hname : simpleName entryPoint ≠ "") :
    (m.pathOf current entryPoint).IsNormal ∧ (m.pathOf current entryPoint).parts ≠ [] :=
  isNormal_sourcePath hcurrent hdirectory (sourcePath_eq hname current)

/-! ## Sources are written as a whole -/

/-- A text has been written to where a path leads, before and afterwards. A regular file there holds
just its encoding now, under each of its names; what is no regular file keeps nothing. All else is
seen as before. -/
def Wrote (d : Disk) (path : Path) (text : Points) (d' : Disk) : Prop :=
  ∃ cs q, text = Points.ofChars cs ∧ d.locateWith true d.current path.way.octets = .ok q ∧
    d'.locateWith true d.current path.way.octets = .ok q ∧
    ((d.IsSpecial q ∧ d' = d) ∨ ∃ mode time group, ∀ p, d.SameFile q p →
      d'.node? p = some (.file (Text.Utf8.encodeChars cs) mode time group)) ∧
    ∀ p, ¬d.SameFile q p → d'.face? p = d.face? p

theorem wrote_of_writeBytes (hpath : path.IsNormal) (hne : path.parts ≠ [])
    (hencode : Text.Utf8.encode source = .ok content)
    (h : Disk.writeBytes path content d = (.ok (), d')) : Wrote d path source d' := by
  obtain ⟨cs, rfl, rfl⟩ := Text.Utf8.chars_of_encode hencode
  obtain ⟨q, hleads, hcases⟩ := Disk.rewrites_of_writeBytes hpath hne h
  refine ⟨cs, q, rfl, hleads, ?_, ?_⟩
  · rcases Disk.edit_writeBytes hpath hne h with ⟨-, _, -, hedit⟩ | ⟨⟨fault, hfault⟩, -⟩
    · exact Disk.locateWith_of_grows hedit.grows hleads
    · cases hfault
  · rcases hcases with ⟨hspecial, rfl⟩ | ⟨mode, group, hwritten⟩
    · exact ⟨Or.inl ⟨hspecial, rfl⟩, fun _ _ => rfl⟩
    · exact ⟨Or.inr ⟨mode, d.changeTime, group, hwritten.file⟩, hwritten.others⟩

section Calls

variable (hcurrent : d.currentPath.IsNormal)
  (hdirectory : ∀ directory, m.directory = some directory → directory.IsNormal)
  (h : m.materialize entryPoint source d = (r, d'))

include h

theorem unencodable_iff :
    (∃ path run, r = .error (.materialization (.unencodable path run))) ↔
      simpleName entryPoint ≠ "" ∧ ∃ p ∈ source, p.isSurrogate = true := by
  by_cases hname : simpleName entryPoint = ""
  · rw [materialize_of_no_name hname] at h
    cases h
    exact iff_of_false nofun fun hboth => hboth.1 hname
  rw [and_iff_right hname, ← Text.Utf8.encode_eq_error_iff]
  cases hencode : Text.Utf8.encode source with
  | error run =>
    rw [materialize_of_no_encoding hname hencode] at h
    cases h
    exact iff_of_true ⟨_, run, rfl⟩ ⟨run, rfl⟩
  | ok content =>
    rw [materialize_of_encoding hname hencode] at h
    generalize hwrite : Disk.writeBytes _ content d = written at h
    obtain ⟨ending, d₁⟩ := written
    obtain ⟨rfl, rfl⟩ := Prod.mk.inj h
    refine iff_of_false ?_ nofun
    rintro ⟨p, run, hfault⟩
    exact told_ne_unencodable hwrite p run hfault

include hcurrent hdirectory

/-- A call that succeeds has written its source, and one that fails has changed nothing. -/
theorem materialize_cases :
    (∃ w, r = .ok w ∧ w.simpleName = simpleName entryPoint ∧
      m.sourcePath d.currentPath entryPoint = .ok w.path ∧ Wrote d w.path source d') ∨
    ((∃ fault, r = .error fault) ∧ d' = d) := by
  by_cases hname : simpleName entryPoint = ""
  · rw [materialize_of_no_name hname] at h
    cases h
    exact Or.inr ⟨⟨_, rfl⟩, rfl⟩
  cases hencode : Text.Utf8.encode source with
  | error run =>
    rw [materialize_of_no_encoding hname hencode] at h
    cases h
    exact Or.inr ⟨⟨_, rfl⟩, rfl⟩
  | ok content =>
    obtain ⟨hnormal, hne⟩ := isNormal_pathOf hcurrent hdirectory hname
    have hpath := sourcePath_eq (m := m) hname d.currentPath
    rw [materialize_of_encoding hname hencode] at h
    generalize m.pathOf d.currentPath entryPoint = path at *
    generalize hwrite : Disk.writeBytes path content d = written at h
    obtain ⟨ending, d₁⟩ := written
    obtain ⟨rfl, rfl⟩ := Prod.mk.inj h
    rcases Disk.edit_writeBytes hnormal hne hwrite with ⟨rfl, -⟩ | ⟨⟨fault, rfl⟩, hsame⟩
    · exact Or.inl ⟨⟨path, simpleName entryPoint⟩, rfl, rfl, hpath,
        wrote_of_writeBytes hnormal hne hencode hwrite⟩
    · exact Or.inr ⟨by cases fault <;> exact ⟨_, rfl⟩, hsame⟩

/-- A call can be repeated at any time. It ends as before, and nothing but times is new. -/
theorem materialize_again (time : Int) :
    ∃ d'', m.materialize entryPoint source { d' with now := time } = (r, d'') ∧
      ∀ p, (d''.face? p).map (Node.withTime 0) = (d'.face? p).map (Node.withTime 0) := by
  by_cases hname : simpleName entryPoint = ""
  · rw [materialize_of_no_name hname] at h ⊢
    cases h
    exact ⟨_, rfl, fun _ => rfl⟩
  cases hencode : Text.Utf8.encode source with
  | error run =>
    rw [materialize_of_no_encoding hname hencode] at h ⊢
    cases h
    exact ⟨_, rfl, fun _ => rfl⟩
  | ok content =>
    obtain ⟨hnormal, hne⟩ := isNormal_pathOf hcurrent hdirectory hname
    rw [materialize_of_encoding hname hencode] at h ⊢
    generalize hwrite : Disk.writeBytes _ content d = written at h
    obtain ⟨ending, d₁⟩ := written
    obtain ⟨rfl, rfl⟩ := Prod.mk.inj h
    have hsame : Disk.currentPath { d₁ with now := time } = d.currentPath := by
      have hcurrent : d₁.current = d.current := by
        rcases Disk.edit_writeBytes hnormal hne hwrite with ⟨-, _, -, hedit⟩ | ⟨-, rfl⟩
        · exact hedit.current
        · rfl
      unfold Disk.currentPath
      rw [hcurrent]
    obtain ⟨d'', hagain, hfaces⟩ := Disk.writeBytes_again hnormal hne hwrite time
    rw [hsame, hagain]
    exact ⟨d'', rfl, hfaces⟩

end Calls

/-- For every entry point, text and disk: a call that succeeds has written just the encoding of the
text to where the path of the source leads, and has changed nothing else. One that fails has changed
nothing at all. The text is refused just if it holds a surrogate, and the source has a name. And the
same call, made again at any time, ends in the same way and leaves everything as it is, but for
times of last change. -/
theorem a_source_is_written_as_a_whole_or_nothing_changes (m : Materializer) (entryPoint : String)
    (pieces : List Points) {d d' : Disk} {r : Except Fault Materialized}
    (hcurrent : d.currentPath.IsNormal)
    (hdirectory : ∀ directory, m.directory = some directory → directory.IsNormal)
    (h : m.materialize entryPoint pieces.flatten d = (r, d')) :
    (∀ w, r = .ok w → w.simpleName = simpleName entryPoint ∧
      m.sourcePath d.currentPath entryPoint = .ok w.path ∧ Wrote d w.path pieces.flatten d') ∧
    ((∃ fault, r = .error fault) → d' = d) ∧
    ((∃ path run, r = .error (.materialization (.unencodable path run))) ↔
      simpleName entryPoint ≠ "" ∧ ∃ p ∈ pieces.flatten, p.isSurrogate = true) ∧
    ∀ time, ∃ d'', m.materialize entryPoint pieces.flatten { d' with now := time } = (r, d'') ∧
      ∀ p, (d''.face? p).map (Node.withTime 0) = (d'.face? p).map (Node.withTime 0) := by
  refine ⟨fun w hw => ?_, ?_, unencodable_iff h, materialize_again hcurrent hdirectory h⟩
  · rcases materialize_cases hcurrent hdirectory h with ⟨w', hw', hwrote⟩ | ⟨⟨fault, hfault⟩, -⟩
    · cases hw.symm.trans hw'
      exact hwrote
    · cases hw.symm.trans hfault
  · rintro ⟨fault, hfault⟩
    rcases materialize_cases hcurrent hdirectory h with ⟨w, hw, -⟩ | ⟨-, hsame⟩
    · cases hfault.symm.trans hw
    · exact hsame

/-! ## Samples -/

/-- A directory of sources. One of them is long, one is a link to a device, and there is a directory
below. -/
def sourceDisk : Disk where
  root := .directory 493 0 [
    (['n'], .device .null),
    (['s'], .directory 493 0 [
      (['b'], .directory 493 0 []),
      (Octets.ofString "k$instrumented.py", .file [1, 2, 3, 4, 5, 6, 7] 420 0 0),
      (Octets.ofString "l$instrumented.py", .link ['/', 'n'] 0)])]
  current := []
  scratch := []
  scratchCount := 0
  groupCount := 0
  now := 0

def sampleMaterializer : Materializer := ⟨"py", some (.ofString "s")⟩

/-- Nothing is left of a longer source, and two pieces are one text. -/
theorem a_longer_source_is_replaced :
    let text : List Points := [.ofString "é", .ofString "\r\n"]
    ∃ w d', sampleMaterializer.materialize "p.k" text.flatten sourceDisk = (.ok w, d') ∧
      Wrote sourceDisk w.path text.flatten d' ∧
      d'.readFile w.path.way.octets = .ok ([0xC3, 0xA9, 13, 10], 0) := by
  intro text
  have hok : (sampleMaterializer.materialize "p.k" text.flatten sourceDisk).1 =
      .ok ⟨.ofString "s/k$instrumented.py", "k"⟩ := by decide +kernel
  have hread : (sampleMaterializer.materialize "p.k" text.flatten sourceDisk).2.readFile
      (Path.ofString "s/k$instrumented.py").way.octets = .ok ([0xC3, 0xA9, 13, 10], 0) := by
    decide +kernel
  generalize hcall : sampleMaterializer.materialize "p.k" text.flatten sourceDisk = ended at *
  obtain ⟨r, d'⟩ := ended
  obtain ⟨hwrote, -⟩ := a_source_is_written_as_a_whole_or_nothing_changes sampleMaterializer "p.k"
    text (fun _ hpart => absurd hpart List.not_mem_nil)
    (by rintro _ ⟨⟩; exact Path.isNormal_ofString "s") hcall
  obtain rfl := hok
  exact ⟨_, d', rfl, (hwrote _ rfl).2.2, hread⟩

/-- A link to a device takes the source, and nothing is found at its path. -/
theorem a_device_keeps_no_source :
    ∃ w d', sampleMaterializer.materialize "l" (.ofString "x") sourceDisk = (.ok w, d') ∧
      d'.readFile w.path.way.octets = .ok ([], 0) ∧
      Text.Utf8.encode (.ofString "x") = .ok [0x78] := by
  have hok : (sampleMaterializer.materialize "l" (.ofString "x") sourceDisk).1 =
      .ok ⟨.ofString "s/l$instrumented.py", "l"⟩ := by decide +kernel
  have hread : (sampleMaterializer.materialize "l" (.ofString "x") sourceDisk).2.readFile
      (Path.ofString "s/l$instrumented.py").way.octets = .ok ([], 0) := by decide +kernel
  exact ⟨_, _, Prod.ext hok rfl, hread, by decide⟩

end Materializer

end Worksheet
