-- What becomes of the bytes of a source that a command reads and then writes where its entry point
-- wants it. A text is read with all its line ends made one, and is written as it is; so a source
-- comes through as it was just if no carriage return is in it.
import Worksheet.Proofs.LoadedTrees
import Worksheet.Proofs.SourcePlaces
import Worksheet.Proofs.WholeTexts

namespace Worksheet

open Text (Bytes Octets Points)
open Text.Utf8 (encodeChars)

variable {σ : Type}

/-! ## Line ends in bytes -/

namespace Text

/-- Each carriage return, with or without a line feed after it, becomes a line feed. Every other
byte stays. -/
def lineFeeds : Bytes → Bytes
  | 13 :: 10 :: rest => 10 :: lineFeeds rest
  | 13 :: rest => 10 :: lineFeeds rest
  | b :: rest => b :: lineFeeds rest
  | [] => []

theorem lineFeeds_cons_of_ne {b : UInt8} (hb : b ≠ 13) (rest : Bytes) :
    lineFeeds (b :: rest) = b :: lineFeeds rest := by
  rw [lineFeeds]
  · exact fun _ h _ => hb h
  · exact fun h => hb h

theorem lineFeeds_append {front : Bytes} (h : 13 ∉ front) (rest : Bytes) :
    lineFeeds (front ++ rest) = front ++ lineFeeds rest := by
  induction front with
  | nil => rfl
  | cons b front ih =>
    have hb : b ≠ 13 := fun heq => h (heq ▸ List.mem_cons_self)
    rw [List.cons_append, lineFeeds_cons_of_ne hb, ih fun hmem => h (List.mem_cons_of_mem _ hmem)]
    rfl

/-- Without a carriage return, nothing is new. -/
theorem lineFeeds_eq_self_iff {content : Bytes} : lineFeeds content = content ↔ 13 ∉ content := by
  constructor
  · fun_induction lineFeeds content with
    | case1 rest ih => exact fun h => by cases h
    | case2 rest hpair ih => exact fun h => by cases h
    | case3 b rest hpair hreturn ih =>
      intro h hmem
      rcases List.mem_cons.mp hmem with heq | hrest
      · exact hreturn heq.symm
      · exact ih (List.cons.inj h).2 hrest
    | case4 => exact fun _ => List.not_mem_nil
  · intro h
    have hall := lineFeeds_append h []
    rwa [List.append_nil, lineFeeds, List.append_nil] at hall

/-- A text of characters has an encoding, which is that of its characters. -/
theorem Utf8.encode_ofChars (cs : List Char) : encode (Points.ofChars cs) = .ok (encodeChars cs) := by
  have hplain : ∀ p ∈ Points.ofChars cs, p.isSurrogate = false := by
    intro p hp
    obtain ⟨c, -, rfl⟩ := List.mem_map.mp hp
    exact CodePoint.isSurrogate_ofChar c
  unfold encode
  rw [surrogateRun?_eq_none_iff.mpr hplain]
  unfold Points.ofChars encodeChars
  rw [List.flatMap_map]
  rfl

theorem Utf8.mem_encodePoint_of_ascii {c d : Char} (hc : c.toNat < 0x80)
    (h : UInt8.ofNat c.toNat ∈ encodePoint d.toNat) : d = c := by
  have hbyte : (UInt8.ofNat c.toNat).toNat = c.toNat := by
    rw [UInt8.toNat_ofNat']
    omega
  have hvalid : d.toNat < 0x110000 := (CodePoint.ofChar d).isLt
  have hsame := eq_of_mem_encodePoint hvalid h (by omega)
  rw [hbyte] at hsame
  exact Char.toNat_inj.mp hsame.symm

/-- The line ends of a text are those of its bytes. -/
theorem encodeChars_unifyLineEnds (cs : List Char) :
    encodeChars (unifyLineEnds cs) = lineFeeds (encodeChars cs) := by
  fun_induction unifyLineEnds cs with
  | case1 rest ih => exact congrArg (10 :: ·) ih
  | case2 rest hpair ih =>
    have hlone : ∀ tail, encodeChars rest ≠ 10 :: tail := by
      intro tail heq
      cases rest with
      | nil => cases heq
      | cons c rest =>
        obtain ⟨b, bytes, hbytes, -⟩ := Utf8.piece_encodePoint c []
        have hcons : encodeChars (c :: rest) = b :: (bytes ++ encodeChars rest) := by
          simp [encodeChars, hbytes]
        have hfirst : b = 10 := (List.cons.inj (hcons.symm.trans heq)).1
        have hfeed : c = '\n' := Utf8.mem_encodePoint_of_ascii (by decide)
          (hbytes ▸ hfirst ▸ List.mem_cons_self)
        exact hpair rest (hfeed ▸ rfl)
    change 10 :: encodeChars (unifyLineEnds rest) = lineFeeds (13 :: encodeChars rest)
    rw [ih]
    exact (lineFeeds.eq_2 _ fun tail heq => hlone tail heq).symm
  | case3 c rest hpair hreturn ih =>
    have hother : 13 ∉ Utf8.encodePoint c.toNat := fun hmem =>
      hreturn (Utf8.mem_encodePoint_of_ascii (c := '\r') (by decide) hmem)
    change Utf8.encodePoint c.toNat ++ encodeChars (unifyLineEnds rest) =
      lineFeeds (Utf8.encodePoint c.toNat ++ encodeChars rest)
    rw [ih, lineFeeds_append hother]
  | case4 => rfl

end Text

/-! ## Places to write to -/

/-- A path that leads to a regular file, or to where one can be made, and the file can be
written. -/
structure Disk.Takes (d : Disk) (path : Path) (q : Place) : Prop where
  named : ¬path.way.hasNul = true
  opens : ∃ opened, d.openToWrite d.current Mode.usualMask true path.way.octets = .ok (q, opened)
  regular : ¬d.IsSpecial q

/-- The content of the file at a place. -/
def Disk.contentAt? (d : Disk) (q : Place) : Option Bytes := (d.node? q).bind Node.content?

/-- Every content can be written there. -/
theorem Disk.Takes.writeBytes {d : Disk} {path : Path} {q : Place} (h : d.Takes path q)
    (content : Bytes) : ∃ d' mode group, Disk.writeBytes path content d = (.ok (), d') ∧
      d.Rewrites q (.file content mode d.changeTime group) d' := by
  obtain ⟨opened, hopen⟩ := h.opens
  rcases rewrites_of_openToWrite hopen with ⟨hspecial, -⟩ | ⟨mode, group, -, hopened⟩
  · exact absurd hspecial h.regular
  obtain ⟨d', hfill, hwritten⟩ := hopened.fill content
  refine ⟨d', mode, group, ?_, hwritten⟩
  unfold Disk.writeBytes
  rw [guardPath_text, if_neg h.named]
  dsimp only
  rw [hopen]
  dsimp only
  rw [hfill]

namespace Materializer

variable {m : Materializer} {entryPoint : String} {d : Disk} {q : Place}

/-- Every text that has an encoding can be written as a source. -/
theorem materialize_of_takes (hname : simpleName entryPoint ≠ "")
    (h : d.Takes (m.pathOf d.currentPath entryPoint) q) (cs : List Char) :
    ∃ d' mode group, m.materialize entryPoint (Points.ofChars cs) d =
        (.ok ⟨m.pathOf d.currentPath entryPoint, simpleName entryPoint⟩, d') ∧
      d.Rewrites q (.file (encodeChars cs) mode d.changeTime group) d' := by
  obtain ⟨d', mode, group, hwrite, hwritten⟩ := h.writeBytes (encodeChars cs)
  refine ⟨d', mode, group, ?_, hwritten⟩
  rw [materialize_of_encoding hname (Text.Utf8.encode_ofChars cs), hwrite]
  rfl

end Materializer

theorem Evaluator.materialize_of_written {e : Evaluator σ} {r : Request} {s : σ} {path : Path}
    {name : String} {d : Disk}
    (h : e.materializer.materialize r.entryPoint r.source (e.getDisk s) = (.ok ⟨path, name⟩, d)) :
    e.materialize r s = (.ok path, e.setDisk d s) := by
  unfold materialize Act.run
  rw [h]

namespace Cli.Workbench

variable {b : Workbench σ} {c : Config} {a : SourceArguments} {cwd : Option String} {s s' : σ}
  {entry : String} {directory path : Path} {content : Bytes} {q : Place} {r : Request}

/-! ## From the write on -/

/-- Where a command can end once its source has been written: behind the compiler, or behind the
executor that is given what the compiler reports. -/
def EndsFrom (b : Workbench σ) (c : Config) (r : Request) (path : Path) (s s' : σ) : Prop :=
  s' = ((b.evaluator c).compile r path s).2 ∨
  ∃ report, ((b.evaluator c).compile r path s).1 = .ok report ∧
    s' = ((b.evaluator c).execute r report ((b.evaluator c).compile r path s).2).2

/-- What compiles a source, and what runs it then, leave the content of a file as it is. -/
structure Spares (b : Workbench σ) (c : Config) (r : Request) (path : Path) (q : Place) (s : σ) :
    Prop where
  compiler : (b.tools.getDisk ((b.evaluator c).compile r path s).2).contentAt? q =
    (b.tools.getDisk s).contentAt? q
  executor : ∀ report, ((b.evaluator c).compile r path s).1 = .ok report →
    (b.tools.getDisk ((b.evaluator c).execute r report
      ((b.evaluator c).compile r path s).2).2).contentAt? q =
    (b.tools.getDisk ((b.evaluator c).compile r path s).2).contentAt? q

theorem EndsFrom.contentAt?_eq (h : b.EndsFrom c r path s s') (hspares : b.Spares c r path q s) :
    (b.tools.getDisk s').contentAt? q = (b.tools.getDisk s).contentAt? q := by
  rcases h with rfl | ⟨report, hreport, rfl⟩
  · exact hspares.compiler
  · exact (hspares.executor report hreport).trans hspares.compiler

/-- On the way from one state to another, a source has been written with this content, and nothing
else has been done but to compile it, and maybe to run it. So it is there in the end, unless one of
these two writes to it. -/
structure Leaves (b : Workbench σ) (c : Config) (r : Request) (path : Path) (q : Place)
    (content : Bytes) (s s' : σ) : Prop where
  written : ∃ s₁ mode group, (b.evaluator c).materialize r s = (.ok path, s₁) ∧
    (b.tools.getDisk s).Rewrites q (.file content mode (b.tools.getDisk s).changeTime group)
      (b.tools.getDisk s₁) ∧
    b.EndsFrom c r path s₁ s'
  kept : ∀ s₁, (b.evaluator c).materialize r s = (.ok path, s₁) → b.Spares c r path q s₁ →
    (b.tools.getDisk s').contentAt? q = some content

theorem endsFrom_concluded {s₁ : σ} (h : (b.evaluator c).materialize r s = (.ok path, s₁)) :
    b.EndsFrom c r path s₁ (b.concluded c r (b.compiledBy c r s)).2 := by
  unfold compiledBy concluded EndsFrom
  rw [h]
  dsimp only
  rcases hcompile : (b.evaluator c).compile r path s₁ with ⟨fault | report, s₂⟩
  · exact Or.inl rfl
  · dsimp only
    split
    · exact Or.inl rfl
    · exact Or.inr ⟨report, rfl, rfl⟩

theorem leaves_of_endsFrom {s₁ : σ} {mode : Mode} {group : Nat}
    (hmaterialize : (b.evaluator c).materialize r s = (.ok path, s₁))
    (hwritten : (b.tools.getDisk s).Rewrites q
      (.file content mode (b.tools.getDisk s).changeTime group) (b.tools.getDisk s₁))
    (hends : b.EndsFrom c r path s₁ s') : b.Leaves c r path q content s s' := by
  refine ⟨⟨s₁, mode, group, hmaterialize, hwritten, hends⟩, fun s₁' hmaterialize' hspares => ?_⟩
  obtain rfl : s₁ = s₁' := congrArg Prod.snd (hmaterialize.symm.trans hmaterialize')
  rw [hends.contentAt?_eq hspares]
  unfold Disk.contentAt?
  rw [hwritten.file q (Or.inl rfl)]
  rfl

/-! ## Commands that copy -/

/-- The path that the source of an entry point is written to. -/
def sourcePath (b : Workbench σ) (c : Config) (entry : String) (s : σ) : Path :=
  (b.evaluator c).materializer.pathOf (b.tools.getDisk s).currentPath entry

/-- A command with all that it needs to write its source: an entry point with a simple name that is
one of a file, a text to read, and a place that takes it. The disk of a state can be replaced. -/
structure Copies (b : Workbench σ) (c : Config) (a : SourceArguments) (cwd : Option String)
    (entry : String) (directory : Path) (content : Bytes) (text : String) (q : Place) (s : σ) :
    Prop where
  get_set : ∀ d s, b.tools.getDisk (b.tools.setDisk d s) = d
  entered : a.entry = some entry
  named : simpleName entry ≠ ""
  plain : '/' ∉ (simpleName entry).toList
  spelled : ¬(Path.ofString a.source).way.hasNul = true
  readable : ∃ time, (b.tools.getDisk s).readFile (Path.ofString a.source).way.octets =
    .ok (content, time)
  decodes : Text.Utf8.decode content = .ok text.toList
  placed : directoryOf (b.tools.getDisk s) cwd = .ok directory
  takes : (b.tools.getDisk s).Takes (b.sourcePath c entry s) q
  straight : ¬(b.tools.getDisk s).LeadsRound (b.sourcePath c entry s).parent

section Copies

variable {text : String} (h : b.Copies c a cwd entry directory content text q s)

include h

/-- The text of a source is read with its line ends made one. -/
theorem Copies.readText : (Disk.readText (.ofString a.source) (b.tools.getDisk s)).1 =
    .ok (String.ofList (Text.unifyLineEnds text.toList)) := by
  obtain ⟨time, hread⟩ := h.readable
  unfold Disk.readText Disk.readBytes
  rw [Disk.guardPath_text, if_neg h.spelled]
  dsimp only
  rw [hread]
  dsimp only
  rw [h.decodes]

theorem Copies.exists_key (source : String) :
    ∃ key, (b.evaluator c).lockKey (requestOf a entry source directory) (b.tools.getDisk s) =
      .ok key := by
  obtain ⟨found, hfound⟩ := Disk.exists_resolve (mt hasNul_of_parent h.takes.named) h.straight
  unfold Evaluator.lockKey LockKey.ofSource requestOf
  rw [Materializer.sourcePath_eq h.named]
  dsimp only [Except.bind]
  unfold sourcePath at hfound
  rw [hfound]
  exact ⟨_, rfl⟩

/-- Whatever is given for the source is there for the compiler. -/
theorem Copies.materialize (source : String) :
    ∃ s₁ mode group, (b.evaluator c).materialize (requestOf a entry source directory) s =
        (.ok (b.sourcePath c entry s), s₁) ∧
      (b.tools.getDisk s).Rewrites q
        (.file (Text.Utf8.encodeString source) mode (b.tools.getDisk s).changeTime group)
        (b.tools.getDisk s₁) := by
  obtain ⟨d, mode, group, hwrite, hwritten⟩ :=
    Materializer.materialize_of_takes h.named h.takes source.toList
  refine ⟨b.tools.setDisk d s, mode, group, Evaluator.materialize_of_written hwrite, ?_⟩
  rw [h.get_set]
  exact hwritten

/-- An evaluation writes the text that it is given. -/
theorem Copies.evaluate (source : String) :
    b.Leaves c (requestOf a entry source directory) (b.sourcePath c entry s) q
      (Text.Utf8.encodeString source) s
      (b.evaluate c (requestOf a entry source directory) s).2 := by
  obtain ⟨s₁, mode, group, hmaterialize, hwritten⟩ := h.materialize source
  obtain ⟨key, hkey⟩ := h.exists_key source
  refine leaves_of_endsFrom hmaterialize hwritten ?_
  rw [evaluate_of_key hkey, concluded_run fun fault s₂ hunwritten => by
    cases hmaterialize.symm.trans hunwritten]
  exact endsFrom_concluded hmaterialize

/-- The request that both commands make of their source. -/
def copied (a : SourceArguments) (entry text : String) (directory : Path) : Request :=
  requestOf a entry (String.ofList (Text.unifyLineEnds text.toList)) directory

theorem Copies.encode : Text.Utf8.encodeString (String.ofList (Text.unifyLineEnds text.toList)) =
    Text.lineFeeds content := by
  unfold Text.Utf8.encodeString
  rw [String.toList_ofList, Text.encodeChars_unifyLineEnds, Text.Utf8.decode_eq_ok_iff.mp h.decodes]

theorem Copies.compile :
    b.Leaves c (copied a entry text directory) (b.sourcePath c entry s) q (Text.lineFeeds content) s
      (b.compile c a s).2 := by
  obtain ⟨s₁, mode, group, hmaterialize, hwritten⟩ :=
    h.materialize (String.ofList (Text.unifyLineEnds text.toList))
  rw [h.encode] at hwritten
  refine leaves_of_endsFrom hmaterialize hwritten (Or.inl ?_)
  unfold Workbench.compile
  rw [report_eq h.entered h.readText directory]
  unfold compiledBy
  rw [hmaterialize]
  dsimp only
  unfold copied
  rcases (b.evaluator c).compile _ _ _ with ⟨fault | report, s₂⟩ <;> rfl

theorem Copies.run (json : Bool) :
    b.Leaves c (copied a entry text directory) (b.sourcePath c entry s) q (Text.lineFeeds content) s
      (b.run c a cwd json s).2 := by
  have hrun : (b.run c a cwd json s).2 = (b.evaluate c (copied a entry text directory) s).2 := by
    unfold Workbench.run outcomeOf
    dsimp only
    rw [h.readText]
    dsimp only
    rw [h.placed]
    dsimp only
    rw [h.entered]
    rfl
  rw [hrun, ← h.encode]
  exact h.evaluate _

/-- The file lies in the directory of the sources and is named after the entry point. -/
theorem Copies.sourcePath_eq :
    (b.sourcePath c entry s).parent =
      (b.evaluator c).materializer.directoryFor (b.tools.getDisk s) ∧
    (b.sourcePath c entry s).name = (b.evaluator c).materializer.fileName (simpleName entry) := by
  have hextension : '/' ∉ (b.evaluator c).materializer.extension.toList := by
    unfold evaluator Evaluator.materializer Toolchain.select Materializer.ofExtension
    cases c.language
    · exact show '/' ∉ (String.ofList ("py".toList.dropWhile (· = '.'))).toList by decide
    · exact show '/' ∉ (String.ofList ("java".toList.dropWhile (· = '.'))).toList by decide
  have hslash : '/' ∉ ((b.evaluator c).materializer.fileName (simpleName entry)).toList := by
    rw [Materializer.fileName_eq, String.toList_append]
    exact List.not_mem_append h.plain (Materializer.slash_not_mem_ending hextension)
  have hjoin := Path.joinString_eq ((Materializer.isComponent_fileName_iff _ _).mpr hslash)
    ((b.evaluator c).materializer.directoryFor (b.tools.getDisk s))
  unfold sourcePath Materializer.pathOf
  unfold Materializer.directoryFor at hjoin ⊢
  rw [hjoin]
  refine ⟨?_, ?_⟩
  · rw [Path.parent, List.dropLast_concat]
  · rw [Path.name, List.getLast?_concat]
    rfl

end Copies

/-- To compile or to run a source leaves it in the directory of the sources, under the name that is
made of the simple name, with each line end made a line feed and every other byte as it was. So it
is there byte for byte just if it has no carriage return. An evaluation of the same text leaves
every byte. All that can change the file from the write on is what compiles it and what runs it. -/
theorem a_source_is_copied_as_it_is_but_for_carriage_returns {text : String}
    (h : b.Copies c a cwd entry directory content text q s) (json : Bool) :
    (b.sourcePath c entry s).parent =
      (b.evaluator c).materializer.directoryFor (b.tools.getDisk s) ∧
    (b.sourcePath c entry s).name = (b.evaluator c).materializer.fileName (simpleName entry) ∧
    b.Leaves c (copied a entry text directory) (b.sourcePath c entry s) q (Text.lineFeeds content) s
      (b.compile c a s).2 ∧
    b.Leaves c (copied a entry text directory) (b.sourcePath c entry s) q (Text.lineFeeds content) s
      (b.run c a cwd json s).2 ∧
    b.Leaves c (requestOf a entry text directory) (b.sourcePath c entry s) q content s
      (b.evaluate c (requestOf a entry text directory) s).2 ∧
    (Text.lineFeeds content = content ↔ 13 ∉ content) := by
  obtain ⟨hparent, hname⟩ := h.sourcePath_eq
  have hevaluate := h.evaluate text
  have hbytes : Text.Utf8.encodeString text = content :=
    (Text.Utf8.decode_eq_ok_iff.mp h.decodes).symm
  rw [hbytes] at hevaluate
  exact ⟨hparent, hname, h.compile, h.run json, hevaluate, Text.lineFeeds_eq_self_iff⟩

/-! ## A source with a carriage return -/

/-- A byte-order mark, and a line that ends in two characters. -/
def markedText : String := String.ofList ('\uFEFF' :: "x = 1\r\n".toList)

def markedBytes : Bytes := [0xEF, 0xBB, 0xBF, 0x78, 0x20, 0x3D, 0x20, 0x31, 13, 10]

/-- A current directory with such a source, and one for scratch space. -/
def markedSite : Site Nat :=
  ⟨{ root := .directory 493 0 [(['w'], .directory 493 0
        [(Octets.ofString "in.txt", .file markedBytes 420 0 0)]),
      (['t'], .directory 493 0 [])]
     current := [['w']]
     scratch := [['t']]
     scratchCount := 0
     groupCount := 0
     now := 0 }, 0⟩

def markedPlace : Place := [['w'], Octets.ofString "m$instrumented.py"]

theorem copies_marked : sampleBench.Copies .defaults sampleSource (some ".") "m"
    markedSite.disk.currentPath markedBytes markedText markedPlace markedSite where
  get_set _ _ := rfl
  entered := rfl
  named := by decide
  plain := by decide
  spelled := by decide
  readable := ⟨0, by decide +kernel⟩
  decodes := by decide +kernel
  placed := by rfl
  takes := by
    refine ⟨by decide +kernel, ?_, ?_⟩
    · have hplace : (markedSite.disk.openToWrite markedSite.disk.current Mode.usualMask true
          (sampleBench.sourcePath .defaults "m" markedSite).way.octets).map Prod.fst =
            .ok markedPlace := by decide +kernel
      obtain ⟨⟨_, opened⟩, hopen, rfl⟩ := exists_of_map_ok hplace
      exact ⟨opened, hopen⟩
    · rintro ⟨n, hn, -⟩
      have hnone : markedSite.disk.node? markedPlace = none := by decide +kernel
      cases hnone.symm.trans hn
  straight := by
    unfold Disk.LeadsRound
    decide +kernel

def markedRequest : Request := copied sampleSource "m" markedText markedSite.disk.currentPath

def markedPath : Path := sampleBench.sourcePath .defaults "m" markedSite

/-- The state with the source written, from which it is compiled. -/
def writtenSite : Site Nat :=
  ((sampleBench.evaluator .defaults).materialize markedRequest markedSite).2

def compiledSite : Except Fault Report × Site Nat :=
  (sampleBench.evaluator .defaults).compile markedRequest markedPath writtenSite

/-- Neither the compiler nor the executor touches the source. -/
theorem spares_marked :
    sampleBench.Spares .defaults markedRequest markedPath markedPlace writtenSite := by
  have hexecutor : ∀ report ∈ compiledSite.1.toOption,
      ((sampleBench.evaluator .defaults).execute markedRequest report
        compiledSite.2).2.disk.contentAt? markedPlace =
        compiledSite.2.disk.contentAt? markedPlace := by decide +kernel
  exact ⟨by decide +kernel, fun report hreport => hexecutor report
    (congrArg Except.toOption hreport)⟩

/-- The mark stays, and the carriage return goes. -/
theorem a_marked_source_is_copied :
    sampleBench.Copies .defaults sampleSource (some ".") "m" markedSite.disk.currentPath markedBytes
      markedText markedPlace markedSite ∧
    sampleBench.Spares .defaults markedRequest markedPath markedPlace writtenSite ∧
    (sampleBench.run .defaults sampleSource (some ".") true markedSite).2.disk.contentAt?
      markedPlace = some [0xEF, 0xBB, 0xBF, 0x78, 0x20, 0x3D, 0x20, 0x31, 10] := by
  obtain ⟨-, -, -, hrun, -⟩ :=
    a_source_is_copied_as_it_is_but_for_carriage_returns copies_marked true
  obtain ⟨s₁, -, -, hmaterialize, -⟩ := hrun.written
  have hwritten : s₁ = writtenSite := congrArg Prod.snd hmaterialize.symm
  have hbytes : Text.lineFeeds markedBytes =
      [0xEF, 0xBB, 0xBF, 0x78, 0x20, 0x3D, 0x20, 0x31, 10] := by decide
  exact ⟨copies_marked, spares_marked,
    hbytes ▸ hrun.kept s₁ hmaterialize (hwritten ▸ spares_marked)⟩

/-- What a command does with a source with a carriage return, and what an evaluation does. -/
theorem a_carriage_return_is_lost_on_the_way :
    let target := (sampleBench.sourcePath .defaults "m" markedSite).way.octets
    let source := (Path.ofString sampleSource.source).way.octets
    let compiled := (sampleBench.compile .defaults sampleSource markedSite).2.disk
    let ran := (sampleBench.run .defaults sampleSource (some ".") false markedSite).2.disk
    let evaluated := (sampleBench.evaluate .defaults
      (requestOf sampleSource "m" markedText markedSite.disk.currentPath) markedSite).2.disk
    markedSite.disk.readFile source = .ok (markedBytes, 0) ∧
    compiled.readFile source = .ok (markedBytes, 0) ∧
    compiled.readFile target = .ok ([0xEF, 0xBB, 0xBF, 0x78, 0x20, 0x3D, 0x20, 0x31, 10], 0) ∧
    ran.readFile target = .ok ([0xEF, 0xBB, 0xBF, 0x78, 0x20, 0x3D, 0x20, 0x31, 10], 0) ∧
    evaluated.readFile target = .ok (markedBytes, 0) := by
  decide +kernel

end Cli.Workbench

end Worksheet
