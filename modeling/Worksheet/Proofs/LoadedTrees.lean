-- What a load brings into memory. A tree of directories and regular files that may all be read is
-- listed place by place, and each of its files is written under the text of its place.
import Worksheet.Number.Double
import Worksheet.Proofs.ArtifactKeys
import Worksheet.Proofs.RootedPaths

namespace Worksheet

open Text (Bytes Octets Points)

/-- How many octets the absolute path of a place has. -/
def Place.span (place : Place) : Nat := total (place.map fun c => c.length + 1)

theorem Place.length_intercalate {place : Place} (h : place ≠ []) :
    (['/'].intercalate place).length + 1 = place.span := by
  induction place with
  | nil => exact absurd rfl h
  | cons c rest ih =>
    unfold span at ih ⊢
    rw [List.map_cons, total]
    by_cases hnil : rest = []
    · subst hnil
      simp [total]
    · rw [List.intercalate_cons_of_ne_nil hnil, ← ih hnil]
      simp only [List.length_append, List.length_singleton]
      omega

theorem Place.span_dropLast_le (place : Place) : Place.span place.dropLast ≤ place.span := by
  induction place with
  | nil => exact Nat.le_refl _
  | cons c rest ih =>
    by_cases hnil : rest = []
    · subst hnil
      exact Nat.zero_le _
    · rw [List.dropLast_cons_of_ne_nil hnil]
      unfold span at ih ⊢
      rw [List.map_cons, List.map_cons, total, total]
      omega

/-! ## Listed places -/

namespace Node

variable {n m : Node} {p below : Place} {c : Octets}

theorem mem_placesAmong {room : Nat} {enters : Bool} {entries : List (Octets × Node)} :
    below ∈ placesAmong room enters entries ↔ ∃ e ∈ entries, below = [e.1] ∨
      enters = true ∧ ∃ rest ∈ e.2.placesBelow (room - (e.1.length + 1)), below = e.1 :: rest := by
  induction entries with
  | nil => simp [placesAmong]
  | cons e entries ih =>
    obtain ⟨name, n⟩ := e
    unfold placesAmong
    rw [List.cons_append, List.mem_cons, List.mem_append, ih]
    cases enters <;> simp [eq_comm, or_assoc]

/-- A directory that may be listed and passed, or a regular file that may be read. -/
def IsLegible : Node → Prop
  | .directory mode _ _ => mode.allows .read = true ∧ mode.allows .run = true
  | .file _ mode _ _ => mode.allows .read = true
  | _ => False

theorem isLegible_face (n : Node) : n.face.IsLegible ↔ n.IsLegible := by
  cases n <;> rfl

/-- A tree of directories and regular files that may all be read. Each of them has a name that a
file can have, and no directory lists a name twice. -/
structure Orderly (n : Node) : Prop where
  once : ∀ p m, n.at? p = some m → m.names.Nodup
  legible : ∀ p m, n.at? p = some m → m.IsLegible
  legal : ∀ p, (n.at? p).isSome = true → ∀ c ∈ p, Disk.IsLegal c

theorem Orderly.at? (h : n.Orderly) (hm : n.at? p = some m) : m.Orderly := by
  have hall : ∀ q, n.at? (p ++ q) = m.at? q := fun q => by
    rw [at?_append, hm]
    rfl
  exact ⟨fun q k hk => h.once (p ++ q) k ((hall q).trans hk),
    fun q k hk => h.legible (p ++ q) k ((hall q).trans hk),
    fun q hq c hc => h.legal (p ++ q) (by rwa [hall]) c (List.mem_append_right p hc)⟩

theorem Orderly.child? (h : n.Orderly) (hm : n.child? c = some m) : m.Orderly := by
  have hat : n.at? [c] = some m := by
    rw [at?_cons, hm]
    rfl
  exact h.at? hat

theorem Orderly.child?_iff (h : n.Orderly) : n.child? c = some m ↔ (c, m) ∈ n.entries :=
  lookup_eq_some_iff_mem (h.once [] n rfl)

/-- In such a tree, something stands at each place that is listed. -/
theorem Orderly.stands_of_mem_placesBelow (h : n.Orderly) {room : Nat}
    (hmem : below ∈ n.placesBelow room) : below ≠ [] ∧ (n.at? below).isSome = true := by
  induction below generalizing n room with
  | nil =>
    cases n with
    | directory mode modified entries =>
      unfold placesBelow at hmem
      split at hmem
      · cases hmem
      · obtain ⟨e, -, heq | ⟨-, rest, -, heq⟩⟩ := mem_placesAmong.mp hmem <;> cases heq
    | _ => cases hmem
  | cons c rest ih =>
    refine ⟨List.cons_ne_nil c rest, ?_⟩
    rw [at?_cons]
    cases n with
    | directory mode modified entries =>
      unfold placesBelow at hmem
      split at hmem
      · cases hmem
      obtain ⟨e, he, heq | ⟨-, further, hfurther, heq⟩⟩ := mem_placesAmong.mp hmem <;>
        obtain ⟨rfl, rfl⟩ := List.cons.inj heq <;> rw [h.child?_iff.mpr he]
      · rfl
      · exact (ih (h.child? (h.child?_iff.mpr he)) hfurther).2
    | _ => cases hmem

/-- What stands there is listed, if there is room for the path of the directory that it is in. -/
theorem Orderly.mem_placesBelow (h : n.Orderly) {room : Nat} (hne : below ≠ [])
    (hstands : (n.at? below).isSome = true) (hroom : Place.span below.dropLast < room) :
    below ∈ n.placesBelow room := by
  induction below generalizing n room with
  | nil => exact absurd rfl hne
  | cons c rest ih =>
    rw [at?_cons] at hstands
    obtain ⟨m', hm'⟩ := Option.isSome_iff_exists.mp hstands
    obtain ⟨m, hchild, hrest⟩ := Option.bind_eq_some_iff.mp hm'
    cases n with
    | directory mode modified entries =>
      obtain ⟨hread, hrun⟩ := h.legible [] _ rfl
      have hpositive : room ≠ 0 := Nat.ne_zero_of_lt hroom
      unfold placesBelow
      rw [if_neg (by simp [hpositive, hread]), mem_placesAmong, hrun]
      refine ⟨(c, m), h.child?_iff.mp hchild, ?_⟩
      by_cases hnil : rest = []
      · exact Or.inl (by rw [hnil])
      · refine Or.inr ⟨rfl, rest, ih (h.child? hchild) hnil
          (Option.isSome_of_eq_some hrest) ?_, rfl⟩
        rw [List.dropLast_cons_of_ne_nil hnil] at hroom
        unfold Place.span at hroom ⊢
        rw [List.map_cons, total] at hroom
        dsimp only
        omega
    | _ => cases hchild

theorem Orderly.mem_placesBelow_iff (h : n.Orderly) {room : Nat}
    (hroom : ∀ p, (n.at? p).isSome = true → p.span < room) :
    below ∈ n.placesBelow room ↔ below ≠ [] ∧ (n.at? below).isSome = true :=
  ⟨h.stands_of_mem_placesBelow, fun ⟨hne, hstands⟩ => h.mem_placesBelow hne hstands
    (Nat.lt_of_le_of_lt below.span_dropLast_le (hroom below hstands))⟩

/-! ## Small trees -/

/-- Nothing is below a file. -/
theorem eq_of_at?_file {content : Bytes} {mode : Mode} {time : Int} {group : Nat}
    (h : (Node.file content mode time group).at? p = some m) :
    p = [] ∧ m = .file content mode time group := by
  cases p with
  | nil => exact ⟨rfl, (Option.some.inj h).symm⟩
  | cons c rest => cases h

/-- In a directory with one entry is the entry, and what is below it. -/
theorem cases_of_at?_single {mode : Mode} {time : Int}
    (h : (Node.directory mode time [(c, n)]).at? p = some m) :
    p = [] ∧ m = .directory mode time [(c, n)] ∨ ∃ rest, p = c :: rest ∧ n.at? rest = some m := by
  cases p with
  | nil => exact Or.inl ⟨rfl, (Option.some.inj h).symm⟩
  | cons b rest =>
    rw [at?_cons] at h
    obtain ⟨child, hchild, hrest⟩ := Option.bind_eq_some_iff.mp h
    have honce : ([(c, n)].map (·.1)).Nodup := List.pairwise_singleton _ c
    have hentry := (lookup_eq_some_iff_mem honce).mp hchild
    obtain ⟨rfl, rfl⟩ := Prod.mk.inj (List.mem_singleton.mp hentry)
    exact Or.inr ⟨rest, rfl, hrest⟩

/-! ## Files of a tree -/

/-- The content of a file. -/
def content? : Node → Option Bytes
  | .file content .. => some content
  | _ => none

/-- The file at a place of a tree, with its place. -/
def fileAt? (n : Node) (below : Place) : Option (Place × Bytes) :=
  ((n.at? below).bind content?).map (below, ·)

theorem fileAt?_eq_some_iff {found : Place} {data : Bytes} :
    n.fileAt? found = some (below, data) ↔
      found = below ∧ ∃ mode time group, n.at? below = some (.file data mode time group) := by
  unfold fileAt?
  constructor
  · intro h
    obtain ⟨content, hcontent, heq⟩ := Option.map_eq_some_iff.mp h
    cases heq
    obtain ⟨m, hm, hfile⟩ := Option.bind_eq_some_iff.mp hcontent
    cases m <;> cases hfile
    exact ⟨rfl, _, _, _, hm⟩
  · rintro ⟨rfl, mode, time, group, hat⟩
    rw [hat]
    rfl

/-- The files of a tree by their places, in the order in which they are loaded. -/
def listedFiles (n : Node) : List (Place × Bytes) :=
  ((n.placesBelow (Disk.maxPathBytes + 2)).mergeSort Artifacts.placeLE).filterMap n.fileAt?

theorem Orderly.mem_listedFiles_iff (h : n.Orderly) (hdir : n.isDirectory = true)
    (hroom : ∀ p, (n.at? p).isSome = true → p.span < Disk.maxPathBytes + 2) {data : Bytes} :
    (below, data) ∈ n.listedFiles ↔
      ∃ mode time group, n.at? below = some (.file data mode time group) := by
  unfold listedFiles
  rw [List.mem_filterMap]
  constructor
  · rintro ⟨found, -, hfound⟩
    exact (fileAt?_eq_some_iff.mp hfound).2
  · rintro ⟨mode, time, group, hat⟩
    refine ⟨below, List.mem_mergeSort.mpr ((h.mem_placesBelow_iff hroom).mpr ⟨?_, ?_⟩),
      fileAt?_eq_some_iff.mpr ⟨rfl, mode, time, group, hat⟩⟩
    · rintro rfl
      cases hat
      cases hdir
    · exact Option.isSome_of_eq_some hat

end Node

/-! ## Texts of names -/

namespace Text.FileName

theorem pointsAfter_encodeChars (cs : List Char) :
    pointsAfter (Utf8.encodeChars cs)
        (cs.map fun c => ⟨(Utf8.encodePoint c.toNat).length, .ok c⟩) = Points.ofChars cs := by
  induction cs with
  | nil => rfl
  | cons c cs ih =>
    have hcons : Utf8.encodeChars (c :: cs) = Utf8.encodePoint c.toNat ++ Utf8.encodeChars cs := rfl
    rw [List.map_cons, hcons]
    unfold pointsAfter
    rw [List.drop_left, ih]
    rfl

/-- The name of a text without surrogates is read as this text. -/
theorem points_ofString (s : String) : points (Octets.ofString s) = Points.ofString s := by
  unfold points Octets.ofString Utf8.encodeString Utf8.pieces
  dsimp only
  rw [Octets.toBytes_ofBytes, Utf8.piecesAfter_encodeChars, List.reverse_nil, List.nil_append]
  exact pointsAfter_encodeChars s.toList

end Text.FileName

/-! ## Loading -/

namespace Artifacts

/-- The text of a place below a root. -/
def placeText (below : Place) : Points := [slash].intercalate (below.map Text.FileName.points)

/-- Files with the texts of their places. -/
def byText (files : List (Place × Bytes)) : List (Points × Bytes) :=
  files.map fun f => (placeText f.1, f.2)

/-- Writes files under the texts of their places. -/
def writePlaces (a : Artifacts) (files : List (Place × Bytes)) : Except ArtifactFault Artifacts :=
  files.foldlM (fun a f => a.write (placeText f.1) f.2) a

variable {d : Disk} {root : Path} {base : Place} {n : Node}

/-- A tree that can be loaded: it is orderly, its paths are not too long, and its directories lie
not too deep. -/
structure Loadable (root : Path) (n : Node) : Prop where
  directory : n.isDirectory = true
  orderly : n.Orderly
  short : ∀ below, (n.at? below).isSome = true →
    (wayBelow root below).octets.length ≤ Disk.maxPathBytes
  shallow : ∀ below m, n.at? below = some m → m.isDirectory = true →
    below.length ≤ maxListedLevels

theorem span_lt_of_short {p : Place} (hnamed : Disk.Named p)
    (hshort : (wayBelow root p).octets.length ≤ Disk.maxPathBytes) :
    p.span < Disk.maxPathBytes + 2 := by
  by_cases hnil : p = []
  · subst hnil
    exact Nat.succ_pos _
  · have hlength := Nat.le_trans
      (Disk.length_octets_le root.anchor root.way.parts hnil hnamed).2 hshort
    have hoctets : Way.octets ⟨.current, p⟩ = ['/'].intercalate p := by
      unfold Way.octets
      simp [hnil, Anchor.text]
    rw [hoctets] at hlength
    have hspan := Place.length_intercalate hnil
    omega

theorem Loadable.span_lt (h : Loadable root n) (p : Place) (hp : (n.at? p).isSome = true) :
    p.span < Disk.maxPathBytes + 2 :=
  span_lt_of_short (fun c hc => (h.orderly.legal p hp c hc).named) (h.short p hp)

/-- Everything in a tree that may be read is found by its path, if this is not too long. -/
theorem statWith_of_short (horderly : n.Orderly) (hleads : d.LeadsTo root base)
    (hbase : d.node? base = some n) {below : Place} {m : Node} (hne : below ≠ [])
    (hm : n.at? below = some m)
    (hshort : (wayBelow root below).octets.length ≤ Disk.maxPathBytes) (follow : Bool) :
    d.statWith follow d.current (wayBelow root below).octets = .ok (base ++ below, m) := by
  have hall := Disk.node?_append hbase
  have hon : d.Onward base below := by
    rintro front c back rfl
    obtain ⟨k, hk, hdir⟩ := Node.isDirectory_of_at? hm (List.cons_ne_nil c back)
    have hlegible := horderly.legible front k hk
    refine ⟨k, (hall front).trans hk, hdir, ?_⟩
    cases k with
    | directory mode modified entries => exact hlegible.2
    | _ => cases hdir
  have hnode := (hall below).trans hm
  have hlocate : d.locateWith follow d.current _ = .ok _ :=
    hleads.locateWith_onward (horderly.legal below (Option.isSome_of_eq_some hm)) hne hshort hon
      fun target time hlink => by
        cases hnode.symm.trans hlink
        exact (horderly.legible below _ hm).elim
  unfold Disk.statWith
  simp only [hlocate, hnode]

theorem Loadable.statWith (h : Loadable root n) (hleads : d.LeadsTo root base)
    (hbase : d.node? base = some n) {below : Place} {m : Node} (hne : below ≠ [])
    (hm : n.at? below = some m) (follow : Bool) :
    d.statWith follow d.current (wayBelow root below).octets = .ok (base ++ below, m) :=
  statWith_of_short h.orderly hleads hbase hne hm (h.short below (Option.isSome_of_eq_some hm))
    follow

/-- Nothing in the tree is a reason not to look on. -/
theorem Loadable.lookFault?_eq_none (h : Loadable root n) (hleads : d.LeadsTo root base)
    (hbase : d.node? base = some n) {below : Place} {m : Node} (hne : below ≠ [])
    (hm : n.at? below = some m) : lookFault? d root below = none := by
  have hlegible := h.orderly.legible below m hm
  unfold lookFault?
  dsimp only
  rw [h.statWith hleads hbase hne hm]
  cases m with
  | directory mode modified entries =>
    have hlevels := h.shallow below _ hm rfl
    simp [Node.isDirectory, Nat.not_lt.mpr hlevels]
  | file content mode modified group => rfl
  | _ => exact hlegible.elim

theorem Loadable.contentBelow_eq (h : Loadable root n) (hleads : d.LeadsTo root base)
    (hbase : d.node? base = some n) {below : Place} {m : Node} (hne : below ≠ [])
    (hm : n.at? below = some m) :
    contentBelow d root below = .ok m.content? := by
  have hlegible := h.orderly.legible below m hm
  have hstat : d.stat (wayBelow root below).octets = .ok (base ++ below, m) :=
    h.statWith hleads hbase hne hm true
  unfold contentBelow
  dsimp only
  rw [hstat]
  cases m with
  | directory mode modified entries => rfl
  | file content mode modified group =>
    have hread : (Node.file content mode modified group).allows .read = true := hlegible
    unfold Disk.readFile Disk.openToRead
    rw [show d.statFrom d.current (wayBelow root below).octets = _ from hstat]
    simp [Disk.isRegular, hread, Node.content?]
  | _ => exact hlegible.elim

theorem Loadable.loadFiles_eq (h : Loadable root n) (hleads : d.LeadsTo root base)
    (hbase : d.node? base = some n) {found : List Place}
    (hfound : ∀ below ∈ found, below ≠ [] ∧ (n.at? below).isSome = true) (a : Artifacts) :
    loadFiles d root found a = a.writePlaces (found.filterMap n.fileAt?) := by
  induction found generalizing a with
  | nil => rfl
  | cons below rest ih =>
    obtain ⟨hne, hstands⟩ := hfound below (List.mem_cons_self ..)
    obtain ⟨m, hm⟩ := Option.isSome_iff_exists.mp hstands
    have hrest := ih fun other hother => hfound other (List.mem_cons_of_mem _ hother)
    have hthis : n.fileAt? below = m.content?.map (below, ·) := by
      unfold Node.fileAt?
      rw [hm]
      rfl
    unfold loadFiles
    rw [h.contentBelow_eq hleads hbase hne hm, List.filterMap_cons, hthis]
    cases m.content? with
    | none => exact hrest a
    | some content =>
      unfold writePlaces
      rw [Option.map_some, List.foldlM_cons]
      have htext : [slash].intercalate (below.map Text.FileName.points) = placeText below := rfl
      dsimp only
      rw [htext]
      cases a.write (placeText below) content with
      | ok a' => exact hrest a'
      | error e => rfl

/-- A tree that can be loaded is loaded file by file. -/
theorem Loadable.load_eq (h : Loadable root n) (hleads : d.LeadsTo root base)
    (hbase : d.node? base = some n) (name : String) :
    load d root name = (empty name).writePlaces n.listedFiles := by
  have hfound : ∀ below ∈ n.placesBelow (Disk.maxPathBytes + 2),
      below ≠ [] ∧ (n.at? below).isSome = true := fun below =>
    (h.orderly.mem_placesBelow_iff h.span_lt).mp
  have hlook : (n.placesBelow (Disk.maxPathBytes + 2)).findSome? (lookFault? d root) = none := by
    refine List.findSome?_eq_none_iff.mpr fun below hbelow => ?_
    obtain ⟨hne, hstands⟩ := hfound below hbelow
    obtain ⟨m, hm⟩ := Option.isSome_iff_exists.mp hstands
    exact h.lookFault?_eq_none hleads hbase hne hm
  unfold load
  rw [hleads.stat hbase]
  dsimp only
  rw [hlook]
  exact h.loadFiles_eq hleads hbase
    (fun below hbelow => hfound below (List.mem_mergeSort.mp hbelow)) _

theorem Loadable.mem_byText_iff (h : Loadable root n) {f : Points × Bytes} :
    f ∈ byText n.listedFiles ↔ ∃ below mode time group,
      n.at? below = some (.file f.2 mode time group) ∧ f.1 = placeText below := by
  have hlisted : ∀ {below data}, (below, data) ∈ n.listedFiles ↔
      ∃ mode time group, n.at? below = some (.file data mode time group) :=
    h.orderly.mem_listedFiles_iff h.directory h.span_lt
  unfold byText
  rw [List.mem_map]
  constructor
  · rintro ⟨⟨below, data⟩, hl, rfl⟩
    obtain ⟨mode, time, group, hat⟩ := hlisted.mp hl
    exact ⟨below, mode, time, group, hat, rfl⟩
  · rintro ⟨below, mode, time, group, hat, htext⟩
    exact ⟨(below, f.2), hlisted.mpr ⟨mode, time, group, hat⟩, Prod.ext htext.symm rfl⟩

/-- When every place is the text of a key, the files are all written. -/
theorem writePlaces_eq {files : List (Place × Bytes)}
    (h : ∀ f ∈ files, (key? (placeText f.1)).isSome = true) (a : Artifacts) :
    a.writePlaces files = .ok (a.afterWrites (byText files)) := by
  induction files generalizing a with
  | nil => rfl
  | cons f rest ih =>
    obtain ⟨k, hk⟩ := Option.isSome_iff_exists.mp (h f (List.mem_cons_self ..))
    have hwrite := write_of_key hk a f.2
    have htry : a.tryWrite (placeText f.1, f.2) = { a with files := setFile k f.2 a.files } := by
      unfold tryWrite
      rw [hwrite]
    unfold writePlaces at ih ⊢
    rw [List.foldlM_cons, hwrite]
    unfold byText afterWrites at ih ⊢
    rw [List.map_cons, List.foldl_cons, htry]
    exact ih (fun f hf => h f (List.mem_cons_of_mem _ hf)) _

/-! ## Names that can be in keys -/

/-- The name of a file whose text can be a component of a key, and is the text of no other name. -/
structure IsKeyName (c : Octets) : Prop where
  part : IsKeyPart (Text.FileName.points c)
  down : Text.FileName.points c ≠ parentPart
  readBack : Text.FileName.ofPoints (Text.FileName.points c) = c

theorem isKeyName_ofString {s : String} (h : IsFileName s) : IsKeyName (Octets.ofString s) := by
  have hpoints := Text.FileName.points_ofString s
  refine ⟨hpoints ▸ isKeyPart_ofString h, fun hparent => h.2.1 ?_, ?_⟩
  · exact Points.ofString_inj (hpoints.symm.trans hparent)
  · rw [hpoints, Text.FileName.ofPoints_ofString]

section Keys

variable {p q : Place} (hp : ∀ c ∈ p, IsKeyName c) (hne : p ≠ [])

include hne in
theorem joinParts_points : joinParts (p.map Text.FileName.points) = placeText p :=
  if_neg (mt List.map_eq_nil_iff.mp hne)

include hp hne

theorem partsOf_placeText : partsOf (placeText p) = p.map Text.FileName.points := by
  rw [← joinParts_points hne]
  refine partsOf_joinParts fun part hpart => ?_
  obtain ⟨c, hc, rfl⟩ := List.mem_map.mp hpart
  exact (hp c hc).part

theorem key?_placeText : key? (placeText p) = some (placeText p) := by
  rw [← joinParts_points hne]
  refine key?_of_canonical (canonical_joinParts (fun part hpart => ?_) fun hparent => ?_)
  · obtain ⟨c, hc, rfl⟩ := List.mem_map.mp hpart
    exact (hp c hc).part
  · obtain ⟨c, hc, heq⟩ := List.mem_map.mp hparent
    exact (hp c hc).down heq

theorem names_placeText : names (placeText p) = p := by
  unfold names
  rw [partsOf_placeText hp hne, List.map_map]
  exact (List.map_congr_left fun c hc => (hp c hc).readBack).trans (List.map_id _)

theorem placeText_inj (hq : ∀ c ∈ q, IsKeyName c) (hne' : q ≠ [])
    (h : placeText p = placeText q) : p = q := by
  rw [← names_placeText hp hne, h, names_placeText hq hne']

end Keys

/-- Artifacts mirror a tree: they are its files, each with the text of its place for a key, which is
that of no other file. -/
structure Mirrors (a : Artifacts) (n : Node) : Prop where
  files : ∀ f, f ∈ a.files ↔ ∃ below mode time group,
    n.at? below = some (.file f.2 mode time group) ∧ f.1 = placeText below
  single : (a.files.map (·.1)).Nodup
  own : ∀ below below' m m', n.at? below = some m → n.at? below' = some m' →
    m.isDirectory = false → m'.isDirectory = false → placeText below = placeText below' →
      below = below'

/-- What is loaded of a tree whose files have names that can be in keys are its files. -/
theorem Loadable.mirrors_load (h : Loadable root n) (hleads : d.LeadsTo root base)
    (hbase : d.node? base = some n)
    (hnames : ∀ p m, n.at? p = some m → m.isDirectory = false → ∀ c ∈ p, IsKeyName c)
    (name : String) : ∃ a, load d root name = .ok a ∧ a.Mirrors n := by
  have hfile : ∀ {below m}, n.at? below = some m → m.isDirectory = false →
      below ≠ [] ∧ ∀ c ∈ below, IsKeyName c := by
    refine fun hm hdir => ⟨?_, hnames _ _ hm hdir⟩
    rintro rfl
    cases hm
    cases h.directory.symm.trans hdir
  have hown : ∀ below below' m m', n.at? below = some m → n.at? below' = some m' →
      m.isDirectory = false → m'.isDirectory = false → placeText below = placeText below' →
        below = below' := by
    intro below below' m m' hm hm' hdir hdir' heq
    obtain ⟨hne, hkeys⟩ := hfile hm hdir
    obtain ⟨hne', hkeys'⟩ := hfile hm' hdir'
    exact placeText_inj hkeys hne hkeys' hne' heq
  have hkey : ∀ w ∈ byText n.listedFiles, key? w.1 = some w.1 := by
    intro w hw
    obtain ⟨below, mode, time, group, hat, htext⟩ := h.mem_byText_iff.mp hw
    obtain ⟨hne, hkeys⟩ := hfile hat rfl
    rw [htext, key?_placeText hkeys hne]
  have hreflects := reflects_afterWrites name (byText n.listedFiles)
  refine ⟨_, ?_, fun f => ?_, hreflects.single, hown⟩
  · rw [h.load_eq hleads hbase, writePlaces_eq]
    exact fun l hl => Option.isSome_of_eq_some (hkey _ (List.mem_map_of_mem hl))
  · rw [← h.mem_byText_iff]
    refine hreflects.mem_files_iff hkey (fun w hw w' hw' heq => ?_) f
    obtain ⟨below, mode, time, group, hat, htext⟩ := h.mem_byText_iff.mp hw
    obtain ⟨below', mode', time', group', hat', htext'⟩ := h.mem_byText_iff.mp hw'
    obtain rfl := hown _ _ _ _ hat hat' rfl rfl (htext.symm.trans (heq.trans htext'))
    have hsame := Option.some.inj (hat.symm.trans hat')
    injection hsame

end Artifacts

end Worksheet
