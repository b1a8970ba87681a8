-- Disks without links, on which every source and every bytecode file has one name. A path leads to
-- where its components lead, and what is put at a place changes no file elsewhere.
import Worksheet.Disk.Access
import Worksheet.Evaluate.Locks
import Worksheet.Proofs.PathForm
import Worksheet.Proofs.TreeEdits

namespace Worksheet

open Text (Bytes Octets)

/-! ## Plain trees -/

/-- The ending of the names of sources. -/
def sourceEnding : Octets := Octets.ofString (instrumentedSuffix ++ ".py")

/-- The ending of the names of bytecode files. -/
def bytecodeEnding : Octets := Octets.ofString ".pyc"

/-- The place has the name of a source or of a bytecode file. -/
def Place.IsGenerated (place : Place) : Prop :=
  ∃ above name, place = above ++ [name] ∧ (sourceEnding <:+ name ∨ bytecodeEnding <:+ name)

namespace Node

/-- A directory, or a file of one name. -/
def IsOrdinary : Node → Prop
  | .directory .. => True
  | .file _ _ _ group => group = 0
  | _ => False

/-- No link is in the tree, and what has the name of a source or of a bytecode file is a directory
or a file that has no other name. -/
structure Plain (root : Node) : Prop where
  noLink : ∀ p target time, root.at? p ≠ some (.link target time)
  ordinary : ∀ p n, p.IsGenerated → root.at? p = some n → n.IsOrdinary

/-- What an evaluation puts into a tree: an empty directory, or a file of one name. -/
def IsNew : Node → Prop
  | .directory _ _ entries => entries = []
  | .file _ _ _ group => group = 0
  | _ => False

theorem IsNew.isLeaf {node : Node} (h : node.IsNew) : node.IsLeaf := by
  intro p hp
  cases p with
  | nil => exact absurd rfl hp
  | cons c p =>
    rw [at?_cons]
    cases node with
    | directory mode modified entries =>
      cases h
      rfl
    | file content mode modified group => rfl
    | _ => cases h

theorem IsNew.group {node : Node} (h : node.IsNew) : node.group = 0 := by
  cases node with
  | directory mode modified entries => rfl
  | file content mode modified group => exact h
  | _ => cases h

theorem IsNew.isOrdinary {node : Node} (h : node.IsNew) : node.IsOrdinary := by
  cases node with
  | directory mode modified entries => trivial
  | file content mode modified group => exact h
  | _ => cases h

/-- What is new and all alone is a plain tree. -/
theorem IsNew.plain {node : Node} (h : node.IsNew) : node.Plain := by
  refine ⟨fun p target time hlink => ?_, fun p n hname hn => ?_⟩
  · by_cases hp : p = []
    · subst hp
      cases hlink
      exact h
    · rw [h.isLeaf p hp] at hlink
      cases hlink
  · obtain ⟨above, name, rfl, -⟩ := hname
    rw [h.isLeaf _ (by simp)] at hn
    cases hn

theorem isOrdinary_of_isDirectory {n : Node} (h : n.isDirectory = true) : n.IsOrdinary := by
  cases n with
  | directory mode modified entries => trivial
  | _ => cases h

/-- A tree stays plain when all that is new in it, directories apart, is. -/
theorem Plain.of_subset {root root' : Node} (h : root.Plain)
    (hnew : ∀ p n, root'.at? p = some n → n.isDirectory = false →
      n.IsNew ∨ root.at? p = some n) : root'.Plain := by
  refine ⟨?_, ?_⟩
  · intro p target time hlink
    rcases hnew p _ hlink rfl with hcontra | hold
    · exact hcontra
    · exact h.noLink p target time hold
  · intro p n hname hn
    cases hdir : n.isDirectory with
    | true => exact isOrdinary_of_isDirectory hdir
    | false =>
      rcases hnew p n hn hdir with hfresh | hold
      · exact hfresh.isOrdinary
      · exact h.ordinary p n hname hold

theorem Plain.put {root node : Node} (h : root.Plain) (hnode : node.IsNew) (now : Int)
    (place : Place) : (Node.put now node place root).Plain := by
  refine h.of_subset fun p n hn hdir => ?_
  rcases at?_of_at?_put hnode.isLeaf hn hdir with ⟨-, rfl⟩ | hold
  · exact Or.inl hnode
  · exact Or.inr hold

theorem Plain.erase {root : Node} (h : root.Plain) (now : Int) (place : Place) :
    (Node.erase now place root).Plain :=
  h.of_subset fun _ _ hn hdir => Or.inr (at?_of_at?_erase hn hdir)

end Node

/-! ## Where paths lead -/

namespace Disk

variable {d : Disk}

theorem ne_nil_of_mem_components {raw c : Octets} (h : c ∈ components raw) : c ≠ [] := by
  have hkept := (List.mem_filter.mp h).2
  simpa using hkept

/-- A walk that fails, or comes to a place; there is no link on it. -/
def WalkEnd.Leads (place : Place) : WalkEnd → Prop
  | .reached found => found = place
  | .failed _ => True
  | .link .. => False

/-- A walk in a plain tree comes to where its components lead. -/
theorem walkToLink_leads {root : Node} (h : root.Plain) (follow : Bool) (parts : List Octets)
    (hparts : ∀ c ∈ parts, c ≠ []) (back : List Octets) (here : Node)
    (hhere : root.at? back.reverse = some here) :
    (walkToLink root follow back here parts).Leads (Place.settle back.reverse parts) := by
  induction parts generalizing back here with
  | nil => rfl
  | cons c rest ih =>
    have hrest : ∀ b ∈ rest, b ≠ [] := fun b hb => hparts b (List.mem_cons_of_mem _ hb)
    have hnext : ∀ n, here.child? c = some n → root.at? (c :: back).reverse = some n := by
      intro n hn
      rw [List.reverse_cons, Node.at?_append, hhere, Option.bind_some, Node.at?_cons, hn]
      rfl
    unfold walkToLink
    split
    · trivial
    split
    · trivial
    by_cases hpoint : c = ['.']
    · rw [if_pos hpoint, hpoint, Place.settle_point]
      exact ih hrest back here hhere
    rw [if_neg hpoint]
    by_cases hpoints : c = ['.', '.']
    · rw [if_pos hpoints, hpoints, Place.settle_points, List.dropLast_reverse]
      cases habove : root.at? back.tail.reverse with
      | none => trivial
      | some above => exact ih hrest back.tail above habove
    rw [if_neg hpoints, Place.settle_name _ _ (hparts c (List.mem_cons_self ..)) hpoint hpoints,
      ← List.reverse_cons]
    split
    · trivial
    cases hchild : here.child? c with
    | none =>
      cases rest with
      | nil => rfl
      | cons b rest => trivial
    | some n =>
      have hstep := ih hrest (c :: back) n (hnext n hchild)
      cases n with
      | link target time => exact absurd (hnext _ hchild) (h.noLink _ _ _)
      | _ => exact hstep

theorem locateWith_of_plain (h : d.root.Plain) {follow : Bool} {directory place : Place}
    {raw : Octets} (hplace : d.locateWith follow directory raw = .ok place) :
    place = Place.settle (if isAbsolute raw then [] else directory) (components raw) := by
  unfold locateWith at hplace
  split at hplace
  · cases hplace
  split at hplace
  · cases hplace
  have hwalk : ∀ follow start found,
      walk d.root follow (maxLinks + 1) start (components raw) = .ok found →
        found = Place.settle start (components raw) := by
    intro follow start found hfound
    unfold walk at hfound
    cases hstart : d.root.at? start with
    | none => simp [hstart] at hfound
    | some here =>
      have hleads := walkToLink_leads h follow (components raw)
        (fun _ hc => ne_nil_of_mem_components hc) start.reverse here (by simpa using hstart)
      rw [List.reverse_reverse] at hleads
      simp only [hstart] at hfound
      split at hfound
      · rename_i hend
        rw [hend] at hleads
        cases hfound
        exact hleads
      · cases hfound
      · rename_i hend
        rw [hend] at hleads
        exact hleads.elim
  simp only at hplace
  split at hplace
  · cases hplace
  · rename_i found hfound
    have hsettled := hwalk _ _ _ hfound
    split at hplace
    · split at hplace
      · split at hplace
        · cases hplace
          exact hsettled
        · cases hplace
      · cases hplace
    · cases hplace
      exact hsettled

theorem locateWith_way (h : d.root.Plain) {follow : Bool} {w : Way} (hw : w.Named)
    {place : Place} (hplace : d.locateWith follow d.current w.octets = .ok place) :
    place = w.destination d.current := by
  rw [locateWith_of_plain h hplace, w.settle_octets hw]

theorem node?_of_statWith {follow : Bool} {directory place : Place} {raw : Octets} {n : Node}
    (h : d.statWith follow directory raw = .ok (place, n)) :
    d.locateWith follow directory raw = .ok place ∧ d.node? place = some n := by
  unfold statWith at h
  split at h
  · cases h
  · rename_i found hfound
    split at h
    · rename_i m hm
      cases h
      exact ⟨hfound, hm⟩
    · cases h

theorem linkAt?_of_plain (h : d.root.Plain) (place : Place) : d.linkAt? place = none := by
  unfold linkAt?
  split
  · rename_i hstat
    exact absurd (node?_of_statWith hstat).2 (h.noLink _ _ _)
  · rfl

theorem resolveAfter_of_plain (h : d.root.Plain) (fuel : Nat) (place : Place)
    (parts : List Octets) (hparts : ∀ c ∈ parts, c ≠ []) :
    d.resolveAfter fuel place [] (parts.map .component) = place.settle parts := by
  have hnames : (parts.map ResolveStep.component).filterMap ResolveStep.name? = parts := by
    rw [List.filterMap_map]
    exact List.filterMap_some
  induction parts generalizing fuel place with
  | nil => cases fuel <;> rfl
  | cons c rest ih =>
    cases fuel with
    | zero =>
      unfold resolveAfter
      rw [hnames]
    | succ fuel =>
      have hrest : ∀ b ∈ rest, b ≠ [] := fun b hb => hparts b (List.mem_cons_of_mem _ hb)
      have hnames' : (rest.map ResolveStep.component).filterMap ResolveStep.name? = rest := by
        rw [List.filterMap_map]
        exact List.filterMap_some
      rw [List.map_cons]
      unfold resolveAfter
      by_cases hpoint : c = ['.']
      · rw [if_pos hpoint, hpoint, Place.settle_point]
        exact ih fuel place hrest hnames'
      rw [if_neg hpoint]
      by_cases hpoints : c = ['.', '.']
      · rw [if_pos hpoints, hpoints, Place.settle_points]
        exact ih fuel place.dropLast hrest hnames'
      · rw [if_neg hpoints, Place.settle_name _ _ (hparts c (List.mem_cons_self ..)) hpoint hpoints]
        simp only [linkAt?_of_plain h]
        exact ih fuel (place ++ [c]) hrest hnames'

/-- The absolute form of a path is where its components lead. -/
theorem resolvePlace_way (h : d.root.Plain) {w : Way} (hw : w.Named) :
    d.resolvePlace w.octets = w.destination d.current := by
  unfold resolvePlace
  rw [resolveAfter_of_plain h _ _ _ fun _ hc => ne_nil_of_mem_components hc,
    w.settle_octets hw]

theorem resolve_of_plain (h : d.root.Plain) {path found : Path} (hpath : path.IsNormal)
    (hfound : d.resolve path = .ok found) :
    found = (path.way.destination d.current).path := by
  unfold resolve at hfound
  split at hfound
  · cases hfound
  · simp only at hfound
    split at hfound
    · cases hfound
    · cases hfound
      rw [resolvePlace_way h (Path.named_way hpath)]

/-- The key of a source tells the directory that the source is in, and its name. -/
theorem key_of_plain (h : d.root.Plain) {source : Path} (hsource : source.IsNormal) {key : LockKey}
    (hkey : LockKey.ofSource d source = .ok key) :
    key = ⟨(source.parent.way.destination d.current).path.text, source.name⟩ := by
  unfold LockKey.ofSource at hkey
  cases hfound : d.resolve source.parent with
  | error e => simp [hfound, Except.map] at hkey
  | ok found =>
    rw [hfound] at hkey
    cases hkey
    rw [resolve_of_plain h (Path.isNormal_parent hsource) hfound]

/-! ## Changes -/

/-- A change of the disk that concerns no file but those at `mine`, and takes away none but those
at `mine` and `gone`. -/
structure Change (mine gone : Place → Prop) (d d' : Disk) : Prop where
  current : d'.current = d.current
  scratch : d'.scratch = d.scratch
  count : d.scratchCount ≤ d'.scratchCount
  plain : d.root.Plain → d'.root.Plain
  fresh : ∀ p n, ¬mine p → d'.node? p = some n → n.isDirectory = false → d.node? p = some n
  kept : ∀ p n, ¬mine p → ¬gone p → d.node? p = some n → n.isDirectory = false →
    d'.node? p = some n

namespace Change

variable {mine gone : Place → Prop} {d' : Disk}

theorem refl (d : Disk) : Change mine gone d d :=
  ⟨rfl, rfl, Nat.le_refl _, id, fun _ _ _ h _ => h, fun _ _ _ _ h _ => h⟩

theorem mono {mine' gone' : Place → Prop} (h : Change mine gone d d')
    (hmine : ∀ p, mine p → mine' p) (hgone : ∀ p, gone p → gone' p) : Change mine' gone' d d' :=
  ⟨h.current, h.scratch, h.count, h.plain, fun p n hp => h.fresh p n (fun hm => hp (hmine p hm)),
    fun p n hp hg => h.kept p n (fun hm => hp (hmine p hm)) (fun hm => hg (hgone p hm))⟩

end Change

/-- Something can be put at a place: a file stands there, or nothing but its directory. -/
def Fits (d : Disk) (place : Place) : Prop :=
  (∃ n, d.node? place = some n ∧ n.isDirectory = false) ∨
    (d.node? place = none ∧ ∃ n, d.node? place.dropLast = some n ∧ n.isDirectory = true)

theorem root_put {place : Place} {node : Node} (h : node.IsNew) :
    (d.put place node).root = Node.put d.changeTime node place d.root := by
  unfold put
  rw [h.group]
  rfl

/-- What is put into a place where it fits changes this place only. -/
theorem change_put {place : Place} {node : Node} (hfits : d.Fits place) (hnode : node.IsNew) :
    Change (· = place) (fun _ => False) d (d.put place node) := by
  refine ⟨rfl, rfl, Nat.le_refl _, ?_, ?_, ?_⟩
  · intro h
    rw [root_put hnode]
    exact h.put hnode _ _
  · intro p n hp hn hdir
    unfold node? at hn ⊢
    rw [root_put hnode] at hn
    rcases Node.at?_of_at?_put hnode.isLeaf hn hdir with ⟨heq, -⟩ | hold
    · exact absurd heq hp
    · exact hold
  · intro p n hp _ hn hdir
    unfold node? at hn ⊢
    rw [root_put hnode]
    refine Node.at?_put_of_not_prefix ?_ hn hdir
    rintro ⟨below, rfl⟩
    have hne : below ≠ [] := by
      rintro rfl
      exact hp (List.append_nil place)
    obtain ⟨m, hm, hmdir⟩ := Node.isDirectory_of_at? hn hne
    rcases hfits with ⟨n', hn', hfile⟩ | ⟨hnone, -⟩
    · cases hm.symm.trans hn'
      rw [hmdir] at hfile
      cases hfile
    · cases hm.symm.trans hnone

/-- It stands there afterwards. -/
theorem node?_put {place : Place} {node : Node} (hfits : d.Fits place) (hnode : node.IsNew) :
    (d.put place node).node? place = some node := by
  unfold node?
  rw [root_put hnode]
  rcases hfits with ⟨n, hn, -⟩ | ⟨hnone, n, hn, hdir⟩
  · exact Node.at?_put_of_isSome (Option.isSome_of_eq_some hn)
  · exact Node.at?_put_of_directory hnone hn hdir

end Disk

end Worksheet
