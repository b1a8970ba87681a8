-- Places below a root. The path of the root leads to a directory, through whatever links; from
-- there, names lead over directories to where they say, and nowhere when a directory is missing.
import Worksheet.Proofs.ExportedNames
import Worksheet.Proofs.Faces

namespace Worksheet

open Text (Bytes Octets Points)

namespace Disk

variable {d d' : Disk} {root : Path} {base p : Place} {names : List Octets} {n : Node}

/-- Below a place is what is below the node there. -/
theorem node?_append (h : d.node? base = some n) (below : Place) :
    d.node? (base ++ below) = n.at? below := by
  unfold node? at h ⊢
  rw [Node.at?_append, h]
  rfl

/-! ## Ways -/

/-- The place of a way with components is the end of a walk. -/
theorem locateWith_eq_walk {w : Way} (hnamed : w.Named) (hne : w.parts ≠ [])
    (hshort : w.octets.length ≤ maxPathBytes) (follow : Bool) (directory : Place) :
    d.locateWith follow directory w.octets =
      walk d.root follow (maxLinks + 1) (if w.anchor = .current then directory else []) w.parts := by
  have hcomponents : components w.octets = w.parts :=
    (w.components_octets hnamed).resolve_right fun hboth => hne hboth.1
  have hraw : w.octets.isEmpty = false := by
    obtain ⟨front, b, hoctets, -⟩ := Way.octets_of_parts_ne_nil hnamed hne
    rw [hoctets]
    simp
  unfold locateWith
  rw [hraw, if_neg Bool.false_ne_true, if_neg (Nat.not_lt.mpr hshort), Way.start_octets hnamed,
    Way.endsInSlash_octets hnamed hne, hcomponents]
  simp only [Bool.or_false, Bool.false_eq_true, if_false]
  split <;> next hwalk => rw [hwalk]

/-- Where something stands that a path leads to, something stands that it leads to if it does not
follow a link at its end. -/
theorem locateWith_unfollowed {raw : Octets} {directory : Place}
    (h : d.locateWith true directory raw = .ok p) (hp : (d.node? p).isSome = true) :
    ∃ r, d.locateWith false directory raw = .ok r ∧ (d.node? r).isSome = true := by
  by_cases hslash : endsInSlash raw = true
  · refine ⟨p, ?_, hp⟩
    rw [← h]
    unfold locateWith
    rw [hslash]
    rfl
  unfold locateWith at h ⊢
  split at h
  · cases h
  next hne =>
  split at h
  · cases h
  next hlong =>
  rw [if_neg hne, if_neg hlong]
  rw [Bool.not_eq_true] at hslash
  simp only [hslash, Bool.or_false, Bool.false_eq_true, if_false] at h ⊢
  split at h
  · cases h
  next found hfound =>
  cases h
  obtain ⟨k, hk, hreaches⟩ := reaches_of_walk hfound
  have hstart : (d.root.at? (if isAbsolute raw then [] else directory)).isSome = true := by
    unfold walk at hfound
    cases hat : d.root.at? (if isAbsolute raw then [] else directory) with
    | none => simp [hat] at hfound
    | some here => rfl
  obtain ⟨r, hr, hstands⟩ := hreaches.unfollowed hstart hp hk
  exact ⟨r, by rw [hr], hstands⟩

/-! ## Making what is there -/

/-- Where something stands no directory is made. -/
theorem makeDirectory_of_stands {w : Way} (hnamed : w.Named) {directory : Place}
    (h : d.locateWith true directory w.octets = .ok p) (hp : (d.node? p).isSome = true)
    (mask : Mode) : d.makeDirectory directory mask w.octets = .error .alreadyExists := by
  obtain ⟨r, hr, hstands⟩ := locateWith_unfollowed h hp
  obtain ⟨n, hn⟩ := Option.isSome_iff_exists.mp hstands
  unfold makeDirectory freePlace
  rw [locateWith_trimSlashes hnamed, hr]
  simp only [hn]
  rfl

/-- A directory that is there is enough. -/
theorem ensureDirectory_of_stands {w : Way} (hnamed : w.Named)
    (h : d.locateWith true d.current w.octets = .ok p) (hn : d.node? p = some n)
    (hdir : n.isDirectory = true) : d.ensureDirectory w = (.ok (), d) := by
  have hstat : d.stat w.octets = .ok (p, n) := by
    unfold stat statFrom statWith
    simp only [h, hn]
  unfold ensureDirectory
  rw [makeDirectory_of_stands hnamed h (Option.isSome_of_eq_some hn)]
  simp only [hstat, hdir, if_true]

theorem makeDirectories_concat (anchor : Anchor) (room : Nat) (init : List Octets) (c : Octets) :
    d.makeDirectories anchor (room + 1) (init ++ [c]).reverse =
      match d.makeDirectory d.current Mode.usualMask (Way.octets ⟨anchor, init ++ [c]⟩) with
      | .error .noEntry =>
        match d.makeDirectories anchor room init.reverse with
        | (.ok (), d') => d'.ensureDirectory ⟨anchor, init ++ [c]⟩
        | (.error e, d') => (.error e, d')
      | _ => d.ensureDirectory ⟨anchor, init ++ [c]⟩ := by
  have hway : init ++ [c] = (c :: init.reverse).reverse := by
    rw [List.reverse_cons, List.reverse_reverse]
  rw [List.reverse_append, List.reverse_singleton, List.singleton_append, hway]
  rfl

theorem makeDirectories_of_stands {w : Way} (hnamed : w.Named)
    (h : d.locateWith true d.current w.octets = .ok p) (hn : d.node? p = some n)
    (hdir : n.isDirectory = true) {room : Nat} (hroom : room ≠ 0) :
    d.makeDirectories w.anchor room w.parts.reverse = (.ok (), d) := by
  obtain ⟨room, rfl⟩ := Nat.exists_eq_succ_of_ne_zero hroom
  obtain ⟨anchor, parts⟩ := w
  have hensure := ensureDirectory_of_stands hnamed h hn hdir
  rcases List.eq_nil_or_concat parts with rfl | ⟨init, c, rfl⟩
  · exact hensure
  · rw [List.concat_eq_append] at *
    rw [makeDirectories_concat, makeDirectory_of_stands hnamed h (Option.isSome_of_eq_some hn)]
    exact hensure

/-! ## Paths that are too long -/

theorem locateWith_tooLong {raw : Octets} (hlong : maxPathBytes < raw.length) (follow : Bool)
    (directory : Place) : d.locateWith follow directory raw = .error .nameTooLong := by
  have hraw : raw.isEmpty = false := by
    cases raw with
    | nil => cases hlong
    | cons c rest => rfl
  unfold locateWith
  rw [hraw, if_neg Bool.false_ne_true, if_pos hlong]

/-- A path that leads somewhere is not too long. -/
theorem short_of_locateWith {raw : Octets} {follow : Bool} {directory : Place}
    (h : d.locateWith follow directory raw = .ok p) : raw.length ≤ maxPathBytes := by
  refine Nat.not_lt.mp fun hlong => ?_
  rw [locateWith_tooLong hlong] at h
  cases h

theorem makeDirectory_tooLong {w : Way} (hnamed : w.Named)
    (hlong : maxPathBytes < w.octets.length) (directory : Place) (mask : Mode) :
    d.makeDirectory directory mask w.octets = .error .nameTooLong := by
  unfold makeDirectory freePlace
  rw [locateWith_trimSlashes hnamed, locateWith_tooLong hlong]
  rfl

theorem ensureDirectory_tooLong {w : Way} (hnamed : w.Named)
    (hlong : maxPathBytes < w.octets.length) :
    d.ensureDirectory w = (.error (.failed .nameTooLong w), d) := by
  have hstat : d.stat w.octets = .error .nameTooLong := by
    unfold stat statFrom statWith
    rw [locateWith_tooLong hlong]
  unfold ensureDirectory
  rw [makeDirectory_tooLong hnamed hlong, hstat]
  rfl

/-- A directory whose path is too long is not made, nor one above it. -/
theorem makeDirectories_tooLong {w : Way} (hnamed : w.Named)
    (hlong : maxPathBytes < w.octets.length) {room : Nat} (hroom : room ≠ 0) :
    d.makeDirectories w.anchor room w.parts.reverse = (.error (.failed .nameTooLong w), d) := by
  obtain ⟨room, rfl⟩ := Nat.exists_eq_succ_of_ne_zero hroom
  obtain ⟨anchor, parts⟩ := w
  have hensure := ensureDirectory_tooLong (d := d) hnamed hlong
  rcases List.eq_nil_or_concat parts with rfl | ⟨init, c, rfl⟩
  · exact hensure
  · rw [List.concat_eq_append] at *
    rw [makeDirectories_concat, makeDirectory_tooLong hnamed hlong]
    exact hensure

/-! ## Names below a root -/

/-- A name that a file can have. -/
structure IsLegal (c : Octets) : Prop where
  entry : IsEntry c
  named : c ≠ [] ∧ '/' ∉ c
  noNul : Char.ofNat 0 ∉ c

/-- The path of a root leads to a directory. -/
structure LeadsTo (d : Disk) (root : Path) (base : Place) : Prop where
  normal : root.IsNormal
  leads : d.locateWith true d.current root.way.octets = .ok base
  stands : ∃ n, d.node? base = some n ∧ n.isDirectory = true

/-- Where its components start. -/
def startOf (d : Disk) (root : Path) : Place := if root.anchor = .current then d.current else []

/-- Names lead on from a place, over directories that may be passed. -/
def Onward (d : Disk) (base : Place) (names : List Octets) : Prop :=
  ∀ front c back, names = front ++ c :: back → Passable d.root (base ++ front)

theorem Onward.passable (h : d.Onward base names) (hne : names ≠ []) : Passable d.root base := by
  obtain ⟨c, rest, rfl⟩ := List.exists_cons_of_ne_nil hne
  have hbase := h [] c rest rfl
  rwa [List.append_nil] at hbase

theorem named_below (hroot : root.IsNormal) (hnames : Named names) :
    (Artifacts.wayBelow root names).Named := fun c hc =>
  (List.mem_append.mp hc).elim (Path.named_way hroot c) (hnames c)

theorem named_wayBelow (hroot : root.IsNormal) (hnames : ∀ c ∈ names, IsLegal c) :
    (Artifacts.wayBelow root names).Named :=
  named_below hroot fun c hc => (hnames c hc).named

/-- The path of what is below a root leads through the directory of the root. -/
theorem exists_leadsTo (hroot : root.IsNormal) (hnamed : Named names) (hne : names ≠ []) {q : Place}
    (h : d.locateWith true d.current (Artifacts.wayBelow root names).octets = .ok q) :
    ∃ base k, d.LeadsTo root base ∧ Reaches d.root k base names q := by
  obtain ⟨base, hbase, hpass, -, hlast⟩ :=
    exists_directory (Path.named_way hroot) hnamed hne h
  obtain ⟨n, hn, hdir, -⟩ := hpass
  obtain ⟨-, hwalk⟩ := walk_of_locateWith (w := ⟨.current, names⟩) hnamed hne hlast
  obtain ⟨k, -, hreaches⟩ := reaches_of_walk hwalk
  exact ⟨base, k, ⟨hroot, hbase, n, hn, hdir⟩, hreaches⟩

/-- Names lead to where they say, unless a link has one of them. -/
theorem Reaches.eq_of_names {tree : Node} {k : Nat} {q : Place} (h : Reaches tree k p names q)
    (hnames : ∀ c ∈ names, IsName c) (hlinks : ∀ further target time, further <+: names →
      further ≠ [] → tree.at? (p ++ further) ≠ some (.link target time)) : q = p ++ names := by
  induction names generalizing k p with
  | nil =>
    cases h
    exact (List.append_nil _).symm
  | cons c names ih =>
    have hname := hnames c (List.mem_cons_self ..)
    cases h with
    | point => exact absurd rfl hname.1
    | points => exact absurd rfl hname.2
    | missing => rfl
    | name _ _ _ _ hrest =>
      have hnext := ih hrest (fun b hb => hnames b (List.mem_cons_of_mem _ hb))
        fun further target time hup _ => by
          rw [List.append_assoc]
          exact hlinks (c :: further) target time (List.cons_prefix_cons.mpr ⟨rfl, hup⟩)
            (List.cons_ne_nil _ _)
      rw [hnext, List.append_assoc]
      rfl
    | link _ _ hfound _ =>
      exact absurd hfound (hlinks [c] _ _ (List.prefix_append [c] names) (List.cons_ne_nil _ _))

namespace LeadsTo

theorem grows (h : d.LeadsTo root base) (hgrows : d.root.Grows d'.root)
    (hcurrent : d'.current = d.current) : d'.LeadsTo root base := by
  obtain ⟨n, hn, hdir⟩ := h.stands
  obtain ⟨n', hn', hkind⟩ := hgrows.kept base n hn
  refine ⟨h.normal, ?_, n', hn', (Node.isDirectory_eq_of_kind hkind).trans hdir⟩
  rw [hcurrent]
  exact locateWith_of_grows hgrows h.leads

theorem stat (h : d.LeadsTo root base) (hn : d.node? base = some n) :
    d.stat root.way.octets = .ok (base, n) := by
  unfold Disk.stat statFrom statWith
  simp only [h.leads, hn]

/-- Below a root without links, names lead to where they say. -/
theorem eq_of_locateWith (h : d.LeadsTo root base) (hnames : AreNames names) {q : Place}
    (hlinks : ∀ further target time, further <+: names → further ≠ [] →
      d.node? (base ++ further) ≠ some (.link target time))
    (hlocate : d.locateWith true d.current (Artifacts.wayBelow root names).octets = .ok q) :
    q = base ++ names := by
  by_cases hnil : names = []
  · subst hnil
    unfold Artifacts.wayBelow at hlocate
    rw [List.append_nil] at hlocate ⊢
    exact Except.ok.inj (hlocate.symm.trans h.leads)
  · obtain ⟨base', k, hleads, hreaches⟩ := exists_leadsTo h.normal hnames.named hnil hlocate
    obtain rfl : base' = base := Except.ok.inj (hleads.leads.symm.trans h.leads)
    exact hreaches.eq_of_names hnames.names hlinks

theorem short (h : d.LeadsTo root base) : root.way.octets.length ≤ maxPathBytes :=
  short_of_locateWith h.leads

theorem reaches (h : d.LeadsTo root base) :
    ∃ k ≤ maxLinks, Reaches d.root k (d.startOf root) root.way.parts base := by
  have hnamed := Path.named_way h.normal
  by_cases hparts : root.way.parts = []
  · have hleads := h.leads
    rw [← locateWith_trimSlashes hnamed] at hleads
    obtain ⟨hbase, -⟩ := locateWith_of_no_parts hparts hleads
    refine ⟨0, Nat.zero_le _, ?_⟩
    rw [hparts, hbase]
    exact .done
  · obtain ⟨-, hwalk⟩ := walk_of_locateWith hnamed hparts h.leads
    obtain ⟨k, hk, hreaches⟩ := reaches_of_walk hwalk
    exact ⟨k, Nat.lt_succ_iff.mp hk, hreaches⟩

/-- A walk below the root goes on from the directory of the root. -/
theorem walk_below (h : d.LeadsTo root base) (hpass : Passable d.root base) (hne : names ≠ [])
    (follow : Bool) :
    ∃ links, walk d.root follow (maxLinks + 1) (d.startOf root) (root.way.parts ++ names) =
      walk d.root follow (links + 1) base names := by
  obtain ⟨k, hk, hreaches⟩ := h.reaches
  refine ⟨maxLinks - k, ?_⟩
  rw [← hreaches.walk_append hpass hne follow]
  congr 1
  omega

theorem locateWith_below (h : d.LeadsTo root base) (hnames : ∀ c ∈ names, IsLegal c)
    (hne : names ≠ []) (hshort : (Artifacts.wayBelow root names).octets.length ≤ maxPathBytes)
    (hpass : Passable d.root base) (follow : Bool) :
    ∃ links, d.locateWith follow d.current (Artifacts.wayBelow root names).octets =
      walk d.root follow (links + 1) base names := by
  obtain ⟨links, hwalk⟩ := h.walk_below hpass hne follow
  have hparts : (Artifacts.wayBelow root names).parts ≠ [] :=
    List.append_ne_nil_of_right_ne_nil _ hne
  exact ⟨links, (locateWith_eq_walk (named_wayBelow h.normal hnames) hparts hshort ..).trans hwalk⟩

/-- Over directories that may be passed, names lead to where they say, as long as no link at their
end is followed. -/
theorem locateWith_onward (h : d.LeadsTo root base) (hnames : ∀ c ∈ names, IsLegal c)
    (hne : names ≠ []) (hshort : (Artifacts.wayBelow root names).octets.length ≤ maxPathBytes)
    (hon : d.Onward base names) {follow : Bool}
    (hend : ∀ target time, d.node? (base ++ names) = some (.link target time) → follow = false) :
    d.locateWith follow d.current (Artifacts.wayBelow root names).octets = .ok (base ++ names) := by
  obtain ⟨links, hlocate⟩ := h.locateWith_below hnames hne hshort (hon.passable hne) follow
  obtain ⟨here, hhere, -⟩ := hon.passable hne
  have hgo := walkToLink_onward (fun c hc => (hnames c hc).entry) hon hhere hend
  rw [hlocate]
  unfold walk
  simp only [hhere, hgo]

/-- They lead nowhere when a directory on the way is missing. -/
theorem locateWith_broken (h : d.LeadsTo root base) {front back : List Octets} {c b : Octets}
    (hnames : ∀ x ∈ front ++ c :: b :: back, IsLegal x)
    (hshort : (Artifacts.wayBelow root (front ++ c :: b :: back)).octets.length ≤ maxPathBytes)
    (hon : d.Onward base (front ++ [c])) (hnone : d.node? (base ++ (front ++ [c])) = none)
    (follow : Bool) :
    d.locateWith follow d.current (Artifacts.wayBelow root (front ++ c :: b :: back)).octets =
      .error .noEntry := by
  have hpass := hon.passable (List.append_ne_nil_of_right_ne_nil front (List.cons_ne_nil _ _))
  obtain ⟨links, hlocate⟩ := h.locateWith_below hnames (by simp) hshort hpass follow
  have hwalk : ∀ {base here}, d.node? base = some here → d.Onward base (front ++ [c]) →
      d.node? (base ++ (front ++ [c])) = none →
      walkToLink d.root follow base.reverse here (front ++ c :: b :: back) = .failed .noEntry := by
    clear hlocate hpass hnone hon hshort h
    induction front with
    | nil =>
      intro base here hhere hon hnone
      obtain ⟨here', hhere', hpasses⟩ := hon [] c [] rfl
      rw [List.append_nil] at hhere'
      cases hhere.symm.trans hhere'
      have hentry := (hnames c (List.mem_cons_self ..)).entry
      have hchild := (child?_eq hhere c).trans hnone
      rw [List.nil_append]
      unfold walkToLink
      simp only [hpasses.ifs, Bool.false_eq_true, if_false, hentry.1, hentry.2.1,
        Nat.not_lt.mpr hentry.2.2, hchild, List.isEmpty_cons]
    | cons x front ih =>
      intro base here hhere hon hnone
      obtain ⟨here', hhere', hpasses⟩ := hon [] x (front ++ [c]) rfl
      rw [List.append_nil] at hhere'
      cases hhere.symm.trans hhere'
      have hnext : d.Onward (base ++ [x]) (front ++ [c]) := by
        intro above y below hsplit
        have hpass := hon (x :: above) y below (by rw [List.cons_append, hsplit]; rfl)
        rwa [List.append_assoc, List.singleton_append]
      obtain ⟨m, hm, hdir, -⟩ := hnext.passable (by simp)
      have hchild := (child?_eq hhere x).trans hm
      have hnolink : ∀ target time, m ≠ .link target time := by
        rintro target time rfl
        cases hdir
      rw [List.cons_append, walkToLink_name hpasses (hnames x (List.mem_cons_self ..)).entry hchild
        hnolink]
      have hrest := ih (fun y hy => hnames y (List.mem_cons_of_mem _ hy)) hm hnext
        (by rw [List.append_assoc, List.singleton_append]; exact hnone)
      rwa [List.reverse_append] at hrest
  obtain ⟨here, hhere, -⟩ := id hpass
  rw [hlocate]
  unfold walk
  simp only [hhere, hwalk hhere hon hnone]

end LeadsTo

end Disk

end Worksheet
