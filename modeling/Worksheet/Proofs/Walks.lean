-- Walks in trees with links. A walk sees of a node no more than its kind, so it comes to the same
-- place after directories and files have been added. Below a place with nothing but directories,
-- names lead to where they say.
import Worksheet.Proofs.PlainDisk

namespace Worksheet

open Text (Octets)

/-! ## Trees that grow -/

namespace Node

/-- What a walk sees of a node. -/
inductive Kind
  | directory (passable : Bool)
  | link (target : Octets)
  | other
  deriving DecidableEq

def kind : Node → Kind
  | .directory mode _ _ => .directory (mode.allows .run)
  | .link target _ => .link target
  | _ => .other

theorem isDirectory_eq_of_kind {n n' : Node} (h : n'.kind = n.kind) :
    n'.isDirectory = n.isDirectory := by
  cases n <;> cases n' <;> first | rfl | cases h

theorem allows_eq_of_kind {n n' : Node} (h : n'.kind = n.kind) (hdir : n.isDirectory = true) :
    n'.allows .run = n.allows .run := by
  cases n with
  | directory =>
    cases n' with
    | directory => exact Kind.directory.inj h
    | _ => cases h
  | _ => cases hdir

theorem eq_link_of_kind {n : Node} {target : Octets} (h : n.kind = .link target) :
    ∃ time, n = .link target time := by
  cases n <;> cases h
  exact ⟨_, rfl⟩

theorem kind_ne_link {n : Node} (h : ∀ target time, n ≠ .link target time) (target : Octets) :
    n.kind ≠ .link target := by
  intro hlink
  obtain ⟨time, rfl⟩ := eq_link_of_kind hlink
  exact h target time rfl

/-- What stands in the first tree stands in the second one too, or a node of its kind, and no link
is new. -/
structure Grows (root root' : Node) : Prop where
  kept : ∀ p n, root.at? p = some n → ∃ n', root'.at? p = some n' ∧ n'.kind = n.kind
  noLink : ∀ p target time, root.at? p = none → root'.at? p ≠ some (.link target time)

variable {root root' : Node}

theorem Grows.refl (root : Node) : Grows root root :=
  ⟨fun _ n hn => ⟨n, hn, rfl⟩, fun _ _ _ hnone => by rw [hnone]; exact nofun⟩

theorem Grows.trans {root'' : Node} (h : Grows root root') (h' : Grows root' root'') :
    Grows root root'' := by
  refine ⟨fun p n hn => ?_, fun p target time hnone hlink => ?_⟩
  · obtain ⟨n', hn', hkind⟩ := h.kept p n hn
    obtain ⟨n'', hn'', hkind'⟩ := h'.kept p n' hn'
    exact ⟨n'', hn'', hkind'.trans hkind⟩
  · cases hmid : root'.at? p with
    | none => exact h'.noLink p target time hmid hlink
    | some n =>
      obtain ⟨n', hn', hkind⟩ := h'.kept p n hmid
      cases hlink.symm.trans hn'
      obtain ⟨time', rfl⟩ := eq_link_of_kind hkind.symm
      exact h.noLink p target time' hnone hmid

theorem Grows.kind_eq (h : Grows root root') {p : Place} {n n' : Node} (hn : root.at? p = some n)
    (hn' : root'.at? p = some n') : n'.kind = n.kind := by
  obtain ⟨m, hm, hkind⟩ := h.kept p n hn
  cases hn'.symm.trans hm
  exact hkind

/-- A directory stands at the place, and nothing but directories below it. -/
structure Bare (root : Node) (place : Place) : Prop where
  stands : (root.at? place).isSome = true
  directories : ∀ below n, root.at? (place ++ below) = some n → n.isDirectory = true

/-- A directory stands at the place, and no link below it. -/
structure Unlinked (root : Node) (place : Place) : Prop where
  stands : ∃ n, root.at? place = some n ∧ n.isDirectory = true
  noLink : ∀ below target time, root.at? (place ++ below) ≠ some (.link target time)

theorem Bare.unlinked {place : Place} (h : root.Bare place) : root.Unlinked place := by
  obtain ⟨n, hn⟩ := Option.isSome_iff_exists.mp h.stands
  refine ⟨⟨n, hn, h.directories [] n (by rwa [List.append_nil])⟩, fun below target time hlink => ?_⟩
  cases h.directories below _ hlink

end Node

/-! ## Walks up to a link -/

namespace Disk

variable {root root' : Node}

/-- A directory that may be passed. -/
def Passes (here : Node) : Prop := here.isDirectory = true ∧ here.allows .run = true

/-- A component that is looked up. -/
def IsEntry (c : Octets) : Prop := c ≠ ['.'] ∧ c ≠ ['.', '.'] ∧ c.length ≤ maxNameBytes

/-- A walk that does not fail, component by component, up to its end or to a link. -/
inductive Walks (root : Node) (follow : Bool) :
    List Octets → Node → List Octets → WalkEnd → Prop
  | done {back : List Octets} {here : Node} : Walks root follow back here [] (.reached back.reverse)
  | point {back rest : List Octets} {here : Node} {e : WalkEnd} : Passes here →
    Walks root follow back here rest e → Walks root follow back here (['.'] :: rest) e
  | points {back rest : List Octets} {here above : Node} {e : WalkEnd} : Passes here →
    root.at? back.tail.reverse = some above → Walks root follow back.tail above rest e →
    Walks root follow back here (['.', '.'] :: rest) e
  | missing {back : List Octets} {c : Octets} {here : Node} : Passes here → IsEntry c →
    here.child? c = none → Walks root follow back here [c] (.reached (c :: back).reverse)
  | linkKept {back : List Octets} {c target : Octets} {here : Node} {time : Int} : Passes here →
    IsEntry c → here.child? c = some (.link target time) → follow = false →
    Walks root follow back here [c] (.reached (c :: back).reverse)
  | link {back rest : List Octets} {c target : Octets} {here : Node} {time : Int} : Passes here →
    IsEntry c → here.child? c = some (.link target time) → (rest = [] → follow = true) →
    Walks root follow back here (c :: rest) (.link back.reverse target rest)
  | name {back rest : List Octets} {c : Octets} {here n : Node} {e : WalkEnd} : Passes here →
    IsEntry c → here.child? c = some n → (∀ target time, n ≠ .link target time) →
    Walks root follow (c :: back) n rest e → Walks root follow back here (c :: rest) e

/-- The walks that do not fail. -/
theorem walks_of_walkToLink {follow : Bool} {parts : List Octets} {back : List Octets}
    {here : Node} {e : WalkEnd} (he : ∀ errno, e ≠ .failed errno)
    (h : walkToLink root follow back here parts = e) : Walks root follow back here parts e := by
  induction parts generalizing back here with
  | nil => exact h ▸ .done
  | cons c rest ih =>
    unfold walkToLink at h
    split at h
    · exact absurd h.symm (he _)
    next hdir =>
    split at h
    · exact absurd h.symm (he _)
    next hpass =>
    have hpasses : Passes here := ⟨by simpa using hdir, by simpa using hpass⟩
    split at h
    · next hpoint => exact hpoint ▸ .point hpasses (ih h)
    next hpoint =>
    split at h
    · next hpoints =>
      split at h
      · next above habove => exact hpoints ▸ .points hpasses habove (ih h)
      · exact absurd h.symm (he _)
    next hpoints =>
    split at h
    · exact absurd h.symm (he _)
    next hlength =>
    have hentry : IsEntry c := ⟨hpoint, hpoints, Nat.le_of_not_lt hlength⟩
    split at h
    · next hchild =>
      split at h
      · next hlast =>
        obtain rfl : rest = [] := by simpa using hlast
        exact h ▸ .missing hpasses hentry hchild
      · exact absurd h.symm (he _)
    · next target time hchild =>
      split at h
      · next hkept =>
        obtain ⟨rfl, hfollow⟩ : rest = [] ∧ follow = false := by simpa using hkept
        exact h ▸ .linkKept hpasses hentry hchild hfollow
      · next hgone =>
        refine h ▸ .link hpasses hentry hchild fun hnil => ?_
        simpa [hnil] using hgone
    · next n hnolink hchild => exact .name hpasses hentry hchild hnolink (ih h)

theorem Passes.ifs {here : Node} (h : Passes here) :
    (!here.isDirectory) = false ∧ (!here.allows .run) = false := by simp [h.1, h.2]

section Steps

variable {follow : Bool} {back rest : List Octets} {c : Octets} {here n : Node}

theorem walkToLink_point (hpass : Passes here) :
    walkToLink root follow back here (['.'] :: rest) = walkToLink root follow back here rest := by
  conv => lhs; unfold walkToLink
  simp only [hpass.ifs, Bool.false_eq_true, if_false, if_true]

theorem walkToLink_points (hpass : Passes here) (habove : root.at? back.tail.reverse = some n) :
    walkToLink root follow back here (['.', '.'] :: rest) =
      walkToLink root follow back.tail n rest := by
  have hne : (['.', '.'] : Octets) ≠ ['.'] := by decide
  conv => lhs; unfold walkToLink
  simp only [hpass.ifs, Bool.false_eq_true, if_false, hne, if_true, habove]

theorem walkToLink_name (hpass : Passes here) (hentry : IsEntry c) (hchild : here.child? c = some n)
    (hnolink : ∀ target time, n ≠ .link target time) :
    walkToLink root follow back here (c :: rest) = walkToLink root follow (c :: back) n rest := by
  conv => lhs; unfold walkToLink
  simp only [hpass.ifs, Bool.false_eq_true, if_false, hentry.1, hentry.2.1,
    Nat.not_lt.mpr hentry.2.2, hchild]

theorem walkToLink_link {target : Octets} {time : Int} (hpass : Passes here) (hentry : IsEntry c)
    (hchild : here.child? c = some (.link target time)) (hfollow : rest = [] → follow = true) :
    walkToLink root follow back here (c :: rest) = .link back.reverse target rest := by
  have hon : (rest.isEmpty && !follow) = false := by
    cases rest with
    | nil => simp [hfollow rfl]
    | cons => rfl
  conv => lhs; unfold walkToLink
  simp only [hpass.ifs, Bool.false_eq_true, if_false, hentry.1, hentry.2.1,
    Nat.not_lt.mpr hentry.2.2, hchild, hon]

theorem walkToLink_missing (hpass : Passes here) (hentry : IsEntry c)
    (hchild : here.child? c = none) :
    walkToLink root follow back here [c] = .reached (c :: back).reverse := by
  unfold walkToLink
  simp only [hpass.ifs, Bool.false_eq_true, if_false, hentry.1, hentry.2.1,
    Nat.not_lt.mpr hentry.2.2, hchild, List.isEmpty_nil, if_true]

theorem walkToLink_linkKept {target : Octets} {time : Int} (hpass : Passes here)
    (hentry : IsEntry c) (hchild : here.child? c = some (.link target time))
    (hfollow : follow = false) :
    walkToLink root follow back here [c] = .reached (c :: back).reverse := by
  unfold walkToLink
  simp only [hpass.ifs, Bool.false_eq_true, if_false, hentry.1, hentry.2.1,
    Nat.not_lt.mpr hentry.2.2, hchild, List.isEmpty_nil, hfollow, Bool.not_false, Bool.and_self,
    if_true]

end Steps

theorem walkToLink_of_walks {follow : Bool} {parts : List Octets} {back : List Octets}
    {here : Node} {e : WalkEnd} (h : Walks root follow back here parts e) :
    walkToLink root follow back here parts = e := by
  induction h with
  | done => rfl
  | point hpass _ ih => exact (walkToLink_point hpass).trans ih
  | points hpass habove _ ih => exact (walkToLink_points hpass habove).trans ih
  | missing hpass hentry hchild => exact walkToLink_missing hpass hentry hchild
  | linkKept hpass hentry hchild hfollow => exact walkToLink_linkKept hpass hentry hchild hfollow
  | link hpass hentry hchild hfollow => exact walkToLink_link hpass hentry hchild hfollow
  | name hpass hentry hchild hnolink _ ih =>
    exact (walkToLink_name hpass hentry hchild hnolink).trans ih

/-! ## Walks in a grown tree -/

theorem at?_child {back : List Octets} {here : Node} (hhere : root.at? back.reverse = some here)
    (c : Octets) : root.at? (c :: back).reverse = here.child? c := by
  rw [List.reverse_cons, Node.at?_append, hhere, Option.bind_some, Node.at?_cons]
  cases here.child? c <;> rfl

theorem Passes.of_kind {here here' : Node} (h : Passes here) (hkind : here'.kind = here.kind) :
    Passes here' :=
  ⟨(Node.isDirectory_eq_of_kind hkind).trans h.1, (Node.allows_eq_of_kind hkind h.1).trans h.2⟩

theorem child?_of_grows (hgrows : root.Grows root') {back : List Octets} {here here' n : Node}
    {c : Octets} (hhere : root.at? back.reverse = some here)
    (hhere' : root'.at? back.reverse = some here') (hn : here.child? c = some n) :
    ∃ n', here'.child? c = some n' ∧ n'.kind = n.kind := by
  obtain ⟨n', hn', hkind⟩ := hgrows.kept _ n ((at?_child hhere c).trans hn)
  exact ⟨n', (at?_child hhere' c).symm.trans hn', hkind⟩

/-- What has been added to a tree is on no walk that did not fail without it. -/
theorem Walks.grows {follow : Bool} {parts : List Octets} {back : List Octets} {here : Node}
    {e : WalkEnd} (h : Walks root follow back here parts e) (hgrows : root.Grows root')
    (hhere : root.at? back.reverse = some here) {here' : Node}
    (hhere' : root'.at? back.reverse = some here') : Walks root' follow back here' parts e := by
  induction h generalizing here' with
  | done => exact .done
  | point hpass _ ih => exact .point (hpass.of_kind (hgrows.kind_eq hhere hhere')) (ih hhere hhere')
  | points hpass habove _ ih =>
    obtain ⟨above', habove', -⟩ := hgrows.kept _ _ habove
    exact .points (hpass.of_kind (hgrows.kind_eq hhere hhere')) habove' (ih habove habove')
  | @missing back c here hpass hentry hnone =>
    have hpass' := hpass.of_kind (hgrows.kind_eq hhere hhere')
    cases hnew : here'.child? c with
    | none => exact .missing hpass' hentry hnew
    | some n =>
      refine .name hpass' hentry hnew (fun target time hlink => ?_) .done
      refine hgrows.noLink _ target time ((at?_child hhere c).trans hnone) ?_
      rw [at?_child hhere', hnew, hlink]
  | linkKept hpass hentry hold hfollow =>
    obtain ⟨n', hn', hkind⟩ := child?_of_grows hgrows hhere hhere' hold
    obtain ⟨time, rfl⟩ := Node.eq_link_of_kind hkind
    exact .linkKept (hpass.of_kind (hgrows.kind_eq hhere hhere')) hentry hn' hfollow
  | link hpass hentry hold hfollow =>
    obtain ⟨n', hn', hkind⟩ := child?_of_grows hgrows hhere hhere' hold
    obtain ⟨time, rfl⟩ := Node.eq_link_of_kind hkind
    exact .link (hpass.of_kind (hgrows.kind_eq hhere hhere')) hentry hn' hfollow
  | @name back rest c here n e hpass hentry hold hnolink _ ih =>
    obtain ⟨n', hn', hkind⟩ := child?_of_grows hgrows hhere hhere' hold
    refine .name (hpass.of_kind (hgrows.kind_eq hhere hhere')) hentry hn' ?_
      (ih ((at?_child hhere c).trans hold) ((at?_child hhere' c).trans hn'))
    rintro target time rfl
    exact Node.kind_ne_link hnolink target hkind.symm

theorem walk_of_grows (hgrows : root.Grows root') {follow : Bool} {links : Nat}
    {start place : Place} {parts : List Octets}
    (h : walk root follow links start parts = .ok place) :
    walk root' follow links start parts = .ok place := by
  induction links generalizing start parts with
  | zero => cases h
  | succ links ih =>
    unfold walk at h ⊢
    cases hhere : root.at? start with
    | none => simp [hhere] at h
    | some here =>
      obtain ⟨here', hhere', -⟩ := hgrows.kept _ _ hhere
      simp only [hhere] at h
      simp only [hhere']
      have hsame : ∀ e, walkToLink root follow start.reverse here parts = e →
          (∀ errno, e ≠ .failed errno) →
            walkToLink root' follow start.reverse here' parts = e := by
        intro e hend hfine
        exact walkToLink_of_walks ((walks_of_walkToLink hfine hend).grows hgrows
          (by rwa [List.reverse_reverse]) (by rwa [List.reverse_reverse]))
      split at h
      · next hend =>
        rw [hsame _ hend (by simp)]
        exact h
      · cases h
      · next hend =>
        rw [hsame _ hend (by simp)]
        exact ih h

/-- A path leads to the same place after something has been added. -/
theorem locateWith_of_grows {d d' : Disk} (hgrows : d.root.Grows d'.root) {follow : Bool}
    {directory place : Place} {raw : Octets} (h : d.locateWith follow directory raw = .ok place) :
    d'.locateWith follow directory raw = .ok place := by
  unfold locateWith at h ⊢
  split at h
  · cases h
  next hne =>
  split at h
  · cases h
  next hlong =>
  rw [if_neg hne, if_neg hlong]
  dsimp only at h ⊢
  split at h
  · cases h
  next found hfound =>
  rw [walk_of_grows hgrows hfound]
  dsimp only
  split at h
  next hslash =>
    rw [if_pos hslash]
    unfold node? at h ⊢
    cases hn : d.root.at? found with
    | none => simp [hn] at h
    | some n =>
      obtain ⟨n', hn', hkind⟩ := hgrows.kept found n hn
      simp only [hn] at h
      simp only [hn', Node.isDirectory_eq_of_kind hkind]
      exact h
  next hslash =>
    rw [if_neg hslash]
    exact h

/-! ## Links that are not followed -/

/-- A walk that does not follow a link at its end, and does not come to one, comes to the same place
if it does follow. -/
theorem Walks.followed {parts : List Octets} {back : List Octets} {here : Node} {e : WalkEnd}
    (h : Walks root false back here parts e) (hhere : root.at? back.reverse = some here)
    (hend : ∀ place target time, e = .reached place →
      root.at? place ≠ some (.link target time)) : Walks root true back here parts e := by
  induction h with
  | done => exact .done
  | point hpass _ ih => exact .point hpass (ih hhere hend)
  | points hpass habove _ ih => exact .points hpass habove (ih habove hend)
  | missing hpass hentry hchild => exact .missing hpass hentry hchild
  | linkKept hpass hentry hchild hfollow =>
    exact absurd ((at?_child hhere _).trans hchild) (hend _ _ _ rfl)
  | link hpass hentry hchild hfollow => exact .link hpass hentry hchild fun _ => rfl
  | name hpass hentry hchild hnolink _ ih =>
    exact .name hpass hentry hchild hnolink (ih ((at?_child hhere _).trans hchild) hend)

theorem walk_followed {links : Nat} {start place : Place} {parts : List Octets}
    (h : walk root false links start parts = .ok place)
    (hend : ∀ target time, root.at? place ≠ some (.link target time)) :
    walk root true links start parts = .ok place := by
  induction links generalizing start parts with
  | zero => cases h
  | succ links ih =>
    unfold walk at h ⊢
    cases hhere : root.at? start with
    | none => simp [hhere] at h
    | some here =>
      simp only [hhere] at h ⊢
      have hsame : ∀ e, walkToLink root false start.reverse here parts = e →
          (∀ errno, e ≠ .failed errno) → (∀ found target time, e = .reached found →
            root.at? found ≠ some (.link target time)) →
              walkToLink root true start.reverse here parts = e := by
        intro e hfound hfine hnolink
        exact walkToLink_of_walks ((walks_of_walkToLink hfine hfound).followed
          (by rwa [List.reverse_reverse]) hnolink)
      split at h
      · next hfound =>
        cases h
        rw [hsame _ hfound (by simp) (by rintro _ target time ⟨⟩; exact hend target time)]
      · cases h
      · next hfound =>
        rw [hsame _ hfound (by simp) (by simp)]
        exact ih h

theorem locateWith_followed {d : Disk} {directory place : Place} {raw : Octets}
    (h : d.locateWith false directory raw = .ok place)
    (hend : ∀ target time, d.node? place ≠ some (.link target time)) :
    d.locateWith true directory raw = .ok place := by
  unfold locateWith at h ⊢
  split at h
  · cases h
  next hne =>
  split at h
  · cases h
  next hlong =>
  rw [if_neg hne, if_neg hlong]
  dsimp only at h ⊢
  cases hslash : endsInSlash raw with
  | true =>
    rw [hslash] at h
    exact h
  | false =>
    rw [hslash] at h
    simp only [Bool.or_false, Bool.false_eq_true, if_false] at h ⊢
    split at h
    · cases h
    next found hfound =>
    cases h
    rw [walk_followed hfound hend]

/-! ## Names below directories -/

/-- A name that is no point. -/
def IsName (c : Octets) : Prop := c ≠ ['.'] ∧ c ≠ ['.', '.']

/-- Where no link is on the way, names lead to where they say, or nowhere. A link at the end is none
that is followed. -/
theorem walkToLink_names {follow : Bool} {names : List Octets} (hnames : ∀ c ∈ names, IsName c)
    {back : List Octets} {here : Node} (hhere : root.at? back.reverse = some here)
    (hlinks : ∀ below target time, below <+: names →
      root.at? (back.reverse ++ below) = some (.link target time) →
        below = names ∧ follow = false) :
    (walkToLink root follow back here names).Leads (back.reverse ++ names) := by
  induction names generalizing back here with
  | nil => simp [walkToLink, WalkEnd.Leads]
  | cons c rest ih =>
    obtain ⟨hpoint, hpoints⟩ := hnames c (List.mem_cons_self ..)
    unfold walkToLink
    rw [if_neg hpoint, if_neg hpoints]
    split
    · trivial
    split
    · trivial
    split
    · trivial
    cases hchild : here.child? c with
    | none =>
      cases rest with
      | nil => exact List.reverse_cons
      | cons => trivial
    | some n =>
      have hn : root.at? (c :: back).reverse = some n := (at?_child hhere c).trans hchild
      have hbelow : ∀ below target time, below <+: rest →
          root.at? ((c :: back).reverse ++ below) = some (.link target time) →
            below = rest ∧ follow = false := by
        intro below target time hbelow hlink
        rw [List.reverse_cons, List.append_assoc, List.singleton_append] at hlink
        obtain ⟨heq, hfollow⟩ :=
          hlinks _ target time (List.cons_prefix_cons.mpr ⟨rfl, hbelow⟩) hlink
        exact ⟨List.tail_eq_of_cons_eq heq, hfollow⟩
      have hnext := ih (fun b hb => hnames b (List.mem_cons_of_mem _ hb)) hn hbelow
      rw [List.reverse_cons, List.append_assoc, List.singleton_append] at hnext
      cases n with
      | link target time =>
        rw [List.reverse_cons] at hn
        obtain ⟨heq, hfollow⟩ :=
          hlinks [c] target time (List.cons_prefix_cons.mpr ⟨rfl, List.nil_prefix⟩) hn
        obtain rfl : rest = [] := (List.tail_eq_of_cons_eq heq).symm
        subst hfollow
        exact List.reverse_cons
      | _ => exact hnext

/-- A walk that comes to a directory goes on from there. -/
theorem Walks.append_reached {parts : List Octets} {back : List Octets} {here : Node} {e : WalkEnd}
    (h : Walks root false back here parts e) (hhere : root.at? back.reverse = some here)
    {place : Place} (hplace : e = .reached place) {n : Node} (hn : root.at? place = some n)
    (hdir : n.isDirectory = true) (follow : Bool) (names : List Octets) :
    walkToLink root follow back here (parts ++ names) =
      walkToLink root follow place.reverse n names := by
  induction h with
  | done =>
    cases hplace
    cases hhere.symm.trans hn
    rw [List.reverse_reverse, List.nil_append]
  | point hpass _ ih => exact (walkToLink_point hpass).trans (ih hhere hplace)
  | points hpass habove _ ih => exact (walkToLink_points hpass habove).trans (ih habove hplace)
  | missing hpass hentry hchild =>
    cases hplace
    rw [at?_child hhere, hchild] at hn
    cases hn
  | linkKept hpass hentry hchild hfollow =>
    cases hplace
    rw [at?_child hhere, hchild] at hn
    cases hn
    cases hdir
  | link => cases hplace
  | name hpass hentry hchild hnolink _ ih =>
    exact (walkToLink_name hpass hentry hchild hnolink).trans
      (ih ((at?_child hhere _).trans hchild) hplace)

/-- A walk that comes to a link comes to it whatever follows. -/
theorem Walks.append_link {parts : List Octets} {back : List Octets} {here : Node} {e : WalkEnd}
    (h : Walks root false back here parts e) {directory : Place} {target : Octets}
    {rest : List Octets} (hlink : e = .link directory target rest) (follow : Bool)
    (names : List Octets) :
    rest ≠ [] ∧ walkToLink root follow back here (parts ++ names) =
      .link directory target (rest ++ names) := by
  induction h with
  | done => cases hlink
  | point hpass _ ih => exact ⟨(ih hlink).1, (walkToLink_point hpass).trans (ih hlink).2⟩
  | points hpass habove _ ih =>
    exact ⟨(ih hlink).1, (walkToLink_points hpass habove).trans (ih hlink).2⟩
  | missing => cases hlink
  | linkKept => cases hlink
  | link hpass hentry hchild hfollow =>
    cases hlink
    have hne : rest ≠ [] := fun hnil => Bool.false_ne_true (hfollow hnil)
    exact ⟨hne, walkToLink_link hpass hentry hchild fun hnil =>
      absurd (List.append_eq_nil_iff.mp hnil).1 hne⟩
  | name hpass hentry hchild hnolink _ ih =>
    exact ⟨(ih hlink).1, (walkToLink_name hpass hentry hchild hnolink).trans (ih hlink).2⟩

/-- A walk to a directory, and from there over components that lead on without links. -/
theorem walk_append {links : Nat} {start base : Place} {parts names : List Octets} {follow : Bool}
    (hbase : walk root false links start parts = .ok base) {n : Node}
    (hn : root.at? base = some n) (hdir : n.isDirectory = true)
    (hleads : (walkToLink root follow base.reverse n names).Leads (base ++ names)) {place : Place}
    (h : walk root follow links start (parts ++ names) = .ok place) : place = base ++ names := by
  induction links generalizing start parts with
  | zero => cases h
  | succ links ih =>
    unfold walk at h hbase
    cases hhere : root.at? start with
    | none => simp [hhere] at h
    | some here =>
      have hback : root.at? start.reverse.reverse = some here := by rwa [List.reverse_reverse]
      simp only [hhere] at h hbase
      split at hbase
      · next found hend =>
        cases hbase
        rw [(walks_of_walkToLink (by simp) hend).append_reached hback rfl hn hdir] at h
        split at h
        · next hreached =>
          rw [hreached] at hleads
          cases h
          exact hleads
        · cases h
        · next hlink =>
          rw [hlink] at hleads
          exact hleads.elim
      · cases hbase
      · next directory target rest hend =>
        obtain ⟨hne, hlong⟩ :=
          (walks_of_walkToLink (by simp) hend).append_link rfl follow names
        have hshort : ∀ ps : List Octets, ps ≠ [] →
            (if ps.isEmpty && endsInSlash target then [['.']] else ps) = ps := by
          intro ps hps
          simp [hps]
        simp only [hlong, hshort _ (show rest ++ names ≠ [] by simp [hne]), ← List.append_assoc]
          at h
        simp only [hshort _ hne] at hbase
        exact ih hbase h

theorem walk_names {links : Nat} {start base : Place} {parts : List Octets}
    (hbase : walk root false links start parts = .ok base) (hunlinked : root.Unlinked base)
    {names : List Octets} (hnames : ∀ c ∈ names, IsName c) {follow : Bool} {place : Place}
    (h : walk root follow links start (parts ++ names) = .ok place) : place = base ++ names := by
  obtain ⟨n, hn, hdir⟩ := hunlinked.stands
  refine walk_append hbase hn hdir ?_ h
  have hback : root.at? base.reverse.reverse = some n := by rwa [List.reverse_reverse]
  have hleads : (walkToLink root follow base.reverse n names).Leads _ :=
    walkToLink_names hnames hback fun below target time _ hlink => by
      rw [List.reverse_reverse] at hlink
      exact absurd hlink (hunlinked.noLink below target time)
  rwa [List.reverse_reverse] at hleads

end Disk

end Worksheet
