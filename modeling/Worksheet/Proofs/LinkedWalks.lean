-- Walks over links to their end, component by component. Such a walk stops at a directory before it
-- goes on, and from a place that can be reached over directories it comes to another such place.
import Worksheet.Proofs.WrittenFiles

namespace Worksheet

open Text (Octets)

namespace Disk

variable {root : Node}

/-! ## Walks over links -/

/-- A directory that may be passed stands at the place. -/
def Passable (root : Node) (place : Place) : Prop := ∃ here, root.at? place = some here ∧ Passes here

/-- Where a link goes on from, if it stands in this directory. -/
def linkStart (target : Octets) (directory : Place) : Place :=
  if isAbsolute target then [] else directory

/-- What is left to walk behind a link. A link whose text ends in a slash leads to a directory. -/
def afterLink (target : Octets) (rest : List Octets) : List Octets :=
  if rest.isEmpty && endsInSlash target then [['.']] else rest

/-- From a place, components lead over so many links to another place. All links are followed, and
only the last component may be missing. -/
inductive Reaches (root : Node) : Nat → Place → List Octets → Place → Prop
  | done {p : Place} : Reaches root 0 p [] p
  | point {k : Nat} {p q : Place} {rest : List Octets} : Passable root p → Reaches root k p rest q →
    Reaches root k p (['.'] :: rest) q
  | points {k : Nat} {p q : Place} {rest : List Octets} : Passable root p →
    Reaches root k p.dropLast rest q → Reaches root k p (['.', '.'] :: rest) q
  | missing {p : Place} {c : Octets} : Passable root p → IsEntry c → root.at? (p ++ [c]) = none →
    Reaches root 0 p [c] (p ++ [c])
  | name {k : Nat} {p q : Place} {c : Octets} {rest : List Octets} {n : Node} : Passable root p →
    IsEntry c → root.at? (p ++ [c]) = some n → (∀ target time, n ≠ .link target time) →
    Reaches root k (p ++ [c]) rest q → Reaches root k p (c :: rest) q
  | link {k : Nat} {p q : Place} {c target : Octets} {rest : List Octets} {time : Int} :
    Passable root p → IsEntry c → root.at? (p ++ [c]) = some (.link target time) →
    Reaches root k (linkStart target p) (components target ++ afterLink target rest) q →
    Reaches root (k + 1) p (c :: rest) q

/-- A walk up to a link is the first part of a walk over links. -/
theorem Walks.reaches {back parts : List Octets} {here : Node} {e : WalkEnd}
    (h : Walks root true back here parts e) (hhere : root.at? back.reverse = some here) :
    (∀ place, e = .reached place → Reaches root 0 back.reverse parts place) ∧
      ∀ directory target rest, e = .link directory target rest → ∀ k q,
        Reaches root k (linkStart target directory) (components target ++ afterLink target rest) q →
          Reaches root (k + 1) back.reverse parts q := by
  induction h with
  | done =>
    refine ⟨fun place hplace => ?_, nofun⟩
    cases hplace
    exact .done
  | point hpass _ ih =>
    obtain ⟨hreached, hlink⟩ := ih hhere
    exact ⟨fun place hplace => .point ⟨_, hhere, hpass⟩ (hreached place hplace),
      fun directory target rest he k q hq =>
        .point ⟨_, hhere, hpass⟩ (hlink directory target rest he k q hq)⟩
  | @points back rest here above e hpass habove _ ih =>
    obtain ⟨hreached, hlink⟩ := ih habove
    have hup : back.tail.reverse = back.reverse.dropLast := List.dropLast_reverse.symm
    rw [hup] at hreached hlink
    exact ⟨fun place hplace => .points ⟨_, hhere, hpass⟩ (hreached place hplace),
      fun directory target rest he k q hq =>
        .points ⟨_, hhere, hpass⟩ (hlink directory target rest he k q hq)⟩
  | @missing back c here hpass hentry hnone =>
    refine ⟨fun place hplace => ?_, nofun⟩
    cases hplace
    rw [List.reverse_cons]
    refine .missing ⟨_, hhere, hpass⟩ hentry ?_
    rw [← List.reverse_cons, at?_child hhere, hnone]
  | linkKept _ _ _ hfollow => cases hfollow
  | @link back rest c target here time hpass hentry hchild _ =>
    refine ⟨nofun, fun directory target' rest' he k q hq => ?_⟩
    cases he
    have hlink := (at?_child hhere c).trans hchild
    rw [List.reverse_cons] at hlink
    exact .link ⟨_, hhere, hpass⟩ hentry hlink hq
  | @name back rest c here n e hpass hentry hchild hnolink _ ih =>
    have hn := (at?_child hhere c).trans hchild
    obtain ⟨hreached, hlink⟩ := ih hn
    rw [List.reverse_cons] at hn hreached hlink
    exact ⟨fun place hplace => .name ⟨_, hhere, hpass⟩ hentry hn hnolink (hreached place hplace),
      fun directory target rest he k q hq =>
        .name ⟨_, hhere, hpass⟩ hentry hn hnolink (hlink directory target rest he k q hq)⟩

/-- A walk that follows every link and comes to a place goes over fewer links than it may. -/
theorem reaches_of_walk {n : Nat} {start q : Place} {parts : List Octets}
    (h : walk root true n start parts = .ok q) : ∃ k < n, Reaches root k start parts q := by
  induction n generalizing start parts with
  | zero => cases h
  | succ n ih =>
    unfold walk at h
    cases hhere : root.at? start with
    | none => simp [hhere] at h
    | some here =>
      have hback : root.at? start.reverse.reverse = some here := by rwa [List.reverse_reverse]
      simp only [hhere] at h
      split at h
      · next place hend =>
        cases h
        have hwalks := (walks_of_walkToLink (by simp) hend).reaches hback
        rw [List.reverse_reverse] at hwalks
        exact ⟨0, Nat.succ_pos n, hwalks.1 _ rfl⟩
      · cases h
      · next directory target rest hend =>
        have hwalks := (walks_of_walkToLink (by simp) hend).reaches hback
        rw [List.reverse_reverse] at hwalks
        obtain ⟨k, hk, hrest⟩ := ih h
        exact ⟨k + 1, Nat.succ_lt_succ hk, hwalks.2 directory target rest rfl k q hrest⟩

theorem walk_of_passable {follow : Bool} {n : Nat} {p p' : Place} {here' : Node} {c : Octets}
    {rest rest' : List Octets} (hp : Passable root p) (hp' : root.at? p' = some here')
    (hsame : ∀ here, root.at? p = some here → Passes here →
      walkToLink root follow p.reverse here (c :: rest) =
        walkToLink root follow p'.reverse here' rest') :
    walk root follow n p (c :: rest) = walk root follow n p' rest' := by
  obtain ⟨here, hhere, hpass⟩ := hp
  cases n with
  | zero => rfl
  | succ n =>
    unfold walk
    simp only [hhere, hp', hsame here hhere hpass]

theorem Reaches.start {k : Nat} {p q : Place} {c : Octets} {rest : List Octets}
    (h : Reaches root k p (c :: rest) q) : Passable root p := by
  cases h <;> assumption

theorem child?_eq {p : Place} {here : Node} (hhere : root.at? p = some here) (c : Octets) :
    here.child? c = root.at? (p ++ [c]) := by
  rw [Node.at?_append, hhere, Option.bind_some, Node.at?_cons]
  cases here.child? c <;> rfl

/-- Above a place at which something stands there is a directory, or the place is the root. -/
theorem isSome_dropLast {p : Place} (h : (root.at? p).isSome = true) :
    (root.at? p.dropLast).isSome = true := by
  obtain ⟨here, hhere⟩ := Option.isSome_iff_exists.mp h
  by_cases hp : p = []
  · rw [hp]
    rfl
  · rw [← List.dropLast_concat_getLast hp] at hhere
    obtain ⟨above, habove, -⟩ := Node.isDirectory_of_at? hhere (List.cons_ne_nil _ _)
    exact Option.isSome_of_eq_some habove

/-! ## Steps of a walk -/

section Steps

variable {follow : Bool} {n : Nat} {p : Place} {c : Octets} {rest : List Octets}

theorem walk_step_point (hp : Passable root p) :
    walk root follow n p (['.'] :: rest) = walk root follow n p rest := by
  obtain ⟨here, hhere, hpass⟩ := hp
  refine walk_of_passable ⟨here, hhere, hpass⟩ hhere fun here' hhere' hpass' => ?_
  cases hhere.symm.trans hhere'
  exact walkToLink_point hpass'

theorem walk_step_points (hp : Passable root p) :
    walk root follow n p (['.', '.'] :: rest) = walk root follow n p.dropLast rest := by
  obtain ⟨here, hhere, -⟩ := id hp
  obtain ⟨above, habove⟩ :=
    Option.isSome_iff_exists.mp (isSome_dropLast (Option.isSome_of_eq_some hhere))
  refine walk_of_passable hp habove fun here' _ hpass' => ?_
  have hup : p.reverse.tail = p.dropLast.reverse := List.tail_reverse
  rw [walkToLink_points hpass' (by rw [hup, List.reverse_reverse]; exact habove), hup]

theorem walk_step_name {m : Node} (hp : Passable root p) (hentry : IsEntry c)
    (hm : root.at? (p ++ [c]) = some m) (hnolink : ∀ target time, m ≠ .link target time) :
    walk root follow n p (c :: rest) = walk root follow n (p ++ [c]) rest := by
  refine walk_of_passable hp hm fun here hhere hpass' => ?_
  rw [walkToLink_name hpass' hentry ((child?_eq hhere c).trans hm) hnolink, List.reverse_append]
  rfl

theorem walk_step_link {target : Octets} {time : Int} (hp : Passable root p) (hentry : IsEntry c)
    (hlink : root.at? (p ++ [c]) = some (.link target time)) (hfollow : rest = [] → follow = true) :
    walk root follow (n + 1) p (c :: rest) =
      walk root follow n (linkStart target p) (components target ++ afterLink target rest) := by
  obtain ⟨here, hhere, hpass⟩ := hp
  conv => lhs; unfold walk
  simp only [hhere, walkToLink_link hpass hentry ((child?_eq hhere c).trans hlink) hfollow,
    List.reverse_reverse]
  rfl

end Steps

theorem isSome_linkStart {p : Place} (h : (root.at? p).isSome = true) (target : Octets) :
    (root.at? (linkStart target p)).isSome = true := by
  unfold linkStart
  split
  · rfl
  · exact h

/-- And such a walk does not fail. -/
theorem walk_of_reaches {k n : Nat} {start q : Place} {parts : List Octets}
    (h : Reaches root k start parts q) (hstart : (root.at? start).isSome = true) (hn : k < n) :
    walk root true n start parts = .ok q := by
  induction h generalizing n with
  | @done p =>
    obtain ⟨here, hhere⟩ := Option.isSome_iff_exists.mp hstart
    obtain ⟨n, rfl⟩ := Nat.exists_eq_add_of_lt hn
    unfold walk
    simp [hhere, walkToLink]
  | point hpass _ ih => exact (walk_step_point hpass).trans (ih hstart hn)
  | points hpass _ ih => exact (walk_step_points hpass).trans (ih (isSome_dropLast hstart) hn)
  | @missing p c hpass hentry hnone =>
    obtain ⟨here, hhere, hdir⟩ := hpass
    obtain ⟨n, rfl⟩ := Nat.exists_eq_add_of_lt hn
    unfold walk
    simp [hhere, walkToLink_missing hdir hentry ((child?_eq hhere c).trans hnone)]
  | name hpass hentry hm hnolink _ ih =>
    exact (walk_step_name hpass hentry hm hnolink).trans (ih (Option.isSome_of_eq_some hm) hn)
  | @link k p q c target rest time hpass hentry hlink _ ih =>
    obtain ⟨n, rfl⟩ := Nat.exists_eq_add_of_lt hn
    refine (walk_step_link hpass hentry hlink fun _ => rfl).trans (ih ?_ (by omega))
    exact isSome_linkStart hstart target

/-! ## Cutting a walk in two -/

theorem afterLink_of_ne_nil {rest : List Octets} (h : rest ≠ []) (target : Octets) :
    afterLink target rest = rest := by
  unfold afterLink
  simp [h]

/-- At a directory that may be passed, a point at the end changes nothing. -/
theorem Reaches.append_point {k : Nat} {p q : Place} {parts : List Octets}
    (h : Reaches root k p parts q) (hpass : Passable root q) :
    Reaches root k p (parts ++ [['.']]) q := by
  induction h with
  | done => exact .point hpass .done
  | point hp _ ih => exact .point hp (ih hpass)
  | points hp _ ih => exact .points hp (ih hpass)
  | missing hp hentry hnone =>
    obtain ⟨here, hhere, -⟩ := hpass
    cases hnone.symm.trans hhere
  | name hp hentry hn hnolink _ ih => exact .name hp hentry hn hnolink (ih hpass)
  | @link k p q c target rest time hp hentry hlink hrest ih =>
    refine .link hp hentry hlink ?_
    rw [afterLink_of_ne_nil (by simp)]
    unfold afterLink at hrest ih
    split at hrest
    · next hslash =>
      obtain rfl : rest = [] := by simpa using (Bool.and_eq_true_iff.mp hslash).1
      exact hrest
    · next hslash =>
      rw [if_neg hslash, List.append_assoc] at ih
      exact ih hpass

/-- Nor does it change where components lead. -/
theorem Reaches.of_append_point {k : Nat} {p q : Place} {parts : List Octets}
    (h : Reaches root k p (parts ++ [['.']]) q) : Reaches root k p parts q := by
  generalize hall : parts ++ [['.']] = all at h
  induction h generalizing parts with
  | done => simp at hall
  | @point k p q rest hp hrest ih =>
    cases parts with
    | nil =>
      cases hall
      cases hrest
      exact .done
    | cons c parts =>
      cases hall
      exact .point hp (ih rfl)
  | points hp _ ih =>
    cases parts with
    | nil => cases hall
    | cons c parts =>
      cases hall
      exact .points hp (ih rfl)
  | missing hp hentry hnone =>
    cases parts with
    | nil =>
      cases hall
      exact absurd rfl hentry.1
    | cons c parts => simp at hall
  | name hp hentry hn hnolink _ ih =>
    cases parts with
    | nil =>
      cases hall
      exact absurd rfl hentry.1
    | cons c parts =>
      cases hall
      exact .name hp hentry hn hnolink (ih rfl)
  | @link k p q c target rest time hp hentry hlink hrest ih =>
    cases parts with
    | nil =>
      cases hall
      exact absurd rfl hentry.1
    | cons c parts =>
      rw [List.cons_append] at hall
      cases hall
      refine .link hp hentry hlink ?_
      rw [afterLink_of_ne_nil (by simp)] at hrest ih
      unfold afterLink
      split
      · next hslash =>
        obtain rfl : parts = [] := by simpa using (Bool.and_eq_true_iff.mp hslash).1
        exact hrest
      · exact ih (by rw [List.append_assoc])

/-- A walk that comes to a directory goes on from there, with what is left of the links that it may
go over. -/
theorem Reaches.walk_append {k : Nat} {p q : Place} {parts : List Octets}
    (h : Reaches root k p parts q) (hpass : Passable root q) {further : List Octets}
    (hne : further ≠ []) (follow : Bool) (n : Nat) :
    walk root follow (n + k) p (parts ++ further) = walk root follow n q further := by
  -- Behind a link the walk may be one with a point at its end, so the induction is on the links.
  induction k using Nat.strongRecOn generalizing p parts with
  | ind k ihlinks =>
    induction h with
    | done => rfl
    | point hp _ ih => exact (walk_step_point hp).trans (ih hpass ihlinks)
    | points hp _ ih => exact (walk_step_points hp).trans (ih hpass ihlinks)
    | missing hp hentry hnone =>
      obtain ⟨here, hhere, -⟩ := hpass
      cases hnone.symm.trans hhere
    | name hp hentry hn hnolink _ ih =>
      exact (walk_step_name hp hentry hn hnolink).trans (ih hpass ihlinks)
    | @link k p q c target rest time hp hentry hlink hrest _ =>
      have hlong : rest ++ further ≠ [] := List.append_ne_nil_of_right_ne_nil rest hne
      have hshort : Reaches root k (linkStart target p) (components target ++ rest) q := by
        unfold afterLink at hrest
        split at hrest
        · next hslash =>
          obtain rfl : rest = [] := by simpa using (Bool.and_eq_true_iff.mp hslash).1
          rw [List.append_nil]
          exact hrest.of_append_point
        · exact hrest
      rw [List.cons_append, ← Nat.add_assoc,
        walk_step_link hp hentry hlink fun hnil => absurd hnil hlong, afterLink_of_ne_nil hlong,
        ← List.append_assoc]
      exact ihlinks k (Nat.lt_succ_self k) hshort

/-- Where something stands that a path leads to, something stands that it leads to if it does not
follow a link at its end. -/
theorem Reaches.unfollowed {k : Nat} {p q : Place} {parts : List Octets}
    (h : Reaches root k p parts q) (hp : (root.at? p).isSome = true)
    (hq : (root.at? q).isSome = true) {n : Nat} (hn : k < n) :
    ∃ r, walk root false n p parts = .ok r ∧ (root.at? r).isSome = true := by
  induction h generalizing n with
  | @done p =>
    obtain ⟨here, hhere⟩ := Option.isSome_iff_exists.mp hp
    obtain ⟨n, rfl⟩ := Nat.exists_eq_add_of_lt hn
    refine ⟨p, ?_, hp⟩
    unfold walk
    simp [hhere, walkToLink]
  | point hpass _ ih =>
    rw [walk_step_point hpass]
    exact ih hp hq hn
  | points hpass _ ih =>
    rw [walk_step_points hpass]
    exact ih (isSome_dropLast hp) hq hn
  | missing _ _ hnone =>
    rw [hnone] at hq
    cases hq
  | name hpass hentry hm hnolink _ ih =>
    rw [walk_step_name hpass hentry hm hnolink]
    exact ih (Option.isSome_of_eq_some hm) hq hn
  | @link k p q c target rest time hpass hentry hlink _ ih =>
    obtain ⟨n, rfl⟩ := Nat.exists_eq_add_of_lt hn
    by_cases hnil : rest = []
    · subst hnil
      obtain ⟨here, hhere, hdir⟩ := hpass
      refine ⟨p ++ [c], ?_, Option.isSome_of_eq_some hlink⟩
      unfold walk
      simp [hhere, walkToLink_linkKept hdir hentry ((child?_eq hhere c).trans hlink) rfl]
    · rw [walk_step_link hpass hentry hlink fun hrest => absurd hrest hnil]
      exact ih (isSome_linkStart hp target) hq (by omega)

/-- A walk stops at a directory before it goes on. -/
theorem Reaches.split {k : Nat} {p q : Place} {parts further : List Octets}
    (h : Reaches root k p (parts ++ further) q) (hne : further ≠ []) :
    ∃ k₁ k₂ r, k₁ + k₂ = k ∧ Reaches root k₁ p parts r ∧ Passable root r ∧
      Reaches root k₂ r further q := by
  generalize hall : parts ++ further = all at h
  induction h generalizing parts with
  | done =>
    obtain ⟨-, hnil⟩ := List.append_eq_nil_iff.mp hall
    exact absurd hnil hne
  | point hp hrest ih =>
    cases parts with
    | nil =>
      rw [List.nil_append] at hall
      subst hall
      exact ⟨0, _, _, Nat.zero_add _, .done, hp, .point hp hrest⟩
    | cons c parts =>
      cases hall
      obtain ⟨k₁, k₂, r, hk, hfirst, hr, hsecond⟩ := ih rfl
      exact ⟨k₁, k₂, r, hk, .point hp hfirst, hr, hsecond⟩
  | points hp hrest ih =>
    cases parts with
    | nil =>
      rw [List.nil_append] at hall
      subst hall
      exact ⟨0, _, _, Nat.zero_add _, .done, hp, .points hp hrest⟩
    | cons c parts =>
      cases hall
      obtain ⟨k₁, k₂, r, hk, hfirst, hr, hsecond⟩ := ih rfl
      exact ⟨k₁, k₂, r, hk, .points hp hfirst, hr, hsecond⟩
  | missing hp hentry hnone =>
    cases parts with
    | nil =>
      rw [List.nil_append] at hall
      subst hall
      exact ⟨0, _, _, rfl, .done, hp, .missing hp hentry hnone⟩
    | cons c parts =>
      obtain ⟨-, hnil⟩ := List.append_eq_nil_iff.mp (List.cons.inj hall).2
      exact absurd hnil hne
  | name hp hentry hn hnolink hrest ih =>
    cases parts with
    | nil =>
      rw [List.nil_append] at hall
      subst hall
      exact ⟨0, _, _, Nat.zero_add _, .done, hp, .name hp hentry hn hnolink hrest⟩
    | cons c parts =>
      cases hall
      obtain ⟨k₁, k₂, r, hk, hfirst, hr, hsecond⟩ := ih rfl
      exact ⟨k₁, k₂, r, hk, .name hp hentry hn hnolink hfirst, hr, hsecond⟩
  | @link k p q c target rest time hp hentry hlink hrest ih =>
    cases parts with
    | nil =>
      rw [List.nil_append] at hall
      subst hall
      exact ⟨0, _, _, Nat.zero_add _, .done, hp, .link hp hentry hlink hrest⟩
    | cons c parts =>
      rw [List.cons_append] at hall
      cases hall
      have hlong : parts ++ further ≠ [] := List.append_ne_nil_of_right_ne_nil parts hne
      have hsame : components target ++ parts ++ further =
          components target ++ afterLink target (parts ++ further) := by
        rw [afterLink_of_ne_nil hlong, List.append_assoc]
      obtain ⟨k₁, k₂, r, hk, hfirst, hr, hsecond⟩ := ih hsame
      refine ⟨k₁ + 1, k₂, r, by omega, .link hp hentry hlink ?_, hr, hsecond⟩
      unfold afterLink
      split
      · next hslash =>
        obtain rfl : parts = [] := by simpa using (Bool.and_eq_true_iff.mp hslash).1
        rw [List.append_nil] at hfirst
        exact hfirst.append_point hr
      · exact hfirst

/-! ## Open places -/

/-- Every component is a name without slashes. -/
def Named (parts : List Octets) : Prop := ∀ c ∈ parts, c ≠ [] ∧ '/' ∉ c

theorem named_components (raw : Octets) : Named (components raw) := fun _ hc =>
  ⟨ne_nil_of_mem_components hc, Text.not_mem_of_mem_split (List.mem_filter.mp hc).1⟩

/-- A place that the way from the root leads to: every directory on it may be passed. -/
structure Open (root : Node) (place : Place) : Prop where
  named : Named place
  entries : ∀ c ∈ place, IsEntry c
  passable : ∀ above c below, place = above ++ c :: below → Passable root above

theorem Open.nil : Open root [] :=
  ⟨nofun, nofun, fun above c below h => by simp at h⟩

theorem Open.child {p : Place} {c : Octets} (h : Open root p) (hpass : Passable root p)
    (hentry : IsEntry c) (hname : c ≠ [] ∧ '/' ∉ c) : Open root (p ++ [c]) := by
  refine ⟨fun b hb => ?_, fun b hb => ?_, fun above b below heq => ?_⟩
  · rcases List.mem_append.mp hb with hold | hlast
    · exact h.named b hold
    · exact List.mem_singleton.mp hlast ▸ hname
  · rcases List.mem_append.mp hb with hold | hlast
    · exact h.entries b hold
    · exact List.mem_singleton.mp hlast ▸ hentry
  · rcases List.eq_nil_or_concat below with rfl | ⟨below', last, rfl⟩
    · obtain ⟨rfl, -⟩ := List.append_inj' heq rfl
      exact hpass
    · have hshort : p = above ++ b :: below' := by
        rw [List.concat_eq_append, ← List.cons_append, ← List.append_assoc] at heq
        exact (List.append_inj' heq rfl).1
      exact h.passable above b below' hshort

theorem Open.above {p below : Place} (h : Open root (p ++ below)) : Open root p := by
  refine ⟨fun b hb => h.named b (List.mem_append_left _ hb),
    fun b hb => h.entries b (List.mem_append_left _ hb), fun above b below' heq => ?_⟩
  exact h.passable above b (below' ++ below) (by rw [heq, List.append_assoc, List.cons_append])

theorem Open.dropLast {p : Place} (h : Open root p) : Open root p.dropLast := by
  obtain ⟨below, hbelow⟩ := List.dropLast_prefix p
  rw [← hbelow] at h
  exact h.above

theorem Open.linkStart {p : Place} (h : Open root p) (target : Octets) :
    Open root (linkStart target p) := by
  unfold Disk.linkStart
  split
  · exact .nil
  · exact h

/-- A walk from an open place comes to an open place. -/
theorem Reaches.open {k : Nat} {p q : Place} {parts : List Octets} (h : Reaches root k p parts q)
    (hopen : Open root p) (hnamed : Named parts) : Open root q := by
  induction h with
  | done => exact hopen
  | point _ _ ih => exact ih hopen fun b hb => hnamed b (List.mem_cons_of_mem _ hb)
  | points _ _ ih => exact ih hopen.dropLast fun b hb => hnamed b (List.mem_cons_of_mem _ hb)
  | missing hp hentry _ => exact hopen.child hp hentry (hnamed _ (List.mem_cons_self ..))
  | name hp hentry _ _ _ ih =>
    exact ih (hopen.child hp hentry (hnamed _ (List.mem_cons_self ..)))
      fun b hb => hnamed b (List.mem_cons_of_mem _ hb)
  | @link k p q c target rest time hp hentry hlink _ ih =>
    refine ih (hopen.linkStart target) fun b hb => ?_
    rcases List.mem_append.mp hb with htarget | hrest
    · exact named_components target b htarget
    · unfold afterLink at hrest
      split at hrest
      · rw [List.mem_singleton.mp hrest]
        decide
      · exact hnamed b (List.mem_cons_of_mem _ hrest)

theorem Passable.no_link {p : Place} (h : Passable root p) (target : Octets) (time : Int) :
    root.at? p ≠ some (.link target time) := by
  obtain ⟨here, hhere, hdir, -⟩ := h
  intro hlink
  cases hhere.symm.trans hlink
  cases hdir

/-- Over directories that may be passed, names lead to where they say, as long as no link at their
end is followed. -/
theorem walkToLink_onward {follow : Bool} {above below : Place} {here : Node}
    (hentries : ∀ c ∈ below, IsEntry c)
    (hpass : ∀ front c back, below = front ++ c :: back → Passable root (above ++ front))
    (hhere : root.at? above = some here)
    (hend : ∀ target time, root.at? (above ++ below) = some (.link target time) →
      follow = false) :
    walkToLink root follow above.reverse here below = .reached (above ++ below) := by
  induction below generalizing above here with
  | nil => rw [walkToLink, List.reverse_reverse, List.append_nil]
  | cons c below ih =>
    obtain ⟨here', hhere', hpasses⟩ := hpass [] c below rfl
    rw [List.append_nil] at hhere'
    cases hhere.symm.trans hhere'
    have hentry := hentries c (List.mem_cons_self ..)
    have hback : (c :: above.reverse).reverse = above ++ [c] := by
      rw [List.reverse_cons, List.reverse_reverse]
    have hall : above ++ c :: below = above ++ [c] ++ below := by simp
    have hnext : ∀ front b back, below = front ++ b :: back →
        Passable root (above ++ [c] ++ front) := by
      rintro front b back rfl
      have hfront := hpass (c :: front) b back rfl
      rwa [List.append_assoc, List.singleton_append]
    rw [hall] at hend ⊢
    cases hchild : root.at? (above ++ [c]) with
    | none =>
      have hlast : below = [] := by
        cases below with
        | nil => rfl
        | cons b below =>
          obtain ⟨m, hm, -⟩ := hnext [] b below rfl
          rw [List.append_nil, hchild] at hm
          cases hm
      subst hlast
      rw [walkToLink_missing hpasses hentry ((child?_eq hhere c).trans hchild), hback,
        List.append_nil]
    | some n =>
      have hn := (child?_eq hhere c).trans hchild
      have hgo := ih (fun b hb => hentries b (List.mem_cons_of_mem _ hb)) hnext hchild hend
      by_cases hlink : ∃ target time, n = .link target time
      · obtain ⟨target, time, rfl⟩ := hlink
        have hlast : below = [] := by
          cases below with
          | nil => rfl
          | cons b below =>
            have hpassed := hnext [] b below rfl
            rw [List.append_nil] at hpassed
            exact absurd hchild (hpassed.no_link _ _)
        subst hlast
        rw [List.append_nil] at hend
        rw [walkToLink_linkKept hpasses hentry hn (hend target time hchild), hback,
          List.append_nil]
      · have hnolink : ∀ target time, n ≠ .link target time := fun target time heq =>
          hlink ⟨target, time, heq⟩
        rw [walkToLink_name hpasses hentry hn hnolink, ← hgo, List.reverse_append]
        rfl

/-- The way to an open place leads there, as long as no link at its end is followed. -/
theorem walkToLink_place {follow : Bool} {above below : Place} {here : Node}
    (hopen : Open root (above ++ below)) (hhere : root.at? above = some here)
    (hend : ∀ target time, root.at? (above ++ below) = some (.link target time) →
      follow = false) :
    walkToLink root follow above.reverse here below = .reached (above ++ below) := by
  refine walkToLink_onward (fun c hc => hopen.entries c (List.mem_append_right _ hc))
    (fun front c back hbelow => ?_) hhere hend
  exact hopen.passable (above ++ front) c back (by rw [hbelow, List.append_assoc])

variable {d : Disk}

theorem components_place {place : Place} (h : Named place) :
    components place.octets = place ∧ isAbsolute place.octets = true := by
  refine ⟨?_, (place.way.isAbsolute_octets h).mpr nofun⟩
  rcases place.way.components_octets h with hparts | ⟨hnil, hpoint⟩
  · exact hparts
  · obtain rfl : place = [] := hnil
    rfl

/-- The path of an open place leads to it. -/
theorem locateWith_place {follow : Bool} {place : Place} (hopen : Open d.root place)
    (hshort : place.octets.length ≤ maxPathBytes) (hne : place ≠ [])
    (hend : ∀ target time, d.node? place = some (.link target time) → follow = false)
    (directory : Place) : d.locateWith follow directory place.octets = .ok place := by
  obtain ⟨hcomponents, habsolute⟩ := components_place hopen.named
  have hslash : endsInSlash place.octets = false := Way.endsInSlash_octets hopen.named hne
  have hraw : place.octets.isEmpty = false := by
    cases hoctets : place.octets with
    | nil => rw [hoctets] at habsolute; cases habsolute
    | cons => rfl
  have hwalk : walk d.root follow (maxLinks + 1) [] place = .ok place := by
    have hgo : walkToLink d.root follow (List.reverse []) d.root place = .reached place :=
      walkToLink_place hopen rfl hend
    unfold walk
    simp only [Node.at?, hgo]
  unfold locateWith
  rw [hraw, if_neg Bool.false_ne_true, if_neg (Nat.not_lt.mpr hshort), habsolute, hcomponents,
    hslash]
  simp only [Bool.or_false, if_true, hwalk, Bool.false_eq_true, if_false]

/-- The text of a link is read at its place, if its path is not too long. -/
theorem linkAt?_iff {place : Place} (hopen : Open d.root place) (hne : place ≠ [])
    (hshort : ∀ n, d.node? place = some n → place.octets.length ≤ maxPathBytes)
    {target : Octets} :
    d.linkAt? place = some target ↔ ∃ time, d.node? place = some (.link target time) := by
  have hlocate : place.octets.length ≤ maxPathBytes →
      d.locateWith false [] place.octets = .ok place := fun hlength =>
    locateWith_place hopen hlength hne (fun _ _ _ => rfl) []
  unfold linkAt? statWith
  cases hn : d.node? place with
  | none =>
    refine iff_of_false (fun hlink => ?_) (by simp)
    split at hlink
    · next found target' time hstat =>
      split at hstat
      · cases hstat
      next place' hplace =>
      have hlength : place.octets.length ≤ maxPathBytes := by
        unfold locateWith at hplace
        split at hplace
        · cases hplace
        split at hplace
        · cases hplace
        next hnot => exact Nat.not_lt.mp hnot
      cases hplace.symm.trans (hlocate hlength)
      rw [hn] at hstat
      cases hstat
    · cases hlink
  | some n =>
    rw [hlocate (hshort n hn)]
    simp only [hn]
    cases n with
    | link target' time => simp
    | _ => simp

/-- A directory at an open place is found by its path. -/
theorem stat_place {place : Place} (hopen : Open d.root place)
    (hshort : place.octets.length ≤ maxPathBytes) {n : Node} (hn : d.node? place = some n)
    (hdir : n.isDirectory = true) : d.stat place.octets = .ok (place, n) := by
  have hnolink : ∀ target time, d.node? place = some (.link target time) → true = false := by
    intro target time hlink
    cases hn.symm.trans hlink
    cases hdir
  unfold stat statFrom statWith
  by_cases hne : place = []
  · subst hne
    obtain rfl : d.root = n := Option.some.inj hn
    have hroot : d.locateWith true d.current (Place.octets []) = .ok [] := by
      have hslash : endsInSlash (Place.octets []) = true := rfl
      have hcomponents : components (Place.octets []) = [] := rfl
      unfold locateWith
      rw [if_neg (by decide), if_neg (by decide), hcomponents, hslash]
      simp only [walk, walkToLink, Node.at?, hn, hdir, if_true,
        show isAbsolute (Place.octets []) = true from rfl, List.reverse_nil]
    rw [hroot]
    simp only [hn]
  · rw [locateWith_place hopen hshort hne hnolink]
    simp only [hn]

/-! ## Directories of files -/

theorem intercalate_append {parts further : List Octets} (hparts : parts ≠ [])
    (hfurther : further ≠ []) :
    ['/'].intercalate (parts ++ further) =
      ['/'].intercalate parts ++ '/' :: ['/'].intercalate further := by
  induction parts with
  | nil => exact absurd rfl hparts
  | cons c parts ih =>
    rw [List.cons_append, List.intercalate_cons_of_ne_nil (by simp [hfurther])]
    by_cases hnil : parts = []
    · subst hnil
      simp
    · rw [ih hnil, List.intercalate_cons_of_ne_nil hnil]
      simp

/-- The path of a file is no shorter than that of a directory above it, or its path from there. -/
theorem length_octets_le (anchor : Anchor) (parts : List Octets) {further : List Octets}
    (hfurther : further ≠ []) (hnames : Named further) :
    (Way.octets ⟨anchor, parts⟩).length ≤ (Way.octets ⟨anchor, parts ++ further⟩).length ∧
      (Way.octets ⟨.current, further⟩).length ≤
        (Way.octets ⟨anchor, parts ++ further⟩).length := by
  have hlong : 1 ≤ (['/'].intercalate further).length := by
    obtain ⟨c, rest, rfl⟩ := List.exists_cons_of_ne_nil hfurther
    obtain ⟨hne, -⟩ := hnames c (List.mem_cons_self ..)
    have hc : 1 ≤ c.length := List.length_pos_iff.mpr hne
    cases rest with
    | nil => simpa using hc
    | cons b rest =>
      rw [List.intercalate_cons_cons, List.length_append, List.length_append]
      omega
  have hfile : Way.octets ⟨anchor, parts ++ further⟩ =
      anchor.text.toList ++ ['/'].intercalate (parts ++ further) := by
    unfold Way.octets
    simp [hfurther]
  have hbelow : Way.octets ⟨.current, further⟩ = ['/'].intercalate further := by
    unfold Way.octets
    simp [hfurther, Anchor.text]
  rw [hfile, hbelow]
  by_cases hnil : parts = []
  · subst hnil
    unfold Way.octets
    rw [List.nil_append, List.length_append]
    refine ⟨?_, Nat.le_add_left _ _⟩
    split
    · simp only [List.length_singleton]
      omega
    · simp
  · have habove : Way.octets ⟨anchor, parts⟩ = anchor.text.toList ++ ['/'].intercalate parts := by
      unfold Way.octets
      simp [hnil]
    rw [habove, intercalate_append hnil hfurther]
    simp only [List.length_append, List.length_cons]
    omega

/-- A path leads to where its components lead. -/
theorem locateWith_of_walk {w : Way} (hnamed : w.Named) (hshort : w.octets.length ≤ maxPathBytes)
    {directory r : Place}
    (hwalk : walk d.root true (maxLinks + 1) (if w.anchor = .current then directory else [])
      w.parts = .ok r) (hpass : w.parts = [] → Passable d.root r) :
    d.locateWith true directory w.octets = .ok r := by
  have hraw : w.octets.isEmpty = false := by
    obtain ⟨anchor, parts⟩ := w
    unfold Way.octets
    cases anchor with
    | current =>
      cases parts with
      | nil => rfl
      | cons c parts =>
        obtain ⟨hne, -⟩ := hnamed c (List.mem_cons_self ..)
        cases parts <;> simp [List.intercalate_cons_cons, Anchor.text, hne]
    | _ => simp [Anchor.text]
  unfold locateWith
  rw [hraw, if_neg Bool.false_ne_true, if_neg (Nat.not_lt.mpr hshort), Way.start_octets hnamed]
  by_cases hnil : w.parts = []
  · obtain ⟨here, hhere, hdir⟩ := hpass hnil
    obtain ⟨k, hk, hreaches⟩ := reaches_of_walk hwalk
    rw [hnil] at hreaches
    have hstart : (if w.anchor = .current then directory else []) = r := by
      cases hreaches
      rfl
    have hsame : walk d.root true (maxLinks + 1) r (components w.octets) = .ok r := by
      refine walk_of_reaches ?_ (Option.isSome_of_eq_some hhere) (Nat.succ_pos _)
      rcases w.components_octets hnamed with hparts | ⟨-, hpoint⟩
      · rw [hparts, hnil]
        exact .done
      · rw [hpoint]
        exact .point ⟨here, hhere, hdir⟩ .done
    simp only [Bool.true_or, hstart, hsame]
    split
    · unfold node?
      simp only [hhere, hdir.1, if_true]
    · rfl
  · have hparts := (w.components_octets hnamed).resolve_right fun hboth => hnil hboth.1
    simp only [Way.endsInSlash_octets hnamed hnil, Bool.or_false, hparts, hwalk,
      Bool.false_eq_true, if_false]

/-- The path of a file leads through a directory above it, and from there to the file. -/
theorem exists_directory {anchor : Anchor} {parts further : List Octets} (hparts : Named parts)
    (hfurther : Named further) (hne : further ≠ []) {directory place : Place}
    (h : d.locateWith true directory (Way.octets ⟨anchor, parts ++ further⟩) = .ok place) :
    ∃ r, d.locateWith true directory (Way.octets ⟨anchor, parts⟩) = .ok r ∧ Passable d.root r ∧
      (Open d.root directory → Open d.root r) ∧
      d.locateWith true r (Way.octets ⟨.current, further⟩) = .ok place := by
  have hall : Named (parts ++ further) := fun c hc =>
    (List.mem_append.mp hc).elim (hparts c) (hfurther c)
  obtain ⟨hshort, hwalk⟩ := walk_of_locateWith (w := ⟨anchor, parts ++ further⟩) hall
    (List.append_ne_nil_of_right_ne_nil parts hne) h
  obtain ⟨habove, hbelow⟩ := length_octets_le anchor parts hne hfurther
  obtain ⟨k, hk, hreaches⟩ := reaches_of_walk hwalk
  obtain ⟨k₁, k₂, r, hsum, hfirst, hr, hsecond⟩ := hreaches.split hne
  have hstart : (d.root.at? (if anchor = .current then directory else [])).isSome = true := by
    obtain ⟨c, rest, hcons⟩ := List.exists_cons_of_ne_nil
      (List.append_ne_nil_of_right_ne_nil parts hne)
    dsimp only at hreaches
    rw [hcons] at hreaches
    obtain ⟨here, hhere, -⟩ := hreaches.start
    exact Option.isSome_of_eq_some hhere
  obtain ⟨here, hhere, -⟩ := id hr
  refine ⟨r, ?_, hr, fun hopen => ?_, ?_⟩
  · exact locateWith_of_walk (w := ⟨anchor, parts⟩) hparts (Nat.le_trans habove hshort)
      (walk_of_reaches hfirst hstart (Nat.lt_of_le_of_lt (hsum ▸ Nat.le_add_right k₁ k₂) hk))
      fun _ => hr
  · refine hfirst.open ?_ hparts
    dsimp only
    split
    · exact hopen
    · exact .nil
  · exact locateWith_of_walk (w := ⟨.current, further⟩) hfurther (Nat.le_trans hbelow hshort)
      (walk_of_reaches hsecond (Option.isSome_of_eq_some hhere)
        (Nat.lt_of_le_of_lt (hsum ▸ Nat.le_add_left k₂ k₁) hk)) fun hnil => absurd hnil hne

end Disk

end Worksheet
