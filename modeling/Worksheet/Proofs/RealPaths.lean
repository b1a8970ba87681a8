-- The absolute form of a path. To replace every link on the way by what it leads to, and to read each
-- link once only, comes to where a walk over the links comes.
import Worksheet.Proofs.LinkedWalks
import Worksheet.Proofs.Territory

namespace Worksheet

open Text (Octets)

/-- Nothing is more than so many levels below a place, and all that is there passes a test. -/
def Node.allTo (test : Place → Node → Bool) : (depth : Nat) → Place → Node → Bool
  | 0, _, _ => false
  | depth + 1, p, n => test p n && n.entries.all fun e => allTo test depth (p ++ [e.1]) e.2

theorem Node.of_allTo {test : Place → Node → Bool} {depth : Nat} {p q : Place} {n m : Node}
    (h : n.allTo test depth p = true) (hm : n.at? q = some m) : test (p ++ q) m = true := by
  induction depth generalizing p q n with
  | zero => cases h
  | succ depth ih =>
    obtain ⟨hhere, hbelow⟩ := Bool.and_eq_true_iff.mp h
    cases q with
    | nil =>
      cases hm
      rwa [List.append_nil]
    | cons c q =>
      rw [at?_cons] at hm
      obtain ⟨child, hchild, hm⟩ := Option.bind_eq_some_iff.mp hm
      obtain ⟨before, after, hsplit, -⟩ := List.lookup_eq_some_iff.mp hchild
      have hmem : (c, child) ∈ n.entries := by
        rw [hsplit]
        simp
      have hthere := ih (List.all_eq_true.mp hbelow _ hmem) hm
      rwa [List.append_assoc] at hthere

namespace Disk

variable {root : Node} {d : Disk}

/-! ## Absolute forms -/

/-- Every file has a path that can be handed on: it is a text, and no longer than a path may be.
The same holds of the texts of links. -/
structure Addressable (d : Disk) : Prop where
  spelled : ∀ p n, d.node? p = some n → p.respelled = p
  short : ∀ p n, d.node? p = some n → p.octets.length ≤ maxPathBytes
  links : ∀ p target time, d.node? p = some (.link target time) → target.length ≤ maxPathBytes

theorem Addressable.of_root {d' : Disk} (h : d.Addressable) (hroot : d'.root = d.root) :
    d'.Addressable := by
  have hsame : ∀ p, d'.node? p = d.node? p := fun p => by
    unfold node?
    rw [hroot]
  exact ⟨fun p n hn => h.spelled p n (hsame p ▸ hn), fun p n hn => h.short p n (hsame p ▸ hn),
    fun p target time hn => h.links p target time (hsame p ▸ hn)⟩

/-- The path of a place, and the text of a link there, can be handed on. -/
def isAddressable (p : Place) (n : Node) : Bool :=
  p.respelled = p && p.octets.length ≤ maxPathBytes && match n with
    | .link target _ => target.length ≤ maxPathBytes
    | _ => true

/-- Whether a disk is addressable can be seen by a look at every file. -/
theorem addressable_of_allTo {depth : Nat} (h : d.root.allTo isAddressable depth [] = true) :
    d.Addressable := by
  have hall : ∀ p n, d.node? p = some n → isAddressable p n = true := fun p n hn =>
    Node.of_allTo h hn
  refine ⟨fun p n hn => ?_, fun p n hn => ?_, fun p target time hn => ?_⟩
  · have hp := hall p n hn
    unfold isAddressable at hp
    simp only [Bool.and_eq_true, decide_eq_true_eq] at hp
    exact hp.1.1
  · have hp := hall p n hn
    unfold isAddressable at hp
    simp only [Bool.and_eq_true, decide_eq_true_eq] at hp
    exact hp.1.2
  · have hp := hall p _ hn
    unfold isAddressable at hp
    simp only [Bool.and_eq_true, decide_eq_true_eq] at hp
    exact hp.2

/-- So many steps are still to be made at most: a link counts for the components of its text. -/
def stepsLeft (links : Nat) (parts : List Octets) : Nat := parts.length + links * (2 * maxPathBytes)

/-- Whatever follows, a walk over the first components from the first place is a walk over the
second ones from the second place, with less left to do. -/
def GoesOn (root : Node) (p : Place) (parts : List Octets) (p' : Place) (parts' : List Octets) :
    Prop :=
  ∀ k rest q, Reaches root k p (parts ++ rest) q → ∃ k', Reaches root k' p' (parts' ++ rest) q ∧
    stepsLeft k' (parts' ++ rest) < stepsLeft k (parts ++ rest)

theorem GoesOn.trans {p p' p'' : Place} {parts parts' parts'' : List Octets}
    (h : GoesOn root p parts p' parts') (h' : GoesOn root p' parts' p'' parts'') :
    GoesOn root p parts p'' parts'' := by
  intro k rest q hq
  obtain ⟨k', hq', hless⟩ := h k rest q hq
  obtain ⟨k'', hq'', hless'⟩ := h' k' rest q hq'
  exact ⟨k'', hq'', Nat.lt_trans hless' hless⟩

theorem GoesOn.append {p p' : Place} {parts parts' : List Octets}
    (h : GoesOn root p parts p' parts') (further : List Octets) :
    GoesOn root p (parts ++ further) p' (parts' ++ further) := by
  intro k rest q hq
  rw [List.append_assoc] at hq
  obtain ⟨k', hq', hless⟩ := h k (further ++ rest) q hq
  exact ⟨k', by rwa [List.append_assoc], by rwa [List.append_assoc, List.append_assoc]⟩

theorem goesOn_point (p : Place) : GoesOn root p [['.']] p [] := by
  intro k rest q hq
  refine ⟨k, ?_, ?_⟩
  · cases hq with
    | point _ hrest => exact hrest
    | missing _ hentry | name _ hentry | link _ hentry => exact absurd rfl hentry.1
  · simp [stepsLeft]

theorem goesOn_points (p : Place) : GoesOn root p [['.', '.']] p.dropLast [] := by
  intro k rest q hq
  refine ⟨k, ?_, ?_⟩
  · cases hq with
    | points _ hrest => exact hrest
    | missing _ hentry | name _ hentry | link _ hentry => exact absurd rfl hentry.2.1
  · simp [stepsLeft]

theorem goesOn_name {p : Place} {c : Octets} (hpoint : c ≠ ['.']) (hpoints : c ≠ ['.', '.'])
    (hnolink : ∀ target time, root.at? (p ++ [c]) ≠ some (.link target time)) :
    GoesOn root p [c] (p ++ [c]) [] := by
  intro k rest q hq
  refine ⟨k, ?_, ?_⟩
  · cases hq with
    | point => exact absurd rfl hpoint
    | points => exact absurd rfl hpoints
    | missing => exact .done
    | name _ _ _ _ hrest => exact hrest
    | link _ _ hlink => exact absurd hlink (hnolink _ _)
  · simp [stepsLeft]

theorem length_splitAfter_le {α : Type} [DecidableEq α] (sep : α) (cs piece : List α) :
    ((Text.splitAfter sep piece cs).filter fun c => !c.isEmpty).length ≤
      cs.length + if piece = [] then 0 else 1 := by
  induction cs generalizing piece with
  | nil => cases piece <;> simp [Text.splitAfter]
  | cons c cs ih =>
    unfold Text.splitAfter
    split
    · have hrest := ih []
      rw [if_pos rfl] at hrest
      cases piece with
      | nil =>
        rw [List.reverse_nil, List.filter_cons_of_neg (by simp), if_pos rfl, List.length_cons]
        omega
      | cons b piece =>
        rw [List.filter_cons_of_pos (by simp), List.length_cons, List.length_cons,
          if_neg (List.cons_ne_nil _ _)]
        omega
    · have hrest := ih (c :: piece)
      rw [if_neg (List.cons_ne_nil _ _)] at hrest
      rw [List.length_cons]
      split <;> omega

/-- There are no more components than octets. -/
theorem length_components_le (raw : Octets) : (components raw).length ≤ raw.length :=
  length_splitAfter_le '/' raw []

theorem Reaches.entry {k : Nat} {p q : Place} {c : Octets} {rest : List Octets}
    (h : Reaches root k p (c :: rest) q) (hpoint : c ≠ ['.']) (hpoints : c ≠ ['.', '.']) :
    IsEntry c := by
  cases h with
  | point => exact absurd rfl hpoint
  | points => exact absurd rfl hpoints
  | missing _ hentry | name _ hentry | link _ hentry => exact hentry

theorem Reaches.follow {k : Nat} {p q : Place} {c target : Octets} {rest : List Octets} {time : Int}
    (h : Reaches root k p (c :: rest) q) (hpoint : c ≠ ['.']) (hpoints : c ≠ ['.', '.'])
    (hlink : root.at? (p ++ [c]) = some (.link target time)) :
    ∃ k', k = k' + 1 ∧ Reaches root k' (linkStart target p) (components target ++ rest) q := by
  cases h with
  | point => exact absurd rfl hpoint
  | points => exact absurd rfl hpoints
  | missing _ _ hnone => cases hnone.symm.trans hlink
  | name _ _ hn hnolink =>
    cases hn.symm.trans hlink
    exact absurd rfl (hnolink _ _)
  | @link k _ _ _ target' _ time' _ _ hlink' hrest =>
    cases hlink.symm.trans hlink'
    refine ⟨k, rfl, ?_⟩
    unfold afterLink at hrest
    split at hrest
    · next hslash =>
      obtain rfl : rest = [] := by simpa using (Bool.and_eq_true_iff.mp hslash).1
      rw [List.append_nil]
      exact hrest.of_append_point
    · exact hrest

/-- A link that is followed leaves less to do, even if its components are counted once more. -/
theorem stepsLeft_follow {target : Octets} (hshort : target.length ≤ maxPathBytes) (k : Nat)
    (c : Octets) (rest : List Octets) :
    stepsLeft k (components target ++ rest) + (components target).length <
      stepsLeft (k + 1) (c :: rest) := by
  have hlength := length_components_le target
  unfold stepsLeft
  rw [List.length_append, List.length_cons, Nat.add_mul k 1, Nat.one_mul]
  omega

theorem goesOn_link {p : Place} {c target : Octets} {time : Int}
    (hpoint : c ≠ ['.']) (hpoints : c ≠ ['.', '.'])
    (hlink : root.at? (p ++ [c]) = some (.link target time))
    (hshort : target.length ≤ maxPathBytes) :
    GoesOn root p [c] (linkStart target p) (components target) := by
  intro k rest q hq
  obtain ⟨k', rfl, hrest⟩ := hq.follow hpoint hpoints hlink
  have hless := stepsLeft_follow hshort k' c rest
  exact ⟨k', hrest, by rw [List.singleton_append]; omega⟩

/-- Nobody who comes back to a component that is still to be walked gets any further. -/
theorem not_reaches_of_goesOn {p : Place} {c : Octets} {further : List Octets}
    (hback : GoesOn root p [c] p (c :: further)) {k : Nat} {rest : List Octets} {q : Place} :
    ¬Reaches root k p (c :: rest) q := by
  intro hq
  induction hleft : stepsLeft k (c :: rest) using Nat.strongRecOn generalizing k rest with
  | ind left ih =>
    obtain ⟨k', hq', hless⟩ := hback k rest q hq
    exact ih _ (hleft ▸ hless) hq' rfl

/-- The components among the steps. -/
def namesOf (steps : List ResolveStep) : List Octets := steps.filterMap ResolveStep.name?

/-- Whatever follows, a walk that comes to a link goes on with these components from this place. -/
def LinkGoesOn (root : Node) (link place : Place) (parts : List Octets) : Prop :=
  ∃ p c, link = p ++ [c] ∧ GoesOn root p [c] place parts

theorem LinkGoesOn.goesOn {p place : Place} {c : Octets} {parts : List Octets}
    (h : LinkGoesOn root (p ++ [c]) place parts) : GoesOn root p [c] place parts := by
  obtain ⟨p', c', heq, hgo⟩ := h
  obtain ⟨rfl, hlast⟩ := List.append_inj' heq rfl
  cases hlast
  exact hgo

theorem LinkGoesOn.trans {link place place' : Place} {parts parts' : List Octets}
    (h : LinkGoesOn root link place parts) (h' : GoesOn root place parts place' parts') :
    LinkGoesOn root link place' parts' := by
  obtain ⟨p, c, hlink, hgo⟩ := h
  exact ⟨p, c, hlink, hgo.trans h'⟩

/-- Every note at hand is right: a link that is known leads where the note says, and each link that
is being resolved has led to where the walk is now. -/
structure Notes (root : Node) (place : Place) (seen : List (Place × Option Place))
    (steps : List ResolveStep) : Prop where
  known : ∀ link found, seen.lookup link = some (some found) →
    LinkGoesOn root link found [] ∧ Open root found
  pending : ∀ link, seen.lookup link = some none → .resolved link ∈ steps
  led : ∀ before link after, steps = before ++ .resolved link :: after →
    LinkGoesOn root link place (namesOf before)

variable {place : Place} {seen : List (Place × Option Place)} {steps rest : List ResolveStep}
  {c : Octets}

theorem Notes.go {place' : Place} (h : Notes root place seen (.component c :: rest))
    (hgo : GoesOn root place [c] place' []) : Notes root place' seen rest := by
  refine ⟨h.known, fun link hlink => ?_, fun before link after hsteps => ?_⟩
  · rcases List.mem_cons.mp (h.pending link hlink) with heq | hmem
    · cases heq
    · exact hmem
  · have hled := h.led (.component c :: before) link after (by rw [hsteps]; rfl)
    exact hled.trans (hgo.append (namesOf before))

theorem Notes.note {link : Place} (h : Notes root place seen (.resolved link :: rest))
    (hopen : Open root place) : Notes root place ((link, some place) :: seen) rest := by
  refine ⟨fun link' found hfound => ?_, fun link' hlink => ?_,
    fun before link' after hsteps => h.led (.resolved link :: before) link' after ?_⟩
  · rw [List.lookup_cons] at hfound
    split at hfound
    · next heq =>
      cases hfound
      rw [beq_iff_eq.mp heq]
      exact ⟨h.led [] link rest rfl, hopen⟩
    · exact h.known link' found hfound
  · rw [List.lookup_cons] at hlink
    split at hlink
    · cases hlink
    · next hne =>
      rcases List.mem_cons.mp (h.pending link' hlink) with heq | hmem
      · cases heq
        simp at hne
      · exact hmem
  · rw [hsteps]
    rfl

theorem append_eq_of_not_mem {α : Type} {front before rest after : List α} {x y : α}
    (hx : x ∉ front) (h : front ++ y :: rest = before ++ x :: after) :
    (before = front ∧ y = x ∧ rest = after) ∨
      ∃ middle, before = front ++ y :: middle ∧ rest = middle ++ x :: after := by
  induction front generalizing before with
  | nil =>
    cases before with
    | nil =>
      obtain ⟨rfl, rfl⟩ := List.cons.inj h
      exact Or.inl ⟨rfl, rfl, rfl⟩
    | cons b before =>
      obtain ⟨rfl, rfl⟩ := List.cons.inj h
      exact Or.inr ⟨before, rfl, rfl⟩
  | cons a front ih =>
    cases before with
    | nil =>
      obtain ⟨rfl, -⟩ := List.cons.inj h
      exact absurd (List.mem_cons_self ..) hx
    | cons b before =>
      obtain ⟨rfl, hrest⟩ := List.cons.inj h
      rcases ih (fun hmem => hx (List.mem_cons_of_mem _ hmem)) hrest with
        ⟨rfl, rfl, rfl⟩ | ⟨middle, rfl, rfl⟩
      · exact Or.inl ⟨rfl, rfl, rfl⟩
      · exact Or.inr ⟨middle, rfl, rfl⟩

theorem Notes.enter {target : Octets} (h : Notes root place seen (.component c :: rest))
    (hgo : GoesOn root place [c] (linkStart target place) (components target)) :
    Notes root (linkStart target place) ((place ++ [c], none) :: seen)
      ((components target).map .component ++ .resolved (place ++ [c]) :: rest) := by
  have hnames : namesOf ((components target).map ResolveStep.component) = components target := by
    unfold namesOf
    rw [List.filterMap_map]
    exact List.filterMap_some
  refine ⟨fun link found hfound => ?_, fun link hlink => ?_, fun before link after hsteps => ?_⟩
  · rw [List.lookup_cons] at hfound
    split at hfound
    · cases hfound
    · exact h.known link found hfound
  · rw [List.lookup_cons] at hlink
    split at hlink
    · next heq =>
      rw [beq_iff_eq.mp heq]
      exact List.mem_append_right _ (List.mem_cons_self ..)
    · rcases List.mem_cons.mp (h.pending link hlink) with heq | hmem
      · cases heq
      · exact List.mem_append_right _ (List.mem_cons_of_mem _ hmem)
  · rcases append_eq_of_not_mem (fun hmem => by simp at hmem) hsteps with
      ⟨rfl, hmark, -⟩ | ⟨middle, rfl, hrest⟩
    · rw [hnames, ← ResolveStep.resolved.inj hmark]
      exact ⟨place, c, rfl, hgo⟩
    · have hled := h.led (.component c :: middle) link after (by rw [hrest]; rfl)
      have hall : namesOf ((components target).map ResolveStep.component ++
          .resolved (place ++ [c]) :: middle) = components target ++ namesOf middle := by
        unfold namesOf at hnames ⊢
        rw [List.filterMap_append, hnames]
        rfl
      rw [hall]
      exact hled.trans (hgo.append (namesOf middle))

/-- With right notes, and steps enough, the walk comes to where its components lead. -/
theorem resolveAfter_of_reaches (haddress : d.Addressable) {fuel k : Nat} {place q : Place}
    {seen : List (Place × Option Place)} {steps : List ResolveStep}
    (hq : Reaches d.root k place (namesOf steps) q) (hopen : Open d.root place)
    (hnamed : Named (namesOf steps)) (hnotes : Notes d.root place seen steps)
    (hfuel : stepsLeft k (namesOf steps) + steps.length < fuel) :
    d.resolveAfter fuel place seen steps = q := by
  induction fuel generalizing k place seen steps with
  | zero => omega
  | succ fuel ih =>
    cases steps with
    | nil =>
      cases hq
      rfl
    | cons step rest =>
      rw [List.length_cons] at hfuel
      cases step with
      | resolved link =>
        have hall : namesOf (.resolved link :: rest) = namesOf rest := rfl
        unfold resolveAfter
        exact ih (hall ▸ hq) hopen (hall ▸ hnamed) (hnotes.note hopen)
          (by rw [hall] at hfuel; omega)
      | component c =>
        have hall : namesOf (.component c :: rest) = [c] ++ namesOf rest := rfl
        have hrest : Named (namesOf rest) := fun b hb => hnamed b (List.mem_cons_of_mem _ hb)
        have hname : c ≠ [] ∧ '/' ∉ c := hnamed c (List.mem_cons_self ..)
        rw [hall] at hfuel
        -- A component that leads on at once, or of which it is known where it leads, is left behind.
        have hleave : ∀ place', GoesOn d.root place [c] place' [] → Open d.root place' →
            d.resolveAfter fuel place' seen rest = q := by
          intro place' hgo hopen'
          obtain ⟨k', hq', hless⟩ := hgo k (namesOf rest) q hq
          rw [List.nil_append] at hq' hless
          exact ih hq' hopen' hrest (hnotes.go hgo) (by omega)
        have hpass : Passable d.root place := hq.start
        unfold resolveAfter
        split
        · next hpoint =>
          subst hpoint
          exact hleave place (goesOn_point place) hopen
        split
        · next hpoints =>
          subst hpoints
          exact hleave _ (goesOn_points place) hopen.dropLast
        next hpoint hpoints =>
        have hentry : IsEntry c := hq.entry hpoint hpoints
        have hchild : Open d.root (place ++ [c]) := hopen.child hpass hentry hname
        have hlinkAt : ∀ target, d.linkAt? (place ++ [c]) = some target ↔
            ∃ time, d.node? (place ++ [c]) = some (.link target time) := fun _ =>
          linkAt?_iff hchild (by simp) fun n hn => haddress.short _ n hn
        dsimp only
        split
        · next hnone =>
          refine hleave _ (goesOn_name hpoint hpoints fun target time hlink => ?_) hchild
          have hsome := (hlinkAt target).mpr ⟨time, hlink⟩
          rw [hnone] at hsome
          cases hsome
        · next target htarget =>
          obtain ⟨time, hlink⟩ := (hlinkAt target).mp htarget
          have hshort := haddress.links _ _ _ hlink
          have hgo := goesOn_link hpoint hpoints hlink hshort
          split
          · next found hfound =>
            obtain ⟨hknown, hopen'⟩ := hnotes.known _ _ hfound
            exact hleave found hknown.goesOn hopen'
          · next hpending =>
            -- A link that is being resolved is not met again, because the walk ends.
            obtain ⟨before, after, hsteps⟩ := List.append_of_mem (hnotes.pending _ hpending)
            cases before with
            | nil => cases hsteps
            | cons step before =>
              obtain ⟨rfl, -⟩ := List.cons.inj hsteps
              exact absurd hq (not_reaches_of_goesOn (hnotes.led _ _ _ hsteps).goesOn)
          · obtain ⟨k', rfl, hq'⟩ := hq.follow hpoint hpoints hlink
            have hless := stepsLeft_follow hshort k' c (namesOf rest)
            have hsteps : namesOf ((components target).map .component ++
                .resolved (place ++ [c]) :: rest) = components target ++ namesOf rest := by
              unfold namesOf
              rw [List.filterMap_append, List.filterMap_map]
              exact congrArg (· ++ _) List.filterMap_some
            refine ih (hsteps ▸ hq') (hopen.linkStart target) ?_ (hnotes.enter hgo) ?_
            · rw [hsteps]
              intro b hb
              rcases List.mem_append.mp hb with hmem | hmem
              · exact named_components target b hmem
              · exact hrest b hmem
            · rw [hsteps, List.length_append, List.length_map, List.length_cons]
              rw [List.singleton_append] at hfuel
              omega

/-- The absolute form of a path tells where the path leads. -/
theorem resolvePlace_of_locateWith (haddress : d.Addressable) (hcurrent : Open d.root d.current)
    {raw : Octets} {place : Place} (h : d.locateWith true d.current raw = .ok place) :
    d.resolvePlace raw = place := by
  unfold locateWith at h
  split at h
  · cases h
  split at h
  · cases h
  next hshort =>
  rw [Bool.true_or] at h
  dsimp only at h
  split at h
  · cases h
  next found hfound =>
  have hplace : found = place := by
    split at h
    · split at h
      · split at h
        · exact Except.ok.inj h
        · cases h
      · cases h
    · exact Except.ok.inj h
  subst hplace
  obtain ⟨k, hk, hreaches⟩ := reaches_of_walk hfound
  have hnames : namesOf ((components raw).map .component) = components raw := by
    unfold namesOf
    rw [List.filterMap_map]
    exact List.filterMap_some
  have hopen : Open d.root (if isAbsolute raw then [] else d.current) := hcurrent.linkStart raw
  have hnotes : Notes d.root (if isAbsolute raw then [] else d.current) []
      ((components raw).map .component) := by
    refine ⟨nofun, nofun, fun before link after hsteps => ?_⟩
    have hmem : ResolveStep.resolved link ∈ (components raw).map ResolveStep.component := by
      rw [hsteps]
      simp
    simp at hmem
  refine resolveAfter_of_reaches haddress (hnames.symm ▸ hreaches) hopen
    (hnames.symm ▸ named_components raw) hnotes ?_
  have hlength := length_components_le raw
  rw [hnames, List.length_map]
  unfold stepsLeft maxResolveSteps
  unfold maxLinks at hk
  unfold maxPathBytes at hshort ⊢
  omega

end Disk

end Worksheet
