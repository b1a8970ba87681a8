-- Evaluations at the same time, on a tree of files without links. Each one compiles its own source,
-- and when all have one configuration, each one runs with the bytecode file made of its own source.
import Worksheet.Proofs.StageConduct

namespace Worksheet

open Text (Octets Points)

variable {τ : Type}

/-! ## What others may do -/

/-- Time passes and anything else goes on, but the files stay as they are. -/
structure Site.Drifts (s s' : Site τ) : Prop where
  root : s'.disk.root = s.disk.root
  current : s'.disk.current = s.disk.current
  scratch : s'.disk.scratch = s.disk.scratch
  count : s.disk.scratchCount ≤ s'.disk.scratchCount

namespace Assignment

variable {a b : Assignment τ} {x : Scene} {own : Option Nat} {s s' : Site τ}

theorem Relies.refl (a : Assignment τ) (x : Scene) (own : Option Nat) (s : Site τ) :
    a.Relies x own s s :=
  ⟨fun _ h => h, fun _ _ _ _ h => h⟩

theorem Relies.trans {s'' : Site τ} (h : a.Relies x own s s') (h' : a.Relies x own s' s'') :
    a.Relies x own s s'' :=
  ⟨fun content hs => h'.source content (h.source content hs),
    fun htogether p content hp hs =>
      h'.emitted htogether p content hp (h.emitted htogether p content hp hs)⟩

theorem relies_of_drifts (h : s.Drifts s') : a.Relies x own s s' := by
  have hnode : ∀ p, s'.disk.node? p = s.disk.node? p := by
    intro p
    unfold Disk.node?
    rw [h.root]
  refine ⟨fun content hs => ?_, fun _ p content _ hs => ?_⟩
  · unfold Disk.HoldsOnly
    rw [hnode]
    exact hs
  · unfold Disk.HasFile
    rw [hnode]
    exact hs

/-- What one evaluation does is nothing that another one with a different lock relies on. -/
theorem relies_of_change {own' : Option Nat} (hlock : a.lock x.current ≠ b.lock x.current)
    (hown : ∀ n, own = some n → own' ≠ some n) (hconfig : x.together → a.config = b.config)
    (h : Disk.Change (b.Writes x own') (b.Removes x own') s.disk s'.disk) :
    a.Relies x own s s' := by
  refine ⟨fun content hs => h.holdsOnly (not_writes_source hlock) hs, ?_⟩
  intro htogether p content hp hs
  obtain ⟨hwrites, hremoves⟩ :=
    not_writes_emitted hlock hown htogether (hconfig htogether) hp
  exact h.hasFile hwrites hremoves hs

/-! ## Parties -/

def party (a : Assignment τ) (x : Scene) : Party Event (Site τ) (Except Fault Outcome) :=
  ⟨a.key, a.work, a.lock x.current, a.conduct x⟩

@[simp]
theorem key_party (a : Assignment τ) (x : Scene) : (a.party x).key = a.key := by
  simp only [party]

@[simp]
theorem work_party (a : Assignment τ) (x : Scene) : (a.party x).work = a.work := by
  simp only [party]

@[simp]
theorem lock_party (a : Assignment τ) (x : Scene) : (a.party x).lock = a.lock x.current := by
  simp only [party]

@[simp]
theorem conduct_party (a : Assignment τ) (x : Scene) : (a.party x).conduct = a.conduct x := by
  simp only [party]

theorem fair_party (htogether : x.together → awaitsValue a.config.compilerArguments = false) :
    (a.party x).Fair x.ground := by
  refine ⟨fun s key hsettled hkey => ?_, fun s _ => behaves_work htogether, Relies.refl a x,
    Relies.trans, fun hdoes hsettled => ?_⟩
  · have hcurrent : s.disk.current.path.IsNormal := by
      rw [hsettled.current]
      exact x.isNormal
    rw [key_party] at hkey
    rw [lock_party, lock_of_key hsettled.plain hcurrent hkey, hsettled.current]
  · exact ⟨⟨hdoes.current.trans hsettled.current, hdoes.scratch.trans hsettled.scratch,
      hdoes.plain hsettled.plain⟩, hdoes.count⟩

theorem peace (assignments : List (Assignment τ))
    (htogether : x.together → ∀ a ∈ assignments, ∀ b ∈ assignments,
      a.config = b.config ∧ awaitsValue a.config.compilerArguments = false) :
    Peace x.ground Site.Drifts (assignments.map fun a => a.party x) := by
  refine ⟨fun p hp => ?_, fun p hp q hq hlock own own' hown s s' _ hdoes => ?_,
    fun s s' hdrift hsettled => ?_⟩
  · obtain ⟨a, ha, rfl⟩ := List.mem_map.mp hp
    exact fair_party fun hall => (htogether hall a ha a ha).2
  · obtain ⟨a, ha, rfl⟩ := List.mem_map.mp hp
    obtain ⟨b, hb, rfl⟩ := List.mem_map.mp hq
    exact relies_of_change hlock hown (fun hall => (htogether hall a ha b hb).1) hdoes
  · refine ⟨⟨hdrift.current.trans hsettled.current, hdrift.scratch.trans hsettled.scratch, ?_⟩,
      hdrift.count, fun p hp own => ?_⟩
    · rw [hdrift.root]
      exact hsettled.plain
    · obtain ⟨a, ha, rfl⟩ := List.mem_map.mp hp
      exact relies_of_drifts hdrift

/-! ## Isolation -/

/-- Evaluations on a tree without links, in any order of their steps: an evaluation whose options
have their values asks for code of its own source, and as long as a program runs for an evaluation
of a module, with one configuration for all, the file of the module is the one made of its own
source. -/
theorem evaluations_work_on_their_own_files (assignments : List (Assignment τ)) (site : Site τ)
    (hplain : site.disk.root.Plain) (hcurrent : site.disk.current.path.IsNormal)
    (hscratch : site.disk.scratch.IsProper) {w : Workplace Event (Site τ) (Except Fault Outcome)}
    (hreach : Workplace.Reachable Site.Drifts
      (Workplace.start (assignments.map fun a => (a.key, a.work)) site) w)
    {i : Nat} {a : Assignment τ} (ha : assignments[i]? = some a)
    {e : Worker Event (Site τ) (Except Fault Outcome)} (he : w.workers[i]? = some e) :
    (∀ request, e.phase.label? = some (.generate request) →
      awaitsValue (a.config.compilerArguments ++ Backend.moduleArguments a.request.entryPoint) =
        false → Text.Utf8.encode a.request.source = .ok request.source) ∧
    (∀ request emission, e.phase.label? = some (.run request emission) →
      (∀ b ∈ assignments, b.config = a.config) →
      awaitsValue a.config.compilerArguments = false →
        a.FindsOwn w.shared.disk request emission) := by
  let x : Scene := ⟨site.disk.current, site.disk.scratch, hcurrent, hscratch,
    (∀ b ∈ assignments, b.config = a.config) ∧
      awaitsValue a.config.compilerArguments = false⟩
  have hpeace : Peace x.ground Site.Drifts (assignments.map fun a => a.party x) := by
    refine peace assignments fun hall b hb c hc => ?_
    rw [hall.1 b hb, hall.1 c hc]
    exact ⟨rfl, hall.2⟩
  have hstart : assignments.map (fun a => (a.key, a.work)) =
      (assignments.map fun a => a.party x).map fun p => (p.key, p.work) := by
    simp only [List.map_map, Function.comp_def, key_party, work_party]
  rw [hstart] at hreach
  have hasks : ∀ label, e.phase.label? = some label → a.Asks x label w.shared := by
    intro label hlabel
    obtain ⟨p, hp, hasks⟩ :=
      Workplace.asks_of_reachable hpeace (s := site) ⟨rfl, rfl, hplain⟩ hreach he hlabel
    rw [List.getElem?_map, ha, Option.map_some] at hp
    rw [← Option.some.inj hp, conduct_party] at hasks
    exact hasks
  refine ⟨fun request hlabel hcut => hasks _ hlabel hcut, ?_⟩
  intro request emission hlabel hconfig hvalues
  exact hasks _ hlabel ⟨hconfig, hvalues⟩

/-! ## Single sites -/

/-- An evaluation with further options for the compiler. The code of a source is the source. -/
def sample (options : List String) (entryPoint source : String) : Assignment Unit where
  config := { Config.defaults with compilerArguments := options }
  installation := ⟨"python3", "launcher"⟩
  generate request _ := (⟨[], .ok request.source⟩, ())
  executor _ _ _ := (.ok ⟨[], 0⟩, ())
  cancelled _ := false
  request := ⟨entryPoint, Points.ofString source, [], ⟨.root, []⟩⟩

/-- The root is the current directory and the one for scratch space. -/
def sampleSite (entries : List (Octets × Node)) : Site Unit :=
  ⟨⟨.directory 493 0 entries, [], [], 0, 0, 0⟩, ()⟩

/-- Some order of steps brings the first of the evaluations to such an action. -/
def ComesTo (kind : Disk → Event → Prop) (assignments : List (Assignment Unit))
    (entries : List (Octets × Node)) : Prop :=
  ∃ w e label, Workplace.Reachable Site.Drifts
      (Workplace.start (assignments.map fun a => (a.key, a.work)) (sampleSite entries)) w ∧
    w.workers[0]? = some e ∧ e.phase.label? = some label ∧ kind w.shared.disk label

theorem comesTo_of_steps {kind : Disk → Event → Bool} {assignments : List (Assignment Unit)}
    {entries : List (Octets × Node)} (order : List Nat)
    (h : ((Workplace.start (assignments.map fun a => (a.key, a.work))
      (sampleSite entries)).steps? order).bind
        (fun w => w.workers[0]?.bind fun e => e.phase.label?.map (kind w.shared.disk)) =
          some true) :
    ComesTo (fun d label => kind d label = true) assignments entries := by
  obtain ⟨w, hw, hworker⟩ := Option.bind_eq_some_iff.mp h
  obtain ⟨e, he, hevent⟩ := Option.bind_eq_some_iff.mp hworker
  obtain ⟨label, hlabel, hkind⟩ := Option.map_eq_some_iff.mp hevent
  exact ⟨w, e, label, Workplace.reachable_of_steps _ .start hw, he, hlabel, hkind⟩

def twoModules : List (Assignment Unit) := [sample [] "p.m" "x = 1\n", sample [] "q.n" "y = 2\n"]

/-- Two evaluations take turns. The first one asks for the code of its own source, and its program
finds the file made of it. -/
theorem two_modules_take_turns :
    ComesTo (fun _ label => ∃ request, label = .generate request ∧
      Text.Utf8.encode (Points.ofString "x = 1\n") = .ok request.source) twoModules [] ∧
    ComesTo (fun d label => ∃ request emission, label = .run request emission ∧
      (sample [] "p.m" "x = 1\n").FindsOwn d request emission) twoModules [] := by
  have hnew : (sampleSite []).disk.root.IsNew := rfl
  have hroot : (sampleSite []).disk.current.path.IsNormal := by
    intro part hpart
    cases hpart
  have hcompile : ComesTo (fun _ label => decide (label = .generate
      ⟨Text.Utf8.encodeString "x = 1\n", "/m$instrumented.py", -1⟩) = true) twoModules [] :=
    comesTo_of_steps (List.replicate 9 [0, 1]).flatten (by decide +kernel)
  have hrun : ComesTo (fun _ label => decide (label = .run
      ⟨["python3", "launcher"], ["/worksheet-classes-00000000"], "p.m", ⟨.root, []⟩, none⟩
      (some ⟨some ⟨.root, ["worksheet-classes-00000000"]⟩,
        Bytecode.file (Text.Utf8.encodeString "x = 1\n") 6 0⟩)) = true) twoModules [] :=
    comesTo_of_steps (List.replicate 16 [0, 1]).flatten (by decide +kernel)
  constructor
  · obtain ⟨w, e, label, hreach, he, hlabel, hkind⟩ := hcompile
    obtain ⟨hown, -⟩ := evaluations_work_on_their_own_files twoModules (sampleSite []) hnew.plain
      hroot ⟨hroot, List.not_mem_nil⟩ hreach (i := 0) rfl he
    have hrequest := of_decide_eq_true hkind
    exact ⟨w, e, label, hreach, he, hlabel, _, hrequest,
      hown _ (hrequest ▸ hlabel) (by decide +kernel)⟩
  · obtain ⟨w, e, label, hreach, he, hlabel, hkind⟩ := hrun
    obtain ⟨-, hown⟩ := evaluations_work_on_their_own_files twoModules (sampleSite []) hnew.plain
      hroot ⟨hroot, List.not_mem_nil⟩ hreach (i := 0) rfl he
    have hrequest := of_decide_eq_true hkind
    exact ⟨w, e, label, hreach, he, hlabel, _, _, hrequest,
      hown _ _ (hrequest ▸ hlabel) (by decide +kernel) (by decide +kernel)⟩

/-- Code is made of something else than the source of the evaluation. -/
def compilesAnother (a : Assignment Unit) (_ : Disk) : Event → Bool
  | .generate request => (Text.Utf8.encode a.request.source).toOption ≠ some request.source
  | _ => false

/-- A program is run, and the file of the module has other content than what was emitted. -/
def findsAnother (module : String) (_ : Assignment Unit) (d : Disk) : Event → Bool
  | .run _ (some ⟨some directory, data⟩) =>
    match d.readFile (Bytecode.moduleFile directory module).way.octets with
    | .ok (content, _) => content ≠ data
    | .error _ => false
  | _ => false

/-- On a tree without symbolic links, the first evaluation comes to such an action. -/
def MixesUp (kind : Assignment Unit → Disk → Event → Bool) (first : Assignment Unit)
    (others : List (Assignment Unit)) (entries : List (Octets × Node)) : Prop :=
  (∀ p target time, (sampleSite entries).disk.root.at? p ≠ some (.link target time)) ∧
    ComesTo (fun d label => kind first d label = true) (first :: others) entries

theorem at?_ne_link {entries : List (Octets × Node)}
    (hentries : ∀ entry ∈ entries, entry.2.isDirectory = false ∧
      ∀ target time, entry.2 ≠ .link target time) (p : Place) (target : Octets) (time : Int) :
    (sampleSite entries).disk.root.at? p ≠ some (.link target time) := by
  unfold sampleSite
  intro hlink
  cases p with
  | nil => cases hlink
  | cons c p =>
    rw [Node.at?_cons] at hlink
    obtain ⟨n, hn, hbelow⟩ := Option.bind_eq_some_iff.mp hlink
    obtain ⟨before, after, hsplit, -⟩ := List.lookup_eq_some_iff.mp hn
    have hmem : (c, n) ∈ entries := by
      have hsplit : entries = before ++ (c, n) :: after := hsplit
      simp [hsplit]
    obtain ⟨hfile, hnolink⟩ := hentries (c, n) hmem
    by_cases hp : p = []
    · subst hp
      exact hnolink target time (Option.some.inj hbelow)
    · rw [Node.at?_of_not_directory hfile hp] at hbelow
      cases hbelow

/-- What is asked of the options and of the tree is needed: an option can take the path of the source
for its value, an option can take the word before the entry point so that two entry points have one
module, the source can be one file with that of another module, and what has the name of the source
can be something that keeps no content. -/
theorem sources_can_be_mixed_up :
    MixesUp compilesAnother (sample ["other.py", "-cp"] "-cp" "x = 1\n") []
      [(Octets.ofString "other.py", .file (Text.Utf8.encodeString "y = 2\n") 420 0 0)] ∧
    MixesUp (findsAnother "m") (sample ["-module", "m", "-d", "out", "-cp"] "-nowarn" "x = 1\n")
      [sample ["-module", "m", "-d", "out", "-cp"] "-Werror" "y = 2\n"] [] ∧
    MixesUp compilesAnother (sample [] "m" "x = 1\n") [sample [] "n" "y = 2\n"]
      [(Octets.ofString "m$instrumented.py", .file [] 420 0 1),
        (Octets.ofString "n$instrumented.py", .file [] 420 0 1)] ∧
    MixesUp compilesAnother (sample [] "m" "x = 1\n") []
      [(Octets.ofString "m$instrumented.py", .device .null)] := by
  refine ⟨⟨at?_ne_link ?_, ?_⟩, ⟨at?_ne_link ?_, ?_⟩, ⟨at?_ne_link ?_, ?_⟩, at?_ne_link ?_, ?_⟩
  · simp [Node.isDirectory]
  · exact comesTo_of_steps (List.replicate 9 0) (by decide +kernel)
  · simp
  · exact comesTo_of_steps (List.replicate 15 0 ++ List.replicate 15 1) (by decide +kernel)
  · simp [Node.isDirectory]
  · exact comesTo_of_steps (List.replicate 6 0 ++ List.replicate 6 1 ++ List.replicate 3 0)
      (by decide +kernel)
  · simp [Node.isDirectory]
  · exact comesTo_of_steps (List.replicate 9 0) (by decide +kernel)

end Assignment

end Worksheet
