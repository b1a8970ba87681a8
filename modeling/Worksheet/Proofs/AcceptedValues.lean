-- Values of parameters. Whatever words a command line holds, a parameter comes out of the reading
-- with a value of its own kind: each step gives a value to a parameter of the grammar, and a whole
-- reading is made of such steps.
import Worksheet.Cli.Arguments
import Worksheet.Proofs.CommandLine

namespace Worksheet

/-- The values that a parameter may have. Any option can be given without words. -/
inductive Parameter.Accepts (p : Parameter) : ParameterValue → Prop
  | initial : Accepts p p.initial
  | wordless : Accepts p .wordless
  | flag {b : Bool} : p.kind = .flag → Accepts p (.flag b)
  | text {fallback : Option String} {s : String} : p.kind = .text fallback → Accepts p (.text s)
  | choice {choices : List String} {s : String} : p.kind = .choice choices → s ∈ choices →
    Accepts p (.text s)
  | number {x : Double} : p.kind = .number → Accepts p (.number x)
  | texts {items : List (Option String)} : p.kind = .texts → Accepts p (.texts items)

namespace CommandLine

variable {g : Grammar} {words : List String} {r r' : Reading} {p : Parameter}

/-! ## Options of the grammar -/

theorem mem_of_optionNames {n : String} (h : (n, p) ∈ g.optionNames) : p ∈ g.parameters := by
  obtain ⟨q, hq, hmem⟩ := List.mem_flatMap.mp h
  obtain ⟨_, _, heq⟩ := List.mem_map.mp hmem
  cases heq
  exact (List.mem_filter.mp hq).1

theorem mem_of_lookup {n : String} (h : g.optionNames.lookup n = some p) : p ∈ g.parameters := by
  obtain ⟨before, after, hsplit, -⟩ := List.lookup_eq_some_iff.mp h
  exact mem_of_optionNames (n := n) (by rw [hsplit]; simp)

/-- What a word is taken for is an option of the grammar. -/
def OptionUse.Of (g : Grammar) (u : OptionUse) : Prop :=
  ∀ p name joined, u = .known p name joined → p ∈ g.parameters

theorem OptionUse.Of.known (h : p ∈ g.parameters) (name : String) (joined : Option (List Char)) :
    (OptionUse.known p name joined).Of g := by
  rintro _ _ _ ⟨⟩
  exact h

theorem of_exactUse? {word : String} {u : OptionUse} (h : exactUse? g word = some u) :
    u.Of g := by
  unfold exactUse? at h
  split at h
  · next p hlookup =>
    cases h
    exact .known (mem_of_lookup hlookup) _ _
  · split at h
    · obtain ⟨p, hlookup, rfl⟩ := Option.map_eq_some_iff.mp h
      exact .known (mem_of_lookup hlookup) _ _
    · cases h

theorem of_candidates {cs : List Char} {n : String} {u : OptionUse}
    (h : (n, u) ∈ candidates g cs) : u.Of g := by
  unfold candidates at h
  split at h
  · unfold longCandidates at h
    split at h
    · generalize cutAtEquals _ = cut at h
      obtain ⟨start, joined⟩ := cut
      obtain ⟨⟨n', p⟩, hmem, hsome⟩ := List.mem_filterMap.mp h
      dsimp only at hsome
      split at hsome
      · cases hsome
        exact .known (mem_of_optionNames hmem) _ _
      · cases hsome
    · cases h
  · obtain ⟨⟨n', p⟩, hmem, hsome⟩ := List.mem_filterMap.mp h
    dsimp only at hsome
    split at hsome
    · cases hsome
      exact .known (mem_of_optionNames hmem) _ _
    · split at hsome
      · cases hsome
        exact .known (mem_of_optionNames hmem) _ _
      · cases hsome

/-- A token names no option but those of the grammar. -/
def Token.Of (g : Grammar) (t : Token) : Prop := ∀ text u, t = .option text u → u.Of g

theorem Token.Of.word (text : String) : (Token.word text).Of g := nofun

theorem of_tokenOf {word : String} {t : Token} (h : tokenOf g word = .ok t) : t.Of g := by
  unfold tokenOf at h
  split at h
  · split at h
    · next u hexact =>
      cases h
      rintro _ _ ⟨⟩
      exact of_exactUse? hexact
    · split at h
      · next n u hone =>
        cases h
        rintro _ _ ⟨⟩
        exact of_candidates (n := n) (by rw [hone]; exact List.mem_singleton_self _)
      · split at h
        · cases h
          exact .word word
        · cases h
          rintro _ _ ⟨⟩
          exact nofun
      · cases h
  · cases h
    exact .word word

theorem of_tokens {ts : List Token} (h : tokens g words = .ok ts) : ∀ t ∈ ts, t.Of g := by
  induction words generalizing ts with
  | nil =>
    cases h
    exact nofun
  | cons w rest ih =>
    unfold tokens at h
    split at h
    · cases h
      rintro t (_ | ⟨_, ht⟩)
      · exact nofun
      · obtain ⟨w', _, rfl⟩ := List.mem_map.mp ht
        exact .word w'
    · split at h
      · cases h
      · next t htoken =>
        cases hrest : tokens g rest with
        | error fault =>
          rw [hrest] at h
          cases h
        | ok ts' =>
          rw [hrest] at h
          cases h
          rintro t' (_ | ⟨_, ht'⟩)
          · exact of_tokenOf htoken
          · exact ih hrest t' ht'

/-! ## Steps of a reading -/

/-- Every value belongs to a parameter that may have it. -/
def Fits (g : Grammar) (values : List (String × ParameterValue)) : Prop :=
  ∀ key v, (key, v) ∈ values → ∃ p ∈ g.parameters, p.key = key ∧ p.Accepts v

theorem fits_start (g : Grammar) : Fits g (Reading.start g).values := by
  intro key v hmem
  obtain ⟨p, hp, hsome⟩ := List.mem_filterMap.mp hmem
  split at hsome
  · cases hsome
  · cases hsome
    exact ⟨p, hp, rfl, .initial⟩

theorem Fits.set (h : Fits g r.values) (hp : p ∈ g.parameters) {v : ParameterValue}
    (hv : p.Accepts v) : Fits g (r.set p.key v).values := by
  intro key v' hmem
  obtain ⟨⟨key', old⟩, hold, heq⟩ := List.mem_map.mp hmem
  dsimp only at heq
  split at heq
  · next hkey =>
    cases heq
    exact ⟨p, hp, hkey.symm, hv⟩
  · cases heq
    exact h _ _ hold

theorem Fits.give (h : Fits g r.values) (hp : p ∈ g.parameters) {text : String}
    (hgive : r.give p text = .ok r') : Fits g r'.values := by
  unfold Reading.give at hgive
  split at hgive
  · cases hgive
    exact h
  · next hkind =>
    cases hgive
    exact h.set hp (.flag hkind)
  · next hkind =>
    cases hgive
    exact h.set hp (.text hkind)
  · next choices hkind =>
    split at hgive
    · next hmem =>
      cases hgive
      exact h.set hp (.choice hkind (List.contains_iff_mem.mp hmem))
    · cases hgive
  · next hkind =>
    split at hgive
    · cases hgive
      exact h.set hp (.number hkind)
    · cases hgive
  · next hkind => split at hgive <;> cases hgive <;> exact h.set hp (.texts hkind)

theorem Fits.giveWordless (h : Fits g r.values) (hp : p ∈ g.parameters) :
    Fits g (r.giveWordless p).values := by
  unfold Reading.giveWordless
  split
  · exact h
  · next hkind => exact h.set hp (.flag hkind)
  · next hkind => split <;> exact h.set hp (.texts hkind)
  · exact h.set hp .wordless

theorem Fits.giveAll {helpText : String} {given : List (Parameter × Option String)}
    (h : Fits g r.values) (hgiven : ∀ q ∈ given, q.1 ∈ g.parameters)
    (hall : giveAll helpText given r = .ok r') : Fits g r'.values := by
  induction given generalizing r with
  | nil =>
    cases hall
    exact h
  | cons q rest ih =>
    obtain ⟨p, word⟩ := q
    have hp := hgiven _ List.mem_cons_self
    have hrest : ∀ q ∈ rest, q.1 ∈ g.parameters := fun q hq => hgiven q (List.mem_cons_of_mem _ hq)
    unfold CommandLine.giveAll at hall
    split at hall
    · cases hall
    cases word with
    | none => exact ih (h.giveWordless hp) hrest hall
    | some text =>
      dsimp only at hall
      split at hall
      · next hgive => exact ih (h.give hp hgive) hrest hall
      · cases hall

theorem mem_of_takeNext {next : Option Token} {used : WordUse} (hp : p ∈ g.parameters)
    (h : takeNext p next = .ok used) : ∀ q ∈ used.given, q.1 ∈ g.parameters := by
  unfold takeNext at h
  split at h
  · split at h
    · cases h
      simpa using hp
    · cases h
  · cases h
    simpa using hp

theorem mem_of_useOption {next : Option Token} {name : List Char} {joined : Option (List Char)}
    {fuel : Nat} {used : WordUse} (hp : p ∈ g.parameters)
    (h : useOption g next p name joined fuel = .ok used) :
    ∀ q ∈ used.given, q.1 ∈ g.parameters := by
  fun_induction useOption g next p name joined fuel generalizing used with
  | case1 => exact mem_of_takeNext hp h
  | case2 =>
    cases h
    simpa using hp
  | case5 _ _ _ _ _ _ _ p' hlookup ih =>
    -- A flag, and further options that are joined to it.
    obtain ⟨used', hused, rfl⟩ := exists_of_map_ok h
    rintro q (_ | ⟨_, hq⟩)
    · exact hp
    · exact ih (mem_of_lookup hlookup) hused q hq
  | _ => cases (show Except.error _ = Except.ok used from h)

theorem Fits.takePositionals {positionals left : List Parameter} {ts : List Token} {n : Nat}
    (h : Fits g r.values) (hpositionals : ∀ q ∈ positionals, q ∈ g.parameters)
    (htake : takePositionals positionals ts r = .ok (left, n, r')) :
    Fits g r'.values ∧ ∀ q ∈ left, q ∈ g.parameters := by
  induction positionals generalizing ts r n with
  | nil =>
    cases htake
    exact ⟨h, hpositionals⟩
  | cons p rest ih =>
    unfold CommandLine.takePositionals at htake
    split at htake
    · cases htake
      exact ⟨h, hpositionals⟩
    split at htake
    · cases htake
    next hgive =>
    obtain ⟨⟨left', m, r''⟩, hrest, heq⟩ := exists_of_map_ok htake
    cases heq
    exact ih (h.give (hpositionals _ List.mem_cons_self) hgive)
      (fun q hq => hpositionals q (List.mem_cons_of_mem _ hq)) hrest

/-! ## Whole readings -/

theorem Fits.readTokens {helpText : String} {fuel : Nat} {positionals : List Parameter}
    {ts : List Token} (h : Fits g r.values) (hpositionals : ∀ q ∈ positionals, q ∈ g.parameters)
    (hts : ∀ t ∈ ts, t.Of g) (hread : readTokens g helpText fuel positionals ts r = .ok r') :
    Fits g r'.values := by
  induction fuel generalizing positionals ts r with
  | zero =>
    cases hread
    exact h
  | succ fuel ih =>
    unfold CommandLine.readTokens at hread
    split at hread
    · cases hread
    next left n r₁ htake =>
    obtain ⟨hfits, hleft⟩ := h.takePositionals hpositionals htake
    split at hread
    · exact ih hfits hleft (fun t ht => hts t (List.mem_of_mem_drop ht)) hread
    split at hread
    · cases hread
      exact h
    · next text u rest =>
      have hrest : ∀ t ∈ rest, t.Of g := fun t ht => hts t (List.mem_cons_of_mem _ ht)
      split at hread
      · exact ih (r := r.addExtras [text]) h hpositionals hrest hread
      next p name joined =>
      have hp : p ∈ g.parameters := hts _ List.mem_cons_self _ _ rfl _ _ _ rfl
      split at hread
      · cases hread
      next used hused =>
      split at hread
      · cases hread
      next hgive =>
      exact ih (h.giveAll (mem_of_useOption hp hused) hgive) hpositionals
        (fun t ht => hrest t (List.mem_of_mem_drop ht)) hread
    · next t rest _ =>
      exact ih (r := r.addExtras [t.text]) h hpositionals
        (fun t ht => hts t (List.mem_cons_of_mem _ ht)) hread

/-- After any words that are accepted, each parameter has a value that it may have. -/
theorem fits_readKnown (h : readKnown g words = .ok r) : Fits g r.values := by
  unfold readKnown at h
  dsimp only at h
  split at h
  · cases h
  next ts hts =>
  split at h
  · cases h
  · cases h
  next hread =>
  split at h
  · cases h
    exact (fits_start g).readTokens (fun q hq => (List.mem_filter.mp hq).1) (of_tokens hts) hread
  · cases h

/-- And so it is after the words of a command. -/
theorem accepts_of_readCommand {s : CommandSet} {reading : CommandReading} {key : String}
    {v : ParameterValue} (h : readCommand s words = .ok reading) (hmem : (key, v) ∈ reading.values) :
    ∃ c ∈ s.commands, ∃ p ∈ c.grammar.parameters, p.key = key ∧ p.Accepts v := by
  unfold readCommand at h
  dsimp only at h
  split at h
  · cases h
  split at h
  · cases h
  · cases h
  · split at h
    · cases h
      cases hmem
    · cases h
  · split at h
    · cases h
    next c hfind =>
    split at h
    · cases h
    next hread =>
    split at h
    · cases h
      exact ⟨c, List.mem_of_find?_eq_some hfind, fits_readKnown hread key v hmem⟩
    · cases h

end CommandLine

end Worksheet
