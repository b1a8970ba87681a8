-- The lines of `javac`'s output by what they look like. Each form is said without a reader, and
-- the reader of lines finds of each line the first form that it has. A file name with colons in
-- it can be read in several ways, and then the shortest one counts.
import Mathlib.Data.List.TakeWhile
import Worksheet.Compile.JavacOutput

namespace Worksheet.JavacOutput

open Text

/-! ## The forms -/

/-- A severity word, a colon and a blank, and then the message. -/
inductive HasSeverity : List Char → Severity → List Char → Prop
  | error (message : List Char) : HasSeverity ("error: ".toList ++ message) .error message
  | warning (message : List Char) : HasSeverity ("warning: ".toList ++ message) .warning message

/-- One digit at least, and nothing but digits. -/
def IsNumber (digits : List Char) : Prop := digits ≠ [] ∧ ∀ c ∈ digits, isDigit c = true

/-- A number between colons, a severity and a message: what follows a file name. -/
def IsPlace (cs digits : List Char) (severity : Severity) (message : List Char) : Prop :=
  ∃ told, IsNumber digits ∧ HasSeverity told severity message ∧
    cs = ":".toList ++ digits ++ ": ".toList ++ told

/-- The line begins with the file name, which has a character or more before its extension, and
goes on with a place in that file. -/
def IsHeader (cs file digits : List Char) (severity : Severity) (message : List Char) : Prop :=
  ∃ stem place, stem ≠ [] ∧ file = stem ++ ".java".toList ∧
    IsPlace place digits severity message ∧ cs = file ++ place

def HasHeader (cs : List Char) : Prop :=
  ∃ file digits severity message, IsHeader cs file digits severity message

def IsSummary (cs : List Char) : Prop :=
  ∃ digits word, IsNumber digits ∧ word ∈ [" error", " errors", " warning", " warnings"] ∧
    cs = digits ++ word.toList

/-- The first of the forms that a line has. -/
inductive HasKind (cs : List Char) : LineKind → Prop
  | header {file digits : List Char} {severity : Severity} {message : List Char} :
    IsHeader cs file digits severity message →
    (∀ file' digits' severity' message', IsHeader cs file' digits' severity' message' →
      file.length ≤ file'.length) → HasKind cs (.header digits severity message)
  | bare {severity : Severity} {message : List Char} :
    ¬ HasHeader cs → HasSeverity cs severity message → HasKind cs (.bare severity message)
  | note {message : List Char} :
    ¬ HasHeader cs → (∀ severity told, ¬ HasSeverity cs severity told) →
    cs = "Note: ".toList ++ message → HasKind cs (.note message)
  | summary :
    ¬ HasHeader cs → (∀ severity told, ¬ HasSeverity cs severity told) →
    (∀ told, cs ≠ "Note: ".toList ++ told) → IsSummary cs → HasKind cs .summary
  | other :
    ¬ HasHeader cs → (∀ severity told, ¬ HasSeverity cs severity told) →
    (∀ told, cs ≠ "Note: ".toList ++ told) → ¬ IsSummary cs → HasKind cs .other

/-- A caret between blanks, so many of them before it. -/
def IsCaret (cs : List Char) (indent : Nat) : Prop :=
  ∃ before after, (∀ c ∈ before, isBlank c = true) ∧ (∀ c ∈ after, isBlank c = true) ∧
    before.length = indent ∧ cs = before ++ '^' :: after

/-! ## Words and numbers at the front of a line -/

theorem after?_eq_some_iff {word : String} {cs rest : List Char} :
    after? word cs = some rest ↔ cs = word.toList ++ rest := by
  unfold after? startsWith
  constructor
  · intro h
    split at h
    · next hprefix =>
      obtain ⟨tail, rfl⟩ := List.isPrefixOf_iff_prefix.mp hprefix
      simpa using h
    · cases h
  · rintro rfl
    simp

theorem after?_eq_none_iff {word : String} {cs : List Char} :
    after? word cs = none ↔ ∀ rest, cs ≠ word.toList ++ rest := by
  simp [Option.eq_none_iff_forall_ne_some, after?_eq_some_iff]

theorem severity?_eq_some_iff {cs message : List Char} {severity : Severity} :
    severity? cs = some (severity, message) ↔ HasSeverity cs severity message := by
  unfold severity?
  constructor
  · intro h
    split at h
    · next m hm =>
      obtain ⟨rfl, rfl⟩ := Prod.mk.inj (Option.some.inj h)
      rw [after?_eq_some_iff.mp hm]
      exact .error _
    · obtain ⟨m, hm, heq⟩ := Option.map_eq_some_iff.mp h
      obtain ⟨rfl, rfl⟩ := Prod.mk.inj heq
      rw [after?_eq_some_iff.mp hm]
      exact .warning _
  · intro h
    cases h with
    | error m =>
      have hword : after? "error: " ("error: ".toList ++ message) = some message :=
        after?_eq_some_iff.mpr rfl
      rw [hword]
    | warning m =>
      have hno : after? "error: " ("warning: ".toList ++ message) = none := by
        rw [after?_eq_none_iff]
        intro rest h
        simp at h
      have hword : after? "warning: " ("warning: ".toList ++ message) = some message :=
        after?_eq_some_iff.mpr rfl
      rw [hno, hword]
      rfl

theorem severity?_eq_none_iff {cs : List Char} :
    severity? cs = none ↔ ∀ severity message, ¬ HasSeverity cs severity message := by
  simp [Option.eq_none_iff_forall_ne_some, severity?_eq_some_iff]

/-- Digits are read up to the first character that is none. -/
theorem takeWhile_digits {digits rest : List Char} (h : ∀ c ∈ digits, isDigit c = true)
    (hrest : ∀ c ∈ rest.head?, isDigit c = false) :
    (digits ++ rest).takeWhile isDigit = digits := by
  rw [List.takeWhile_append_of_pos h]
  cases rest with
  | nil => simp
  | cons c cs => simp [hrest c (by simp)]

theorem dropWhile_digits {digits rest : List Char} (h : ∀ c ∈ digits, isDigit c = true)
    (hrest : ∀ c ∈ rest.head?, isDigit c = false) :
    (digits ++ rest).dropWhile isDigit = rest := by
  rw [List.dropWhile_append_of_pos h]
  cases rest with
  | nil => simp
  | cons c cs => simp [hrest c (by simp)]

theorem isDigit_of_mem_takeWhile {cs : List Char} {c : Char} (h : c ∈ cs.takeWhile isDigit) :
    isDigit c = true := List.mem_takeWhile_imp h

/-! ## Places and headers -/

theorem place?_eq_some_iff {cs : List Char} {kind : LineKind} :
    place? cs = some kind ↔ ∃ place digits severity message,
      IsPlace place digits severity message ∧ cs = ".java".toList ++ place ∧
        kind = .header digits severity message := by
  constructor
  · intro h
    unfold place? at h
    obtain ⟨rest, hrest, h⟩ := Option.bind_eq_some_iff.mp h
    dsimp only at h
    split at h
    · cases h
    next hne =>
    obtain ⟨tail, htail, h⟩ := Option.bind_eq_some_iff.mp h
    obtain ⟨⟨severity, message⟩, hsev, h⟩ := Option.bind_eq_some_iff.mp h
    have hdigits : IsNumber (rest.takeWhile isDigit) :=
      ⟨by simpa using hne, fun c => isDigit_of_mem_takeWhile⟩
    have hsplit : rest = rest.takeWhile isDigit ++ (": ".toList ++ tail) := by
      rw [← after?_eq_some_iff.mp htail, List.takeWhile_append_dropWhile]
    refine ⟨":".toList ++ rest, rest.takeWhile isDigit, severity, message,
      ⟨tail, hdigits, severity?_eq_some_iff.mp hsev, ?_⟩, ?_, (Option.some.inj h).symm⟩
    · rw [List.append_assoc, List.append_assoc, ← hsplit]
    · rw [after?_eq_some_iff.mp hrest]
      rfl
  · rintro ⟨place, digits, severity, message, ⟨told, hdigits, hsev, rfl⟩, rfl, rfl⟩
    have hcolon : ∀ c ∈ (": ".toList ++ told).head?, isDigit c = false := by
      rintro c ⟨⟩
      decide
    have hrest : after? ".java:" (".java".toList ++ (":".toList ++ digits ++ ": ".toList ++ told)) =
        some (digits ++ (": ".toList ++ told)) := by
      rw [after?_eq_some_iff]
      simp
    unfold place?
    simp only [hrest, Option.bind_eq_bind, Option.bind_some, takeWhile_digits hdigits.2 hcolon,
      dropWhile_digits hdigits.2 hcolon, after?_eq_some_iff.mpr rfl,
      severity?_eq_some_iff.mpr hsev]
    simp [hdigits.1]

/-- If no place begins right after the first character, each stem has a second one. -/
theorem exists_second {c : Char} {cs stem rest : List Char} (hplace : place? cs = none)
    (hne : stem ≠ []) (heq : c :: cs = stem ++ rest) (hsome : (place? rest).isSome) :
    ∃ more, more ≠ [] ∧ stem = c :: more ∧ cs = more ++ rest := by
  obtain ⟨d, more, rfl⟩ := List.exists_cons_of_ne_nil hne
  obtain ⟨rfl, hcs⟩ : c = d ∧ cs = more ++ rest := by simpa using heq
  refine ⟨more, ?_, rfl, hcs⟩
  rintro rfl
  rw [List.nil_append] at hcs
  rw [← hcs, hplace] at hsome
  cases hsome

/-- A place is found after the shortest part of the line that has one after it. -/
theorem header?_eq_some_iff {cs : List Char} {kind : LineKind} :
    header? cs = some kind ↔ ∃ stem rest, stem ≠ [] ∧ cs = stem ++ rest ∧
      place? rest = some kind ∧
      ∀ stem' rest', stem' ≠ [] → cs = stem' ++ rest' → (place? rest').isSome →
        stem.length ≤ stem'.length := by
  induction cs with
  | nil =>
    constructor
    · intro h
      cases h
    · rintro ⟨stem, rest, hne, heq, -⟩
      exact absurd (List.append_eq_nil_iff.mp heq.symm).1 hne
  | cons c cs ih =>
    cases hplace : place? cs with
    | some found =>
      have hread : header? (c :: cs) = some found := by simp only [header?, hplace]
      rw [hread]
      constructor
      · rintro ⟨⟩
        refine ⟨[c], cs, by simp, rfl, hplace, fun stem' _ hne _ _ => ?_⟩
        exact List.length_pos_iff.mpr hne
      · rintro ⟨stem, rest, hne, heq, hrest, hleast⟩
        have hone := hleast [c] cs (by simp) rfl (by simp [hplace])
        obtain ⟨d, rfl⟩ : ∃ d, stem = [d] := by
          rw [← List.length_eq_one_iff]
          have := List.length_pos_iff.mpr hne
          simp only [List.length_singleton] at hone
          omega
        obtain ⟨rfl, rfl⟩ : c = d ∧ cs = rest := by simpa using heq
        rw [← hplace, hrest]
    | none =>
      have hread : header? (c :: cs) = header? cs := by simp only [header?, hplace]
      rw [hread, ih]
      constructor
      · rintro ⟨stem, rest, hne, rfl, hrest, hleast⟩
        refine ⟨c :: stem, rest, by simp, rfl, hrest, fun stem' rest' hne' heq hsome => ?_⟩
        obtain ⟨more, hmore, rfl, hcs⟩ := exists_second hplace hne' heq hsome
        simpa using hleast more rest' hmore hcs hsome
      · rintro ⟨stem, rest, hne, heq, hrest, hleast⟩
        obtain ⟨more, hmore, rfl, hcs⟩ := exists_second hplace hne heq (by simp [hrest])
        refine ⟨more, rest, hmore, hcs, hrest, fun stem' rest' hne' heq' hsome => ?_⟩
        simpa using hleast (c :: stem') rest' (by simp) (by rw [heq', List.cons_append]) hsome

theorem isHeader_iff {cs file digits message : List Char} {severity : Severity} :
    IsHeader cs file digits severity message ↔ ∃ stem rest, stem ≠ [] ∧ cs = stem ++ rest ∧
      file = stem ++ ".java".toList ∧ place? rest = some (.header digits severity message) := by
  constructor
  · rintro ⟨stem, place, hne, rfl, hplace, rfl⟩
    exact ⟨stem, ".java".toList ++ place, hne, by simp, rfl,
      place?_eq_some_iff.mpr ⟨place, digits, severity, message, hplace, rfl, rfl⟩⟩
  · rintro ⟨stem, rest, hne, rfl, rfl, hplace⟩
    obtain ⟨place, _, _, _, hplace, rfl, heq⟩ := place?_eq_some_iff.mp hplace
    cases heq
    exact ⟨stem, place, hne, rfl, hplace, by simp⟩

/-- The reader of headers finds the one with the shortest file name. -/
theorem header?_spec {cs : List Char} {kind : LineKind} (h : header? cs = some kind) :
    ∃ file digits severity message, kind = .header digits severity message ∧
      IsHeader cs file digits severity message ∧
      ∀ file' digits' severity' message', IsHeader cs file' digits' severity' message' →
        file.length ≤ file'.length := by
  obtain ⟨stem, rest, hne, heq, hplace, hleast⟩ := header?_eq_some_iff.mp h
  obtain ⟨_, digits, severity, message, _, _, rfl⟩ := place?_eq_some_iff.mp hplace
  refine ⟨_, digits, severity, message, rfl, isHeader_iff.mpr ⟨stem, rest, hne, heq, rfl, hplace⟩,
    ?_⟩
  intro file' digits' severity' message' hother
  obtain ⟨stem', rest', hne', heq', rfl, hplace'⟩ := isHeader_iff.mp hother
  simpa using hleast stem' rest' hne' heq' (by simp [hplace'])

theorem isSome_header? {stem rest : List Char} (hne : stem ≠ [])
    (hplace : (place? rest).isSome) : (header? (stem ++ rest)).isSome := by
  induction stem with
  | nil => exact absurd rfl hne
  | cons c more ih =>
    rw [List.cons_append]
    cases hnext : place? (more ++ rest) with
    | some found => simp [header?, hnext]
    | none =>
      have hmore : more ≠ [] := by
        rintro rfl
        rw [List.nil_append] at hnext
        rw [hnext] at hplace
        cases hplace
      simpa only [header?, hnext] using ih hmore

theorem header?_eq_none_iff {cs : List Char} : header? cs = none ↔ ¬ HasHeader cs := by
  constructor
  · rintro hnone ⟨file, digits, severity, message, hheader⟩
    obtain ⟨stem, rest, hne, rfl, -, hplace⟩ := isHeader_iff.mp hheader
    have hsome : (header? (stem ++ rest)).isSome := isSome_header? hne (by simp [hplace])
    simp [hnone] at hsome
  · intro hno
    by_contra hsome
    obtain ⟨kind, hkind⟩ := Option.ne_none_iff_exists'.mp hsome
    obtain ⟨file, digits, severity, message, -, hheader, -⟩ := header?_spec hkind
    exact hno ⟨file, digits, severity, message, hheader⟩

/-- A file name that is as short as the other one is the other one. -/
theorem IsHeader.unique {cs file digits message file' digits' message' : List Char}
    {severity severity' : Severity} (h : IsHeader cs file digits severity message)
    (h' : IsHeader cs file' digits' severity' message') (hlength : file.length = file'.length) :
    LineKind.header digits severity message = .header digits' severity' message' := by
  obtain ⟨stem, rest, -, rfl, rfl, hplace⟩ := isHeader_iff.mp h
  obtain ⟨stem', rest', -, heq, rfl, hplace'⟩ := isHeader_iff.mp h'
  have hstems : stem.length = stem'.length := by simpa using hlength
  obtain ⟨-, rfl⟩ := List.append_inj heq hstems
  exact Option.some.inj (hplace.symm.trans hplace')

/-! ## Counts and carets -/

theorem isSummary_iff {cs : List Char} : isSummary cs = true ↔ IsSummary cs := by
  have hblank : ∀ word ∈ [" error", " errors", " warning", " warnings"],
      ∀ c ∈ word.toList.head?, isDigit c = false := by
    have hspace : isDigit ' ' = false := by decide
    simp [hspace]
  constructor
  · intro h
    simp only [isSummary, Bool.and_eq_true, Bool.not_eq_true', List.any_eq_true,
      decide_eq_true_eq] at h
    obtain ⟨hne, word, hword, hrest⟩ := h
    refine ⟨cs.takeWhile isDigit, word, ⟨?_, fun c => isDigit_of_mem_takeWhile⟩, hword, ?_⟩
    · intro hnil
      simp [hnil] at hne
    · rw [← hrest, List.takeWhile_append_dropWhile]
  · rintro ⟨digits, word, hdigits, hword, rfl⟩
    simp only [isSummary, Bool.and_eq_true, Bool.not_eq_true', List.any_eq_true,
      decide_eq_true_eq, takeWhile_digits hdigits.2 (hblank word hword),
      dropWhile_digits hdigits.2 (hblank word hword)]
    exact ⟨by simpa using hdigits.1, word, hword, rfl⟩

theorem caretIndent?_eq_some_iff {cs : List Char} {indent : Nat} :
    caretIndent? cs = some indent ↔ IsCaret cs indent := by
  constructor
  · intro h
    unfold caretIndent? at h
    split at h
    · next after hdrop =>
      split at h
      · next hafter =>
        refine ⟨cs.takeWhile isBlank, after, fun c hc => List.mem_takeWhile_imp hc,
          by simpa using hafter, Option.some.inj h, ?_⟩
        rw [← hdrop, List.takeWhile_append_dropWhile]
      · cases h
    · cases h
  · rintro ⟨before, after, hbefore, hafter, rfl, rfl⟩
    have hcaret : isBlank '^' = false := by decide
    have htake : (before ++ '^' :: after).takeWhile isBlank = before := by
      rw [List.takeWhile_append_of_pos hbefore, List.takeWhile_cons_of_neg (by simp [hcaret]),
        List.append_nil]
    have hdrop : (before ++ '^' :: after).dropWhile isBlank = '^' :: after := by
      rw [List.dropWhile_append_of_pos hbefore, List.dropWhile_cons_of_neg (by simp [hcaret])]
    simp only [caretIndent?, htake, hdrop, List.all_eq_true.mpr hafter, if_true]

/-! ## The kind of a line -/

theorem hasKind_kindOf (cs : List Char) : HasKind cs (kindOf cs) := by
  unfold kindOf
  split
  · next hfound =>
    obtain ⟨file, digits, severity, message, rfl, hheader, hleast⟩ := header?_spec hfound
    exact .header hheader hleast
  next hheader =>
  rw [header?_eq_none_iff] at hheader
  split
  · next hsev => exact .bare hheader (severity?_eq_some_iff.mp hsev)
  next hsev =>
  rw [severity?_eq_none_iff] at hsev
  split
  · next hnote => exact .note hheader hsev (after?_eq_some_iff.mp hnote)
  next hnote =>
  rw [after?_eq_none_iff] at hnote
  split
  · next hsum => exact .summary hheader hsev hnote (isSummary_iff.mp hsum)
  · next hsum => exact .other hheader hsev hnote (fun h => hsum (isSummary_iff.mpr h))

theorem HasKind.kindOf_eq {cs : List Char} {kind : LineKind} (h : HasKind cs kind) :
    kindOf cs = kind := by
  cases h with
  | header hheader hleast =>
    cases hread : header? cs with
    | none => exact absurd ⟨_, _, _, _, hheader⟩ (header?_eq_none_iff.mp hread)
    | some found =>
      obtain ⟨file', digits', severity', message', rfl, hheader', hleast'⟩ := header?_spec hread
      have hlength := Nat.le_antisymm (hleast' _ _ _ _ hheader) (hleast _ _ _ _ hheader')
      simp only [kindOf, hread]
      exact hheader'.unique hheader hlength
  | bare hno hsev =>
    simp only [kindOf, header?_eq_none_iff.mpr hno, severity?_eq_some_iff.mpr hsev]
  | note hno hsev hnote =>
    simp only [kindOf, header?_eq_none_iff.mpr hno, severity?_eq_none_iff.mpr hsev,
      after?_eq_some_iff.mpr hnote]
  | summary hno hsev hnote hsum =>
    simp only [kindOf, header?_eq_none_iff.mpr hno, severity?_eq_none_iff.mpr hsev,
      after?_eq_none_iff.mpr hnote, isSummary_iff.mpr hsum, if_true]
  | other hno hsev hnote hsum =>
    rw [← isSummary_iff, Bool.not_eq_true] at hsum
    simp only [kindOf, header?_eq_none_iff.mpr hno, severity?_eq_none_iff.mpr hsev,
      after?_eq_none_iff.mpr hnote, hsum, Bool.false_eq_true, if_false]

/-- The reader of lines finds the first form that a line has. -/
theorem kindOf_eq_iff {cs : List Char} {kind : LineKind} : kindOf cs = kind ↔ HasKind cs kind :=
  ⟨fun h => h ▸ hasKind_kindOf cs, HasKind.kindOf_eq⟩

end Worksheet.JavacOutput
