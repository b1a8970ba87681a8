-- Texts of values. A value that is written is read again as it was, if the reader takes values that
-- nest so deep, keys are not repeated, and the style tells its characters and numbers. A reader that
-- has no other limit than the length of a text reads values of any depth and numbers of any size.
import Worksheet.Proofs.NumberTexts

namespace Worksheet

namespace Json

variable {s : Style} {P : Double → Prop} {digits level depth outer fuel limit : Nat}
  {found : List Char} {cs rest more tail : List Char} {c d e : Char} {text k : String} {v : Json}

/-! ## Escapes -/

theorem hexValue?_hexDigit (n : Nat) : hexValue? (Text.hexDigit n) = some (n % 16) := by
  have hdigit : ∀ k < 16, hexValue? (if k < 10 then Char.ofNat (0x30 + k) else Char.ofNat (0x57 + k)) =
      some k := by decide
  exact hdigit (n % 16) (Nat.mod_lt n (by decide))

/-- Four digits give the unit that they were written for. -/
theorem unit?_hexDigits {n : Nat} (hn : n < 0x10000) :
    unit? (Text.hexDigit (n / 16 / 16 / 16)) (Text.hexDigit (n / 16 / 16)) (Text.hexDigit (n / 16))
      (Text.hexDigit n) = some n := by
  unfold unit?
  simp only [hexValue?_hexDigit, Option.bind_eq_bind, Option.bind_some]
  congr 1
  omega

theorem takeChars_unitEscape (hc : c.toNat < 0x10000) (found rest : List Char) :
    takeChars found (unitEscape c.toNat ++ rest) = takeChars (c :: found) rest := by
  have hunit := unit?_hexDigits hc
  -- No character is a surrogate.
  have hvalid : c.toNat < 0xD800 ∨ 0xDFFF < c.toNat := c.valid.imp_right And.left
  have hhigh : isHighUnit c.toNat = false := by
    unfold isHighUnit
    simp only [Bool.and_eq_false_iff, decide_eq_false_iff_not]
    omega
  have hlow : isLowUnit c.toNat = false := by
    unfold isLowUnit
    simp only [Bool.and_eq_false_iff, decide_eq_false_iff_not]
    omega
  have htext : unitEscape c.toNat ++ rest = '\\' :: 'u' :: Text.hexDigit (c.toNat / 16 / 16 / 16) ::
      Text.hexDigit (c.toNat / 16 / 16) :: Text.hexDigit (c.toNat / 16) :: Text.hexDigit c.toNat ::
        rest := rfl
  rw [htext, takeChars, hunit]
  dsimp only
  rw [hhigh, hlow, if_neg Bool.false_ne_true, if_neg Bool.false_ne_true, Char.ofNat_toNat]

theorem takeChars_escaped (he : e ≠ 'u') (hc : unescape? e = some c) (found rest : List Char) :
    takeChars found ('\\' :: e :: rest) = takeChars (c :: found) rest := by
  rw [takeChars, hc]
  exact fun _ _ _ _ _ hu _ => he hu

theorem takeChars_plain (hquote : c ≠ '"') (hslash : c ≠ '\\') (hc : 0x20 ≤ c.toNat)
    (found rest : List Char) : takeChars found (c :: rest) = takeChars (c :: found) rest := by
  rw [takeChars]
  · refine if_neg ?_
    simp only [Bool.or_eq_true, decide_eq_true_eq, not_or]
    exact ⟨hslash, by omega⟩
  · exact fun h => hquote h
  · exact fun _ _ _ _ _ h _ => hslash h
  · exact fun _ _ h _ => hslash h

theorem shortEscape?_spec (h : shortEscape? c = some e) : e ≠ 'u' ∧ unescape? e = some c := by
  have hcode : ∀ {n}, c.toNat = n → c = Char.ofNat n := fun hn => by rw [← hn, Char.ofNat_toNat]
  unfold shortEscape? at h
  split_ifs at h with h₁ h₂ h₃ h₄ h₅ h₆ h₇ <;> cases h
  · exact ⟨by decide, by rw [h₁]; rfl⟩
  · exact ⟨by decide, by rw [h₂]; rfl⟩
  · exact ⟨by decide, by rw [h₃]; rfl⟩
  · exact ⟨by decide, by rw [h₄]; rfl⟩
  · exact ⟨by decide, by rw [h₅]; rfl⟩
  · exact ⟨by decide, by rw [hcode h₆]; rfl⟩
  · exact ⟨by decide, by rw [hcode h₇]; rfl⟩

theorem takeChars_escapeControls (c : Char) (found rest : List Char) :
    takeChars found (escapeControls c ++ rest) = takeChars (c :: found) rest := by
  unfold escapeControls
  cases hshort : shortEscape? c with
  | some e =>
    obtain ⟨he, hc⟩ := shortEscape?_spec hshort
    exact takeChars_escaped he hc found rest
  | none =>
    dsimp only
    split
    · exact takeChars_unitEscape (by omega) found rest
    · next hplain =>
      refine takeChars_plain ?_ ?_ (by omega) found rest
      · rintro rfl
        cases hshort
      · rintro rfl
        cases hshort

/-! ## Strings -/

/-- What a style has to tell: every character, and the doubles of a kind. -/
structure Style.Tells (s : Style) (P : Double → Prop) (digits : Nat) : Prop where
  escape : ∀ c found rest, takeChars found (s.escape c ++ rest) = takeChars (c :: found) rest
  real : ∀ x rest, P x → EndsNumber rest →
    takeNumberOrWord digits (s.real x ++ rest) = some (.real x, rest)

theorem takeChars_flatMap (hs : s.Tells P digits) (cs found rest : List Char) :
    takeChars found (cs.flatMap s.escape ++ '"' :: rest) = some (found.reverse ++ cs, rest) := by
  induction cs generalizing found with
  | nil => rw [List.flatMap_nil, List.nil_append, takeChars, List.append_nil]
  | cons c cs ih =>
    rw [List.flatMap_cons, List.append_assoc, hs.escape, ih, List.reverse_cons, List.append_assoc]
    rfl

theorem takeString_writeString (hs : s.Tells P digits) (text : String) (rest : List Char) :
    ∃ inner, writeString s text ++ rest = '"' :: inner ∧ takeString inner = some (text, rest) := by
  refine ⟨text.toList.flatMap s.escape ++ '"' :: rest, by simp [writeString], ?_⟩
  unfold takeString
  rw [takeChars_flatMap hs]
  simp

/-! ## Where values start -/

/-- Characters that no value starts with. -/
def outside : List Char := [' ', '\n', '\r', '\t', ']', '\x7d', ',', ':']

/-- Characters that a value starts with which is neither a number nor a word. -/
def opening : List Char := ['"', '[', '\x7b']

theorem forall_mem_of_all {p : Char → Prop} [DecidablePred p] (h : cs.all (fun c => p c) = true) :
    ∀ c ∈ cs, p c := fun c hc => of_decide_eq_true (List.all_eq_true.mp h c hc)

theorem takeNumberOrWord_eq_none (hc : c ∈ outside ++ opening) (rest : List Char) :
    takeNumberOrWord limit (c :: rest) = none := by
  have hall : ∀ c ∈ outside ++ opening, c.isDigit = false ∧ c ≠ '-' ∧
      ∀ p ∈ words, p.1.toList ≠ [] ∧ p.1.toList.head? ≠ some c := forall_mem_of_all (by decide)
  obtain ⟨hdigit, hminus, hwords⟩ := hall c hc
  unfold takeNumberOrWord
  split
  · next hfound =>
    obtain ⟨⟨word, v⟩, hmem, hword⟩ := List.exists_of_findSome?_eq_some hfound
    obtain ⟨more, htaken, -⟩ := Option.map_eq_some_iff.mp hword
    obtain ⟨hne, hhead⟩ := hwords (word, v) hmem
    refine absurd ?_ hhead
    rw [← List.head?_append_of_ne_nil _ hne, ← append_of_takeWord htaken]
    rfl
  split
  · next hsame => exact absurd (List.cons.inj hsame).1 hminus
  · exact takeUnsigned_cons_of_not_digit false hdigit rest

theorem takeValue_of_takeNumberOrWord {found : Json × List Char}
    (h : takeNumberOrWord digits cs = some found) : takeValue digits level cs = some found := by
  have hopening : ∀ c ∈ opening, ∀ rest, cs ≠ c :: rest := by
    rintro c hc rest rfl
    rw [takeNumberOrWord_eq_none (List.mem_append_right _ hc)] at h
    cases h
  rw [takeValue]
  · exact h
  · exact hopening _ (by decide)
  · exact hopening _ (by decide)
  · exact hopening _ (by decide)

theorem head_of_takeValue {found : Json × List Char} (h : takeValue digits level cs = some found)
    (hc : c ∈ outside) : cs.head? ≠ some c := by
  intro hhead
  obtain ⟨rest, rfl⟩ := List.head?_eq_some_iff.mp hhead
  have hopening : ∀ d ∈ opening, ∀ c ∈ outside, c ≠ d := by simp [opening, outside]
  rw [takeValue] at h
  · rw [takeNumberOrWord_eq_none (List.mem_append_left _ hc)] at h
    cases h
  · exact fun rest hsame => hopening _ (by decide) c hc (List.cons.inj hsame).1
  · exact fun rest hsame => hopening _ (by decide) c hc (List.cons.inj hsame).1
  · exact fun rest hsame => hopening _ (by decide) c hc (List.cons.inj hsame).1

/-! ## Lines -/

theorem skipBlanks_newline (depth : Nat) (cs : List Char) :
    skipBlanks (newline depth ++ cs) = skipBlanks cs := by
  refine List.dropWhile_append_of_pos fun c hc => ?_
  rcases List.mem_cons.mp hc with rfl | hblank
  · rfl
  · rw [List.eq_of_mem_replicate hblank]
    rfl

theorem mem_outside_of_isJsonBlank (hc : isJsonBlank c = true) : c ∈ outside := by
  simp only [isJsonBlank, Bool.or_eq_true, decide_eq_true_eq] at hc
  rcases hc with ((rfl | rfl) | rfl) | rfl <;> decide

theorem skipBlanks_of_takeValue {found : Json × List Char}
    (h : takeValue digits level cs = some found) : skipBlanks cs = cs := by
  cases cs with
  | nil => rfl
  | cons c rest =>
    exact List.dropWhile_cons_of_neg fun hc =>
      head_of_takeValue h (mem_outside_of_isJsonBlank hc) rfl

/-- A line is ended with a comma, or with the last one of an array or an object. -/
theorem endsNumber_of_head (hc : c ∈ outside) (rest : List Char) : EndsNumber (c :: rest) := by
  have hall : ∀ c ∈ outside, (c.isDigit || c = '.' || c = 'e' || c = 'E') = false := by
    simp [outside]
  exact stops_cons (hall c hc) rest

section Lists

variable {value : Taker Json} {items : List Json} {fields : List (String × Json)}

theorem takeItems_end (fuel depth : Nat) (items : List Json) (rest : List Char) :
    takeItems value (fuel + 1) items (newline depth ++ ']' :: rest) = some (items.reverse, rest) := by
  rw [takeItems, skipBlanks_newline]
  rfl

theorem takeItems_next (h : value cs = some (v, rest)) (hcs : skipBlanks cs = cs)
    (fuel depth : Nat) (items : List Json) :
    takeItems value (fuel + 1) items (',' :: newline depth ++ cs) =
      takeItems value fuel (v :: items) rest := by
  have hcomma : skipBlanks (',' :: newline depth ++ cs) = ',' :: newline depth ++ cs := rfl
  rw [takeItems, hcomma]
  split
  · next hclosed => exact absurd (List.cons.inj hclosed).1 (by decide)
  · next hnext =>
    obtain rfl : newline depth ++ cs = _ := (List.cons.inj hnext).2
    rw [skipBlanks_newline, hcs, h]
  · next hother => exact absurd rfl (hother _)

theorem takeField_append (hs : s.Tells P digits) (h : value tail = some (v, rest))
    (htail : skipBlanks tail = tail) (depth : Nat) (k : String) :
    takeField value (newline depth ++ (writeString s k ++ (':' :: ' ' :: tail))) =
      some ((k, v), rest) := by
  obtain ⟨inner, hinner, hkey⟩ := takeString_writeString hs k (':' :: ' ' :: tail)
  have hquote : skipBlanks ('"' :: inner) = '"' :: inner := rfl
  have hcolon : skipBlanks (':' :: ' ' :: tail) = ':' :: ' ' :: tail := rfl
  have hblank : skipBlanks (' ' :: tail) = skipBlanks tail := rfl
  unfold takeField
  rw [skipBlanks_newline, hinner, hquote]
  simp only [hkey, Option.bind_eq_bind, Option.bind_some, hcolon, hblank, htail, h]

theorem takeField_skipBlanks (value : Taker Json) (cs : List Char) :
    takeField value (skipBlanks cs) = takeField value cs := by
  have hskip : skipBlanks (skipBlanks cs) = skipBlanks cs := List.dropWhile_idempotent _ cs
  unfold takeField
  rw [hskip]

theorem setField_of_not_mem (hk : k ∉ fields.map (·.1)) (v : Json) :
    setField k v fields = fields ++ [(k, v)] := by
  induction fields with
  | nil => rfl
  | cons field fields ih =>
    rw [List.map_cons, List.mem_cons, not_or] at hk
    rw [setField, if_neg (Ne.symm hk.1), ih hk.2]
    rfl

theorem takeFields_end (fuel depth : Nat) (fields : List (String × Json)) (rest : List Char) :
    takeFields value (fuel + 1) fields (newline depth ++ '\x7d' :: rest) = some (fields, rest) := by
  rw [takeFields, skipBlanks_newline]
  rfl

theorem takeFields_next (h : takeField value cs = some ((k, v), rest))
    (hk : k ∉ fields.map (·.1)) (fuel : Nat) :
    takeFields value (fuel + 1) fields (',' :: cs) =
      takeFields value fuel (fields ++ [(k, v)]) rest := by
  have hcomma : skipBlanks (',' :: cs) = ',' :: cs := rfl
  rw [takeFields, hcomma]
  split
  · next hclosed => exact absurd (List.cons.inj hclosed).1 (by decide)
  · next hnext => rw [← (List.cons.inj hnext).2, h, ← setField_of_not_mem hk]
  · next hother => exact absurd rfl (hother _)

end Lists

/-- An array, from its first item. -/
theorem takeValue_array (h : takeValue digits level (skipBlanks cs) = some (v, rest)) :
    takeValue digits (level + 1) ('[' :: cs) =
      (takeItems (takeValue digits level) rest.length [v] rest).map fun (items, tail) =>
        (.array items, tail) := by
  have hopen : ∀ more, skipBlanks cs ≠ ']' :: more := fun more hclosed =>
    head_of_takeValue h (c := ']') (by decide) (by rw [hclosed]; rfl)
  rw [takeValue.eq_4 digits cs level hopen, h]

/-- An object, from its first field. -/
theorem takeValue_object (h : takeField (takeValue digits level) (skipBlanks cs) = some ((k, v), rest)) :
    takeValue digits (level + 1) ('\x7b' :: cs) =
      (takeFields (takeValue digits level) rest.length [(k, v)] rest).map fun (fields, tail) =>
        (.object fields, tail) := by
  have hopen : ∀ more, skipBlanks cs ≠ '\x7d' :: more := fun more hclosed => by
    rw [hclosed] at h
    cases h
  rw [takeValue.eq_7 digits cs level hopen, h]

/-! ## Values that are written and read -/

mutual

/-- What a reader can take of a value: whole numbers of so many digits, doubles of a kind, no
surrogates, no key twice, and so many levels of arrays and objects. -/
def Fits (P : Double → Prop) (digits : Nat) (level : Nat) : Json → Prop
  | .integer n => (Nat.toDigits 10 n.natAbs).length ≤ digits
  | .real x => P x
  | .points _ => False
  | .array items => (items ≠ [] → 0 < level) ∧ ItemsFit P digits (level - 1) items
  | .object fields =>
    (fields ≠ [] → 0 < level) ∧ (fields.map (·.1)).Nodup ∧ FieldsFit P digits (level - 1) fields
  | _ => True

def ItemsFit (P : Double → Prop) (digits : Nat) (level : Nat) : List Json → Prop
  | [] => True
  | v :: items => v.Fits P digits level ∧ ItemsFit P digits level items

def FieldsFit (P : Double → Prop) (digits : Nat) (level : Nat) : List (String × Json) → Prop
  | [] => True
  | (_, v) :: fields => v.Fits P digits level ∧ FieldsFit P digits level fields

end

theorem endsNumber_writeItems (s : Style) (depth outer : Nat) (items : List Json)
    (rest : List Char) : EndsNumber (writeItems s depth items ++ (newline outer ++ rest)) := by
  cases items with
  | nil => exact endsNumber_of_head (c := '\n') (by decide) _
  | cons v items => exact endsNumber_of_head (c := ',') (by decide) _

theorem endsNumber_writeFields (s : Style) (depth outer : Nat) (fields : List (String × Json))
    (rest : List Char) : EndsNumber (writeFields s depth fields ++ (newline outer ++ rest)) := by
  cases fields with
  | nil => exact endsNumber_of_head (c := '\n') (by decide) _
  | cons field fields => exact endsNumber_of_head (c := ',') (by decide) _

mutual

theorem takeValue_write (hs : s.Tells P digits) :
    ∀ (v : Json) (level depth : Nat) (rest : List Char), v.Fits P digits level → EndsNumber rest →
      takeValue digits level (v.write s depth ++ rest) = some (v, rest)
  | .null, _, _, _, _, _ => takeValue_of_takeNumberOrWord rfl
  | .bool true, _, _, _, _, _ => takeValue_of_takeNumberOrWord rfl
  | .bool false, _, _, _, _, _ => takeValue_of_takeNumberOrWord rfl
  | .integer n, _, _, _, h, hrest =>
    takeValue_of_takeNumberOrWord (takeNumberOrWord_toString hrest n h)
  | .real x, _, _, rest, h, hrest => takeValue_of_takeNumberOrWord (hs.real x rest h hrest)
  | .string text, level, depth, rest, _, _ => by
    obtain ⟨inner, hinner, htext⟩ := takeString_writeString hs text rest
    rw [write, hinner, takeValue, htext]
    rfl
  | .points _, _, _, _, h, _ => h.elim
  | .array [], level, depth, rest, _, _ => by
    rw [write]
    exact takeValue.eq_2 digits _ level rest rfl
  | .array (v :: items), level, depth, rest, h, _ => by
    obtain ⟨hlevel, hv, hitems⟩ := h
    obtain ⟨level, rfl⟩ := Nat.exists_eq_add_one.mpr (hlevel (List.cons_ne_nil v items))
    have hfirst := takeValue_write hs v level (depth + 1) _ hv
      (endsNumber_writeItems s (depth + 1) depth items (']' :: rest))
    have hmore := takeItems_write hs items level (depth + 1) depth _ [v] rest hitems le_rfl
    have htext : (Json.array (v :: items)).write s depth ++ rest =
        '[' :: (newline (depth + 1) ++ (v.write s (depth + 1) ++
          (writeItems s (depth + 1) items ++ (newline depth ++ ']' :: rest)))) := by
      simp [write]
    rw [htext, takeValue_array (by rw [skipBlanks_newline, skipBlanks_of_takeValue hfirst, hfirst]),
      hmore]
    rfl
  | .object [], level, depth, rest, _, _ => by
    rw [write]
    exact takeValue.eq_5 digits _ level rest rfl
  | .object ((k, v) :: fields), level, depth, rest, h, _ => by
    obtain ⟨hlevel, hkeys, hv, hfields⟩ := h
    obtain ⟨level, rfl⟩ := Nat.exists_eq_add_one.mpr (hlevel (List.cons_ne_nil (k, v) fields))
    have hfirst := takeValue_write hs v level (depth + 1) _ hv
      (endsNumber_writeFields s (depth + 1) depth fields ('\x7d' :: rest))
    have hmore := takeFields_write hs fields level (depth + 1) depth _ [(k, v)] rest hfields hkeys
      le_rfl
    have htext : (Json.object ((k, v) :: fields)).write s depth ++ rest =
        '\x7b' :: (newline (depth + 1) ++ (writeString s k ++ (':' :: ' ' ::
          (v.write s (depth + 1) ++ (writeFields s (depth + 1) fields ++
            (newline depth ++ '\x7d' :: rest)))))) := by
      simp [write]
    rw [htext, takeValue_object (by
      rw [takeField_skipBlanks]
      exact takeField_append hs hfirst (skipBlanks_of_takeValue hfirst) (depth + 1) k), hmore]
    rfl

theorem takeItems_write (hs : s.Tells P digits) :
    ∀ (items : List Json) (level depth outer fuel : Nat) (before : List Json) (rest : List Char),
      ItemsFit P digits level items →
      (writeItems s depth items ++ (newline outer ++ ']' :: rest)).length ≤ fuel →
      takeItems (takeValue digits level) fuel before
        (writeItems s depth items ++ (newline outer ++ ']' :: rest)) =
          some (before.reverse ++ items, rest)
  | [], level, depth, outer, fuel, before, rest, _, hfuel => by
    obtain ⟨fuel, rfl⟩ := Nat.exists_eq_add_one.mpr (Nat.zero_lt_of_lt hfuel)
    rw [List.append_nil]
    exact takeItems_end fuel outer before rest
  | v :: items, level, depth, outer, fuel, before, rest, ⟨hv, hitems⟩, hfuel => by
    have htext : writeItems s depth (v :: items) ++ (newline outer ++ ']' :: rest) =
        ',' :: newline depth ++ (v.write s depth ++
          (writeItems s depth items ++ (newline outer ++ ']' :: rest))) := by
      simp [writeItems]
    rw [htext] at hfuel ⊢
    obtain ⟨fuel, rfl⟩ := Nat.exists_eq_add_one.mpr (Nat.zero_lt_of_lt hfuel)
    have hfirst := takeValue_write hs v level depth _ hv
      (endsNumber_writeItems s depth outer items (']' :: rest))
    rw [takeItems_next hfirst (skipBlanks_of_takeValue hfirst),
      takeItems_write hs items level depth outer fuel (v :: before) rest hitems ?_]
    · simp
    · simp only [List.length_append, List.length_cons] at hfuel ⊢
      omega

theorem takeFields_write (hs : s.Tells P digits) :
    ∀ (fields : List (String × Json)) (level depth outer fuel : Nat)
      (before : List (String × Json)) (rest : List Char),
      FieldsFit P digits level fields → ((before ++ fields).map (·.1)).Nodup →
      (writeFields s depth fields ++ (newline outer ++ '\x7d' :: rest)).length ≤ fuel →
      takeFields (takeValue digits level) fuel before
        (writeFields s depth fields ++ (newline outer ++ '\x7d' :: rest)) =
          some (before ++ fields, rest)
  | [], level, depth, outer, fuel, before, rest, _, _, hfuel => by
    obtain ⟨fuel, rfl⟩ := Nat.exists_eq_add_one.mpr (Nat.zero_lt_of_lt hfuel)
    rw [List.append_nil]
    exact takeFields_end fuel outer before rest
  | (k, v) :: fields, level, depth, outer, fuel, before, rest, ⟨hv, hfields⟩, hkeys, hfuel => by
    have htext : writeFields s depth ((k, v) :: fields) ++ (newline outer ++ '\x7d' :: rest) =
        ',' :: (newline depth ++ (writeString s k ++ (':' :: ' ' :: (v.write s depth ++
          (writeFields s depth fields ++ (newline outer ++ '\x7d' :: rest)))))) := by
      simp [writeFields]
    rw [htext] at hfuel ⊢
    obtain ⟨fuel, rfl⟩ := Nat.exists_eq_add_one.mpr (Nat.zero_lt_of_lt hfuel)
    have hfirst := takeValue_write hs v level depth _ hv
      (endsNumber_writeFields s depth outer fields ('\x7d' :: rest))
    have hnew : k ∉ before.map (·.1) := by
      rw [List.map_append, List.nodup_append] at hkeys
      exact fun hk => hkeys.2.2 k hk k List.mem_cons_self rfl
    have hall : before ++ (k, v) :: fields = (before ++ [(k, v)]) ++ fields := by simp
    rw [hall] at hkeys ⊢
    rw [takeFields_next (takeField_append hs hfirst (skipBlanks_of_takeValue hfirst) depth k) hnew,
      takeFields_write hs fields level depth outer fuel _ rest hfields hkeys ?_]
    simp only [List.length_append, List.length_cons] at hfuel ⊢
    omega

end

/-- A value that a reader can take is read as it was written, with blanks behind it or none. -/
theorem read_write {limits : Limits} (hs : s.Tells P limits.digits) {v : Json}
    (hv : v.Fits P limits.digits limits.depth) (hrest : ∀ c ∈ rest, isJsonBlank c = true) :
    read limits (v.write s 0 ++ rest) = some v := by
  have hend : EndsNumber rest := by
    cases rest with
    | nil => exact fun c hc => by cases hc
    | cons c rest =>
      exact endsNumber_of_head (mem_outside_of_isJsonBlank (hrest c List.mem_cons_self)) rest
  have hvalue := takeValue_write hs v limits.depth 0 rest hv hend
  have hblank : skipBlanks rest = [] := List.dropWhile_eq_nil_iff.mpr hrest
  unfold read
  rw [skipBlanks_of_takeValue hvalue, hvalue]
  dsimp only
  rw [hblank]
  rfl

/-! ## Stored values -/

theorem storedStyle_real (negative : Bool) {m : Nat} {e : Int} (h : CanonicalDouble m e) :
    storedStyle.real (.finite negative m e h) =
      Double.storedLayout.write Double.shortest (.finite negative m e h) := String.toList_ofList

/-- The style of configuration texts tells all characters, and the finite doubles. -/
theorem tells_storedStyle (hdigits : 16 ≤ digits) :
    storedStyle.Tells (fun x => x.isFinite = true) digits where
  escape := takeChars_escapeControls
  real x rest hx hrest := by
    have hhigh : (16 : Int) ≤ digits := by exact_mod_cast hdigits
    cases x with
    | finite negative m e h =>
      rw [storedStyle_real]
      exact takeNumberOrWord_write rfl hhigh (by omega) hrest negative h
    | infinite negative => cases hx
    | nan => cases hx

/-- The other numbers are written as nothing is. -/
theorem write_storedStyle_real {x : Double} (hx : x.isFinite = false) (depth : Nat) :
    (Json.real x).write storedStyle depth = Json.null.write storedStyle depth := by
  cases x with
  | finite negative m e h => cases hx
  | infinite negative => rfl
  | nan => rfl

/-! ### Carriage returns -/

theorem not_mem_unitEscape (n : Nat) : '\r' ∉ unitEscape n := by
  have hdigit : ∀ k, '\r' ≠ Text.hexDigit k := by
    intro k hk
    have hvalue := hexValue?_hexDigit k
    rw [← hk] at hvalue
    cases hvalue
  have hdigits : ∀ width k, '\r' ∉ Text.hexDigits width k := by
    intro width
    induction width with
    | zero => exact fun k => List.not_mem_nil
    | succ width ih =>
      intro k
      rw [Text.hexDigits, List.mem_append, not_or, List.mem_singleton]
      exact ⟨ih (k / 16), hdigit k⟩
  unfold unitEscape
  simp only [List.mem_cons, not_or]
  exact ⟨by decide, by decide, hdigits 4 n⟩

theorem not_mem_escapeControls (c : Char) : '\r' ∉ escapeControls c := by
  unfold escapeControls
  cases hshort : shortEscape? c with
  | some e =>
    have he : '\r' ≠ e := by
      rintro rfl
      cases (shortEscape?_spec hshort).2
    simp only [List.mem_cons, List.not_mem_nil, or_false, not_or]
    exact ⟨by decide, he⟩
  | none =>
    dsimp only
    split
    · exact not_mem_unitEscape c.toNat
    · rw [List.mem_singleton]
      rintro rfl
      cases hshort

theorem not_mem_newline (depth : Nat) : '\r' ∉ newline depth := by
  unfold newline
  rw [List.mem_cons, not_or]
  exact ⟨by decide, fun h => absurd (List.eq_of_mem_replicate h) (by decide)⟩

theorem not_mem_writeString (text : String) : '\r' ∉ writeString storedStyle text := by
  unfold writeString
  simp only [List.cons_append, List.mem_cons, List.mem_append, List.mem_flatMap, not_or,
    not_exists, not_and]
  exact ⟨by decide, fun c _ => not_mem_escapeControls c, by decide⟩

theorem not_mem_writePoints (text : Text.Points) : '\r' ∉ writePoints storedStyle text := by
  unfold writePoints
  simp only [List.cons_append, List.mem_cons, List.mem_append, List.mem_flatMap, not_or,
    not_exists, not_and]
  refine ⟨by decide, fun p _ => ?_, by decide⟩
  split
  · exact not_mem_escapeControls _
  · exact not_mem_unitEscape p.val

theorem not_mem_real (x : Double) : '\r' ∉ storedStyle.real x := by
  cases x with
  | finite negative m e h =>
    intro hmem
    rw [storedStyle_real] at hmem
    exact absurd (NumberLayout.isNumberCharacter_write negative h '\r' hmem) (by decide)
  | infinite negative => exact show '\r' ∉ "null".toList by decide
  | nan => exact show '\r' ∉ "null".toList by decide

mutual

/-- The text of a stored value has all its line ends made of one character. -/
theorem not_mem_write : ∀ (v : Json) (depth : Nat), '\r' ∉ v.write storedStyle depth
  | .null, _ => show '\r' ∉ "null".toList by decide
  | .bool true, _ => show '\r' ∉ "true".toList by decide
  | .bool false, _ => show '\r' ∉ "false".toList by decide
  | .integer n, _ => not_mem_toString (by decide) (by decide) n
  | .real x, _ => not_mem_real x
  | .string text, _ => not_mem_writeString text
  | .points text, _ => not_mem_writePoints text
  | .array [], _ => by
    rw [write]
    decide
  | .array (v :: items), depth => by
    rw [write]
    simp only [List.cons_append, List.mem_cons, List.mem_append, not_or]
    exact ⟨by decide, ⟨⟨⟨not_mem_newline _, not_mem_write v _⟩, not_mem_writeItems items _⟩,
      not_mem_newline _⟩, by decide⟩
  | .object [], _ => by
    rw [write]
    decide
  | .object ((k, v) :: fields), depth => by
    rw [write]
    simp only [List.cons_append, List.mem_cons, List.mem_append, not_or]
    exact ⟨by decide, ⟨⟨⟨⟨not_mem_newline _, not_mem_writeString k⟩, by decide, by decide,
      not_mem_write v _⟩, not_mem_writeFields fields _⟩, not_mem_newline _⟩, by decide⟩

theorem not_mem_writeItems : ∀ (items : List Json) (depth : Nat),
    '\r' ∉ writeItems storedStyle depth items
  | [], _ => by
    rw [writeItems]
    exact List.not_mem_nil
  | v :: items, depth => by
    rw [writeItems]
    simp only [List.cons_append, List.mem_cons, List.mem_append, not_or]
    exact ⟨by decide, ⟨not_mem_newline _, not_mem_write v _⟩, not_mem_writeItems items _⟩

theorem not_mem_writeFields : ∀ (fields : List (String × Json)) (depth : Nat),
    '\r' ∉ writeFields storedStyle depth fields
  | [], _ => by
    rw [writeFields]
    exact List.not_mem_nil
  | (k, v) :: fields, depth => by
    rw [writeFields]
    simp only [List.cons_append, List.mem_cons, List.mem_append, not_or]
    exact ⟨by decide, ⟨⟨not_mem_newline _, not_mem_writeString k⟩, by decide, by decide,
      not_mem_write v _⟩, not_mem_writeFields fields _⟩

end

/-! ## Values in ASCII -/

mutual

/-- What a reader without limits can take of a value: doubles of a kind, no surrogates, and no key
twice. -/
def Readable (P : Double → Prop) : Json → Prop
  | .real x => P x
  | .points _ => False
  | .array items => ItemsReadable P items
  | .object fields => (fields.map (·.1)).Nodup ∧ FieldsReadable P fields
  | _ => True

def ItemsReadable (P : Double → Prop) : List Json → Prop
  | [] => True
  | v :: items => v.Readable P ∧ ItemsReadable P items

def FieldsReadable (P : Double → Prop) : List (String × Json) → Prop
  | [] => True
  | (_, v) :: fields => v.Readable P ∧ FieldsReadable P fields

end

mutual

/-- No number in a text has more digits than the text is long, and no value in it nests deeper. -/
theorem fits_of_length (s : Style) : ∀ (v : Json) (depth n m : Nat), v.Readable P →
    (v.write s depth).length ≤ n → (v.write s depth).length ≤ m → v.Fits P n m
  | .null, _, _, _, _, _, _ => trivial
  | .bool _, _, _, _, _, _, _ => trivial
  | .integer k, _, n, _, _, hn, _ => by
    simp only [write, toList_toString, List.length_append] at hn
    exact Nat.le_of_add_left_le hn
  | .real _, _, _, _, h, _, _ => h
  | .string _, _, _, _, _, _, _ => trivial
  | .points _, _, _, _, h, _, _ => h
  | .array [], _, _, _, _, _, _ => ⟨fun hne => absurd rfl hne, trivial⟩
  | .array (v :: items), depth, n, m, h, hn, hm => by
    obtain ⟨hv, hitems⟩ := h
    simp only [write, List.length_cons, List.length_append] at hn hm
    refine ⟨fun _ => by omega, ?_, ?_⟩
    · exact fits_of_length s v (depth + 1) n (m - 1) hv (by omega) (by omega)
    · exact itemsFit_of_length s items (depth + 1) n (m - 1) hitems (by omega) (by omega)
  | .object [], _, _, _, _, _, _ => ⟨fun hne => absurd rfl hne, List.nodup_nil, trivial⟩
  | .object ((k, v) :: fields), depth, n, m, h, hn, hm => by
    obtain ⟨hkeys, hv, hfields⟩ := h
    simp only [write, List.length_cons, List.length_append] at hn hm
    refine ⟨fun _ => by omega, hkeys, ?_, ?_⟩
    · exact fits_of_length s v (depth + 1) n (m - 1) hv (by omega) (by omega)
    · exact fieldsFit_of_length s fields (depth + 1) n (m - 1) hfields (by omega) (by omega)

theorem itemsFit_of_length (s : Style) : ∀ (items : List Json) (depth n m : Nat),
    ItemsReadable P items → (writeItems s depth items).length ≤ n →
      (writeItems s depth items).length ≤ m → ItemsFit P n m items
  | [], _, _, _, _, _, _ => trivial
  | v :: items, depth, n, m, h, hn, hm => by
    obtain ⟨hv, hitems⟩ := h
    simp only [writeItems, List.length_cons, List.length_append] at hn hm
    constructor
    · exact fits_of_length s v depth n m hv (by omega) (by omega)
    · exact itemsFit_of_length s items depth n m hitems (by omega) (by omega)

theorem fieldsFit_of_length (s : Style) : ∀ (fields : List (String × Json)) (depth n m : Nat),
    FieldsReadable P fields → (writeFields s depth fields).length ≤ n →
      (writeFields s depth fields).length ≤ m → FieldsFit P n m fields
  | [], _, _, _, _, _, _ => trivial
  | (k, v) :: fields, depth, n, m, h, hn, hm => by
    obtain ⟨hv, hfields⟩ := h
    simp only [writeFields, List.length_cons, List.length_append] at hn hm
    constructor
    · exact fits_of_length s v depth n m hv (by omega) (by omega)
    · exact fieldsFit_of_length s fields depth n m hfields (by omega) (by omega)

end

/-- The value of a text, whatever it nests and whatever numbers it holds. -/
def ofText? (text : String) : Option Json := read ⟨text.length, text.length⟩ text.toList

end Json

end Worksheet
