-- Reading command lines by a grammar. Options and positional words may be mixed; a word that
-- opens with a dash is an option unless it is a negative number or holds a blank.
import Worksheet.Options.Usage
import Worksheet.Text.Quoted
import Worksheet.Text.Split

namespace Worksheet

namespace CommandLine

/-! ## Words -/

/-- What a word that opens with a dash is taken for: an option of the grammar, by one of its
names, with the text that came along in the same word; or an option that the grammar does not
have. -/
inductive OptionUse
  | known (parameter : Parameter) (name : String) (joined : Option (List Char))
  | unknown
  deriving DecidableEq, Repr

/-- A word of a command line. The first double dash ends the options. -/
inductive Token
  | word (text : String)
  | option (text : String) (use : OptionUse)
  | separator
  deriving DecidableEq, Repr

namespace Token

def text : Token → String
  | word t => t
  | option t _ => t
  | separator => "--"

def isOption : Token → Bool
  | option .. => true
  | _ => false

end Token

/-- What is wrong with a command line. -/
inductive LineFault
  | ambiguous (word : String) (candidates : List String)
  | explicitValue (parameter : String) (value : String)
  | missingValue (parameter : String)
  | notNumber (parameter : String) (value : String)
  | notAChoice (parameter : String) (value : String) (choices : List String)
  | missing (parameters : List String)
  | unrecognized (words : List String)
  deriving DecidableEq, Repr

namespace LineFault

def message : LineFault → String
  | ambiguous word candidates =>
    "ambiguous option: " ++ word ++ " could match " ++ ", ".intercalate candidates
  | explicitValue parameter value =>
    "argument " ++ parameter ++ ": ignored explicit argument " ++ Text.quoted value
  | missingValue parameter => "argument " ++ parameter ++ ": expected one argument"
  | notNumber parameter value =>
    "argument " ++ parameter ++ ": invalid float value: " ++ Text.quoted value
  | notAChoice parameter value choices =>
    "argument " ++ parameter ++ ": invalid choice: " ++ Text.quoted value ++ " (choose from " ++
      ", ".intercalate (choices.map Text.quoted) ++ ")"
  | missing parameters =>
    "the following arguments are required: " ++ ", ".intercalate parameters
  | unrecognized words => "unrecognized arguments: " ++ " ".intercalate words

end LineFault

/-! ## Telling options from words -/

/-- A text before the first equals sign, and after it if there is one. -/
def cutAtEquals (cs : List Char) : List Char × Option (List Char) :=
  match cs.dropWhile (· ≠ '=') with
  | [] => (cs, none)
  | _ :: rest => (cs.takeWhile (· ≠ '='), some rest)

/-- The names that begin like a word with two dashes. -/
def longCandidates (g : Grammar) (cs : List Char) : List (String × OptionUse) :=
  if g.abbreviations then
    let (start, joined) := cutAtEquals cs
    g.optionNames.filterMap fun (n, p) =>
      if Text.startsWith start n.toList then some (n, .known p n joined)
      else none
  else []

/-- The names that a word with one dash may mean: its first letter with the rest as a value, or
a name that begins like the whole word. -/
def shortCandidates (g : Grammar) (cs : List Char) : List (String × OptionUse) :=
  g.optionNames.filterMap fun (n, p) =>
    if n.toList = cs.take 2 then some (n, .known p n (some (cs.drop 2)))
    else if Text.startsWith cs n.toList then some (n, .known p n none)
    else none

def candidates (g : Grammar) (cs : List Char) : List (String × OptionUse) :=
  match cs with
  | '-' :: '-' :: _ => longCandidates g cs
  | _ => shortCandidates g cs

/-- A dash and digits, with at most one point before the last of them. A line feed at the end does
not count. -/
def isNegativeNumber (cs : List Char) : Bool :=
  let cs := if cs.getLast? = some '\n' then cs.dropLast else cs
  match cs with
  | '-' :: rest =>
    let whole := rest.takeWhile Text.isDigit
    match rest.dropWhile Text.isDigit with
    | [] => !whole.isEmpty
    | '.' :: part => !part.isEmpty && part.all Text.isDigit
    | _ => false
  | _ => false

/-- The option that a word names in full, on its own or before an equals sign. -/
def exactUse? (g : Grammar) (word : String) : Option OptionUse :=
  match g.optionNames.lookup word with
  | some p => some (.known p word none)
  | none =>
    match cutAtEquals word.toList with
    | (start, some value) =>
      let name := String.ofList start
      (g.optionNames.lookup name).map fun p => .known p name (some value)
    | (_, none) => none

def tokenOf (g : Grammar) (word : String) : Except LineFault Token :=
  match word.toList with
  | '-' :: c :: rest =>
    match exactUse? g word with
    | some u => .ok (.option word u)
    | none =>
      match candidates g ('-' :: c :: rest) with
      | [(_, u)] => .ok (.option word u)
      | [] =>
        if isNegativeNumber word.toList || ' ' ∈ word.toList then .ok (.word word)
        else .ok (.option word .unknown)
      | several => .error (.ambiguous word (several.map (·.1)))
  | _ => .ok (.word word)

def tokens (g : Grammar) : List String → Except LineFault (List Token)
  | [] => .ok []
  | w :: rest =>
    if w = "--" then .ok (.separator :: rest.map .word)
    else
      match tokenOf g w with
      | .error e => .error e
      | .ok t => (tokens g rest).map (t :: ·)

/-! ## Values -/

/-- The values read so far, the parameters that were given, and the words that no parameter
takes. -/
structure Reading where
  values : List (String × ParameterValue)
  seen : List String
  extras : List String

namespace Reading

def start (g : Grammar) : Reading :=
  ⟨g.parameters.filterMap fun p =>
    if p.kind = .help then none else some (p.key, p.initial), [], []⟩

def set (r : Reading) (key : String) (v : ParameterValue) : Reading :=
  { r with
    values := r.values.map fun (k, old) => if k = key then (k, v) else (k, old)
    seen := key :: r.seen }

def value (r : Reading) (key : String) : ParameterValue := (r.values.lookup key).getD .absent

def addExtras (r : Reading) (words : List String) : Reading :=
  { r with extras := r.extras ++ words }

/-- Gives a parameter the value that a text stands for. -/
def give (r : Reading) (p : Parameter) (text : String) : Except LineFault Reading :=
  match p.kind with
  | .help => .ok r
  | .flag => .ok (r.set p.key (.flag true))
  | .text _ => .ok (r.set p.key (.text text))
  | .choice choices =>
    if choices.contains text then .ok (r.set p.key (.text text))
    else .error (.notAChoice p.title text choices)
  | .number =>
    match NumberText.readGrouped text.toList with
    | some x => .ok (r.set p.key (.number x))
    | none => .error (.notNumber p.title text)
  | .texts =>
    match r.value p.key with
    | .texts old => .ok (r.set p.key (.texts (old ++ [some text])))
    | _ => .ok (r.set p.key (.texts [some text]))

/-- Gives a parameter a value without words, which is not looked at any further. -/
def giveWordless (r : Reading) (p : Parameter) : Reading :=
  match p.kind with
  | .help => r
  | .flag => r.set p.key (.flag true)
  | .texts =>
    match r.value p.key with
    | .texts old => r.set p.key (.texts (old ++ [none]))
    | _ => r.set p.key (.texts [none])
  | _ => r.set p.key .wordless

end Reading

/-! ## Options -/

/-- The options that one word gives, each with the word that is its value, and how many words
after it were used. -/
structure WordUse where
  given : List (Parameter × Option String)
  used : Nat

def WordUse.add (given : Parameter × Option String) (u : WordUse) : WordUse :=
  { u with given := given :: u.given }

/-- The value of an option that came without one is the next word. -/
def takeNext (p : Parameter) (next : Option Token) : Except LineFault WordUse :=
  if p.takesValue then
    match next with
    | some (.word w) => .ok ⟨[(p, some w)], 1⟩
    | _ => .error (.missingValue p.title)
  else .ok ⟨[(p, none)], 0⟩

/-- A text that is joined to an option. The double dash is no word. -/
def joinedWord (value : List Char) : Option String :=
  if value = ['-', '-'] then none else some (String.ofList value)

def isLongName : List Char → Bool
  | _ :: '-' :: _ => true
  | _ => false

/-- The text joined to an option is its value. After a flag of one dash it holds further options
of one letter, and nothing else. -/
def useOption (g : Grammar) (next : Option Token) (p : Parameter) (name : List Char) :
    (joined : Option (List Char)) → (fuel : Nat) → Except LineFault WordUse
  | none, _ => takeNext p next
  | some value, fuel =>
    if p.takesValue then .ok ⟨[(p, joinedWord value)], 0⟩
    else
      let refused := .error (.explicitValue p.title (String.ofList value))
      match value, fuel with
      | c :: rest, fuel + 1 =>
        if isLongName name then refused
        else
          match g.optionNames.lookup (String.ofList ['-', c]) with
          | none => refused
          | some p' =>
            (useOption g next p' ['-', c] (if rest.isEmpty then none else some rest) fuel).map
              (WordUse.add (p, none))
      | _, _ => refused

/-- Gives each option its value in turn; help ends the reading. -/
def giveAll (helpText : String) :
    List (Parameter × Option String) → Reading → Except (Sum LineFault Refusal) Reading
  | [], r => .ok r
  | (p, word) :: rest, r =>
    if p.kind = .help then .error (.inr (.help helpText))
    else
      match word with
      | none => giveAll helpText rest (r.giveWordless p)
      | some text =>
        match r.give p text with
        | .ok r' => giveAll helpText rest r'
        | .error e => .error (.inl e)

/-! ## Positional words -/

/-- How many tokens one positional word takes, and the word: separators around it go with it, and
the first of them is dropped. -/
def takePositional (ts : List Token) : Option (Nat × String) :=
  let before := ts.takeWhile (· = .separator)
  match ts.dropWhile (· = .separator) with
  | .word w :: rest =>
    some (before.length + 1 + (rest.takeWhile (· = .separator)).length, w)
  | _ => none

/-- Positional words still to come take what they can. -/
def takePositionals : List Parameter → List Token → Reading →
    Except LineFault (List Parameter × Nat × Reading)
  | [], _, r => .ok ([], 0, r)
  | p :: rest, ts, r =>
    match takePositional ts with
    | none => .ok (p :: rest, 0, r)
    | some (n, w) =>
      match r.give p w with
      | .error e => .error e
      | .ok r' =>
        (takePositionals rest (ts.drop n) r').map fun (left, m, r'') => (left, n + m, r'')

/-! ## A whole line -/

/-- Reads tokens with the positional parameters that are still to come. Each step uses up at least
one token. -/
def readTokens (g : Grammar) (helpText : String) :
    (fuel : Nat) → List Parameter → List Token → Reading →
      Except (Sum LineFault Refusal) Reading
  | 0, _, ts, r => .ok (r.addExtras (ts.map Token.text))
  | fuel + 1, positionals, ts, r =>
    match takePositionals positionals ts r with
    | .error e => .error (.inl e)
    | .ok (left, n, r') =>
      if 0 < n then readTokens g helpText fuel left (ts.drop n) r'
      else
        match ts with
        | [] => .ok r
        | .option text u :: rest =>
          match u with
          | .unknown => readTokens g helpText fuel positionals rest (r.addExtras [text])
          | .known p name joined =>
            match useOption g rest.head? p name.toList joined text.length with
            | .error e => .error (.inl e)
            | .ok used =>
              match giveAll helpText used.given r with
              | .error e => .error e
              | .ok r'' => readTokens g helpText fuel positionals (rest.drop used.used) r''
        | t :: rest => readTokens g helpText fuel positionals rest (r.addExtras [t.text])

/-- The required parameters that were not given. -/
def missing (g : Grammar) (r : Reading) : List String :=
  (g.parameters.filter fun p => p.required && !r.seen.contains p.key).map Parameter.title

/-- A fault is told after the usage of the program. -/
def refuse (usageText program : String) (e : LineFault) : Refusal :=
  .usage (usageText ++ program ++ ": error: " ++ e.message ++ "\n")

/-- Reads a line, and keeps the words that no parameter takes. -/
def readKnown (g : Grammar) (words : List String) : Except Refusal Reading :=
  let told (e : LineFault) : Refusal := refuse (Usage.usage g) g.program e
  match tokens g words with
  | .error e => .error (told e)
  | .ok ts =>
    match readTokens g (Usage.help g) (ts.length + 1) g.positionals ts (.start g) with
    | .error (.inl e) => .error (told e)
    | .error (.inr refusal) => .error refusal
    | .ok r =>
      match missing g r with
      | [] => .ok r
      | names => .error (told (.missing names))

/-- Reads a line that holds nothing but what the grammar has. -/
def read (g : Grammar) (words : List String) : Except Refusal (List (String × ParameterValue)) :=
  match readKnown g words with
  | .error e => .error e
  | .ok r =>
    if r.extras.isEmpty then .ok r.values
    else .error (refuse (Usage.usage g) g.program (.unrecognized r.extras))

/-! ## Commands -/

/-- A command that was read, with its values. -/
structure CommandReading where
  command : Option String
  values : List (String × ParameterValue)

/-- The words before a command, and the command with all that follows. Options of the main grammar
stand before the command. -/
def readMain (s : CommandSet) : List Token → (extras : List String) →
    Except (Sum LineFault Refusal) (List String × List String)
  | [], extras => .ok (extras, [])
  | .option text u :: rest, extras =>
    match u with
    | .unknown => readMain s rest (extras ++ [text])
    | .known p name joined =>
      match useOption s.main rest.head? p name.toList joined text.length with
      | .error e => .error (.inl e)
      | .ok _ => .error (.inr (.help (Usage.commandHelp s)))
  | .separator :: rest, extras =>
    match rest with
    | [] => .ok (extras ++ ["--"], [])
    | _ => .ok (extras, "--" :: rest.map Token.text)
  | .word w :: rest, extras => .ok (extras, w :: rest.map Token.text)

def readCommand (s : CommandSet) (words : List String) : Except Refusal CommandReading :=
  let told (e : LineFault) : Refusal := refuse (Usage.commandUsage s) s.main.program e
  match tokens s.main words with
  | .error e => .error (told e)
  | .ok ts =>
    match readMain s ts [] with
    | .error (.inl e) => .error (told e)
    | .error (.inr refusal) => .error refusal
    | .ok (extras, []) =>
      if extras.isEmpty then .ok ⟨none, []⟩ else .error (told (.unrecognized extras))
    | .ok (extras, name :: rest) =>
      match s.commands.find? fun c => c.name = name with
      | none => .error (told (.notAChoice s.key name (s.commands.map (·.name))))
      | some c =>
        match readKnown c.grammar rest with
        | .error e => .error e
        | .ok r =>
          if extras.isEmpty && r.extras.isEmpty then .ok ⟨some name, r.values⟩
          else .error (told (.unrecognized (extras ++ r.extras)))

end CommandLine

end Worksheet
