-- Options of tools: letters behind a dash, and words behind two, among the operands.
import Worksheet.Host.Tools.Basic

namespace Worksheet.Host.Tools

open Text (Octets)

/-- What an option has behind it. -/
inductive Taking
  | nothing
  | value
  | perhaps
  deriving DecidableEq, Repr

/-- A word that is an option, and the letter that it stands for. -/
structure LongOption where
  word : String
  taking : Taking
  key : String

/-- The options that a tool knows. Where operands come last, the first of them ends the options. -/
structure Grammar where
  letters : List (Char × Taking)
  words : List LongOption
  operandsLast : Bool
  code : Nat

/-- Letters with marks behind them: one for a value, two for one that may be missing. -/
def lettersOf : List Char → List (Char × Taking)
  | c :: ':' :: ':' :: rest => (c, .perhaps) :: lettersOf rest
  | c :: ':' :: rest => (c, .value) :: lettersOf rest
  | c :: rest => (c, .nothing) :: lettersOf rest
  | [] => []

/-- Words with a mark for a value, each with its letter or key. -/
def longOptions (words : List (String × String)) : List LongOption :=
  words.map fun (w, key) =>
    match w.toList.reverse with
    | '?' :: name => ⟨String.ofList name.reverse, .perhaps, key⟩
    | '=' :: name => ⟨String.ofList name.reverse, .value, key⟩
    | _ => ⟨w, .nothing, key⟩

/-- The options of a tool that lets them stand anywhere. -/
def grammar (letters : String) (words : List (String × String)) : Grammar :=
  ⟨lettersOf letters.toList, longOptions words, false, 1⟩

/-- What has been read: options with their values, latest first, and the operands. -/
structure Options where
  chosen : List (String × Option Octets)
  operands : List Octets

namespace Options

def has (o : Options) (key : String) : Bool := o.chosen.any fun c => c.1 = key

/-- The value of an option; the last one counts. -/
def value? (o : Options) (key : String) : Option Octets := (o.chosen.lookup key).join

/-- All values of an option, in order. -/
def valuesOf (o : Options) (key : String) : List Octets :=
  (o.chosen.reverse.filter fun c => c.1 = key).filterMap (·.2)

/-- The last of some options. -/
def lastOf (o : Options) (keys : List String) : Option String :=
  (o.chosen.find? fun c => keys.contains c.1).map (·.1)

def choose (o : Options) (key : String) (value : Option Octets) : Options :=
  { o with chosen := (key, value) :: o.chosen }

end Options

/-! ## Reading -/

/-- The letters of one word, with the words after it. -/
def readLetters (g : Grammar) (rest : List Octets) :
    Octets → Options → Except String (Options × List Octets)
  | [], o => .ok (o, rest)
  | c :: more, o =>
    let key := String.ofList [c]
    match if c = ':' || c = '-' then none else g.letters.lookup c with
    | none => .error ("invalid option -- '" ++ (Octets.spelled [c]) ++ "'")
    | some .nothing => readLetters g rest more (o.choose key none)
    | some .perhaps => .ok (o.choose key (if more.isEmpty then none else some more), rest)
    | some .value =>
      if !more.isEmpty then .ok (o.choose key (some more), rest)
      else match rest with
        | v :: rest => .ok (o.choose key (some v), rest)
        | [] => .error ("option requires an argument -- '" ++ key ++ "'")

/-- The long options that a word can be short for; one that is written in full is meant. -/
def meant (g : Grammar) (name : String) : List LongOption :=
  match g.words.find? fun w => w.word = name with
  | some w => [w]
  | none => g.words.filter fun w => name.toList.isPrefixOf w.word.toList

/-- A word behind two dashes, with the words after it. -/
def readWord (g : Grammar) (text : Octets) (rest : List Octets) (o : Options) :
    Except String (Options × List Octets) :=
  let name := Octets.spelled (text.takeWhile (· ≠ '='))
  let value := if text.contains '=' then some (text.drop ((text.takeWhile (· ≠ '=')).length + 1))
    else none
  match meant g name with
  | [] => .error ("unrecognized option '--" ++ text.spelled ++ "'")
  | w :: others =>
    if others.any fun v => v.key ≠ w.key || v.taking ≠ w.taking then
      .error ("option '--" ++ text.spelled ++ "' is ambiguous; possibilities:" ++
        String.join ((w :: others).map fun v => " '--" ++ v.word ++ "'"))
    else match w.taking, value, rest with
      | .nothing, some _, _ =>
        .error ("option '--" ++ w.word ++ "' doesn't allow an argument")
      | .nothing, none, rest => .ok (o.choose w.key none, rest)
      | .perhaps, v, rest => .ok (o.choose w.key v, rest)
      | .value, some v, rest => .ok (o.choose w.key (some v), rest)
      | .value, none, v :: rest => .ok (o.choose w.key (some v), rest)
      | .value, none, [] => .error ("option '--" ++ w.word ++ "' requires an argument")

/-- Reads words one after the other; operands are kept latest first. -/
def readWords (g : Grammar) : Nat → Options → List Octets → Except String Options
  | 0, o, _ => .ok o
  | n + 1, o, words =>
    match words with
    | [] => .ok { o with operands := o.operands.reverse }
    | ['-', '-'] :: rest => .ok { o with operands := o.operands.reverse ++ rest }
    | ('-' :: '-' :: text) :: rest =>
      match readWord g text rest o with
      | .error e => .error e
      | .ok (o, rest) => readWords g n o rest
    | ('-' :: c :: more) :: rest =>
      match readLetters g rest (c :: more) o with
      | .error e => .error e
      | .ok (o, rest) => readWords g n o rest
    | w :: rest =>
      if g.operandsLast then .ok { o with operands := o.operands.reverse ++ w :: rest }
      else readWords g n { o with operands := w :: o.operands } rest

/-- The options and operands of a tool; a tool that is not used as it is to be ends here. -/
def options (g : Grammar) (i : Invocation) : Task Options :=
  match readWords g (i.words.length + 1) ⟨[], []⟩ i.words with
  | .ok o => pure o
  | .error message => misuse i g.code message

/-- The operands of a tool that takes so many at least. -/
def needOperands (i : Invocation) (o : Options) (least : Nat) : Task Unit := do
  if o.operands.length < least then
    match o.operands.getLast? with
    | none => misuse i 1 "missing operand"
    | some w => misuse i 1 ("missing operand after " ++ inQuotes w)

/-- The operands of a tool that takes no more than so many. -/
def limitOperands (i : Invocation) (o : Options) (most : Nat) : Task Unit := do
  match o.operands.drop most with
  | [] => pure ()
  | w :: _ => misuse i 1 ("extra operand " ++ inQuotes w)

end Worksheet.Host.Tools
