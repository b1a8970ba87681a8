-- Text templates. A template is text with tags in it: a value tag stands for a text, and block tags
-- repeat what stands between them, leave it out, or give a value a name. The line break behind a
-- block tag and the indent in front of it belong to the tag, and so does the last line break of all.
import Worksheet.Text.Digit
import Worksheet.Text.Split

namespace Worksheet

namespace Template

/-! ## Values -/

/-- What a name can stand for. Only some records have a text of their own. -/
inductive Value
  | nothing
  | number (n : Int)
  | text (points : Text.Points)
  | list (items : List Value)
  | record (shown : Option String) (fields : List (String × Value))

/-- The names that are known, the latest first. -/
abbrev Scope := List (String × Value)

namespace Value

/-- Nothing, zero, and what is empty do not hold. -/
def holds : Value → Bool
  | nothing => false
  | number n => n ≠ 0
  | text points => !points.isEmpty
  | list items => !items.isEmpty
  | record .. => true

/-- The text that a value tag puts in. -/
def points? : Value → Option Text.Points
  | number n => some (.ofString (toString n))
  | text points => some points
  | record (some shown) _ => some (.ofString shown)
  | _ => none

def field? (name : String) : Value → Option Value
  | record _ fields => fields.lookup name
  | _ => none

def items? : Value → Option (List Value)
  | list items => some items
  | _ => none

/-- Whether two numbers are the same. -/
def same? : Value → Value → Option Bool
  | number m, number n => some (m = n)
  | _, _ => none

end Value

/-! ## Expressions -/

inductive Expression
  | path (name : String) (fields : List String)
  | size (name : String) (fields : List String)
  | number (n : Nat)
  | literal (text : String)
  | choice (first left right second : Expression)
  deriving DecidableEq, Repr

namespace Expression

def pathValue? (s : Scope) (name : String) (fields : List String) : Option Value := do
  fields.foldlM (fun v field => v.field? field) (← s.lookup name)

/-- A choice is its first part if the two in its middle are the same, and else its last one. -/
def value? (s : Scope) : Expression → Option Value
  | path name fields => pathValue? s name fields
  | size name fields =>
    (pathValue? s name fields).bind fun v => v.items?.map fun items => .number items.length
  | number n => some (.number n)
  | literal text => some (.text (.ofString text))
  | choice first left right second => do
    if ← (← left.value? s).same? (← right.value? s) then first.value? s else second.value? s

@[simp] theorem value?_path (s : Scope) (name : String) (fields : List String) :
    (path name fields).value? s = pathValue? s name fields := rfl

@[simp] theorem value?_size (s : Scope) (name : String) (fields : List String) :
    (size name fields).value? s = (pathValue? s name fields).bind fun v =>
      v.items?.map fun items => .number items.length := rfl

/-! ### Reading -/

/-- The words that are no names. -/
def reserved : List String :=
  ["and", "else", "false", "if", "in", "is", "loop", "none", "not", "or", "self", "super", "true",
    "False", "None", "True"]

/-- Letters, digits and low lines, the first of which is no digit. -/
def isName : List Char → Bool
  | [] => false
  | c :: cs =>
    !c.isDigit && (c :: cs).all (fun d => d.isAlphanum || d = '_') &&
      !reserved.contains (String.ofList (c :: cs))

/-- A path is names with points between them. -/
def ofPath? (make : String → List String → Expression) (cs : List Char) : Option Expression :=
  match Text.split '.' cs with
  | name :: fields =>
    if (name :: fields).all isName then
      some (make (String.ofList name) (fields.map String.ofList))
    else none
  | [] => none

/-- Only letters can stand in a text in quotes. -/
def ofQuoted? (cs : List Char) : Option Expression :=
  if cs.getLast? = some '"' && cs.dropLast.all Char.isAlpha then
    some (.literal (String.ofList cs.dropLast))
  else none

def isNumber (cs : List Char) : Bool :=
  !cs.isEmpty && cs.all Char.isDigit && (cs.head? ≠ some '0' || cs.length = 1)

/-- A text in quotes, a number, a path, or the length of what a path leads to. -/
def ofWord? : List Char → Option Expression
  | '"' :: cs => ofQuoted? cs
  | cs =>
    if isNumber cs then some (.number (Text.digitsValue cs))
    else match Text.split '|' cs with
      | [p] => ofPath? path p
      | [p, ['l', 'e', 'n', 'g', 't', 'h']] => ofPath? size p
      | _ => none

def ofWords? : List (List Char) → Option Expression
  | [word] => ofWord? word
  | [first, ['i', 'f'], left, ['=', '='], right, ['e', 'l', 's', 'e'], second] => do
    some (.choice (← ofWord? first) (← ofWord? left) (← ofWord? right) (← ofWord? second))
  | _ => none

end Expression

end Template

/-! ## Templates -/

inductive Template
  | done
  | text (cs : List Char) (rest : Template)
  | value (e : Template.Expression) (rest : Template)
  | set (name : String) (e : Template.Expression) (rest : Template)
  | when (e : Template.Expression) (body rest : Template)
  | each (name : String) (e : Template.Expression) (body rest : Template)
  deriving DecidableEq, Repr

namespace Template

/-- The text that a template makes of what is known. -/
def fill? : Template → Scope → Option Text.Points
  | done, _ => some []
  | text cs rest, s => do
    some (.ofChars cs ++ (← rest.fill? s))
  | value e rest, s => do
    some ((← (← e.value? s).points?) ++ (← rest.fill? s))
  | set name e rest, s => do
    rest.fill? ((name, ← e.value? s) :: s)
  | .when e body rest, s => do
    let inside ← if (← e.value? s).holds then body.fill? s else some []
    some (inside ++ (← rest.fill? s))
  | each name e body rest, s => do
    let items ← (← e.value? s).items?
    let inside ← items.mapM fun v => body.fill? ((name, v) :: s)
    some (inside.flatten ++ (← rest.fill? s))

/-! ## Pieces -/

/-- A piece of a template: text, or the words in a tag. -/
inductive Piece
  | text (cs : List Char)
  | value (words : List (List Char))
  | block (words : List (List Char))
  deriving DecidableEq, Repr

/-- Where a reader of a template is: in text, of which it may be the beginning of a line, or in a
tag. -/
inductive Spot
  | text (beginsLine : Bool)
  | value
  | block
  deriving DecidableEq, Repr

/-- A text (latest first) without the indent at its end. Blanks that have something in front of them
on their line are none. -/
def withoutIndent (beginsLine : Bool) (found : List Char) : List Char :=
  match found.dropWhile fun c => c = ' ' || c = '\t' with
  | [] => if beginsLine then [] else found
  | '\n' :: rest => '\n' :: rest
  | _ => found

/-- The words of what stands in a tag (latest first). -/
def words (found : List Char) : List (List Char) :=
  (Text.split ' ' found.reverse).filter (· ≠ [])

/-- The pieces from here on, where `found` (latest first) has been read of the first. A tag has to
be closed, and there are no comments. -/
def pieces? : Spot → List Char → List Char → Option (List Piece)
  | .text _, found, [] => some [.text found.reverse]
  | .text _, found, '\x7b' :: '\x7b' :: rest =>
    (pieces? .value [] rest).map (.text found.reverse :: ·)
  | .text beginsLine, found, '\x7b' :: '%' :: rest =>
    (pieces? .block [] rest).map (.text (withoutIndent beginsLine found).reverse :: ·)
  | .text _, _, '\x7b' :: '#' :: _ => none
  | .value, found, '\x7d' :: '\x7d' :: rest =>
    (pieces? (.text false) [] rest).map (.value (words found) :: ·)
  | .block, found, '%' :: '\x7d' :: '\n' :: rest =>
    (pieces? (.text true) [] rest).map (.block (words found) :: ·)
  | .block, found, '%' :: '\x7d' :: rest =>
    (pieces? (.text false) [] rest).map (.block (words found) :: ·)
  | spot, found, c :: rest => pieces? spot (c :: found) rest
  | _, _, [] => none

/-! ## Nesting -/

/-- The tag that ends a block. -/
inductive Ending
  | endIf
  | endFor
  deriving DecidableEq, Repr

/-- A template from here on, and the ones behind the end tags that have not been begun yet. -/
abbrev Open := Template × List (Ending × Template)

/-- A block tag in front of what has been read. Only outside of all blocks can a value be given a
name. -/
def addBlock? (words : List (List Char)) : Open → Option Open
  | (body, outer) =>
    match words, outer with
    | [['e', 'n', 'd', 'i', 'f']], _ => some (.done, (.endIf, body) :: outer)
    | [['e', 'n', 'd', 'f', 'o', 'r']], _ => some (.done, (.endFor, body) :: outer)
    | ['i', 'f'] :: test, (.endIf, rest) :: outer => do
      some (.when (← Expression.ofWords? test) body rest, outer)
    | ['f', 'o', 'r'] :: name :: ['i', 'n'] :: items, (.endFor, rest) :: outer =>
      if Expression.isName name then
        (Expression.ofWords? items).map fun e => (.each (String.ofList name) e body rest, outer)
      else none
    | ['s', 'e', 't'] :: name :: ['='] :: given, [] =>
      if Expression.isName name then
        (Expression.ofWords? given).map fun e => (.set (String.ofList name) e body, [])
      else none
    | _, _ => none

def addPiece? : Piece → Open → Option Open
  | .text [], found => some found
  | .text cs, (rest, outer) => some (.text cs rest, outer)
  | .value words, (rest, outer) => do
    some (.value (← Expression.ofWords? words) rest, outer)
  | .block words, found => addBlock? words found

/-- Visible characters, blanks, tabs and line feeds. -/
def isPlain (c : Char) : Bool := c = '\n' || c = '\t' || (0x20 ≤ c.toNat && c.toNat < 0x7F)

/-- The template of a plain text, whose last line break is dropped. Every block has to be ended. -/
def ofChars? (cs : List Char) : Option Template :=
  let cs := if cs.getLast? = some '\n' then cs.dropLast else cs
  if cs.all isPlain then
    match (pieces? (.text true) [] cs).bind fun pieces => pieces.foldrM addPiece? (.done, []) with
    | some (template, []) => some template
    | _ => none
  else none

/-! ## Engines -/

/-- What makes texts of templates and of what is known. -/
abbrev Engine := List Char → Scope → Option Text.Points

/-- An engine that has the templates described here, and maybe others. -/
def Engine.Follows (engine : Engine) : Prop :=
  ∀ cs template s points, ofChars? cs = some template → template.fill? s = some points →
    engine cs s = some points

/-- An engine without any others. -/
def fillChars? : Engine := fun cs s => do
  (← ofChars? cs).fill? s

theorem follows_fillChars? : Engine.Follows fillChars? := by
  intro cs template s points hread hfill
  unfold fillChars?
  rw [hread]
  exact hfill

/-! ## Tags -/

def valueTag (inside : String) : List Char :=
  "\x7b\x7b ".toList ++ inside.toList ++ " \x7d\x7d".toList

def blockTag (inside : String) : List Char :=
  "\x7b% ".toList ++ inside.toList ++ " %\x7d".toList

end Template

end Worksheet
