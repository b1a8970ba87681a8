-- The reader of the command language. It takes one complete command after the other, so that what
-- comes first has been carried out before what comes later is read.
import Worksheet.Host.Shell.Syntax

namespace Worksheet.Host.Shell

open Text (Octets)

/-! ## Tokens -/

inductive Token
  | ended
  | newline
  | semicolon
  | ampersand
  | both
  | either
  | pipe
  | opening
  | closing
  | branchEnd
  | redirection (r : Redirection)
  | word (w : Word)
  | keyword (name : String)

/-- How a message names a token. -/
def Token.described : Token → String
  | ended => "end of file"
  | newline => "newline"
  | semicolon => "\";\""
  | ampersand => "\"&\""
  | both => "\"&&\""
  | either => "\"||\""
  | pipe => "\"|\""
  | opening => "\"(\""
  | closing => "\")\""
  | branchEnd => "\";;\""
  | redirection _ => "redirection"
  | word _ => "word"
  | keyword name => "\"" ++ name ++ "\""

/-- A text that a redirection brings and that is still to be read: its number, the line that ends
it, and how it is written. -/
structure Mark where
  number : Nat
  ending : Octets
  quoted : Bool
  stripTabs : Bool

/-- What is left to read with the number of the line, the last token and whether it is to be read
again, the short names of commands and those that are just being read (with what is left behind
them), whether the next word may be a short name, the texts of redirections (those to be read,
those that have been read, and those that are known from an earlier reading), and whether it is
such a text that is being read. -/
structure Reading where
  rest : Octets
  line : Nat
  last : Token
  isBack : Bool
  aliases : List (Octets × Octets)
  busy : List (Octets × Nat)
  again : Bool
  marks : List Mark
  count : Nat
  texts : List (Nat × Word)
  known : List (Nat × Word)
  inText : Bool

def Reading.ofText (text : Octets) (line : Nat) (aliases : List (Octets × Octets)) : Reading :=
  ⟨text, line, .ended, false, aliases, [], false, [], 0, [], [], false⟩

/-- What a token is looked at for: lines that are empty, reserved words, short names. -/
structure Looking where
  newlines : Bool
  keywords : Bool
  aliases : Bool

namespace Looking

def plain : Looking := ⟨false, false, false⟩
def command : Looking := ⟨false, true, true⟩
def across : Looking := ⟨true, true, true⟩
def branch : Looking := ⟨true, true, false⟩
def assigned : Looking := ⟨false, false, true⟩

end Looking

abbrev Parser := StateT Reading (Except SyntaxFault)

namespace Parser

def backquote : Char := Char.ofNat 0x60

def fail {α : Type} (message : String) : Parser α := do
  throw ⟨(← get).line, "Syntax error: " ++ message⟩

def rest : Parser Octets := return (← get).rest

/-- Goes on behind so many characters. -/
def skip (count : Nat) : Parser Unit :=
  modify fun r => { r with
    rest := r.rest.drop count, line := r.line + (r.rest.take count).count '\n' }

/-- A message has room for so many characters. -/
def messageRoom : Nat := 63

/-- The last token does not fit. -/
def unexpected {α : Type} (expecting : Option Token) : Parser α := do
  let more := match expecting with
    | some t => " (expecting " ++ t.described ++ ")"
    | none => ""
  let text := (← get).last.described ++ " unexpected" ++ more
  fail (String.ofList (text.toList.take messageRoom))

def pushBack : Parser Unit := modify fun r => { r with isBack := true }

def delimiters : List Char := [' ', '\t', '\n', ';', '&', '|', '<', '>', '(', ')']

/-- Characters that end a word. -/
def isDelimiter (c : Char) : Bool := delimiters.contains c

def reserved : List String :=
  ["!", "\x7b", "\x7d", "case", "do", "done", "elif", "else", "esac", "fi", "for", "if", "in", "then",
    "until", "while"]

/-- Skips blanks, continued lines, and a comment. -/
def blanksAfter : Nat → Parser Unit
  | 0 => pure ()
  | n + 1 => do
    match ← rest with
    | ' ' :: _ => skip 1; blanksAfter n
    | '\t' :: _ => skip 1; blanksAfter n
    | '\\' :: '\n' :: _ => skip 2; blanksAfter n
    | '#' :: more => skip (1 + (more.takeWhile (· ≠ '\n')).length); blanksAfter n
    | _ => pure ()

def blanks : Parser Unit := do blanksAfter ((← rest).length + 1)

/-- Continued lines in the middle of something. -/
def joinLines : Nat → Octets → Octets
  | 0, text => text
  | n + 1, '\\' :: '\n' :: more => joinLines n more
  | _ + 1, text => text

/-! ## Parts of words -/

/-- A word that does not end. Between quotes it is the quote that is missing, unless the text of a
redirection is being read. -/
def unended {α : Type} (quoted : Bool) : Parser α := do
  fail (if quoted && !(← get).inText then "Unterminated quoted string" else "Missing '\x7d'")

/-- Adds a character to parts that are kept latest first. -/
def addChar (quoted : Bool) (c : Char) (parts : List Part) : List Part := .text quoted [c] :: parts

/-- Puts a part in front of a word; texts of one kind become one. -/
def join (p : Part) (w : Word) : Word :=
  match p, w with
  | .text a t, .text b u :: rest =>
    if a = b then .text a (t ++ u) :: rest else .text a t :: .text b u :: rest
  | p, w => p :: w

/-- The word of parts that are kept latest first. -/
def finish (parts : List Part) : Word := parts.foldl (fun w p => join p w) []

/-- The text up to the quote that ends it, with what a backslash takes away. -/
def backquoted (quoted : Bool) : Nat → Octets → Parser Octets
  | 0, found => pure found.reverse
  | n + 1, found => do
    match ← rest with
    | [] => fail "EOF in backquote substitution"
    | '\\' :: '\n' :: _ => skip 2; backquoted quoted n found
    | '\\' :: c :: _ =>
      skip 2
      if c = '\\' || c = '$' || c = backquote || quoted && c = '"' then
        backquoted quoted n (c :: found)
      else backquoted quoted n (c :: '\\' :: found)
    | c :: _ =>
      skip 1
      if c = backquote then pure found.reverse else backquoted quoted n (c :: found)

def specialParameters : Octets := "@*#?-$!0123456789".toList

/-- A compound command under redirections. -/
def redirected (line : Nat) (c : Command) : List Redirection → Command
  | [] => c
  | rs => .redirected line c rs

/-- A command in braces under redirections. A subshell has one place for redirections only, so
that those behind the braces take the place of its own. -/
def grouped (line : Nat) : Command → List Redirection → Command
  | .subshell own c _, r :: rs => .subshell own c (r :: rs)
  | c, rs => redirected line c rs

/-- The name of a parameter; nothing if there is none. -/
def parameterName (braced : Bool) : Parser Octets := do
  match ← rest with
  | c :: more =>
    if isNameStart c then
      let name := c :: more.takeWhile isNameChar
      skip name.length
      return name
    else if braced && c.isDigit then
      let name := c :: more.takeWhile Char.isDigit
      skip name.length
      return name
    else if specialParameters.contains c then
      skip 1
      return [c]
    else return []
  | [] => return []

/-- A word without its quotes, and whether it had some. -/
def plainWord : Word → Octets × Bool
  | [] => ([], false)
  | .text q t :: parts => let (r, b) := plainWord parts; (t ++ r, q || b)
  | _ :: parts => plainWord parts

/-- The text of a word that is written without quotes and with nothing to be expanded. -/
def bareWord? : Word → Option Octets
  | [.text false t] => some t
  | _ => none

/-! ## Texts that redirections bring -/

/-- The line goes on behind its end. -/
def isContinued (line : Octets) : Bool := (line.reverse.takeWhile (· = '\\')).length % 2 = 1

/-- The lines of a text up to the one that ends it, those found so far latest first, with what
follows and how many lines have been passed. -/
def bodyLines (m : Mark) : Nat → (fresh : Bool) → List Octets → Nat → Octets →
    Octets × Octets × Nat
  | 0, _, found, passed, text => (found.reverse.flatten, text, passed)
  | n + 1, fresh, found, passed, text =>
    if text.isEmpty then (found.reverse.flatten, [], passed + 1)
    else
      let line := text.takeWhile (· ≠ '\n')
      let isLast := line.length = text.length
      let more := text.drop (line.length + 1)
      let line := if m.stripTabs && fresh then line.dropWhile (· = '\t') else line
      if fresh && line = m.ending then (found.reverse.flatten, more, passed + 1)
      else
        bodyLines m n (m.quoted || !isContinued line)
          ((if isLast then line else line ++ ['\n']) :: found) (passed + 1) more

mutual

/-- What follows a dollar sign. -/
def dollar (quoted : Bool) : Nat → Parser Part
  | 0 => fail "too deep"
  | n + 1 => do
    modify fun r => { r with rest := joinLines r.rest.length r.rest }
    match ← rest with
    | '(' :: '(' :: _ => do
      skip 2
      return .arithmetic quoted (← sum n 0 [])
    | '(' :: _ => do
      skip 1
      let outer ← get
      set { outer with isBack := false, marks := [], inText := false }
      let c ← list n true .across
      match ← token n .plain with
      | .closing =>
        readTexts n (← get).marks.length
        modify fun r => { r with
          isBack := outer.isBack, last := outer.last, marks := outer.marks, inText := outer.inText }
        return .command quoted c
      | _ => unexpected (some .closing)
    | '{' :: _ => skip 1; braced quoted n
    | _ => do
      let name ← parameterName false
      if name.isEmpty then return .text quoted ['$'] else return .parameter quoted name .value

/-- What stands between braces after a dollar sign. -/
def braced (quoted : Bool) : Nat → Parser Part
  | 0 => fail "too deep"
  | n + 1 => do
    let isLength := match ← rest with
      | '#' :: c :: more => if c = '}' then false else
        isNameStart c || c.isDigit || more.head? = some '}'
      | _ => false
    if isLength then
      skip 1
      let name ← parameterName true
      if name.isEmpty then skip 1
      match ← rest with
      | '}' :: _ =>
        skip 1
        return .parameter quoted name (if name.isEmpty then .wrong else .length)
      | _ => do
        let _ ← argument quoted n []
        return .parameter quoted name .wrong
    else
      let name ← parameterName true
      if name.isEmpty then
        let _ ← argument quoted n []
        return .parameter quoted name .wrong
      match ← rest with
      | '}' :: _ => skip 1; return .parameter quoted name .value
      | ':' :: '}' :: _ => skip 2; return .parameter quoted name .value
      | ':' :: sign :: _ =>
        if "-=?+".toList.contains sign then
          skip 2
          return .parameter quoted name (.instead sign true (← argument quoted n []))
        else
          let _ ← argument quoted n []
          return .parameter quoted name .wrong
      | '%' :: '%' :: _ => skip 2; return .parameter quoted name (.trim true true (← argument false n []))
      | '%' :: _ => skip 1; return .parameter quoted name (.trim true false (← argument false n []))
      | '#' :: '#' :: _ => skip 2; return .parameter quoted name (.trim false true (← argument false n []))
      | '#' :: _ => skip 1; return .parameter quoted name (.trim false false (← argument false n []))
      | sign :: _ =>
        if "-=?+".toList.contains sign then
          skip 1
          return .parameter quoted name (.instead sign false (← argument quoted n []))
        else
          let _ ← argument quoted n []
          return .parameter quoted name .wrong
      | [] => unended quoted

/-- A word in braces, up to the closing one. -/
def argument (quoted : Bool) : Nat → List Part → Parser Word
  | 0, _ => fail "too deep"
  | n + 1, parts => do
    match ← rest with
    | [] => unended quoted
    | '}' :: _ => skip 1; return finish parts
    | '\\' :: '\n' :: _ => skip 2; argument quoted n parts
    | '\\' :: c :: _ =>
      skip 2
      if quoted && !"$\"\\\x7d".toList.contains c && c ≠ backquote then
        argument quoted n (addChar true c (addChar true '\\' parts))
      else argument quoted n (addChar true c parts)
    | '\'' :: more =>
      if quoted then skip 1; argument quoted n (addChar true '\'' parts)
      else
        let text := more.takeWhile (· ≠ '\'')
        if text.length = more.length then
          skip (text.length + 1)
          unended true
        else
          skip (text.length + 2)
          argument quoted n (.text true text :: parts)
    | '"' :: _ =>
      skip 1
      if quoted then
        let inner ← innerQuoted n []
        argument quoted n (inner.reverse ++ parts)
      else
        let inner ← quotedParts n []
        argument quoted n (inner.reverse ++ parts)
    | '$' :: _ =>
      skip 1
      let p ← dollar quoted n
      argument quoted n (p :: parts)
    | c :: _ =>
      skip 1
      if c = backquote then
        let p ← old quoted n
        argument quoted n (p :: parts)
      else argument quoted n (addChar quoted c parts)

/-- The parts of an arithmetic expression, up to its two closing brackets. -/
def sum : Nat → Nat → List Part → Parser Word
  | 0, _, _ => fail "too deep"
  | n + 1, depth, parts => do
    match depth, ← rest with
    | _, [] => fail "Missing '))'"
    | _, '\\' :: '\n' :: _ => skip 2; sum n depth parts
    | 0, ')' :: ')' :: _ => skip 2; return finish parts
    | depth, ')' :: _ => skip 1; sum n (depth - 1) (addChar true ')' parts)
    | depth, '(' :: _ => skip 1; sum n (depth + 1) (addChar true '(' parts)
    | depth, '\\' :: c :: _ =>
      skip 2
      if c = '$' || c = '\\' || c = backquote || c = '"' && !(← get).inText then
        sum n depth (addChar true c parts)
      else sum n depth (addChar true c (addChar true '\\' parts))
    | depth, '$' :: _ =>
      skip 1
      let p ← dollar true n
      sum n depth (p :: parts)
    | depth, c :: _ =>
      skip 1
      if c = backquote then
        let p ← old true n
        sum n depth (p :: parts)
      else sum n depth (addChar true c parts)

/-- A command between back quotes, after the first of them. What stands behind the command is
passed over. -/
def old (quoted : Bool) : Nat → Parser Part
  | 0 => fail "too deep"
  | n + 1 => do
    let outer ← get
    let text ← backquoted quoted (outer.rest.length + 1) []
    let after ← get
    let inner : Parser Command := do
      let c ← list n true .across
      readTexts n (← get).marks.length
      return c
    let start : Reading := { after with
      rest := text, line := outer.line, isBack := false, marks := [], busy := [], inText := false }
    match inner.run start with
    | .ok (c, r) =>
      set { after with texts := r.texts, count := r.count }
      return .command quoted c
    | .error e => throw e

/-- Parts between double quotes, after the first of them; they are kept latest first. A pair of
quotes around nothing is a part too, but not one around all arguments. -/
def quotedParts : Nat → List Part → Parser Word
  | 0, _ => fail "too deep"
  | n + 1, parts => do
    match ← rest with
    | [] => unended true
    | '"' :: _ =>
      skip 1
      match parts with
      | [.parameter true ['@'] .value] => return parts
      | parts => return finish (parts ++ [.text true []])
    | '\\' :: '\n' :: _ => skip 2; quotedParts n parts
    | '\\' :: c :: _ =>
      if "$\"\\".toList.contains c || c = backquote then
        skip 2
        quotedParts n (addChar true c parts)
      else
        skip 1
        quotedParts n (addChar true '\\' parts)
    | '$' :: _ =>
      skip 1
      let p ← dollar true n
      quotedParts n (p :: parts)
    | c :: _ =>
      skip 1
      if c = backquote then
        let p ← old true n
        quotedParts n (p :: parts)
      else quotedParts n (addChar true c parts)

/-- Parts between double quotes that stand in braces between double quotes. A closing brace is a
plain character there. -/
def innerQuoted : Nat → List Part → Parser Word
  | 0, _ => fail "too deep"
  | n + 1, parts => do
    match ← rest with
    | [] => unended true
    | '"' :: _ => skip 1; return finish parts
    | '\\' :: '\n' :: _ => skip 2; innerQuoted n parts
    | '\\' :: c :: _ =>
      skip 2
      if "$\"\\\x7d".toList.contains c || c = backquote then innerQuoted n (addChar true c parts)
      else innerQuoted n (addChar true c (addChar true '\\' parts))
    | '$' :: _ =>
      skip 1
      let p ← dollar true n
      innerQuoted n (p :: parts)
    | c :: _ =>
      skip 1
      if c = backquote then
        let p ← old true n
        innerQuoted n (p :: parts)
      else innerQuoted n (addChar true c parts)

/-- The parts of a text that a redirection brings. -/
def bodyParts : Nat → List Part → Parser Word
  | 0, _ => fail "too deep"
  | n + 1, parts => do
    match ← rest with
    | [] => return finish parts
    | '\\' :: '\n' :: _ => skip 2; bodyParts n parts
    | '\\' :: c :: _ =>
      if c = '$' || c = '\\' || c = backquote then
        skip 2
        bodyParts n (addChar true c parts)
      else
        skip 1
        bodyParts n (addChar true '\\' parts)
    | '$' :: _ =>
      skip 1
      let p ← dollar true n
      bodyParts n (p :: parts)
    | c :: _ =>
      skip 1
      if c = backquote then
        let p ← old true n
        bodyParts n (p :: parts)
      else bodyParts n (addChar true c parts)

/-- A word; its parts are kept latest first. In the mark of a text nothing is expanded. -/
def word (literal : Bool) : Nat → List Part → Parser Word
  | 0, _ => fail "too deep"
  | n + 1, parts => do
    match ← rest with
    | [] => return finish parts
    | '\\' :: '\n' :: _ => skip 2; word literal n parts
    | ['\\'] => skip 1; return finish (addChar true '\\' parts)
    | '\\' :: c :: _ => skip 2; word literal n (addChar true c parts)
    | '\'' :: more =>
      let text := more.takeWhile (· ≠ '\'')
      if text.length = more.length then
        skip (text.length + 1)
        fail "Unterminated quoted string"
      else
        skip (text.length + 2)
        word literal n (.text true text :: parts)
    | '"' :: _ =>
      skip 1
      let inner ← quotedParts n []
      word literal n (inner.reverse ++ parts)
    | '$' :: _ =>
      skip 1
      if literal then word literal n (addChar false '$' parts)
      else
        let p ← dollar false n
        word literal n (p :: parts)
    | c :: _ =>
      if isDelimiter c then return finish parts
      else
        skip 1
        if c = backquote && !literal then
          let p ← old false n
          word literal n (p :: parts)
        else word literal n (addChar false c parts)

/-- The texts of the redirections before a line end. -/
def readTexts : Nat → Nat → Parser Unit
  | 0, _ => fail "too deep"
  | _ + 1, 0 => pure ()
  | n + 1, left + 1 => do
    let r ← get
    match r.marks with
    | [] => pure ()
    | m :: marks =>
      let (body, after, passed) := bodyLines m (r.rest.length + 1) true [] 0 r.rest
      let w ← if m.quoted then pure [Part.text true body] else do
        match (bodyParts n []).run
            { r with rest := body, isBack := false, marks := [], inText := true } with
        | .ok (w, r') =>
          modify fun r => { r with texts := r'.texts, count := r'.count }
          pure w
        | .error e => throw e
      modify fun r' => { r' with
        rest := after, line := r.line + passed, marks := marks, texts := (m.number, w) :: r'.texts }
      readTexts n left

/-- The operator of a redirection, from its first sign: the width, the usual descriptor and the
direction, or for a text whether tabs are stripped. -/
def redirectionAt (text : Octets) : Option (Nat × Nat × Direction × Bool) :=
  match text with
  | '<' :: '<' :: '-' :: _ => some (3, 0, .text, true)
  | '<' :: '<' :: _ => some (2, 0, .text, false)
  | '<' :: '&' :: _ => some (2, 0, .copy, false)
  | '<' :: '>' :: _ => some (2, 0, .both, false)
  | '<' :: _ => some (1, 0, .input, false)
  | '>' :: '>' :: _ => some (2, 1, .append, false)
  | '>' :: '&' :: _ => some (2, 1, .copy, false)
  | '>' :: '|' :: _ => some (2, 1, .replace, false)
  | '>' :: _ => some (1, 1, .output, false)
  | _ => none

/-- A redirection, from its operator. -/
def redirection (descriptor : Option Nat) : Nat → Nat × Nat × Direction × Bool → Parser Token
  | 0, _ => fail "too deep"
  | n + 1, (width, usual, direction, stripTabs) => do
    skip width
    blanks
    let w ← word (direction = .text) n []
    if w.isEmpty then
      let _ ← token n .plain
      unexpected none
    else if direction = .text then
      let (ending, quoted) := plainWord w
      let r ← get
      set { r with
        marks := r.marks ++ [Mark.mk r.count ending quoted stripTabs], count := r.count + 1 }
      let body := (r.known.lookup r.count).getD []
      return .redirection (.redirection (descriptor.getD usual) .text body)
    else return .redirection (.redirection (descriptor.getD usual) direction w)

/-- The next token as it is written. -/
def rawToken : Nat → Parser Token
  | 0 => fail "too deep"
  | n + 1 => do
    blanks
    let operator (width : Nat) (t : Token) : Parser Token := do
      skip width
      return t
    match ← rest with
    | [] => return .ended
    | '\n' :: _ => operator 1 .newline
    | '&' :: '&' :: _ => operator 2 .both
    | '&' :: _ => operator 1 .ampersand
    | '|' :: '|' :: _ => operator 2 .either
    | '|' :: _ => operator 1 .pipe
    | ';' :: ';' :: _ => operator 2 .branchEnd
    | ';' :: _ => operator 1 .semicolon
    | '(' :: _ => operator 1 .opening
    | ')' :: _ => operator 1 .closing
    | c :: more =>
      match redirectionAt (c :: more), redirectionAt more with
      | some found, _ => redirection none n found
      | none, some found =>
        if c.isDigit then
          skip 1
          redirection (some (c.toNat - '0'.toNat)) n found
        else return .word (← word false n [])
      | none, none => return .word (← word false n [])

/-- Skips empty lines; the texts that redirections have asked for stand before them. -/
def pastNewlines (looking : Looking) : Nat → Token → Parser Token
  | 0, _ => fail "too deep"
  | n + 1, t => do
    match t with
    | .newline =>
      if looking.newlines then
        readTexts n (← get).marks.length
        pastNewlines looking n (← rawToken n)
      else return t
    | t => return t

/-- The next token, looked at for what can stand here. -/
def token : Nat → Looking → Parser Token
  | 0, _ => fail "too deep"
  | n + 1, looking => do
    let before ← get
    let first ← if before.isBack then do
        set { before with isBack := false }
        pure before.last
      else rawToken n
    let t ← pastNewlines looking n first
    let again := before.again
    modify fun r => { r with last := t, again := false }
    match t with
    | .word w =>
      match bareWord? w with
      | none => return t
      | some text =>
        let name := String.ofList text
        if looking.keywords && reserved.contains name then
          modify fun r => { r with last := .keyword name }
          return .keyword name
        else
          let r ← get
          let free := !r.busy.any fun (b, left) => b = text && left ≤ r.rest.length
          match r.aliases.lookup text with
          | some value =>
            if (looking.aliases || again) && free then
              let blank := value.getLast? = some ' ' || value.getLast? = some '\t'
              set { r with
                rest := value ++ r.rest, busy := (text, r.rest.length) :: r.busy, again := blank }
              token n looking
            else return t
          | none => return t
    | t => return t

-- Commands

/-- The redirections that follow a command. -/
def redirections : Nat → List Redirection → Parser (List Redirection)
  | 0, _ => fail "too deep"
  | n + 1, found => do
    match ← token n .command with
    | .redirection r => redirections n (found ++ [r])
    | _ =>
      pushBack
      return found

/-- A command of words, with the assignments in front of it. -/
def simple (line : Nat) :
    Nat → List (Octets × Word) → List Word → List Redirection → Parser Command
  | 0, _, _, _ => fail "too deep"
  | n + 1, assignments, words, rs => do
    match ← token n (if words.isEmpty then .assigned else .plain) with
    | .word w =>
      match words, assignment? w with
      | [], some a => simple line n (assignments ++ [a]) [] rs
      | words, _ => simple line n assignments (words ++ [w]) rs
    | .redirection r => simple line n assignments words (rs ++ [r])
    | .opening =>
      match words, assignments, rs with
      | [w], [], [] => definition n w
      | _, _, _ => do
        pushBack
        return .simple line assignments words rs
    | _ => do
      pushBack
      return .simple line assignments words rs

/-- A definition of a function, after the bracket behind its name. -/
def definition : Nat → Word → Parser Command
  | 0, _ => fail "too deep"
  | n + 1, w => do
    match ← token n .plain with
    | .closing => do
      let name := (bareWord? w).getD []
      if !isName name || specialNames.contains (String.ofList name) then fail "Bad function name"
      else
        let _ ← token n .across
        pushBack
        let line := (← get).line
        return .function line name (← command n)
    | _ => unexpected (some .closing)

/-- The words of a loop, up to the end of the line. -/
def loopWords : Nat → List Word → Parser (List Word)
  | 0, _ => fail "too deep"
  | n + 1, found => do
    match ← token n .plain with
    | .word w => loopWords n (found ++ [w])
    | .newline => return found
    | .semicolon => return found
    | _ => unexpected none

/-- The patterns of a branch, up to the bracket that ends them. -/
def patterns : Nat → List Word → Parser (List Word)
  | 0, _ => fail "too deep"
  | n + 1, found => do
    let w : Word := match (← get).last with
      | .word w => w
      | .keyword name => [.text false name.toList]
      | _ => []
    match ← token n .plain with
    | .pipe => do
      let _ ← token n .plain
      patterns n (found ++ [w])
    | .closing => return found ++ [w]
    | _ => unexpected (some .closing)

def branches : Nat → List (List Word × Command) → Parser (List (List Word × Command))
  | 0, _ => fail "too deep"
  | n + 1, found => do
    match ← token n .branch with
    | .keyword "esac" => return found
    | t => do
      match t with
      | .opening => do
        let _ ← token n .plain
      | _ => pure ()
      let ps ← patterns n []
      let body ← list n true .across
      match ← token n .branch with
      | .keyword "esac" => return found ++ [(ps, body)]
      | .branchEnd => branches n (found ++ [(ps, body)])
      | _ => unexpected (some .branchEnd)

/-- What follows the first branch of a condition, up to its last word. -/
def otherwise : Nat → Parser Command
  | 0 => fail "too deep"
  | n + 1 => do
    match ← token n .plain with
    | .keyword "elif" => do
      let test ← block n
      expect n "then"
      let yes ← block n
      return .conditional test yes (← otherwise n)
    | .keyword "else" => do
      let no ← block n
      expect n "fi"
      return no
    | .keyword "fi" => return .nothing
    | _ => unexpected (some (.keyword "fi"))

def expect : Nat → String → Parser Unit
  | 0, _ => fail "too deep"
  | n + 1, name => do
    match ← token n .plain with
    | .keyword found => if found = name then pure () else unexpected (some (.keyword name))
    | _ => unexpected (some (.keyword name))

/-- The commands of a block; there is at least one. -/
def block : Nat → Parser Command
  | 0 => fail "too deep"
  | n + 1 => list n false .across

/-- A compound command or a simple one. -/
def command : Nat → Parser Command
  | 0 => fail "too deep"
  | n + 1 => do
    let line := (← get).line
    let compound (c : Command) : Parser Command := do
      return redirected line c (← redirections n [])
    match ← token n .plain with
    | .opening => do
      let c ← block n
      match ← token n .plain with
      | .closing => return .subshell line c (← redirections n [])
      | _ => unexpected (some .closing)
    | .keyword "\x7b" => do
      let c ← block n
      expect n "\x7d"
      return grouped line c (← redirections n [])
    | .keyword "if" => do
      let test ← block n
      expect n "then"
      let yes ← block n
      compound (.conditional test yes (← otherwise n))
    | .keyword "while" => do
      let test ← block n
      expect n "do"
      let body ← block n
      expect n "done"
      compound (.loop true test body)
    | .keyword "until" => do
      let test ← block n
      expect n "do"
      let body ← block n
      expect n "done"
      compound (.loop false test body)
    | .keyword "for" => do
      let name := match ← token n .plain with
        | .word w => (bareWord? w).getD []
        | _ => []
      if !isName name then fail "Bad for loop variable"
      else
        let words ← do
          match ← token n .across with
          | .keyword "in" => pure (some (← loopWords n []))
          | .semicolon => pure none
          | _ => do
            pushBack
            pure none
        match ← token n .across with
        | .keyword "do" => do
          let body ← block n
          expect n "done"
          compound (.each line name words body)
        | _ => unexpected (some (.keyword "do"))
    | .keyword "case" => do
      match ← token n .plain with
      | .word w => do
        match ← token n .across with
        | .keyword "in" => compound (.choice line w (← branches n []))
        | _ => unexpected (some (.keyword "in"))
      | _ => unexpected (some (.word []))
    | .word _ => do
      pushBack
      simple (← get).line n [] [] []
    | .redirection _ => do
      pushBack
      simple (← get).line n [] [] []
    | _ => unexpected none

/-- The further stages of a pipeline. -/
def stages : Nat → List Command → Parser Command
  | 0, _ => fail "too deep"
  | n + 1, found => do
    match ← token n .plain with
    | .pipe => do
      let _ ← token n .across
      pushBack
      stages n (found ++ [← command n])
    | _ => do
      pushBack
      match found with
      | [c] => return c
      | found => return .pipeline found

def pipeline : Nat → Parser Command
  | 0 => fail "too deep"
  | n + 1 => do
    match ← token n .plain with
    | .keyword "!" => do
      let _ ← token n .command
      pushBack
      return .negated (← stages n [← command n])
    | _ => do
      pushBack
      stages n [← command n]

/-- Pipelines that depend on each other, after one that has been read. -/
def chain : Nat → Command → Parser Command
  | 0, _ => fail "too deep"
  | n + 1, c => do
    match ← token n .plain with
    | .both => do
      let _ ← token n .across
      pushBack
      chain n (.both c (← pipeline n))
    | .either => do
      let _ ← token n .across
      pushBack
      chain n (.either c (← pipeline n))
    | _ => do
      pushBack
      return c

/-- A token that ends a block. -/
def endsBlock : Token → Bool
  | .ended => true
  | .closing => true
  | .branchEnd => true
  | .keyword name => ["\x7d", "do", "done", "elif", "else", "esac", "fi", "then"].contains name
  | _ => false

/-- Commands up to the end of a block, or of a line where the look is not across lines. The flag
says whether there may be none. -/
def items (looking : Looking) : Nat → (mayEnd : Bool) → Command → Parser Command
  | 0, _, _ => fail "too deep"
  | n + 1, mayEnd, before => do
    match ← token n looking with
    | .newline => do
      readTexts n (← get).marks.length
      return before
    | t =>
      pushBack
      match t with
      | .ended => do
        readTexts n (← get).marks.length
        return before
      | _ =>
        if mayEnd && looking.newlines && endsBlock t then return before
        let c ← chain n (← pipeline n)
        let join (c : Command) : Command := match before with
          | .nothing => c
          | b => .sequence b c
        match ← token n .plain with
        | .ampersand => items looking n true (join (.background c))
        | .semicolon => items looking n true (join c)
        | .newline => do
          pushBack
          items looking n true (join c)
        | .ended => do
          readTexts n (← get).marks.length
          pushBack
          return join c
        | _ =>
          if looking.newlines then
            pushBack
            return join c
          else unexpected none

/-- The commands of a block. -/
def list : Nat → (mayBeEmpty : Bool) → Looking → Parser Command
  | 0, _, _ => fail "too deep"
  | n + 1, mayBeEmpty, looking => items looking n mayBeEmpty .nothing

end

/-! ## Complete commands -/

/-- How deep a text can be read. -/
def depth (text : Octets) : Nat := 12 * text.length + 200

/-- The commands of the next line, and whether the script ends with them; nothing at the end. -/
def line : Parser (Option (Command × Bool)) := do
  let text ← rest
  let first ← token (depth text) .command
  match first with
  | .ended => return none
  | _ =>
    pushBack
    let c ← list (depth text) false .command
    let atEnd := match (← get).last with
      | .ended => true
      | _ => false
    return some (c, atEnd)

/-- The commands of the next line. Where redirections bring texts, these are found by a first
reading and put in their places by a second one. -/
def complete : Parser (Option (Command × Bool)) := do
  modify fun r => { r with isBack := false, marks := [], count := 0, texts := [], known := [] }
  let start ← get
  let found ← line
  let r ← get
  if r.texts.isEmpty then return found
  else
    set { start with known := r.texts }
    line

end Parser

end Worksheet.Host.Shell
