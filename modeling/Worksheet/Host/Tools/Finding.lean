-- The search for files in trees, with an expression that says what is to be found and what is to be
-- done with it.
import Worksheet.Host.Program
import Worksheet.Host.Tools.Commands
import Worksheet.Host.Tools.Finding.Format
import Worksheet.Host.Tools.Glob
import Worksheet.Host.Tools.Regex

namespace Worksheet.Host.Tools

open Text (Octets)

namespace Finding

/-! ## Expressions -/

/-- A number that is met, exceeded or not reached. -/
structure Bound where
  side : Ordering
  number : Nat

def Bound.admits (b : Bound) (n : Nat) : Bool := compare n b.number = b.side

/-- What is asked of a file, or done with it. -/
inductive Test
  | constant (value : Bool)
  | name (pattern : Octets) (fold whole : Bool)
  | linkName (pattern : Octets) (fold : Bool)
  | regex (pattern : Regex) (fold : Bool)
  | kinds (letters : List Char)
  | size (bound : Bound) (unit : Nat)
  | links (bound : Bound)
  | age (bound : Bound) (unit : Nat)
  | newer (time : Int)
  | same (name : Octets)
  | empty
  | access (letter : Char)
  | mode (how : Char) (plain tree : Mode)
  | print (mark : Char)
  | printf (parts : List Part)
  | long
  | delete
  | prune
  | quit
  | run (words : List Octets) (inside asking : Bool)
  | gather (number : Nat)

inductive Expression
  | test (t : Test)
  | negation (e : Expression)
  | both (a b : Expression)
  | either (a b : Expression)
  | sequence (a b : Expression)

/-- What holds for the whole search: depths, the order, whether links are followed, everywhere or
where the search begins, the commands that are given many names at once, and what there is to warn
of. -/
structure Search where
  least : Nat
  most : Option Nat
  depthFirst : Bool
  follow : Bool
  followRoots : Bool
  acting : Bool
  gathered : List (List Octets)
  warnings : List String

/-! ## Reading -/

/-- An expression that has been read, with what holds for the whole search and the words after it.
-/
abbrev Found := Expression × Search × List Octets

/-- A number with a sign that says on which side of it others may be. -/
def bound? (text : Octets) : Option Bound :=
  match text with
  | '+' :: ds => (digits? ds).map fun n => ⟨.gt, n⟩
  | '-' :: ds => (digits? ds).map fun n => ⟨.lt, n⟩
  | ds => (digits? ds).map fun n => ⟨.eq, n⟩

/-- Units of sizes by their letter. -/
def sizeUnits : List (Char × Nat) :=
  [('c', 1), ('w', 2), ('b', 512), ('k', 1024), ('M', 1048576), ('G', 1073741824)]

def sizeTest (text : Octets) : Except String Test :=
  let (body, unit) := match text.getLast?.bind fun c => (sizeUnits.lookup c) with
    | some unit => (text.dropLast, unit)
    | none => (text, 512)
  match bound? body with
  | some b => .ok (.size b unit)
  | none => .error ("invalid -size type " ++ shownMark text)

def kindTest (text : Octets) : Except String Test :=
  let letters := text.filter (· ≠ ',')
  if letters.isEmpty then .error "Arguments to -type should contain at least one letter"
  else match letters.find? fun c => !"bcdpflsD".toList.contains c with
    | some c => .error ("Unknown argument to -type: " ++ Octets.spelled [c])
    | none => .ok (.kinds letters)

def depthOf (option text : Octets) : Except String Nat :=
  match digits? text with
  | some n => .ok n
  | none => .error ("Expected a positive decimal integer argument to " ++ option.spelled ++
      ", but got " ++ inQuotes text)

def regexTest (text : Octets) (fold : Bool) : Except String Test :=
  match Regex.ofText ⟨false, true⟩ text with
  | .ok (r, _, _) => .ok (.regex r fold)
  | .error f => .error f.message

/-- Tests with a word behind them. -/
def wordTest (times : Octets → Option Int) (option text : Octets) : Option (Except String Test) :=
  let number (make : Bound → Test) : Option (Except String Test) :=
    some (match bound? text with
      | some b => .ok (make b)
      | none => .error ("invalid argument " ++ shownMark text ++ " to " ++ shownMark option))
  match option.spelled with
  | "-name" => some (.ok (.name text false false))
  | "-iname" => some (.ok (.name text true false))
  | "-path" => some (.ok (.name text false true))
  | "-wholename" => some (.ok (.name text false true))
  | "-ipath" => some (.ok (.name text true true))
  | "-iwholename" => some (.ok (.name text true true))
  | "-lname" => some (.ok (.linkName text false))
  | "-ilname" => some (.ok (.linkName text true))
  | "-regex" => some (regexTest text false)
  | "-iregex" => some (regexTest text true)
  | "-type" => some (kindTest text)
  | "-size" => some (sizeTest text)
  | "-links" => number .links
  | "-mtime" => number fun b => .age b 86400
  | "-ctime" => number fun b => .age b 86400
  | "-atime" => number fun b => .age b 86400
  | "-mmin" => number fun b => .age b 60
  | "-cmin" => number fun b => .age b 60
  | "-amin" => number fun b => .age b 60
  | "-newer" => some (match times text with
      | some t => .ok (.newer t)
      | none => .error (inQuotes text ++ ": " ++ Errno.noEntry.text))
  | "-samefile" => some (.ok (.same text))
  | "-user" => some (.ok (.constant (text = word "root" || text = ['0'])))
  | "-group" => some (.ok (.constant (text = word "root" || text = ['0'])))
  | "-uid" => some (.ok (.constant (text = ['0'])))
  | "-gid" => some (.ok (.constant (text = ['0'])))
  | "-inum" => some (.ok (.constant false))
  | "-perm" =>
    let (how, rest) : Char × Octets := match text with
      | '-' :: rest => ('-', rest)
      | '/' :: rest => ('/', rest)
      | text => ('=', text)
    some (match Modes.changes? rest with
      | some changes => .ok (.mode how (Modes.apply false 0 0 changes) (Modes.apply true 0 0 changes))
      | none => .error ("invalid mode " ++ inQuotes text))
  | "-printf" => some ((Format.read (text.length + 1) text).map fun f => .printf f.parts)
  | _ => none

/-- Tests of one word. -/
def plainTests : List (String × Test) :=
  [("-true", .constant true), ("-false", .constant false), ("-empty", .empty),
    ("-readable", .access 'r'), ("-writable", .access 'w'), ("-executable", .access 'x'),
    ("-print", .print '\n'), ("-print0", .print (Char.ofNat 0)), ("-ls", .long),
    ("-delete", .delete), ("-prune", .prune), ("-quit", .quit), ("-nouser", .constant false),
    ("-nogroup", .constant false)]

/-- Words that change nothing that can be seen. -/
def idleWords : List String :=
  ["-xdev", "-mount", "-noleaf", "-daystart", "-warn", "-nowarn", "-ignore_readdir_race",
    "-noignore_readdir_race"]

def wordTests : List String :=
  ["-name", "-iname", "-path", "-wholename", "-ipath", "-iwholename", "-lname", "-ilname", "-regex",
    "-iregex", "-type", "-size", "-links", "-mtime", "-ctime", "-atime", "-mmin", "-cmin", "-amin",
    "-newer", "-samefile", "-user", "-group", "-uid", "-gid", "-inum", "-perm", "-printf"]

def isActing : Test → Bool
  | .print _ => true
  | .printf _ => true
  | .long => true
  | .delete => true
  | .run .. => true
  | .gather _ => true
  | .quit => false
  | _ => false

def braces : Octets := ['\x7b', '\x7d']

/-- The words of a command up to its end, and whether it is given many names at once. -/
def commandWords : List Octets → List Octets → Option (List Octets × Bool × List Octets)
  | _, [] => none
  | found, w :: rest =>
    if w = [';'] then some (found.reverse, false, rest)
    else if w = ['+'] && found.head? = some braces then some (found.reverse, true, rest)
    else commandWords (w :: found) rest

def command (s : Search) (option : Octets) (rest : List Octets) : Except String Found :=
  let asking := option = word "-ok" || option = word "-okdir"
  let inside := option = word "-execdir" || option = word "-okdir"
  match commandWords [] rest with
  | none => .error ("missing argument to " ++ shownMark option)
  | some (words, many, rest) =>
    if words.isEmpty then .error ("missing argument to " ++ shownMark option)
    else if many then
      if 1 < (words.filter fun w => w.any (· = '\x7b') && w = braces).length then
        .error ("Only one instance of " ++ braces.spelled ++ " is supported with " ++ option.spelled ++
          " ... +")
      else
        .ok (.test (.gather s.gathered.length),
          { s with gathered := s.gathered ++ [words.dropLast], acting := true }, rest)
    else .ok (.test (.run words inside asking), { s with acting := true }, rest)

mutual

/-- Alternatives, up to a comma. -/
def list (times : Octets → Option Int) : Nat → Search → List Octets → Except String Found
  | 0, _, _ => .error "expression too long"
  | n + 1, s, words => do
    let (a, s, rest) ← alternatives times n s words
    match rest with
    | [','] :: rest =>
      if rest.isEmpty then .error "expected an expression after ','"
      else
        let (b, s, rest) ← list times n s rest
        return (.sequence a b, s, rest)
    | rest => return (a, s, rest)

def alternatives (times : Octets → Option Int) : Nat → Search → List Octets → Except String Found
  | 0, _, _ => .error "expression too long"
  | n + 1, s, words => do
    let (a, s, rest) ← conjunction times n s words
    match rest with
    | w :: rest =>
      if w = word "-o" || w = word "-or" then
        if rest.isEmpty then .error ("expected an expression after '" ++ w.spelled ++ "'")
        else
          let (b, s, rest) ← alternatives times n s rest
          return (.either a b, s, rest)
      else return (a, s, w :: rest)
    | [] => return (a, s, [])

def conjunction (times : Octets → Option Int) : Nat → Search → List Octets → Except String Found
  | 0, _, _ => .error "expression too long"
  | n + 1, s, words => do
    let (a, s, rest) ← primary times n s words
    match rest with
    | [] => return (a, s, [])
    | w :: more =>
      if w = word "-o" || w = word "-or" || w = [','] || w = [')'] then return (a, s, rest)
      else
        let explicit := w = word "-a" || w = word "-and"
        if explicit && more.isEmpty then
          .error ("expected an expression after '" ++ w.spelled ++ "'")
        else
          let (b, s, rest) ← conjunction times n s (if explicit then more else rest)
          return (.both a b, s, rest)

def primary (times : Octets → Option Int) : Nat → Search → List Octets → Except String Found
  | 0, _, _ => .error "expression too long"
  | n + 1, s, words => do
    match words with
    | [] => .error "invalid expression"
    | w :: rest =>
      let name := w.spelled
      if name = "(" then
        if rest.head? = some [')'] then
          .error "invalid expression; empty parentheses are not allowed."
        else if rest.isEmpty then
          .error ("invalid expression; expected to find a ')' but did not see one. " ++
            "Perhaps you need an extra predicate after '('")
        else
          let (e, s, rest) ← list times n s rest
          match rest with
          | [')'] :: rest => return (e, s, rest)
          | _ => .error ("invalid expression; I was expecting to find a ')' somewhere " ++
              "but did not see one.")
      else if name = "!" || name = "-not" then
        if rest.isEmpty then .error ("expected an expression after '" ++ name ++ "'")
        else
          let (e, s, rest) ← primary times n s rest
          return (.negation e, s, rest)
      else if ["-o", "-or", "-a", "-and", ","].contains name then
        .error ("invalid expression; you have used a binary operator '" ++ name ++
          "' with nothing before it.")
      else if name = ")" then .error "invalid expression; you have too many ')'"
      else if name = "-depth" || name = "-d" then
        return (.test (.constant true), { s with depthFirst := true }, rest)
      else if name = "-follow" then return (.test (.constant true), { s with follow := true }, rest)
      else if idleWords.contains name then return (.test (.constant true), s, rest)
      else if ["-exec", "-execdir", "-ok", "-okdir"].contains name then command s w rest
      else match plainTests.lookup name with
        | some t =>
          let s := { s with acting := s.acting || isActing t }
          let s := match t with
            | .delete => { s with depthFirst := true }
            | _ => s
          return (.test t, s, rest)
        | none =>
          if name = "-maxdepth" || name = "-mindepth" then
            match rest with
            | [] => .error ("missing argument to " ++ shownMark w)
            | v :: rest =>
              let depth ← depthOf w v
              let s := if name = "-maxdepth" then { s with most := some depth }
                else { s with least := depth }
              return (.test (.constant true), s, rest)
          else if wordTests.contains name then
            match rest with
            | [] => .error ("missing argument to " ++ shownMark w)
            | v :: rest =>
              match wordTest times w v with
              | some (.ok t) =>
                let warnings ← if name = "-printf" then
                    (Format.read (v.length + 1) v).map fun f => f.warnings
                  else pure []
                return (.test t, { s with
                  acting := s.acting || isActing t, warnings := s.warnings ++ warnings }, rest)
              | some (.error message) => .error message
              | none => .error ("unknown predicate " ++ shownMark w)
          else if w.head? = some '-' then .error ("unknown predicate " ++ shownMark w)
          else .error ("paths must precede expression: " ++ shownMark w)

end

/-! ## Looking -/

/-- What the search has come to: whether what lies below is left out, whether it ends, whether all
went well, and the names that are gathered for commands. -/
structure State where
  pruned : Bool
  ended : Bool
  good : Bool
  gathered : List (List Octets)

def lower (text : Octets) : Octets := text.map Char.toLower

/-- Runs a command for a file, and says whether it went well. -/
def runFor (i : Invocation) (words : List Octets) (directory : Option Octets) : Task Bool := do
  let child ← Task.fork (Task.toProgram do
    match directory with
    | some d =>
      let _ ← Task.call (.enter d)
    | none => pure ()
    runCommand i (inQuotes (words.headD []) ++ ": ") i.environment words)
  match ← Task.call (.wait child true) with
  | .ok (.exited 0) => return true
  | _ => return false

def perform (i : Invocation) (now : Int) (v : Visit) (s : State) : Test → Task (Bool × State)
  | .constant b => pure (b, s)
  | .name pattern fold whole =>
    let text := if whole then v.path else baseName v.path
    pure ((Glob.ofOctets (if fold then lower pattern else pattern)).covers
      (if fold then lower text else text), s)
  | .linkName pattern fold =>
    let target := v.description.target
    pure (v.description.kind = .link &&
      (Glob.ofOctets (if fold then lower pattern else pattern)).covers
        (if fold then lower target else target), s)
  | .regex r fold =>
    let whole : Regex := .both (.edge .textStart) (.both r (.edge .textEnd))
    pure ((whole.find? ⟨fold, false⟩ v.path).isSome, s)
  | .kinds letters => pure (letters.contains (Description.testLetter v.description.kind), s)
  | .size b unit => pure (b.admits ((v.description.size + unit - 1) / unit), s)
  | .links b => pure (b.admits v.description.links, s)
  | .age b unit =>
    pure (b.admits ((now - v.description.modified) / 1000000000 / unit).toNat, s)
  | .newer time => pure (time < v.description.modified, s)
  | .same name => do
    match ← Task.call (.names v.followed v.path), ← Task.call (.names v.followed name) with
    | .ok a, .ok b => return (a = b, s)
    | _, _ => return (false, s)
  | .empty => do
    match v.description.kind with
    | .regular _ size => return (size = 0, s)
    | .directory =>
      match ← Task.call (.list v.path) with
      | .ok names => return (names.isEmpty, s)
      | .error _ => return (false, s)
    | _ => return (false, s)
  | .access letter => do return (← Facts.ask letter v.path, s)
  | .mode how plain tree =>
    let bits := if v.description.kind = .directory then tree else plain
    let mode := v.description.mode % 4096
    pure (match how with
      | '-' => mode &&& bits = bits
      | '/' => bits = 0 || mode &&& bits ≠ 0
      | _ => mode = bits, s)
  | .print mark => do
    put i 1 (v.path ++ [mark])
    return (true, s)
  | .printf parts => do
    let far := (← Task.call (.examine v.path)).toOption.map Description.testLetter
    put i 1 (formatted v (far.getD 'N') parts)
    return (true, s)
  | .long => do
    let d := v.description
    put i 1 (Octets.ofNat v.depth ++ word "      " ++ Octets.ofNat d.blocks ++ ' ' ::
      d.modeText ++ word "   " ++ Octets.ofNat d.links ++
      word " root     root     " ++ Octets.ofNat d.size ++ ' ' ::
      Description.timeText now d.modified ++ ' ' :: v.path ++ ['\n'])
    return (true, s)
  | .delete => do
    if v.path = ['.'] then return (true, s)
    let r ← if v.description.kind = .directory then Task.call (.removeDirectory v.path)
      else Task.call (.remove v.path)
    match r with
    | .ok () => return (true, s)
    | .error e =>
      complain i ("cannot delete " ++ inQuotes v.path ++ ": " ++ e.text)
      return (false, { s with good := false })
  | .prune => pure (true, { s with pruned := true })
  | .quit => pure (true, { s with ended := true })
  | .run words inside asking => do
    let shown := if inside then word "./" ++ baseName v.path else v.path
    let words := words.map fun w => substituted braces shown (w.length + 1) w
    if asking then
      Task.errText ("< " ++ (words.headD []).spelled ++ " ... " ++ shown.spelled ++ " > ? ")
      return (false, s)
    else
      return (← runFor i words (if inside then some (directoryName v.path) else none), s)
  | .gather number =>
    let gathered := s.gathered.zipIdx.map fun (names, k) =>
      if k = number then names ++ [v.path] else names
    pure (true, { s with gathered := gathered })

def evaluate (i : Invocation) (now : Int) (v : Visit) : Expression → State → Task (Bool × State)
  | .test t, s => perform i now v s t
  | .negation e, s => do
    let (r, s) ← evaluate i now v e s
    return (!r, s)
  | .both a b, s => do
    let (r, s) ← evaluate i now v a s
    if r && !s.ended then evaluate i now v b s else return (false, s)
  | .either a b, s => do
    let (r, s) ← evaluate i now v a s
    if r || s.ended then return (true, s) else evaluate i now v b s
  | .sequence a b, s => do
    let (_, s) ← evaluate i now v a s
    if s.ended then return (true, s) else evaluate i now v b s

/-- Walks a tree, each directory before what is in it or after it. -/
def walk (i : Invocation) (now : Int) (search : Search) (e : Expression) (root : Octets) :
    Nat → Nat → Octets → State → Task State
  | 0, _, _, s => pure s
  | n + 1, depth, path, s => do
    if s.ended then return s
    let follow := search.follow || search.followRoots && depth = 0
    let found ← match ← Description.of follow path with
      | .ok d => pure (.ok d)
      | .error e => if follow then Description.of false path else pure (.error e)
    match found with
    | .error e =>
      complain i (inQuotes path ++ ": " ++ e.text)
      return { s with good := false }
    | .ok d =>
      let here (s : State) : Task State := do
        if search.least ≤ depth then
          let (_, s) ← evaluate i now ⟨path, depth, root, follow, d⟩ e { s with pruned := false }
          return s
        else return { s with pruned := false }
      let below (s : State) : Task State := do
        if d.kind = .directory && search.most.all fun m => depth < m then
          match ← Task.call (.list path) with
          | .ok names =>
            names.foldlM (fun s c => walk i now search e root n (depth + 1) (under path c) s) s
          | .error e =>
            complain i (inQuotes path ++ ": " ++ e.text)
            return { s with good := false }
        else return s
      if search.depthFirst then
        let s ← below s
        if s.ended then return s else here s
      else
        let s ← here s
        if s.pruned || s.ended then return s else below s

/-- Commands that are given many names are run when all has been found. -/
def runGathered (i : Invocation) : List (List Octets × List Octets) → Task Bool
  | [] => pure true
  | (words, names) :: rest => do
    let good ← if names.isEmpty then pure true else runFor i (words ++ names) none
    let others ← runGathered i rest
    return good && others

end Finding

/-- Looks for files in trees. -/
def find : Tool := fun i => do
  let marks := i.words.takeWhile fun w => w = word "-L" || w = word "-P" || w = word "-H"
  let words := i.words.drop marks.length
  let isExpression (w : Octets) : Bool :=
    (w.head? = some '-' && w ≠ ['-']) || w = ['('] || w = ['!']
  let roots := words.takeWhile fun w => !isExpression w
  let words := words.drop roots.length
  let follow := marks.contains (word "-L")
  let newers := (words.zip (words.drop 1)).filterMap fun (a, b) =>
    if a = word "-newer" then some b else none
  let times ← newers.filterMapM fun name => do
    match ← Task.call (.modified true name) with
    | .ok t => return some (name, t)
    | .error _ => return none
  let start : Finding.Search := ⟨0, none, false, follow, marks.contains (word "-H"), false, [], []⟩
  let read : Except String (Finding.Expression × Finding.Search) :=
    if words.isEmpty then .ok (.test (.constant true), start)
    else match Finding.list (fun n => times.lookup n) (4 * words.length + 8) start words with
      | .error message => .error message
      | .ok (e, s, []) => .ok (e, s)
      | .ok (_, _, _ :: _) => .error "you have too many ')'"
  match read with
  | .error message =>
    complain i message
    let before := (words.zip (words.drop 1)).findSome? fun (a, b) =>
      if message = "paths must precede expression: " ++ Finding.shownMark b then some a else none
    match before with
    | some _ =>
      match (words.filter fun w => w.head? = some '-').getLast? with
      | some p => complain i ("possible unquoted pattern after predicate " ++ Finding.shownMark p ++ "?")
      | none => pure ()
    | none => pure ()
    return 1
  | .ok (e, search) =>
    let e := if search.acting then e else .both e (.test (.print '\n'))
    let roots := if roots.isEmpty then [['.']] else roots
    search.warnings.forM (complain i)
    let s : Finding.State := ⟨false, false, true, search.gathered.map fun _ => []⟩
    let now : Int ← Task.call .clock
    let s ← roots.foldlM (fun s root =>
      Finding.walk i now search e root treeDepth 0 root s) s
    let ran ← Finding.runGathered i (search.gathered.zip s.gathered)
    return codeOf (s.good && ran)

end Worksheet.Host.Tools
