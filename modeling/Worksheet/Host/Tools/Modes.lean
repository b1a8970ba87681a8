-- Modes as texts: how they are written, and the changes of modes that a text asks for.
import Worksheet.Disk.Node
import Worksheet.Host.Tools.Printing
import Worksheet.Text.Split

namespace Worksheet.Host.Modes

open Text (Octets)

/-! ## Bits -/

def allBits : Mode := 4095

def readBits : Mode := 292

def writeBits : Mode := 146

def runBits : Mode := 73

/-- The bits that let a program run as its owner or its group. -/
def ownerBits : Mode := 3072

/-- The bits of a set that are not in another one. -/
def less (bits other : Mode) : Mode := bits - (bits &&& other)

/-! ## Changes -/

/-- What a change puts in: given bits, the rights that a class of users has, or given bits with the
right to run wherever somebody has it. -/
inductive Origin
  | bits
  | copied
  | runnable
  deriving DecidableEq, Repr

/-- One change of a mode. Without classes of users it touches what the mask lets through;
`mentioned` are the bits that the text speaks of. -/
structure Change where
  sign : Char
  origin : Origin
  affected : Mode
  value : Mode
  mentioned : Mode
  deriving DecidableEq, Repr

/-- The bits of a class of users. -/
def classBits? (c : Char) : Option Mode :=
  match c with
  | 'u' => some 2496
  | 'g' => some 1080
  | 'o' => some 519
  | 'a' => some allBits
  | _ => none

/-- The bits of a letter behind a sign. -/
def letterBits? (c : Char) : Option Mode :=
  match c with
  | 'r' => some readBits
  | 'w' => some writeBits
  | 'x' => some runBits
  | 'X' => some 0
  | 's' => some ownerBits
  | 't' => some 512
  | _ => none

/-- The rights of a class that are given to others. -/
def copiedBits? (c : Char) : Option Mode :=
  match c with
  | 'u' => some 448
  | 'g' => some 56
  | 'o' => some 7
  | _ => none

def isSign (c : Char) : Bool := c = '+' || c = '-' || c = '='

/-- The change behind a sign, with what follows it. -/
def changeAfter (affected : Mode) (sign : Char) (rest : Octets) : Option (Change × Octets) :=
  let of (origin : Origin) (value : Mode) (rest : Octets) : Option (Change × Octets) :=
    some (⟨sign, origin, affected, value,
      if affected ≠ 0 then affected &&& value else value⟩, rest)
  let digits := rest.takeWhile Printing.isOctal
  if !digits.isEmpty then
    let after := rest.drop digits.length
    let value := Printing.octalValue digits
    if allBits < value || affected ≠ 0 || after.any fun c => c ≠ ',' then none
    else some (⟨sign, .bits, allBits, value, allBits⟩, after)
  else match rest.head?.bind copiedBits? with
    | some value => of .copied value (rest.drop 1)
    | none =>
      let letters := rest.takeWhile fun c => (letterBits? c).isSome
      let value := (letters.filterMap letterBits?).foldl (· ||| ·) 0
      of (if letters.contains 'X' then .runnable else .bits) value (rest.drop letters.length)

/-- The changes of one clause: signs, each with what follows it. -/
def changesAfter (affected : Mode) : Nat → Octets → Option (List Change)
  | 0, _ => none
  | _ + 1, [] => some []
  | n + 1, sign :: rest =>
    if !isSign sign then none
    else match changeAfter affected sign rest with
      | none => none
      | some (change, rest) => (changesAfter affected n rest).map (change :: ·)

def clause? (text : Octets) : Option (List Change) :=
  let classes := text.takeWhile fun c => (classBits? c).isSome
  let affected := (classes.filterMap classBits?).foldl (· ||| ·) 0
  let signs := text.drop classes.length
  if signs.isEmpty then none else changesAfter affected (signs.length + 1) signs

/-- The changes that a text asks for: a number in the octal system, or clauses. A number of up to
four digits leaves two bits of a directory alone. -/
def changes? (text : Octets) : Option (List Change) :=
  if text.head?.any Printing.isOctal then
    let value := Printing.octalValue text
    if !text.all Printing.isOctal || allBits < value then none
    else some [⟨'=', .bits, allBits, value,
      if text.length < 5 then (value &&& 3584) ||| 511 else allBits⟩]
  else ((Text.split ',' text).mapM clause?).map List.flatten

/-- A mode after one change. -/
def applyOne (isTree : Bool) (mask mode : Mode) (change : Change) : Mode :=
  let omitted := if isTree then less ownerBits change.mentioned else 0
  let granted (bits : Mode) (value : Mode) : Mode := if value &&& bits ≠ 0 then bits else 0
  let value := match change.origin with
    | .bits => change.value
    | .copied =>
      let value := change.value &&& mode
      value ||| granted readBits value ||| granted writeBits value ||| granted runBits value
    | .runnable =>
      if isTree || mode &&& runBits ≠ 0 then change.value ||| runBits else change.value
  let reach := if change.affected ≠ 0 then change.affected else less allBits mask
  let value := less (value &&& reach) omitted
  match change.sign with
  | '+' => mode ||| value
  | '-' => less mode value
  | _ =>
    let kept := (if change.affected ≠ 0 then less allBits change.affected else 0) ||| omitted
    (mode &&& kept) ||| value

/-- A mode after all changes. -/
def apply (isTree : Bool) (mask mode : Mode) (changes : List Change) : Mode :=
  changes.foldl (applyOne isTree mask) (mode % 4096)

/-! ## Texts -/

def octal (width : Nat) (mode : Mode) : Octets :=
  let ds := Nat.toDigits 8 mode
  List.replicate (width - ds.length) '0' ++ ds

/-- The letters of one class of users; a special rule shows in the last letter. -/
def classText (rights : Nat) (special : Bool) (mark : Char) : Octets :=
  let runs : Bool := rights % 2 = 1
  let last := if special then (if runs then mark else mark.toUpper) else if runs then 'x' else '-'
  [if rights / 4 % 2 = 1 then 'r' else '-', if rights / 2 % 2 = 1 then 'w' else '-', last]

/-- A mode in nine letters. -/
def letters (mode : Mode) : Octets :=
  classText (mode / 64) (mode / 2048 % 2 = 1) 's' ++
    classText (mode / 8) (mode / 1024 % 2 = 1) 's' ++ classText mode (mode / 512 % 2 = 1) 't'

end Worksheet.Host.Modes
