-- Encodings that are read step by step: some bytes stand for some characters, and a state tells how
-- the bytes that follow are meant. Characters with two bytes each are kept in tables.
import Worksheet.Text.Utf8

namespace Worksheet.Text

/-! ## Tables -/

/-- Rows of characters by their first byte. A row begins at one second byte, the same in all rows;
the replacement character stands where there is none. -/
structure CharacterSet where
  column : Nat
  rows : List (Nat × String)

namespace CharacterSet

/-- The character of two bytes. -/
def char? (s : CharacterSet) (first second : Nat) : Option Char :=
  if second < s.column then none
  else match s.rows.lookup first with
    | none => none
    | some row =>
      match row.toList[second - s.column]? with
      | none => none
      | some c => if c = Char.ofNat 0xFFFD then none else some c

end CharacterSet

/-! ## Steps -/

/-- What the next bytes are: characters (none, where only the state changes), nothing with a
meaning, or the cut off beginning of a character. At least one byte is taken. -/
inductive Step
  | found (width : Nat) (content : List Char)
  | wrong (width : Nat)
  | cut
  deriving DecidableEq, Repr

namespace Step

def ofChar? (width : Nat) : Option Char → Step
  | some c => found width [c]
  | none => wrong 1

/-- A byte that is its own character. -/
def byte (b : UInt8) : Step := found 1 [Char.ofNat b.toNat]

end Step

/-- How the bytes that begin with one are read in a state. -/
abbrev Stepper (σ : Type) := σ → (first : UInt8) → (rest : Bytes) → σ × Step

namespace Stepper

/-- Reads all bytes, after the characters already found (latest first). Bytes without a meaning
become one replacement character, and so does all that is left of a cut off character. -/
def readAfter {σ : Type} (step : Stepper σ) (state : σ) (found : List Char) : Bytes → List Char
  | [] => found.reverse
  | b :: rest =>
    match step state b rest with
    | (state, .found width content) =>
      readAfter step state (content.reverse ++ found) (rest.drop (width - 1))
    | (state, .wrong width) =>
      readAfter step state (Utf8.replacement :: found) (rest.drop (width - 1))
    | (_, .cut) => (Utf8.replacement :: found).reverse
  termination_by bytes => bytes.length
  decreasing_by
    all_goals simp only [List.length_drop, List.length_cons]
    all_goals omega

def read {σ : Type} (step : Stepper σ) (start : σ) (bytes : Bytes) : List Char :=
  readAfter step start [] bytes

/-- A reader without a state. -/
def stateless (step : UInt8 → Bytes → Step) : Stepper Unit := fun _ b rest => ((), step b rest)

/-- Reads an encoding with ASCII in one byte, and other characters in two or more. -/
def beyondAscii (step : UInt8 → Bytes → Step) (bytes : Bytes) : List Char :=
  read (stateless fun b rest => if b.toNat < 0x80 then .byte b else step b rest) () bytes

/-- Two bytes that are looked up together. -/
def pairOf (char? : Nat → Nat → Option Char) (b : UInt8) : Bytes → Step
  | [] => .cut
  | c :: _ => .ofChar? 2 (char? b.toNat c.toNat)

end Stepper

end Worksheet.Text
