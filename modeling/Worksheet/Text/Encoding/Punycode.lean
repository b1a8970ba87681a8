-- Punycode: the ASCII characters of a text, and after the last hyphen, in digits to the base 36,
-- where the others are put in between them.
import Worksheet.Text.Encoding.Units

namespace Worksheet.Text.Punycode

/-- The value of a digit, in either case. -/
def digit? (b : UInt8) : Option Nat :=
  let n := b.toNat
  if 0x41 ≤ n && n ≤ 0x5A then some (n - 0x41)
  else if 0x61 ≤ n && n ≤ 0x7A then some (n - 0x61)
  else if 0x30 ≤ n && n ≤ 0x39 then some (n - 0x30 + 26)
  else none

/-- A digit below the threshold of its place ends its number. -/
def threshold (place bias : Nat) : Nat := min 26 (max 1 (36 * (place + 1) - bias))

/-- Reads a number; the sum so far, the weight of the next digit and its place are given. -/
def number? (bias sum weight place : Nat) : Bytes → Option (Nat × Bytes)
  | [] => none
  | b :: rest =>
    match digit? b with
    | none => none
    | some d =>
      let t := threshold place bias
      let sum := sum + d * weight
      if d < t then some (sum, rest)
      else number? bias sum (weight * (36 - t)) (place + 1) rest

theorem length_of_number? {bias sum weight place n : Nat} {bytes rest : Bytes}
    (h : number? bias sum weight place bytes = some (n, rest)) : rest.length < bytes.length := by
  induction bytes generalizing sum weight place with
  | nil => simp [number?] at h
  | cons b bs ih =>
    unfold number? at h
    split at h
    · simp at h
    · simp only at h
      split at h
      · simp only [Option.some.injEq, Prod.mk.injEq] at h
        simp [h.2]
      · have := ih h
        simp only [List.length_cons]
        omega

/-- How often a number above 455 is to be divided by 35 to come below, and what is left then. -/
def shrunk (n : Nat) : Nat × Nat :=
  if 455 < n then
    let (times, left) := shrunk (n / 35)
    (times + 1, left)
  else (0, n)

def adapt (delta : Nat) (isFirst : Bool) (length : Nat) : Nat :=
  let d := if isFirst then delta / 700 else delta / 2
  let (times, left) := shrunk (d + d / length)
  36 * times + 36 * left / (left + 38)

/-- Puts characters into a text, whose place and code are counted on from the last ones. A
number that is cut short ends the text. -/
def insertAll (bias : Nat) (isFirst : Bool) (code next : Nat) (text : Points) (bytes : Bytes) :
    Points :=
  match h : number? bias 0 1 0 bytes with
  | none => text
  | some (delta, rest) =>
    let length := text.length + 1
    let place := next + delta
    let reached := code + place / length
    let code := if 0x10FFFF < reached then 0x3F else reached
    let place := place % length
    have := length_of_number? h
    insertAll (adapt delta isFirst length) false code (place + 1)
      (text.take place ++ Units.pointOf code :: text.drop place) rest
  termination_by bytes.length

/-- The bytes before the last hyphen and after it. -/
def parts (bytes : Bytes) : Bytes × Bytes :=
  let extended := (bytes.reverse.takeWhile (· ≠ 0x2D)).reverse
  (bytes.take (bytes.length - extended.length - 1), extended)

def asciiChar (b : UInt8) : Char :=
  if b.toNat < 0x80 then Char.ofNat b.toNat else Utf8.replacement

/-- A byte outside of ASCII where there must be none. -/
structure BadByte where
  position : Nat
  byte : UInt8
  deriving DecidableEq, Repr

def BadByte.message (e : BadByte) : String :=
  "'ascii' codec can't decode byte 0x" ++ String.ofList (hexDigits 2 e.byte.toNat) ++
    " in position " ++ toString e.position ++ ": ordinal not in range(128)"

def decode (bytes : Bytes) : Except BadByte Points :=
  let (base, extended) := parts bytes
  match extended.dropWhile (·.toNat < 0x80) with
  | b :: rest => .error ⟨extended.length - rest.length - 1, b⟩
  | [] => .ok (insertAll 72 true 0x80 0 (.ofChars (base.map asciiChar)) extended)

end Worksheet.Text.Punycode
