-- UTF-7: ASCII, with sections of base-64 digits for sixteen-bit units. A section opens with a plus
-- sign, and a hyphen that closes it is dropped.
import Worksheet.Text.Encoding.Units

namespace Worksheet.Text.Utf7

/-- What stands for bytes without a meaning. -/
def flawed : Points := [.ofChar Utf8.replacement]

/-- The bits of a section that are not yet a unit, and a high unit that waits for its partner. -/
structure Section where
  count : Nat
  bits : Nat
  high : Option Nat
  deriving DecidableEq, Repr

inductive State
  | plain
  | plus
  | shifted (part : Section)
  deriving DecidableEq, Repr

/-- The value of a base-64 digit. -/
def digit? (b : UInt8) : Option Nat :=
  let n := b.toNat
  if 0x41 ≤ n && n ≤ 0x5A then some (n - 0x41)
  else if 0x61 ≤ n && n ≤ 0x7A then some (n - 0x61 + 26)
  else if 0x30 ≤ n && n ≤ 0x39 then some (n - 0x30 + 52)
  else if n = 0x2B then some 62
  else if n = 0x2F then some 63
  else none

namespace Section

def opened : Section := ⟨0, 0, none⟩

/-- A unit that follows a high unit, or stands alone. -/
def put (part : Section) (unit : Nat) : Section × Points :=
  match part.high with
  | some high =>
    if Units.isLow unit then (⟨part.count, part.bits, none⟩, [Units.pointOf (Units.paired high unit)])
    else if Units.isHigh unit then (⟨part.count, part.bits, some unit⟩, [Units.pointOf high])
    else (⟨part.count, part.bits, none⟩, [Units.pointOf high, Units.pointOf unit])
  | none =>
    if Units.isHigh unit then (⟨part.count, part.bits, some unit⟩, [])
    else (part, [Units.pointOf unit])

/-- Six more bits. -/
def take (part : Section) (value : Nat) : Section × Points :=
  let count := part.count + 6
  let bits := part.bits * 64 + value
  if 16 ≤ count then
    let beyond := Nat.pow 2 (count - 16)
    (⟨count - 16, bits % beyond, part.high⟩ : Section).put (bits / beyond)
  else (⟨count, bits, part.high⟩, [])

/-- Bits that are left over do not make a unit, and only zeros may pad one. -/
def isCut (part : Section) : Bool := 6 ≤ part.count || (0 < part.count && part.bits ≠ 0)

end Section

/-- A byte outside of a section. -/
def plainStep (b : UInt8) : State × Points :=
  if b = 0x2B then (.plus, [])
  else if b.toNat < 0x80 then (.plain, [Units.pointOf b.toNat])
  else (.plain, flawed)

def step : State → UInt8 → State × Points
  | .plain, b => plainStep b
  | .plus, b =>
    if b = 0x2D then (.plain, [.ofChar '+'])
    else match digit? b with
      | some value =>
        let (part, found) := Section.opened.take value
        (.shifted part, found)
      | none => (.plain, flawed)
  | .shifted part, b =>
    match digit? b with
    | some value =>
      let (part, found) := part.take value
      (.shifted part, found)
    | none =>
      if part.isCut then (.plain, flawed)
      else
        let lone := match part.high with
          | some high => if b.toNat < 0x80 then [Units.pointOf high] else []
          | none => []
        let (state, found) := if b = 0x2D then (.plain, []) else plainStep b
        (state, lone ++ found)

/-- What the end of the data makes of an open section. -/
def atEnd : State → Points
  | .shifted part => if part.high.isSome || part.isCut then flawed else []
  | _ => []

def decodeFrom (state : State) (found : Points) : Bytes → Points
  | [] => found.reverse ++ atEnd state
  | b :: rest =>
    let (next, more) := step state b
    decodeFrom next (more.reverse ++ found) rest

def decode (bytes : Bytes) : Points := decodeFrom .plain [] bytes

end Worksheet.Text.Utf7
