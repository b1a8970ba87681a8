-- Commands of the stream editor, each with the lines that it is for.
import Worksheet.Host.Tools.Regex

namespace Worksheet.Host.Tools.Edit

open Text (Octets)

/-- A pattern; an empty one stands for the one that was used last. -/
structure Pattern where
  regex : Option Regex
  comparison : Regex.Comparison

/-- The lines that a command is for: one by its number, each one from a first in steps, the last
one, or those with a pattern. -/
inductive Address
  | line (number : Nat)
  | step (first width : Nat)
  | last
  | pattern (p : Pattern)

/-- Where lines that begin at an address end: at another one, some lines later, or at the next line
whose number is a multiple. -/
inductive Limit
  | address (a : Address)
  | later (count : Nat)
  | multiple (of : Nat)

/-- How the case of letters changes from some place of a replacement on, or for one letter. -/
inductive CaseChange
  | upper
  | lower
  | upperOne
  | lowerOne
  | usual
  deriving DecidableEq, Repr

/-- A part of a replacement: plain text, what a group has found, or a change of case. -/
inductive Piece
  | text (text : Octets)
  | group (number : Nat)
  | change (c : CaseChange)

/-- A substitution: from which match on, whether for all from there, and what happens to a line that
was changed. -/
structure Substitution where
  pattern : Pattern
  pieces : List Piece
  first : Nat
  everywhere : Bool
  prints : Bool
  runs : Bool
  file : Option Octets

/-- Jumps go to the place of a command; a block that is not for a line is passed over. -/
inductive Action
  | block (stop : Nat)
  | blockEnd
  | label
  | nothing
  | substitute (s : Substitution)
  | exchange (table : List (Octets × Octets))
  | jump (target : Nat)
  | jumpIfChanged (target : Nat)
  | jumpUnlessChanged (target : Nat)
  | append (text : Octets)
  | insert (text : Octets)
  | change (text : Octets)
  | delete
  | deleteFirst
  | print
  | printFirst
  | next
  | nextAdded
  | get
  | getAdded
  | hold
  | holdAdded
  | swap
  | quit (code : Nat)
  | quitSilently (code : Nat)
  | number
  | fileName
  | show (width : Option Nat)
  | empty
  | read (file : Octets)
  | readLine (file : Octets)
  | write (file : Octets)
  | writeFirst (file : Octets)
  | run (command : Octets)

structure Command where
  first : Option Address
  last : Option Limit
  inverted : Bool
  action : Action

/-- A script that can be carried out. -/
structure Script where
  commands : Array Command
  quiet : Bool

end Worksheet.Host.Tools.Edit
