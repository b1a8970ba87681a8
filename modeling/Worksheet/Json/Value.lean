-- JSON values. Whole numbers and other numbers are kept apart, and so are the two zeros.
import Worksheet.Number.Layout
import Worksheet.Text.CodePoint
import Worksheet.Text.Quoted

namespace Worksheet

/-- A text that holds surrogates is no string, and is kept as its code points. -/
inductive Json
  | null
  | bool (value : Bool)
  | integer (value : Int)
  | real (value : Double)
  | string (value : String)
  | points (value : Text.Points)
  | array (items : List Json)
  | object (fields : List (String × Json))

namespace Json

instance : Inhabited Json := ⟨null⟩

/-- A key set again keeps its place. -/
def setField (key : String) (value : Json) : List (String × Json) → List (String × Json)
  | [] => [(key, value)]
  | (k, v) :: rest => if k = key then (k, value) :: rest else (k, v) :: setField key value rest

def field? (key : String) : Json → Option Json
  | .object fields => fields.lookup key
  | _ => none

def ofOption {α : Type} (f : α → Json) : Option α → Json
  | none => .null
  | some a => f a

def ofPoints (text : Text.Points) : Json :=
  match text.toString? with
  | some s => .string s
  | none => .points text

def ofStrings (items : List String) : Json := .array (items.map .string)

/-! ## Display -/

mutual

/-- The text that shows a value inside a message. -/
def display : Json → String
  | .null => "None"
  | .bool b => if b then "True" else "False"
  | .integer n => toString n
  | .real x => x.text
  | .string s => Text.quoted s
  | .points text => Text.quotedPoints text
  | .array items => "[" ++ ", ".intercalate (displayItems items) ++ "]"
  | .object fields => "\x7b" ++ ", ".intercalate (displayFields fields) ++ "\x7d"

def displayItems : List Json → List String
  | [] => []
  | v :: rest => v.display :: displayItems rest

def displayFields : List (String × Json) → List String
  | [] => []
  | (k, v) :: rest => (Text.quoted k ++ ": " ++ v.display) :: displayFields rest

end

end Json

end Worksheet
