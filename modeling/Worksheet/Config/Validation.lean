-- Checking the fields of a configuration. All fields are checked, and every fault is reported,
-- in the order of the fields. Unknown fields are left alone.
import Worksheet.Config.Basic
import Worksheet.Json.Reader

namespace Worksheet

/-! ## Faults -/

inductive FieldProblem
  | language
  | string
  | list
  | number
  | numberText
  | notPositive
  | noExecutable
  | notAnObject
  | notJson
  deriving DecidableEq, Repr

/-- Where fields come from: values that are at hand, or a JSON text. Lists have another name in
each, and numbers another range. -/
inductive FieldOrigin
  | values
  | text
  deriving DecidableEq, Repr

/-- A fault of one field, or of one item of a field, with the value that is at fault. -/
structure FieldFault where
  field : Option String
  item : Option Nat
  problem : FieldProblem
  origin : FieldOrigin
  input : Json

namespace FieldFault

def typeName (f : FieldFault) : String :=
  match f.problem with
  | .language => "literal_error"
  | .string => "string_type"
  | .list => "list_type"
  | .number => "float_type"
  | .numberText => "float_parsing"
  | .notPositive => "greater_than"
  | .noExecutable => "value_error"
  | .notAnObject => "model_type"
  | .notJson => "json_invalid"

def message (f : FieldFault) : String :=
  match f.problem with
  | .language => "Input should be 'python' or 'java'"
  | .string => "Input should be a valid string"
  | .list => match f.origin with
    | .values => "Input should be a valid list"
    | .text => "Input should be a valid array"
  | .number => "Input should be a valid number"
  | .numberText => "Input should be a valid number, unable to parse string as a number"
  | .notPositive => "Input should be greater than 0"
  | .noExecutable => "Value error, runtime_command must name an executable"
  | .notAnObject => "Input should be an object"
  | .notJson => "Invalid JSON"

def location (f : FieldFault) : List Json :=
  f.field.toList.map .string ++ f.item.toList.map fun i => .integer i

def toJson (f : FieldFault) : Json :=
  .object [("type", .string f.typeName), ("loc", .array f.location), ("msg", .string f.message)]

/-! ## Text of faults -/

def inputType : Json → String
  | .null => "NoneType"
  | .bool _ => "bool"
  | .integer _ => "int"
  | .real _ => "float"
  | .string _ => "str"
  | .points _ => "str"
  | .array _ => "list"
  | .object _ => "dict"

/-- The characters of a text that fit into a number of bytes. -/
def takeBytes (limit : Nat) : List Char → List Char
  | [] => []
  | c :: rest => if c.utf8Size ≤ limit then c :: takeBytes (limit - c.utf8Size) rest else []

/-- A value that takes more than fifty bytes is shown by its ends. -/
def abbreviate (s : String) : String :=
  if s.utf8ByteSize ≤ 50 then s
  else
    let cs := s.toList
    String.ofList (takeBytes 25 cs) ++ "..." ++
      String.ofList (takeBytes 24 cs.reverse).reverse

def locationText (f : FieldFault) : String :=
  ".".intercalate (f.field.toList ++ f.item.toList.map toString)

/-- The lines about one fault. Nothing is shown of a text that is no JSON. -/
def text (f : FieldFault) : String :=
  let heading := if f.field.isNone then "" else f.locationText ++ "\n"
  let input := match f.problem with
    | .notJson => ""
    | _ => " [type=" ++ f.typeName ++ ", input_value=" ++ abbreviate f.input.display ++
        ", input_type=" ++ inputType f.input ++ "]"
  heading ++ "  " ++ f.message ++ input

/-- The text of all faults together. -/
def listText (fs : List FieldFault) : String :=
  toString fs.length ++ " validation error" ++ (if fs.length = 1 then "" else "s") ++
    " for EvaluatorConfig\n" ++ "\n".intercalate (fs.map text)

end FieldFault

/-! ## Checking one field -/

/-- A check of one field's value. -/
abbrev FieldCheck (α : Type) := Json → Except (List FieldFault) α

namespace Config

def refuse {α : Type} (field : String) (item : Option Nat) (p : FieldProblem) (o : FieldOrigin)
    (v : Json) : Except (List FieldFault) α := .error [⟨some field, item, p, o, v⟩]

def checkLanguage (o : FieldOrigin) (field : String) : FieldCheck Language := fun v =>
  match v with
  | .string s =>
    match Language.ofText? s with
    | some l => .ok l
    | none => refuse field none .language o v
  | _ => refuse field none .language o v

def checkString (o : FieldOrigin) (field : String) (item : Option Nat) : FieldCheck String :=
  fun v =>
    match v with
    | .string s => .ok s
    | _ => refuse field item .string o v

/-- The items of a list are all checked. -/
def checkItems (o : FieldOrigin) (field : String) :
    Nat → List Json → Except (List FieldFault) (List String)
  | _, [] => .ok []
  | i, v :: rest =>
    match checkString o field (some i) v, checkItems o field (i + 1) rest with
    | .ok s, .ok ss => .ok (s :: ss)
    | .ok _, .error es => .error es
    | .error e, .ok _ => .error e
    | .error e, .error es => .error (e ++ es)

def checkStrings (o : FieldOrigin) (field : String) : FieldCheck (List String) := fun v =>
  match v with
  | .array items => checkItems o field 0 items
  | _ => refuse field none .list o v

/-- Null stands for a value that is not given. -/
def checkOptional {α : Type} (check : FieldCheck α) : FieldCheck (Option α) := fun v =>
  match v with
  | .null => .ok none
  | _ => (check v).map some

def checkCommand (o : FieldOrigin) (field : String) : FieldCheck (Option (List String)) :=
  fun v =>
    match checkOptional (checkStrings o field) v with
    | .ok (some []) => refuse field none .noExecutable o v
    | r => r

/-- Whether a whole number is near some finite double. -/
def fitsDouble (n : Int) : Bool :=
  match Double.ofInt n with
  | .finite .. => true
  | _ => false

def checkNumber (o : FieldOrigin) (field : String) : FieldCheck Double := fun v =>
  match v with
  | .bool b => .ok (.ofInt (if b then 1 else 0))
  | .integer n =>
    if o = .values && !fitsDouble n then refuse field none .number o v else .ok (.ofInt n)
  | .real x => .ok x
  | .string s =>
    match NumberText.readLoose s.toList with
    | some x => .ok x
    | none => refuse field none .numberText o v
  | _ => refuse field none .number o v

/-- A number above zero. What is not a number is not above zero either. -/
def checkPositive (o : FieldOrigin) (field : String) : FieldCheck Double := fun v =>
  match checkNumber o field v with
  | .ok x => if x.isPositive then .ok x else refuse field none .notPositive o v
  | .error e => .error e

/-! ## Checking all fields -/

/-- The value of a field: the given one, checked, or a default. -/
def fieldOr {α : Type} (fields : List (String × Json)) (field : String)
    (check : String → FieldCheck α) (fallback : α) : Except (List FieldFault) α :=
  match fields.lookup field with
  | some v => check field v
  | none => .ok fallback

def faultsOf {α : Type} : Except (List FieldFault) α → List FieldFault
  | .ok _ => []
  | .error es => es

/-- A configuration from its fields, or the faults of all of them. -/
def ofFields (o : FieldOrigin) (fields : List (String × Json)) :
    Except (List FieldFault) Config :=
  let language := fieldOr fields "language" (checkLanguage o) defaults.language
  let runtimeCommand := fieldOr fields "runtime_command" (checkCommand o) defaults.runtimeCommand
  let javacCommand :=
    fieldOr fields "javac_command" (fun f => checkString o f none) defaults.javacCommand
  let compilerClasspath :=
    fieldOr fields "compiler_classpath" (checkStrings o) defaults.compilerClasspath
  let compilerArguments :=
    fieldOr fields "compiler_arguments" (checkStrings o) defaults.compilerArguments
  let outputDirectory := fieldOr fields "output_directory"
    (fun f => checkOptional (checkString o f none)) defaults.outputDirectory
  let sourceDirectory := fieldOr fields "source_directory"
    (fun f => checkOptional (checkString o f none)) defaults.sourceDirectory
  let timeout := fieldOr fields "timeout_sec" (fun f => checkOptional (checkPositive o f))
    defaults.timeout
  let compileTimeout :=
    fieldOr fields "compile_timeout_sec" (checkPositive o) defaults.compileTimeout
  let outputEncoding :=
    fieldOr fields "output_encoding" (fun f => checkString o f none) defaults.outputEncoding
  match language, runtimeCommand, javacCommand, compilerClasspath, compilerArguments,
      outputDirectory, sourceDirectory, timeout, compileTimeout, outputEncoding with
  | .ok language, .ok runtimeCommand, .ok javacCommand, .ok compilerClasspath,
      .ok compilerArguments, .ok outputDirectory, .ok sourceDirectory, .ok timeout,
      .ok compileTimeout, .ok outputEncoding =>
    .ok { language, runtimeCommand, javacCommand, compilerClasspath, compilerArguments,
          outputDirectory, sourceDirectory, timeout, compileTimeout, outputEncoding }
  | _, _, _, _, _, _, _, _, _, _ =>
    .error (faultsOf language ++ faultsOf runtimeCommand ++ faultsOf javacCommand ++
      faultsOf compilerClasspath ++ faultsOf compilerArguments ++ faultsOf outputDirectory ++
      faultsOf sourceDirectory ++ faultsOf timeout ++ faultsOf compileTimeout ++
      faultsOf outputEncoding)

/-- A configuration from a JSON text. -/
def ofText (s : String) : Except (List FieldFault) Config :=
  match Json.read .strict s.toList with
  | none => .error [⟨none, none, .notJson, .text, .string s⟩]
  | some (.object fields) => ofFields .text fields
  | some v => .error [⟨none, none, .notAnObject, .text, v⟩]

end Config

end Worksheet
