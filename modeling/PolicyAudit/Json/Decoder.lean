import PolicyAudit.Json.Draft
import PolicyAudit.Text.Quoted

/-! # Decoding of JSON

A `Decoder` takes a draft to a value, or to the `Problem` that a reader from left to right meets
first: its cause and the steps that lead to it from the root.

A record is described by its `Fields`, in the order of declaration.  It is read from an object,
whose members may come in any order and among members that no field names, or from an array, whose
items stand in the order of declaration.  Each field is read on its own, and its problem carries
the place where a reader meets it; of two problems the one met earlier wins.  A field that is
absent is met after all members. -/

namespace PolicyAudit.Json

/-! ### Problems -/

/-- What stands where something else was expected. -/
inductive Shape where
  | null
  | bool (value : Bool)
  | number (value : Number)
  | string (value : String)
  | sequence
  | map
deriving DecidableEq, Repr

/-- The description of a shape in messages. -/
def Shape.text : Shape → String
  | null => "null"
  | bool true => "boolean `true`"
  | bool false => "boolean `false`"
  | number (.double isNegative x) => "floating point `" ++ (Number.double isNegative x).text ++ "`"
  | number n => "integer `" ++ n.text ++ "`"
  | string s => "string " ++ Text.quoted s
  | sequence => "sequence"
  | map => "map"

/-- The shape of a draft, unless nothing usable stands there. -/
def Draft.shape? : Draft → Option Shape
  | fault => none
  | unusable => none
  | null => some .null
  | bool b => some (.bool b)
  | number n => some (.number n)
  | string s => some (.string s)
  | array _ => some .sequence
  | object _ => some .map

inductive Cause where
  /-- The text is not JSON, or a scalar that is wanted denotes no value. -/
  | illegible
  | wrongType (found : Shape) (expected : String)
  /-- An object where one with a single key is expected. -/
  | notSingleKey
  | missingField (name : String)
  | duplicateField (name : String)
  | unknownVariant (name : String) (known : List String)
  /-- An array with fewer items than the record `record` of `size` fields needs. -/
  | tooShort (length : Nat) (record : String) (size : Nat)
  | tooLong (length : Nat)
  /-- A string that the type's own notation refuses, with the reason. -/
  | refused (reason : String)
deriving DecidableEq, Repr

def Cause.message : Cause → String
  | illegible => "invalid JSON"
  | wrongType found expected => "invalid type: " ++ found.text ++ ", expected " ++ expected
  | notSingleKey => "invalid value: map, expected map with a single key"
  | missingField name => "missing field `" ++ name ++ "`"
  | duplicateField name => "duplicate field `" ++ name ++ "`"
  | unknownVariant name known =>
    "unknown variant `" ++ name ++ "`, expected one of " ++
      ", ".intercalate (known.map fun k => "`" ++ k ++ "`")
  | tooShort length record size =>
    "invalid length " ++ toString length ++ ", expected struct " ++ record ++ " with " ++
      (if size = 1 then "1 element" else toString size ++ " elements")
  | tooLong length =>
    "invalid length " ++ toString length ++ ", expected fewer elements in array"
  | refused reason => reason

inductive Step where
  | field (name : String)
  | item (index : Nat)
deriving DecidableEq, Repr

structure Problem where
  path : List Step
  cause : Cause
deriving DecidableEq, Repr

namespace Problem

/-- The same problem seen from one step above. -/
def under (step : Step) (p : Problem) : Problem := ⟨step :: p.path, p.cause⟩

/-- The steps from the root: names after points, indices in brackets. -/
def pathText : List Step → String
  | [] => ""
  | .field name :: rest => name ++ tailText rest
  | .item index :: rest => "[" ++ toString index ++ "]" ++ tailText rest
where
  tailText : List Step → String
    | [] => ""
    | .field name :: rest => "." ++ name ++ tailText rest
    | .item index :: rest => "[" ++ toString index ++ "]" ++ tailText rest

/-- The message with the path in front, unless the problem is at the root. -/
def message (p : Problem) : String :=
  if p.path.isEmpty then p.cause.message else pathText p.path ++ ": " ++ p.cause.message

/-- Problems of the text, not of the types: it is not JSON, or an array has more items than its
record has fields. -/
def isSyntactic (p : Problem) : Bool :=
  match p.cause with
  | .illegible => true
  | .tooLong _ => true
  | _ => false

end Problem

abbrev Decoder (α : Type) := Draft → Except Problem α

namespace Decoder

/-- The problem of a draft that is not of the expected type. -/
def mismatch (d : Draft) (expected : String) : Problem :=
  match d.shape? with
  | some found => ⟨[], .wrongType found expected⟩
  | none => ⟨[], .illegible⟩

/-! ### Scalars and lists -/

def string : Decoder String
  | .string s => .ok s
  | d => .error (mismatch d "a string")

/-- A string in the notation of some type. -/
def parsed (expected : String) (read : String → Except String α) : Decoder α
  | .string s =>
    match read s with
    | .ok a => .ok a
    | .error reason => .error ⟨[], .refused reason⟩
  | d => .error (mismatch d expected)

/-- A value, or null for none. -/
def optional (decode : Decoder α) : Decoder (Option α)
  | .null => .ok none
  | d => (decode d).map some

/-- The items in their order, from the given index on. -/
def items (decode : Decoder α) (index : Nat) : List Draft → Except Problem (List α)
  | [] => .ok []
  | d :: ds =>
    match decode d with
    | .error p => .error (p.under (.item index))
    | .ok a => (items decode (index + 1) ds).map (a :: ·)

def list (decode : Decoder α) : Decoder (List α)
  | .array ds => items decode 0 ds
  | d => .error (mismatch d "a sequence")

/-- One of finitely many names: a string, or an object whose only member has null for its value. -/
def variant (known : List (String × α)) : Decoder α
  | .string s => name s
  | .object [(some key, value)] => do
    let a ← name key
    match value with
    | .null => .ok a
    | d => .error (mismatch d "unit")
  | .object _ => .error ⟨[], .notSingleKey⟩
  | d => .error (mismatch d "string or map")
where
  name (s : String) : Except Problem α :=
    match known.find? (·.1 = s) with
    | some (_, a) => .ok a
    | none => .error ⟨[], .unknownVariant s (known.map (·.1))⟩

/-! ### Records -/

/-- Where the fields of a record are looked for: the members of an object, or the items of an array
that should hold the `size` fields of the record called `record`. -/
inductive Source where
  | members (ms : List (Option String × Draft))
  | items (ds : List Draft) (record : String) (size : Nat)

/-- A result whose problem carries the place where a reader meets it. -/
abbrev Placed (α : Type) := Except (Nat × Problem) α

/-- The earlier of two problems. -/
def earlier (e e' : Nat × Problem) : Nat × Problem := if e'.1 < e.1 then e' else e

/-- Both results, or the earlier problem. -/
def Placed.both (f : Placed (α → β)) (x : Placed α) : Placed β :=
  match f, x with
  | .ok f, .ok a => .ok (f a)
  | .error e, .ok _ => .error e
  | .ok _, .error e => .error e
  | .error e, .error e' => .error (earlier e e')

/-- The fields of a record that build an `α`: their names in the order of declaration, and their
values, given how many fields of the record come before. -/
structure Fields (α : Type) where
  names : List String
  read : Source → Nat → Placed α

namespace Fields

/-- The record without fields. -/
def pure (a : α) : Fields α := ⟨[], fun _ _ => .ok a⟩

/-- The first member with the given key, and its place. -/
def lookup? (key : String) (place : Nat) :
    List (Option String × Draft) → Option (Nat × Draft)
  | [] => none
  | (k, d) :: rest => if k = some key then some (place, d) else lookup? key (place + 1) rest

/-- A field of its own.  `absent` is its value where an object lacks it, and `short` where an array
ends before it; without them the field must be there. -/
def one (name : String) (decode : Decoder α) (absent short : Option α) : Fields α where
  names := [name]
  read source index :=
    match source with
    | .members ms =>
      match lookup? name 0 ms with
      | some (place, d) =>
        match decode d with
        | .ok a => .ok a
        | .error p => .error (place, p.under (.field name))
      | none =>
        match absent with
        | some a => .ok a
        | none => .error (ms.length + index, ⟨[], .missingField name⟩)
    | .items ds record size =>
      match ds[index]? with
      | some d =>
        match decode d with
        | .ok a => .ok a
        | .error p => .error (index, p.under (.item index))
      | none =>
        match short with
        | some a => .ok a
        | none => .error (index, ⟨[], .tooShort index record size⟩)

/-- One more field at the end. -/
def and (fs : Fields (α → β)) (name : String) (decode : Decoder α) (absent short : Option α) :
    Fields β where
  names := fs.names ++ [name]
  read source index :=
    (fs.read source index).both
      ((one name decode absent short).read source (index + fs.names.length))

/-- One more field, which must be there. -/
def required (fs : Fields (α → β)) (name : String) (decode : Decoder α) : Fields β :=
  fs.and name decode none none

/-- One more field, which an object may lack or have as null; an array must have it. -/
def optional (fs : Fields (Option α → β)) (name : String) (decode : Decoder α) : Fields β :=
  fs.and name (Decoder.optional decode) (some none) none

/-- One more field, which may be absent and has the given value then. -/
def defaulted (fs : Fields (α → β)) (name : String) (decode : Decoder α) (value : α) : Fields β :=
  fs.and name decode (some value) (some value)

end Fields

/-- The first problem that the members have apart from the values of the fields: an illegible or
repeated key, or an illegible value of a member that no field names. -/
def memberProblem? (names : List String) (seen : List String) (place : Nat) :
    List (Option String × Draft) → Option (Nat × Problem)
  | [] => none
  | (none, _) :: _ => some (place, ⟨[], .illegible⟩)
  | (some key, d) :: rest =>
    if key ∈ names then
      if key ∈ seen then some (place, ⟨[], .duplicateField key⟩)
      else memberProblem? names (key :: seen) (place + 1) rest
    else if d.isLegible then memberProblem? names seen (place + 1) rest
    else some (place, ⟨[], .illegible⟩)

/-- A record, from an object or an array. -/
def record (name : String) (fs : Fields α) : Decoder α
  | .object ms =>
    match memberProblem? fs.names [] 0 ms, fs.read (.members ms) 0 with
    | none, .ok a => .ok a
    | none, .error e => .error e.2
    | some e, .ok _ => .error e.2
    | some e, .error e' => .error (earlier e e').2
  | .array ds =>
    match fs.read (.items ds name fs.names.length) 0 with
    | .error e => .error e.2
    | .ok a => if fs.names.length < ds.length then .error ⟨[], .tooLong ds.length⟩ else .ok a
  | d => .error (mismatch d ("struct " ++ name))

end Decoder
end PolicyAudit.Json
