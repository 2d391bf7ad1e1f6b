import PolicyAudit.Json.Number

/-! # JSON values

`Json` is the tree of a JSON text; the members of an object stand in a list, in their order.
`Json.sorted` brings the members of every object into the order of their keys, by code points, and
keeps the last of several members with one key.  `Json.render` writes the tree without blanks. -/

namespace PolicyAudit

inductive Json where
  | null
  | bool (value : Bool)
  | number (value : Json.Number)
  | string (value : String)
  | array (items : List Json)
  | object (members : List (String × Json))

namespace Json

instance : Inhabited Json := ⟨null⟩

/-- A whole number that is not negative. -/
def ofNat (n : Nat) : Json := number (.unsigned n)

/-- Null for an absent value. -/
def ofOption (encode : α → Json) : Option α → Json
  | none => null
  | some a => encode a

/-- The value of a member of an object, the last one if the key is repeated. -/
def field? (key : String) : Json → Option Json
  | object members => (members.reverse.find? (·.1 = key)).map (·.2)
  | _ => none

def string? : Json → Option String
  | string s => some s
  | _ => none

def array? : Json → Option (List Json)
  | array items => some items
  | _ => none

/-! ### Order of members -/

/-- Puts a member at its place by key, instead of one with the same key. -/
def insertMember (key : String) (value : Json) : List (String × Json) → List (String × Json)
  | [] => [(key, value)]
  | (k, v) :: rest =>
    if key < k then (key, value) :: (k, v) :: rest
    else if key = k then (key, value) :: rest
    else (k, v) :: insertMember key value rest

mutual

/-- The same value with the members of each object in the order of their keys. -/
def sorted : Json → Json
  | array items => array (sortedItems items)
  | object members => object (sortedMembers members [])
  | value => value

def sortedItems : List Json → List Json
  | [] => []
  | item :: items => item.sorted :: sortedItems items

def sortedMembers : List (String × Json) → List (String × Json) → List (String × Json)
  | [], done => done
  | (key, value) :: rest, done => sortedMembers rest (insertMember key value.sorted done)

end

/-! ### Text -/

/-- One character of a string as JSON writes it. -/
def escapeChar (c : Char) : String :=
  if c = '"' then "\\\""
  else if c = '\\' then "\\\\"
  else if c = '\n' then "\\n"
  else if c = '\r' then "\\r"
  else if c = '\t' then "\\t"
  else if c = '\x08' then "\\b"
  else if c = '\x0c' then "\\f"
  else if c.toNat < 0x10 then "\\u000" ++ String.ofList (Nat.toDigits 16 c.toNat)
  else if c.toNat < 0x20 then "\\u00" ++ String.ofList (Nat.toDigits 16 c.toNat)
  else c.toString

/-- A string in its quotes. -/
def renderString (s : String) : String :=
  s.foldl (fun text c => text ++ escapeChar c) "\"" ++ "\""

mutual

/-- The text of a value, without blanks. -/
def render : Json → String
  | null => "null"
  | bool true => "true"
  | bool false => "false"
  | number n => n.text
  | string s => renderString s
  | array items => "[" ++ renderItems items ++ "]"
  | object members => "\x7b" ++ renderMembers members ++ "\x7d"

def renderItems : List Json → String
  | [] => ""
  | [item] => item.render
  | item :: items => item.render ++ "," ++ renderItems items

def renderMembers : List (String × Json) → String
  | [] => ""
  | [(key, value)] => renderString key ++ ":" ++ value.render
  | (key, value) :: members =>
    renderString key ++ ":" ++ value.render ++ "," ++ renderMembers members

end

end Json
end PolicyAudit
