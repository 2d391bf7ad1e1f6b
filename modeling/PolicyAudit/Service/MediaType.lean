/-! # Media types

A media type is a type and a subtype with a slash between them, both made of token characters, and
parameters behind semicolons.  The last plus sign in the subtype, unless it stands in front,
separates a suffix.  Parameters have a name and a value, which may be quoted; blanks may stand in
front of a name and behind a quoted value. -/

namespace PolicyAudit.Service

/-- The parts of a media type, in lower case. -/
structure MediaType where
  type : String
  subtype : String
  suffix : Option String
deriving DecidableEq, Repr

namespace MediaType

/-- The characters that types, subtypes and unquoted values are made of. -/
def isToken (c : Char) : Bool :=
  c.isAlphanum || c ∈ "!#$%&'*+-.^_`|~".toList

/-- Where the reader of parameters stands. -/
inductive ParameterState where
  /-- In front of a name. -/
  | start
  | name
  /-- Right behind the equals sign. -/
  | valueStart
  | value
  /-- In a quoted value that has no character yet. -/
  | quoteStart
  | quoted
  /-- Behind a quoted value. -/
  | quoteEnd
deriving DecidableEq, Repr

/-- The state behind a character; none if the character may not stand there. -/
def ParameterState.next? (s : ParameterState) (c : Char) : Option ParameterState :=
  match s with
  | start => if c = ' ' then some start else if isToken c then some name else none
  | name => if c = '=' then some valueStart else if isToken c then some name else none
  | valueStart => if c = '"' then some quoteStart else if isToken c then some value else none
  | value => if c = ';' then some start else if isToken c then some value else none
  | quoteStart => if c.toNat < 0x20 ∨ c.toNat = 0x7f then none else some quoted
  | quoted =>
    if c = '"' then some quoteEnd
    else if c.toNat < 0x20 ∨ c.toNat = 0x7f then none
    else some quoted
  | quoteEnd => if c = ';' then some start else if c = ' ' then some quoteEnd else none

/-- The text may end here. -/
def ParameterState.isFinal : ParameterState → Bool
  | name => false
  | quoteStart => false
  | quoted => false
  | _ => true

/-- The characters behind a semicolon are parameters. -/
def areParameters (s : ParameterState) : List Char → Bool
  | [] => s.isFinal
  | c :: cs =>
    match s.next? c with
    | some s => areParameters s cs
    | none => false

/-- The subtype and the suffix, split at the last plus sign that has something in front. -/
def splitSuffix (subtype : List Char) : String × Option String :=
  let suffix := (subtype.reverse.takeWhile (· ≠ '+')).reverse
  let front := subtype.take (subtype.length - suffix.length - 1)
  if suffix.length = subtype.length ∨ front.isEmpty then (String.ofList subtype, none)
  else (String.ofList front, some (String.ofList suffix))

/-- The media type that a text names. -/
def read? (s : String) : Option MediaType :=
  if s.toList.any fun c => c.toNat < 0x20 || 0x7e < c.toNat then none
  else
    let cs := s.toLower.toList
    let type := cs.takeWhile isToken
    match cs.drop type.length with
    | '/' :: rest =>
      let subtype := rest.takeWhile isToken
      let parameters := match rest.drop subtype.length with
        | [] => true
        | ';' :: ps => areParameters .start ps
        | _ => false
      if type.isEmpty || subtype.isEmpty || !parameters then none
      else
        let (subtype, suffix) := splitSuffix subtype
        some ⟨String.ofList type, subtype, suffix⟩
    | _ => none

/-- The type of JSON texts, or of texts that are JSON by their suffix. -/
def isJson (m : MediaType) : Bool :=
  m.type = "application" && (m.subtype = "json" || m.suffix = some "json")

end MediaType
end PolicyAudit.Service
