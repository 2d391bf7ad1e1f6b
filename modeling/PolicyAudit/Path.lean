/-! # Paths

A path is a text whose names are separated by slashes.  Its components are what matters to look it
up: empty names are dropped, and so is a single point, unless a relative path begins with it.  No
operation rewrites a path; joining only puts a slash between two of them. -/

namespace PolicyAudit

structure Path where
  text : String
deriving DecidableEq, Repr

namespace Path

inductive Component where
  /-- The top of all directories, in front of an absolute path. -/
  | root
  /-- The point at the front of a relative path. -/
  | current
  | parent
  | name (text : String)
deriving DecidableEq, Repr

/-- The parts of a text between its slashes; there is one part more than there are slashes. -/
def splitSlashes : List Char → List (List Char)
  | [] => [[]]
  | c :: cs =>
    if c = '/' then [] :: splitSlashes cs
    else match splitSlashes cs with
      | part :: parts => (c :: part) :: parts
      | [] => [[c]]

/-- The parts of a path, empty ones and points included. -/
def parts (p : Path) : List String := (splitSlashes p.text.toList).map String.ofList

def isAbsolute (p : Path) : Bool := p.text.toList.head? = some '/'

/-- The component of a part that is not at the front. -/
def component? (part : List Char) : Option Component :=
  if part = [] ∨ part = ['.'] then none
  else if part = ['.', '.'] then some .parent
  else some (.name (String.ofList part))

/-- The component at the very front of a path. -/
def front? (cs : List Char) : Option Component :=
  if cs.head? = some '/' then some .root
  else if (splitSlashes cs).head? = some ['.'] then some .current
  else none

def components (p : Path) : List Component :=
  let cs := p.text.toList
  (front? cs).toList ++ (splitSlashes cs).filterMap component?

/-- The second path inside the first; an absolute one stays what it is. -/
def join (p q : Path) : Path :=
  if q.isAbsolute then q
  else if p.text.isEmpty ∨ p.text.toList.getLast? = some '/' then ⟨p.text ++ q.text⟩
  else ⟨p.text ++ "/" ++ q.text⟩

/-- The components of the directory come first among those of the path. -/
def isInside (p directory : Path) : Bool := directory.components.isPrefixOf p.components

end Path
end PolicyAudit
