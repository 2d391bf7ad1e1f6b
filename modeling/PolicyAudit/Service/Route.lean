import PolicyAudit.Text.Percent
import PolicyAudit.Uuid

/-! # Routes

A target is a path, or a whole address whose scheme and host do not matter.  A path is compared
literally, without its query.  Only the last segment of the path of one policy is read further: as
percent escapes of a text that names an id. -/

namespace PolicyAudit.Service

inductive Route where
  | health
  | policies
  /-- One policy; the segment of its path is not yet decoded. -/
  | policy (segment : String)
  | results
deriving DecidableEq, Repr

namespace Route

/-- The characters up to a query or a fragment. -/
def withoutQuery (cs : List Char) : List Char := cs.takeWhile fun c => c ≠ '?' && c ≠ '#'

/-- A character that the name of a scheme may have, at any place of it. -/
def isSchemeChar (c : Char) : Bool := c.isAlphanum || c ∈ ['+', '-', '.', '~']

/-- What stands behind the scheme of a whole address. -/
def behindScheme? (target : List Char) : Option (List Char) :=
  match target.dropWhile isSchemeChar with
  | ':' :: '/' :: '/' :: rest => some rest
  | _ => none

/-- The path of a target.  A whole address that ends with its host has the path `/`. -/
def pathOf (target : List Char) : List Char :=
  match behindScheme? target with
  | none => withoutQuery target
  | some rest =>
    match withoutQuery rest |>.dropWhile (· ≠ '/') with
    | [] => ['/']
    | path => path

def policiesPath : List Char := "/api/policies".toList

/-- The route of a path. -/
def ofPath? (path : List Char) : Option Route :=
  if path = "/health".toList then some health
  else if path = policiesPath then some policies
  else if path = "/api/results".toList then some results
  else if policiesPath.isPrefixOf path then
    match path.drop policiesPath.length with
    | '/' :: segment =>
      if segment = [] ∨ '/' ∈ segment then none else some (policy (String.ofList segment))
    | _ => none
  else none

/-- The methods that a route answers to, as its answer to other methods lists them. -/
def allow : Route → String
  | health => "GET,HEAD"
  | policies => "POST,GET,HEAD"
  | policy _ => "GET,HEAD,DELETE"
  | results => "POST"

end Route

/-- Why a segment is no id. -/
inductive SegmentError where
  | notUtf8
  | notId (cause : Uuid.ReadError)
deriving DecidableEq, Repr

def SegmentError.message : SegmentError → String
  | notUtf8 => "Invalid URL: Invalid UTF-8 in `id`"
  | notId cause => "Invalid URL: UUID parsing failed: " ++ cause.message

/-- The id that a segment names. -/
def readSegment (segment : String) : Except SegmentError Uuid :=
  match Text.percentDecodeText? segment with
  | none => .error .notUtf8
  | some s => (Uuid.read s).mapError .notId

end PolicyAudit.Service
