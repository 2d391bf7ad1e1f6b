import PolicyAudit.Json.Draft
import PolicyAudit.Json.Decoder
import PolicyAudit.Service.Fault
import PolicyAudit.Service.MediaType

/-! # Requests and responses

A request body that should hold a model is read in three steps.  Its media type must be one of JSON,
and it must not have more than `maxBody` bytes.  Then it is decoded, and the first problem decides
on the answer: what is not JSON is told apart from what is JSON of another type. -/

namespace PolicyAudit.Service

structure Request where
  method : String
  /-- The path, perhaps with a query behind it. -/
  target : String
  contentType : Option String
  /-- The bytes of the body, which need not be UTF-8. -/
  body : List UInt8
deriving DecidableEq, Repr

inductive Body where
  | text (value : String)
  | json (value : Json)

structure Response where
  status : Nat
  body : Body
  /-- The methods that the path allows, where the method of the request is not one of them. -/
  allow : Option String

namespace Response

/-- An answer without a body. -/
def bare (status : Nat) : Response := ⟨status, .text "", none⟩

def text (status : Nat) (value : String) : Response := ⟨status, .text value, none⟩

def json (status : Nat) (value : Json) : Response := ⟨status, .json value, none⟩

def ofFault (f : Fault) : Response := json f.status f.toJson

/-- The same answer without its body. -/
def withoutBody (r : Response) : Response := ⟨r.status, .text "", r.allow⟩

end Response

/-- Why a body does not hold a model. -/
inductive BodyError where
  | mediaType
  | tooLarge
  | syntactic
  | model (problem : Json.Problem)
deriving DecidableEq, Repr

def BodyError.response : BodyError → Response
  | mediaType => .text 415 "Expected request with `Content-Type: application/json`"
  | tooLarge => .text 413 "Failed to buffer the request body: length limit exceeded"
  | syntactic => .text 400 "Failed to parse the request body as JSON"
  | model problem =>
    .text 422 ("Failed to deserialize the JSON body into the target type: " ++ problem.message)

/-- The request says that its body is JSON. -/
def Request.hasJsonType (r : Request) : Bool :=
  match r.contentType.bind MediaType.read? with
  | some m => m.isJson
  | none => false

/-- The greatest number of bytes of a body. -/
def maxBody : Nat := 2097152

/-- The model in the body of a request. -/
def Request.decodeBody (r : Request) (decode : Json.Decoder α) : Except BodyError α :=
  if r.hasJsonType then
    if r.body.length ≤ maxBody then
      match decode (Json.Draft.ofBytes r.body) with
      | .ok a => .ok a
      | .error p => if p.isSyntactic then .error .syntactic else .error (.model p)
    else .error .tooLarge
  else .error .mediaType

/-- A body of JSON is not looked at when it has too many bytes. -/
theorem Request.decodeBody_of_large {r : Request} {decode : Json.Decoder α}
    (htype : r.hasJsonType = true) (hlarge : maxBody < r.body.length) :
    r.decodeBody decode = .error .tooLarge := by
  rw [decodeBody, if_pos htype, if_neg (Nat.not_le.mpr hlarge)]

end PolicyAudit.Service
