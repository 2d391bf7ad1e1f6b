import PolicyAudit.Policy.Request
import PolicyAudit.PolicyStore
import PolicyAudit.Scan.Correlation

/-! # Faults of the service

A request that cannot be served is answered by a `Fault`, which has a status, a code and a message.
Errors of the other parts of the library become faults here. -/

namespace PolicyAudit.Service

inductive Fault where
  | notFound (what : String)
  | badRequest (what : String)
  | documentIntegrity (what : String)
  | unrecognizedStatus (what : String)
  | internal (what : String)
deriving DecidableEq, Repr

namespace Fault

def message : Fault → String
  | notFound what => "Not found: " ++ what
  | badRequest what => "Bad request: " ++ what
  | documentIntegrity what => "Document integrity error: " ++ what
  | unrecognizedStatus what => "Unrecognized status: " ++ what
  | internal what => "Internal error: " ++ what

/-- The status of the answer. -/
def status : Fault → Nat
  | notFound _ => 404
  | badRequest _ => 400
  | documentIntegrity _ => 422
  | unrecognizedStatus _ => 422
  | internal _ => 500

/-- The word for the kind of fault. -/
def code : Fault → String
  | notFound _ => "not_found"
  | badRequest _ => "bad_request"
  | documentIntegrity _ => "document_integrity_error"
  | unrecognizedStatus _ => "unrecognized_status_error"
  | internal _ => "internal_error"

/-- The body of the answer. -/
def toJson (f : Fault) : Json :=
  .object [("error", .string f.code), ("message", .string f.message)]

/-- A policy that is taken already is the requester's mistake. -/
def ofStore (e : StoreError) : Fault :=
  match e with
  | .notFound what => notFound what
  | .alreadyExists what => badRequest what
  | .internal _ => internal e.message

def ofRequest (e : CreateRequest.Fault) : Fault := badRequest e.message

/-- An outcome that is no verdict is told apart from every other defect of a document. -/
def ofCorrelation (e : Scan.CorrelationError) : Fault :=
  if e.isDocumentIntegrity then documentIntegrity e.message else unrecognizedStatus e.message

end Fault
end PolicyAudit.Service
