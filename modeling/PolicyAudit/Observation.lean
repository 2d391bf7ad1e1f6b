import PolicyAudit.Policy.Basic
import PolicyAudit.Status

/-! # Observations

A `Report` is the ordered outcome of one run: an `Observation` for each result that a policy asks
for.  An observation says which check was observed, on which subjects, with which verdict, and
points to the evidence without holding it. -/

namespace PolicyAudit

open Json (Decoder)

/-- A name with a value. -/
structure Property where
  name : String
  value : String
deriving DecidableEq, Repr

/-- A pointer to evidence. -/
structure Link where
  href : String
  description : String
deriving DecidableEq, Repr

/-- The host that an observation is about, with its verdict. -/
structure Subject where
  title : String
  type : String
  resourceId : String
  evaluatedOn : Instant
  result : Status
  reason : String
  props : List Property
deriving DecidableEq, Repr

structure Observation where
  title : String
  methods : List String
  collected : Instant
  checkId : String
  subjects : List Subject
  relevantEvidences : List Link
deriving DecidableEq, Repr

structure Report where
  observations : List Observation
deriving DecidableEq, Repr

namespace Property

def toJson (p : Property) : Json :=
  .object [("name", .string p.name), ("value", .string p.value)]

def decode : Decoder Property :=
  .record "Property" <| Decoder.Fields.pure Property.mk
    |>.required "name" .string
    |>.required "value" .string

end Property

namespace Link

def toJson (l : Link) : Json :=
  .object [("href", .string l.href), ("description", .string l.description)]

def decode : Decoder Link :=
  .record "Link" <| Decoder.Fields.pure Link.mk
    |>.required "href" .string
    |>.required "description" .string

end Link

namespace Subject

def toJson (s : Subject) : Json :=
  .object [("title", .string s.title), ("type", .string s.type),
    ("resource_id", .string s.resourceId), ("evaluated_on", s.evaluatedOn.toJson),
    ("result", s.result.toJson), ("reason", .string s.reason),
    ("props", .array (s.props.map Property.toJson))]

def decode : Decoder Subject :=
  .record "Subject" <| Decoder.Fields.pure Subject.mk
    |>.required "title" .string
    |>.required "type" .string
    |>.required "resource_id" .string
    |>.required "evaluated_on" Instant.decode
    |>.required "result" Status.decode
    |>.required "reason" .string
    |>.defaulted "props" (.list Property.decode) []

end Subject

namespace Observation

def toJson (o : Observation) : Json :=
  .object [("title", .string o.title), ("methods", .array (o.methods.map .string)),
    ("collected", o.collected.toJson), ("check_id", .string o.checkId),
    ("subjects", .array (o.subjects.map Subject.toJson)),
    ("relevant_evidences", .array (o.relevantEvidences.map Link.toJson))]

def decode : Decoder Observation :=
  .record "ObservationByCheck" <| Decoder.Fields.pure Observation.mk
    |>.required "title" .string
    |>.required "methods" (.list .string)
    |>.required "collected" Instant.decode
    |>.required "check_id" .string
    |>.required "subjects" (.list Subject.decode)
    |>.required "relevant_evidences" (.list Link.decode)

end Observation

namespace Report

def empty : Report := ⟨[]⟩

/-- Adds an observation at the end. -/
def push (r : Report) (o : Observation) : Report := ⟨r.observations ++ [o]⟩

/-- The number of observations. -/
def size (r : Report) : Nat := r.observations.length

def isEmpty (r : Report) : Bool := r.observations.isEmpty

def toJson (r : Report) : Json :=
  .object [("observations_by_check", .array (r.observations.map Observation.toJson))]

def decode : Decoder Report :=
  .record "PvpResult" <| Decoder.Fields.pure Report.mk
    |>.required "observations_by_check" (.list Observation.decode)

end Report
end PolicyAudit
