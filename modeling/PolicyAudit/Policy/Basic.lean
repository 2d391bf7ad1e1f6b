import PolicyAudit.CheckSet
import PolicyAudit.Instant.Rfc3339
import PolicyAudit.Json.Decoder
import PolicyAudit.Uuid

/-! # Policies

A policy is a snapshot of rules, each with the checks that implement it.  Rules and checks keep the
order of their declaration.

In JSON, the description of a check or a rule is left out when there is none, that of a policy is
null.  A rule may lack its checks, a policy must have its rules. -/

namespace PolicyAudit

/-! ### JSON of identifiers and instants -/

def Uuid.toJson (u : Uuid) : Json := .string u.text

def Uuid.decode : Json.Decoder Uuid :=
  Json.Decoder.parsed "a formatted UUID string" fun s =>
    (Uuid.read s).mapError fun e => "UUID parsing failed: " ++ e.message

def Instant.toJson (i : Instant) : Json := .string i.text

def Instant.decode : Json.Decoder Instant :=
  Json.Decoder.parsed "an RFC 3339 formatted date and time string" fun s =>
    (Instant.read s).mapError Instant.ReadError.message

/-! ### Types -/

/-- A check, identified by its short name. -/
structure PolicyCheck where
  id : String
  description : Option String
deriving DecidableEq, Repr

structure PolicyRule where
  ruleId : String
  description : Option String
  checks : List PolicyCheck
deriving DecidableEq, Repr

structure Policy where
  id : Uuid
  name : String
  description : Option String
  rules : List PolicyRule
  createdAt : Instant
deriving DecidableEq, Repr

/-- The members of an optional field that is left out when it is absent. -/
def Json.optionalMember (key : String) (encode : α → Json) : Option α → List (String × Json)
  | none => []
  | some a => [(key, encode a)]

open Json (Decoder)

namespace PolicyCheck

def toJson (c : PolicyCheck) : Json :=
  .object (("id", .string c.id) :: Json.optionalMember "description" .string c.description)

def decode : Decoder PolicyCheck :=
  .record "PolicyCheck" <| Decoder.Fields.pure PolicyCheck.mk
    |>.required "id" .string
    |>.defaulted "description" (.optional .string) none

end PolicyCheck

namespace PolicyRule

def toJson (r : PolicyRule) : Json :=
  .object (("rule_id", .string r.ruleId) ::
    (Json.optionalMember "description" .string r.description ++
      [("checks", .array (r.checks.map PolicyCheck.toJson))]))

def decode : Decoder PolicyRule :=
  .record "PolicyRule" <| Decoder.Fields.pure PolicyRule.mk
    |>.required "rule_id" .string
    |>.defaulted "description" (.optional .string) none
    |>.defaulted "checks" (.list PolicyCheck.decode) []

end PolicyRule

namespace Policy

def toJson (p : Policy) : Json :=
  .object [("id", p.id.toJson), ("name", .string p.name),
    ("description", Json.ofOption .string p.description),
    ("rules", .array (p.rules.map PolicyRule.toJson)), ("created_at", p.createdAt.toJson)]

def decode : Decoder Policy :=
  .record "Policy" <| Decoder.Fields.pure Policy.mk
    |>.required "id" Uuid.decode
    |>.required "name" .string
    |>.optional "description" .string
    |>.required "rules" (.list PolicyRule.decode)
    |>.required "created_at" Instant.decode

end Policy

/-! ### Checks of a policy -/

namespace CheckSet

/-- The names of the checks that the rules declare. -/
def ofRules (rules : List PolicyRule) : CheckSet :=
  ofList (rules.flatMap fun r => r.checks.map (·.id))

/-- The names of the checks that a policy declares. -/
def ofPolicy (p : Policy) : CheckSet := ofRules p.rules

theorem mem_ofRules {x : String} {rules : List PolicyRule} :
    x ∈ ofRules rules ↔ ∃ rule ∈ rules, ∃ check ∈ rule.checks, check.id = x := by
  rw [ofRules, mem_ofList]
  simp only [List.mem_flatMap, List.mem_map]

end CheckSet
end PolicyAudit
