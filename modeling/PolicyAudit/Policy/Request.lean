import PolicyAudit.Policy.Basic
import PolicyAudit.Text.Blank

/-! # Requests about policies

A `CreateRequest` asks for a new policy.  It is acceptable when its name is not blank and no check of
any rule has a blank name; `CreateRequest.fault?` names what stands in the way, the policy's name
before the rules and an earlier rule before a later one.

A `ResultsRequest` asks for a report on a stored policy, perhaps from a results document of its
own. -/

namespace PolicyAudit

open Json (Decoder)

structure CreateRequest where
  name : String
  description : Option String
  rules : List PolicyRule
deriving DecidableEq, Repr

namespace CreateRequest

def toJson (r : CreateRequest) : Json :=
  .object [("name", .string r.name), ("description", Json.ofOption .string r.description),
    ("rules", .array (r.rules.map PolicyRule.toJson))]

def decode : Decoder CreateRequest :=
  .record "CreatePolicyRequest" <| Decoder.Fields.pure CreateRequest.mk
    |>.required "name" .string
    |>.optional "description" .string
    |>.defaulted "rules" (.list PolicyRule.decode) []

/-! ### Acceptance -/

/-- Why a request is refused. -/
inductive Fault where
  | blankName
  /-- A rule has a check with a blank name; the description is that of its first such check. -/
  | blankCheck (ruleId : String) (description : Option String)
deriving DecidableEq, Repr

/-- The message about a policy that is refused for some reason. -/
def invalidPolicy (reason : String) : String := "Invalid policy: " ++ reason

def Fault.reason : Fault → String
  | blankName => "policy name must be set"
  | blankCheck ruleId description =>
    "rule '" ++ ruleId ++ "' declares a check with an empty id" ++
      match description with
      | none => ""
      | some d => " (" ++ d ++ ")"

def Fault.message (f : Fault) : String := invalidPolicy f.reason

/-- The first check of a rule with a blank name. -/
def blankCheck? (r : PolicyRule) : Option PolicyCheck :=
  r.checks.find? fun c => Text.isBlankText c.id

/-- The first rule with such a check, as a fault. -/
def ruleFault? (rules : List PolicyRule) : Option Fault :=
  rules.findSome? fun r => (blankCheck? r).map fun c => .blankCheck r.ruleId c.description

/-- The first fault of a request. -/
def fault? (r : CreateRequest) : Option Fault :=
  if Text.isBlankText r.name then some .blankName else ruleFault? r.rules

/-- A request is accepted if neither its name nor that of a check is blank. -/
theorem fault?_eq_none_iff {r : CreateRequest} :
    r.fault? = none ↔ Text.trim r.name ≠ "" ∧
      ∀ rule ∈ r.rules, ∀ check ∈ rule.checks, Text.trim check.id ≠ "" := by
  have hrules : ruleFault? r.rules = none ↔
      ∀ rule ∈ r.rules, ∀ check ∈ rule.checks, Text.trim check.id ≠ "" := by
    simp [ruleFault?, blankCheck?, Text.trim_eq_empty_iff]
  rw [fault?, ← hrules, ne_eq, Text.trim_eq_empty_iff]
  by_cases hname : Text.isBlankText r.name = true <;> simp [hname]

/-- The policy that an accepted request becomes. -/
def toPolicy (r : CreateRequest) (id : Uuid) (createdAt : Instant) : Policy where
  id := id
  name := r.name
  description := r.description
  rules := r.rules
  createdAt := createdAt

end CreateRequest

structure ResultsRequest where
  policyId : Uuid
  /-- The results document to read, instead of the configured one. -/
  resultsPath : Option String
deriving DecidableEq, Repr

namespace ResultsRequest

def toJson (r : ResultsRequest) : Json :=
  .object [("policy_id", r.policyId.toJson),
    ("results_path", Json.ofOption .string r.resultsPath)]

def decode : Decoder ResultsRequest :=
  .record "GetResultsRequest" <| Decoder.Fields.pure ResultsRequest.mk
    |>.required "policy_id" Uuid.decode
    |>.optional "results_path" .string

end ResultsRequest
end PolicyAudit
