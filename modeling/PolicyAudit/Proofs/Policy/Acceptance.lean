import PolicyAudit.Policy.Request

/-! # Why a policy is refused

A request for a policy is refused for its name before its rules are looked at.  After that, the
first rule with a blank check refuses it, and the refusal tells the description of the first such
check of that rule (`IsFirstBlank`).  `RefusedWith` lists the messages.

There is one refusal for each request that is not accepted, and no other request is refused.  An
accepted request becomes a policy with the same name, description and rules:
`fault?_eq_some_iff_isFirstBlank`. -/

namespace PolicyAudit.CreateRequest

/-! ### The first blank check -/

/-- No check of the rule has a blank name. -/
def HasNamedChecks (rule : PolicyRule) : Prop := ∀ check ∈ rule.checks, Text.trim check.id ≠ ""

/-- The first check of the rule with a blank name. -/
def IsFirstBlankOf (rule : PolicyRule) (check : PolicyCheck) : Prop :=
  ∃ before after, rule.checks = before ++ check :: after ∧ Text.trim check.id = "" ∧
    ∀ c ∈ before, Text.trim c.id ≠ ""

/-- The first rule that has a check with a blank name, and its first such check. -/
def IsFirstBlank (rules : List PolicyRule) (rule : PolicyRule) (check : PolicyCheck) : Prop :=
  ∃ before after, rules = before ++ rule :: after ∧ IsFirstBlankOf rule check ∧
    ∀ r ∈ before, HasNamedChecks r

theorem blankCheck?_eq_none_iff {rule : PolicyRule} :
    blankCheck? rule = none ↔ HasNamedChecks rule := by
  simp only [blankCheck?, List.find?_eq_none, HasNamedChecks, ne_eq, Text.trim_eq_empty_iff]

theorem blankCheck?_eq_some_iff {rule : PolicyRule} {check : PolicyCheck} :
    blankCheck? rule = some check ↔ IsFirstBlankOf rule check := by
  rw [blankCheck?, List.find?_eq_some_iff_append, IsFirstBlankOf]
  simp only [Bool.not_eq_true', ne_eq, Text.trim_eq_empty_iff, Bool.not_eq_true]
  constructor
  · rintro ⟨hblank, before, after, hchecks, hbefore⟩
    exact ⟨before, after, hchecks, hblank, hbefore⟩
  · rintro ⟨before, after, hchecks, hblank, hbefore⟩
    exact ⟨hblank, before, after, hchecks, hbefore⟩

/-- The first rule with a blank check, together with that check. -/
def firstBlank? (rules : List PolicyRule) : Option (PolicyRule × PolicyCheck) :=
  rules.findSome? fun r => (blankCheck? r).map (r, ·)

theorem firstBlank?_eq_some_iff {rules : List PolicyRule} {rule : PolicyRule}
    {check : PolicyCheck} :
    firstBlank? rules = some (rule, check) ↔ IsFirstBlank rules rule check := by
  simp only [firstBlank?, List.findSome?_eq_some_iff, Option.map_eq_some_iff,
    Option.map_eq_none_iff, Prod.mk.injEq, blankCheck?_eq_none_iff, blankCheck?_eq_some_iff]
  constructor
  · rintro ⟨before, r, after, hrules, ⟨c, hcheck, rfl, rfl⟩, hbefore⟩
    exact ⟨before, after, hrules, hcheck, hbefore⟩
  · rintro ⟨before, after, hrules, hcheck, hbefore⟩
    exact ⟨before, rule, after, hrules, ⟨check, hcheck, rfl, rfl⟩, hbefore⟩

/-- A list of rules has one first blank check at most. -/
theorem IsFirstBlank.unique {rules : List PolicyRule} {rule rule' : PolicyRule}
    {check check' : PolicyCheck} (h : IsFirstBlank rules rule check)
    (h' : IsFirstBlank rules rule' check') : rule = rule' ∧ check = check' := by
  have hpair : some (rule, check) = some (rule', check') :=
    (firstBlank?_eq_some_iff.mpr h).symm.trans (firstBlank?_eq_some_iff.mpr h')
  simpa using hpair

theorem ruleFault?_eq_map (rules : List PolicyRule) :
    ruleFault? rules =
      (firstBlank? rules).map fun p => .blankCheck p.1.ruleId p.2.description := by
  rw [ruleFault?, firstBlank?, List.map_findSome?]
  simp only [Option.map_map, Function.comp_def]

theorem ruleFault?_eq_some_iff {rules : List PolicyRule} {f : Fault} :
    ruleFault? rules = some f ↔
      ∃ rule check, IsFirstBlank rules rule check ∧
        f = .blankCheck rule.ruleId check.description := by
  simp only [ruleFault?_eq_map, Option.map_eq_some_iff, Prod.exists, firstBlank?_eq_some_iff,
    eq_comm (a := f)]

/-! ### Refusals -/

section

variable {r : CreateRequest}

theorem fault?_of_blank (h : Text.trim r.name = "") : r.fault? = some .blankName := by
  rw [fault?, if_pos ((Text.trim_eq_empty_iff _).mp h)]

theorem fault?_of_named (h : Text.trim r.name ≠ "") : r.fault? = ruleFault? r.rules := by
  rw [fault?, if_neg (mt (Text.trim_eq_empty_iff _).mpr h)]

theorem fault?_eq_some_iff {f : Fault} :
    r.fault? = some f ↔
      (Text.trim r.name = "" ∧ f = .blankName) ∨
        (Text.trim r.name ≠ "" ∧ ∃ rule check, IsFirstBlank r.rules rule check ∧
          f = .blankCheck rule.ruleId check.description) := by
  by_cases hname : Text.trim r.name = ""
  · simp [fault?_of_blank hname, hname, eq_comm]
  · simp [fault?_of_named hname, hname, ruleFault?_eq_some_iff]

/-- The request is refused with the message. -/
inductive RefusedWith (r : CreateRequest) : String → Prop
  | name : Text.trim r.name = "" → RefusedWith r "Invalid policy: policy name must be set"
  | check {rule : PolicyRule} {check : PolicyCheck} :
      Text.trim r.name ≠ "" → IsFirstBlank r.rules rule check → check.description = none →
      RefusedWith r ("Invalid policy: rule '" ++ rule.ruleId ++
        "' declares a check with an empty id")
  | describedCheck {rule : PolicyRule} {check : PolicyCheck} {description : String} :
      Text.trim r.name ≠ "" → IsFirstBlank r.rules rule check →
      check.description = some description →
      RefusedWith r ("Invalid policy: rule '" ++ rule.ruleId ++
        "' declares a check with an empty id (" ++ description ++ ")")

theorem message_blankCheck_none (ruleId : String) :
    (Fault.blankCheck ruleId none).message =
      "Invalid policy: rule '" ++ ruleId ++ "' declares a check with an empty id" := by
  have hfront : "Invalid policy: rule '" = "Invalid policy: " ++ "rule '" := rfl
  rw [hfront]
  simp only [Fault.message, invalidPolicy, Fault.reason, String.append_empty, String.append_assoc]

theorem message_blankCheck_some (ruleId description : String) :
    (Fault.blankCheck ruleId (some description)).message =
      "Invalid policy: rule '" ++ ruleId ++ "' declares a check with an empty id (" ++
        description ++ ")" := by
  have hfront : "Invalid policy: rule '" = "Invalid policy: " ++ "rule '" := rfl
  have hopen : "' declares a check with an empty id (" =
      "' declares a check with an empty id" ++ " (" := rfl
  rw [hfront, hopen]
  simp only [Fault.message, invalidPolicy, Fault.reason, String.append_assoc]

/-- A request is refused exactly with the messages of `RefusedWith`. -/
theorem exists_fault?_iff_refusedWith {message : String} :
    (∃ f, r.fault? = some f ∧ f.message = message) ↔ RefusedWith r message := by
  constructor
  · rintro ⟨f, hf, rfl⟩
    rcases fault?_eq_some_iff.mp hf with ⟨hname, rfl⟩ | ⟨hname, rule, check, hfirst, rfl⟩
    · exact .name hname
    · cases hdescription : check.description with
      | none =>
        rw [message_blankCheck_none]
        exact .check hname hfirst hdescription
      | some description =>
        rw [message_blankCheck_some]
        exact .describedCheck hname hfirst hdescription
  · intro h
    cases h with
    | name hname => exact ⟨.blankName, fault?_of_blank hname, rfl⟩
    | check hname hfirst hdescription =>
      refine ⟨_, fault?_eq_some_iff.mpr (.inr ⟨hname, _, _, hfirst, rfl⟩), ?_⟩
      rw [hdescription, message_blankCheck_none]
    | describedCheck hname hfirst hdescription =>
      refine ⟨_, fault?_eq_some_iff.mpr (.inr ⟨hname, _, _, hfirst, rfl⟩), ?_⟩
      rw [hdescription, message_blankCheck_some]

end

/-- Which requests are accepted, and why the others are refused.  A request is accepted if neither
its name nor that of a check is blank.  A blank name is the only fault that is told of a request
that has one; otherwise it is the first blank check of the first rule that has any, with the
description of this check alone.  The policy of an accepted request keeps its name, its description
and its rules in their order, so that the same fields are accepted again. -/
theorem fault?_eq_some_iff_isFirstBlank (r : CreateRequest) :
    (r.fault? = none ↔ Text.trim r.name ≠ "" ∧
      ∀ rule ∈ r.rules, ∀ check ∈ rule.checks, Text.trim check.id ≠ "") ∧
    (∀ f, r.fault? = some f ↔
      (Text.trim r.name = "" ∧ f = .blankName) ∨
        (Text.trim r.name ≠ "" ∧ ∃ rule check, IsFirstBlank r.rules rule check ∧
          f = .blankCheck rule.ruleId check.description)) ∧
    (∀ message, (∃ f, r.fault? = some f ∧ f.message = message) ↔ RefusedWith r message) ∧
    (∀ rule check rule' check', IsFirstBlank r.rules rule check →
      IsFirstBlank r.rules rule' check' → rule = rule' ∧ check = check') ∧
    (r.fault? = none → ∀ id createdAt,
      let p := r.toPolicy id createdAt
      p.name = r.name ∧ p.description = r.description ∧ p.rules = r.rules ∧
        fault? ⟨p.name, p.description, p.rules⟩ = none) := by
  refine ⟨fault?_eq_none_iff, fun _ => fault?_eq_some_iff, fun _ => exists_fault?_iff_refusedWith,
    fun _ _ _ _ h h' => h.unique h', fun haccepted id createdAt => ?_⟩
  exact ⟨rfl, rfl, rfl, haccepted⟩

/-- A rule with two blank checks, both described, behind one that is named. -/
def sampleBlankRule : PolicyRule :=
  ⟨"rule2", none, [⟨"sshd_enabled", none⟩, ⟨"\u2003", some "first"⟩, ⟨"", some "second"⟩]⟩

def sampleNamedRule : PolicyRule := ⟨"rule1", none, [⟨" sshd_enabled", some "named"⟩]⟩

/-- A request with blank checks in two of its rules. -/
def sampleRefused : CreateRequest :=
  ⟨"ssh", none, [sampleNamedRule, sampleBlankRule, ⟨"rule3", none, [⟨" ", none⟩]⟩]⟩

def sampleAccepted : CreateRequest := ⟨"ssh", some "", [sampleNamedRule, ⟨"rule2", none, []⟩]⟩

theorem fault?_eq_some_iff_isFirstBlank_sample :
    IsFirstBlank sampleRefused.rules sampleBlankRule ⟨"\u2003", some "first"⟩ ∧
    (∃ f, sampleRefused.fault? = some f ∧
      f.message = "Invalid policy: rule 'rule2' declares a check with an empty id (first)") ∧
    (∀ rule check, IsFirstBlank sampleRefused.rules rule check →
      check.description = some "first") ∧
    sampleAccepted.fault? = none ∧
    (sampleAccepted.toPolicy (.ofNat 7) ⟨⟨2017, 1, 1, by decide⟩, ⟨0, 0, by decide⟩⟩).rules =
      [sampleNamedRule, ⟨"rule2", none, []⟩] := by
  have hfirst : IsFirstBlank sampleRefused.rules sampleBlankRule ⟨"\u2003", some "first"⟩ :=
    ⟨[sampleNamedRule], _, rfl, ⟨[⟨"sshd_enabled", none⟩], _, rfl, by decide, by decide⟩,
      List.forall_mem_singleton.mpr (List.forall_mem_singleton.mpr (by decide))⟩
  obtain ⟨-, -, hmessage, hunique, -⟩ := fault?_eq_some_iff_isFirstBlank sampleRefused
  obtain ⟨haccepted, -, -, -, hkept⟩ := fault?_eq_some_iff_isFirstBlank sampleAccepted
  have hnone : sampleAccepted.fault? = none := haccepted.mpr (by decide)
  refine ⟨hfirst, (hmessage _).mpr (.describedCheck (by decide) hfirst rfl), ?_, hnone,
    (hkept hnone _ _).2.2.1⟩
  intro rule check h
  rw [← (hunique _ _ _ _ hfirst h).2]

end PolicyAudit.CreateRequest
