import Mathlib.Logic.Function.Basic
import PolicyAudit.Proofs.Service.Confinement
import PolicyAudit.Proofs.Service.Variables

/-! # The document of a request without a path

A request that names no path is about the document that the variables configure.  Their path is
joined to the workspace like the relative path of a request, but nothing looks at where it leads:
any text that is not blank is taken (`ofLookup_withResultsPath`), and as an absolute path replaces
the workspace in front of it, the document can be anywhere.

It is in the workspace without such a text, and otherwise under conditions on the text that a
request has to meet as well: `default_document_liesIn_iff`.  The variables need not meet them
(`default_document_outside_workspace`). -/

namespace PolicyAudit.Service.Config

open PolicyAudit.Path (Component)

variable {lookup : String → Option String} {currentDirectory : Path} {c : Config} {text : String}

/-! ### Other paths -/

/-- The variables with another path of the results document. -/
def withResultsPath (lookup : String → Option String) (text : String) : String → Option String :=
  Function.update lookup resultsPathVariable (some text)

theorem value?_withResultsPath (lookup : String → Option String) (text name : String)
    (h : name ≠ resultsPathVariable) :
    value? (withResultsPath lookup text) name = value? lookup name := by
  rw [value?, value?, withResultsPath, Function.update_of_ne h]

theorem draft_withResultsPath (htext : Text.trim text ≠ "") :
    draft (withResultsPath lookup text) currentDirectory =
      (draft lookup currentDirectory).map fun c =>
        { c with resultsPath := c.workspace.join ⟨text⟩ } := by
  have hgiven : value? (withResultsPath lookup text) resultsPathVariable = some text :=
    value?_eq_some_iff.mpr ⟨Function.update_self _ _ _, htext⟩
  have hport : portOf (withResultsPath lookup text) = portOf lookup := by
    rw [portOf, portOf, value?_withResultsPath lookup text portVariable (by decide)]
  rw [draft, draft, value?_withResultsPath lookup text profileVariable (by decide), hport]
  cases value? lookup profileVariable with
  | none => rfl
  | some profile =>
    cases portOf lookup with
    | error e => rfl
    | ok port =>
      simp only [Except.map, described, value?_withResultsPath lookup text hostVariable (by decide),
        value?_withResultsPath lookup text workspaceVariable (by decide), hgiven]

/-- Whatever path is given for the results document, it decides on nothing else. -/
theorem ofLookup_withResultsPath (lookup : String → Option String) (currentDirectory : Path)
    (htext : Text.trim text ≠ "") :
    ofLookup (withResultsPath lookup text) currentDirectory =
      (ofLookup lookup currentDirectory).map fun c =>
        { c with resultsPath := c.workspace.join ⟨text⟩ } := by
  rw [ofLookup_eq_bind, ofLookup_eq_bind, draft_withResultsPath htext]
  cases draft lookup currentDirectory with
  | error e => rfl
  | ok c =>
    -- The validation does not look at the path.
    have hvalidate : ({ c with resultsPath := c.workspace.join ⟨text⟩ } : Config).validate =
        c.validate := rfl
    simp only [Except.map, Except.bind, hvalidate]
    cases c.validate <;> rfl

/-! ### Where paths lead -/

/-- The path of a request leads where the same text leads as a configured path, or nowhere. -/
theorem resolve?_eq_some_iff_liesIn (hvalid : c.validate = .ok ()) {q : Path} :
    c.resolve? (some text) = some q ↔
      q = c.workspace.join ⟨text⟩ ∧ (c.workspace.join ⟨text⟩).LiesIn c.workspace ∧
        ((⟨text⟩ : Path).isAbsolute = true → Component.parent ∉ c.workspace.components) := by
  rw [resolve?_eq_some_iff]
  cases habsolute : (⟨text⟩ : Path).isAbsolute with
  | true =>
    rw [Path.join_of_absolute habsolute]
    constructor
    · rintro ⟨hparent, ⟨-, ⟨rest, hrest⟩, rfl⟩ | ⟨hrelative, -⟩⟩
      · rw [← hrest, List.mem_append, not_or] at hparent
        exact ⟨rfl, ⟨rest, hrest.symm, hparent.2⟩, fun _ => hparent.1⟩
      · cases hrelative
    · rintro ⟨rfl, hlies, hworkspace⟩
      refine ⟨fun hparent => hworkspace rfl (hlies.parent_mem_iff.mp hparent), .inl ⟨rfl, ?_, rfl⟩⟩
      exact (Path.liesIn_iff.mp hlies).1
  | false =>
    rw [Path.liesIn_join_iff (workspace_ne_empty hvalid) habsolute]
    constructor
    · rintro ⟨hparent, ⟨habsolute', -⟩ | ⟨-, rfl⟩⟩
      · cases habsolute'
      · exact ⟨rfl, hparent, nofun⟩
    · rintro ⟨rfl, hparent, -⟩
      exact ⟨hparent, .inr ⟨rfl, rfl⟩⟩

/-- A request that names no path reads the configured document, which is at the configured path from
the workspace or, if that path is absolute, at the path alone.  It lies in the workspace exactly if
an absolute path does and a relative one never leads up, and in particular without a configured
path.  In a request the same path leads to the same document or nowhere: it is refused if the
document lies outside, and if it is absolute although the workspace itself leads up.  No path is
refused that the variables give. -/
theorem default_document_liesIn_iff (h : ofLookup lookup currentDirectory = .ok c) :
    ∃ text p, Sets lookup "SCAP_RESULTS_PATH" "openscap/results/arf.xml" text ∧
      c.resolve? none = some p ∧
      ((⟨text⟩ : Path).isAbsolute = true → p = ⟨text⟩) ∧
      ((⟨text⟩ : Path).isAbsolute = false →
        p.components = c.workspace.components ++ (⟨text⟩ : Path).steps) ∧
      (p.LiesIn c.workspace ↔
        ((⟨text⟩ : Path).isAbsolute = true ∧ (⟨text⟩ : Path).LiesIn c.workspace) ∨
          ((⟨text⟩ : Path).isAbsolute = false ∧
            Component.parent ∉ (⟨text⟩ : Path).components)) ∧
      (LeavesOpen lookup "SCAP_RESULTS_PATH" → p.LiesIn c.workspace) ∧
      (∀ q, c.resolve? (some text) = some q ↔ q = p ∧ p.LiesIn c.workspace ∧
        ((⟨text⟩ : Path).isAbsolute = true → Component.parent ∉ c.workspace.components)) ∧
      ∀ other, Text.trim other ≠ "" → ofLookup (withResultsPath lookup other) currentDirectory =
        .ok { c with resultsPath := c.workspace.join ⟨other⟩ } := by
  obtain ⟨hdraft, hvalid⟩ := ofLookup_eq_ok_iff.mp h
  have hworkspace : c.workspace.text ≠ "" := workspace_ne_empty hvalid
  obtain ⟨text, htext, hpath⟩ := (draft_eq_ok_iff.mp hdraft).resultsPath
  refine ⟨text, c.workspace.join ⟨text⟩, htext, congrArg some hpath, Path.join_of_absolute,
    Path.components_join hworkspace, ?_, ?_, fun q => resolve?_eq_some_iff_liesIn hvalid, ?_⟩
  · cases habsolute : (⟨text⟩ : Path).isAbsolute with
    | true => simp [Path.join_of_absolute habsolute]
    | false => simp [Path.liesIn_join_iff hworkspace habsolute]
  · intro hopen
    rcases htext with hgives | ⟨-, rfl⟩
    · exact absurd hgives hopen.not_gives
    · exact (Path.liesIn_join_iff hworkspace (by decide)).mpr (by decide)
  · intro other hother
    rw [ofLookup_withResultsPath _ _ hother, h]
    rfl

/-- A workspace and a path of the results document. -/
def scanVariables (resultsPath : String) : String → Option String
  | "SCAP_WORKSPACE" => some "/srv/scans"
  | "SCAP_PROFILE" => some "cis"
  | "SCAP_RESULTS_PATH" => some resultsPath
  | _ => none

/-- The configuration that follows the variables. -/
def scanConfig (resultsPath : Path) : Config :=
  { Config.new ⟨"/srv/scans"⟩ "cis" with resultsPath := resultsPath }

/-- A path that leads up, and a blank one. -/
theorem default_document_liesIn_iff_sample :
    let shared : Path := ⟨"/srv/scans/../shared/arf.xml"⟩
    let usual : Path := ⟨"/srv/scans/openscap/results/arf.xml"⟩
    ofLookup (scanVariables "../shared/arf.xml") ⟨"/"⟩ = .ok (scanConfig shared) ∧
    (scanConfig shared).resolve? none = some shared ∧ ¬ shared.LiesIn ⟨"/srv/scans"⟩ ∧
    (∀ q, (scanConfig shared).resolve? (some "../shared/arf.xml") ≠ some q) ∧
    ofLookup (withResultsPath (scanVariables "../shared/arf.xml") "/etc/shadow") ⟨"/"⟩ =
      .ok (scanConfig ⟨"/etc/shadow"⟩) ∧
    ofLookup (scanVariables " ") ⟨"/"⟩ = .ok (scanConfig usual) ∧
    LeavesOpen (scanVariables " ") "SCAP_RESULTS_PATH" ∧ usual.LiesIn ⟨"/srv/scans"⟩ := by
  intro shared usual
  have hconfig : ofLookup (scanVariables "../shared/arf.xml") ⟨"/"⟩ = .ok (scanConfig shared) := by
    decide +kernel
  obtain ⟨text, p, htext, hp, -, -, hlies, -, hrequest, hother⟩ :=
    default_document_liesIn_iff hconfig
  obtain rfl : text = "../shared/arf.xml" := htext.unique (.inl ⟨rfl, by decide⟩)
  obtain rfl : shared = p := Option.some.inj hp
  have houtside : ¬ shared.LiesIn (scanConfig shared).workspace := by
    rw [hlies]
    decide
  have husual : ofLookup (scanVariables " ") ⟨"/"⟩ = .ok (scanConfig usual) := by decide +kernel
  have hopen : LeavesOpen (scanVariables " ") "SCAP_RESULTS_PATH" := by
    rintro value ⟨⟩
    decide
  obtain ⟨-, p, -, hp', -, -, -, hinside, -⟩ := default_document_liesIn_iff husual
  obtain rfl : usual = p := Option.some.inj hp'
  exact ⟨hconfig, hp, houtside, fun q hq => houtside ((hrequest q).mp hq).2.1,
    hother "/etc/shadow" (by decide), husual, hopen, hinside hopen⟩

/-- The configured document can lie outside the workspace. -/
theorem default_document_outside_workspace :
    ¬ ∀ lookup currentDirectory c, ofLookup lookup currentDirectory = .ok c →
      ∃ p, c.resolve? none = some p ∧ p.LiesIn c.workspace := by
  intro h
  have hconfig : ofLookup (scanVariables "/etc/shadow") ⟨"/"⟩ =
      .ok (scanConfig ⟨"/etc/shadow"⟩) := by decide +kernel
  obtain ⟨p, hp, hlies⟩ := h _ _ _ hconfig
  obtain rfl : ⟨"/etc/shadow"⟩ = p := Option.some.inj hp
  exact absurd hlies (by decide)

end PolicyAudit.Service.Config
