import PolicyAudit.Proofs.Path
import PolicyAudit.Proofs.Service.Results

/-! # Paths of requests stay in the workspace

The path of a request is refused if it has a parent component, or if it is absolute and does not
begin with the components of the workspace (`resolve?_eq_none_iff`).  Any other one leads to a path
in the workspace: an absolute path is read as it stands, and a relative one adds its components to
those of the workspace (`exists_of_resolve?`).

A path whose text merely begins like that of the workspace is thus never read, and the answer to a
request depends on no file outside the workspace: `requested_path_stays_inside`. -/

namespace PolicyAudit.Service

open PolicyAudit.Path (Component)

namespace Config

variable {c : Config} {text : String} {p : Path}

theorem workspace_ne_empty (h : c.validate = .ok ()) : c.workspace.text ≠ "" := by
  intro hempty
  rw [validate, if_pos hempty] at h
  cases h

theorem resolve?_eq_none_iff :
    c.resolve? (some text) = none ↔
      Component.parent ∈ (⟨text⟩ : Path).components ∨
        ((⟨text⟩ : Path).isAbsolute = true ∧
          ¬ c.workspace.components <+: (⟨text⟩ : Path).components) := by
  rw [← List.isPrefixOf_iff_prefix]
  unfold resolve? Path.isInside
  by_cases hparent : Component.parent ∈ (⟨text⟩ : Path).components
  · simp [hparent]
  · by_cases habsolute : (⟨text⟩ : Path).isAbsolute = true
    · simp [hparent, habsolute]
    · simp [hparent, habsolute]

theorem resolve?_eq_some_iff :
    c.resolve? (some text) = some p ↔
      Component.parent ∉ (⟨text⟩ : Path).components ∧
        (((⟨text⟩ : Path).isAbsolute = true ∧
            c.workspace.components <+: (⟨text⟩ : Path).components ∧ ⟨text⟩ = p) ∨
          ((⟨text⟩ : Path).isAbsolute = false ∧ c.workspace.join ⟨text⟩ = p)) := by
  rw [← List.isPrefixOf_iff_prefix]
  unfold resolve? Path.isInside
  by_cases hparent : Component.parent ∈ (⟨text⟩ : Path).components
  · simp [hparent]
  · by_cases habsolute : (⟨text⟩ : Path).isAbsolute = true
    · simp [hparent, habsolute]
    · simp [hparent, habsolute]

/-- A path that is read has the components of the workspace and others behind them. -/
theorem exists_of_resolve? (hvalid : c.validate = .ok ()) (h : c.resolve? (some text) = some p) :
    ∃ rest, p.components = c.workspace.components ++ rest ∧ Component.parent ∉ rest ∧
      ((⟨text⟩ : Path).isAbsolute = true → p = ⟨text⟩) ∧
      ((⟨text⟩ : Path).isAbsolute = false → rest = (⟨text⟩ : Path).steps) := by
  obtain ⟨hparent, ⟨habsolute, ⟨rest, hrest⟩, rfl⟩ | ⟨hrelative, rfl⟩⟩ := resolve?_eq_some_iff.mp h
  · refine ⟨rest, hrest.symm, ?_, fun _ => rfl, by simp [habsolute]⟩
    intro hmem
    exact hparent (hrest ▸ List.mem_append_right _ hmem)
  · have hjoin := Path.components_join (workspace_ne_empty hvalid) hrelative
    refine ⟨(⟨text⟩ : Path).steps, hjoin, ?_, by simp [hrelative], fun _ => rfl⟩
    intro hmem
    exact hparent (List.mem_of_mem_filter hmem)

theorem liesIn_of_resolve? (hvalid : c.validate = .ok ())
    (h : c.resolve? (some text) = some p) : p.LiesIn c.workspace := by
  obtain ⟨rest, hrest, hparent, -⟩ := exists_of_resolve? hvalid h
  exact ⟨rest, hrest, hparent⟩

end Config

/-- With a valid configuration, the path of a request is refused exactly if it leads up somewhere or
is absolute and outside the workspace, and otherwise leads to a path in the workspace.  No request
leads to a path that goes on in the last name of the workspace; an absolute path of this kind is
refused.  The answer to a request that names a path depends on no file but the one at the path that
it leads to. -/
theorem requested_path_stays_inside (setting : Setting)
    (hvalid : setting.config.validate = .ok ()) (text : String) :
    let c := setting.config
    let requested : Path := ⟨text⟩
    (c.resolve? (some text) = none ↔
      Component.parent ∈ requested.components ∨
        (requested.isAbsolute = true ∧ ¬ c.workspace.components <+: requested.components)) ∧
    (∀ p, c.resolve? (some text) = some p →
      ∃ rest, p.components = c.workspace.components ++ rest ∧ Component.parent ∉ rest ∧
        (requested.isAbsolute = true → p = requested) ∧
        (requested.isAbsolute = false → rest = requested.steps)) ∧
    (∀ sibling : Path, sibling.GoesOn c.workspace →
      c.resolve? (some text) ≠ some sibling ∧
        (sibling.isAbsolute = true → c.resolve? (some sibling.text) = none)) ∧
    ∀ supply store (r : Request) (request : ResultsRequest), r.method = "POST" →
      r.path = "/api/results".toList → r.decodeBody ResultsRequest.decode = .ok request →
      request.resultsPath = some text →
      ∀ files : Files, (∀ p, c.resolve? (some text) = some p → p.LiesIn c.workspace →
          files p = setting.files p) →
        answer { setting with files := files } supply store r = answer setting supply store r := by
  intro c requested
  refine ⟨Config.resolve?_eq_none_iff, fun p => Config.exists_of_resolve? hvalid, ?_, ?_⟩
  · intro sibling hsibling
    have hnever : ∀ t, c.resolve? (some t) ≠ some sibling := by
      intro t ht
      exact hsibling.not_liesIn (Config.liesIn_of_resolve? hvalid ht)
    refine ⟨hnever text, fun habsolute => ?_⟩
    cases hresolve : c.resolve? (some sibling.text) with
    | none => rfl
    | some p =>
      obtain ⟨rest, -, -, hself, -⟩ := Config.exists_of_resolve? hvalid hresolve
      obtain rfl : p = sibling := hself habsolute
      exact absurd hresolve (hnever p.text)
  · intro supply store r request hmethod hpath hbody htext files hfiles
    rw [answer_results hmethod hpath hbody, answer_results hmethod hpath hbody, report_of_files]
    intro policy p hget hresolve
    rw [htext] at hresolve
    exact hfiles p hresolve (Config.liesIn_of_resolve? hvalid hresolve)

/-- A workspace with a document. -/
def nightlySetting : Setting where
  config := .new ⟨"/scans"⟩ "standard"
  files := fun p =>
    if p.text = "/scans/./run2/a..b.xml" then .ok "<r><target>web01</target></r>"
    else .error .notFound

/-- The same files and one in a directory whose name is longer. -/
def withSibling (files : Files) : Files := fun p =>
  if p.text = "/scans2/arf.xml" then .ok "<r/>" else files p

/-- The document is asked for from the workspace. -/
def nightlyRequest : Request :=
  ⟨"POST", "/api/results", some "application/json", Text.bytes
    ("\x7b\"policy_id\":\"0000000000000000000000000000000A\"," ++
      "\"results_path\":\"./run2/a..b.xml\"\x7d")⟩

theorem requested_path_stays_inside_sample :
    let store := (run nightlySetting .empty [sampleCreation]).2
    nightlySetting.config.validate = .ok () ∧
    nightlySetting.config.resolve? (some "./run2/a..b.xml") = some ⟨"/scans/./run2/a..b.xml"⟩ ∧
    (∃ rest, (⟨"/scans/./run2/a..b.xml"⟩ : Path).components =
      [.root, .name "scans"] ++ rest ∧ rest = [.name "run2", .name "a..b.xml"]) ∧
    (⟨"/scans2/arf.xml"⟩ : Path).GoesOn ⟨"/scans"⟩ ∧
    nightlySetting.config.resolve? (some "/scans2/arf.xml") = none ∧
    (answer nightlySetting (sampleSupply 11) store nightlyRequest).1.status = 200 ∧
    answer { nightlySetting with files := withSibling nightlySetting.files } (sampleSupply 11)
        store nightlyRequest =
      answer nightlySetting (sampleSupply 11) store nightlyRequest := by
  intro store
  have hvalid : nightlySetting.config.validate = .ok () := by decide +kernel
  have hresolve : nightlySetting.config.resolve? (some "./run2/a..b.xml") =
      some ⟨"/scans/./run2/a..b.xml"⟩ := by decide +kernel
  have hsibling : (⟨"/scans2/arf.xml"⟩ : Path).GoesOn ⟨"/scans"⟩ :=
    ⟨[[]], "scans".toList, "2/arf.xml".toList, by decide +kernel, by decide +kernel,
      by decide +kernel, by decide +kernel, by decide +kernel⟩
  have hbody : nightlyRequest.decodeBody ResultsRequest.decode =
      .ok ⟨.ofNat 10, some "./run2/a..b.xml"⟩ := by decide +kernel
  obtain ⟨-, hinside, hnever, hfiles⟩ :=
    requested_path_stays_inside nightlySetting hvalid "./run2/a..b.xml"
  obtain ⟨rest, hrest, -, -, hsteps⟩ := hinside _ hresolve
  refine ⟨hvalid, hresolve, ⟨rest, hrest, ?_⟩, hsibling, (hnever _ hsibling).2 (by decide +kernel),
    by decide +kernel, hfiles _ _ _ _ rfl (by decide) hbody rfl _ ?_⟩
  · rw [hsteps (by decide +kernel)]
    decide +kernel
  · intro p hp _
    rw [hresolve] at hp
    obtain rfl := Option.some.inj hp
    rfl

end PolicyAudit.Service
