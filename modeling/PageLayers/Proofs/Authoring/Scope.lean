import Mathlib.Tactic.SplitIfs
import PageLayers.Authoring.Page
import PageLayers.Proofs.Authoring.Read
import PageLayers.Proofs.Registry.Precedence

/-! Documents that are accepted name no dimension that its layer key could not show. -/

namespace PageLayers

namespace Authoring

variable {n root : Node} {kind : PageKind} {name d : String} {others : List String}
  {owner : Option String}

/-- A key part about which nothing is reported has no bar in it and is no star. -/
theorem plain_of_keyPart (h : (keyPart n name others owner).reports = [])
    (hd : (keyPart n name others owner).value = some d) : '|' ∉ d.toList ∧ d ≠ "*" := by
  unfold keyPart at h hd
  cases htext : n.getText? (name :: others) with
  | none =>
    rw [htext] at hd
    cases hd
  | some s =>
    simp only [htext] at h hd
    split_ifs at h hd with hbar hstar
    · cases h
    · cases h
    · obtain rfl := Option.some.inj hd
      exact ⟨by simpa using hbar, hstar⟩

/-- Whichever of the required attributes are missing, the dimensions are read as key parts. -/
theorem plain_of_pageOf (h : (pageOf kind root).reports = []) :
    (pageOf kind root).value.scope.Plain := by
  unfold pageOf at h ⊢
  simp only [Read.reports_bind_eq_nil, Read.value_bind] at h ⊢
  intro d hd
  split_ifs at h hd with hmodule hroute hroute <;>
    simp only [Read.reports_bind_eq_nil, Read.value_bind, Read.value_pure, Scope.dimensions,
      List.mem_cons, List.not_mem_nil, or_false] at h hd
  all_goals
    rcases hd with hd | hd | hd | hd <;> refine plain_of_keyPart ?_ hd.symm <;> simp only [h]

end Authoring

/-- The layer key of an accepted document shows its scope. -/
theorem Page.plain_of_ofDocument {root : Node} {p : Page} (h : ofDocument root = .ok p) :
    p.scope.Plain := by
  obtain ⟨kind, -, hreports, rfl⟩ := ofDocument_eq_ok_iff.1 h
  exact Authoring.plain_of_pageOf hreports

end PageLayers
