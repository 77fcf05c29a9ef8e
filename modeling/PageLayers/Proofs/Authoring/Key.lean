import PageLayers.Proofs.Authoring.Scope
import PageLayers.Proofs.Authoring.Values
import PageLayers.Proofs.Registry.Encoding
import PageLayers.Proofs.Text.Split

/-! The layer key of an accepted document comes back from its text. -/

namespace PageLayers

namespace LayerKey

/-- No part has a bar in it, and no dimension is a star. -/
structure Plain (k : LayerKey) : Prop where
  moduleName : '|' ∉ k.moduleName.toList
  route : '|' ∉ k.route.toList
  scope : k.scope.Plain

variable {k : LayerKey}

/-- The parts that stand between the bars. -/
def pieces (k : LayerKey) : List (List Char) :=
  k.kind.text.toList :: k.moduleName.toList :: k.route.toList :: k.scope.pieces

theorem Plain.no_bar (h : k.Plain) : ∀ piece ∈ k.pieces, '|' ∉ piece := by
  have hkind : '|' ∉ k.kind.text.toList := by cases k.kind <;> decide
  simp only [pieces, List.forall_mem_cons]
  exact ⟨hkind, h.moduleName, h.route, h.scope.no_bar⟩

theorem toList_text_eq_intercalate (k : LayerKey) : k.text.toList = ['|'].intercalate k.pieces := by
  rw [text, String.toList_intercalate]
  simp [pieces, Scope.pieces, Function.comp_def]

theorem splitAll_text (h : k.Plain) : Text.splitAll '|' k.text.toList = k.pieces := by
  rw [toList_text_eq_intercalate, Text.splitAll_intercalate h.no_bar (List.cons_ne_nil _ _)]

theorem Plain.survives (h : k.Plain) : k.Survives := by
  have hkind : PageKind.ofText? k.kind.text = some k.kind := by cases k.kind <;> rfl
  have hdimensions := h.scope.dimensions_eq
  rw [Survives, parse, splitAll_text h]
  obtain ⟨kind, moduleName, route, tenant, role, variant, locale⟩ := k
  simp only [Scope.pieces, Scope.dimensions, List.map_cons, List.map_nil, List.cons.injEq,
    String.ofList_toList, and_true] at hdimensions
  obtain ⟨htenant, hrole, hvariant, hlocale⟩ := hdimensions
  simp only [pieces, Scope.pieces, Scope.dimensions, List.map_cons, List.map_nil,
    String.ofList_toList, hkind, htenant, hrole, hvariant, hlocale]

end LayerKey

namespace Authoring

variable {root : Node} {kind : PageKind} {name : String} {others : List String}
  {owner : Option String}

/-- A key part that is not given is read as an empty text. -/
theorem no_bar_of_keyPart (h : (keyPart root name others owner).reports = []) :
    '|' ∉ ((keyPart root name others owner).value.getD "").toList := by
  cases hpart : (keyPart root name others owner).value with
  | none => decide
  | some d => exact (plain_of_keyPart h hpart).1

theorem no_bar_of_pageOf (h : (pageOf kind root).reports = []) :
    '|' ∉ (pageOf kind root).value.moduleName.toList ∧
      '|' ∉ (pageOf kind root).value.route.toList := by
  unfold pageOf at h ⊢
  simp only [Read.reports_bind_eq_nil, Read.value_bind] at h ⊢
  split_ifs at h ⊢ <;>
    simp only [Read.reports_bind_eq_nil, Read.value_bind, Read.value_pure] at h ⊢
  all_goals exact ⟨no_bar_of_keyPart h.2.1, no_bar_of_keyPart h.2.2.1⟩

theorem layerKey_of_pageOf (h : (pageOf kind root).reports = []) :
    (pageOf kind root).value.layerKey.Plain :=
  ⟨(no_bar_of_pageOf h).1, (no_bar_of_pageOf h).2, plain_of_pageOf h⟩

end Authoring

theorem Page.layerKey_survives {root : Node} {p : Page} (h : ofDocument root = .ok p) :
    p.layerKey.Survives := by
  obtain ⟨kind, -, hreports, rfl⟩ := ofDocument_eq_ok_iff.1 h
  exact (Authoring.layerKey_of_pageOf hreports).survives

end PageLayers
