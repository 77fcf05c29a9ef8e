import PageLayers.Registry.Request

/-! The order of overlays is decided by their keys: those that one request matches differ in what
stands between the bars of their texts, unless a dimension has a bar or a star for its value. -/

namespace PageLayers

variable {a b : LayerKey} {ctx : RequestContext}

namespace Scope

variable {s t : Scope}

/-- No dimension has a bar in it, nor a star for its value. -/
def Plain (s : Scope) : Prop := ∀ d, some d ∈ s.dimensions → '|' ∉ d.toList ∧ d ≠ "*"

theorem dimensions_injective (h : s.dimensions = t.dimensions) : s = t := by
  obtain ⟨_, _, _, _⟩ := s
  obtain ⟨_, _, _, _⟩ := t
  simpa [dimensions] using h

/-- The texts of the dimensions, as they stand between the bars. -/
def pieces (s : Scope) : List (List Char) :=
  s.dimensions.map fun d => (LayerKey.dimensionText d).toList

theorem Plain.no_bar (h : s.Plain) : ∀ piece ∈ s.pieces, '|' ∉ piece := by
  intro piece hpiece
  obtain ⟨d, hd, rfl⟩ := List.mem_map.1 hpiece
  cases d with
  | none => decide
  | some d => exact (h d hd).1

/-- A dimension can be read back from its text, as no value is a star. -/
theorem Plain.dimensions_eq (h : s.Plain) :
    s.pieces.map (fun piece => LayerKey.dimension? (String.ofList piece)) = s.dimensions := by
  have hback : ∀ d ∈ s.dimensions,
      LayerKey.dimension? (String.ofList (LayerKey.dimensionText d).toList) = d := by
    intro d hd
    cases d with
    | none => rfl
    | some d => simp [LayerKey.dimension?, LayerKey.dimensionText, (h d hd).2]
  rw [pieces, List.map_map]
  exact (List.map_congr_left hback).trans (List.map_id' _)

theorem Plain.pieces_injective (hs : s.Plain) (ht : t.Plain) (h : s.pieces = t.pieces) : s = t := by
  apply dimensions_injective
  rw [← hs.dimensions_eq, h, ht.dimensions_eq]

end Scope

namespace LayerKey

theorem toList_text (k : LayerKey) : k.text.toList =
    k.kind.text.toList ++ ['|'] ++ (k.moduleName.toList ++ ['|'] ++ (k.route.toList ++ ['|'] ++
      ['|'].intercalate k.scope.pieces)) := by
  rw [text, String.toList_intercalate]
  simp only [Scope.pieces, Scope.dimensions, List.map_cons, List.map_nil,
    List.intercalate_cons_cons]
  rfl

/-- Of keys of one kind, module and route the text shows the scope. -/
theorem eq_of_text_eq (hkind : a.kind = b.kind) (hmodule : a.moduleName = b.moduleName)
    (hroute : a.route = b.route) (ha : a.scope.Plain) (hb : b.scope.Plain) (h : a.text = b.text) :
    a = b := by
  have hpieces : ['|'].intercalate a.scope.pieces = ['|'].intercalate b.scope.pieces := by
    have htext := congrArg String.toList h
    rw [toList_text, toList_text, hkind, hmodule, hroute] at htext
    exact List.append_cancel_left (List.append_cancel_left (List.append_cancel_left htext))
  have hsplit := congrArg (List.splitOn '|') hpieces
  rw [List.splitOn_intercalate _ ha.no_bar (by simp [Scope.pieces, Scope.dimensions]),
    List.splitOn_intercalate _ hb.no_bar (by simp [Scope.pieces, Scope.dimensions])] at hsplit
  have hscope := ha.pieces_injective hb hsplit
  obtain ⟨_, _, _, _⟩ := a
  obtain ⟨_, _, _, _⟩ := b
  simp_all

end LayerKey

namespace RequestContext

theorem overlay_of_covers (h : ctx.covers a = true) :
    a.kind = .overlay ∧ a.moduleName = ctx.moduleName ∧ a.route = ctx.route := by
  simp only [covers, Bool.and_eq_true, decide_eq_true_eq] at h
  exact ⟨h.1.1.1.1.1.1, h.1.1.1.1.1.2, h.1.1.1.1.2⟩

/-- No two overlays that a request matches stand in the same place. -/
theorem eq_of_precedence_eq (ha : ctx.covers a = true) (hb : ctx.covers b = true)
    (hplain : a.scope.Plain) (hplain' : b.scope.Plain) (h : a.precedence = b.precedence) :
    a = b := by
  obtain ⟨hkind, hmodule, hroute⟩ := overlay_of_covers ha
  obtain ⟨hkind', hmodule', hroute'⟩ := overlay_of_covers hb
  exact LayerKey.eq_of_text_eq (hkind.trans hkind'.symm) (hmodule.trans hmodule'.symm)
    (hroute.trans hroute'.symm) hplain hplain' (congrArg Precedence.text h)

end RequestContext

namespace Precedence

instance : Std.TransOrd Precedence :=
  inferInstanceAs (Std.TransCmp
    (compareLex (compareOn rank) (compareLex (compareOn dimensions) (compareOn text))))

instance : Std.LawfulEqOrd Precedence where
  eq_of_compare {a b} h := by
    obtain ⟨hrank, hrest⟩ := Ordering.then_eq_eq.1 h
    obtain ⟨hdimensions, htext⟩ := Ordering.then_eq_eq.1 hrest
    obtain ⟨rank, dimensions, text⟩ := a
    obtain rfl := Std.LawfulEqOrd.eq_of_compare hrank
    obtain rfl := Std.LawfulEqOrd.eq_of_compare hdimensions
    obtain rfl := Std.LawfulEqOrd.eq_of_compare htext
    rfl

end Precedence

end PageLayers
