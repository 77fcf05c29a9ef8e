import PageLayers.Proofs.Authoring.Key

/-! Layer keys and texts correspond one to one: a text is read as a key exactly when it is the text
of that key and no part of the key could be taken for another one. The keys of accepted documents
are of this kind. -/

namespace PageLayers

theorem PageKind.text_of_ofText? {s : String} {kind : PageKind} (h : ofText? s = some kind) :
    kind.text = s := by
  unfold ofText? at h
  split_ifs at h with hblueprint hoverlay
  · obtain rfl := Option.some.inj h
    exact hblueprint.symm
  · obtain rfl := Option.some.inj h
    exact hoverlay.symm

namespace LayerKey

variable {s piece d : String} {k : LayerKey}

theorem dimensionText_dimension? (piece : String) : dimensionText (dimension? piece) = piece := by
  unfold dimension?
  split_ifs with hstar
  · exact hstar.symm
  · rfl

theorem ne_star_of_dimension? (h : dimension? piece = some d) : d ≠ "*" := by
  unfold dimension? at h
  split_ifs at h with hstar
  obtain rfl := Option.some.inj h
  exact hstar

/-- What a text is read as stands between its bars. -/
theorem parse_eq_ok (h : parse s = .ok k) :
    k.pieces = Text.splitAll '|' s.toList ∧ ∀ d, some d ∈ k.scope.dimensions → d ≠ "*" := by
  unfold parse at h
  split at h
  · rename_i kind moduleName route tenant role variant locale hsplit
    split at h
    · rename_i kind' hkind
      obtain rfl := Except.ok.inj h
      have hpieces := congrArg (List.map String.toList) hsplit
      simp only [List.map_map, Function.comp_def, String.toList_ofList, List.map_id'] at hpieces
      constructor
      · simp [pieces, Scope.pieces, Scope.dimensions, dimensionText_dimension?,
          PageKind.text_of_ofText? hkind, hpieces]
      · intro d hd
        simp only [Scope.dimensions, List.mem_cons, List.not_mem_nil, or_false] at hd
        rcases hd with hd | hd | hd | hd <;> exact ne_star_of_dimension? hd.symm
    · cases h
  · cases h

theorem plain_of_parse (h : parse s = .ok k) : k.Plain := by
  obtain ⟨hpieces, hstar⟩ := parse_eq_ok h
  have hbar : ∀ piece ∈ k.pieces, '|' ∉ piece := by
    intro piece hpiece
    exact Text.not_mem_of_mem_splitAll (hpieces ▸ hpiece)
  simp only [pieces, List.forall_mem_cons] at hbar
  obtain ⟨-, hmodule, hroute, hscope⟩ := hbar
  exact ⟨hmodule, hroute, fun d hd =>
    ⟨hscope (dimensionText (some d)).toList (List.mem_map_of_mem hd), hstar d hd⟩⟩

theorem text_of_parse (h : parse s = .ok k) : k.text = s := by
  apply String.toList_inj.1
  rw [toList_text_eq_intercalate, (parse_eq_ok h).1, Text.intercalate_splitAll]

theorem parse_eq_ok_iff : parse s = .ok k ↔ k.Plain ∧ k.text = s := by
  constructor
  · exact fun h => ⟨plain_of_parse h, text_of_parse h⟩
  · rintro ⟨hplain, rfl⟩
    exact hplain.survives

/-- The key of an accepted document comes back from its text, which no other accepted document's key
has, and each text that is read as a key is the text of that key. -/
theorem texts_tell_keys :
    (∀ root p, Page.ofDocument root = .ok p → parse p.layerKey.text = .ok p.layerKey) ∧
      (∀ root root' p p', Page.ofDocument root = .ok p → Page.ofDocument root' = .ok p' →
        p.layerKey ≠ p'.layerKey → p.layerKey.text ≠ p'.layerKey.text) ∧
      ∀ s k, parse s = .ok k → k.text = s := by
  refine ⟨fun root p h => Page.layerKey_survives h, ?_, fun s k h => (parse_eq_ok_iff.1 h).2⟩
  intro root root' p p' h h' hkey htext
  exact hkey ((Page.layerKey_survives h).eq_of_text (Page.layerKey_survives h') htext)

/-- An overlay of the orders for one tenant in one language. -/
def ordersDocument (locale : String) : Node :=
  .mk "overlay"
    (.ofList [("extends", .str "orders"), ("module", .str "orders"), ("route", .str "/orders/:id"),
      ("tenant", .str "acme"), ("locale", .str locale), ("schemaVersion", .str "1.0.0"),
      ("contentVersion", .str "1.0.0")]) []

def orders (locale : String) : Page where
  kind := .overlay
  schemaVersion := "1.0.0"
  contentVersion := "1.0.0"
  moduleName := "orders"
  route := "/orders/:id"
  scope := ⟨some "acme", none, none, some locale⟩
  pageId := none
  extendsId := some "orders"
  regions := []
  dataSources := []
  actions := []
  constants := ∅
  patches := []

theorem orders_texts_tell_keys :
    (Page.ofDocument (ordersDocument "de-DE") = .ok (orders "de-DE") ∧
      parse (orders "de-DE").layerKey.text = .ok (orders "de-DE").layerKey) ∧
    (Page.ofDocument (ordersDocument "de-AT") = .ok (orders "de-AT") ∧
      (orders "de-DE").layerKey ≠ (orders "de-AT").layerKey ∧
      (orders "de-DE").layerKey.text ≠ (orders "de-AT").layerKey.text) ∧
    (parse "overlay|orders|/orders/:id|acme|*|*|de-DE" = .ok (orders "de-DE").layerKey ∧
      (orders "de-DE").layerKey.text = "overlay|orders|/orders/:id|acme|*|*|de-DE") := by
  have hgerman : Page.ofDocument (ordersDocument "de-DE") = .ok (orders "de-DE") := rfl
  have haustrian : Page.ofDocument (ordersDocument "de-AT") = .ok (orders "de-AT") := rfl
  have hkeys : (orders "de-DE").layerKey ≠ (orders "de-AT").layerKey := by decide
  have hparse : parse "overlay|orders|/orders/:id|acme|*|*|de-DE" = .ok (orders "de-DE").layerKey :=
    rfl
  obtain ⟨hback, htexts, htext⟩ := texts_tell_keys
  exact ⟨⟨hgerman, hback _ _ hgerman⟩, ⟨haustrian, hkeys, htexts _ _ _ _ hgerman haustrian hkeys⟩,
    ⟨hparse, htext _ _ hparse⟩⟩

end LayerKey

end PageLayers
