import PageLayers.Overlay.Resolved
import PageLayers.Proofs.Overlay.ClearAccess

/-! Overlays that are accepted one after another apply, and the page they make is accepted in its
turn. -/

namespace PageLayers

variable {base p tree next o : Page} {patch : Patch} {patches : List Patch} {layers : List Page}
  {constants : OrderedMap String Json}

namespace Page

/-- Ids are unique, and references, access rules and expressions hold. -/
structure Sound (p : Page) : Prop where
  uniqueIds : p.UniqueIds
  references : p.ReferencesHold
  access : p.AccessClear
  expressions : p.ExpressionsHold

/-- All but the nodes and the constants of two pages is the same. -/
def SameHeader (p q : Page) : Prop :=
  ∃ regions dataSources actions constants,
    q = { p with regions, dataSources, actions, constants }

theorem SameHeader.refl (p : Page) : p.SameHeader p := ⟨_, _, _, _, rfl⟩

theorem SameHeader.trans {q : Page} (hpq : p.SameHeader q) (hqt : q.SameHeader tree) :
    p.SameHeader tree := by
  obtain ⟨_, _, _, _, rfl⟩ := hpq
  obtain ⟨_, _, _, _, rfl⟩ := hqt
  exact ⟨_, _, _, _, rfl⟩

def withConstants (p : Page) (constants : OrderedMap String Json) : Page := { p with constants }

theorem applyWhatApplies_cons_ok (h : p.applyPatch patch = .ok next) :
    p.applyWhatApplies (patch :: patches) = next.applyWhatApplies patches := by
  simp [applyWhatApplies, h, Except.toOption]

theorem applyWhatApplies_cons_error {e : PatchError} (h : p.applyPatch patch = .error e) :
    p.applyWhatApplies (patch :: patches) = p.applyWhatApplies patches := by
  simp [applyWhatApplies, h, Except.toOption]

/-- What a page keeps of its blueprint while layers are put on it. -/
structure Extends (p base : Page) : Prop where
  header : base.SameHeader p
  uniqueIds : p.UniqueIds
  nodesClear : p.NodesClear

theorem Extends.applyPatch (hp : p.Extends base) (hpatch : patch.AccessClear)
    (h : p.applyPatch patch = .ok next) : next.Extends base := by
  have hunique := uniqueIds_of_applyPatch h hp.uniqueIds
  have hclear := nodesClear_of_applyPatch h hpatch hp.nodesClear
  obtain ⟨_, _, _, -, -, -, rfl⟩ := applyPatch_eq_ok h
  exact ⟨hp.header.trans ⟨_, _, _, _, rfl⟩, hunique, hclear⟩

theorem Extends.applyWhatApplies (hp : p.Extends base)
    (hpatches : ∀ patch ∈ patches, patch.AccessClear) :
    (p.applyWhatApplies patches).Extends base := by
  induction patches generalizing p with
  | nil => exact hp
  | cons patch rest ih =>
    have hpatch := hpatches patch List.mem_cons_self
    have hrest : ∀ patch ∈ rest, patch.AccessClear :=
      fun patch hmem => hpatches patch (List.mem_cons_of_mem _ hmem)
    cases h : p.applyPatch patch with
    | error e =>
      rw [applyWhatApplies_cons_error h]
      exact ih hp hrest
    | ok next =>
      rw [applyWhatApplies_cons_ok h]
      exact ih (hp.applyPatch hpatch h) hrest

theorem Extends.underLayer (hp : p.Extends base)
    (ho : ∀ patch ∈ o.patches, patch.AccessClear) : (p.underLayer o).Extends base := by
  have htree := hp.applyWhatApplies ho
  exact ⟨htree.header.trans ⟨_, _, _, _, rfl⟩, htree.uniqueIds,
    ⟨htree.nodesClear.components, htree.nodesClear.dataSources, htree.nodesClear.actions⟩⟩

/-- Patches neither read nor change the constants. -/
theorem applyPatch_withConstants : (p.withConstants constants).applyPatch patch =
    (p.applyPatch patch).map fun next => next.withConstants constants := by
  have hregions : (p.withConstants constants).patchRegions patch = p.patchRegions patch := rfl
  have hsources : (p.withConstants constants).patchDataSources patch =
      p.patchDataSources patch := rfl
  have hactions : (p.withConstants constants).patchActions patch = p.patchActions patch := rfl
  unfold applyPatch
  rw [hregions, hsources, hactions]
  cases checkPayload patch <;> cases p.patchRegions patch <;> cases p.patchDataSources patch <;>
    cases p.patchActions patch <;> rfl

theorem applyWhatApplies_withConstants :
    (p.withConstants constants).applyWhatApplies patches =
      (p.applyWhatApplies patches).withConstants constants := by
  induction patches generalizing p with
  | nil => rfl
  | cons patch rest ih =>
    have hpatch : (p.withConstants constants).applyPatch patch =
        (p.applyPatch patch).map fun next => next.withConstants constants :=
      applyPatch_withConstants
    cases h : p.applyPatch patch with
    | error e =>
      rw [h] at hpatch
      rw [applyWhatApplies_cons_error h, applyWhatApplies_cons_error hpatch]
      exact ih
    | ok next =>
      rw [h] at hpatch
      rw [applyWhatApplies_cons_ok h, applyWhatApplies_cons_ok hpatch]
      exact ih

theorem patchesApply_withConstants :
    Rules.patchesApply (tree.withConstants constants) patches =
      Rules.patchesApply tree patches := by
  induction patches generalizing tree with
  | nil => rfl
  | cons patch rest ih =>
    unfold Rules.patchesApply
    rw [applyPatch_withConstants]
    cases tree.applyPatch patch with
    | error e => exact congrArg _ ih
    | ok next => exact ih

/-- The patches of some layers, without their constants. -/
def underPatches (p : Page) (layers : List Page) : Page :=
  layers.foldl (fun tree layer => tree.applyWhatApplies layer.patches) p

theorem underPatches_withConstants :
    (p.withConstants constants).underPatches layers =
      (p.underPatches layers).withConstants constants := by
  induction layers generalizing p with
  | nil => rfl
  | cons layer rest ih =>
    show ((p.withConstants constants).applyWhatApplies layer.patches).underPatches rest = _
    rw [applyWhatApplies_withConstants]
    exact ih

/-- Layers are no more than their patches and the constants in the end. -/
theorem foldl_underLayer : ∃ constants,
    layers.foldl underLayer p = (p.underPatches layers).withConstants constants := by
  induction layers generalizing p with
  | nil => exact ⟨p.constants, rfl⟩
  | cons layer rest ih =>
    obtain ⟨constants, hrest⟩ := ih (p := p.underLayer layer)
    have hlayer : (p.underLayer layer).underPatches rest =
        (p.underPatches (layer :: rest)).withConstants (p.underLayer layer).constants :=
      underPatches_withConstants
    refine ⟨constants, ?_⟩
    rw [List.foldl_cons, hrest, hlayer]
    rfl

/-- Where each patch applies, those that apply are all of them. -/
theorem foldlM_applyPatch (h : Rules.patchesApply tree patches = []) :
    patches.foldlM Page.applyPatch tree = .ok (tree.applyWhatApplies patches) := by
  induction patches generalizing tree with
  | nil => rfl
  | cons patch rest ih =>
    unfold Rules.patchesApply at h
    split at h
    · rename_i next hnext
      rw [List.foldlM_cons, hnext, applyWhatApplies_cons_ok hnext]
      exact ih h
    · cases h

theorem applyOverlay_eq (hp : p.UniqueIds) (h : Rules.patchesApply p o.patches = []) :
    p.applyOverlay o = .ok (p.underLayer o) := by
  rw [applyOverlay_eq_map hp, foldlM_applyPatch h]
  rfl

/-- What one accepted overlay brings to the tree of those before it. -/
structure Fits (base tree o : Page) : Prop where
  belongs : ResolvedPage.checkBelongs base o = .ok ()
  applies : Rules.patchesApply tree o.patches = []
  access : ∀ patch ∈ o.patches, patch.AccessClear
  references : (tree.underLayer o).ReferencesHold
  expressions : (tree.underLayer o).ExpressionsHold

theorem effectiveTree?_overlay {prior : Option String} (hkind : o.kind = .overlay) :
    o.effectiveTree? ⟨some base, layers, prior⟩ =
      some ((layers.foldl underLayer base).underLayer o) := by
  simp [effectiveTree?, hkind]

theorem fits_of_valid {prior : Option String} (hkind : o.kind = .overlay)
    (hvalid : (o.validate ⟨some base, layers, prior⟩).valid = true) :
    Fits base (layers.foldl underLayer base) o := by
  obtain ⟨-, hreferential, -, haccess, hexpression⟩ := valid_iff.1 hvalid
  obtain ⟨htargets, hreferences⟩ := Rules.referential_eq_nil.1 hreferential
  simp only [Rules.overlayTargets, hkind, List.append_eq_nil_iff] at htargets
  obtain ⟨hsame, hpatches⟩ := htargets
  constructor
  · unfold Rules.sameBlueprint at hsame
    split at hsame
    · rename_i h
      simp [ResolvedPage.checkBelongs, hkind, h]
    · cases hsame
  · obtain ⟨constants, htree⟩ : ∃ constants, layers.foldl underLayer base =
        (base.underPatches layers).withConstants constants := foldl_underLayer
    rw [htree, patchesApply_withConstants]
    exact hpatches
  · exact (accessClear_iff.1 (Rules.accessControl_eq_nil.1 haccess)).2
  · exact hreferences _ (effectiveTree?_overlay hkind)
  · exact Rules.expression_eq_nil.1 hexpression _ (effectiveTree?_overlay hkind)

theorem Fits.applyLayer (h : Fits base tree o) (htree : tree.Extends base) :
    ResolvedPage.applyLayer base tree o = .ok (tree.underLayer o) := by
  unfold ResolvedPage.applyLayer
  rw [h.belongs, applyOverlay_eq htree.uniqueIds h.applies]
  rfl

theorem extends_of_valid {ctx : RuleContext} (hkind : base.kind = .blueprint)
    (hvalid : (base.validate ctx).valid = true) : base.Extends base := by
  obtain ⟨-, -, hunique, -, -, haccess, -⟩ := (blueprint_valid_iff hkind).1 hvalid
  exact ⟨.refl base, hunique, (accessClear_iff.1 haccess).1⟩

/-- A page that extends an accepted blueprint is accepted if its references and expressions hold. -/
theorem Extends.valid {ctx : RuleContext} (hp : p.Extends base) (hkind : base.kind = .blueprint)
    (hvalid : (base.validate ctx).valid = true) (hreferences : p.ReferencesHold)
    (hexpressions : p.ExpressionsHold) :
    p.kind = .blueprint ∧ p.Sound ∧ (p.validate ⟨none, [], none⟩).valid = true := by
  obtain ⟨hid, hscope, -, -, ⟨hversions, -⟩, haccess, -⟩ := (blueprint_valid_iff hkind).1 hvalid
  have hclear : p.AccessClear := by
    rw [accessClear_iff]
    obtain ⟨_, _, _, _, hp'⟩ := hp.header
    refine ⟨hp.nodesClear, ?_⟩
    rw [hp']
    exact (accessClear_iff.1 haccess).2
  have hsound : p.Sound := ⟨hp.uniqueIds, hreferences, hclear, hexpressions⟩
  obtain ⟨⟨_, _, _, _, rfl⟩, hunique, -⟩ := hp
  refine ⟨hkind, hsound, (blueprint_valid_iff ?_).2 ⟨hid, hscope, hunique, hreferences,
    ⟨hversions, Rules.notBehind_none⟩, hclear, hexpressions⟩⟩
  exact hkind

end Page

open Page

/-- Overlays of which each is accepted on the blueprint with those before it. -/
inductive AcceptedChain (base : Page) : List Page → Prop where
  | nil : AcceptedChain base []
  | snoc {before o prior} (hbefore : AcceptedChain base before) (hkind : o.kind = .overlay)
      (hvalid : (o.validate ⟨some base, before, prior⟩).valid = true) :
      AcceptedChain base (before ++ [o])

namespace AcceptedChain

variable {ctx : RuleContext}

/-- Whether a patch that fails is skipped or ends the merge makes no difference to an accepted
chain. -/
theorem merges (h : AcceptedChain base layers) (hbase : base.Extends base) :
    (layers.foldl underLayer base).Extends base ∧
      layers.foldlM (ResolvedPage.applyLayer base) base = .ok (layers.foldl underLayer base) := by
  induction h with
  | nil => exact ⟨hbase, rfl⟩
  | snoc hbefore hkind hvalid ih =>
    obtain ⟨htree, hmerged⟩ := ih
    have hfits := fits_of_valid hkind hvalid
    rw [List.foldl_concat, List.foldlM_append, hmerged]
    refine ⟨htree.underLayer hfits.access, ?_⟩
    show ([_].foldlM (ResolvedPage.applyLayer base) _) = _
    simp [hfits.applyLayer htree]

theorem last_kind (h : AcceptedChain base (layers ++ [o])) : o.kind = .overlay := by
  generalize hall : layers ++ [o] = all at h
  cases h with
  | nil => simp at hall
  | snoc hbefore hkind hvalid =>
    obtain ⟨-, hlast⟩ := List.append_inj' hall rfl
    obtain rfl := List.singleton_inj.1 hlast
    exact hkind

/-- References and expressions were checked in the tree of the last overlay, which is the merged
page. -/
theorem holds (h : AcceptedChain base layers) (hkind : base.kind = .blueprint)
    (hvalid : (base.validate ctx).valid = true) :
    (layers.foldl underLayer base).ReferencesHold ∧
      (layers.foldl underLayer base).ExpressionsHold := by
  cases h with
  | nil =>
    obtain ⟨-, -, -, hreferences, -, -, hexpressions⟩ := (blueprint_valid_iff hkind).1 hvalid
    exact ⟨hreferences, hexpressions⟩
  | snoc hbefore hkind hvalid =>
    have hfits := fits_of_valid hkind hvalid
    rw [List.foldl_concat]
    exact ⟨hfits.references, hfits.expressions⟩

end AcceptedChain

/-- Whatever the chain of overlays that the rules accept one after another, resolving succeeds. The
merged page is the tree in which the last overlay was checked, and is accepted itself. -/
theorem resolves_of_accepted {blueprint : LayerInput} {overlays : List LayerInput}
    {ctx : RuleContext} (hkind : blueprint.page.kind = .blueprint)
    (hvalid : (blueprint.page.validate ctx).valid = true)
    (hchain : AcceptedChain blueprint.page (overlays.map LayerInput.page)) :
    ∃ r, ResolvedPage.ofLayers blueprint overlays = .ok r ∧
      (overlays = [] → r.page = blueprint.page) ∧
      (∀ before o, overlays = before ++ [o] → ∀ prior,
        o.page.effectiveTree? ⟨some blueprint.page, before.map LayerInput.page, prior⟩ =
          some r.page) ∧
      r.page.kind = .blueprint ∧ r.page.Sound ∧
      (r.page.validate ⟨none, [], none⟩).errors = [] := by
  have hbase := extends_of_valid hkind hvalid
  obtain ⟨htree, hmerged⟩ := hchain.merges hbase
  obtain ⟨hreferences, hexpressions⟩ := hchain.holds hkind hvalid
  obtain ⟨htreekind, hsound, haccepted⟩ := htree.valid hkind hvalid hreferences hexpressions
  rw [List.foldlM_map] at hmerged
  refine ⟨.ofMerged _ (blueprint :: overlays), ?_, ?_, ?_, htreekind, hsound, ?_⟩
  · simp [ResolvedPage.ofLayers, hkind, hmerged]
  · rintro rfl
    rfl
  · rintro before o rfl prior
    rw [List.map_append] at hchain
    rw [effectiveTree?_overlay hchain.last_kind]
    simp [ResolvedPage.ofMerged]
  · exact List.isEmpty_iff.1 haccepted

/-- A blueprint with one component, which shows what its source holds. -/
def welcome : Page where
  kind := .blueprint
  schemaVersion := "1.0.0"
  contentVersion := "1.0.0"
  moduleName := "shop"
  route := "/"
  scope := .unset
  pageId := "home"
  extendsId := none
  regions := [⟨"main", [⟨"hero", "Banner", "ui", none,
    [⟨"title", .binding (.path "copy" "title")⟩], none⟩]⟩]
  dataSources := [⟨"copy", .static (.obj [("title", .str "Hello")]), ∅, none⟩]
  actions := []
  constants := ∅
  patches := []

/-- Gives members another text. -/
def welcomeBack : Page where
  kind := .overlay
  schemaVersion := "1.0.0"
  contentVersion := "1.0.0"
  moduleName := "shop"
  route := "/"
  scope := { Scope.unset with role := some "member" }
  pageId := none
  extendsId := "home"
  regions := []
  dataSources := []
  actions := []
  constants := ∅
  patches := [⟨.dataSource, "copy", .merge,
    some (.dataSource ⟨some (.static (.obj [("title", .str "Hello again")])), ∅, none⟩)⟩]

theorem welcomeBack_resolves : ∃ r,
    ResolvedPage.ofLayers ⟨welcome, "a"⟩ [⟨welcomeBack, "b"⟩] = .ok r ∧
      ([⟨welcomeBack, "b"⟩] = ([] : List LayerInput) → r.page = welcome) ∧
      (∀ before (o : LayerInput), [⟨welcomeBack, "b"⟩] = before ++ [o] → ∀ prior,
        o.page.effectiveTree? ⟨some welcome, before.map LayerInput.page, prior⟩ = some r.page) ∧
      r.page.kind = .blueprint ∧ r.page.Sound ∧
      (r.page.validate ⟨none, [], none⟩).errors = [] := by
  have hvalid : (welcome.validate ⟨none, [], none⟩).valid = true := by decide
  have hoverlay : (welcomeBack.validate ⟨some welcome, [], none⟩).valid = true := by decide
  have hchain : AcceptedChain welcome [welcomeBack] := .snoc .nil rfl hoverlay
  exact resolves_of_accepted rfl hvalid hchain

end PageLayers
