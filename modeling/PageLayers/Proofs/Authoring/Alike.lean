import PageLayers.Authoring.Page
import PageLayers.Proofs.Authoring.Read
import PageLayers.Proofs.Lists

/-! Documents that are read alike. Of the children of a node, its readers take the nodes that carry
a meaning, however they are grouped, and of its own directives the attributes. -/

namespace PageLayers.Authoring

/-- The children that a node of some tag looks for among its own, and passes over elsewhere. -/
def directiveTags (tag : String) : List String :=
  if currentTag tag = "dataSource" then ["access", "request"]
  else if currentTag tag = "component" ∨ currentTag tag = "action" then ["access"]
  else []

def isDirective (tag : String) (n : Node) : Bool := (directiveTags tag).contains n.tag

/-- The nodes below a node that carry a meaning, without directives. -/
def contents (tag : String) (children : List Node) : List Node :=
  (flatten children).filter fun c => !isDirective tag c

/-- The attributes of the own children of some tag. -/
def attrsOf (tag : String) (children : List Node) : List (OrderedMap String Json) :=
  (children.filter fun c => c.tag = tag).map Node.attrs

/-- Nodes that readers cannot tell apart. -/
inductive Alike : Node → Node → Prop where
  | mk {tag : String} {attrs : OrderedMap String Json} {children children' : List Node}
      (directives : ∀ t ∈ directiveTags tag, attrsOf t children = attrsOf t children')
      (contents : List.Forall₂ Alike (contents tag children) (contents tag children')) :
      Alike (.mk tag attrs children) (.mk tag attrs children')

/-- Nodes that differ in nothing but their children. -/
inductive SameHead : Node → Node → Prop where
  | mk {tag : String} {attrs : OrderedMap String Json} {children children' : List Node} :
      SameHead (.mk tag attrs children) (.mk tag attrs children')

variable {n n' : Node} {owner : String} {α : Type}

theorem collect_congr {β : Type} {R : α → α → Prop} {f f' : α → Read (Option β)} {l l' : List α}
    (h : List.Forall₂ R l l') (hf : ∀ a a', R a a' → f a = f' a') :
    Read.collect f l = Read.collect f' l' := by
  induction h with
  | nil => rfl
  | cons ha _ ih =>
    unfold Read.collect
    rw [hf _ _ ha, ih]

/-- Nodes that are passed over without a word do not matter. -/
theorem collect_filter {β : Type} {f : α → Read (Option β)} {keep : α → Bool} {l : List α}
    (h : ∀ a, keep a = false → f a = pure none) :
    Read.collect f (l.filter keep) = Read.collect f l := by
  induction l with
  | nil => rfl
  | cons a rest ih =>
    rw [List.filter_cons]
    split
    · unfold Read.collect
      rw [ih]
    · rename_i hpassed
      rw [ih]
      conv => rhs; unfold Read.collect
      rw [h a (Bool.eq_false_iff.2 hpassed)]
      simp

namespace SameHead

theorem tag_eq (h : SameHead n n') : n.tag = n'.tag := by
  cases h
  rfl

theorem property_eq (h : SameHead n n') : property owner n = property owner n' := by
  cases h
  rfl

theorem constant_eq (h : SameHead n n') : constant n = constant n' := by
  cases h
  rfl

theorem contractChild_eq (h : SameHead n n') : contractChild owner n = contractChild owner n' := by
  cases h
  rfl

end SameHead

namespace Alike

theorem head (h : Alike n n') : SameHead n n' := by
  cases h
  exact .mk

theorem attrsOf_eq (h : Alike n n') {t : String} (ht : t ∈ directiveTags n.tag) :
    attrsOf t n.children = attrsOf t n'.children := by
  cases h with
  | mk directives => exact directives t ht

theorem contents_alike (h : Alike n n') :
    List.Forall₂ Alike (contents n.tag n.children) (contents n.tag n'.children) := by
  cases h
  assumption

end Alike

/-! Each reader takes alike nodes alike. -/

/-- A reader of the children that passes over directives reads the contents. -/
theorem collect_contents {β : Type} {f : Node → Read (Option β)} {tag : String}
    {children : List Node} (h : ∀ c, isDirective tag c → f c = pure none) :
    Read.collect f (flatten children) = Read.collect f (contents tag children) := by
  refine (collect_filter fun c hc => h c ?_).symm
  simpa using hc

theorem contents_eq_flatten {tag : String} {children : List Node} (h : directiveTags tag = []) :
    contents tag children = flatten children := by
  simp [contents, isDirective, h]

theorem tag_of_filter {t : String} {c : Node} {l rest : List Node}
    (h : l.filter (fun c => c.tag = t) = c :: rest) : c.tag = t := by
  have hmem : c ∈ l.filter fun c => c.tag = t := h ▸ List.mem_cons_self
  simpa using (List.mem_filter.1 hmem).2

/-- Targets are named by the tags of the nodes that they stand for. -/
theorem currentTag_of_target? {tag : String} {t : Target} (h : target? (currentTag tag) = some t) :
    currentTag tag = t.text := by
  unfold currentTag at h ⊢
  grind [target?, Target.text]

namespace Alike

/-- The first directive of some tag, or the node itself, has the same attributes in both. -/
theorem directive_head (h : Alike n n') {t : String} (ht : t ∈ directiveTags n.tag) :
    SameHead ((n.children.filter fun c => c.tag = t).head?.getD n)
      ((n'.children.filter fun c => c.tag = t).head?.getD n') := by
  have hattrs := h.attrsOf_eq ht
  unfold attrsOf at hattrs
  cases hl : n.children.filter fun c => c.tag = t with
  | nil =>
    rw [hl, List.map_nil] at hattrs
    rw [List.map_eq_nil_iff.1 hattrs.symm]
    exact h.head
  | cons c rest =>
    cases hl' : n'.children.filter fun c => c.tag = t with
    | nil => simp [hl, hl'] at hattrs
    | cons c' rest' =>
      have hc : c.tag = t := tag_of_filter hl
      have hc' : c'.tag = t := tag_of_filter hl'
      rw [hl, hl'] at hattrs
      obtain ⟨tag, attrs, children⟩ := c
      obtain ⟨tag', attrs', children'⟩ := c'
      obtain rfl : tag = tag' := hc.trans hc'.symm
      obtain rfl : attrs = attrs' := (List.cons.inj hattrs).1
      exact .mk

theorem accessRule_eq (h : Alike n n') (htag : "access" ∈ directiveTags n.tag) :
    accessRule n owner = accessRule n' owner := by
  have hsource := h.directive_head htag
  have hcount := congrArg List.length (h.attrsOf_eq htag)
  simp only [attrsOf, List.length_map] at hcount
  unfold accessRule
  dsimp only
  rw [hcount]
  generalize (n.children.filter fun c => c.tag = "access").head?.getD n = source at hsource
  generalize (n'.children.filter fun c => c.tag = "access").head?.getD n' = source' at hsource
  cases hsource
  rfl

theorem properties_eq (h : Alike n n') {tags : List String} {holder : String}
    (htag : directiveTags n.tag = ["access"]) (htags : "access" ∉ tags) :
    properties tags holder owner n = properties tags holder owner n' := by
  have hskip : ∀ c, isDirective n.tag c → properties.read tags holder owner c = pure none := by
    intro c hc
    have hc : c.tag = "access" := by simpa [isDirective, htag] using hc
    unfold properties.read
    simp [hc, htags, currentTag]
  unfold properties
  rw [collect_contents hskip, collect_contents hskip]
  refine collect_congr h.contents_alike fun c c' hc => ?_
  unfold properties.read
  rw [hc.head.tag_eq, hc.head.property_eq]

theorem componentFields_eq (h : Alike n n') (htag : currentTag n.tag = "component") :
    componentFields n owner = componentFields n' owner := by
  have hdirectives : directiveTags n.tag = ["access"] := by simp [directiveTags, htag]
  unfold componentFields
  rw [h.properties_eq hdirectives (by decide), h.accessRule_eq (by simp [hdirectives])]
  cases h.head
  rfl

theorem component_eq (h : Alike n n') (htag : currentTag n.tag = "component") {index : Nat} :
    component owner n index = component owner n' index := by
  unfold component
  simp only [h.componentFields_eq htag]
  cases h.head
  rfl

/-- The contents of a node without directives of its own are all that stands below it. -/
theorem flatten_alike (h : Alike n n') (htag : directiveTags n.tag = []) :
    List.Forall₂ Alike (flatten n.children) (flatten n'.children) := by
  have hcontents := h.contents_alike
  rwa [contents_eq_flatten htag, contents_eq_flatten htag] at hcontents

theorem region_eq (h : Alike n n') (htag : currentTag n.tag = "region") :
    region n = region n' := by
  have hdirectives : directiveTags n.tag = [] := by simp [directiveTags, htag]
  have hid : requireId n = requireId n' := by
    cases h.head
    rfl
  unfold region
  rw [hid]
  refine congrArg (requireId n' >>= ·) (funext fun id => ?_)
  cases id with
  | none => rfl
  | some id =>
    dsimp only
    rw [collect_congr (forall₂_zipIdx (h.flatten_alike hdirectives)) ?_]
    rintro ⟨c, index⟩ ⟨c', _⟩ ⟨hc, rfl⟩
    dsimp only
    rw [hc.head.tag_eq]
    split
    · rename_i hcomponent
      exact hc.component_eq (hc.head.tag_eq ▸ hcomponent)
    · rfl

theorem actionFields_eq (h : Alike n n') (htag : currentTag n.tag = "action") :
    actionFields n owner = actionFields n' owner := by
  have hdirectives : directiveTags n.tag = ["access"] := by simp [directiveTags, htag]
  unfold actionFields
  rw [h.properties_eq hdirectives (by decide), h.accessRule_eq (by simp [hdirectives])]
  cases h.head
  rfl

theorem action_eq (h : Alike n n') (htag : currentTag n.tag = "action") :
    action n = action n' := by
  unfold action
  simp only [h.actionFields_eq htag]
  cases h.head
  rfl

theorem httpOrigin_eq (h : Alike n n') (htag : "request" ∈ directiveTags n.tag) :
    httpOrigin n owner = httpOrigin n' owner := by
  have hnode := h.directive_head htag
  rw [List.head?_filter, List.head?_filter] at hnode
  unfold httpOrigin
  dsimp only
  generalize (n.children.find? fun c => c.tag = "request").getD n = node at hnode
  generalize (n'.children.find? fun c => c.tag = "request").getD n' = node' at hnode
  cases hnode
  rfl

theorem origin_eq (h : Alike n n') (htag : "request" ∈ directiveTags n.tag) :
    origin n owner = origin n' owner := by
  unfold origin
  simp only [h.httpOrigin_eq htag]
  cases h.head
  rfl

theorem contract_eq (h : Alike n n') (htag : directiveTags n.tag = ["access", "request"]) :
    contract n owner = contract n' owner := by
  have hskip : ∀ c, isDirective n.tag c → contractChild owner c = pure none := by
    intro c hc
    have hc : c.tag = "access" ∨ c.tag = "request" := by simpa [isDirective, htag] using hc
    unfold contractChild
    rcases hc with hc | hc <;> simp [hc]
  unfold contract
  rw [collect_contents hskip, collect_contents hskip,
    collect_congr h.contents_alike fun c c' hc => hc.head.contractChild_eq]
  cases h.head
  rfl

theorem dataSource_eq (h : Alike n n') (htag : currentTag n.tag = "dataSource") :
    dataSource n = dataSource n' := by
  have hdirectives : directiveTags n.tag = ["access", "request"] := by simp [directiveTags, htag]
  unfold dataSource
  simp only [h.origin_eq (by simp [hdirectives]), h.contract_eq hdirectives,
    h.accessRule_eq (by simp [hdirectives])]
  cases h.head
  rfl

theorem regionPayload_eq (h : Alike n n') (htag : currentTag n.tag = "region") :
    regionPayload n owner = regionPayload n' owner := by
  have hdirectives : directiveTags n.tag = [] := by simp [directiveTags, htag]
  unfold regionPayload
  rw [collect_congr (h.flatten_alike hdirectives) fun c c' hc => ?_]
  unfold regionPayload.read
  rw [hc.head.tag_eq]
  split
  · rfl
  · rename_i hcomponent
    have htag : currentTag c.tag = "component" := hc.head.tag_eq ▸ not_not.1 hcomponent
    simp only [hc.componentFields_eq htag]
    cases hc.head
    rfl

theorem dataSourcePayload_eq (h : Alike n n') (htag : currentTag n.tag = "dataSource") :
    dataSourcePayload n owner = dataSourcePayload n' owner := by
  have hdirectives : directiveTags n.tag = ["access", "request"] := by simp [directiveTags, htag]
  unfold dataSourcePayload
  simp only [h.origin_eq (by simp [hdirectives]), h.contract_eq hdirectives,
    h.accessRule_eq (by simp [hdirectives])]
  cases h.head
  rfl

theorem payload_eq (h : Alike n n') {target : Target} :
    payload n target owner = payload n' target owner := by
  unfold payload
  rw [← h.head.tag_eq]
  split
  · rfl
  · rename_i htarget
    have htag := currentTag_of_target? (not_not.1 htarget)
    cases target with
    | region => simp only [h.regionPayload_eq htag]
    | component => simp only [h.componentFields_eq htag]
    | dataSource => simp only [h.dataSourcePayload_eq htag]
    | action => simp only [h.actionFields_eq htag]

theorem patchBody_eq (h : Alike n n') (htag : directiveTags n.tag = []) {target : Target}
    {operation : Operation} :
    patchBody n target owner operation = patchBody n' target owner operation := by
  have hflatten := h.flatten_alike htag
  unfold patchBody
  generalize flatten n.children = l at hflatten
  generalize flatten n'.children = l' at hflatten
  cases hflatten with
  | nil => rfl
  | cons hc hrest =>
    cases hrest with
    | nil => cases operation <;> simp only [hc.payload_eq]
    | cons => cases operation <;> rfl

theorem patch_eq (h : Alike n n') (htag : currentTag n.tag = "patch") : patch n = patch n' := by
  have hdirectives : directiveTags n.tag = [] := by simp [directiveTags, htag]
  unfold patch
  simp only [h.patchBody_eq hdirectives]
  cases h.head
  rfl

theorem piece_eq (h : Alike n n') {kind : PageKind} {root : String} :
    piece kind root n = piece kind root n' := by
  have hid : n.getText? ["id"] = n'.getText? ["id"] := by
    cases h.head
    rfl
  unfold piece
  simp only [← h.head.tag_eq, hid, ← h.head.constant_eq]
  split
  · rfl
  · cases kind with
    | blueprint =>
      dsimp only
      split
      · rename_i htag
        rw [h.region_eq htag]
      · split
        · rename_i htag
          rw [h.dataSource_eq htag]
        · split
          · rename_i htag
            rw [h.action_eq htag]
          · rfl
    | overlay =>
      dsimp only
      split
      · rename_i htag
        rw [h.patch_eq htag]
      · rfl

theorem pageOf_eq (h : Alike n n') {kind : PageKind} (htag : directiveTags n.tag = []) :
    pageOf kind n = pageOf kind n' := by
  have hpieces : Read.collect (piece kind n.tag) (flatten n.children) =
      Read.collect (piece kind n'.tag) (flatten n'.children) := by
    rw [h.head.tag_eq]
    exact collect_congr (h.flatten_alike htag) fun c c' hc => hc.piece_eq
  unfold pageOf
  simp only [hpieces]
  cases h.head
  rfl

end Alike

theorem directiveTags_of_root {tag : String} {kind : PageKind}
    (h : PageKind.ofText? tag = some kind) : directiveTags tag = [] := by
  unfold PageKind.ofText? at h
  split at h
  · rename_i htag
    rw [htag]
    rfl
  · split at h
    · rename_i htag
      rw [htag]
      rfl
    · cases h

/-- Alike documents are read as the same page, or rejected with the same reports. -/
theorem ofDocument_eq_of_alike (h : Alike n n') : Page.ofDocument n = Page.ofDocument n' := by
  unfold Page.ofDocument
  rw [← h.head.tag_eq]
  split
  · rfl
  · rename_i kind hkind
    rw [h.pageOf_eq (directiveTags_of_root hkind)]

end PageLayers.Authoring
