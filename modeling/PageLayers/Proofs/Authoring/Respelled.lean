import PageLayers.Proofs.Authoring.Spelling

/-! Documents are read as the same page in all spellings. The spelling shows at most in what is
reported, and each reader takes the same value from nodes that say the same. -/

namespace PageLayers.Authoring

open Read (Agrees)

variable {n n' : Node} {owner name : String} {others : List String}

theorem SaysSame.tag_eq_iff (h : SaysSame n n') {t : String}
    (ht : t ∈ ["access", "request", "field", "alias", "blueprint", "overlay"]) :
    n.tag = t ↔ n'.tag = t := by
  rw [← currentTag_eq_iff ht, h.tag, currentTag_eq_iff ht]

theorem getText?_congr {names : List String} (h : n.get? names = n'.get? names) :
    n.getText? names = n'.getText? names := by
  rw [Node.getText?, Node.getText?, h]

theorem has_congr {names : List String} (h : n.get? names = n'.get? names) :
    n.has names = n'.has names := by
  rw [Node.has, Node.has, h]

theorem require_agrees {owner : Option String}
    (h : n.get? (name :: others) = n'.get? (name :: others)) :
    Agrees (require n name others owner) (require n' name others owner) := by
  have htext := getText?_congr h
  refine ⟨?_, ?_⟩
  · rw [value_require, value_require, htext]
  · rw [reports_require, reports_require, htext]

theorem keyPart_congr {owner : Option String}
    (h : n.get? (name :: others) = n'.get? (name :: others)) :
    keyPart n name others owner = keyPart n' name others owner := by
  unfold keyPart
  rw [getText?_congr h]

theorem requireId_agrees (h : n.get? ["id"] = n'.get? ["id"]) :
    Agrees (requireId n) (requireId n') := by
  unfold requireId
  rw [keyPart_congr h]
  refine (Agrees.of_eq rfl).bind fun id => ?_
  cases id with
  | some id => exact .of_eq rfl
  | none => exact require_agrees h

theorem requireValue_agrees (h : n.get? (name :: others) = n'.get? (name :: others)) :
    Agrees (requireValue n name others owner) (requireValue n' name others owner) := by
  unfold requireValue
  rw [h]
  split
  · exact .of_eq rfl
  · exact (require_agrees h).bind fun _ => .of_eq rfl

/-- Words of the same meaning are there or missing together, and are read the same if what comes
next has regard to the meaning alone. -/
theorem word_agrees {α β : Type} {meaning : String → Option α} {owner : Option String}
    {f f' : Option String → Read β}
    (h : (n.getText? (name :: others)).map meaning = (n'.getText? (name :: others)).map meaning)
    (hnone : Agrees (f none) (f' none))
    (hsome : ∀ w w', meaning w = meaning w' → Agrees (f (some w)) (f' (some w'))) :
    Agrees (require n name others owner >>= f) (require n' name others owner >>= f') := by
  refine .bind_of_value ?_ ?_
  · have hisSome := congrArg Option.isSome h
    rw [Option.isSome_map, Option.isSome_map] at hisSome
    rw [reports_require, reports_require, hisSome]
  · rw [value_require, value_require]
    cases hw : n.getText? (name :: others) with
    | none =>
      rw [hw] at h
      rw [Option.map_eq_none_iff.1 h.symm]
      exact hnone
    | some w =>
      rw [hw] at h
      obtain ⟨w', hw', hsame⟩ := Option.map_eq_some_iff.1 h.symm
      rw [hw']
      exact hsome w w' hsame.symm

/-! ### Properties -/

section Property

variable (h : ∀ names, plain "prop" names = true → n.get? names = n'.get? names)

include h

theorem binding_agrees : Agrees (binding n owner) (binding n' owner) := by
  unfold binding
  rw [getText?_congr (h ["contract", "bind"] (by decide))]
  split
  · exact .of_eq rfl
  · exact (require_agrees (h _ (by decide))).bind fun _ =>
      (require_agrees (h _ (by decide))).bind fun _ => .of_eq rfl

theorem propertyKind_eq : propertyKind n owner = propertyKind n' owner := by
  unfold propertyKind
  rw [getText?_congr (h ["kind"] (by decide)), has_congr (h ["value"] (by decide)),
    has_congr (h ["contract", "bind", "source"] (by decide)),
    has_congr (h ["expr", "expression"] (by decide)), has_congr (h ["action"] (by decide))]

theorem propertyValue_agrees {kind : PropertyKind} :
    Agrees (propertyValue n owner kind) (propertyValue n' owner kind) := by
  cases kind with
  | static => exact (requireValue_agrees (h _ (by decide))).bind fun _ => .of_eq rfl
  | binding => exact (binding_agrees h).bind fun _ => .of_eq rfl
  | expression => exact (require_agrees (h _ (by decide))).bind fun _ => .of_eq rfl
  | action => exact (require_agrees (h _ (by decide))).bind fun _ => .of_eq rfl

theorem property_agrees : Agrees (property owner n) (property owner n') := by
  unfold property
  refine (require_agrees (h _ (by decide))).bind fun name => ?_
  cases name with
  | none => exact .of_eq rfl
  | some name =>
    refine (Agrees.of_eq (propertyKind_eq h)).bind fun kind => ?_
    cases kind with
    | none => exact .of_eq rfl
    | some kind => exact (propertyValue_agrees h).bind fun _ => .of_eq rfl

end Property

theorem plain_param {names : List String} : plain "param" names = plain "prop" names := by
  simp [plain, legacyNames, legacyWords]

theorem SaysSame.get?_property (h : SaysSame n n')
    (htag : currentTag n.tag = "prop" ∨ currentTag n.tag = "param") {names : List String}
    (hnames : plain "prop" names = true) : n.get? names = n'.get? names := by
  refine h.get? names ?_
  rcases htag with htag | htag
  · rwa [htag]
  · rwa [htag, plain_param]

/-! ### Directives -/

theorem Akin.filter_tag (h : Akin n n') {t : String}
    (ht : t ∈ ["access", "request", "field", "alias", "blueprint", "overlay"]) :
    List.Forall₂ Akin (n.children.filter fun c => c.tag = t)
      (n'.children.filter fun c => c.tag = t) :=
  List.rel_filter (fun _ _ hc => by simpa using hc.head.tag_eq_iff ht) h.children

theorem saysSame_head {l l' : List Node} (h : SaysSame n n') (hl : List.Forall₂ Akin l l') :
    SaysSame (l.head?.getD n) (l'.head?.getD n') := by
  cases hl with
  | nil => exact h
  | cons hc => exact hc.head

/-- No older spelling has to do with access. -/
theorem plain_access {tag : String} {names : List String}
    (h : names ∈ [["allow"], ["deny"], ["requires"], ["allow", "deny", "requires"]]) :
    plain tag names = true := by
  have hwords : ∀ name ∈ ["allow", "deny", "requires"], legacyWords tag name = [] := by
    simp [legacyWords]
  have hnames : ∀ pair ∈ legacyNames tag, ∀ names ∈ [["allow"], ["deny"], ["requires"],
      ["allow", "deny", "requires"]], whole pair.1 pair.2 names = true := by
    unfold legacyNames
    split_ifs <;> decide
  refine Bool.and_eq_true_iff.2 ⟨?_, ?_⟩
  · exact List.all_eq_true.2 fun pair hpair => hnames pair hpair names h
  · refine List.all_eq_true.2 fun name hname => List.isEmpty_iff.2 (hwords name ?_)
    simp only [List.mem_cons, List.not_mem_nil, or_false] at h ⊢
    rcases h with rfl | rfl | rfl | rfl <;> simp_all

theorem accessRule_eq (h : Akin n n') : accessRule n owner = accessRule n' owner := by
  have hdirectives := h.filter_tag (t := "access") (by decide)
  have hcount := hdirectives.length_eq
  have hsource := saysSame_head h.head hdirectives
  unfold accessRule
  dsimp only
  rw [hcount]
  generalize (n.children.filter fun c => c.tag = "access").head?.getD n = source at hsource
  generalize (n'.children.filter fun c => c.tag = "access").head?.getD n' = source' at hsource
  have hget (names) (hnames) := hsource.get? names (plain_access hnames)
  rw [has_congr (hget ["allow", "deny", "requires"] (by decide)), hget ["allow"] (by decide),
    hget ["deny"] (by decide), hget ["requires"] (by decide)]

mutual

theorem flattenNode_akin : ∀ {n n' : Node}, Akin n n' →
    List.Forall₂ Akin (flattenNode n) (flattenNode n')
  | .mk tag attrs children, .mk tag' attrs' children', h => by
    have htag : currentTag tag = currentTag tag' := h.head.tag
    unfold flattenNode
    rw [isGrouping, isGrouping, htag]
    split
    · exact flatten_akin h.children
    · exact .cons h .nil

theorem flatten_akin : ∀ {l l' : List Node}, List.Forall₂ Akin l l' →
    List.Forall₂ Akin (flatten l) (flatten l')
  | [], [], .nil => .nil
  | _ :: _, _ :: _, .cons hn hrest => List.rel_append (flattenNode_akin hn) (flatten_akin hrest)

end

theorem properties_agrees (h : Akin n n') {tags : List String} {holder : String}
    (htags : ∀ t ∈ tags, t = "prop" ∨ t = "param") :
    Agrees (properties tags holder owner n) (properties tags holder owner n') := by
  refine .collect (flatten_akin h.children) fun c c' hc => ?_
  unfold properties.read
  dsimp only
  rw [← hc.head.tag]
  split
  · rename_i htag
    exact property_agrees fun names => hc.head.get?_property (htags _ (by simpa using htag))
  · exact .of_eq rfl

theorem componentFields_agrees (h : Akin n n') (htag : currentTag n.tag = "component") :
    Agrees (componentFields n owner) (componentFields n' owner) := by
  have hget (names) (hnames : plain "component" names = true) := h.head.get? names (htag ▸ hnames)
  unfold componentFields
  rw [getText?_congr (hget ["id"] (by decide)),
    getText?_congr (hget ["type", "component"] (by decide)),
    getText?_congr (hget ["namespace", "ns"] (by decide)),
    getText?_congr (hget ["version"] (by decide)), accessRule_eq h]
  exact (properties_agrees h (by simp)).bind fun _ => .of_eq rfl

theorem component_agrees (h : Akin n n') (htag : currentTag n.tag = "component") {index : Nat} :
    Agrees (component owner n index) (component owner n' index) := by
  have hget (names) (hnames : plain "component" names = true) := h.head.get? names (htag ▸ hnames)
  unfold component
  rw [keyPart_congr (hget ["id"] (by decide))]
  refine (Agrees.of_eq rfl).bind fun id => (componentFields_agrees h htag).bind fun fields => ?_
  exact (require_agrees (hget _ (by decide))).bind fun _ =>
    (require_agrees (hget _ (by decide))).bind fun _ => .of_eq rfl

theorem region_agrees (h : Akin n n') (htag : currentTag n.tag = "region") :
    Agrees (region n) (region n') := by
  unfold region
  refine (requireId_agrees (h.head.get? _ (htag ▸ by decide))).bind fun id => ?_
  cases id with
  | none => exact .of_eq rfl
  | some id =>
    refine (Agrees.collect (forall₂_zipIdx (flatten_akin h.children)) ?_).bind fun _ => .of_eq rfl
    rintro ⟨c, index⟩ ⟨c', _⟩ ⟨hc, rfl⟩
    dsimp only
    rw [← hc.head.tag]
    split
    · rename_i hcomponent
      exact component_agrees hc hcomponent
    · exact .reject

theorem actionFields_agrees (h : Akin n n') (htag : currentTag n.tag = "action") :
    Agrees (actionFields n owner) (actionFields n' owner) := by
  unfold actionFields
  rw [getText?_congr (h.head.get? ["kind", "type"] (htag ▸ by decide)), accessRule_eq h]
  exact (properties_agrees h (by simp)).bind fun _ => .of_eq rfl

theorem action_agrees (h : Akin n n') (htag : currentTag n.tag = "action") :
    Agrees (action n) (action n') := by
  unfold action
  refine (requireId_agrees (h.head.get? _ (htag ▸ by decide))).bind fun id => ?_
  cases id with
  | none => exact .of_eq rfl
  | some id =>
    refine (actionFields_agrees h htag).bind fun fields => ?_
    exact (require_agrees (h.head.get? _ (htag ▸ by decide))).bind fun _ => .of_eq rfl

/-! ### Data sources -/

section Origin

variable (h : ∀ names, plain "dataSource" names = true → n.get? names = n'.get? names)

include h

theorem timeout_eq : timeout n owner = timeout n' owner := by
  unfold timeout
  rw [h ["timeoutMs", "timeout"] (by decide)]

theorem headers_eq : headers n owner = headers n' owner := by
  unfold headers
  rw [h ["headers"] (by decide)]

theorem serviceOrigin_agrees : Agrees (serviceOrigin n owner) (serviceOrigin n' owner) := by
  unfold serviceOrigin
  refine (require_agrees (h _ (by decide))).bind fun handler => ?_
  cases handler with
  | none => exact .of_eq rfl
  | some handler =>
    dsimp only
    rw [timeout_eq h, h ["args", "params"] (by decide)]
    exact .of_eq rfl

end Origin

theorem plain_request {names : List String} (h : plain "dataSource" names = true) :
    plain "request" names = true := by
  obtain ⟨hnames, -⟩ := Bool.and_eq_true_iff.1 h
  refine Bool.and_eq_true_iff.2 ⟨?_, List.all_eq_true.2 fun name _ => by simp [legacyWords]⟩
  have hurl := List.all_eq_true.1 hnames ("url", "endpoint") (by decide)
  exact List.all_eq_true.2 fun pair hpair => List.mem_singleton.1 hpair ▸ hurl

/-- The node that a request is written on, a child or the source itself, is looked up alike. -/
theorem Akin.get?_request (h : Akin n n') (htag : currentTag n.tag = "dataSource")
    {names : List String} (hnames : plain "dataSource" names = true) :
    ((n.children.find? fun c => c.tag = "request").getD n).get? names =
      ((n'.children.find? fun c => c.tag = "request").getD n').get? names := by
  have hsame := saysSame_head h.head (h.filter_tag (t := "request") (by decide))
  rw [List.head?_filter, List.head?_filter] at hsame
  refine hsame.get? names ?_
  cases hfind : n.children.find? fun c => c.tag = "request" with
  | none => rwa [Option.getD_none, htag]
  | some c =>
    have hc : c.tag = "request" := by simpa using List.find?_some hfind
    rw [Option.getD_some, hc]
    exact plain_request hnames

theorem httpOrigin_agrees (h : Akin n n') (htag : currentTag n.tag = "dataSource") :
    Agrees (httpOrigin n owner) (httpOrigin n' owner) := by
  have hget (names : List String) (hnames : plain "dataSource" names = true) :=
    h.get?_request htag hnames
  unfold httpOrigin
  dsimp only
  generalize (n.children.find? fun c => c.tag = "request").getD n = node at hget
  generalize (n'.children.find? fun c => c.tag = "request").getD n' = node' at hget
  refine (require_agrees (hget _ (by decide))).bind fun url => ?_
  cases url with
  | none => exact .of_eq rfl
  | some url =>
    dsimp only
    rw [headers_eq hget, timeout_eq hget, getText?_congr (hget ["method"] (by decide)),
      hget ["body"] (by decide)]
    exact .of_eq rfl

theorem origin_agrees (h : Akin n n') (htag : currentTag n.tag = "dataSource") :
    Agrees (origin n owner) (origin n' owner) := by
  have hget (names) (hnames : plain "dataSource" names = true) :=
    h.head.get? names (htag ▸ hnames)
  unfold origin
  refine word_agrees (h.head.kind htag) (.of_eq rfl) fun kind kind' hsame => ?_
  dsimp only
  rw [← hsame]
  cases originKind? kind with
  | none => exact .reject
  | some k =>
    cases k with
    | static => exact (requireValue_agrees (hget _ (by decide))).bind fun _ => .of_eq rfl
    | http => exact httpOrigin_agrees h htag
    | service => exact serviceOrigin_agrees hget

theorem contractChild_agrees (h : SaysSame n n') :
    Agrees (contractChild owner n) (contractChild owner n') := by
  unfold contractChild
  simp only [h.tag_eq_iff (t := "field") (by decide), h.tag_eq_iff (t := "alias") (by decide),
    h.tag_eq_iff (t := "access") (by decide), h.tag_eq_iff (t := "request") (by decide)]
  split
  · rename_i htag
    have hget (names : List String) : n.get? names = n'.get? names := by
      refine h.get? names ?_
      rw [h.tag]
      rcases htag with htag | htag <;> simp [htag, currentTag, plain, legacyNames, legacyWords]
    rw [getText?_congr (hget ["path"])]
    exact (require_agrees (hget _)).bind fun _ => .of_eq rfl
  · split
    · exact .of_eq rfl
    · exact .reject

theorem contract_agrees (h : Akin n n') (htag : currentTag n.tag = "dataSource") :
    Agrees (contract n owner) (contract n' owner) := by
  unfold contract
  rw [h.head.get? ["contract"] (htag ▸ by decide)]
  refine (Agrees.of_eq rfl).bind fun fields => ?_
  exact (Agrees.collect (flatten_akin h.children) fun c c' hc =>
    contractChild_agrees hc.head).bind fun _ => .of_eq rfl

theorem dataSource_agrees (h : Akin n n') (htag : currentTag n.tag = "dataSource") :
    Agrees (dataSource n) (dataSource n') := by
  unfold dataSource
  refine (requireId_agrees (h.head.get? _ (htag ▸ by decide))).bind fun id => ?_
  cases id with
  | none => exact .of_eq rfl
  | some id =>
    dsimp only
    rw [accessRule_eq h]
    exact (origin_agrees h htag).bind fun _ => (contract_agrees h htag).bind fun _ => .of_eq rfl

/-! ### Patches -/

theorem regionPayload_agrees (h : Akin n n') :
    Agrees (regionPayload n owner) (regionPayload n' owner) := by
  unfold regionPayload
  refine (Agrees.collect (flatten_akin h.children) fun c c' hc => ?_).bind fun _ => .of_eq rfl
  unfold regionPayload.read
  rw [← hc.head.tag]
  split
  · exact .reject
  · rename_i hcomponent
    have htag := not_not.1 hcomponent
    refine (require_agrees (hc.head.get? _ (htag ▸ by decide))).bind fun id => ?_
    cases id with
    | none => exact .of_eq rfl
    | some id => exact (componentFields_agrees hc htag).map

theorem dataSourcePayload_agrees (h : Akin n n') (htag : currentTag n.tag = "dataSource") :
    Agrees (dataSourcePayload n owner) (dataSourcePayload n' owner) := by
  have hrest (o : Option Origin) : Agrees
      (do
        let contract ← contract n owner
        let access ← accessRule n owner
        return some (Payload.dataSource ⟨o, contract, access⟩))
      (do
        let contract ← contract n' owner
        let access ← accessRule n' owner
        return some (Payload.dataSource ⟨o, contract, access⟩)) := by
    rw [accessRule_eq h]
    exact (contract_agrees h htag).bind fun _ => .of_eq rfl
  unfold dataSourcePayload
  dsimp only
  rw [h.head.hasKind htag]
  split
  · refine (origin_agrees h htag).bind fun o => ?_
    cases o with
    | none => exact .of_eq rfl
    | some o => exact hrest o
  · exact hrest none

theorem payload_agrees (h : Akin n n') {target : Target} :
    Agrees (payload n target owner) (payload n' target owner) := by
  unfold payload
  rw [← h.head.tag]
  split
  · exact .reject
  · rename_i htarget
    have htag := currentTag_of_target? (not_not.1 htarget)
    cases target with
    | region => exact (regionPayload_agrees h).map
    | component => exact (componentFields_agrees h htag).bind fun _ => .of_eq rfl
    | dataSource => exact dataSourcePayload_agrees h htag
    | action => exact (actionFields_agrees h htag).bind fun _ => .of_eq rfl

theorem patchBody_agrees (h : Akin n n') {target : Target} {operation : Operation} :
    Agrees (patchBody n target owner operation) (patchBody n' target owner operation) := by
  have hflatten := flatten_akin h.children
  unfold patchBody
  generalize flatten n.children = l at hflatten
  generalize flatten n'.children = l' at hflatten
  cases hflatten with
  | nil => exact .of_eq rfl
  | cons hc hrest =>
    cases hrest with
    | nil =>
      cases operation with
      | remove => exact .reject
      | merge => exact (payload_agrees hc).bind fun _ => .of_eq rfl
      | replace => exact (payload_agrees hc).bind fun _ => .of_eq rfl
    | cons => cases operation <;> exact .reject

theorem patch_agrees (h : Akin n n') (htag : currentTag n.tag = "patch") :
    Agrees (patch n) (patch n') := by
  unfold patch
  refine (require_agrees (h.head.get? _ (htag ▸ by decide))).bind fun id => ?_
  cases id with
  | none => exact .of_eq rfl
  | some id =>
    refine word_agrees (h.head.target htag) (.of_eq rfl) fun target target' hsame => ?_
    refine word_agrees (h.head.operation htag) (.of_eq rfl) fun operation operation' hsame' => ?_
    dsimp only
    rw [← hsame, ← hsame']
    cases target? target with
    | none => exact .reject
    | some t =>
      cases operation? operation with
      | none => exact .reject
      | some o => exact patchBody_agrees h

/-! ### Pages -/

theorem constant_agrees (h : SaysSame n n') (htag : currentTag n.tag = "constant") :
    Agrees (constant n) (constant n') := by
  unfold constant
  refine (require_agrees (h.get? _ (htag ▸ by decide))).bind fun name => ?_
  cases name with
  | none => exact .of_eq rfl
  | some name => exact (requireValue_agrees (h.get? _ (htag ▸ by decide))).bind fun _ => .of_eq rfl

theorem piece_agrees (h : Akin n n') {kind : PageKind} {root : String} :
    Agrees (piece kind root n) (piece kind root n') := by
  unfold piece
  dsimp only
  rw [← h.head.tag]
  split
  · rename_i htag
    exact constant_agrees h.head htag
  · cases kind with
    | blueprint =>
      dsimp only
      split
      · rename_i htag
        exact (region_agrees h htag).map
      · split
        · rename_i htag
          exact (dataSource_agrees h htag).map
        · split
          · rename_i htag
            exact (action_agrees h htag).map
          · exact .reject
    | overlay =>
      dsimp only
      split
      · rename_i htag
        exact (patch_agrees h htag).map
      · split <;> exact .reject

/-- A root says the same only with the same attributes: none of them has another spelling. -/
theorem SaysSame.root_eq (h : SaysSame n n') {kind : PageKind}
    (hkind : PageKind.ofText? n.tag = some kind) : n.tag = n'.tag ∧ n.attrs = n'.attrs := by
  have hroot : n.tag = "blueprint" ∨ n.tag = "overlay" := by
    unfold PageKind.ofText? at hkind
    split_ifs at hkind with hblueprint hoverlay
    · exact .inl hblueprint
    · exact .inr hoverlay
  constructor
  · rcases hroot with htag | htag
    · rw [htag, (h.tag_eq_iff (by decide)).1 htag]
    · rw [htag, (h.tag_eq_iff (by decide)).1 htag]
  · refine OrderedMap.ext_get? fun name => ?_
    have hplain : plain (currentTag n.tag) [name] = true := by
      rcases hroot with htag | htag <;> simp [htag, currentTag, plain, legacyNames, legacyWords]
    simpa [Node.get?] using h.get? [name] hplain

theorem pageOf_agrees {kind : PageKind} (h : Akin n n')
    (hkind : PageKind.ofText? n.tag = some kind) : Agrees (pageOf kind n) (pageOf kind n') := by
  obtain ⟨htag, hattrs⟩ := h.head.root_eq hkind
  have hpieces : ∀ root, Agrees (Read.collect (piece kind root) (flatten n.children))
      (Read.collect (piece kind root) (flatten n'.children)) := fun root =>
    Agrees.collect (flatten_akin h.children) fun c c' hc => piece_agrees hc
  obtain ⟨tag, attrs, children⟩ := n
  obtain ⟨tag', attrs', children'⟩ := n'
  obtain rfl : tag = tag' := htag
  obtain rfl : attrs = attrs' := hattrs
  obtain ⟨hvalue, hreports⟩ := hpieces tag
  refine ⟨?_, ?_⟩
  · rw [@value_pageOf kind tag attrs children, @value_pageOf kind tag attrs children']
    exact congrArg _ hvalue
  · rw [@reports_pageOf kind tag attrs children, @reports_pageOf kind tag attrs children']
    exact and_congr_right fun _ => hreports

theorem ofDocument_of_akin {p : Page} (h : Akin n n') :
    Page.ofDocument n = .ok p ↔ Page.ofDocument n' = .ok p := by
  have hkind : PageKind.ofText? n.tag = PageKind.ofText? n'.tag := by
    unfold PageKind.ofText?
    simp only [h.head.tag_eq_iff (t := "blueprint") (by decide),
      h.head.tag_eq_iff (t := "overlay") (by decide)]
  rw [Page.ofDocument_eq_ok_iff, Page.ofDocument_eq_ok_iff, ← hkind]
  refine exists_congr fun kind => and_congr_right fun hroot => ?_
  obtain ⟨hvalue, hreports⟩ := pageOf_agrees h hroot
  rw [hvalue, hreports]

/-- To rewrite spellings as older ones, here and there in a document, is to leave its page as it
is. -/
theorem ofDocument_respelled {root root' : Node} (h : Relation.ReflTransGen Respelled root root')
    (p : Page) : Page.ofDocument root = .ok p ↔ Page.ofDocument root' = .ok p := by
  induction h with
  | refl => exact Iff.rfl
  | tail _ hstep ih => exact ih.trans (ofDocument_of_akin hstep.akin)

/-- The last source of the page in its oldest spelling. -/
def oldBarSource : Node :=
  .mk "data-source" (.ofList [("id", .str "bar"), ("type", .str "inline"), ("data", .null)]) []

theorem welcome_respelled :
    Relation.ReflTransGen Respelled (declaring (welcomeNodes barSource))
        (declaring (welcomeNodes oldBarSource)) ∧
      (Page.ofDocument (declaring (welcomeNodes barSource)) = .ok welcomePage ↔
        Page.ofDocument (declaring (welcomeNodes oldBarSource)) = .ok welcomePage) := by
  have hunder {n n' : Node} (h : Respelled n n') :
      Respelled (declaring (welcomeNodes n)) (declaring (welcomeNodes n')) :=
    @Respelled.under _ _ ((welcomeNodes n).take 3) [] _ _ h
  have htag := hunder (@Respelled.tag "dataSource" "data-source" barSource.attrs [] (by decide))
  have hname := hunder (@Respelled.name "data-source" barSource.attrs [] "kind" "type"
    (.str "static") (by decide) (by decide) (by decide))
  have hword := hunder (@Respelled.word "data-source"
    ((barSource.attrs.erase "kind").insert "type" (.str "static")) [] "type" (.str "static")
    (.str "inline") "static" "inline" (by decide) (by decide) (by decide) (by decide))
  have hlast : oldBarSource = .mk "data-source"
      (((barSource.attrs.erase "kind").insert "type" (.str "static")).insert "type"
        (.str "inline")) [] := by
    decide
  have hall := ((Relation.ReflTransGen.single htag).tail hname).tail hword
  rw [← hlast] at hall
  exact ⟨hall, ofDocument_respelled hall welcomePage⟩

end PageLayers.Authoring
