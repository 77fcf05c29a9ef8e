import PageLayers.Proofs.Authoring.Alike

/-! Grouping nodes stand for their children, in every place of a document. Directives are the
exception: a node looks for them among its own children only, so a group hides them. -/

namespace PageLayers.Authoring

/-- A place among the children of some node of a document. -/
inductive Place where
  | here (tag : String) (attrs : OrderedMap String Json) (before after : List Node)
  | under (tag : String) (attrs : OrderedMap String Json) (before : List Node) (inner : Place)
      (after : List Node)

namespace Place

/-- The document with nodes put in the place. -/
def fill : Place → List Node → Node
  | here tag attrs before after, nodes => .mk tag attrs (before ++ nodes ++ after)
  | under tag attrs before inner after, nodes =>
    .mk tag attrs (before ++ [inner.fill nodes] ++ after)

/-- The tag of the node whose children the place is among. -/
def holder : Place → String
  | here tag _ _ _ => tag
  | under _ _ _ inner _ => inner.holder

end Place

variable {n n' g : Node} {tag t : String} {l l' before after : List Node}

mutual

theorem alike_refl : ∀ n : Node, Alike n n
  | .mk _ _ children => .mk (fun _ _ => rfl)
    (List.rel_filter (fun _ _ h => by simp [isDirective, h.head.tag_eq]) (alike_flatten children))

/-- What stands below is alike, node for node. -/
theorem alike_flatten : ∀ l : List Node, List.Forall₂ Alike (flatten l) (flatten l)
  | [] => .nil
  | .mk tag attrs children :: rest => by
    have hchildren := alike_flatten children
    have hrest := alike_flatten rest
    unfold flatten flattenNode
    split
    · exact List.rel_append hchildren hrest
    · exact .cons (alike_refl (.mk tag attrs children)) hrest

end

theorem flatten_append : flatten (l ++ l') = flatten l ++ flatten l' := by
  induction l with
  | nil => rfl
  | cons n rest ih =>
    rw [List.cons_append, flatten, flatten, ih, List.append_assoc]

theorem flattenNode_of_grouping (h : isGrouping n.tag) : flattenNode n = flatten n.children := by
  cases n
  exact if_pos h

theorem flattenNode_of_not_grouping (h : ¬isGrouping n.tag) : flattenNode n = [n] := by
  cases n
  exact if_neg h

theorem flatten_singleton : flatten [n] = flattenNode n := by
  rw [flatten, flatten, List.append_nil]

theorem not_grouping_of_directive (h : t ∈ directiveTags tag) : ¬isGrouping t := by
  have ht : t = "access" ∨ t = "request" := by
    unfold directiveTags at h
    split at h
    · simpa using h
    · split at h
      · exact .inl (List.mem_singleton.1 h)
      · cases h
  rcases ht with rfl | rfl <;> decide

theorem directiveTags_of_grouping (h : isGrouping tag) : directiveTags tag = [] := by
  unfold directiveTags
  split
  · rename_i htag
    simp [isGrouping, htag, groupingTags] at h
  · split
    · rename_i htag
      rcases htag with htag | htag <;> simp [isGrouping, htag, groupingTags] at h
    · rfl

theorem isDirective_iff : isDirective tag n ↔ n.tag ∈ directiveTags tag := by
  simp [isDirective]

/-- Directives are not among the contents, so taking them out of a list does not change these. -/
theorem contents_without_directives :
    contents tag (l.filter fun c => !isDirective tag c) = contents tag l := by
  induction l with
  | nil => rfl
  | cons c rest ih =>
    unfold contents at ih ⊢
    rw [List.filter_cons]
    split
    · rw [flatten, flatten, List.filter_append, List.filter_append, ih]
    · rename_i hdirective
      have hdirective : isDirective tag c := by simpa using hdirective
      rw [ih, flatten, flattenNode_of_not_grouping
        (not_grouping_of_directive (isDirective_iff.1 hdirective))]
      simp [hdirective]

theorem contents_append : contents tag (l ++ l') = contents tag l ++ contents tag l' := by
  simp [contents, flatten_append]

theorem attrsOf_append : attrsOf t (l ++ l') = attrsOf t l ++ attrsOf t l' := by
  simp [attrsOf]

/-- A group is no directive, and there is none left when they are taken out of its children. -/
theorem attrsOf_group (hg : isGrouping g.tag) (ht : t ∈ directiveTags tag) :
    attrsOf t [g] = attrsOf t (l.filter fun c => !isDirective tag c) := by
  have hgroup : g.tag ≠ t := by
    rintro rfl
    exact not_grouping_of_directive ht hg
  have hnone : (l.filter fun c => !isDirective tag c).filter (fun c => c.tag = t) = [] := by
    rw [List.filter_eq_nil_iff]
    intro c hc htag
    have hkept := (List.mem_filter.1 hc).2
    simp only [decide_eq_true_eq] at htag
    simp [isDirective, htag, ht] at hkept
  simp [attrsOf, hgroup, hnone]

theorem contents_group (hg : isGrouping g.tag) :
    contents tag [g] = contents tag (g.children.filter fun c => !isDirective tag c) := by
  rw [contents_without_directives]
  simp [contents, flatten_singleton, flattenNode_of_grouping hg]

theorem contents_refl : List.Forall₂ Alike (contents tag l) (contents tag l) :=
  List.rel_filter (fun _ _ h => by simp [isDirective, h.head.tag_eq]) (alike_flatten l)

theorem Alike.flattenNode_alike (h : Alike n n') :
    List.Forall₂ Alike (flattenNode n) (flattenNode n') := by
  by_cases hn : isGrouping n.tag
  · rw [flattenNode_of_grouping hn, flattenNode_of_grouping (h.head.tag_eq ▸ hn)]
    exact h.flatten_alike (directiveTags_of_grouping hn)
  · rw [flattenNode_of_not_grouping hn, flattenNode_of_not_grouping (h.head.tag_eq ▸ hn)]
    exact .cons h .nil

theorem Alike.contents_singleton (h : Alike n n') :
    List.Forall₂ Alike (contents tag [n]) (contents tag [n']) := by
  unfold contents
  rw [flatten_singleton, flatten_singleton]
  exact List.rel_filter (fun _ _ h => by simp [isDirective, h.head.tag_eq]) h.flattenNode_alike

theorem Alike.attrsOf_singleton (h : Alike n n') : attrsOf t [n] = attrsOf t [n'] := by
  cases h.head with
  | @mk tag => by_cases htag : tag = t <;> simp [attrsOf, Node.tag, Node.attrs, htag]

/-- A stretch of the children may be put in the place of another that is alike. -/
theorem alike_splice {attrs : OrderedMap String Json}
    (hattrs : ∀ t ∈ directiveTags tag, attrsOf t l = attrsOf t l')
    (hcontents : List.Forall₂ Alike (contents tag l) (contents tag l')) :
    Alike (.mk tag attrs (before ++ l ++ after)) (.mk tag attrs (before ++ l' ++ after)) := by
  refine .mk (fun t ht => ?_) ?_
  · simp only [attrsOf_append, hattrs t ht]
  · simp only [contents_append]
    exact List.rel_append (List.rel_append contents_refl hcontents) contents_refl

/-- A group is as good as its children without directives, however deep its place is. -/
theorem Place.fill_alike (hg : isGrouping g.tag) (place : Place) :
    Alike (place.fill [g])
      (place.fill (g.children.filter fun c => !isDirective place.holder c)) := by
  induction place with
  | here tag attrs before after =>
    -- the flattened children are the same, and no directive came in or went out
    refine alike_splice (fun t ht => attrsOf_group hg ht) ?_
    rw [contents_group hg]
    exact contents_refl
  | under tag attrs before inner after ih =>
    exact alike_splice (fun t _ => ih.attrsOf_singleton) ih.contents_singleton

/-- To put the children of a group in its place is to change nothing, or at most to bring out
directives of the node that the group stands in, which the group kept from it. -/
theorem ofDocument_ungroup (hg : isGrouping g.tag) (place : Place) :
    Page.ofDocument (place.fill [g]) =
        Page.ofDocument
          (place.fill (g.children.filter fun c => c.tag ∉ directiveTags place.holder)) ∧
      ((∀ c ∈ g.children, c.tag ∉ directiveTags place.holder) →
        Page.ofDocument (place.fill [g]) = Page.ofDocument (place.fill g.children)) := by
  have hdropped : Page.ofDocument (place.fill [g]) = Page.ofDocument
      (place.fill (g.children.filter fun c => c.tag ∉ directiveTags place.holder)) := by
    have hread := ofDocument_eq_of_alike (place.fill_alike hg)
    simpa [isDirective] using hread
  refine ⟨hdropped, fun hnone => ?_⟩
  rw [hdropped, List.filter_eq_self.2]
  intro c hc
  exact decide_eq_true (hnone c hc)

/-- The inside of a table on a page. -/
def tablePlace : Place :=
  .under "blueprint"
    (.ofList [("id", .str "home"), ("module", .str "shop"), ("route", .str "/"),
      ("schemaVersion", .str "1.0.0"), ("contentVersion", .str "1.0.0")])
    []
    (.under "region" (.ofList [("id", .str "main")]) []
      (.here "component"
        (.ofList [("id", .str "audit"), ("namespace", .str "ui"), ("type", .str "Table")]) [] [])
      [])
    []

def titleProperty : Node := .mk "prop" (.ofList [("name", .str "title"), ("value", .str "Log")]) []

def forAdmins : Node := .mk "access" (.ofList [("allow", .arr [.str "admin"])]) []

theorem titleProperty_ungroup : isGrouping (Node.mk "props" ∅ [titleProperty]).tag ∧
    Page.ofDocument (tablePlace.fill [.mk "props" ∅ [titleProperty]]) =
        Page.ofDocument (tablePlace.fill
          ([titleProperty].filter fun c => c.tag ∉ directiveTags tablePlace.holder)) ∧
      ((∀ c ∈ [titleProperty], c.tag ∉ directiveTags tablePlace.holder) →
        Page.ofDocument (tablePlace.fill [.mk "props" ∅ [titleProperty]]) =
          Page.ofDocument (tablePlace.fill [titleProperty])) := by
  have hg : isGrouping (Node.mk "props" ∅ [titleProperty]).tag := by decide
  exact ⟨hg, ofDocument_ungroup hg tablePlace⟩

/-- A table in whose document a group stands around the rule that keeps it for admins is open to
all. -/
theorem grouped_access_ignored : ∃ p p', isGrouping "props" ∧ p ≠ p' ∧
    Page.ofDocument (tablePlace.fill [.mk "props" ∅ [forAdmins]]) = .ok p ∧
    Page.ofDocument (tablePlace.fill [forAdmins]) = .ok p' ∧
    (p.component? "audit").map Component.access = some none ∧
    (p'.component? "audit").map Component.access =
      some (some ⟨some (.ofList ["admin"]), none, ∅⟩) := by
  refine ⟨_, _, by decide, ?_, rfl, rfl, ?_, ?_⟩ <;> decide

end PageLayers.Authoring
