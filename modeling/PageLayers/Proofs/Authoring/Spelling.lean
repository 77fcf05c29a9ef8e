import Mathlib.Logic.Relation
import PageLayers.Proofs.Authoring.Counterparts
import PageLayers.Proofs.Lists

/-! The older spellings of tags, attributes and words, and what of a node stays as it is where one
of them takes the place of the current one. -/

namespace PageLayers.Authoring

/-- Tags with their older spellings. -/
def legacyTags : List (String × String) :=
  [("region", "slot"), ("component", "widget"), ("dataSource", "datasource"),
    ("dataSource", "data-source"), ("dataSource", "data_source"), ("dataSource", "source")]

/-- The names of attributes on nodes of some tag with their older spellings. -/
def legacyNames (tag : String) : List (String × String) :=
  if tag = "prop" ∨ tag = "param" then [("contract", "bind"), ("expr", "expression")]
  else if tag = "dataSource" then [("kind", "type"), ("data", "value"), ("url", "endpoint")]
  else if tag = "request" then [("url", "endpoint")]
  else if tag = "action" then [("kind", "type")]
  else if tag = "patch" then [("op", "operation"), ("id", "targetId")]
  else []

/-- The words that an attribute may hold with their older spellings. -/
def legacyWords (tag name : String) : List (String × String) :=
  if tag = "dataSource" ∧ (name = "kind" ∨ name = "type") then
    [("static", "inline"), ("static", "const"), ("static", "json"), ("http", "rest"),
      ("http", "fetch"), ("service", "rpc"), ("service", "handler")]
  else if tag = "patch" ∧ name = "target" then
    [("region", "slot"), ("component", "widget"), ("dataSource", "datasource"),
      ("dataSource", "data-source")]
  else if tag = "patch" ∧ (name = "op" ∨ name = "operation") then [("remove", "delete")]
  else []

/-- An older spelling takes the place of the current one somewhere in a document. A name is
respelled where the node has no attribute of the other name. -/
inductive Respelled : Node → Node → Prop where
  | tag {tag tag' attrs children} (h : (tag, tag') ∈ legacyTags) :
      Respelled (.mk tag attrs children) (.mk tag' attrs children)
  | name {tag attrs children name name' j} (h : (name, name') ∈ legacyNames (currentTag tag))
      (hname : attrs.get? name = some j) (hother : attrs.get? name' = none) :
      Respelled (.mk tag attrs children) (.mk tag ((attrs.erase name).insert name' j) children)
  | word {tag attrs children name j j' word word'}
      (h : (word, word') ∈ legacyWords (currentTag tag) name) (hname : attrs.get? name = some j)
      (hword : Node.attrText? j = some word) (hword' : Node.attrText? j' = some word') :
      Respelled (.mk tag attrs children) (.mk tag (attrs.insert name j') children)
  | under {tag attrs before after n n'} (h : Respelled n n') :
      Respelled (.mk tag attrs (before ++ n :: after)) (.mk tag attrs (before ++ n' :: after))

/-! ### Looking up attributes -/

/-- Where one of the two names stands in the list, the other comes next to it. -/
def whole (a b : String) : List String → Bool
  | [] => true
  | [x] => x ≠ a && x ≠ b
  | x :: y :: rest => if x = a then y = b && whole a b rest else x ≠ b && whole a b (y :: rest)

/-- No spelling of an attribute is looked up without the others, and none that holds a word. -/
def plain (tag : String) (names : List String) : Bool :=
  ((legacyNames tag).all fun pair => whole pair.1 pair.2 names) &&
    names.all fun name => (legacyWords tag name).isEmpty

theorem findSome?_eq_of_whole {α : Type} {a b : String} {f g : String → Option α}
    (hpair : (f a).or (f b) = (g a).or (g b)) (hrest : ∀ c, c ≠ a → c ≠ b → f c = g c)
    {names : List String} (h : whole a b names = true) : names.findSome? f = names.findSome? g := by
  fun_induction whole a b names with
  | case1 => rfl
  | case2 x =>
    simp only [Bool.and_eq_true, decide_eq_true_eq] at h
    rw [findSome?_cons_eq_or, findSome?_cons_eq_or, hrest x h.1 h.2]
    rfl
  | case3 y rest ih =>
    simp only [Bool.and_eq_true, decide_eq_true_eq] at h
    obtain ⟨rfl, h⟩ := h
    simp only [findSome?_cons_eq_or, ← Option.or_assoc, hpair, ih h]
  | case4 x y rest hx ih =>
    simp only [Bool.and_eq_true, decide_eq_true_eq] at h
    rw [findSome?_cons_eq_or, hrest x hx h.1, ih h.2, ← findSome?_cons_eq_or]

/-- A name that is respelled makes no difference where both spellings are looked up together. -/
theorem get?_respell {tag : String} {attrs : OrderedMap String Json} {children : List Node}
    {name name' : String} {j : Json} (hne : name ≠ name') (hname : attrs.get? name = some j)
    (hother : attrs.get? name' = none) {names : List String} (h : whole name name' names = true) :
    (Node.mk tag attrs children).get? names =
      (Node.mk tag ((attrs.erase name).insert name' j) children).get? names := by
  refine findSome?_eq_of_whole ?_ (fun c hc hc' => ?_) h
  · show (attrs.get? name).or (attrs.get? name') =
      (((attrs.erase name).insert name' j).get? name).or
        (((attrs.erase name).insert name' j).get? name')
    rw [hname, hother, OrderedMap.get?_insert_of_ne hne, OrderedMap.get?_erase_self,
      OrderedMap.get?_insert_self]
    rfl
  · show attrs.get? c = ((attrs.erase name).insert name' j).get? c
    rw [OrderedMap.get?_insert_of_ne hc', OrderedMap.get?_erase_of_ne hc]

/-- Another value of an attribute is found only where the attribute is looked up. -/
theorem get?_reword {tag : String} {attrs : OrderedMap String Json} {children : List Node}
    {name : String} {j j' : Json} (hname : attrs.get? name = some j) {names : List String} :
    (Node.mk tag attrs children).get? names =
        (Node.mk tag (attrs.insert name j') children).get? names ∨
      name ∈ names ∧ (Node.mk tag attrs children).get? names = some j ∧
        (Node.mk tag (attrs.insert name j') children).get? names = some j' := by
  unfold Node.get?
  simp only [Node.attrs]
  induction names with
  | nil => exact .inl rfl
  | cons x rest ih =>
    simp only [findSome?_cons_eq_or, List.mem_cons]
    by_cases hx : x = name
    · subst hx
      rw [hname, OrderedMap.get?_insert_self]
      exact .inr ⟨.inl rfl, rfl, rfl⟩
    · rw [OrderedMap.get?_insert_of_ne hx]
      cases attrs.get? x with
      | some v => exact .inl rfl
      | none => exact ih.imp_right fun h => ⟨.inr h.1, h.2⟩

/-- Nodes that say the same about themselves: all attributes that hold no words are found alike, and
the words mean the same. -/
structure SaysSame (n n' : Node) : Prop where
  tag : currentTag n.tag = currentTag n'.tag
  get? : ∀ names, plain (currentTag n.tag) names = true → n.get? names = n'.get? names
  hasKind : currentTag n.tag = "dataSource" → n.has ["kind", "type"] = n'.has ["kind", "type"]
  kind : currentTag n.tag = "dataSource" →
    (n.getText? ["kind", "type"]).map originKind? = (n'.getText? ["kind", "type"]).map originKind?
  target : currentTag n.tag = "patch" →
    (n.getText? ["target"]).map target? = (n'.getText? ["target"]).map target?
  operation : currentTag n.tag = "patch" →
    (n.getText? ["op", "operation"]).map operation? =
      (n'.getText? ["op", "operation"]).map operation?

theorem SaysSame.refl (n : Node) : SaysSame n n :=
  ⟨rfl, fun _ _ => rfl, fun _ => rfl, fun _ => rfl, fun _ => rfl, fun _ => rfl⟩

theorem currentTag_of_legacyTags {tag tag' : String} (h : (tag, tag') ∈ legacyTags) :
    currentTag tag = currentTag tag' := by
  have hall : ∀ pair ∈ legacyTags, currentTag pair.1 = currentTag pair.2 := by decide
  exact hall _ h

theorem ne_of_legacyNames {tag name name' : String} (h : (name, name') ∈ legacyNames tag) :
    name ≠ name' := by
  have hall : ∀ pair ∈ legacyNames tag, pair.1 ≠ pair.2 := by
    unfold legacyNames
    split_ifs <;> decide
  exact hall _ h

theorem saysSame_of_name {tag : String} {attrs : OrderedMap String Json} {children : List Node}
    {name name' : String} {j : Json} (h : (name, name') ∈ legacyNames (currentTag tag))
    (hname : attrs.get? name = some j) (hother : attrs.get? name' = none) :
    SaysSame (.mk tag attrs children)
      (.mk tag ((attrs.erase name).insert name' j) children) := by
  have hget : ∀ names, (legacyNames (currentTag tag)).all (fun pair => whole pair.1 pair.2 names) →
      (Node.mk tag attrs children).get? names =
        (Node.mk tag ((attrs.erase name).insert name' j) children).get? names := fun names hall =>
    get?_respell (ne_of_legacyNames h) hname hother (List.all_eq_true.1 hall _ h)
  constructor
  case tag => rfl
  case get? => exact fun names hplain => hget names (Bool.and_eq_true_iff.1 hplain).1
  case hasKind =>
    intro htag
    exact congrArg Option.isSome (hget _ (htag ▸ by decide))
  case kind =>
    intro htag
    rw [Node.getText?, Node.getText?, hget _ (htag ▸ by decide)]
  case target =>
    intro htag
    rw [Node.getText?, Node.getText?, hget _ (htag ▸ by decide)]
  case operation =>
    intro htag
    rw [Node.getText?, Node.getText?, hget _ (htag ▸ by decide)]

/-- Words that are spelled differently mean the same. -/
theorem meaning_of_legacyWords {tag name word word' : String}
    (h : (word, word') ∈ legacyWords tag name) :
    (tag = "dataSource" → originKind? word = originKind? word') ∧
      (name = "target" → target? word = target? word') ∧
      (name ∈ ["op", "operation"] → operation? word = operation? word') := by
  have hall : ∀ pair ∈ legacyWords tag name,
      (tag = "dataSource" → originKind? pair.1 = originKind? pair.2) ∧
        (name = "target" → target? pair.1 = target? pair.2) ∧
        (name ∈ ["op", "operation"] → operation? pair.1 = operation? pair.2) := by
    unfold legacyWords
    split
    · rename_i hkind
      rcases hkind with ⟨rfl, rfl | rfl⟩ <;> decide
    · split
      · rename_i htarget
        obtain ⟨rfl, rfl⟩ := htarget
        decide
      · split
        · rename_i hoperation
          rcases hoperation with ⟨rfl, rfl | rfl⟩ <;> decide
        · nofun
  exact hall _ h

theorem saysSame_of_word {tag : String} {attrs : OrderedMap String Json} {children : List Node}
    {name word word' : String} {j j' : Json} (h : (word, word') ∈ legacyWords (currentTag tag) name)
    (hname : attrs.get? name = some j) (hword : Node.attrText? j = some word)
    (hword' : Node.attrText? j' = some word') :
    SaysSame (.mk tag attrs children) (.mk tag (attrs.insert name j') children) := by
  obtain ⟨hkind, htarget, hoperation⟩ := meaning_of_legacyWords h
  have hreword := fun names => @get?_reword tag attrs children name j j' hname names
  have htext {α : Type} {meaning : String → Option α} {names : List String}
      (hmeaning : name ∈ names → meaning word = meaning word') :
      ((Node.mk tag attrs children).getText? names).map meaning =
        ((Node.mk tag (attrs.insert name j') children).getText? names).map meaning := by
    rw [Node.getText?, Node.getText?]
    rcases hreword names with hsame | ⟨hmem, hj, hj'⟩
    · rw [hsame]
    · rw [hj, hj', Option.bind_some, Option.bind_some, hword, hword', Option.map_some,
        Option.map_some, hmeaning hmem]
  constructor
  case tag => rfl
  case get? =>
    intro names hplain
    refine (hreword names).resolve_right fun hfound => ?_
    have hnone : (legacyWords (currentTag tag) name).isEmpty = true :=
      List.all_eq_true.1 (Bool.and_eq_true_iff.1 hplain).2 _ hfound.1
    rw [List.isEmpty_iff.1 hnone] at h
    cases h
  case hasKind =>
    intro _
    rw [Node.has, Node.has]
    rcases hreword ["kind", "type"] with hsame | ⟨-, hj, hj'⟩
    · rw [hsame]
    · rw [hj, hj']
      rfl
  case kind => exact fun htag => htext fun _ => hkind htag
  case target => exact fun _ => htext fun hmem => htarget (List.mem_singleton.1 hmem)
  case operation => exact fun _ => htext hoperation

/-- Nodes that say the same, and so do those below them, one by one. -/
inductive Akin : Node → Node → Prop where
  | mk {n n'} (head : SaysSame n n') (children : List.Forall₂ Akin n.children n'.children) :
      Akin n n'

theorem Akin.head {n n' : Node} (h : Akin n n') : SaysSame n n' := by
  cases h
  assumption

theorem Akin.children {n n' : Node} (h : Akin n n') :
    List.Forall₂ Akin n.children n'.children := by
  cases h
  assumption

mutual

theorem akin_refl : ∀ n : Node, Akin n n
  | .mk tag attrs children => .mk (.refl (.mk tag attrs children)) (akin_refl_all children)

theorem akin_refl_all : ∀ l : List Node, List.Forall₂ Akin l l
  | [] => .nil
  | n :: rest => .cons (akin_refl n) (akin_refl_all rest)

end

theorem Respelled.akin {n n' : Node} (h : Respelled n n') : Akin n n' := by
  induction h with
  | @tag tag tag' attrs children h =>
    have hsame := currentTag_of_legacyTags h
    exact .mk ⟨hsame, fun _ _ => rfl, fun _ => rfl, fun _ => rfl, fun _ => rfl, fun _ => rfl⟩
      (akin_refl_all children)
  | @name _ _ children _ _ _ h hname hother =>
    exact .mk (saysSame_of_name h hname hother) (akin_refl_all children)
  | @word _ _ children _ _ _ _ _ h hname hword hword' =>
    exact .mk (saysSame_of_word h hname hword hword') (akin_refl_all children)
  | @under tag attrs before after _ _ _ ih =>
    refine .mk ⟨rfl, fun _ _ => rfl, fun _ => rfl, fun _ => rfl, fun _ => rfl, fun _ => rfl⟩ ?_
    exact List.rel_append (akin_refl_all before) (.cons ih (akin_refl_all after))

end PageLayers.Authoring
