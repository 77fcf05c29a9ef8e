import PageLayers.Proofs.Render.Isolation
import PageLayers.Proofs.Rules.Properties

/-! Expressions that were checked when their page was compiled. The check lets them read every
binding of their node, while at run time only those in scope are there that have a value; what is
between the two shows as an expression without a value, and never as an unknown name. -/

namespace PageLayers

variable {config : EvaluatorConfig} {viewer : Viewer} {ask : DataSource → Reply} {r : ResolvedPage}
  {p : Page} {rules : RuleContext} {e : Expr} {props : List Property} {name source : String}

/-- What an expression comes to beside the values of the other properties of its node. -/
structure Expr.Settled (e : Expr) (props : List Property) (value : Property → RenderValue)
    (result : RenderValue) : Prop where
  unavailable : result.isUnavailable = true ↔ ∃ q ∈ props, (∃ b, q.value = .binding b) ∧
    (value q).isUnavailable = true ∧ e.Mentions q.name
  otherwise : result.isUnavailable = false →
    (∃ j, result = .ready j) ∨ ∃ error, result = .error (.evaluation error) ∧ error.AtRunTime

namespace RenderContext

variable {ctx : RenderContext}

/-- A binding has a value or is unavailable. -/
theorem bindingValue_value? {b : Binding} :
    (ctx.bindingValue b).value? = none ↔ (ctx.bindingValue b).isUnavailable = true := by
  unfold bindingValue fieldValue
  split
  · split
    · split <;> simp [RenderValue.value?, RenderValue.isUnavailable]
    all_goals simp [RenderValue.value?, RenderValue.isUnavailable]
  · simp [RenderValue.value?, RenderValue.isUnavailable]

theorem mem_bindings {entry : String × RenderValue} : entry ∈ ctx.bindings props ↔
    ∃ q ∈ props, ∃ b, q.value = .binding b ∧ entry = (q.name, ctx.bindingValue b) := by
  unfold bindings
  rw [List.mem_filterMap]
  refine exists_congr fun q => and_congr_right fun _ => ?_
  cases q.value <;> simp [eq_comm]

/-- The names for which the expressions of a node are unavailable. -/
theorem any_bindings_unavailable :
    (ctx.bindings props).any (fun b => b.1 = name ∧ b.2.value? = none) = true ↔
      ∃ q ∈ props, (∃ b, q.value = .binding b) ∧
        (ctx.value (ctx.bindings props) q.value).isUnavailable = true ∧ q.name = name := by
  simp only [List.any_eq_true, mem_bindings, decide_eq_true_eq]
  constructor
  · rintro ⟨_, ⟨q, hq, b, hvalue, rfl⟩, rfl, hnone⟩
    refine ⟨q, hq, ⟨b, hvalue⟩, ?_, rfl⟩
    rw [hvalue]
    exact bindingValue_value?.1 hnone
  · rintro ⟨q, hq, ⟨b, hvalue⟩, hunavailable, rfl⟩
    rw [hvalue] at hunavailable
    exact ⟨_, ⟨q, hq, b, hvalue, rfl⟩, rfl, bindingValue_value?.2 hunavailable⟩

/-- A readable name is in scope unless a binding of that name is unavailable. -/
theorem inScope_of_readable (hread : name ∈ readableNames props)
    (havailable : (ctx.bindings props).any (fun b => b.1 = name ∧ b.2.value? = none) = false) :
    (ctx.namesInScope (ctx.bindings props)).get? name ≠ none := by
  unfold namesInScope
  by_cases hconst : name = "const"
  · subst hconst
    rw [OrderedMap.get?_insert_self]
    exact Option.some_ne_none _
  · rw [OrderedMap.get?_insert_of_ne hconst]
    obtain ⟨q, hq, ⟨b, hvalue⟩, rfl⟩ := (Rules.mem_readableNames.1 hread).resolve_right hconst
    have hmem : (q.name, ctx.bindingValue b) ∈ ctx.bindings props :=
      mem_bindings.2 ⟨q, hq, b, hvalue, rfl⟩
    have hready : (ctx.bindingValue b).value? ≠ none := by
      have hall := List.any_eq_false.1 havailable _ hmem
      simpa using hall
    obtain ⟨j, hj⟩ := Option.ne_none_iff_exists'.1 hready
    exact OrderedMap.get?_ofList_ne_none (v := j)
      (List.mem_filterMap.2 ⟨_, hmem, by simp [hj]⟩)

/-- An expression that calls what exists and mentions what is readable. -/
theorem expressionValue_settled (hparse : Expr.parse source = .ok e)
    (hcalls : ∀ name ∈ e.callNames, name ∈ Expr.builtins)
    (hread : ∀ name, e.Mentions name → name ∈ readableNames props) :
    e.Settled props (fun q => ctx.value (ctx.bindings props) q.value)
      (ctx.expressionValue (ctx.bindings props) source) := by
  unfold expressionValue
  rw [hparse]
  cases hfind : e.roots.members.find?
      (fun name => (ctx.bindings props).any fun b => b.1 = name ∧ b.2.value? = none) with
  | some name =>
    -- a mentioned name was found that stands for an unavailable binding
    have hmentions := Expr.mem_roots.1 (List.mem_of_find?_eq_some hfind)
    have hany := List.find?_some hfind
    obtain ⟨q, hq, hbinding, hunavailable, rfl⟩ := any_bindings_unavailable.1 hany
    simp only [hfind]
    exact ⟨iff_of_true rfl ⟨q, hq, hbinding, hunavailable, hmentions⟩, fun h => nomatch h⟩
  | none =>
    have havailable : ∀ name, e.Mentions name →
        (ctx.bindings props).any (fun b => b.1 = name ∧ b.2.value? = none) = false := by
      intro name hname
      exact Bool.eq_false_iff.2 (List.find?_eq_none.1 hfind name (Expr.mem_roots.2 hname))
    have hnone : ¬∃ q ∈ props, (∃ b, q.value = .binding b) ∧
        (ctx.value (ctx.bindings props) q.value).isUnavailable = true ∧ e.Mentions q.name := by
      rintro ⟨q, hq, hbinding, hunavailable, hname⟩
      have hany := any_bindings_unavailable.2 ⟨q, hq, hbinding, hunavailable, rfl⟩
      rw [havailable _ hname] at hany
      cases hany
    have hscope : ∀ name, e.Mentions name →
        (ctx.namesInScope (ctx.bindings props)).get? name ≠ none := fun name hname =>
      inScope_of_readable (hread name hname) (havailable name hname)
    have hlate : Eval.FailsLate (e.eval (ctx.namesInScope (ctx.bindings props)) ctx.gasLimit) :=
      Expr.eval_failsLate hscope hcalls
    simp only [hfind]
    cases heval : e.eval (ctx.namesInScope (ctx.bindings props)) ctx.gasLimit with
    | ok j => exact ⟨iff_of_false (fun h => nomatch h) hnone, fun _ => .inl ⟨j, rfl⟩⟩
    | error error =>
      exact ⟨iff_of_false (fun h => nomatch h) hnone, fun _ => .inr ⟨error, rfl, hlate error heval⟩⟩

end RenderContext

/-- In a page whose expressions were checked, an expression that a viewer sees is unavailable
exactly when it mentions an unavailable binding of its node, wherever in it that is. Otherwise it is
ready, or fails for a cause that lies in its values or in the gas: it can be read, and all its names
and functions are known. -/
theorem checked_expressions_settle (htree : p.effectiveTree? rules = some r.page)
    (hrule : Rules.expression p rules = []) :
    ∃ value : List Property → Property → RenderValue,
      (∀ listing, (r.modelFor listing config viewer ask).Shows (r.page.visibleTo viewer) value) ∧
      ∀ l ∈ (r.page.visibleTo viewer).propertyLists, ∀ q ∈ l.2, ∀ source,
        q.value = .expression source → ∃ e, Expr.parse source = .ok e ∧
          e.Settled l.2 (value l.2) (value l.2 q) := by
  refine ⟨_, fun _ => ResolvedPage.modelFor_shows, ?_⟩
  intro l hl q hq source hsource
  have hholds := Rules.expression_eq_nil.1 hrule _ htree
  obtain ⟨e, hparse, hcalls, hread⟩ :=
    hholds.read (Page.mem_propertyLists_of_visibleTo hl) hq hsource
  refine ⟨e, hparse, ?_⟩
  simp only [hsource]
  exact RenderContext.expressionValue_settled hparse hcalls hread

/-- A heading that would do without the title it mentions, and a size that is no text. -/
def cautious : ResolvedPage := .ofMerged
  { welcome with
    regions := [⟨"main", [⟨"hero", "Banner", "ui", none,
      [⟨"title", .binding (.path "copy" "title")⟩,
       ⟨"heading", .expression "coalesce('Welcome', title)"⟩,
       ⟨"size", .expression "len(const.size)"⟩], none⟩]⟩]
    dataSources := [⟨"copy", .service "texts" .null none, ∅, none⟩]
    constants := .ofList [("size", .bool true)] } []

theorem cautious_expressions_settle : ∃ value : List Property → Property → RenderValue,
    (∀ listing, (cautious.modelFor listing .default ⟨∅, ∅⟩ fun _ => .never).Shows
      (cautious.page.visibleTo ⟨∅, ∅⟩) value) ∧
    ∀ l ∈ (cautious.page.visibleTo ⟨∅, ∅⟩).propertyLists, ∀ q ∈ l.2, ∀ source,
      q.value = .expression source → ∃ e, Expr.parse source = .ok e ∧
        e.Settled l.2 (value l.2) (value l.2 q) := by
  have htree : cautious.page.effectiveTree? ⟨none, [], none⟩ = some cautious.page := rfl
  have hrule : Rules.expression cautious.page ⟨none, [], none⟩ = [] := by decide +kernel
  exact checked_expressions_settle htree hrule

/-- While the title is awaited in vain there is no heading, although the text of one is given. -/
example : (cautious.modelFor .byId .default ⟨∅, ∅⟩ fun _ => .never).property? "hero" "heading" =
    some (.unavailable (.readsUnavailable "title")) := by decide +kernel

end PageLayers
