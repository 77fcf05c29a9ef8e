import PageLayers.Proofs.Expression.Checked
import PageLayers.Proofs.Rules.Verdict

/-! What the rules on references and on expressions ask of one property. -/

namespace PageLayers

variable {p tree : Page} {props : List Property} {node name id path source : String}
  {readable : List String}

/-- The text of an expression that can be read, calls what exists and mentions what is readable. -/
def Expr.Checked (readable : List String) (source : String) : Prop :=
  ∃ e, Expr.parse source = .ok e ∧ (∀ name ∈ e.callNames, name ∈ Expr.builtins) ∧
    ∀ name, e.Mentions name → name ∈ readable

namespace Rules

theorem contractHolds_eq_nil : bindingHolds tree node (.contract name) = [] ↔
    ∃ s, tree.dataSource? (Text.before '.' name) = some s ∧
      s.contract.contains ((Text.after? '.' name).getD "") = true := by
  unfold bindingHolds Binding.sourceId
  cases tree.dataSource? (Text.before '.' name) with
  | none => simp
  | some s => simp

theorem pathHolds_eq_nil : bindingHolds tree node (.path id path) = [] ↔
    ∃ s, tree.dataSource? id = some s ∧ s.resolves path = true := by
  unfold bindingHolds Binding.sourceId
  cases tree.dataSource? id with
  | none => simp
  | some s => simp

theorem expressionHolds_eq_nil {owner : String} :
    expressionHolds owner node readable source = [] ↔ Expr.Checked readable source := by
  unfold Expr.Checked expressionHolds
  cases hparse : Expr.parse source with
  | error error => simp
  | ok e =>
    have hcalls : (∀ name ∈ e.calls.members, name ∈ Expr.builtins) ↔
        ∀ name ∈ e.callNames, name ∈ Expr.builtins := by
      simp only [Expr.calls, OrderedSet.mem_ofList]
    simp [List.filter_eq_nil_iff, Expr.mem_roots, hcalls]

theorem mem_readableNames : name ∈ readableNames props ↔
    (∃ q ∈ props, (∃ b, q.value = .binding b) ∧ q.name = name) ∨ name = "const" := by
  have hbinding (q : Property) : q.isBinding = true ↔ ∃ b, q.value = .binding b := by
    unfold Property.isBinding
    cases q.value <;> simp [PropertyValue.kind]
  simp [readableNames, constantsName, hbinding, and_assoc]

/-- Each expression sees the bindings among the same properties. -/
theorem expressionsHold_eq_nil {owner : String} : expressionsHold owner props = [] ↔
    ∀ q ∈ props, ∀ source, q.value = .expression source →
      Expr.Checked (readableNames props) source := by
  unfold expressionsHold
  rw [List.flatMap_eq_nil_iff]
  refine forall₂_congr fun q _ => ?_
  cases q.value with
  | expression source => simp [expressionHolds_eq_nil]
  | static | binding | action => simp

end Rules

/-- What the rule on expressions says of one property. -/
theorem Page.ExpressionsHold.read (h : p.ExpressionsHold) {l : String × List Property}
    (hl : l ∈ p.propertyLists) {q : Property} (hq : q ∈ l.2)
    (hsource : q.value = .expression source) : Expr.Checked (readableNames l.2) source :=
  Rules.expressionsHold_eq_nil.1 (h l hl) q hq source hsource

end PageLayers
