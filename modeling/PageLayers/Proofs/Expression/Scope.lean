import PageLayers.Proofs.Expression.Faults
import PageLayers.Proofs.Ordered.Set

/-! What an expression sees of its sandbox: the values of its roots, and nothing else. -/

namespace PageLayers

variable {vars vars' : OrderedMap String Json} {limit : Nat}

namespace Expr

/-- Two sandboxes hold the same value, or none, under each of the names. -/
def AgreeOn (names : List String) (vars vars' : OrderedMap String Json) : Prop :=
  ∀ name ∈ names, vars.get? name = vars'.get? name

theorem AgreeOn.left {names more : List String} (h : AgreeOn (names ++ more) vars vars') :
    AgreeOn names vars vars' :=
  fun name hname => h name (List.mem_append_left more hname)

theorem AgreeOn.right {names more : List String} (h : AgreeOn (names ++ more) vars vars') :
    AgreeOn more vars vars' :=
  fun name hname => h name (List.mem_append_right names hname)

end Expr

namespace Eval

open PageLayers.Expr

mutual

/-- The outcome and the gas that is left are those of any sandbox that agrees on the roots. -/
theorem eval_of_agreeOn (e : Expr) (h : AgreeOn e.rootNames vars vars') :
    eval ⟨vars, limit⟩ e = eval ⟨vars', limit⟩ e := by
  match e with
  | .literal _ => rfl
  | .var name =>
    have hread : readVar ⟨vars, limit⟩ name = readVar ⟨vars', limit⟩ name := by
      simp only [readVar, h name (List.mem_singleton_self name)]
    simp only [eval, hread]
    rfl
  | .get e _ =>
    simp only [eval, eval_of_agreeOn e h]
    rfl
  | .unary _ e =>
    simp only [eval, eval_of_agreeOn e h]
    rfl
  | .binary _ l r =>
    simp only [eval, eval_of_agreeOn l h.left, eval_of_agreeOn r h.right]
    rfl
  | .ternary c yes no =>
    simp only [eval, eval_of_agreeOn c h.left.left, eval_of_agreeOn yes h.left.right,
      eval_of_agreeOn no h.right]
    rfl
  | .call _ args =>
    simp only [eval, evalArgs_of_agreeOn args h]
    rfl

theorem evalArgs_of_agreeOn (args : List Expr) (h : AgreeOn (rootNamesOf args) vars vars') :
    evalArgs ⟨vars, limit⟩ args = evalArgs ⟨vars', limit⟩ args := by
  match args with
  | [] => rfl
  | e :: rest =>
    simp only [evalArgs, eval_of_agreeOn e h.left, evalArgs_of_agreeOn rest h.right]

end

end Eval

theorem Expr.eval_of_agreeOn_roots {e : Expr}
    (h : Expr.AgreeOn e.roots.members vars vars') : e.eval vars limit = e.eval vars' limit := by
  have hnames : Expr.AgreeOn e.rootNames vars vars' :=
    fun name hname => h name (OrderedSet.mem_ofList.2 hname)
  simp only [Expr.eval, Eval.eval_of_agreeOn e hnames]

/-- An evaluation depends on the values of the roots of its expression and on nothing else that the
sandbox holds, and so does the gas that it leaves. A name is unknown to it only where it is a root
without a value, a function only where it is called and there is none of that name. -/
theorem Expr.sees_only_roots (e : Expr) (vars : OrderedMap String Json) (limit gas : Nat) :
    (∀ vars', AgreeOn e.roots.members vars vars' →
      Eval.eval ⟨vars, limit⟩ e gas = Eval.eval ⟨vars', limit⟩ e gas) ∧
    (∀ name, (Eval.eval ⟨vars, limit⟩ e gas).1 = .error (.unknownIdentifier name) →
      name ∈ e.roots.members ∧ vars.get? name = none) ∧
    ∀ name, (Eval.eval ⟨vars, limit⟩ e gas).1 = .error (.unknownFunction name) →
      name ∈ e.calls.members ∧ name ∉ builtins := by
  refine ⟨fun vars' hagree => ?_, fun name hunknown => ?_, fun name hunknown => ?_⟩
  · have hnames : AgreeOn e.rootNames vars vars' :=
      fun name hname => hagree name (OrderedSet.mem_ofList.2 hname)
    rw [Eval.eval_of_agreeOn e hnames]
  · cases Eval.eval_blames e gas _ hunknown with
    | values h => cases h
    | unknownIdentifier hname hnone => exact ⟨OrderedSet.mem_ofList.2 hname, hnone⟩
  · cases Eval.eval_blames e gas _ hunknown with
    | values h => cases h
    | unknownFunction hname hnone => exact ⟨OrderedSet.mem_ofList.2 hname, hnone⟩

/-- The expression `shout(user.name)`. -/
def shouted : Expr := .call "shout" [.get (.var "user") (.field "name")]

/-- Variables that hold a user, and another secret each. -/
def userAnd (secret : String) : OrderedMap String Json :=
  .ofList [("secret", .str secret), ("user", .obj [("name", .str "Ada")])]

/-- With a user there is no such function, without one no such name; the secret is not seen. -/
theorem shouted_sees_user :
    Expr.AgreeOn shouted.roots.members (userAnd "cake") (userAnd "pie") ∧
    Eval.eval ⟨userAnd "cake", 9⟩ shouted 2 = Eval.eval ⟨userAnd "pie", 9⟩ shouted 2 ∧
    (Eval.eval ⟨userAnd "cake", 9⟩ shouted 2).1 = .error (.unknownFunction "shout") ∧
    ("shout" ∈ shouted.calls.members ∧ "shout" ∉ Expr.builtins) ∧
    (Eval.eval ⟨∅, 9⟩ shouted 2).1 = .error (.unknownIdentifier "user") ∧
    "user" ∈ shouted.roots.members ∧ (∅ : OrderedMap String Json).get? "user" = none := by
  have hagree : Expr.AgreeOn shouted.roots.members (userAnd "cake") (userAnd "pie") := by
    have hroots : shouted.roots.members = ["user"] := rfl
    rw [hroots]
    intro name hname
    obtain rfl := List.mem_singleton.1 hname
    rfl
  obtain ⟨hsame, -, hfunction⟩ := shouted.sees_only_roots (userAnd "cake") 9 2
  obtain ⟨-, hname, -⟩ := shouted.sees_only_roots ∅ 9 2
  exact ⟨hagree, hsame _ hagree, rfl, hfunction "shout" rfl, rfl, hname "user" rfl⟩

end PageLayers
