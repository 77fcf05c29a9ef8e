import PageLayers.Files.Tree
import PageLayers.Proofs.Files.Path
import PageLayers.Proofs.Ordered.Map

/-! What stands in a file tree after a change, and how programs run on it. -/

namespace PageLayers.FileTree

variable {t u : FileTree} {place p : List String} {path text : String} {ε α β : Type}

/-! ### Changes -/

/-- A tree that differs from another in what stands at one place. -/
def Sets (t : FileTree) (place : List String) (node : FileNode) (u : FileTree) : Prop :=
  ∀ p, u.node? p = if p = place then some node else t.node? p

theorem node?_eq_get? (h : place ≠ []) : t.node? place = t.nodes.get? place := by
  cases place with
  | nil => exact absurd rfl h
  | cons name rest => rfl

theorem sets_insert {node : FileNode} (h : place ≠ []) :
    t.Sets place node ⟨t.nodes.insert place node⟩ := by
  intro p
  cases p with
  | nil => rw [if_neg (Ne.symm h)]; rfl
  | cons name rest =>
    rw [node?_eq_get? (List.cons_ne_nil _ _), node?_eq_get? (List.cons_ne_nil _ _)]
    by_cases hp : name :: rest = place
    · rw [if_pos hp, hp]
      exact OrderedMap.get?_insert_self
    · rw [if_neg hp]
      exact OrderedMap.get?_insert_of_ne hp

/-- A file is put into a directory unless a directory stands in its place. -/
theorem writePlace_eq (hdir : t.node? place.dropLast = some .directory)
    (hfree : t.node? place ≠ some .directory) :
    ∃ u, t.writePlace place text = some u ∧ t.Sets place (.file text) u := by
  have hne : place ≠ [] := by
    rintro rfl
    exact hfree rfl
  exact ⟨_, if_pos ⟨hdir, hfree⟩, sets_insert hne⟩

/-- Nothing is made on a way of directories that are there. -/
theorem makePlace_of_directories {above rest : List String}
    (h : ∀ q, q <+: rest → t.node? (above ++ q) = some .directory) :
    t.makePlace above rest = some t := by
  induction rest generalizing above with
  | nil => rfl
  | cons name rest ih =>
    have hfirst : t.node? (above ++ [name]) = some .directory := h [name] (by simp)
    simp only [makePlace, hfirst]
    refine ih fun q hq => ?_
    have hnext := h (name :: q) (List.cons_prefix_cons.2 ⟨rfl, hq⟩)
    rwa [List.append_assoc]

/-- The last directory of a way is made where nothing stands. -/
theorem makePlace_append {above rest : List String} {name : String}
    (h : ∀ q, q <+: rest → t.node? (above ++ q) = some .directory)
    (hfree : t.node? (above ++ rest ++ [name]) = none) :
    t.makePlace above (rest ++ [name]) =
      some ⟨t.nodes.insert (above ++ rest ++ [name]) .directory⟩ := by
  induction rest generalizing above with
  | nil =>
    rw [List.append_nil] at hfree ⊢
    rw [List.nil_append]
    simp only [makePlace, hfree]
  | cons first rest ih =>
    have hfirst : t.node? (above ++ [first]) = some .directory := h [first] (by simp)
    have hassoc : above ++ first :: rest = above ++ [first] ++ rest := by simp
    rw [hassoc] at hfree ⊢
    rw [List.cons_append]
    simp only [makePlace, hfirst]
    refine ih (fun q hq => ?_) hfree
    have hnext := h (first :: q) (List.cons_prefix_cons.2 ⟨rfl, hq⟩)
    rwa [List.append_assoc]

/-! ### Programs -/

theorem run_bind {program : FileProgram α} {next : α → FileProgram β} :
    t.run (program >>= next) = (t.run program).2.run (next (t.run program).1) := by
  induction program generalizing t with
  | done a => rfl
  | call c more ih => exact ih _

variable {program : ExceptT ε FileProgram α} {next : α → ExceptT ε FileProgram β} {a : α} {e : ε}

theorem run_step {c : FileCall} {f : c.Result → Except ε α} :
    t.run (c.step f).run = (f (answer c t).1, (answer c t).2) := rfl

theorem run_bind_of_ok (h : t.run program.run = (.ok a, u)) :
    t.run (program >>= next).run = u.run (next a).run := by
  rw [ExceptT.run_bind, run_bind, h]

theorem run_bind_of_error (h : t.run program.run = (.error e, u)) :
    t.run (program >>= next).run = (.error e, u) := by
  rw [ExceptT.run_bind, run_bind, h]
  rfl

end PageLayers.FileTree
