import PageLayers.Proofs.Store.Interchange

/-! Whatever is done with a store that is kept in a directory, the artifacts that are in it stay as
they are. -/

namespace PageLayers

namespace FileTree

variable {α β ε : Type} {place : List String} {path text : String} {t u : FileTree}

/-- What stands at the place stays there while the program runs, however it ends. -/
def Leaves (place : List String) (p : FileProgram α) : Prop :=
  ∀ (t : FileTree) (node : FileNode),
    t.node? place = some node → (t.run p).2.node? place = some node

theorem Leaves.bind {p : ExceptT ε FileProgram α} {next : α → ExceptT ε FileProgram β}
    (h : Leaves place p.run) (hnext : ∀ a, Leaves place (next a).run) :
    Leaves place (p >>= next).run := by
  intro t node hnode
  have hfirst := h t node hnode
  cases hrun : t.run p.run with
  | mk r u =>
    rw [hrun] at hfirst
    cases r with
    | ok a =>
      rw [run_bind_of_ok hrun]
      exact hnext a u node hfirst
    | error e =>
      rw [run_bind_of_error hrun]
      exact hfirst

theorem leaves_lift {x : Except ε α} :
    Leaves place (liftM x : ExceptT ε FileProgram α).run := by
  intro t node hnode
  cases x <;> exact hnode

theorem leaves_step {c : FileCall} {f : c.Result → Except ε α}
    (h : ∀ (t : FileTree) (node : FileNode),
      t.node? place = some node → (answer c t).2.node? place = some node) :
    Leaves place (c.step f).run := by
  intro t node hnode
  rw [run_step]
  exact h t node hnode

theorem leaves_write (h : FilePath.locate? path ≠ some place) {t : FileTree} {node : FileNode}
    (hnode : t.node? place = some node) :
    (answer (.write path text) t).2.node? place = some node := by
  show (((FilePath.locate? path).bind (t.writePlace · text)).getD t).node? place = some node
  cases hpath : FilePath.locate? path with
  | none => exact hnode
  | some other =>
    rw [hpath] at h
    rw [Option.bind_some, writePlace]
    split
    · rename_i hfree
      have hother : other ≠ [] := by
        rintro rfl
        exact hfree.2 rfl
      rw [Option.getD_some, sets_insert hother place, if_neg]
      · exact hnode
      · rintro rfl
        exact h rfl
    · exact hnode

/-- Directories are made only where nothing stands. -/
theorem node?_of_makePlace {above rest : List String} (h : t.makePlace above rest = some u)
    {node : FileNode} (hnode : t.node? place = some node) : u.node? place = some node := by
  induction rest generalizing above t with
  | nil =>
    obtain rfl := Option.some.inj h
    exact hnode
  | cons name rest ih =>
    rw [makePlace] at h
    split at h
    · cases h
    · exact ih h hnode
    · rename_i hfree
      apply ih h
      rw [sets_insert (by simp) place, if_neg]
      · exact hnode
      · rintro rfl
        rw [hfree] at hnode
        cases hnode

end FileTree

namespace DirectoryStore

open FilePath FileTree

variable {α : Type} {s : DirectoryStore} {t : FileTree} {home place : List String}
  {path checksum : String} {ofJson? : Json → Option α} {fallback : α}

theorem leaves_has : Leaves place (has path).run := leaves_step fun _ _ h => h

theorem leaves_read : Leaves place (read path).run := by
  apply leaves_step
  intro t node hnode
  simp only [FileTree.answer]
  split <;> exact hnode

theorem leaves_load : Leaves place (load path fallback ofJson?).run := by
  apply leaves_has.bind
  intro there
  cases there with
  | true => exact leaves_read.bind fun _ => leaves_lift
  | false => exact fun _ _ h => h

theorem leaves_writeJson {j : Json} (h : locate? path ≠ some place) :
    Leaves place (write path j).run :=
  leaves_step fun _ _ hnode => leaves_write h hnode

theorem leaves_start : Leaves place s.start.run := by
  apply leaves_step
  intro t node hnode
  show (((locate? s.artifactsPath).bind (t.makePlace [])).getD t).node? place = some node
  cases hmake : (locate? s.artifactsPath).bind (t.makePlace []) with
  | none => exact hnode
  | some u =>
    obtain ⟨_, -, hmake⟩ := Option.bind_eq_some_iff.1 hmake
    exact node?_of_makePlace hmake hnode

variable (hroot : locate? s.root = some home)

include hroot

theorem leaves_put {a : Artifact} :
    Leaves (home ++ ["artifacts"] ++ [checksum ++ ".json"]) (s.put a).run := by
  intro t node hnode
  by_cases hhex : Text.Hexadecimal a.checksum
  · by_cases hsame : a.checksum = checksum
    · subst hsame
      rw [run_put_of_some hroot hhex hnode]
      exact hnode
    · obtain ⟨path, hpath, hplace⟩ := artifactPath_eq hroot hhex
      have hother : locate? path ≠ some (home ++ ["artifacts"] ++ [checksum ++ ".json"]) := by
        rw [hplace]
        simpa using hsame
      rw [put, run_bind_of_ok (run_lift hpath)]
      refine Leaves.bind leaves_has (fun there => ?_) t node hnode
      cases there with
      | true => exact fun _ _ h => h
      | false => exact leaves_writeJson hother
  · rw [put, run_bind_of_error (run_lift_error (artifactPath_eq_error hhex))]
    exact hnode

/-- No call takes an artifact away or puts another in its place. -/
theorem leaves_answer {c : StoreCall} :
    Leaves (home ++ ["artifacts"] ++ [checksum ++ ".json"]) (s.answer c) := by
  cases c with
  | contains other => exact leaves_lift.bind fun _ => leaves_has
  | put a => exact leaves_put hroot
  | get other =>
    apply leaves_lift.bind
    intro path
    apply leaves_has.bind
    intro there
    cases there with
    | true => exact leaves_read.bind fun _ => leaves_lift
    | false => exact fun _ _ h => h
  | loadManifest => exact leaves_load
  | append e =>
    apply leaves_load.bind
    intro m
    apply leaves_writeJson
    rw [locate?_manifestPath hroot]
    simp
  | loadPointers => exact leaves_load
  | swap key id =>
    apply leaves_load.bind
    intro p
    apply Leaves.bind
    · apply leaves_writeJson
      rw [locate?_pointersPath hroot]
      simp
    · exact fun _ _ _ h => h

end DirectoryStore

namespace LayerStore

open DirectoryStore

variable {s : DirectoryStore} {home : List String} {t : FileTree} {checksum : String}
  {node : FileNode}

/-- The store after some steps. -/
def after : List StoreStep → LayerStore → LayerStore
  | [], store => store
  | step :: rest, store => after rest (perform step store).2

theorem perform_leaves (hroot : FilePath.locate? s.root = some home) {step : StoreStep}
    (hnode : t.node? (home ++ ["artifacts"] ++ [checksum ++ ".json"]) = some node) :
    ∃ u, (perform step (directory s t)).2 = directory s u ∧
      u.node? (home ++ ["artifacts"] ++ [checksum ++ ".json"]) = some node := by
  cases step with
  | call c => exact ⟨_, rfl, leaves_answer hroot t node hnode⟩
  | reopen => exact ⟨_, rfl, leaves_start t node hnode⟩

/-- What stands in the place of an artifact stands there after any steps. -/
theorem after_leaves (hroot : FilePath.locate? s.root = some home) (steps : List StoreStep)
    (hnode : t.node? (home ++ ["artifacts"] ++ [checksum ++ ".json"]) = some node) :
    ∃ u, after steps (directory s t) = directory s u ∧
      u.node? (home ++ ["artifacts"] ++ [checksum ++ ".json"]) = some node := by
  induction steps generalizing t with
  | nil => exact ⟨t, rfl, hnode⟩
  | cons step rest ih =>
    obtain ⟨u, hstep, hu⟩ := perform_leaves hroot hnode
    obtain ⟨v, hrest, hv⟩ := ih hu
    refine ⟨v, ?_, hv⟩
    rw [after, hstep, hrest]

end LayerStore

end PageLayers
