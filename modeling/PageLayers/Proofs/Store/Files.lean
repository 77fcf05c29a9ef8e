import PageLayers.Proofs.Digest.Hexadecimal
import PageLayers.Proofs.Files.Tree
import PageLayers.Proofs.Json.Spelling
import PageLayers.Store.Directory

/-! The files of a store that is kept in a directory: where they stand, and what is read from them
and written to them. -/

namespace PageLayers.DirectoryStore

open FilePath FileTree

variable {s : DirectoryStore} {t : FileTree} {home place : List String} {path checksum : String}
  {α : Type} {ofJson? : Json → Option α} {toJson : α → Json} {fallback a : α}

/-! ### Places -/

theorem isName_artifact (h : Text.Hexadecimal checksum) : IsName (checksum ++ ".json") := by
  have hlength : 5 ≤ (checksum ++ ".json").toList.length := by simp
  have hshort (name : String) (hname : name.toList.length < 5) : checksum ++ ".json" ≠ name := by
    rintro rfl
    omega
  refine ⟨hshort "" (by decide), hshort "." (by decide), hshort ".." (by decide), ?_⟩
  intro hslash
  rw [String.toList_append, List.mem_append] at hslash
  rcases hslash with hslash | hslash
  · cases h.2 '/' hslash
  · revert hslash
    decide

variable (hroot : locate? s.root = some home)

include hroot

theorem locate?_manifestPath : locate? s.manifestPath = some (home ++ ["manifest.json"]) :=
  locate?_join ⟨by decide, by decide, by decide, by decide⟩ hroot

theorem locate?_pointersPath : locate? s.pointersPath = some (home ++ ["pointers.json"]) :=
  locate?_join ⟨by decide, by decide, by decide, by decide⟩ hroot

theorem locate?_artifactsPath : locate? s.artifactsPath = some (home ++ ["artifacts"]) :=
  locate?_join ⟨by decide, by decide, by decide, by decide⟩ hroot

/-- A digest names a file of its own. -/
theorem artifactPath_eq (h : Text.Hexadecimal checksum) :
    ∃ path, s.artifactPath checksum = .ok path ∧
      locate? path = some (home ++ ["artifacts"] ++ [checksum ++ ".json"]) := by
  have hall : ¬(checksum.isEmpty ∨ !checksum.toList.all Text.isHexDigit) := by
    simpa [h.1] using h.2
  exact ⟨_, if_neg hall, locate?_join (isName_artifact h) (locate?_artifactsPath hroot)⟩

omit hroot

theorem artifactPath_eq_error (h : ¬Text.Hexadecimal checksum) :
    s.artifactPath checksum = .error (.notFound checksum) := by
  refine if_pos ?_
  by_contra hall
  simp only [not_or, Bool.not_eq_true, Bool.not_eq_false'] at hall
  exact h ⟨by simpa using hall.1, List.all_eq_true.1 hall.2⟩

/-! ### Reading and writing -/

theorem run_lift {x : Except StoreError α} (h : x = .ok a) :
    t.run (liftM x : StoreFiles α).run = (.ok a, t) := by
  rw [h]
  rfl

theorem run_lift_error {x : Except StoreError α} {e : StoreError} (h : x = .error e) :
    t.run (liftM x : StoreFiles α).run = (.error e, t) := by
  rw [h]
  rfl

variable (hpath : locate? path = some place)

include hpath

theorem at?_eq : t.at? path = t.node? place := by
  rw [at?, hpath, Option.bind_some]

theorem run_has : t.run (has path).run = (.ok (t.node? place).isSome, t) := by
  rw [← at?_eq hpath]
  rfl

theorem run_read {text : String} (h : t.node? place = some (.file text)) :
    t.run (read path).run = (.ok text, t) := by
  rw [← at?_eq hpath] at h
  have hanswer : FileTree.answer (FileCall.read path) t = (some text, t) := by
    simp only [FileTree.answer, h]
    rfl
  rw [read, run_step, hanswer]

/-- The file of a value of which none needs to be kept while it is the one of a new store. -/
def Holds (t : FileTree) (place : List String) (toJson : α → Json) (fallback a : α) : Prop :=
  t.node? place = some (.file (toJson a).lines) ∨ t.node? place = none ∧ a = fallback

omit hpath in
theorem Holds.free (h : Holds t place toJson fallback a) : t.node? place ≠ some .directory := by
  rcases h with h | ⟨h, -⟩ <;> simp [h]

omit hpath in
/-- A file that is written leaves the files at all other places. -/
theorem Holds.of_sets {u : FileTree} {place' : List String} {node : FileNode}
    (h : Holds t place toJson fallback a) (hsets : t.Sets place' node u) (hne : place ≠ place') :
    Holds u place toJson fallback a := by
  unfold Holds
  rw [hsets place, if_neg hne]
  exact h

theorem run_load (h : Holds t place toJson fallback a)
    (hsurvives : decode ofJson? (toJson a).lines = .ok a) :
    t.run (load path fallback ofJson?).run = (.ok a, t) := by
  rw [load, run_bind_of_ok (run_has hpath)]
  rcases h with hfile | ⟨hnone, rfl⟩
  · rw [hfile]
    rw [Option.isSome_some, if_pos rfl, run_bind_of_ok (run_read hpath hfile), hsurvives]
    rfl
  · rw [hnone]
    rfl

theorem run_write {j : Json} (hdir : t.node? place.dropLast = some .directory)
    (hfree : t.node? place ≠ some .directory) :
    ∃ u, t.run (write path j).run = (.ok (), u) ∧ t.Sets place (.file j.lines) u := by
  obtain ⟨u, hu, hsets⟩ : ∃ u, t.writePlace place j.lines = some u ∧
    t.Sets place (.file j.lines) u := writePlace_eq hdir hfree
  refine ⟨u, ?_, hsets⟩
  have hanswer : FileTree.answer (FileCall.write path j.lines) t = (some (), u) := by
    simp only [FileTree.answer, hpath, Option.bind_some, hu]
    rfl
  rw [write, run_step, hanswer]

omit hpath

/-! ### Artifacts -/

variable {a : Artifact} {node : FileNode} {limit : Nat}

/-- Reads typed data from a text that nests no deeper than the limit. -/
def decodeWithin (limit : Nat) (ofJson? : Json → Option α) (text : String) : Except StoreError α :=
  match (Json.readWithin? limit text).bind ofJson? with
  | some a => .ok a
  | none => .error .serialization

/-- Loads an artifact that nests no deeper than the limit. -/
def getWithin (limit : Nat) (s : DirectoryStore) (checksum : String) : StoreFiles Artifact := do
  let path ← s.artifactPath checksum
  if ← has path then decodeWithin limit Artifact.ofJson? (← read path)
  else throw (.notFound checksum)

theorem decodeWithin_nestingLimit :
    decodeWithin Json.nestingLimit ofJson? = decode ofJson? := rfl

theorem getWithin_nestingLimit : s.getWithin Json.nestingLimit = s.get := rfl

variable (hroot : locate? s.root = some home)

include hroot

theorem run_getWithin_of_file {text : String} (hhex : Text.Hexadecimal checksum)
    (hfile : t.node? (home ++ ["artifacts"] ++ [checksum ++ ".json"]) = some (.file text)) :
    t.run (s.getWithin limit checksum).run = (decodeWithin limit Artifact.ofJson? text, t) := by
  obtain ⟨path, hpath, hplace⟩ := artifactPath_eq hroot hhex
  rw [getWithin, run_bind_of_ok (run_lift hpath), run_bind_of_ok (run_has hplace), hfile,
    Option.isSome_some, if_pos rfl, run_bind_of_ok (run_read hplace hfile)]
  rfl

theorem run_getWithin_of_none (hhex : Text.Hexadecimal checksum)
    (hnone : t.node? (home ++ ["artifacts"] ++ [checksum ++ ".json"]) = none) :
    t.run (s.getWithin limit checksum).run = (.error (.notFound checksum), t) := by
  obtain ⟨path, hpath, hplace⟩ := artifactPath_eq hroot hhex
  rw [getWithin, run_bind_of_ok (run_lift hpath), run_bind_of_ok (run_has hplace), hnone]
  rfl

/-- Where something stands an artifact is not written. -/
theorem run_put_of_some (hhex : Text.Hexadecimal a.checksum)
    (hsome : t.node? (home ++ ["artifacts"] ++ [a.checksum ++ ".json"]) = some node) :
    t.run (s.put a).run = (.ok (), t) := by
  obtain ⟨path, hpath, hplace⟩ := artifactPath_eq hroot hhex
  rw [put, run_bind_of_ok (run_lift hpath), run_bind_of_ok (run_has hplace), hsome]
  rfl

theorem run_put_of_none (hhex : Text.Hexadecimal a.checksum)
    (hdir : t.node? (home ++ ["artifacts"]) = some .directory)
    (hnone : t.node? (home ++ ["artifacts"] ++ [a.checksum ++ ".json"]) = none) :
    ∃ u, t.run (s.put a).run = (.ok (), u) ∧
      t.Sets (home ++ ["artifacts"] ++ [a.checksum ++ ".json"]) (.file a.toJson.lines) u := by
  obtain ⟨path, hpath, hplace⟩ := artifactPath_eq hroot hhex
  have hfree : t.node? (home ++ ["artifacts"] ++ [a.checksum ++ ".json"]) ≠ some .directory := by
    rw [hnone]
    nofun
  have hdir : t.node? (home ++ ["artifacts"] ++ [a.checksum ++ ".json"]).dropLast =
      some .directory := by
    rw [List.dropLast_concat, hdir]
  obtain ⟨u, hrun, hsets⟩ := run_write (j := a.toJson) hplace hdir hfree
  refine ⟨u, ?_, hsets⟩
  rw [put, run_bind_of_ok (run_lift hpath), run_bind_of_ok (run_has hplace), hnone,
    Option.isSome_none, if_neg (by decide), hrun]

end PageLayers.DirectoryStore
