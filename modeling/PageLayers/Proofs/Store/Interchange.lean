import PageLayers.Proofs.Artifact.Compiled
import PageLayers.Proofs.Registry.Encoding
import PageLayers.Proofs.Store.Files
import PageLayers.Store.Backend

/-! A store that is kept in a directory replies as one in memory does, however often it is left and
opened again. -/

namespace PageLayers

/-- What can be done with a store: a call, or to leave it and open it again. -/
inductive StoreStep where
  | call (c : StoreCall)
  | reopen

namespace StoreStep

def Result : StoreStep → Type
  | call c => c.Result
  | reopen => Unit

/-- A checksum that is part of the step is a text of hexadecimal digits. -/
def Hexadecimal : StoreStep → Prop
  | call (.contains checksum) => Text.Hexadecimal checksum
  | call (.put a) => Text.Hexadecimal a.checksum
  | call (.get checksum) => Text.Hexadecimal checksum
  | _ => True

/-- What the step stores comes back from the lines that it is written as. -/
def Survives : StoreStep → Prop
  | call (.put a) => DirectoryStore.decode Artifact.ofJson? a.toJson.lines = .ok a
  | call (.append e) => DirectoryStore.decode ManifestEntry.ofJson? e.toJson.lines = .ok e
  | call (.swap key _) => DirectoryStore.decode LayerKey.ofJson? key.toJson.lines = .ok key
  | _ => True

end StoreStep

namespace LayerStore

/-- A directory is opened again as it was at first; a store in memory stays open. -/
def perform : (step : StoreStep) → LayerStore → Except StoreError step.Result × LayerStore
  | .call c, store => answer c store
  | .reopen, memory s => (.ok (), memory s)
  | .reopen, directory s files =>
    let (r, files) := files.run s.start.run
    (r, directory s files)

/-- The steps that are taken with what each gives. -/
def replies : List StoreStep → LayerStore → List (Σ step : StoreStep, Except StoreError step.Result)
  | [], _ => []
  | step :: rest, store => ⟨step, (perform step store).1⟩ :: replies rest (perform step store).2

end LayerStore

namespace DirectoryStore

open FilePath FileTree

variable {s : DirectoryStore} {home : List String} {m : MemoryStore} {t u : FileTree}

/-- The files of a store, whose place is `home`, hold what a store in memory holds, and all of it
comes back from its file. -/
structure Mirrors (home : List String) (m : MemoryStore) (t : FileTree) : Prop where
  unset : m.failNext = none
  directories : ∀ place, place <+: home ++ ["artifacts"] → t.node? place = some .directory
  artifacts : ∀ checksum, Text.Hexadecimal checksum →
    t.node? (home ++ ["artifacts"] ++ [checksum ++ ".json"]) =
      (m.artifacts.get? checksum).map fun a => .file a.toJson.lines
  artifactsSurvive : ∀ checksum a, m.artifacts.get? checksum = some a →
    decode Artifact.ofJson? a.toJson.lines = .ok a
  manifest : Holds t (home ++ ["manifest.json"]) Manifest.toJson .empty m.manifest
  entriesSurvive : ∀ e ∈ m.manifest.entries, e.layerKey.Survives
  pointers : Holds t (home ++ ["pointers.json"]) Pointers.toJson ∅ m.pointers
  keysSurvive : ∀ k ∈ m.pointers.keys, k.Survives

/-- The two replies to a call are one, and the files still hold what the memory does. -/
def Agrees (home : List String) {α : Type} (x : Except StoreError α × FileTree)
    (y : Except StoreError α × MemoryStore) : Prop :=
  x.1 = y.1 ∧ Mirrors home y.2 x.2

namespace Mirrors

theorem write {β : Type} (h : Mirrors home m t) {point : FailPoint}
    {f : MemoryStore → β × MemoryStore} :
    MemoryStore.write point f m = (.ok (f m).1, (f m).2) := by
  simp [MemoryStore.write, h.unset]

theorem home_directory (h : Mirrors home m t) : t.node? home = some .directory :=
  h.directories home (List.prefix_append _ _)

/-- Directories stay where a file is written to a place that is free for it. -/
theorem directories_of_sets {place : List String} {text : String} (h : Mirrors home m t)
    (hfree : t.node? place ≠ some .directory) (hsets : t.Sets place (.file text) u) :
    ∀ q, q <+: home ++ ["artifacts"] → u.node? q = some .directory := by
  intro q hq
  rw [hsets q, if_neg, h.directories q hq]
  rintro rfl
  exact hfree (h.directories q hq)

/-- A file that is new holds the artifact that is new in memory. -/
theorem artifact_put (h : Mirrors home m t) {a : Artifact}
    (hnone : t.node? (home ++ ["artifacts"] ++ [a.checksum ++ ".json"]) = none)
    (hsets : t.Sets (home ++ ["artifacts"] ++ [a.checksum ++ ".json"]) (.file a.toJson.lines) u)
    (hsurvives : decode Artifact.ofJson? a.toJson.lines = .ok a) :
    Mirrors home { m with artifacts := m.artifacts.insert a.checksum a } u := by
  have hfree : t.node? (home ++ ["artifacts"] ++ [a.checksum ++ ".json"]) ≠ some .directory := by
    intro hnode
    rw [hnone] at hnode
    cases hnode
  refine ⟨h.unset, h.directories_of_sets hfree hsets, ?_, ?_, ?_, h.entriesSurvive, ?_,
    h.keysSurvive⟩
  · intro checksum hchecksum
    rw [hsets]
    by_cases hsame : checksum = a.checksum
    · subst hsame
      rw [if_pos rfl, OrderedMap.get?_insert_self]
      rfl
    · have hother : home ++ ["artifacts"] ++ [checksum ++ ".json"] ≠
          home ++ ["artifacts"] ++ [a.checksum ++ ".json"] := by
        simpa using hsame
      rw [if_neg hother, OrderedMap.get?_insert_of_ne hsame, h.artifacts checksum hchecksum]
  · intro checksum b hb
    by_cases hsame : checksum = a.checksum
    · subst hsame
      rw [OrderedMap.get?_insert_self] at hb
      exact Option.some.inj hb ▸ hsurvives
    · rw [OrderedMap.get?_insert_of_ne hsame] at hb
      exact h.artifactsSurvive checksum b hb
  · exact h.manifest.of_sets hsets (by simp)
  · exact h.pointers.of_sets hsets (by simp)

variable (hroot : locate? s.root = some home)

include hroot

theorem contains_agrees (h : Mirrors home m t) {checksum : String}
    (hhex : Text.Hexadecimal checksum) :
    Agrees home (t.run (s.answer (.contains checksum)))
      (MemoryStore.answer (.contains checksum) m) := by
  obtain ⟨path, hpath, hplace⟩ := artifactPath_eq hroot hhex
  have hrun : t.run (s.answer (.contains checksum)) =
      (.ok (m.artifacts.contains checksum), t) := by
    show t.run (do has (← s.artifactPath checksum) : StoreFiles Bool).run = _
    rw [run_bind_of_ok (run_lift hpath), run_has hplace, h.artifacts checksum hhex,
      Option.isSome_map]
    rfl
  rw [hrun]
  exact ⟨rfl, h⟩

theorem get_agrees (h : Mirrors home m t) {checksum : String}
    (hhex : Text.Hexadecimal checksum) :
    Agrees home (t.run (s.answer (.get checksum))) (MemoryStore.answer (.get checksum) m) := by
  have hfile := h.artifacts checksum hhex
  have hrun : t.run (s.answer (.get checksum)) = ((MemoryStore.answer (.get checksum) m).1, t) := by
    show t.run (s.get checksum).run = _
    rw [← getWithin_nestingLimit]
    cases hm : m.artifacts.get? checksum with
    | none =>
      rw [hm] at hfile
      rw [run_getWithin_of_none hroot hhex hfile]
      simp only [MemoryStore.answer, hm]
      rfl
    | some a =>
      rw [hm] at hfile
      rw [run_getWithin_of_file hroot hhex hfile, decodeWithin_nestingLimit,
        h.artifactsSurvive checksum a hm]
      simp only [MemoryStore.answer, hm]
      rfl
  have hkept : (MemoryStore.answer (.get checksum) m).2 = m := by
    simp only [MemoryStore.answer]
    split <;> rfl
  rw [hrun]
  exact ⟨rfl, hkept.symm ▸ h⟩

theorem put_agrees (h : Mirrors home m t) {a : Artifact} (hhex : Text.Hexadecimal a.checksum)
    (hsurvives : decode Artifact.ofJson? a.toJson.lines = .ok a) :
    Agrees home (t.run (s.answer (.put a))) (MemoryStore.answer (.put a) m) := by
  have hfile := h.artifacts a.checksum hhex
  have hmemory : MemoryStore.answer (.put a) m = (.ok (), (MemoryStore.putArtifact a m).2) := by
    show MemoryStore.write .artifactPut (MemoryStore.putArtifact a) m = _
    exact h.write
  rw [hmemory]
  cases hm : m.artifacts.get? a.checksum with
  | some b =>
    rw [hm] at hfile
    have hrun : t.run (s.answer (.put a)) = (.ok (), t) := run_put_of_some hroot hhex hfile
    have hkept : (MemoryStore.putArtifact a m).2 = m := by
      simp [MemoryStore.putArtifact, OrderedMap.contains, hm]
    rw [hrun, hkept]
    exact ⟨rfl, h⟩
  | none =>
    rw [hm] at hfile
    obtain ⟨u, hrun, hsets⟩ :=
      run_put_of_none hroot hhex (h.directories _ (List.prefix_refl _)) hfile
    have hrun : t.run (s.answer (.put a)) = (.ok (), u) := hrun
    have hnew : (MemoryStore.putArtifact a m).2 =
        { m with artifacts := m.artifacts.insert a.checksum a } := by
      simp [MemoryStore.putArtifact, OrderedMap.contains, hm]
    rw [hrun, hnew]
    exact ⟨rfl, h.artifact_put hfile hsets hsurvives⟩

theorem loadManifest_agrees (h : Mirrors home m t) :
    t.run s.loadManifest.run = (.ok m.manifest, t) :=
  run_load (locate?_manifestPath hroot) h.manifest (Manifest.decode_lines h.entriesSurvive)

theorem loadPointers_agrees (h : Mirrors home m t) :
    t.run s.loadPointers.run = (.ok m.pointers, t) :=
  run_load (locate?_pointersPath hroot) h.pointers (Pointers.decode_lines h.keysSurvive)

theorem append_agrees (h : Mirrors home m t) {e : ManifestEntry} (hsurvives : e.layerKey.Survives) :
    Agrees home (t.run (s.answer (.append e))) (MemoryStore.answer (.append e) m) := by
  have hmemory : MemoryStore.answer (.append e) m =
      (.ok (), { m with manifest := m.manifest.append e }) := by
    show MemoryStore.write .manifestAppend (MemoryStore.appendEntry e) m = _
    exact h.write
  obtain ⟨u, hrun, hsets⟩ := run_write (j := (m.manifest.append e).toJson)
    (locate?_manifestPath hroot) (by rw [List.dropLast_concat]; exact h.home_directory)
    h.manifest.free
  have hfiles : t.run (s.answer (.append e)) = (.ok (), u) := by
    show t.run (s.append e).run = _
    rw [append, run_bind_of_ok (h.loadManifest_agrees hroot), hrun]
    rfl
  rw [hmemory, hfiles]
  refine ⟨rfl, h.unset, h.directories_of_sets h.manifest.free hsets, ?_, h.artifactsSurvive,
    .inl ?_, ?_, h.pointers.of_sets hsets (by simp), h.keysSurvive⟩
  · intro checksum hchecksum
    rw [hsets, if_neg (by simp), h.artifacts checksum hchecksum]
  · rw [hsets, if_pos rfl]
  · intro e' he'
    rcases List.mem_append.1 he' with he' | he'
    · exact h.entriesSurvive e' he'
    · rw [List.mem_singleton.1 he']
      exact hsurvives

theorem swap_agrees (h : Mirrors home m t) {key : LayerKey} {id : String}
    (hsurvives : key.Survives) :
    Agrees home (t.run (s.answer (.swap key id))) (MemoryStore.answer (.swap key id) m) := by
  have hmemory : MemoryStore.answer (.swap key id) m =
      (.ok (m.pointers.get? key), { m with pointers := m.pointers.insert key id }) := by
    show MemoryStore.write .pointerSwap (MemoryStore.swapPointer key id) m = _
    exact h.write
  obtain ⟨u, hrun, hsets⟩ := run_write (j := Pointers.toJson (m.pointers.insert key id))
    (locate?_pointersPath hroot) (by rw [List.dropLast_concat]; exact h.home_directory)
    h.pointers.free
  have hfiles : t.run (s.answer (.swap key id)) = (.ok (m.pointers.get? key), u) := by
    show t.run (s.swap key id).run = _
    rw [swap, run_bind_of_ok (h.loadPointers_agrees hroot), run_bind_of_ok hrun]
    rfl
  rw [hmemory, hfiles]
  refine ⟨rfl, h.unset, h.directories_of_sets h.pointers.free hsets, ?_, h.artifactsSurvive,
    h.manifest.of_sets hsets (by simp), h.entriesSurvive, .inl ?_, ?_⟩
  · intro checksum hchecksum
    rw [hsets, if_neg (by simp), h.artifacts checksum hchecksum]
  · rw [hsets, if_pos rfl]
  · intro k hk
    obtain ⟨id', hid⟩ := OrderedMap.mem_keys.1 hk
    by_cases hsame : k = key
    · exact hsame ▸ hsurvives
    · rw [OrderedMap.get?_insert_of_ne hsame] at hid
      exact h.keysSurvive k (OrderedMap.mem_keys.2 ⟨id', hid⟩)

/-- A call is answered in the same way, and the files hold what is then in memory. -/
theorem call_agrees (h : Mirrors home m t) {c : StoreCall}
    (hhex : StoreStep.Hexadecimal (.call c)) (hsurvives : StoreStep.Survives (.call c)) :
    Agrees home (t.run (s.answer c)) (MemoryStore.answer c m) := by
  cases c with
  | contains checksum => exact h.contains_agrees hroot hhex
  | put a => exact h.put_agrees hroot hhex hsurvives
  | get checksum => exact h.get_agrees hroot hhex
  | loadManifest =>
    have hrun : t.run (s.answer .loadManifest) = _ := h.loadManifest_agrees hroot
    rw [hrun]
    exact ⟨rfl, h⟩
  | append e => exact h.append_agrees hroot (ManifestEntry.decode_lines.1 hsurvives)
  | loadPointers =>
    have hrun : t.run (s.answer .loadPointers) = _ := h.loadPointers_agrees hroot
    rw [hrun]
    exact ⟨rfl, h⟩
  | swap key id => exact h.swap_agrees hroot (LayerKey.decode_lines.1 hsurvives)

/-- A store that is opened again finds its directories and leaves all as it is. -/
theorem run_start (h : Mirrors home m t) : t.run s.start.run = (.ok (), t) := by
  have hmake : t.makePlace [] (home ++ ["artifacts"]) = some t :=
    makePlace_of_directories fun q hq => h.directories q hq
  have hanswer : FileTree.answer (FileCall.makeDirectories s.artifactsPath) t = (some (), t) := by
    simp only [FileTree.answer, locate?_artifactsPath hroot, Option.bind_some, hmake]
    rfl
  rw [start, run_step, hanswer]

end Mirrors

/-- A directory in which nothing stands, with all the directories that lead to it. -/
structure EmptyDirectory (t : FileTree) (home : List String) : Prop where
  way : ∀ place, place <+: home → t.node? place = some .directory
  free : ∀ place, home <+: place → place ≠ home → t.node? place = none

/-- A store that is opened in an empty directory holds nothing. -/
theorem mirrors_start (hroot : locate? s.root = some home) (h : EmptyDirectory t home) :
    ∃ u, t.run s.start.run = (.ok (), u) ∧ Mirrors home .empty u := by
  have hfree (rest : List String) (hrest : rest ≠ []) : t.node? (home ++ rest) = none :=
    h.free _ (List.prefix_append _ _) (by simpa using hrest)
  have hmake : t.makePlace [] (home ++ ["artifacts"]) =
      some ⟨t.nodes.insert (home ++ ["artifacts"]) .directory⟩ :=
    makePlace_append (fun q hq => h.way q hq) (hfree ["artifacts"] (by decide))
  let u : FileTree := ⟨t.nodes.insert (home ++ ["artifacts"]) .directory⟩
  have hsets : t.Sets (home ++ ["artifacts"]) .directory u := sets_insert (by simp)
  have hnone : ∀ checksum a, MemoryStore.empty.artifacts.get? checksum = some a →
      decode Artifact.ofJson? a.toJson.lines = .ok a := by
    intro checksum a ha
    cases ha
  have hentries : ∀ e ∈ MemoryStore.empty.manifest.entries, e.layerKey.Survives := by
    intro e he
    cases he
  have hkeys : ∀ k ∈ MemoryStore.empty.pointers.keys, k.Survives := by
    intro k hk
    cases hk
  refine ⟨u, ?_, rfl, ?_, ?_, hnone, ?_, hentries, ?_, hkeys⟩
  · have hanswer : FileTree.answer (FileCall.makeDirectories s.artifactsPath) t = (some (), u) := by
      simp only [FileTree.answer, locate?_artifactsPath hroot, Option.bind_some, hmake]
      rfl
    rw [start, run_step, hanswer]
  · intro place hplace
    rw [hsets]
    split
    · rfl
    · rename_i hne
      rcases List.prefix_concat_iff.1 hplace with rfl | hhome
      · exact absurd rfl hne
      · exact h.way place hhome
  · intro checksum _
    rw [hsets, if_neg (by simp), List.append_assoc, hfree _ (by simp)]
    rfl
  · refine .inr ⟨?_, rfl⟩
    rw [hsets, if_neg (by simp), hfree _ (by simp)]
  · refine .inr ⟨?_, rfl⟩
    rw [hsets, if_neg (by simp), hfree _ (by simp)]

end DirectoryStore

namespace LayerStore

open DirectoryStore

variable {s : DirectoryStore} {home : List String} {m : MemoryStore} {t : FileTree}
  {steps : List StoreStep}

/-- One step gives the same from both stores, and leaves them with the same in them. -/
theorem perform_agrees (hroot : FilePath.locate? s.root = some home) (h : Mirrors home m t)
    {step : StoreStep} (hhex : step.Hexadecimal) (hsurvives : step.Survives) :
    ∃ m' t', perform step (directory s t) = ((perform step (memory m)).1, directory s t') ∧
      (perform step (memory m)).2 = memory m' ∧ Mirrors home m' t' := by
  cases step with
  | call c =>
    obtain ⟨hreply, hmirrors⟩ := h.call_agrees hroot hhex hsurvives
    refine ⟨_, _, ?_, rfl, hmirrors⟩
    exact congrArg (·, directory s (t.run (s.answer c)).2) hreply
  | reopen =>
    refine ⟨m, t, ?_, rfl, h⟩
    simp only [perform, h.run_start hroot]
    rfl

theorem replies_agree (hroot : FilePath.locate? s.root = some home) (h : Mirrors home m t)
    (hhex : ∀ step ∈ steps, step.Hexadecimal) (hsurvives : ∀ step ∈ steps, step.Survives) :
    replies steps (directory s t) = replies steps (memory m) := by
  induction steps generalizing m t with
  | nil => rfl
  | cons step rest ih =>
    rw [List.forall_mem_cons] at hhex hsurvives
    obtain ⟨m', t', hdirectory, hmemory, hmirrors⟩ := perform_agrees hroot h hhex.1 hsurvives.1
    rw [replies, replies, hdirectory, hmemory, ih hmirrors hhex.2 hsurvives.2]

/-- Opened in an empty directory, a store replies to any calls as an empty one in memory does,
wherever it is left and opened again between them. -/
theorem directory_replies_as_memory {files : FileTree}
    (hroot : FilePath.locate? s.root = some home) (hempty : EmptyDirectory files home)
    (hhex : ∀ step ∈ steps, step.Hexadecimal) (hsurvives : ∀ step ∈ steps, step.Survives) :
    (files.run s.start.run).1 = .ok () ∧
    replies steps (inDirectory s files) = replies steps (memory .empty) := by
  obtain ⟨u, hstart, hmirrors⟩ := mirrors_start hroot hempty
  rw [inDirectory, hstart]
  exact ⟨rfl, replies_agree hroot hmirrors hhex hsurvives⟩

end LayerStore

/-- A directory with nothing in it. -/
def freshFiles : FileTree := ⟨.ofList [(["store"], .directory)]⟩

theorem emptyDirectory_freshFiles : DirectoryStore.EmptyDirectory freshFiles ["store"] := by
  refine ⟨fun place hplace => ?_, fun place hplace hne => ?_⟩
  · rcases List.prefix_cons_iff.1 hplace with rfl | ⟨rest, rfl, hrest⟩
    · rfl
    · rw [List.prefix_nil.1 hrest]
      rfl
  · obtain ⟨rest, rfl⟩ := hplace
    rw [Option.eq_none_iff_forall_ne_some]
    intro node hnode
    rw [FileTree.node?_eq_get? (by simp), OrderedMap.get?_eq_some] at hnode
    have hentry := List.mem_singleton.1 (show _ ∈ [(["store"], FileNode.directory)] from hnode)
    exact hne (Prod.mk.inj hentry).1

def noticeArtifact : Artifact :=
  { Artifact.ofPage (notice "home" "1.0.0") .epoch with checksum := "5f" }

def noticeEntry : ManifestEntry := .ofArtifact noticeArtifact "e1" .epoch

/-- A layer is stored and made live, in a directory that is left twice in between. -/
def noticeSteps : List StoreStep :=
  [.call (.put noticeArtifact), .call (.append noticeEntry), .reopen,
    .call (.swap noticeEntry.layerKey noticeEntry.id), .call (.get "5f"), .reopen,
    .call .loadManifest, .call .loadPointers]

theorem noticeSteps_replies :
    (freshFiles.run (DirectoryStore.start ⟨"store"⟩).run).1 = .ok () ∧
    LayerStore.replies noticeSteps (.inDirectory ⟨"store"⟩ freshFiles) =
      LayerStore.replies noticeSteps (.memory .empty) := by
  have hhex : Text.Hexadecimal "5f" := by decide
  have hkey : noticeEntry.layerKey.Survives := LayerKey.survives_iff.2 (by decide +kernel)
  have hput : DirectoryStore.decode Artifact.ofJson? noticeArtifact.toJson.lines =
      .ok noticeArtifact :=
    (DirectoryStore.decode_lines (by decide +kernel) (by decide +kernel)).2 (by decide +kernel)
  have happend := ManifestEntry.decode_lines.2 hkey
  have hswap := LayerKey.decode_lines.2 hkey
  refine LayerStore.directory_replies_as_memory (by decide) emptyDirectory_freshFiles ?_ ?_
  · simp [noticeSteps, StoreStep.Hexadecimal, hhex, noticeArtifact]
  · simp [noticeSteps, StoreStep.Survives, hput, happend, hswap]

end PageLayers
