import PageLayers.Proofs.Registry.Published

/-! Refreshing a registry while publishes go on. The manifest is read before the pointers, and a
publish that fits in between leaves a pointer to an entry that was not read. -/

namespace PageLayers

open MemoryStore Program

variable {α : Type} {S T U M P : Publisher} {moments : List Publisher} {generation : Nat}

/-- A reader makes its calls beside a publisher, which takes any number of steps before each of
them. The moments are those at which the calls are answered. -/
inductive Beside : StoreProgram α → Publisher → List Publisher → α → Publisher → Prop where
  | done {a : α} {S : Publisher} : Beside (.done a) S [] a S
  | call {c : StoreCall} {next : Except StoreError c.Result → StoreProgram α} {a : α}
      {S T U : Publisher} {moments : List Publisher} (hsteps : Publisher.Steps S T)
      (hrest : Beside (next (answer c T.store).1) { T with store := (answer c T.store).2 }
        moments a U) :
      Beside (.call c next) S (T :: moments) a U

namespace Beside

/-- What holds of a reader that relies on nothing but steps of the publisher holds of its result. -/
theorem of_keeps {post : α → Publisher → Prop} {p : StoreProgram α} {a : α}
    (h : Beside p S moments a U)
    (hp : p.Keeps (Snapshot.reading Publisher.store Publisher.Steps) post S) : post a U := by
  induction h with
  | done => exact hp
  | call hsteps hrest ih =>
    rename_i c next a S T U moments
    obtain ⟨hread, hnext⟩ := hp T hsteps
    refine ih ?_
    rw [answer_of_read hread]
    exact hnext _ _ ⟨rfl, rfl⟩

/-- A reader may run while the publisher takes no step. -/
theorem runOn (p : StoreProgram α) (S : Publisher) : ∃ moments,
    Beside p S moments (p.runOn answer S.store).1
      { S with store := (p.runOn answer S.store).2 } := by
  induction p generalizing S with
  | done a => exact ⟨[], .done⟩
  | call c next ih =>
    obtain ⟨moments, h⟩ := ih (answer c S.store).1 { S with store := (answer c S.store).2 }
    exact ⟨S :: moments, .call .refl h⟩

end Beside

theorem Publisher.Reachable.covers (hM : M.Reachable) (hP : Publisher.Steps M P) :
    P.store.Covers M.store.manifest :=
  hM.sound.intact.covers.of_grows (Publisher.Steps.grows hP)

theorem Manifest.exists_of_get? {m : Manifest} {id : String} {e : ManifestEntry}
    (h : m.get? id = some e) : ∃ e ∈ m.entries, e.id = id :=
  ⟨e, List.mem_of_find?_eq_some h, by simpa using List.find?_some h⟩

/-- What looking up a live entry does once it has read the pointers. -/
def Publishing.entryAt : Option String → Publishing (Option ManifestEntry)
  | none => return none
  | some id => do
    let m : Manifest ← perform .loadManifest
    return m.get? id

/-- Pointers that are read first name entries that are there when the manifest is read. -/
theorem liveEntry_beside_publishes {key : LayerKey}
    {result : Except PublishError (Option ManifestEntry)} (hS : S.Reachable)
    (h : Beside (Publishing.liveEntry key).run S moments result U) :
    ∃ P rest, moments = P :: rest ∧ Publisher.Steps S P ∧
      (P.store.pointers.get? key = none ∧ result = .ok none ∨
        ∃ e, P.store.pointers.get? key = some e.id ∧ e.layerKey = key ∧ result = .ok (some e)) := by
  cases h with
  | call hP h =>
    rename_i P rest
    refine ⟨P, rest, rfl, hP, ?_⟩
    have hreachable := hS.steps hP
    have hrest : Beside (Publishing.entryAt (P.store.pointers.get? key)).run P rest result U := h
    cases hpointer : P.store.pointers.get? key with
    | none =>
      rw [hpointer] at hrest
      cases hrest
      exact .inl ⟨rfl, rfl⟩
    | some id =>
      obtain ⟨e, he, rfl, hkey⟩ := hreachable.sound.intact.pointers key id hpointer
      rw [hpointer] at hrest
      cases hrest with
      | call hM hdone =>
        rename_i M _
        have hlater := (Publisher.Steps.grows hM).entries.subset he
        have hget := (hreachable.steps hM).sound.intact.get?_of_mem hlater
        cases hdone
        exact .inr ⟨e, rfl, hkey, congrArg Except.ok hget⟩

/-- A refresh beside publishes succeeds exactly when each pointer that it reads names an entry that
was there when it read the manifest, and then has the layers of these pointers. Otherwise it fails
on a pointer whose entry was added in between, and in no other way. -/
theorem refresh_beside_publishes {result : Except RegistryError Snapshot} (hS : S.Reachable)
    (h : Beside (Snapshot.load generation).run S moments result U) :
    ∃ M P rest, moments = M :: P :: rest ∧ Publisher.Steps S M ∧ Publisher.Steps M P ∧
      ((∃ snap, result = .ok snap) ↔ ∀ key id, P.store.pointers.get? key = some id →
        ∃ e ∈ M.store.manifest.entries, e.id = id) ∧
      (∀ snap, result = .ok snap → snap.manifest = M.store.manifest ∧
        snap.pointers = P.store.pointers ∧ snap.Complete U.store) ∧
      ∀ e, result = .error e → ∃ key id, P.store.pointers.get? key = some id ∧
        (∀ e ∈ M.store.manifest.entries, e.id ≠ id) ∧ e = .danglingPointer key id := by
  rw [Snapshot.load_eq] at h
  cases h with
  | call hM h =>
    rename_i M _
    cases h with
    | call hP h =>
      rename_i P rest
      have hrest : Beside (Snapshot.loadFrom generation M.store.manifest P.store.pointers).run P
          rest result U := h
      have hcovers := (hS.steps hM).covers hP
      have hpost := hrest.of_keeps (Snapshot.ends_loadFrom (fun _ _ => Publisher.Steps.grows)
        (fun _ => .refl) (fun _ _ _ => Relation.ReflTransGen.trans) hcovers)
      refine ⟨M, P, rest, rfl, hM, hP, ?_⟩
      cases result with
      | ok snap =>
        obtain ⟨-, -, hmanifest, hpointers, hcomplete⟩ := hpost
        refine ⟨⟨fun _ => ?_, fun _ => ⟨snap, rfl⟩⟩, ?_, fun e he => nomatch he⟩
        · intro key id hid
          rw [← hpointers] at hid
          obtain ⟨e, a, he, -⟩ := hcomplete.layer key id hid
          rw [hmanifest] at he
          exact Manifest.exists_of_get? he
        · rintro _ ⟨⟩
          exact ⟨hmanifest, hpointers, hcomplete⟩
      | error e =>
        obtain ⟨-, key, id, hid, hnone, rfl⟩ := hpost
        rw [Manifest.get?_eq_none] at hnone
        refine ⟨⟨fun hok => ?_, fun hall => ?_⟩, fun _ hsnap => (nomatch hsnap), ?_⟩
        · obtain ⟨snap, hsnap⟩ := hok
          cases hsnap
        · obtain ⟨e, he, heid⟩ := hall key id hid
          exact absurd heid (hnone e he)
        · rintro _ ⟨⟩
          exact ⟨key, id, hid, hnone, rfl⟩

theorem refresh_welcome : ∃ moments snap M P rest,
    Beside (Snapshot.load 1).run welcomePublished moments (.ok snap) welcomePublished ∧
      moments = M :: P :: rest ∧ snap.manifest = M.store.manifest ∧
      snap.pointers = P.store.pointers ∧ snap.Complete welcomePublished.store := by
  have hreachable : welcomePublished.Reachable := Publisher.steps_first_publish rfl
  obtain ⟨snap, hrun, -⟩ : ∃ snap, Program.runOn (I := storeInterface) answer
      (Snapshot.load 1).run welcomePublished.store = (.ok snap, welcomePublished.store) ∧ _ :=
    Snapshot.load_runOn hreachable.sound.intact
  obtain ⟨moments, h⟩ := Beside.runOn (Snapshot.load 1).run welcomePublished
  rw [hrun] at h
  obtain ⟨M, P, rest, hmoments, -, -, -, hok, -⟩ := refresh_beside_publishes hreachable h
  exact ⟨moments, snap, M, P, rest, h, hmoments, hok snap rfl⟩

/-- A first publish that happens between the two reads of a refresh makes it fail, though none of
its calls fails. -/
theorem refresh_dangles :
    Program.runOn (I := storeInterface) answer
        (Publishing.publish (.ofPage welcome .epoch) "1" .epoch).run MemoryStore.empty =
      (.ok ⟨.published, .ofArtifact (.ofPage welcome .epoch) "1" .epoch, none⟩,
        welcomePublished.store) ∧
    Beside (Snapshot.load 1).run .initial [.initial, welcomePublished]
      (.error (.danglingPointer welcome.layerKey "1")) welcomePublished := by
  have hsteps : Publisher.Steps .initial welcomePublished := Publisher.steps_first_publish rfl
  refine ⟨Publisher.runOn_first_publish rfl, ?_⟩
  exact .call .refl (.call hsteps .done)

end PageLayers
