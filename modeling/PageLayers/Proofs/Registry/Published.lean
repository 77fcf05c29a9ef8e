import PageLayers.Proofs.Registry.Load
import PageLayers.Proofs.Store.Publisher
import PageLayers.Proofs.Overlay.Accepted
import PageLayers.Artifact.Compile

/-! Stores that were filled by publishing, whatever publishes still go on or were cut off: what
their pointers name is there, and can be loaded. -/

namespace PageLayers

open MemoryStore Program

variable {s : MemoryStore} {S : Publisher} {key : LayerKey} {id : String} {generation : Nat}

namespace MemoryStore

/-- A pointer of an intact store leads to a page with the recorded checksum. -/
theorem Intact.pointer (hs : s.Intact) (h : s.pointers.get? key = some id) :
    ∃ e a, s.manifest.get? id = some e ∧ e.layerKey = key ∧
      s.artifacts.get? e.artifactRef = some a ∧ a.checksum = e.checksum ∧
      a.page.checksum = e.checksum := by
  obtain ⟨e, he, rfl, hkey⟩ := hs.pointers key id h
  obtain ⟨href, a, ha⟩ := hs.entries e he
  obtain ⟨hchecksum, hpage⟩ := hs.artifacts _ _ ha
  exact ⟨e, a, hs.get?_of_mem he, hkey, ha, hchecksum.trans href, hpage.trans href⟩

end MemoryStore

namespace Snapshot

theorem ends_load_alone (hs : s.Intact) :
    Ends (reading (fun t => t) Eq)
      (fun snap t => t = s ∧ snap.generation = generation ∧ snap.manifest = s.manifest ∧
        snap.pointers = s.pointers ∧ snap.Complete s)
      (fun _ _ => False) (load generation) s := by
  rw [load_eq]
  refine Ends.bind ?_
  rintro _ rfl
  refine ⟨rfl, ?_⟩
  rintro _ _ ⟨rfl, rfl⟩
  refine Ends.bind ?_
  rintro _ rfl
  refine ⟨rfl, ?_⟩
  rintro _ _ ⟨rfl, rfl⟩
  refine (ends_loadFrom ?_ (fun _ => rfl) (fun _ _ _ => Eq.trans) hs.covers).mono ?_ ?_
  · rintro x _ rfl
    exact .refl x
  · rintro snap _ ⟨rfl, hgeneration, hmanifest, hpointers, hcomplete⟩
    exact ⟨rfl, hgeneration, hmanifest, hpointers, hcomplete⟩
  · rintro e _ ⟨rfl, key, id, hpointer, hnone, -⟩
    obtain ⟨e', a, he', -⟩ := hs.pointer hpointer
    rw [hnone] at he'
    cases he'

/-- An intact store can be loaded, and loading leaves it as it is. -/
theorem load_runOn (hs : s.Intact) : ∃ snap : Snapshot,
    Program.runOn (I := storeInterface) answer (load generation).run s = (.ok snap, s) ∧
      snap.generation = generation ∧ snap.manifest = s.manifest ∧
      snap.pointers = s.pointers ∧ snap.Complete s := by
  have hends : Ends (reading (fun t => t) Eq)
      (fun snap t => t = s ∧ snap.generation = generation ∧ snap.manifest = s.manifest ∧
        snap.pointers = s.pointers ∧ snap.Complete s)
      (fun _ _ => False) (load generation) s := ends_load_alone hs
  obtain ⟨snap, t, hrun, rfl, hsnap⟩ :=
    hends.runOn (fun _ => rfl) fun c t hc => ⟨rfl, answer_of_read hc⟩
  exact ⟨snap, hrun, hsnap⟩

end Snapshot

/-- However publishes interleave, and whatever calls fail: each pointer names an entry of its key
whose artifact is stored and is what its checksum says, entries are only added at the end, and the
registry loads with one layer for each pointer. -/
theorem published_pointers_intact (hS : S.Reachable) :
    (∀ key id, S.store.pointers.get? key = some id →
      ∃ e a, S.store.manifest.get? id = some e ∧ e.layerKey = key ∧
        S.store.artifacts.get? e.artifactRef = some a ∧ a.checksum = e.checksum ∧
        a.page.checksum = e.checksum) ∧
    (∀ T, Publisher.Steps S T → S.store.manifest.entries <+: T.store.manifest.entries) ∧
    ∀ generation, ∃ snap : Snapshot,
      Program.runOn (I := storeInterface) answer (Snapshot.load generation).run S.store =
        (.ok snap, S.store) ∧
      snap.generation = generation ∧ snap.manifest = S.store.manifest ∧
      snap.pointers = S.store.pointers ∧ snap.Complete S.store := by
  have hintact := hS.sound.intact
  refine ⟨fun key id h => hintact.pointer h, fun T hT => ?_, fun generation => ?_⟩
  · exact (Publisher.Steps.grows hT).entries
  · exact Snapshot.load_runOn hintact

/-- What a publisher comes to that has published one page. -/
def welcomePublished : Publisher :=
  ⟨Publisher.firstStore (.ofPage welcome .epoch) "1" .epoch, fun _ => none, ["1"]⟩

theorem welcome_pointer_intact : welcomePublished.Reachable ∧
    ∃ e a, welcomePublished.store.manifest.get? "1" = some e ∧
      e.layerKey = welcome.layerKey ∧
      welcomePublished.store.artifacts.get? e.artifactRef = some a ∧ a.checksum = e.checksum ∧
      a.page.checksum = e.checksum := by
  have hreachable : welcomePublished.Reachable := Publisher.steps_first_publish rfl
  exact ⟨hreachable, (published_pointers_intact hreachable).1 _ _ OrderedMap.get?_insert_self⟩

end PageLayers
