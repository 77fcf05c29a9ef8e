import PageLayers.Store.Memory
import PageLayers.Proofs.Ordered.Map
import Mathlib.Data.List.Nodup

/-! What a store keeps from call to call: artifacts are what their checksums say, entries have
their artifacts, and pointers have their entries. -/

namespace PageLayers

namespace Manifest

variable {m : Manifest} {e : ManifestEntry} {key : LayerKey} {id checksum : String}

theorem get?_eq_some (h : m.get? id = some e) : e ∈ m.entries ∧ e.id = id :=
  ⟨List.mem_of_find?_eq_some h, by simpa using List.find?_some h⟩

theorem get?_eq_none : m.get? id = none ↔ ∀ e ∈ m.entries, e.id ≠ id := by
  simp [get?]

theorem find?_eq_some (h : m.find? key checksum = some e) :
    e ∈ m.entries ∧ e.layerKey = key ∧ e.checksum = checksum :=
  ⟨List.mem_of_find?_eq_some h, by simpa using List.find?_some h⟩

theorem get?_append_self (h : m.get? e.id = none) : (m.append e).get? e.id = some e := by
  unfold get? at h
  simp only [get?, append, List.find?_append, h]
  simp

theorem find?_append_self (h : m.find? e.layerKey e.checksum = none) :
    (m.append e).find? e.layerKey e.checksum = some e := by
  unfold find? at h
  simp only [find?, append, List.find?_append, h]
  simp

end Manifest

/-- Calls that change what readers of a store find. -/
def StoreCall.isVisible : StoreCall → Bool
  | append _ => true
  | swap .. => true
  | _ => false

namespace MemoryStore

variable {s t u : MemoryStore} {c : StoreCall} {key : LayerKey} {id checksum : String}

/-- A call is answered by the store, or fails without effect. -/
def Answered (c : StoreCall) (s : MemoryStore) (r : Except StoreError c.Result)
    (t : MemoryStore) : Prop :=
  answer c s = (r, t) ∨ ∃ e, r = .error e ∧ t = s

theorem Answered.eq_of_ok {x : c.Result} (h : Answered c s (.ok x) t) :
    answer c s = (.ok x, t) := by
  rcases h with h | ⟨e, he, -⟩
  · exact h
  · cases he

theorem answer_of_read (h : c.isWrite = false) : (answer c s).2 = s := by
  cases c with
  | get checksum =>
    simp only [answer]
    split <;> rfl
  | contains checksum => rfl
  | loadManifest => rfl
  | loadPointers => rfl
  | put a => cases h
  | append e => cases h
  | swap key id => cases h

theorem Answered.eq_of_read {r : Except StoreError c.Result} (h : Answered c s r t)
    (hc : c.isWrite = false) : t = s := by
  rcases h with h | ⟨-, -, rfl⟩
  · have hread := answer_of_read (s := s) hc
    rwa [h] at hread
  · rfl

/-- Artifacts stay, and entries are added at the end. -/
structure Grows (s t : MemoryStore) : Prop where
  artifacts : ∀ checksum a, s.artifacts.get? checksum = some a →
    t.artifacts.get? checksum = some a
  entries : s.manifest.entries <+: t.manifest.entries

theorem Grows.refl (s : MemoryStore) : s.Grows s := ⟨fun _ _ h => h, List.prefix_refl _⟩

theorem Grows.trans (hst : s.Grows t) (htu : t.Grows u) : s.Grows u :=
  ⟨fun checksum a h => htu.artifacts checksum a (hst.artifacts checksum a h),
    hst.entries.trans htu.entries⟩

/-- What a call can make of the contents of a store. -/
inductive Effect (s t : MemoryStore) : StoreCall → Prop where
  | unchanged {c : StoreCall} (hartifacts : t.artifacts = s.artifacts)
      (hmanifest : t.manifest = s.manifest)
      (hpointers : t.pointers = s.pointers) : Effect s t c
  | stored {a : Artifact} (hnew : s.artifacts.get? a.checksum = none)
      (hartifacts : t.artifacts = s.artifacts.insert a.checksum a)
      (hmanifest : t.manifest = s.manifest) (hpointers : t.pointers = s.pointers) :
      Effect s t (.put a)
  | recorded {e : ManifestEntry} (hartifacts : t.artifacts = s.artifacts)
      (hmanifest : t.manifest = s.manifest.append e) (hpointers : t.pointers = s.pointers) :
      Effect s t (.append e)
  | swapped {key : LayerKey} {id : String} (hartifacts : t.artifacts = s.artifacts)
      (hmanifest : t.manifest = s.manifest) (hpointers : t.pointers = s.pointers.insert key id) :
      Effect s t (.swap key id)

theorem effect_put (a : Artifact) (s : MemoryStore) :
    Effect s (putArtifact a s).2 (.put a) := by
  unfold putArtifact
  dsimp only
  split
  · exact .unchanged rfl rfl rfl
  · rename_i ha
    have hnone : s.artifacts.get? a.checksum = none := by simpa [OrderedMap.contains] using ha
    exact .stored hnone rfl rfl rfl

theorem effect_write {α : Type} {point : FailPoint} {f : MemoryStore → α × MemoryStore}
    (hf : Effect s (f s).2 c) : Effect s (write point f s).2 c := by
  unfold write
  split
  · exact .unchanged rfl rfl rfl
  · exact hf

theorem effect_answer (c : StoreCall) (s : MemoryStore) : Effect s (answer c s).2 c := by
  cases c with
  | contains checksum => exact .unchanged rfl rfl rfl
  | put a => exact effect_write (effect_put a s)
  | get checksum =>
    have hsame : (answer (.get checksum) s).2 = s := by
      simp only [answer]
      split <;> rfl
    rw [hsame]
    exact .unchanged rfl rfl rfl
  | loadManifest => exact .unchanged rfl rfl rfl
  | append e => exact effect_write (.recorded rfl rfl rfl)
  | loadPointers => exact .unchanged rfl rfl rfl
  | swap key id => exact effect_write (.swapped rfl rfl rfl)

theorem Answered.effect {r : Except StoreError c.Result} (h : Answered c s r t) :
    Effect s t c := by
  rcases h with h | ⟨_, -, rfl⟩
  · have heffect := effect_answer c s
    rw [h] at heffect
    exact heffect
  · exact .unchanged rfl rfl rfl

/-- Entries come from appending alone, and pointers move by swaps alone. -/
theorem Effect.same (h : Effect s t c) (hc : c.isVisible = false) :
    t.manifest = s.manifest ∧ t.pointers = s.pointers := by
  cases h with
  | unchanged hartifacts hmanifest hpointers => exact ⟨hmanifest, hpointers⟩
  | stored hnew hartifacts hmanifest hpointers => exact ⟨hmanifest, hpointers⟩
  | recorded hartifacts hmanifest hpointers => cases hc
  | swapped hartifacts hmanifest hpointers => cases hc

theorem Effect.grows (h : Effect s t c) : s.Grows t := by
  cases h with
  | unchanged hartifacts hmanifest hpointers =>
    exact ⟨by simp [hartifacts], by simp [hmanifest]⟩
  | stored hnew hartifacts hmanifest hpointers =>
    rename_i a
    refine ⟨?_, by simp [hmanifest]⟩
    intro checksum b hb
    have hne : checksum ≠ a.checksum := by
      rintro rfl
      rw [hnew] at hb
      cases hb
    rw [hartifacts, OrderedMap.get?_insert_of_ne hne]
    exact hb
  | recorded hartifacts hmanifest hpointers =>
    exact ⟨by simp [hartifacts], by simp [hmanifest, Manifest.append]⟩
  | swapped hartifacts hmanifest hpointers =>
    exact ⟨by simp [hartifacts], by simp [hmanifest]⟩

/-- Everything in a store has what it refers to. -/
structure Intact (s : MemoryStore) : Prop where
  artifacts : ∀ checksum a, s.artifacts.get? checksum = some a →
    a.checksum = checksum ∧ a.page.checksum = checksum
  entries : ∀ e ∈ s.manifest.entries, e.artifactRef = e.checksum ∧
    ∃ a, s.artifacts.get? e.artifactRef = some a
  ids : (s.manifest.entries.map ManifestEntry.id).Nodup
  pointers : ∀ key id, s.pointers.get? key = some id →
    ∃ e ∈ s.manifest.entries, e.id = id ∧ e.layerKey = key

theorem intact_empty : MemoryStore.empty.Intact := by
  constructor
  · intro checksum a h
    cases h
  · intro e he
    cases he
  · exact List.nodup_nil
  · intro key id h
    cases h

theorem Intact.get?_of_mem (hs : s.Intact) {e : ManifestEntry} (he : e ∈ s.manifest.entries) :
    s.manifest.get? e.id = some e := by
  cases h : s.manifest.get? e.id with
  | none =>
    have hnone := List.find?_eq_none.1 h e he
    simp at hnone
  | some e' =>
    have hid : e'.id = e.id := by simpa using List.find?_some h
    rw [List.inj_on_of_nodup_map hs.ids (List.mem_of_find?_eq_some h) he hid]

/-- The calls with which a publish under a key, with the id of its entry, leaves a store intact. -/
def Permits (key : LayerKey) (id : String) (s : MemoryStore) : StoreCall → Prop
  | .put a => a.page.checksum = a.checksum
  | .append e => e.id = id ∧ e.layerKey = key ∧ e.artifactRef = e.checksum ∧
      (∃ a, s.artifacts.get? e.artifactRef = some a) ∧ ∀ e' ∈ s.manifest.entries, e'.id ≠ id
  | .swap key' id' => key' = key ∧ ∃ e ∈ s.manifest.entries, e.id = id' ∧ e.layerKey = key
  | _ => True

theorem Effect.mem_entries {e : ManifestEntry} (h : Effect s t c) (hc : Permits key id s c)
    (he : e ∈ t.manifest.entries) : e ∈ s.manifest.entries ∨ e.id = id := by
  cases h with
  | unchanged hartifacts hmanifest hpointers =>
    rw [hmanifest] at he
    exact .inl he
  | stored hnew hartifacts hmanifest hpointers =>
    rw [hmanifest] at he
    exact .inl he
  | recorded hartifacts hmanifest hpointers =>
    rw [hmanifest, Manifest.append] at he
    rcases List.mem_append.1 he with he | he
    · exact .inl he
    · obtain rfl := List.mem_singleton.1 he
      exact .inr hc.1
  | swapped hartifacts hmanifest hpointers =>
    rw [hmanifest] at he
    exact .inl he

theorem Intact.effect (hs : s.Intact) (hc : Permits key id s c) (h : Effect s t c) :
    t.Intact := by
  have hgrows := h.grows
  cases h with
  | unchanged hartifacts hmanifest hpointers =>
    constructor
    · simpa only [hartifacts] using hs.artifacts
    · simpa only [hartifacts, hmanifest] using hs.entries
    · simpa only [hmanifest] using hs.ids
    · simpa only [hmanifest, hpointers] using hs.pointers
  | stored hnew hartifacts hmanifest hpointers =>
    rename_i a
    constructor
    · intro checksum b hb
      by_cases hchecksum : checksum = a.checksum
      · subst hchecksum
        rw [hartifacts, OrderedMap.get?_insert_self] at hb
        cases hb
        exact ⟨rfl, hc⟩
      · rw [hartifacts, OrderedMap.get?_insert_of_ne hchecksum] at hb
        exact hs.artifacts checksum b hb
    · intro e he
      rw [hmanifest] at he
      obtain ⟨href, b, hb⟩ := hs.entries e he
      exact ⟨href, b, hgrows.artifacts _ _ hb⟩
    · simpa only [hmanifest] using hs.ids
    · simpa only [hmanifest, hpointers] using hs.pointers
  | recorded hartifacts hmanifest hpointers =>
    rename_i e
    obtain ⟨rfl, -, href, hstored, hfresh⟩ := hc
    constructor
    · simpa only [hartifacts] using hs.artifacts
    · intro e' he'
      rw [hmanifest, Manifest.append] at he'
      rw [hartifacts]
      rcases List.mem_append.1 he' with he' | he'
      · exact hs.entries e' he'
      · obtain rfl := List.mem_singleton.1 he'
        exact ⟨href, hstored⟩
    · have hnot : e.id ∉ s.manifest.entries.map ManifestEntry.id := by simpa using hfresh
      rw [hmanifest, Manifest.append, List.map_append]
      exact hs.ids.append (List.nodup_singleton _) (by simpa using hnot)
    · intro key' id' hpointer
      rw [hpointers] at hpointer
      obtain ⟨e', he', hid⟩ := hs.pointers key' id' hpointer
      exact ⟨e', hgrows.entries.subset he', hid⟩
  | swapped hartifacts hmanifest hpointers =>
    rename_i key' id'
    obtain ⟨rfl, hentry⟩ := hc
    constructor
    · simpa only [hartifacts] using hs.artifacts
    · simpa only [hartifacts, hmanifest] using hs.entries
    · simpa only [hmanifest] using hs.ids
    · intro key'' id'' hpointer
      rw [hpointers] at hpointer
      rw [hmanifest]
      by_cases hkey : key'' = key'
      · subst hkey
        rw [OrderedMap.get?_insert_self] at hpointer
        cases hpointer
        exact hentry
      · rw [OrderedMap.get?_insert_of_ne hkey] at hpointer
        exact hs.pointers key'' id'' hpointer

end MemoryStore

end PageLayers
