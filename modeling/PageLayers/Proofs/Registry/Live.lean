import PageLayers.Proofs.Registry.Published
import PageLayers.Proofs.Store.Exclusive

/-! A loaded snapshot has the layers that were live in the store, each under its own key. -/

namespace PageLayers

open MemoryStore

variable {s : MemoryStore} {snap : Snapshot} {l : Layer} {key : LayerKey}

namespace MemoryStore

/-- A layer is live in a store: its record is what the pointer of its key names, with what is stored
for the record. -/
def Serves (s : MemoryStore) (l : Layer) : Prop :=
  s.live l.key = some l.entry ∧ s.artifacts.get? l.entry.artifactRef = some l.artifact

theorem Intact.exists_serves {e : ManifestEntry} (hs : s.Intact) (h : s.live key = some e) :
    ∃ l : Layer, l.entry = e ∧ l.key = key ∧ s.Serves l := by
  obtain rfl := hs.layerKey_of_live h
  obtain ⟨-, a, ha⟩ := hs.entries e (mem_of_live h)
  exact ⟨⟨e, a⟩, rfl, rfl, h, ha⟩

end MemoryStore

namespace Snapshot

/-- A snapshot with the layers that are live in a store. -/
structure LoadedFrom (s : MemoryStore) (snap : Snapshot) : Prop where
  manifest : snap.manifest = s.manifest
  pointers : snap.pointers = s.pointers
  complete : snap.Complete s

theorem LoadedFrom.get?_eq_some (h : snap.LoadedFrom s) (hs : s.Intact) :
    snap.layers.get? key = some l ↔ l.key = key ∧ s.Serves l := by
  constructor
  · intro hlayer
    have hkey : key ∈ snap.pointers.keys := by
      rw [← h.complete.keys]
      exact OrderedMap.mem_keys.2 ⟨l, hlayer⟩
    obtain ⟨id, hid⟩ := OrderedMap.mem_keys.1 hkey
    obtain ⟨e, a, he, ha, hlayer'⟩ := h.complete.layer key id hid
    obtain rfl := Option.some.inj (hlayer.symm.trans hlayer')
    rw [h.manifest] at he
    rw [h.pointers] at hid
    have hlive : s.live key = some e := Option.bind_eq_some_iff.2 ⟨id, hid, he⟩
    obtain rfl := hs.layerKey_of_live hlive
    exact ⟨rfl, hlive, ha⟩
  · rintro ⟨rfl, hlive, hartifact⟩
    obtain ⟨id, hid, hentry⟩ := Option.bind_eq_some_iff.1 hlive
    obtain ⟨e, a, he, ha, hlayer⟩ := h.complete.layer l.key id (h.pointers ▸ hid)
    rw [h.manifest, hentry] at he
    obtain rfl := Option.some.inj he
    obtain rfl := Option.some.inj (hartifact.symm.trans ha)
    exact hlayer

theorem LoadedFrom.layer?_eq_none (h : snap.LoadedFrom s) (hs : s.Intact) :
    snap.layer? key = none ↔ s.live key = none := by
  constructor
  · intro hnone
    by_contra hlive
    obtain ⟨e, he⟩ := Option.ne_none_iff_exists'.1 hlive
    obtain ⟨l, -, hl⟩ := hs.exists_serves he
    exact Option.some_ne_none l (((h.get?_eq_some hs).2 hl).symm.trans hnone)
  · intro hnone
    by_contra hlayer
    obtain ⟨l, hl⟩ := Option.ne_none_iff_exists'.1 hlayer
    obtain ⟨rfl, hserves⟩ := (h.get?_eq_some hs).1 hl
    exact Option.some_ne_none _ (hserves.1.symm.trans hnone)

theorem LoadedFrom.mem_values (h : snap.LoadedFrom s) (hs : s.Intact) :
    l ∈ snap.layers.values ↔ s.Serves l := by
  simp only [OrderedMap.values, List.mem_map, Prod.exists, exists_eq_right,
    ← OrderedMap.get?_eq_some, h.get?_eq_some hs, exists_eq_left']

/-- No two layers of a snapshot have one key. -/
theorem LoadedFrom.nodup_keys (h : snap.LoadedFrom s) (hs : s.Intact) :
    (snap.layers.values.map Layer.key).Nodup := by
  have hkeys : snap.layers.values.map Layer.key = snap.layers.keys := by
    rw [OrderedMap.values, List.map_map]
    refine List.map_congr_left ?_
    rintro ⟨k, l⟩ hmem
    exact ((h.get?_eq_some hs).1 (OrderedMap.get?_eq_some.2 hmem)).1
  rw [hkeys]
  exact OrderedMap.nodup_keys

end Snapshot

end PageLayers
