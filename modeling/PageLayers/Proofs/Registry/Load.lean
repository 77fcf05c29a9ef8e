import PageLayers.Registry.Snapshot
import PageLayers.Proofs.Store.Intact
import PageLayers.Proofs.Interaction.Rely

/-! Loading a snapshot from a store that may grow meanwhile. -/

namespace PageLayers

open MemoryStore Program

variable {σ α β : Type} {view : σ → MemoryStore} {R : σ → σ → Prop} {x y : σ} {s t : MemoryStore}
  {m : Manifest}

namespace MemoryStore

/-- An artifact is kept for each entry of a manifest, with the checksum of the entry. -/
def Covers (s : MemoryStore) (m : Manifest) : Prop :=
  ∀ e ∈ m.entries, ∃ a, s.artifacts.get? e.artifactRef = some a ∧ a.checksum = e.checksum

theorem Covers.of_grows (h : s.Covers m) (hst : s.Grows t) : t.Covers m := by
  intro e he
  obtain ⟨a, ha, hchecksum⟩ := h e he
  exact ⟨a, hst.artifacts _ _ ha, hchecksum⟩

theorem Intact.covers (hs : s.Intact) : s.Covers s.manifest := by
  intro e he
  obtain ⟨href, a, ha⟩ := hs.entries e he
  exact ⟨a, ha, (hs.artifacts _ _ ha).1.trans href⟩

end MemoryStore

namespace Snapshot

/-- A reader makes no writes, and its calls are answered by the store of the moment. -/
def reading (view : σ → MemoryStore) (R : σ → σ → Prop) : Setting storeInterface σ :=
  ⟨R, fun c _ => c.isWrite = false, fun c x r y => r = (answer c (view x)).1 ∧ y = x⟩

/-- The layer of a pointer: the entry that the pointer names, and the artifact of the entry. -/
def LayerOf (m : Manifest) (s : MemoryStore) (pointer : LayerKey × String)
    (layer : LayerKey × Layer) : Prop :=
  layer.1 = pointer.1 ∧ m.get? pointer.2 = some layer.2.entry ∧
    s.artifacts.get? layer.2.entry.artifactRef = some layer.2.artifact

theorem LayerOf.of_grows {pointer : LayerKey × String} {layer : LayerKey × Layer}
    (h : LayerOf m s pointer layer) (hst : s.Grows t) : LayerOf m t pointer layer :=
  ⟨h.1, h.2.1, hst.artifacts _ _ h.2.2⟩

/-- Artifacts that were fetched before are still those of the store. -/
def Agrees (fetched : OrderedMap String Artifact) (s : MemoryStore) : Prop :=
  ∀ checksum a, fetched.get? checksum = some a → s.artifacts.get? checksum = some a

variable {fetched : OrderedMap String Artifact}

theorem Agrees.of_grows (h : Agrees fetched s) (hst : s.Grows t) : Agrees fetched t :=
  fun checksum a ha => hst.artifacts checksum a (h checksum a ha)

theorem Agrees.insert {checksum : String} {a : Artifact} (h : Agrees fetched s)
    (ha : s.artifacts.get? checksum = some a) : Agrees (fetched.insert checksum a) s := by
  intro checksum' b hb
  by_cases hchecksum : checksum' = checksum
  · subst hchecksum
    rw [OrderedMap.get?_insert_self] at hb
    cases hb
    exact ha
  · rw [OrderedMap.get?_insert_of_ne hchecksum] at hb
    exact h checksum' b hb

section

variable (hgrows : ∀ x y, R x y → (view x).Grows (view y)) (hrefl : ∀ x, R x x)
  (htrans : ∀ x y z, R x y → R y z → R x z)

include hgrows hrefl

theorem ends_fetch {checksum : String} {a : Artifact} (hfetched : Agrees fetched (view x))
    (ha : (view x).artifacts.get? checksum = some a) :
    Ends (reading view R) (fun b y => R x y ∧ b = a) (fun _ _ => False)
      (fetch fetched checksum) x := by
  unfold fetch
  split
  · rename_i b hb
    refine ends_pure ⟨hrefl x, ?_⟩
    rw [hfetched checksum b hb] at ha
    exact Option.some.inj ha
  · intro y hy
    refine ⟨rfl, ?_⟩
    rintro r _ ⟨rfl, rfl⟩
    have hget := (hgrows x _ hy).artifacts checksum a ha
    simp only [answer, hget]
    exact ⟨hy, rfl⟩

theorem ends_loadLayer {key : LayerKey} {id : String} (hm : (view x).Covers m)
    (hfetched : Agrees fetched (view x)) :
    Ends (reading view R) (fun l y => R x y ∧ LayerOf m (view y) (key, id) (key, l))
      (fun e y => R x y ∧ m.get? id = none ∧ e = .danglingPointer key id)
      (loadLayer m fetched key id) x := by
  unfold loadLayer
  split
  · rename_i hnone
    exact ends_throw ⟨hrefl x, hnone, rfl⟩
  · rename_i e he
    obtain ⟨a, ha, hchecksum⟩ := hm e (List.mem_of_find?_eq_some he)
    refine Ends.bind ((ends_fetch hgrows hrefl hfetched ha).mono ?_ fun _ _ h => h.elim)
    rintro b y ⟨hy, hb⟩
    rw [hb, if_neg (not_not.2 hchecksum)]
    exact ends_pure ⟨hy, rfl, he, (hgrows x y hy).artifacts _ _ ha⟩

include htrans

/-- Each pointer gets its layer, unless there is one whose entry is missing from the manifest. -/
theorem ends_loadLayers {pairs : List (LayerKey × String)} (hm : (view x).Covers m)
    (hfetched : Agrees fetched (view x)) :
    Ends (reading view R) (fun layers y => R x y ∧ List.Forall₂ (LayerOf m (view y)) pairs layers)
      (fun e y => R x y ∧ ∃ p ∈ pairs, m.get? p.2 = none ∧ e = .danglingPointer p.1 p.2)
      (loadLayers m fetched pairs) x := by
  induction pairs generalizing fetched x with
  | nil => exact ends_pure ⟨hrefl x, .nil⟩
  | cons p rest ih =>
    obtain ⟨key, id⟩ := p
    unfold loadLayers
    refine Ends.bind ((ends_loadLayer hgrows hrefl hm hfetched).mono ?_ ?_)
    · rintro l y ⟨hy, hl⟩
      have hgrown := hgrows x y hy
      have hmore := ih (hm.of_grows hgrown) ((hfetched.of_grows hgrown).insert hl.2.2)
      refine Ends.bind (hmore.mono ?_ ?_)
      · rintro layers z ⟨hz, hlayers⟩
        exact ends_pure ⟨htrans x y z hy hz, .cons (hl.of_grows (hgrows y z hz)) hlayers⟩
      · rintro e z ⟨hz, p, hp, hnone, he⟩
        exact ⟨htrans x y z hy hz, p, List.mem_cons_of_mem _ hp, hnone, he⟩
    · rintro e y ⟨hy, hnone, he⟩
      exact ⟨hy, (key, id), List.mem_cons_self, hnone, he⟩

end

/-- A snapshot that has the layer of each of its pointers, and no other. -/
structure Complete (snap : Snapshot) (s : MemoryStore) : Prop where
  keys : snap.layers.keys = snap.pointers.keys
  layer : ∀ key id, snap.pointers.get? key = some id → ∃ e a, snap.manifest.get? id = some e ∧
    s.artifacts.get? e.artifactRef = some a ∧ snap.layers.get? key = some ⟨e, a⟩

section

variable {pairs : List (LayerKey × String)} {layers : List (LayerKey × Layer)}

theorem keys_of_layers (h : List.Forall₂ (LayerOf m s) pairs layers) :
    layers.map Prod.fst = pairs.map Prod.fst := by
  induction h with
  | nil => rfl
  | cons hlayer _ ih => simp [hlayer.1, ih]

theorem exists_layer {pointer : LayerKey × String} (h : List.Forall₂ (LayerOf m s) pairs layers)
    (hpointer : pointer ∈ pairs) : ∃ layer ∈ layers, LayerOf m s pointer layer := by
  induction h with
  | nil => cases hpointer
  | cons hlayer _ ih =>
    rcases List.mem_cons.1 hpointer with rfl | hpointer
    · exact ⟨_, List.mem_cons_self, hlayer⟩
    · obtain ⟨layer, hmem, hlayer⟩ := ih hpointer
      exact ⟨layer, List.mem_cons_of_mem _ hmem, hlayer⟩

theorem complete_of_layers {generation : Nat} {p : Pointers}
    (h : List.Forall₂ (LayerOf m s) p.entries layers) :
    Complete ⟨generation, m, p, OrderedMap.ofList layers⟩ s := by
  have hascending : layers.Pairwise fun a b => compare a.1 b.1 = .lt := by
    have hpointers := p.ascending
    rw [← List.pairwise_map (f := Prod.fst) (R := fun a b => compare a b = .lt)] at hpointers ⊢
    rw [keys_of_layers h]
    exact hpointers
  have hentries : (OrderedMap.ofList layers).entries = layers :=
    OrderedMap.ofList_entries hascending
  constructor
  · show (OrderedMap.ofList layers).entries.map Prod.fst = p.entries.map Prod.fst
    rw [hentries]
    exact keys_of_layers h
  · intro key id hid
    obtain ⟨⟨key', l⟩, hmem, hkey, hentry, hartifact⟩ :=
      exists_layer h (OrderedMap.get?_eq_some.1 hid)
    obtain rfl : key' = key := hkey
    refine ⟨l.entry, l.artifact, hentry, hartifact, ?_⟩
    rw [OrderedMap.get?_eq_some, hentries]
    exact hmem

end

/-- What loading does once it has read the manifest and the pointers. -/
def loadFrom (generation : Nat) (m : Manifest) (p : Pointers) : Loading Snapshot := do
  let layers ← loadLayers m ∅ p.entries
  return ⟨generation, m, p, OrderedMap.ofList layers⟩

theorem load_eq (generation : Nat) : load generation = (do
    let m : Manifest ← StoreCall.perform .store .loadManifest
    let p : Pointers ← StoreCall.perform .store .loadPointers
    loadFrom generation m p) := rfl

theorem ends_loadFrom {generation : Nat} {p : Pointers}
    (hgrows : ∀ x y, R x y → (view x).Grows (view y)) (hrefl : ∀ x, R x x)
    (htrans : ∀ x y z, R x y → R y z → R x z) (hm : (view x).Covers m) :
    Ends (reading view R)
      (fun snap y => R x y ∧ snap.generation = generation ∧ snap.manifest = m ∧
        snap.pointers = p ∧ snap.Complete (view y))
      (fun e y => R x y ∧ ∃ key id, p.get? key = some id ∧ m.get? id = none ∧
        e = .danglingPointer key id)
      (loadFrom generation m p) x := by
  have hfetched : Agrees ∅ (view x) := fun _ _ h => nomatch h
  refine Ends.bind ((ends_loadLayers hgrows hrefl htrans hm hfetched).mono ?_ ?_)
  · rintro layers y ⟨hy, hlayers⟩
    exact ends_pure ⟨hy, rfl, rfl, rfl, complete_of_layers hlayers⟩
  · rintro e y ⟨hy, ⟨key, id⟩, hmem, hnone, he⟩
    exact ⟨hy, key, id, OrderedMap.get?_eq_some.2 hmem, hnone, he⟩

end Snapshot

end PageLayers
