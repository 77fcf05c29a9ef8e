import PageLayers.Proofs.Json.Fields
import PageLayers.Proofs.Json.Spelling
import PageLayers.Store.Directory

/-! The files of the catalogue: the manifest and the pointers come back from the lines they are
written as, when each entry and each key does. -/

namespace PageLayers

open Json

@[simp] theorem Timestamp.ofText?_text (t : Timestamp) : ofText? t.text = some t :=
  dif_pos t.wellFormed

namespace DirectoryStore

variable {α : Type} {ofJson? : Json → Option α} {j : Json} {a : α}

/-- What is written is decoded from its lines as it is from the value. -/
theorem decode_lines (hnumbers : ∀ n ∈ j.numbers, n.ReadsBack)
    (hnesting : j.nesting ≤ nestingLimit) :
    decode ofJson? j.lines = .ok a ↔ ofJson? j = some a := by
  rw [decode, written?_eq, readWithin?_lines hnumbers hnesting, Option.bind_some]
  cases ofJson? j <;> simp

end DirectoryStore

namespace LayerKey

/-- The key comes back from its text. -/
def Survives (k : LayerKey) : Prop := parse k.text = .ok k

theorem Survives.eq_of_text {k l : LayerKey} (hk : k.Survives) (hl : l.Survives)
    (h : k.text = l.text) : k = l := by
  unfold Survives at hk hl
  rw [h, hl] at hk
  exact (Except.ok.inj hk).symm

theorem survives_iff {k : LayerKey} : k.Survives ↔ ofJson? k.toJson = some k := by
  rw [ofJson?, toJson, string?_str, Option.bind_some, Survives]
  cases parse k.text <;> simp [Except.toOption]

end LayerKey

namespace LayerKey

theorem decode_lines {k : LayerKey} :
    DirectoryStore.decode ofJson? k.toJson.lines = .ok k ↔ k.Survives := by
  rw [DirectoryStore.decode_lines (by simp [toJson]) (Nat.zero_le _), survives_iff]

end LayerKey

namespace ManifestEntry

variable {e : ManifestEntry}

/-- All of an entry comes back if its key does. -/
theorem ofJson?_toJson : ofJson? e.toJson = some e ↔ e.layerKey.Survives := by
  have hpresent : e.toJson = present [("artifactRef", some (.str e.artifactRef)),
    ("checksum", some (.str e.checksum)), ("compiledAt", some (.str e.compiledAt.text)),
    ("contentVersion", some (.str e.contentVersion)), ("id", some (.str e.id)),
    ("layerKey", some e.layerKey.toJson), ("publishedAt", some (.str e.publishedAt.text)),
    ("schemaVersion", some (.str e.schemaVersion))] := rfl
  rw [hpresent, ofJson?, recordFields?_present (by simp), Option.bind_eq_bind, Option.bind_some,
    LayerKey.survives_iff]
  cases hkey : LayerKey.ofJson? e.layerKey.toJson with
  | none => simp [hkey]
  | some k =>
    obtain ⟨id, layerKey, artifactRef, checksum, schemaVersion, contentVersion, compiledAt,
      publishedAt⟩ := e
    simp_all

theorem numbers_toJson : e.toJson.numbers = [] := by
  simp [toJson, numbers_obj, LayerKey.toJson]

theorem nesting_toJson : e.toJson.nesting = 1 := rfl

theorem decode_lines :
    DirectoryStore.decode ofJson? e.toJson.lines = .ok e ↔ e.layerKey.Survives := by
  rw [DirectoryStore.decode_lines (by simp [numbers_toJson])
    (by simp [nesting_toJson, nestingLimit]), ofJson?_toJson]

end ManifestEntry

namespace Manifest

variable {m : Manifest}

theorem ofJson?_toJson (h : ∀ e ∈ m.entries, e.layerKey.Survives) : ofJson? m.toJson = some m := by
  have hentries : list? ManifestEntry.ofJson? (.arr (m.entries.map ManifestEntry.toJson)) =
      some m.entries := list?_arr_self fun e he => ManifestEntry.ofJson?_toJson.2 (h e he)
  have hpresent : m.toJson =
    present [("entries", some (.arr (m.entries.map ManifestEntry.toJson)))] := rfl
  simp [ofJson?, hpresent, hentries]

theorem decode_lines (h : ∀ e ∈ m.entries, e.layerKey.Survives) :
    DirectoryStore.decode ofJson? m.toJson.lines = .ok m := by
  have hnumbers : m.toJson.numbers = [] := by
    simp [toJson, numbers_obj, numbers_arr, ManifestEntry.numbers_toJson]
  have hnesting : m.toJson.nesting ≤ 3 := by
    have hentries : nestingOf (m.entries.map ManifestEntry.toJson) ≤ 1 := by
      simp [nestingOf_le, ManifestEntry.nesting_toJson]
    have hwhole : m.toJson.nesting = nestingOf (m.entries.map ManifestEntry.toJson) + 1 + 1 :=
      congrArg (· + 1) (Nat.max_zero _)
    omega
  exact (DirectoryStore.decode_lines (by simp [hnumbers]) (hnesting.trans (by decide))).2
    (ofJson?_toJson h)

end Manifest

namespace Pointers

variable {p : Pointers}

/-- The fields that the pointers are written as: the ids under the texts of their keys. -/
def fields (p : Pointers) : OrderedMap String Json :=
  OrderedMap.ofList (p.entries.map fun e => (e.1.text, .str e.2))

theorem mem_fields (h : ∀ k ∈ p.keys, k.Survives) {f : String × Json} :
    f ∈ p.fields.entries ↔ ∃ e ∈ p.entries, f = (e.1.text, .str e.2) := by
  obtain ⟨text, j⟩ := f
  have hsource {j} (hj : p.fields.get? text = some j) :
      ∃ e ∈ p.entries, (text, j) = (e.1.text, .str e.2) := by
    obtain ⟨e, he, hej⟩ := List.mem_map.1 (OrderedMap.mem_of_get?_ofList hj)
    exact ⟨e, he, hej.symm⟩
  rw [← OrderedMap.get?_eq_some]
  refine ⟨hsource, ?_⟩
  rintro ⟨⟨k, id⟩, he, hf⟩
  obtain ⟨rfl, rfl⟩ := Prod.mk.inj hf
  have hmem : (k.text, Json.str id) ∈ p.entries.map fun e => (e.1.text, .str e.2) :=
    List.mem_map.2 ⟨(k, id), he, rfl⟩
  obtain ⟨j, hj⟩ := Option.ne_none_iff_exists'.1 (OrderedMap.get?_ofList_ne_none hmem)
  obtain ⟨⟨k', id'⟩, he', hj'⟩ := hsource hj
  obtain ⟨htext, rfl⟩ := Prod.mk.inj hj'
  have hkeys {k id} (he : (k, id) ∈ p.entries) : k.Survives :=
    h k (List.mem_map.2 ⟨(k, id), he, rfl⟩)
  obtain rfl := (hkeys he).eq_of_text (hkeys he') htext
  have hid := OrderedMap.get?_eq_some.2 he
  rw [OrderedMap.get?_eq_some.2 he'] at hid
  rw [← Option.some.inj hid]
  exact hj

theorem ofJson?_toJson (h : ∀ k ∈ p.keys, k.Survives) : ofJson? p.toJson = some p := by
  let read (f : String × Json) : Option (LayerKey × String) := do
    return (← (LayerKey.parse f.1).toOption, ← string? f.2)
  have hread {e : LayerKey × String} (he : e ∈ p.entries) : read (e.1.text, .str e.2) = some e := by
    have hkey : LayerKey.parse e.1.text = .ok e.1 := h e.1 (List.mem_map_of_mem he)
    simp [read, hkey, Except.toOption]
  have hall : ∀ f ∈ p.fields.entries, ∃ e, read f = some e := by
    intro f hf
    obtain ⟨e, he, rfl⟩ := (mem_fields h).1 hf
    exact ⟨e, hread he⟩
  obtain ⟨l, hl, hmem⟩ := mapM_of_forall hall
  have hentries : ∀ e, e ∈ l ↔ e ∈ p.entries := by
    intro e
    rw [hmem]
    constructor
    · rintro ⟨f, hf, he⟩
      obtain ⟨e', he', rfl⟩ := (mem_fields h).1 hf
      rw [hread he'] at he
      exact Option.some.inj he ▸ he'
    · intro he
      exact ⟨_, (mem_fields h).2 ⟨e, he, rfl⟩, hread he⟩
  have hpairs : pairs? (.obj p.fields.entries) = some l := hl
  have hpresent : p.toJson = present [("pointers", some (.obj p.fields.entries))] := rfl
  simp [ofJson?, hpresent, hpairs, OrderedMap.ofList_eq_of_mem hentries]

theorem decode_lines (h : ∀ k ∈ p.keys, k.Survives) :
    DirectoryStore.decode ofJson? p.toJson.lines = .ok p := by
  have hfield : ∀ f ∈ p.fields.entries, ∃ id, f.2 = .str id := by
    intro f hf
    obtain ⟨e, -, rfl⟩ := (mem_fields h).1 hf
    exact ⟨e.2, rfl⟩
  have hpresent : p.toJson = .obj [("pointers", .obj p.fields.entries)] := rfl
  have hnumbers : p.toJson.numbers = [] := by
    rw [hpresent]
    simp only [numbers_obj, List.flatMap_cons, List.flatMap_nil, List.append_nil,
      List.flatMap_eq_nil_iff]
    intro f hf
    obtain ⟨id, hid⟩ := hfield f hf
    rw [hid, numbers_str]
  have hnesting : p.toJson.nesting ≤ 2 := by
    have hentries : nestingIn p.fields.entries ≤ 0 := by
      refine nestingIn_le.2 fun f hf => ?_
      obtain ⟨id, hid⟩ := hfield f hf
      rw [hid]
      exact Nat.zero_le _
    rw [hpresent]
    simpa [nesting, nestingIn] using hentries
  exact (DirectoryStore.decode_lines (by simp [hnumbers]) (hnesting.trans (by decide))).2
    (ofJson?_toJson h)

end Pointers

end PageLayers
