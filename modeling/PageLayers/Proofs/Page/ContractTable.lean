import Mathlib.Data.Set.Finite.Lemmas
import PageLayers.Proofs.Authoring.Bindings
import PageLayers.Proofs.Lists
import PageLayers.Proofs.Ordered.Map
import PageLayers.Proofs.Rules.Properties

/-! What the contract table of a page says about a declared field. The rules take the name of a
field apart at its first dot; the table holds the id of each source and its fields put together
again, and an id may have dots of its own. -/

namespace PageLayers

/-- A name spells out a field of a source, with its path. -/
def DataSource.Spells (s : DataSource) (name path : String) : Prop :=
  ∃ field, s.contract.get? field = some path ∧ s.id ++ "." ++ field = name

/-- The entries of one source in the contract table. -/
def DataSource.tableEntries (s : DataSource) : List (String × FieldRef) :=
  s.contract.entries.map fun e => (s.id ++ "." ++ e.1, ⟨s.id, e.2⟩)

variable {s d : DataSource} {p : Page} {q : Property} {name path path' : String} {ref : FieldRef}
  {l : List DataSource}

theorem append_dot_inj {id a b : String} : id ++ "." ++ a = id ++ "." ++ b ↔ a = b := by
  simp [String.ext_iff]

namespace DataSource

theorem Spells.path_eq (h : s.Spells name path) (h' : s.Spells name path') : path = path' := by
  obtain ⟨field, hpath, rfl⟩ := h
  obtain ⟨field', hpath', hname⟩ := h'
  obtain rfl := append_dot_inj.1 hname
  exact Option.some.inj (hpath.symm.trans hpath')

theorem mem_tableEntries :
    (name, ref) ∈ s.tableEntries ↔ ∃ path, s.Spells name path ∧ ref = ⟨s.id, path⟩ := by
  unfold tableEntries
  rw [List.mem_map]
  constructor
  · rintro ⟨⟨field, path⟩, he, heq⟩
    obtain ⟨rfl, rfl⟩ := Prod.mk.inj heq
    exact ⟨path, ⟨field, OrderedMap.get?_eq_some.2 he, rfl⟩, rfl⟩
  · rintro ⟨path, ⟨field, hpath, rfl⟩, rfl⟩
    exact ⟨(field, path), OrderedMap.get?_eq_some.1 hpath, rfl⟩

theorem get?_tableEntries : (OrderedMap.ofList s.tableEntries).get? name = some ref ↔
    ∃ path, s.Spells name path ∧ ref = ⟨s.id, path⟩ := by
  constructor
  · exact fun h => mem_tableEntries.1 (OrderedMap.mem_of_get?_ofList h)
  · rintro ⟨path, hspells, rfl⟩
    have hmem := mem_tableEntries.2 ⟨path, hspells, rfl⟩
    obtain ⟨ref, href⟩ := Option.ne_none_iff_exists'.1 (OrderedMap.get?_ofList_ne_none hmem)
    obtain ⟨path', hspells', rfl⟩ := mem_tableEntries.1 (OrderedMap.mem_of_get?_ofList href)
    rw [href, hspells.path_eq hspells']

theorem Spells.begins (h : s.Spells name path) : s.id.toList <+: name.toList := by
  obtain ⟨field, -, rfl⟩ := h
  exact ⟨'.' :: field.toList, by simp⟩

/-- The ids of the sources that spell a name are all beginnings of it, so the longer of two comes
later in the order of ids. -/
theorem Spells.id_lt (h : s.Spells name path) (h' : d.Spells name path')
    (hlength : s.id.length < d.id.length) : compare s.id d.id = .lt := by
  have hle : s.id.toList.length ≤ d.id.toList.length := by
    rw [String.length_toList, String.length_toList]
    omega
  obtain ⟨more, hmore⟩ := List.prefix_of_prefix_length_le h.begins h'.begins hle
  have hne : more ≠ [] := by
    rintro rfl
    rw [List.append_nil] at hmore
    rw [String.toList_inj.1 hmore] at hlength
    omega
  refine compareOfLessAndEq_eq_lt.2 (String.lt_iff.2 ?_)
  rw [← hmore]
  exact lt_append_of_ne_nil hne

theorem Spells.id_eq (h : s.Spells name path) (h' : d.Spells name path')
    (hlength : s.id.length = d.id.length) : s.id = d.id := by
  have hsame : s.id.toList.length = d.id.toList.length := by
    rw [String.length_toList, String.length_toList, hlength]
  have hbegins := List.prefix_of_prefix_length_le h.begins h'.begins (Nat.le_of_eq hsame)
  exact String.toList_inj.1 (hbegins.eq_of_length hsame)

end DataSource

open DataSource

/-- Of the sources that spell a name, the one with the longest id gives it its meaning. -/
theorem get?_of_longest (hl : l.Pairwise fun s d => compare s.id d.id = .lt) (hs : s ∈ l)
    (hspells : s.Spells name path)
    (hlongest : ∀ d ∈ l, ∀ path', d.Spells name path' → d.id.length ≤ s.id.length) :
    (OrderedMap.ofList (l.flatMap tableEntries)).get? name = some ⟨s.id, path⟩ := by
  obtain ⟨before, after, rfl⟩ := List.append_of_mem hs
  -- later entries overwrite earlier ones, and no source after this one has an entry of the name
  have hafter : (OrderedMap.ofList (after.flatMap tableEntries)).get? name = none := by
    by_contra hsome
    obtain ⟨ref, href⟩ := Option.ne_none_iff_exists'.1 hsome
    obtain ⟨d, hd, hentry⟩ := List.mem_flatMap.1 (OrderedMap.mem_of_get?_ofList href)
    obtain ⟨path', hspells', -⟩ := mem_tableEntries.1 hentry
    have hlt : compare s.id d.id = .lt :=
      (List.pairwise_cons.1 (List.pairwise_append.1 hl).2.1).1 d hd
    have hle := hlongest d (by simp [hd]) path' hspells'
    rcases Nat.lt_or_eq_of_le hle with hshorter | hsame
    · rw [Std.OrientedCmp.gt_of_lt (hspells'.id_lt hspells hshorter)] at hlt
      cases hlt
    · rw [hspells'.id_eq hspells hsame, Std.ReflOrd.compare_self] at hlt
      cases hlt
  have hsource := get?_tableEntries.2 ⟨path, hspells, rfl⟩
  rw [List.flatMap_append, List.flatMap_cons, OrderedMap.get?_ofList_append,
    OrderedMap.get?_ofList_append, hafter, hsource]
  rfl

namespace Page

/-- The ids of an accepted blueprint's sources ascend, as documents are read into that order. -/
theorem ascending_dataSources {root : Node} (hdocument : ofDocument root = .ok p)
    (hunique : p.UniqueIds) : p.dataSources.Pairwise fun s d => compare s.id d.id = .lt := by
  have hnodup : p.dataSources.Pairwise fun s d => s.id ≠ d.id :=
    List.pairwise_map.1 (hunique .dataSource)
  refine ((ordered_dataSources hdocument).and hnodup).imp ?_
  rintro s d ⟨hle, hne⟩
  cases hcompare : compare s.id d.id with
  | lt => rfl
  | eq => exact absurd (Std.LawfulEqOrd.eq_of_compare hcompare) hne
  | gt =>
    rw [hcompare] at hle
    cases hle

theorem mem_properties : q ∈ p.properties ↔ ∃ l ∈ p.propertyLists, q ∈ l.2 := by
  simp [propertyLists, properties, or_and_right, exists_or]

/-- The rules hold of a name only if the source before its first dot declares the field after it. -/
theorem ReferencesHold.field (h : p.ReferencesHold) (hq : q ∈ p.properties)
    (hname : q.value = .binding (.contract name)) :
    ∃ s ∈ p.dataSources, ∃ path, s.id = Text.before '.' name ∧
      s.contract.get? ((Text.after? '.' name).getD "") = some path := by
  obtain ⟨l, hl, hql⟩ := mem_properties.1 hq
  have hholds := h l hl q hql
  simp only [Rules.propertyHolds, hname] at hholds
  obtain ⟨s, hs, hfield⟩ := Rules.contractHolds_eq_nil.1 hholds
  obtain ⟨path, hpath⟩ := Option.isSome_iff_exists.1 hfield
  exact ⟨s, List.mem_of_find?_eq_some hs, path, by simpa using List.find?_some hs, hpath⟩

end Page

/-- The parts of a name around its first dot, put together again. -/
theorem before_dot_after {field : String} (h : Text.after? '.' name = some field) :
    Text.before '.' name ++ "." ++ field = name := by
  unfold Text.after? at h
  split at h
  · cases h
  · rename_i c rest hrest
    obtain rfl := Option.some.inj h
    have hc : c = '.' := by
      have hstop := List.head?_dropWhile_not (· != '.') name.toList
      rw [hrest] at hstop
      simpa using hstop
    have hwhole := List.takeWhile_append_dropWhile (p := (· != '.')) (l := name.toList)
    rw [hrest, hc] at hwhole
    rw [← String.toList_inj, ← hwhole]
    simp [Text.before]

theorem not_mem_before_dot : '.' ∉ (Text.before '.' name).toList := by
  intro h
  have hmem : '.' ∈ name.toList.takeWhile (· != '.') := by simpa [Text.before] using h
  cases List.all_eq_true.1 List.all_takeWhile '.' hmem

/-- A field after an id without dots is found again. -/
theorem split_at_dot {id field : String} (h : '.' ∉ id.toList) :
    Text.before '.' (id ++ "." ++ field) = id ∧
      Text.after? '.' (id ++ "." ++ field) = some field := by
  have hid : ∀ c ∈ id.toList, (c != '.') = true := by
    intro c hc
    rw [bne_iff_ne]
    rintro rfl
    exact h hc
  have hname : (id ++ "." ++ field).toList = id.toList ++ '.' :: field.toList := by simp
  unfold Text.before Text.after?
  rw [hname, List.takeWhile_append_of_pos hid, List.dropWhile_append_of_pos hid]
  simp

/-- The source before the first dot has the shortest id of those that spell the name. -/
theorem DataSource.Spells.before_dot_le (h : d.Spells name path) :
    (Text.before '.' name).length ≤ d.id.length := by
  obtain ⟨field, -, rfl⟩ := h
  have hbegins := @takeWhile_isPrefix Char (· != '.') d.id.toList field.toList '.' rfl
  simpa [Text.before, ← String.length_toList] using hbegins.length_le

theorem exists_longest (h : ∃ s ∈ l, ∃ path, s.Spells name path) :
    ∃ s ∈ l, ∃ path, s.Spells name path ∧
      ∀ d ∈ l, ∀ path', d.Spells name path' → d.id.length ≤ s.id.length := by
  have hfinite : {s | s ∈ l ∧ ∃ path, s.Spells name path}.Finite :=
    l.finite_toSet.subset fun s hs => hs.1
  obtain ⟨s, ⟨hs, path, hspells⟩, hlongest⟩ :=
    Set.exists_max_image _ (fun s => s.id.length) hfinite h
  exact ⟨s, hs, path, hspells, fun d hd path' hspells' => hlongest d ⟨hd, path', hspells'⟩⟩

/-- In an accepted blueprint the source before the first dot of a name declares the field after it,
as the rules ask. The contract table has just this field under the name exactly when no other source
spells the name; otherwise it has the field of the one with the longest id. -/
theorem contract_read_as_checked_iff {root : Node} {ctx : RuleContext}
    (hdocument : Page.ofDocument root = .ok p) (hkind : p.kind = .blueprint)
    (hvalid : (p.validate ctx).valid = true) (hq : q ∈ p.properties)
    (hname : q.value = .binding (.contract name)) :
    ∃ s ∈ p.dataSources, ∃ field path, s.id = Text.before '.' name ∧
      Text.after? '.' name = some field ∧ s.contract.get? field = some path ∧
      (p.contractTable.target? (.contract name) = some ⟨s.id, path⟩ ↔
        ∀ d ∈ p.dataSources, ∀ path', d.Spells name path' → d = s) ∧
      ∃ d ∈ p.dataSources, ∃ path', d.Spells name path' ∧
        p.contractTable.target? (.contract name) = some ⟨d.id, path'⟩ ∧
        ∀ d' ∈ p.dataSources, ∀ path'', d'.Spells name path'' → d'.id.length ≤ d.id.length := by
  obtain ⟨-, -, hunique, hreferences, -⟩ := (Page.blueprint_valid_iff hkind).1 hvalid
  obtain ⟨s, hs, path, hid, hpath⟩ := hreferences.field hq hname
  obtain ⟨field, hfield⟩ := Page.namesField hdocument hq name hname
  rw [hfield] at hpath
  have hspells : s.Spells name path := ⟨field, hpath, hid ▸ before_dot_after hfield⟩
  have hascending := Page.ascending_dataSources hdocument hunique
  obtain ⟨d, hd, path', hspells', hlongest⟩ := exists_longest ⟨s, hs, path, hspells⟩
  have htarget : p.contractTable.target? (.contract name) = some ⟨d.id, path'⟩ :=
    get?_of_longest hascending hd hspells' hlongest
  refine ⟨s, hs, field, path, hid, hfield, hpath, ?_, d, hd, path', hspells', htarget, hlongest⟩
  have hinj : ∀ s ∈ p.dataSources, ∀ d ∈ p.dataSources, s.id = d.id → s = d :=
    List.inj_on_of_nodup_map (hunique .dataSource)
  rw [htarget]
  constructor
  · intro h e he path'' hspells''
    -- the source before the first dot has the shortest of these ids, and here also the longest
    have hsame : d.id = s.id := (FieldRef.mk.inj (Option.some.inj h)).1
    have hle := hlongest e he path'' hspells''
    rw [hsame] at hle
    have hge := hspells''.before_dot_le
    rw [← hid] at hge
    exact hinj e he s hs (hspells''.id_eq hspells (Nat.le_antisymm hle hge))
  · intro hall
    obtain rfl := hall d hd path' hspells'
    rw [hspells.path_eq hspells']

/-- A document whose component shows the declared field of that name. -/
def titledDocument (name : String) (sources : List Node) : Node :=
  .mk "blueprint"
    (.ofList [("id", .str "home"), ("module", .str "shop"), ("route", .str "/"),
      ("schemaVersion", .str "1.0.0"), ("contentVersion", .str "1.0.0")])
    (.mk "region" (.ofList [("id", .str "main")])
      [.mk "component"
        (.ofList [("id", .str "hero"), ("namespace", .str "ui"), ("type", .str "Banner")])
        [.mk "prop" (.ofList [("name", .str "title"), ("contract", .str name)]) []]] :: sources)

/-- A source that holds one text, under the field it declares. -/
def textSource (id field path text : String) : Node :=
  .mk "dataSource"
    (.ofList [("id", .str id), ("kind", .str "static"), ("data", .obj [(path, .str text)]),
      ("contract", .obj [(field, .str path)])]) []

def plainDocument : Node := titledDocument "copy.title" [textSource "copy" "title" "title" "Hello"]

/-- Of the two sources one keeps its texts by language, the other is named for the language. -/
def translatedDocument : Node :=
  titledDocument "copy.en.title"
    [textSource "copy" "en.title" "title" "Hello", textSource "copy.en" "title" "heading" "Welcome"]

theorem titled_read_as_checked : ∃ p, Page.ofDocument plainDocument = .ok p ∧
    ∃ s ∈ p.dataSources, ∃ field path, s.id = Text.before '.' "copy.title" ∧
      Text.after? '.' "copy.title" = some field ∧ s.contract.get? field = some path ∧
      (p.contractTable.target? (.contract "copy.title") = some ⟨s.id, path⟩ ↔
        ∀ d ∈ p.dataSources, ∀ path', d.Spells "copy.title" path' → d = s) ∧
      ∃ d ∈ p.dataSources, ∃ path', d.Spells "copy.title" path' ∧
        p.contractTable.target? (.contract "copy.title") = some ⟨d.id, path'⟩ ∧
        ∀ d' ∈ p.dataSources, ∀ path'', d'.Spells "copy.title" path'' →
          d'.id.length ≤ d.id.length := by
  refine ⟨_, rfl, ?_⟩
  exact @contract_read_as_checked_iff _ ⟨"title", .binding (.contract "copy.title")⟩ _ plainDocument
    ⟨none, [], none⟩ rfl rfl (by decide) (by decide) rfl

/-- The rules check the field of the source `copy`, and its reader is given that of `copy.en`. -/
theorem translated_reads_elsewhere : ∃ p, Page.ofDocument translatedDocument = .ok p ∧
    p.kind = .blueprint ∧ (p.validate ⟨none, [], none⟩).valid = true ∧
    ⟨"title", .binding (.contract "copy.en.title")⟩ ∈ p.properties ∧
    Text.before '.' "copy.en.title" = "copy" ∧
    Text.after? '.' "copy.en.title" = some "en.title" ∧
    (p.dataSource? "copy").bind (·.contract.get? "en.title") = some "title" ∧
    p.contractTable.target? (.contract "copy.en.title") = some ⟨"copy.en", "heading"⟩ ∧
    p.contractTable.target? (.contract "copy.en.title") ≠ some ⟨"copy", "title"⟩ := by
  refine ⟨_, rfl, rfl, ?_, ?_, ?_, ?_, ?_, ?_, ?_⟩ <;> decide

end PageLayers
