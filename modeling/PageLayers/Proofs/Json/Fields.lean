import PageLayers.Json.Decode
import PageLayers.Proofs.Json.WellFormed
import PageLayers.Proofs.Lists
import PageLayers.Proofs.Ordered.Map
import PageLayers.Proofs.Ordered.Set

/-! Reading what was written: the fields of a record, lists, maps and sets. -/

namespace PageLayers

namespace Json

variable {α β : Type} {fs gs : List (String × Option Json)} {names : List String} {name : String}
  {j : Json} {decode : Json → Option α} {encode : β → Json} {f : β → α}

/-- The fields that are present. -/
def fieldsOf (fs : List (String × Option Json)) : Fields := fs.filterMap fun f => f.2.map (f.1, ·)

theorem fieldsOf_cons {k : String} {x : Option Json} :
    fieldsOf ((k, x) :: fs) = (x.map (k, ·)).toList ++ fieldsOf fs := by
  cases x <;> simp [fieldsOf]

theorem names_fieldsOf : ((fieldsOf fs).map Prod.fst).Sublist (fs.map Prod.fst) := by
  induction fs with
  | nil => exact .slnil
  | cons f rest ih =>
    obtain ⟨k, x⟩ := f
    cases x with
    | none => exact ih.cons k
    | some j => exact ih.cons_cons k

@[simp] theorem lookup_fieldsOf_nil : (fieldsOf []).lookup name = none := rfl

@[simp] theorem lookup_fieldsOf_cons_self {x : Option Json} :
    (fieldsOf ((name, x) :: fs)).lookup name = x.or ((fieldsOf fs).lookup name) := by
  cases x <;> simp [fieldsOf_cons]

@[simp] theorem lookup_fieldsOf_cons_of_ne {k : String} {x : Option Json} (h : name ≠ k) :
    (fieldsOf ((k, x) :: fs)).lookup name = (fieldsOf fs).lookup name := by
  have hne : (name == k) = false := by simpa using h
  cases x <;> simp [fieldsOf_cons, List.lookup_cons, hne]

theorem lookup_fieldsOf_eq_none (h : name ∉ fs.map Prod.fst) :
    (fieldsOf fs).lookup name = none := by
  rw [List.lookup_eq_none_iff]
  intro f hf
  have hmem : f.1 ∈ (fieldsOf fs).map Prod.fst := List.mem_map_of_mem hf
  have hne : name ≠ f.1 := by
    rintro rfl
    exact h (names_fieldsOf.mem hmem)
  simpa using hne

theorem namedOnce_of_nodup {fields : Fields} (hnames : (fields.map Prod.fst).Nodup) :
    namedOnce names fields = true := by
  simp only [namedOnce, List.all_eq_true, decide_eq_true_eq]
  intro n _
  have hcount := List.nodup_iff_count_le_one.1 hnames n
  rw [List.count, List.countP_map, List.countP_eq_length_filter] at hcount
  simpa [Function.comp_def, beq_eq_decide] using hcount

@[simp] theorem objectFields?_present (hnames : (fs.map Prod.fst).Nodup) :
    objectFields? names (present fs) = some (fieldsOf fs) :=
  if_pos (namedOnce_of_nodup (hnames.sublist names_fieldsOf))

@[simp] theorem recordFields?_present (hnames : (fs.map Prod.fst).Nodup) :
    recordFields? names (present fs) = some (fieldsOf fs) :=
  objectFields?_present hnames

@[simp] theorem field?_obj {fields : Fields} : (obj fields).field? name = fields.lookup name := rfl

@[simp] theorem field?_present : (present fs).field? name = (fieldsOf fs).lookup name := rfl

/-- An object in which no name stands twice. -/
def Record (j : Json) : Prop := ∃ fields : Fields, j = obj fields ∧ (fields.map Prod.fst).Nodup

theorem record_present (hnames : (fs.map Prod.fst).Nodup) : Record (present fs) :=
  ⟨fieldsOf fs, rfl, hnames.sublist names_fieldsOf⟩

theorem Record.ne_null (h : Record j) : j ≠ null := by
  obtain ⟨fields, rfl, -⟩ := h
  exact Json.noConfusion

theorem Record.objectFields? (h : Record j) (names : List String) :
    ∃ fields, objectFields? names j = some fields ∧ ∀ name, fields.lookup name = j.field? name := by
  obtain ⟨fields, rfl, hnames⟩ := h
  exact ⟨fields, if_pos (namedOnce_of_nodup hnames), fun _ => rfl⟩

theorem Record.recordFields? (h : Record j) (names : List String) :
    ∃ fields, recordFields? names j = some fields ∧ ∀ name, fields.lookup name = j.field? name := by
  obtain ⟨fields, rfl, hnames⟩ := h
  exact ⟨fields, if_pos (namedOnce_of_nodup hnames), fun _ => rfl⟩

/-- What a record is tagged with is read beside the record itself. -/
theorem Record.tagged? (h : Record j) {tag : String} (htag : j.field? tag = some (str name)) :
    tagged? tag j = some (name, j) := by
  obtain ⟨fields, hfields, hlookup⟩ := h.objectFields? [tag]
  obtain ⟨fields', rfl, -⟩ := h
  simp [Json.tagged?, hfields, Fields.required?, hlookup, htag, string?, asString?]

/-- Records of the same names hold the same. -/
theorem present_inj (hnames : (fs.map Prod.fst).Nodup) (hsame : fs.map Prod.fst = gs.map Prod.fst)
    (h : present fs = present gs) : fs = gs := by
  have hfields : fieldsOf fs = fieldsOf gs := obj.inj h
  clear h
  induction fs generalizing gs with
  | nil => exact (List.map_eq_nil_iff.1 hsame.symm).symm
  | cons f rest ih =>
    cases gs with
    | nil => cases hsame
    | cons g rest' =>
      obtain ⟨k, x⟩ := f
      obtain ⟨l, y⟩ := g
      simp only [List.map_cons, List.cons.injEq] at hsame
      obtain ⟨rfl, hsame⟩ := hsame
      rw [List.map_cons, List.nodup_cons] at hnames
      have hvalue := congrArg (List.lookup k) hfields
      rw [lookup_fieldsOf_cons_self, lookup_fieldsOf_cons_self,
        lookup_fieldsOf_eq_none hnames.1, lookup_fieldsOf_eq_none (hsame ▸ hnames.1),
        Option.or_none, Option.or_none] at hvalue
      subst hvalue
      rw [fieldsOf_cons, fieldsOf_cons] at hfields
      rw [ih hnames.2 hsame (List.append_cancel_left hfields)]

/-! ### The values of fields -/

/-- What is read of a field that may be absent or null. -/
def readOptional (decode : Json → Option α) : Option Json → Option (Option α)
  | none | some null => some none
  | some j => (decode j).map some

/-- What is read of a field that may be absent. -/
def readDefaulted (fallback : α) (decode : Json → Option α) : Option Json → Option α
  | some j => decode j
  | none => some fallback

@[simp] theorem required?_eq {fields : Fields} :
    fields.required? name decode = (fields.lookup name).bind decode := rfl

@[simp] theorem optional?_eq {fields : Fields} :
    fields.optional? name decode = readOptional decode (fields.lookup name) := rfl

@[simp] theorem defaulted?_eq {fields : Fields} {fallback : α} :
    fields.defaulted? name fallback decode = readDefaulted fallback decode (fields.lookup name) :=
  rfl

@[simp] theorem readDefaulted_some {fallback : α} :
    readDefaulted fallback decode (some j) = decode j := rfl

@[simp] theorem string?_str {s : String} : string? (str s) = some s := rfl

theorem readOptional_map {x : Option β} (hdecode : ∀ b ∈ x, decode (encode b) = some (f b))
    (hnull : ∀ b, encode b ≠ null) : readOptional decode (x.map encode) = some (x.map f) := by
  cases x with
  | none => rfl
  | some b =>
    have hread : readOptional decode (some (encode b)) = (decode (encode b)).map some := by
      cases hb : encode b with
      | null => exact absurd hb (hnull b)
      | _ => rfl
    rw [Option.map_some, hread, hdecode b rfl]
    rfl

theorem readOptional_map_self {encode : α → Json} {x : Option α}
    (hdecode : ∀ a ∈ x, decode (encode a) = some a) (hnull : ∀ a, encode a ≠ null) :
    readOptional decode (x.map encode) = some x := by
  rw [readOptional_map (f := fun a => a) hdecode hnull, Option.map_id']

/-! ### Lists, maps and sets -/

theorem list?_arr {l : List β} (hdecode : ∀ b ∈ l, decode (encode b) = some (f b)) :
    list? decode (arr (l.map encode)) = some (l.map f) :=
  mapM_map hdecode

theorem list?_arr_self {encode : α → Json} {l : List α}
    (hdecode : ∀ a ∈ l, decode (encode a) = some a) :
    list? decode (arr (l.map encode)) = some l := by
  rw [list?_arr (f := id) hdecode, List.map_id]

theorem map?_ofMap {encode : α → Json} {m : OrderedMap String α}
    (hdecode : ∀ a ∈ m.values, decode (encode a) = some a) :
    map? decode (ofMap encode m) = some m := by
  have hentries : (m.entries.map fun e => (e.1, encode e.2)).mapM
      (fun f => (decode f.2).map (f.1, ·)) = some (m.entries.map id) := by
    refine mapM_map fun e he => ?_
    rw [hdecode e.2 (List.mem_map_of_mem he)]
    rfl
  rw [List.map_id] at hentries
  show ((m.entries.map fun e => (e.1, encode e.2)).mapM fun f => (decode f.2).map (f.1, ·)).map
    OrderedMap.ofList = some m
  rw [hentries, Option.map_some, OrderedMap.ofList_self]

@[simp] theorem set?_ofSet {s : OrderedSet String} : set? (ofSet s) = some s := by
  have hmembers : list? string? (arr (s.members.map str)) = some s.members :=
    list?_arr_self fun _ _ => rfl
  rw [set?, ofSet, strings, hmembers, Option.map_some, OrderedSet.ofList_self]

theorem ofMap_inj {encode : α → Json} (hencode : Function.Injective encode)
    {m n : OrderedMap String α} (h : ofMap encode m = ofMap encode n) : m = n := by
  refine OrderedMap.ext_entries (List.map_injective_iff.2 ?_ (obj.inj h))
  intro e f hef
  obtain ⟨hkey, hvalue⟩ := Prod.mk.inj hef
  exact Prod.ext hkey (hencode hvalue)

theorem ofSet_injective : Function.Injective ofSet := by
  intro s t h
  refine OrderedSet.ext_members (List.map_injective_iff.2 ?_ (arr.inj h))
  intro a b hab
  exact str.inj hab

end Json

end PageLayers
