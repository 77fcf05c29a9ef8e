import PageLayers.Page.Checksum
import PageLayers.Proofs.Json.Spelling
import PageLayers.Proofs.Page.Records
import PageLayers.Proofs.Page.Values

/-! The JSON form of a page reads as that page, but for null bodies of requests. -/

namespace PageLayers

open Json

/-! ### The parts of records -/

@[simp] theorem readOptional_text {s : Option String} :
    readOptional string? (optionalJson? s) = some s := by
  cases s <;> rfl

@[simp] theorem readDefaulted_textMap {m : OrderedMap String String} :
    readDefaulted ∅ (map? string?) (textMap? m) = some m := by
  unfold textMap?
  split
  · rename_i hempty
    have hnil : m.entries = [] := List.isEmpty_iff.1 hempty
    exact congrArg some (OrderedMap.ext_entries hnil.symm)
  · exact map?_ofMap fun _ _ => rfl

theorem AccessRule.ofJson?_toJson (r : AccessRule) : ofJson? r.toJson = some r := by
  obtain ⟨allow, deny, requires⟩ := r
  have hlist (x : Option (OrderedSet String)) : readOptional set? (x.map ofSet) = some x :=
    readOptional_map_self (fun _ _ => set?_ofSet) fun _ => nofun
  have hrequires : readDefaulted ∅ set? (if requires.isEmpty then none else some (ofSet requires)) =
      some requires := by
    split
    · rename_i hempty
      have hnil : requires.members = [] := List.isEmpty_iff.1 hempty
      exact congrArg some (OrderedSet.ext_members hnil.symm)
    · exact set?_ofSet
  simp [ofJson?, toJson, hlist, hrequires]

@[simp] theorem readOptional_access {access : Option AccessRule} :
    readOptional AccessRule.ofJson? (access.map AccessRule.toJson) = some access :=
  readOptional_map_self (fun r _ => r.ofJson?_toJson) fun _ => nofun

/-- Time limits are read back where they fit in sixty-four bits. -/
theorem readOptional_timeout {timeoutMs : Option Nat}
    (h : ∀ j ∈ timeoutValues timeoutMs, j.WellFormed) :
    readOptional word? (timeoutMs.map .ofNat) = some timeoutMs := by
  cases timeoutMs with
  | none => rfl
  | some ms =>
    have hnumber : (Number.int ms).WellFormed :=
      (h (.ofNat ms) List.mem_cons_self).numbers _ List.mem_cons_self
    have hfits : ms < Text.wordLimit := by
      have hbound := hnumber.2
      unfold Text.wordLimit
      omega
    show ((word? (.ofNat ms)).map some : Option (Option Nat)) = some (some ms)
    simp [word?, Json.ofNat, asNat?, hfits]

theorem Scope.ofJson?_toJson (s : Scope) : ofJson? s.toJson = some s := by
  simp [ofJson?, toJson]

theorem PageKind.ofJson?_text (k : PageKind) : ofJson? (.str k.text) = some k := by
  cases k <;> rfl

theorem Binding.ofJson?_toJson (b : Binding) : ofJson? b.toJson = some b := by
  cases b with
  | contract name =>
    have hpresent : toJson (contract name) = present [("contract", some (.str name))] := rfl
    simp [ofJson?, hpresent]
  | path source steps =>
    have hpresent : toJson (path source steps) =
      present [("path", some (.str steps)), ("source", some (.str source))] := rfl
    simp [ofJson?, hpresent]

/-- A value of JSON is read as it stands. -/
theorem any?_of_wellFormed {j : Json} (h : j.WellFormed) : any? j = some j :=
  congrArg some h.ordered

theorem PropertyKind.tag?_text (k : PropertyKind) :
    tag? (all.map text) (.str k.text) = some k.text := by
  cases k <;> rfl

theorem PropertyKind.ofText?_text (k : PropertyKind) : ofText? k.text = some k := by
  cases k <;> rfl

theorem Property.ofJson?_toJson {p : Property} (h : ∀ j ∈ p.values, j.WellFormed) :
    ofJson? p.toJson = some p := by
  obtain ⟨name, value⟩ := p
  have hkind := value.kind.tag?_text
  have hvalue := value.kind.ofText?_text
  cases value with
  | static j =>
    have hpresent : toJson ⟨name, .static j⟩ = present
      [("kind", some (.str PropertyKind.static.text)), ("name", some (.str name)),
        ("value", some j)] := rfl
    have hread := any?_of_wellFormed (h j List.mem_cons_self)
    simp_all [ofJson?, PropertyValue.kind]
  | binding b =>
    have hpresent : toJson ⟨name, .binding b⟩ = present [("binding", some b.toJson),
      ("kind", some (.str PropertyKind.binding.text)), ("name", some (.str name))] := rfl
    simp_all [ofJson?, PropertyValue.kind, Binding.ofJson?_toJson]
  | expression source =>
    have hpresent : toJson ⟨name, .expression source⟩ = present
      [("kind", some (.str PropertyKind.expression.text)), ("name", some (.str name)),
        ("source", some (.str source))] := rfl
    simp_all [ofJson?, PropertyValue.kind]
  | action id =>
    have hpresent : toJson ⟨name, .action id⟩ = present [("action", some (.str id)),
      ("kind", some (.str PropertyKind.action.text)), ("name", some (.str name))] := rfl
    simp_all [ofJson?, PropertyValue.kind]

/-- Properties are read back as they are when their values are values of JSON. -/
theorem list?_properties {props : List Property}
    (h : ∀ j ∈ props.flatMap Property.values, j.WellFormed) :
    list? Property.ofJson? (propertiesJson props) = some props := by
  refine list?_arr_self fun p hp => Property.ofJson?_toJson fun j hj => ?_
  exact h j (List.mem_flatMap.2 ⟨p, hp, hj⟩)

theorem readOptional_body {body : Option Json} (h : ∀ j ∈ body, j.WellFormed) :
    readOptional any? body = some (body.filter fun j => !j.isNull) := by
  cases body with
  | none => rfl
  | some j =>
    have hread := any?_of_wellFormed (h j rfl)
    cases j with
    | null => rfl
    | _ => exact congrArg (Option.map some) hread

theorem HttpRequest.ofJson?_toJson {r : HttpRequest} (h : ∀ j ∈ r.values, j.WellFormed) :
    ofJson? r.toJson = some r.withoutNullBody := by
  have hbody : readOptional any? r.body = some r.withoutNullBody.body := by
    refine readOptional_body fun j hj => h j ?_
    exact List.mem_append_left _ (Option.mem_toList.2 hj)
  have htimeout : readOptional word? (r.timeoutMs.map .ofNat) = some r.timeoutMs :=
    readOptional_timeout fun j hj => h j (List.mem_append_right _ hj)
  simp [ofJson?, toJson, hbody, htimeout]
  rfl

/-- An origin is read among other fields, too. -/
theorem Origin.ofFields?_eq {o : Origin} {fields : Fields} (h : ∀ j ∈ o.values, j.WellFormed)
    (hfields : ∀ name ∈ fieldNames, fields.lookup name = o.toJson.field? name) :
    ofFields? fields = some o.withoutNullBody := by
  have hkind : fields.lookup "kind" = some (.str o.kindText) := by
    rw [hfields "kind" (by decide)]
    cases o with
    | service => simp [toJson]
    | _ => rfl
  cases o with
  | static data =>
    have hdata : fields.lookup "data" = some data := hfields "data" (by decide)
    have hread := any?_of_wellFormed (h data List.mem_cons_self)
    simp [ofFields?, kindText, tag?, hkind, hdata, hread, withoutNullBody]
  | http r =>
    have hrequest : fields.lookup "request" = some r.toJson := hfields "request" (by decide)
    have hread := HttpRequest.ofJson?_toJson h
    simp [ofFields?, kindText, tag?, hkind, hrequest, hread, withoutNullBody]
  | service handler args timeoutMs =>
    have hhandler : fields.lookup "handler" = some (.str handler) := hfields "handler" (by decide)
    have hargs : fields.lookup "args" = some args := hfields "args" (by decide)
    have htimeout : fields.lookup "timeoutMs" = timeoutMs.map .ofNat := by
      rw [hfields "timeoutMs" (by decide)]
      simp [toJson]
    have hread := any?_of_wellFormed (h args List.mem_cons_self)
    have hlimit := readOptional_timeout fun j hj => h j (List.mem_cons_of_mem _ hj)
    simp [ofFields?, kindText, tag?, hkind, hhandler, hargs, htimeout, hread, hlimit,
      withoutNullBody]

theorem Origin.ofJson?_toJson {o : Origin} (h : ∀ j ∈ o.values, j.WellFormed) :
    ofJson? o.toJson = some o.withoutNullBody := by
  obtain ⟨fields, hfields, hlookup⟩ := o.record_toJson.objectFields? fieldNames
  rw [ofJson?, hfields]
  exact ofFields?_eq h fun name _ => hlookup name

theorem DataSource.ofJson?_toJson {s : DataSource} (h : ∀ j ∈ s.origin.values, j.WellFormed) :
    ofJson? s.toJson = some s.withoutNullBody := by
  obtain ⟨fields, hfields, hlookup⟩ :=
    s.record_toJson.objectFields? ("id" :: "contract" :: "access" :: Origin.fieldNames)
  have horigin : Origin.ofFields? fields = some s.origin.withoutNullBody :=
    Origin.ofFields?_eq h fun name hname => by rw [hlookup, field?_toJson s name hname]
  simp [ofJson?, hfields, hlookup, s.ownField?_toJson, horigin, withoutNullBody]

theorem Component.ofJson?_toJson {c : Component} (h : ∀ j ∈ c.values, j.WellFormed) :
    ofJson? c.toJson = some c := by
  simp [ofJson?, toJson, list?_properties h]

theorem Region.ofJson?_toJson {r : Region} (h : ∀ j ∈ r.values, j.WellFormed) :
    ofJson? r.toJson = some r := by
  have hcomponents : list? Component.ofJson? (.arr (r.components.map Component.toJson)) =
      some r.components := by
    refine list?_arr_self fun c hc => Component.ofJson?_toJson fun j hj => ?_
    exact h j (List.mem_flatMap.2 ⟨c, hc, hj⟩)
  have hpresent : r.toJson = present
    [("components", some (.arr (r.components.map Component.toJson))),
    ("id", some (.str r.id))] := rfl
  simp [ofJson?, hpresent, hcomponents]

theorem Action.ofJson?_toJson {a : Action} (h : ∀ j ∈ a.values, j.WellFormed) :
    ofJson? a.toJson = some a := by
  simp [ofJson?, toJson, list?_properties h]

/-! ### Patches -/

theorem Target.ofText?_text (t : Target) : ofText? t.text = some t := by
  cases t <;> rfl

theorem Operation.ofText?_text (o : Operation) : ofText? o.text = some o := by
  cases o <;> rfl

theorem ComponentPatch.ofJson?_toJson {node : Option String} {c : ComponentPatch}
    (h : ∀ j ∈ c.values, j.WellFormed) : ofJson? (c.toJson node) = some c := by
  simp [ofJson?, toJson, list?_properties h]

theorem Payload.ofJson?_toJson {p : Payload} (h : ∀ j ∈ p.values, j.WellFormed) :
    ofJson? p.toJson = some p.withoutNullBody := by
  rw [ofJson?, p.record_toJson.tagged? p.node_toJson]
  cases p with
  | region components =>
    have hread : list? ComponentPatch.ofJson?
        (.arr (components.map (ComponentPatch.toJson none))) = some components := by
      refine list?_arr_self fun c hc => ComponentPatch.ofJson?_toJson fun j hj => ?_
      exact h j (List.mem_flatMap.2 ⟨c, hc, hj⟩)
    have hpresent : toJson (region components) = present
      [("components", some (.arr (components.map (ComponentPatch.toJson none)))),
        ("node", some (.str Target.region.text))] := rfl
    simp [Target.ofText?_text, target, hpresent, hread, withoutNullBody]
  | component patch =>
    have hread : ComponentPatch.ofJson? (toJson (component patch)) = some patch :=
      ComponentPatch.ofJson?_toJson h
    simp [Target.ofText?_text, target, hread, withoutNullBody]
  | dataSource patch =>
    have horigin : readOptional Origin.ofJson? (patch.origin.map Origin.toJson) =
        some (patch.origin.map Origin.withoutNullBody) := by
      refine readOptional_map (fun o ho => Origin.ofJson?_toJson fun j hj => ?_) fun o => ?_
      · exact h j (List.mem_flatMap.2 ⟨o, Option.mem_toList.2 ho, hj⟩)
      · exact o.record_toJson.ne_null
    simp [Target.ofText?_text, target, toJson, DataSourcePatch.ofJson?, horigin, withoutNullBody]
  | action patch =>
    simp [Target.ofText?_text, target, toJson, ActionPatch.ofJson?, list?_properties h,
      withoutNullBody]

theorem Patch.ofJson?_toJson {p : Patch} (h : ∀ j ∈ p.values, j.WellFormed) :
    ofJson? p.toJson = some p.withoutNullBody := by
  have hpayload : readOptional Payload.ofJson? (p.payload.map Payload.toJson) =
      some (p.payload.map Payload.withoutNullBody) := by
    refine readOptional_map (fun b hb => Payload.ofJson?_toJson fun j hj => ?_) fun b => ?_
    · exact h j (List.mem_flatMap.2 ⟨b, Option.mem_toList.2 hb, hj⟩)
    · exact b.record_toJson.ne_null
  simp [ofJson?, toJson, alternative?, Target.ofText?_text, Operation.ofText?_text, hpayload,
    withoutNullBody]

/-! ### Pages -/

theorem Page.ofJson?_toJson {p : Page} (h : p.WellFormed) :
    ofJson? p.toJson = some p.withoutNullBodies := by
  simp only [WellFormed, values, List.forall_mem_append] at h
  obtain ⟨hactions, hconstants, hsources, hpatches, hregions⟩ := h
  have hregions : list? Region.ofJson? (.arr (p.regions.map Region.toJson)) = some p.regions := by
    refine list?_arr_self fun r hr => Region.ofJson?_toJson fun j hj => ?_
    exact hregions j (List.mem_flatMap.2 ⟨r, hr, hj⟩)
  have hsources : list? DataSource.ofJson? (.arr (p.dataSources.map DataSource.toJson)) =
      some (p.dataSources.map DataSource.withoutNullBody) := by
    refine list?_arr fun s hs => DataSource.ofJson?_toJson fun j hj => ?_
    exact hsources j (List.mem_flatMap.2 ⟨s, hs, hj⟩)
  have hactions : list? Action.ofJson? (.arr (p.actions.map Action.toJson)) = some p.actions := by
    refine list?_arr_self fun a ha => Action.ofJson?_toJson fun j hj => ?_
    exact hactions j (List.mem_flatMap.2 ⟨a, ha, hj⟩)
  have hconstants : map? any? (ofMap id p.constants) = some p.constants :=
    map?_ofMap fun j hj => any?_of_wellFormed (hconstants j hj)
  have hpatches : list? Patch.ofJson? (.arr (p.patches.map Patch.toJson)) =
      some (p.patches.map Patch.withoutNullBody) := by
    refine list?_arr fun b hb => Patch.ofJson?_toJson fun j hj => ?_
    exact hpatches j (List.mem_flatMap.2 ⟨b, hb, hj⟩)
  obtain ⟨fields, hread, hlookup⟩ := p.record_toJson.recordFields? ["kind", "schemaVersion",
    "contentVersion", "module", "route", "scope", "pageId", "extends", "regions", "dataSources",
    "actions", "constants", "patches"]
  rw [ofJson?, hread, Option.bind_eq_bind, Option.bind_some]
  -- The binds stay as they are until every field is read: one that is undone goes through all
  -- that follow it.
  simp only [required?_eq, optional?_eq, defaulted?_eq, hlookup, p.field?_toJson, Option.bind_some,
    string?_str, readDefaulted_some, readOptional_text, PageKind.ofJson?_text,
    Scope.ofJson?_toJson, hregions, hsources, hactions, hconstants, hpatches]
  rfl

namespace Page

variable {p : Page} {limit : Nat}

theorem WellFormed.numbers (h : p.WellFormed) : ∀ n ∈ p.toJson.numbers, n.WellFormed := by
  intro n hn
  rw [numbers_toJson, List.mem_flatMap] at hn
  obtain ⟨j, hj, hn⟩ := hn
  exact (h j hj).numbers n hn

/-- A page comes back from its JSON form, as a value and from either of its texts, with nothing
changed but the null bodies of requests. -/
theorem read_without_null_bodies (h : p.WellFormed)
    (hfloats : Number.FloatsReadBack p.toJson.numbers) :
    ofJson? p.toJson = some p.withoutNullBodies ∧
    (p.withoutNullBodies = p ↔ ∀ r ∈ p.requests, r.body ≠ some .null) ∧
    ∀ limit, p.toJson.nesting ≤ limit →
      (readWithin? limit p.canonicalText).bind ofJson? = some p.withoutNullBodies ∧
      (readWithin? limit p.toJson.lines).bind ofJson? = some p.withoutNullBodies := by
  have hread := ofJson?_toJson h
  have hnumbers := hfloats.all h.numbers
  refine ⟨hread, withoutNullBodies_eq_self, fun limit hlimit => ⟨?_, ?_⟩⟩
  · rw [canonicalText, readWithin?_text hnumbers hlimit, Option.bind_some, hread]
  · rw [readWithin?_lines hnumbers hlimit, Option.bind_some, hread]

end Page

/-- A page with a request whose body is null, a float among its properties, and a patch. -/
def pricingPage : Page where
  kind := .blueprint
  schemaVersion := "1.0.0"
  contentVersion := "2.1.0"
  moduleName := "shop"
  route := "/prices"
  scope := ⟨"acme", none, none, some "en"⟩
  pageId := "prices"
  extendsId := none
  regions := [⟨"main", [⟨"table", "Table", "ui", none,
    [⟨"rate", .static (.arr [.num (.float 0.5), .str "\n"])⟩,
      ⟨"rows", .binding (.path "feed" "rows")⟩],
    some ⟨some (.ofList ["admin"]), none, ∅⟩⟩]⟩]
  dataSources := [⟨"feed", .http ⟨"GET", "/prices", ∅, some .null, some 5000⟩,
    .ofList [("total", "meta.total")], none⟩]
  actions := [⟨"reload", "refresh", [⟨"then", .action "log"⟩], none⟩]
  constants := .ofList [("depth", .num (.int (-3))), ("empty", .null)]
  patches := [⟨.dataSource, "feed", .merge,
    some (.dataSource ⟨some (.service "h" .null none), ∅, none⟩)⟩]

theorem pricingPage_read :
    Page.ofJson? pricingPage.toJson = some pricingPage.withoutNullBodies ∧
    (pricingPage.withoutNullBodies = pricingPage ↔
      ∀ r ∈ pricingPage.requests, r.body ≠ some .null) ∧
    ∀ limit, pricingPage.toJson.nesting ≤ limit →
      (readWithin? limit pricingPage.canonicalText).bind Page.ofJson? =
        some pricingPage.withoutNullBodies ∧
      (readWithin? limit pricingPage.toJson.lines).bind Page.ofJson? =
        some pricingPage.withoutNullBodies :=
  Page.read_without_null_bodies (by decide +kernel) (by decide +kernel)

end PageLayers
