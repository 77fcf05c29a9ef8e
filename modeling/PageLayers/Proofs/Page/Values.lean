import PageLayers.Page.Encode
import PageLayers.Proofs.Json.WellFormed
import PageLayers.Proofs.Lists

/-! The JSON values that a page holds as they were authored, and the one kind of value that its
JSON form cannot keep: a request whose body is null. -/

namespace PageLayers

/-- A time limit as it stands in the JSON form. -/
def timeoutValues (timeoutMs : Option Nat) : List Json := (timeoutMs.map Json.ofNat).toList

namespace HttpRequest

def values (r : HttpRequest) : List Json := r.body.toList ++ timeoutValues r.timeoutMs

/-- A body that is null counts as none. -/
def withoutNullBody (r : HttpRequest) : HttpRequest :=
  { r with body := r.body.filter fun j => !j.isNull }

end HttpRequest

namespace Origin

def values : Origin → List Json
  | static data => [data]
  | http request => request.values
  | service _ args timeoutMs => args :: timeoutValues timeoutMs

def withoutNullBody : Origin → Origin
  | http request => http request.withoutNullBody
  | o => o

end Origin

def DataSource.withoutNullBody (s : DataSource) : DataSource :=
  { s with origin := s.origin.withoutNullBody }

def Property.values (p : Property) : List Json :=
  match p.value with
  | .static value => [value]
  | _ => []

def Component.values (c : Component) : List Json := c.props.flatMap Property.values

def Region.values (r : Region) : List Json := r.components.flatMap Component.values

def Action.values (a : Action) : List Json := a.config.flatMap Property.values

def ComponentPatch.values (c : ComponentPatch) : List Json := c.props.flatMap Property.values

namespace Payload

def values : Payload → List Json
  | region components => components.flatMap ComponentPatch.values
  | component patch => patch.values
  | dataSource patch => patch.origin.toList.flatMap Origin.values
  | action patch => patch.config.flatMap Property.values

def withoutNullBody : Payload → Payload
  | dataSource patch => dataSource { patch with origin := patch.origin.map Origin.withoutNullBody }
  | p => p

end Payload

namespace Patch

def values (p : Patch) : List Json := p.payload.toList.flatMap Payload.values

def withoutNullBody (p : Patch) : Patch :=
  { p with payload := p.payload.map Payload.withoutNullBody }

end Patch

namespace Page

/-- The values of all nodes, time limits among them, in the order of the JSON form. -/
def values (p : Page) : List Json :=
  p.actions.flatMap Action.values ++ (p.constants.values ++
    (p.dataSources.flatMap (fun s => s.origin.values) ++ (p.patches.flatMap Patch.values ++
      p.regions.flatMap Region.values)))

/-- All values of the page are values of JSON. -/
def WellFormed (p : Page) : Prop := ∀ j ∈ p.values, j.WellFormed

instance : DecidablePred WellFormed := fun p =>
  inferInstanceAs (Decidable (∀ j ∈ p.values, j.WellFormed))

/-- The page with each null body of a request taken out. -/
def withoutNullBodies (p : Page) : Page :=
  { p with
    dataSources := p.dataSources.map DataSource.withoutNullBody
    patches := p.patches.map Patch.withoutNullBody }

end Page

/-! ### Null bodies -/

def Origin.httpRequest? : Origin → Option HttpRequest
  | http request => some request
  | _ => none

def Payload.httpRequest? : Payload → Option HttpRequest
  | dataSource patch => patch.origin.bind Origin.httpRequest?
  | _ => none

/-- The requests of all sources, those of patches among them. -/
def Page.requests (p : Page) : List HttpRequest :=
  p.dataSources.filterMap (·.origin.httpRequest?) ++
    p.patches.filterMap (·.payload.bind Payload.httpRequest?)

theorem HttpRequest.withoutNullBody_eq_self {r : HttpRequest} :
    r.withoutNullBody = r ↔ r.body ≠ some .null := by
  obtain ⟨method, url, headers, body, timeoutMs⟩ := r
  rcases body with - | (_ | _ | _ | _ | _ | _) <;> simp [withoutNullBody, Json.isNull]

theorem Origin.withoutNullBody_eq_self {o : Origin} :
    o.withoutNullBody = o ↔ ∀ r, o.httpRequest? = some r → r.body ≠ some .null := by
  cases o <;> simp [withoutNullBody, httpRequest?, HttpRequest.withoutNullBody_eq_self]

theorem DataSource.withoutNullBody_eq_self {s : DataSource} :
    s.withoutNullBody = s ↔ ∀ r, s.origin.httpRequest? = some r → r.body ≠ some .null := by
  rw [← Origin.withoutNullBody_eq_self]
  obtain ⟨id, origin, contract, access⟩ := s
  simp [withoutNullBody]

theorem Payload.withoutNullBody_eq_self {p : Payload} :
    p.withoutNullBody = p ↔ ∀ r, p.httpRequest? = some r → r.body ≠ some .null := by
  cases p with
  | dataSource patch =>
    obtain ⟨origin, contract, access⟩ := patch
    cases origin with
    | none => simp [withoutNullBody, httpRequest?]
    | some o => simp [withoutNullBody, httpRequest?, Origin.withoutNullBody_eq_self]
  | _ => simp [withoutNullBody, httpRequest?]

theorem Patch.withoutNullBody_eq_self {p : Patch} :
    p.withoutNullBody = p ↔
      ∀ r, p.payload.bind Payload.httpRequest? = some r → r.body ≠ some .null := by
  obtain ⟨target, targetId, operation, payload⟩ := p
  cases payload with
  | none => simp [withoutNullBody]
  | some b => simp [withoutNullBody, Payload.withoutNullBody_eq_self]

/-- A page is left as it is just where none of its requests has a null body. -/
theorem Page.withoutNullBodies_eq_self {p : Page} :
    p.withoutNullBodies = p ↔ ∀ r ∈ p.requests, r.body ≠ some .null := by
  have hsplit : p.withoutNullBodies = p ↔
      p.dataSources.map DataSource.withoutNullBody = p.dataSources ∧
        p.patches.map Patch.withoutNullBody = p.patches := by
    obtain ⟨_, _, _, _, _, _, _, _, _, dataSources, _, _, patches⟩ := p
    simp [withoutNullBodies]
  rw [hsplit, map_eq_self, map_eq_self]
  simp only [requests, List.forall_mem_append, List.mem_filterMap,
    DataSource.withoutNullBody_eq_self, Patch.withoutNullBody_eq_self]
  constructor
  · rintro ⟨hsources, hpatches⟩
    exact ⟨fun r ⟨s, hs, hr⟩ => hsources s hs r hr, fun r ⟨b, hb, hr⟩ => hpatches b hb r hr⟩
  · rintro ⟨hsources, hpatches⟩
    exact ⟨fun s hs r hr => hsources r ⟨s, hs, hr⟩, fun b hb r hr => hpatches r ⟨b, hb, hr⟩⟩

/-! ### The numbers in the JSON form -/

open Json

@[simp] theorem numbers_ofSet {s : OrderedSet String} : (ofSet s).numbers = [] := by
  simp [ofSet, strings, numbers_arr]

@[simp] theorem numbersAt_text {s : Option String} : numbersAt (optionalJson? s) = [] := by
  cases s <;> rfl

@[simp] theorem numbersAt_textMap {m : OrderedMap String String} : numbersAt (textMap? m) = [] := by
  unfold textMap?
  split
  · rfl
  · simp [ofMap, numbers_obj, List.flatMap_map]

@[simp] theorem numbersAt_timeout {timeoutMs : Option Nat} :
    numbersAt (timeoutMs.map .ofNat) = (timeoutValues timeoutMs).flatMap numbers := rfl

theorem AccessRule.numbers_toJson (r : AccessRule) : r.toJson.numbers = [] := by
  have hlist (x : Option (OrderedSet String)) : numbersAt (x.map ofSet) = [] := by
    cases x <;> simp [numbersAt]
  have hrequires :
      numbersAt (if r.requires.isEmpty then none else some (ofSet r.requires)) = [] := by
    split <;> simp [numbersAt]
  simp [toJson, numbers_present, hlist, hrequires]

@[simp] theorem numbersAt_access {access : Option AccessRule} :
    numbersAt (access.map AccessRule.toJson) = [] := by
  simp [numbersAt_map, AccessRule.numbers_toJson]

theorem Property.numbers_toJson (p : Property) :
    p.toJson.numbers = p.values.flatMap numbers := by
  obtain ⟨name, value⟩ := p
  cases value with
  | binding b => cases b <;> simp [toJson, values, numbers_obj, Binding.toJson]
  | _ => simp [toJson, values, numbers_obj]

theorem numbers_properties {props : List Property} :
    (propertiesJson props).numbers = (props.flatMap Property.values).flatMap numbers := by
  simp [propertiesJson, numbers_arr, List.flatMap_map, List.flatMap_assoc, Property.numbers_toJson]

theorem HttpRequest.numbers_toJson (r : HttpRequest) :
    r.toJson.numbers = r.values.flatMap numbers := by
  have hbody : numbersAt r.body = r.body.toList.flatMap numbers := rfl
  simp [toJson, values, numbers_present, hbody]

theorem Origin.numbers_toJson (o : Origin) : o.toJson.numbers = o.values.flatMap numbers := by
  cases o with
  | static data => simp [toJson, values, numbers_obj]
  | http r => simp [toJson, values, numbers_obj, r.numbers_toJson]
  | service => simp [toJson, values, numbers_present]

theorem DataSource.numbers_toJson (s : DataSource) :
    s.toJson.numbers = s.origin.values.flatMap numbers := by
  obtain ⟨id, origin, contract, access⟩ := s
  cases origin with
  | http r => simp [toJson, Origin.values, numbers_present, r.numbers_toJson]
  | _ => simp [toJson, Origin.values, numbers_present]

theorem Component.numbers_toJson (c : Component) :
    c.toJson.numbers = c.values.flatMap numbers := by
  simp [toJson, values, numbers_present, numbers_properties]

theorem Region.numbers_toJson (r : Region) : r.toJson.numbers = r.values.flatMap numbers := by
  simp [toJson, values, numbers_obj, numbers_arr, List.flatMap_map, List.flatMap_assoc,
    Component.numbers_toJson]

theorem Action.numbers_toJson (a : Action) : a.toJson.numbers = a.values.flatMap numbers := by
  simp [toJson, values, numbers_present, numbers_properties]

theorem ComponentPatch.numbers_toJson (node : Option String) (c : ComponentPatch) :
    (c.toJson node).numbers = c.values.flatMap numbers := by
  simp [toJson, values, numbers_present, numbers_properties]

theorem Payload.numbers_toJson (p : Payload) : p.toJson.numbers = p.values.flatMap numbers := by
  cases p with
  | region components =>
    simp [toJson, values, numbers_obj, numbers_arr, List.flatMap_map, List.flatMap_assoc,
      ComponentPatch.numbers_toJson]
  | component patch => exact patch.numbers_toJson _
  | dataSource patch =>
    simp [toJson, values, numbers_present, numbersAt_map, List.flatMap_assoc,
      AccessRule.numbers_toJson, Origin.numbers_toJson]
  | action patch => simp [toJson, values, numbers_present, numbers_properties]

theorem Patch.numbers_toJson (p : Patch) : p.toJson.numbers = p.values.flatMap numbers := by
  simp [toJson, values, numbers_present, numbersAt_map, List.flatMap_assoc, Payload.numbers_toJson]

theorem Page.numbers_toJson (p : Page) : p.toJson.numbers = p.values.flatMap numbers := by
  have hscope : p.scope.toJson.numbers = [] := by simp [Scope.toJson, numbers_present]
  have hconstants : (ofMap id p.constants).numbers = p.constants.values.flatMap numbers := by
    simp [ofMap, numbers_obj, OrderedMap.values, List.flatMap_map]
  simp [toJson, values, numbers_present, numbers_arr, List.flatMap_map, List.flatMap_assoc, hscope,
    hconstants, Action.numbers_toJson, DataSource.numbers_toJson, Patch.numbers_toJson,
    Region.numbers_toJson]

/-! ### Null bodies hold no numbers -/

theorem HttpRequest.numbers_withoutNullBody (r : HttpRequest) :
    r.withoutNullBody.toJson.numbers = r.toJson.numbers := by
  have hbody : numbersAt (r.body.filter fun j => !j.isNull) = numbersAt r.body := by
    cases r.body with
    | none => rfl
    | some j => cases j <;> rfl
  simp [withoutNullBody, toJson, numbers_present, hbody]

theorem Origin.numbers_withoutNullBody (o : Origin) :
    o.withoutNullBody.values.flatMap numbers = o.values.flatMap numbers := by
  cases o with
  | http r =>
    rw [withoutNullBody, values, values, ← r.numbers_toJson, ← r.numbers_withoutNullBody,
      HttpRequest.numbers_toJson]
  | _ => rfl

theorem Payload.numbers_withoutNullBody (p : Payload) :
    p.withoutNullBody.values.flatMap numbers = p.values.flatMap numbers := by
  cases p with
  | dataSource patch =>
    simp only [withoutNullBody, values]
    cases patch.origin with
    | none => rfl
    | some o => simp [o.numbers_withoutNullBody]
  | _ => rfl

theorem Patch.numbers_withoutNullBody (p : Patch) :
    p.withoutNullBody.values.flatMap numbers = p.values.flatMap numbers := by
  obtain ⟨target, targetId, operation, payload⟩ := p
  cases payload with
  | none => rfl
  | some b => simp [withoutNullBody, values, b.numbers_withoutNullBody]

theorem Page.numbers_withoutNullBodies (p : Page) :
    p.withoutNullBodies.toJson.numbers = p.toJson.numbers := by
  simp [numbers_toJson, values, withoutNullBodies, List.flatMap_map, List.flatMap_assoc,
    DataSource.withoutNullBody, Origin.numbers_withoutNullBody, Patch.numbers_withoutNullBody]

end PageLayers
