import PageLayers.Proofs.Render.Noninterference

/-! What collaborators are asked for while a page is rendered. A source is asked for once however
many properties read it, and a collaborator may make of each request what it will, in the light of
all that came before. -/

namespace PageLayers

variable {σ α β : Type} {config : EvaluatorConfig} {viewer : Viewer} {p : Page} {id : String}
  {collaborator : DataRequest → StateM σ Reply} {request : DataRequest}
  {requests requests' : List DataRequest}

/-- Computations beside collaborators with a state of their own, with a list of what these were
asked for. -/
abbrev Recorded (σ : Type) := StateM (List DataRequest × σ)

/-- Writes a request down and passes it on. -/
def recording (collaborator : DataRequest → StateM σ Reply) (request : DataRequest) :
    Recorded σ Reply := fun (asked, s) =>
  let (reply, s) := (collaborator request).run s
  (reply, asked ++ [request], s)

/-- A computation makes these requests one after another, whatever the answers are. -/
def Asks (x : Recorded σ α) (requests : List DataRequest) : Prop :=
  ∀ asked s, (x.run (asked, s)).2.1 = asked ++ requests

namespace Asks

variable {x : Recorded σ α} {f : α → Recorded σ β}

theorem pure {a : α} : Asks (Pure.pure a : Recorded σ α) [] := fun asked _ =>
  (List.append_nil asked).symm

theorem bind (hx : Asks x requests) (hf : ∀ a, Asks (f a) requests') :
    Asks (x >>= f) (requests ++ requests') := by
  intro asked s
  have hfirst := hx asked s
  show ((f (x.run (asked, s)).1).run (x.run (asked, s)).2).2.1 = asked ++ (requests ++ requests')
  generalize x.run (asked, s) = run at hfirst ⊢
  obtain ⟨a, asked', s'⟩ := run
  obtain rfl : asked' = asked ++ requests := hfirst
  rw [← List.append_assoc]
  exact hf a _ s'

theorem map {g : α → β} (hx : Asks x requests) : Asks (do return g (← x)) requests := by
  have hbind : Asks (do return g (← x)) (requests ++ []) := hx.bind fun _ => pure
  rwa [List.append_nil] at hbind

theorem mapM {f : β → Recorded σ α} {g : β → List DataRequest} {l : List β}
    (h : ∀ b, Asks (f b) (g b)) : Asks (l.mapM f) (l.flatMap g) := by
  induction l with
  | nil => exact pure
  | cons b rest ih =>
    rw [List.mapM_cons, List.flatMap_cons]
    exact (h b).bind fun _ => ih.map

end Asks

theorem asks_recording : Asks (recording collaborator request) [request] := fun _ _ => rfl

theorem DataSource.asks_load {s : DataSource} :
    Asks (s.load config (askWith (recording collaborator))) s.origin.request?.toList := by
  unfold load
  cases horigin : s.origin with
  | static data => exact .pure
  | http request =>
    simp only [askWith, horigin]
    exact asks_recording.map
  | service handler args timeoutMs =>
    simp only [askWith, horigin]
    exact asks_recording.map

namespace Page

/-- The source of an id that has to be asked for on behalf of a viewer. -/
def remoteSource? (p : Page) (viewer : Viewer) (id : String) : Option DataSource :=
  (p.dataSource? id).filter fun s => viewer.sees s.access && s.origin.request?.isSome

theorem asks_loadSource :
    Asks (p.loadSource config (DataSource.askWith (recording collaborator)) viewer id)
      ((p.remoteSource? viewer id).bind fun s => s.origin.request?).toList := by
  unfold loadSource remoteSource?
  cases p.dataSource? id with
  | none => exact .pure
  | some s =>
    dsimp only
    split
    · rename_i hsees
      have hload := @DataSource.asks_load σ config collaborator s
      cases hrequest : s.origin.request? with
      | none => simpa [Option.filter, hsees, hrequest] using hload
      | some request => simpa [Option.filter, hsees, hrequest] using hload
    · rename_i hsees
      simpa [Option.filter, hsees] using Asks.pure

/-- The sources of some ids that have to be asked for. -/
def remoteSources (p : Page) (viewer : Viewer) (ids : List String) : List DataSource :=
  ids.filterMap (p.remoteSource? viewer)

theorem asks_loadSources {ids : OrderedSet String} :
    Asks (p.loadSources config (DataSource.askWith (recording collaborator)) viewer ids)
      ((p.remoteSources viewer ids.members).filterMap fun s => s.origin.request?) := by
  have hrequests : (p.remoteSources viewer ids.members).filterMap (fun s => s.origin.request?) =
      ids.members.flatMap fun id =>
        ((p.remoteSource? viewer id).bind fun s => s.origin.request?).toList := by
    rw [remoteSources, List.filterMap_filterMap, List.filterMap_eq_flatMap_toList]
  rw [hrequests]
  exact (Asks.mapM fun id => asks_loadSource.map).map

theorem remoteSource?_eq_some (h : p.UniqueIds) {s : DataSource} :
    p.remoteSource? viewer id = some s ↔ s.id = id ∧ s ∈ p.dataSources ∧
      viewer.sees s.access = true ∧ s.origin.request?.isSome = true := by
  rw [remoteSource?, Option.filter_eq_some_iff, h.dataSource?_eq_some, Bool.and_eq_true]
  tauto

theorem nodup_remoteSources (h : p.UniqueIds) {ids : List String} (hids : ids.Nodup) :
    (p.remoteSources viewer ids).Nodup := by
  refine hids.filterMap fun id id' s hs hs' => ?_
  rw [← ((remoteSource?_eq_some h).1 hs).1, ← ((remoteSource?_eq_some h).1 hs').1]

theorem mem_remoteSources (h : p.UniqueIds) {ids : List String} {s : DataSource} :
    s ∈ p.remoteSources viewer ids ↔ s ∈ p.dataSources ∧ s.origin.request?.isSome = true ∧
      viewer.sees s.access = true ∧ s.id ∈ ids := by
  rw [remoteSources, List.mem_filterMap]
  constructor
  · rintro ⟨id, hid, hs⟩
    obtain ⟨rfl, hmem, hsees, hrequest⟩ := (remoteSource?_eq_some h).1 hs
    exact ⟨hmem, hrequest, hsees, hid⟩
  · rintro ⟨hmem, hrequest, hsees, hid⟩
    exact ⟨s.id, hid, (remoteSource?_eq_some h).2 ⟨rfl, hmem, hsees, hrequest⟩⟩

end Page

end PageLayers
