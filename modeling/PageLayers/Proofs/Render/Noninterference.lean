import PageLayers.Proofs.Lists
import PageLayers.Proofs.Ordered.Set
import PageLayers.Proofs.Overlay.Accepted
import PageLayers.Proofs.Render.Listing

/-! Nothing that is hidden from a viewer shows in what the viewer is given, and no collaborator is
asked on its behalf. -/

namespace PageLayers

/-- A property is bound to the source of that id. -/
def Property.ReadsFrom (table : ContractTable) (id : String) (q : Property) : Prop :=
  ∃ b, q.value = .binding b ∧ table.sourceOf b = id

namespace ResolvedPage

/-- Some component or action that the viewer may see is bound to the source of that id. -/
def Reads (r : ResolvedPage) (viewer : Viewer) (id : String) : Prop :=
  (∃ g ∈ r.page.regions, ∃ c ∈ g.components,
    viewer.sees c.access ∧ ∃ q ∈ c.props, q.ReadsFrom r.contracts id) ∨
  ∃ a ∈ r.page.actions, viewer.sees a.access ∧ ∃ q ∈ a.config, q.ReadsFrom r.contracts id

/-- A source in the place of another: the same but for its origin, which may differ where the viewer
is denied the source or where nothing that the viewer may see reads it. -/
structure StandsIn (r : ResolvedPage) (viewer : Viewer) (s s' : DataSource) : Prop where
  id : s'.id = s.id
  contract : s'.contract = s.contract
  access : s'.access = s.access
  origin : viewer.sees s.access → r.Reads viewer s.id → s'.origin = s.origin

/-- The page with each component and action that the viewer is denied taken out, and with these
sources in the place of its own. -/
def redacted (viewer : Viewer) (sources : List DataSource) (r : ResolvedPage) : ResolvedPage :=
  { r with
    page :=
      { r.page with
        regions := r.page.regions.map fun g =>
          { g with components := g.components.filter fun c => viewer.sees c.access }
        actions := r.page.actions.filter fun a => viewer.sees a.access
        dataSources := sources } }

end ResolvedPage

open ResolvedPage

variable {config : EvaluatorConfig} {viewer : Viewer} {r : ResolvedPage} {s s' : DataSource}
  {sources : List DataSource} {id : String} {listing listing' : Listing}

namespace ResolvedPage

theorem StandsIn.eq (h : r.StandsIn viewer s s') (hsees : viewer.sees s.access)
    (hreads : r.Reads viewer s.id) : s' = s := by
  obtain ⟨id, origin, contract, access⟩ := s
  obtain ⟨id', origin', contract', access'⟩ := s'
  obtain ⟨rfl, rfl, rfl, horigin⟩ := h
  obtain rfl := horigin hsees hreads
  rfl

/-- Sources that stand in for others are found under the same ids. -/
theorem find?_standsIn {l l' : List DataSource} (h : List.Forall₂ (r.StandsIn viewer) l l') :
    Option.Rel (r.StandsIn viewer) (l.find? (·.id = id)) (l'.find? (·.id = id)) := by
  induction h with
  | nil => exact .none
  | @cons s s' _ _ hs _ ih =>
    rw [List.find?_cons, List.find?_cons, hs.id]
    split
    · exact .some hs
    · exact ih

/-- A page loads what its properties read. -/
theorem mem_boundSources {p : Page} {table : ContractTable} :
    id ∈ (p.boundSources table).members ↔ ∃ q ∈ p.properties, q.ReadsFrom table id := by
  unfold Page.boundSources Property.ReadsFrom
  rw [OrderedSet.mem_ofList, List.mem_filterMap]
  refine exists_congr fun q => and_congr_right fun _ => ?_
  cases q.value <;> simp

/-- A visible page loads only what its nodes read. -/
theorem reads_of_boundSources
    (h : id ∈ ((r.page.visibleTo viewer).boundSources r.contracts).members) :
    r.Reads viewer id := by
  obtain ⟨q, hq, hreads⟩ := mem_boundSources.1 h
  rcases List.mem_append.1 hq with hq | hq
  · obtain ⟨c, hc, hq⟩ := List.mem_flatMap.1 hq
    obtain ⟨g', hg', hc⟩ := List.mem_flatMap.1 hc
    obtain ⟨g, hg, rfl⟩ := List.mem_map.1 hg'
    obtain ⟨hc, hsees⟩ := List.mem_filter.1 hc
    exact .inl ⟨g, hg, c, hc, hsees, q, hq, hreads⟩
  · obtain ⟨a, ha, hq⟩ := List.mem_flatMap.1 hq
    obtain ⟨ha, hsees⟩ := List.mem_filter.1 ha
    exact .inr ⟨a, ha, hsees, q, hq, hreads⟩

theorem redacted_visibleTo : (r.redacted viewer sources).page.visibleTo viewer =
    { r.page.visibleTo viewer with dataSources := sources } := by
  simp [redacted, Page.visibleTo, Function.comp_def]

theorem redacted_loadSource {m : Type → Type} [Monad m] {ask : DataSource → m Reply}
    (h : List.Forall₂ (r.StandsIn viewer) r.page.dataSources sources)
    (hreads : r.Reads viewer id) :
    ((r.redacted viewer sources).page.visibleTo viewer).loadSource config ask viewer id =
      (r.page.visibleTo viewer).loadSource config ask viewer id := by
  -- the id finds a source and its stand-in, or nothing on both pages
  have hdeclared : Option.Rel (r.StandsIn viewer) ((r.page.visibleTo viewer).dataSource? id)
      (((r.redacted viewer sources).page.visibleTo viewer).dataSource? id) := find?_standsIn h
  have hid : ∀ s, (r.page.visibleTo viewer).dataSource? id = some s → s.id = id := by
    intro s hs
    simpa using List.find?_some hs
  unfold Page.loadSource
  generalize (r.page.visibleTo viewer).dataSource? id = found at hdeclared hid
  generalize ((r.redacted viewer sources).page.visibleTo viewer).dataSource? id = found'
    at hdeclared
  cases hdeclared with
  | none => rfl
  | @some s s' hstands =>
    obtain rfl := hid s rfl
    dsimp only
    rw [hstands.access]
    split
    · rename_i hsees
      rw [hstands.eq hsees hreads]
    · rfl

theorem redacted_evaluateListed {m : Type → Type} [Monad m] {ask : DataSource → m Reply}
    (h : List.Forall₂ (r.StandsIn viewer) r.page.dataSources sources) :
    (r.redacted viewer sources).evaluateListed listing config ask viewer =
      r.evaluateListed listing config ask viewer := by
  have hloaded : ((r.redacted viewer sources).page.visibleTo viewer).loadSources config ask viewer
      ((r.page.visibleTo viewer).boundSources r.contracts) =
        (r.page.visibleTo viewer).loadSources config ask viewer
          ((r.page.visibleTo viewer).boundSources r.contracts) := by
    unfold Page.loadSources
    rw [mapM_congr fun id hid => by rw [redacted_loadSource h (reads_of_boundSources hid)]]
  have hbound : ((r.redacted viewer sources).page.visibleTo viewer).boundSources r.contracts =
      (r.page.visibleTo viewer).boundSources r.contracts := by
    rw [redacted_visibleTo]
    rfl
  unfold ResolvedPage.evaluateListed
  dsimp only
  rw [show (r.redacted viewer sources).contracts = r.contracts from rfl, hbound, hloaded]
  rw [redacted_visibleTo]
  rfl

end ResolvedPage

/-- Asks a collaborator and notes the source it is asked for. -/
def noting (collaborator : DataSource → Reply) (s : DataSource) :
    StateM (List DataSource) Reply := do
  modify (s :: ·)
  return collaborator s

/-- All that a computation adds to the sources noted is of one kind. -/
def NotesOnly (P : DataSource → Prop) {α : Type} (x : StateM (List DataSource) α) : Prop :=
  ∀ noted, ∀ s ∈ (x.run noted).2, s ∈ noted ∨ P s

namespace NotesOnly

variable {P : DataSource → Prop} {α β : Type} {x : StateM (List DataSource) α}

theorem pure {a : α} : NotesOnly P (Pure.pure a) := fun _ _ => .inl

theorem mono {Q : DataSource → Prop} (hx : NotesOnly P x) (h : ∀ s, P s → Q s) : NotesOnly Q x :=
  fun noted s hs => (hx noted s hs).imp_right (h s)

theorem bind {f : α → StateM (List DataSource) β} (hx : NotesOnly P x)
    (hf : ∀ a, NotesOnly P (f a)) : NotesOnly P (x >>= f) := by
  intro noted s hs
  rcases hf _ _ s hs with hs | hs
  · exact hx noted s hs
  · exact .inr hs

theorem mapM {f : β → StateM (List DataSource) α} {l : List β} (h : ∀ b ∈ l, NotesOnly P (f b)) :
    NotesOnly P (l.mapM f) := by
  induction l with
  | nil => exact pure
  | cons b rest ih =>
    rw [List.mapM_cons]
    refine (h b List.mem_cons_self).bind fun a => ?_
    exact (ih fun b hb => h b (List.mem_cons_of_mem _ hb)).bind fun _ => pure

end NotesOnly

theorem notesOnly_noting {collaborator : DataSource → Reply} :
    NotesOnly (· = s) (noting collaborator s) := by
  intro noted d hd
  exact (List.mem_cons.1 hd).symm

theorem notesOnly_evaluateListed {collaborator : DataSource → Reply} :
    NotesOnly (fun s => s ∈ r.page.dataSources ∧ viewer.sees s.access ∧ r.Reads viewer s.id)
      (r.evaluateListed listing config (noting collaborator) viewer) := by
  refine NotesOnly.bind ?_ fun _ => .pure
  refine NotesOnly.bind ?_ fun _ => .pure
  refine NotesOnly.mapM fun id hid => NotesOnly.bind ?_ fun _ => .pure
  unfold Page.loadSource
  split
  · exact .pure
  · rename_i s hs
    obtain rfl : s.id = id := by simpa using List.find?_some hs
    split
    · rename_i hsees
      unfold DataSource.load
      split
      · exact .pure
      · refine NotesOnly.bind ?_ fun _ => .pure
        refine notesOnly_noting.mono ?_
        rintro d rfl
        exact ⟨List.mem_of_find?_eq_some hs, hsees, reads_of_boundSources hid⟩
    · exact .pure

/-- A viewer is given one and the same model, with the same calls of collaborators in the same
order, whatever stands on the page that the viewer may not see. Where the results of sources are
gone through in another order, errors with the same text may change places, and nothing else. No
collaborator is asked for a source that the viewer is denied, or that nothing the viewer may see
reads. -/
theorem evaluate_noninterfering
    (h : List.Forall₂ (r.StandsIn viewer) r.page.dataSources sources) :
    (∀ (m : Type → Type) [Monad m] (ask : DataSource → m Reply) listing,
      (r.redacted viewer sources).evaluateListed listing config ask viewer =
        r.evaluateListed listing config ask viewer) ∧
    (∀ (m : Type → Type) [Monad m] [LawfulMonad m] (ask : DataSource → m Reply) listing listing',
      RenderModel.upToTies <$>
          (r.redacted viewer sources).evaluateListed listing config ask viewer =
        RenderModel.upToTies <$> r.evaluateListed listing' config ask viewer) ∧
    ∀ listing, ∀ collaborator : DataSource → Reply,
      ∀ s ∈ ((r.evaluateListed listing config (noting collaborator) viewer).run []).2,
        s ∈ r.page.dataSources ∧ viewer.sees s.access ∧ r.Reads viewer s.id := by
  refine ⟨fun m _ ask listing => redacted_evaluateListed h, ?_, ?_⟩
  · intro m _ _ ask listing listing'
    rw [redacted_evaluateListed h]
    exact evaluateListed_upToTies
  · intro listing collaborator s hs
    rcases notesOnly_evaluateListed [] s hs with hs | hs
    · cases hs
    · exact hs

def adminsOnly : AccessRule := ⟨some (.ofList ["admin"]), none, ∅⟩

/-- The welcome page with a table and an action for admins. What it shows to all reads a source that
only admins may see. -/
def audited : ResolvedPage := .ofMerged
  { welcome with
    regions := [⟨"main", [
      ⟨"hero", "Banner", "ui", none,
        [⟨"title", .binding (.path "copy" "title")⟩, ⟨"total", .binding (.path "sales" "total")⟩],
        none⟩,
      ⟨"audit", "Table", "ui", none, [⟨"rows", .binding (.path "log" "rows")⟩], adminsOnly⟩]⟩]
    dataSources := [⟨"copy", .service "texts" .null none, ∅, none⟩,
      ⟨"log", .service "log" .null none, ∅, none⟩,
      ⟨"sales", .service "sales" .null none, ∅, adminsOnly⟩]
    actions := [⟨"purge", "http", [⟨"age", .binding (.path "log" "age")⟩], adminsOnly⟩] } []

/-- The sources of that page, without those that a guest is not given. -/
def auditedForGuests : List DataSource :=
  [⟨"copy", .service "texts" .null none, ∅, none⟩, ⟨"log", .static .null, ∅, none⟩,
    ⟨"sales", .static .null, ∅, adminsOnly⟩]

theorem audited_noninterfering :
    List.Forall₂ (audited.StandsIn ⟨∅, ∅⟩) audited.page.dataSources auditedForGuests ∧
    (∀ (m : Type → Type) [Monad m] (ask : DataSource → m Reply) listing,
      (audited.redacted ⟨∅, ∅⟩ auditedForGuests).evaluateListed listing .default ask ⟨∅, ∅⟩ =
        audited.evaluateListed listing .default ask ⟨∅, ∅⟩) ∧
    (∀ (m : Type → Type) [Monad m] [LawfulMonad m] (ask : DataSource → m Reply) listing listing',
      RenderModel.upToTies <$>
          (audited.redacted ⟨∅, ∅⟩ auditedForGuests).evaluateListed listing .default ask ⟨∅, ∅⟩ =
        RenderModel.upToTies <$> audited.evaluateListed listing' .default ask ⟨∅, ∅⟩) ∧
    ∀ listing, ∀ collaborator : DataSource → Reply,
      ∀ s ∈ ((audited.evaluateListed listing .default (noting collaborator) ⟨∅, ∅⟩).run []).2,
        s ∈ audited.page.dataSources ∧ Viewer.sees ⟨∅, ∅⟩ s.access ∧
          audited.Reads ⟨∅, ∅⟩ s.id := by
  have hstands : List.Forall₂ (audited.StandsIn ⟨∅, ∅⟩) audited.page.dataSources
      auditedForGuests := by
    refine .cons ⟨rfl, rfl, rfl, fun _ _ => rfl⟩ (.cons ⟨rfl, rfl, rfl, fun _ hreads => ?_⟩
      (.cons ⟨rfl, rfl, rfl, fun hsees => ?_⟩ .nil))
    · have hdenied : Viewer.sees ⟨∅, ∅⟩ adminsOnly = false := by decide
      simp [Reads, audited, ofMerged, Property.ReadsFrom, ContractTable.sourceOf,
        ContractTable.target?, hdenied] at hreads
    · exact absurd hsees (by decide)
  exact ⟨hstands, evaluate_noninterfering hstands⟩

end PageLayers
