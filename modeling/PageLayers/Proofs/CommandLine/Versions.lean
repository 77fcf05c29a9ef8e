import PageLayers.Proofs.Artifact.Batch
import PageLayers.Proofs.CommandLine.Session

/-! Whether a published version stays what it is. The commands that publish differ in this: one
compiles against the live entry and so asks for a new version, the other compiles as if nothing were
there. -/

namespace PageLayers.CommandLine

open MemoryStore Program

variable {pages : Set Page} {stuck : Prop} {L L' : Ledger} {a : Artifact} {id : String}
  {now : Timestamp} {G : Ledger → Prop} {Q : MemoryStore → ManifestEntry → Prop} {α β : Type}
  {surroundings : Surroundings}

/-- The artifacts that the pages are compiled to. -/
def compiledFrom (pages : Set Page) : Set Artifact := {a | a.Compiled ∧ a.page ∈ pages}

theorem compiled_of_mem : ∀ a ∈ compiledFrom pages, a.Compiled := fun _ h => h.1

theorem page_eq_of_checksum (hpages : Set.InjOn Page.checksum pages) : ∀ a ∈ compiledFrom pages,
    ∀ b ∈ compiledFrom pages, a.checksum = b.checksum → a.page = b.page := by
  rintro a ⟨ha, hapage⟩ b ⟨hb, hbpage⟩ hchecksum
  exact hpages hapage hbpage (ha.checksum_eq.symm.trans (hchecksum.trans hb.checksum_eq))

/-- A ledger between two runs. -/
def Settled (pages : Set Page) (stuck : Prop) (L : Ledger) : Prop :=
  L.Sound (compiledFrom pages) stuck fun _ => False

/-- A part of a run that leads to such a ledger, with an error or without. -/
def Leads (pages : Set Page) (stuck : Prop) (G : Ledger → Prop) (p : Run α) (L : Ledger) : Prop :=
  Ends (session pages stuck) (fun _ L' => G L') (fun _ L' => G L') p L

theorem Looks.leads {post : α → Prop} {p : Run α} {f : α → Run β} (hp : Looks pages stuck post p L)
    (hG : G L) (hf : ∀ x, post x → Leads pages stuck G (f x) L) :
    Leads pages stuck G (p >>= f) L := by
  refine Ends.bind (Ends.mono hp ?_ ?_)
  · rintro x _ ⟨rfl, hx⟩
    exact hf x hx
  · rintro e _ rfl
    exact hG

theorem Leads.then {p : Run α} {f : α → Run β} (hp : Leads pages stuck G p L)
    (hf : ∀ x L', G L' → Leads pages stuck G (f x) L') : Leads pages stuck G (p >>= f) L :=
  Ends.bind (Ends.mono hp hf fun _ _ h => h)

theorem leads_publishing {wrap : PublishError → Failure} {store : DirectoryStore}
    (hpages : Set.InjOn Page.checksum pages) (hL : Settled pages stuck L)
    (ha : a ∈ compiledFrom pages) (hfresh : Fresh id L.store)
    (hQ : ∀ s e, s.Lawful a id now (L.store.live a.layerKey) (.append e) → Q s e) :
    Leads pages stuck (fun L' => Settled pages stuck L' ∧ L.Since id Q L')
      (onStore wrap store (Publishing.publish a id now)) L := by
  have hsame := page_eq_of_checksum hpages
  have hpublish : Publishing.Orderly a id now (L.store.live a.layerKey) stuck (Publishing.Lives a)
      (Publishing.publish a id now) L.store :=
    Publishing.orderly_publish (hL.intact.stands a.layerKey) hfresh
  -- the publish only knows the store, and the ledger follows it from call to call
  refine Ends.adapt ((Keeps.through (R := fun s L' => s = L'.store ∧
    L'.Sound (compiledFrom pages) stuck (· = .ofArtifact a id now) ∧ L.Since id Q L')
    hpublish ⟨rfl, hL.weaken, .refl L⟩ (Locked.refl _ _) ?_).mono ?_)
  · rintro c _ L' ⟨rfl, hsound, hsince⟩ hc
    refine keeps_ask ?_
    intro x L'' hx
    cases hx with
    | store hx =>
      exact ⟨_, ⟨Ledger.after_store.symm, hsound.call compiled_of_mem hsame ha hc hx,
        hsince.call hc hx hQ⟩, hx⟩
  · rintro (e | receipt) L' ⟨_, ⟨rfl, hsound, hsince⟩, hpost⟩
    · exact ⟨hsound.of_fresh hpost, hsince⟩
    · exact ⟨hsound.of_lives compiled_of_mem hsame ha hpost, hsince⟩

theorem mem_compiledFrom {n : Node} {p : Page} {ctx : CompileContext}
    (hn : Page.ofDocument n = .ok p)
    (hp : p ∈ pages) (h : Artifact.compilePage p ctx now = .ok a) : a ∈ compiledFrom pages := by
  refine ⟨⟨n, ctx, now, Artifact.compile_of_compilePage hn h⟩, ?_⟩
  obtain ⟨-, -, rfl⟩ := Artifact.compilePage_eq_ok.1 h
  exact hp

/-- What is compiled against the live entry does not repeat its version. -/
theorem not_repeatsLive {p : Page} {s : MemoryStore} {e : ManifestEntry} {base : Option Page}
    (h : Artifact.compilePage p
      ⟨base, [], (L.store.live p.layerKey).map ManifestEntry.release⟩ now =
      .ok a)
    (hc : s.Lawful a id now (L.store.live a.layerKey) (.append e)) : ¬ s.RepeatsLive e := by
  obtain ⟨-, hkept, rfl⟩ := Artifact.compilePage_eq_ok.1 h
  obtain ⟨rfl, -, -, -, hstands, -⟩ := hc
  rintro ⟨l, hl, -, hversion, hchecksum⟩
  have hlive : L.store.live p.layerKey = some l := hstands.live_eq.symm.trans hl
  rw [hlive] at hkept
  unfold Artifact.versionKept at hkept
  split at hkept
  · cases hkept
  · rename_i hany
    exact hany (by simpa [ManifestEntry.release] using ⟨hversion, hchecksum⟩)

theorem leads_publish {args : DocumentArgs} {named : Option String}
    (hpages : Set.InjOn Page.checksum pages) (hL : Settled pages stuck L)
    (hfresh : Fresh (surroundings.freshId 0) L.store) :
    Leads pages stuck (fun L' => Settled pages stuck L' ∧
      L.Since (surroundings.freshId 0) (fun s e => ¬ s.RepeatsLive e) L')
      (publish surroundings args named) L := by
  have hG : Settled pages stuck L ∧
      L.Since (surroundings.freshId 0) (fun s e => ¬ s.RepeatsLive e) L := ⟨hL, .refl L⟩
  unfold publish
  refine looks_openStore.leads hG fun store _ => ?_
  refine looks_loadDocument.leads hG fun n hn => ?_
  refine (looks_pageOf hn).leads hG fun p hp => ?_
  refine looks_basePage.leads hG fun base _ => ?_
  refine (looks_onStore ends_liveEntry).leads hG fun prior hprior => ?_
  subst hprior
  refine Looks.leads (looks_check fun a ha => ha) hG fun a ha => ?_
  refine (leads_publishing hpages hL (mem_compiledFrom hp.1 hp.2 ha) hfresh
    fun s e hc => not_repeatsLive ha hc).then fun receipt L' hL' => ?_
  exact ends_pure hL'

theorem compiledFrom_of_compileSet {documents : List SourceDocument} {artifacts : List Artifact}
    (hdocuments : ∀ d ∈ documents, IsOf pages d.root)
    (h : Artifact.compileSet documents now = .ok artifacts) :
    ∀ a ∈ artifacts, a ∈ compiledFrom pages := by
  intro a ha
  obtain ⟨d, hd, hcompile⟩ := Artifact.exists_document_of_mem h ha
  obtain ⟨p, hp, hpage⟩ := Artifact.compile_eq_ok (Artifact.compileAlone_eq_ok.1 hcompile)
  exact mem_compiledFrom hp (hdocuments d hd p hp) hpage

/-- Artifacts that are still to be published, each with the number of its id. -/
structure Queued (pages : Set Page) (freshId : Nat → String) (queue : List (Artifact × Nat))
    (L : Ledger) : Prop where
  compiled : ∀ x ∈ queue, x.1 ∈ compiledFrom pages
  fresh : ∀ x ∈ queue, Fresh (freshId x.2) L.store
  distinct : (queue.map Prod.snd).Nodup

theorem queued_zipIdx {freshId : Nat → String} {artifacts : List Artifact}
    (hartifacts : ∀ a ∈ artifacts, a ∈ compiledFrom pages)
    (hfresh : ∀ i, Fresh (freshId i) L.store) :
    Queued pages freshId artifacts.zipIdx L := by
  refine ⟨?_, fun x _ => hfresh x.2, ?_⟩
  · intro x hx
    exact hartifacts x.1 (List.fst_mem_of_mem_zipIdx hx)
  · rw [List.zipIdx_map_snd]
    exact List.nodup_range'

theorem Queued.tail {freshId : Nat → String} {i : Nat} {rest : List (Artifact × Nat)}
    (h : Queued pages freshId ((a, i) :: rest) L) (hids : Function.Injective freshId)
    (hL' : L.Since (freshId i) Q L') : Queued pages freshId rest L' := by
  have hdistinct : i ∉ rest.map Prod.snd ∧ (rest.map Prod.snd).Nodup := List.nodup_cons.1 h.distinct
  refine ⟨fun x hx => h.compiled x (.tail _ hx), ?_, hdistinct.2⟩
  intro x hx
  refine hL'.fresh _ ?_ (h.fresh x (.tail _ hx))
  intro heq
  obtain rfl := hids heq
  exact hdistinct.1 (List.mem_map_of_mem hx)

theorem leads_build {dir : String} {named : Option String}
    (hpages : Set.InjOn Page.checksum pages) (hL : Settled pages stuck L)
    (hids : Function.Injective surroundings.freshId)
    (hfresh : ∀ i, Fresh (surroundings.freshId i) L.store) :
    Leads pages stuck (Settled pages stuck) (build surroundings dir named) L := by
  unfold build
  refine (looks_onFiles ends_loadAll).leads hL fun documents hdocuments => ?_
  refine Looks.leads (looks_check fun artifacts => compiledFrom_of_compileSet hdocuments) hL
    fun artifacts hartifacts => ?_
  cases named with
  | none => exact ends_pure hL
  | some root =>
    refine looks_openStore.leads hL fun store _ => ?_
    refine Ends.bind ((ends_mapM (P := fun queue L' => Settled pages stuck L' ∧
      Queued pages surroundings.freshId queue L') (Q := fun _ => True)
      ⟨hL, queued_zipIdx hartifacts hfresh⟩ ?_).mono ?_ fun _ _ h => h)
    · rintro ⟨a, i⟩ rest L' ⟨hL', hqueue⟩
      refine (leads_publishing (Q := fun _ _ => True) hpages hL'
        (hqueue.compiled _ List.mem_cons_self) (hqueue.fresh _ List.mem_cons_self)
        fun _ _ _ => trivial).mono ?_ ?_
      · rintro receipt L'' ⟨hL'', hsince⟩
        exact ⟨⟨hL'', hqueue.tail hids hsince⟩, trivial⟩
      · rintro e L'' ⟨hL'', -⟩
        exact hL''
    · rintro receipts L' ⟨⟨hL', -⟩, -⟩
      exact ends_pure hL'

/-- The commands that publish: one document, or all of a directory where a store is named. -/
def Command.publishes : Command → Bool
  | .publish _ _ => true
  | .build _ named => named.isSome
  | _ => false

/-- The command that compiles against what is live. -/
def Command.publishesOne : Command → Bool
  | .publish _ _ => true
  | _ => false

/-- What runs of the commands that publish, one after the other, make of a store that starts empty.
Each run has ids that no entry has. -/
inductive Reached (pages : Set Page) (stuck : Prop) : List Command → Ledger → Prop where
  | initial : Reached pages stuck [] .initial
  | run {commands : List Command} {surroundings : Surroundings} {command : Command} {L L' : Ledger}
      {result : Except Failure Output} (hL : Reached pages stuck commands L)
      (hpublishes : command.publishes = true) (hids : Function.Injective surroundings.freshId)
      (hfresh : ∀ i, Fresh (surroundings.freshId i) L.store)
      (hrun : (run surroundings command).run.Runs (Answers pages stuck) L result L') :
      Reached pages stuck (command :: commands) L'

/-- Whatever a run ends with, what it leads to is there at its end. -/
theorem Leads.of_runs {p : Run α} {result : Except Failure α} (hp : Leads pages stuck G p L)
    (hrun : p.run.Runs (Answers pages stuck) L result L') : G L' := by
  have hresult := Keeps.of_runs hp hrun fun _ => rfl
  cases result with
  | ok x => exact hresult
  | error e => exact hresult

theorem leads_run {command : Command} (hpublishes : command.publishes = true)
    (hpages : Set.InjOn Page.checksum pages) (hL : Settled pages stuck L)
    (hids : Function.Injective surroundings.freshId)
    (hfresh : ∀ i, Fresh (surroundings.freshId i) L.store) :
    Leads pages stuck (Settled pages stuck) (run surroundings command) L := by
  cases command with
  | publish args named =>
    exact (leads_publish hpages hL (hfresh 0)).mono (fun _ _ h => h.1) fun _ _ h => h.1
  | build dir named => exact leads_build hpages hL hids hfresh
  | validate args => cases hpublishes
  | compile args => cases hpublishes
  | layers args => cases hpublishes
  | resolve args => cases hpublishes
  | render args entitlements => cases hpublishes

variable {commands : List Command}

theorem Reached.settled (hpages : Set.InjOn Page.checksum pages)
    (h : Reached pages stuck commands L) :
    Settled pages stuck L := by
  induction h with
  | initial => exact Ledger.sound_initial
  | run _ hpublishes hids hfresh hrun ih =>
    exact (leads_run hpublishes hpages ih hids hfresh).of_runs hrun

theorem Reached.not_repeatsLive (hpages : Set.InjOn Page.checksum pages)
    (h : Reached pages stuck commands L) (hcommands : ∀ c ∈ commands, c.publishesOne = true) :
    ∀ s e, (s, e) ∈ L.added → ¬ s.RepeatsLive e := by
  induction h with
  | initial =>
    intro s e hadded
    cases hadded
  | @run commands surroundings command L L' result hL hpublishes hids hfresh hrun ih =>
    cases command with
    | publish args named =>
      have hsince := (leads_publish hpages (hL.settled hpages) (hfresh 0)).of_runs hrun
      intro s e hadded
      rcases hsince.2.added s e hadded with hold | hnew
      · exact ih (fun c hc => hcommands c (.tail _ hc)) s e hold
      · exact hnew
    | _ => cases hcommands _ List.mem_cons_self

/-- Publishing documents one by one keeps versions, as long as no pointer is stuck. -/
theorem Reached.versionsKept (hpages : Set.InjOn Page.checksum pages) (hstuck : ¬ stuck)
    (h : Reached pages stuck commands L) (hcommands : ∀ c ∈ commands, c.publishesOne = true) :
    L.store.VersionsKept := by
  have hsettled := h.settled hpages
  refine hsettled.kept.2 fun s e hadded => ⟨h.not_repeatsLive hpages hcommands s e hadded, ?_⟩
  rintro ⟨e', hahead, -⟩
  exact hsettled.settled hstuck s e hadded e' hahead

end PageLayers.CommandLine
