import PageLayers.CommandLine.Run
import PageLayers.Proofs.Interaction.Composed
import PageLayers.Proofs.Store.Ledger

/-! Runs of the commands that publish, one after the other on one store: what each makes of the
ledger of the store, whatever the files hold and whatever fails. -/

namespace PageLayers.CommandLine

open MemoryStore Program

variable {pages : Set Page} {artifacts : Set Artifact} {stuck : Prop} {L L' : Ledger}
  {s : MemoryStore}
  {id : String} {a : Artifact} {now : Timestamp} {Q : MemoryStore → ManifestEntry → Prop}
  {α ε : Type}

/-- A text that is read describes one of the pages, if it describes a page at all. -/
def Describes (pages : Set Page) : (c : FileCall) → c.Result → Prop
  | .read path, r => ∀ text n p, (r : Option String) = some text →
      Document.decode path text = .ok n → Page.ofDocument n = .ok p → p ∈ pages
  | _, _ => True

/-- Every store that is named is the one of the ledger; files and failures may be any. -/
inductive Answers (pages : Set Page) (stuck : Prop) :
    (r : Request) → Ledger → r.Reply → Ledger → Prop where
  | file {c : FileCall} {L : Ledger} {x : c.Result} (hx : Describes pages c x) :
      Answers pages stuck (.file c) L x L
  | start {store : DirectoryStore} {L : Ledger} {x : Except StoreError Unit} :
      Answers pages stuck (.start store) L x L
  | store {store : DirectoryStore} {c : StoreCall} {L : Ledger} {x : Except StoreError c.Result}
      {t : MemoryStore} (hx : AnsweredIf stuck c L.store x t) :
      Answers pages stuck (.store store c) L x (L.after c x t)

/-- A run has the store to itself. -/
def session (pages : Set Page) (stuck : Prop) : Setting requestInterface Ledger :=
  ⟨Eq, fun _ _ => True, Answers pages stuck⟩

theorem keeps_ask {r : Request} {post : r.Reply → Ledger → Prop}
    (h : ∀ x L', Answers pages stuck r L x L' → post x L') :
    (ask r).Keeps (session pages stuck) post L := by
  rintro _ rfl
  exact ⟨trivial, fun x L' hx => h x L' hx⟩

/-- A part of a run that leaves the ledger as it is. -/
def Looks (pages : Set Page) (stuck : Prop) (post : α → Prop) (p : Run α) (L : Ledger) : Prop :=
  Ends (session pages stuck) (fun x L' => L' = L ∧ post x) (fun _ L' => L' = L) p L

theorem looks_pure {post : α → Prop} {x : α} (h : post x) :
    Looks pages stuck post (pure x : Run α) L := ends_pure ⟨rfl, h⟩

theorem Looks.bind {β : Type} {post : α → Prop} {post' : β → Prop} {p : Run α} {f : α → Run β}
    (h : Looks pages stuck post p L) (hf : ∀ x, post x → Looks pages stuck post' (f x) L) :
    Looks pages stuck post' (p >>= f) L := by
  refine Ends.bind (Ends.mono h ?_ fun _ _ h => h)
  rintro x _ ⟨rfl, hx⟩
  exact hf x hx

theorem looks_check {post : α → Prop} {wrap : ε → Failure} {r : Except ε α}
    (h : ∀ x, r = .ok x → post x) : Looks pages stuck post (check wrap r) L := by
  cases r with
  | ok x => exact ends_pure ⟨rfl, h x rfl⟩
  | error e => exact ends_throw rfl

/-- Files that are asked for, and what they may hold. -/
def reading (pages : Set Page) : Setting fileInterface Unit :=
  ⟨fun _ _ => True, fun _ _ => True, fun c _ x _ => Describes pages c x⟩

theorem looks_onFiles {post : α → Prop} {wrap : ε → Failure} {p : ExceptT ε FileProgram α}
    (h : Ends (reading pages) (fun x _ => post x) (fun _ _ => True) p ()) :
    Looks pages stuck post (onFiles wrap p) L := by
  refine Ends.adapt ((Keeps.through (R := fun _ L' => L' = L) h rfl (fun _ => trivial) ?_).mono ?_)
  · rintro c _ _ rfl -
    refine keeps_ask ?_
    rintro x _ ⟨hx⟩
    exact ⟨(), rfl, hx⟩
  · rintro (e | x) L' ⟨_, rfl, hx⟩
    · rfl
    · exact ⟨rfl, hx⟩

/-- A part of a publish that only reads. -/
def lookingUp (stuck : Prop) : Setting storeInterface MemoryStore :=
  ⟨Eq, fun c _ => c.isWrite = false, AnsweredIf stuck⟩

/-- A call that reads is answered by the store, which stays as it is. -/
theorem ends_lookup {c : StoreCall} {wrap : StoreError → ε} (hc : c.isWrite = false) :
    Ends (lookingUp stuck) (fun x t => t = s ∧ answer c s = (.ok x, s)) (fun _ _ => True)
      (c.perform wrap) s := by
  refine ends_perform ?_
  rintro _ rfl
  refine ⟨hc, ?_, fun _ _ _ => trivial⟩
  intro x t hx
  obtain rfl := hx.1.eq_of_read hc
  exact ⟨rfl, hx.1.eq_of_ok⟩

theorem after_of_read {c : StoreCall} {x : Except StoreError c.Result} (hc : c.isWrite = false) :
    L.after c x L.store = L := by
  cases c with
  | append e => cases hc
  | _ => rfl

theorem looks_onStore {post : α → Prop} {wrap : ε → Failure} {store : DirectoryStore}
    {p : ExceptT ε StoreProgram α}
    (h : Ends (lookingUp stuck) (fun x _ => post x) (fun _ _ => True) p L.store) :
    Looks pages stuck post (onStore wrap store p) L := by
  refine Ends.adapt ((Keeps.through (R := fun s L' => s = L.store ∧ L' = L) h ⟨rfl, rfl⟩
    (fun _ => rfl) ?_).mono ?_)
  · rintro c _ _ ⟨rfl, rfl⟩ hc
    refine keeps_ask ?_
    intro x L' hx
    cases hx with
    | store hx =>
      obtain rfl := hx.1.eq_of_read hc
      exact ⟨_, ⟨rfl, after_of_read hc⟩, hx⟩
  · rintro (e | x) L' ⟨_, ⟨-, rfl⟩, hx⟩
    · rfl
    · exact ⟨rfl, hx⟩

/-! ### What commands read -/

theorem looks_openStore {surroundings : Surroundings} {named : Option String} :
    Looks pages stuck (fun _ => True) (openStore surroundings named) L := by
  have hstart (store : DirectoryStore) : Looks pages stuck (fun _ => True)
      (ExceptT.adapt (fun e : StoreError => Failure.other e.message)
        (ExceptT.mk (ask (.start store)))) L := by
    refine Ends.adapt (keeps_ask ?_)
    rintro (e | x) _ ⟨⟩
    · rfl
    · exact ⟨rfl, trivial⟩
  exact Looks.bind (hstart _) fun _ _ => looks_pure trivial

/-- The document describes one of the pages, if it describes a page at all. -/
def IsOf (pages : Set Page) (n : Node) : Prop := ∀ p, Page.ofDocument n = .ok p → p ∈ pages

theorem ends_load {path : String} :
    Ends (reading pages) (fun n _ => IsOf pages n) (fun _ _ => True) (Document.load path) () := by
  rintro _ -
  refine ⟨trivial, ?_⟩
  rintro (_ | text) _ hx
  · trivial
  · dsimp only
    cases hn : Document.decode path text with
    | error e => trivial
    | ok n => exact fun p hp => hx text n p rfl hn hp

theorem looks_loadDocument {path : String} :
    Looks pages stuck (IsOf pages) (loadDocument path) L := looks_onFiles ends_load

theorem ends_loadAll {dir : String} : Ends (reading pages)
    (fun documents _ => ∀ d ∈ documents, IsOf pages d.root) (fun _ _ => True)
    (Document.loadAll dir) () := by
  unfold Document.loadAll
  refine Ends.bind ?_
  rintro _ -
  refine ⟨trivial, ?_⟩
  rintro (_ | names) _ -
  · trivial
  · refine (ends_mapM (P := fun _ _ => True) trivial ?_).mono (fun _ _ h => h.2) fun _ _ h => h
    rintro name _ _ -
    refine Ends.bind (ends_load.mono ?_ fun _ _ h => h)
    intro n _ hn
    exact ends_pure ⟨trivial, hn⟩

theorem looks_pageOf {n : Node} (hn : IsOf pages n) : Looks pages stuck
    (fun p => Page.ofDocument n = .ok p ∧ p ∈ pages) (pageOf n) L :=
  looks_check fun p hp => ⟨hp, hn p hp⟩

theorem ends_livePage {key : LayerKey} : Ends (lookingUp stuck) (fun _ _ => True) (fun _ _ => True)
    (livePage key) s := by
  unfold livePage
  refine Ends.bind ((ends_lookup rfl).mono ?_ fun _ _ h => h)
  rintro pointers _ ⟨rfl, -⟩
  refine Ends.bind ((ends_lookup rfl).mono ?_ fun _ _ h => h)
  rintro manifest _ ⟨rfl, -⟩
  split
  · exact ends_pure trivial
  · refine Ends.bind ((ends_lookup rfl).mono ?_ fun _ _ h => h)
    intro _ _ _
    exact ends_pure trivial

theorem looks_basePage {args : DocumentArgs} {p : Page} {store : Option DirectoryStore} :
    Looks pages stuck (fun _ => True) (basePage args p store) L := by
  unfold basePage
  split
  · exact looks_pure trivial
  · split
    · exact Looks.bind looks_loadDocument fun n hn =>
        Looks.bind (looks_pageOf hn) fun _ _ => looks_pure trivial
    · exact looks_pure trivial
    · exact looks_onStore ends_livePage

theorem ends_liveEntry {key : LayerKey} : Ends (lookingUp stuck) (fun e _ => e = s.live key)
    (fun _ _ => True) (Publishing.liveEntry key) s := by
  unfold Publishing.liveEntry live
  refine Ends.bind ((ends_lookup rfl).mono ?_ fun _ _ h => h)
  rintro pointers t ⟨rfl, hpointers⟩
  cases hpointers
  cases t.pointers.get? key with
  | none => exact ends_pure rfl
  | some id =>
    refine Ends.bind ((ends_lookup rfl).mono ?_ fun _ _ h => h)
    rintro manifest _ ⟨rfl, hmanifest⟩
    cases hmanifest
    exact ends_pure rfl

/-! ### Runs in which nothing fails -/

theorem answeredIf_of_answer {c : StoreCall} (hs : s.failNext = none) :
    AnsweredIf stuck c s (answer c s).1 (answer c s).2 := by
  refine ⟨.inl rfl, ?_⟩
  intro cause hcause hswap
  cases c with
  | swap key id =>
    rw [Publishing.answer_swap hs] at hcause
    cases hcause
  | _ => cases hswap

theorem runs_publish (hs : s.failNext = none) :
    (Publishing.publish a id now).run.Runs (AnsweredIf stuck) s (Publishing.clean a id now s).1
      (Publishing.clean a id now s).2 := by
  rw [← Publishing.runOn_publish hs]
  refine runs_runOn (P := fun s => s.failNext = none) (fun c s hs => ?_) _ hs
  have hanswer : Answered c s (answer c s).1 (answer c s).2 := .inl rfl
  exact ⟨answeredIf_of_answer hs, hanswer.failNext hs⟩

theorem runs_onStore {wrap : ε → Failure} {store : DirectoryStore} {p : ExceptT ε StoreProgram α}
    {r : Except ε α} {t : MemoryStore} (h : p.run.Runs (AnsweredIf stuck) L.store r t) :
    ∃ L', L'.store = t ∧
      (onStore wrap store p).run.Runs (Answers pages stuck) L (r.mapError wrap) L' := by
  have hcall : ∀ (c : StoreCall) s r t (L : Ledger), s = L.store → AnsweredIf stuck c s r t →
      ∃ L', t = L'.store ∧ (ask (.store store c)).Runs (Answers pages stuck) L r L' := by
    rintro c _ r t L rfl hr
    exact ⟨L.after c r t, Ledger.after_store.symm, .call (.store hr) .done⟩
  obtain ⟨L', hL', hrun⟩ := Runs.through (R := fun s (L' : Ledger) => s = L'.store) h rfl hcall
  exact ⟨L', hL'.symm, Runs.adapt hrun⟩

theorem runs_onFiles {wrap : ε → Failure} {p : ExceptT ε FileProgram α} {r : Except ε α}
    (h : p.run.Runs (reading pages).answers () r ()) :
    (onFiles wrap p).run.Runs (Answers pages stuck) L (r.mapError wrap) L := by
  have hcall : ∀ (c : FileCall) s r t L', L' = L → (reading pages).answers c s r t →
      ∃ L'', L'' = L ∧ (ask (.file c)).Runs (Answers pages stuck) L' r L'' := by
    rintro c _ r _ _ rfl hr
    exact ⟨_, rfl, .call (.file hr) .done⟩
  obtain ⟨L', rfl, hrun⟩ := Runs.through (R := fun _ L' => L' = L) h rfl hcall
  exact Runs.adapt hrun

theorem runs_openStore {surroundings : Surroundings} {named : Option String} :
    (openStore surroundings named).run.Runs (Answers pages stuck) L
      (.ok ⟨named.getD surroundings.config.storeRoot⟩) L :=
  .call (.start (x := .ok ())) .done

theorem runs_liveEntry {key : LayerKey} :
    (Publishing.liveEntry key).run.Runs (AnsweredIf stuck) s (.ok (s.live key)) s := by
  have hread : ∀ {c : StoreCall} {x : c.Result}, answer c s = (.ok x, s) →
      AnsweredIf stuck c s (.ok x) s := fun h => ⟨.inl h, fun _ h => nomatch h⟩
  refine Runs.then (a := s.pointers) (t := s) (.call (hread rfl) .done) ?_
  unfold live
  cases s.pointers.get? key with
  | none => exact .done
  | some id => exact Runs.then (a := s.manifest) (t := s) (.call (hread rfl) .done) .done

theorem runs_load {path text : String} {n : Node} (hn : Document.decode path text = .ok n)
    (hpages : IsOf pages n) :
    (Document.load path).run.Runs (reading pages).answers () (.ok n) () := by
  refine .call (r := some text) (t := ()) ?_ ?_
  · rintro _ n' p ⟨⟩ hn' hp
    obtain rfl := Except.ok.inj (hn.symm.trans hn')
    exact hpages p hp
  · dsimp only
    rw [hn]
    exact .done

/-- The only document of a directory. -/
theorem runs_loadAll {dir name text : String} {n : Node}
    (hname : FilePath.hasEnding "json" name = true)
    (hn : Document.decode (FilePath.join dir name) text = .ok n) (hpages : IsOf pages n) :
    (Document.loadAll dir).run.Runs (reading pages).answers ()
      (.ok [⟨FilePath.join dir name, n⟩]) () := by
  have hnames : (Document.names dir).run.Runs (reading pages).answers () (.ok [name]) () :=
    .call (r := some [name]) trivial .done
  refine hnames.then ?_
  dsimp only
  rw [List.filter_cons_of_pos hname, List.filter_nil, sortBy, sortBy, insertBy, List.mapM_cons,
    List.mapM_nil]
  exact ((runs_load hn hpages).then .done).then (Runs.then .done .done)

end PageLayers.CommandLine
