import PageLayers.Proofs.CommandLine.Versions

/-! When a version gets a second content. A build does not look at what is live, and a publish does
not look at what was recorded and did not go live. -/

namespace PageLayers.CommandLine

open MemoryStore Program

variable {pages : Set Page} {stuck : Prop} {L : Ledger} {a : Artifact} {now : Timestamp}
  {surroundings : Surroundings} {commands : List Command}
  {s : MemoryStore} {path : String} {e : ManifestEntry}

/-! ### A build that repeats the live version -/

/-- The artifact is what a file can be compiled to with nothing else around. -/
def Offers (pages : Set Page) (path : String) (now : Timestamp) (a : Artifact) : Prop :=
  ∃ text n, Document.decode path text = .ok n ∧ IsOf pages n ∧ Artifact.compile n .empty now = .ok a

theorem Offers.compiledFrom (h : Offers pages path now a) : a ∈ compiledFrom pages := by
  obtain ⟨text, n, -, hn, hcompile⟩ := h
  obtain ⟨p, hp, hpage⟩ := Artifact.compile_eq_ok hcompile
  exact mem_compiledFrom hp (hn p hp) hpage

/-- A build of one document publishes it. -/
theorem runs_build {dir name root : String} {receipt : Receipt} (hs : L.store.failNext = none)
    (hname : FilePath.hasEnding "json" name = true)
    (ha : Offers pages (FilePath.join dir name) surroundings.now a)
    (hclean : Publishing.clean a (surroundings.freshId 0) surroundings.now L.store =
      (.ok receipt, s)) :
    ∃ L', L'.store = s ∧ (build surroundings dir (some root)).run.Runs (Answers pages stuck) L
      (.ok (.success [("receipts", .arr [receipt.toJson])])) L' := by
  obtain ⟨text, n, hdecode, hn, hcompile⟩ := ha
  have hpublish : (Publishing.publish a (surroundings.freshId 0) surroundings.now).run.Runs
      (AnsweredIf stuck) L.store _ _ := runs_publish hs
  rw [hclean] at hpublish
  obtain ⟨L', hL', hrun⟩ : ∃ L', L'.store = s ∧ (onStore publishFailure ⟨root⟩
      (Publishing.publish a (surroundings.freshId 0) surroundings.now)).run.Runs
      (Answers pages stuck) L (.ok receipt) L' := runs_onStore hpublish
  refine ⟨L', hL', (runs_onFiles (runs_loadAll hname hdecode hn)).then ?_⟩
  refine Runs.then (a := [a]) (t := L) ?_ (runs_openStore.then ?_)
  · rw [Artifact.compileSet_singleton hcompile]
    exact .done
  · rw [List.zipIdx_singleton, List.mapM_cons, List.mapM_nil]
    refine Runs.then (a := [receipt]) (t := L') ?_ .done
    refine Runs.then (a := receipt) (t := L') hrun ?_
    exact Runs.then (a := []) (t := L') .done .done

/-- It does so also where other content is live under the same version. -/
theorem build_repeats {dir name root : String} (hpages : Set.InjOn Page.checksum pages)
    (hL : Settled pages stuck L) (hs : L.store.failNext = none)
    (hname : FilePath.hasEnding "json" name = true)
    (ha : Offers pages (FilePath.join dir name) surroundings.now a)
    (hlive : L.store.live a.layerKey = some e) (hversion : e.contentVersion = a.contentVersion)
    (hchecksum : e.checksum ≠ a.checksum) :
    ∃ output L',
      (build surroundings dir (some root)).run.Runs (Answers pages stuck) L (.ok output) L' ∧
      ¬ L'.store.VersionsKept := by
  have hverdict := verdict_of_repeated compiled_of_mem hL.intact hL.records ha.compiledFrom hlive
    hversion hchecksum
  obtain ⟨L', hL', hrun⟩ := runs_build hs hname ha (Publishing.clean_of_verdict hverdict)
  refine ⟨_, L', hrun, ?_⟩
  rw [hL']
  exact not_versionsKept_of_recorded compiled_of_mem (page_eq_of_checksum hpages) hL.records
    ha.compiledFrom (mem_of_live hlive) (hL.intact.layerKey_of_live hlive) hversion hchecksum

/-! ### A publish that repeats a version that did not go live -/

/-- Where nothing is live a document is published as it is. -/
theorem runs_publishDocument {args : DocumentArgs} {named : Option String}
    {r : Except PublishError Receipt} (ha : Offers pages args.document surroundings.now a)
    (hkind : a.page.kind = .blueprint) (hlive : L.store.live a.layerKey = none)
    (hpublish : (Publishing.publish a (surroundings.freshId 0) surroundings.now).run.Runs
      (AnsweredIf stuck) L.store r s) :
    ∃ L', L'.store = s ∧ (publish surroundings args named).run.Runs (Answers pages stuck) L
      ((r.mapError publishFailure).map fun receipt => .success [("receipt", receipt.toJson)])
      L' := by
  obtain ⟨text, n, hdecode, hn, hcompile⟩ := ha
  obtain ⟨p, hp, hpage⟩ := Artifact.compile_eq_ok hcompile
  obtain ⟨-, -, rfl⟩ := Artifact.compilePage_eq_ok.1 hpage
  let store : DirectoryStore := ⟨named.getD surroundings.config.storeRoot⟩
  obtain ⟨L₁, hL₁, hentry⟩ : ∃ L₁, L₁.store = L.store ∧
      (onStore publishFailure store (Publishing.liveEntry p.layerKey)).run.Runs
        (Answers pages stuck) L
        (.ok (L.store.live p.layerKey)) L₁ := runs_onStore runs_liveEntry
  rw [← hL₁] at hpublish
  obtain ⟨L', hL', hrun⟩ : ∃ L', L'.store = s ∧ (onStore publishFailure store (Publishing.publish
      (Artifact.ofPage p surroundings.now) (surroundings.freshId 0) surroundings.now)).run.Runs
      (Answers pages stuck) L₁ (r.mapError publishFailure) L' := runs_onStore hpublish
  have hnone : L.store.live p.layerKey = none := hlive
  have hblueprint : p.kind = .blueprint := hkind
  rw [hnone] at hentry
  have hbase : (basePage args p store).run.Runs (Answers pages stuck) L (.ok none) L := by
    unfold basePage
    rw [if_pos hblueprint]
    exact .done
  refine ⟨L', hL', runs_openStore.then ((runs_onFiles (runs_load hdecode hn)).then ?_)⟩
  refine Runs.then (a := p) (t := L) ?_ (hbase.then (hentry.then ?_))
  · rw [pageOf, hp]
    exact .done
  · refine Runs.then (a := Artifact.ofPage p surroundings.now) (t := L₁) ?_ hrun.map
    have hcheck : Artifact.compilePage p ⟨none, [], none⟩ surroundings.now = .ok _ := hpage
    rw [Option.map_none, hcheck]
    exact .done

/-- What has not gone live is not looked at. -/
theorem publish_repeats {args : DocumentArgs} {named : Option String}
    (hpages : Set.InjOn Page.checksum pages) (hL : Settled pages stuck L)
    (hs : L.store.failNext = none) (ha : Offers pages args.document surroundings.now a)
    (hkind : a.page.kind = .blueprint) (hlive : L.store.live a.layerKey = none)
    (he : e ∈ L.store.manifest.entries) (hkey : e.layerKey = a.layerKey)
    (hversion : e.contentVersion = a.contentVersion) (hchecksum : e.checksum ≠ a.checksum) :
    ∃ output L',
      (publish surroundings args named).run.Runs (Answers pages stuck) L (.ok output) L' ∧
      ¬ L'.store.VersionsKept := by
  have hverdict : Publishing.verdict a L.store = .ok none := by
    have hchecksum := (compiled_of_mem a ha.compiledFrom).checksum_eq
    refine (Publishing.verdict_eq_none hL.intact).2 ⟨hchecksum.symm, ?_⟩
    intro l hl
    cases hlive.symm.trans hl
  have hpublish : (Publishing.publish a (surroundings.freshId 0) surroundings.now).run.Runs
      (AnsweredIf stuck) L.store _ _ := runs_publish hs
  rw [Publishing.clean_of_verdict hverdict] at hpublish
  obtain ⟨L', hL', hrun⟩ : ∃ L', L'.store = _ ∧ (publish surroundings args named).run.Runs
      (Answers pages stuck) L _ L' := runs_publishDocument ha hkind hlive hpublish
  refine ⟨_, L', hrun, ?_⟩
  rw [hL']
  exact not_versionsKept_of_recorded compiled_of_mem (page_eq_of_checksum hpages) hL.records
    ha.compiledFrom he hkey hversion hchecksum

/-! ### Notices in a file -/

/-- Surroundings in which ids are told apart by their length. -/
def counting (used : Nat) : Surroundings where
  config := .default
  now := .epoch
  freshId i := String.ofList (List.replicate (used + i) 'x')

theorem counting_injective {used : Nat} : Function.Injective (counting used).freshId := by
  intro i j h
  have hlength := congrArg String.length h
  simpa [counting] using hlength

theorem fresh_counting {a : Artifact} (hL : L.store.manifest.entries = [.ofArtifact a "" .epoch]) :
    ∀ i, Fresh ((counting 1).freshId i) L.store := by
  intro i e he h
  rw [hL] at he
  obtain rfl := List.mem_singleton.1 he
  have hlength := congrArg String.length h
  simp [counting, ManifestEntry.ofArtifact] at hlength
  omega

/-- The notices that follow each other. -/
def notices : Set Page := {notice "home" "1.0.0", notice "start" "1.0.0"}

theorem notices_injOn : Set.InjOn Page.checksum notices :=
  Set.injOn_pair.2 fun h => absurd h checksum_notice_ne

theorem offers_notice {noticeId : String} (hid : noticeId ∈ ["home", "start"]) :
    Offers notices "docs/home.json" .epoch (.ofPage (notice noticeId "1.0.0") .epoch) := by
  have hdecode : ∀ id ∈ ["home", "start"], Document.decode "docs/home.json"
      (noticeDocument id "1.0.0").toJson.text = .ok (noticeDocument id "1.0.0") := by decide +kernel
  refine ⟨_, _, hdecode noticeId hid, ?_, compile_notice hid⟩
  intro p hp
  obtain rfl := Except.ok.inj ((ofDocument_notice hid).symm.trans hp)
  obtain rfl | rfl : noticeId = "home" ∨ noticeId = "start" := by simpa using hid
  · exact Set.mem_insert _ _
  · exact Set.mem_insert_of_mem _ rfl

theorem ending_home : FilePath.hasEnding "json" "home.json" = true := by decide

/-- The first notice is built into an empty store. -/
theorem reached_notice : ∃ L, Reached notices False [.build "docs" (some "st")] L ∧
    L.store = Publisher.firstStore (.ofPage (notice "home" "1.0.0") .epoch) "" .epoch := by
  have hclean : Publishing.clean (.ofPage (notice "home" "1.0.0") .epoch) ((counting 0).freshId 0)
      (counting 0).now Ledger.initial.store = _ :=
    (Publishing.runOn_publish rfl).symm.trans (Publisher.runOn_first_publish rfl)
  obtain ⟨L, hL, hrun⟩ : ∃ L, L.store = _ ∧ (build (counting 0) "docs" (some "st")).run.Runs
      (Answers notices False) .initial _ L :=
    runs_build rfl ending_home (offers_notice List.mem_cons_self) hclean
  exact ⟨L, .run .initial rfl counting_injective (fun _ => fresh_empty) hrun, hL⟩

/-! ### Versions kept and repeated -/

/-- A version gets a second content exactly where an entry is added that repeats the version of the
live one, or of one that was recorded and never went live. Unless a pointer was stuck there is none
of the latter, and the command that compiles against what is live never adds one of the former. -/
theorem versions_kept_iff (hpages : Set.InjOn Page.checksum pages)
    (h : Reached pages stuck commands L) :
    (L.store.VersionsKept ↔ L.Clear) ∧
      (¬ stuck → ∀ s e, (s, e) ∈ L.added → ∀ e', ¬ s.Ahead e') ∧
      ((∀ c ∈ commands, c.publishesOne = true) → ∀ s e, (s, e) ∈ L.added → ¬ s.RepeatsLive e) :=
  have hsettled := h.settled hpages
  ⟨hsettled.kept, hsettled.settled, h.not_repeatsLive hpages⟩

theorem notice_kept : ∃ L, Reached notices False [.build "docs" (some "st")] L ∧
    (L.store.VersionsKept ↔ L.Clear) ∧ ∀ s e, (s, e) ∈ L.added → ∀ e', ¬ s.Ahead e' := by
  obtain ⟨L, hL, -⟩ := reached_notice
  obtain ⟨hkept, hlevel, -⟩ := versions_kept_iff notices_injOn hL
  exact ⟨L, hL, hkept, hlevel not_false⟩

/-- The second build has another notice under the version that is live. -/
theorem notice_repeats : ∃ L, Reached notices False
    [.build "docs" (some "st"), .build "docs" (some "st")] L ∧ ¬ L.store.VersionsKept := by
  obtain ⟨L, hL, hstore⟩ := reached_notice
  have hfresh : ∀ i, Fresh ((counting 1).freshId i) L.store := fresh_counting (by rw [hstore]; rfl)
  have ha : Offers notices (FilePath.join "docs" "home.json") (counting 1).now
      (.ofPage (notice "start" "1.0.0") .epoch) :=
    offers_notice (List.mem_cons_of_mem _ List.mem_cons_self)
  have hlive : L.store.live (notice "home" "1.0.0").layerKey =
      some (.ofArtifact (.ofPage (notice "home" "1.0.0") .epoch) "" .epoch) := by
    rw [hstore]
    exact Publisher.live_firstStore
  obtain ⟨output, L', hrun, hL'⟩ : ∃ output L', (build (counting 1) "docs" (some "st")).run.Runs
      (Answers notices False) L (.ok output) L' ∧ ¬ L'.store.VersionsKept :=
    build_repeats notices_injOn (hL.settled notices_injOn) (by rw [hstore]; rfl) ending_home ha
      hlive rfl checksum_notice_ne
  exact ⟨L', .run hL rfl counting_injective hfresh hrun, hL'⟩

/-- The other half of `Ledger.Clear`: the pointer of the first notice is stuck, so its entry stays
ahead of what is live, and the second notice repeats the version of that entry. -/
theorem notice_repeats_stuck : ∃ L, Reached notices True
    [.publish ⟨"docs/home.json", none⟩ (some "st"),
      .publish ⟨"docs/home.json", none⟩ (some "st")] L ∧ ¬ L.store.VersionsKept := by
  have hstuck : (Publishing.publish (.ofPage (notice "home" "1.0.0") .epoch)
      ((counting 0).freshId 0) (counting 0).now).run.Runs (AnsweredIf True) Ledger.initial.store
      (.error (.store (.unavailable "stuck"))) _ :=
    (runs_stuck rfl).mono fun _ _ _ _ hr => ⟨hr, fun _ _ _ => trivial⟩
  obtain ⟨L, hstore, hrun⟩ : ∃ L, L.store = _ ∧ (publish (counting 0) ⟨"docs/home.json", none⟩
      (some "st")).run.Runs (Answers notices True) .initial _ L :=
    runs_publishDocument (offers_notice List.mem_cons_self) rfl rfl hstuck
  have hL : Reached notices True [.publish ⟨"docs/home.json", none⟩ (some "st")] L :=
    .run .initial rfl counting_injective (fun _ => fresh_empty) hrun
  have hentries : L.store.manifest.entries =
      [.ofArtifact (.ofPage (notice "home" "1.0.0") .epoch) "" .epoch] := by rw [hstore]; rfl
  have ha : Offers notices "docs/home.json" (counting 1).now
      (.ofPage (notice "start" "1.0.0") .epoch) :=
    offers_notice (List.mem_cons_of_mem _ List.mem_cons_self)
  have hlive : L.store.live (notice "start" "1.0.0").layerKey = none := by rw [hstore]; rfl
  obtain ⟨output, L', hrun', hL'⟩ : ∃ output L', (publish (counting 1) ⟨"docs/home.json", none⟩
      (some "st")).run.Runs (Answers notices True) L (.ok output) L' ∧ ¬ L'.store.VersionsKept :=
    publish_repeats notices_injOn (hL.settled notices_injOn) (by rw [hstore]; rfl) ha rfl hlive
      (by rw [hentries]; exact List.mem_singleton_self _) rfl rfl checksum_notice_ne
  exact ⟨L', .run hL rfl counting_injective (fresh_counting hentries) hrun', hL'⟩

end PageLayers.CommandLine
