import PageLayers.Proofs.Artifact.Compiled
import PageLayers.Proofs.Outcome
import PageLayers.Proofs.Store.History

/-! A publish that runs alone, with and without failures: what it comes to, where it can be cut off,
and that a later publish takes up what it left. -/

namespace PageLayers

open MemoryStore Program

variable {s t : MemoryStore} {key : LayerKey} {id id' : String} {a : Artifact} {e : ManifestEntry}
  {now now' : Timestamp} {fails : Prop} {S : Publisher}

namespace MemoryStore

/-- The store with an artifact in it. -/
def stored (s : MemoryStore) (a : Artifact) : MemoryStore := (putArtifact a s).2

/-- The entry of an artifact, with an id and a time if there is none yet. -/
def entryOf (s : MemoryStore) (a : Artifact) (id : String) (now : Timestamp) : ManifestEntry :=
  (s.manifest.find? a.layerKey a.checksum).getD (.ofArtifact a id now)

/-- The store with the entry of an artifact in it. -/
def recorded (s : MemoryStore) (a : Artifact) (id : String) (now : Timestamp) : MemoryStore :=
  match s.manifest.find? a.layerKey a.checksum with
  | some _ => s
  | none => (appendEntry (.ofArtifact a id now) s).2

/-- The store after an artifact was stored and recorded and its entry has become the live one. -/
def wentLive (s : MemoryStore) (a : Artifact) (id : String) (now : Timestamp) : MemoryStore :=
  (swapPointer a.layerKey (s.entryOf a id now).id ((s.stored a).recorded a id now)).2

@[simp] theorem stored_manifest : (s.stored a).manifest = s.manifest := by
  unfold stored putArtifact
  dsimp only
  split <;> rfl

@[simp] theorem stored_pointers : (s.stored a).pointers = s.pointers := by
  unfold stored putArtifact
  dsimp only
  split <;> rfl

@[simp] theorem stored_failNext : (s.stored a).failNext = s.failNext := by
  unfold stored putArtifact
  dsimp only
  split <;> rfl

theorem stored_contains : (s.stored a).artifacts.contains a.checksum = true := by
  unfold stored putArtifact
  dsimp only
  split
  · assumption
  · simp [OrderedMap.contains]

theorem stored_of_contains (h : s.artifacts.contains a.checksum = true) : s.stored a = s := by
  simp [stored, putArtifact, h]

@[simp] theorem recorded_artifacts : (s.recorded a id now).artifacts = s.artifacts := by
  unfold recorded
  split <;> rfl

@[simp] theorem recorded_pointers : (s.recorded a id now).pointers = s.pointers := by
  unfold recorded
  split <;> rfl

@[simp] theorem recorded_failNext : (s.recorded a id now).failNext = s.failNext := by
  unfold recorded
  split <;> rfl

theorem entryOf_stored : (s.stored a).entryOf a id now = s.entryOf a id now := by
  unfold entryOf
  rw [stored_manifest]

theorem find?_recorded : (s.recorded a id now).manifest.find? a.layerKey a.checksum =
    some (s.entryOf a id now) := by
  unfold recorded entryOf
  cases hfind : s.manifest.find? a.layerKey a.checksum with
  | some e => simpa using hfind
  | none => exact Manifest.find?_append_self hfind

/-- An artifact is recorded once. -/
theorem recorded_recorded :
    (s.recorded a id now).recorded a id' now' = s.recorded a id now := by
  rw [recorded, find?_recorded]

theorem entryOf_recorded :
    (s.recorded a id now).entryOf a id' now' = s.entryOf a id now := by
  rw [entryOf, find?_recorded]
  rfl

/-- What was done before a publish was cut off need not be done again. -/
theorem wentLive_stored : (s.stored a).wentLive a id now = s.wentLive a id now := by
  unfold wentLive
  rw [entryOf_stored, stored_of_contains stored_contains]

theorem wentLive_recorded :
    ((s.stored a).recorded a id now).wentLive a id' now' = s.wentLive a id now := by
  have hcontains : ((s.stored a).recorded a id now).artifacts.contains a.checksum = true := by
    rw [recorded_artifacts, stored_contains]
  unfold wentLive
  rw [entryOf_recorded, entryOf_stored, stored_of_contains hcontains, recorded_recorded]

theorem grows_stored : s.Grows (s.stored a) := (effect_put a s).grows

theorem grows_recorded : s.Grows (s.recorded a id now) := by
  refine ⟨fun checksum b hb => ?_, ?_⟩
  · rwa [recorded_artifacts]
  · unfold recorded
    split
    · exact List.prefix_refl _
    · exact List.prefix_append _ _

theorem checksum_entryOf : (s.entryOf a id now).checksum = a.checksum := by
  unfold entryOf
  cases hfind : s.manifest.find? a.layerKey a.checksum with
  | some e => exact (Manifest.find?_eq_some hfind).2.2
  | none => rfl

theorem recorded_stored_manifest :
    ((s.stored a).recorded a id now).manifest = (s.recorded a id now).manifest := by
  unfold recorded
  rw [stored_manifest]
  split <;> simp [appendEntry]

theorem get?_recorded (hs : s.Intact) (hfresh : Fresh id s) :
    (s.recorded a id now).manifest.get? (s.entryOf a id now).id = some (s.entryOf a id now) := by
  unfold recorded entryOf
  cases hfind : s.manifest.find? a.layerKey a.checksum with
  | some e => exact hs.get?_of_mem (Manifest.find?_eq_some hfind).1
  | none => exact Manifest.get?_append_self (Manifest.get?_eq_none.2 hfresh)

theorem pointer_wentLive :
    (s.wentLive a id now).pointers.get? a.layerKey = some (s.entryOf a id now).id := by
  simp [wentLive, swapPointer]

theorem live_wentLive (hs : s.Intact) (hfresh : Fresh id s) :
    (s.wentLive a id now).live a.layerKey = some (s.entryOf a id now) := by
  have hmanifest : (s.wentLive a id now).manifest = (s.recorded a id now).manifest :=
    recorded_stored_manifest
  unfold live
  rw [pointer_wentLive, hmanifest]
  exact get?_recorded hs hfresh

theorem contains_wentLive : (s.wentLive a id now).artifacts.contains a.checksum = true := by
  simp [wentLive, swapPointer, stored_contains]

end MemoryStore

namespace Publishing

/-- What a publish makes of what it reads: it is refused, or the live entry is what it asks for, or
it goes on. -/
def verdict (a : Artifact) (s : MemoryStore) : Except PublishError (Option ManifestEntry) :=
  if a.page.checksum ≠ a.checksum then
    .error (.checksumMismatch a.layerKey a.checksum a.page.checksum)
  else
    match s.live a.layerKey with
    | none => .ok none
    | some e =>
      if e.checksum = a.checksum ∧ s.artifacts.contains a.checksum = true then .ok (some e)
      else (checkVersion a.layerKey e.contentVersion a.contentVersion).map fun _ => none

/-- The result of a publish when no call fails, and the store after it. -/
def clean (a : Artifact) (id : String) (now : Timestamp) (s : MemoryStore) :
    Except PublishError Receipt × MemoryStore :=
  match verdict a s with
  | .error cause => (.error cause, s)
  | .ok (some e) => (.ok ⟨.unchanged, e, s.pointers.get? a.layerKey⟩, s)
  | .ok none =>
    (.ok ⟨.published, s.entryOf a id now, s.pointers.get? a.layerKey⟩, s.wentLive a id now)

/-- Where a failing call can leave the store. -/
inductive CutOff (a : Artifact) (id : String) (now : Timestamp) (s : MemoryStore) :
    MemoryStore → Prop where
  | untouched : CutOff a id now s s
  | stored (h : verdict a s = .ok none) : CutOff a id now s (s.stored a)
  | recorded (h : verdict a s = .ok none) : CutOff a id now s ((s.stored a).recorded a id now)

/-- How a publish can end: as it would without failures, or cut off. -/
def Ended (fails : Prop) (a : Artifact) (id : String) (now : Timestamp) (s : MemoryStore)
    (r : Except PublishError Receipt) (t : MemoryStore) : Prop :=
  (r, t) = clean a id now s ∨ fails ∧ (∃ cause, r = .error (.store cause)) ∧ CutOff a id now s t

/-- A publish that runs alone; calls fail only if they may. -/
def alone (fails : Prop) : Setting storeInterface MemoryStore :=
  ⟨Eq, fun _ _ => True, fun c s r t => answer c s = (r, t) ∨ fails ∧ ∃ e, r = .error e ∧ t = s⟩

variable {α β : Type}

/-- A part of a publish whose failures cut the publish off. -/
def Reaches (fails : Prop) (a : Artifact) (id : String) (now : Timestamp) (s₀ : MemoryStore)
    (post : α → MemoryStore → Prop) (p : Publishing α) (s : MemoryStore) : Prop :=
  Ends (alone fails) post (fun cause t => Ended fails a id now s₀ (.error cause) t) p s

theorem Reaches.bind {s₀ : MemoryStore} {post : β → MemoryStore → Prop} {p : Publishing α}
    {f : α → Publishing β}
    (h : Reaches fails a id now s₀ (fun x t => Reaches fails a id now s₀ post (f x) t) p s) :
    Reaches fails a id now s₀ post (p >>= f) s :=
  Ends.bind h

theorem reaches_perform {s₀ : MemoryStore} {c : StoreCall} {x : c.Result}
    {post : c.Result → MemoryStore → Prop} (hanswer : answer c s = (.ok x, t))
    (hcut : CutOff a id now s₀ s) (hpost : post x t) :
    Reaches fails a id now s₀ post (perform c) s := by
  rintro _ rfl
  refine ⟨trivial, ?_⟩
  rintro r u (hr | ⟨hfails, cause, rfl, rfl⟩)
  · rw [hanswer] at hr
    cases hr
    exact hpost
  · exact .inr ⟨hfails, ⟨cause, rfl⟩, hcut⟩

theorem answer_put (hs : s.failNext = none) : answer (.put a) s = (.ok (), s.stored a) := by
  simp [answer, write, hs, stored]

theorem answer_append (hs : s.failNext = none) :
    answer (.append e) s = (.ok (), (appendEntry e s).2) := by
  simp [answer, write, hs, appendEntry]

theorem answer_swap (hs : s.failNext = none) : answer (.swap key id) s =
    (.ok (s.pointers.get? key), (swapPointer key id s).2) := by
  simp [answer, write, hs, swapPointer]

theorem reaches_store (hs : s.failNext = none) :
    Reaches fails a id now s (fun _ t => t = s.stored a) (store a) s := by
  unfold store
  refine Reaches.bind (reaches_perform rfl .untouched ?_)
  cases hcontains : s.artifacts.contains a.checksum with
  | true => exact ends_pure (stored_of_contains hcontains).symm
  | false => exact reaches_perform (answer_put hs) .untouched rfl

theorem reaches_goLive (hs : s.failNext = none) (hverdict : verdict a s = .ok none) :
    Reaches fails a id now s (fun receipt t => Ended fails a id now s (.ok receipt) t)
      (goLive s.manifest (s.pointers.get? a.layerKey) a id now) s := by
  unfold goLive
  refine Reaches.bind ((reaches_store hs).mono ?_ fun _ _ h => h)
  rintro _ _ rfl
  have hrecord : Reaches fails a id now s
      (fun e t => e = s.entryOf a id now ∧ t = (s.stored a).recorded a id now)
      (record s.manifest a id now) (s.stored a) := by
    unfold record entryOf recorded
    rw [stored_manifest]
    cases hfind : s.manifest.find? a.layerKey a.checksum with
    | some e => exact ends_pure ⟨rfl, rfl⟩
    | none =>
      refine Reaches.bind
        (reaches_perform (answer_append (by simpa using hs)) (.stored hverdict) ?_)
      exact ends_pure ⟨rfl, rfl⟩
  refine Reaches.bind (hrecord.mono ?_ fun _ _ h => h)
  rintro _ _ ⟨rfl, rfl⟩
  refine Reaches.bind (reaches_perform (answer_swap (by simpa using hs)) (.recorded hverdict) ?_)
  refine ends_pure (.inl ?_)
  unfold clean
  rw [hverdict]
  rfl

theorem reaches_publish (hs : s.failNext = none) :
    Reaches fails a id now s (fun receipt t => Ended fails a id now s (.ok receipt) t)
      (publish a id now) s := by
  unfold publish
  dsimp only
  split
  · rename_i ha
    refine Reaches.bind (ends_throw (.inl ?_))
    simp [clean, verdict, ha]
  · rename_i ha
    refine Reaches.bind (reaches_perform rfl .untouched ?_)
    refine Reaches.bind (reaches_perform rfl .untouched ?_)
    have hread : (s.pointers.get? a.layerKey).bind s.manifest.get? = s.live a.layerKey := rfl
    rw [hread]
    cases hlive : s.live a.layerKey with
    | none => exact reaches_goLive hs (by simp [verdict, ha, hlive])
    | some e =>
      have hcheck : (e.checksum = a.checksum → s.artifacts.contains a.checksum = false) →
          Reaches fails a id now s (fun receipt t => Ended fails a id now s (.ok receipt) t)
            (do
              checkVersion a.layerKey e.contentVersion a.contentVersion
              goLive s.manifest (s.pointers.get? a.layerKey) a id now : Publishing Receipt) s := by
        intro hmissing
        have hverdict : verdict a s =
            (checkVersion a.layerKey e.contentVersion a.contentVersion).map fun _ => none := by
          unfold verdict
          rw [if_neg ha, hlive]
          exact if_neg fun h => by simp [hmissing h.1] at h
        refine Reaches.bind ?_
        cases hchecked : checkVersion a.layerKey e.contentVersion a.contentVersion with
        | error cause =>
          rw [hchecked] at hverdict
          exact ends_throw (.inl (by simp [clean, hverdict, Except.map]))
        | ok _ =>
          rw [hchecked] at hverdict
          exact ends_pure (reaches_goLive hs hverdict)
      dsimp only
      split
      · rename_i hchecksum
        refine Reaches.bind (reaches_perform rfl .untouched ?_)
        cases hcontains : s.artifacts.contains a.checksum with
        | true => exact ends_pure (.inl (by simp [clean, verdict, ha, hlive, hchecksum, hcontains]))
        | false => exact hcheck fun _ => hcontains
      · rename_i hchecksum
        exact Reaches.bind (ends_pure (hcheck fun h => absurd h hchecksum))

/-- A publish that runs alone ends as it would without failures, or is cut off on the way. -/
theorem ended_of_runs {r : Except PublishError Receipt} (hs : s.failNext = none)
    (h : (publish a id now).run.Runs Answered s r t) : Ended True a id now s r t := by
  have hruns : (publish a id now).run.Runs (alone True).answers s r t :=
    h.mono fun _ _ _ _ hr => hr.imp_right fun hfail => ⟨trivial, hfail⟩
  have hended := Keeps.of_runs (reaches_publish hs) hruns fun _ => rfl
  cases r <;> exact hended

theorem runOn_publish (hs : s.failNext = none) :
    Program.runOn (I := storeInterface) answer (publish a id now).run s = clean a id now s := by
  have hreaches : Reaches False a id now s
      (fun receipt t => Ended False a id now s (.ok receipt) t) (publish a id now) s :=
    reaches_publish hs
  have hanswer : ∀ c s, (alone False).allowed c s →
      (alone False).answers c s (answer c s).1 (answer c s).2 := fun _ _ _ => .inl rfl
  have hended := Keeps.runOn hreaches (fun _ => rfl) hanswer
  cases hrun : Program.runOn (I := storeInterface) answer (publish a id now).run s with
  | mk r t =>
    rw [hrun] at hended
    cases r <;> exact hended.resolve_right fun h => h.1

/-- In an intact store only the entries tell whether a publish goes on. -/
theorem verdict_eq_none (hs : s.Intact) : verdict a s = .ok none ↔ a.page.checksum = a.checksum ∧
    ∀ e, s.live a.layerKey = some e → e.checksum ≠ a.checksum ∧
      checkVersion a.layerKey e.contentVersion a.contentVersion = .ok () := by
  unfold verdict
  by_cases ha : a.page.checksum = a.checksum
  · cases hlive : s.live a.layerKey with
    | none => simp [ha]
    | some e =>
      have hmem := (Manifest.get?_eq_some ((hlive ▸ hs.stands a.layerKey).named e rfl)).1
      obtain ⟨href, b, hb⟩ := hs.entries e hmem
      by_cases hchecksum : e.checksum = a.checksum
      · have hcontains : s.artifacts.contains a.checksum = true := by
          rw [← hchecksum, ← href]
          simp [OrderedMap.contains, hb]
        simp [ha, hchecksum, hcontains]
      · cases hcheck : checkVersion a.layerKey e.contentVersion a.contentVersion <;>
          simp [ha, hchecksum, hcheck, Except.map]
  · simp [ha]

theorem verdict_eq_none_of_live (hs : s.Intact) (h : verdict a s = .ok none)
    (hlive : t.live a.layerKey = s.live a.layerKey) : verdict a t = .ok none := by
  obtain ⟨ha, hfollows⟩ := (verdict_eq_none hs).1 h
  unfold verdict
  rw [hlive, if_neg (not_not.2 ha)]
  cases hold : s.live a.layerKey with
  | none => rfl
  | some e =>
    obtain ⟨hchecksum, hcheck⟩ := hfollows e hold
    simp [hchecksum, hcheck, Except.map]

theorem live_of_verdict (h : verdict a s = .ok (some e)) : s.live a.layerKey = some e := by
  unfold verdict at h
  split at h
  · cases h
  · cases hlive : s.live a.layerKey with
    | none => simp [hlive] at h
    | some e' =>
      simp only [hlive] at h
      split at h
      · cases h
        rfl
      · obtain ⟨_, -, hnone⟩ := except_map_eq_ok.1 h
        cases hnone

theorem clean_of_verdict (h : verdict a s = .ok none) : clean a id now s =
    (.ok ⟨.published, s.entryOf a id now, s.pointers.get? a.layerKey⟩, s.wentLive a id now) := by
  rw [clean, h]

theorem CutOff.pointers (h : CutOff a id now s t) : t.pointers = s.pointers := by
  cases h with
  | untouched => rfl
  | stored hverdict => exact stored_pointers
  | recorded hverdict => rw [recorded_pointers, stored_pointers]

theorem CutOff.failNext (h : CutOff a id now s t) : t.failNext = s.failNext := by
  cases h with
  | untouched => rfl
  | stored hverdict => exact stored_failNext
  | recorded hverdict => rw [recorded_failNext, stored_failNext]

/-- Without failures a publish leaves the store as it is, or its artifact goes live. -/
theorem store_of_clean {r : Except PublishError Receipt} (h : (r, t) = clean a id now s) :
    t = s ∨ (∃ receipt, r = .ok receipt) ∧ t = s.wentLive a id now := by
  unfold clean at h
  split at h <;> cases h
  · exact .inl rfl
  · exact .inl rfl
  · exact .inr ⟨⟨_, rfl⟩, rfl⟩

theorem Ended.failNext {r : Except PublishError Receipt} (h : Ended fails a id now s r t) :
    t.failNext = s.failNext := by
  rcases h with hclean | ⟨-, -, hcut⟩
  · rcases store_of_clean hclean with rfl | ⟨-, rfl⟩
    · rfl
    · simp [wentLive, swapPointer]
  · exact hcut.failNext

theorem Ended.pointers_of_error {cause : PublishError}
    (h : Ended fails a id now s (.error cause) t) :
    t.pointers = s.pointers := by
  rcases h with hclean | ⟨-, -, hcut⟩
  · rcases store_of_clean hclean with rfl | ⟨⟨receipt, hok⟩, -⟩
    · rfl
    · cases hok
  · exact hcut.pointers

theorem Ended.pointer_of_ne {r : Except PublishError Receipt} (h : Ended fails a id now s r t)
    (hkey : key ≠ a.layerKey) : t.pointers.get? key = s.pointers.get? key := by
  rcases h with hclean | ⟨-, -, hcut⟩
  · rcases store_of_clean hclean with rfl | ⟨-, rfl⟩
    · rfl
    · simp [wentLive, swapPointer, OrderedMap.get?_insert_of_ne hkey]
  · rw [hcut.pointers]

/-- Wherever a publish was cut off, the next one ends as one of the two would have ended at once. -/
theorem clean_of_cutOff (hs : s.Intact) (h : CutOff a id now s t) :
    clean a id' now' t = clean a id now s ∨ clean a id' now' t = clean a id' now' s := by
  have hstands := hs.stands a.layerKey
  cases h with
  | untouched => exact .inr rfl
  | stored hverdict =>
    have hlive : (s.stored a).live a.layerKey = s.live a.layerKey :=
      hstands.live_eq_of grows_stored (by rw [stored_pointers])
    refine .inr ?_
    rw [clean_of_verdict (verdict_eq_none_of_live hs hverdict hlive), clean_of_verdict hverdict,
      entryOf_stored, wentLive_stored, stored_pointers]
  | recorded hverdict =>
    have hlive : ((s.stored a).recorded a id now).live a.layerKey = s.live a.layerKey :=
      hstands.live_eq_of (grows_stored.trans grows_recorded)
        (by rw [recorded_pointers, stored_pointers])
    refine .inl ?_
    rw [clean_of_verdict (verdict_eq_none_of_live hs hverdict hlive), clean_of_verdict hverdict,
      entryOf_recorded, entryOf_stored, wentLive_recorded, recorded_pointers, stored_pointers]

/-- After an error the next publish ends as one of the two would have ended at once. -/
theorem Ended.clean_of_error {cause : PublishError} (hs : s.Intact)
    (h : Ended fails a id now s (.error cause) t) (id' : String) (now' : Timestamp) :
    clean a id' now' t = clean a id now s ∨ clean a id' now' t = clean a id' now' s := by
  rcases h with hclean | ⟨-, -, hcut⟩
  · rcases store_of_clean hclean with rfl | ⟨⟨receipt, hok⟩, -⟩
    · exact .inr rfl
    · cases hok
  · exact clean_of_cutOff hs hcut

/-- What is live and stored is not published once more. -/
theorem clean_of_live (ha : a.page.checksum = a.checksum) (hlive : s.live a.layerKey = some e)
    (hchecksum : e.checksum = a.checksum) (hcontains : s.artifacts.contains a.checksum = true) :
    clean a id now s = (.ok ⟨.unchanged, e, s.pointers.get? a.layerKey⟩, s) := by
  simp [clean, verdict, ha, hlive, hchecksum, hcontains]

/-- A publish that succeeds leaves nothing to do. -/
theorem clean_again {receipt : Receipt} (hs : s.Intact) (hfresh : Fresh id s)
    (h : clean a id now s = (.ok receipt, t)) :
    clean a id' now' t = (.ok ⟨.unchanged, receipt.entry, some receipt.entry.id⟩, t) := by
  unfold clean at h
  split at h
  · cases h
  · rename_i e hverdict
    cases h
    have hlive : s.live a.layerKey = some e := live_of_verdict hverdict
    have hpointer : s.pointers.get? a.layerKey = some e.id := (hlive ▸ hs.stands a.layerKey).pointer
    rw [clean, hverdict, hpointer]
  · rename_i hverdict
    cases h
    have ha := ((verdict_eq_none hs).1 hverdict).1
    rw [clean_of_live ha (live_wentLive hs hfresh) checksum_entryOf contains_wentLive,
      pointer_wentLive]

end Publishing

namespace MemoryStore

theorem Answered.failNext {c : StoreCall} {r : Except StoreError c.Result} (h : Answered c s r t)
    (hs : s.failNext = none) : t.failNext = none := by
  rcases h with h | ⟨_, -, rfl⟩
  · cases c with
    | put b =>
      rw [Publishing.answer_put hs] at h
      cases h
      rw [stored_failNext, hs]
    | append e =>
      rw [Publishing.answer_append hs] at h
      cases h
      exact hs
    | swap key id =>
      rw [Publishing.answer_swap hs] at h
      cases h
      exact hs
    | get checksum =>
      simp only [answer] at h
      split at h <;> cases h <;> exact hs
    | contains checksum =>
      cases h
      exact hs
    | loadManifest =>
      cases h
      exact hs
    | loadPointers =>
      cases h
      exact hs
  · exact hs

end MemoryStore

theorem Publisher.Reachable.failNext (hS : S.Reachable) : S.store.failNext = none := by
  induction hS with
  | refl => rfl
  | tail _ hstep ih =>
    cases hstep with
    | start hfree hid => exact ih
    | call hrunning hr => exact hr.failNext ih
    | finish hrunning => exact ih

/-- A publish that runs alone on what publishing has left, while any of its calls fails: when it
ends with an error no pointer has moved, and the next publish without a failure gives what it or the
first would have given at once; when it succeeds, one more gives the same entry and changes nothing.
The pointers of other keys stay, and no content is recorded twice under a key. -/
theorem publish_atomic {r : Except PublishError Receipt} (hS : S.Reachable)
    (hfresh : Fresh id S.store) (h : (Publishing.publish a id now).run.Runs Answered S.store r t) :
    (∀ cause, r = .error cause → t.pointers = S.store.pointers ∧ ∀ id' now',
      ∃ first ∈ [(id, now), (id', now')],
        Program.runOn (I := storeInterface) answer (Publishing.publish a id' now').run t =
          Program.runOn (I := storeInterface) answer
            (Publishing.publish a first.1 first.2).run S.store) ∧
    (∀ receipt, r = .ok receipt → ∀ id' now',
      Program.runOn (I := storeInterface) answer (Publishing.publish a id' now').run t =
        (.ok ⟨.unchanged, receipt.entry, some receipt.entry.id⟩, t)) ∧
    (∀ key, key ≠ a.layerKey → t.pointers.get? key = S.store.pointers.get? key) ∧
    (S.store.manifest.entries.map fun e => (e.layerKey, e.checksum)).Nodup := by
  have hs := hS.failNext
  have hintact := hS.sound.intact
  have hended := Publishing.ended_of_runs hs h
  refine ⟨?_, ?_, ?_, hS.orderly.records.distinct⟩
  · rintro cause rfl
    refine ⟨hended.pointers_of_error, fun id' now' => ?_⟩
    rw [Publishing.runOn_publish (hended.failNext.trans hs)]
    rcases Publishing.Ended.clean_of_error hintact hended id' now' with hfirst | hsecond
    · exact ⟨(id, now), by simp, hfirst.trans (Publishing.runOn_publish hs).symm⟩
    · exact ⟨(id', now'), by simp, hsecond.trans (Publishing.runOn_publish hs).symm⟩
  · rintro receipt rfl id' now'
    rw [Publishing.runOn_publish (hended.failNext.trans hs)]
    rcases hended with hclean | ⟨-, ⟨cause, hcause⟩, -⟩
    · exact Publishing.clean_again hintact hfresh hclean.symm
    · cases hcause
  · exact fun key hkey => hended.pointer_of_ne hkey

/-- A first publish whose pointer does not move. -/
theorem runs_stuck {cause : StoreError} (ha : a.page.checksum = a.checksum) :
    (Publishing.publish a id now).run.Runs Answered .empty (.error (.store cause))
      { MemoryStore.empty with
        artifacts := OrderedMap.empty.insert a.checksum a
        manifest := ⟨[.ofArtifact a id now]⟩ } := by
  unfold Publishing.publish
  dsimp only
  rw [if_neg (not_not.2 ha)]
  exact .call (.inl rfl) (.call (.inl rfl) (.call (.inl rfl) (.call (.inl rfl)
    (.call (.inl rfl) (.call (.inr ⟨cause, rfl, rfl⟩) .done)))))

/-- The entry that a stuck publish has left is taken up by the next one. -/
theorem notice_retried : ∃ a t cause,
    a = Artifact.ofPage (notice "home" "1.0.0") .epoch ∧
    (Publishing.publish a "1" .epoch).run.Runs Answered Publisher.initial.store (.error cause) t ∧
    t.pointers = Publisher.initial.store.pointers ∧
    ∃ first ∈ [("1", Timestamp.epoch), ("2", Timestamp.epoch)],
      Program.runOn (I := storeInterface) answer (Publishing.publish a "2" .epoch).run t =
        Program.runOn (I := storeInterface) answer (Publishing.publish a first.1 first.2).run
          Publisher.initial.store := by
  let a := Artifact.ofPage (notice "home" "1.0.0") .epoch
  have hrun : (Publishing.publish a "1" .epoch).run.Runs Answered .empty
      (.error (.store (.unavailable "stuck"))) { MemoryStore.empty with
        artifacts := OrderedMap.empty.insert a.checksum a
        manifest := ⟨[.ofArtifact a "1" .epoch]⟩ } := runs_stuck rfl
  obtain ⟨hpointers, hretry⟩ := (publish_atomic .refl fresh_empty hrun).1 _ rfl
  exact ⟨a, _, _, rfl, hrun, hpointers, hretry "2" .epoch⟩

end PageLayers
