import PageLayers.Proofs.Store.Exclusive
import PageLayers.Proofs.Store.Publisher

/-! What a publisher has recorded: each entry is that of an artifact it was given, and no artifact
is recorded twice. -/

namespace PageLayers

open MemoryStore Program

variable {s t : MemoryStore} {c : StoreCall} {key key' : LayerKey} {id id' : String} {a : Artifact}
  {artifacts : Set Artifact} {old : Option ManifestEntry} {now : Timestamp} {S T : Publisher}

namespace MemoryStore

/-- Each entry is that of one of the artifacts, and there is one for each content of a key. -/
structure Records (artifacts : Set Artifact) (s : MemoryStore) : Prop where
  source : ∀ e ∈ s.manifest.entries, ∃ a ∈ artifacts, ∃ id now, e = .ofArtifact a id now
  distinct : (s.manifest.entries.map fun e => (e.layerKey, e.checksum)).Nodup

theorem records_empty : MemoryStore.empty.Records artifacts := by
  refine ⟨?_, List.nodup_nil⟩
  intro e he
  cases he

theorem Records.effect (hs : s.Records artifacts) (ha : a ∈ artifacts)
    (hc : s.Lawful a id now old c) (h : Effect s t c) : t.Records artifacts := by
  cases h with
  | unchanged hartifacts hmanifest hpointers =>
    exact ⟨hmanifest ▸ hs.source, hmanifest ▸ hs.distinct⟩
  | stored hnew hartifacts hmanifest hpointers =>
    exact ⟨hmanifest ▸ hs.source, hmanifest ▸ hs.distinct⟩
  | swapped hartifacts hmanifest hpointers =>
    exact ⟨hmanifest ▸ hs.source, hmanifest ▸ hs.distinct⟩
  | recorded hartifacts hmanifest hpointers =>
    obtain ⟨rfl, -, -, hnone, -⟩ := hc
    have hnew : (a.layerKey, a.checksum) ∉
        s.manifest.entries.map fun e => (e.layerKey, e.checksum) := by
      simpa [Manifest.find?] using hnone
    refine ⟨?_, ?_⟩
    · intro e he
      rw [hmanifest, Manifest.append] at he
      rcases List.mem_append.1 he with he | he
      · exact hs.source e he
      · exact ⟨a, ha, id, now, List.mem_singleton.1 he⟩
    · rw [hmanifest, Manifest.append, List.map_append]
      refine hs.distinct.append (List.nodup_singleton _) ?_
      rw [List.map_singleton, List.disjoint_singleton]
      exact hnew

/-- Each artifact that is stored is one of these. -/
def StoresOnly (artifacts : Set Artifact) (s : MemoryStore) : Prop :=
  ∀ checksum b, s.artifacts.get? checksum = some b → b ∈ artifacts

theorem StoresOnly.effect (hs : s.StoresOnly artifacts) (ha : a ∈ artifacts)
    (hc : s.Lawful a id now old c) (h : Effect s t c) : t.StoresOnly artifacts := by
  cases h with
  | unchanged hartifacts hmanifest hpointers => exact fun _ _ hb => hs _ _ (hartifacts ▸ hb)
  | recorded hartifacts hmanifest hpointers => exact fun _ _ hb => hs _ _ (hartifacts ▸ hb)
  | swapped hartifacts hmanifest hpointers => exact fun _ _ hb => hs _ _ (hartifacts ▸ hb)
  | stored hnew hartifacts hmanifest hpointers =>
    obtain ⟨rfl, -⟩ := hc
    intro checksum b hb
    rw [hartifacts] at hb
    rename_i stored
    by_cases hchecksum : checksum = stored.checksum
    · subst hchecksum
      rw [OrderedMap.get?_insert_self] at hb
      cases hb
      exact ha
    · rw [OrderedMap.get?_insert_of_ne hchecksum] at hb
      exact hs checksum b hb

/-- A publish leaves the pointers and entries of other keys alone. -/
theorem locked_of_effect (h : Effect s t c) (hc : s.Permits key id c) (hkey : key' ≠ key)
    (hid : id ≠ id') : Locked key' id' s t := by
  have hgrows := h.grows
  cases h with
  | unchanged hartifacts hmanifest hpointers => exact locked_of_eq hgrows hmanifest hpointers
  | stored hnew hartifacts hmanifest hpointers => exact locked_of_eq hgrows hmanifest hpointers
  | recorded hartifacts hmanifest hpointers =>
    have huntouched :=
      Publisher.untouched_of_effect (.recorded hartifacts hmanifest hpointers) hc hid
    obtain ⟨-, hekey, -⟩ := hc
    refine ⟨huntouched, ?_, ?_⟩
    · rw [hpointers]
    · simp [hmanifest, Manifest.history, Manifest.append, hekey, hkey.symm]
  | swapped hartifacts hmanifest hpointers =>
    obtain ⟨rfl, -⟩ := hc
    refine ⟨⟨hgrows, ?_⟩, ?_, by rw [hmanifest]⟩
    · unfold Fresh
      rw [hmanifest]
      exact fun hfresh => hfresh
    · rw [hpointers, OrderedMap.get?_insert_of_ne hkey]

end MemoryStore

namespace Publisher

/-- A step at which no publish starts but that of one of the artifacts. -/
inductive StepWith (artifacts : Set Artifact) (S : Publisher) : Publisher → Prop where
  | start {a : Artifact} {id : String} {now : Timestamp} (ha : a ∈ artifacts)
      (hfree : S.running a.layerKey = none) (hid : id ∉ S.ids) :
      StepWith artifacts S ({ S with ids := id :: S.ids }.withRunning a.layerKey
        (some (id, (Publishing.publish a id now).run)))
  | advance {T : Publisher} (h : S.Step T) (hids : T.ids = S.ids) : StepWith artifacts S T

/-- Any steps while only some artifacts are published. -/
abbrev StepsWith (artifacts : Set Artifact) : Publisher → Publisher → Prop :=
  Relation.ReflTransGen (StepWith artifacts)

theorem StepWith.step (h : StepWith artifacts S T) : S.Step T := by
  cases h with
  | start ha hfree hid => exact .start hfree hid
  | advance h hids => exact h

theorem Step.stepWith (h : S.Step T) : StepWith Set.univ S T := by
  cases h with
  | start hfree hid => exact .start trivial hfree hid
  | call hrunning hr => exact .advance (.call hrunning hr) rfl
  | finish hrunning => exact .advance (.finish hrunning) rfl

theorem Steps.ids_suffix (h : Steps S T) : S.ids <:+ T.ids := by
  induction h with
  | refl => exact List.suffix_refl _
  | tail _ hstep ih =>
    cases hstep with
    | start hfree hid => exact ih.trans (List.suffix_cons _ _)
    | call hrunning hr => exact ih
    | finish hrunning => exact ih

/-- Where no id is given out, no publish starts. -/
theorem Steps.stepsWith (h : Steps S T) (hids : T.ids = S.ids) : StepsWith artifacts S T := by
  induction h with
  | refl => exact .refl
  | tail hsteps hstep ih =>
    rename_i U T
    have hlater : U.ids <:+ T.ids := Steps.ids_suffix (.single hstep)
    have hsame : U.ids = T.ids :=
      hlater.eq_of_length_le (hids ▸ (Steps.ids_suffix hsteps).length_le)
    exact (ih (hsame.trans hids)).tail (.advance hstep hsame.symm)

theorem running_withRunning {p : Option (String × StoreProgram (Except PublishError Receipt))}
    {q : String × StoreProgram (Except PublishError Receipt)}
    (h : (S.withRunning key p).running key' = some q) :
    key' = key ∧ p = some q ∨ key' ≠ key ∧ S.running key' = some q := by
  by_cases hkey : key' = key
  · subst hkey
    rw [withRunning_self] at h
    exact .inl ⟨rfl, h⟩
  · rw [withRunning_of_ne hkey] at h
    exact .inr ⟨hkey, h⟩

/-- Every publish that goes on is one of an artifact, and keeps to its writes. -/
structure Orderly (artifacts : Set Artifact) (S : Publisher) : Prop where
  sound : S.Sound
  records : S.store.Records artifacts
  orderly : ∀ key id p, S.running key = some (id, p) → ∃ a ∈ artifacts, ∃ now old,
    a.layerKey = key ∧ p.Keeps (Publishing.exclusive a id now old True) (fun _ _ => True) S.store

theorem orderly_initial : initial.Orderly artifacts := by
  refine ⟨sound_initial, records_empty, ?_⟩
  intros
  contradiction

theorem Orderly.start (hS : S.Orderly artifacts) (ha : a ∈ artifacts) (hid : id ∉ S.ids) :
    ({ S with ids := id :: S.ids }.withRunning a.layerKey
      (some (id, (Publishing.publish a id now).run))).Orderly artifacts := by
  refine ⟨hS.sound.start hid, hS.records, ?_⟩
  intro key id' p hp
  rcases running_withRunning hp with ⟨rfl, hnew⟩ | ⟨-, hold⟩
  · cases hnew
    have hfresh : Fresh id S.store := by
      intro e he heid
      exact hid (heid ▸ hS.sound.known e he)
    refine ⟨a, ha, now, S.store.live a.layerKey, rfl, ?_⟩
    exact Keeps.mono (Publishing.orderly_publish (hS.sound.intact.stands a.layerKey) hfresh)
      fun _ _ _ => trivial
  · exact hS.orderly key id' p hold

theorem Orderly.finish (hS : S.Orderly artifacts) : (S.withRunning key none).Orderly artifacts := by
  refine ⟨hS.sound.finish, hS.records, ?_⟩
  intro key' id p hp
  rcases running_withRunning hp with ⟨rfl, hnone⟩ | ⟨-, hold⟩
  · cases hnone
  · exact hS.orderly key' id p hold

/-- What a call of a publish finds and what it is. -/
theorem Orderly.lawful
    {next : Except StoreError c.Result → StoreProgram (Except PublishError Receipt)}
    (hS : S.Orderly artifacts) (hrunning : S.running key = some (id, .call c next)) :
    ∃ a ∈ artifacts, ∃ now old, a.layerKey = key ∧ S.store.Lawful a id now old c ∧
      ∀ r store, Answered c S.store r store →
        (next r).Keeps (Publishing.exclusive a id now old True) (fun _ _ => True) store := by
  obtain ⟨a, ha, now, old, hkey, hkeeps⟩ := hS.orderly key id _ hrunning
  obtain ⟨hlawful, hnext⟩ := hkeeps S.store (.refl _ _ _)
  exact ⟨a, ha, now, old, hkey, hlawful, fun r store hr => hnext r store ⟨hr, fun _ _ _ => trivial⟩⟩

theorem Orderly.call
    {next : Except StoreError c.Result → StoreProgram (Except PublishError Receipt)}
    {r : Except StoreError c.Result} {store : MemoryStore} (hS : S.Orderly artifacts)
    (hrunning : S.running key = some (id, .call c next)) (hr : Answered c S.store r store) :
    ({ S with store }.withRunning key (some (id, next r))).Orderly artifacts := by
  obtain ⟨a, ha, now, old, hkey, hlawful, hnext⟩ := hS.lawful hrunning
  refine ⟨hS.sound.call hrunning hr, hS.records.effect ha hlawful hr.effect, ?_⟩
  intro key' id' p hp
  rcases running_withRunning hp with ⟨rfl, hown⟩ | ⟨hne, hother⟩
  · cases hown
    exact ⟨a, ha, now, old, hkey, hnext r store hr⟩
  · obtain ⟨b, hb, now', old', hkey', hkeeps⟩ := hS.orderly key' id' p hother
    refine ⟨b, hb, now', old', hkey', hkeeps.of_rely ?_ (fun _ _ _ => Locked.trans) fun _ h => h⟩
    have hid : id ≠ id' := by
      rintro rfl
      exact hne (hS.sound.distinct key' key id _ _ hother hrunning)
    subst hkey'
    exact locked_of_effect hr.effect (hkey ▸ hlawful.permits) hne hid

theorem Orderly.step (hS : S.Orderly artifacts) (h : StepWith artifacts S T) :
    T.Orderly artifacts := by
  cases h with
  | start ha hfree hid => exact hS.start ha hid
  | advance h hids =>
    cases h with
    | start hfree hid => exact absurd hids (List.cons_ne_self _ _)
    | call hrunning hr => exact hS.call hrunning hr
    | finish hrunning => exact hS.finish

theorem StepsWith.orderly (h : StepsWith artifacts initial S) : S.Orderly artifacts := by
  induction h with
  | refl => exact orderly_initial
  | tail _ hstep ih => exact ih.step hstep

/-- What is published is all that is ever stored. -/
theorem StepsWith.storesOnly (h : StepsWith artifacts initial S) :
    S.store.StoresOnly artifacts := by
  induction h with
  | refl => exact fun _ _ h => nomatch h
  | tail hsteps hstep ih =>
    cases hstep with
    | start ha hfree hid => exact ih
    | advance hstep hids =>
      cases hstep with
      | start hfree hid => exact ih
      | call hrunning hr =>
        obtain ⟨a, ha, now, old, -, hlawful, -⟩ := (StepsWith.orderly hsteps).lawful hrunning
        exact ih.effect ha hlawful hr.effect
      | finish hrunning => exact ih

theorem Reachable.orderly (hS : S.Reachable) : S.Orderly Set.univ :=
  StepsWith.orderly (Relation.ReflTransGen.mono (fun _ _ => Step.stepWith) _ _ hS)

theorem stepsWith_first_publish {a : Artifact} {now : Timestamp} (ha : a ∈ artifacts)
    (hpage : a.page.checksum = a.checksum) :
    StepsWith artifacts initial ⟨firstStore a id now, fun _ => none, [id]⟩ := by
  have hstart : StepWith artifacts initial ({ initial with ids := [id] }.withRunning a.layerKey
      (some (id, (Publishing.publish a id now).run))) := .start ha rfl List.not_mem_nil
  exact .head hstart (Steps.stepsWith (steps_first_calls hpage) rfl)

end Publisher

end PageLayers
