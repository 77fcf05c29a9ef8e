import PageLayers.Proofs.Store.PublishCalls
import Mathlib.Logic.Function.Basic
import Mathlib.Logic.Relation

/-! A publisher at work: publishes of different keys go on side by side on one store, one call at a
time, and any call may fail. -/

namespace PageLayers

open MemoryStore Program

/-- The store, the publish that goes on under each key with the id of its entry, and all ids that
were given out. -/
structure Publisher where
  store : MemoryStore
  running : LayerKey → Option (String × StoreProgram (Except PublishError Receipt))
  ids : List String

namespace Publisher

variable {S T U : Publisher} {key : LayerKey} {id : String}

def initial : Publisher := ⟨.empty, fun _ => none, []⟩

/-- The publish under a key goes on in another way, or is over. -/
def withRunning (S : Publisher) (key : LayerKey)
    (p : Option (String × StoreProgram (Except PublishError Receipt))) : Publisher :=
  { S with running := Function.update S.running key p }

/-- A publish starts when none goes on under its key, with an id that was never given out; it makes
its calls one by one, and ends. -/
inductive Step (S : Publisher) : Publisher → Prop where
  | start {a : Artifact} {id : String} {now : Timestamp} (hfree : S.running a.layerKey = none)
      (hid : id ∉ S.ids) :
      Step S ({ S with ids := id :: S.ids }.withRunning a.layerKey
        (some (id, (Publishing.publish a id now).run)))
  | call {key : LayerKey} {id : String} {c : StoreCall}
      {next : Except StoreError c.Result → StoreProgram (Except PublishError Receipt)}
      {r : Except StoreError c.Result} {store : MemoryStore}
      (hrunning : S.running key = some (id, .call c next)) (hr : Answered c S.store r store) :
      Step S ({ S with store }.withRunning key (some (id, next r)))
  | finish {key : LayerKey} {id : String} {result : Except PublishError Receipt}
      (hrunning : S.running key = some (id, .done result)) : Step S (S.withRunning key none)

abbrev Steps : Publisher → Publisher → Prop := Relation.ReflTransGen Step

/-- What the publisher can come to when its store was empty at first. -/
def Reachable (S : Publisher) : Prop := Steps initial S

theorem Reachable.steps (hS : Reachable S) (h : Steps S T) : Reachable T := hS.trans h

/-- The store is intact, and each publish that goes on will leave it so. -/
structure Sound (S : Publisher) : Prop where
  intact : S.store.Intact
  known : ∀ e ∈ S.store.manifest.entries, e.id ∈ S.ids
  given : ∀ key id p, S.running key = some (id, p) → id ∈ S.ids
  safe : ∀ key id p, S.running key = some (id, p) →
    p.Keeps (Publishing.setting key id) (fun _ _ => True) S.store
  distinct : ∀ key key' id p p', S.running key = some (id, p) → S.running key' = some (id, p') →
    key = key'

theorem sound_initial : initial.Sound := by
  refine ⟨intact_empty, ?_, ?_, ?_, ?_⟩
  · intro e he
    cases he
  all_goals intros; contradiction

/-- To the others, the calls of a publish are among the changes that they expect. -/
theorem untouched_of_effect {s t : MemoryStore} {c : StoreCall} {id' : String}
    (h : Effect s t c) (hc : s.Permits key id c) (hne : id ≠ id') : Untouched id' s t := by
  refine ⟨h.grows, ?_⟩
  intro hfresh e he
  rcases h.mem_entries hc he with he | rfl
  · exact hfresh e he
  · exact hne

theorem withRunning_self {p : Option (String × StoreProgram (Except PublishError Receipt))} :
    (S.withRunning key p).running key = p := by
  simp [withRunning]

theorem withRunning_of_ne {p : Option (String × StoreProgram (Except PublishError Receipt))}
    {key' : LayerKey} (h : key' ≠ key) : (S.withRunning key p).running key' = S.running key' := by
  simp [withRunning, h]

/-- A publish may take the place of the one under its key if it is safe, and its id is not that of
another. -/
theorem Sound.withRunning {p : Option (String × StoreProgram (Except PublishError Receipt))}
    (hS : S.Sound) (hgiven : ∀ id q, p = some (id, q) → id ∈ S.ids)
    (hsafe : ∀ id q, p = some (id, q) →
      q.Keeps (Publishing.setting key id) (fun _ _ => True) S.store)
    (hother : ∀ id q key' q', p = some (id, q) → S.running key' ≠ some (id, q')) :
    (S.withRunning key p).Sound := by
  refine ⟨hS.intact, hS.known, ?_, ?_, ?_⟩
  · intro key' id q hq
    by_cases hkey : key' = key
    · subst hkey
      rw [withRunning_self] at hq
      exact hgiven id q hq
    · rw [withRunning_of_ne hkey] at hq
      exact hS.given key' id q hq
  · intro key' id q hq
    by_cases hkey : key' = key
    · subst hkey
      rw [withRunning_self] at hq
      exact hsafe id q hq
    · rw [withRunning_of_ne hkey] at hq
      exact hS.safe key' id q hq
  · intro key₁ key₂ id q₁ q₂ h₁ h₂
    by_cases hkey₁ : key₁ = key
    · by_cases hkey₂ : key₂ = key
      · exact hkey₁.trans hkey₂.symm
      · subst hkey₁
        rw [withRunning_self] at h₁
        rw [withRunning_of_ne hkey₂] at h₂
        exact absurd h₂ (hother id q₁ key₂ q₂ h₁)
    · rw [withRunning_of_ne hkey₁] at h₁
      by_cases hkey₂ : key₂ = key
      · subst hkey₂
        rw [withRunning_self] at h₂
        exact absurd h₁ (hother id q₂ key₁ q₁ h₂)
      · rw [withRunning_of_ne hkey₂] at h₂
        exact hS.distinct key₁ key₂ id q₁ q₂ h₁ h₂

theorem Sound.finish (hS : S.Sound) : (S.withRunning key none).Sound := by
  refine hS.withRunning ?_ ?_ ?_ <;> intros <;> contradiction

/-- A call that is permitted to a publish does no harm to the others. -/
theorem Sound.store {c : StoreCall} {store : MemoryStore} (hS : S.Sound) (hid : id ∈ S.ids)
    (hother : ∀ key' q, S.running key' ≠ some (id, q)) (hc : S.store.Permits key id c)
    (h : Effect S.store store c) : ({ S with store } : Publisher).Sound := by
  refine ⟨hS.intact.effect hc h, ?_, hS.given, ?_, hS.distinct⟩
  · intro e he
    rcases h.mem_entries hc he with he | rfl
    · exact hS.known e he
    · exact hid
  · intro key' id' q hq
    have hne : id ≠ id' := by
      rintro rfl
      exact hother key' q hq
    exact (hS.safe key' id' q hq).of_rely (untouched_of_effect h hc hne)
      (fun _ _ _ => Untouched.trans) fun _ _ => trivial

theorem Sound.start {a : Artifact} {now : Timestamp} (hS : S.Sound) (hid : id ∉ S.ids) :
    ({ S with ids := id :: S.ids }.withRunning a.layerKey
      (some (id, (Publishing.publish a id now).run))).Sound := by
  have hfresh : Fresh id S.store := by
    intro e he heid
    exact hid (heid ▸ hS.known e he)
  have hnew : (Publishing.publish a id now).run.Keeps (Publishing.setting a.layerKey id)
      (fun _ _ => True) S.store := Keeps.mono (Publishing.safe_publish hfresh) fun _ _ _ => trivial
  have hids : ({ S with ids := id :: S.ids } : Publisher).Sound :=
    ⟨hS.intact, fun e he => List.mem_cons_of_mem id (hS.known e he),
      fun key id' q hq => List.mem_cons_of_mem id (hS.given key id' q hq), hS.safe, hS.distinct⟩
  refine hids.withRunning ?_ ?_ ?_
  · rintro _ _ ⟨⟩
    exact List.mem_cons_self
  · rintro _ _ ⟨⟩
    exact hnew
  · rintro _ _ key' q' ⟨⟩ hq'
    exact hid (hS.given key' id q' hq')

theorem Sound.call {c : StoreCall}
    {next : Except StoreError c.Result → StoreProgram (Except PublishError Receipt)}
    {r : Except StoreError c.Result} {store : MemoryStore} (hS : S.Sound)
    (hrunning : S.running key = some (id, .call c next)) (hr : Answered c S.store r store) :
    ({ S with store }.withRunning key (some (id, next r))).Sound := by
  obtain ⟨hpermits, hnext⟩ := hS.safe key id _ hrunning S.store (.refl id S.store)
  have hid := hS.given key id _ hrunning
  have hother : ∀ key' q, (S.withRunning key none).running key' ≠ some (id, q) := by
    intro key' q hq
    by_cases hkey : key' = key
    · subst hkey
      rw [withRunning_self] at hq
      cases hq
    · rw [withRunning_of_ne hkey] at hq
      exact hkey (hS.distinct key' key id q _ hq hrunning)
  have hfinish : (S.withRunning key none).Sound := hS.finish
  have hstore := hfinish.store hid hother hpermits hr.effect
  have hcall : (({ S.withRunning key none with store } : Publisher).withRunning key
      (some (id, next r))).Sound := by
    refine hstore.withRunning ?_ ?_ ?_
    · rintro _ _ ⟨⟩
      exact hid
    · rintro _ _ ⟨⟩
      exact hnext r store hr
    · rintro _ _ key' q' ⟨⟩
      exact hother key' q'
  simpa [Publisher.withRunning] using hcall

theorem Sound.step (hS : S.Sound) (h : S.Step T) : T.Sound := by
  cases h with
  | start hfree hid => exact hS.start hid
  | call hrunning hr => exact hS.call hrunning hr
  | finish hrunning => exact hS.finish

theorem Reachable.sound (hS : Reachable S) : S.Sound := by
  induction hS with
  | refl => exact sound_initial
  | tail _ hstep ih => exact ih.step hstep

theorem Step.grows (h : S.Step T) : S.store.Grows T.store := by
  cases h with
  | start hfree hid => exact .refl _
  | call hrunning hr => exact hr.effect.grows
  | finish hrunning => exact .refl _

theorem Steps.grows (h : Steps S T) : S.store.Grows T.store := by
  induction h with
  | refl => exact .refl _
  | tail _ hstep ih => exact ih.trans hstep.grows

/-- A publish that runs to its end at one go is a run of the publisher. -/
theorem steps_runOn {p : StoreProgram (Except PublishError Receipt)}
    (h : S.running key = some (id, p)) :
    Steps S ({ S with store := (p.runOn answer S.store).2 }.withRunning key none) := by
  induction p generalizing S with
  | done result => exact .single (.finish h)
  | call c next ih =>
    have hcall : S.Step ({ S with store := (answer c S.store).2 }.withRunning key
        (some (id, next (answer c S.store).1))) := .call h (.inl rfl)
    have hrest := ih (answer c S.store).1 (S := { S with store := (answer c S.store).2 }.withRunning
      key (some (id, next (answer c S.store).1))) withRunning_self
    refine .head hcall ?_
    simpa [withRunning, Program.runOn] using hrest

variable {a : Artifact} {now : Timestamp}

/-- The store of a first publish. -/
def firstStore (a : Artifact) (id : String) (now : Timestamp) : MemoryStore where
  artifacts := OrderedMap.empty.insert a.checksum a
  manifest := ⟨[.ofArtifact a id now]⟩
  pointers := OrderedMap.empty.insert a.layerKey id
  failNext := none

theorem runOn_first_publish (ha : a.page.checksum = a.checksum) :
    Program.runOn (I := storeInterface) answer (Publishing.publish a id now).run .empty =
      (.ok ⟨.published, .ofArtifact a id now, none⟩, firstStore a id now) := by
  unfold Publishing.publish
  dsimp only
  rw [if_neg (not_not.2 ha)]
  rfl

/-- The first publish, once it has started, up to its end. -/
theorem steps_first_calls (ha : a.page.checksum = a.checksum) :
    Steps ({ initial with ids := [id] }.withRunning a.layerKey
      (some (id, (Publishing.publish a id now).run)))
      ⟨firstStore a id now, fun _ => none, [id]⟩ := by
  have hrun := steps_runOn (S := { initial with ids := [id] }.withRunning a.layerKey
    (some (id, (Publishing.publish a id now).run))) withRunning_self
  have hstore : (Program.runOn (I := storeInterface) answer
      (Publishing.publish a id now).run .empty).2 = firstStore a id now := by
    rw [runOn_first_publish ha]
  simpa [withRunning, initial, hstore] using hrun

theorem steps_first_publish (ha : a.page.checksum = a.checksum) :
    Steps initial ⟨firstStore a id now, fun _ => none, [id]⟩ := by
  have hstart : initial.Step ({ initial with ids := [id] }.withRunning a.layerKey
      (some (id, (Publishing.publish a id now).run))) := .start rfl List.not_mem_nil
  exact .head hstart (steps_first_calls ha)

end Publisher

end PageLayers
