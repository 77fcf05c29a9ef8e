import PageLayers.Proofs.Artifact.Compiled
import PageLayers.Proofs.Store.History
import PageLayers.Proofs.Version.Order

/-! Live versions while a publisher works: that of a key never falls. -/

namespace PageLayers

open MemoryStore

variable {s t : MemoryStore} {c : StoreCall} {key : LayerKey} {id : String} {a : Artifact}
  {e e' e'' : ManifestEntry} {artifacts : Set Artifact} {old : Option ManifestEntry}
  {now : Timestamp} {S T : Publisher}

theorem Publishing.checkVersion_eq_ok {live publishing : String} :
    checkVersion key live publishing = .ok () ↔ ∃ v v', Version.parse live = .ok v ∧
      Version.parse publishing = .ok v' ∧ (compare v v').isLE = true := by
  unfold checkVersion version
  cases hlive : Version.parse live with
  | error cause => simp [Except.mapError, bind, Except.bind]
  | ok v =>
    cases hnew : Version.parse publishing with
    | error cause => simp [Except.mapError, bind, Except.bind]
    | ok v' =>
      have hswap : compare v' v = (compare v v').swap := Std.OrientedCmp.eq_swap
      cases hcompare : compare v v' <;>
        simp [Except.mapError, bind, Except.bind, pure, Except.pure, Version.lessThan, hswap,
          hcompare]

namespace ManifestEntry

/-- The second entry does not come before the first. -/
def UpTo (e e' : ManifestEntry) : Prop :=
  ∃ v v', Version.parse e.contentVersion = .ok v ∧ Version.parse e'.contentVersion = .ok v' ∧
    (compare v v').isLE = true

theorem UpTo.trans (h : e.UpTo e') (h' : e'.UpTo e'') : e.UpTo e'' := by
  obtain ⟨v, v₁, hv, hv₁, hle⟩ := h
  obtain ⟨v₂, v', hv₂, hv', hle'⟩ := h'
  obtain rfl : v₁ = v₂ := Except.ok.inj (hv₁.symm.trans hv₂)
  exact ⟨v, v', hv, hv', Std.TransCmp.isLE_trans hle hle'⟩

theorem upTo_self {v : Version} (h : Version.parse e.contentVersion = .ok v) : e.UpTo e :=
  ⟨v, v, h, h, Std.ReflCmp.isLE_rfl⟩

end ManifestEntry

namespace MemoryStore

/-- Only a swap of its own key changes what is live under a key. -/
theorem Effect.live (h : Effect s t c) (hs : Stands key old s) :
    t.live key = old ∨ ∃ id, c = .swap key id ∧ t.live key = s.manifest.get? id := by
  have hgrows := h.grows
  cases h with
  | unchanged hartifacts hmanifest hpointers =>
    exact .inl (hs.live_eq_of hgrows (by rw [hpointers]))
  | stored hnew hartifacts hmanifest hpointers =>
    exact .inl (hs.live_eq_of hgrows (by rw [hpointers]))
  | recorded hartifacts hmanifest hpointers => exact .inl (hs.live_eq_of hgrows (by rw [hpointers]))
  | swapped hartifacts hmanifest hpointers =>
    rename_i key' id
    by_cases hkey : key = key'
    · subst hkey
      refine .inr ⟨id, rfl, ?_⟩
      unfold live
      rw [hpointers, hmanifest, OrderedMap.get?_insert_self]
      rfl
    · exact .inl (hs.live_eq_of hgrows (by rw [hpointers, OrderedMap.get?_insert_of_ne hkey]))

variable (hcompiled : ∀ a ∈ artifacts, a.Compiled)
  (hsame : ∀ a ∈ artifacts, ∀ b ∈ artifacts, a.checksum = b.checksum → a.page = b.page)

include hcompiled in
theorem Records.upTo_self (hs : s.Records artifacts) (he : e ∈ s.manifest.entries) : e.UpTo e := by
  obtain ⟨a, ha, id, now, rfl⟩ := hs.source e he
  obtain ⟨v, hv⟩ := (hcompiled a ha).version
  exact ManifestEntry.upTo_self hv

include hcompiled hsame in
/-- An entry found by the checksum of an artifact has the version of the artifact. -/
theorem Records.contentVersion_eq (hs : s.Records artifacts) (ha : a ∈ artifacts)
    (he : e ∈ s.manifest.entries) (hchecksum : e.checksum = a.checksum) :
    e.contentVersion = a.contentVersion := by
  obtain ⟨b, hb, id, now, rfl⟩ := hs.source e he
  have hpage := hsame b hb a ha hchecksum
  calc b.contentVersion = b.page.contentVersion := (hcompiled b hb).contentVersion_eq
    _ = a.page.contentVersion := by rw [hpage]
    _ = a.contentVersion := (hcompiled a ha).contentVersion_eq.symm

include hcompiled hsame in
theorem Records.live_call (hs : s.Records artifacts) (ha : a ∈ artifacts)
    (hc : s.Lawful a id now old c) (h : Effect s t c) (hold : Stands key (some e) s) :
    ∃ e', t.live key = some e' ∧ e.UpTo e' := by
  rcases h.live hold with hlive | ⟨id', rfl, hlive⟩
  · exact ⟨e, hlive, hs.upTo_self hcompiled (Manifest.get?_eq_some (hold.named e rfl)).1⟩
  · obtain ⟨rfl, ⟨e', he', -, hchecksum⟩, hstands, hadmits⟩ := hc
    refine ⟨e', hlive.trans he', ?_⟩
    have hversion := hs.contentVersion_eq hcompiled hsame ha (Manifest.get?_eq_some he').1 hchecksum
    have hadmitted := hadmits e (hstands.live_eq.symm.trans hold.live_eq)
    unfold ManifestEntry.UpTo
    rw [hversion]
    exact Publishing.checkVersion_eq_ok.1 hadmitted

end MemoryStore

namespace Publisher

variable (hcompiled : ∀ a ∈ artifacts, a.Compiled)
  (hsame : ∀ a ∈ artifacts, ∀ b ∈ artifacts, a.checksum = b.checksum → a.page = b.page)

include hcompiled hsame in
theorem Orderly.live_step (hS : S.Orderly artifacts) (h : S.Step T)
    (he : S.store.live key = some e) : ∃ e', T.store.live key = some e' ∧ e.UpTo e' := by
  have hold : Stands key (some e) S.store := he ▸ hS.sound.intact.stands key
  have hmem := (Manifest.get?_eq_some (hold.named e rfl)).1
  have hself := hS.records.upTo_self hcompiled hmem
  cases h with
  | start hfree hid => exact ⟨e, he, hself⟩
  | finish hrunning => exact ⟨e, he, hself⟩
  | call hrunning hr =>
    obtain ⟨a, ha, now, old, -, hlawful, -⟩ := hS.lawful hrunning
    exact hS.records.live_call hcompiled hsame ha hlawful hr.effect hold

end Publisher

/-- However the publishes of compiled artifacts interleave, and whatever calls fail: a key that has
a live entry keeps having one, and its version never falls. -/
theorem live_version_never_falls (hcompiled : ∀ a ∈ artifacts, a.Compiled)
    (hsame : ∀ a ∈ artifacts, ∀ b ∈ artifacts, a.checksum = b.checksum → a.page = b.page)
    (hS : Publisher.StepsWith artifacts .initial S) (hST : Publisher.StepsWith artifacts S T)
    (he : S.store.live key = some e) :
    ∃ e', T.store.live key = some e' ∧ ∃ v v', Version.parse e.contentVersion = .ok v ∧
      Version.parse e'.contentVersion = .ok v' ∧ (compare v v').isLE = true := by
  have hrun : ∃ e', T.store.live key = some e' ∧ e.UpTo e' := by
    induction hST with
    | refl =>
      have hmem := Manifest.get?_eq_some ((he ▸ hS.orderly.sound.intact.stands key).named e rfl)
      exact ⟨e, he, hS.orderly.records.upTo_self hcompiled hmem.1⟩
    | tail hST hstep ih =>
      obtain ⟨e', he', hle⟩ := ih
      obtain ⟨e'', he'', hle'⟩ :=
        (Publisher.StepsWith.orderly (hS.trans hST)).live_step hcompiled hsame hstep.step he'
      exact ⟨e'', he'', hle.trans hle'⟩
  exact hrun

theorem Publisher.live_firstStore :
    (firstStore a id now).live a.layerKey = some (.ofArtifact a id now) := by
  unfold firstStore live
  rw [OrderedMap.get?_insert_self]
  simp [Manifest.get?, ManifestEntry.ofArtifact]

/-- The notice is live and is about to be published again. -/
theorem notice_never_falls : ∃ S T,
    Publisher.StepsWith {.ofPage (notice "home" "1.0.0") .epoch} .initial S ∧
      Publisher.StepsWith {.ofPage (notice "home" "1.0.0") .epoch} S T ∧
      T.running (notice "home" "1.0.0").layerKey ≠ none ∧
      ∃ e, S.store.live (notice "home" "1.0.0").layerKey = some e ∧
        ∃ e', T.store.live (notice "home" "1.0.0").layerKey = some e' ∧
          ∃ v v', Version.parse e.contentVersion = .ok v ∧
            Version.parse e'.contentVersion = .ok v' ∧ (compare v v').isLE = true := by
  let a := Artifact.ofPage (notice "home" "1.0.0") .epoch
  let S : Publisher := ⟨Publisher.firstStore a "1" .epoch, fun _ => none, ["1"]⟩
  have hstart : Publisher.StepWith {a} .initial ({ Publisher.initial with ids := ["1"] }.withRunning
      a.layerKey (some ("1", (Publishing.publish a "1" .epoch).run))) :=
    .start rfl rfl List.not_mem_nil
  have hS : Publisher.StepsWith {a} .initial S :=
    .head hstart (Publisher.Steps.stepsWith (Publisher.steps_first_calls rfl) rfl)
  have hnext : Publisher.StepWith {a} S ({ S with ids := ["2", "1"] }.withRunning a.layerKey
      (some ("2", (Publishing.publish a "2" .epoch).run))) := .start rfl rfl (by decide)
  have hlive : S.store.live a.layerKey = some (.ofArtifact a "1" .epoch) :=
    Publisher.live_firstStore
  have hcompiled : ∀ b ∈ ({a} : Set Artifact), b.Compiled := by
    rintro _ rfl
    exact ⟨noticeDocument "home" "1.0.0", .empty, .epoch, compile_notice List.mem_cons_self⟩
  have hsame : ∀ b ∈ ({a} : Set Artifact), ∀ b' ∈ ({a} : Set Artifact),
      b.checksum = b'.checksum → b.page = b'.page := by
    rintro _ rfl _ rfl _
    rfl
  refine ⟨S, _, hS, .single hnext, ?_, _, hlive, ?_⟩
  · intro hnone
    exact Option.some_ne_none _ (Publisher.withRunning_self.symm.trans hnone)
  · exact live_version_never_falls hcompiled hsame hS (.single hnext) hlive

end PageLayers
