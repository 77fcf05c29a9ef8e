import PageLayers.Store.Publish
import PageLayers.Proofs.Store.Intact
import PageLayers.Proofs.Interaction.Rely

/-! The calls of one publish, each made while publishes of other keys go on. -/

namespace PageLayers

open MemoryStore Program

/-- One call of a store, whether it succeeds or fails. -/
theorem Program.ends_perform {σ ε : Type} {E : Setting storeInterface σ} {s : σ} {c : StoreCall}
    {wrap : StoreError → ε} {post : c.Result → σ → Prop} {fails : ε → σ → Prop}
    (h : ∀ t, E.rely s t → E.allowed c t ∧ (∀ x u, E.answers c t (.ok x) u → post x u) ∧
      ∀ cause u, E.answers c t (.error cause) u → fails (wrap cause) u) :
    Ends E post fails (c.perform wrap) s := by
  intro t ht
  obtain ⟨hallowed, hpost, hfails⟩ := h t ht
  refine ⟨hallowed, ?_⟩
  intro r u hr
  cases r with
  | ok x => exact hpost x u hr
  | error cause => exact hfails cause u hr

variable {s t u : MemoryStore} {key : LayerKey} {id : String} {a : Artifact} {α β : Type}

namespace MemoryStore

/-- No entry has the id. -/
def Fresh (id : String) (s : MemoryStore) : Prop := ∀ e ∈ s.manifest.entries, e.id ≠ id

/-- An artifact is kept under the checksum. -/
def Holds (checksum : String) (s : MemoryStore) : Prop :=
  ∃ a, s.artifacts.get? checksum = some a

/-- What the publishes of other keys make of a store: it grows, and an id that is given to none of
them stays free. -/
structure Untouched (id : String) (s t : MemoryStore) : Prop where
  grows : s.Grows t
  fresh : Fresh id s → Fresh id t

theorem Untouched.refl (id : String) (s : MemoryStore) : Untouched id s s :=
  ⟨.refl s, fun h => h⟩

theorem Untouched.trans (hst : Untouched id s t) (htu : Untouched id t u) : Untouched id s u :=
  ⟨hst.grows.trans htu.grows, fun h => htu.fresh (hst.fresh h)⟩

theorem Holds.of_grows {checksum : String} (h : Holds checksum s) (hst : s.Grows t) :
    Holds checksum t := by
  obtain ⟨a, ha⟩ := h
  exact ⟨a, hst.artifacts checksum a ha⟩

theorem answered_contains {checksum : String} {b : Bool}
    (h : Answered (.contains checksum) s (.ok b) t) :
    t = s ∧ (b = true → Holds checksum s) := by
  obtain ⟨hb, rfl⟩ := Prod.mk.inj h.eq_of_ok
  obtain rfl := Except.ok.inj hb
  exact ⟨rfl, Option.isSome_iff_exists.1⟩

theorem answered_loadManifest {m : Manifest} (h : Answered .loadManifest s (.ok m) t) :
    t = s ∧ m = s.manifest := by
  obtain ⟨hresult, rfl⟩ := Prod.mk.inj h.eq_of_ok
  exact ⟨rfl, (Except.ok.inj hresult).symm⟩

theorem answered_loadPointers {p : Pointers} (h : Answered .loadPointers s (.ok p) t) :
    t = s ∧ p = s.pointers := by
  obtain ⟨hresult, rfl⟩ := Prod.mk.inj h.eq_of_ok
  exact ⟨rfl, (Except.ok.inj hresult).symm⟩

theorem write_eq_ok {point : FailPoint} {f : MemoryStore → α × MemoryStore} {x : α}
    (h : write point f s = (.ok x, t)) : f s = (x, t) := by
  unfold write at h
  split at h
  · cases h
  · simp only [Prod.mk.injEq, Except.ok.injEq] at h
    exact Prod.ext h.1 h.2

theorem answered_put (h : Answered (.put a) s (.ok ()) t) :
    t.manifest = s.manifest ∧ Holds a.checksum t := by
  have hput : putArtifact a s = ((), t) := write_eq_ok h.eq_of_ok
  unfold putArtifact at hput
  simp only [Prod.mk.injEq, true_and] at hput
  split at hput
  · rename_i hstored
    subst hput
    exact ⟨rfl, Option.isSome_iff_exists.1 hstored⟩
  · subst hput
    exact ⟨rfl, a, OrderedMap.get?_insert_self⟩

theorem answered_append {e : ManifestEntry} (h : Answered (.append e) s (.ok ()) t) :
    e ∈ t.manifest.entries := by
  have happend : appendEntry e s = ((), t) := write_eq_ok h.eq_of_ok
  simp only [appendEntry, Prod.mk.injEq, true_and] at happend
  subst happend
  simp [Manifest.append]

end MemoryStore

namespace Publishing

/-- A publish under a key, with the id of its entry, beside publishes of other keys. -/
def setting (key : LayerKey) (id : String) : Setting storeInterface MemoryStore :=
  ⟨Untouched id, fun c s => s.Permits key id c, Answered⟩

/-- All calls of a part of a publish leave the store intact, and its result suits the store. -/
def Safe (key : LayerKey) (id : String) (post : α → MemoryStore → Prop) (p : Publishing α)
    (s : MemoryStore) : Prop :=
  Ends (setting key id) post (fun _ _ => True) p s

theorem safe_perform {c : StoreCall} {post : c.Result → MemoryStore → Prop}
    (h : ∀ t, Untouched id s t →
      t.Permits key id c ∧ ∀ x u, Answered c t (.ok x) u → post x u) :
    Safe key id post (perform c) s := by
  refine ends_perform fun t ht => ?_
  obtain ⟨hpermits, hpost⟩ := h t ht
  exact ⟨hpermits, hpost, fun _ _ _ => trivial⟩

theorem Safe.bind {post : β → MemoryStore → Prop} {p : Publishing α} {f : α → Publishing β}
    (h : Safe key id (fun x t => Safe key id post (f x) t) p s) :
    Safe key id post (p >>= f) s :=
  Ends.bind h

theorem Safe.mono {post post' : α → MemoryStore → Prop} {p : Publishing α}
    (h : Safe key id post p s) (hpost : ∀ x t, post x t → post' x t) : Safe key id post' p s :=
  Ends.mono h hpost fun _ _ h => h

theorem safe_lift {post : α → MemoryStore → Prop} {x : Except PublishError α}
    (h : ∀ y, x = .ok y → post y s) : Safe key id post (liftM x) s := by
  cases x with
  | ok y => exact ends_pure (h y rfl)
  | error e => exact ends_throw trivial

/-- After its artifact is stored a publish has written nothing else. -/
theorem safe_store (ha : a.page.checksum = a.checksum) :
    Safe key id (fun _ t => Untouched id s t ∧ Holds a.checksum t) (store a) s := by
  unfold store
  refine Safe.bind (safe_perform ?_)
  intro t ht
  refine ⟨trivial, ?_⟩
  intro stored u hu
  obtain ⟨rfl, hstored⟩ := answered_contains hu
  cases stored with
  | true => exact ends_pure ⟨ht, hstored rfl⟩
  | false =>
    refine safe_perform ?_
    intro v hv
    refine ⟨ha, ?_⟩
    intro _ w hw
    obtain ⟨hmanifest, hholds⟩ := answered_put hw
    have hput : Untouched id v w := by
      refine ⟨hw.effect.grows, ?_⟩
      unfold Fresh
      rw [hmanifest]
      exact fun hfresh => hfresh
    exact ⟨(ht.trans hv).trans hput, hholds⟩

variable {manifest : Manifest} {previous : Option String} {now : Timestamp}

/-- The entry that records an artifact is there, be it an old one or a new one. -/
theorem safe_record (hmanifest : ∀ e ∈ manifest.entries, e ∈ s.manifest.entries)
    (hholds : Holds a.checksum s) (hfresh : Fresh id s) :
    Safe a.layerKey id (fun e t => e ∈ t.manifest.entries ∧ e.layerKey = a.layerKey)
      (record manifest a id now) s := by
  unfold record
  split
  · rename_i e he
    have hkey : e.layerKey = a.layerKey ∧ e.checksum = a.checksum := by
      simpa using List.find?_some he
    exact ends_pure ⟨hmanifest e (List.mem_of_find?_eq_some he), hkey.1⟩
  · refine Safe.bind (safe_perform ?_)
    intro t ht
    refine ⟨⟨rfl, rfl, rfl, hholds.of_grows ht.grows, ht.fresh hfresh⟩, ?_⟩
    intro _ u hu
    exact ends_pure ⟨answered_append hu, rfl⟩

/-- The pointer moves to an entry of its own key. -/
theorem safe_goLive (ha : a.page.checksum = a.checksum)
    (hmanifest : ∀ e ∈ manifest.entries, e ∈ s.manifest.entries) (hfresh : Fresh id s) :
    Safe a.layerKey id (fun _ _ => True) (goLive manifest previous a id now) s := by
  unfold goLive
  refine Safe.bind ((safe_store ha).mono ?_)
  rintro _ t ⟨ht, hholds⟩
  have hmanifest' : ∀ e ∈ manifest.entries, e ∈ t.manifest.entries :=
    fun e he => ht.grows.entries.subset (hmanifest e he)
  refine Safe.bind ((safe_record hmanifest' hholds (ht.fresh hfresh)).mono ?_)
  rintro e u ⟨he, hkey⟩
  refine Safe.bind (safe_perform ?_)
  intro v hv
  refine ⟨⟨rfl, e, hv.grows.entries.subset he, rfl, hkey⟩, ?_⟩
  intro _ w _
  exact ends_pure trivial

/-- Whatever a publish reads before it writes may be out of date when it writes. -/
theorem safe_publish (hfresh : Fresh id s) :
    Safe a.layerKey id (fun _ _ => True) (publish a id now) s := by
  unfold publish
  dsimp only
  split
  · exact Safe.bind (ends_throw trivial)
  · rename_i ha
    rw [ne_eq, not_not] at ha
    refine Safe.bind (safe_perform ?_)
    intro _ ht
    refine ⟨trivial, ?_⟩
    intro manifest t hloaded
    obtain ⟨rfl, rfl⟩ := answered_loadManifest hloaded
    refine Safe.bind (safe_perform ?_)
    intro _ hu
    refine ⟨trivial, ?_⟩
    intro pointers u hpointers
    obtain ⟨rfl, -⟩ := answered_loadPointers hpointers
    have hgo : ∀ v, Untouched id u v → Safe a.layerKey id (fun _ _ => True)
        (goLive t.manifest (pointers.get? a.layerKey) a id now) v :=
      fun v hv => safe_goLive ha (fun e he => (hu.trans hv).grows.entries.subset he)
        (((ht.trans hu).trans hv).fresh hfresh)
    have hrest : ∀ v live (stored : Bool), Untouched id u v → Safe a.layerKey id (fun _ _ => True)
        (if stored then pure ⟨.unchanged, live, pointers.get? a.layerKey⟩
        else do
          checkVersion a.layerKey live.contentVersion a.contentVersion
          goLive t.manifest (pointers.get? a.layerKey) a id now) v := by
      intro v live stored hv
      split
      · exact ends_pure trivial
      · exact Safe.bind (safe_lift fun _ _ => hgo v hv)
    split
    · exact hgo u (.refl id u)
    · rename_i live _
      split
      · refine Safe.bind (safe_perform ?_)
        intro _ hv
        refine ⟨trivial, ?_⟩
        intro stored v hcontains
        obtain ⟨rfl, -⟩ := answered_contains hcontains
        exact hrest v live stored hv
      · exact Safe.bind (ends_pure (hrest u live false (.refl id u)))

end Publishing

end PageLayers
