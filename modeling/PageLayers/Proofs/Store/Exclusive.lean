import PageLayers.Proofs.Store.PublishCalls

/-! One publish that has its key to itself, as between its calls only publishes of other keys go on:
what it writes, and what it has come to when it ends. -/

namespace PageLayers

open MemoryStore Program

variable {s t u : MemoryStore} {key : LayerKey} {id checksum : String} {a : Artifact}
  {e : ManifestEntry} {old : Option ManifestEntry} {now : Timestamp} {stuck : Prop} {α β : Type}

/-- The entries of a key in the order in which they were added. -/
def Manifest.history (m : Manifest) (key : LayerKey) : List ManifestEntry :=
  m.entries.filter (·.layerKey = key)

theorem Manifest.mem_history {m : Manifest} :
    e ∈ m.history key ↔ e ∈ m.entries ∧ e.layerKey = key := by
  simp [history]

theorem Manifest.find?_eq {m : Manifest} :
    m.find? key checksum = (m.history key).find? (·.checksum = checksum) := by
  simp [find?, history, List.find?_filter]

namespace MemoryStore

/-- The entry that the pointer of a key names. -/
def live (s : MemoryStore) (key : LayerKey) : Option ManifestEntry :=
  (s.pointers.get? key).bind s.manifest.get?

theorem fresh_empty : Fresh id .empty := by
  intro e he
  cases he

/-- What the publishes of other keys make of a store. -/
structure Locked (key : LayerKey) (id : String) (s t : MemoryStore) : Prop where
  untouched : Untouched id s t
  pointer : t.pointers.get? key = s.pointers.get? key
  history : t.manifest.history key = s.manifest.history key

theorem Locked.refl (key : LayerKey) (id : String) (s : MemoryStore) : Locked key id s s :=
  ⟨.refl id s, rfl, rfl⟩

theorem Locked.trans (hst : Locked key id s t) (htu : Locked key id t u) : Locked key id s u :=
  ⟨hst.untouched.trans htu.untouched, htu.pointer.trans hst.pointer, htu.history.trans hst.history⟩

theorem Locked.find? (h : Locked key id s t) :
    t.manifest.find? key checksum = s.manifest.find? key checksum := by
  rw [Manifest.find?_eq, Manifest.find?_eq, h.history]

/-- Only its artifacts can tell two stores apart. -/
theorem locked_of_eq (hgrows : s.Grows t) (hmanifest : t.manifest = s.manifest)
    (hpointers : t.pointers = s.pointers) : Locked key id s t := by
  refine ⟨⟨hgrows, ?_⟩, by rw [hpointers], by rw [hmanifest]⟩
  unfold Fresh
  rw [hmanifest]
  exact fun h => h

theorem Grows.get? (h : s.Grows t) (he : s.manifest.get? id = some e) :
    t.manifest.get? id = some e :=
  h.entries.find?_eq_some he

/-- The pointer of a key is that to `old`, and the entries of the key are found by their ids. -/
structure Stands (key : LayerKey) (old : Option ManifestEntry) (s : MemoryStore) : Prop where
  pointer : s.pointers.get? key = old.map ManifestEntry.id
  named : ∀ e, old = some e → s.manifest.get? e.id = some e
  found : ∀ e ∈ s.manifest.history key, s.manifest.get? e.id = some e

theorem Stands.live_eq (h : Stands key old s) : s.live key = old := by
  unfold live
  rw [h.pointer]
  cases hold : old with
  | none => rfl
  | some e => exact h.named e hold

theorem Stands.live_eq_of (hs : Stands key old s) (hgrows : s.Grows t)
    (hpointer : t.pointers.get? key = s.pointers.get? key) : t.live key = old := by
  unfold live
  rw [hpointer, hs.pointer]
  cases hold : old with
  | none => rfl
  | some e => exact hgrows.get? (hs.named e hold)

theorem Stands.of_locked (hs : Stands key old s) (h : Locked key id s t) : Stands key old t := by
  refine ⟨h.pointer.trans hs.pointer, fun e he => h.untouched.grows.get? (hs.named e he), ?_⟩
  rw [h.history]
  exact fun e he => h.untouched.grows.get? (hs.found e he)

theorem Intact.stands (hs : s.Intact) (key : LayerKey) : Stands key (s.live key) s := by
  have hfound : ∀ e ∈ s.manifest.history key, s.manifest.get? e.id = some e :=
    fun e he => hs.get?_of_mem (Manifest.mem_history.1 he).1
  cases hpointer : s.pointers.get? key with
  | none =>
    have hlive : s.live key = none := by simp [live, hpointer]
    rw [hlive]
    exact ⟨hpointer, fun _ h => (nomatch h), hfound⟩
  | some id =>
    obtain ⟨e, he, rfl, -⟩ := hs.pointers key id hpointer
    have hlive : s.live key = some e := by simp [live, hpointer, hs.get?_of_mem he]
    rw [hlive]
    refine ⟨hpointer, ?_, hfound⟩
    rintro _ ⟨⟩
    exact hs.get?_of_mem he

theorem mem_of_live (h : s.live key = some e) : e ∈ s.manifest.entries := by
  obtain ⟨id, -, hget⟩ := Option.bind_eq_some_iff.1 h
  exact (Manifest.get?_eq_some hget).1

theorem Intact.layerKey_of_live (hs : s.Intact) (h : s.live key = some e) : e.layerKey = key := by
  obtain ⟨id, hpointer, hget⟩ := Option.bind_eq_some_iff.1 h
  obtain ⟨e', he, rfl, hkey⟩ := hs.pointers key id hpointer
  rw [hs.get?_of_mem he] at hget
  cases hget
  exact hkey

/-- The artifact does not come before the live entry. -/
def Admits (old : Option ManifestEntry) (a : Artifact) : Prop :=
  ∀ e, old = some e →
    Publishing.checkVersion a.layerKey e.contentVersion a.contentVersion = .ok ()

/-- The writes of a publish that found `old` under its key. -/
def Lawful (a : Artifact) (id : String) (now : Timestamp) (old : Option ManifestEntry)
    (s : MemoryStore) : StoreCall → Prop
  | .put b => b = a ∧ a.page.checksum = a.checksum
  | .append e => e = .ofArtifact a id now ∧ Holds a.checksum s ∧ Fresh id s ∧
      s.manifest.find? a.layerKey a.checksum = none ∧ Stands a.layerKey old s ∧ Admits old a
  | .swap key id' => key = a.layerKey ∧
      (∃ e, s.manifest.get? id' = some e ∧ e.layerKey = key ∧ e.checksum = a.checksum) ∧
      Stands a.layerKey old s ∧ Admits old a
  | _ => True

theorem Lawful.permits {c : StoreCall} (h : Lawful a id now old s c) :
    s.Permits a.layerKey id c := by
  cases c with
  | put b =>
    obtain ⟨rfl, ha⟩ := h
    exact ha
  | append e =>
    obtain ⟨rfl, hholds, hfresh, -⟩ := h
    exact ⟨rfl, rfl, rfl, hholds, hfresh⟩
  | swap key id' =>
    obtain ⟨rfl, ⟨e, he, hkey, -⟩, -⟩ := h
    obtain ⟨hmem, hid⟩ := Manifest.get?_eq_some he
    exact ⟨rfl, e, hmem, hid, hkey⟩
  | contains checksum => trivial
  | get checksum => trivial
  | loadManifest => trivial
  | loadPointers => trivial

end MemoryStore

/-- Whether a call moves a pointer. -/
def StoreCall.isSwap : StoreCall → Bool
  | swap .. => true
  | _ => false

namespace MemoryStore

/-- Calls may fail without effect, those that move pointers only if they can be stuck. -/
def AnsweredIf (stuck : Prop) (c : StoreCall) (s : MemoryStore) (r : Except StoreError c.Result)
    (t : MemoryStore) : Prop :=
  Answered c s r t ∧ ∀ e, r = .error e → c.isSwap = true → stuck

theorem write_eq_error {point : FailPoint} {f : MemoryStore → α × MemoryStore} {cause : StoreError}
    (h : write point f s = (.error cause, t)) :
    t.artifacts = s.artifacts ∧ t.manifest = s.manifest ∧ t.pointers = s.pointers := by
  unfold write at h
  split at h
  · cases h
    exact ⟨rfl, rfl, rfl⟩
  · cases h

theorem Answered.same_of_error {c : StoreCall} {cause : StoreError}
    (h : Answered c s (.error cause) t) :
    t.artifacts = s.artifacts ∧ t.manifest = s.manifest ∧ t.pointers = s.pointers := by
  rcases h with h | ⟨_, -, rfl⟩
  · cases c with
    | get checksum =>
      simp only [answer] at h
      split at h <;> cases h
      exact ⟨rfl, rfl, rfl⟩
    | put a => exact write_eq_error (f := putArtifact a) h
    | append e => exact write_eq_error (f := appendEntry e) h
    | swap key id => exact write_eq_error (f := swapPointer key id) h
    | contains checksum => cases h
    | loadManifest => cases h
    | loadPointers => cases h
  · exact ⟨rfl, rfl, rfl⟩

theorem Answered.locked_of_put {r : Except StoreError Unit} (h : Answered (.put a) s r t) :
    Locked key id s t :=
  have hsame := h.effect.same rfl
  locked_of_eq h.effect.grows hsame.1 hsame.2

/-- The entry is there, and nothing else is new. -/
theorem stands_of_append (hs : Stands key old s) (hfresh : Fresh e.id s)
    (h : Answered (.append e) s (.ok ()) t) :
    t.manifest.get? e.id = some e ∧ Stands key old t := by
  have hgrows := h.effect.grows
  have happend : appendEntry e s = ((), t) := write_eq_ok h.eq_of_ok
  simp only [appendEntry, Prod.mk.injEq, true_and] at happend
  have hget : t.manifest.get? e.id = some e := by
    subst happend
    exact Manifest.get?_append_self (Manifest.get?_eq_none.2 hfresh)
  refine ⟨hget, ?_, fun e he => hgrows.get? (hs.named e he), ?_⟩
  · subst happend
    exact hs.pointer
  · intro e' he'
    obtain ⟨hmem, hkey⟩ := Manifest.mem_history.1 he'
    have hcases : e' ∈ s.manifest.entries ∨ e' = e := by
      subst happend
      simpa [Manifest.append] using hmem
    rcases hcases with hold | rfl
    · exact hgrows.get? (hs.found e' (Manifest.mem_history.2 ⟨hold, hkey⟩))
    · exact hget

theorem live_of_swap {previous : Option String} (he : s.manifest.get? id = some e)
    (h : Answered (.swap key id) s (.ok previous) t) : t.live key = some e := by
  have hswap : swapPointer key id s = (previous, t) := write_eq_ok h.eq_of_ok
  simp only [swapPointer, Prod.mk.injEq] at hswap
  obtain ⟨-, rfl⟩ := hswap
  simp [live, OrderedMap.get?_insert_self, he]

theorem Answered.locked_of_error {c : StoreCall} {cause : StoreError}
    (h : Answered c s (.error cause) t) : Locked key id s t :=
  have hsame := h.same_of_error
  locked_of_eq h.effect.grows hsame.2.1 hsame.2.2

end MemoryStore

namespace Publishing

/-- A publish of an artifact that holds the lock of its key and found `old` under it. -/
def exclusive (a : Artifact) (id : String) (now : Timestamp) (old : Option ManifestEntry)
    (stuck : Prop) : Setting storeInterface MemoryStore :=
  ⟨Locked a.layerKey id, fun c s => s.Lawful a id now old c, AnsweredIf stuck⟩

/-- A part of a publish keeps to its writes; when it ends with an error it has added no entry,
unless a pointer was stuck. -/
def Orderly (a : Artifact) (id : String) (now : Timestamp) (old : Option ManifestEntry)
    (stuck : Prop) (post : α → MemoryStore → Prop) (p : Publishing α) (s : MemoryStore) : Prop :=
  Ends (exclusive a id now old stuck) post (fun _ t => Fresh id t ∨ stuck) p s

theorem orderly_perform {c : StoreCall} {post : c.Result → MemoryStore → Prop}
    (h : ∀ t, Locked a.layerKey id s t → t.Lawful a id now old c ∧
      (∀ x u, Answered c t (.ok x) u → post x u) ∧ (Fresh id t ∨ c.isSwap = true)) :
    Orderly a id now old stuck post (perform c) s := by
  refine ends_perform fun t ht => ?_
  obtain ⟨hlawful, hpost, hfails⟩ := h t ht
  refine ⟨hlawful, fun x u hu => hpost x u hu.1, ?_⟩
  intro cause u hr
  rcases hfails with hfresh | hswap
  · have hu : Locked a.layerKey id t u := hr.1.locked_of_error
    exact .inl (hu.untouched.fresh hfresh)
  · exact .inr (hr.2 cause rfl hswap)

theorem Orderly.bind {post : β → MemoryStore → Prop} {p : Publishing α} {f : α → Publishing β}
    (h : Orderly a id now old stuck (fun x t => Orderly a id now old stuck post (f x) t) p s) :
    Orderly a id now old stuck post (p >>= f) s :=
  Ends.bind h

theorem Orderly.mono {post post' : α → MemoryStore → Prop} {p : Publishing α}
    (h : Orderly a id now old stuck post p s) (hpost : ∀ x t, post x t → post' x t) :
    Orderly a id now old stuck post' p s :=
  Ends.mono h hpost fun _ _ h => h

theorem orderly_store (ha : a.page.checksum = a.checksum) (hfresh : Fresh id s) :
    Orderly a id now old stuck (fun _ t => Locked a.layerKey id s t ∧ Holds a.checksum t)
      (store a) s := by
  unfold store
  refine Orderly.bind (orderly_perform ?_)
  intro t ht
  refine ⟨trivial, ?_, .inl (ht.untouched.fresh hfresh)⟩
  intro stored u hu
  obtain ⟨rfl, hstored⟩ := answered_contains hu
  cases stored with
  | true => exact ends_pure ⟨ht, hstored rfl⟩
  | false =>
    refine orderly_perform ?_
    intro v hv
    have hv' := ht.trans hv
    refine ⟨⟨rfl, ha⟩, ?_, .inl (hv'.untouched.fresh hfresh)⟩
    intro _ w hw
    exact ⟨hv'.trans hw.locked_of_put, (answered_put hw).2⟩

variable {manifest : Manifest} {previous : Option String}

theorem orderly_record (hs : Stands a.layerKey old s) (hadmits : Admits old a)
    (hholds : Holds a.checksum s) (hfresh : Fresh id s)
    (hmanifest : manifest.find? a.layerKey a.checksum = s.manifest.find? a.layerKey a.checksum) :
    Orderly a id now old stuck
      (fun e t => t.manifest.get? e.id = some e ∧ e.layerKey = a.layerKey ∧
        e.checksum = a.checksum ∧ Stands a.layerKey old t)
      (record manifest a id now) s := by
  unfold record
  rw [hmanifest]
  cases hfind : s.manifest.find? a.layerKey a.checksum with
  | some e =>
    obtain ⟨hmem, hkey, hchecksum⟩ := Manifest.find?_eq_some hfind
    exact ends_pure ⟨hs.found e (Manifest.mem_history.2 ⟨hmem, hkey⟩), hkey, hchecksum, hs⟩
  | none =>
    refine Orderly.bind (orderly_perform ?_)
    intro t ht
    have hs' := hs.of_locked ht
    have hfresh' := ht.untouched.fresh hfresh
    refine ⟨⟨rfl, hholds.of_grows ht.untouched.grows, hfresh', ht.find?.trans hfind, hs',
      hadmits⟩, ?_, .inl hfresh'⟩
    intro _ u hu
    obtain ⟨hget, hstands⟩ := stands_of_append hs' hfresh' hu
    exact ends_pure ⟨hget, rfl, rfl, hstands⟩

/-- What is live when a publish has ended well. -/
def Lives (a : Artifact) (receipt : Receipt) (s : MemoryStore) : Prop :=
  s.live a.layerKey = some receipt.entry ∧ receipt.entry.checksum = a.checksum

theorem orderly_goLive (ha : a.page.checksum = a.checksum) (hs : Stands a.layerKey old s)
    (hadmits : Admits old a) (hfresh : Fresh id s)
    (hmanifest : manifest.find? a.layerKey a.checksum = s.manifest.find? a.layerKey a.checksum) :
    Orderly a id now old stuck (Lives a) (goLive manifest previous a id now) s := by
  unfold goLive
  refine Orderly.bind ((orderly_store ha hfresh).mono ?_)
  rintro _ t ⟨ht, hholds⟩
  refine Orderly.bind ((orderly_record (hs.of_locked ht) hadmits hholds (ht.untouched.fresh hfresh)
    (hmanifest.trans ht.find?.symm)).mono ?_)
  rintro e u ⟨hget, hkey, hchecksum, hs'⟩
  refine Orderly.bind (orderly_perform ?_)
  intro v hv
  have hget' := hv.untouched.grows.get? hget
  refine ⟨⟨rfl, ⟨e, hget', hkey, hchecksum⟩, hs'.of_locked hv, hadmits⟩, ?_, .inr rfl⟩
  intro _ w hw
  exact ends_pure ⟨live_of_swap hget' hw, hchecksum⟩

/-- With the lock of its key a publish never works with what is out of date: it writes only what
suits the live entry of the moment. -/
theorem orderly_publish (hs : Stands a.layerKey old s) (hfresh : Fresh id s) :
    Orderly a id now old stuck (Lives a) (publish a id now) s := by
  unfold publish
  dsimp only
  split
  · exact Orderly.bind (ends_throw (.inl hfresh))
  · rename_i ha
    rw [ne_eq, not_not] at ha
    refine Orderly.bind (orderly_perform ?_)
    intro _ ht
    refine ⟨trivial, ?_, .inl (ht.untouched.fresh hfresh)⟩
    intro manifest t hloaded
    obtain ⟨rfl, rfl⟩ := answered_loadManifest hloaded
    refine Orderly.bind (orderly_perform ?_)
    intro _ hu
    refine ⟨trivial, ?_, .inl ((ht.trans hu).untouched.fresh hfresh)⟩
    intro pointers u hpointers
    obtain ⟨rfl, rfl⟩ := answered_loadPointers hpointers
    have hstands : ∀ v, Locked a.layerKey id u v → Stands a.layerKey old v :=
      fun v hv => hs.of_locked ((ht.trans hu).trans hv)
    have hfresh' : ∀ v, Locked a.layerKey id u v → Fresh id v :=
      fun v hv => ((ht.trans hu).trans hv).untouched.fresh hfresh
    have hgo : ∀ v, Locked a.layerKey id u v → Admits old a → Orderly a id now old stuck (Lives a)
        (goLive t.manifest (u.pointers.get? a.layerKey) a id now) v :=
      fun v hv hadmits => orderly_goLive ha (hstands v hv) hadmits (hfresh' v hv)
        (hu.trans hv).find?.symm
    have hlive : (u.pointers.get? a.layerKey).bind t.manifest.get? = old := by
      rw [hu.pointer]
      exact (hs.of_locked ht).live_eq
    rw [hlive]
    cases old with
    | none => exact hgo u (.refl _ _ u) fun _ h => nomatch h
    | some e =>
      have hrest : ∀ v (stored : Bool), Locked a.layerKey id u v →
          (stored → e.checksum = a.checksum) →
          Orderly a id now (some e) stuck (Lives a)
          (if stored then pure ⟨.unchanged, e, u.pointers.get? a.layerKey⟩
          else do
            checkVersion a.layerKey e.contentVersion a.contentVersion
            goLive t.manifest (u.pointers.get? a.layerKey) a id now) v := by
        intro v stored hv hstored
        cases stored with
        | true => exact ends_pure ⟨(hstands v hv).live_eq, hstored rfl⟩
        | false =>
          refine Orderly.bind ?_
          cases hcheck : checkVersion a.layerKey e.contentVersion a.contentVersion with
          | error cause => exact ends_throw (.inl (hfresh' v hv))
          | ok _ =>
            refine ends_pure (hgo v hv ?_)
            rintro _ ⟨⟩
            exact hcheck
      dsimp only
      split
      · rename_i hchecksum
        refine Orderly.bind (orderly_perform ?_)
        intro _ hv
        refine ⟨trivial, ?_, .inl (hfresh' _ hv)⟩
        intro stored v hcontains
        obtain ⟨rfl, -⟩ := answered_contains hcontains
        exact hrest v stored hv fun _ => hchecksum
      · exact Orderly.bind (ends_pure (hrest u false (.refl _ _ u) nofun))

end Publishing

end PageLayers
