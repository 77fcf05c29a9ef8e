import PageLayers.Proofs.Store.Monotone
import PageLayers.Proofs.Store.Retry
import PageLayers.Proofs.Version.Text

/-! When a store has two contents under one version. All that a publish checks is that its artifact
does not come before the live entry, so it can repeat the version of the live entry, and that of an
entry whose pointer did not move. -/

namespace PageLayers

open MemoryStore

variable {s t : MemoryStore} {c : StoreCall} {key : LayerKey} {id id' : String} {a : Artifact}
  {e e' l : ManifestEntry} {artifacts : Set Artifact} {old : Option ManifestEntry}
  {now : Timestamp} {stuck : Prop}

namespace ManifestEntry

/-- Another content under the same version of a key. -/
def Rivals (e e' : ManifestEntry) : Prop :=
  e'.layerKey = e.layerKey ∧ e'.contentVersion = e.contentVersion ∧ e'.checksum ≠ e.checksum

theorem Rivals.symm (h : e.Rivals e') : e'.Rivals e := ⟨h.1.symm, h.2.1.symm, h.2.2.symm⟩

theorem not_rivals_self : ¬ e.Rivals e := fun h => h.2.2 rfl

theorem UpTo.of_version_eq (h : e.UpTo e') (hversion : l.contentVersion = e'.contentVersion) :
    e.UpTo l := by
  unfold UpTo
  rw [hversion]
  exact h

/-- Entries that do not come before each other have one version. -/
theorem UpTo.antisymm (h : e.UpTo e') (h' : e'.UpTo e) : e.contentVersion = e'.contentVersion := by
  obtain ⟨v, v', hv, hv', hle⟩ := h
  obtain ⟨v₁, v₂, hv₁, hv₂, hle'⟩ := h'
  obtain rfl : v' = v₁ := Except.ok.inj (hv'.symm.trans hv₁)
  obtain rfl : v = v₂ := Except.ok.inj (hv.symm.trans hv₂)
  have heq : compare v v' = .eq := Std.OrientedCmp.isLE_antisymm hle hle'
  obtain rfl := Std.LawfulEqOrd.eq_of_compare heq
  exact Version.parse_injective hv hv'

end ManifestEntry

namespace MemoryStore

/-- No version of a key has two contents. -/
def VersionsKept (s : MemoryStore) : Prop :=
  ∀ e ∈ s.manifest.entries, ∀ e' ∈ s.manifest.entries, ¬ e.Rivals e'

/-- The entry was recorded, and what is live under its key has not come up to it. -/
def Ahead (s : MemoryStore) (e : ManifestEntry) : Prop :=
  e ∈ s.manifest.entries ∧ ∀ l, s.live e.layerKey = some l → ¬ e.UpTo l

/-- The entry has the version of the live one and another content. -/
def RepeatsLive (s : MemoryStore) (e : ManifestEntry) : Prop :=
  ∃ l, s.live e.layerKey = some l ∧ e.Rivals l

/-- The entry has the version of one that never went live and another content. -/
def RepeatsAhead (s : MemoryStore) (e : ManifestEntry) : Prop := ∃ e', s.Ahead e' ∧ e.Rivals e'

/-- An artifact that may follow the live entry has a rival only where it repeats the live version or
one ahead of it. -/
theorem exists_rival_iff (hadmits : ∀ l, s.live e.layerKey = some l → l.UpTo e)
    (hnew : s.manifest.find? e.layerKey e.checksum = none) (hs : s.Intact) :
    (∃ e' ∈ s.manifest.entries, e.Rivals e') ↔ s.RepeatsLive e ∨ s.RepeatsAhead e := by
  constructor
  · rintro ⟨e', he', hrivals⟩
    by_cases hahead : s.Ahead e'
    · exact .inr ⟨e', hahead, hrivals⟩
    · -- `e'` has the version of `e`, and so has the live entry between them
      have hle : ∃ l, s.live e'.layerKey = some l ∧ e'.UpTo l := by
        simpa [Ahead, he'] using hahead
      obtain ⟨l, hl, hle⟩ := hle
      rw [hrivals.1] at hl
      have hup : e.UpTo l := by
        obtain ⟨v, v', hv, hv', hcompare⟩ := hle
        exact ⟨v, v', hrivals.2.1 ▸ hv, hv', hcompare⟩
      have hversion := hup.antisymm (hadmits l hl)
      have hkey : l.layerKey = e.layerKey := hs.layerKey_of_live hl
      refine .inl ⟨l, hl, hkey, hversion.symm, ?_⟩
      intro hchecksum
      have hnone := List.find?_eq_none.1 hnew l (mem_of_live hl)
      simp [hkey, hchecksum] at hnone
  · rintro (⟨l, hl, hrivals⟩ | ⟨e', hahead, hrivals⟩)
    · exact ⟨l, mem_of_live hl, hrivals⟩
    · exact ⟨e', hahead.1, hrivals⟩

/-! ### A publish that repeats a version -/

section

variable (hcompiled : ∀ a ∈ artifacts, a.Compiled)
  (hsame : ∀ a ∈ artifacts, ∀ b ∈ artifacts, a.checksum = b.checksum → a.page = b.page)

include hcompiled in
/-- An artifact of the live version is not refused. -/
theorem verdict_of_repeated (hs : s.Intact) (hrecords : s.Records artifacts) (ha : a ∈ artifacts)
    (hlive : s.live a.layerKey = some l) (hversion : l.contentVersion = a.contentVersion)
    (hchecksum : l.checksum ≠ a.checksum) : Publishing.verdict a s = .ok none := by
  refine (Publishing.verdict_eq_none hs).2 ⟨(hcompiled a ha).checksum_eq.symm, ?_⟩
  intro e he
  obtain rfl : l = e := Option.some.inj (hlive.symm.trans he)
  have hself := hrecords.upTo_self hcompiled (mem_of_live hlive)
  exact ⟨hchecksum, Publishing.checkVersion_eq_ok.2 (hversion ▸ hself)⟩

include hcompiled hsame in
theorem Records.contentVersion_entryOf (hrecords : s.Records artifacts) (ha : a ∈ artifacts) :
    (s.entryOf a id now).contentVersion = a.contentVersion := by
  unfold entryOf
  cases hfind : s.manifest.find? a.layerKey a.checksum with
  | some e =>
    have he := Manifest.find?_eq_some hfind
    exact hrecords.contentVersion_eq hcompiled hsame ha he.1 he.2.2
  | none => rfl

include hcompiled hsame in
/-- An artifact that is not refused is recorded beside an entry of its version. -/
theorem not_versionsKept_of_recorded (hrecords : s.Records artifacts) (ha : a ∈ artifacts)
    (he : e ∈ s.manifest.entries) (hkey : e.layerKey = a.layerKey)
    (hversion : e.contentVersion = a.contentVersion) (hchecksum : e.checksum ≠ a.checksum) :
    ¬ (s.wentLive a id now).VersionsKept := by
  have hmanifest : (s.wentLive a id now).manifest = (s.recorded a id now).manifest :=
    recorded_stored_manifest
  have hfound : (s.recorded a id now).manifest.find? a.layerKey a.checksum =
      some (s.entryOf a id now) := find?_recorded
  obtain ⟨hnew, hnewkey, hsum⟩ := Manifest.find?_eq_some hfound
  have hold : e ∈ (s.recorded a id now).manifest.entries := grows_recorded.entries.subset he
  have hnewversion : (s.entryOf a id now).contentVersion = a.contentVersion :=
    hrecords.contentVersion_entryOf hcompiled hsame ha
  have hrivals : e.Rivals (s.entryOf a id now) := by
    refine ⟨hnewkey.trans hkey.symm, hnewversion.trans hversion.symm, ?_⟩
    rw [hsum]
    exact hchecksum.symm
  unfold VersionsKept
  rw [hmanifest]
  exact fun hkept => hkept e hold _ hnew hrivals

end

end MemoryStore

/-- A store, and each entry that was added to it with the store it was added to. -/
structure Ledger where
  store : MemoryStore
  added : List (MemoryStore × ManifestEntry)

namespace Ledger

def initial : Ledger := ⟨.empty, []⟩

/-- The ledger after a call that has left the given store. -/
def after (L : Ledger) : (c : StoreCall) → Except StoreError c.Result → MemoryStore → Ledger
  | .append e, .ok _, t => ⟨t, (L.store, e) :: L.added⟩
  | _, _, t => ⟨t, L.added⟩

theorem after_store {L : Ledger} {r : Except StoreError c.Result} : (L.after c r t).store = t := by
  cases c <;> cases r <;> rfl

/-- No entry was added with the version of a live one or of one ahead of it and another content. -/
def Clear (L : Ledger) : Prop :=
  ∀ s e, (s, e) ∈ L.added → ¬ s.RepeatsLive e ∧ ¬ s.RepeatsAhead e

/-- What runs keep of a ledger. Unless a pointer was stuck only pending entries are ahead. -/
structure Sound (artifacts : Set Artifact) (stuck : Prop) (pending : ManifestEntry → Prop)
    (L : Ledger) : Prop where
  intact : L.store.Intact
  records : L.store.Records artifacts
  kept : L.store.VersionsKept ↔ L.Clear
  level : ¬ stuck → ∀ e, L.store.Ahead e → pending e
  settled : ¬ stuck → ∀ s e, (s, e) ∈ L.added → ∀ e', ¬ s.Ahead e'

variable {L : Ledger} {pending : ManifestEntry → Prop}

theorem sound_initial : initial.Sound artifacts stuck pending := by
  have hkept : initial.store.VersionsKept := by
    intro e he
    cases he
  have hclear : initial.Clear := by
    intro s e hadded
    cases hadded
  refine ⟨intact_empty, records_empty, iff_of_true hkept hclear, ?_, ?_⟩
  · rintro - e ⟨he, -⟩
    cases he
  · rintro - s e hadded
    cases hadded

/-- Artifacts alone make no difference. -/
theorem Sound.of_eq (hL : L.Sound artifacts stuck pending) (hintact : t.Intact)
    (hmanifest : t.manifest = L.store.manifest) (hpointers : t.pointers = L.store.pointers) :
    (⟨t, L.added⟩ : Ledger).Sound artifacts stuck pending := by
  have hlive : ∀ key, t.live key = L.store.live key := by simp [live, hmanifest, hpointers]
  refine ⟨hintact, ⟨hmanifest ▸ hL.records.source, hmanifest ▸ hL.records.distinct⟩, ?_, ?_,
    hL.settled⟩
  · unfold VersionsKept
    rw [hmanifest]
    exact hL.kept
  · rintro hstuck e ⟨he, hahead⟩
    refine hL.level hstuck e ⟨hmanifest ▸ he, fun l hl => hahead l ?_⟩
    rw [hlive, hl]

theorem versionsKept_append :
    ({ s with manifest := s.manifest.append e } : MemoryStore).VersionsKept ↔
      s.VersionsKept ∧ ¬ ∃ e' ∈ s.manifest.entries, e.Rivals e' := by
  simp only [VersionsKept, Manifest.append, List.mem_append, List.mem_singleton]
  constructor
  · intro h
    refine ⟨fun e he e' he' => h e (.inl he) e' (.inl he'), ?_⟩
    rintro ⟨e', he', hrivals⟩
    exact h e (.inr rfl) e' (.inl he') hrivals
  · rintro ⟨hkept, hnone⟩ e₁ (h₁ | rfl) e₂ (h₂ | rfl) hrivals
    · exact hkept e₁ h₁ e₂ h₂ hrivals
    · exact hnone ⟨e₁, h₁, hrivals.symm⟩
    · exact hnone ⟨e₂, h₂, hrivals⟩
    · exact ManifestEntry.not_rivals_self hrivals

theorem clear_cons : (⟨t, (s, e) :: L.added⟩ : Ledger).Clear ↔
    (¬ s.RepeatsLive e ∧ ¬ s.RepeatsAhead e) ∧ L.Clear := by
  constructor
  · intro h
    exact ⟨h s e List.mem_cons_self, fun s' e' hadded => h s' e' (List.mem_cons_of_mem _ hadded)⟩
  · rintro ⟨hnew, hold⟩ s' e' hadded
    rcases List.mem_cons.1 hadded with heq | hadded
    · cases heq
      exact hnew
    · exact hold s' e' hadded

/-- The entry that a publish adds is pending until its pointer moves. -/
theorem Sound.append (hL : L.Sound artifacts stuck (· = .ofArtifact a id now)) (ha : a ∈ artifacts)
    (hintact : (appendEntry (.ofArtifact a id now) L.store).2.Intact)
    (hc : L.store.Lawful a id now old (.append (.ofArtifact a id now))) :
    (⟨(appendEntry (.ofArtifact a id now) L.store).2,
      (L.store, .ofArtifact a id now) :: L.added⟩ : Ledger).Sound artifacts stuck
        (· = .ofArtifact a id now) := by
  have heffect : Effect L.store (appendEntry (.ofArtifact a id now) L.store).2
      (.append (.ofArtifact a id now)) := .recorded rfl rfl rfl
  have hrecords := hL.records.effect ha hc heffect
  obtain ⟨-, -, hfresh, hnone, hstands, hadmits⟩ := hc
  have hfollows : ∀ l, L.store.live a.layerKey = some l →
      l.UpTo (.ofArtifact a id now) := fun l hl =>
    Publishing.checkVersion_eq_ok.1 (hadmits l (hstands.live_eq.symm.trans hl))
  have hsettled : ¬ stuck → ∀ e', ¬ L.store.Ahead e' := by
    intro hstuck e' hahead
    have heq := hL.level hstuck e' hahead
    subst heq
    exact hfresh _ hahead.1 rfl
  refine ⟨hintact, hrecords, ?_, ?_, ?_⟩
  · have hrival : (∃ e' ∈ L.store.manifest.entries, (ManifestEntry.ofArtifact a id now).Rivals e') ↔
        _ := exists_rival_iff hfollows hnone hL.intact
    refine versionsKept_append.trans ?_
    rw [clear_cons, ← hL.kept, hrival, not_or, and_comm]
  · rintro hstuck e ⟨he, hahead⟩
    rcases List.mem_append.1 he with he | he
    · refine absurd ⟨he, fun l hl => hahead l ?_⟩ (hsettled hstuck e)
      exact ((hL.intact.stands e.layerKey).live_eq_of heffect.grows rfl).trans hl
    · exact List.mem_singleton.1 he
  · intro hstuck s e hadded
    rcases List.mem_cons.1 hadded with hnew | hold
    · cases hnew
      exact hsettled hstuck
    · exact hL.settled hstuck s e hold

variable (hcompiled : ∀ a ∈ artifacts, a.Compiled)
  (hsame : ∀ a ∈ artifacts, ∀ b ∈ artifacts, a.checksum = b.checksum → a.page = b.page)

include hcompiled hsame in
/-- What the live entry had come up to, the new one has too. -/
theorem Sound.swap (hL : L.Sound artifacts stuck (· = .ofArtifact a id now)) (ha : a ∈ artifacts)
    (hintact : (swapPointer key id' L.store).2.Intact)
    (hc : L.store.Lawful a id now old (.swap key id')) :
    (⟨(swapPointer key id' L.store).2, L.added⟩ : Ledger).Sound artifacts stuck
      (· = .ofArtifact a id now) := by
  have heffect : Effect L.store (swapPointer key id' L.store).2 (.swap key id') :=
    .swapped rfl rfl rfl
  refine ⟨hintact, ⟨hL.records.source, hL.records.distinct⟩, hL.kept, ?_, hL.settled⟩
  rintro hstuck e ⟨he, hahead⟩
  by_cases hbefore : L.store.Ahead e
  · exact hL.level hstuck e hbefore
  · have hle : ∃ l, L.store.live e.layerKey = some l ∧ e.UpTo l := by
      have hmem : e ∈ L.store.manifest.entries := he
      simpa [Ahead, hmem] using hbefore
    obtain ⟨l, hl, hle⟩ := hle
    have hold : Stands e.layerKey (some l) L.store := hl ▸ hL.intact.stands e.layerKey
    obtain ⟨l', hl', hle'⟩ := hL.records.live_call hcompiled hsame ha hc heffect hold
    exact absurd (hle.trans hle') (hahead l' hl')

include hcompiled hsame in
/-- Whatever a publish calls keeps a ledger sound. -/
theorem Sound.call {r : Except StoreError c.Result}
    (hL : L.Sound artifacts stuck (· = .ofArtifact a id now)) (ha : a ∈ artifacts)
    (hc : L.store.Lawful a id now old c) (hr : AnsweredIf stuck c L.store r t) :
    (L.after c r t).Sound artifacts stuck (· = .ofArtifact a id now) := by
  have hintact : t.Intact := hL.intact.effect hc.permits hr.1.effect
  cases r with
  | error cause =>
    obtain ⟨-, hmanifest, hpointers⟩ := hr.1.same_of_error
    have hsound := hL.of_eq hintact hmanifest hpointers
    cases c <;> exact hsound
  | ok x =>
    have hrest (hvisible : c.isVisible = false) :
        (⟨t, L.added⟩ : Ledger).Sound artifacts stuck (· = .ofArtifact a id now) :=
      have hsame := hr.1.effect.same hvisible
      hL.of_eq hintact hsame.1 hsame.2
    cases c with
    | append e =>
      have happend : appendEntry e L.store = ((), t) := write_eq_ok hr.1.eq_of_ok
      obtain rfl : e = .ofArtifact a id now := hc.1
      obtain rfl : (appendEntry _ L.store).2 = t := by rw [happend]
      exact hL.append ha hintact hc
    | swap key id' =>
      have hswap : swapPointer key id' L.store = (x, t) := write_eq_ok hr.1.eq_of_ok
      obtain rfl : (swapPointer key id' L.store).2 = t := by rw [hswap]
      exact hL.swap hcompiled hsame ha hintact hc
    | put b => exact hrest rfl
    | contains checksum => exact hrest rfl
    | get checksum => exact hrest rfl
    | loadManifest => exact hrest rfl
    | loadPointers => exact hrest rfl

include hcompiled hsame in
/-- Nothing is pending when the artifact is live. -/
theorem Sound.of_lives {receipt : Receipt}
    (hL : L.Sound artifacts stuck (· = .ofArtifact a id now)) (ha : a ∈ artifacts)
    (h : Publishing.Lives a receipt L.store) : L.Sound artifacts stuck fun _ => False := by
  refine ⟨hL.intact, hL.records, hL.kept, ?_, hL.settled⟩
  intro hstuck e hahead
  obtain rfl := hL.level hstuck e hahead
  obtain ⟨hlive, hchecksum⟩ := h
  have hself := hL.records.upTo_self hcompiled hahead.1
  have hversion := hL.records.contentVersion_eq hcompiled hsame ha (mem_of_live hlive) hchecksum
  exact hahead.2 receipt.entry hlive (hself.of_version_eq hversion)

/-- Nothing is pending when nothing was added. -/
theorem Sound.of_fresh (hL : L.Sound artifacts stuck (· = .ofArtifact a id now))
    (h : Fresh id L.store ∨ stuck) : L.Sound artifacts stuck fun _ => False := by
  refine ⟨hL.intact, hL.records, hL.kept, ?_, hL.settled⟩
  intro hstuck e hahead
  obtain rfl := hL.level hstuck e hahead
  rcases h with hfresh | h
  · exact hfresh _ hahead.1 rfl
  · exact hstuck h

theorem Sound.weaken (hL : L.Sound artifacts stuck fun _ => False) :
    L.Sound artifacts stuck pending :=
  ⟨hL.intact, hL.records, hL.kept, fun hstuck e hahead => (hL.level hstuck e hahead).elim,
    hL.settled⟩

/-- What a publish has added to a ledger, and that it has used no id but its own. -/
structure Since (L₀ : Ledger) (id : String) (Q : MemoryStore → ManifestEntry → Prop) (L : Ledger) :
    Prop where
  added : ∀ s e, (s, e) ∈ L.added → (s, e) ∈ L₀.added ∨ Q s e
  fresh : ∀ id', id' ≠ id → Fresh id' L₀.store → Fresh id' L.store

variable {L₀ : Ledger} {Q : MemoryStore → ManifestEntry → Prop}

theorem Since.refl (L : Ledger) : L.Since id Q L := ⟨fun _ _ h => .inl h, fun _ _ h => h⟩

theorem Since.call {r : Except StoreError c.Result} (h : L₀.Since id Q L)
    (hc : L.store.Lawful a id now old c) (hr : AnsweredIf stuck c L.store r t)
    (hQ : ∀ s e, s.Lawful a id now old (.append e) → Q s e) :
    L₀.Since id Q (L.after c r t) := by
  refine ⟨?_, ?_⟩
  · intro s e hadded
    cases c with
    | append e' =>
      cases r with
      | ok x =>
        rcases List.mem_cons.1 hadded with hnew | hold
        · cases hnew
          exact .inr (hQ _ _ hc)
        · exact h.added s e hold
      | error cause => exact h.added s e hadded
    | _ => exact h.added s e hadded
  · intro id' hne hfresh e he
    rw [after_store] at he
    rcases hr.1.effect.mem_entries hc.permits he with hold | rfl
    · exact h.fresh id' hne hfresh e hold
    · exact hne.symm

end Ledger

end PageLayers
