import Mathlib.Data.List.Induction
import PageLayers.Proofs.Lists
import PageLayers.Proofs.Ordered.Sort
import PageLayers.Proofs.Registry.Precedence

/-! The more specific of two overlays applies later: the one whose last dimension comes later, and
of those with the same last dimension the one that sets more. Where the texts of the keys tell them
apart there are no ties, so any set of overlays has one order. -/

namespace PageLayers

variable {a b c : LayerKey} {s t : Scope} {i j : Nat} {v w : String}
  {l l' : List (Option String)}

namespace Scope

/-- The dimension in that place has that value. -/
def Sets (s : Scope) (i : Nat) (v : String) : Prop := s.dimensions[i]? = some (some v)

/-- What the other scope sets this one sets to the same values, and it sets more. -/
structure Narrows (s t : Scope) : Prop where
  keeps : ∀ i v, t.Sets i v → s.Sets i v
  more : ∃ i v, s.Sets i v ∧ ∀ w, ¬t.Sets i w

/-- The last dimension that is set is in that place. -/
structure LastSet (s : Scope) (i : Nat) : Prop where
  set : ∃ v, s.Sets i v
  last : ∀ j v, s.Sets j v → j ≤ i

end Scope

namespace Precedence

theorem rankOf_concat_none : rankOf (l ++ [none]) = rankOf l := by
  simp [rankOf, List.zipIdx_append]

theorem rankOf_concat_some : rankOf (l ++ [some v]) = l.length := by
  simp [rankOf, List.zipIdx_append]

/-- No dimension is set after the place that is the rank. -/
theorem le_rankOf (h : l[i]? = some (some v)) : i ≤ rankOf l := by
  induction l using List.reverseRecOn with
  | nil => simp at h
  | append_singleton l d ih =>
    cases d with
    | some w =>
      rw [rankOf_concat_some]
      have hlt := (List.getElem?_eq_some_iff.1 h).1
      rw [List.length_append, List.length_singleton] at hlt
      exact Nat.le_of_lt_succ hlt
    | none =>
      rw [rankOf_concat_none]
      refine ih ?_
      rw [List.getElem?_append] at h
      split at h
      · exact h
      · rw [List.getElem?_singleton] at h
        split at h <;> cases h

/-- The dimension in that place is set, unless none is. -/
theorem rankOf_set : rankOf l = 0 ∨ ∃ v, l[rankOf l]? = some (some v) := by
  induction l using List.reverseRecOn with
  | nil => exact .inl rfl
  | append_singleton l d ih =>
    cases d with
    | some w =>
      rw [rankOf_concat_some]
      exact .inr ⟨w, by simp⟩
    | none =>
      rw [rankOf_concat_none]
      refine ih.imp_right ?_
      rintro ⟨v, hv⟩
      exact ⟨v, by rw [List.getElem?_append_left (List.getElem?_eq_some_iff.1 hv).1, hv]⟩

end Precedence

open Precedence

namespace Scope

theorem LastSet.rankOf_eq (h : s.LastSet i) : rankOf s.dimensions = i := by
  obtain ⟨v, hv⟩ := h.set
  refine Nat.le_antisymm ?_ (le_rankOf hv)
  rcases rankOf_set (l := s.dimensions) with hzero | ⟨w, hw⟩
  · exact hzero ▸ Nat.zero_le i
  · exact h.last _ w hw

theorem Narrows.rankOf_le (h : s.Narrows t) : rankOf t.dimensions ≤ rankOf s.dimensions := by
  rcases rankOf_set (l := t.dimensions) with hzero | ⟨v, hv⟩
  · exact hzero ▸ Nat.zero_le _
  · exact le_rankOf (h.keeps _ v hv)

theorem Narrows.count_lt (h : s.Narrows t) : t.count < s.count := by
  have hkeeps : List.Forall₂ (fun d d' => ∀ v, d = some v → d' = some v)
      t.dimensions s.dimensions := by
    refine List.forall₂_iff_get.2 ⟨rfl, fun i hi hi' v hv => ?_⟩
    have hset : t.Sets i v := List.getElem?_eq_some_iff.2 ⟨hi, hv⟩
    exact (List.getElem?_eq_some_iff.1 (h.keeps i v hset)).2
  refine (length_filter_isSome_lt hkeeps).resolve_right fun hsame => ?_
  obtain ⟨i, v, hset, hunset⟩ := h.more
  exact hunset v (by rwa [Sets, hsame])

end Scope

namespace LayerKey

/-- The overlay of the first key applies before that of the second. -/
def Before (a b : LayerKey) : Prop := compare a.precedence b.precedence = .lt

/-- An overlay for a page whose dimensions can be read back from the text of its key. -/
structure OverlayOf (moduleName route : String) (k : LayerKey) : Prop where
  kind : k.kind = .overlay
  moduleName : k.moduleName = moduleName
  route : k.route = route
  plain : k.scope.Plain

theorem compare_precedence : compare a.precedence b.precedence =
    (compare (rankOf a.scope.dimensions) (rankOf b.scope.dimensions)).then
      ((compare a.scope.count b.scope.count).then (compare a.text b.text)) := rfl

theorem before_of_rank (h : rankOf a.scope.dimensions < rankOf b.scope.dimensions) :
    a.Before b := by
  rw [Before, compare_precedence, Nat.compare_eq_lt.2 h]
  rfl

theorem before_of_narrows (h : b.scope.Narrows a.scope) : a.Before b := by
  rcases Nat.lt_or_eq_of_le h.rankOf_le with hlt | heq
  · exact before_of_rank hlt
  · rw [Before, compare_precedence, heq, Nat.compare_eq_eq.2 rfl, Nat.compare_eq_lt.2 h.count_lt]
    rfl

theorem before_of_lastSet (ha : a.scope.LastSet i) (hb : b.scope.LastSet j) (h : i < j) :
    a.Before b := by
  refine before_of_rank ?_
  rw [ha.rankOf_eq, hb.rankOf_eq]
  exact h

variable {moduleName route : String} {keys : List LayerKey}

theorem OverlayOf.eq_of_precedence (ha : a.OverlayOf moduleName route)
    (hb : b.OverlayOf moduleName route) (h : a.precedence = b.precedence) : a = b :=
  eq_of_text_eq (ha.kind.trans hb.kind.symm) (ha.moduleName.trans hb.moduleName.symm)
    (ha.route.trans hb.route.symm) ha.plain hb.plain (congrArg Precedence.text h)

theorem OverlayOf.before_or_before (ha : a.OverlayOf moduleName route)
    (hb : b.OverlayOf moduleName route) (h : a ≠ b) : a.Before b ∨ b.Before a := by
  unfold Before
  cases hcompare : compare a.precedence b.precedence with
  | lt => exact .inl rfl
  | eq => exact absurd (ha.eq_of_precedence hb (Std.LawfulEqOrd.eq_of_compare hcompare)) h
  | gt => exact .inr (Std.OrientedCmp.lt_of_gt hcompare)

/-- Whatever order the overlays for a page are listed in, there is one in which they apply. -/
theorem sorted_iff (hkeys : ∀ k ∈ keys, k.OverlayOf moduleName route) {sorted : List LayerKey} :
    (sorted.Perm keys ∧ sorted.Pairwise fun a b => (compare a.precedence b.precedence).isLE) ↔
      sorted = sortBy precedence keys := by
  constructor
  · rintro ⟨hperm, hsorted⟩
    refine (hperm.trans perm_sortBy.symm).eq_of_pairwise ?_ hsorted pairwise_sortBy
    intro a b ha hb hab hba
    have hsame : compare a.precedence b.precedence = .eq := Std.OrientedCmp.isLE_antisymm hab hba
    exact (hkeys a (hperm.mem_iff.1 ha)).eq_of_precedence (hkeys b (mem_sortBy.1 hb))
      (Std.LawfulEqOrd.eq_of_compare hsame)
  · rintro rfl
    exact ⟨perm_sortBy, pairwise_sortBy⟩

end LayerKey

/-- Overlays apply in a strict order. Of the overlays for one page, whose keys can be told from
their texts, no two stand in the same place, so that each set of them has one sorted order and no
other. An overlay that sets all that another sets and more applies after it, and so does one whose
last dimension comes later. -/
theorem more_specific_applies_later :
    (∀ a : LayerKey, ¬a.Before a) ∧
    (∀ a b c : LayerKey, a.Before b → b.Before c → a.Before c) ∧
    (∀ moduleName route, ∀ a b : LayerKey, a.OverlayOf moduleName route →
      b.OverlayOf moduleName route → a ≠ b →
        a.precedence ≠ b.precedence ∧ (a.Before b ∨ b.Before a)) ∧
    (∀ moduleName route, ∀ keys : List LayerKey, (∀ k ∈ keys, k.OverlayOf moduleName route) →
      ∀ sorted : List LayerKey, (sorted.Perm keys ∧
        sorted.Pairwise fun a b => (compare a.precedence b.precedence).isLE) ↔
          sorted = sortBy LayerKey.precedence keys) ∧
    (∀ a b : LayerKey, b.scope.Narrows a.scope → a.Before b) ∧
    ∀ a b : LayerKey, ∀ i j, a.scope.LastSet i → b.scope.LastSet j → i < j → a.Before b := by
  refine ⟨fun a h => ?_, fun a b c => Std.TransCmp.lt_trans, fun _ _ a b ha hb hne => ⟨?_, ?_⟩,
    fun _ _ keys hkeys sorted => LayerKey.sorted_iff hkeys, fun a b => LayerKey.before_of_narrows,
    fun a b i j => LayerKey.before_of_lastSet⟩
  · cases Std.ReflCmp.compare_self.symm.trans h
  · exact fun h => hne (ha.eq_of_precedence hb h)
  · exact ha.before_or_before hb hne

/-- The key of an overlay for the shop's front page. -/
def shopKey (tenant role : Option String) : LayerKey :=
  ⟨.overlay, "shop", "/", ⟨tenant, role, none, none⟩⟩

theorem shopKey_overlayOf {tenant role : Option String}
    (h : ∀ d, some d ∈ [tenant, role] → '|' ∉ d.toList ∧ d ≠ "*") :
    (shopKey tenant role).OverlayOf "shop" "/" :=
  ⟨rfl, rfl, rfl, fun d hd => h d (by simpa [shopKey, Scope.dimensions] using hd)⟩

theorem members_of_acme_last :
    (shopKey (some "acme") none).precedence ≠ (shopKey none (some "member")).precedence ∧
    sortBy LayerKey.precedence [shopKey none (some "member"), shopKey (some "acme") none] =
      [shopKey (some "acme") none, shopKey none (some "member")] ∧
    (shopKey none (some "member")).Before (shopKey (some "acme") (some "member")) ∧
    (shopKey (some "acme") none).Before (shopKey none (some "member")) := by
  obtain ⟨-, -, hdiffer, hsorted, hnarrow, hlast⟩ := more_specific_applies_later
  have hacme : (shopKey (some "acme") none).OverlayOf "shop" "/" :=
    shopKey_overlayOf (by simp)
  have hmember : (shopKey none (some "member")).OverlayOf "shop" "/" :=
    shopKey_overlayOf (by simp)
  have hbefore : (shopKey (some "acme") none).Before (shopKey none (some "member")) := by
    refine hlast _ _ 0 1 ⟨⟨"acme", rfl⟩, ?_⟩ ⟨⟨"member", rfl⟩, ?_⟩ (by decide)
    · rintro (_ | _ | _ | _ | j) v ⟨⟩
      exact Nat.le_refl _
    · rintro (_ | _ | _ | _ | j) v ⟨⟩
      exact Nat.le_refl _
  refine ⟨(hdiffer _ _ _ _ hacme hmember (by decide)).1, ?_, hnarrow _ _ ⟨?_, ?_⟩, hbefore⟩
  · refine ((hsorted "shop" "/" _ ?_ _).1 ⟨List.Perm.swap _ _ _, ?_⟩).symm
    · simp [hacme, hmember]
    · refine List.pairwise_pair.2 ?_
      rw [hbefore]
      rfl
  · rintro (_ | _ | _ | _ | j) v ⟨⟩
    rfl
  · exact ⟨0, "acme", rfl, nofun⟩

end PageLayers
