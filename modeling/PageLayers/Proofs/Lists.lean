import Mathlib.Data.List.Forall2
import Mathlib.Data.List.Nodup
import PageLayers.Proofs.Outcome

/-! Lists, beyond the library: the items and the parts of one, the items of two side by side, and
traversals that may fail or that change a state. -/

namespace PageLayers

variable {α β γ ε τ κ : Type} {l : List α}

/-! ### Items and parts -/

theorem map_eq_self {f : α → α} : l.map f = l ↔ ∀ a ∈ l, f a = a := by
  simpa using List.map_inj_left (f := f) (g := id)

/-- In a list in which each key stands once a key has the item that stands with it. -/
theorem lookup_eq_some_iff_mem [DecidableEq κ] {l : List (κ × α)} {k : κ} {a : α}
    (h : (l.map Prod.fst).Nodup) : l.lookup k = some a ↔ (k, a) ∈ l := by
  induction l with
  | nil => simp
  | cons e rest ih =>
    obtain ⟨first, b⟩ := e
    obtain ⟨hfirst, hrest⟩ := List.nodup_cons.1 h
    rw [List.mem_cons, List.lookup_cons]
    by_cases hk : k = first
    · subst hk
      have hgone : (k, a) ∉ rest := fun hmem => hfirst (List.mem_map.2 ⟨_, hmem, rfl⟩)
      simp [hgone, eq_comm]
    · have hne : (k == first) = false := by simpa using hk
      simp [hk, hne, ih hrest]

theorem findSome?_cons_eq_or {f : α → Option β} {a : α} :
    (a :: l).findSome? f = (f a).or (l.findSome? f) := by
  rw [List.findSome?_cons]
  cases f a <;> rfl

theorem takeWhile_isPrefix {f : α → Bool} {before after : List α} {a : α} (h : f a = false) :
    (before ++ a :: after).takeWhile f <+: before := by
  rw [List.takeWhile_append]
  split
  · simp [h]
  · exact List.takeWhile_prefix f

/-- The items in front of the first other one are known from how many there are. -/
theorem eq_of_dropWhile_eq [DecidableEq α] {a : α} {l l' : List α}
    (hrest : l.dropWhile (· = a) = l'.dropWhile (· = a)) (hlength : l.length = l'.length) :
    l = l' := by
  have hfirst : ∀ l : List α, l.takeWhile (· = a) =
      List.replicate (l.length - (l.dropWhile (· = a)).length) a := by
    intro l
    have hsplit : (l.takeWhile (· = a)).length + (l.dropWhile (· = a)).length = l.length := by
      rw [← List.length_append, List.takeWhile_append_dropWhile]
    refine List.eq_replicate_iff.2 ⟨by omega, fun b hb => ?_⟩
    simpa using List.all_eq_true.1 List.all_takeWhile b hb
  rw [← List.takeWhile_append_dropWhile (p := (· = a)) (l := l),
    ← List.takeWhile_append_dropWhile (p := (· = a)) (l := l'), hfirst, hfirst, hrest, hlength]

theorem lt_append_of_ne_nil [LT α] {l l' : List α} (h : l' ≠ []) : l < l ++ l' := by
  induction l with
  | nil =>
    obtain ⟨a, rest, rfl⟩ := List.exists_cons_of_ne_nil h
    exact List.nil_lt_cons a rest
  | cons a rest ih => exact List.cons_lt_cons_iff.2 (.inr ⟨rfl, ih⟩)

/-- Where new items go to the end of a list, one after another, each counts the first time. -/
theorem append_eraseDups_cons [DecidableEq α] {start rest : List α} {a : α} :
    start ++ ((a :: rest).filter (· ∉ start)).eraseDups =
      let start := if a ∈ start then start else start ++ [a]
      start ++ (rest.filter (· ∉ start)).eraseDups := by
  by_cases hmem : a ∈ start
  · simp [hmem]
  · have hfilter : ((rest.filter (· ∉ start)).filter fun b => !(b == a)) =
        rest.filter (· ∉ start ++ [a]) := by
      rw [List.filter_filter]
      congr 1
      funext b
      rw [Bool.eq_iff_iff]
      simp [and_comm]
    rw [List.filter_cons_of_pos (by simpa using hmem), List.eraseDups_cons, hfilter]
    simp [hmem]

/-! ### Two lists side by side -/

section

variable {R : α → β → Prop} {l' : List β}

theorem forall₂_zipIdx (h : List.Forall₂ R l l') {k : Nat} :
    List.Forall₂ (fun a b => R a.1 b.1 ∧ a.2 = b.2) (l.zipIdx k) (l'.zipIdx k) := by
  induction h generalizing k with
  | nil => exact .nil
  | cons ha _ ih => exact .cons ⟨ha, rfl⟩ ih

theorem forall₂_filterMap {S : α → γ → Prop} {keep : α → Bool} {part? : β → Option γ}
    (h : List.Forall₂ R l l') (hkept : ∀ a b, R a b → keep a = true → ∃ c, part? b = some c ∧ S a c)
    (hpassed : ∀ a b, R a b → keep a = false → part? b = none) :
    List.Forall₂ S (l.filter keep) (l'.filterMap part?) := by
  rw [← List.filterMap_eq_filter]
  refine List.rel_filterMap (fun a b hR => ?_) h
  cases hkeep : keep a with
  | true =>
    obtain ⟨c, hc, hS⟩ := hkept a b hR hkeep
    rw [hc, Option.guard_pos hkeep]
    exact .some hS
  | false =>
    rw [hpassed a b hR hkeep, show Option.guard keep a = none by simp [hkeep]]
    exact .none

/-- Items that are named as those beside them have distinct names where these have. -/
theorem nodup_of_forall₂ {f : α → Option γ} {g : β → γ}
    (h : List.Forall₂ (fun a b => f a = some (g b)) l l') (hl : (l.map f).Nodup) :
    (l'.map g).Nodup := by
  have hmap : l.map f = (l'.map g).map some := by
    rw [← List.forall₂_eq_eq_eq, List.forall₂_map_left_iff, List.map_map,
      List.forall₂_map_right_iff]
    exact h
  rw [hmap] at hl
  exact hl.of_map some

/-- Where all that is set beside stays as it is, no fewer items are set, and as many only in the
same list. -/
theorem length_filter_isSome_lt {l l' : List (Option α)}
    (h : List.Forall₂ (fun a b => ∀ v, a = some v → b = some v) l l') :
    (l.filter Option.isSome).length < (l'.filter Option.isSome).length ∨ l = l' := by
  induction h with
  | nil => exact .inr rfl
  | @cons a b l l' ha _ ih =>
    cases a with
    | some v =>
      obtain rfl := ha v rfl
      simpa using ih
    | none =>
      cases b with
      | none => simpa using ih
      | some w =>
        refine .inl (Nat.lt_succ_of_le ?_)
        rcases ih with hlt | rfl
        · exact Nat.le_of_lt hlt
        · exact Nat.le_refl _

end

/-! ### Traversals -/

theorem mapM_congr {m : Type → Type} [Monad m] {f g : α → m β} (h : ∀ a ∈ l, f a = g a) :
    l.mapM f = l.mapM g := by
  have hloop : ∀ done, List.mapM.loop f l done = List.mapM.loop g l done := by
    induction l with
    | nil => exact fun _ => rfl
    | cons a rest ih =>
      intro done
      unfold List.mapM.loop
      rw [h a List.mem_cons_self]
      congr 1
      funext b
      exact ih (fun a ha => h a (List.mem_cons_of_mem _ ha)) _
  exact hloop []

/-- A traversal that keeps each item beside its outcome keeps them all, in order. -/
theorem map_fst_run_mapM {f : α → StateM τ β} {t : τ} :
    ((l.mapM fun a => do return (a, ← f a)).run t).1.map Prod.fst = l := by
  induction l generalizing t with
  | nil => rfl
  | cons a rest ih =>
    rw [List.mapM_cons]
    exact congrArg (a :: ·) ih

section

variable {f : α → Option β}

theorem mapM_map {g : γ → α} {h : γ → β} {l : List γ} (hf : ∀ c ∈ l, f (g c) = some (h c)) :
    (l.map g).mapM f = some (l.map h) := by
  induction l with
  | nil => rfl
  | cons c rest ih =>
    rw [List.forall_mem_cons] at hf
    simp [hf.1, ih hf.2]

theorem mapM_of_forall (h : ∀ a ∈ l, ∃ b, f a = some b) :
    ∃ bs, l.mapM f = some bs ∧ ∀ b, b ∈ bs ↔ ∃ a ∈ l, f a = some b := by
  induction l with
  | nil => exact ⟨[], rfl, by simp⟩
  | cons a rest ih =>
    rw [List.forall_mem_cons] at h
    obtain ⟨b, hb⟩ := h.1
    obtain ⟨bs, hbs, hmem⟩ := ih h.2
    refine ⟨b :: bs, by simp [hb, hbs], fun c => ?_⟩
    rw [List.mem_cons, hmem]
    simp [hb, eq_comm]

end

section

variable {f : α → Except ε β}

theorem mapM_eq_ok {bs : List β} :
    l.mapM f = .ok bs ↔ List.Forall₂ (fun a b => f a = .ok b) l bs := by
  induction l generalizing bs with
  | nil => cases bs <;> simp [pure, Except.pure]
  | cons a rest ih =>
    simp only [List.mapM_cons, except_bind_eq_ok, ih]
    constructor
    · rintro ⟨b, hb, bs, hbs, hlist⟩
      obtain rfl := Except.ok.inj hlist
      exact .cons hb hbs
    · rintro (_ | ⟨hb, hbs⟩)
      exact ⟨_, hb, _, hbs, rfl⟩

theorem exists_mapM_eq_ok : (∃ bs, l.mapM f = .ok bs) ↔ ∀ a ∈ l, ∃ b, f a = .ok b := by
  induction l with
  | nil => simp [pure, Except.pure]
  | cons a rest ih =>
    rw [List.forall_mem_cons, ← ih]
    simp only [List.mapM_cons, except_bind_eq_ok]
    constructor
    · rintro ⟨_, b, hb, bs, hbs, -⟩
      exact ⟨⟨b, hb⟩, bs, hbs⟩
    · rintro ⟨⟨b, hb⟩, bs, hbs⟩
      exact ⟨_, b, hb, bs, hbs, rfl⟩

/-- What each successful step of a fold keeps, the whole fold keeps. -/
theorem foldlM_keeps {step : β → α → Except ε β} {P : β → Prop} {b b' : β}
    (hstep : ∀ b a c, a ∈ l → P b → step b a = .ok c → P c) (hb : P b)
    (h : l.foldlM step b = .ok b') : P b' := by
  induction l generalizing b with
  | nil =>
    cases h
    exact hb
  | cons a rest ih =>
    rw [List.foldlM_cons, except_bind_eq_ok] at h
    obtain ⟨c, hc, hrest⟩ := h
    exact ih (fun b x d hx => hstep b x d (List.mem_cons_of_mem a hx))
      (hstep b a c List.mem_cons_self hb hc) hrest

/-- Where each step adds what becomes of one item, whatever came before, a fold maps the list. -/
theorem foldlM_eq_mapM {step : List β → α → Except ε (List β)} {P : List β → Prop} {done : List β}
    (hstep : ∀ done a, a ∈ l → P done → step done a = (f a).map fun b => done ++ [b])
    (hkeep : ∀ done a b, a ∈ l → P done → f a = .ok b → P (done ++ [b])) (hdone : P done) :
    l.foldlM step done = (l.mapM f).map (done ++ ·) := by
  induction l generalizing done with
  | nil => simp [pure, Except.pure, Except.map]
  | cons a rest ih =>
    rw [List.foldlM_cons, List.mapM_cons, hstep done a List.mem_cons_self hdone]
    cases ha : f a with
    | error e => rfl
    | ok b =>
      have hrest := ih (fun done x hx => hstep done x (List.mem_cons_of_mem a hx))
        (fun done x c hx => hkeep done x c (List.mem_cons_of_mem a hx))
        (hkeep done a b List.mem_cons_self hdone ha)
      show rest.foldlM step (done ++ [b]) = _
      rw [hrest]
      cases rest.mapM f with
      | error e => rfl
      | ok bs => simp [Except.map, bind, Except.bind, pure, Except.pure]

end

end PageLayers
