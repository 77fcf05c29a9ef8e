import PageLayers.Proofs.Lists
import PageLayers.Proofs.Ordered.Map
import PageLayers.Render.Cache

/-! A cache gives back nothing but what was put in under the same key. It stands here beside a plain
list of what it holds, the oldest first: the cache keeps its entries in a map and their age in a
queue, each call leaves the two in step, and together they are the list. -/

namespace PageLayers

variable {α : Type} {key key' : CacheKey} {a b : α}

theorem OrderedMap.get?_of_erase {κ α : Type} [Ord κ] [Std.LawfulEqOrd κ]
    {m : OrderedMap κ α} {k k' : κ} {v : α} (h : (m.erase k').get? k = some v) :
    m.get? k = some v := by
  rw [get?_eq_some] at h ⊢
  exact (List.mem_filter.1 h).1

namespace RenderCache

variable {cache : RenderCache α}

theorem get?_of_evict {capacity : Nat} {entries : OrderedMap CacheKey α} {queue : List CacheKey}
    (h : (evict capacity entries queue).get? key = some a) : entries.get? key = some a := by
  induction queue generalizing entries with
  | nil => exact h
  | cons oldest rest ih =>
    unfold evict at h
    split at h
    · exact OrderedMap.get?_of_erase (ih h)
    · exact h

theorem get?_insert_cases (h : (cache.insert key a).get? key' = some b) :
    key' = key ∧ b = a ∨ cache.get? key' = some b := by
  unfold insert at h
  split at h
  · exact .inr h
  · have hinsert : (cache.entries.insert key a).get? key' = some b := get?_of_evict h
    by_cases hkey : key' = key
    · subst hkey
      rw [OrderedMap.get?_insert_self] at hinsert
      exact .inl ⟨rfl, (Option.some.inj hinsert).symm⟩
    · rw [OrderedMap.get?_insert_of_ne hkey] at hinsert
      exact .inr hinsert

theorem insert_of_no_capacity (h : cache.capacity = 0) : cache.insert key a = cache := by
  unfold insert
  rw [if_pos h]

theorem get?_insert_empty : ((empty 1).insert key a).get? key = some a :=
  OrderedMap.get?_insert_self (m := ∅)

end RenderCache

/-- A call that changes a cache. -/
inductive CacheCall (α : Type) where
  | insert (key : CacheKey) (a : α)
  | clear

/-- What is held, in the order in which its keys came in, and how much there is room for. -/
structure Shelf (α : Type) where
  capacity : Nat
  held : List (CacheKey × α)

namespace Shelf

def empty (capacity : Nat) : Shelf α := ⟨capacity, []⟩

def keys (s : Shelf α) : List CacheKey := s.held.map Prod.fst

def get? (s : Shelf α) (key : CacheKey) : Option α := s.held.lookup key

/-- The item of one key gives way to another. -/
def put (key : CacheKey) (a : α) (e : CacheKey × α) : CacheKey × α :=
  if e.1 = key then (key, a) else e

/-- A key that is held keeps its age and gets the new item. A new one comes in last, and takes the
room of the oldest where all room is taken. A shelf without room takes nothing. -/
def insert (s : Shelf α) (key : CacheKey) (a : α) : Shelf α :=
  if s.capacity = 0 then s
  else if key ∈ s.keys then { s with held := s.held.map (put key a) }
  else if s.held.length < s.capacity then { s with held := s.held ++ [(key, a)] }
  else { s with held := s.held.tail ++ [(key, a)] }

def call (s : Shelf α) : CacheCall α → Shelf α
  | .insert key a => s.insert key a
  | .clear => empty s.capacity

end Shelf

def RenderCache.call (cache : RenderCache α) : CacheCall α → RenderCache α
  | .insert key a => cache.insert key a
  | .clear => cache.clear

/-- The entries of a map are those of a list in which each key stands once. -/
structure OrderedMap.Lists (entries : OrderedMap CacheKey α) (held : List (CacheKey × α)) :
    Prop where
  distinct : (held.map Prod.fst).Nodup
  found : ∀ key a, entries.get? key = some a ↔ (key, a) ∈ held

namespace OrderedMap.Lists

variable {entries : OrderedMap CacheKey α} {held : List (CacheKey × α)} {e : CacheKey × α}

theorem empty : (∅ : OrderedMap CacheKey α).Lists [] := ⟨.nil, fun _ _ => ⟨nofun, nofun⟩⟩

theorem contains_iff (h : entries.Lists held) :
    entries.contains key = true ↔ key ∈ held.map Prod.fst := by
  rw [contains, Option.isSome_iff_exists, List.mem_map]
  constructor
  · rintro ⟨a, ha⟩
    exact ⟨(key, a), (h.found _ _).1 ha, rfl⟩
  · rintro ⟨e, he, rfl⟩
    exact ⟨e.2, (h.found _ _).2 he⟩

theorem size_eq (h : entries.Lists held) : entries.size = held.length := by
  have hnodup : entries.entries.Nodup := .of_map _ nodup_keys
  have hmem : ∀ e, e ∈ entries.entries ↔ e ∈ held := fun e => get?_eq_some.symm.trans (h.found _ _)
  exact ((List.perm_ext_iff_of_nodup hnodup (.of_map _ h.distinct)).2 hmem).length_eq

theorem get?_eq (h : entries.Lists held) : entries.get? key = held.lookup key :=
  Option.ext fun a => (h.found key a).trans (lookup_eq_some_iff_mem h.distinct).symm

theorem append (h : entries.Lists held) (hnew : key ∉ held.map Prod.fst) :
    (entries.insert key a).Lists (held ++ [(key, a)]) := by
  constructor
  · rw [List.map_append]
    exact h.distinct.append (List.nodup_singleton _) (by simpa using hnew)
  · intro key' b
    rw [List.mem_append, List.mem_singleton, ← h.found]
    by_cases hkey : key' = key
    · subst hkey
      have hnone : entries.get? key' ≠ some b := fun hsome =>
        hnew (List.mem_map.2 ⟨_, (h.found _ _).1 hsome, rfl⟩)
      simp [get?_insert_self, hnone, eq_comm]
    · simp [get?_insert_of_ne hkey, hkey]

theorem keys_put : (held.map (Shelf.put key a)).map Prod.fst = held.map Prod.fst := by
  rw [List.map_map]
  refine List.map_congr_left fun e _ => ?_
  unfold Shelf.put
  simp only [Function.comp_apply]
  split
  · rename_i hkey
    exact hkey.symm
  · rfl

theorem replace (h : entries.Lists held) (hheld : key ∈ held.map Prod.fst) :
    (entries.insert key a).Lists (held.map (Shelf.put key a)) := by
  refine ⟨keys_put.symm ▸ h.distinct, fun key' b => ?_⟩
  rw [List.mem_map]
  by_cases hkey : key' = key
  · subst hkey
    obtain ⟨old, hold, hfirst⟩ := List.mem_map.1 hheld
    rw [get?_insert_self]
    constructor
    · rintro ⟨⟩
      exact ⟨old, hold, if_pos hfirst⟩
    · rintro ⟨e, -, he⟩
      unfold Shelf.put at he
      split at he
      · rw [(Prod.mk.inj he).2]
      · rename_i hother
        exact absurd (congrArg Prod.fst he) hother
  · rw [get?_insert_of_ne hkey, h.found]
    constructor
    · intro hmem
      exact ⟨_, hmem, if_neg hkey⟩
    · rintro ⟨e, he, heq⟩
      unfold Shelf.put at heq
      split at heq
      · exact absurd (congrArg Prod.fst heq).symm hkey
      · exact heq ▸ he

theorem erase (h : entries.Lists (e :: held)) : (entries.erase e.1).Lists held := by
  obtain ⟨hfirst, hrest⟩ := List.nodup_cons.1 h.distinct
  refine ⟨hrest, fun key' b => ?_⟩
  by_cases hkey : key' = e.1
  · subst hkey
    have hgone : (e.1, b) ∉ held := fun hmem => hfirst (List.mem_map.2 ⟨_, hmem, rfl⟩)
    simp [get?_erase_self, hgone]
  · have hne : (key', b) ≠ e := fun heq => hkey (congrArg Prod.fst heq)
    rw [get?_erase_of_ne hkey, h.found, List.mem_cons, or_iff_right hne]

end OrderedMap.Lists

namespace RenderCache

variable {cache : RenderCache α} {shelf : Shelf α} {entries : OrderedMap CacheKey α}
  {held : List (CacheKey × α)} {capacity : Nat}

/-- A cache holds what is on a shelf, in its order, and no more than there is room for. -/
structure Holds (cache : RenderCache α) (shelf : Shelf α) : Prop where
  capacity : cache.capacity = shelf.capacity
  lists : cache.entries.Lists shelf.held
  queue : cache.queue = shelf.keys
  bounded : shelf.held.length ≤ shelf.capacity

theorem holds_empty : (empty capacity : RenderCache α).Holds (.empty capacity) :=
  ⟨rfl, .empty, rfl, Nat.zero_le _⟩

/-- The oldest go until there is room for the rest. -/
theorem evict_holds (h : entries.Lists held) :
    (evict capacity entries (held.map Prod.fst)).Holds
      ⟨capacity, held.drop (held.length - capacity)⟩ := by
  induction held generalizing entries with
  | nil =>
    rw [List.drop_nil]
    exact ⟨rfl, h, rfl, Nat.zero_le _⟩
  | cons e rest ih =>
    rw [List.map_cons, evict, h.size_eq, List.length_cons]
    split
    · rename_i hover
      rw [Nat.sub_add_comm (Nat.le_of_lt_succ hover), List.drop_succ_cons]
      exact ih h.erase
    · rename_i hroom
      rw [Nat.sub_eq_zero_of_le (Nat.le_of_not_lt hroom)]
      exact ⟨rfl, h, rfl, Nat.le_of_not_lt hroom⟩

theorem Holds.insert (h : cache.Holds shelf) : (cache.insert key a).Holds (shelf.insert key a) := by
  unfold RenderCache.insert Shelf.insert
  rw [h.capacity]
  split
  · exact h
  · rename_i hcapacity
    dsimp only
    by_cases hheld : key ∈ shelf.keys
    · rw [if_pos hheld, if_pos (h.lists.contains_iff.2 hheld), h.queue]
      have hput := @evict_holds _ _ _ shelf.capacity (h.lists.replace (a := a) hheld)
      rw [OrderedMap.Lists.keys_put, List.length_map, Nat.sub_eq_zero_of_le h.bounded] at hput
      exact hput
    · have hcontains : ¬cache.entries.contains key = true := fun hc =>
        hheld (h.lists.contains_iff.1 hc)
      rw [if_neg hheld, if_neg hcontains, h.queue]
      have hnew := @evict_holds _ _ _ shelf.capacity (h.lists.append (a := a) hheld)
      rw [List.map_append, List.length_append, List.length_singleton] at hnew
      split
      · rename_i hroom
        rw [Nat.sub_eq_zero_of_le hroom] at hnew
        exact hnew
      · rename_i hfull
        have hlength : shelf.held.length = shelf.capacity :=
          Nat.le_antisymm h.bounded (Nat.le_of_not_lt hfull)
        have hpos : 1 ≤ shelf.held.length := by omega
        rw [hlength, Nat.add_sub_cancel_left, List.drop_append_of_le_length hpos,
          List.drop_one] at hnew
        exact hnew

theorem Holds.call (h : cache.Holds shelf) (c : CacheCall α) :
    (cache.call c).Holds (shelf.call c) := by
  cases c with
  | insert key a => exact h.insert
  | clear =>
    rw [RenderCache.call, Shelf.call, ← h.capacity]
    exact holds_empty

theorem Holds.calls (h : cache.Holds shelf) (calls : List (CacheCall α)) :
    (calls.foldl RenderCache.call cache).Holds (calls.foldl Shelf.call shelf) := by
  induction calls generalizing cache shelf with
  | nil => exact h
  | cons c rest ih => exact ih (h.call c)

theorem Holds.size_le (h : cache.Holds shelf) : cache.size ≤ cache.capacity := by
  rw [size, h.lists.size_eq, h.capacity]
  exact h.bounded

theorem Holds.get?_eq (h : cache.Holds shelf) : cache.get? key = shelf.get? key := h.lists.get?_eq

end RenderCache

/-- What was just put on a shelf with any room at all is there. -/
theorem Shelf.mem_insert {s : Shelf α} (h : s.capacity ≠ 0) : (key, a) ∈ (s.insert key a).held := by
  unfold Shelf.insert
  rw [if_neg h]
  split
  · rename_i hheld
    obtain ⟨e, he, hkey⟩ := List.mem_map.1 hheld
    exact List.mem_map.2 ⟨e, he, if_pos hkey⟩
  · split <;> exact List.mem_append_right _ List.mem_cons_self

theorem Shelf.capacity_call {s : Shelf α} {c : CacheCall α} : (s.call c).capacity = s.capacity := by
  cases c with
  | insert key a =>
    show (s.insert key a).capacity = s.capacity
    unfold insert
    split
    · rfl
    · split
      · rfl
      · split <;> rfl
  | clear => rfl

theorem Shelf.capacity_calls {s : Shelf α} {calls : List (CacheCall α)} :
    (calls.foldl call s).capacity = s.capacity := by
  induction calls generalizing s with
  | nil => rfl
  | cons c rest ih => exact ih.trans capacity_call

/-- Whatever calls were made, the queue has each key that is cached once and no other, in the order
in which they came in; no more is cached than there is room for; and what is found is what lies on a
shelf after the same calls. With any room at all, what comes in is there. -/
theorem cache_oldest_first (capacity : Nat) (calls : List (CacheCall α)) :
    let cache := calls.foldl RenderCache.call (RenderCache.empty capacity)
    let shelf := calls.foldl Shelf.call (Shelf.empty capacity)
    cache.queue = shelf.keys ∧ cache.queue.Nodup ∧
    (∀ key, key ∈ cache.queue ↔ (cache.get? key).isSome) ∧ cache.size ≤ capacity ∧
    (∀ key, cache.get? key = shelf.get? key) ∧
    (0 < capacity → ∀ key a, (cache.insert key a).get? key = some a) := by
  intro cache shelf
  have hholds : cache.Holds shelf := RenderCache.holds_empty.calls calls
  have hcapacity : cache.capacity = capacity := hholds.capacity.trans Shelf.capacity_calls
  refine ⟨hholds.queue, hholds.queue ▸ hholds.lists.distinct, fun key => ?_, ?_,
    fun key => hholds.get?_eq, fun hpos key a => ?_⟩
  · rw [hholds.queue]
    exact hholds.lists.contains_iff.symm
  · rw [← hcapacity]
    exact hholds.size_le
  · have hroom : shelf.capacity ≠ 0 := by
      rw [← hholds.capacity, hcapacity]
      exact Nat.ne_of_gt hpos
    exact (hholds.insert.lists.found key a).2 (Shelf.mem_insert hroom)

/-- The page of that name, as anyone sees it. -/
def keyNamed (name : String) : CacheKey := ⟨name, ⟨∅, ∅⟩⟩

/-- The page that came in first comes in again, and then a third one. -/
def returningCalls : List (CacheCall Nat) :=
  [.clear, .insert (keyNamed "a") 1, .insert (keyNamed "b") 2, .insert (keyNamed "a") 3,
    .insert (keyNamed "c") 4]

theorem returning_oldest_first : 0 < 2 ∧ ∀ key a,
    ((returningCalls.foldl RenderCache.call (RenderCache.empty 2)).insert key a).get? key =
      some a := by
  obtain ⟨-, -, -, -, -, hpresent⟩ := cache_oldest_first 2 returningCalls
  exact ⟨by decide, hpresent (by decide)⟩

/-- Coming in again did not make it any younger. -/
example : (returningCalls.foldl RenderCache.call (RenderCache.empty 2)).queue =
    [keyNamed "b", keyNamed "c"] := by decide +kernel

end PageLayers
