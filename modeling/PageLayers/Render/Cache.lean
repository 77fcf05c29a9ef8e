import PageLayers.Page.Access
import PageLayers.Ordered.Map

/-! A bounded memory of rendered pages, where the one that came in first is the first to go. -/

namespace PageLayers

/-- All that the rendering of a page depends on. -/
structure CacheKey where
  fingerprint : String
  viewer : Viewer
  deriving DecidableEq

namespace CacheKey

def parts (k : CacheKey) : List (List String) :=
  [[k.fingerprint], k.viewer.roles.members, k.viewer.entitlements.members]

/-- Keys are ordered by their parts in turn. -/
instance : Ord CacheKey := ⟨compareOn parts⟩

theorem parts_injective {a b : CacheKey} (h : a.parts = b.parts) : a = b := by
  obtain ⟨fa, ⟨ra, _⟩, ⟨ea, _⟩⟩ := a
  obtain ⟨fb, ⟨rb, _⟩, ⟨eb, _⟩⟩ := b
  simp only [parts, List.cons.injEq, and_true] at h
  obtain ⟨rfl, rfl, rfl⟩ := h
  rfl

instance : Std.TransOrd CacheKey := inferInstanceAs (Std.TransCmp (compareOn parts))

instance : Std.LawfulEqOrd CacheKey where
  compare_self {a} := show compare a.parts a.parts = .eq from Std.ReflCmp.compare_self
  eq_of_compare {a b} h :=
    parts_injective (Std.LawfulEqOrd.eq_of_compare (show compare a.parts b.parts = .eq from h))

end CacheKey

/-- The queue holds the keys of the entries in the order in which they came in. -/
structure RenderCache (α : Type) where
  capacity : Nat
  entries : OrderedMap CacheKey α
  queue : List CacheKey

namespace RenderCache

variable {α : Type}

def empty (capacity : Nat) : RenderCache α := ⟨capacity, ∅, []⟩

def get? (cache : RenderCache α) (key : CacheKey) : Option α := cache.entries.get? key

def size (cache : RenderCache α) : Nat := cache.entries.size

def isEmpty (cache : RenderCache α) : Bool := cache.entries.isEmpty

/-- Drops entries from the front of the queue until the rest has room. -/
def evict (capacity : Nat) (entries : OrderedMap CacheKey α) : List CacheKey → RenderCache α
  | [] => ⟨capacity, entries, []⟩
  | oldest :: rest =>
    if entries.size > capacity then evict capacity (entries.erase oldest) rest
    else ⟨capacity, entries, oldest :: rest⟩

/-- A key that is there keeps its place in the queue, a new one goes to the end. A cache without
room takes nothing. -/
def insert (cache : RenderCache α) (key : CacheKey) (a : α) : RenderCache α :=
  if cache.capacity = 0 then cache
  else
    let queue := if cache.entries.contains key then cache.queue else cache.queue ++ [key]
    evict cache.capacity (cache.entries.insert key a) queue

def clear (cache : RenderCache α) : RenderCache α := empty cache.capacity

end RenderCache

end PageLayers
