/-! Finite sets kept as members in ascending order, so that equal sets are equal values. -/

namespace PageLayers

structure OrderedSet (κ : Type) [Ord κ] where
  members : List κ
  ascending : members.Pairwise fun a b => compare a b = .lt
  deriving DecidableEq

namespace OrderedSet

variable {κ : Type} [Ord κ]

def insertMember (k : κ) : List κ → List κ
  | [] => [k]
  | k' :: rest =>
    match compare k k' with
    | .lt => k :: k' :: rest
    | .eq => k' :: rest
    | .gt => k' :: insertMember k rest

theorem mem_insertMember {k a : κ} {l : List κ} (h : a ∈ insertMember k l) : a = k ∨ a ∈ l := by
  induction l with
  | nil => simpa [insertMember] using h
  | cons k' rest ih =>
    unfold insertMember at h
    split at h
    · simpa using h
    · exact .inr h
    · rcases List.mem_cons.1 h with rfl | h
      · exact .inr (List.mem_cons_self ..)
      · rcases ih h with h | h
        · exact .inl h
        · exact .inr (List.mem_cons_of_mem _ h)

theorem insertMember_ascending [Std.TransOrd κ] {k : κ} {l : List κ}
    (h : l.Pairwise fun a b => compare a b = .lt) :
    (insertMember k l).Pairwise fun a b => compare a b = .lt := by
  induction l with
  | nil => simp [insertMember]
  | cons k' rest ih =>
    rw [List.pairwise_cons] at h
    unfold insertMember
    split
    · rename_i hc
      refine List.pairwise_cons.2 ⟨fun a ha => ?_, List.pairwise_cons.2 h⟩
      rcases List.mem_cons.1 ha with rfl | ha
      · exact hc
      · exact Std.TransCmp.lt_trans hc (h.1 a ha)
    · exact List.pairwise_cons.2 h
    · rename_i hc
      refine List.pairwise_cons.2 ⟨fun a ha => ?_, ih h.2⟩
      rcases mem_insertMember ha with rfl | ha
      · exact Std.OrientedCmp.lt_of_gt hc
      · exact h.1 a ha

def empty : OrderedSet κ := ⟨[], .nil⟩

instance : EmptyCollection (OrderedSet κ) := ⟨empty⟩

instance : Inhabited (OrderedSet κ) := ⟨empty⟩

def insert [Std.TransOrd κ] (s : OrderedSet κ) (k : κ) : OrderedSet κ :=
  ⟨insertMember k s.members, insertMember_ascending s.ascending⟩

def ofList [Std.TransOrd κ] (l : List κ) : OrderedSet κ := l.foldl insert ∅

def contains (s : OrderedSet κ) (k : κ) : Bool := s.members.any fun a => compare k a = .eq

def size (s : OrderedSet κ) : Nat := s.members.length

def isEmpty (s : OrderedSet κ) : Bool := s.members.isEmpty

def isSubset (s t : OrderedSet κ) : Bool := s.members.all t.contains

/-- The members of `s` that are also in `t`, in order. -/
def common (s t : OrderedSet κ) : List κ := s.members.filter t.contains

end OrderedSet

end PageLayers
