import PageLayers.Overlay.Merge
import PageLayers.Proofs.Lists

/-! What merging lists of properties comes to, also where names are repeated: whose names stand in
which order, whose value a name has, and when the order of merges does not matter. -/

namespace PageLayers

variable {p q : Property} {b o l : List Property} {name : String}

def firstNamed? (name : String) (l : List Property) : Option Property :=
  l.find? (·.name = name)

def lastNamed? (name : String) (l : List Property) : Option Property :=
  l.reverse.find? (·.name = name)

def notNamed (name : String) (l : List Property) : List Property :=
  l.filter (·.name ≠ name)

theorem name_of_lastNamed? (h : lastNamed? name l = some p) : p.name = name := by
  simpa using List.find?_some h

theorem firstNamed?_cons :
    firstNamed? name (p :: l) = if p.name = name then some p else firstNamed? name l := by
  by_cases hp : p.name = name <;> simp [firstNamed?, hp]

theorem lastNamed?_cons :
    lastNamed? name (p :: l) = (lastNamed? name l).or (if p.name = name then some p else none) := by
  by_cases hp : p.name = name <;> simp [lastNamed?, hp]

theorem notNamed_cons :
    notNamed name (p :: l) = if p.name = name then notNamed name l else p :: notNamed name l := by
  by_cases hp : p.name = name <;> simp [notNamed, hp]

theorem lastNamed?_notNamed {other : String} (h : name ≠ other) :
    lastNamed? name (notNamed other l) = lastNamed? name l := by
  unfold lastNamed? notNamed
  rw [← List.filter_reverse, List.find?_filter]
  congr 1
  funext p
  by_cases hp : p.name = name <;> simp [hp, h]

theorem lastNamed?_notNamed_self : lastNamed? name (notNamed name l) = none := by
  apply List.find?_eq_none.2
  intro p hp
  simpa [notNamed] using (List.mem_filter.1 (List.mem_reverse.1 hp)).2

theorem lastNamed?_of_nodup (h : (l.map Property.name).Nodup) :
    lastNamed? name l = firstNamed? name l := by
  induction l with
  | nil => rfl
  | cons p rest ih =>
    rw [List.map_cons, List.nodup_cons] at h
    rw [lastNamed?_cons, firstNamed?_cons, ih h.2]
    by_cases hp : p.name = name
    · have hnone : firstNamed? name rest = none := by
        apply List.find?_eq_none.2
        intro q hq
        have hne : q.name ≠ p.name := fun heq => h.1 (heq ▸ List.mem_map_of_mem hq)
        simpa [← hp] using hne
      simp [hnone, hp]
    · simp [hp]

/-! ### One property -/

theorem setProperty_cons_self (h : q.name = p.name) : setProperty p (q :: l) = p :: l := by
  rw [setProperty, if_pos h, h]

theorem setProperty_cons_of_ne (h : q.name ≠ p.name) :
    setProperty p (q :: l) = q :: setProperty p l := by
  rw [setProperty, if_neg h]

theorem setProperty_of_new (h : p.name ∉ l.map Property.name) : setProperty p l = l ++ [p] := by
  induction l with
  | nil => rfl
  | cons q rest ih =>
    rw [List.map_cons, List.mem_cons, not_or] at h
    rw [setProperty_cons_of_ne (Ne.symm h.1), ih h.2]
    rfl

theorem map_name_setProperty : (setProperty p l).map Property.name =
    if p.name ∈ l.map Property.name then l.map Property.name
    else l.map Property.name ++ [p.name] := by
  induction l with
  | nil => rfl
  | cons q rest ih =>
    by_cases hq : q.name = p.name
    · rw [setProperty_cons_self hq]
      simp [hq]
    · rw [setProperty_cons_of_ne hq, List.map_cons, List.map_cons, ih]
      by_cases hrest : p.name ∈ rest.map Property.name
      · rw [if_pos hrest, if_pos (List.mem_cons_of_mem _ hrest)]
      · have hnew : p.name ∉ q.name :: rest.map Property.name := by
          simp only [List.mem_cons, not_or]
          exact ⟨Ne.symm hq, hrest⟩
        rw [if_neg hrest, if_neg hnew]
        rfl

theorem firstNamed?_setProperty : firstNamed? name (setProperty p l) =
    if p.name = name then some p else firstNamed? name l := by
  induction l with
  | nil => exact firstNamed?_cons
  | cons q rest ih =>
    by_cases hq : q.name = p.name
    · rw [setProperty_cons_self hq, firstNamed?_cons, firstNamed?_cons, hq]
      by_cases hp : p.name = name <;> simp [hp]
    · rw [setProperty_cons_of_ne hq, firstNamed?_cons, firstNamed?_cons, ih]
      by_cases hp : p.name = name
      · simp [hp, hp ▸ hq]
      · simp [hp]

theorem notNamed_setProperty : notNamed name (setProperty p l) =
    if p.name = name then notNamed name l else setProperty p (notNamed name l) := by
  induction l with
  | nil => exact notNamed_cons
  | cons q rest ih =>
    by_cases hq : q.name = p.name
    · rw [setProperty_cons_self hq, notNamed_cons, notNamed_cons, hq]
      by_cases hp : p.name = name
      · simp [hp]
      · simp [hp, setProperty_cons_self hq]
    · rw [setProperty_cons_of_ne hq, notNamed_cons, notNamed_cons, ih]
      by_cases hp : p.name = name
      · simp [hp, hp ▸ hq]
      · by_cases hname : q.name = name
        · simp [hname]
        · simp [hp, hname, setProperty_cons_of_ne hq]

/-! ### Lists of properties -/

theorem mergeProps_nil : mergeProps b [] = b := rfl

theorem mergeProps_cons : mergeProps b (p :: o) = mergeProps (setProperty p b) o := rfl

/-- The first property of the base takes the last value that its name is given, and leaves the rest
to the properties of other names. -/
theorem cons_mergeProps : mergeProps (q :: b) o =
    (lastNamed? q.name o).getD q :: mergeProps b (notNamed q.name o) := by
  induction o generalizing q b with
  | nil => rfl
  | cons p rest ih =>
    rw [mergeProps_cons, lastNamed?_cons, notNamed_cons]
    by_cases hq : q.name = p.name
    · rw [setProperty_cons_self hq, ih]
      cases hlast : lastNamed? p.name rest <;> simp [hq, hlast]
    · rw [setProperty_cons_of_ne hq, ih]
      simp [Ne.symm hq, mergeProps_cons]

theorem firstNamed?_mergeProps :
    firstNamed? name (mergeProps b o) = (lastNamed? name o).or (firstNamed? name b) := by
  induction o generalizing b with
  | nil => rfl
  | cons p rest ih =>
    rw [mergeProps_cons, ih, firstNamed?_setProperty, lastNamed?_cons, Option.or_assoc]
    by_cases hp : p.name = name <;> simp [hp]

theorem notNamed_mergeProps :
    notNamed name (mergeProps b o) = mergeProps (notNamed name b) (notNamed name o) := by
  induction o generalizing b with
  | nil => rfl
  | cons p rest ih =>
    rw [mergeProps_cons, ih, notNamed_setProperty, notNamed_cons]
    by_cases hp : p.name = name
    · simp [hp]
    · simp [hp, mergeProps_cons]

theorem map_name_mergeProps : (mergeProps b o).map Property.name = b.map Property.name ++
    ((o.map Property.name).filter (· ∉ b.map Property.name)).eraseDups := by
  induction o generalizing b with
  | nil => simp [mergeProps_nil]
  | cons p rest ih =>
    rw [mergeProps_cons, ih, List.map_cons, append_eraseDups_cons, map_name_setProperty]

theorem nodup_mergeProps (h : (b.map Property.name).Nodup) :
    ((mergeProps b o).map Property.name).Nodup := by
  induction o generalizing b with
  | nil => exact h
  | cons p rest ih =>
    rw [mergeProps_cons]
    apply ih
    rw [map_name_setProperty]
    split
    · exact h
    · rename_i hnew
      exact List.nodup_append.2 ⟨h, List.nodup_singleton _, by simpa using hnew⟩

theorem mergeProps_of_new (h : ((b ++ o).map Property.name).Nodup) : mergeProps b o = b ++ o := by
  induction o generalizing b with
  | nil => exact (List.append_nil b).symm
  | cons p rest ih =>
    have hnew : p.name ∉ b.map Property.name := by
      rw [List.map_append, List.map_cons, List.nodup_middle, List.nodup_cons] at h
      exact fun hmem => h.1 (List.mem_append_left _ hmem)
    rw [List.append_cons] at h ⊢
    rw [mergeProps_cons, setProperty_of_new hnew, ih h]

/-- Nothing changes where each name has the last value that it is given. -/
theorem mergeProps_eq_self (h : ∀ name p, lastNamed? name o = some p →
    firstNamed? name l = some p) : mergeProps l o = l := by
  induction l generalizing o with
  | nil =>
    cases o with
    | nil => rfl
    | cons p rest =>
      cases hlast : lastNamed? p.name (p :: rest) with
      | none => simp [lastNamed?_cons] at hlast
      | some q => cases h _ _ hlast
  | cons q rest ih =>
    have hhead : (lastNamed? q.name o).getD q = q := by
      cases hlast : lastNamed? q.name o with
      | none => rfl
      | some p =>
        have hfirst := h _ _ hlast
        rw [firstNamed?_cons, if_pos rfl] at hfirst
        exact (Option.some.inj hfirst).symm
    rw [cons_mergeProps, hhead]
    congr 1
    apply ih
    intro name p hp
    by_cases hname : q.name = name
    · rw [hname, lastNamed?_notNamed_self] at hp
      cases hp
    · rw [lastNamed?_notNamed (Ne.symm hname)] at hp
      have hfirst := h _ _ hp
      rwa [firstNamed?_cons, if_neg hname] at hfirst

theorem mergeProps_idem : mergeProps (mergeProps b o) o = mergeProps b o := by
  apply mergeProps_eq_self
  intro name p hp
  rw [firstNamed?_mergeProps, hp]
  rfl

theorem nodup_notNamed (h : (o.map Property.name).Nodup) :
    ((notNamed name o).map Property.name).Nodup :=
  h.sublist (List.filter_sublist.map Property.name)

/-- Where the names of the first overrides are distinct, overrides can be merged before they go onto
the base. If they are not, one that was given first can outlive the merge and come to stand last. -/
theorem mergeProps_assoc {o' : List Property} (h : (o.map Property.name).Nodup) :
    mergeProps (mergeProps b o) o' = mergeProps b (mergeProps o o') := by
  induction b generalizing o o' with
  | nil =>
    have hfirst : mergeProps [] o = o := mergeProps_of_new h
    have hboth : mergeProps [] (mergeProps o o') = mergeProps o o' :=
      mergeProps_of_new (nodup_mergeProps h)
    rw [hfirst, hboth]
  | cons q b ih =>
    have hlast : lastNamed? q.name (mergeProps o o') =
        (lastNamed? q.name o').or (lastNamed? q.name o) := by
      rw [lastNamed?_of_nodup (nodup_mergeProps h), firstNamed?_mergeProps, lastNamed?_of_nodup h]
    have hname : ((lastNamed? q.name o).getD q).name = q.name := by
      cases hq : lastNamed? q.name o with
      | none => rfl
      | some p => exact name_of_lastNamed? hq
    rw [cons_mergeProps, cons_mergeProps, cons_mergeProps, hname, ih (nodup_notNamed h), hlast,
      notNamed_mergeProps]
    cases lastNamed? q.name o' <;> rfl

/-- Merging properties lets the later ones win: names keep their places, with new ones at the end in
the order in which they first come, and a name is read as it was given last. Merging the same again
changes nothing, and overrides can be merged first if the earlier ones have distinct names. -/
theorem mergeProps_laws (b o : List Property) :
    (mergeProps b o).map Property.name = b.map Property.name ++
      ((o.map Property.name).filter (· ∉ b.map Property.name)).eraseDups ∧
    (∀ name, firstNamed? name (mergeProps b o) = (lastNamed? name o).or (firstNamed? name b)) ∧
    mergeProps (mergeProps b o) o = mergeProps b o ∧
    ((o.map Property.name).Nodup →
      ∀ o', mergeProps (mergeProps b o) o' = mergeProps b (mergeProps o o')) :=
  ⟨map_name_mergeProps, fun _ => firstNamed?_mergeProps, mergeProps_idem,
    fun h _ => mergeProps_assoc h⟩

def titles : List Property := [⟨"title", .static (.str "Hello")⟩, ⟨"tone", .static (.str "calm")⟩,
  ⟨"title", .static (.str "Hello again")⟩]

def badge : List Property := [⟨"title", .static (.str "Sale")⟩, ⟨"badge", .static (.str "new")⟩]

/-- The second title stays, hidden behind the first. -/
theorem badge_on_titles : (badge.map Property.name).Nodup ∧
    ((mergeProps titles badge).map Property.name = ["title", "tone", "title", "badge"] ∧
      firstNamed? "title" (mergeProps titles badge) = some ⟨"title", .static (.str "Sale")⟩ ∧
      mergeProps (mergeProps titles badge) badge = mergeProps titles badge ∧
      ∀ o', mergeProps (mergeProps titles badge) o' = mergeProps titles (mergeProps badge o')) := by
  have hdistinct : (badge.map Property.name).Nodup := by decide
  obtain ⟨hnames, hfirst, hagain, hassoc⟩ := mergeProps_laws titles badge
  refine ⟨hdistinct, hnames.trans (by decide), (hfirst "title").trans (by decide), hagain,
    hassoc hdistinct⟩

/-- With a name given twice before, what was given first comes to stand last. -/
example : firstNamed? "title" (mergeProps (mergeProps [] titles) badge) =
    some ⟨"title", .static (.str "Sale")⟩ ∧
    firstNamed? "title" (mergeProps [] (mergeProps titles badge)) =
      some ⟨"title", .static (.str "Hello again")⟩ := by decide

end PageLayers
