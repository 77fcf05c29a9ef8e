import PageLayers.Proofs.Json.Strings
import PageLayers.Proofs.Json.WellFormed

/-! The texts of a value: both the compact one and the one over lines read as that value, however
many blanks stand between its parts. -/

namespace PageLayers.Json

/-- Blanks, of which any number may stand between the parts of a value. -/
def Gap (cs : List Char) : Prop := ∀ c ∈ cs, isBlank c = true

mutual

/-- A text of a value, from its first character to its last. -/
inductive Spelled : Json → List Char → Prop
  | null : Spelled null "null".toList
  | yes : Spelled (bool true) "true".toList
  | no : Spelled (bool false) "false".toList
  | num (n : Number) : Spelled (num n) n.chars
  | str (s : String) : Spelled (str s) (quoted s)
  | noItems : Spelled (arr []) ['[', ']']
  | items {gap j cs items ds} (hgap : Gap gap) (hj : Spelled j cs)
    (hitems : ItemsSpelled items ds) :
    Spelled (arr (j :: items)) ('[' :: (gap ++ (cs ++ ds)))
  | noFields : Spelled (obj []) ['{', '}']
  | fields {gap k colon j cs fields ds} (hgap : Gap gap) (hcolon : Gap colon) (hj : Spelled j cs)
    (hfields : FieldsSpelled fields ds) :
    Spelled (obj ((k, j) :: fields)) ('{' :: (gap ++ (quoted k ++ ':' :: (colon ++ cs) ++ ds)))

/-- A text of the items that are left, with the bracket behind them. -/
inductive ItemsSpelled : List Json → List Char → Prop
  | close {gap} (hgap : Gap gap) : ItemsSpelled [] (gap ++ [']'])
  | next {gap j cs items ds} (hgap : Gap gap) (hj : Spelled j cs) (hitems : ItemsSpelled items ds) :
    ItemsSpelled (j :: items) (',' :: (gap ++ (cs ++ ds)))

/-- A text of the fields that are left, with the brace behind them. -/
inductive FieldsSpelled : List (String × Json) → List Char → Prop
  | close {gap} (hgap : Gap gap) : FieldsSpelled [] (gap ++ ['}'])
  | next {gap k colon j cs fields ds} (hgap : Gap gap) (hcolon : Gap colon) (hj : Spelled j cs)
    (hfields : FieldsSpelled fields ds) :
    FieldsSpelled ((k, j) :: fields) (',' :: (gap ++ (quoted k ++ ':' :: (colon ++ cs) ++ ds)))

end

theorem gap_nil : Gap [] := by
  intro c hc
  cases hc

theorem gap_newline {depth : Nat} : Gap (newline depth) := by
  intro c hc
  rcases List.mem_cons.1 hc with rfl | hc
  · rfl
  · rw [List.eq_of_mem_replicate hc]
    rfl

theorem gap_blank : Gap [' '] := by
  intro c hc
  rw [List.mem_singleton.1 hc]
  rfl

/-! ### The compact text and the lines -/

mutual

theorem spelled_chars : (j : Json) → Spelled j j.chars
  | null => .null
  | bool true => .yes
  | bool false => .no
  | num n => .num n
  | str s => .str s
  | arr [] => .noItems
  | arr (j :: rest) => .items gap_nil (spelled_chars j) (itemsSpelled_chars rest)
  | obj [] => .noFields
  | obj ((k, j) :: rest) => by
    rw [chars, ← @List.cons_append _ ':', ← List.append_assoc]
    exact .fields gap_nil gap_nil (spelled_chars j) (fieldsSpelled_chars rest)

theorem itemsSpelled_chars : (items : List Json) → ItemsSpelled items (itemsChars items)
  | [] => .close gap_nil
  | j :: rest => .next gap_nil (spelled_chars j) (itemsSpelled_chars rest)

theorem fieldsSpelled_chars :
    (fields : List (String × Json)) → FieldsSpelled fields (fieldsChars fields)
  | [] => .close gap_nil
  | (k, j) :: rest => by
    rw [fieldsChars, ← @List.cons_append _ ':', ← List.append_assoc]
    exact .next gap_nil gap_nil (spelled_chars j) (fieldsSpelled_chars rest)

end

mutual

theorem spelled_lines (depth : Nat) : (j : Json) → Spelled j (j.linesChars depth)
  | null => .null
  | bool true => .yes
  | bool false => .no
  | num n => .num n
  | str s => .str s
  | arr [] => .noItems
  | arr (j :: rest) => by
    rw [linesChars, List.append_assoc]
    exact .items gap_newline (spelled_lines (depth + 1) j) (itemsSpelled_lines depth rest)
  | obj [] => .noFields
  | obj ((k, j) :: rest) => by
    rw [linesChars, List.append_assoc, List.append_assoc, ← List.append_assoc (quoted k)]
    exact .fields gap_newline gap_blank (spelled_lines (depth + 1) j)
      (fieldsSpelled_lines depth rest)

theorem itemsSpelled_lines (depth : Nat) :
    (items : List Json) → ItemsSpelled items (itemsLines depth items)
  | [] => .close gap_newline
  | j :: rest => by
    rw [itemsLines, List.append_assoc]
    exact .next gap_newline (spelled_lines (depth + 1) j) (itemsSpelled_lines depth rest)

theorem fieldsSpelled_lines (depth : Nat) :
    (fields : List (String × Json)) → FieldsSpelled fields (fieldsLines depth fields)
  | [] => .close gap_newline
  | (k, j) :: rest => by
    rw [fieldsLines, List.append_assoc, List.append_assoc, ← List.append_assoc (quoted k)]
    exact .next gap_newline gap_blank (spelled_lines (depth + 1) j)
      (fieldsSpelled_lines depth rest)

end

/-! ### Reading a text -/

variable {j : Json} {c : Char} {cs ds gap rest : List Char} {fuel depth : Nat}

theorem skipBlanks_gap (hgap : Gap gap) (hc : isBlank c = false) :
    skipBlanks (gap ++ c :: rest) = c :: rest := by
  rw [skipBlanks, List.dropWhile_append_of_pos hgap, List.dropWhile_cons_of_neg (by simp [hc])]

theorem atEnd_nil : AtEnd [] := by
  intro c hc
  cases hc

theorem atEnd_cons (hc : c = ',' ∨ c = ']' ∨ c = '}') : AtEnd (c :: rest) := by
  intro d hd
  obtain rfl := Option.some.inj hd
  exact .inr hc

theorem atEnd_gap (hgap : Gap gap) (hrest : AtEnd rest) : AtEnd (gap ++ rest) := by
  cases gap with
  | nil => exact hrest
  | cons d gap =>
    intro c hc
    obtain rfl := Option.some.inj hc
    exact .inl (hgap _ List.mem_cons_self)

/-- A text of a value starts with a character that no gap and no bracket at the end starts with. -/
theorem head_of_spelled (h : Spelled j cs) (hnumbers : ∀ n ∈ j.numbers, n.ReadsBack) :
    ∃ c tail, cs = c :: tail ∧ isBlank c = false ∧ c ≠ ']' := by
  cases h with
  | num n =>
    obtain ⟨c, tail, hcs, hc⟩ := Number.head_of_read? (hnumbers n (by simp [numbers]))
    refine ⟨c, tail, hcs, ?_⟩
    have hother (d : Char) (hd : d.isDigit = false ∧ d ≠ '-') : c ≠ d := by
      rintro rfl
      rcases hc with hc | rfl
      · rw [hd.1] at hc
        cases hc
      · exact hd.2 rfl
    have hspace := hother ' ' (by decide)
    have hnewline := hother '\n' (by decide)
    have htab := hother '\t' (by decide)
    have hreturn := hother '\r' (by decide)
    exact ⟨by simp [isBlank, hspace, hnewline, htab, hreturn], hother ']' (by decide)⟩
  | null | yes | no | str | noItems | items | noFields | fields =>
    exact ⟨_, _, rfl, rfl, by decide⟩

/-- The text reads as the value, wherever it stands. -/
def Reads (j : Json) (cs : List Char) : Prop :=
  ∀ ⦃fuel depth gap rest⦄, 2 * cs.length ≤ fuel → j.nesting ≤ depth → Gap gap → AtEnd rest →
    value? fuel depth (gap ++ (cs ++ rest)) = some (j, rest)

theorem value?_num {n : Number} (hread : Number.read? (c :: rest) = some (n, ds))
    (hgap : Gap gap) (hblank : isBlank c = false) :
    value? (fuel + 1) depth (gap ++ c :: rest) = some (num n, ds) := by
  obtain ⟨d, tail, hd, hc⟩ := Number.head_of_read? hread
  obtain ⟨rfl, rfl⟩ := List.cons.inj hd
  unfold value?
  rw [skipBlanks_gap hgap hblank]
  split
  case h_7 => rw [hread]; rfl
  all_goals
    rename_i heq
    obtain ⟨rfl, -⟩ := List.cons.inj heq
    rcases hc with hc | hc <;> cases hc

theorem reads_num {n : Number} (h : n.ReadsBack) : Reads (num n) n.chars := by
  intro fuel depth gap rest hfuel _ hgap hrest
  obtain ⟨c, tail, hcs, hblank, -⟩ := head_of_spelled (.num n) (by simp [numbers, h])
  have hread := h.append hrest
  rw [hcs] at hfuel hread ⊢
  obtain ⟨fuel, rfl⟩ := Nat.exists_eq_add_one.2 (Nat.lt_of_lt_of_le (by simp) hfuel)
  exact value?_num hread hgap hblank

theorem value?_arr {items : List Json} (hgap : Gap gap) (hds : Gap ds) (hblank : isBlank c = false)
    (hc : c ≠ ']') (hread : items? fuel depth (c :: cs) = some (items, rest)) :
    value? (fuel + 1) (depth + 1) (gap ++ '[' :: (ds ++ c :: cs)) = some (arr items, rest) := by
  unfold value?
  rw [skipBlanks_gap hgap rfl]
  simp only [skipBlanks_gap hds hblank]
  split
  · rename_i hzero
    cases hzero
  · rename_i hclose _
    exact absurd (List.cons.inj hclose).1 hc
  · rename_i hdepth _
    obtain rfl := Nat.succ.inj hdepth
    rw [hread]
    rfl

theorem value?_obj {fields : List (String × Json)} (hgap : Gap gap) (hds : Gap ds)
    (hread : fields? fuel depth ('"' :: cs) = some (fields, rest)) :
    value? (fuel + 1) (depth + 1) (gap ++ '{' :: (ds ++ '"' :: cs)) = some (obj fields, rest) := by
  unfold value?
  rw [skipBlanks_gap hgap rfl]
  simp only [skipBlanks_gap hds (c := '"') rfl]
  simp [hread]

theorem fields?_quoted {k : String} (hgap : Gap gap) :
    fields? (fuel + 1) depth (gap ++ (quoted k ++ ':' :: cs)) =
      match value? fuel depth cs with
      | none => none
      | some (j, ds) =>
        match skipBlanks ds with
        | ',' :: ds => (fields? fuel depth ds).map fun r => ((k, j) :: r.1, r.2)
        | '}' :: ds => some ([(k, j)], ds)
        | _ => none := by
  rw [fields?, quoted_append, skipBlanks_gap hgap rfl]
  simp only [stringBody?_quoted]
  rw [← List.nil_append (':' :: cs), skipBlanks_gap gap_nil rfl, String.ofList_toList]
  rfl

theorem reads_literal (h : j = null ∧ cs = "null".toList ∨ j = bool true ∧ cs = "true".toList ∨
    j = bool false ∧ cs = "false".toList) : Reads j cs := by
  intro fuel depth gap rest hfuel _ hgap _
  cases fuel with
  | zero => rcases h with ⟨-, rfl⟩ | ⟨-, rfl⟩ | ⟨-, rfl⟩ <;> cases hfuel
  | succ fuel =>
    rcases h with ⟨rfl, rfl⟩ | ⟨rfl, rfl⟩ | ⟨rfl, rfl⟩
    all_goals
      unfold value?
      simp only [String.reduceToList, List.cons_append, List.nil_append]
      rw [skipBlanks_gap hgap rfl]
      rfl

theorem reads_bracketed {open' close : Char} {empty : Json}
    (h : open' = '[' ∧ close = ']' ∧ empty = arr [] ∨ open' = '{' ∧ close = '}' ∧ empty = obj []) :
    Reads empty [open', close] := by
  intro fuel depth gap rest hfuel hdepth hgap _
  cases fuel with
  | zero => cases hfuel
  | succ fuel =>
    rcases h with ⟨rfl, rfl, rfl⟩ | ⟨rfl, rfl, rfl⟩
    all_goals
      cases depth with
      | zero => cases hdepth
      | succ depth =>
        unfold value?
        simp only [List.cons_append, List.nil_append]
        rw [skipBlanks_gap hgap rfl]
        rfl

theorem reads_str {s : String} : Reads (str s) (quoted s) := by
  intro fuel depth gap rest hfuel _ hgap _
  cases fuel with
  | zero => cases hfuel
  | succ fuel =>
    unfold value?
    rw [quoted_append, skipBlanks_gap hgap rfl]
    simp [stringBody?_quoted]

theorem atEnd_items {items : List Json} (h : ItemsSpelled items ds) : AtEnd (ds ++ rest) := by
  cases h with
  | close hgap =>
    rw [List.append_assoc]
    exact atEnd_gap hgap (atEnd_cons (by decide))
  | next => exact atEnd_cons (by decide)

theorem atEnd_fields {fields : List (String × Json)} (h : FieldsSpelled fields ds) :
    AtEnd (ds ++ rest) := by
  cases h with
  | close hgap =>
    rw [List.append_assoc]
    exact atEnd_gap hgap (atEnd_cons (by decide))
  | next => exact atEnd_cons (by decide)

mutual

theorem reads_of_spelled {j : Json} {cs : List Char} (h : Spelled j cs)
    (hnumbers : ∀ n ∈ j.numbers, n.ReadsBack) : Reads j cs := by
  match h with
  | .null => exact reads_literal (.inl ⟨rfl, rfl⟩)
  | .yes => exact reads_literal (.inr (.inl ⟨rfl, rfl⟩))
  | .no => exact reads_literal (.inr (.inr ⟨rfl, rfl⟩))
  | .num n => exact reads_num (hnumbers n (by simp [numbers]))
  | .str s => exact reads_str
  | .noItems => exact reads_bracketed (.inl ⟨rfl, rfl, rfl⟩)
  | .noFields => exact reads_bracketed (.inr ⟨rfl, rfl, rfl⟩)
  | .items hinner hj hitems =>
    intro fuel depth gap rest hfuel hdepth hgap hrest
    rw [numbers, numbersOf, List.forall_mem_append] at hnumbers
    simp only [List.length_cons, List.length_append] at hfuel
    simp only [nesting, nestingOf] at hdepth
    obtain ⟨fuel, rfl⟩ := Nat.exists_eq_add_one.2 (show 0 < fuel by omega)
    obtain ⟨depth, rfl⟩ := Nat.exists_eq_add_one.2 (show 0 < depth by omega)
    have hread := items?_of_spelled (r := rest) hitems hnumbers.2
      (reads_of_spelled hj hnumbers.1) (show _ ≤ fuel by omega) (show _ ≤ depth by omega) gap_nil
    obtain ⟨c, tail, rfl, hblank, hclose⟩ := head_of_spelled hj hnumbers.1
    rw [List.cons_append, List.append_assoc, List.append_assoc]
    exact value?_arr hgap hinner hblank hclose hread
  | .fields (k := k) hinner hcolon hj hfields =>
    intro fuel depth gap rest hfuel hdepth hgap hrest
    rw [numbers, numbersIn, List.forall_mem_append] at hnumbers
    simp only [List.length_cons, List.length_append] at hfuel
    simp only [nesting, nestingIn] at hdepth
    obtain ⟨fuel, rfl⟩ := Nat.exists_eq_add_one.2 (show 0 < fuel by omega)
    obtain ⟨depth, rfl⟩ := Nat.exists_eq_add_one.2 (show 0 < depth by omega)
    have hread := fields?_of_spelled (k := k) (r := rest) hfields hnumbers.2
      (reads_of_spelled hj hnumbers.1) (show _ ≤ fuel by omega) (show _ ≤ depth by omega) gap_nil
      hcolon
    rw [List.cons_append, List.append_assoc, List.append_assoc, quoted_append]
    rw [quoted_append] at hread
    exact value?_obj hgap hinner hread

theorem items?_of_spelled {items : List Json} {ds : List Char} (h : ItemsSpelled items ds)
    (hnumbers : ∀ n ∈ numbersOf items, n.ReadsBack) {j : Json} {cs gap r : List Char}
    {fuel depth : Nat} (hj : Reads j cs) (hfuel : 2 * (cs.length + ds.length) ≤ fuel)
    (hdepth : max j.nesting (nestingOf items) ≤ depth) (hgap : Gap gap) :
    items? fuel depth (gap ++ (cs ++ (ds ++ r))) = some (j :: items, r) := by
  have hend : AtEnd (ds ++ r) := atEnd_items h
  have hvalue {fuel : Nat} (hfuel : 2 * cs.length ≤ fuel) :=
    hj hfuel (le_trans (le_max_left _ _) hdepth) hgap hend
  match h with
  | .close hgap' =>
    simp only [List.length_append, List.length_singleton] at hfuel
    obtain ⟨fuel, rfl⟩ := Nat.exists_eq_add_one.2 (show 0 < fuel by omega)
    rw [items?, hvalue (by omega)]
    simp only [List.append_assoc, List.singleton_append, skipBlanks_gap hgap' (c := ']') rfl]
  | .next hinner hnext hitems =>
    rw [numbersOf, List.forall_mem_append] at hnumbers
    simp only [List.length_cons, List.length_append] at hfuel
    rw [nestingOf] at hdepth
    obtain ⟨fuel, rfl⟩ := Nat.exists_eq_add_one.2 (show 0 < fuel by omega)
    have hread := items?_of_spelled hitems hnumbers.2 (r := r)
      (reads_of_spelled hnext hnumbers.1) (show _ ≤ fuel by omega) (show _ ≤ depth by omega) hinner
    rw [items?, hvalue (by omega)]
    simp only [List.cons_append, List.append_assoc]
    rw [← List.nil_append (',' :: _), skipBlanks_gap gap_nil rfl]
    simp only [hread, Option.map_some]

theorem fields?_of_spelled {fields : List (String × Json)} {ds : List Char}
    (h : FieldsSpelled fields ds) (hnumbers : ∀ n ∈ numbersIn fields, n.ReadsBack) {k : String}
    {j : Json} {cs gap colon r : List Char} {fuel depth : Nat} (hj : Reads j cs)
    (hfuel : 2 * (cs.length + ds.length) ≤ fuel)
    (hdepth : max j.nesting (nestingIn fields) ≤ depth) (hgap : Gap gap) (hcolon : Gap colon) :
    fields? fuel depth (gap ++ (quoted k ++ ':' :: (colon ++ cs) ++ (ds ++ r))) =
      some ((k, j) :: fields, r) := by
  have hend : AtEnd (ds ++ r) := atEnd_fields h
  have hvalue {fuel : Nat} (hfuel : 2 * cs.length ≤ fuel) :=
    hj hfuel (le_trans (le_max_left _ _) hdepth) hcolon hend
  rw [List.append_assoc, List.cons_append, List.append_assoc]
  match h with
  | .close hgap' =>
    simp only [List.length_append, List.length_singleton] at hfuel
    obtain ⟨fuel, rfl⟩ := Nat.exists_eq_add_one.2 (show 0 < fuel by omega)
    rw [fields?_quoted hgap, hvalue (by omega)]
    simp only [List.append_assoc, List.singleton_append, skipBlanks_gap hgap' (c := '}') rfl]
  | .next (k := l) hinner hnextColon hnext hfields =>
    rw [numbersIn, List.forall_mem_append] at hnumbers
    simp only [List.length_cons, List.length_append] at hfuel
    rw [nestingIn] at hdepth
    obtain ⟨fuel, rfl⟩ := Nat.exists_eq_add_one.2 (show 0 < fuel by omega)
    have hread := fields?_of_spelled (k := l) (r := r) hfields hnumbers.2
      (reads_of_spelled hnext hnumbers.1) (show _ ≤ fuel by omega) (show _ ≤ depth by omega) hinner
      hnextColon
    rw [fields?_quoted hgap, hvalue (by omega)]
    simp only [List.cons_append, List.append_assoc] at hread ⊢
    rw [← List.nil_append (',' :: _), skipBlanks_gap gap_nil rfl]
    simp only [hread, Option.map_some]

end

/-- Reads a text in which arrays and objects nest no deeper than the limit. -/
def readWithin? (limit : Nat) (text : String) : Option Json :=
  match value? (2 * text.toList.length + 1) limit text.toList with
  | some (j, rest) => if (skipBlanks rest).isEmpty then some j else none
  | none => none

theorem written?_eq : written? = readWithin? nestingLimit := rfl

variable {limit : Nat}

theorem readWithin?_of_spelled {text : String} (h : Spelled j text.toList)
    (hnumbers : ∀ n ∈ j.numbers, n.ReadsBack) (hlimit : j.nesting ≤ limit) :
    readWithin? limit text = some j := by
  have hread := reads_of_spelled h hnumbers (Nat.le_succ _) hlimit gap_nil atEnd_nil
  rw [List.nil_append, List.append_nil] at hread
  rw [readWithin?, hread]
  rfl

/-- The compact text of a value reads as the value. -/
theorem readWithin?_text (hnumbers : ∀ n ∈ j.numbers, n.ReadsBack) (hlimit : j.nesting ≤ limit) :
    readWithin? limit j.text = some j := by
  refine readWithin?_of_spelled ?_ hnumbers hlimit
  rw [text, String.toList_ofList]
  exact spelled_chars j

/-- The lines of a value read as the value. -/
theorem readWithin?_lines (hnumbers : ∀ n ∈ j.numbers, n.ReadsBack) (hlimit : j.nesting ≤ limit) :
    readWithin? limit j.lines = some j := by
  refine readWithin?_of_spelled ?_ hnumbers hlimit
  rw [lines, String.toList_ofList]
  exact spelled_lines 0 j

end PageLayers.Json
