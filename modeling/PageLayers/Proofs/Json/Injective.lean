import PageLayers.Proofs.Json.Strings
import PageLayers.Proofs.Json.WellFormed
import Mathlib.Tactic.SplitIfs

/-! No two values have one compact text, as long as no two of their floats do. -/

namespace PageLayers

namespace FloatLayout

variable {layout : FloatLayout} {digits : List Char} {leading : Int} {c : Char} {cs : List Char}
  {plus : Bool}

/-- The characters of which numbers of JSON are made. -/
def isMark (c : Char) : Bool := c.isDigit || ['.', 'e', '+', '-'].contains c

/-- A text made of digits and a character that only floats have. -/
structure Floating (cs : List Char) : Prop where
  marks : ∀ c ∈ cs, isMark c = true
  floats : '.' ∈ cs ∨ 'e' ∈ cs

theorem contains_of_isMark {others : List Char} (hothers : others.all (!isMark ·) = true)
    (h : isMark c = true) : others.contains c = false := by
  by_contra hmem
  have hother := List.all_eq_true.1 hothers c (by simpa using hmem)
  rw [h] at hother
  cases hother

theorem isMark_of_isDigit (h : c.isDigit = true) : isMark c = true := by
  simp [isMark, h]

theorem mem_dropZeros (h : c ∈ dropZeros digits) : c ∈ digits := by
  have hc := (List.dropWhile_sublist _).mem (List.mem_reverse.1 h)
  exact List.mem_reverse.1 hc

theorem floating_positional (h : ∀ c ∈ digits, c.isDigit = true) :
    Floating (positional digits leading) := by
  have hdigits {c} (hc : c ∈ digits) := isMark_of_isDigit (h c hc)
  unfold positional
  split
  · refine ⟨fun c hc => ?_, .inl (by simp)⟩
    simp only [List.mem_cons, List.mem_append, List.mem_replicate] at hc
    rcases hc with rfl | rfl | ⟨-, rfl⟩ | hc
    · rfl
    · rfl
    · rfl
    · exact hdigits hc
  · refine ⟨fun c hc => ?_, .inl (by simp)⟩
    simp only [List.mem_cons, List.mem_append, List.mem_replicate] at hc
    rcases hc with (hc | ⟨-, rfl⟩) | rfl | hc
    · exact hdigits (List.mem_of_mem_take hc)
    · rfl
    · rfl
    · split at hc
      · rw [List.mem_singleton.1 hc]
        rfl
      · exact hdigits (List.mem_of_mem_drop hc)

theorem floating_scientific (h : ∀ c ∈ digits, c.isDigit = true) :
    Floating (scientific plus digits leading) := by
  have hdigits {c} (hc : c ∈ digits) := isMark_of_isDigit (h c hc)
  refine ⟨fun c hc => ?_, .inr (by simp [scientific])⟩
  simp only [scientific, List.mem_cons, List.mem_append] at hc
  rcases hc with (hc | hc) | rfl | hc | hc
  · exact hdigits (List.mem_of_mem_take hc)
  · split at hc
    · cases hc
    · rcases List.mem_cons.1 hc with rfl | hc
      · rfl
      · exact hdigits (List.mem_of_mem_drop hc)
  · rfl
  · split_ifs at hc
    · rw [List.mem_singleton.1 hc]
      rfl
    · rw [List.mem_singleton.1 hc]
      rfl
    · cases hc
  · exact isMark_of_isDigit (Text.isDigit_of_mem_toDigits hc)

theorem floating_magnitude {d : Dyadic} : Floating (layout.magnitude d) := by
  unfold magnitude
  split
  · exact ⟨List.all_eq_true.1 (by decide), .inl (by decide)⟩
  · have hdigits : ∀ c ∈ dropZeros (Nat.toDigits 10
        (Decimal.shortest d.mantissa d.exponent).digits), c.isDigit = true := by
      intro c hc
      exact Text.isDigit_of_mem_toDigits (mem_dropZeros hc)
    dsimp only
    split
    · exact floating_positional hdigits
    · exact floating_scientific hdigits

theorem text_cases {x : Float} : Floating (layout.text x) ∨
    layout.text x ∈ ["NaN".toList, "-inf".toList, "inf".toList] := by
  unfold text
  split
  · rename_i d _
    obtain ⟨hmarks, hfloats⟩ := @floating_magnitude layout d
    refine .inl ⟨?_, ?_⟩
    · intro c hc
      rcases List.mem_append.1 hc with hc | hc
      · split at hc
        · rw [List.mem_singleton.1 hc]
          rfl
        · cases hc
      · exact hmarks c hc
    · exact hfloats.imp (List.mem_append_right _) (List.mem_append_right _)
  · refine .inr ?_
    split_ifs <;> simp

end FloatLayout

namespace Json

/-- Characters that stand behind values and in no number. -/
def isClosing (c : Char) : Bool := [',', ']', '}', ':'].contains c

/-- The characters that start values other than numbers. -/
def isOpening (c : Char) : Bool := ['n', 't', 'f', '"', '[', '{'].contains c

def Closed (rest : List Char) : Prop := ∀ c ∈ rest.head?, isClosing c = true

end Json

namespace Number

open FloatLayout Json

variable {n m : Number} {c : Char} {cs rest rest' : List Char}

theorem chars_cases (n : Number) : (n.chars ≠ [] ∧ ∀ c ∈ n.chars, isMark c = true) ∨
    n.chars ∈ ["NaN".toList, "-inf".toList, "inf".toList] := by
  cases n with
  | int i =>
    have hdigits : ∀ c ∈ Nat.toDigits 10 i.natAbs, isMark c = true := by
      intro c hc
      exact isMark_of_isDigit (Text.isDigit_of_mem_toDigits hc)
    refine .inl ?_
    simp only [Number.chars]
    split
    · exact ⟨List.cons_ne_nil _ _, List.forall_mem_cons.2 ⟨rfl, hdigits⟩⟩
    · exact ⟨Nat.toDigits_ne_nil, hdigits⟩
  | float x =>
    refine text_cases.imp (fun h => ⟨?_, h.marks⟩) id
    intro hnil
    exact h.floats.elim (List.ne_nil_of_mem · hnil) (List.ne_nil_of_mem · hnil)

theorem isClosing_of_mem_chars (hc : c ∈ n.chars) : isClosing c = false := by
  rcases n.chars_cases with ⟨-, hmarks⟩ | hword
  · exact contains_of_isMark (by decide) (hmarks c hc)
  · have hnone : ∀ word ∈ ["NaN".toList, "-inf".toList, "inf".toList],
        word.all (!isClosing ·) = true := by decide
    simpa using List.all_eq_true.1 (hnone _ hword) c hc

theorem chars_head (n : Number) : ∃ c tail, n.chars = c :: tail ∧ isOpening c = false := by
  rcases n.chars_cases with ⟨hne, hmarks⟩ | hword
  · obtain ⟨c, tail, hcs⟩ := List.exists_cons_of_ne_nil hne
    exact ⟨c, tail, hcs, contains_of_isMark (by decide) (hmarks c (by simp [hcs]))⟩
  · simp only [List.mem_cons, List.not_mem_nil, or_false] at hword
    rcases hword with h | h | h <;> exact ⟨_, _, h, rfl⟩

/-- A number ends where a character stands that can close it. -/
theorem chars_append_inj (hrest : Closed rest) (hrest' : Closed rest')
    (h : n.chars ++ rest = m.chars ++ rest') : n.chars = m.chars ∧ rest = rest' := by
  have hwhole {n : Number} {rest : List Char} (hrest : Closed rest) :
      (n.chars ++ rest).takeWhile (fun c => !isClosing c) = n.chars := by
    rw [List.takeWhile_append_of_pos fun c hc => by rw [isClosing_of_mem_chars hc]; rfl]
    cases rest with
    | nil => simp
    | cons c rest => simp [hrest c rfl]
  have hchars : n.chars = m.chars := by rw [← hwhole hrest, h, hwhole hrest']
  rw [hchars] at h
  exact ⟨hchars, List.append_cancel_left h⟩

/-- Texts of whole numbers have digits and a sign only, those of floats do not. -/
theorem int_chars_ne_float_chars {i : Int} {x : Float} : (int i).chars ≠ (float x).chars := by
  have hint : ∀ c ∈ (int i).chars, c.isDigit = true ∨ c = '-' := by
    intro c hc
    have hdigits (h : c ∈ Nat.toDigits 10 i.natAbs) : c.isDigit = true :=
      Text.isDigit_of_mem_toDigits h
    simp only [chars] at hc
    split at hc
    · rcases List.mem_cons.1 hc with rfl | hc
      · exact .inr rfl
      · exact .inl (hdigits hc)
    · exact .inl (hdigits hc)
  intro h
  have hfloat : ∃ c ∈ (float x).chars, c ∈ ['.', 'e', 'N', 'i'] := by
    rcases text_cases with hfloating | hword
    · exact hfloating.floats.elim (fun h => ⟨'.', h, by decide⟩) fun h => ⟨'e', h, by decide⟩
    · have hletter : ∀ word ∈ ["NaN".toList, "-inf".toList, "inf".toList],
          'N' ∈ word ∨ 'i' ∈ word := by decide
      exact (hletter _ hword).elim (fun h => ⟨'N', h, by decide⟩) fun h => ⟨'i', h, by decide⟩
  obtain ⟨c, hc, hletter⟩ := hfloat
  have hother : ['.', 'e', 'N', 'i'].all (fun c => !(c.isDigit || c == '-')) = true := by decide
  have hletter := List.all_eq_true.1 hother c hletter
  rcases hint c (h ▸ hc) with hdigit | rfl
  · simp [hdigit] at hletter
  · cases hletter

theorem int_chars_inj {i j : Int} (h : (int i).chars = (int j).chars) : i = j := by
  simp only [chars] at h
  split_ifs at h with hi hj hj
  · have habs := Text.toDigits_inj (List.cons.inj h).2
    omega
  · exact absurd h.symm (Text.toDigits_ne_minus _ _)
  · exact absurd h (Text.toDigits_ne_minus _ _)
  · have habs := Text.toDigits_inj h
    omega

/-- The floats among some numbers and those among others have one text only where they are
equal. -/
def FloatsApart (ns ms : List Number) : Prop :=
  ∀ n ∈ ns, ∀ m ∈ ms, n.isFloat = true → m.isFloat = true → n.chars = m.chars → n = m

instance (ns ms : List Number) : Decidable (FloatsApart ns ms) :=
  inferInstanceAs (Decidable (∀ n ∈ ns, ∀ m ∈ ms, _))

theorem FloatsReadBack.apart {ns : List Number} (h : FloatsReadBack ns) : FloatsApart ns ns := by
  intro n hn m hm hfloat hfloat' hchars
  have hread : n.ReadsBack := h n hn hfloat
  rw [ReadsBack, hchars, show read? m.chars = _ from h m hm hfloat'] at hread
  exact (Prod.mk.inj (Option.some.inj hread)).1.symm

theorem FloatsApart.of_append {ns ns' ms ms' : List Number}
    (h : FloatsApart (ns ++ ns') (ms ++ ms')) : FloatsApart ns ms ∧ FloatsApart ns' ms' :=
  ⟨fun n hn m hm => h n (List.mem_append_left _ hn) m (List.mem_append_left _ hm),
    fun n hn m hm => h n (List.mem_append_right _ hn) m (List.mem_append_right _ hm)⟩

theorem eq_of_chars {ns ms : List Number} (hfloats : FloatsApart ns ms) (hn : n ∈ ns) (hm : m ∈ ms)
    (h : n.chars = m.chars) : n = m := by
  cases n with
  | int i =>
    cases m with
    | int j => rw [int_chars_inj h]
    | float y => exact absurd h int_chars_ne_float_chars
  | float x =>
    cases m with
    | int j => exact absurd h.symm int_chars_ne_float_chars
    | float y => exact hfloats _ hn _ hm rfl rfl h

end Number

namespace Json

variable {j k : Json} {c : Char} {cs rest rest' : List Char}

/-- The character that the values of a kind start with; numbers have none in common. -/
def opening? : Json → Option Char
  | null => 'n'
  | bool true => 't'
  | bool false => 'f'
  | num _ => none
  | str _ => '"'
  | arr _ => '['
  | obj _ => '{'

theorem chars_head (j : Json) : ∃ c tail, j.chars = c :: tail ∧ isClosing c = false ∧
    j.opening? = if isOpening c then some c else none := by
  cases j with
  | num n =>
    obtain ⟨c, tail, hcs, hc⟩ := n.chars_head
    have hmem : c ∈ n.chars := by simp [hcs]
    exact ⟨c, tail, hcs, Number.isClosing_of_mem_chars hmem, by simp [hc, opening?]⟩
  | bool b => cases b <;> exact ⟨_, _, rfl, rfl, rfl⟩
  | arr items => cases items <;> exact ⟨_, _, rfl, rfl, rfl⟩
  | obj fields => rcases fields with - | ⟨⟨k, j⟩, fields⟩ <;> exact ⟨_, _, rfl, rfl, rfl⟩
  | null | str => exact ⟨_, _, rfl, rfl, rfl⟩

/-- Values that no first character tells apart. -/
inductive Alike : Json → Json → Prop
  | null : Alike null null
  | bool (b : Bool) : Alike (bool b) (bool b)
  | num (n m : Number) : Alike (num n) (num m)
  | str (s t : String) : Alike (str s) (str t)
  | arr (items items' : List Json) : Alike (arr items) (arr items')
  | obj (fields fields' : List (String × Json)) : Alike (obj fields) (obj fields')

theorem alike_of_opening? (h : j.opening? = k.opening?) : Alike j k := by
  rcases j with - | (_ | _) | _ | _ | _ | _ <;> rcases k with - | (_ | _) | _ | _ | _ | _ <;>
    first | cases h; done | constructor

theorem alike_of_chars (h : j.chars ++ rest = k.chars ++ rest') : Alike j k := by
  obtain ⟨c, tail, hj, -, hjc⟩ := j.chars_head
  obtain ⟨d, tail', hk, -, hkd⟩ := k.chars_head
  rw [hj, hk] at h
  refine alike_of_opening? ?_
  rw [hjc, hkd, (List.cons.inj h).1]

theorem chars_arr_cons {items : List Json} :
    (arr (j :: items)).chars ++ rest = '[' :: (j.chars ++ (itemsChars items ++ rest)) := by
  simp [chars]

theorem chars_obj_cons {l : String} {fields : List (String × Json)} :
    (obj ((l, j) :: fields)).chars ++ rest =
      '{' :: (quoted l ++ ':' :: (j.chars ++ (fieldsChars fields ++ rest))) := by
  simp [chars]

theorem itemsChars_cons {items : List Json} :
    itemsChars (j :: items) ++ rest = ',' :: (j.chars ++ (itemsChars items ++ rest)) := by
  simp [itemsChars]

theorem fieldsChars_cons {l : String} {fields : List (String × Json)} :
    fieldsChars ((l, j) :: fields) ++ rest =
      ',' :: (quoted l ++ ':' :: (j.chars ++ (fieldsChars fields ++ rest))) := by
  simp [fieldsChars]

theorem closed_items {items : List Json} : Closed (itemsChars items ++ rest) := by
  intro c hc
  cases items <;> obtain rfl := Option.some.inj hc <;> rfl

theorem closed_fields {fields : List (String × Json)} : Closed (fieldsChars fields ++ rest) := by
  intro c hc
  rcases fields with - | ⟨⟨l, j⟩, fields⟩ <;> obtain rfl := Option.some.inj hc <;> rfl

/-- No list is empty whose text starts with that of an item. -/
theorem nil_chars_ne_cons_chars {items : List Json} :
    (arr []).chars ++ rest ≠ (arr (j :: items)).chars ++ rest' := by
  intro h
  obtain ⟨c, tail, hj, hclosing, -⟩ := j.chars_head
  rw [chars_arr_cons, hj] at h
  obtain ⟨rfl, -⟩ := List.cons.inj (List.cons.inj h).2
  cases hclosing

/-- Two lists with one text have one text as the rest of a list. -/
theorem itemsChars_of_chars {items items' : List Json}
    (h : (arr items).chars ++ rest = (arr items').chars ++ rest') :
    itemsChars items ++ rest = itemsChars items' ++ rest' := by
  cases items with
  | nil =>
    cases items' with
    | nil =>
      obtain rfl : rest = rest' := List.append_cancel_left h
      rfl
    | cons k items' => exact absurd h nil_chars_ne_cons_chars
  | cons j items =>
    cases items' with
    | nil => exact absurd h.symm nil_chars_ne_cons_chars
    | cons k items' =>
      rw [chars_arr_cons, chars_arr_cons, List.cons.injEq] at h
      rw [itemsChars_cons, itemsChars_cons, h.2]

theorem fieldsChars_of_chars {fields fields' : List (String × Json)}
    (h : (obj fields).chars ++ rest = (obj fields').chars ++ rest') :
    fieldsChars fields ++ rest = fieldsChars fields' ++ rest' := by
  cases fields with
  | nil =>
    cases fields' with
    | nil =>
      obtain rfl : rest = rest' := List.append_cancel_left h
      rfl
    | cons g fields' => cases h
  | cons f fields =>
    cases fields' with
    | nil => cases h
    | cons g fields' =>
      rw [chars_obj_cons, chars_obj_cons, List.cons.injEq] at h
      rw [fieldsChars_cons, fieldsChars_cons, h.2]

mutual

/-- A compact text tells which value it is of and where it ends. -/
theorem chars_append_inj (j k : Json) {rest rest' : List Char}
    (hfloats : Number.FloatsApart j.numbers k.numbers) (hrest : Closed rest) (hrest' : Closed rest')
    (h : j.chars ++ rest = k.chars ++ rest') : j = k ∧ rest = rest' := by
  have halike := alike_of_chars h
  cases j with
  | null =>
    cases halike
    exact ⟨rfl, List.append_cancel_left h⟩
  | bool b =>
    cases halike
    exact ⟨rfl, List.append_cancel_left h⟩
  | num n =>
    cases halike with
    | num _ m =>
      obtain ⟨hchars, hrest⟩ := Number.chars_append_inj hrest hrest' h
      rw [Number.eq_of_chars hfloats (by simp [numbers]) (by simp [numbers]) hchars]
      exact ⟨rfl, hrest⟩
  | str s =>
    cases halike with
    | str _ t =>
      obtain ⟨rfl, hrest⟩ := quoted_append_inj h
      exact ⟨rfl, hrest⟩
  | arr items =>
    cases halike with
    | arr _ items' =>
      obtain ⟨rfl, hrest⟩ :=
        itemsChars_append_inj items items' hfloats hrest hrest' (itemsChars_of_chars h)
      exact ⟨rfl, hrest⟩
  | obj fields =>
    cases halike with
    | obj _ fields' =>
      obtain ⟨rfl, hrest⟩ :=
        fieldsChars_append_inj fields fields' hfloats hrest hrest' (fieldsChars_of_chars h)
      exact ⟨rfl, hrest⟩

theorem itemsChars_append_inj (items items' : List Json) {rest rest' : List Char}
    (hfloats : Number.FloatsApart (numbersOf items) (numbersOf items')) (hrest : Closed rest)
    (hrest' : Closed rest') (h : itemsChars items ++ rest = itemsChars items' ++ rest') :
    items = items' ∧ rest = rest' := by
  cases items with
  | nil =>
    cases items' with
    | nil => exact ⟨rfl, List.append_cancel_left h⟩
    | cons k items' => cases h
  | cons j items =>
    cases items' with
    | nil => cases h
    | cons k items' =>
      rw [itemsChars_cons, itemsChars_cons, List.cons.injEq] at h
      obtain ⟨hfirst, hmore⟩ := hfloats.of_append
      obtain ⟨rfl, hitems⟩ := chars_append_inj j k hfirst closed_items closed_items h.2
      obtain ⟨rfl, hrest⟩ := itemsChars_append_inj items items' hmore hrest hrest' hitems
      exact ⟨rfl, hrest⟩

theorem fieldsChars_append_inj (fields fields' : List (String × Json)) {rest rest' : List Char}
    (hfloats : Number.FloatsApart (numbersIn fields) (numbersIn fields')) (hrest : Closed rest)
    (hrest' : Closed rest') (h : fieldsChars fields ++ rest = fieldsChars fields' ++ rest') :
    fields = fields' ∧ rest = rest' := by
  cases fields with
  | nil =>
    cases fields' with
    | nil => exact ⟨rfl, List.append_cancel_left h⟩
    | cons g fields' => cases h
  | cons f fields =>
    cases fields' with
    | nil => cases h
    | cons g fields' =>
      obtain ⟨l, j⟩ := f
      obtain ⟨l', k⟩ := g
      rw [fieldsChars_cons, fieldsChars_cons, List.cons.injEq] at h
      obtain ⟨rfl, hcolon⟩ := quoted_append_inj h.2
      obtain ⟨hfirst, hmore⟩ := hfloats.of_append
      obtain ⟨rfl, hfields⟩ := chars_append_inj j k hfirst closed_fields closed_fields
        (List.cons.inj hcolon).2
      obtain ⟨rfl, hrest⟩ := fieldsChars_append_inj fields fields' hmore hrest hrest' hfields
      exact ⟨rfl, hrest⟩

end

theorem text_append_inj {s t : String} (hfloats : Number.FloatsApart j.numbers k.numbers)
    (hs : Closed s.toList) (ht : Closed t.toList) (h : j.text ++ s = k.text ++ t) :
    j = k ∧ s = t := by
  have hchars := congrArg String.toList h
  simp only [text, String.toList_append, String.toList_ofList] at hchars
  obtain ⟨rfl, hrest⟩ := chars_append_inj j k hfloats hs ht hchars
  exact ⟨rfl, String.toList_injective hrest⟩

end Json

end PageLayers
