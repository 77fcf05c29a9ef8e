import Mathlib.Data.List.TakeWhile
import PageLayers.Proofs.Expression.ParserComplete
import PageLayers.Proofs.Text.Blank

/-! Tokens that are written out with white space between them are cut where they were put together:
each way to write a token ends where white space starts, and nothing in it is taken for another. -/

namespace PageLayers.Lexer

/-- The characters of a name. -/
structure Name where
  first : Char
  rest : List Char
  starts : startsIdent first = true
  goesOn : ∀ c ∈ rest, inIdent c = true

/-- The digits of a number, with a point before the fraction where there is one. -/
structure Numeral where
  whole : List Char
  fraction : List Char
  whole_ne_nil : whole ≠ []
  digits : ∀ c ∈ whole ++ fraction, c.isDigit = true

def Numeral.chars (n : Numeral) : List Char :=
  if n.fraction = [] then n.whole else n.whole ++ '.' :: n.fraction

/-- The double nearest to the number that the digits say. -/
def Numeral.value (n : Numeral) : Float :=
  Float.ofScientific (Text.number (n.whole ++ n.fraction)) true n.fraction.length

/-- The two kinds of quotes. -/
inductive Quote where
  | single
  | double

def Quote.char : Quote → Char
  | single => '\x27'
  | double => '"'

/-- A backslash stands before each backslash and before the quote. -/
def Quote.escape (q : Quote) (cs : List Char) : List Char :=
  cs.flatMap fun c => if c = '\\' ∨ c = q.char then ['\\', c] else [c]

/-- A token in one of the ways to write it. -/
inductive Lexeme where
  | name (n : Name)
  | punct (p : Punct)
  | number (n : Numeral)
  | str (q : Quote) (text : String)

namespace Lexeme

def chars : Lexeme → List Char
  | name n => n.first :: n.rest
  | punct p => p.chars
  | number n => n.chars
  | str q text => q.char :: (q.escape text.toList ++ [q.char])

def token : Lexeme → Token
  | name n => .ident (String.ofList (n.first :: n.rest))
  | punct p => .punct p
  | number n => .number n.value
  | str _ text => .str text

end Lexeme

/-- Lexemes with white space before the first of them and after each, some at least between two. -/
structure Writing where
  before : List Char
  parts : List (Lexeme × List Char)
  blank : ∀ c ∈ before ++ parts.flatMap Prod.snd, Text.isBlank c = true
  apart : ∀ part ∈ parts.dropLast, part.2 ≠ []

namespace Writing

def lexemes (w : Writing) : List Lexeme := w.parts.map Prod.fst

/-- The text that starts with the white space and goes on with the parts. -/
def text : List Char → List (Lexeme × List Char) → List Char
  | before, [] => before
  | before, (l, after) :: rest => before ++ (l.chars ++ text after rest)

/-- The tokens of that text, each with the number of characters before it. -/
def placed : Nat → List Char → List (Lexeme × List Char) → List (Nat × Token)
  | _, _, [] => []
  | place, before, (l, after) :: rest =>
    (place + before.length, l.token) :: placed (place + before.length + l.chars.length) after rest

def chars (w : Writing) : List Char := text w.before w.parts

def tokens (w : Writing) : List (Nat × Token) := placed 0 w.before w.parts

theorem placed_tokens {place : Nat} {before : List Char} {parts : List (Lexeme × List Char)} :
    (placed place before parts).map Prod.snd = parts.map fun part => part.1.token := by
  induction parts generalizing place before with
  | nil => rfl
  | cons part rest ih =>
    obtain ⟨l, after⟩ := part
    rw [placed, List.map_cons, ih]
    rfl

end Writing

variable {c : Char} {cs ds after : List Char} {place : Nat}

/-- Nothing comes, or white space does. -/
def Ends (cs : List Char) : Prop := ∀ c ∈ cs.head?, Text.isBlank c = true

theorem isBlank_eq_false_of_startsIdent (h : startsIdent c = true) : Text.isBlank c = false := by
  simp only [startsIdent, Bool.or_eq_true, beq_iff_eq] at h
  rcases h with (h | rfl) | rfl
  · exact Text.isBlank_eq_false_of_isAlphabetic h
  · decide
  · decide

theorem isDigit_eq_false_of_startsIdent (h : startsIdent c = true) : c.isDigit = false := by
  cases hdigit : c.isDigit with
  | false => rfl
  | true =>
    simp only [startsIdent, Bool.or_eq_true, beq_iff_eq] at h
    rcases h with (h | rfl) | rfl
    · rw [Text.isAlphabetic_eq_false_of_isDigit hdigit] at h
      cases h
    · cases hdigit
    · cases hdigit

/-- No symbol but two starts a name. -/
theorem startsIdent_eq_false_of_symbol (h : Text.inRanges Text.symbolRanges c = true)
    (hline : c ≠ '_') (hdollar : c ≠ '$') : startsIdent c = false := by
  simp [startsIdent, Text.isAlphabetic_eq_false_of_symbol h, hline, hdollar]

theorem inIdent_eq_false_of_isBlank (h : Text.isBlank c = true) : inIdent c = false := by
  cases hin : inIdent c with
  | false => rfl
  | true =>
    rcases Bool.or_eq_true_iff.1 hin with hstarts | hnumeric
    · rw [isBlank_eq_false_of_startsIdent hstarts] at h
      cases h
    · rw [Text.isBlank_eq_false_of_isNumeric hnumeric] at h
      cases h

theorem isDigit_eq_false_of_isBlank (h : Text.isBlank c = true) : c.isDigit = false := by
  cases hdigit : c.isDigit with
  | false => rfl
  | true =>
    rw [Text.isBlank_eq_false_of_isDigit hdigit] at h
    cases h

theorem token_name (n : Name) (h : Ends after) :
    token place n.first (n.rest ++ after) =
      .ok (.ident (String.ofList (n.first :: n.rest)), place + (n.first :: n.rest).length,
        after) := by
  have hquote : ¬(n.first = '"' ∨ n.first = '\x27') := by
    have hstarts := n.starts
    rintro (hquote | hquote) <;>
      rw [hquote, startsIdent_eq_false_of_symbol rfl (by decide) (by decide)] at hstarts <;>
      cases hstarts
  have hall : ∀ c ∈ n.first :: n.rest, inIdent c = true := by
    refine List.forall_mem_cons.2 ⟨?_, n.goesOn⟩
    simp [inIdent, n.starts]
  have hstop : after.takeWhile inIdent = [] ∧ after.dropWhile inIdent = after := by
    cases after with
    | nil => exact ⟨rfl, rfl⟩
    | cons c cs =>
      have hc : ¬inIdent c = true := by simp [inIdent_eq_false_of_isBlank (h c rfl)]
      exact ⟨List.takeWhile_cons_of_neg hc, List.dropWhile_cons_of_neg hc⟩
  unfold token
  rw [if_neg (by simp [isDigit_eq_false_of_startsIdent n.starts]), if_neg hquote,
    if_pos n.starts, ← List.cons_append, List.takeWhile_append_of_pos hall,
    List.dropWhile_append_of_pos hall, hstop.1, hstop.2, List.append_nil]

/-- No punctuation has a character that another token starts with, or white space. -/
theorem punct_starts_nothing (p : Punct) : ∀ c ∈ p.chars, Text.isBlank c = false ∧
    c.isDigit = false ∧ startsIdent c = false ∧ c ≠ '"' ∧ c ≠ '\x27' := by
  have hall : (p.chars.all fun c => !Text.isBlank c && !c.isDigit &&
      Text.inRanges Text.symbolRanges c && c != '_' && c != '$' && c != '"' &&
      c != '\x27') = true := by
    cases p <;> rfl
  intro c hc
  have hchar := List.all_eq_true.1 hall c hc
  simp only [Bool.and_eq_true, Bool.not_eq_true', bne_iff_ne] at hchar
  obtain ⟨⟨⟨⟨⟨⟨hblank, hdigit⟩, hsymbol⟩, hline⟩, hdollar⟩, hdouble⟩, hsingle⟩ := hchar
  exact ⟨hblank, hdigit, startsIdent_eq_false_of_symbol hsymbol hline hdollar, hdouble, hsingle⟩

/-- Punctuation that was found did not get its last character from what follows. -/
theorem isPrefixOf_append_of_ends {ps : List Char} (hps : ∀ c ∈ ps, Text.isBlank c = false)
    (h : Ends after) : ps.isPrefixOf (cs ++ after) = ps.isPrefixOf cs := by
  induction ps generalizing cs with
  | nil => rfl
  | cons p ps ih =>
    obtain ⟨hp, hps⟩ := List.forall_mem_cons.1 hps
    cases cs with
    | cons c cs => rw [List.cons_append, List.isPrefixOf, List.isPrefixOf, ih hps]
    | nil =>
      cases after with
      | nil => rfl
      | cons b rest =>
        have hne : p ≠ b := by
          rintro rfl
          rw [h p rfl] at hp
          cases hp
        simp [List.isPrefixOf, hne]

theorem read?_append (p : Punct) (h : Ends after) :
    Punct.read? (p.chars ++ after) = some (p, after) := by
  have hprefix : (fun q : Punct => q.chars.isPrefixOf (p.chars ++ after)) =
      fun q => q.chars.isPrefixOf p.chars :=
    funext fun q => isPrefixOf_append_of_ends (fun c hc => (punct_starts_nothing q c hc).1) h
  have hfind : Punct.all.find? (fun q => q.chars.isPrefixOf p.chars) = some p := by
    cases p <;> rfl
  rw [Punct.read?, hprefix, hfind, Option.map_some, List.drop_left]

theorem token_punct (p : Punct) (hchars : p.chars = c :: cs) (h : Ends after) :
    token place c (cs ++ after) = .ok (.punct p, place + p.chars.length, after) := by
  obtain ⟨-, hdigit, hstarts, hdouble, hsingle⟩ := punct_starts_nothing p c (by simp [hchars])
  unfold token
  rw [if_neg (by simp [hdigit]), if_neg (by simp [hdouble, hsingle]), if_neg (by simp [hstarts]),
    ← List.cons_append, ← hchars, read?_append p h]

theorem numberChars_append (h : ∀ c ∈ ds, c.isDigit = true) :
    numberChars (ds ++ cs) = (ds ++ (numberChars cs).1, (numberChars cs).2) := by
  induction ds with
  | nil => rfl
  | cons d ds ih =>
    obtain ⟨hd, hds⟩ := List.forall_mem_cons.1 h
    rw [List.cons_append, numberChars, if_pos (by simp [hd]), ih hds]
    rfl

theorem numberChars_of_ends (h : Ends cs) : numberChars cs = ([], cs) := by
  cases cs with
  | nil => rfl
  | cons c cs =>
    have hblank := h c rfl
    have hpoint : c ≠ '.' := by
      rintro rfl
      cases hblank
    rw [numberChars, if_neg (by simp [isDigit_eq_false_of_isBlank hblank, hpoint])]

theorem numberChars_numeral (n : Numeral) (h : Ends after) :
    numberChars (n.chars ++ after) = (n.chars, after) := by
  obtain ⟨hwhole, hfraction⟩ := List.forall_mem_append.1 n.digits
  unfold Numeral.chars
  split
  · rw [numberChars_append hwhole, numberChars_of_ends h, List.append_nil]
  · rename_i hne
    obtain ⟨d, ds, hds⟩ := List.exists_cons_of_ne_nil hne
    have hd : d.isDigit = true := hfraction d (by simp [hds])
    have hpoint : numberChars ('.' :: (n.fraction ++ after)) = ('.' :: n.fraction, after) := by
      rw [numberChars, if_pos (by simp [hds, hd]), numberChars_append hfraction,
        numberChars_of_ends h, List.append_nil]
    rw [List.append_assoc, List.cons_append, numberChars_append hwhole, hpoint]

theorem numberValue?_numeral (n : Numeral) : numberValue? n.chars = some n.value := by
  obtain ⟨hwhole, hfraction⟩ := List.forall_mem_append.1 n.digits
  unfold Numeral.chars
  split
  · rename_i hnone
    have htake : n.whole.takeWhile Char.isDigit = n.whole := List.takeWhile_eq_self_iff.2 hwhole
    have hdrop : n.whole.dropWhile Char.isDigit = [] := List.dropWhile_eq_nil_iff.2 hwhole
    simp [numberValue?, Numeral.value, htake, hdrop, hnone]
  · have htake : (n.whole ++ '.' :: n.fraction).takeWhile Char.isDigit = n.whole := by
      rw [List.takeWhile_append_of_pos hwhole, List.takeWhile_cons_of_neg (by decide),
        List.append_nil]
    have hdrop : (n.whole ++ '.' :: n.fraction).dropWhile Char.isDigit = '.' :: n.fraction := by
      rw [List.dropWhile_append_of_pos hwhole, List.dropWhile_cons_of_neg (by decide)]
    have hall : n.fraction.all Char.isDigit = true := List.all_eq_true.2 hfraction
    simp [numberValue?, Numeral.value, htake, hdrop, hall]

theorem token_number (n : Numeral) (hchars : n.chars = c :: cs) (hc : c.isDigit = true)
    (h : Ends after) :
    token place c (cs ++ after) = .ok (.number n.value, place + n.chars.length, after) := by
  unfold token
  rw [if_pos hc, ← List.cons_append, ← hchars, numberChars_numeral n h]
  simp only [numberValue?_numeral]

theorem Quote.escape_cons {q : Quote} : q.escape (c :: cs) =
    (if c = '\\' ∨ c = q.char then ['\\', c] else [c]) ++ q.escape cs := rfl

theorem stringChars_escape {start : Nat} (q : Quote) (cs : List Char) :
    stringChars start q.char place (q.escape cs ++ q.char :: after) =
      .ok (cs, place + (q.escape cs).length + 1, after) := by
  induction cs generalizing place with
  | nil => cases q <;> rfl
  | cons c cs ih =>
    rw [Quote.escape_cons]
    split
    · rename_i hescaped
      -- what is escaped is none of the letters that stand for other characters
      have hn : c ≠ 'n' := by rcases hescaped with rfl | rfl <;> cases q <;> decide
      have ht : c ≠ 't' := by rcases hescaped with rfl | rfl <;> cases q <;> decide
      simp only [List.cons_append, List.nil_append, stringChars, if_neg hn, if_neg ht, ih]
      simp [Except.map]
      omega
    · rename_i hplain
      obtain ⟨hbackslash, hquote⟩ := not_or.1 hplain
      simp only [List.cons_append, List.nil_append, stringChars, if_neg hquote, ih]
      simp [Except.map]
      omega

theorem token_str (q : Quote) (text : String) :
    token place q.char (q.escape text.toList ++ [q.char] ++ after) =
      .ok (.str text, place + (Lexeme.str q text).chars.length, after) := by
  have hdigit : q.char.isDigit = false := by cases q <;> rfl
  have hquote : q.char = '"' ∨ q.char = '\x27' := by cases q <;> decide
  unfold token
  rw [if_neg (by simp [hdigit]), if_pos hquote, List.append_assoc, List.singleton_append,
    stringChars_escape]
  simp [Except.map, Lexeme.chars]
  omega

/-- A lexeme is read as its token up to the place where it ends. -/
theorem token_lexeme (l : Lexeme) (h : Ends after) : ∃ c cs, l.chars = c :: cs ∧
    Text.isBlank c = false ∧
    token place c (cs ++ after) = .ok (l.token, place + l.chars.length, after) := by
  cases l with
  | name n =>
    exact ⟨n.first, n.rest, rfl, isBlank_eq_false_of_startsIdent n.starts, token_name n h⟩
  | punct p =>
    obtain ⟨c, cs, hchars⟩ : ∃ c cs, p.chars = c :: cs := by cases p <;> exact ⟨_, _, rfl⟩
    have hblank := (punct_starts_nothing p c (by simp [hchars])).1
    exact ⟨c, cs, hchars, hblank, token_punct p hchars h⟩
  | number n =>
    obtain ⟨c, cs, hwhole⟩ := List.exists_cons_of_ne_nil n.whole_ne_nil
    have hc : c.isDigit = true := n.digits c (by simp [hwhole])
    obtain ⟨cs, hchars⟩ : ∃ cs, n.chars = c :: cs := by
      unfold Numeral.chars
      rw [hwhole]
      split
      · exact ⟨cs, rfl⟩
      · exact ⟨cs ++ '.' :: n.fraction, rfl⟩
    exact ⟨c, cs, hchars, Text.isBlank_eq_false_of_isDigit hc, token_number n hchars hc h⟩
  | str q text =>
    have hblank : Text.isBlank q.char = false := by cases q <;> rfl
    exact ⟨q.char, _, rfl, hblank, token_str q text⟩

theorem tokens_blank {gap : List Char} (hgap : ∀ c ∈ gap, Text.isBlank c = true) {fuel : Nat} :
    tokens (fuel + gap.length) place (gap ++ cs) = tokens fuel (place + gap.length) cs := by
  induction gap generalizing place with
  | nil => rfl
  | cons c gap ih =>
    obtain ⟨hc, hgap⟩ := List.forall_mem_cons.1 hgap
    rw [List.length_cons, ← Nat.add_assoc, List.cons_append, tokens, if_pos hc, ih hgap,
      Nat.add_assoc, Nat.add_comm 1]

section

variable {c : Char} {t : Token} {next fuel : Nat} {left : List Char}

theorem tokens_token (hc : Text.isBlank c = false)
    (ht : token place c cs = .ok (t, next, left)) :
    tokens (fuel + 1) place (c :: cs) = (tokens fuel next left).map ((place, t) :: ·) := by
  rw [tokens, if_neg (by simp [hc]), ht]
  show (tokens fuel next left >>= fun more => .ok ((place, t) :: more)) = _
  cases tokens fuel next left <;> rfl

theorem tokens_error {e : ExpressionError} (hc : Text.isBlank c = false)
    (ht : token place c cs = .error e) :
    tokens (fuel + 1) place (c :: cs) = .error (.refused e) := by
  rw [tokens, if_neg (by simp [hc]), ht]
  rfl

end

/-- White space that is not missing where parts follow stands before the next of them. -/
theorem ends_text {gap : List Char} {parts : List (Lexeme × List Char)}
    (hgap : ∀ c ∈ gap, Text.isBlank c = true) (hne : gap ≠ [] ∨ parts = []) :
    Ends (Writing.text gap parts) := by
  intro c hc
  cases gap with
  | nil =>
    obtain rfl := hne.resolve_left (by simp)
    cases hc
  | cons b gap =>
    have hb : (Writing.text (b :: gap) parts).head? = some b := by cases parts <;> rfl
    rw [hb, Option.mem_some] at hc
    exact hc ▸ hgap b List.mem_cons_self

theorem tokens_text {before : List Char} {parts : List (Lexeme × List Char)} {fuel : Nat}
    (hblank : ∀ c ∈ before ++ parts.flatMap Prod.snd, Text.isBlank c = true)
    (hapart : ∀ part ∈ parts.dropLast, part.2 ≠ [])
    (hfuel : (Writing.text before parts).length ≤ fuel) :
    tokens fuel place (Writing.text before parts) = .ok (Writing.placed place before parts) := by
  induction parts generalizing before place fuel with
  | nil =>
    obtain ⟨more, rfl⟩ := Nat.exists_eq_add_of_le' hfuel
    have hgap := (List.forall_mem_append.1 hblank).1
    have hend := @tokens_blank [] place before hgap more
    rw [List.append_nil] at hend
    rw [Writing.text, hend]
    cases more <;> rfl
  | cons part rest ih =>
    obtain ⟨l, after⟩ := part
    obtain ⟨hgap, hrest⟩ := List.forall_mem_append.1 hblank
    have hafter := (List.forall_mem_append.1 hrest).1
    have hends : Ends (Writing.text after rest) := by
      refine ends_text hafter ?_
      cases rest with
      | nil => exact .inr rfl
      | cons => exact .inl (hapart (l, after) (by simp))
    obtain ⟨c, cs, hchars, hc, htoken⟩ := @token_lexeme _ (place + before.length) l hends
    have hlast : ∀ part ∈ rest.dropLast, part.2 ≠ [] := by
      intro part hpart
      cases rest with
      | nil => cases hpart
      | cons => exact hapart part (List.mem_cons_of_mem _ hpart)
    simp only [Writing.text, List.length_append, hchars, List.length_cons] at hfuel
    obtain ⟨more, rfl⟩ : ∃ more, fuel = more + 1 + before.length :=
      ⟨fuel - 1 - before.length, by omega⟩
    have hmore := @ih (place + before.length + l.chars.length) after more hrest hlast (by omega)
    rw [Writing.text, tokens_blank hgap, hchars, List.cons_append, tokens_token hc htoken, hmore]
    rfl

theorem parseTokens_str (finish : Nat) {s : String} :
    Parser.parseTokens finish [(0, .str s)] = .ok (.literal (.str s)) := by
  have hlevel : Derives (.level 0) [.str s] (.literal (.str s)) :=
    Derives.level (.ofMember (.ofPrimary .str)) (Nat.zero_le _)
  rw [Parser.parseTokens, Parser.parseWithin_eq_ok_iff (by simp [maxDepth])]
  exact .ofLevel hlevel

theorem tokenize_chars (w : Writing) : tokenize w.chars = .ok w.tokens :=
  except_mapError_eq_ok.2 (tokens_text w.blank w.apart (Nat.le_refl _))

theorem map_snd_tokens (w : Writing) : w.tokens.map Prod.snd = w.lexemes.map Lexeme.token := by
  rw [Writing.tokens, Writing.placed_tokens, Writing.lexemes, List.map_map]
  rfl

/-- What is written out token by token is cut into those tokens, each at its place, whatever the
white space around them; so each text can be written as the literal of a string. -/
theorem tokenize_undoes_writing :
    (∀ w : Writing, tokenize w.chars = .ok w.tokens ∧
      w.tokens.map Prod.snd = w.lexemes.map Lexeme.token) ∧
    (∀ q s, Expr.parse (String.ofList (Lexeme.str q s).chars) = .ok (.literal (.str s))) := by
  refine ⟨fun w => ⟨tokenize_chars w, map_snd_tokens w⟩, fun q s => ?_⟩
  have hliteral := tokenize_chars ⟨[], [(.str q s, [])], by simp, by simp⟩
  simp only [Writing.chars, Writing.text, List.nil_append, List.append_nil] at hliteral
  rw [Expr.parse, String.toList_ofList, hliteral]
  exact parseTokens_str (String.ofList (Lexeme.str q s).chars).utf8ByteSize

end PageLayers.Lexer
