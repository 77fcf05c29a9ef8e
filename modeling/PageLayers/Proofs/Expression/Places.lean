import Mathlib.Data.String.Basic
import PageLayers.Proofs.Expression.Lexemes
import PageLayers.Proofs.Expression.Lookahead
import PageLayers.Proofs.Outcome

/-! Where a text that is no expression is at fault, counted in characters: at one of the characters
of what is no token, at the first character of a token, or at the end. The place that is told of a
fault is that one, but that the end is told in bytes. -/

namespace PageLayers

namespace Lexer

/-- A text is cut into tokens, each with its place, from one place up to another. -/
inductive Cuts : Nat → List Char → Nat → List Char → Prop where
  | here {place cs} : Cuts place cs place cs
  | blank {place c cs finish left} (hc : Text.isBlank c = true)
      (h : Cuts (place + 1) cs finish left) : Cuts place (c :: cs) finish left
  | token {place c cs t next rest finish left} (hc : Text.isBlank c = false)
      (ht : token place c cs = .ok (t, next, rest)) (h : Cuts next rest finish left) :
      Cuts place (c :: cs) finish left

/-- No quote closes the string that the text goes on with. -/
inductive Unclosed (quote : Char) : List Char → Prop where
  | nil : Unclosed quote []
  | escaped {c cs} (h : Unclosed quote cs) : Unclosed quote ('\\' :: c :: cs)
  | plain {c cs} (hescape : c ≠ '\\') (hquote : c ≠ quote) (h : Unclosed quote cs) :
      Unclosed quote (c :: cs)

/-- What is wrong with the text of a token, and at which of its characters. -/
inductive Offends : SyntaxFault → List Char → Nat → Prop where
  | badNumber {digit cs rest} (hdigit : digit.isDigit = true)
      (hall : ∀ c ∈ cs, c.isDigit = true ∨ c = '.') (hpoints : 1 < (digit :: cs).count '.') :
      Offends (.badNumber (String.ofList (digit :: cs))) (digit :: cs ++ rest) 0
  | unterminated {q : Quote} {cs} (h : Unclosed q.char cs) :
      Offends .unterminatedString (q.char :: cs) 0
  | danglingEscape {q : Quote} {cs} (h : Unclosed q.char cs) :
      Offends .danglingEscape (q.char :: cs ++ ['\\']) (q.char :: cs).length
  | stray {c cs} (hdigit : c.isDigit = false) (hquote : ∀ q : Quote, c ≠ q.char)
      (hname : startsIdent c = false) (hpunct : ∀ p : Punct, ¬p.chars <+: c :: cs) :
      Offends (.strayCharacter c) (c :: cs) 0

variable {place start finish : Nat} {quote c : Char} {cs left : List Char} {t : Token}
  {e : ExpressionError}

theorem numberChars_split : (numberChars cs).1 ++ (numberChars cs).2 = cs := by
  induction cs with
  | nil => rfl
  | cons c rest ih =>
    unfold numberChars
    split
    · exact congrArg (c :: ·) ih
    · rfl

theorem mem_numberChars (h : c ∈ (numberChars cs).1) : c.isDigit = true ∨ c = '.' := by
  induction cs with
  | nil => cases h
  | cons d rest ih =>
    unfold numberChars at h
    split at h
    · rename_i hd
      rcases List.mem_cons.1 h with rfl | h
      · simp only [Bool.or_eq_true, Bool.and_eq_true, beq_iff_eq] at hd
        exact hd.imp_right And.left
      · exact ih h
    · cases h

/-- Digits and points that are no number have two points among them. -/
theorem count_of_numberValue? (hall : ∀ c ∈ cs, c.isDigit = true ∨ c = '.')
    (h : numberValue? cs = none) : 1 < cs.count '.' := by
  have hsplit : cs = cs.takeWhile Char.isDigit ++ cs.dropWhile Char.isDigit :=
    List.takeWhile_append_dropWhile.symm
  cases hrest : cs.dropWhile Char.isDigit with
  | nil => simp [numberValue?, hrest] at h
  | cons first fraction =>
    have hfirst : first = '.' := by
      have hmem : first ∈ cs := by rw [hsplit, hrest]; simp
      have hdigit := List.head?_dropWhile_not Char.isDigit cs
      rw [hrest] at hdigit
      exact (hall first hmem).resolve_left (by simpa using hdigit)
    obtain ⟨c, hc, hdigit⟩ : ∃ c ∈ fraction, c.isDigit = false := by
      have hnot : ¬fraction.all Char.isDigit = true := by
        intro hdigits
        simp [numberValue?, hrest, hdigits] at h
      simpa using hnot
    have hpoint : c = '.' := by
      have hmem : c ∈ cs := by rw [hsplit, hrest]; simp [hc]
      exact (hall c hmem).resolve_left (by simp [hdigit])
    rw [hsplit, hrest, hfirst, List.count_append, List.count_cons_self]
    have hpos : 0 < fraction.count '.' := List.count_pos_iff.2 (hpoint ▸ hc)
    omega

theorem stringChars_ok {text : List Char} {next : Nat}
    (h : stringChars start quote place cs = .ok (text, next, left)) :
    ∃ taken, cs = taken ++ left ∧ next = place + taken.length := by
  fun_induction stringChars start quote place cs generalizing text with
  | case1 => cases h
  | case2 => cases h
  | case3 place c rest =>
    rename_i ih
    obtain ⟨⟨_, _, _⟩, hr, heq⟩ := except_map_eq_ok.1 h
    cases heq
    obtain ⟨taken, rfl, rfl⟩ := ih hr
    exact ⟨'\\' :: c :: taken, rfl, by simp only [List.length_cons]; omega⟩
  | case4 =>
    cases h
    exact ⟨[quote], rfl, rfl⟩
  | case5 place c rest _ _ ih =>
    obtain ⟨⟨_, _, _⟩, hr, heq⟩ := except_map_eq_ok.1 h
    cases heq
    obtain ⟨taken, rfl, rfl⟩ := ih hr
    exact ⟨c :: taken, rfl, by simp only [List.length_cons]; omega⟩

theorem stringChars_error (h : stringChars start quote place cs = .error e) :
    e = .malformed start .unterminatedString ∧ Unclosed quote cs ∨
      ∃ before, cs = before ++ ['\\'] ∧ Unclosed quote before ∧
        e = .malformed (place + before.length) .danglingEscape := by
  fun_induction stringChars start quote place cs with
  | case1 =>
    cases h
    exact .inl ⟨rfl, .nil⟩
  | case2 =>
    cases h
    exact .inr ⟨[], rfl, .nil, rfl⟩
  | case3 place c rest =>
    rename_i ih
    rcases ih (except_map_eq_error.1 h) with ⟨he, hopen⟩ | ⟨before, hrest, hopen, he⟩
    · exact .inl ⟨he, .escaped hopen⟩
    · refine .inr ⟨'\\' :: c :: before, by simp [hrest], .escaped hopen, ?_⟩
      rw [he, List.length_cons, List.length_cons, Nat.add_assoc, Nat.add_comm 2]
  | case4 => cases h
  | case5 place c rest hescape hquote ih =>
    rcases ih (except_map_eq_error.1 h) with ⟨he, hopen⟩ | ⟨before, hrest, hopen, he⟩
    · exact .inl ⟨he, .plain hescape hquote hopen⟩
    · refine .inr ⟨c :: before, by simp [hrest], .plain hescape hquote hopen, ?_⟩
      rw [he, List.length_cons, Nat.add_assoc, Nat.add_comm 1]

theorem quote_cases (h : c = '"' ∨ c = '\x27') : ∃ q : Quote, c = q.char := by
  rcases h with rfl | rfl
  · exact ⟨.double, rfl⟩
  · exact ⟨.single, rfl⟩

theorem numberChars_cons (hdigit : c.isDigit = true) :
    ∃ more, (numberChars (c :: cs)).1 = c :: more := by
  rw [numberChars, if_pos (by simp [hdigit])]
  exact ⟨_, rfl⟩

/-- A token takes up the first character and some more, and the next place is after them. -/
theorem token_ok {next : Nat} (h : token place c cs = .ok (t, next, left)) :
    ∃ taken, cs = taken ++ left ∧ next = place + 1 + taken.length := by
  unfold token at h
  split at h
  · rename_i hdigit
    obtain ⟨more, hmore⟩ := @numberChars_cons c cs hdigit
    have hsplit := @numberChars_split (c :: cs)
    rw [hmore] at hsplit
    split at h
    rename_i taken rest hread
    rw [hread] at hmore hsplit
    obtain rfl : taken = c :: more := hmore
    split at h
    · cases h
      exact ⟨more, (List.cons.inj hsplit).2.symm, by simp only [List.length_cons]; omega⟩
    · cases h
  · split at h
    · obtain ⟨⟨_, _, _⟩, hr, heq⟩ := except_map_eq_ok.1 h
      cases heq
      exact stringChars_ok hr
    · split at h
      · rename_i hname
        have hfirst : inIdent c = true := by simp [inIdent, hname]
        cases h
        rw [List.takeWhile_cons_of_pos hfirst, List.dropWhile_cons_of_pos hfirst]
        exact ⟨_, List.takeWhile_append_dropWhile.symm, by simp only [List.length_cons]; omega⟩
      · split at h
        · rename_i p rest hread
          cases h
          obtain ⟨q, hfind, heq⟩ := Option.map_eq_some_iff.1 hread
          cases heq
          have hfound : p.chars.isPrefixOf (c :: cs) = true := by simpa using List.find?_some hfind
          obtain ⟨more, hmore⟩ := List.isPrefixOf_iff_prefix.1 hfound
          cases hp : p.chars with
          | nil => cases p <;> cases hp
          | cons d taken =>
            rw [hp] at hmore
            obtain ⟨rfl, hrest⟩ := List.cons.inj hmore
            refine ⟨taken, ?_, by simp only [List.length_cons]; omega⟩
            rw [List.length_cons, List.drop_succ_cons, ← hrest]
            exact congrArg (taken ++ ·) List.drop_left.symm
        · cases h

theorem mem_all (p : Punct) : p ∈ Punct.all := by
  cases p <;> decide

theorem token_error (h : token place c cs = .error e) :
    ∃ fault offset, e = .malformed (place + offset) fault ∧ Offends fault (c :: cs) offset := by
  unfold token at h
  split at h
  · rename_i hdigit
    obtain ⟨more, hmore⟩ := @numberChars_cons c cs hdigit
    have hsplit := @numberChars_split (c :: cs)
    have hall := fun d => @mem_numberChars d (c :: cs)
    rw [hmore] at hall hsplit
    split at h
    rename_i taken rest hread
    rw [hread] at hmore hsplit
    obtain rfl : taken = c :: more := hmore
    split at h
    · cases h
    · rename_i hvalue
      cases h
      refine ⟨_, 0, rfl, ?_⟩
      rw [← hsplit]
      exact .badNumber hdigit (fun d hd => hall d (List.mem_cons_of_mem _ hd))
        (count_of_numberValue? hall hvalue)
  · rename_i hdigit
    split at h
    · rename_i hquote
      obtain ⟨q, rfl⟩ := quote_cases hquote
      rcases stringChars_error (except_map_eq_error.1 h) with
        ⟨rfl, hopen⟩ | ⟨before, rfl, hopen, rfl⟩
      · exact ⟨_, 0, rfl, .unterminated hopen⟩
      · refine ⟨_, (q.char :: before).length, ?_, .danglingEscape hopen⟩
        rw [List.length_cons, Nat.add_assoc, Nat.add_comm 1]
    · rename_i hquote
      split at h
      · cases h
      · rename_i hname
        split at h
        · cases h
        · rename_i hread
          cases h
          refine ⟨_, 0, rfl, .stray ?_ ?_ ?_ ?_⟩
          · simpa using hdigit
          · intro q hq
            cases q <;> exact hquote (by simp [hq, Quote.char])
          · simpa using hname
          · intro p hp
            have hnone := List.find?_eq_none.1 (Option.map_eq_none_iff.1 hread) p (mem_all p)
            exact hnone (List.isPrefixOf_iff_prefix.2 hp)

theorem Offends.lt_length {fault : SyntaxFault} {offset : Nat} (h : Offends fault cs offset) :
    offset < cs.length := by
  cases h <;> simp

theorem Cuts.split (h : Cuts place cs finish left) :
    ∃ before, cs = before ++ left ∧ finish = place + before.length := by
  induction h with
  | here => exact ⟨[], rfl, rfl⟩
  | @blank place c _ _ _ _ _ ih =>
    obtain ⟨before, rfl, rfl⟩ := ih
    exact ⟨c :: before, rfl, by simp only [List.length_cons]; omega⟩
  | @token place c _ _ _ _ _ _ _ ht _ ih =>
    obtain ⟨taken, rfl, rfl⟩ := token_ok ht
    obtain ⟨before, rfl, rfl⟩ := ih
    refine ⟨c :: (taken ++ before), by simp, ?_⟩
    simp only [List.length_cons, List.length_append]
    omega

/-- The place is the number of characters that are passed over. -/
theorem Cuts.drop_eq (h : Cuts 0 cs finish left) : cs.drop finish = left := by
  obtain ⟨before, rfl, rfl⟩ := h.split
  rw [Nat.zero_add, List.drop_left]

/-- Each token is read at its place. -/
theorem cuts_of_tokens {fuel : Nat} {ts : List (Nat × Token)} (h : tokens fuel place cs = .ok ts)
    {x : Nat × Token} (hx : x ∈ ts) : ∃ c rest, Cuts place cs x.1 (c :: rest) ∧
      Text.isBlank c = false ∧ ∃ next left, token x.1 c rest = .ok (x.2, next, left) := by
  induction fuel generalizing place cs ts with
  | zero =>
    cases cs with
    | nil =>
      cases h
      cases hx
    | cons => cases h
  | succ fuel ih =>
    cases cs with
    | nil =>
      cases h
      cases hx
    | cons c cs =>
      cases hc : Text.isBlank c with
      | true =>
        rw [tokens, if_pos hc] at h
        obtain ⟨d, rest, hcuts, hd⟩ := ih h hx
        exact ⟨d, rest, .blank hc hcuts, hd⟩
      | false =>
        cases ht : token place c cs with
        | error e =>
          rw [tokens_error hc ht] at h
          cases h
        | ok r =>
          obtain ⟨t, next, left⟩ := r
          rw [tokens_token hc ht] at h
          obtain ⟨more, hmore, rfl⟩ := except_map_eq_ok.1 h
          rcases List.mem_cons.1 hx with rfl | hx
          · exact ⟨c, cs, .here, hc, next, left, ht⟩
          · obtain ⟨d, rest, hcuts, hd⟩ := ih hmore hx
            exact ⟨d, rest, .token hc ht hcuts, hd⟩

/-- Cutting stops at a character by which no token can be read, as there is fuel for each of the
characters. -/
theorem cuts_of_error {fuel : Nat} {stop : Stop} (h : tokens fuel place cs = .error stop)
    (hfuel : cs.length ≤ fuel) :
    ∃ start c rest e, Cuts place cs start (c :: rest) ∧ Text.isBlank c = false ∧
      token start c rest = .error e ∧ stop = .refused e := by
  induction fuel generalizing place cs with
  | zero =>
    cases cs with
    | nil => cases h
    | cons => cases hfuel
  | succ fuel ih =>
    cases cs with
    | nil => cases h
    | cons c cs =>
      rw [List.length_cons] at hfuel
      cases hc : Text.isBlank c with
      | true =>
        rw [tokens, if_pos hc] at h
        obtain ⟨start, d, rest, e, hcuts, hd⟩ := ih h (by omega)
        exact ⟨start, d, rest, e, .blank hc hcuts, hd⟩
      | false =>
        cases ht : token place c cs with
        | error e =>
          rw [tokens_error hc ht] at h
          cases h
          exact ⟨place, c, cs, e, .here, hc, ht, rfl⟩
        | ok r =>
          obtain ⟨t, next, left⟩ := r
          obtain ⟨taken, rfl, -⟩ := token_ok ht
          rw [List.length_append] at hfuel
          rw [tokens_token hc ht] at h
          obtain ⟨start, d, rest, e, hcuts, hd⟩ := ih (except_map_eq_error.1 h) (by omega)
          exact ⟨start, d, rest, e, .token hc ht hcuts, hd⟩

/-- The text is cut up to one character by which no token can be read. -/
theorem Cuts.unique {finish' : Nat} {d : Char} {rest rest' : List Char}
    (h : Cuts place cs finish (c :: rest)) (hblank : Text.isBlank c = false)
    (hnone : ∀ r, Lexer.token finish c rest ≠ .ok r) (h' : Cuts place cs finish' (d :: rest'))
    (hblank' : Text.isBlank d = false) (hnone' : ∀ r, Lexer.token finish' d rest' ≠ .ok r) :
    finish = finish' ∧ c :: rest = d :: rest' := by
  generalize hleft : c :: rest = left at h
  induction h with
  | here =>
    subst hleft
    cases h' with
    | here => exact ⟨rfl, rfl⟩
    | blank hc => simp [hblank] at hc
    | token _ ht => exact absurd ht (hnone _)
  | blank hc _ ih =>
    cases h' with
    | here => simp [hblank'] at hc
    | blank _ h' => exact ih hnone h' hleft
    | token hc' => simp [hc] at hc'
  | token hc ht _ ih =>
    cases h' with
    | here => exact absurd ht (hnone' _)
    | blank hc' => simp [hc] at hc'
    | token _ ht' h' =>
      cases ht.symm.trans ht'
      exact ih hnone h' hleft

theorem tokens_of_cuts {fuel : Nat} {rest : List Char} (h : Cuts place cs finish (c :: rest))
    (hblank : Text.isBlank c = false) (hnone : ∀ r, Lexer.token finish c rest ≠ .ok r)
    (hfuel : cs.length ≤ fuel) : ∃ stop, tokens fuel place cs = .error stop := by
  generalize hleft : c :: rest = left at h
  induction h generalizing fuel with
  | @here place =>
    subst hleft
    cases fuel with
    | zero => cases hfuel
    | succ fuel =>
      cases ht : Lexer.token place c rest with
      | ok r => exact absurd ht (hnone r)
      | error e => exact ⟨_, tokens_error hblank ht⟩
  | blank hc _ ih =>
    cases fuel with
    | zero => cases hfuel
    | succ fuel =>
      rw [tokens, if_pos hc]
      exact ih hnone (Nat.le_of_succ_le_succ hfuel) hleft
  | @token _ _ _ _ _ left' _ _ hc ht _ ih =>
    cases fuel with
    | zero => cases hfuel
    | succ fuel =>
      obtain ⟨taken, rfl, -⟩ := token_ok ht
      have hfuel : left'.length ≤ fuel := by
        simp only [List.length_cons, List.length_append] at hfuel
        omega
      obtain ⟨stop, hstop⟩ := ih hnone hfuel hleft
      exact ⟨stop, by rw [tokens_token hc ht, hstop]; rfl⟩

theorem Offends.offset_eq {fault : SyntaxFault} {n : Nat} (h : Offends fault cs n) :
    n = if fault = .danglingEscape then cs.length - 1 else 0 := by
  cases h <;> simp

end Lexer

/-- The fault is found at a place of the text, counted in characters: at a character by which no
token can be read, at the first character of a token that no expression has there, or at the end,
where the expression is not complete. -/
inductive FaultAt (source : List Char) : Nat → SyntaxFault → Prop where
  | character {start c rest offset fault} (hcuts : Lexer.Cuts 0 source start (c :: rest))
      (hblank : Text.isBlank c = false) (hnone : ∀ r, Lexer.token start c rest ≠ .ok r)
      (hoffends : Lexer.Offends fault (c :: rest) offset) : FaultAt source (start + offset) fault
  | token {ahead place t behind c rest next left fault}
      (htokens : Lexer.tokenize source = .ok (ahead ++ (place, t) :: behind))
      (hplace : source.drop place = c :: rest)
      (htoken : Lexer.token place c rest = .ok (t, next, left))
      (hstuck : Parser.Stuck (ahead.map Prod.snd) (some t)) (hblame : fault.Accuses (some t)) :
      FaultAt source place fault
  | finish {tokens fault} (htokens : Lexer.tokenize source = .ok tokens)
      (hstuck : Parser.Stuck (tokens.map Prod.snd) none) (hblame : fault.Accuses none) :
      FaultAt source source.length fault

namespace FaultAt

variable {cs : List Char} {p q : Nat} {fault : SyntaxFault}

theorem le_length (h : FaultAt cs p fault) : p ≤ cs.length := by
  cases h with
  | character hcuts _ _ hoffends =>
    have hlength := congrArg List.length hcuts.drop_eq
    have hoffset := hoffends.lt_length
    rw [List.length_drop] at hlength
    omega
  | token _ hplace => exact (List.length_lt_of_drop_ne_nil (by simp [hplace])).le
  | finish => exact le_rfl

/-- Where the tokens can be read, the fault is where the parser is stuck. -/
theorem exists_stuck {tokens : List (Nat × Token)} (htokens : Lexer.tokenize cs = .ok tokens)
    (h : FaultAt cs p fault) : ∃ ahead behind, tokens = ahead ++ behind ∧
      Parser.Stuck (ahead.map Prod.snd) (behind.head?.map Prod.snd) ∧
      p = (behind.head?.map Prod.fst).getD cs.length := by
  cases h with
  | character hcuts hblank hnone =>
    obtain ⟨stop, hstop⟩ := Lexer.tokens_of_cuts hcuts hblank hnone le_rfl
    cases (except_mapError_eq_ok.1 htokens).symm.trans hstop
  | token htokens' _ _ hstuck =>
    cases htokens.symm.trans htokens'
    exact ⟨_, _, rfl, hstuck, rfl⟩
  | finish htokens' hstuck =>
    cases htokens.symm.trans htokens'
    exact ⟨_, [], (List.append_nil _).symm, hstuck, rfl⟩

theorem unique (h : FaultAt cs p fault) (h' : FaultAt cs q fault) : p = q := by
  cases htokens : Lexer.tokenize cs with
  | ok tokens =>
    obtain ⟨ahead, behind, rfl, hstuck, rfl⟩ := h.exists_stuck htokens
    obtain ⟨ahead', behind', heq, hstuck', rfl⟩ := h'.exists_stuck htokens
    obtain ⟨rfl, rfl⟩ := List.append_inj heq (hstuck.length_eq hstuck' heq)
    rfl
  | error e =>
    cases h with
    | character hcuts hblank hnone hoffends =>
      cases h' with
      | character hcuts' hblank' hnone' hoffends' =>
        obtain ⟨rfl, heq⟩ := hcuts.unique hblank hnone hcuts' hblank' hnone'
        cases heq
        rw [hoffends.offset_eq, hoffends'.offset_eq]
      | token htokens' => cases htokens.symm.trans htokens'
      | finish htokens' => cases htokens.symm.trans htokens'
    | token htokens' => cases htokens.symm.trans htokens'
    | finish htokens' => cases htokens.symm.trans htokens'

end FaultAt

theorem length_le_utf8Len (cs : List Char) : cs.length ≤ String.utf8Len cs := by
  induction cs with
  | nil => exact le_rfl
  | cons c cs ih =>
    have hpos := c.utf8Size_pos
    rw [List.length_cons, String.utf8Len_cons]
    omega

/-- A text has as many bytes as characters where each takes one. -/
theorem utf8Len_le_length_iff {cs : List Char} :
    String.utf8Len cs ≤ cs.length ↔ ∀ c ∈ cs, c.utf8Size = 1 := by
  induction cs with
  | nil => simp
  | cons c cs ih =>
    have hpos := c.utf8Size_pos
    have hlength := length_le_utf8Len cs
    rw [List.length_cons, String.utf8Len_cons, List.forall_mem_cons, ← ih]
    omega

variable {source : String} {place : Nat} {fault : SyntaxFault}

theorem parse_eq_malformed (h : Expr.parse source = .error (.malformed place fault)) :
    ∃ p, FaultAt source.toList p fault ∧
      place = if p < source.length then p else source.utf8ByteSize := by
  rw [← String.length_toList]
  rcases except_bind_eq_error.1 h with h | ⟨tokens, htokens, h⟩
  · obtain ⟨stop, hstop, hmalformed⟩ := except_mapError_eq_error.1 h
    obtain ⟨start, c, rest, e, hcuts, hblank, h, rfl⟩ := Lexer.cuts_of_error hstop le_rfl
    obtain rfl : e = .malformed place fault := hmalformed
    obtain ⟨fault, offset, heq, hoffends⟩ := Lexer.token_error h
    cases heq
    have hlength := congrArg List.length hcuts.drop_eq
    have hoffset := hoffends.lt_length
    rw [List.length_drop] at hlength
    refine ⟨_, .character hcuts hblank (fun r hr => by simp [hr] at h) hoffends, ?_⟩
    rw [if_pos (by omega)]
  · obtain ⟨ahead, behind, rfl, hstuck, rfl, hblame⟩ := Parser.parseWithin_eq_malformed h
    cases behind with
    | nil =>
      rw [List.append_nil] at htokens
      exact ⟨_, .finish htokens hstuck hblame, (if_neg (lt_irrefl _)).symm⟩
    | cons first behind =>
      obtain ⟨c, rest, hcuts, -, next, left, htoken⟩ :=
        Lexer.cuts_of_tokens (except_mapError_eq_ok.1 htokens)
          (List.mem_append_right ahead (List.mem_cons_self (a := first)))
      refine ⟨first.1, .token htokens hcuts.drop_eq htoken hstuck hblame, ?_⟩
      exact (if_pos (List.length_lt_of_drop_ne_nil (by simp [hcuts.drop_eq]))).symm

/-- There is one place of a fault, in characters. It is the one that is told where it is not the end
of the text; that is told in bytes, and so it is right where each character takes one. -/
theorem malformed_place_iff (h : Expr.parse source = .error (.malformed place fault)) :
    ∃ p, (∀ q, FaultAt source.toList q fault ↔ q = p) ∧ p ≤ source.length ∧
      place = (if p < source.length then p else source.utf8ByteSize) ∧
      (place = p ↔ p < source.length ∨ ∀ c ∈ source.toList, c.utf8Size = 1) ∧
      (place ≤ source.length ↔ place = p) := by
  obtain ⟨p, hp, hplace⟩ := parse_eq_malformed h
  have hle := hp.le_length
  have hlength := length_le_utf8Len source.toList
  rw [String.length_toList] at hle hlength
  rw [String.utf8Len_toList] at hlength
  have hbytes : source.utf8ByteSize ≤ source.length ↔ ∀ c ∈ source.toList, c.utf8Size = 1 := by
    rw [← utf8Len_le_length_iff, String.utf8Len_toList, String.length_toList]
  refine ⟨p, fun q => ⟨fun hq => hq.unique hp, fun hq => hq ▸ hp⟩, hle, hplace, ?_, ?_⟩
  · rw [← hbytes]
    split at hplace <;> omega
  · split at hplace <;> omega

/-- `é é` -/
theorem two_names_malformed_place :
    Expr.parse "é é" = .error (.malformed 2 (.trailing (.ident "é"))) ∧
      FaultAt "é é".toList 2 (.trailing (.ident "é")) := by
  have htokens : Lexer.tokenize "é é".toList = .ok [(0, .ident "é"), (2, .ident "é")] := by
    decide +kernel
  have hparse : Expr.parse "é é" = .error (.malformed 2 (.trailing (.ident "é"))) := by
    rw [Expr.parse, htokens]
    rfl
  obtain ⟨p, hp, -, -, -, hplace⟩ := malformed_place_iff hparse
  exact ⟨hparse, (hp 2).2 (hplace.1 (by decide))⟩

/-- The end of `é+` is told at 3, and the text has two characters. -/
theorem open_sum_malformed_place :
    Expr.parse "é+" = .error (.malformed 3 .ended) ∧ "é+".length = 2 ∧
      FaultAt "é+".toList 2 .ended ∧ ¬FaultAt "é+".toList 3 .ended := by
  have htokens : Lexer.tokenize "é+".toList = .ok [(0, .ident "é"), (1, .punct .plus)] := by
    decide +kernel
  have hparse : Expr.parse "é+" = .error (.malformed 3 .ended) := by
    rw [Expr.parse, htokens]
    rfl
  have hlength : "é+".length = 2 := by decide
  obtain ⟨p, hp, hplace⟩ := parse_eq_malformed hparse
  have hle := hp.le_length
  rw [String.length_toList] at hle
  obtain rfl : p = 2 := by
    split at hplace <;> omega
  exact ⟨hparse, hlength, hp, fun h => absurd (h.unique hp) (by decide)⟩

end PageLayers
