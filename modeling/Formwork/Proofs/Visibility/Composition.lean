import Formwork.Proofs.Text.Blank
import Formwork.Proofs.Visibility.Limit
import Formwork.Proofs.Visibility.RoundTrip

/-!
Conditions made of conditions. A condition keeps its words when it is put in parentheses, whatever
stands around them; so whether conditions hold that are joined by `and` or `or`, or negated, is told
by whether the parts hold and whether they can be evaluated.
-/
namespace Formwork.Visibility
open Formwork.Text

variable {cs rest : List Char} {ws : List Word} {d e : Expr} {s t : String}

/-! ### Lexemes before a closing parenthesis -/

theorem takeWhile_append_close {p : Char → Bool} (hp : p ')' = false) (cs rest : List Char) :
    (cs ++ ')' :: rest).takeWhile p = cs.takeWhile p := by
  induction cs with
  | nil => simp [hp]
  | cons c cs ih => rw [List.cons_append, List.takeWhile_cons, List.takeWhile_cons, ih]

theorem dropWhile_append_close {p : Char → Bool} (hp : p ')' = false) (cs rest : List Char) :
    (cs ++ ')' :: rest).dropWhile p = cs.dropWhile p ++ ')' :: rest := by
  induction cs with
  | nil => simp [hp]
  | cons c cs ih =>
    rw [List.cons_append, List.dropWhile_cons, List.dropWhile_cons, ih]
    split <;> rfl

theorem numberOf_append_close (cs rest : List Char) :
    numberOf (cs ++ ')' :: rest) = numberOf cs := by
  have hp : Char.isDigit ')' = false := by decide
  rw [numberOf, numberOf, takeWhile_append_close hp, dropWhile_append_close hp]
  rcases cs.dropWhile Char.isDigit with _ | ⟨c, _ | ⟨d, ds⟩⟩
  · rfl
  · by_cases hc : c = '.' <;> simp [hc]
  · by_cases hc : c = '.'
    · subst hc
      have htail := takeWhile_append_close hp (d :: ds) rest
      rw [List.cons_append] at htail
      simp only [List.cons_append, htail]
    · simp [hc]

theorem length_numberOf_le (cs : List Char) : (numberOf cs).length ≤ cs.length := by
  have hsplit :=
    congrArg List.length (List.takeWhile_append_dropWhile (p := Char.isDigit) (l := cs))
  rw [List.length_append] at hsplit
  rw [numberOf]
  split
  · next c ds hdrop =>
    rw [hdrop] at hsplit
    have hrun := (List.takeWhile_sublist Char.isDigit (l := c :: ds)).length_le
    simp only [List.length_cons] at hsplit hrun
    split
    · rw [List.length_append, List.length_cons]
      omega
    · omega
  · omega

theorem literalTail?_append {quote : Char} {value : List Char} {n : Nat}
    (h : literalTail? quote cs = some (value, n)) (rest : List Char) :
    n ≤ cs.length ∧ literalTail? quote (cs ++ rest) = some (value, n) := by
  have hplain {c : Char} {cs : List Char} (h₁ : c = '\\' → cs = [] → False)
      (h₂ : ∀ d ds, c = '\\' → cs = d :: ds → False) : c ≠ '\\' := by
    cases cs with
    | nil => exact fun hc => h₁ hc rfl
    | cons d ds => exact fun hc => h₂ d ds hc rfl
  fun_induction literalTail? quote cs generalizing value n with
  | case1 | case2 => cases h
  | case3 c cs ih =>
    obtain ⟨⟨v, k⟩, hv, hx⟩ := Option.map_eq_some_iff.1 h
    obtain ⟨hk, hread⟩ := ih hv
    cases hx
    exact ⟨by simpa using hk, by simp [literalTail?, hread]⟩
  | case4 cs h₁ h₂ =>
    cases h
    have hquote := hplain h₁ h₂
    refine ⟨by simp, ?_⟩
    rw [List.cons_append, literalTail?.eq_def]
    simp [hquote]
  | case5 c cs h₁ h₂ hc ih =>
    obtain ⟨⟨v, k⟩, hv, hx⟩ := Option.map_eq_some_iff.1 h
    obtain ⟨hk, hread⟩ := ih hv
    cases hx
    have hslash := hplain h₁ h₂
    refine ⟨by simpa using hk, ?_⟩
    rw [List.cons_append, literalTail?.eq_def]
    simp [hslash, hc, hread]

theorem find?_operators_append_close (c : Char) (cs rest : List Char) :
    operators.find? (fun o => o.toList.isPrefixOf (c :: (cs ++ ')' :: rest))) =
      operators.find? (fun o => o.toList.isPrefixOf (c :: cs)) := by
  have htail : ∀ o ∈ operators, ')' ∉ o.toList.tail := by decide
  refine List.find?_congr fun o ho => ?_
  have hclose := htail o ho
  cases ho' : o.toList with
  | nil => rfl
  | cons b bs =>
    rw [ho', List.tail_cons] at hclose
    rw [List.isPrefixOf, List.isPrefixOf, isPrefixOf_append_cons hclose]

/-- A lexeme ends where it ended, and within the text, if a closing parenthesis follows the text. -/
theorem lexeme?_append_close {l : Lexeme} {n : Nat} (h : lexeme? cs = some (l, n))
    (rest : List Char) : n ≤ cs.length ∧ lexeme? (cs ++ ')' :: rest) = some (l, n) := by
  cases cs with
  | nil => cases h
  | cons c cs =>
    have hrun {p : Char → Bool} (hp : p ')' = false) :=
      And.intro (List.takeWhile_sublist p (l := cs)).length_le (takeWhile_append_close hp cs rest)
    rw [List.cons_append, lexeme?]
    rw [lexeme?] at h
    by_cases hb : isAsciiBlank c = true
    · obtain ⟨hlen, happ⟩ := hrun (p := isAsciiBlank) (by decide)
      rw [if_pos hb] at h ⊢
      cases h
      exact ⟨by simp only [List.length_cons]; omega, by rw [happ]⟩
    · rw [if_neg hb] at h ⊢
      by_cases hd : c.isDigit = true
      · rw [if_pos hd] at h ⊢
        cases h
        have happ := numberOf_append_close (c :: cs) rest
        rw [List.cons_append] at happ
        exact ⟨length_numberOf_le (c :: cs), by rw [happ]⟩
      · rw [if_neg hd] at h ⊢
        by_cases hq : c = '"' ∨ c = '\''
        · rw [if_pos hq] at h ⊢
          obtain ⟨⟨v, k⟩, hv, hx⟩ := Option.map_eq_some_iff.1 h
          obtain ⟨hlen, happ⟩ := literalTail?_append hv (')' :: rest)
          cases hx
          exact ⟨by simpa using hlen, by rw [happ]; rfl⟩
        · rw [if_neg hq] at h ⊢
          by_cases hn : isNameChar c = true
          · obtain ⟨hlen, happ⟩ := hrun (p := isNameChar) (by decide)
            rw [if_pos hn] at h ⊢
            cases h
            exact ⟨by simpa using hlen, by rw [happ]⟩
          · rw [if_neg hn] at h ⊢
            rw [find?_operators_append_close]
            refine ⟨?_, h⟩
            obtain ⟨o, ho, hx⟩ := Option.map_eq_some_iff.1 h
            cases hx
            have hprefix : o.toList <+: c :: cs := by simpa using List.find?_some ho
            rw [← String.length_toList]
            exact hprefix.length_le

/-! ### The words of a condition, wherever it stands -/

/-- Before a closing parenthesis a text, but for the characters to skip, is cut into words, wherever
it stands. -/
def Enclosable (skip : Nat) (cs : List Char) (ws : List Word) : Prop :=
  ∀ position rest, ∃ ts : List Token, ts.map Token.word = ws ∧
    tokensFrom position skip (cs ++ ')' :: rest) =
      (tokensFrom (position + cs.length) 0 (')' :: rest)).map (ts ++ ·)

theorem tokensFrom_of_space {c : Char} {n : Nat} (h : lexeme? (c :: cs) = some (.space, n))
    (position : Nat) :
    tokensFrom position 0 (c :: cs) = tokensFrom (position + 1) (n - 1) cs := by
  rw [tokensFrom, h]

theorem tokensFrom_of_token {c : Char} {kind : TokenKind} {value : List Char} {n : Nat}
    (h : lexeme? (c :: cs) = some (.token kind value, n)) (position : Nat) :
    tokensFrom position 0 (c :: cs) =
      (tokensFrom (position + 1) (n - 1) cs).map (⟨kind, String.ofList value, position⟩ :: ·) := by
  rw [tokensFrom, h]

variable {c : Char} {n : Nat}

theorem Enclosable.nil : Enclosable 0 [] [] := by
  intro position rest
  refine ⟨[], rfl, ?_⟩
  change tokensFrom position 0 (')' :: rest) = _
  cases tokensFrom position 0 (')' :: rest) <;> rfl

theorem Enclosable.skip (h : Enclosable n cs ws) : Enclosable (n + 1) (c :: cs) ws := by
  intro position rest
  obtain ⟨ts, hts, hread⟩ := h (position + 1) rest
  refine ⟨ts, hts, ?_⟩
  rw [List.cons_append, tokensFrom, hread, List.length_cons, Nat.add_right_comm, Nat.add_assoc]

theorem Enclosable.space (h : Enclosable (n - 1) cs ws)
    (hlex : lexeme? (c :: cs) = some (.space, n)) : Enclosable 0 (c :: cs) ws := by
  intro position rest
  obtain ⟨ts, hts, hread⟩ := h (position + 1) rest
  refine ⟨ts, hts, ?_⟩
  have hclose := (lexeme?_append_close hlex rest).2
  rw [List.cons_append] at hclose ⊢
  rw [tokensFrom_of_space hclose, hread, List.length_cons, Nat.add_right_comm, Nat.add_assoc]

theorem Enclosable.token {kind : TokenKind} {value : List Char} (h : Enclosable (n - 1) cs ws)
    (hlex : lexeme? (c :: cs) = some (.token kind value, n)) :
    Enclosable 0 (c :: cs) ((kind, String.ofList value) :: ws) := by
  intro position rest
  obtain ⟨ts, rfl, hread⟩ := h (position + 1) rest
  refine ⟨⟨kind, String.ofList value, position⟩ :: ts, rfl, ?_⟩
  have hclose := (lexeme?_append_close hlex rest).2
  rw [List.cons_append] at hclose ⊢
  rw [tokensFrom_of_token hclose, hread, List.length_cons, Nat.add_right_comm, Nat.add_assoc]
  cases tokensFrom (position + (cs.length + 1)) 0 (')' :: rest) <;> rfl

theorem enclosable_of_tokensFrom {position skip : Nat} {ts : List Token}
    (h : tokensFrom position skip cs = .ok ts) (hs : skip ≤ cs.length) :
    ∃ us stop, ts = us ++ [⟨.eof, "", stop⟩] ∧ Enclosable skip cs (us.map Token.word) := by
  induction cs generalizing position skip ts with
  | nil =>
    obtain rfl : skip = 0 := Nat.le_zero.1 hs
    cases h
    exact ⟨[], position, rfl, .nil⟩
  | cons c cs ih =>
    cases skip with
    | succ skip =>
      obtain ⟨us, stop, hts, henc⟩ := ih h (Nat.le_of_succ_le_succ hs)
      exact ⟨us, stop, hts, henc.skip⟩
    | zero =>
      cases hlex : lexeme? (c :: cs) with
      | none => simp [tokensFrom, hlex] at h
      | some x =>
        obtain ⟨l, n⟩ := x
        have hlen := (lexeme?_append_close hlex []).1
        have hn : n - 1 ≤ cs.length := Nat.sub_le_of_le_add hlen
        cases l with
        | space =>
          rw [tokensFrom_of_space hlex] at h
          obtain ⟨us, stop, hts, henc⟩ := ih h hn
          exact ⟨us, stop, hts, henc.space hlex⟩
        | token kind value =>
          rw [tokensFrom_of_token hlex] at h
          cases hrest : tokensFrom (position + 1) (n - 1) cs with
          | error err => simp [hrest, Except.map] at h
          | ok us =>
            rw [hrest] at h
            obtain ⟨us, stop, rfl, henc⟩ := ih hrest hn
            exact ⟨_ :: us, stop, (Except.ok.inj h).symm, henc.token hlex⟩

/-- A condition derives from words that it keeps between parentheses. -/
theorem exists_enclosable_of_read (h : Expr.read cs = .ok e) :
    ∃ ws, Derives (.cond .disjunction) ws e ∧ Enclosable 0 cs ws := by
  rw [Expr.read] at h
  cases htokens : tokens cs with
  | error err => simp [htokens, throw, throwThe, MonadExceptOf.throw] at h
  | ok ts =>
    rw [htokens] at h
    dsimp only at h
    have hordered := (ordered_of_tokensFrom htokens).1
    have hshort := hordered.not_tooLong_of_ofTokens h
    have hread := outcome_ofTokens ts
    rw [h] at hread
    obtain ⟨d, hd, hm⟩ := hread
    obtain ⟨us, stop, rfl, henc⟩ := enclosable_of_tokensFrom htokens (Nat.zero_le _)
    obtain ⟨vs, stop', he, hvs⟩ := hordered.exists_end
    obtain ⟨rfl, -⟩ := List.append_inj' he rfl
    rw [beforeEnd_append hvs, beforeEnd_of_eof rfl, List.append_nil] at hd
    rw [← hd] at henc hshort
    exact ⟨_, ⟨d, rfl, hm, fun t ht => hshort t (List.mem_append_left _ ht)⟩, henc⟩

/-! ### Texts put together -/

/-- A text is cut into words, wherever it stands, and what follows it is cut on its own. -/
def WordsBefore (rest cs : List Char) (ws : List Word) : Prop :=
  ∀ position, ∃ ts : List Token, ts.map Token.word = ws ∧
    tokensFrom position 0 (cs ++ rest) =
      (tokensFrom (position + cs.length) 0 rest).map (ts ++ ·)

variable {cs' gap : List Char} {ws' : List Word} {w : Word}

theorem WordsBefore.append (h : WordsBefore (cs' ++ rest) cs ws) (h' : WordsBefore rest cs' ws') :
    WordsBefore rest (cs ++ cs') (ws ++ ws') := by
  intro position
  obtain ⟨ts, rfl, hread⟩ := h position
  obtain ⟨ts', rfl, hread'⟩ := h' (position + cs.length)
  refine ⟨ts ++ ts', List.map_append, ?_⟩
  rw [List.append_assoc, hread, hread', List.length_append, ← Nat.add_assoc]
  cases tokensFrom (position + cs.length + cs'.length) 0 rest with
  | error err => rfl
  | ok us => exact congrArg Except.ok (List.append_assoc ..).symm

theorem Spells.wordsBefore (h : Spells w cs) (hf : Follows w rest) : WordsBefore rest cs [w] := by
  intro position
  refine ⟨[⟨w.1, w.2, position⟩], rfl, ?_⟩
  exact h.tokensFrom_append hf position

theorem wordsBefore_gap (hb : ∀ c ∈ gap, isAsciiBlank c = true)
    (hr : ∀ c ∈ rest.head?, isAsciiBlank c = false) : WordsBefore rest gap [] := by
  intro position
  refine ⟨[], rfl, ?_⟩
  have hmap : (tokensFrom (position + gap.length) 0 rest).map ([] ++ ·) =
      tokensFrom (position + gap.length) 0 rest := by
    cases tokensFrom (position + gap.length) 0 rest <;> rfl
  rw [hmap]
  cases gap with
  | nil => rfl
  | cons b gap => exact tokensFrom_gap (List.cons_ne_nil b gap) hb position hr

/-- A text in parentheses. -/
def enclosed (cs : List Char) : List Char := '(' :: (cs ++ [')'])

theorem spells_open : Spells (opWord "(") ['('] := .op (by decide)

theorem spells_close : Spells (opWord ")") [')'] := .op (by decide)

theorem Enclosable.wordsBefore (h : Enclosable 0 cs ws) (rest : List Char) :
    WordsBefore rest (enclosed cs) (parens ws) := by
  have hopen : WordsBefore (cs ++ ')' :: rest) ['('] [opWord "("] :=
    spells_open.wordsBefore (.inl (by decide))
  have hclose : WordsBefore rest [')'] [opWord ")"] := spells_close.wordsBefore (.inl (by decide))
  have hcs : WordsBefore (')' :: rest) cs ws := fun position => h position rest
  have hfront : WordsBefore (cs ++ [')'] ++ rest) ['('] [opWord "("] := by
    rw [List.append_assoc]
    exact hopen
  have hback : WordsBefore rest (cs ++ [')']) (ws ++ [opWord ")"]) := hcs.append hclose
  exact hfront.append hback

/-- A text with words that derive as a condition is read as that condition. -/
theorem WordsBefore.read_eq (h : WordsBefore [] cs ws) (hw : Derives (.cond .disjunction) ws e) :
    Expr.read cs = .ok e := by
  obtain ⟨ts, rfl, hread⟩ := h 0
  rw [List.append_nil] at hread
  rw [Expr.read, tokens, hread]
  exact hw.ofTokens_eq

/-- Words that spell an operator, with white space around it or none, between parentheses. -/
theorem WordsBefore.operator (hw : Spells w cs) (hk : w.1 = .keyword)
    (hb : ∀ c ∈ gap, isAsciiBlank c = true) {text : List Char}
    (h : WordsBefore rest (enclosed text) ws) :
    WordsBefore rest (cs ++ (gap ++ enclosed text)) (w :: ws) := by
  have hgap : WordsBefore (enclosed text ++ rest) gap [] := wordsBefore_gap hb fun c hc => by
    obtain rfl : '(' = c := Option.some.inj hc
    decide
  have hfollows : Follows w (gap ++ (enclosed text ++ rest)) := by
    cases gap with
    | nil =>
      refine .inr ⟨ends_mark (o := "(") (by decide) (text ++ [')'] ++ rest), fun hn => ?_⟩
      rw [hk] at hn
      cases hn
    | cons b gap => exact follows_gap w (List.cons_ne_nil b gap) hb
  have hright := hgap.append h
  have hleft : WordsBefore (gap ++ enclosed text ++ rest) cs [w] := by
    rw [List.append_assoc]
    exact hw.wordsBefore hfollows
  exact hleft.append hright

theorem derives_joined {op : LogicalOp} (hd : Derives (.cond .disjunction) ws d)
    (he : Derives (.cond .disjunction) ws' e) :
    Derives (.cond .disjunction) (parens ws ++ keywordWord op.text :: parens ws')
      (.logical op [d, e]) := by
  obtain ⟨y, hy, rfl, hshort⟩ := he.parens.ofOperand op.separator.item
  have hmore : Derives (.more op.separator) (keywordWord op.text :: parens ws') [y.meaning] := by
    refine ⟨.item 0 y .noItem, ?_, rfl, ?_⟩
    · rw [← hy]
      cases op <;> simp [LogicalOp.separator, Separator.token, Token.word, keywordToken,
        keywordWord, LogicalOp.text]
    · simpa using hshort
  exact (hd.parens.ofOperand op.separator.item).chain hmore

theorem derives_negated (hd : Derives (.cond .disjunction) ws d) :
    Derives (.cond .disjunction) (keywordWord "not" :: parens ws) (.not d) := by
  obtain ⟨y, hy, rfl, hshort⟩ := hd.parens.ofOperand .negation
  apply Derives.ofConjunction
  apply Derives.ofNegation
  refine ⟨.not 0 y, ?_, rfl, by simpa using hshort⟩
  rw [← hy]
  rfl

/-- Two conditions in parentheses, joined by a spelling of an operator. -/
theorem read_joined {op : LogicalOp} {word : List Char}
    (hw : Spells (keywordWord op.text) word) (hd : Expr.read cs = .ok d)
    (he : Expr.read cs' = .ok e) :
    Expr.read (enclosed cs ++ ' ' :: (word ++ ' ' :: enclosed cs')) = .ok (.logical op [d, e]) := by
  obtain ⟨ws, hws, henc⟩ := exists_enclosable_of_read hd
  obtain ⟨ws', hws', henc'⟩ := exists_enclosable_of_read he
  have hright : WordsBefore [] (word ++ ([' '] ++ enclosed cs'))
      (keywordWord op.text :: parens ws') :=
    (henc'.wordsBefore []).operator hw rfl (by decide)
  have hgap : WordsBefore (word ++ ([' '] ++ enclosed cs') ++ []) [' '] [] :=
    wordsBefore_gap (by decide) fun c hc => by
      rw [List.append_nil] at hc
      obtain ⟨b, word', rfl⟩ := List.exists_cons_of_ne_nil hw.ne_nil
      exact hw.head_isAsciiBlank c hc
  have hall := (henc.wordsBefore _).append (hgap.append hright)
  exact hall.read_eq (derives_joined hws hws')

/-- A condition in parentheses behind a spelling of `not`. -/
theorem read_negated {word : List Char} (hw : Spells (keywordWord "not") word)
    (hb : ∀ c ∈ gap, isAsciiBlank c = true) (hd : Expr.read cs = .ok d) :
    Expr.read (word ++ (gap ++ enclosed cs)) = .ok (.not d) := by
  obtain ⟨ws, hws, henc⟩ := exists_enclosable_of_read hd
  exact ((henc.wordsBefore []).operator hw rfl hb).read_eq (derives_negated hws)

/-! ### Whether a condition holds -/

/-- A lexeme that begins with white space is white space. -/
theorem eq_space_of_lexeme? {l : Lexeme} (hc : isBlank c = true)
    (h : lexeme? (c :: cs) = some (l, n)) : l = .space := by
  have hstarts : ∀ b ∈ blankCodes, (Char.ofNat b).isDigit = false ∧
      ¬(Char.ofNat b = '"' ∨ Char.ofNat b = '\'') ∧ isNameChar (Char.ofNat b) = false ∧
      ∀ o ∈ operators, o ≠ "" ∧ Char.ofNat b ∉ o.toList := by decide +kernel
  obtain ⟨hd, hq, hn, ho⟩ := hstarts _ (mem_blankCodes hc)
  rw [Char.ofNat_toNat] at hd hq hn ho
  have hfind : operators.find? (fun o => o.toList.isPrefixOf (c :: cs)) = none := by
    refine List.find?_eq_none.2 fun o hmem hprefix => ?_
    obtain ⟨hne, hfree⟩ := ho o hmem
    have hchars : o.toList ≠ [] := fun hnil => hne (String.toList_eq_nil_iff.1 hnil)
    obtain ⟨b, bs, hbs⟩ := List.exists_cons_of_ne_nil hchars
    rw [hbs] at hprefix hfree
    obtain ⟨rfl, -⟩ := List.cons_prefix_cons.1 (List.isPrefixOf_iff_prefix.1 hprefix)
    exact hfree List.mem_cons_self
  rw [lexeme?, hd, if_neg hq, hn, hfind] at h
  by_cases hb : isAsciiBlank c = true
  · rw [if_pos hb] at h
    cases h
    rfl
  · rw [if_neg hb] at h
    cases h

theorem tokensFrom_of_blank (hb : ∀ c ∈ cs, isBlank c = true) {position skip : Nat}
    {ts : List Token} (h : tokensFrom position skip cs = .ok ts) :
    ∃ stop, ts = [⟨.eof, "", stop⟩] := by
  induction cs generalizing position skip with
  | nil => exact ⟨position, (Except.ok.inj h).symm⟩
  | cons c cs ih =>
    have hcs : ∀ d ∈ cs, isBlank d = true := fun d hd => hb d (List.mem_cons_of_mem c hd)
    cases skip with
    | succ skip => exact ih hcs h
    | zero =>
      cases hlex : lexeme? (c :: cs) with
      | none => simp [tokensFrom, hlex] at h
      | some x =>
        obtain ⟨l, n⟩ := x
        obtain rfl := eq_space_of_lexeme? (hb c List.mem_cons_self) hlex
        rw [tokensFrom_of_space hlex] at h
        exact ih hcs h

/-- A condition that can be read is not blank. -/
theorem strip_ne_nil_of_read (h : Expr.read cs = .ok e) : strip cs ≠ [] := by
  intro hblank
  rw [Expr.read] at h
  cases htokens : tokens cs with
  | error err => simp [htokens, throw, throwThe, MonadExceptOf.throw] at h
  | ok ts =>
    obtain ⟨stop, rfl⟩ := tokensFrom_of_blank (strip_eq_nil_iff.1 hblank) htokens
    rw [htokens] at h
    cases h

theorem holds_of_read (h : Expr.read s.toList = .ok e) (members : List (String × Value)) :
    holds (some s) members =
      .ok ((eval (.object (context members)) e).toOption.any Value.truth) := by
  have hlimit : ¬TextReachesLimit s.toList := by
    rw [← read_eq_numberTooLong_iff, h]
    nofun
  rw [holds_of_not_blank (strip_ne_nil_of_read h), if_neg hlimit, valueOf?, h]
  rfl

/-- What two truth values come to that `op` joins. -/
def LogicalOp.connect (op : LogicalOp) (b c : Bool) : Bool :=
  match op with
  | .and => b && c
  | .or => b || c

/-- A chain of two holds as its operands say, if the first can be evaluated. -/
theorem truth_logical (values : Value) (op : LogicalOp) (d e : Expr) :
    (eval values (.logical op [d, e])).toOption.any Value.truth =
      match eval values d with
      | .error _ => false
      | .ok v => op.connect v.truth ((eval values e).toOption.any Value.truth) := by
  have hchain : eval values (.logical op [d, e]) = (do
      let v ← eval values d
      if op.decidedBy v then pure v else eval values e) := by
    rw [eval, evalChain, evalChain]
    nofun
  rw [hchain]
  cases eval values d with
  | error err => rfl
  | ok v =>
    cases op <;> cases hv : v.truth <;>
      simp [LogicalOp.decidedBy, LogicalOp.connect, hv, bind, Except.bind, pure, Except.pure,
        Except.toOption]

/-- Two conditions in parentheses around a spelling of an operator. -/
def joined (s word t : String) : String := "(" ++ s ++ ") " ++ word ++ " (" ++ t ++ ")"

theorem toList_joined (s word t : String) :
    (joined s word t).toList =
      enclosed s.toList ++ ' ' :: (word.toList ++ ' ' :: enclosed t.toList) := by
  simp [joined, enclosed, String.toList_append]

/-- A condition in parentheses behind a spelling of `not`. -/
def negated (word s : String) : String := word ++ "(" ++ s ++ ")"

theorem toList_negated (word s : String) :
    (negated word s).toList = word.toList ++ enclosed s.toList := by
  simp [negated, enclosed, String.toList_append]

theorem holds_joined (op : LogicalOp) {word : String}
    (hw : Spells (keywordWord op.text) word.toList) (hs : Expr.read s.toList = .ok d)
    (ht : Expr.read t.toList = .ok e) (members : List (String × Value)) :
    holds (some (joined s word t)) members =
      .ok (match eval (.object (context members)) d with
        | .error _ => false
        | .ok v => op.connect v.truth
            ((eval (.object (context members)) e).toOption.any Value.truth)) := by
  have hread : Expr.read (joined s word t).toList = .ok (.logical op [d, e]) := by
    rw [toList_joined]
    exact read_joined hw hs ht
  rw [holds_of_read hread, truth_logical]

theorem holds_negated {word : String} (front : String) (gap : List Char)
    (hw : Spells (keywordWord "not") front.toList) (hword : word.toList = front.toList ++ gap)
    (hb : ∀ c ∈ gap, isAsciiBlank c = true) (hs : Expr.read s.toList = .ok d)
    (members : List (String × Value)) :
    holds (some (negated word s)) members =
      .ok ((eval (.object (context members)) d).toOption.any fun v => !v.truth) := by
  have hread : Expr.read (negated word s).toList = .ok (.not d) := by
    rw [toList_negated, hword, List.append_assoc]
    exact read_negated hw hb hs
  rw [holds_of_read hread, eval]
  cases eval (.object (context members)) d <;> rfl

theorem spells_and {word : String} (h : word ∈ ["and", "&&"]) :
    Spells (keywordWord LogicalOp.and.text) word.toList := by
  obtain rfl | rfl : word = "and" ∨ word = "&&" := by simpa using h
  · exact .keyword (by decide)
  · exact .otherKeyword (by decide) (by decide)

theorem spells_or {word : String} (h : word ∈ ["or", "||"]) :
    Spells (keywordWord LogicalOp.or.text) word.toList := by
  obtain rfl | rfl : word = "or" ∨ word = "||" := by simpa using h
  · exact .keyword (by decide)
  · exact .otherKeyword (by decide) (by decide)

/-- Conditions put together hold as their parts say: both for `and`; one of the two for `or`, and
the opposite for `not`, where the first part can be evaluated, which `and` need not ask for. -/
theorem holds_composed (hs : Expr.read s.toList = .ok d) (ht : Expr.read t.toList = .ok e)
    (members : List (String × Value)) :
    ∃ b c : Bool, holds (some s) members = .ok b ∧ holds (some t) members = .ok c ∧
      (∀ word ∈ ["and", "&&"], holds (some (joined s word t)) members = .ok (b && c)) ∧
      (∀ word ∈ ["or", "||"], holds (some (joined s word t)) members =
        match eval (.object (context members)) d with
        | .error _ => .ok false
        | .ok _ => .ok (b || c)) ∧
      ∀ word ∈ ["not ", "!"], holds (some (negated word s)) members =
        match eval (.object (context members)) d with
        | .error _ => .ok false
        | .ok _ => .ok (!b) := by
  refine ⟨_, _, holds_of_read hs members, holds_of_read ht members, ?_, ?_, ?_⟩
  · intro word hword
    rw [holds_joined .and (spells_and hword) hs ht]
    cases eval (.object (context members)) d <;> rfl
  · intro word hword
    rw [holds_joined .or (spells_or hword) hs ht]
    cases eval (.object (context members)) d <;> rfl
  · intro word hword
    have hnot : holds (some (negated word s)) members =
        .ok ((eval (.object (context members)) d).toOption.any fun v => !v.truth) := by
      obtain rfl | rfl : word = "not " ∨ word = "!" := by simpa using hword
      · exact holds_negated "not" [' '] (.keyword (by decide)) rfl (by decide) hs members
      · exact holds_negated "!" [] (.otherKeyword (by decide) (by decide)) rfl (by decide) hs
          members
    rw [hnot]
    cases eval (.object (context members)) d <;> rfl

/-- A comparison of a field with a text. -/
def before : Expr := .compare (.order .lt) (.field ["b"]) (.literal (.text "x"))

theorem isFieldName_a : IsFieldName "a" := ⟨⟨by decide, by decide⟩, by decide⟩

theorem isFieldName_b : IsFieldName "b" := ⟨⟨by decide, by decide⟩, by decide⟩

theorem read_before : Expr.read "(b) < ('x')".toList = .ok before := by
  have hquotes : Quotes '\'' "x".toList "x".toList := .plain (by decide) (by decide) .nil
  have hlt : Spells (.op, "<") "<".toList := .op (by decide)
  have hspaced : Spaced before.words "(b) < ('x')".toList :=
    .touch spells_open (by decide) (.touch (.name isFieldName_b) (by decide)
      (.space spells_close (.space hlt (.touch spells_open (by decide)
        (.touch (.string (.inr rfl) hquotes) (by decide) (.last spells_close))))))
  exact read_of_spells (.compare (.field (List.forall_mem_singleton.2 isFieldName_b)) (.text "x"))
    (.inl hspaced)

theorem read_a : Expr.read "a".toList = .ok (.field ["a"]) :=
  read_of_spells (.field (List.forall_mem_singleton.2 isFieldName_a))
    (.inl (.last (.name isFieldName_a)))

/-- A part that cannot be evaluated matters in front of `or` and under `not`, not behind `or`. -/
theorem holds_composed_before :
    let members := [("a", Value.bool true), ("b", Value.int 1)]
    Expr.read "(b) < ('x')".toList = .ok before ∧ Expr.read "a".toList = .ok (.field ["a"]) ∧
      holds (some "((b) < ('x')) or (a)") members = .ok false ∧
      holds (some "(a) || ((b) < ('x'))") members = .ok true ∧
      holds (some "!((b) < ('x'))") members = .ok false := by
  intro members
  obtain ⟨_, _, -, -, -, hor, hnot⟩ := holds_composed read_before read_a members
  obtain ⟨b, c, hab, -, -, hor', -⟩ := holds_composed read_a read_before members
  have ha : holds (some "a") members = .ok true := holds_of_read read_a members
  obtain rfl : true = b := Except.ok.inj (ha.symm.trans hab)
  exact ⟨read_before, read_a, hor "or" (by decide), hor' "||" (by decide), hnot "!" (by decide)⟩

end Formwork.Visibility
