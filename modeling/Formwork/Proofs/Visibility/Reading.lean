import Formwork.Proofs.Visibility.Grammar

/-!
Reading conditions. The reader accepts a list of tokens exactly if the tokens before its end are the
yield of a derivation, and then it answers with what the derivation means; otherwise it finds
something else than the grammar asks for. A whole number that is too long is the only other error.
-/
namespace Formwork.Visibility

/-! ### The readers, phrase by phrase -/

/-- Reads what may follow the first operand of a comparison. -/
def predicate (fuel : Nat) (ts : List Token) : Except ParseError ((Expr → Expr) × List Token) :=
  match compareOp? (peek ts) with
  | some op => do
    let (right, ts) ← operand fuel (advance ts)
    pure (fun left => .compare op left right, ts)
  | none =>
    if comes .keyword "is" ts then do
      let negated := comes .keyword "not" (advance ts)
      let ts ← need .keyword "null" (if negated then advance (advance ts) else advance ts)
      pure (fun left => .isNull left negated, ts)
    else if comes .keyword "not" ts && comes .keyword "in" (advance ts) then do
      let (items, ts) ← list fuel (advance (advance ts))
      pure (fun left => .member left items true, ts)
    else if comes .keyword "in" ts then do
      let (items, ts) ← list fuel (advance ts)
      pure (fun left => .member left items false, ts)
    else pure (fun left => left, ts)

theorem comparison_succ (fuel : Nat) (ts : List Token) :
    comparison (fuel + 1) ts = (do
      let (left, ts) ← operand fuel ts
      let (f, ts) ← predicate fuel ts
      pure (f left, ts)) := by
  rw [comparison]
  congr 1
  funext ⟨left, ts⟩
  simp only [predicate]
  cases compareOp? (peek ts) with
  | some op =>
    dsimp only
    cases operand fuel (advance ts) <;> rfl
  | none =>
    dsimp only
    split
    · cases need .keyword "null"
        (if comes .keyword "not" (advance ts) then advance (advance ts) else advance ts) <;> rfl
    · split
      · cases list fuel (advance (advance ts)) <;> rfl
      · split
        · cases list fuel (advance ts) <;> rfl
        · rfl

def Level.read : Level → Nat → List Token → Except ParseError (Expr × List Token)
  | .disjunction => Visibility.disjunction
  | .conjunction => Visibility.conjunction
  | .negation => Visibility.negation
  | .comparison => Visibility.comparison
  | .operand => Visibility.operand

def Separator.readMore : Separator → Nat → List Token → Except ParseError (List Expr × List Token)
  | .or => moreConjunctions
  | .and => moreNegations
  | .comma => moreItems

/-- The reader of a phrase. -/
def Phrase.read : (p : Phrase) → Nat → List Token → Except ParseError (p.Meaning × List Token)
  | .cond l => l.read
  | .more s => s.readMore
  | .predicate => Visibility.predicate
  | .names => pathTail
  | .list => Visibility.list

def Separator.comes (s : Separator) (ts : List Token) : Bool :=
  (peek ts).is (s.token 0).kind (s.token 0).value

theorem Separator.readMore_succ (s : Separator) (fuel : Nat) (ts : List Token) :
    s.readMore (fuel + 1) ts = (do
      if s.comes ts then
        let (e, ts) ← s.item.read fuel (advance ts)
        let (es, ts) ← s.readMore fuel ts
        pure (e :: es, ts)
      else .ok ([], ts)) := by
  cases s with
  | or | and | comma => rfl

/-! ### Errors -/

/-- Whether a token is a whole number that is too long to be read. -/
def Token.TooLong (t : Token) : Prop :=
  t.kind = .number ∧ '.' ∉ t.value.toList ∧ 4300 < t.value.length

/-- Something else was found than the grammar asks for. -/
def ParseError.IsMismatch : ParseError → Prop
  | .expected _ _ | .trailing _ | .unexpected _ => True
  | .token _ | .numberTooLong => False

/-- The tokens before the end. -/
def beforeEnd (ts : List Token) : List Token := ts.takeWhile (·.kind != .eof)

/-- An error that some tokens give cause for. -/
def ParseError.Explained (ts : List Token) (e : ParseError) : Prop :=
  e.IsMismatch ∨ e = .numberTooLong ∧ ∃ t ∈ beforeEnd ts, t.TooLong

/-- An outcome of reading tokens: what is read is good, or the tokens explain the error. -/
def Outcome {α : Type} (ts : List Token) (good : α → Prop) : Except ParseError α → Prop
  | .ok a => good a
  | .error e => e.Explained ts

variable {α β : Type} {ts us : List Token} {good : α → Prop} {good' : β → Prop}

theorem Outcome.bind {x : Except ParseError α} {f : α → Except ParseError β}
    (hx : Outcome ts good x) (hf : ∀ a, good a → Outcome ts good' (f a)) :
    Outcome ts good' (x >>= f) := by
  cases x with
  | ok a => exact hf a hx
  | error e => exact hx

theorem Outcome.imp {good' : α → Prop} {x : Except ParseError α} (hx : Outcome ts good x)
    (h : ∀ a, good a → good' a) : Outcome ts good' x := by
  cases x with
  | ok a => exact h a hx
  | error e => exact hx

theorem beforeEnd_append (hts : ∀ t ∈ ts, t.kind ≠ .eof) :
    beforeEnd (ts ++ us) = ts ++ beforeEnd us :=
  List.takeWhile_append_of_pos fun t ht => by simpa using hts t ht

/-- What explains an error still does with more tokens in front. -/
theorem Outcome.append (hts : ∀ t ∈ ts, t.kind ≠ .eof) {x : Except ParseError α}
    (hx : Outcome us good x) : Outcome (ts ++ us) good x := by
  cases x with
  | ok a => exact hx
  | error e =>
    rcases hx with hm | ⟨he, t, ht, hl⟩
    · exact .inl hm
    · refine .inr ⟨he, t, ?_, hl⟩
      rw [beforeEnd_append hts]
      exact List.mem_append_right ts ht

theorem Outcome.cons {kind : TokenKind} {value : String} {i : Nat} {x : Except ParseError α}
    (hx : Outcome us good x) (hk : kind ≠ .eof := by decide) :
    Outcome (⟨kind, value, i⟩ :: us) good x := by
  have ht : ∀ t ∈ [(⟨kind, value, i⟩ : Token)], t.kind ≠ .eof := by simpa using hk
  exact hx.append ht

theorem Outcome.cons_separator {s : Separator} {i : Nat} {x : Except ParseError α}
    (hx : Outcome us good x) : Outcome (s.token i :: us) good x := by
  cases s <;> exact hx.cons

theorem Outcome.mismatch {e : ParseError} (he : e.IsMismatch) : Outcome ts good (.error e) := .inl he

/-! ### Single tokens -/

variable {kind : TokenKind} {value : String}

theorem advance_cons {t : Token} (ht : t.kind ≠ .eof) : advance (t :: ts) = ts := if_neg ht

/-- A token of a kind other than the end is there to be taken. -/
theorem exists_of_kind (h : (peek ts).kind = kind) (hk : kind ≠ .eof) :
    ∃ value i, ts = ⟨kind, value, i⟩ :: advance ts := by
  cases ts with
  | nil => exact absurd h.symm hk
  | cons t ts =>
    obtain ⟨k, value, i⟩ := t
    obtain rfl : k = kind := h
    exact ⟨value, i, by rw [advance_cons hk]⟩

theorem exists_of_comes (h : comes kind value ts = true) (hk : kind ≠ .eof := by decide) :
    ∃ i, ts = ⟨kind, value, i⟩ :: advance ts := by
  simp only [comes, Token.is, Bool.and_eq_true, beq_iff_eq] at h
  obtain ⟨v, i, hts⟩ := exists_of_kind h.1 hk
  have hv := h.2
  rw [hts] at hv
  obtain rfl : v = value := hv
  exact ⟨i, hts⟩

theorem Separator.exists_of_comes {s : Separator} (h : s.comes ts = true) :
    ∃ i, ts = s.token i :: advance ts := by
  cases s <;> exact Visibility.exists_of_comes h

theorem exists_of_compareOp? {op : CompareOp} (h : compareOp? (peek ts) = some op) :
    ∃ i, ts = opToken op.text i :: advance ts := by
  rw [compareOp?] at h
  split at h
  · next hk =>
    obtain ⟨v, i, hts⟩ := exists_of_kind hk (by decide)
    have hv := List.find?_some h
    rw [hts] at hv
    exact ⟨i, by rw [opToken, eq_of_beq hv]; exact hts⟩
  · cases h

theorem outcome_need (hk : kind ≠ .eof) :
    Outcome ts (fun rest => ∃ i, ts = ⟨kind, value, i⟩ :: rest) (need kind value ts) := by
  rw [need]
  split
  · next h => exact exists_of_comes h hk
  · exact .mismatch trivial

theorem outcome_needKind (hk : kind ≠ .eof) :
    Outcome ts (fun x => ∃ i, ts = ⟨kind, x.1, i⟩ :: x.2) (needKind kind ts) := by
  rw [needKind]
  split
  · next h =>
    obtain ⟨v, i, hts⟩ := exists_of_kind h hk
    refine ⟨i, ?_⟩
    rw [hts, advance_cons (t := ⟨kind, v, i⟩) hk]
    rfl
  · exact .mismatch trivial

theorem numberValue_eq (negative : Bool) (text : String) (i : Nat) :
    numberValue negative text = .ok (numeral negative text) ∨
      numberValue negative text = .error .numberTooLong ∧ Token.TooLong ⟨.number, text, i⟩ := by
  simp only [numberValue, numeral]
  by_cases hp : text.toList.contains '.' = true
  · exact .inl (by rw [if_pos hp, if_pos hp])
  · by_cases hl : 4300 < text.toList.length
    · refine .inr ⟨by rw [if_neg hp, if_pos hl], rfl, ?_, ?_⟩
      · simpa using hp
      · rwa [String.length_toList] at hl
    · exact .inl (by rw [if_neg hp, if_neg hl, if_neg hp])

theorem outcome_numberValue (negative : Bool) (text : String) (i : Nat) :
    Outcome (⟨.number, text, i⟩ :: ts) (· = numeral negative text)
      (numberValue negative text) := by
  rcases numberValue_eq negative text i with h | ⟨h, hl⟩
  · rw [h]
    exact rfl
  · rw [h]
    exact .inr ⟨rfl, _, List.mem_cons_self, hl⟩

/-! ### What is read is derived -/

theorem Derivation.kind_ne_eof {p : Phrase} (d : Derivation p) : ∀ t ∈ d.yield, t.kind ≠ .eof := by
  induction d with
  | @item s i next more ihn ihm =>
    have hs : (s.token i).kind ≠ .eof := by cases s <;> nofun
    simpa [yield, or_imp, forall_and, hs] using ⟨ihn, ihm⟩
  | _ => simp_all [yield, keywordToken, opToken, or_imp]

/-- What the reader of a phrase finds in front of some tokens, and the tokens after it. -/
def Phrase.Reads (p : Phrase) (ts : List Token) (x : p.Meaning × List Token) : Prop :=
  ∃ d : Derivation p, d.yield ++ x.2 = ts ∧ d.meaning = x.1

theorem Outcome.bind_reads {p : Phrase} {x : Except ParseError (p.Meaning × List Token)}
    {f : p.Meaning × List Token → Except ParseError β} (hx : Outcome ts (p.Reads ts) x)
    (hf : ∀ (d : Derivation p) rest, d.yield ++ rest = ts →
      Outcome rest good' (f (d.meaning, rest))) : Outcome ts good' (x >>= f) := by
  refine hx.bind ?_
  rintro ⟨m, rest⟩ ⟨d, rfl, rfl⟩
  exact (hf d rest rfl).append d.kind_ne_eof

theorem Outcome.bind_need {f : List Token → Except ParseError β}
    (hf : ∀ i rest, ts = ⟨kind, value, i⟩ :: rest → Outcome rest good' (f rest))
    (hk : kind ≠ .eof := by decide) : Outcome ts good' (need kind value ts >>= f) := by
  refine (outcome_need hk).bind ?_
  rintro rest ⟨i, rfl⟩
  exact (hf i rest rfl).cons hk

theorem Outcome.bind_needKind {f : String × List Token → Except ParseError β}
    (hf : ∀ text i rest, ts = ⟨kind, text, i⟩ :: rest → Outcome ts good' (f (text, rest)))
    (hk : kind ≠ .eof := by decide) : Outcome ts good' (needKind kind ts >>= f) := by
  refine (outcome_needKind hk).bind ?_
  rintro ⟨text, rest⟩ ⟨i, hts⟩
  exact hf text i rest hts

theorem outcome_pathTail (fuel : Nat) (ts : List Token) :
    Outcome ts (Phrase.names.Reads ts) (pathTail fuel ts) := by
  induction fuel generalizing ts with
  | zero => exact ⟨.noName, rfl, rfl⟩
  | succ fuel ih =>
    rw [pathTail]
    split
    · next h =>
      obtain ⟨i, hts⟩ := exists_of_comes h
      generalize advance ts = us at hts ⊢
      subst hts
      refine .cons (.bind_needKind ?_)
      rintro name j us rfl
      refine .cons (.bind_reads (p := .names) (ih us) ?_)
      rintro more rest rfl
      exact ⟨.dotName i name j more, rfl, rfl⟩
    · exact ⟨.noName, rfl, rfl⟩

/-- Reading what may follow an operand, with readers of operands and lists that can be relied on. -/
theorem outcome_predicate {fuel : Nat}
    (ho : ∀ ts, Outcome ts ((Phrase.cond .operand).Reads ts) (operand fuel ts))
    (hl : ∀ ts, Outcome ts (Phrase.list.Reads ts) (list fuel ts)) (ts : List Token) :
    Outcome ts (Phrase.predicate.Reads ts) (predicate fuel ts) := by
  rw [predicate]
  cases hop : compareOp? (peek ts) with
  | some op =>
    obtain ⟨i, hts⟩ := exists_of_compareOp? hop
    generalize advance ts = us at hts ⊢
    subst hts
    refine .cons (.bind_reads (p := .cond .operand) (ho us) ?_)
    rintro right rest rfl
    exact ⟨.compare op i right, rfl, rfl⟩
  | none =>
    dsimp only
    split
    · next h =>
      obtain ⟨i, hts⟩ := exists_of_comes h
      generalize advance ts = us at hts ⊢
      subst hts
      cases hn : comes .keyword "not" us with
      | true =>
        obtain ⟨j, hus⟩ := exists_of_comes hn
        generalize advance us = vs at hus ⊢
        subst hus
        refine .cons (.cons (.bind_need ?_))
        rintro k rest rfl
        exact ⟨.isNotNull i j k, rfl, rfl⟩
      | false =>
        refine .cons (.bind_need ?_)
        rintro j rest rfl
        exact ⟨.isNull i j, rfl, rfl⟩
    · split
      · next h =>
        rw [Bool.and_eq_true] at h
        obtain ⟨i, hts⟩ := exists_of_comes h.1
        obtain ⟨j, hus⟩ := exists_of_comes h.2
        generalize advance (advance ts) = vs at hus ⊢
        rw [hus] at hts
        subst hts
        refine .cons (.cons (.bind_reads (p := .list) (hl vs) ?_))
        rintro items rest rfl
        exact ⟨.notMember i j items, rfl, rfl⟩
      · split
        · next h =>
          obtain ⟨i, hts⟩ := exists_of_comes h
          generalize advance ts = us at hts ⊢
          subst hts
          refine .cons (.bind_reads (p := .list) (hl us) ?_)
          rintro items rest rfl
          exact ⟨.member i items, rfl, rfl⟩
        · exact ⟨.noPredicate, rfl, rfl⟩

theorem outcome_operand {fuel : Nat}
    (hd : ∀ ts, Outcome ts ((Phrase.cond .disjunction).Reads ts) (disjunction fuel ts))
    (ts : List Token) :
    Outcome ts ((Phrase.cond .operand).Reads ts) (operand (fuel + 1) ts) := by
  rw [operand]
  dsimp only
  cases hk : (peek ts).kind with
  | op =>
    obtain ⟨v, i, hts⟩ := exists_of_kind hk (by decide)
    generalize advance ts = us at hts ⊢
    subst hts
    by_cases hopen : v = "("
    · subst hopen
      refine .cons (.bind_reads (p := .cond .disjunction) (hd us) ?_)
      rintro inner rest rfl
      refine .bind_need ?_
      rintro j rest rfl
      exact ⟨.parentheses i inner j, by simp [Derivation.yield, opToken], rfl⟩
    · rw [peek_cons, if_neg hopen]
      by_cases hminus : v = "-"
      · subst hminus
        refine .cons (.bind_needKind ?_)
        rintro text j rest rfl
        refine (outcome_numberValue true text j).bind ?_
        rintro n rfl
        exact ⟨.negative i text j, rfl, rfl⟩
      · rw [if_neg hminus]
        exact .mismatch trivial
  | number =>
    obtain ⟨text, i, hts⟩ := exists_of_kind hk (by decide)
    generalize advance ts = us at hts ⊢
    subst hts
    refine (outcome_numberValue false text i).bind ?_
    rintro n rfl
    exact ⟨.number text i, rfl, rfl⟩
  | string =>
    obtain ⟨text, i, hts⟩ := exists_of_kind hk (by decide)
    generalize advance ts = us at hts ⊢
    subst hts
    exact ⟨.string text i, rfl, rfl⟩
  | keyword =>
    obtain ⟨word, i, hts⟩ := exists_of_kind hk (by decide)
    generalize advance ts = us at hts ⊢
    subst hts
    dsimp only [peek_cons]
    cases hc : constant? word with
    | none => exact .mismatch trivial
    | some v =>
      simp only [constant?] at hc
      split at hc
      · cases hc
        exact ⟨.truth true i, rfl, rfl⟩
      · cases hc
        exact ⟨.truth false i, rfl, rfl⟩
      · cases hc
        exact ⟨.null i, rfl, rfl⟩
      · cases hc
  | name =>
    obtain ⟨name, i, hts⟩ := exists_of_kind hk (by decide)
    generalize advance ts = us at hts ⊢
    subst hts
    refine .cons (.bind_reads (p := .names) (outcome_pathTail us.length us) ?_)
    rintro more rest rfl
    exact ⟨.field name i more, rfl, rfl⟩
  | eof => exact .mismatch trivial

theorem outcome_list {fuel : Nat}
    (ih : ∀ (p : Phrase) ts, Outcome ts (p.Reads ts) (p.read fuel ts)) (ts : List Token) :
    Outcome ts (Phrase.list.Reads ts) (list (fuel + 1) ts) := by
  rw [list]
  refine .bind_need ?_
  rintro i us rfl
  split
  · next h =>
    obtain ⟨j, hus⟩ := exists_of_comes h
    exact ⟨.emptyList i j, congrArg _ hus.symm, rfl⟩
  · refine .bind_reads (p := .cond .disjunction) (ih _ us) ?_
    rintro first rest rfl
    refine .bind_reads (p := .more .comma) (ih _ rest) ?_
    rintro more rest rfl
    refine .bind_need ?_
    rintro j rest rfl
    exact ⟨.list i first more j, by simp [Derivation.yield, opToken], rfl⟩

/-- Whatever the reader of a phrase is given, it finds such a phrase or an error with a cause. -/
theorem outcome_read (fuel : Nat) (p : Phrase) (ts : List Token) :
    Outcome ts (p.Reads ts) (p.read fuel ts) := by
  induction fuel generalizing p ts with
  | zero =>
    have hnone {p : Phrase} (us : List Token) :
        Outcome us (p.Reads us) (.error (.unexpected (peek us))) := .mismatch trivial
    cases p with
    | cond l => cases l <;> exact hnone ts
    | more s => cases s <;> exact hnone ts
    | predicate => exact outcome_predicate hnone hnone ts
    | names => exact outcome_pathTail 0 ts
    | list => exact hnone ts
  | succ fuel ih =>
    cases p with
    | cond l =>
      cases l with
      | disjunction =>
        refine .bind_reads (p := .cond .conjunction) (ih _ ts) ?_
        rintro first rest rfl
        refine .bind_reads (p := .more .or) (ih _ rest) ?_
        rintro more rest rfl
        exact ⟨.disjunction first more, List.append_assoc .., rfl⟩
      | conjunction =>
        refine .bind_reads (p := .cond .negation) (ih _ ts) ?_
        rintro first rest rfl
        refine .bind_reads (p := .more .and) (ih _ rest) ?_
        rintro more rest rfl
        exact ⟨.conjunction first more, List.append_assoc .., rfl⟩
      | negation =>
        rw [Phrase.read, Level.read, negation]
        split
        · next h =>
          obtain ⟨i, hts⟩ := exists_of_comes h
          generalize advance ts = us at hts ⊢
          subst hts
          refine .cons (.bind_reads (p := .cond .negation) (ih _ us) ?_)
          rintro inner rest rfl
          exact ⟨.not i inner, rfl, rfl⟩
        · exact Outcome.imp (ih (.cond .comparison) ts) fun _ ⟨d, hy, hm⟩ => ⟨.plain d, hy, hm⟩
      | comparison =>
        rw [Phrase.read, Level.read, comparison_succ]
        refine .bind_reads (p := .cond .operand) (ih _ ts) ?_
        rintro first rest rfl
        refine .bind_reads (p := .predicate) (ih _ rest) ?_
        rintro more rest rfl
        exact ⟨.comparison first more, List.append_assoc .., rfl⟩
      | operand => exact outcome_operand (ih (.cond .disjunction)) ts
    | more s =>
      rw [Phrase.read, s.readMore_succ]
      split
      · next h =>
        obtain ⟨i, hts⟩ := s.exists_of_comes h
        generalize advance ts = us at hts ⊢
        subst hts
        refine .cons_separator (.bind_reads (p := .cond s.item) (ih _ us) ?_)
        rintro next rest rfl
        refine .bind_reads (p := .more s) (ih _ rest) ?_
        rintro more rest rfl
        exact ⟨.item i next more, congrArg _ (List.append_assoc ..), rfl⟩
      · exact ⟨.noItem, rfl, rfl⟩
    | predicate =>
      exact outcome_predicate (outcome_operand (ih (.cond .disjunction))) (outcome_list ih) ts
    | names => exact outcome_pathTail (fuel + 1) ts
    | list => exact outcome_list ih ts

/-! ### What is derived is read -/

theorem need_cons (i : Nat) (hk : kind ≠ .eof := by decide) :
    need kind value (⟨kind, value, i⟩ :: ts) = .ok ts := by
  have hc : comes kind value (⟨kind, value, i⟩ :: ts) = true := by simp [comes, Token.is]
  rw [need, if_pos hc, advance_cons hk]

theorem needKind_cons (i : Nat) (hk : kind ≠ .eof := by decide) :
    needKind kind (⟨kind, value, i⟩ :: ts) = .ok (value, ts) := by
  rw [needKind, peek_cons, if_pos rfl, advance_cons hk]

theorem numberValue_of_not_tooLong {negative : Bool} {text : String} {i : Nat}
    (h : ¬Token.TooLong ⟨.number, text, i⟩) :
    numberValue negative text = .ok (numeral negative text) :=
  (numberValue_eq negative text i).resolve_right fun hl => h hl.2

theorem Token.not_is_of_opensOperand {t : Token} (h : t.opensOperand = true) :
    t.is .keyword "not" = false := by
  cases hn : t.is .keyword "not" with
  | false => rfl
  | true =>
    simp only [is, Bool.and_eq_true, beq_iff_eq] at hn
    rw [opensOperand, hn.1, hn.2] at h
    exact absurd h (by decide)

theorem Level.not_is_of_opensWith {l : Level} {t : Token} (h : l.opensWith t = true) :
    t.is .op "]" = false := by
  cases ht : t.is .op "]" with
  | false => rfl
  | true =>
    simp only [Token.is, Bool.and_eq_true, beq_iff_eq] at ht
    cases l <;> simp [opensWith, Token.opensOperand, Token.is, ht.1, ht.2] at h

theorem Separator.comes_token (s : Separator) (i : Nat) : s.comes (s.token i :: ts) = true := by
  cases s <;> rfl

theorem Separator.advance_token (s : Separator) (i : Nat) : advance (s.token i :: ts) = ts := by
  cases s <;> rfl

theorem Separator.not_comes {s : Separator} (h : (Phrase.more s).endsBefore (peek ts) = true) :
    s.comes ts = false := by
  cases s <;> exact Bool.not_eq_true' _ ▸ (Bool.and_eq_true_iff.1 h).2

theorem predicate_of_endsComparison {fuel : Nat} (h : (peek ts).endsComparison = true) :
    predicate fuel ts = .ok (fun left => left, ts) := by
  simp only [Token.endsComparison, Bool.and_eq_true, Bool.not_eq_true', Option.isNone_iff_eq_none]
    at h
  obtain ⟨⟨⟨⟨-, hc⟩, hs⟩, hi⟩, hn⟩ := h
  simp only [predicate, comes, hc, hs, hi, hn, Bool.false_and, Bool.false_eq_true, if_false]
  rfl

/-- The fuel that is enough to read a phrase of some number of tokens. -/
def Phrase.fuel (n : Nat) : Phrase → Nat
  | .cond .disjunction => 8 * n + 5
  | .cond .conjunction => 8 * n + 4
  | .cond .negation => 8 * n + 3
  | .cond .comparison => 8 * n + 2
  | .cond .operand | .more _ | .list => 8 * n + 1
  | .predicate => 8 * n
  | .names => n

theorem Phrase.exists_of_fuel_le {p : Phrase} {n fuel : Nat} (hf : p.fuel n ≤ fuel)
    (hp : 0 < p.fuel n := by exact Nat.succ_pos _) : ∃ k, fuel = k + 1 :=
  Nat.exists_eq_add_one.2 (Nat.lt_of_lt_of_le hp hf)

theorem bind_of_eq_ok {x : Except ParseError α} {a : α} {f : α → Except ParseError β}
    (h : x = .ok a) : (x >>= f) = f a := by
  rw [h]
  rfl

namespace Derivation

variable {p : Phrase}

/-- The reader of a phrase finds what is derived in front of tokens that it cannot go on with. -/
theorem read_yield_append (d : Derivation p) {fuel : Nat} {rest : List Token}
    (hf : p.fuel d.yield.length ≤ fuel) (he : p.endsBefore (peek rest) = true)
    (hl : ∀ t ∈ d.yield, ¬t.TooLong) : p.read fuel (d.yield ++ rest) = .ok (d.meaning, rest) := by
  induction d generalizing fuel rest with
  | disjunction first more ihf ihm | conjunction first more ihf ihm =>
    obtain ⟨fuel, rfl⟩ := Phrase.exists_of_fuel_le hf
    rw [yield, List.forall_mem_append] at hl
    simp only [yield, List.length_append, Phrase.fuel] at hf ihf ihm
    rw [yield, List.append_assoc]
    have hfirst := ihf (by omega : _ ≤ fuel) (more.endsBefore_more he) hl.1
    have hmore := ihm (by omega : _ ≤ fuel) he hl.2
    exact (bind_of_eq_ok hfirst).trans (bind_of_eq_ok hmore)
  | not i inner ih =>
    obtain ⟨fuel, rfl⟩ := Phrase.exists_of_fuel_le hf
    rw [yield, List.forall_mem_cons] at hl
    simp only [yield, List.length_cons, Phrase.fuel] at hf ih
    exact bind_of_eq_ok (ih (by omega : _ ≤ fuel) he hl.2)
  | plain inner ih =>
    obtain ⟨fuel, rfl⟩ := Phrase.exists_of_fuel_le hf
    simp only [yield, Phrase.fuel] at hf ih
    have hn : comes .keyword "not" (inner.yield ++ rest) = false :=
      Token.not_is_of_opensOperand (inner.opensWith_peek rest)
    rw [Phrase.read, Level.read, negation, yield, hn]
    exact ih (by omega : _ ≤ fuel) he hl
  | comparison first more ihf ihm =>
    obtain ⟨fuel, rfl⟩ := Phrase.exists_of_fuel_le hf
    rw [yield, List.forall_mem_append] at hl
    simp only [yield, List.length_append, Phrase.fuel] at hf ihf ihm
    rw [Phrase.read, Level.read, comparison_succ, yield, List.append_assoc]
    have hfirst := ihf (by omega : _ ≤ fuel) (more.endsOperand_predicate he) hl.1
    have hmore := ihm (by omega : _ ≤ fuel) he hl.2
    exact (bind_of_eq_ok hfirst).trans (bind_of_eq_ok hmore)
  | parentheses i inner j ih =>
    obtain ⟨fuel, rfl⟩ := Phrase.exists_of_fuel_le hf
    rw [yield, List.forall_mem_cons, List.forall_mem_append] at hl
    simp only [yield, List.length_cons, List.length_append, Phrase.fuel] at hf ih
    rw [yield, List.cons_append, List.append_assoc]
    have hinner : Visibility.disjunction fuel (inner.yield ++ opToken ")" j :: rest) =
        .ok (inner.meaning, opToken ")" j :: rest) := ih (by omega) rfl hl.2.1
    exact (bind_of_eq_ok hinner).trans (bind_of_eq_ok (need_cons j))
  | number text i =>
    obtain ⟨fuel, rfl⟩ := Phrase.exists_of_fuel_le hf
    exact bind_of_eq_ok (numberValue_of_not_tooLong (hl _ (.head _)))
  | negative i text j =>
    obtain ⟨fuel, rfl⟩ := Phrase.exists_of_fuel_le hf
    have hn : numberValue true text = .ok (numeral true text) :=
      numberValue_of_not_tooLong (hl ⟨.number, text, j⟩ (.tail _ (.head _)))
    exact (bind_of_eq_ok (needKind_cons j)).trans (bind_of_eq_ok hn)
  | string | null =>
    obtain ⟨fuel, rfl⟩ := Phrase.exists_of_fuel_le hf
    rfl
  | truth value i =>
    obtain ⟨fuel, rfl⟩ := Phrase.exists_of_fuel_le hf
    cases value <;> rfl
  | field name i more ih =>
    obtain ⟨fuel, rfl⟩ := Phrase.exists_of_fuel_le hf
    rw [yield, List.forall_mem_cons] at hl
    have hm : more.yield.length ≤ (more.yield ++ rest).length := by simp
    exact bind_of_eq_ok (ih hm he hl.2)
  | @noItem s =>
    obtain ⟨fuel, rfl⟩ := Phrase.exists_of_fuel_le hf
    rw [Phrase.read, s.readMore_succ, yield, List.nil_append, Separator.not_comes he]
    rfl
  | @item s i next more ihn ihm =>
    obtain ⟨fuel, rfl⟩ := Phrase.exists_of_fuel_le hf
    rw [yield, List.forall_mem_cons, List.forall_mem_append] at hl
    simp only [yield, List.length_cons, List.length_append] at hf
    have hn : (Phrase.cond s.item).fuel next.yield.length ≤ fuel := by
      cases s <;> simp only [Separator.item, Phrase.fuel] at hf ⊢ <;> omega
    have hm : (Phrase.more s).fuel more.yield.length ≤ fuel := by
      simp only [Phrase.fuel] at hf ⊢
      omega
    have hnext := ihn hn (more.endsBefore_more he) hl.2.1
    have hmore := ihm hm he hl.2.2
    rw [Phrase.read, s.readMore_succ, yield, List.cons_append, List.append_assoc, s.comes_token,
      s.advance_token]
    exact (bind_of_eq_ok hnext).trans (bind_of_eq_ok hmore)
  | noPredicate => exact predicate_of_endsComparison he
  | compare op i right ih =>
    rw [yield, List.forall_mem_cons] at hl
    simp only [yield, List.length_cons, Phrase.fuel] at hf ih
    have hright := ih (by omega : _ ≤ fuel) (Token.endsOperand_of_endsComparison he) hl.2
    rw [Phrase.read, predicate, yield, List.cons_append, peek_cons, compareOp?_opToken]
    exact bind_of_eq_ok hright
  | member i items ih =>
    rw [yield, List.forall_mem_cons] at hl
    simp only [yield, List.length_cons, Phrase.fuel] at hf ih
    exact bind_of_eq_ok (ih (by omega : _ ≤ fuel) rfl hl.2)
  | notMember i j items ih =>
    rw [yield, List.forall_mem_cons, List.forall_mem_cons] at hl
    simp only [yield, List.length_cons, Phrase.fuel] at hf ih
    exact bind_of_eq_ok (ih (by omega : _ ≤ fuel) rfl hl.2.2)
  | isNull i j | isNotNull i j k => rfl
  | noName =>
    have hd : comes .op "." rest = false := Bool.not_eq_true' _ ▸ he
    cases fuel with
    | zero => rfl
    | succ fuel => rw [Phrase.read, pathTail, yield, List.nil_append, hd]; rfl
  | dotName i name j more ih =>
    obtain ⟨fuel, rfl⟩ := Phrase.exists_of_fuel_le hf
    rw [yield, List.forall_mem_cons, List.forall_mem_cons] at hl
    simp only [yield, List.length_cons, Phrase.fuel] at hf ih
    have hmore := ih (by omega : _ ≤ fuel) he hl.2.2
    exact (bind_of_eq_ok (needKind_cons j)).trans (bind_of_eq_ok hmore)
  | emptyList i j =>
    obtain ⟨fuel, rfl⟩ := Phrase.exists_of_fuel_le hf
    rfl
  | list i first more j ihf ihm =>
    obtain ⟨fuel, rfl⟩ := Phrase.exists_of_fuel_le hf
    rw [yield, List.forall_mem_cons, List.forall_mem_append, List.forall_mem_append] at hl
    simp only [yield, List.length_cons, List.length_append, Phrase.fuel] at hf ihf ihm
    have hmore : moreItems fuel (more.yield ++ opToken "]" j :: rest) =
        .ok (more.meaning, opToken "]" j :: rest) := ihm (by omega) rfl hl.2.2.1
    have hends : Token.endsDisjunction (peek (more.yield ++ opToken "]" j :: rest)) = true :=
      more.endsBefore_more rfl
    have hfirst := ihf (by omega : _ ≤ fuel) hends hl.2.1
    have hopen : comes .op "]" (first.yield ++ (more.yield ++ opToken "]" j :: rest)) = false :=
      Level.not_is_of_opensWith (first.opensWith_peek _)
    rw [Phrase.read, Visibility.list, yield, List.cons_append, List.append_assoc, List.append_assoc]
    refine (bind_of_eq_ok (need_cons i)).trans ?_
    rw [List.singleton_append, hopen]
    exact (bind_of_eq_ok hfirst).trans ((bind_of_eq_ok hmore).trans (bind_of_eq_ok (need_cons j)))

end Derivation

/-! ### Whole conditions -/

theorem beforeEnd_of_eof (h : (peek ts).kind = .eof) : beforeEnd ts = [] := by
  cases ts with
  | nil => rfl
  | cons t ts => exact List.takeWhile_cons_of_neg (by simpa using h)

/-- The tokens before the end, and tokens that begin with the end. -/
theorem exists_eq_beforeEnd_append (ts : List Token) :
    ∃ rest, ts = beforeEnd ts ++ rest ∧ (peek rest).kind = .eof := by
  refine ⟨ts.dropWhile (·.kind != .eof), List.takeWhile_append_dropWhile.symm, ?_⟩
  cases hd : ts.dropWhile (·.kind != .eof) with
  | nil => rfl
  | cons t rest =>
    have ht := List.head?_dropWhile_not (fun t : Token => t.kind != .eof) ts
    rw [hd] at ht
    simpa using ht

theorem Token.endsDisjunction_of_eof {t : Token} (h : t.kind = .eof) : t.endsDisjunction = true := by
  simp [endsDisjunction, endsConjunction, endsComparison, endsOperand, Token.is, compareOp?, h]

/-- A condition is the meaning of a derivation of the tokens before the end. -/
theorem outcome_ofTokens (ts : List Token) :
    Outcome ts
      (fun e => ∃ d : Derivation (.cond .disjunction), d.yield = beforeEnd ts ∧ d.meaning = e)
      (Expr.ofTokens ts) := by
  have hread : Outcome ts ((Phrase.cond .disjunction).Reads ts)
      (disjunction (8 * ts.length + 8) ts) :=
    outcome_read (8 * ts.length + 8) (.cond .disjunction) ts
  refine hread.bind ?_
  rintro ⟨e, rest⟩ ⟨d, rfl, rfl⟩
  dsimp only
  split
  · next h =>
    have hy : beforeEnd (d.yield ++ rest) = d.yield := by
      rw [beforeEnd_append d.kind_ne_eof, beforeEnd_of_eof h, List.append_nil]
    exact ⟨d, hy.symm, rfl⟩
  · exact .mismatch trivial

theorem Derivation.ofTokens_eq {d : Derivation (.cond .disjunction)} (hd : d.yield = beforeEnd ts)
    (hl : ∀ t ∈ beforeEnd ts, ¬t.TooLong) : Expr.ofTokens ts = .ok d.meaning := by
  obtain ⟨rest, hts, hr⟩ := exists_eq_beforeEnd_append ts
  rw [← hd] at hts hl
  have hn : 8 * d.yield.length + 5 ≤ 8 * ts.length + 8 := by
    rw [hts, List.length_append]
    omega
  have hread : Visibility.disjunction (8 * ts.length + 8) ts = .ok (d.meaning, rest) := by
    rw [hts] at hn ⊢
    exact d.read_yield_append hn (Token.endsDisjunction_of_eof hr) hl
  rw [Expr.ofTokens, bind_of_eq_ok hread]
  exact if_pos hr

/-- Where no whole number is too long, exactly the conditions of the grammar are read, each as what
its only derivation means; in anything else, something is found that the grammar does not ask
for. -/
theorem ofTokens_iff_derivation (ts : List Token) (hl : ∀ t ∈ beforeEnd ts, ¬t.TooLong) :
    (∀ e, Expr.ofTokens ts = .ok e ↔
      ∃ d : Derivation (.cond .disjunction), d.yield = beforeEnd ts ∧ d.meaning = e) ∧
    (∀ d d' : Derivation (.cond .disjunction),
      d.yield = beforeEnd ts → d'.yield = beforeEnd ts → d = d') ∧
    ((¬∃ d : Derivation (.cond .disjunction), d.yield = beforeEnd ts) →
      ∃ err, Expr.ofTokens ts = .error err ∧ err.IsMismatch) := by
  have hread := outcome_ofTokens ts
  refine ⟨fun e => ⟨fun he => ?_, ?_⟩, fun d d' hd hd' => ?_, fun hnone => ?_⟩
  · rwa [he] at hread
  · rintro ⟨d, hd, rfl⟩
    exact d.ofTokens_eq hd hl
  · have hy : d.yield ++ [] = d'.yield ++ [] := by rw [hd, hd']
    exact (Derivation.eq_of_yield_append hy rfl rfl).1
  · cases hts : Expr.ofTokens ts with
    | ok e =>
      rw [hts] at hread
      obtain ⟨d, hd, -⟩ := hread
      exact absurd ⟨d, hd⟩ hnone
    | error err =>
      rw [hts] at hread
      rcases hread with hm | ⟨-, t, ht, htoo⟩
      · exact ⟨err, rfl, hm⟩
      · exact absurd htoo (hl t ht)

/-- In `not a is null and b`, `not` binds looser than `is`. -/
theorem ofTokens_not_isNull_and :
    let ts := [keywordToken "not" 0, ⟨.name, "a", 4⟩, keywordToken "is" 6, keywordToken "null" 9,
      keywordToken "and" 14, ⟨.name, "b", 18⟩, ⟨.eof, "", 19⟩]
    (∀ t ∈ beforeEnd ts, ¬t.TooLong) ∧
      Expr.ofTokens ts = .ok (.logical .and [.not (.isNull (.field ["a"]) false), .field ["b"]]) := by
  intro ts
  have hl : ∀ t ∈ beforeEnd ts, ¬t.TooLong := by
    simp [ts, beforeEnd, keywordToken, Token.TooLong]
  let a : Derivation (.cond .negation) :=
    .not 0 (.plain (.comparison (.field "a" 4 .noName) (.isNull 6 9)))
  let b : Derivation (.cond .negation) := .plain (.comparison (.field "b" 18 .noName) .noPredicate)
  let d : Derivation (.cond .disjunction) :=
    .disjunction (.conjunction a (.item 14 b .noItem)) .noItem
  exact ⟨hl, ((ofTokens_iff_derivation ts hl).1 _).2 ⟨d, rfl, rfl⟩⟩

end Formwork.Visibility
