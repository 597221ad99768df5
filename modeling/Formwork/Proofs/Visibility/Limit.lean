import Formwork.Proofs.Visibility.Reading

/-!
The limit on whole numbers. Up to the first whole number that is too long, a condition is read as it
would be without the limit. So it is the limit that ends the reading exactly if such a number stands
before the place where the reading without the limit ends.
-/
namespace Formwork.Visibility
open Formwork.Text

/-! ### The reader of conditions over a reader of numbers -/

/-- What a number stands for, with or without a minus sign before it. -/
abbrev NumberReader := Bool → String → Except ParseError Value

/-- The readers that take turns where a condition is read. -/
structure Readers where
  cond : Level → List Token → Except ParseError (Expr × List Token)
  more : Separator → List Token → Except ParseError (List Expr × List Token)
  list : List Token → Except ParseError (List Expr × List Token)

namespace Readers

/-- Reads what may follow the first operand of a comparison. -/
def predicate (r : Readers) (ts : List Token) :
    Except ParseError ((Expr → Expr) × List Token) :=
  match compareOp? (peek ts) with
  | some op => do
    let (right, ts) ← r.cond .operand (advance ts)
    pure (fun left => .compare op left right, ts)
  | none =>
    if comes .keyword "is" ts then do
      let negated := comes .keyword "not" (advance ts)
      let ts ← need .keyword "null" (if negated then advance (advance ts) else advance ts)
      pure (fun left => .isNull left negated, ts)
    else if comes .keyword "not" ts && comes .keyword "in" (advance ts) then do
      let (items, ts) ← r.list (advance (advance ts))
      pure (fun left => .member left items true, ts)
    else if comes .keyword "in" ts then do
      let (items, ts) ← r.list (advance ts)
      pure (fun left => .member left items false, ts)
    else pure (fun left => left, ts)

def operand (r : Readers) (number : NumberReader) (ts : List Token) :
    Except ParseError (Expr × List Token) :=
  let t := peek ts
  let ts := advance ts
  match t.kind with
  | .op =>
    if t.value = "(" then do
      let (e, ts) ← r.cond .disjunction ts
      pure (e, ← need .op ")" ts)
    else if t.value = "-" then do
      let (text, ts) ← needKind .number ts
      pure (.literal (← number true text), ts)
    else .error (.unexpected t)
  | .number => do pure (.literal (← number false t.value), ts)
  | .string => .ok (.literal (.text t.value), ts)
  | .keyword =>
    match constant? t.value with
    | some v => .ok (.literal v, ts)
    | none => .error (.unexpected t)
  | .name => do
    let (names, ts) ← pathTail ts.length ts
    pure (.field (t.value :: names), ts)
  | .eof => .error (.unexpected t)

/-- The readers that leave to `r` what stands within their phrases. -/
def next (r : Readers) (number : NumberReader) : Readers where
  cond
    | .disjunction, ts => do
      let (e, ts) ← r.cond .conjunction ts
      let (es, ts) ← r.more .or ts
      pure (chain .or (e :: es), ts)
    | .conjunction, ts => do
      let (e, ts) ← r.cond .negation ts
      let (es, ts) ← r.more .and ts
      pure (chain .and (e :: es), ts)
    | .negation, ts =>
      if comes .keyword "not" ts then do
        let (e, ts) ← r.cond .negation (advance ts)
        pure (.not e, ts)
      else r.cond .comparison ts
    | .comparison, ts => do
      let (left, ts) ← r.cond .operand ts
      let (f, ts) ← r.predicate ts
      pure (f left, ts)
    | .operand, ts => r.operand number ts
  more s ts :=
    if s.comes ts then do
      let (e, ts) ← r.cond s.item (advance ts)
      let (es, ts) ← r.more s ts
      pure (e :: es, ts)
    else .ok ([], ts)
  list ts := do
    let ts ← need .op "[" ts
    if comes .op "]" ts then pure ([], advance ts)
    else
      let (e, ts) ← r.cond .disjunction ts
      let (es, ts) ← r.more .comma ts
      pure (e :: es, ← need .op "]" ts)

/-- The readers that take at most `fuel` turns. -/
def within (number : NumberReader) : (fuel : Nat) → Readers
  | 0 => ⟨fun _ ts => .error (.unexpected (peek ts)), fun _ ts => .error (.unexpected (peek ts)),
      fun ts => .error (.unexpected (peek ts))⟩
  | fuel + 1 => (within number fuel).next number

/-- With the limit on whole numbers they are the readers of conditions. -/
theorem within_numberValue (fuel : Nat) :
    within numberValue fuel =
      ⟨fun l => l.read fuel, fun s => s.readMore fuel, Visibility.list fuel⟩ := by
  induction fuel with
  | zero =>
    rw [within, mk.injEq]
    refine ⟨funext fun l => ?_, funext fun s => ?_, rfl⟩
    · cases l <;> rfl
    · cases s <;> rfl
  | succ fuel ih =>
    rw [within, ih, next, mk.injEq]
    refine ⟨funext fun l => funext fun ts => ?_, funext fun s => funext fun ts => ?_, rfl⟩
    · cases l with
      | disjunction | conjunction | negation | operand => rfl
      | comparison => exact (comparison_succ fuel ts).symm
    · exact (s.readMore_succ fuel ts).symm

end Readers

/-- Reads the condition that a list of tokens spells, with a reader of numbers. -/
def Expr.ofTokensWith (number : NumberReader) (ts : List Token) : Except ParseError Expr := do
  let (e, rest) ← (Readers.within number (8 * ts.length + 8)).cond .disjunction ts
  if (peek rest).kind = .eof then pure e else throw (.trailing (peek rest))

theorem ofTokensWith_numberValue (ts : List Token) :
    Expr.ofTokensWith numberValue ts = Expr.ofTokens ts := by
  rw [Expr.ofTokensWith, Readers.within_numberValue]
  rfl

theorem ofTokensWith_of_ok {number : NumberReader} {ts rest : List Token} {e : Expr}
    (h : (Readers.within number (8 * ts.length + 8)).cond .disjunction ts = .ok (e, rest)) :
    Expr.ofTokensWith number ts =
      if (peek rest).kind = .eof then .ok e else .error (.trailing (peek rest)) := by
  rw [Expr.ofTokensWith, h]
  rfl

/-- Numbers of any length are read. -/
def numeralOfAnyLength : NumberReader := fun negative text => .ok (numeral negative text)

/-! ### Readings with the limit and without -/

/-- Where a reading ends: before the tokens that it leaves, or at the first token that does not
fit. -/
def StopsAt {α : Type} (rest : List Token) : Except ParseError (α × List Token) → Prop
  | .ok x => x.2 = rest
  | .error e => e.IsMismatch ∧ e.position = (peek rest).position

/-- The reading of some tokens with the limit on whole numbers is the one without, cut off at the
first whole number that is too long. -/
def Cut {α : Type} (ts : List Token) (limited free : Except ParseError (α × List Token)) : Prop :=
  ∃ us rest, ts = us ++ rest ∧ (∀ t ∈ us, t.kind ≠ .eof) ∧ StopsAt rest free ∧
    ((∃ t ∈ us, t.TooLong) → limited = .error .numberTooLong) ∧
    ((∀ t ∈ us, ¬t.TooLong) → limited = free)

variable {α β : Type} {ts us : List Token} {kind : TokenKind} {value : String}

/-- Where no token is taken, both readings end in the same way. -/
theorem Cut.refl {x : Except ParseError (α × List Token)} (hx : StopsAt ts x) : Cut ts x x :=
  ⟨[], ts, rfl, nofun, hx, nofun, fun _ => rfl⟩

theorem Cut.unexpected {e : ParseError} (he : e.IsMismatch)
    (hp : e.position = (peek ts).position) : Cut (α := α) ts (.error e) (.error e) :=
  .refl ⟨he, hp⟩

/-- A token that is taken is no number that is too long, so it has no effect. -/
theorem Cut.cons {limited free : Except ParseError (α × List Token)} {i : Nat}
    (h : Cut us limited free) (hk : kind ≠ .eof := by decide) (hn : kind ≠ .number := by decide) :
    Cut (⟨kind, value, i⟩ :: us) limited free := by
  obtain ⟨vs, rest, rfl, hvs, hstop, hlong, hshort⟩ := h
  refine ⟨⟨kind, value, i⟩ :: vs, rest, rfl, List.forall_mem_cons.2 ⟨hk, hvs⟩, hstop, ?_, ?_⟩
  · rintro ⟨t, ht, htoo⟩
    rcases List.mem_cons.1 ht with rfl | ht
    · exact absurd htoo.1 hn
    · exact hlong ⟨t, ht, htoo⟩
  · intro hall
    exact hshort fun t ht => hall t (.tail _ ht)

theorem Cut.cons_separator {limited free : Except ParseError (α × List Token)} {s : Separator}
    {i : Nat} (h : Cut us limited free) : Cut (s.token i :: us) limited free := by
  cases s <;> exact h.cons

/-- One reading after another. -/
theorem Cut.bind {limited free : Except ParseError (α × List Token)}
    {f g : α × List Token → Except ParseError (β × List Token)} (h : Cut ts limited free)
    (hf : ∀ a rest, Cut rest (f (a, rest)) (g (a, rest))) :
    Cut ts (limited >>= f) (free >>= g) := by
  obtain ⟨us, rest, rfl, hus, hstop, hlong, hshort⟩ := h
  cases free with
  | error e =>
    refine ⟨us, rest, rfl, hus, hstop, fun hl => ?_, fun hs => ?_⟩
    · rw [hlong hl]
      rfl
    · rw [hshort hs]
      rfl
  | ok x =>
    obtain ⟨a, rest⟩ := x
    obtain rfl : rest = _ := hstop
    obtain ⟨vs, rest, rfl, hvs, hstop, hlong', hshort'⟩ := hf a rest
    refine ⟨us ++ vs, rest, (List.append_assoc ..).symm, List.forall_mem_append.2 ⟨hus, hvs⟩, hstop,
      ?_, fun hs => ?_⟩
    · rintro ⟨t, ht, htoo⟩
      by_cases hl : ∃ t ∈ us, t.TooLong
      · rw [hlong hl]
        rfl
      · have hfirst : limited = .ok (a, vs ++ rest) :=
          hshort fun t ht htoo => hl ⟨t, ht, htoo⟩
        rw [hfirst]
        exact hlong' ⟨t, (List.mem_append.1 ht).resolve_left fun hm => hl ⟨t, hm, htoo⟩, htoo⟩
    · rw [List.forall_mem_append] at hs
      rw [hshort hs.1]
      exact hshort' hs.2

theorem Cut.pure (a : α) : Cut ts (pure (a, ts)) (pure (a, ts)) := .refl rfl

theorem Cut.bind_need {f g : List Token → Except ParseError (β × List Token)}
    (hf : ∀ rest, Cut rest (f rest) (g rest)) (hk : kind ≠ .eof := by decide)
    (hn : kind ≠ .number := by decide) :
    Cut ts (need kind value ts >>= f) (need kind value ts >>= g) := by
  rw [need]
  split
  · next h =>
    obtain ⟨i, hts⟩ := exists_of_comes h hk
    generalize advance ts = us at hts ⊢
    subst hts
    exact (hf us).cons hk hn
  · exact .unexpected trivial rfl

theorem Cut.bind_needKind {f g : String × List Token → Except ParseError (β × List Token)}
    (hf : ∀ text i rest, Cut (⟨kind, text, i⟩ :: rest) (f (text, rest)) (g (text, rest)))
    (hk : kind ≠ .eof := by decide) : Cut ts (needKind kind ts >>= f) (needKind kind ts >>= g) := by
  rw [needKind]
  split
  · next h =>
    obtain ⟨text, i, hts⟩ := exists_of_kind h hk
    generalize advance ts = us at hts ⊢
    subst hts
    exact hf text i us
  · exact .unexpected trivial rfl

/-! ### Numbers -/

theorem numberValue_of_tooLong {text : String} {i : Nat} (negative : Bool)
    (h : Token.TooLong ⟨.number, text, i⟩) :
    numberValue negative text = .error .numberTooLong := by
  obtain ⟨-, hpoint, hlong⟩ := h
  have hlong' : 4300 < text.toList.length := by rwa [String.length_toList]
  simp only [numberValue, List.contains_eq_mem, hpoint, decide_false, Bool.false_eq_true, if_false,
    hlong', if_true]

/-- The number at hand is what the limit is about. -/
theorem Cut.number (negative : Bool) (text : String) (i : Nat) (rest : List Token) :
    Cut (⟨.number, text, i⟩ :: rest)
      (numberValue negative text >>= fun v => .ok (Expr.literal v, rest))
      (numeralOfAnyLength negative text >>= fun v => .ok (Expr.literal v, rest)) := by
  refine ⟨[⟨.number, text, i⟩], rest, rfl, by simp, rfl, ?_, ?_⟩
  · rintro ⟨t, ht, htoo⟩
    obtain rfl := List.mem_singleton.1 ht
    rw [numberValue_of_tooLong negative htoo]
    rfl
  · intro hall
    rw [numberValue_of_not_tooLong (hall _ List.mem_cons_self)]
    rfl

theorem cut_pathTail (fuel : Nat) (ts : List Token) :
    Cut ts (pathTail fuel ts) (pathTail fuel ts) := by
  induction fuel generalizing ts with
  | zero => exact .refl rfl
  | succ fuel ih =>
    rw [pathTail]
    split
    · next h =>
      obtain ⟨i, hts⟩ := exists_of_comes h
      generalize advance ts = us at hts ⊢
      subst hts
      refine .cons (.bind_needKind ?_)
      intro name j rest
      exact .cons ((ih rest).bind fun names rest => .pure (name :: names))
    · exact .refl rfl

/-! ### Every turn -/

/-- Readers with the limit and readers without. -/
structure Readers.Paired (r s : Readers) : Prop where
  cond : ∀ l ts, Cut ts (r.cond l ts) (s.cond l ts)
  more : ∀ sep ts, Cut ts (r.more sep ts) (s.more sep ts)
  list : ∀ ts, Cut ts (r.list ts) (s.list ts)

namespace Readers.Paired

variable {r s : Readers}

theorem predicate (h : r.Paired s) (ts : List Token) :
    Cut ts (r.predicate ts) (s.predicate ts) := by
  rw [Readers.predicate, Readers.predicate]
  cases hop : compareOp? (peek ts) with
  | some op =>
    obtain ⟨i, hts⟩ := exists_of_compareOp? hop
    generalize advance ts = us at hts ⊢
    subst hts
    exact .cons ((h.cond .operand us).bind fun right rest => .pure _)
  | none =>
    dsimp only
    split
    · next hc =>
      obtain ⟨i, hts⟩ := exists_of_comes hc
      generalize advance ts = us at hts ⊢
      subst hts
      cases hn : comes .keyword "not" us with
      | true =>
        obtain ⟨j, hus⟩ := exists_of_comes hn
        generalize advance us = vs at hus ⊢
        subst hus
        exact .cons (.cons (.bind_need fun rest => .pure _))
      | false => exact .cons (.bind_need fun rest => .pure _)
    · split
      · next hc =>
        rw [Bool.and_eq_true] at hc
        obtain ⟨i, hts⟩ := exists_of_comes hc.1
        obtain ⟨j, hus⟩ := exists_of_comes hc.2
        generalize advance (advance ts) = vs at hus ⊢
        rw [hus] at hts
        subst hts
        exact .cons (.cons ((h.list vs).bind fun items rest => .pure _))
      · split
        · next hc =>
          obtain ⟨i, hts⟩ := exists_of_comes hc
          generalize advance ts = us at hts ⊢
          subst hts
          exact .cons ((h.list us).bind fun items rest => .pure _)
        · exact .pure _

theorem operand (h : r.Paired s) (ts : List Token) :
    Cut ts (r.operand numberValue ts) (s.operand numeralOfAnyLength ts) := by
  rw [Readers.operand, Readers.operand]
  dsimp only
  cases hk : (peek ts).kind with
  | op =>
    obtain ⟨v, i, hts⟩ := exists_of_kind hk (by decide)
    generalize advance ts = us at hts ⊢
    subst hts
    by_cases hopen : v = "("
    · subst hopen
      refine .cons ((h.cond .disjunction us).bind fun inner rest => ?_)
      exact .bind_need fun rest => .pure inner
    · rw [peek_cons, if_neg hopen, if_neg hopen]
      by_cases hminus : v = "-"
      · subst hminus
        exact .cons (.bind_needKind fun text j rest => .number true text j rest)
      · rw [if_neg hminus, if_neg hminus]
        exact .unexpected trivial rfl
  | number =>
    obtain ⟨text, i, hts⟩ := exists_of_kind hk (by decide)
    generalize advance ts = us at hts ⊢
    subst hts
    exact .number false text i us
  | string =>
    obtain ⟨text, i, hts⟩ := exists_of_kind hk (by decide)
    generalize advance ts = us at hts ⊢
    subst hts
    exact .cons (.refl rfl)
  | keyword =>
    obtain ⟨word, i, hts⟩ := exists_of_kind hk (by decide)
    generalize advance ts = us at hts ⊢
    subst hts
    rw [peek_cons]
    cases constant? word with
    | none => exact .unexpected trivial rfl
    | some v => exact .cons (.refl rfl)
  | name =>
    obtain ⟨name, i, hts⟩ := exists_of_kind hk (by decide)
    generalize advance ts = us at hts ⊢
    subst hts
    exact .cons ((cut_pathTail us.length us).bind fun names rest => .pure _)
  | eof => exact .unexpected trivial rfl

/-- A turn of the readers with the limit is a turn of the readers without, cut off. -/
theorem next (h : r.Paired s) : (r.next numberValue).Paired (s.next numeralOfAnyLength) where
  cond l ts := by
    cases l with
    | disjunction =>
      refine (h.cond .conjunction ts).bind fun first rest => ?_
      exact (h.more .or rest).bind fun more rest => .pure _
    | conjunction =>
      refine (h.cond .negation ts).bind fun first rest => ?_
      exact (h.more .and rest).bind fun more rest => .pure _
    | negation =>
      simp only [Readers.next]
      split
      · next hc =>
        obtain ⟨i, hts⟩ := exists_of_comes hc
        generalize advance ts = us at hts ⊢
        subst hts
        exact .cons ((h.cond .negation us).bind fun inner rest => .pure _)
      · exact h.cond .comparison ts
    | comparison =>
      refine (h.cond .operand ts).bind fun left rest => ?_
      exact (h.predicate rest).bind fun f rest => .pure _
    | operand => exact h.operand ts
  more sep ts := by
    simp only [Readers.next]
    split
    · next hc =>
      obtain ⟨i, hts⟩ := sep.exists_of_comes hc
      generalize advance ts = us at hts ⊢
      subst hts
      refine .cons_separator ((h.cond sep.item us).bind fun item rest => ?_)
      exact (h.more sep rest).bind fun more rest => .pure _
    · exact .refl rfl
  list ts := by
    refine .bind_need fun us => ?_
    split
    · next hc =>
      obtain ⟨i, hus⟩ := exists_of_comes hc
      generalize advance us = vs at hus ⊢
      subst hus
      exact .cons (.pure _)
    · refine (h.cond .disjunction us).bind fun first rest => ?_
      refine (h.more .comma rest).bind fun more rest => ?_
      exact .bind_need fun rest => .pure _

end Readers.Paired

/-- However many turns are taken, the readers with the limit are those without, cut off. -/
theorem paired_within (fuel : Nat) :
    (Readers.within numberValue fuel).Paired (Readers.within numeralOfAnyLength fuel) := by
  induction fuel with
  | zero => exact ⟨fun _ _ => .unexpected trivial rfl, fun _ _ => .unexpected trivial rfl,
      fun _ => .unexpected trivial rfl⟩
  | succ fuel ih => exact ih.next

/-! ### Tokens of a text -/

/-- The tokens of a text: each begins behind the one before it, and only the last is the end. -/
structure Ordered (ts : List Token) : Prop where
  exists_end : ∃ us stop, ts = us ++ [⟨.eof, "", stop⟩] ∧ ∀ t ∈ us, t.kind ≠ .eof
  sorted : ts.Pairwise fun t u => t.position < u.position

theorem kind_ne_eof_of_lexeme? {cs v : List Char} {n : Nat}
    (h : lexeme? cs = some (.token kind v, n)) : kind ≠ .eof := by
  have hword {fallback : TokenKind} (hf : fallback ≠ .eof) {w : List Char}
      (hw : wordLexeme fallback w = .token kind v) : kind ≠ .eof := by
    rw [wordLexeme, Lexeme.token.injEq] at hw
    obtain ⟨rfl, -⟩ := hw
    split
    · nofun
    · exact hf
  cases cs with
  | nil => cases h
  | cons c cs =>
    rw [lexeme?] at h
    split at h
    · cases h
    · split at h
      · cases h
        nofun
      · split at h
        · obtain ⟨x, -, hx⟩ := Option.map_eq_some_iff.1 h
          cases hx
          nofun
        · split at h
          · exact hword (by decide) (Prod.mk.inj (Option.some.inj h)).1
          · obtain ⟨o, -, ho⟩ := Option.map_eq_some_iff.1 h
            exact hword (by decide) (Prod.mk.inj ho).1

theorem Ordered.cons {t : Token} (h : Ordered ts) (hk : t.kind ≠ .eof)
    (hp : ∀ u ∈ ts, t.position < u.position) : Ordered (t :: ts) where
  exists_end := by
    obtain ⟨us, stop, rfl, hus⟩ := h.exists_end
    exact ⟨t :: us, stop, rfl, List.forall_mem_cons.2 ⟨hk, hus⟩⟩
  sorted := List.pairwise_cons.2 ⟨hp, h.sorted⟩

theorem ordered_of_tokensFrom {position skip : Nat} {cs : List Char}
    (h : tokensFrom position skip cs = .ok ts) : Ordered ts ∧ ∀ t ∈ ts, position ≤ t.position := by
  induction cs generalizing position skip ts with
  | nil =>
    cases h
    exact ⟨⟨⟨[], position, rfl, nofun⟩, List.pairwise_singleton ..⟩, by simp⟩
  | cons c cs ih =>
    cases skip with
    | succ skip =>
      obtain ⟨hts, hp⟩ := ih h
      exact ⟨hts, fun t ht => Nat.le_of_succ_le (hp t ht)⟩
    | zero =>
      rw [tokensFrom] at h
      split at h
      · cases h
      · obtain ⟨hts, hp⟩ := ih h
        exact ⟨hts, fun t ht => Nat.le_of_succ_le (hp t ht)⟩
      · next kind v n hlex =>
        cases hrest : tokensFrom (position + 1) (n - 1) cs with
        | error e =>
          rw [hrest] at h
          cases h
        | ok us =>
          rw [hrest] at h
          cases h
          obtain ⟨hus, hp⟩ := ih hrest
          refine ⟨hus.cons (kind_ne_eof_of_lexeme? hlex) hp, List.forall_mem_cons.2 ⟨?_, ?_⟩⟩
          · exact Nat.le_refl position
          · exact fun t ht => Nat.le_of_succ_le (hp t ht)

/-! ### Conditions -/

/-- Where the reading without the limit finds a token that does not fit. -/
def misfit? (ts : List Token) : Option Nat :=
  match Expr.ofTokensWith numeralOfAnyLength ts with
  | .ok _ => none
  | .error e => some e.position

/-- A whole number that is too long stands before the first token that does not fit. -/
def ReachesLimit (ts : List Token) : Prop :=
  ∃ t ∈ ts, t.TooLong ∧ ∀ p ∈ misfit? ts, t.position < p

instance (t : Token) : Decidable t.TooLong := by
  unfold Token.TooLong
  infer_instance

instance (ts : List Token) : Decidable (ReachesLimit ts) := by
  unfold ReachesLimit
  infer_instance

/-- Before the tokens that are left stand just those with smaller positions. -/
theorem Ordered.position_lt_iff {rest : List Token} (h : Ordered (us ++ rest)) (hr : rest ≠ [])
    {t : Token} (ht : t ∈ us ++ rest) : t.position < (peek rest).position ↔ t ∈ us := by
  obtain ⟨-, hsorted, hlt⟩ := List.pairwise_append.1 h.sorted
  cases rest with
  | nil => exact absurd rfl hr
  | cons u rest =>
    rw [peek_cons]
    refine ⟨fun hp => ?_, fun hm => hlt t hm u List.mem_cons_self⟩
    rcases List.mem_append.1 ht with hm | hm
    · exact hm
    · rcases List.mem_cons.1 hm with rfl | hm
      · exact absurd hp (Nat.lt_irrefl _)
      · exact absurd hp (Nat.lt_asymm ((List.pairwise_cons.1 hsorted).1 t hm))

theorem Ordered.ne_nil_of_append {rest : List Token} (h : Ordered (us ++ rest))
    (hus : ∀ t ∈ us, t.kind ≠ .eof) : rest ≠ [] := by
  rintro rfl
  obtain ⟨vs, stop, he, -⟩ := h.exists_end
  rw [List.append_nil] at he
  exact hus ⟨.eof, "", stop⟩ (by simp [he]) rfl

/-- The end and nothing else is left where the end comes next. -/
theorem Ordered.mem_of_tooLong {rest : List Token} (h : Ordered (us ++ rest))
    (hus : ∀ t ∈ us, t.kind ≠ .eof) (hr : (peek rest).kind = .eof) {t : Token}
    (ht : t ∈ us ++ rest) (htoo : t.TooLong) : t ∈ us := by
  obtain ⟨vs, stop, he, hvs⟩ := h.exists_end
  have hend : beforeEnd (us ++ rest) = us := by
    rw [beforeEnd_append hus, beforeEnd_of_eof hr, List.append_nil]
  have hvs' : beforeEnd (us ++ rest) = vs := by
    rw [he, beforeEnd_append hvs, beforeEnd_of_eof rfl, List.append_nil]
  rw [he] at ht
  rcases List.mem_append.1 ht with hm | hm
  · rwa [← hend, hvs']
  · obtain rfl := List.mem_singleton.1 hm
    cases htoo.1

theorem ReachesLimit.iff_of_none (h : misfit? ts = none) :
    ReachesLimit ts ↔ ∃ t ∈ ts, t.TooLong := by
  simp [ReachesLimit, h]

theorem ReachesLimit.iff_of_some {p : Nat} (h : misfit? ts = some p) :
    ReachesLimit ts ↔ ∃ t ∈ ts, t.TooLong ∧ t.position < p := by
  simp [ReachesLimit, h]

/-- A condition is read as it would be without the limit, unless a whole number that is too long
stands before the first token that does not fit. -/
theorem Ordered.ofTokens_eq (h : Ordered ts) :
    Expr.ofTokens ts =
      if ReachesLimit ts then .error .numberTooLong
      else Expr.ofTokensWith numeralOfAnyLength ts := by
  obtain ⟨us, rest, hts, hus, hstop, hlong, hshort⟩ :=
    (paired_within (8 * ts.length + 8)).cond .disjunction ts
  subst hts
  have hrest := h.ne_nil_of_append hus
  have hmisfit : misfit? (us ++ rest) = none ∧ (peek rest).kind = .eof ∨
      misfit? (us ++ rest) = some (peek rest).position := by
    rw [misfit?]
    cases hfree : (Readers.within numeralOfAnyLength (8 * (us ++ rest).length + 8)).cond
        .disjunction (us ++ rest) with
    | error e =>
      rw [hfree] at hstop
      rw [Expr.ofTokensWith, hfree]
      exact .inr (congrArg some hstop.2)
    | ok x =>
      obtain ⟨e, rest'⟩ := x
      rw [hfree] at hstop
      obtain rfl : rest' = rest := hstop
      rw [ofTokensWith_of_ok hfree]
      by_cases hend : (peek rest').kind = .eof
      · exact .inl ⟨by rw [if_pos hend], hend⟩
      · exact .inr (by rw [if_neg hend]; rfl)
  -- The tokens before the first one that does not fit are those that are taken.
  have htaken : ReachesLimit (us ++ rest) ↔ ∃ t ∈ us, t.TooLong := by
    rcases hmisfit with ⟨hnone, hend⟩ | hsome
    · rw [ReachesLimit.iff_of_none hnone]
      constructor
      · rintro ⟨t, ht, htoo⟩
        exact ⟨t, h.mem_of_tooLong hus hend ht htoo, htoo⟩
      · rintro ⟨t, ht, htoo⟩
        exact ⟨t, List.mem_append_left rest ht, htoo⟩
    · rw [ReachesLimit.iff_of_some hsome]
      constructor
      · rintro ⟨t, ht, htoo, hp⟩
        exact ⟨t, (h.position_lt_iff hrest ht).1 hp, htoo⟩
      · rintro ⟨t, ht, htoo⟩
        have hm := List.mem_append_left rest ht
        exact ⟨t, hm, htoo, (h.position_lt_iff hrest hm).2 ht⟩
  rw [← ofTokensWith_numberValue]
  by_cases hl : ∃ t ∈ us, t.TooLong
  · rw [if_pos (htaken.2 hl), Expr.ofTokensWith, hlong hl]
    rfl
  · rw [if_neg fun hr => hl (htaken.1 hr), Expr.ofTokensWith, Expr.ofTokensWith,
      hshort fun t ht htoo => hl ⟨t, ht, htoo⟩]

/-- Without the limit a condition is read, or something does not fit. -/
theorem ofTokensWith_ne_numberTooLong (ts : List Token) :
    Expr.ofTokensWith numeralOfAnyLength ts ≠ .error .numberTooLong := by
  obtain ⟨us, rest, -, -, hstop, -⟩ := (paired_within (8 * ts.length + 8)).cond .disjunction ts
  cases hfree : (Readers.within numeralOfAnyLength (8 * ts.length + 8)).cond .disjunction ts with
  | error e =>
    rw [hfree] at hstop
    rw [Expr.ofTokensWith, hfree]
    intro he
    obtain rfl : e = .numberTooLong := Except.error.inj he
    exact hstop.1
  | ok x =>
    rw [ofTokensWith_of_ok hfree]
    split <;> nofun

/-- A condition in which no number that is too long is taken. -/
theorem Ordered.not_tooLong_of_ofTokens {e : Expr} (h : Ordered ts)
    (he : Expr.ofTokens ts = .ok e) : ∀ t ∈ ts, ¬t.TooLong := by
  rw [h.ofTokens_eq] at he
  split at he
  · cases he
  · next hlimit =>
    have hnone : misfit? ts = none := by rw [misfit?, he]
    rw [ReachesLimit.iff_of_none hnone] at hlimit
    exact fun t ht htoo => hlimit ⟨t, ht, htoo⟩

/-! ### Whether a condition holds -/

/-- The members that a condition speaks of: those of the record, and the record itself under the
name `values`, unless it has a member of that name. -/
def context (members : List (String × Value)) : List (String × Value) :=
  if (Value.find? members "values").isSome then members
  else members ++ [("values", .object members)]

/-- The value of a condition, where it can be read and evaluated. -/
def valueOf? (text : List Char) (members : List (String × Value)) : Option Value :=
  (Expr.read text).toOption.bind fun e => (eval (.object (context members)) e).toOption

/-- A text is cut into tokens that reach the limit. -/
def TextReachesLimit (text : List Char) : Prop :=
  ∃ ts, tokens text = .ok ts ∧ ReachesLimit ts

instance (text : List Char) : Decidable (TextReachesLimit text) :=
  match h : tokens text with
  | .ok ts => decidable_of_iff (ReachesLimit ts) (by simp [TextReachesLimit, h])
  | .error e => .isFalse (by simp [TextReachesLimit, h])

theorem read_eq_numberTooLong_iff (text : List Char) :
    Expr.read text = .error .numberTooLong ↔ TextReachesLimit text := by
  rw [Expr.read, TextReachesLimit]
  cases htokens : tokens text with
  | error e => simp [throw, throwThe, MonadExceptOf.throw]
  | ok ts =>
    simp only [Except.ok.injEq, exists_eq_left']
    rw [(ordered_of_tokensFrom htokens).1.ofTokens_eq]
    split
    · simp [*]
    · simp [*, ofTokensWith_ne_numberTooLong]

theorem holds_of_blank {text : String} (h : strip text.toList = [])
    (members : List (String × Value)) : holds (some text) members = .ok true := by
  simp only [holds, h, List.isEmpty_nil, if_true]

theorem holds_of_not_blank {text : String} (h : strip text.toList ≠ [])
    (members : List (String × Value)) :
    holds (some text) members =
      if TextReachesLimit text.toList then .error .numberTooLong
      else .ok ((valueOf? text.toList members).any Value.truth) := by
  have hblank : (strip text.toList).isEmpty = false := by simpa using h
  have hlimit := read_eq_numberTooLong_iff text.toList
  rw [holds, hblank, if_neg Bool.false_ne_true, valueOf?, context]
  generalize Expr.read text.toList = read at hlimit ⊢
  cases read with
  | error e =>
    cases e with
    | numberTooLong => rw [if_pos (hlimit.1 rfl)]
    | token | expected | trailing | unexpected =>
      have hbelow : ¬TextReachesLimit text.toList := by simp [← hlimit]
      rw [if_neg hbelow]
      rfl
  | ok e =>
    have hbelow : ¬TextReachesLimit text.toList := by simp [← hlimit]
    rw [if_neg hbelow]
    dsimp only [Except.toOption, Option.bind_some]
    generalize eval _ e = value
    cases value <;> rfl

/-- Asking whether a condition holds fails exactly if a whole number that is too long stands before
the first token that does not fit. Otherwise a blank condition holds, and any other one holds if it
has a value that counts as true. -/
theorem holds_unless_limit (text : String) (members : List (String × Value)) :
    ((∃ err, holds (some text) members = .error err) ↔
      strip text.toList ≠ [] ∧ TextReachesLimit text.toList) ∧
    holds (some text) members =
      if strip text.toList = [] then .ok true
      else if TextReachesLimit text.toList then .error .numberTooLong
      else .ok ((valueOf? text.toList members).any Value.truth) := by
  by_cases hblank : strip text.toList = []
  · rw [holds_of_blank hblank, if_pos hblank]
    simp [hblank]
  · rw [holds_of_not_blank hblank, if_neg hblank]
    by_cases hlimit : TextReachesLimit text.toList
    · simp [hblank, hlimit]
    · simp [hblank, hlimit]

end Formwork.Visibility
