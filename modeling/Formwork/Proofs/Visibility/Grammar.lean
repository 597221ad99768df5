import Formwork.Visibility.Parser

/-!
The grammar of conditions as a type of derivations, with one constructor for each alternative of a
rule. A derivation yields the tokens at its leaves and means a condition. No token list is the yield
of two derivations, also when tokens follow that cannot belong to it.
-/
namespace Formwork.Visibility

/-- The rules for conditions, the loosest binding first. -/
inductive Level
  | disjunction
  | conjunction
  | negation
  | comparison
  | operand

/-- What stands between the items of a repetition. -/
inductive Separator
  | or
  | and
  | comma

/-- The rule for the items that a separator stands between. -/
def Separator.item : Separator → Level
  | .or => .conjunction
  | .and => .negation
  | .comma => .disjunction

/-- The phrases of the grammar: conditions, and parts of them. -/
inductive Phrase
  | cond (level : Level)
  /-- The items after the first one, each with the separator before it. -/
  | more (separator : Separator)
  /-- What may follow the first operand of a comparison. -/
  | predicate
  | names
  | list

/-- What the phrases of a kind mean. -/
@[reducible]
def Phrase.Meaning : Phrase → Type
  | .cond _ => Expr
  | .more _ | .list => List Expr
  | .predicate => Expr → Expr
  | .names => List String

def keywordToken (value : String) (position : Nat) : Token := ⟨.keyword, value, position⟩

def opToken (value : String) (position : Nat) : Token := ⟨.op, value, position⟩

def Separator.token : Separator → Nat → Token
  | .or => keywordToken "or"
  | .and => keywordToken "and"
  | .comma => opToken ","

/-- Derivations of phrases. Their leaves hold what the grammar leaves open: the positions of the
tokens, and the texts of numbers, strings and names. -/
inductive Derivation : Phrase → Type
  | disjunction (first : Derivation (.cond .conjunction)) (more : Derivation (.more .or)) :
      Derivation (.cond .disjunction)
  | conjunction (first : Derivation (.cond .negation)) (more : Derivation (.more .and)) :
      Derivation (.cond .conjunction)
  | not (i : Nat) (inner : Derivation (.cond .negation)) : Derivation (.cond .negation)
  | plain (inner : Derivation (.cond .comparison)) : Derivation (.cond .negation)
  | comparison (first : Derivation (.cond .operand)) (more : Derivation .predicate) :
      Derivation (.cond .comparison)
  | parentheses (i : Nat) (inner : Derivation (.cond .disjunction)) (j : Nat) :
      Derivation (.cond .operand)
  | number (text : String) (i : Nat) : Derivation (.cond .operand)
  | negative (i : Nat) (text : String) (j : Nat) : Derivation (.cond .operand)
  | string (text : String) (i : Nat) : Derivation (.cond .operand)
  | truth (value : Bool) (i : Nat) : Derivation (.cond .operand)
  | null (i : Nat) : Derivation (.cond .operand)
  | field (name : String) (i : Nat) (more : Derivation .names) : Derivation (.cond .operand)
  | noItem {s : Separator} : Derivation (.more s)
  | item {s : Separator} (i : Nat) (next : Derivation (.cond s.item))
      (more : Derivation (.more s)) : Derivation (.more s)
  | noPredicate : Derivation .predicate
  | compare (op : CompareOp) (i : Nat) (right : Derivation (.cond .operand)) : Derivation .predicate
  | member (i : Nat) (items : Derivation .list) : Derivation .predicate
  | notMember (i j : Nat) (items : Derivation .list) : Derivation .predicate
  | isNull (i j : Nat) : Derivation .predicate
  | isNotNull (i j k : Nat) : Derivation .predicate
  | noName : Derivation .names
  | dotName (i : Nat) (name : String) (j : Nat) (more : Derivation .names) : Derivation .names
  | emptyList (i j : Nat) : Derivation .list
  | list (i : Nat) (first : Derivation (.cond .disjunction)) (more : Derivation (.more .comma))
      (j : Nat) : Derivation .list

/-- The number that a literal stands for; the reader refuses whole numbers that are too long. -/
def numeral (negative : Bool) (text : String) : Value :=
  let cs := text.toList
  if cs.contains '.' then .float ((Decimal.unsigned? negative cs).getD (.nan 0))
  else
    let n : Int := Decimal.valueOf (Decimal.spanDigits cs).1
    .int (if negative then -n else n)

namespace Derivation

variable {p : Phrase}

/-- The tokens at the leaves. -/
@[simp]
def yield : {p : Phrase} → Derivation p → List Token
  | _, .disjunction first more => first.yield ++ more.yield
  | _, .conjunction first more => first.yield ++ more.yield
  | _, .not i inner => keywordToken "not" i :: inner.yield
  | _, .plain inner => inner.yield
  | _, .comparison first more => first.yield ++ more.yield
  | _, .parentheses i inner j => opToken "(" i :: (inner.yield ++ [opToken ")" j])
  | _, .number text i => [⟨.number, text, i⟩]
  | _, .negative i text j => [opToken "-" i, ⟨.number, text, j⟩]
  | _, .string text i => [⟨.string, text, i⟩]
  | _, .truth value i => [keywordToken (if value then "true" else "false") i]
  | _, .null i => [keywordToken "null" i]
  | _, .field name i more => ⟨.name, name, i⟩ :: more.yield
  | _, .noItem => []
  | .more s, .item i next more => s.token i :: (next.yield ++ more.yield)
  | _, .noPredicate => []
  | _, .compare op i right => opToken op.text i :: right.yield
  | _, .member i items => keywordToken "in" i :: items.yield
  | _, .notMember i j items => keywordToken "not" i :: keywordToken "in" j :: items.yield
  | _, .isNull i j => [keywordToken "is" i, keywordToken "null" j]
  | _, .isNotNull i j k => [keywordToken "is" i, keywordToken "not" j, keywordToken "null" k]
  | _, .noName => []
  | _, .dotName i name j more => opToken "." i :: ⟨.name, name, j⟩ :: more.yield
  | _, .emptyList i j => [opToken "[" i, opToken "]" j]
  | _, .list i first more j => opToken "[" i :: (first.yield ++ (more.yield ++ [opToken "]" j]))

/-- The condition that is derived. A chain is one node however long it is; a single operand and a
pair of parentheses have no node of their own. -/
def meaning : {p : Phrase} → Derivation p → p.Meaning
  | _, .disjunction first more => chain .or (first.meaning :: more.meaning)
  | _, .conjunction first more => chain .and (first.meaning :: more.meaning)
  | _, .not _ inner => .not inner.meaning
  | _, .plain inner => inner.meaning
  | _, .comparison first more => more.meaning first.meaning
  | _, .parentheses _ inner _ => inner.meaning
  | _, .number text _ => .literal (numeral false text)
  | _, .negative _ text _ => .literal (numeral true text)
  | _, .string text _ => .literal (.text text)
  | _, .truth value _ => .literal (.bool value)
  | _, .null _ => .literal .null
  | _, .field name _ more => .field (name :: more.meaning)
  | _, .noItem => []
  | _, .item _ next more => next.meaning :: more.meaning
  | _, .noPredicate => fun left => left
  | _, .compare op _ right => fun left => .compare op left right.meaning
  | _, .member _ items => fun left => .member left items.meaning false
  | _, .notMember _ _ items => fun left => .member left items.meaning true
  | _, .isNull _ _ => fun left => .isNull left false
  | _, .isNotNull _ _ _ => fun left => .isNull left true
  | _, .noName => []
  | _, .dotName _ name _ more => name :: more.meaning
  | _, .emptyList _ _ => []
  | _, .list _ first more _ => first.meaning :: more.meaning

end Derivation

/-! ### What phrases begin with, and where they end -/

def Token.opensOperand (t : Token) : Bool :=
  match t.kind with
  | .op => t.value == "(" || t.value == "-"
  | .keyword => t.value == "true" || t.value == "false" || t.value == "null"
  | .number | .string | .name => true
  | .eof => false

/-- Whether a condition can begin with a token. -/
def Level.opensWith (l : Level) (t : Token) : Bool :=
  match l with
  | .disjunction | .conjunction | .negation => t.opensOperand || t.is .keyword "not"
  | .comparison | .operand => t.opensOperand

def Token.endsOperand (t : Token) : Bool := !t.is .op "."

def Token.endsComparison (t : Token) : Bool :=
  t.endsOperand && (compareOp? t).isNone && !t.is .keyword "is" && !t.is .keyword "in" &&
    !t.is .keyword "not"

def Token.endsConjunction (t : Token) : Bool := t.endsComparison && !t.is .keyword "and"

def Token.endsDisjunction (t : Token) : Bool := t.endsConjunction && !t.is .keyword "or"

/-- Whether a phrase cannot go on with a token. -/
def Phrase.endsBefore (p : Phrase) (t : Token) : Bool :=
  match p with
  | .cond .disjunction | .more .or => t.endsDisjunction
  | .cond .conjunction | .more .and => t.endsConjunction
  | .cond .negation | .cond .comparison | .predicate => t.endsComparison
  | .cond .operand | .names => t.endsOperand
  | .list => true
  | .more .comma => t.endsDisjunction && !t.is .op ","

@[simp]
theorem peek_cons (t : Token) (ts : List Token) : peek (t :: ts) = t := rfl

theorem compareOp?_opToken (op : CompareOp) (i : Nat) :
    compareOp? (opToken op.text i) = some op := by
  cases op with
  | eq => rfl
  | ne => rfl
  | order r => cases r <;> rfl

theorem opToken_text_injective {op op' : CompareOp} {i j : Nat}
    (h : opToken op.text i = opToken op'.text j) : op = op' := by
  have ho := compareOp?_opToken op i
  rw [h, compareOp?_opToken] at ho
  exact (Option.some.inj ho).symm

theorem endsOperand_opToken_text (op : CompareOp) (i : Nat) :
    (opToken op.text i).endsOperand = true := by
  cases op with
  | eq => rfl
  | ne => rfl
  | order r => cases r <;> rfl

theorem endsComparison_opToken_text (op : CompareOp) (i : Nat) :
    ¬(opToken op.text i).endsComparison = true := by
  simp [Token.endsComparison, compareOp?_opToken]

theorem Token.endsOperand_of_endsComparison {t : Token} (h : t.endsComparison = true) :
    t.endsOperand = true := by
  simp only [endsComparison, Bool.and_eq_true] at h
  exact h.1.1.1.1

theorem Separator.not_endsBefore_token (s : Separator) (i : Nat) :
    ¬(Phrase.more s).endsBefore (s.token i) = true := by
  cases s <;> exact Bool.false_ne_true

namespace Derivation

variable {p : Phrase}

/-- What is derived as a condition begins as one. -/
theorem opensWith_peek {l : Level} (d : Derivation (.cond l)) (rest : List Token) :
    l.opensWith (peek (d.yield ++ rest)) = true := by
  generalize hp : Phrase.cond l = p at d
  induction d generalizing l rest with
  | disjunction first more ih _ | conjunction first more ih _ | comparison first more ih _ =>
    cases hp
    have ho := ih (more.yield ++ rest) rfl
    rwa [yield, List.append_assoc]
  | plain inner ih =>
    cases hp
    have ho : (peek (inner.yield ++ rest)).opensOperand = true := ih rest rfl
    simp only [yield, Level.opensWith, ho, Bool.true_or]
  | truth value i =>
    cases hp
    cases value <;> rfl
  | not | parentheses | number | negative | string | null | field =>
    cases hp
    rfl
  | _ => cases hp

/-! ### No two derivations have one yield -/

/-- Where a repetition may go on, the item before has ended. -/
theorem endsBefore_more {s : Separator} (d : Derivation (.more s)) {rest : List Token}
    (h : (Phrase.more s).endsBefore (peek rest) = true) :
    (Phrase.cond s.item).endsBefore (peek (d.yield ++ rest)) = true := by
  cases d with
  | noItem => cases s <;> exact (Bool.and_eq_true_iff.1 h).1
  | item => cases s <;> rfl

/-- Where a predicate may stand, the operand before has ended. -/
theorem endsOperand_predicate (d : Derivation .predicate) {rest : List Token}
    (h : (peek rest).endsComparison = true) : (peek (d.yield ++ rest)).endsOperand = true := by
  cases d with
  | noPredicate => exact Token.endsOperand_of_endsComparison h
  | compare op i right => exact endsOperand_opToken_text op i
  | member | notMember | isNull | isNotNull => rfl

theorem yield_not_append_ne_plain {i : Nat} {inner : Derivation (.cond .negation)}
    {inner' : Derivation (.cond .comparison)} {rest rest' : List Token} :
    (not i inner).yield ++ rest ≠ (plain inner').yield ++ rest' := by
  intro h
  have ho := inner'.opensWith_peek rest'
  rw [yield, yield] at h
  rw [← h] at ho
  cases ho

theorem yield_emptyList_append_ne_list {i i' j j' : Nat} {first : Derivation (.cond .disjunction)}
    {more : Derivation (.more .comma)} {rest rest' : List Token} :
    (emptyList i j).yield ++ rest ≠ (list i' first more j').yield ++ rest' := by
  intro h
  simp only [yield, List.cons_append, List.append_assoc, List.nil_append, List.cons.injEq] at h
  have ho := first.opensWith_peek (more.yield ++ opToken "]" j' :: rest')
  rw [← h.2] at ho
  cases ho

/-- A phrase is derived in one way only, and ends in one place only: where it cannot go on. -/
theorem eq_of_yield_append {d d' : Derivation p} {rest rest' : List Token}
    (h : d.yield ++ rest = d'.yield ++ rest') (he : p.endsBefore (peek rest) = true)
    (he' : p.endsBefore (peek rest') = true) : d = d' ∧ rest = rest' := by
  induction d generalizing rest rest' with
  | disjunction first more ihf ihm | conjunction first more ihf ihm =>
    cases d'
    next first' more' =>
      simp only [yield, List.append_assoc] at h
      obtain ⟨rfl, hm⟩ := ihf h (more.endsBefore_more he) (more'.endsBefore_more he')
      obtain ⟨rfl, rfl⟩ := ihm hm he he'
      exact ⟨rfl, rfl⟩
  | not i inner ih =>
    cases d' with
    | not i' inner' =>
      simp only [yield, List.cons_append, List.cons.injEq] at h
      obtain ⟨hi, ho⟩ := h
      obtain ⟨rfl, rfl⟩ := ih ho he he'
      cases hi
      exact ⟨rfl, rfl⟩
    | plain inner' => exact absurd h yield_not_append_ne_plain
  | plain inner ih =>
    cases d' with
    | not i' inner' => exact absurd h.symm yield_not_append_ne_plain
    | plain inner' =>
      obtain ⟨rfl, rfl⟩ := ih h he he'
      exact ⟨rfl, rfl⟩
  | comparison first more ihf ihm =>
    cases d' with
    | comparison first' more' =>
      simp only [yield, List.append_assoc] at h
      obtain ⟨rfl, hm⟩ := ihf h (more.endsOperand_predicate he) (more'.endsOperand_predicate he')
      obtain ⟨rfl, rfl⟩ := ihm hm he he'
      exact ⟨rfl, rfl⟩
  | parentheses i inner j ih =>
    cases d' with
    | parentheses i' inner' j' =>
      simp only [yield, List.cons_append, List.append_assoc, List.nil_append, List.cons.injEq] at h
      obtain ⟨hi, hd⟩ := h
      obtain ⟨rfl, hj⟩ := ih hd rfl rfl
      cases hi
      cases hj
      exact ⟨rfl, rfl⟩
    | _ => simp [yield, opToken, keywordToken] at h
  | number text i =>
    cases d' with
    | number =>
      cases h
      exact ⟨rfl, rfl⟩
    | _ => simp [yield, opToken, keywordToken] at h
  | negative i text j =>
    cases d' with
    | negative =>
      cases h
      exact ⟨rfl, rfl⟩
    | _ => simp [yield, opToken, keywordToken] at h
  | string text i =>
    cases d' with
    | string =>
      cases h
      exact ⟨rfl, rfl⟩
    | _ => simp [yield, opToken, keywordToken] at h
  | truth value i =>
    cases d' with
    | truth value' i' => cases value <;> cases value' <;> simp_all [yield, keywordToken]
    | null => cases value <;> simp [yield, keywordToken] at h
    | _ => simp [yield, opToken, keywordToken] at h
  | null i =>
    cases d' with
    | null =>
      cases h
      exact ⟨rfl, rfl⟩
    | truth value => cases value <;> simp [yield, keywordToken] at h
    | _ => simp [yield, opToken, keywordToken] at h
  | field name i more ih =>
    cases d' with
    | field name' i' more' =>
      simp only [yield, List.cons_append, List.cons.injEq] at h
      obtain ⟨hi, hm⟩ := h
      obtain ⟨rfl, rfl⟩ := ih hm he he'
      cases hi
      exact ⟨rfl, rfl⟩
    | _ => simp [yield, opToken, keywordToken] at h
  | @noItem s =>
    cases d' with
    | noItem => exact ⟨rfl, h⟩
    | item i =>
      cases h
      exact absurd he (s.not_endsBefore_token i)
  | @item s i next more ihn ihm =>
    cases d' with
    | noItem =>
      cases h
      exact absurd he' (s.not_endsBefore_token i)
    | item i' next' more' =>
      simp only [yield, List.cons_append, List.append_assoc, List.cons.injEq] at h
      obtain ⟨hi, hn⟩ := h
      obtain ⟨rfl, hm⟩ := ihn hn (more.endsBefore_more he) (more'.endsBefore_more he')
      obtain ⟨rfl, rfl⟩ := ihm hm he he'
      cases s <;> cases hi <;> exact ⟨rfl, rfl⟩
  | noPredicate =>
    cases d' with
    | noPredicate => exact ⟨rfl, h⟩
    | compare op i =>
      cases h
      exact absurd he (endsComparison_opToken_text op i)
    | _ =>
      cases h
      cases he
  | compare op i right ih =>
    cases d' with
    | noPredicate =>
      cases h
      exact absurd he' (endsComparison_opToken_text op i)
    | compare op' i' right' =>
      simp only [yield, List.cons_append, List.cons.injEq] at h
      obtain ⟨hi, hr⟩ := h
      obtain ⟨rfl, rfl⟩ := ih hr (Token.endsOperand_of_endsComparison he)
        (Token.endsOperand_of_endsComparison he')
      obtain rfl := opToken_text_injective hi
      cases hi
      exact ⟨rfl, rfl⟩
    | _ => simp [yield, opToken, keywordToken] at h
  | member i items ih =>
    cases d' with
    | noPredicate =>
      cases h
      cases he'
    | member i' items' =>
      simp only [yield, List.cons_append, List.cons.injEq] at h
      obtain ⟨hi, hl⟩ := h
      obtain ⟨rfl, rfl⟩ := ih hl rfl rfl
      cases hi
      exact ⟨rfl, rfl⟩
    | _ => simp [yield, opToken, keywordToken] at h
  | notMember i j items ih =>
    cases d' with
    | noPredicate =>
      cases h
      cases he'
    | notMember i' j' items' =>
      simp only [yield, List.cons_append, List.cons.injEq] at h
      obtain ⟨hi, hj, hl⟩ := h
      obtain ⟨rfl, rfl⟩ := ih hl rfl rfl
      cases hi
      cases hj
      exact ⟨rfl, rfl⟩
    | _ => simp [yield, opToken, keywordToken] at h
  | isNull | isNotNull =>
    cases d' with
    | noPredicate =>
      cases h
      cases he'
    | _ => simp_all [yield, opToken, keywordToken]
  | noName =>
    cases d' with
    | noName => exact ⟨rfl, h⟩
    | dotName =>
      cases h
      cases he
  | dotName i name j more ih =>
    cases d' with
    | noName =>
      cases h
      cases he'
    | dotName i' name' j' more' =>
      simp only [yield, List.cons_append, List.cons.injEq] at h
      obtain ⟨hi, hj, hm⟩ := h
      obtain ⟨rfl, rfl⟩ := ih hm he he'
      cases hi
      cases hj
      exact ⟨rfl, rfl⟩
  | emptyList i j =>
    cases d' with
    | emptyList =>
      cases h
      exact ⟨rfl, rfl⟩
    | list i' first' more' j' => exact absurd h yield_emptyList_append_ne_list
  | list i first more j ihf ihm =>
    cases d' with
    | emptyList i' j' => exact absurd h.symm yield_emptyList_append_ne_list
    | list i' first' more' j' =>
      simp only [yield, List.cons_append, List.append_assoc, List.nil_append, List.cons.injEq] at h
      obtain ⟨hi, hf⟩ := h
      obtain ⟨rfl, hm⟩ := ihf hf (more.endsBefore_more rfl) (more'.endsBefore_more rfl)
      obtain ⟨rfl, hj⟩ := ihm hm rfl rfl
      cases hi
      cases hj
      exact ⟨rfl, rfl⟩

end Derivation

end Formwork.Visibility
