import Formwork.Proofs.Visibility.Spelling

/-!
Conditions are read as they are written. A condition is written with every part of it in
parentheses; whatever spelling each word is given and whatever white space stands between two words,
the text is read as that condition. White space may be missing where one of the words is a mark.
-/
namespace Formwork.Visibility

/-- Conditions that can be written down. -/
inductive Expr.Writable : Expr → Prop
  | null : Writable (.literal .null)
  | bool (b : Bool) : Writable (.literal (.bool b))
  | text (s : String) : Writable (.literal (.text s))
  | int {n : Int} (h : (Nat.toDigits 10 n.natAbs).length ≤ 4300) : Writable (.literal (.int n))
  | field {name : String} {path : List String} (h : ∀ key ∈ name :: path, IsFieldName key) :
      Writable (.field (name :: path))
  | compare {op : CompareOp} {left right : Expr} (hl : Writable left) (hr : Writable right) :
      Writable (.compare op left right)
  | logical {op : LogicalOp} {first second : Expr} {es : List Expr}
      (h : ∀ e ∈ first :: second :: es, Writable e) : Writable (.logical op (first :: second :: es))
  | not {e : Expr} (h : Writable e) : Writable (.not e)
  | member {e : Expr} {items : List Expr} {negated : Bool} (he : Writable e)
      (hi : ∀ item ∈ items, Writable item) : Writable (.member e items negated)
  | isNull {e : Expr} {negated : Bool} (h : Writable e) : Writable (.isNull e negated)

/-! ### The words of a condition -/

def keywordWord (value : String) : Word := (.keyword, value)

def opWord (value : String) : Word := (.op, value)

def Separator.word (s : Separator) : Word := (s.token 0).word

def LogicalOp.separator : LogicalOp → Separator
  | .and => .and
  | .or => .or

def parens (ws : List Word) : List Word := opWord "(" :: (ws ++ [opWord ")"])

/-- The names of a path after the first. -/
def namesWords : List String → List Word
  | [] => []
  | name :: names => opWord "." :: (.name, name) :: namesWords names

def literalWords : Value → List Word
  | .null => [keywordWord "null"]
  | .bool b => [keywordWord (if b then "true" else "false")]
  | .text s => [(.string, s)]
  | .int n =>
    (if n < 0 then [opWord "-"] else []) ++
      [(.number, String.ofList (Nat.toDigits 10 n.natAbs))]
  | .float _ | .list _ | .object _ => []

mutual

/-- The words of a condition, every part of it in parentheses. -/
def Expr.words : Expr → List Word
  | .literal v => literalWords v
  | .field [] => []
  | .field (name :: path) => (.name, name) :: namesWords path
  | .compare op left right => parens left.words ++ opWord op.text :: parens right.words
  | .logical _ [] => []
  | .logical op (e :: es) => parens e.words ++ moreWords op.separator es
  | .not e => keywordWord "not" :: parens e.words
  | .member e items negated =>
    parens e.words ++ ((if negated then [keywordWord "not"] else []) ++
      keywordWord "in" :: listWords items)
  | .isNull e negated =>
    parens e.words ++ keywordWord "is" ::
      ((if negated then [keywordWord "not"] else []) ++ [keywordWord "null"])

/-- Conditions, each with the separator before it. -/
def moreWords (s : Separator) : List Expr → List Word
  | [] => []
  | e :: es => s.word :: (parens e.words ++ moreWords s es)

def listWords : List Expr → List Word
  | [] => [opWord "[", opWord "]"]
  | e :: es => opWord "[" :: (parens e.words ++ (moreWords .comma es ++ [opWord "]"]))

end

/-! ### What is derived does not depend on positions -/

variable {ts : List Token} {ws : List Word}

theorem exists_of_map_word_cons {kind : TokenKind} {value : String}
    (h : ts.map Token.word = (kind, value) :: ws) :
    ∃ i us, ts = ⟨kind, value, i⟩ :: us ∧ us.map Token.word = ws := by
  obtain ⟨⟨k, v, i⟩, us, rfl, ht, hus⟩ := List.map_eq_cons_iff.1 h
  cases ht
  exact ⟨i, us, rfl, hus⟩

theorem exists_of_map_word_singleton {kind : TokenKind} {value : String}
    (h : ts.map Token.word = [(kind, value)]) : ∃ i, ts = [⟨kind, value, i⟩] := by
  obtain ⟨i, us, rfl, hus⟩ := exists_of_map_word_cons h
  obtain rfl := List.map_eq_nil_iff.1 hus
  exact ⟨i, rfl⟩

theorem Separator.exists_of_map_word_cons {s : Separator} (h : ts.map Token.word = s.word :: ws) :
    ∃ i us, ts = s.token i :: us ∧ us.map Token.word = ws := by
  cases s <;> exact Visibility.exists_of_map_word_cons h

theorem Separator.word_token (s : Separator) (i : Nat) : (s.token i).word = s.word := by
  cases s <;> rfl

/-- Tokens with the words of a derivation have a derivation that means the same. -/
theorem Derivation.exists_of_map_word {p : Phrase} (d : Derivation p) {ts : List Token}
    (h : ts.map Token.word = d.yield.map Token.word) :
    ∃ d' : Derivation p, d'.yield = ts ∧ d'.meaning = d.meaning := by
  induction d generalizing ts with
  | disjunction first more ihf ihm =>
    rw [yield, List.map_append] at h
    obtain ⟨us, vs, rfl, hu, hv⟩ := List.map_eq_append_iff.1 h
    obtain ⟨first', rfl, hf⟩ := ihf hu
    obtain ⟨more', rfl, hm⟩ := ihm hv
    exact ⟨.disjunction first' more', rfl, by rw [meaning, meaning, hf, hm]⟩
  | conjunction first more ihf ihm =>
    rw [yield, List.map_append] at h
    obtain ⟨us, vs, rfl, hu, hv⟩ := List.map_eq_append_iff.1 h
    obtain ⟨first', rfl, hf⟩ := ihf hu
    obtain ⟨more', rfl, hm⟩ := ihm hv
    exact ⟨.conjunction first' more', rfl, by rw [meaning, meaning, hf, hm]⟩
  | comparison first more ihf ihm =>
    rw [yield, List.map_append] at h
    obtain ⟨us, vs, rfl, hu, hv⟩ := List.map_eq_append_iff.1 h
    obtain ⟨first', rfl, hf⟩ := ihf hu
    obtain ⟨more', rfl, hm⟩ := ihm hv
    exact ⟨.comparison first' more', rfl, by rw [meaning, meaning, hf, hm]⟩
  | not i inner ih =>
    obtain ⟨j, us, rfl, hu⟩ := exists_of_map_word_cons h
    obtain ⟨inner', rfl, hi⟩ := ih hu
    exact ⟨.not j inner', rfl, by rw [meaning, meaning, hi]⟩
  | plain inner ih =>
    obtain ⟨inner', rfl, hi⟩ := ih h
    exact ⟨.plain inner', rfl, hi⟩
  | parentheses i inner j ih =>
    obtain ⟨i', us, rfl, hu⟩ := exists_of_map_word_cons h
    rw [List.map_append] at hu
    obtain ⟨vs, ws, rfl, hv, hw⟩ := List.map_eq_append_iff.1 hu
    obtain ⟨inner', rfl, hi⟩ := ih hv
    obtain ⟨j', rfl⟩ := exists_of_map_word_singleton hw
    exact ⟨.parentheses i' inner' j', rfl, hi⟩
  | number text i =>
    obtain ⟨j, rfl⟩ := exists_of_map_word_singleton h
    exact ⟨.number text j, rfl, rfl⟩
  | negative i text j =>
    obtain ⟨i', us, rfl, hu⟩ := exists_of_map_word_cons h
    obtain ⟨j', rfl⟩ := exists_of_map_word_singleton hu
    exact ⟨.negative i' text j', rfl, rfl⟩
  | string text i =>
    obtain ⟨j, rfl⟩ := exists_of_map_word_singleton h
    exact ⟨.string text j, rfl, rfl⟩
  | truth value i =>
    obtain ⟨j, rfl⟩ := exists_of_map_word_singleton h
    exact ⟨.truth value j, rfl, rfl⟩
  | null i =>
    obtain ⟨j, rfl⟩ := exists_of_map_word_singleton h
    exact ⟨.null j, rfl, rfl⟩
  | field name i more ih =>
    obtain ⟨j, us, rfl, hu⟩ := exists_of_map_word_cons h
    obtain ⟨more', rfl, hm⟩ := ih hu
    exact ⟨.field name j more', rfl, by rw [meaning, meaning, hm]⟩
  | noItem =>
    obtain rfl := List.map_eq_nil_iff.1 h
    exact ⟨.noItem, rfl, rfl⟩
  | @item s i next more ihn ihm =>
    rw [yield, List.map_cons, s.word_token, List.map_append] at h
    obtain ⟨j, us, rfl, hu⟩ := s.exists_of_map_word_cons h
    obtain ⟨vs, ws, rfl, hv, hw⟩ := List.map_eq_append_iff.1 hu
    obtain ⟨next', rfl, hn⟩ := ihn hv
    obtain ⟨more', rfl, hm⟩ := ihm hw
    exact ⟨.item j next' more', rfl, by rw [meaning, meaning, hn, hm]⟩
  | noPredicate =>
    obtain rfl := List.map_eq_nil_iff.1 h
    exact ⟨.noPredicate, rfl, rfl⟩
  | compare op i right ih =>
    obtain ⟨j, us, rfl, hu⟩ := exists_of_map_word_cons h
    obtain ⟨right', rfl, hr⟩ := ih hu
    exact ⟨.compare op j right', rfl, by rw [meaning, meaning, hr]⟩
  | member i items ih =>
    obtain ⟨j, us, rfl, hu⟩ := exists_of_map_word_cons h
    obtain ⟨items', rfl, hi⟩ := ih hu
    exact ⟨.member j items', rfl, by rw [meaning, meaning, hi]⟩
  | notMember i j items ih =>
    obtain ⟨i', us, rfl, hu⟩ := exists_of_map_word_cons h
    obtain ⟨j', vs, rfl, hv⟩ := exists_of_map_word_cons hu
    obtain ⟨items', rfl, hi⟩ := ih hv
    exact ⟨.notMember i' j' items', rfl, by rw [meaning, meaning, hi]⟩
  | isNull i j =>
    obtain ⟨i', us, rfl, hu⟩ := exists_of_map_word_cons h
    obtain ⟨j', rfl⟩ := exists_of_map_word_singleton hu
    exact ⟨.isNull i' j', rfl, rfl⟩
  | isNotNull i j k =>
    obtain ⟨i', us, rfl, hu⟩ := exists_of_map_word_cons h
    obtain ⟨j', vs, rfl, hv⟩ := exists_of_map_word_cons hu
    obtain ⟨k', rfl⟩ := exists_of_map_word_singleton hv
    exact ⟨.isNotNull i' j' k', rfl, rfl⟩
  | noName =>
    obtain rfl := List.map_eq_nil_iff.1 h
    exact ⟨.noName, rfl, rfl⟩
  | dotName i name j more ih =>
    obtain ⟨i', us, rfl, hu⟩ := exists_of_map_word_cons h
    obtain ⟨j', vs, rfl, hv⟩ := exists_of_map_word_cons hu
    obtain ⟨more', rfl, hm⟩ := ih hv
    exact ⟨.dotName i' name j' more', rfl, by rw [meaning, meaning, hm]⟩
  | emptyList i j =>
    obtain ⟨i', us, rfl, hu⟩ := exists_of_map_word_cons h
    obtain ⟨j', rfl⟩ := exists_of_map_word_singleton hu
    exact ⟨.emptyList i' j', rfl, rfl⟩
  | list i first more j ihf ihm =>
    obtain ⟨i', us, rfl, hu⟩ := exists_of_map_word_cons h
    rw [List.map_append, List.map_append] at hu
    obtain ⟨vs, ws, rfl, hv, hw⟩ := List.map_eq_append_iff.1 hu
    obtain ⟨first', rfl, hf⟩ := ihf hv
    obtain ⟨us, vs, rfl, hu, hv⟩ := List.map_eq_append_iff.1 hw
    obtain ⟨more', rfl, hm⟩ := ihm hu
    obtain ⟨j', rfl⟩ := exists_of_map_word_singleton hv
    exact ⟨.list i' first' more' j', rfl, by rw [meaning, meaning, hf, hm]⟩

/-! ### Conditions are derived from their words -/

/-- The words derive as a phrase with a meaning, and no number among them is too long. -/
def Derives (p : Phrase) (ws : List Word) (m : p.Meaning) : Prop :=
  ∃ d : Derivation p, d.yield.map Token.word = ws ∧ d.meaning = m ∧ ∀ t ∈ d.yield, ¬t.TooLong

@[simp]
theorem not_tooLong_keywordToken (value : String) (i : Nat) : ¬(keywordToken value i).TooLong :=
  fun h => nomatch h.1

@[simp]
theorem not_tooLong_opToken (value : String) (i : Nat) : ¬(opToken value i).TooLong :=
  fun h => nomatch h.1

@[simp]
theorem not_tooLong_separator (s : Separator) (i : Nat) : ¬(s.token i).TooLong := by
  cases s <;> exact fun h => nomatch h.1

@[simp]
theorem not_tooLong_name (name : String) (i : Nat) : ¬Token.TooLong ⟨.name, name, i⟩ :=
  fun h => nomatch h.1

@[simp]
theorem not_tooLong_string (s : String) (i : Nat) : ¬Token.TooLong ⟨.string, s, i⟩ :=
  fun h => nomatch h.1

variable {e : Expr}

theorem Derives.parens (h : Derives (.cond .disjunction) ws e) :
    Derives (.cond .operand) (parens ws) e := by
  obtain ⟨d, rfl, rfl, hd⟩ := h
  refine ⟨.parentheses 0 d 0, ?_, rfl, ?_⟩
  · rw [Derivation.yield, List.map_cons, List.map_append]
    rfl
  · simpa [or_imp, forall_and] using hd

theorem Derives.comparison {vs : List Word} {f : Expr → Expr}
    (he : Derives (.cond .operand) ws e) (hf : Derives .predicate vs f) :
    Derives (.cond .comparison) (ws ++ vs) (f e) := by
  obtain ⟨d, rfl, rfl, hd⟩ := he
  obtain ⟨d', rfl, rfl, hd'⟩ := hf
  exact ⟨.comparison d d', List.map_append, rfl, List.forall_mem_append.2 ⟨hd, hd'⟩⟩

theorem Derives.ofComparison (h : Derives (.cond .comparison) ws e) :
    Derives (.cond .negation) ws e := by
  obtain ⟨d, hw, hm, hd⟩ := h
  exact ⟨.plain d, hw, hm, hd⟩

theorem Derives.ofNegation (h : Derives (.cond .negation) ws e) :
    Derives (.cond .conjunction) ws e := by
  obtain ⟨d, hw, hm, hd⟩ := h
  refine ⟨.conjunction d .noItem, ?_, hm, ?_⟩
  · simpa using hw
  · simpa using hd

theorem Derives.ofConjunction (h : Derives (.cond .conjunction) ws e) :
    Derives (.cond .disjunction) ws e := by
  obtain ⟨d, hw, hm, hd⟩ := h
  refine ⟨.disjunction d .noItem, ?_, hm, ?_⟩
  · simpa using hw
  · simpa using hd

theorem Derives.chain {op : LogicalOp} {es : List Expr} {vs : List Word}
    (he : Derives (.cond op.separator.item) ws e) (hes : Derives (.more op.separator) vs es) :
    Derives (.cond .disjunction) (ws ++ vs) (chain op (e :: es)) := by
  obtain ⟨d, rfl, rfl, hd⟩ := he
  obtain ⟨d', rfl, rfl, hd'⟩ := hes
  cases op with
  | and =>
    apply Derives.ofConjunction
    exact ⟨.conjunction d d', List.map_append, rfl, List.forall_mem_append.2 ⟨hd, hd'⟩⟩
  | or => exact ⟨.disjunction d d', List.map_append, rfl, List.forall_mem_append.2 ⟨hd, hd'⟩⟩

theorem derives_noPredicate : Derives .predicate [] (fun left => left) :=
  ⟨.noPredicate, rfl, rfl, nofun⟩

/-- An operand is a condition by itself, on each level. -/
theorem Derives.ofOperand (h : Derives (.cond .operand) ws e) (l : Level) :
    Derives (.cond l) ws e := by
  have hc := h.comparison derives_noPredicate
  rw [List.append_nil] at hc
  cases l with
  | operand => exact h
  | comparison => exact hc
  | negation => exact hc.ofComparison
  | conjunction => exact hc.ofComparison.ofNegation
  | disjunction => exact hc.ofComparison.ofNegation.ofConjunction

/-- Conditions in parentheses, each after a separator. -/
theorem derives_moreWords (s : Separator) {es : List Expr}
    (h : ∀ e ∈ es, Derives (.cond .disjunction) e.words e) :
    Derives (.more s) (moreWords s es) es := by
  induction es with
  | nil => exact ⟨.noItem, rfl, rfl, nofun⟩
  | cons e es ih =>
    obtain ⟨he, hes⟩ := List.forall_mem_cons.1 h
    obtain ⟨d, hw, rfl, hd⟩ := he.parens.ofOperand s.item
    obtain ⟨d', hw', rfl, hd'⟩ := ih hes
    refine ⟨.item 0 d d', ?_, rfl, ?_⟩
    · rw [moreWords, Derivation.yield, List.map_cons, List.map_append, hw, hw', s.word_token]
    · exact List.forall_mem_cons.2 ⟨not_tooLong_separator s 0, List.forall_mem_append.2 ⟨hd, hd'⟩⟩

theorem derives_listWords {es : List Expr} (h : ∀ e ∈ es, Derives (.cond .disjunction) e.words e) :
    Derives .list (listWords es) es := by
  cases es with
  | nil => exact ⟨.emptyList 0 0, rfl, rfl, by simp⟩
  | cons e es =>
    obtain ⟨he, hes⟩ := List.forall_mem_cons.1 h
    obtain ⟨d, hw, rfl, hd⟩ := he.parens.ofOperand .disjunction
    obtain ⟨d', hw', rfl, hd'⟩ := derives_moreWords .comma hes
    refine ⟨.list 0 d d' 0, ?_, rfl, ?_⟩
    · simp only [Derivation.yield, List.map_cons, List.map_append, hw, hw', listWords]
      rfl
    · simpa [or_imp, forall_and] using ⟨hd, hd'⟩

theorem derives_namesWords (names : List String) : Derives .names (namesWords names) names := by
  induction names with
  | nil => exact ⟨.noName, rfl, rfl, nofun⟩
  | cons name names ih =>
    obtain ⟨d, hw, hm, hd⟩ := ih
    refine ⟨.dotName 0 name 0 d, ?_, ?_, ?_⟩
    · rw [namesWords, ← hw]
      rfl
    · rw [Derivation.meaning, hm]
    · simpa using hd

theorem derives_literalWords_int {n : Int} (h : (Nat.toDigits 10 n.natAbs).length ≤ 4300) :
    Derives (.cond .operand) (literalWords (.int n)) (.literal (.int n)) := by
  have hshort (i : Nat) :
      ¬Token.TooLong ⟨.number, String.ofList (Nat.toDigits 10 n.natAbs), i⟩ := by
    intro hl
    have hlen : (String.ofList (Nat.toDigits 10 n.natAbs)).length ≤ 4300 := by
      rwa [String.length_ofList]
    exact absurd hl.2.2 (Nat.not_lt.2 hlen)
  have hpoint : '.' ∉ Nat.toDigits 10 n.natAbs := by
    intro hm
    exact absurd (Decimal.isDigit_toDigits _ _ hm) (by decide)
  by_cases hn : n < 0
  · refine ⟨.negative 0 (String.ofList (Nat.toDigits 10 n.natAbs)) 0, ?_, ?_, ?_⟩
    · rw [literalWords, if_pos hn]
      rfl
    · have hneg : -(n.natAbs : Int) = n := by omega
      simp only [Derivation.meaning, numeral, String.toList_ofList, Decimal.valueOf_toDigits,
        List.contains_eq_mem, hpoint, decide_false, Bool.false_eq_true, ↓reduceIte, hneg]
    · simp [hshort]
  · refine ⟨.number (String.ofList (Nat.toDigits 10 n.natAbs)) 0, ?_, ?_, ?_⟩
    · rw [literalWords, if_neg hn]
      rfl
    · have hpos : (n.natAbs : Int) = n := by omega
      simp only [Derivation.meaning, numeral, String.toList_ofList, Decimal.valueOf_toDigits,
        List.contains_eq_mem, hpoint, decide_false, Bool.false_eq_true, ↓reduceIte, hpos]
    · simp [hshort]

/-- What can be written is derived from its words. -/
theorem Expr.Writable.derives (h : e.Writable) : Derives (.cond .disjunction) e.words e := by
  induction h with
  | null =>
    apply Derives.ofOperand
    exact ⟨.null 0, rfl, rfl, by simp⟩
  | bool b =>
    apply Derives.ofOperand
    exact ⟨.truth b 0, rfl, rfl, by simp⟩
  | text s =>
    apply Derives.ofOperand
    exact ⟨.string s 0, rfl, rfl, by simp⟩
  | int h => exact (derives_literalWords_int h).ofOperand _
  | @field name path h =>
    obtain ⟨d, hw, hm, hd⟩ := derives_namesWords path
    apply Derives.ofOperand
    refine ⟨.field name 0 d, ?_, ?_, by simpa using hd⟩
    · rw [Expr.words, ← hw]
      rfl
    · rw [Derivation.meaning, hm]
  | @compare op left right hl hr ihl ihr =>
    obtain ⟨d, hw, hm, hd⟩ := ihr.parens
    have hp : Derives .predicate (opWord op.text :: parens right.words)
        (fun left => .compare op left right) := by
      refine ⟨.compare op 0 d, ?_, ?_, by simpa using hd⟩
      · rw [← hw]
        rfl
      · rw [Derivation.meaning, hm]
    exact (ihl.parens.comparison hp).ofComparison.ofNegation.ofConjunction
  | @logical op first second es h ih =>
    obtain ⟨hf, hes⟩ := List.forall_mem_cons.1 ih
    exact (hf.parens.ofOperand op.separator.item).chain (derives_moreWords op.separator hes)
  | @not e h ih =>
    obtain ⟨d, hw, hm, hd⟩ := ih.parens.ofOperand .negation
    apply Derives.ofConjunction
    apply Derives.ofNegation
    refine ⟨.not 0 d, ?_, ?_, by simpa using hd⟩
    · rw [Expr.words, ← hw]
      rfl
    · rw [Derivation.meaning, hm]
  | @member e items negated he hi ihe ihi =>
    obtain ⟨d, hw, hm, hd⟩ := derives_listWords ihi
    have hp : Derives .predicate
        ((if negated then [keywordWord "not"] else []) ++ keywordWord "in" :: listWords items)
        (fun left => .member left items negated) := by
      cases negated with
      | true =>
        refine ⟨.notMember 0 0 d, ?_, ?_, by simpa using hd⟩
        · rw [← hw]
          rfl
        · rw [Derivation.meaning, hm]
      | false =>
        refine ⟨.member 0 d, ?_, ?_, by simpa using hd⟩
        · rw [← hw]
          rfl
        · rw [Derivation.meaning, hm]
    exact (ihe.parens.comparison hp).ofComparison.ofNegation.ofConjunction
  | @isNull e negated h ih =>
    have hp : Derives .predicate
        (keywordWord "is" ::
          ((if negated then [keywordWord "not"] else []) ++ [keywordWord "null"]))
        (fun left => .isNull left negated) := by
      cases negated with
      | true => exact ⟨.isNotNull 0 0 0, rfl, rfl, by simp⟩
      | false => exact ⟨.isNull 0 0, rfl, rfl, by simp⟩
    exact (ih.parens.comparison hp).ofComparison.ofNegation.ofConjunction

/-! ### Texts -/

theorem Token.TooLong.of_word_eq {t u : Token} (h : t.word = u.word) (ht : t.TooLong) :
    u.TooLong := by
  obtain ⟨hk, hv⟩ := Prod.mk.inj h
  rwa [TooLong, hk, hv] at ht

/-- Tokens with words that derive as a condition are read as that condition. -/
theorem Derives.ofTokens_eq {ts : List Token} {stop : Nat}
    (h : Derives (.cond .disjunction) (ts.map Token.word) e) :
    Expr.ofTokens (ts ++ [⟨.eof, "", stop⟩]) = .ok e := by
  obtain ⟨d, hw, rfl, hd⟩ := h
  obtain ⟨d', rfl, hm⟩ := d.exists_of_map_word hw.symm
  -- `d` has positions of its own; `d'` derives the tokens that were read.
  have hend : beforeEnd (d'.yield ++ [⟨.eof, "", stop⟩]) = d'.yield := by
    rw [beforeEnd_append d'.kind_ne_eof, beforeEnd_of_eof rfl, List.append_nil]
  rw [← hm]
  apply Derivation.ofTokens_eq hend.symm
  rw [hend]
  intro t ht hl
  have hmem : t.word ∈ d.yield.map Token.word := by
    rw [hw]
    exact List.mem_map_of_mem ht
  obtain ⟨u, hu, huw⟩ := List.mem_map.1 hmem
  exact hd u hu (hl.of_word_eq huw.symm)

theorem Spaced.read_eq {text : List Char} (ht : Spaced ws text)
    (hw : Derives (.cond .disjunction) ws e) : Expr.read text = .ok e := by
  obtain ⟨ts, stop, hread, rfl⟩ := ht.exists_tokensFrom 0
  rw [Expr.read, tokens, hread]
  exact hw.ofTokens_eq

/-- A text that spells the words of a condition, whether or not the whole stands in parentheses, is
read as that condition. -/
theorem read_of_spells {text : List Char} (h : e.Writable)
    (ht : Spaced e.words text ∨ Spaced (parens e.words) text) : Expr.read text = .ok e := by
  rcases ht with ht | ht
  · exact ht.read_eq h.derives
  · exact ht.read_eq (h.derives.parens.ofOperand .disjunction)

theorem Spaced.space {w : Word} {cs text : List Char} (h : Spells w cs) (hs : Spaced ws text) :
    Spaced (w :: ws) (cs ++ ' ' :: text) :=
  .cons h (List.cons_ne_nil ' ' []) (by decide) hs

theorem read_not_a_ne_text :
    let e := Expr.not (.compare .ne (.field ["a"]) (.literal (.text "it's")))
    let text := "! ((a) !== ('it\\'s'))".toList
    e.Writable ∧ (Spaced e.words text ∨ Spaced (parens e.words) text) ∧
      Expr.read text = .ok e := by
  intro e text
  have he : e.Writable := by
    apply Expr.Writable.not
    apply Expr.Writable.compare
    · apply Expr.Writable.field
      intro key hkey
      obtain rfl := List.mem_singleton.1 hkey
      exact ⟨⟨by decide, by decide⟩, by decide⟩
    · exact .text "it's"
  have hquotes : Quotes '\'' "it's".toList "it\\'s".toList :=
    .plain (by decide) (by decide) (.plain (by decide) (by decide) (.escaped
      (.plain (by decide) (by decide) .nil)))
  have hname : Spells (.name, "a") "a".toList := .name ⟨⟨by decide, by decide⟩, by decide⟩
  have hne : Spells (.op, "!=") "!==".toList := .otherOp (by decide) (by decide)
  have hnot : Spells (.keyword, "not") "!".toList := .otherKeyword (by decide) (by decide)
  have hopen : Spells (.op, "(") "(".toList := .op (by decide)
  have hclose : Spells (.op, ")") ")".toList := .op (by decide)
  have ht : Spaced e.words text :=
    .space hnot (.touch hopen (by decide) (.touch hopen (by decide) (.touch hname (by decide)
      (.space hclose (.space hne (.touch hopen (by decide)
        (.touch (.string (.inr rfl) hquotes) (by decide)
          (.touch hclose (by decide) (.last hclose)))))))))
  exact ⟨he, .inl ht, read_of_spells he (.inl ht)⟩

end Formwork.Visibility
