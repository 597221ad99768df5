import Formwork.Proofs.Number.Digits
import Formwork.Proofs.Visibility.Reading
import Mathlib.Data.List.Find
import Mathlib.Data.List.TakeWhile

/-!
Spellings of tokens. A token may be spelled in several ways, and any white space may stand between
two tokens, or none where one of them is a mark; all these texts are cut into the same tokens.
-/
namespace Formwork.Visibility
open Formwork.Text

/-- A token wherever it stands: its kind and its value. -/
abbrev Word := TokenKind × String

def Token.word (t : Token) : Word := (t.kind, t.value)

/-- `cs` spells `value` between two quotes: the quote and the backslash must have a backslash before
them, and any other character may have one. -/
inductive Quotes (quote : Char) : (value cs : List Char) → Prop
  | nil : Quotes quote [] []
  | plain {c : Char} {value cs : List Char} (hq : c ≠ quote) (hb : c ≠ '\\')
      (h : Quotes quote value cs) : Quotes quote (c :: value) (c :: cs)
  | escaped {c : Char} {value cs : List Char} (h : Quotes quote value cs) :
      Quotes quote (c :: value) ('\\' :: c :: cs)

/-- A name of ASCII letters, digits, underscores and dollar signs that begins with no digit. -/
def IsNameText (cs : List Char) : Prop :=
  cs.head?.any (!·.isDigit) = true ∧ ∀ c ∈ cs, isNameChar c = true

/-- A name that a field can be referred to by: it is no keyword in any spelling. -/
structure IsFieldName (name : String) : Prop where
  text : IsNameText name.toList
  free : name ∉ "undefined" :: keywords

/-- The operators that neither begin another nor stand in one. -/
def marks : List String := ["(", ")", "[", "]", ",", ".", "-"]

/-- The operators that are tokens of their own, each in its one spelling. -/
def plainOperators : List String := ["==", "!=", "<=", ">=", "<", ">"] ++ marks

/-- The texts that spell a word. -/
inductive Spells : Word → List Char → Prop
  | number (n : Nat) : Spells (.number, String.ofList (Nat.toDigits 10 n)) (Nat.toDigits 10 n)
  | string {quote : Char} {s : String} {cs : List Char} (hq : quote = '"' ∨ quote = '\'')
      (h : Quotes quote s.toList cs) : Spells (.string, s) (quote :: (cs ++ [quote]))
  | name {name : String} (h : IsFieldName name) : Spells (.name, name) name.toList
  | keyword {word : String} (h : word ∈ keywords) : Spells (.keyword, word) word.toList
  | op {o : String} (h : o ∈ plainOperators) : Spells (.op, o) o.toList
  | otherKeyword {other word : String} (h : (other, word) ∈ aliases) (hw : word ∈ keywords) :
      Spells (.keyword, word) other.toList
  | otherOp {other o : String} (h : (other, o) ∈ aliases) (ho : o ∈ plainOperators) :
      Spells (.op, o) other.toList

def Word.IsMark (w : Word) : Prop := w.1 = .op ∧ w.2 ∈ marks

instance (w : Word) : Decidable w.IsMark :=
  inferInstanceAs (Decidable (w.1 = .op ∧ w.2 ∈ marks))

theorem Word.not_isMark {kind : TokenKind} (h : kind ≠ .op) (value : String) :
    ¬Word.IsMark (kind, value) := fun hm => h hm.1

/-- Two words that may stand without white space between them: one of them is a mark, but not a
point behind a number. -/
def MayTouch (w v : Word) : Prop := w.IsMark ∨ v.IsMark ∧ (w.1 = .number → v.2 ≠ ".")

instance (w v : Word) : Decidable (MayTouch w v) :=
  inferInstanceAs (Decidable (w.IsMark ∨ v.IsMark ∧ (w.1 = .number → v.2 ≠ ".")))

/-- The texts that spell words in a row, with white space between any two of them that need it. -/
inductive Spaced : List Word → List Char → Prop
  | last {w : Word} {cs : List Char} (h : Spells w cs) : Spaced [w] cs
  | cons {w : Word} {ws : List Word} {cs gap text : List Char} (h : Spells w cs) (hg : gap ≠ [])
      (hb : ∀ c ∈ gap, isAsciiBlank c = true) (hs : Spaced ws text) :
      Spaced (w :: ws) (cs ++ (gap ++ text))
  | touch {w v : Word} {ws : List Word} {cs text : List Char} (h : Spells w cs) (ht : MayTouch w v)
      (hs : Spaced (v :: ws) text) : Spaced (w :: v :: ws) (cs ++ text)

/-! ### White space and marks end a token -/

theorem mem_asciiBlanks {c : Char} (h : isAsciiBlank c = true) :
    c ∈ ['\t', '\n', '\x0b', '\x0c', '\r', ' '] := by
  simp only [isAsciiBlank, Bool.or_eq_true, Bool.and_eq_true, decide_eq_true_eq, beq_iff_eq] at h
  have hc : c.toNat ∈ [9, 10, 11, 12, 13, 32] := by
    simp only [List.mem_cons, List.not_mem_nil, or_false]
    omega
  have hall : ∀ n ∈ [9, 10, 11, 12, 13, 32],
      Char.ofNat n ∈ ['\t', '\n', '\x0b', '\x0c', '\r', ' '] := by decide
  rw [← Char.ofNat_toNat c]
  exact hall _ hc

theorem isNameChar_of_isAsciiBlank {c : Char} (h : isAsciiBlank c = true) :
    isNameChar c = false := by
  have hall : ∀ c ∈ ['\t', '\n', '\x0b', '\x0c', '\r', ' '], isNameChar c = false := by decide
  exact hall c (mem_asciiBlanks h)

theorem not_mem_operator_of_isAsciiBlank {c : Char} (h : isAsciiBlank c = true) :
    ∀ o ∈ operators, c ∉ o.toList := by
  have hall : ∀ c ∈ ['\t', '\n', '\x0b', '\x0c', '\r', ' '], ∀ o ∈ operators, c ∉ o.toList := by
    decide
  exact hall c (mem_asciiBlanks h)

theorem isDigit_of_isNameChar_eq_false {c : Char} (h : isNameChar c = false) :
    c.isDigit = false := by
  cases hd : c.isDigit with
  | false => rfl
  | true => simp [isNameChar, Char.isAlphanum, hd] at h

/-- A text whose first character goes on with no name, no digits and no operator. -/
def Ends (rest : List Char) : Prop :=
  ∀ c ∈ rest.head?, isNameChar c = false ∧ ∀ o ∈ operators, c ∉ o.toList.tail

theorem ends_nil : Ends [] := nofun

theorem ends_gap {gap text : List Char} (hg : gap ≠ []) (hb : ∀ c ∈ gap, isAsciiBlank c = true) :
    Ends (gap ++ text) := by
  cases gap with
  | nil => exact absurd rfl hg
  | cons b gap =>
    intro c hc
    obtain rfl : b = c := by simpa using hc
    have hblank := hb b List.mem_cons_self
    refine ⟨isNameChar_of_isAsciiBlank hblank, fun o ho hmem => ?_⟩
    exact not_mem_operator_of_isAsciiBlank hblank o ho (List.mem_of_mem_tail hmem)

theorem ends_mark {o : String} (ho : o ∈ marks) (text : List Char) : Ends (o.toList ++ text) := by
  have hall : ∀ o ∈ marks, o.toList.head?.any (fun c =>
      !isNameChar c && operators.all fun p => !p.toList.tail.contains c) = true := by decide
  have hends := hall o ho
  cases hcs : o.toList with
  | nil => simp [hcs] at hends
  | cons c cs =>
    intro d hd
    obtain rfl : c = d := by simpa using hd
    simpa [hcs] using hends

variable {rest : List Char}

theorem Ends.takeWhile_append (h : Ends rest) {p : Char → Bool}
    (hp : ∀ c, isNameChar c = false → p c = false) {cs : List Char} (hcs : ∀ c ∈ cs, p c = true) :
    (cs ++ rest).takeWhile p = cs := by
  rw [List.takeWhile_append_of_pos hcs]
  cases rest with
  | nil => simp
  | cons b rest => rw [List.takeWhile_cons_of_neg (by simp [hp b (h b rfl).1]), List.append_nil]

theorem Ends.dropWhile_append (h : Ends rest) {p : Char → Bool}
    (hp : ∀ c, isNameChar c = false → p c = false) {cs : List Char} (hcs : ∀ c ∈ cs, p c = true) :
    (cs ++ rest).dropWhile p = rest := by
  rw [List.dropWhile_append_of_pos hcs]
  cases rest with
  | nil => rfl
  | cons b rest => exact List.dropWhile_cons_of_neg (by simp [hp b (h b rfl).1])

/-- A text that a word cannot go on with. -/
def Follows (w : Word) (rest : List Char) : Prop :=
  w.IsMark ∨ Ends rest ∧ (w.1 = .number → rest.head? ≠ some '.')

theorem Follows.ends {w : Word} (h : Follows w rest) (hw : ¬w.IsMark) : Ends rest :=
  (h.resolve_left hw).1

theorem follows_nil (w : Word) : Follows w [] := .inr ⟨ends_nil, nofun⟩

theorem follows_gap (w : Word) {gap text : List Char} (hg : gap ≠ [])
    (hb : ∀ c ∈ gap, isAsciiBlank c = true) : Follows w (gap ++ text) := by
  refine .inr ⟨ends_gap hg hb, fun _ => ?_⟩
  cases gap with
  | nil => exact absurd rfl hg
  | cons b gap =>
    intro he
    cases he
    exact absurd (hb '.' List.mem_cons_self) (by decide)

/-! ### Lexemes -/

theorem Ends.numberOf_append (h : Ends rest) (hp : rest.head? ≠ some '.') {ds : List Char}
    (hds : ∀ c ∈ ds, c.isDigit = true) : numberOf (ds ++ rest) = ds := by
  have hdigit (c : Char) (hc : isNameChar c = false) : c.isDigit = false :=
    isDigit_of_isNameChar_eq_false hc
  rw [numberOf, h.takeWhile_append hdigit hds, h.dropWhile_append hdigit hds]
  cases rest with
  | nil => rfl
  | cons b rest =>
    have hpoint : b ≠ '.' := fun he => hp (he ▸ rfl)
    simp [hpoint]

theorem Quotes.literalTail?_append {quote : Char} {value cs : List Char} (h : Quotes quote value cs)
    (hq : quote ≠ '\\') (rest : List Char) :
    literalTail? quote (cs ++ quote :: rest) = some (value, cs.length + 1) := by
  induction h with
  | nil =>
    rw [List.nil_append, literalTail?.eq_def]
    simp [hq]
  | plain hc hb h ih =>
    rw [List.cons_append, literalTail?.eq_def]
    simp [hb, hc, ih]
  | escaped h ih =>
    rw [List.cons_append, List.cons_append, literalTail?.eq_def]
    simp [ih]

theorem Ends.lexeme?_name (h : Ends rest) {cs : List Char} (hn : IsNameText cs) :
    lexeme? (cs ++ rest) = some (wordLexeme .name cs, cs.length) := by
  obtain ⟨hhead, hall⟩ := hn
  cases cs with
  | nil => cases hhead
  | cons c cs =>
    obtain ⟨hc, hcs⟩ := List.forall_mem_cons.1 hall
    have hdigit : c.isDigit = false := by simpa using hhead
    have hblank : isAsciiBlank c = false := by
      cases hb : isAsciiBlank c with
      | false => rfl
      | true => simp [isNameChar_of_isAsciiBlank hb] at hc
    have hquote : ¬(c = '"' ∨ c = '\'') := by
      intro hq
      rcases hq with rfl | rfl <;> exact absurd hc (by decide)
    have hrun := h.takeWhile_append (fun _ hc => hc) hcs
    simp [lexeme?, hblank, hdigit, hquote, hc, hrun]

theorem isPrefixOf_append_cons {c : Char} {o : List Char} (hc : c ∉ o) (cs rest : List Char) :
    o.isPrefixOf (cs ++ c :: rest) = o.isPrefixOf cs := by
  induction o generalizing cs with
  | nil => simp
  | cons d o ih =>
    have hd : c ≠ d := List.ne_of_not_mem_cons hc
    have ho : c ∉ o := List.not_mem_of_not_mem_cons hc
    cases cs with
    | nil => simp [List.isPrefixOf, hd.symm]
    | cons e cs => simp [List.isPrefixOf, ih ho]

theorem Ends.isPrefixOf_append (h : Ends rest) {o p : String} (ho : o ∈ operators)
    (hp : p ∈ operators) :
    p.toList.isPrefixOf (o.toList ++ rest) = p.toList.isPrefixOf o.toList := by
  have hne : ∀ o ∈ operators, o.toList ≠ [] := by decide
  cases rest with
  | nil => rw [List.append_nil]
  | cons b rest =>
    have hb := (h b rfl).2 p hp
    cases hcs : o.toList with
    | nil => exact absurd hcs (hne o ho)
    | cons c cs =>
      cases hds : p.toList with
      | nil => rfl
      | cons d ds =>
        rw [hds, List.tail_cons] at hb
        rw [List.cons_append, List.isPrefixOf, List.isPrefixOf, isPrefixOf_append_cons hb]

theorem isPrefixOf_mark_append {o p : String} (ho : o ∈ marks) (hp : p ∈ operators)
    (rest : List Char) :
    p.toList.isPrefixOf (o.toList ++ rest) = p.toList.isPrefixOf o.toList := by
  have hall : ∀ o ∈ marks, ∀ p ∈ operators, o = p ∨
      o.toList.head?.any (fun c => p.toList.head?.any (· != c)) = true := by decide
  rcases hall o ho p hp with rfl | hne
  · have hbegins (cs : List Char) (h : o.toList <+: cs) : o.toList.isPrefixOf cs = true :=
      List.isPrefixOf_iff_prefix.2 h
    rw [hbegins _ (List.prefix_append _ _), hbegins _ List.prefix_rfl]
  · cases hcs : o.toList with
    | nil => simp [hcs] at hne
    | cons c cs =>
      cases hds : p.toList with
      | nil => simp [hcs, hds] at hne
      | cons d ds =>
        have hdc : (d == c) = false := by simpa [hcs, hds] using hne
        simp only [List.cons_append, List.isPrefixOf, hdc, Bool.false_and]

theorem lexeme?_op {o : String} (ho : o ∈ operators)
    (h : ∀ p ∈ operators,
      p.toList.isPrefixOf (o.toList ++ rest) = p.toList.isPrefixOf o.toList) :
    lexeme? (o.toList ++ rest) = some (wordLexeme .op o.toList, o.length) := by
  have hfirst : ∀ o ∈ operators, operators.find? (fun p => p.toList.isPrefixOf o.toList) =
      some o := by decide
  have hfind : operators.find? (fun p => p.toList.isPrefixOf (o.toList ++ rest)) = some o := by
    rw [← hfirst o ho]
    exact List.find?_congr h
  have hhead : ∀ o ∈ operators, o.toList.head?.any (fun c => !isAsciiBlank c && !c.isDigit &&
      c != '"' && c != '\'' && !isNameChar c) = true := by decide
  have ho' := hhead o ho
  cases hcs : o.toList with
  | nil => simp [hcs] at ho'
  | cons c cs =>
    rw [hcs] at hfind ho'
    simp only [List.head?_cons, Option.any_some, Bool.and_eq_true, Bool.not_eq_true', bne_iff_ne]
      at ho'
    obtain ⟨⟨⟨⟨hblank, hdigit⟩, hdouble⟩, hsingle⟩, hname⟩ := ho'
    rw [List.cons_append] at hfind ⊢
    simp [lexeme?, hblank, hdigit, hdouble, hsingle, hname, hfind, hcs]

theorem Ends.lexeme?_op (h : Ends rest) {o : String} (ho : o ∈ operators) :
    lexeme? (o.toList ++ rest) = some (wordLexeme .op o.toList, o.length) :=
  Visibility.lexeme?_op ho fun _ hp => h.isPrefixOf_append ho hp

theorem lexeme?_mark {o : String} (ho : o ∈ marks) (rest : List Char) :
    lexeme? (o.toList ++ rest) = some (wordLexeme .op o.toList, o.length) := by
  have hall : ∀ o ∈ marks, o ∈ operators := by decide
  exact lexeme?_op (hall o ho) fun p hp => isPrefixOf_mark_append ho hp rest

theorem wordLexeme_toList (fallback : TokenKind) (s : String) :
    wordLexeme fallback s.toList =
      .token (if (aliases.lookup s).getD s ∈ keywords then .keyword else fallback)
        ((aliases.lookup s).getD s).toList := by
  simp only [wordLexeme, String.ofList_toList, List.contains_eq_mem, decide_eq_true_eq]

/-- A spelling is read as the token that it spells, and the reader stops where it ends. -/
theorem Spells.lexeme?_append {w : Word} {cs : List Char} (h : Spells w cs) (hf : Follows w rest) :
    lexeme? (cs ++ rest) = some (.token w.1 w.2.toList, cs.length) := by
  cases h with
  | number n =>
    obtain ⟨he, hpoint⟩ := hf.resolve_left (Word.not_isMark (by decide) _)
    have hdigits := Decimal.isDigit_toDigits n
    have hnumber := he.numberOf_append (hpoint rfl) hdigits
    cases hcs : Nat.toDigits 10 n with
    | nil => exact absurd hcs Nat.toDigits_ne_nil
    | cons c cs =>
      rw [hcs] at hdigits hnumber
      have hc := hdigits c List.mem_cons_self
      have hblank : isAsciiBlank c = false := by
        cases hb : isAsciiBlank c with
        | false => rfl
        | true =>
          rw [isDigit_of_isNameChar_eq_false (isNameChar_of_isAsciiBlank hb)] at hc
          cases hc
      rw [List.cons_append] at hnumber ⊢
      simp [lexeme?, hblank, hc, hnumber]
  | @string quote s cs hq hs =>
    have htail := hs.literalTail?_append (by rcases hq with rfl | rfl <;> decide) rest
    have hplain : isAsciiBlank quote = false ∧ quote.isDigit = false := by
      rcases hq with rfl | rfl <;> decide
    rw [List.cons_append, List.append_assoc, List.singleton_append]
    simp [lexeme?, hplain, hq, htail]
  | @name name hn =>
    -- A name is no other spelling of a word: `undefined` is excluded, the rest are operators.
    have he := hf.ends (Word.not_isMark (by decide) _)
    have hother : ∀ x ∈ aliases, x.1 = "undefined" ∨ ¬IsNameText x.1.toList := by
      simp only [IsNameText]
      decide
    have hlookup : aliases.lookup name = none := by
      rw [List.lookup_eq_none_iff]
      intro x hx
      rw [bne_iff_ne]
      rintro rfl
      rcases hother x hx with hu | hu
      · exact hn.free (hu ▸ List.mem_cons_self)
      · exact hu hn.text
    have hfree : name ∉ keywords := fun hm => hn.free (List.mem_cons_of_mem _ hm)
    rw [he.lexeme?_name hn.text, wordLexeme_toList, hlookup, Option.getD_none, if_neg hfree]
  | @keyword word hw =>
    have he := hf.ends (Word.not_isMark (by decide) _)
    have hall : ∀ word ∈ keywords, IsNameText word.toList ∧
        (aliases.lookup word).getD word = word := by
      simp only [IsNameText]
      decide
    obtain ⟨htext, hself⟩ := hall word hw
    rw [he.lexeme?_name htext, wordLexeme_toList, hself, if_pos hw]
  | @op o ho =>
    have hall : ∀ o ∈ plainOperators, o ∈ operators ∧ (aliases.lookup o).getD o = o ∧
        o ∉ keywords := by decide
    obtain ⟨hop, hself, hfree⟩ := hall o ho
    have hlex : lexeme? (o.toList ++ rest) = some (wordLexeme .op o.toList, o.length) := by
      rcases hf with ⟨-, hm⟩ | ⟨he, -⟩
      · exact lexeme?_mark hm rest
      · exact he.lexeme?_op hop
    rw [hlex, wordLexeme_toList, hself, if_neg hfree, String.length_toList]
  | @otherKeyword other word hm hw =>
    have he := hf.ends (Word.not_isMark (by decide) _)
    have hall : ∀ x ∈ aliases, x.2 ∈ keywords → (aliases.lookup x.1).getD x.1 = x.2 ∧
        (x.1 ∈ operators ∨ IsNameText x.1.toList) := by
      simp only [IsNameText]
      decide
    obtain ⟨hself, hop | htext⟩ := hall _ hm hw
    · rw [he.lexeme?_op hop, wordLexeme_toList, hself, if_pos hw, String.length_toList]
    · rw [he.lexeme?_name htext, wordLexeme_toList, hself, if_pos hw]
  | @otherOp other o hm ho =>
    have hall : ∀ x ∈ aliases, x.2 ∈ plainOperators → x.2 ∉ marks ∧ x.1 ∈ operators ∧
        (aliases.lookup x.1).getD x.1 = x.2 ∧ x.2 ∉ keywords := by decide
    obtain ⟨hmark, hop, hself, hfree⟩ := hall _ hm ho
    have he := hf.ends fun h => hmark h.2
    rw [he.lexeme?_op hop, wordLexeme_toList, hself, if_neg hfree, String.length_toList]

/-! ### Tokens -/

theorem tokensFrom_append (position : Nat) (cs rest : List Char) :
    tokensFrom position cs.length (cs ++ rest) = tokensFrom (position + cs.length) 0 rest := by
  induction cs generalizing position with
  | nil => rfl
  | cons c cs ih =>
    rw [List.cons_append, List.length_cons, tokensFrom, ih, Nat.add_right_comm, Nat.add_assoc]

theorem tokensFrom_gap {gap : List Char} (hg : gap ≠ []) (hb : ∀ c ∈ gap, isAsciiBlank c = true)
    (position : Nat) {rest : List Char} (hr : ∀ c ∈ rest.head?, isAsciiBlank c = false) :
    tokensFrom position 0 (gap ++ rest) = tokensFrom (position + gap.length) 0 rest := by
  cases gap with
  | nil => exact absurd rfl hg
  | cons b gap =>
    obtain ⟨hblank, hgap⟩ := List.forall_mem_cons.1 hb
    have hrun : (gap ++ rest).takeWhile isAsciiBlank = gap := by
      rw [List.takeWhile_append_of_pos hgap]
      cases rest with
      | nil => simp
      | cons c rest => rw [List.takeWhile_cons_of_neg (by simp [hr c rfl]), List.append_nil]
    have hspace : lexeme? (b :: (gap ++ rest)) = some (.space, 1 + gap.length) := by
      simp [lexeme?, hblank, hrun]
    rw [List.cons_append, tokensFrom, hspace]
    dsimp only
    rw [Nat.add_sub_cancel_left, tokensFrom_append, List.length_cons, Nat.add_assoc,
      Nat.add_comm 1]

theorem Spells.ne_nil {w : Word} {cs : List Char} (h : Spells w cs) : cs ≠ [] := by
  intro hnil
  have hlex := h.lexeme?_append (follows_nil w)
  rw [hnil] at hlex
  cases hlex

theorem Spells.head_isAsciiBlank {w : Word} {cs : List Char} (h : Spells w cs) :
    ∀ c ∈ cs.head?, isAsciiBlank c = false := by
  intro c hc
  obtain ⟨cs, rfl⟩ := List.head?_eq_some_iff.1 hc
  have hlex := h.lexeme?_append (follows_nil w)
  cases hb : isAsciiBlank c with
  | false => rfl
  | true => simp [lexeme?, hb] at hlex

theorem Spells.tokensFrom_append {w : Word} {cs : List Char} (h : Spells w cs)
    (hf : Follows w rest) (position : Nat) :
    tokensFrom position 0 (cs ++ rest) =
      (tokensFrom (position + cs.length) 0 rest).map (⟨w.1, w.2, position⟩ :: ·) := by
  have hlex := h.lexeme?_append hf
  cases cs with
  | nil => exact absurd rfl h.ne_nil
  | cons c cs =>
    rw [List.cons_append] at hlex ⊢
    rw [tokensFrom, hlex]
    simp only [List.length_cons, Nat.add_sub_cancel, Visibility.tokensFrom_append,
      String.ofList_toList, Nat.add_assoc, Nat.add_comm 1]

/-- A text that spells words begins with a spelling of the first. -/
theorem Spaced.exists_append {ws : List Word} {text : List Char} (h : Spaced ws text) :
    ∃ w cs rest, ws.head? = some w ∧ Spells w cs ∧ text = cs ++ rest := by
  cases h with
  | last h => exact ⟨_, text, [], rfl, h, (List.append_nil text).symm⟩
  | cons h | touch h => exact ⟨_, _, _, rfl, h, rfl⟩

theorem Spaced.head_isAsciiBlank {ws : List Word} {text : List Char} (h : Spaced ws text) :
    ∀ c ∈ text.head?, isAsciiBlank c = false := by
  obtain ⟨w, cs, rest, -, hcs, rfl⟩ := h.exists_append
  cases cs with
  | nil => exact absurd rfl hcs.ne_nil
  | cons c cs => exact hcs.head_isAsciiBlank

/-- Marks have one spelling. -/
theorem Spells.eq_of_isMark {w : Word} {cs : List Char} (h : Spells w cs) (hw : w.IsMark) :
    cs = w.2.toList := by
  cases h with
  | op => rfl
  | @otherOp other o hm =>
    have hall : ∀ x ∈ aliases, x.2 ∉ marks := by decide
    exact absurd hw.2 (hall _ hm)
  | number | string | name | keyword | otherKeyword =>
    exact absurd hw (Word.not_isMark (by decide) _)

theorem MayTouch.follows {w v : Word} {ws : List Word} {text : List Char} (h : MayTouch w v)
    (hs : Spaced (v :: ws) text) : Follows w text := by
  rcases h with hw | ⟨hv, hpoint⟩
  · exact .inl hw
  · obtain ⟨u, cs, rest, hu, hcs, rfl⟩ := hs.exists_append
    obtain rfl := Option.some.inj hu
    rw [hcs.eq_of_isMark hv]
    refine .inr ⟨ends_mark hv.2 rest, fun hn => ?_⟩
    have hall : ∀ o ∈ marks, o ≠ "." → o.toList.head?.any (· != '.') = true := by decide
    have hhead := hall v.2 hv.2 (hpoint hn)
    cases hds : v.2.toList with
    | nil => simp [hds] at hhead
    | cons d ds => simpa [hds] using hhead

/-- However words are spelled and spaced, they are read as the tokens that they stand for. -/
theorem Spaced.exists_tokensFrom {ws : List Word} {text : List Char} (h : Spaced ws text)
    (position : Nat) : ∃ ts stop, tokensFrom position 0 text = .ok (ts ++ [⟨.eof, "", stop⟩]) ∧
      ts.map Token.word = ws := by
  induction h generalizing position with
  | @last w cs h =>
    have hread := h.tokensFrom_append (follows_nil w) position
    rw [List.append_nil] at hread
    exact ⟨[⟨w.1, w.2, position⟩], position + cs.length, hread, rfl⟩
  | @cons w ws cs gap text h hg hb hs ih =>
    obtain ⟨ts, stop, hrest, hts⟩ := ih (position + cs.length + gap.length)
    have hf : Follows w (gap ++ text) := follows_gap w hg hb
    have hread := h.tokensFrom_append hf position
    rw [tokensFrom_gap hg hb _ hs.head_isAsciiBlank, hrest] at hread
    exact ⟨⟨w.1, w.2, position⟩ :: ts, stop, hread, congrArg (w :: ·) hts⟩
  | @touch w v ws cs text h ht hs ih =>
    obtain ⟨ts, stop, hrest, hts⟩ := ih (position + cs.length)
    have hread := h.tokensFrom_append (ht.follows hs) position
    rw [hrest] at hread
    exact ⟨⟨w.1, w.2, position⟩ :: ts, stop, hread, congrArg (w :: ·) hts⟩

end Formwork.Visibility
