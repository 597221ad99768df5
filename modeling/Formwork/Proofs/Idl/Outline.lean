import Formwork.Proofs.Idl.Header
import Formwork.Proofs.Idl.Nesting

/-!
The outline of a text: the names and the bodies of its blocks in the order of their headers. Lines
of declarations add nothing to it, and a balanced block adds itself and what is nested in it.
-/
namespace Formwork.Idl
open Formwork.Text

/-- The names and the bodies of the blocks whose headers begin in marked text. -/
def outline (k : List Char) (afterWord : Bool) (m : List Marked) : List (List Char × List Char) :=
  (blocksFrom k 0 afterWord 0 m).map fun b => (b.name, b.body)

/-- Where a text stands in the source tells only where its blocks start. -/
theorem blocksFrom_add (k : List Char) (position distance : Nat) (afterWord : Bool) (skip : Nat)
    (m : List Marked) :
    blocksFrom k (position + distance) afterWord skip m =
      (blocksFrom k position afterWord skip m).map fun b =>
        { b with start := b.start + distance } := by
  induction m generalizing position afterWord skip with
  | nil => rfl
  | cons x m ih =>
    obtain ⟨c, l⟩ := x
    cases skip with
    | succ skip =>
      rw [blocksFrom, blocksFrom, Nat.add_right_comm, ih]
    | zero =>
      rw [blocksFrom, blocksFrom, Nat.add_right_comm]
      cases h : headerAt? k afterWord c m with
      | none => exact ih ..
      | some found =>
        obtain ⟨name, count⟩ := found
        simp only [List.map_append, ih]
        congr 1
        split <;> simp_all

theorem outline_eq (k : List Char) (position : Nat) (afterWord : Bool) (m : List Marked) :
    (blocksFrom k position afterWord 0 m).map (fun b => (b.name, b.body)) =
      outline k afterWord m := by
  have h := blocksFrom_add k 0 position afterWord 0 m
  rw [Nat.zero_add] at h
  rw [h, List.map_map]
  rfl

variable {k : List Char} {afterWord : Bool} {m : List Marked}

theorem outline_nil (k : List Char) (afterWord : Bool) : outline k afterWord [] = [] := rfl

theorem outline_cons_of_noHeader (hk : IsName k) {c : Char} (h : NoHeader k afterWord c (m.map (·.1)))
    (l : Lexeme) : outline k afterWord ((c, l) :: m) = outline k (isWord c) m := by
  rw [outline, blocksFrom_cons hk, headerAt?_eq_none h, List.nil_append, outline_eq]

theorem outline_cons_of_ne_code (hk : IsName k) (c : Char) {l : Lexeme} (h : l ≠ .code) :
    outline k afterWord ((c, l) :: m) = outline k (isWord c) m := by
  rw [outline, blocksFrom_cons hk, List.map_append, outline_eq]
  split
  · simp [blockAt, h]
  · rfl

/-- Quiet text adds nothing. -/
theorem outline_append_of_quiet (hk : IsName k) {u : List Marked} {x : Marked}
    (h : Quiet k (u.length + 1) afterWord ((u ++ x :: m).map (·.1))) :
    outline k afterWord (u ++ x :: m) = outline k (isWord x.1) m := by
  induction u generalizing afterWord with
  | nil => exact outline_cons_of_noHeader hk h.1 x.2
  | cons y u ih =>
    obtain ⟨c, l⟩ := y
    rw [List.cons_append, List.map_cons] at h
    obtain ⟨hc, hrest⟩ := h
    rw [List.cons_append, outline_cons_of_noHeader hk hc, ih hrest]

/-! ### Lines of declarations -/

/-- A character of a declaration outside its literals. -/
def InDeclaration (c : Char) : Prop := c ≠ '\n' ∧ c ≠ '{' ∧ c ≠ '}' ∧ c ≠ ';'

/-- In a declaration another stop comes before any brace. -/
theorem Written.find?_isStop {u : List Char} (hu : Written InDeclaration u) (v : List Char) :
    (u ++ ';' :: v).find? isStop ≠ some '{' := by
  induction hu with
  | nil => simp [show isStop ';' = true by decide]
  | @code c cs _ hp _ ih =>
    rw [List.cons_append, List.find?_cons]
    cases isStop c with
    | false => exact ih
    | true => simp [hp.2.1]
  | literal _ _ _ =>
    rw [Idl.literal]
    simp [show isStop '"' = true by decide]

theorem outline_append_of_string (hk : IsName k) (s : List Char) :
    outline k afterWord ((s ++ ['"']).map (·, .string) ++ m) = outline k false m := by
  induction s generalizing afterWord with
  | nil => exact outline_cons_of_ne_code hk '"' (by simp)
  | cons c s ih =>
    rw [List.cons_append, List.map_cons, List.cons_append,
      outline_cons_of_ne_code hk c (by simp), ih]

/-- A declaration adds nothing to the outline. -/
theorem Written.outline_append (hk : IsName k) {u : List Char} (hu : Written InDeclaration u)
    (m : List Marked) :
    outline k afterWord (mark (u ++ [';']) ++ m) = outline k false m := by
  induction hu generalizing afterWord with
  | nil =>
    refine outline_cons_of_noHeader hk (.inr (.inr ?_)) .code
    exact header?_eq_none hk (Written.find?_isStop .nil _)
  | @code c cs hc hp hcs ih =>
    rw [List.cons_append, mark_cons_of_plain hc, List.cons_append,
      outline_cons_of_noHeader hk (.inr (.inr ?_)), ih]
    rw [List.map_append, mark_map_fst, List.append_assoc]
    exact header?_eq_none hk (Written.find?_isStop (.code hc hp hcs) _)
  | @literal s cs hn _ ih =>
    rw [List.append_assoc, mark_literal_append hn, List.append_assoc, Idl.literal,
      outline_append_of_string hk, ih]

/-- Characters of code between words add nothing to the outline. -/
theorem outline_append_of_gap (hk : IsName k) {b : List Char} (hb : ∀ c ∈ b, isWord c = false)
    (m : List Marked) : outline k false (b.map (·, .code) ++ m) = outline k false m := by
  induction b with
  | nil => rfl
  | cons c b ih =>
    have hc := hb c List.mem_cons_self
    rw [List.map_cons, List.cons_append,
      outline_cons_of_noHeader hk (.of_not_word hk false hc _), hc,
      ih fun d hd => hb d (List.mem_cons_of_mem _ hd)]

/-! ### Blocks -/

/-- The front of a block, up to its brace. -/
def front (keyword name : List Char) : List Char := keyword ++ ' ' :: (name ++ [' '])

theorem header?_front_of_ne {w n : List Char} (hk : IsName k) (hw : IsName w) (h : w ≠ k)
    (r : List Char) : header? k (w ++ ' ' :: (n ++ r)) = none := by
  have hnone := dropWord?_bind_dropBlanks? hk hw (n ++ r)
  rw [if_neg h] at hnone
  simp only [header?, bind, ← Option.bind_assoc, hnone, Option.bind_none]

theorem headerAt?_front {w n : List Char} (hw : IsName w) (hn : IsName n) {c : Char}
    {m : List Marked} (h : (c :: m.map (·.1)) = front w n ++ '{' :: r) :
    headerAt? w false c m = some (n, (front w n).length) := by
  have hfront : front w n ++ '{' :: r = w ++ ' ' :: (n ++ ' ' :: '{' :: r) := by simp [front]
  have hlen := congrArg List.length h
  simp only [List.length_cons, List.length_map, List.length_append] at hlen
  cases w with
  | nil => exact hw.elim
  | cons d w =>
    obtain rfl : c = d := (List.cons.inj (h.trans hfront)).1
    have hc := isWord_of_isNameStart hw.1
    rw [headerAt?, if_neg (by simp [hc]), h, hfront, header?_append hn]
    simp only [Option.map_some, List.length_cons, Option.some.injEq, Prod.mk.injEq, true_and]
    omega

/-- The front of a block and a balanced body make a block. -/
theorem blockAt_front {w n : List Char} (hw : IsName w) (hm : Balanced m) (rest : List Marked) :
    blockAt 0 n (front w n).length
        ((front w n).map (·, .code) ++ ('{', .code) :: (m ++ ('}', .code) :: rest)) =
      [{ name := n, body := m.map (·.1), start := 0 }] := by
  have hdrop : ((front w n).map (·, Lexeme.code) ++
      ('{', .code) :: (m ++ ('}', .code) :: rest)).drop (front w n).length =
        ('{', .code) :: (m ++ ('}', .code) :: rest) := by
    rw [List.drop_append_of_le_length (by simp)]
    simp
  have htake : (('{', Lexeme.code) :: (m ++ ('}', .code) :: rest)).take (m.length + 1) =
      ('{', .code) :: m := by simp
  rw [blockAt, hdrop, if_pos ?_, hm.matchingBraceFrom_block]
  · simp only [htake, List.drop_succ_cons, List.drop_zero]
  · cases w with
    | nil => exact hw.elim
    | cons c w => rfl

/-- A block adds itself, if its keyword is asked for, and what is nested in it. -/
theorem outline_block {w n : List Char} (hk : IsName k) (hw : IsName w) (hn : IsName n)
    (hm : Balanced m) (rest : List Marked) :
    outline k false
        ((front w n).map (·, .code) ++ ('{', .code) :: (m ++ ('}', .code) :: rest)) =
      (if w = k then [(n, m.map (·.1))] else []) ++ outline k false (m ++ ('}', .code) :: rest) := by
  have hfront := blockAt_front (n := n) hw hm rest
  cases w with
  | nil => exact hw.elim
  | cons c w =>
    have hc := isWord_of_isNameStart hw.1
    have hspace : ∀ c ∈ [' '], isBlank c = true := by decide
    have hquiet := quiet_header hk hw.2 (List.cons_ne_nil _ _) hspace hn hspace
      ((m ++ ('}', .code) :: rest).map (·.1))
    -- Behind its first character a header is quiet up to the brace.
    have hrest : outline k true ((w ++ ' ' :: (n ++ [' '])).map (·, .code) ++
        ('{', .code) :: (m ++ ('}', .code) :: rest)) =
        outline k false (m ++ ('}', .code) :: rest) := by
      apply outline_append_of_quiet hk
      convert hquiet using 1
      · simp
        omega
      · simp [Function.comp_def]
    have he : (front (c :: w) n).map (·, Lexeme.code) =
        (c, .code) :: (w ++ ' ' :: (n ++ [' '])).map (·, .code) := rfl
    rw [he, List.cons_append] at hfront ⊢
    rw [outline, blocksFrom_cons hk, List.map_append, outline_eq, hc, hrest]
    congr 1
    by_cases hwk : c :: w = k
    · subst hwk
      rw [headerAt?_front (r := (m ++ ('}', .code) :: rest).map (·.1)) hw hn
        (by simp [front, Function.comp_def]), if_pos rfl]
      simp only [hfront, List.map_cons, List.map_nil]
    · rw [headerAt?_eq_none (.inr (.inr ?_)), if_neg hwk]
      · rfl
      · have hne := header?_front_of_ne hk hw hwk
          (n := n) (' ' :: '{' :: (m ++ ('}', .code) :: rest).map (·.1))
        simpa [Function.comp_def] using hne

end Formwork.Idl
