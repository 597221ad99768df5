import Formwork.Proofs.Idl.Outline

/-!
Line feeds as borders. Only a block comment goes on over a line feed, and a search for blocks looks
forward only; so what is found behind a line feed does not depend on the text before it, and what is
found before it stays found, whatever follows and however malformed both texts are.
-/
namespace Formwork.Idl
open Formwork.Text

/-! ### Modes between two lines -/

/-- The scan stands within a mark, or before a character that a backslash protects. -/
def Mode.IsMidway : Mode → Prop
  | .escaped _ | .lineMark | .blockMark | .closeMark => True
  | .code | .string _ | .lineComment | .blockComment => False

/-- A step stops midway only if a character follows. -/
theorem Mode.not_isMidway_step_none (mode : Mode) (c : Char) : ¬(mode.step c none).2.IsMidway := by
  cases mode with
  | string quote =>
    by_cases hn : c = '\n'
    · simp [step, hn, IsMidway]
    · by_cases hq : c = quote
      · subst hq
        simp [step, hn, IsMidway]
      · simp [step, hn, hq, IsMidway]
  | code =>
    by_cases hq : c = '"' ∨ c = '\'' <;> simp [step, hq, IsMidway]
  | lineComment =>
    by_cases hn : c = '\n' <;> simp [step, hn, IsMidway]
  | escaped _ | lineMark | blockMark | blockComment | closeMark => simp [step, IsMidway]

/-- No text ends midway. -/
theorem not_isMidway_modeAfter {mode : Mode} (hm : ¬mode.IsMidway) (u : List Char) :
    ¬(modeAfter mode u).IsMidway := by
  have hne : ∀ (mode : Mode) (c : Char) (u : List Char), ¬(modeAfter mode (c :: u)).IsMidway := by
    intro mode c u
    induction u generalizing mode c with
    | nil => exact mode.not_isMidway_step_none c
    | cons d u ih => exact ih (mode.step c (some d)).2 d
  cases u with
  | nil => exact hm
  | cons c u => exact hne mode c u

/-- Behind a line feed the scan stands in code, unless it was midway or in a block comment. -/
theorem markFrom_lineFeed {mode : Mode} (hm : ¬mode.IsMidway) (hb : mode ≠ .blockComment)
    (v : List Char) : markFrom mode ('\n' :: v) = ('\n', .code) :: mark v := by
  cases mode with
  | code | string _ | lineComment => simp [markFrom, Mode.step, mark]
  | blockComment => exact absurd rfl hb
  | escaped _ | lineMark | blockMark | closeMark => exact absurd trivial hm

/-- The text behind a line feed is scanned as if it stood alone, unless the line feed lies in a
block comment. -/
theorem mark_append_lineFeed {u : List Char} (h : modeAfter .code u ≠ .blockComment)
    (v : List Char) : mark (u ++ '\n' :: v) = mark u ++ ('\n', .code) :: mark v := by
  rw [mark, markFrom_append_lineFeed, markFrom_lineFeed (not_isMidway_modeAfter id u) h]
  rfl

theorem length_mark (u : List Char) : (mark u).length = u.length := by
  have h := congrArg List.length (mark_map_fst u)
  rwa [List.length_map] at h

/-! ### Looking forward only -/

/-- A header is read off its pieces. -/
theorem header?_of_pieces {k b₁ n b₂ : List Char} (hne : b₁ ≠ [])
    (hb₁ : ∀ c ∈ b₁, isBlank c = true) (hn : IsName n) (hb₂ : ∀ c ∈ b₂, isBlank c = true)
    (r : List Char) : header? k (k ++ (b₁ ++ (n ++ (b₂ ++ '{' :: r)))) = some (n, '{' :: r) := by
  have hblanks : dropBlanks? (b₁ ++ (n ++ (b₂ ++ '{' :: r))) = some (n ++ (b₂ ++ '{' :: r)) := by
    cases b₁ with
    | nil => exact absurd rfl hne
    | cons b b₁ =>
      rw [List.cons_append, dropBlanks?, if_pos (hb₁ b List.mem_cons_self),
        stripLeft_append fun c hc => hb₁ c (List.mem_cons_of_mem _ hc), stripLeft_name hn]
  have hname : identifier? (n ++ (b₂ ++ '{' :: r)) = some (n, b₂ ++ '{' :: r) := by
    apply identifier?_append hn
    intro c hc
    cases b₂ with
    | nil =>
      rw [← Option.some.inj hc]
      decide
    | cons b b₂ =>
      rw [← Option.some.inj hc]
      exact isWord_of_isBlank (hb₂ b List.mem_cons_self)
  have hbrace : stripLeft (b₂ ++ '{' :: r) = '{' :: r := by
    rw [stripLeft_append hb₂, stripLeft_cons (by decide)]
  simp only [header?, dropWord?_append, hblanks, hname, bind, Option.bind_some, hbrace]

/-- A header is read the same whatever follows its brace. -/
theorem header?_append_of_eq_some {k cs n body : List Char} (h : header? k cs = some (n, body))
    (r : List Char) : header? k (cs ++ r) = some (n, body ++ r) := by
  obtain ⟨b₁, b₂, t, hne, hb₁, hn, hb₂, rfl, rfl⟩ := header?_eq_some h
  have hread := header?_of_pieces (k := k) hne hb₁ hn hb₂ (t ++ r)
  simpa using hread

theorem headerAt?_append_of_eq_some {k : List Char} {afterWord : Bool} {c : Char} {m : List Marked}
    {n : List Char} {count : Nat} (h : headerAt? k afterWord c m = some (n, count))
    (r : List Marked) : headerAt? k afterWord c (m ++ r) = some (n, count) := by
  rw [headerAt?] at h ⊢
  split at h
  · cases h
  · next hw =>
    obtain ⟨⟨name, body⟩, hb, he⟩ := Option.map_eq_some_iff.1 h
    obtain ⟨rfl, rfl⟩ := Prod.mk.inj he
    have hcount : (m ++ r).length + 1 - (body ++ r.map (·.1)).length =
        m.length + 1 - body.length := by
      simp only [List.length_append, List.length_map]
      omega
    rw [if_neg hw, List.map_append, ← List.cons_append, header?_append_of_eq_some hb]
    exact congrArg (fun count => some (name, count)) hcount

theorem matchingBraceFrom_append_of_eq_some {depth : Int} {m : List Marked} {n : Nat}
    (h : matchingBraceFrom depth m = some n) (r : List Marked) :
    matchingBraceFrom depth (m ++ r) = some n ∧ n < m.length := by
  induction m generalizing depth n with
  | nil => cases h
  | cons x m ih =>
    obtain ⟨c, l⟩ := x
    have hskip {depth : Int} (hn : (matchingBraceFrom depth m).map (· + 1) = some n) :
        (matchingBraceFrom depth (m ++ r)).map (· + 1) = some n ∧ n < m.length + 1 := by
      obtain ⟨n', hn', rfl⟩ := Option.map_eq_some_iff.1 hn
      obtain ⟨hr, hlt⟩ := ih hn'
      exact ⟨by rw [hr]; rfl, Nat.succ_lt_succ hlt⟩
    rw [matchingBraceFrom] at h
    rw [List.cons_append, matchingBraceFrom, List.length_cons]
    split at h
    · next hopen => rw [if_pos hopen]; exact hskip h
    · next hopen =>
      rw [if_neg hopen]
      split at h
      · next hclose =>
        rw [if_pos hclose]
        split at h
        · next hd =>
          rw [if_pos hd]
          exact ⟨h, by rw [← Option.some.inj h]; exact Nat.succ_pos _⟩
        · next hd => rw [if_neg hd]; exact hskip h
      · next hclose => rw [if_neg hclose]; exact hskip h

/-- The block at the front of marked text, if a header begins there and the block is closed. -/
def blockHere (k : List Char) (position : Nat) (afterWord : Bool) (c : Char) (l : Lexeme)
    (m : List Marked) : List Block :=
  match headerAt? k afterWord c m with
  | some (name, count) => blockAt position name count ((c, l) :: m)
  | none => []

variable {k : List Char} {position : Nat} {afterWord : Bool}

theorem start_of_mem_blockHere {c : Char} {l : Lexeme} {m : List Marked} {b : Block}
    (hb : b ∈ blockHere k position afterWord c l m) : b.start = position := by
  rw [blockHere] at hb
  split at hb
  · rw [blockAt] at hb
    split at hb
    · rw [List.mem_singleton.1 hb]
    · cases hb
  · cases hb

/-- A block that is closed stays as it is, whatever follows. -/
theorem blockHere_append (c : Char) (l : Lexeme) (m r : List Marked) :
    (blockHere k position afterWord c l m).Sublist
      (blockHere k position afterWord c l (m ++ r)) := by
  rw [blockHere]
  cases hh : headerAt? k afterWord c m with
  | none => exact List.nil_sublist _
  | some found =>
    obtain ⟨name, count⟩ := found
    rw [blockHere, headerAt?_append_of_eq_some hh]
    simp only [blockAt]
    split
    · next n hn =>
      split at hn
      · next hl =>
        obtain ⟨hn', hlt⟩ := matchingBraceFrom_append_of_eq_some hn r
        have hcount : count ≤ ((c, l) :: m).length := by
          rw [List.length_drop] at hlt
          omega
        have hdrop : ((c, l) :: (m ++ r)).drop count = ((c, l) :: m).drop count ++ r := by
          rw [← List.cons_append, List.drop_append_of_le_length hcount]
        rw [List.head?_cons] at hl ⊢
        simp only [if_pos hl, hdrop, hn', List.take_append_of_le_length hlt.le]
        exact .refl _
      · cases hn
    · exact List.nil_sublist _

/-! ### Blocks on both sides of a line feed -/

theorem blocksFrom_eq_append (hk : IsName k) (c : Char) (l : Lexeme) (m : List Marked) :
    blocksFrom k position afterWord 0 ((c, l) :: m) =
      blockHere k position afterWord c l m ++ blocksFrom k (position + 1) (isWord c) 0 m :=
  blocksFrom_cons hk position afterWord c l m

/-- The blocks of two texts with a line feed between them: those whose headers begin before the line
feed, all blocks of the first text among them, and then the blocks of the second. -/
theorem blocksFrom_append_lineFeed (hk : IsName k) (position : Nat) (afterWord : Bool)
    (m n : List Marked) :
    ∃ bs, blocksFrom k position afterWord 0 (m ++ ('\n', .code) :: n) =
        bs ++ blocksFrom k (position + (m.length + 1)) false 0 n ∧
      (∀ b ∈ bs, b.start < position + m.length) ∧
      (blocksFrom k position afterWord 0 m).Sublist bs := by
  induction m generalizing position afterWord with
  | nil =>
    have hnone : blockHere k position afterWord '\n' .code n = [] := by
      rw [blockHere, headerAt?_eq_none (.of_not_word hk afterWord (by decide) _)]
    refine ⟨[], ?_, fun b hb => absurd hb List.not_mem_nil, List.nil_sublist _⟩
    rw [List.nil_append, blocksFrom_eq_append hk, hnone, List.nil_append, List.nil_append,
      show isWord '\n' = false by decide]
    rfl
  | cons x m ih =>
    obtain ⟨c, l⟩ := x
    obtain ⟨bs, hbs, hstart, hsub⟩ := ih (position + 1) (isWord c)
    refine ⟨blockHere k position afterWord c l (m ++ ('\n', .code) :: n) ++ bs, ?_, ?_, ?_⟩
    · rw [List.cons_append, blocksFrom_eq_append hk, hbs, List.append_assoc, List.length_cons,
        show position + 1 + (m.length + 1) = position + (m.length + 1 + 1) by omega]
    · intro b hb
      rw [List.length_cons]
      rcases List.mem_append.1 hb with hb | hb
      · rw [start_of_mem_blockHere hb]
        omega
      · have hlt := hstart b hb
        omega
    · rw [blocksFrom_eq_append hk]
      exact (blockHere_append c l m _).append hsub

/-- Malformed text hides no blocks elsewhere. Behind a line feed that lies in no block comment the
blocks are those of the text there, and every block of the text before it is found as well. -/
theorem blocks_append_lineFeed {keyword : String} (hk : keyword = "message" ∨ keyword = "enum")
    {a b : List Char} (ha : modeAfter .code a ≠ .blockComment) :
    (blocks keyword (a ++ '\n' :: b)).filter (fun x => a.length < x.start) =
        (blocks keyword b).map (fun x => { x with start := x.start + (a.length + 1) }) ∧
      (blocks keyword a).Sublist (blocks keyword (a ++ '\n' :: b)) := by
  have hname : IsName keyword.toList := by
    rcases hk with rfl | rfl <;> decide
  obtain ⟨bs, hbs, hstart, hsub⟩ :=
    blocksFrom_append_lineFeed hname 0 false (mark a) (mark b)
  have hfull : blocks keyword (a ++ '\n' :: b) =
      bs ++ (blocks keyword b).map fun x => { x with start := x.start + (a.length + 1) } := by
    rw [blocks, mark_append_lineFeed ha, hbs, blocksFrom_add, length_mark, blocks]
  refine ⟨?_, hfull ▸ hsub.trans (List.sublist_append_left _ _)⟩
  have hbefore : bs.filter (fun x => a.length < x.start) = [] := by
    refine List.filter_eq_nil_iff.2 fun x hx => ?_
    have hlt := hstart x hx
    rw [length_mark] at hlt
    rw [decide_eq_true_eq]
    omega
  have hbehind : ∀ x ∈ (blocks keyword b).map
      (fun x => { x with start := x.start + (a.length + 1) }), a.length < x.start := by
    intro x hx
    obtain ⟨y, -, rfl⟩ := List.mem_map.1 hx
    exact Nat.lt_add_left _ (Nat.lt_succ_self _)
  rw [hfull, List.filter_append, hbefore, List.nil_append, List.filter_eq_self]
  intro x hx
  exact decide_eq_true (hbehind x hx)

/-- A closed message before one that is never closed, with a literal left open in it. -/
def brokenText : List Char := "message A \x7b\x7d message B \x7b string s = 1 [x = \"\x7d;".toList

def soundText : List Char := "message C \x7b enum D \x7b\x7d \x7d".toList

theorem blocks_append_brokenText :
    modeAfter .code brokenText ≠ .blockComment ∧
      (blocks "message" (brokenText ++ '\n' :: soundText)).filter
          (fun x => brokenText.length < x.start) =
        [⟨"C".toList, " enum D \x7b\x7d ".toList, 47⟩] ∧
      [⟨"A".toList, [], 0⟩].Sublist (blocks "message" (brokenText ++ '\n' :: soundText)) := by
  have hmode : modeAfter .code brokenText ≠ .blockComment := by decide +kernel
  have hsound : (blocks "message" soundText).map
      (fun x => { x with start := x.start + (brokenText.length + 1) }) =
        [⟨"C".toList, " enum D \x7b\x7d ".toList, 47⟩] := by decide +kernel
  have hbroken : blocks "message" brokenText = [⟨"A".toList, [], 0⟩] := by decide +kernel
  obtain ⟨hbehind, hbefore⟩ := blocks_append_lineFeed (b := soundText) (.inl rfl) hmode
  exact ⟨hmode, hbehind.trans hsound, hbroken ▸ hbefore⟩

end Formwork.Idl
