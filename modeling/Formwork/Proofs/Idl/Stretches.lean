import Formwork.Proofs.Idl.Nested
import Formwork.Proofs.Idl.Rescan

/-!
The stretches of a body. Where no literal is open at the end of a line, and no comment goes on over
lines, the lines of a body may be read one by one: what the assembly of statements has joined is the
text of the stretch behind the last semicolon in code, without its comments.
-/
namespace Formwork.Idl
open Formwork.Text

variable {mode : Mode} {m n : List Marked} {l u s cs body : List Char} {c : Char}

/-! ### Bodies in order -/

/-- The scan stands in a literal. -/
def Mode.InLiteral : Mode → Prop
  | .string _ | .escaped _ => True
  | .code | .lineMark | .lineComment | .blockMark | .blockComment | .closeMark => False

instance : (mode : Mode) → Decidable mode.InLiteral
  | .string _ | .escaped _ => isTrue trivial
  | .code | .lineMark | .lineComment | .blockMark | .blockComment | .closeMark => isFalse id

/-- A text without block comments in which no literal is open at the end of a line. -/
structure Orderly (cs : List Char) : Prop where
  clean : ∀ x ∈ mark cs, x.2 ≠ .blockComment
  lineEnd : ∀ u v, cs = u ++ '\n' :: v → ¬(modeAfter .code u).InLiteral
  ending : ¬(modeAfter .code cs).InLiteral

/-- What an orderly text asks for at each character. -/
def OrderlyAt (mode : Mode) (c : Char) (l : Lexeme) : Prop :=
  l ≠ .blockComment ∧ (c = '\n' → ¬mode.InLiteral)

instance (mode : Mode) (c : Char) (l : Lexeme) : Decidable (OrderlyAt mode c l) :=
  inferInstanceAs (Decidable (l ≠ .blockComment ∧ (c = '\n' → ¬mode.InLiteral)))

theorem along_orderlyAt_iff : Along OrderlyAt mode cs ↔
    (∀ x ∈ markFrom mode cs, x.2 ≠ .blockComment) ∧
      ∀ u v, cs = u ++ '\n' :: v → ¬(modeAfter mode u).InLiteral := by
  induction cs generalizing mode with
  | nil => exact iff_of_true trivial ⟨List.forall_mem_nil _, fun u v h => by simp at h⟩
  | cons c cs ih =>
    rw [Along, ih, markFrom, List.forall_mem_cons]
    constructor
    · rintro ⟨⟨hc, hfeed⟩, hclean, hend⟩
      refine ⟨⟨hc, hclean⟩, fun u v h => ?_⟩
      cases u with
      | nil => exact hfeed (List.cons.inj h).1
      | cons d u =>
        obtain ⟨rfl, rfl⟩ := List.cons.inj h
        rw [modeAfter, ← Mode.step_head?_append mode c u v]
        exact hend u v rfl
    · rintro ⟨⟨hc, hclean⟩, hend⟩
      refine ⟨⟨hc, fun e => hend [] cs (e ▸ rfl)⟩, hclean, ?_⟩
      rintro u v rfl
      have hopen := hend (c :: u) v rfl
      rwa [modeAfter, ← Mode.step_head?_append mode c u v] at hopen

theorem orderly_iff : Orderly cs ↔ Along OrderlyAt .code cs ∧ ¬(modeAfter .code cs).InLiteral := by
  rw [along_orderlyAt_iff]
  exact ⟨fun h => ⟨⟨h.clean, h.lineEnd⟩, h.ending⟩, fun h => ⟨h.1.1, h.1.2, h.2⟩⟩

instance (cs : List Char) : Decidable (Orderly cs) := decidable_of_iff _ orderly_iff.symm

theorem Orderly.removeInnerBlocks (h : Orderly body)
    (hnone : matchingBraceFrom 1 (mark body) = none) : Orderly (removeInnerBlocks body) := by
  obtain ⟨halong, hending⟩ := orderly_iff.1 h
  obtain ⟨hrest, hmode⟩ := halong.dropBlocks ⟨nofun, nofun⟩ hnone
  refine orderly_iff.2 ⟨hrest, ?_⟩
  rw [Mode.outside] at hmode
  rw [Idl.removeInnerBlocks, mark, hmode]
  cases openAfter 0 (markFrom .code body) with
  | zero => exact hending
  | succ depth => exact id

/-! ### Lines -/

/-- A line, the code on it and the comment behind the code. -/
structure IsLine (l u s : List Char) : Prop where
  oneLine : '\n' ∉ l
  clean : ∀ x ∈ mark l, x.2 ≠ .blockComment
  chars : l = u ++ s
  marks : mark l = mark u ++ s.map (·, .lineComment)
  closed : modeAfter .code u = .code

theorem IsLine.lineFeed_not_mem (h : IsLine l u s) : '\n' ∉ u :=
  fun hmem => h.oneLine (h.chars ▸ List.mem_append_left s hmem)

theorem Mode.Proper.eq_code (h : mode.Proper) (hclosed : ¬mode.InLiteral) : mode = .code := by
  cases mode <;> simp_all [Mode.Proper, Mode.InLiteral]

/-- What stands in code, stands in code also where nothing follows. -/
theorem Mode.Proper.step_none (hm : mode.Proper) {next : Option Char}
    (h : (mode.step c next).2 = .code) : mode.step c none = mode.step c next := by
  cases mode <;> grind [Mode.step, Mode.Proper]

theorem markFrom_of_lineComment (hl : '\n' ∉ l) (hm : mode = .lineMark ∨ mode = .lineComment) :
    markFrom mode l = l.map (·, .lineComment) := by
  induction l generalizing mode with
  | nil => rfl
  | cons c l ih =>
    rw [List.mem_cons, not_or] at hl
    have hstep (next : Option Char) : mode.step c next = (.lineComment, .lineComment) := by
      rcases hm with rfl | rfl
      · rfl
      · rw [Mode.step, if_neg (Ne.symm hl.1)]
    rw [markFrom, hstep, ih hl.2 (.inr rfl)]
    rfl

theorem exists_code_comment (hm : mode.Proper) (hl : '\n' ∉ l)
    (hclean : ∀ x ∈ markFrom mode l, x.2 ≠ .blockComment)
    (hclosed : ¬(modeAfter mode l).InLiteral) :
    ∃ u s, l = u ++ s ∧ markFrom mode l = markFrom mode u ++ s.map (·, .lineComment) ∧
      modeAfter mode u = .code := by
  induction l generalizing mode with
  | nil => exact ⟨[], [], rfl, rfl, hm.eq_code hclosed⟩
  | cons c l ih =>
    have hl' := fun hmem => hl (List.mem_cons_of_mem c hmem)
    obtain ⟨hc, hclean⟩ := List.forall_mem_cons.1 hclean
    by_cases hcomment : (mode.step c l.head?).1 = .lineComment
    · -- The comment begins here and goes on to the end of the line.
      have hbegin : mode = .code ∧ (mode.step c l.head?).2 = .lineMark := by
        cases mode <;> grind [Mode.step, Mode.Proper]
      refine ⟨[], c :: l, rfl, ?_, hbegin.1⟩
      rw [markFrom, markFrom, hcomment, markFrom_of_lineComment hl' (.inl hbegin.2)]
      rfl
    · have hclass : (mode.step c l.head?).1 = .code ∨ (mode.step c l.head?).1 = .string := by
        revert hc hcomment
        cases (mode.step c l.head?).1 <;> simp
      obtain ⟨u, s, rfl, hmarks, hmode⟩ := ih (hm.step hclass) hl' hclean hclosed
      have hstep : mode.step c u.head? = mode.step c (u ++ s).head? := by
        cases u with
        | nil => exact hm.step_none hmode
        | cons d u => rfl
      refine ⟨c :: u, s, rfl, ?_, ?_⟩
      · rw [markFrom, markFrom, hstep, hmarks, List.cons_append]
      · rw [modeAfter, hstep, hmode]

theorem ne_blockComment_of_modeAfter (hclean : ∀ x ∈ mark u, x.2 ≠ .blockComment) :
    modeAfter .code u ≠ .blockComment := by
  intro h
  have hstrip := stripped_modeAfter rfl hclean
  rw [h] at hstrip
  cases hstrip

theorem modeAfter_lineFeed (hm : ¬mode.IsMidway) (hb : mode ≠ .blockComment) (v : List Char) :
    modeAfter mode ('\n' :: v) = modeAfter .code v := by
  cases mode <;> simp_all [modeAfter, Mode.step, Mode.IsMidway]

/-- The lines of an orderly text are lines of code with comments behind it. -/
theorem Orderly.exists_isLine {cs : List Char} (h : Orderly cs) :
    ∀ l ∈ pieces (· == '\n') cs, ∃ u s, IsLine l u s := by
  by_cases hn : '\n' ∈ cs
  · obtain ⟨l, rest, he, hl⟩ := List.eq_append_cons_of_mem hn
    have hshorter : rest.length < cs.length := by
      rw [he, List.length_append, List.length_cons]
      omega
    subst he
    have hclean := h.clean
    have hfront : ∀ x ∈ mark l, x.2 ≠ .blockComment := fun x hx => hclean x <| by
      rw [mark, markFrom_append_lineFeed]
      exact List.mem_append_left _ hx
    have hmode := ne_blockComment_of_modeAfter hfront
    have hbehind (u : List Char) : modeAfter .code (l ++ '\n' :: u) = modeAfter .code u := by
      rw [modeAfter_append_lineFeed, modeAfter_lineFeed (not_isMidway_modeAfter id l) hmode]
    rw [mark_append_lineFeed hmode] at hclean
    have hrest : Orderly rest := by
      refine ⟨fun x hx => ?_, fun u v he => ?_, ?_⟩
      · exact hclean x (List.mem_append_right _ (List.mem_cons_of_mem _ hx))
      · rw [← hbehind]
        exact h.lineEnd (l ++ '\n' :: u) v (by simp [he])
      · rw [← hbehind]
        exact h.ending
    rw [pieces_append_lineFeed hl]
    refine List.forall_mem_cons.2 ⟨?_, Orderly.exists_isLine hrest⟩
    obtain ⟨u, s, hchars, hmarks, hcode⟩ :=
      exists_code_comment Mode.proper_code hl hfront (h.lineEnd l rest rfl)
    exact ⟨u, s, hl, hfront, hchars, hmarks, hcode⟩
  · have hone : ∀ c ∈ cs, (c == '\n') = false := fun c hc =>
      beq_eq_false_iff_ne.2 fun e => hn (e ▸ hc)
    rw [pieces_eq_singleton hone]
    obtain ⟨u, s, hchars, hmarks, hcode⟩ :=
      exists_code_comment Mode.proper_code hn h.clean h.ending
    exact List.forall_mem_singleton.2 ⟨u, s, hn, h.clean, hchars, hmarks, hcode⟩
termination_by cs.length

theorem IsLine.splitLineComment (h : IsLine l u s) :
    splitLineComment l = (strip u, strip (s.drop 2)) := by
  have hclean : ∀ x ∈ mark u, x.2 ≠ .lineComment := fun _ =>
    ne_lineComment_of_mem_markFrom h.lineFeed_not_mem h.closed
  have hcomment : splitAtLineComment (s.map (·, .lineComment)) = ([], s) := by
    cases s with
    | nil => rfl
    | cons c s => simp [splitAtLineComment, Function.comp_def]
  rw [Idl.splitLineComment, h.marks, splitAtLineComment_append hclean, hcomment, mark_map_fst,
    List.append_nil]

/-! ### The text of a stretch -/

/-- The characters of marked text that stand in no line comment. -/
def visible (m : List Marked) : List Char := (m.filter (·.2 != .lineComment)).map (·.1)

/-- The text of a stretch of a body: its lines without their comments, stripped, the empty ones left
out, and joined by single spaces. -/
def stretchText (m : List Marked) : List Char :=
  joinWith [' '] (((pieces (· == '\n') (visible m)).map strip).filter (· != []))

@[simp] theorem visible_append (m n : List Marked) : visible (m ++ n) = visible m ++ visible n := by
  simp [visible]

theorem visible_of_code (h : ∀ x ∈ m, x.2 ≠ .lineComment) : visible m = m.map (·.1) := by
  rw [visible, List.filter_eq_self.2]
  intro x hx
  simp [h x hx]

theorem visible_blanks (b : List Char) : visible (b.map (·, .code)) = b := by
  simp [visible, List.filter_map, Function.comp_def]

theorem visible_comment (s : List Char) : visible (s.map (·, .lineComment)) = [] := by
  simp [visible]

theorem joinWith_ne_nil {ps : List (List Char)} (hps : ∀ p ∈ ps, p ≠ []) (hne : ps ≠ [])
    (sep : List Char) : joinWith sep ps ≠ [] := by
  obtain ⟨p, ps, rfl⟩ := List.exists_cons_of_ne_nil hne
  have hp := hps p List.mem_cons_self
  cases ps with
  | nil => exact hp
  | cons q ps => simp [joinWith, hp]

theorem joinWith_append {ps qs : List (List Char)} (hps : ∀ p ∈ ps, p ≠ [])
    (hqs : ∀ q ∈ qs, q ≠ []) :
    joinWith [' '] (ps ++ qs) = joined (joinWith [' '] ps) (joinWith [' '] qs) := by
  by_cases hq : qs = []
  · rw [hq, List.append_nil]
    rfl
  · have hjoin := joinWith_ne_nil hqs hq [' ']
    rw [joined, if_neg hjoin]
    induction ps with
    | nil => rfl
    | cons p ps ih =>
      rw [if_neg (joinWith_ne_nil hps (List.cons_ne_nil p ps) _)]
      cases ps with
      | nil =>
        obtain ⟨q, qs, rfl⟩ := List.exists_cons_of_ne_nil hq
        simp [joinWith]
      | cons r ps =>
        have hrest := ih fun p hp => hps p (List.mem_cons_of_mem _ hp)
        rw [if_neg (joinWith_ne_nil (fun p hp => hps p (List.mem_cons_of_mem _ hp))
          (List.cons_ne_nil r ps) _)] at hrest
        rw [List.cons_append, List.cons_append, joinWith, ← List.cons_append, hrest]
        simp [joinWith]

theorem stretchText_append_lineFeed (m n : List Marked) :
    stretchText (m ++ ('\n', .code) :: n) = joined (stretchText m) (stretchText n) := by
  have hvisible : visible (m ++ ('\n', .code) :: n) = visible m ++ '\n' :: visible n := by
    simp [visible]
  rw [stretchText, hvisible, pieces_append_cons _ rfl, List.map_append, List.filter_append,
    joinWith_append, ← stretchText, ← stretchText]
  all_goals
    intro p hp
    simpa using (List.mem_filter.1 hp).2

theorem stretchText_of_line (h : '\n' ∉ visible m) : stretchText m = strip (visible m) := by
  have hone : ∀ c ∈ visible m, (c == '\n') = false := fun c hc =>
    beq_eq_false_iff_ne.2 fun e => h (e ▸ hc)
  rw [stretchText, pieces_eq_singleton hone, List.map_singleton]
  by_cases hs : strip (visible m) = []
  · simp [hs, joinWith]
  · simp [hs, joinWith]

/-- Marked text that ends where a line begins. -/
def AtLineStart (m : List Marked) : Prop := m = [] ∨ ∃ n, m = n ++ [('\n', .code)]

theorem AtLineStart.stretchText_append (h : AtLineStart m) (n : List Marked) :
    stretchText (m ++ n) = joined (stretchText m) (stretchText n) := by
  rcases h with rfl | ⟨k, rfl⟩
  · exact (joined_nil_left _).symm
  · rw [List.append_assoc, List.singleton_append, stretchText_append_lineFeed,
      stretchText_append_lineFeed]
    rfl

theorem AtLineStart.stretchText_append_of_line (h : AtLineStart m) (hn : '\n' ∉ visible n) :
    stretchText (m ++ n) = joined (stretchText m) (strip (visible n)) := by
  rw [h.stretchText_append, stretchText_of_line hn]

/-- The statements that a text completes: its stretches up to a semicolon in code, empty ones left
out. -/
def completed (cs : List Char) : List (List Char) :=
  ((cutMarks (mark cs)).1.map stretchText).filter (· != [';'])

/-- The statement that a text has begun: the stretch behind the last semicolon in code. -/
def begun (cs : List Char) : List Char := stretchText (cutMarks (mark cs)).2

theorem semicolon_not_mem_blanks {b : List Char} (hb : ∀ c ∈ b, isBlank c = true) :
    (';', .code) ∉ b.map (·, Lexeme.code) := by
  intro hmem
  obtain ⟨c, hc, he⟩ := List.mem_map.1 hmem
  obtain rfl : c = ';' := (Prod.mk.inj he).1
  exact absurd (hb ';' hc) (by decide)

/-- Within a line a stretch is text without comments. -/
theorem IsLine.visible_of_subset (h : IsLine l u s) {t : List Marked}
    (ht : ∀ x ∈ t, x ∈ mark (strip u)) : visible t = t.map (·.1) ∧ '\n' ∉ t.map (·.1) := by
  obtain ⟨-, -, -, -, -, hcode, -⟩ := exists_strip_of_code h.lineFeed_not_mem h.closed
  have hn : '\n' ∉ strip u := fun hmem => h.lineFeed_not_mem (mem_of_mem_strip hmem)
  refine ⟨visible_of_code fun x hx => ne_lineComment_of_mem_markFrom hn hcode (ht x hx), ?_⟩
  intro hmem
  obtain ⟨x, hx, he⟩ := List.mem_map.1 hmem
  have hchar := List.mem_map_of_mem (f := (·.1)) (ht x hx)
  rw [mark_map_fst, he] at hchar
  exact hn hchar

/-- A line is cut where its code is cut; the white space around the code and the comment go to the
first stretch and to the rest. -/
theorem IsLine.exists_cutMarks (h : IsLine l u s) (huncut : (';', .code) ∉ m) :
    ∃ a b : List Char, (∀ c ∈ a, isBlank c = true) ∧ (∀ c ∈ b, isBlank c = true) ∧
      u = a ++ (strip u ++ b) ∧
      cutMarks (m ++ mark l) = prepend (m ++ a.map (·, .code)) ((cutMarks (mark (strip u))).1,
        (cutMarks (mark (strip u))).2 ++ (b.map (·, .code) ++ s.map (·, .lineComment))) := by
  obtain ⟨a, b, ha, hb, hchars, -, hmark⟩ := exists_strip_of_code h.lineFeed_not_mem h.closed
  have hfront : (';', .code) ∉ m ++ a.map (·, Lexeme.code) := by
    rw [List.mem_append, not_or]
    exact ⟨huncut, semicolon_not_mem_blanks ha⟩
  have htail : (';', .code) ∉ b.map (·, Lexeme.code) ++ s.map (·, Lexeme.lineComment) := by
    rw [List.mem_append, not_or]
    exact ⟨semicolon_not_mem_blanks hb, by simp⟩
  have hsplit : m ++ mark l = (m ++ a.map (·, Lexeme.code)) ++
      (mark (strip u) ++ (b.map (·, Lexeme.code) ++ s.map (·, Lexeme.lineComment))) := by
    rw [h.marks, hmark]
    simp
  exact ⟨a, b, ha, hb, hchars, by
    rw [hsplit, cutMarks_prepend hfront, cutMarks_append_of_not_mem htail]⟩

/-- What the stretches of a line add to a stretch that has begun before it. -/
theorem IsLine.cut (h : IsLine l u s) (hm : AtLineStart m) (huncut : (';', .code) ∉ m) :
    ((cutMarks (m ++ mark l)).1.map stretchText).filter (· != [';']) =
        completedTexts (stretchText m) (cutMarks (mark (strip u))).1 ∧
      stretchText (cutMarks (m ++ mark l)).2 =
        restText (stretchText m) (strip u) (cutMarks (mark (strip u))) := by
  obtain ⟨a, b, ha, hb, hchars, hmarks⟩ := h.exists_cutMarks huncut
  have hu := h.lineFeed_not_mem
  have hflat := flatten_cutMarks (mark (strip u))
  rw [hmarks]
  cases hcut : cutMarks (mark (strip u)) with
  | mk complete rest =>
    rw [hcut] at hflat
    cases complete with
    | nil =>
      obtain rfl : rest = mark (strip u) := hflat
      refine ⟨rfl, ?_⟩
      have hvisible : visible (a.map (·, .code) ++ (mark (strip u) ++
          (b.map (·, .code) ++ s.map (·, .lineComment)))) = u := by
        rw [visible_append, visible_append, visible_append, visible_blanks, visible_blanks,
          visible_comment, (h.visible_of_subset fun _ hx => hx).1, mark_map_fst, List.append_nil,
          ← hchars]
      rw [prepend, List.append_assoc, hm.stretchText_append_of_line (by rwa [hvisible]), hvisible]
      rfl
    | cons t more =>
      have hmem : ∀ k ∈ t :: more, ∀ x ∈ k, x ∈ mark (strip u) := fun k hk x hx =>
        hflat ▸ List.mem_append_left rest (List.mem_flatten_of_mem hk hx)
      obtain ⟨ht, htn⟩ := h.visible_of_subset (hmem t List.mem_cons_self)
      obtain ⟨hrest, hrestn⟩ :=
        h.visible_of_subset fun x hx => hflat ▸ List.mem_append_right (t :: more).flatten hx
      have hfirst : visible (a.map (·, .code) ++ t) = a ++ t.map (·.1) := by
        rw [visible_append, visible_blanks, ht]
      have hlast : visible (rest ++ (b.map (·, .code) ++ s.map (·, .lineComment))) =
          rest.map (·.1) ++ b := by
        rw [visible_append, visible_append, visible_blanks, visible_comment, hrest, List.append_nil]
      have hmore : more.map stretchText = more.map fun k => strip (k.map (·.1)) := by
        refine List.map_congr_left fun k hk => ?_
        obtain ⟨hk', hkn⟩ := h.visible_of_subset (hmem k (List.mem_cons_of_mem t hk))
        rw [stretchText_of_line (by rwa [hk']), hk']
      have hstrip := (strip_of_cutMarks (strip_strip u) hcut).1
      refine ⟨?_, ?_⟩
      · rw [prepend, List.append_assoc, List.map_cons, hmore, hm.stretchText_append_of_line, hfirst]
        · rw [strip, stripLeft_append ha, ← strip, hstrip]
          rfl
        · rw [hfirst, List.mem_append, not_or]
          exact ⟨fun hmem => hu (hchars ▸ List.mem_append_left _ hmem), htn⟩
      · rw [prepend, stretchText_of_line, hlast, strip_append_of_blank hb]
        · rfl
        · rw [hlast, List.mem_append, not_or]
          refine ⟨hrestn, fun hmem => hu ?_⟩
          exact hchars ▸ List.mem_append_right a (List.mem_append_right _ hmem)

/-! ### Text line by line -/

/-- The text of lines, each with its line feed. -/
def unlines (ls : List (List Char)) : List Char := ls.flatMap (· ++ ['\n'])

theorem unlines_append (ls ls' : List (List Char)) :
    unlines (ls ++ ls') = unlines ls ++ unlines ls' := List.flatMap_append

theorem unlines_pieces (cs : List Char) : unlines (pieces (· == '\n') cs) = cs ++ ['\n'] := by
  induction cs with
  | nil => rfl
  | cons c cs ih =>
    rw [pieces]
    by_cases hc : c = '\n'
    · subst hc
      rw [if_pos (beq_self_eq_true _), List.cons_append, ← ih]
      rfl
    · obtain ⟨p, ps, hp⟩ := List.exists_cons_of_ne_nil (pieces_ne_nil (· == '\n') cs)
      rw [hp] at ih ⊢
      rw [if_neg (by simp [hc]), List.cons_append, ← ih]
      rfl

def AllLines (ls : List (List Char)) : Prop := ∀ l ∈ ls, ∃ u s, IsLine l u s

theorem IsLine.mark_append_lineFeed (h : IsLine l u s) (v : List Char) :
    mark (l ++ '\n' :: v) = mark l ++ ('\n', .code) :: mark v :=
  Idl.mark_append_lineFeed (ne_blockComment_of_modeAfter h.clean) v

theorem AllLines.mark_append {ls : List (List Char)} (h : AllLines ls) (v : List Char) :
    mark (unlines ls ++ v) = mark (unlines ls) ++ mark v := by
  induction ls with
  | nil => rfl
  | cons l ls ih =>
    obtain ⟨⟨u, s, hl⟩, hls⟩ := List.forall_mem_cons.1 h
    have hcons (v : List Char) : unlines (l :: ls) ++ v = l ++ '\n' :: (unlines ls ++ v) := by
      simp [unlines]
    have hone := hcons []
    rw [List.append_nil, List.append_nil] at hone
    rw [hcons, hone, hl.mark_append_lineFeed, hl.mark_append_lineFeed, ih hls, List.append_assoc,
      List.cons_append]

theorem AllLines.atLineStart {ls : List (List Char)} (h : AllLines ls) :
    AtLineStart (cutMarks (mark (unlines ls))).2 := by
  rcases List.eq_nil_or_concat ls with rfl | ⟨ls, l, rfl⟩
  · exact .inl rfl
  · rw [List.concat_eq_append] at h ⊢
    have hls : AllLines ls := fun k hk => h k (List.mem_append_left _ hk)
    obtain ⟨u, s, hl⟩ := h l (List.mem_append_right ls (List.mem_singleton_self l))
    have hlast : unlines [l] = l ++ ['\n'] := by simp [unlines]
    rw [unlines_append, hls.mark_append, hlast, hl.mark_append_lineFeed, ← List.append_assoc,
      show mark [] = [] from rfl, cutMarks_append_of_not_mem (by decide)]
    exact .inr ⟨_, rfl⟩

variable {ls : List (List Char)}

theorem IsLine.completed_lineFeed (h : IsLine l u s) (hls : AllLines ls) :
    completed (unlines (ls ++ [l])) = completed (unlines ls ++ l) ∧
      begun (unlines (ls ++ [l])) = begun (unlines ls ++ l) := by
  have hlast : unlines [l] = l ++ ['\n'] := by simp [unlines]
  have hmark : mark (unlines (ls ++ [l])) = mark (unlines ls ++ l) ++ [('\n', .code)] := by
    rw [unlines_append, hls.mark_append, hls.mark_append, hlast, h.mark_append_lineFeed,
      List.append_assoc]
    rfl
  rw [completed, begun, hmark, cutMarks_append_of_not_mem (by decide), stretchText_append_lineFeed]
  exact ⟨rfl, rfl⟩

/-- A step: what a line adds to the statements that the lines before it complete, and to the
statement that they have begun. -/
theorem IsLine.completed_append (h : IsLine l u s) (hls : AllLines ls) :
    completed (unlines ls ++ l) = completed (unlines ls) ++
        completedTexts (begun (unlines ls)) (cutMarks (mark (strip u))).1 ∧
      begun (unlines ls ++ l) =
        restText (begun (unlines ls)) (strip u) (cutMarks (mark (strip u))) := by
  obtain ⟨hfound, hrest⟩ := h.cut hls.atLineStart (not_mem_cutMarks _)
  constructor
  · rw [completed, hls.mark_append, cutMarks_append, List.map_append, List.filter_append, hfound]
    rfl
  · rw [begun, hls.mark_append, cutMarks_append]
    exact hrest

end Formwork.Idl
