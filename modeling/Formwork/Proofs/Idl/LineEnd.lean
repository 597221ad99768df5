import Formwork.Proofs.Idl.Assembly
import Formwork.Proofs.Idl.Stripping

/-!
Line comments at the end of a line. Where a text ends in code, a line comment may follow: what
stands before it and what stands behind the line keep their classes, and the code of the line stays
as it is.
-/
namespace Formwork.Idl
open Formwork.Text

/-- A line comment as it is put at the end of a line. -/
def remark (s : List Char) : List Char := ' ' :: '/' :: '/' :: ' ' :: s

/-- The text goes on with the end of a line, or ends. -/
def AtLineEnd : List Char → Prop
  | [] => True
  | c :: _ => c = '\n'

instance : (cs : List Char) → Decidable (AtLineEnd cs)
  | [] => isTrue trivial
  | c :: _ => inferInstanceAs (Decidable (c = '\n'))

/-- The text completes no comment mark that a character before it could begin. -/
def Detached (cs : List Char) : Prop := ∀ c ∈ cs.head?, c ≠ '/' ∧ c ≠ '*'

theorem AtLineEnd.detached {v : List Char} (h : AtLineEnd v) : Detached v := by
  cases v with
  | nil => exact nofun
  | cons c v =>
    obtain rfl : c = '\n' := h
    intro d hd
    obtain rfl := Option.some.inj hd
    decide

theorem detached_cons {c : Char} (hc : c ≠ '/' ∧ c ≠ '*') (v : List Char) : Detached (c :: v) := by
  intro d hd
  obtain rfl := Option.some.inj hd
  exact hc

theorem detached_remark (s v : List Char) : Detached (remark s ++ v) :=
  detached_cons (by decide) _

variable {mode : Mode} {u v s l : List Char}

/-! ### Texts that end in code -/

/-- No literal is opened by a backslash. -/
def Mode.Sound (mode : Mode) : Prop := mode ≠ .string '\\' ∧ mode ≠ .escaped '\\'

theorem Mode.sound_code : Mode.code.Sound := ⟨nofun, nofun⟩

theorem Mode.Sound.step (hm : mode.Sound) (c : Char) (next : Option Char) :
    (mode.step c next).2.Sound := by
  cases mode <;> grind [Mode.step, Mode.Sound]

/-- Only the second character of a comment mark has an effect on a character before code. -/
theorem Mode.Sound.step_congr (hm : mode.Sound) {c : Char} {next : Option Char}
    (hn : ∀ d ∈ next, d ≠ '/' ∧ d ≠ '*') (h : (mode.step c none).2 = .code) :
    mode.step c next = mode.step c none := by
  cases mode <;> grind [Mode.step, Mode.Sound]

/-- Only a comment mark or a protected character depends on what follows. -/
theorem Mode.step_none_eq {c d : Char} (hc : c ≠ '/' ∧ c ≠ '*')
    (h : (mode.step d (some c)).2 = .code) : mode.step d none = mode.step d (some c) := by
  cases mode <;> grind [Mode.step]

theorem Mode.Sound.step_append (hm : mode.Sound) {c : Char} (hu : modeAfter mode (c :: u) = .code)
    (hv : Detached v) : mode.step c (u ++ v).head? = mode.step c u.head? := by
  cases u with
  | nil => exact hm.step_congr hv hu
  | cons d u => rfl

/-- A character that a header may hold before its brace opens neither a literal nor a comment. -/
theorem plain_of_isStop {c : Char} (h : isStop c = false) : Plain c := by
  refine ⟨?_, ?_, ?_⟩ <;> (rintro rfl; exact absurd h (by decide))

/-- Behind code a text is scanned as if it stood alone. -/
theorem markFrom_append_of_code (hm : mode.Sound) (hu : modeAfter mode u = .code)
    (hv : Detached v) : markFrom mode (u ++ v) = markFrom mode u ++ mark v := by
  induction u generalizing mode with
  | nil =>
    obtain rfl : mode = .code := hu
    rfl
  | cons c u ih =>
    rw [List.cons_append, markFrom, markFrom, hm.step_append hu hv, ih (hm.step ..) hu,
      List.cons_append]

theorem mark_append_of_code (hu : modeAfter .code u = .code) (hv : Detached v) :
    mark (u ++ v) = mark u ++ mark v := markFrom_append_of_code Mode.sound_code hu hv

theorem modeAfter_append_of_plain (h : ∀ c ∈ u, Plain c) (v : List Char) :
    modeAfter .code (u ++ v) = modeAfter .code v := by
  induction u with
  | nil => rfl
  | cons c u ih =>
    obtain ⟨hc, hu⟩ := List.forall_mem_cons.1 h
    have hstep (next : Option Char) : Mode.code.step c next = (.code, .code) := by
      simp [Mode.step, hc.1, hc.2.1, hc.2.2]
    rw [List.cons_append, modeAfter, hstep, ih hu]

theorem Mode.step_snd_of_code {c : Char} {next : Option Char} (h : (mode.step c next).1 = .code) :
    (mode.step c next).2 = .code := by
  cases mode <;> grind [Mode.step]

theorem modeAfter_append_of_code (hm : mode.Sound) (hu : modeAfter mode u = .code)
    (hv : Detached v) : modeAfter mode (u ++ v) = modeAfter .code v := by
  induction u generalizing mode with
  | nil =>
    obtain rfl : mode = .code := hu
    rfl
  | cons c u ih => rw [List.cons_append, modeAfter, hm.step_append hu hv, ih (hm.step ..) hu]

theorem stripBlockComments_append (hu : modeAfter .code u = .code) (hv : Detached v) :
    stripBlockComments (u ++ v) = stripBlockComments u ++ stripBlockComments v := by
  simp only [stripBlockComments, mark_append_of_code hu hv, List.filter_append, List.map_append]

theorem modeAfter_stripBlockComments (hu : modeAfter .code u = .code) :
    modeAfter .code (stripBlockComments u) = .code :=
  (modeAfter_strippedFrom .code u).trans (congrArg Mode.stripped hu)

theorem AtLineEnd.stripBlockComments (hv : AtLineEnd v) : AtLineEnd (stripBlockComments v) := by
  cases v with
  | nil => trivial
  | cons c v =>
    obtain rfl : c = '\n' := hv
    rw [stripBlockComments_eq_strippedFrom, strippedFrom_cons_of_step_ne (by simp [Mode.step])]
    rfl

/-! ### The comment -/

/-- The characters of a line comment with their classes. -/
def remarkMarks (s : List Char) : List Marked :=
  (' ', .code) :: ('/' :: '/' :: ' ' :: s).map (·, .lineComment)

theorem remarkMarks_map_fst (s : List Char) : (remarkMarks s).map (·.1) = remark s := by
  simp [remarkMarks, remark, Function.comp_def]

theorem markFrom_lineComment_append (hs : '\n' ∉ s) (hv : AtLineEnd v) :
    markFrom .lineComment (s ++ v) = s.map (·, .lineComment) ++ mark v := by
  induction s with
  | nil =>
    cases v with
    | nil => rfl
    | cons c v =>
      obtain rfl : c = '\n' := hv
      rfl
  | cons c s ih =>
    rw [List.mem_cons, not_or] at hs
    rw [List.cons_append, markFrom, Mode.step, if_neg (Ne.symm hs.1), ih hs.2]
    rfl

theorem mark_remark_append (hs : '\n' ∉ s) (hv : AtLineEnd v) :
    mark (remark s ++ v) = remarkMarks s ++ mark v := by
  have h := markFrom_lineComment_append hs hv
  simpa [remark, remarkMarks, mark, markFrom, Mode.step] using h

theorem mark_append_remark_append (hu : modeAfter .code u = .code) (hs : '\n' ∉ s)
    (hv : AtLineEnd v) : mark (u ++ (remark s ++ v)) = mark u ++ (remarkMarks s ++ mark v) := by
  rw [mark_append_of_code hu (detached_remark s v), mark_remark_append hs hv]

theorem stripBlockComments_remark_append (hs : '\n' ∉ s) (hv : AtLineEnd v) :
    stripBlockComments (remark s ++ v) = remark s ++ stripBlockComments v := by
  have hkept : ∀ x ∈ remarkMarks s, isKept x = true := by
    intro x hx
    rcases List.mem_cons.1 hx with rfl | hx
    · rfl
    · obtain ⟨c, -, rfl⟩ := List.mem_map.1 hx
      rfl
  rw [stripBlockComments_eq_strippedFrom, strippedFrom, ← mark, mark_remark_append hs hv,
    List.filter_append, List.filter_eq_self.2 hkept, List.map_append, remarkMarks_map_fst]
  rfl

theorem stripBlockComments_append_remark_append (hu : modeAfter .code u = .code) (hs : '\n' ∉ s)
    (hv : AtLineEnd v) : stripBlockComments (u ++ (remark s ++ v)) =
      stripBlockComments u ++ (remark s ++ stripBlockComments v) := by
  rw [stripBlockComments_append hu (detached_remark s v), stripBlockComments_remark_append hs hv]

/-! ### The line before the comment -/

theorem modeAfter_of_lineComment (hl : '\n' ∉ l) (hm : mode = .lineMark ∨ mode = .lineComment) :
    modeAfter mode l = .lineMark ∨ modeAfter mode l = .lineComment := by
  induction l generalizing mode with
  | nil => exact hm
  | cons c l ih =>
    rw [List.mem_cons, not_or] at hl
    refine ih hl.2 (.inr ?_)
    rcases hm with rfl | rfl
    · rfl
    · rw [Mode.step, if_neg (Ne.symm hl.1)]

/-- A line that does not end in a line comment holds none. -/
theorem ne_lineComment_of_modeAfter (hl : '\n' ∉ l)
    (h : ¬(modeAfter mode l = .lineMark ∨ modeAfter mode l = .lineComment)) {x : Marked}
    (hx : x ∈ markFrom mode l) : x.2 ≠ .lineComment := by
  induction l generalizing mode with
  | nil => cases hx
  | cons c l ih =>
    have hl' : '\n' ∉ l := fun hmem => hl (List.mem_cons_of_mem c hmem)
    rcases List.mem_cons.1 hx with rfl | hx
    · intro hc
      have hm : (mode.step c l.head?).2 = .lineMark ∨ (mode.step c l.head?).2 = .lineComment := by
        cases mode <;> grind [Mode.step]
      have hend := modeAfter_of_lineComment hl' hm
      exact h hend
    · exact ih hl' h hx

theorem ne_lineComment_of_mem_markFrom (hl : '\n' ∉ l) (h : modeAfter mode l = .code)
    {x : Marked} (hx : x ∈ markFrom mode l) : x.2 ≠ .lineComment :=
  ne_lineComment_of_modeAfter hl (by simp [h]) hx

theorem splitAtLineComment_append {m : List Marked} (h : ∀ x ∈ m, x.2 ≠ .lineComment)
    (n : List Marked) : splitAtLineComment (m ++ n) =
      (m.map (·.1) ++ (splitAtLineComment n).1, (splitAtLineComment n).2) := by
  induction m with
  | nil => rfl
  | cons x m ih =>
    obtain ⟨c, l⟩ := x
    rw [List.cons_append, splitAtLineComment, if_neg (h (c, l) List.mem_cons_self),
      ih fun y hy => h y (List.mem_cons_of_mem _ hy)]
    rfl

theorem splitLineComment_of_modeAfter (hl : '\n' ∉ l)
    (h : ¬(modeAfter .code l = .lineMark ∨ modeAfter .code l = .lineComment)) :
    splitLineComment l = (strip l, []) := by
  have hnone : ∀ x ∈ mark l, x.2 ≠ .lineComment := fun _ => ne_lineComment_of_modeAfter hl h
  rw [splitLineComment, splitAtLineComment_eq hnone, mark_map_fst]
  rfl

theorem splitLineComment_of_code (hl : '\n' ∉ l) (h : modeAfter .code l = .code) :
    splitLineComment l = (strip l, []) := splitLineComment_of_modeAfter hl (by simp [h])

/-- The code of a line stays as it is when a comment is put at its end. -/
theorem splitLineComment_append_remark (hl : '\n' ∉ l) (h : modeAfter .code l = .code)
    (hs : '\n' ∉ s) : splitLineComment (l ++ remark s) = (strip l, strip (' ' :: s)) := by
  have hnone : ∀ x ∈ mark l, x.2 ≠ .lineComment := fun _ => ne_lineComment_of_mem_markFrom hl h
  have hmark := mark_append_remark_append (v := []) h hs trivial
  have hsplit : splitAtLineComment (remarkMarks s) = ([' '], '/' :: '/' :: ' ' :: s) := by
    simp [remarkMarks, splitAtLineComment, Function.comp_def]
  rw [List.append_nil, show mark [] = [] from rfl, List.append_nil] at hmark
  rw [splitLineComment, hmark, splitAtLineComment_append hnone, hsplit, mark_map_fst]
  exact congrArg (·, strip (' ' :: s)) (strip_append_of_blank (b := [' ']) (by decide) l)

/-! ### The last line of a text -/

theorem modeAfter_append_lineFeed (mode : Mode) (u v : List Char) :
    modeAfter mode (u ++ '\n' :: v) = modeAfter (modeAfter mode u) ('\n' :: v) := by
  induction u generalizing mode with
  | nil => rfl
  | cons c u ih => simp only [List.cons_append, modeAfter, Mode.step_head?_append, ih]

/-- A text without block comments ends in no block comment. -/
theorem stripped_modeAfter (hm : mode.stripped = mode)
    (hu : ∀ x ∈ markFrom mode u, x.2 ≠ .blockComment) :
    (modeAfter mode u).stripped = modeAfter mode u := by
  induction u generalizing mode with
  | nil => exact hm
  | cons c u ih =>
    have hc := hu _ List.mem_cons_self
    exact ih (Mode.stripped_of_step_ne hc).2 fun x hx => hu x (List.mem_cons_of_mem _ hx)

/-- The last line of a text without block comments is scanned as if it stood alone. -/
theorem modeAfter_last_line (hu : ∀ x ∈ mark u, x.2 ≠ .blockComment) (hl : IsLastLine l u) :
    modeAfter .code l = modeAfter .code u := by
  obtain ⟨-, rfl | ⟨before, rfl⟩⟩ := hl
  · rfl
  · rw [mark, markFrom_append_lineFeed] at hu
    have hstrip := stripped_modeAfter rfl fun x hx => hu x (List.mem_append_left _ hx)
    have hmid : ¬(modeAfter .code before).IsMidway := not_isMidway_modeAfter id before
    -- The line feed ends whatever the text before it left open, block comments apart.
    rw [modeAfter_append_lineFeed]
    revert hstrip hmid
    cases modeAfter .code before <;> simp [modeAfter, Mode.step, Mode.stripped, Mode.IsMidway]

/-- A comment at the end of a text changes the last line of the text only. -/
theorem map_pieces_remark {β : Type} (f : List Char → β) (hs : '\n' ∉ s) (hv : AtLineEnd v)
    (hf : ∀ l, IsLastLine l u → f (l ++ remark s) = f l) :
    (pieces (· == '\n') (u ++ (remark s ++ v))).map f = (pieces (· == '\n') (u ++ v)).map f := by
  obtain ⟨before, l, hl, hpieces⟩ := exists_isLastLine u
  have hremark : '\n' ∉ l ++ remark s := by simp [remark, hl.1, hs]
  have hone {k : List Char} (hk : '\n' ∉ k) : ∀ c ∈ k, (c == '\n') = false := fun c hc =>
    beq_eq_false_iff_ne.2 fun e => hk (e ▸ hc)
  have hlast : (pieces (· == '\n') (l ++ remark s ++ v)).map f =
      (pieces (· == '\n') (l ++ v)).map f := by
    cases v with
    | nil =>
      rw [List.append_nil, List.append_nil, pieces_eq_singleton (hone hremark),
        pieces_eq_singleton (hone hl.1), List.map_singleton, List.map_singleton, hf l hl]
    | cons c v =>
      obtain rfl : c = '\n' := hv
      rw [pieces_append_lineFeed hremark, pieces_append_lineFeed hl.1, List.map_cons,
        List.map_cons, hf l hl]
  rw [hpieces, hpieces, List.map_append, List.map_append, ← List.append_assoc, hlast]

end Formwork.Idl
