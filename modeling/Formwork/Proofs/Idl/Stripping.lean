import Formwork.Idl.Document
import Formwork.Proofs.Idl.Locality

/-!
Stripping block comments. What is left holds no block comment, and each character that is left
belongs to the class that it had before; a line feed that was kept out of a comment has become code.
So a second pass changes nothing.
-/
namespace Formwork.Idl
open Formwork.Text

/-- The mode of the scan in a text whose block comments are stripped. -/
def Mode.stripped : Mode → Mode
  | .blockMark | .blockComment | .closeMark => .code
  | .code => .code
  | .string quote => .string quote
  | .escaped quote => .escaped quote
  | .lineMark => .lineMark
  | .lineComment => .lineComment

/-- Whether a character stays when block comments are stripped. -/
def isKept (x : Marked) : Bool := x.2 != .blockComment || x.1 == '\n'

/-- A character that stays, with its class in the text that is left. -/
def unblocked (x : Marked) : Marked := (x.1, if x.2 = .blockComment then .code else x.2)

/-- The text from `mode` on without its block comments. -/
def strippedFrom (mode : Mode) (cs : List Char) : List Char :=
  ((markFrom mode cs).filter isKept).map (·.1)

theorem stripBlockComments_eq_strippedFrom (text : List Char) :
    stripBlockComments text = strippedFrom .code text := rfl

variable {mode : Mode} {c : Char}

/-! ### One character -/

/-- A character of a block comment stands between code and code. -/
theorem Mode.stripped_of_step_blockComment {next : Option Char}
    (h : (mode.step c next).1 = .blockComment) :
    mode.stripped = .code ∧ (mode.step c next).2.stripped = .code := by
  cases mode <;> grind [Mode.step, Mode.stripped]

/-- Around any other character the modes stay. -/
theorem Mode.stripped_of_step_ne {next : Option Char} (h : (mode.step c next).1 ≠ .blockComment) :
    mode.stripped = mode ∧ (mode.step c next).2.stripped = (mode.step c next).2 := by
  cases mode <;> grind [Mode.step, Mode.stripped]

/-- A character before code is read the same whatever follows, as it is with a slash behind it. -/
theorem Mode.step_eq_of_step_slash (hb : (mode.step c (some '/')).1 ≠ .blockComment)
    (h : (mode.step c (some '/')).2 = .code) (next : Option Char) :
    mode.step c next = mode.step c (some '/') := by
  cases mode <;> grind [Mode.step]

/-- Only a slash in code opens a block comment. -/
theorem Mode.eq_slash_of_step_blockComment {next : Option Char} (hm : mode.stripped = mode)
    (h : (mode.step c next).1 = .blockComment) : mode = .code ∧ c = '/' := by
  cases mode <;> grind [Mode.step, Mode.stripped]

theorem Mode.step_code_lineFeed (next : Option Char) :
    Mode.code.step '\n' next = (.code, .code) := by
  simp [step]

theorem strippedFrom_cons_of_step_blockComment {cs : List Char}
    (h : (mode.step c cs.head?).1 = .blockComment) :
    strippedFrom mode (c :: cs) =
      if c = '\n' then '\n' :: strippedFrom (mode.step c cs.head?).2 cs
      else strippedFrom (mode.step c cs.head?).2 cs := by
  rw [strippedFrom, markFrom, h]
  by_cases hc : c = '\n' <;> simp [isKept, strippedFrom, hc]

theorem strippedFrom_cons_of_step_ne {cs : List Char}
    (h : (mode.step c cs.head?).1 ≠ .blockComment) :
    strippedFrom mode (c :: cs) = c :: strippedFrom (mode.step c cs.head?).2 cs := by
  rw [strippedFrom, markFrom, List.filter_cons_of_pos (by simp [isKept, h]), List.map_cons]
  rfl

/-- A character that is in no block comment is read the same when the comments behind it are
stripped. -/
theorem Mode.step_strippedFrom {cs : List Char} (h : (mode.step c cs.head?).1 ≠ .blockComment) :
    mode.step c (strippedFrom (mode.step c cs.head?).2 cs).head? = mode.step c cs.head? := by
  cases cs with
  | nil => rfl
  | cons d cs =>
    rw [List.head?_cons] at h ⊢
    by_cases hd : ((mode.step c (some d)).2.step d cs.head?).1 = .blockComment
    · obtain ⟨hcode, rfl⟩ := eq_slash_of_step_blockComment (stripped_of_step_ne h).2 hd
      exact step_eq_of_step_slash h hcode _
    · rw [strippedFrom_cons_of_step_ne hd, List.head?_cons]

/-! ### Texts -/

/-- What is left keeps its classes. -/
theorem markFrom_strippedFrom (mode : Mode) (cs : List Char) :
    markFrom mode.stripped (strippedFrom mode cs) =
      ((markFrom mode cs).filter isKept).map unblocked := by
  induction cs generalizing mode with
  | nil => rfl
  | cons c cs ih =>
    specialize ih (mode.step c cs.head?).2
    by_cases h : (mode.step c cs.head?).1 = .blockComment
    · obtain ⟨hbefore, hafter⟩ := Mode.stripped_of_step_blockComment h
      rw [hafter] at ih
      rw [strippedFrom_cons_of_step_blockComment h, markFrom, h, hbefore]
      by_cases hc : c = '\n'
      · subst hc
        rw [if_pos rfl, markFrom, Mode.step_code_lineFeed, ih]
        rfl
      · rw [if_neg hc, ih, List.filter_cons_of_neg (by simp [isKept, hc])]
    · obtain ⟨hbefore, hafter⟩ := Mode.stripped_of_step_ne h
      rw [hafter] at ih
      rw [strippedFrom_cons_of_step_ne h, markFrom, markFrom, hbefore, Mode.step_strippedFrom h, ih,
        List.filter_cons_of_pos (by simp [isKept, h]), List.map_cons, unblocked, if_neg h]

theorem modeAfter_strippedFrom (mode : Mode) (cs : List Char) :
    modeAfter mode.stripped (strippedFrom mode cs) = (modeAfter mode cs).stripped := by
  induction cs generalizing mode with
  | nil => rfl
  | cons c cs ih =>
    specialize ih (mode.step c cs.head?).2
    by_cases h : (mode.step c cs.head?).1 = .blockComment
    · obtain ⟨hbefore, hafter⟩ := Mode.stripped_of_step_blockComment h
      rw [hafter] at ih
      rw [strippedFrom_cons_of_step_blockComment h, modeAfter, hbefore]
      by_cases hc : c = '\n'
      · subst hc
        rw [if_pos rfl, modeAfter, Mode.step_code_lineFeed, ih]
      · rw [if_neg hc, ih]
    · obtain ⟨hbefore, hafter⟩ := Mode.stripped_of_step_ne h
      rw [hafter] at ih
      rw [strippedFrom_cons_of_step_ne h, modeAfter, modeAfter, hbefore, Mode.step_strippedFrom h,
        ih]

/-- Every character that is left keeps its class, but for the line feeds of block comments. -/
theorem mark_stripBlockComments (text : List Char) :
    mark (stripBlockComments text) = ((mark text).filter isKept).map unblocked :=
  markFrom_strippedFrom .code text

/-- What is left holds no block comment. -/
theorem ne_blockComment_of_mem_mark_stripBlockComments {text : List Char} {x : Marked}
    (hx : x ∈ mark (stripBlockComments text)) : x.2 ≠ .blockComment := by
  rw [mark_stripBlockComments] at hx
  obtain ⟨y, -, rfl⟩ := List.mem_map.1 hx
  rw [unblocked]
  split
  · simp
  · assumption

/-- A text without block comments is left as it is. -/
theorem stripBlockComments_eq_self {text : List Char} (h : ∀ x ∈ mark text, x.2 ≠ .blockComment) :
    stripBlockComments text = text := by
  have hall : (mark text).filter isKept = mark text := by
    refine List.filter_eq_self.2 fun x hx => ?_
    simp [isKept, h x hx]
  rw [stripBlockComments_eq_strippedFrom, strippedFrom]
  exact (congrArg _ hall).trans (mark_map_fst text)

/-- A second pass changes nothing. -/
theorem stripBlockComments_stripBlockComments (text : List Char) :
    stripBlockComments (stripBlockComments text) = stripBlockComments text :=
  stripBlockComments_eq_self fun _ => ne_blockComment_of_mem_mark_stripBlockComments

/-- File options are the same whether they are read before or after block comments are stripped. -/
theorem fileOptions_stripBlockComments (text : List Char) :
    fileOptions (stripBlockComments text) = fileOptions text := by
  rw [fileOptions, fileOptions, stripBlockComments_stripBlockComments]

end Formwork.Idl
