import Formwork.Proofs.Idl.LineEnd

/-!
Block comments in the middle of code. Where a text ends in code, and not with a slash that could
begin a comment mark, a block comment on one line may follow: the text after it is scanned as if it
stood alone, and nothing is left of the comment when block comments are stripped. So the
declarations are those of the text without it.
-/
namespace Formwork.Idl
open Formwork.Text

/-- A block comment. -/
def aside (c : List Char) : List Char := '/' :: '*' :: (c ++ ['*', '/'])

variable {mode : Mode} {u v c : List Char}

/-! ### The text before the comment -/

/-- A character before code that is no slash is read the same whatever follows. -/
theorem Mode.Sound.step_congr_of_ne (hm : mode.Sound) {d : Char} (hd : d ≠ '/')
    (h : (mode.step d none).2 = .code) (next : Option Char) :
    mode.step d next = mode.step d none := by
  cases mode <;> grind [Mode.step, Mode.Sound]

/-- Behind code that ends with no slash every text is scanned as if it stood alone. -/
theorem markFrom_append_of_ne_slash (hm : mode.Sound) (hu : modeAfter mode u = .code)
    (hslash : u.getLast? ≠ some '/') (v : List Char) :
    markFrom mode (u ++ v) = markFrom mode u ++ mark v := by
  induction u generalizing mode with
  | nil =>
    obtain rfl : mode = .code := hu
    rfl
  | cons d u ih =>
    have hstep : mode.step d (u ++ v).head? = mode.step d u.head? := by
      cases u with
      | nil => exact hm.step_congr_of_ne (fun hd => hslash (hd ▸ rfl)) hu _
      | cons e u => rfl
    have hlast : u.getLast? ≠ some '/' := by
      cases u with
      | nil => exact nofun
      | cons e u => rwa [List.getLast?_cons_cons] at hslash
    rw [List.cons_append, markFrom, markFrom, hstep, ih (hm.step ..) hu hlast, List.cons_append]

theorem stripBlockComments_append_of_ne_slash (hu : modeAfter .code u = .code)
    (hslash : u.getLast? ≠ some '/') (v : List Char) :
    stripBlockComments (u ++ v) = stripBlockComments u ++ stripBlockComments v := by
  rw [stripBlockComments, mark, markFrom_append_of_ne_slash Mode.sound_code hu hslash,
    List.filter_append, List.map_append]
  rfl

/-! ### The comment -/

/-- A comment ends at the first mark that closes it, also where a star stands before this mark. -/
theorem markFrom_blockComment_append (hc : ¬['*', '/'] <:+: c) (v : List Char) :
    markFrom .blockComment (c ++ '*' :: '/' :: v) =
      (c ++ ['*', '/']).map (·, .blockComment) ++ mark v := by
  induction c with
  | nil => rfl
  | cons d c ih =>
    have hopen : ¬(d = '*' ∧ (c ++ '*' :: '/' :: v).head? = some '/') := by
      rintro ⟨rfl, hnext⟩
      cases c with
      | nil => exact absurd hnext (by simp)
      | cons e c =>
        obtain rfl := Option.some.inj hnext
        exact hc ⟨[], c, rfl⟩
    have hrest : ¬['*', '/'] <:+: c := fun h => hc (h.trans (List.suffix_cons d c).isInfix)
    rw [List.cons_append, markFrom, Mode.step, if_neg hopen, ih hrest]
    rfl

theorem mark_aside_append (hc : ¬['*', '/'] <:+: c) (v : List Char) :
    mark (aside c ++ v) = (aside c).map (·, .blockComment) ++ mark v := by
  have h := markFrom_blockComment_append hc v
  simpa [aside, mark, markFrom, Mode.step] using h

/-- A comment on one line leaves nothing behind. -/
theorem stripBlockComments_aside_append (hline : '\n' ∉ c) (hc : ¬['*', '/'] <:+: c)
    (v : List Char) : stripBlockComments (aside c ++ v) = stripBlockComments v := by
  have hdropped : ((aside c).map (·, Lexeme.blockComment)).filter isKept = [] := by
    refine List.filter_eq_nil_iff.2 fun x hx => ?_
    obtain ⟨d, hd, rfl⟩ := List.mem_map.1 hx
    have hne : d ≠ '\n' := by
      rintro rfl
      exact hline (by simpa [aside] using hd)
    simp [isKept, hne]
  rw [stripBlockComments_eq_strippedFrom, strippedFrom, ← mark, mark_aside_append hc,
    List.filter_append, hdropped]
  rfl

/-- Wherever a text stands in code, a block comment on one line may be put: what is declared, and
every failure to read it, stays the same. -/
theorem Document.read_append_aside (hu : modeAfter .code u = .code)
    (hslash : u.getLast? ≠ some '/') (hline : '\n' ∉ c) (hc : ¬['*', '/'] <:+: c) (v : List Char) :
    Document.read (u ++ (aside c ++ v)) = Document.read (u ++ v) := by
  have hclean : stripBlockComments (u ++ (aside c ++ v)) = stripBlockComments (u ++ v) := by
    rw [stripBlockComments_append_of_ne_slash hu hslash, stripBlockComments_aside_append hline hc,
      stripBlockComments_append_of_ne_slash hu hslash]
  rw [Document.read, Document.read, hclean]

/-- A message up to the middle of an option list. -/
def openOptions : String := "message M \x7b\n  string a = 1 [(ui_label) = \"/*\""

def restOfOptions : String := "];\n\x7d\n"

/-- A comment that would end the message, begin another one and require its field. -/
def loudComment : String := "/\"]; \x7d message N \x7b // @required *"

theorem read_append_aside_openOptions :
    modeAfter .code openOptions.toList = .code ∧ openOptions.toList.getLast? ≠ some '/' ∧
      '\n' ∉ loudComment.toList ∧ ¬['*', '/'] <:+: loudComment.toList ∧
      Document.read (openOptions.toList ++ (aside loudComment.toList ++ restOfOptions.toList)) =
        .ok {
          messages := [("M", { name := "M", fields := [{
            name := "a", type := "string", info := { label := some "/*" } }] })]
          enumerations := []
          options := [] } := by
  have hcode : modeAfter .code openOptions.toList = .code := by decide +kernel
  have hslash : openOptions.toList.getLast? ≠ some '/' := by decide +kernel
  have hline : '\n' ∉ loudComment.toList := by decide +kernel
  have hclosed : ¬['*', '/'] <:+: loudComment.toList := by decide +kernel
  refine ⟨hcode, hslash, hline, hclosed, ?_⟩
  rw [Document.read_append_aside hcode hslash hline hclosed]
  simp only [openOptions, restOfOptions, String.reduceToList]
  decide +kernel

end Formwork.Idl
