import Formwork.Proofs.Idl.Stretches

/-!
Classes line by line. A line feed outside block comments is code, and what stands behind it is
classified as if it stood alone; a line feed in a block comment belongs to the comment. So where
there are no block comments, a line has the same classes in every text.
-/
namespace Formwork.Idl
open Formwork.Text

variable {u : List Char}

/-! ### One line feed -/

theorem lexemes_append_lineFeed (h : modeAfter .code u ≠ .blockComment) (v : List Char) :
    lexemes (u ++ '\n' :: v) = lexemes u ++ .code :: lexemes v := by
  simp only [lexemes, mark_append_lineFeed h, List.map_append, List.map_cons]

/-- A line feed in a block comment belongs to it. -/
theorem exists_lexemes_append_lineFeed (h : modeAfter .code u = .blockComment) (v : List Char) :
    ∃ ls, lexemes (u ++ '\n' :: v) = lexemes u ++ .blockComment :: ls := by
  refine ⟨(markFrom .blockComment v).map (·.2), ?_⟩
  have hstep : Mode.blockComment.step '\n' v.head? = (.blockComment, .blockComment) := by
    simp [Mode.step]
  rw [lexemes, mark, markFrom_append_lineFeed, h, markFrom, hstep, List.map_append, List.map_cons]
  rfl

theorem lexemes_append_lineFeed_iff (u v : List Char) :
    lexemes (u ++ '\n' :: v) = lexemes u ++ .code :: lexemes v ↔
      modeAfter .code u ≠ .blockComment := by
  refine ⟨fun h hblock => ?_, fun h => lexemes_append_lineFeed h v⟩
  obtain ⟨ls, hls⟩ := exists_lexemes_append_lineFeed hblock v
  rw [hls, List.append_cancel_left_eq] at h
  cases h

/-! ### All lines -/

theorem intercalate_pieces (cs : List Char) :
    ['\n'].intercalate (pieces (· == '\n') cs) = cs := by
  induction cs with
  | nil => rfl
  | cons c cs ih =>
    obtain ⟨p, ps, hp⟩ := List.exists_cons_of_ne_nil (pieces_ne_nil (· == '\n') cs)
    rw [hp] at ih
    rw [pieces, hp]
    by_cases hc : c = '\n'
    · subst hc
      rw [if_pos (beq_self_eq_true _), List.intercalate_cons_cons, ih]
      rfl
    · rw [if_neg (by simp [hc]), ← ih]
      cases ps with
      | nil => simp
      | cons q qs => simp [List.intercalate_cons_cons]

/-- A text without block comments ends its first line outside of them. -/
theorem modeAfter_ne_blockComment_of_append {v : List Char}
    (h : ∀ l ∈ lexemes (u ++ '\n' :: v), l ≠ .blockComment) :
    modeAfter .code u ≠ .blockComment := by
  intro hblock
  obtain ⟨ls, hls⟩ := exists_lexemes_append_lineFeed hblock v
  exact h .blockComment (by simp [hls]) rfl

theorem lexemes_intercalate {ls : List (List Char)}
    (h : ∀ l ∈ lexemes (['\n'].intercalate ls), l ≠ .blockComment) :
    lexemes (['\n'].intercalate ls) = [.code].intercalate (ls.map lexemes) := by
  induction ls with
  | nil => rfl
  | cons l ls ih =>
    cases ls with
    | nil => simp
    | cons l' ls =>
      have hcut : ['\n'].intercalate (l :: l' :: ls) =
          l ++ '\n' :: ['\n'].intercalate (l' :: ls) := by
        simp [List.intercalate_cons_cons]
      rw [hcut] at h ⊢
      have hline := modeAfter_ne_blockComment_of_append h
      rw [lexemes_append_lineFeed hline] at h ⊢
      rw [ih fun l hl => h l (by simp [hl])]
      simp [List.intercalate_cons_cons]

/-- Every character has a class. A line feed separates the classes before it from those behind it
exactly if the text before it ends outside block comments; so without block comments the classes of
a text are those of its lines, each classified on its own. -/
theorem lexemes_local (text : List Char) :
    (lexemes text).length = text.length ∧
      (∀ v, lexemes (text ++ '\n' :: v) = lexemes text ++ .code :: lexemes v ↔
        modeAfter .code text ≠ .blockComment) ∧
      ((∀ l ∈ lexemes text, l ≠ .blockComment) →
        lexemes text = [.code].intercalate ((pieces (· == '\n') text).map lexemes)) := by
  refine ⟨lexemes_length text, lexemes_append_lineFeed_iff text, fun h => ?_⟩
  rw [← intercalate_pieces text] at h
  have hlines := lexemes_intercalate h
  rwa [intercalate_pieces] at hlines

/-- An open literal with a backslash at the end of its line, a line comment with a quote and half a
comment mark, and the other half on the next line. -/
theorem lexemes_local_openLiteral :
    let text := "a \"b\\\n// ' /\n* \"".toList
    (∀ l ∈ lexemes text, l ≠ .blockComment) ∧
      lexemes text = lexemes "a \"b\\".toList ++
        .code :: (lexemes "// ' /".toList ++ .code :: lexemes "* \"".toList) := by
  intro text
  have hclean : ∀ l ∈ lexemes text, l ≠ .blockComment := by decide
  exact ⟨hclean, (lexemes_local text).2.2 hclean⟩

end Formwork.Idl
