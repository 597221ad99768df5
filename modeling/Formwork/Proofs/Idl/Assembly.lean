import Formwork.Idl.Statement
import Formwork.Proofs.Idl.Outline

/-!
The assembly of statements from lines. A declaration that stands on a line of its own, closed by its
only semicolon in code, is a statement without comments, and leaves nothing to the next line.
-/
namespace Formwork.Idl
open Formwork.Text

/-- A declaration without its semicolon. -/
structure IsDeclaration (u : List Char) : Prop where
  written : Written InDeclaration u
  start : ∀ c, u.head? = some c → isBlank c = false
  nonempty : u ≠ []

theorem Written.lineFeed_not_mem {u : List Char} (hu : Written InDeclaration u) : '\n' ∉ u := by
  induction hu with
  | nil => simp
  | code _ hp _ ih => simp [hp.1.symm, ih]
  | literal hn _ ih => simp [lineFeed_not_mem_literal hn, ih]

theorem splitAtLineComment_eq {m : List Marked} (h : ∀ x ∈ m, x.2 ≠ .lineComment) :
    splitAtLineComment m = (m.map (·.1), []) := by
  induction m with
  | nil => rfl
  | cons x m ih =>
    obtain ⟨c, l⟩ := x
    have hx := h (c, l) List.mem_cons_self
    have ih := ih fun y hy => h y (List.mem_cons_of_mem _ hy)
    simp [splitAtLineComment, hx, ih]

theorem Written.splitLineComment {p : Char → Prop} {u : List Char} (hu : Written p u) :
    splitLineComment u = (strip u, []) := by
  have h : ∀ x ∈ mark u, x.2 ≠ .lineComment := by
    intro x hx
    rcases hu.mem_mark hx with ⟨hl, -⟩ | hl <;> simp [hl]
  rw [Idl.splitLineComment, splitAtLineComment_eq h, mark_map_fst]
  rfl

theorem cutStatements_append_of_string (taken s : List Char) (m : List Marked) :
    cutStatements taken (s.map (·, .string) ++ m) = cutStatements (s.reverse ++ taken) m := by
  induction s generalizing taken with
  | nil => rfl
  | cons c s ih =>
    rw [List.map_cons, List.cons_append, cutStatements, if_neg (by simp), ih]
    simp

/-- A declaration is cut at its semicolon and nowhere else. -/
theorem Written.cutStatements {u : List Char} (hu : Written InDeclaration u) (taken : List Char) :
    cutStatements taken (mark (u ++ [';'])) = ([taken.reverse ++ u ++ [';']], []) := by
  induction hu generalizing taken with
  | nil => simp [mark, markFrom, Mode.step, Idl.cutStatements]
  | code hc hp _ ih =>
    rw [List.cons_append, mark_cons_of_plain hc, Idl.cutStatements, if_neg (by simp [hp.2.2.2]), ih]
    simp
  | literal hn _ ih =>
    rw [List.append_assoc, mark_literal_append hn, cutStatements_append_of_string, ih]
    simp

theorem written_semicolon : Written (fun _ => True) [';'] := .code (by simp [Plain]) trivial .nil

namespace IsDeclaration

variable {u b : List Char}

theorem strip_line (hu : IsDeclaration u) (hb : ∀ c ∈ b, c = ' ') :
    strip (b ++ (u ++ [';'])) = u ++ [';'] := by
  apply strip_append
  · intro d hd
    rw [hb d hd]
    rfl
  · intro d hd
    cases hu' : u with
    | nil => exact (hu.nonempty hu').elim
    | cons c u =>
      rw [hu'] at hd
      exact hu.start d (by rw [hu']; exact hd)
  · rfl

theorem splitLineComment_line (hu : IsDeclaration u) (hb : ∀ c ∈ b, c = ' ') :
    splitLineComment (b ++ (u ++ [';'])) = (u ++ [';'], []) := by
  have hblank : Written (fun _ => True) b := .of_plain fun c hc => by simp [hb c hc, Plain]
  have hw := hblank.append ((hu.written.mono fun _ _ => trivial).append written_semicolon)
  rw [hw.splitLineComment, hu.strip_line hb]

theorem splitStatements (hu : IsDeclaration u) :
    splitStatements (u ++ [';']) = ([u ++ [';']], []) := by
  have hs : strip (u ++ [';']) = u ++ [';'] := hu.strip_line (b := []) (by simp)
  have hne : [u ++ [';']].filter (· != [';']) = [u ++ [';']] := by simp [hu.nonempty]
  rw [Idl.splitStatements, hu.written.cutStatements]
  simp only [List.reverse_nil, List.nil_append, List.map_cons, List.map_nil, hs, hne]
  rfl

/-- A declaration on a line of its own is a statement. -/
theorem line (hu : IsDeclaration u) (hb : ∀ c ∈ b, c = ' ') :
    ({} : Unfinished).line (b ++ (u ++ [';'])) = ([⟨u ++ [';'], [], []⟩], {}) := by
  simp [Unfinished.line, hu.splitLineComment_line hb, hu.splitStatements, commentList, attach]

end IsDeclaration

theorem Unfinished.line_of_blank {b : List Char} (hb : ∀ c ∈ b, c = ' ') :
    ({} : Unfinished).line b = ([], {}) := by
  have hw : Written (fun _ => True) b := .of_plain fun c hc => by simp [hb c hc, Plain]
  have hs : strip b = [] := strip_of_blank fun c hc => by rw [hb c hc]; rfl
  simp [Unfinished.line, hw.splitLineComment, hs, commentList]

end Formwork.Idl
