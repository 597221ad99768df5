import Formwork.Proofs.Idl.LineEnd

/-!
Characters without effect. Such a character leaves the mode of the scan as it is, whatever the mode,
and the text behind it has no effect on the classes before it. All white space but line feeds is of
this kind; so white space at the end of a text that ends in code is code.
-/
namespace Formwork.Idl
open Formwork.Text

variable {mode : Mode} {u v cs : List Char} {c : Char}

/-- The quote of a literal is one that opens literals. -/
def Mode.Reached : Mode → Prop
  | .string quote | .escaped quote => quote = '"' ∨ quote = '\''
  | .code | .lineMark | .lineComment | .blockMark | .blockComment | .closeMark => True

theorem Mode.reached_code : Mode.code.Reached := trivial

theorem Mode.Reached.step (h : mode.Reached) (c : Char) (next : Option Char) :
    (mode.step c next).2.Reached := by
  cases mode <;> grind [Mode.Reached, Mode.step]

theorem Mode.Reached.modeAfter (h : mode.Reached) (cs : List Char) :
    (modeAfter mode cs).Reached := by
  induction cs generalizing mode with
  | nil => exact h
  | cons c cs ih => exact ih (h.step c cs.head?)

/-- A character that neither opens nor closes anything. -/
def Inert (c : Char) : Prop :=
  c ≠ '/' ∧ c ≠ '*' ∧ c ≠ '"' ∧ c ≠ '\'' ∧ c ≠ '\\' ∧ c ≠ '\n'

instance (c : Char) : Decidable (Inert c) :=
  inferInstanceAs (Decidable (c ≠ '/' ∧ c ≠ '*' ∧ c ≠ '"' ∧ c ≠ '\'' ∧ c ≠ '\\' ∧ c ≠ '\n'))

def Mode.lexeme : Mode → Lexeme
  | .code => .code
  | .string _ | .escaped _ => .string
  | .lineMark | .lineComment => .lineComment
  | .blockMark | .blockComment | .closeMark => .blockComment

theorem Mode.Reached.step_inert (h : mode.Reached) (hmid : ¬mode.IsMidway) (hc : Inert c)
    (next : Option Char) : mode.step c next = (mode.lexeme, mode) := by
  cases mode <;> grind [Mode.Reached, Mode.step, Mode.lexeme, Inert, Mode.IsMidway]

/-- A backslash before an inert character protects it in vain. -/
theorem Mode.Reached.step_step_inert (h : mode.Reached) (hc : Inert c) (d : Char)
    (next : Option Char) :
    (mode.step d (some c)).1 = (mode.step d none).1 ∧
      (mode.step d (some c)).2.step c next =
        ((mode.step d none).2.lexeme, (mode.step d none).2) := by
  cases mode <;> grind [Mode.Reached, Mode.step, Mode.lexeme, Inert]

theorem Mode.Reached.modeAfter_inert (h : mode.Reached) (hmid : ¬mode.IsMidway)
    (hu : ∀ c ∈ u, Inert c) : Idl.modeAfter mode u = mode := by
  induction u with
  | nil => rfl
  | cons c u ih =>
    obtain ⟨hc, hu⟩ := List.forall_mem_cons.1 hu
    rw [Idl.modeAfter, h.step_inert hmid hc, ih hu]

/-- An inert character leaves the scan as it is, and the text behind it has no effect before it. -/
theorem scan_append_inert (h : mode.Reached) (hmid : u = [] → ¬mode.IsMidway) (hc : Inert c)
    (v : List Char) :
    markFrom mode (u ++ c :: v) =
        markFrom mode u ++ (c, (modeAfter mode u).lexeme) :: markFrom (modeAfter mode u) v ∧
      modeAfter mode (u ++ c :: v) = modeAfter (modeAfter mode u) v := by
  induction u generalizing mode with
  | nil => simp [markFrom, modeAfter, h.step_inert (hmid rfl) hc]
  | cons d u ih =>
    cases u with
    | nil =>
      -- The character before it may see it, as the second character of a pair.
      obtain ⟨hclass, hstep⟩ := h.step_step_inert hc d v.head?
      simp [markFrom, modeAfter, hclass, hstep]
    | cons e u =>
      obtain ⟨hmarks, hmode⟩ :=
        ih (h.step d (some e)) fun hnil => absurd hnil (List.cons_ne_nil e u)
      rw [List.cons_append, markFrom, modeAfter, markFrom, modeAfter, List.cons_append] at *
      exact ⟨congrArg _ hmarks, hmode⟩

theorem inert_of_isBlank (hc : isBlank c = true) (hn : c ≠ '\n') : Inert c := by
  refine ⟨?_, ?_, ?_, ?_, ?_, hn⟩ <;> (rintro rfl; exact absurd hc (by decide))

/-- Blanks at the end of a text change no class before them. -/
theorem mark_prefix_append_blank (hv : ∀ c ∈ v, isBlank c = true) : mark u <+: mark (u ++ v) := by
  cases v with
  | nil => exact ⟨[], by simp⟩
  | cons c v =>
    have hc := hv c List.mem_cons_self
    by_cases hn : c = '\n'
    · subst hn
      exact ⟨_, (markFrom_append_lineFeed .code u v).symm⟩
    · have hscan := scan_append_inert (u := u) Mode.reached_code (fun _ => id)
        (inert_of_isBlank hc hn) v
      exact ⟨_, hscan.1.symm⟩

/-- Inert characters at the end of a text have the class that the text ends in. -/
theorem mark_append_inert (hv : ∀ c ∈ v, Inert c) :
    mark (u ++ v) = mark u ++ v.map (·, (modeAfter .code u).lexeme) ∧
      modeAfter .code (u ++ v) = modeAfter .code u := by
  induction v generalizing u with
  | nil => simp
  | cons c v ih =>
    obtain ⟨hc, hv⟩ := List.forall_mem_cons.1 hv
    obtain ⟨hone, hmode⟩ := scan_append_inert (u := u) Mode.reached_code (fun _ => id) hc []
    obtain ⟨hmarks, hmodes⟩ := ih (u := u ++ [c]) hv
    rw [hmode, List.append_assoc, List.singleton_append] at hmarks hmodes
    rw [hmarks, hmodes, mark, hone]
    exact ⟨by simp [markFrom, modeAfter, mark], rfl⟩

theorem modeAfter_stripLeft (cs : List Char) :
    modeAfter .code (stripLeft cs) = modeAfter .code cs := by
  obtain ⟨b, hb, he⟩ := exists_stripLeft cs
  rw [he, modeAfter_append_of_plain fun c hc => plain_of_isStop (isStop_of_isBlank (hb c hc)), ← he]

/-- White space around a line has no effect on the mode that the line ends in. -/
theorem modeAfter_strip (hn : '\n' ∉ cs) : modeAfter .code (strip cs) = modeAfter .code cs := by
  obtain ⟨a, -, hleft⟩ := exists_stripLeft cs
  obtain ⟨b, hb, hright⟩ := exists_stripRight (stripLeft cs)
  have hinert : ∀ c ∈ b, Inert c := fun c hc =>
    inert_of_isBlank (hb c hc) fun e => hn <| by
      rw [hleft, hright, ← e]
      exact List.mem_append_right a (List.mem_append_right _ hc)
  rw [strip, ← modeAfter_stripLeft cs, ← (mark_append_inert hinert).2, ← hright]

theorem exists_strip_of_code (hn : '\n' ∉ cs) (hcode : modeAfter .code cs = .code) :
    ∃ a b : List Char, (∀ c ∈ a, isBlank c = true) ∧ (∀ c ∈ b, isBlank c = true) ∧
      cs = a ++ (strip cs ++ b) ∧ modeAfter .code (strip cs) = .code ∧
        mark cs = a.map (·, .code) ++ (mark (strip cs) ++ b.map (·, .code)) := by
  obtain ⟨a, ha, hleft⟩ := exists_stripLeft cs
  obtain ⟨b, hb, hright⟩ := exists_stripRight (stripLeft cs)
  rw [← strip] at hright
  have hcs : cs = a ++ (strip cs ++ b) := hright ▸ hleft
  have hplain : ∀ c ∈ a, Plain c := fun c hc => plain_of_isStop (isStop_of_isBlank (ha c hc))
  have hinert : ∀ c ∈ b, Inert c := fun c hc =>
    inert_of_isBlank (hb c hc) fun e => hn <| by
      rw [hcs, ← e]
      exact List.mem_append_right a (List.mem_append_right _ hc)
  obtain ⟨hmarks, hmode⟩ := mark_append_inert (u := strip cs) hinert
  have hstrip : modeAfter .code (strip cs) = .code := by
    rw [hcs, modeAfter_append_of_plain hplain, hmode] at hcode
    exact hcode
  refine ⟨a, b, ha, hb, hcs, hstrip, ?_⟩
  rw [hstrip, Mode.lexeme] at hmarks
  rw [← hmarks, ← mark_append_of_plain hplain, ← hcs]

end Formwork.Idl
