import Formwork.Proofs.Idl.Inert
import Formwork.Proofs.Idl.Tightens
import Mathlib.Data.List.Forall2

/-!
Complete texts on one line, and where they are cut. Such a text ends in code and holds no comment, so
it may be stripped, and cut behind each semicolon in code, and every part of it is scanned as if it
stood alone.
-/
namespace Formwork.Idl
open Formwork.Text

variable {mode : Mode} {m n : List Marked} {u v cs : List Char}

/-! ### Texts on one line -/

/-- A complete text on one line: code and closed literals, with no white space but spaces. -/
structure Whole (cs : List Char) : Prop where
  blank : ∀ c ∈ cs, isBlank c = true → c = ' '
  clean : ∀ x ∈ mark cs, x.2 = .code ∨ x.2 = .string
  closed : modeAfter .code cs = .code

/-- The scan stands in code or in a literal. -/
def Mode.Proper : Mode → Prop
  | .code => True
  | .string quote | .escaped quote => quote = '"' ∨ quote = '\''
  | .lineMark | .lineComment | .blockMark | .blockComment | .closeMark => False

theorem Mode.proper_code : Mode.code.Proper := trivial

theorem Mode.Proper.sound (h : mode.Proper) : mode.Sound := by
  cases mode <;> grind [Mode.Proper, Mode.Sound]

theorem Mode.Proper.step (h : mode.Proper) {c : Char} {next : Option Char}
    (hc : (mode.step c next).1 = .code ∨ (mode.step c next).1 = .string) :
    (mode.step c next).2.Proper := by
  cases mode <;> grind [Mode.Proper, Mode.step]

theorem detached_space (cs : List Char) : Detached (' ' :: cs) := detached_cons (by decide) cs

theorem mark_space (cs : List Char) : mark (' ' :: cs) = space :: mark cs :=
  mark_cons_of_plain (by decide) cs

theorem mark_append_space (hu : modeAfter .code u = .code) (v : List Char) :
    mark (u ++ ' ' :: v) = mark u ++ space :: mark v := by
  rw [mark_append_of_code hu (detached_space v), mark_space]

theorem Whole.append_space (hu : Whole u) (hv : Whole v) : Whole (u ++ ' ' :: v) where
  blank c hc hb := by
    rcases List.mem_append.1 hc with hc | hc
    · exact hu.blank c hc hb
    · rcases List.mem_cons.1 hc with rfl | hc
      · rfl
      · exact hv.blank c hc hb
  clean x hx := by
    rw [mark_append_space hu.closed] at hx
    rcases List.mem_append.1 hx with hx | hx
    · exact hu.clean x hx
    · rcases List.mem_cons.1 hx with rfl | hx
      · exact .inl rfl
      · exact hv.clean x hx
  closed := by
    rw [modeAfter_append_of_code Mode.sound_code hu.closed (detached_space v)]
    exact hv.closed

theorem Whole.nil : Whole [] := ⟨nofun, nofun, rfl⟩

/-- The text without the spaces around it. -/
theorem Whole.exists_strip (h : Whole cs) : ∃ a b : List Char, (∀ c ∈ a, c = ' ') ∧
    (∀ c ∈ b, c = ' ') ∧ cs = a ++ (strip cs ++ b) ∧ Whole (strip cs) ∧
      mark cs = a.map (·, .code) ++ (mark (strip cs) ++ b.map (·, .code)) := by
  have hn : '\n' ∉ cs := fun hmem => absurd (h.blank '\n' hmem (by decide)) (by decide)
  obtain ⟨a, b, ha, hb, hcs, hcode, hmark⟩ := exists_strip_of_code hn h.closed
  refine ⟨a, b, fun c hc => ?_, fun c hc => ?_, hcs, ⟨fun c hc => ?_, fun x hx => ?_, hcode⟩, hmark⟩
  · exact h.blank c (hcs ▸ List.mem_append_left _ hc) (ha c hc)
  · exact h.blank c (hcs ▸ List.mem_append_right _ (List.mem_append_right _ hc)) (hb c hc)
  · exact h.blank c (mem_of_mem_strip hc)
  · exact h.clean x (hmark ▸ List.mem_append_right _ (List.mem_append_left _ hx))

/-! ### Cutting at semicolons -/

/-- What was cut, with one more character in front of it. -/
def push (x : Marked) : List (List Marked) × List Marked → List (List Marked) × List Marked
  | ([], rest) => ([], x :: rest)
  | (s :: more, rest) => ((x :: s) :: more, rest)

/-- The stretches that end in a semicolon in code, and the stretch after the last of them. -/
def cutMarks : List Marked → List (List Marked) × List Marked
  | [] => ([], [])
  | x :: m =>
    if x = (';', .code) then ([x] :: (cutMarks m).1, (cutMarks m).2) else push x (cutMarks m)

/-- The texts of the complete statements in marked text. -/
def statementTexts (m : List Marked) : List (List Char) :=
  ((cutMarks m).1.map fun s => strip (s.map (·.1))).filter (· != [';'])

theorem cutMarks_space (m : List Marked) : cutMarks (space :: m) = push space (cutMarks m) := rfl

theorem cutStatements_eq (taken : List Char) (m : List Marked) : cutStatements taken m =
    match cutMarks m with
    | ([], rest) => ([], taken.reverse ++ rest.map (·.1))
    | (s :: more, rest) =>
      ((taken.reverse ++ s.map (·.1)) :: more.map (·.map (·.1)), rest.map (·.1)) := by
  induction m generalizing taken with
  | nil => simp [cutStatements, cutMarks]
  | cons x m ih =>
    obtain ⟨c, l⟩ := x
    rw [cutStatements, cutMarks, ih, ih]
    by_cases hx : l = .code ∧ c = ';'
    · obtain ⟨rfl, rfl⟩ := hx
      rw [if_pos ⟨rfl, rfl⟩, if_pos rfl]
      cases cutMarks m with
      | mk complete rest => cases complete <;> simp
    · rw [if_neg hx, if_neg fun e => hx ⟨congrArg (·.2) e, congrArg (·.1) e⟩]
      cases cutMarks m with
      | mk complete rest => cases complete <;> simp [push]

theorem splitStatements_eq (cs : List Char) : splitStatements cs =
    (statementTexts (mark cs), strip ((cutMarks (mark cs)).2.map (·.1))) := by
  rw [splitStatements, cutStatements_eq, statementTexts]
  cases cutMarks (mark cs) with
  | mk complete rest => cases complete <;> simp [Function.comp_def]

theorem cutMarks_append (m n : List Marked) : cutMarks (m ++ n) =
    ((cutMarks m).1 ++ (cutMarks ((cutMarks m).2 ++ n)).1, (cutMarks ((cutMarks m).2 ++ n)).2) := by
  induction m with
  | nil => rfl
  | cons x m ih =>
    rw [List.cons_append, cutMarks, cutMarks, ih]
    by_cases hx : x = (';', .code)
    · rw [if_pos hx, if_pos hx]
      rfl
    · rw [if_neg hx, if_neg hx]
      cases cutMarks m with
      | mk complete rest =>
        cases complete with
        | nil =>
          rw [push, List.cons_append, cutMarks, if_neg hx]
          rfl
        | cons s more => rfl

theorem flatten_cutMarks (m : List Marked) : (cutMarks m).1.flatten ++ (cutMarks m).2 = m := by
  induction m with
  | nil => rfl
  | cons x m ih =>
    rw [cutMarks]
    split
    · simp [ih]
    · revert ih
      cases cutMarks m with
      | mk complete rest =>
        rintro rfl
        cases complete <;> rfl

theorem mem_cutMarks {s : List Marked} (hs : s ∈ (cutMarks m).1) :
    ∃ b, s = b ++ [(';', .code)] := by
  induction m generalizing s with
  | nil => cases hs
  | cons x m ih =>
    rw [cutMarks] at hs
    split at hs
    · next hx =>
      rcases List.mem_cons.1 hs with rfl | hs
      · exact ⟨[], congrArg ([·]) hx⟩
      · exact ih hs
    · revert ih hs
      cases cutMarks m with
      | mk complete rest =>
        intro ih hs
        cases complete with
        | nil => cases hs
        | cons t more =>
          rcases List.mem_cons.1 hs with rfl | hs
          · obtain ⟨b, rfl⟩ := ih List.mem_cons_self
            exact ⟨x :: b, rfl⟩
          · exact ih (List.mem_cons_of_mem _ hs)

theorem cutMarks_of_not_mem (h : (';', .code) ∉ m) : cutMarks m = ([], m) := by
  induction m with
  | nil => rfl
  | cons x m ih =>
    rw [List.mem_cons, not_or] at h
    rw [cutMarks, if_neg (Ne.symm h.1), ih h.2, push]

theorem not_mem_cutMarks (m : List Marked) : (';', .code) ∉ (cutMarks m).2 := by
  induction m with
  | nil => exact List.not_mem_nil
  | cons x m ih =>
    rw [cutMarks]
    split
    · exact ih
    · next hx =>
      revert ih
      cases cutMarks m with
      | mk complete rest =>
        intro ih
        cases complete with
        | nil => exact fun hmem => (List.mem_cons.1 hmem).elim (fun e => hx e.symm) ih
        | cons s more => exact ih

theorem cutMarks_append_of_not_mem (h : (';', .code) ∉ n) (m : List Marked) :
    cutMarks (m ++ n) = ((cutMarks m).1, (cutMarks m).2 ++ n) := by
  have hrest : (';', .code) ∉ (cutMarks m).2 ++ n := by
    rw [List.mem_append, not_or]
    exact ⟨not_mem_cutMarks m, h⟩
  rw [cutMarks_append, cutMarks_of_not_mem hrest, List.append_nil]

/-- Shorter runs of blanks are cut at the same places. -/
theorem Tightens.cutMarks (h : Tightens space m n) :
    List.Forall₂ (Tightens space) (cutMarks m).1 (cutMarks n).1 ∧
      Tightens space (cutMarks m).2 (cutMarks n).2 := by
  induction h with
  | nil => exact ⟨.nil, .nil⟩
  | @cons x xs ys _ ih =>
    rw [Idl.cutMarks, Idl.cutMarks]
    obtain ⟨hfound, hrest⟩ := ih
    by_cases hx : x = (';', .code)
    · rw [if_pos hx, if_pos hx]
      exact ⟨.cons (.refl space [x]) hfound, hrest⟩
    · rw [if_neg hx, if_neg hx]
      revert hfound hrest
      cases Idl.cutMarks xs with
      | mk complete rest =>
        cases Idl.cutMarks ys with
        | mk complete' rest' =>
          intro hfound hrest
          cases hfound with
          | nil => exact ⟨.nil, .cons x hrest⟩
          | cons hs hmore => exact ⟨.cons (.cons x hs) hmore, hrest⟩
  | @drop xs ys h ih =>
    rw [cutMarks_space, cutMarks_space]
    rw [cutMarks_space] at ih
    revert ih
    cases Idl.cutMarks xs with
    | mk complete rest =>
      cases complete with
      | nil =>
        rintro ⟨hfound, hrest⟩
        exact ⟨hfound, .drop hrest⟩
      | cons s more =>
        rintro ⟨hfound, hrest⟩
        revert hfound hrest
        cases Idl.cutMarks ys with
        | mk complete' rest' =>
          intro hfound hrest
          cases hfound with
          | cons hs hmore => exact ⟨.cons (.drop hs) hmore, hrest⟩

/-! ### Stretches of complete texts -/

theorem Mode.step_none_of_code {c : Char} {next : Option Char}
    (h : (mode.step c next).1 = .code) : (mode.step c none).1 = .code := by
  cases mode <;> grind [Mode.step]

/-- Behind a character of code the scan starts anew. -/
theorem markFrom_cut {c : Char} (h : markFrom mode cs = m ++ (c, .code) :: n) :
    markFrom mode (m.map (·.1) ++ [c]) = m ++ [(c, .code)] ∧ mark (n.map (·.1)) = n ∧
      modeAfter .code (n.map (·.1)) = modeAfter mode cs := by
  induction m generalizing mode cs with
  | nil =>
    cases cs with
    | nil => cases h
    | cons d cs =>
      rw [markFrom, List.nil_append] at h
      obtain ⟨hd, rfl⟩ := List.cons.inj h
      obtain ⟨rfl, hcode⟩ := Prod.mk.inj hd
      have hafter := Mode.step_snd_of_code hcode
      rw [markFrom_map_fst, modeAfter, hafter]
      refine ⟨?_, rfl, rfl⟩
      simp [markFrom, Mode.step_none_of_code hcode]
  | cons x m ih =>
    cases cs with
    | nil => cases h
    | cons d cs =>
      rw [markFrom, List.cons_append] at h
      obtain ⟨rfl, htail⟩ := List.cons.inj h
      obtain ⟨hfront, hback, hmode⟩ := ih htail
      refine ⟨?_, hback, hmode⟩
      have hhead : (m.map (·.1) ++ [c]).head? = cs.head? := by
        rw [← markFrom_map_fst (mode.step d cs.head?).2 cs, htail, List.map_append, List.map_cons]
        cases m <;> rfl
      rw [List.map_cons, List.cons_append, markFrom, hhead, hfront, List.cons_append]

theorem Whole.of_suffix (h : Whole cs) (hm : m <:+ mark cs) (hmark : mark (m.map (·.1)) = m)
    (hcode : modeAfter .code (m.map (·.1)) = .code) : Whole (m.map (·.1)) where
  blank c hc := by
    obtain ⟨x, hx, rfl⟩ := List.mem_map.1 hc
    have hmem := List.mem_map_of_mem (f := (·.1)) (hm.subset hx)
    rw [mark_map_fst] at hmem
    exact h.blank x.1 hmem
  clean x hx := h.clean x (hm.subset (hmark ▸ hx))
  closed := hcode

/-- The stretches of a complete text are scanned as if they stood alone. -/
theorem Whole.cutMarks (h : Whole cs) : (∀ s ∈ (cutMarks (mark cs)).1, mark (s.map (·.1)) = s) ∧
    mark ((cutMarks (mark cs)).2.map (·.1)) = (cutMarks (mark cs)).2 ∧
      Whole ((cutMarks (mark cs)).2.map (·.1)) := by
  have hall : ∀ (ss : List (List Marked)) (rest : List Marked) {cs : List Char}, Whole cs →
      ss.flatten ++ rest = mark cs → (∀ s ∈ ss, ∃ b, s = b ++ [(';', .code)]) →
        (∀ s ∈ ss, mark (s.map (·.1)) = s) ∧ mark (rest.map (·.1)) = rest ∧
          Whole (rest.map (·.1)) := by
    intro ss rest
    induction ss with
    | nil =>
      intro cs h he _
      obtain rfl : rest = mark cs := he
      rw [mark_map_fst]
      exact ⟨List.forall_mem_nil _, rfl, h⟩
    | cons s ss ih =>
      intro cs h he hends
      obtain ⟨⟨b, rfl⟩, hmore⟩ := List.forall_mem_cons.1 hends
      rw [List.flatten_cons, List.append_assoc, List.append_assoc, List.singleton_append] at he
      obtain ⟨hfront, hback, hmode⟩ := markFrom_cut he.symm
      have hwhole := h.of_suffix ⟨b ++ [(';', .code)], by rw [← he]; simp⟩ hback
        (hmode.trans h.closed)
      obtain ⟨hss, hrest⟩ := ih hwhole hback.symm hmore
      refine ⟨List.forall_mem_cons.2 ⟨?_, hss⟩, hrest⟩
      rw [List.map_append]
      exact hfront
  exact hall _ _ h (flatten_cutMarks _) fun _ => mem_cutMarks

end Formwork.Idl
