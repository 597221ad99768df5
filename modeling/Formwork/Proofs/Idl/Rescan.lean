import Formwork.Proofs.Idl.Joining

/-!
The code of a statement that has begun. Such code is joined with the code of the next line by a
space, and the joined text is scanned again from its start; the scan comes to the line in the mode
that it had at the end of the code, whether this mode is code or a literal that is still open.
-/
namespace Formwork.Idl
open Formwork.Text

variable {mode : Mode} {m : List Marked} {code line : List Char}

/-! ### Code that has begun -/

/-- The code of a statement that has begun: stripped, and without a semicolon in code. -/
structure Begun (code : List Char) : Prop where
  stripped : strip code = code
  uncut : (';', .code) ∉ mark code

theorem begun_nil : Begun [] := ⟨rfl, List.not_mem_nil⟩

theorem exists_of_cutMarks (h : (cutMarks m).1 ≠ []) :
    ∃ b, m = b ++ (';', .code) :: (cutMarks m).2 := by
  obtain ⟨ss, s, hss⟩ := (List.eq_nil_or_concat _).resolve_left h
  rw [List.concat_eq_append] at hss
  obtain ⟨b, rfl⟩ := mem_cutMarks (hss ▸ List.mem_append_right ss (List.mem_singleton_self s))
  have hflat := flatten_cutMarks m
  rw [hss] at hflat
  refine ⟨ss.flatten ++ b, ?_⟩
  simpa using hflat.symm

theorem begun_rest (cs : List Char) : Begun (strip ((cutMarks (mark cs)).2.map (·.1))) := by
  refine ⟨strip_strip _, fun hmem => ?_⟩
  have hmark : mark ((cutMarks (mark cs)).2.map (·.1)) = (cutMarks (mark cs)).2 := by
    by_cases h : (cutMarks (mark cs)).1 = []
    · have hflat := flatten_cutMarks (mark cs)
      rw [h, List.flatten_nil, List.nil_append] at hflat
      rw [hflat, mark_map_fst]
    · obtain ⟨b, hb⟩ := exists_of_cutMarks h
      exact (markFrom_cut hb).2.1
  refine not_mem_cutMarks (mark cs) ?_
  rw [← hmark]
  obtain ⟨b, hb, he⟩ := exists_stripRight (stripLeft ((cutMarks (mark cs)).2.map (·.1)))
  have hleft := (mark_prefix_append_blank (u := strip ((cutMarks (mark cs)).2.map (·.1))) hb).subset
    hmem
  rw [strip, ← he, mark_stripLeft] at hleft
  exact (List.dropWhile_sublist _).subset hleft

/-! ### Joined code -/

/-- What was cut, with marked text in front of it. -/
def prepend (a : List Marked) : List (List Marked) × List Marked → List (List Marked) × List Marked
  | ([], rest) => ([], a ++ rest)
  | (s :: more, rest) => ((a ++ s) :: more, rest)

theorem cutMarks_prepend (h : (';', .code) ∉ m) (n : List Marked) :
    cutMarks (m ++ n) = prepend m (cutMarks n) := by
  induction m with
  | nil =>
    rw [List.nil_append]
    cases cutMarks n with
    | mk complete rest => cases complete <;> rfl
  | cons x m ih =>
    rw [List.mem_cons, not_or] at h
    rw [List.cons_append, cutMarks, if_neg (Ne.symm h.1), ih h.2]
    cases cutMarks n with
    | mk complete rest => cases complete <;> rfl

theorem cutMarks_append_cons (h : (';', .code) ∉ m) {x : Marked} (hx : x ≠ (';', .code))
    (n : List Marked) : cutMarks (m ++ x :: n) = prepend (m ++ [x]) (cutMarks n) := by
  have hall : (';', .code) ∉ m ++ [x] := by simp [h, hx.symm]
  rw [← cutMarks_prepend hall, List.append_assoc, List.singleton_append]

theorem joined_nil_left (line : List Char) : joined [] line = line := by
  rw [joined, if_pos rfl]
  split
  · next h => exact h.symm
  · rfl

/-- Code that a space joins with a line is more than one character. -/
theorem eq_nil_of_joined (hne : line ≠ []) {c : Char} (h : joined code line = [c]) :
    code = [] ∧ line = [c] := by
  rw [joined, if_neg hne] at h
  split at h
  · next hc => exact ⟨hc, h⟩
  · next hc =>
    have hlength := congrArg List.length h
    have hpos := List.length_pos_of_ne_nil hc
    simp only [List.length_append, List.length_cons, List.length_nil] at hlength
    omega

/-- The code before a line, with the space behind it, marked. -/
def lead (code : List Char) : List Marked :=
  if code = [] then [] else mark code ++ [(' ', (modeAfter .code code).lexeme)]

theorem Begun.not_mem_lead (h : Begun code) : (';', .code) ∉ lead code := by
  rw [lead]
  split
  · exact List.not_mem_nil
  · rw [List.mem_append, not_or]
    exact ⟨h.uncut, by simp⟩

theorem scan_joined (hne : line ≠ []) :
    mark (joined code line) = lead code ++ markFrom (modeAfter .code code) line ∧
      modeAfter .code (joined code line) = modeAfter (modeAfter .code code) line := by
  rw [joined, if_neg hne, lead]
  by_cases hc : code = []
  · rw [if_pos hc, if_pos hc, hc]
    exact ⟨rfl, rfl⟩
  · obtain ⟨hmarks, hmode⟩ :=
      scan_append_inert (u := code) (c := ' ') Mode.reached_code (fun _ => id) (by decide) line
    rw [if_neg hc, if_neg hc, List.append_assoc]
    exact ⟨hmarks, hmode⟩

theorem lead_map_fst_append (hne : line ≠ []) :
    (lead code).map (·.1) ++ line = joined code line := by
  rw [joined, if_neg hne, lead]
  split <;> simp [mark_map_fst]

theorem strip_joined (hcode : strip code = code) (hline : strip line = line) :
    strip (joined code line) = joined code line := by
  rw [joined]
  split_ifs with hl hc
  · exact hcode
  · exact hline
  · rw [strip_eq_self_iff] at hcode hline ⊢
    obtain ⟨c, code, rfl⟩ := List.exists_cons_of_ne_nil hc
    obtain ⟨d, line, rfl⟩ := List.exists_cons_of_ne_nil hl
    rw [List.getLast?_cons] at hline
    rw [List.getLast?_append, List.getLast?_cons_cons, List.getLast?_cons, Option.some_or]
    exact ⟨hcode.1, hline.2⟩

/-- What a line completes, after code that has begun: the code belongs to the first statement. -/
def completedTexts (code : List Char) : List (List Marked) → List (List Char)
  | [] => []
  | s :: more =>
    (joined code (s.map (·.1)) :: more.map fun t => strip (t.map (·.1))).filter (· != [';'])

/-- What is left of a line, after code that has begun. -/
def restText (code line : List Char) : List (List Marked) × List Marked → List Char
  | ([], _) => joined code line
  | (_ :: _, rest) => strip (rest.map (·.1))

/-- The texts that a line completes, after code that has begun. -/
def textsBehind (code line : List Char) : List (List Char) :=
  completedTexts code (cutMarks (markFrom (modeAfter .code code) line)).1

/-- The code that a line leaves, after code that has begun. -/
def restBehind (code line : List Char) : List Char :=
  restText code line (cutMarks (markFrom (modeAfter .code code) line))

theorem strip_of_cutMarks {s : List Marked} {more : List (List Marked)} {rest : List Marked}
    (hline : strip line = line) (hcut : cutMarks (markFrom mode line) = (s :: more, rest)) :
    strip (s.map (·.1)) = s.map (·.1) ∧ s.map (·.1) ≠ [] := by
  have hflat := congrArg (·.map (·.1)) (flatten_cutMarks (markFrom mode line))
  obtain ⟨b, rfl⟩ := mem_cutMarks (m := markFrom mode line) (s := s) (by simp [hcut])
  rw [hcut, markFrom_map_fst] at hflat
  refine ⟨strip_eq_self_iff.2 ⟨fun c hc => ?_, fun c hc => ?_⟩, by simp⟩
  · refine (strip_eq_self_iff.1 hline).1 c ?_
    rw [← hflat, List.flatten_cons, List.append_assoc, List.map_append, List.head?_append, hc]
    rfl
  · rw [List.map_append, List.map_singleton, List.getLast?_concat] at hc
    obtain rfl := Option.some.inj hc
    decide

/-- A step: a line behind code that has begun is cut at the semicolons that are code where the scan
comes to the line in the mode of the code. -/
theorem Begun.splitStatements (h : Begun code) (hline : strip line = line) (hne : line ≠ []) :
    splitStatements (joined code line) = (textsBehind code line, restBehind code line) := by
  have hflat := flatten_cutMarks (markFrom (modeAfter .code code) line)
  rw [splitStatements_eq, (scan_joined hne).1, statementTexts,
    cutMarks_prepend h.not_mem_lead, textsBehind, restBehind]
  cases hcut : cutMarks (markFrom (modeAfter .code code) line) with
  | mk complete rest =>
    rw [hcut] at hflat
    cases complete with
    | nil =>
      obtain rfl : rest = markFrom (modeAfter .code code) line := hflat
      rw [prepend, List.map_append, markFrom_map_fst, lead_map_fst_append hne,
        strip_joined h.stripped hline]
      rfl
    | cons s more =>
      obtain ⟨hs, hsne⟩ := strip_of_cutMarks hline hcut
      rw [prepend, List.map_cons, List.map_append, lead_map_fst_append hsne,
        strip_joined h.stripped hs]
      rfl

theorem isBlank_getLast?_rest {b rest : List Marked} (hline : strip line = line)
    (hcut : markFrom mode line = b ++ (';', .code) :: rest) :
    ∀ c ∈ (rest.map (·.1)).getLast?, isBlank c = false := by
  intro c hc
  refine (strip_eq_self_iff.1 hline).2 c ?_
  rw [← markFrom_map_fst mode line, hcut, List.map_append, List.map_cons, List.getLast?_append,
    List.getLast?_cons, Option.mem_def.1 hc]
  rfl

/-- What is left over has begun, and it ends in the mode in which the scan comes to the next
line. -/
theorem Begun.rest (h : Begun code) (hline : strip line = line) (hne : line ≠ []) :
    Begun (restBehind code line) ∧
      modeAfter .code (restBehind code line) = modeAfter (modeAfter .code code) line := by
  have hbegun := begun_rest (joined code line)
  have hrest := congrArg (·.2) (h.splitStatements hline hne)
  rw [splitStatements_eq] at hrest
  dsimp only at hrest
  rw [hrest] at hbegun
  refine ⟨hbegun, ?_⟩
  rw [restBehind]
  cases hcut : cutMarks (markFrom (modeAfter .code code) line) with
  | mk complete rest =>
    cases complete with
    | nil => exact (scan_joined hne).2
    | cons s more =>
      obtain ⟨b, hb⟩ :=
        exists_of_cutMarks (m := markFrom (modeAfter .code code) line) (by simp [hcut])
      rw [hcut] at hb
      rw [restText, strip_eq_stripLeft (isBlank_getLast?_rest hline hb),
        modeAfter_stripLeft, (markFrom_cut hb).2.2]

/-! ### Lines -/

variable {l : List Char} {w : Unfinished}

/-- A line without code waits, or stands beside the statement that has begun. -/
theorem Unfinished.line_of_codeless (hl : (splitLineComment l).1 = []) (w : Unfinished) :
    w.line l = ([], if w.code = [] then
        { w with leading := w.leading ++ commentList (splitLineComment l).2 }
      else { w with trailing := w.trailing ++ commentList (splitLineComment l).2 }) := by
  rw [line]
  simp only [hl, List.isEmpty_nil, if_true, List.isEmpty_iff]
  split <;> rfl

/-- A line with code: the statements that it completes, and what is left over. -/
theorem Unfinished.line_of_code (hl : (splitLineComment l).1 ≠ []) {complete : List (List Char)}
    {rest : List Char}
    (hsplit : splitStatements (joined w.code (splitLineComment l).1) = (complete, rest)) :
    w.line l =
      (let comments := commentList (splitLineComment l).2
      let own := if rest = [] then comments else []
      let waiting := if rest = [] then [] else comments
      if complete = [] then ([], { w with code := rest, trailing := w.trailing ++ waiting })
      else (attach w.leading w.trailing own complete, ⟨rest, [], waiting⟩)) := by
  have hjoined : (if w.code = [] then (splitLineComment l).1
      else w.code ++ ' ' :: (splitLineComment l).1) = joined w.code (splitLineComment l).1 := by
    rw [joined, if_neg hl]
  rw [line]
  simp only [List.isEmpty_iff, hl, if_false, hjoined, hsplit]
  cases complete <;> rfl

def Unfinished.after (w : Unfinished) : List (List Char) → Unfinished
  | [] => w
  | l :: ls => (w.line l).2.after ls

theorem Unfinished.lines_append (w : Unfinished) (ls ls' : List (List Char)) :
    w.lines (ls ++ ls') = w.lines ls ++ (w.after ls).lines ls' := by
  induction ls generalizing w with
  | nil => rfl
  | cons l ls ih => rw [List.cons_append, lines, lines, after, ih, List.append_assoc]

theorem Unfinished.after_append (w : Unfinished) (ls ls' : List (List Char)) :
    w.after (ls ++ ls') = (w.after ls).after ls' := by
  induction ls generalizing w with
  | nil => rfl
  | cons l ls ih => exact ih _

theorem strip_splitLineComment (l : List Char) :
    strip (splitLineComment l).1 = (splitLineComment l).1 := strip_strip _

theorem splitAtLineComment_flatten (m : List Marked) :
    (splitAtLineComment m).1 ++ (splitAtLineComment m).2 = m.map (·.1) := by
  induction m with
  | nil => rfl
  | cons x m ih =>
    obtain ⟨c, l⟩ := x
    rw [splitAtLineComment]
    split
    · rfl
    · exact congrArg (c :: ·) ih

theorem mem_of_mem_splitLineComment {c : Char} (h : c ∈ (splitLineComment l).1) : c ∈ l := by
  have hmem : c ∈ (splitAtLineComment (mark l)).1 := mem_of_mem_strip h
  rw [← mark_map_fst l, ← splitAtLineComment_flatten]
  exact List.mem_append_left _ hmem

end Formwork.Idl
