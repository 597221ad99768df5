import Formwork.Proofs.Idl.Rescan

/-!
Literals that are open at the end of a line. The code of the lines is joined and scanned again, so
such a literal goes on over the lines behind it. What these lines complete is then as it would be
without the literal from the first semicolon on that is code in both scans; and where the literal is
never closed, they complete nothing.
-/
namespace Formwork.Idl
open Formwork.Text

variable {mode : Mode} {m : List Marked} {x : Marked} {a b code line l k : List Char}
  {w w' : Unfinished} {ls : List (List Char)}

/-! ### The joined code of lines -/

/-- The code of lines, joined by single spaces. -/
def codeOf : List (List Char) → List Char
  | [] => []
  | l :: ls => joined (splitLineComment l).1 (codeOf ls)

theorem strip_codeOf (ls : List (List Char)) : strip (codeOf ls) = codeOf ls := by
  induction ls with
  | nil => rfl
  | cons l ls ih => exact strip_joined (strip_splitLineComment l) ih

theorem map_text_attach (leading trailing own texts : List (List Char)) :
    (attach leading trailing own texts).map Statement.text = texts := by
  induction texts generalizing leading trailing with
  | nil => rfl
  | cons text texts ih =>
    cases texts with
    | nil => rfl
    | cons next texts => exact congrArg (text :: ·) (ih [] [])

theorem completedTexts_append (code : List Char) {ss : List (List Marked)} (hne : ss ≠ [])
    (ts : List (List Marked)) : completedTexts code (ss ++ ts) =
      completedTexts code ss ++ (ts.map fun t => strip (t.map (·.1))).filter (· != [';']) := by
  obtain ⟨s, ss, rfl⟩ := List.exists_cons_of_ne_nil hne
  rw [List.cons_append, completedTexts, completedTexts, List.map_append, ← List.cons_append,
    List.filter_append]

theorem joined_joined (hline : line ≠ []) (hk : k ≠ []) :
    joined (joined code line) k = joined code (line ++ ' ' :: k) := by
  by_cases hc : code = [] <;> simp [joined, hline, hk, hc]

/-- What is left over at the end of a stripped line is joined with the next line like code. -/
theorem strip_append_space {r : List Char} (hr : ∀ c ∈ r.getLast?, isBlank c = false)
    (hk : strip k = k) (hne : k ≠ []) : strip (r ++ ' ' :: k) = joined (strip r) k := by
  rw [joined, if_neg hne]
  split
  · next h =>
    have hblank : ∀ c ∈ r ++ [' '], isBlank c = true := by
      intro c hc
      rcases List.mem_append.1 hc with hc | hc
      · exact strip_eq_nil_iff.1 h c hc
      · rw [List.mem_singleton.1 hc]
        decide
    have hsplit : r ++ ' ' :: k = (r ++ [' ']) ++ k := by simp
    rw [hsplit, strip, stripLeft_append hblank, ← strip, hk]
  · next h =>
    rw [strip_eq_stripLeft hr] at h ⊢
    rw [strip_eq_stripLeft, stripLeft_append_of_ne_nil h]
    intro c hc
    refine (strip_eq_self_iff.1 hk).2 c ?_
    obtain ⟨d, k, rfl⟩ := List.exists_cons_of_ne_nil hne
    rw [List.getLast?_append, List.getLast?_cons_cons, List.getLast?_cons, Option.some_or] at hc
    rw [List.getLast?_cons]
    exact hc

/-- Behind code a scan passes over an inert character, whatever mode the code ends in. -/
theorem scan_behind (code : List Char) {c : Char} (hc : Inert c) (line k : List Char) :
    markFrom (modeAfter .code code) (line ++ c :: k) = markFrom (modeAfter .code code) line ++
        (c, (modeAfter (modeAfter .code code) line).lexeme) ::
          markFrom (modeAfter (modeAfter .code code) line) k ∧
      modeAfter (modeAfter .code code) (line ++ c :: k) =
        modeAfter (modeAfter (modeAfter .code code) line) k :=
  scan_append_inert (Mode.reached_code.modeAfter code) (fun _ => not_isMidway_modeAfter id code)
    hc k

/-- Two lines complete what they complete as one line. -/
theorem Begun.textsBehind_joined (h : Begun code) (hline : strip line = line) (hne : line ≠ [])
    (hk : strip k = k) : textsBehind code (joined line k) =
      textsBehind code line ++ textsBehind (restBehind code line) k := by
  by_cases hknil : k = []
  · subst hknil
    exact (List.append_nil _).symm
  rw [textsBehind, textsBehind, textsBehind, (h.rest hline hne).2, restBehind, joined,
    if_neg hknil, if_neg hne, (scan_behind code (by decide) line k).1, cutMarks_append,
    cutMarks_append_cons (not_mem_cutMarks _) (by simp)]
  cases hcut : cutMarks (markFrom (modeAfter .code code) line) with
  | mk found rest =>
    cases hnext : cutMarks (markFrom (modeAfter (modeAfter .code code) line) k) with
    | mk found' rest' =>
      cases found' with
      | nil => simp [prepend, completedTexts]
      | cons t more =>
        -- The first stretch of the second line ends the statement that the first line leaves.
        obtain ⟨ht, htne⟩ := strip_of_cutMarks hk hnext
        cases found with
        | nil =>
          have hflat := flatten_cutMarks (markFrom (modeAfter .code code) line)
          rw [hcut] at hflat
          obtain rfl : rest = markFrom (modeAfter .code code) line := hflat
          have htext : joined (joined code line) (t.map (·.1)) =
              joined code ((markFrom (modeAfter .code code) line ++ (' ',
                (modeAfter (modeAfter .code code) line).lexeme) :: t).map (·.1)) := by
            rw [joined_joined hne htne, List.map_append, markFrom_map_fst]
            rfl
          simp only [prepend, completedTexts, restText, List.nil_append, htext]
          simp
        | cons s ss =>
          obtain ⟨b, hb⟩ := exists_of_cutMarks (m := markFrom (modeAfter .code code) line)
            (by simp [hcut])
          rw [hcut] at hb
          have htext := strip_append_space (isBlank_getLast?_rest hline hb) ht htne
          rw [prepend, completedTexts_append code (List.cons_ne_nil s ss)]
          simp only [restText, completedTexts, ← htext]
          simp

theorem Begun.line_text (h : Begun w.code) (hl : (splitLineComment l).1 ≠ []) :
    (w.line l).1.map Statement.text = textsBehind w.code (splitLineComment l).1 ∧
      (w.line l).2.code = restBehind w.code (splitLineComment l).1 := by
  rw [Unfinished.line_of_code hl (h.splitStatements (strip_splitLineComment l) hl)]
  dsimp only
  split
  · next hempty =>
    rw [hempty]
    exact ⟨rfl, rfl⟩
  · exact ⟨map_text_attach _ _ _ _, rfl⟩

theorem Begun.line_code (h : Begun w.code) (hl : (splitLineComment l).1 ≠ []) :
    Begun (w.line l).2.code ∧ modeAfter .code (w.line l).2.code =
      modeAfter (modeAfter .code w.code) (splitLineComment l).1 := by
  rw [(h.line_text hl).2]
  exact h.rest (strip_splitLineComment l) hl

theorem Unfinished.line_code_of_codeless (hl : (splitLineComment l).1 = []) (w : Unfinished) :
    (w.line l).1 = [] ∧ (w.line l).2.code = w.code := by
  rw [line_of_codeless hl]
  refine ⟨rfl, ?_⟩
  dsimp only
  split <;> rfl

/-- The texts that lines complete are those of their joined code, scanned as one line. -/
theorem Begun.lines_text (h : Begun w.code) (ls : List (List Char)) :
    (w.lines ls).map Statement.text = textsBehind w.code (codeOf ls) := by
  induction ls generalizing w with
  | nil => rfl
  | cons l ls ih =>
    rw [Unfinished.lines, List.map_append, codeOf]
    by_cases hl : (splitLineComment l).1 = []
    · obtain ⟨hnone, hcode⟩ := w.line_code_of_codeless hl
      rw [hl, joined_nil_left, ih (by rwa [hcode]), hcode, hnone]
      rfl
    · obtain ⟨htexts, hcode⟩ := h.line_text hl
      rw [h.textsBehind_joined (strip_splitLineComment l) hl (strip_codeOf ls),
        ih (h.line_code hl).1, hcode, htexts]

/-! ### Two scans that come together -/

theorem attach_append (leading trailing own : List (List Char)) {texts : List (List Char)}
    (hne : texts ≠ []) (texts' : List (List Char)) : ∃ front : List Statement, front.length = texts.length ∧
      attach leading trailing own (texts ++ texts') = front ++ attach [] [] own texts' := by
  induction texts generalizing leading trailing with
  | nil => exact absurd rfl hne
  | cons text texts ih =>
    cases texts with
    | nil =>
      cases texts' with
      | nil => exact ⟨[⟨text, leading, trailing ++ own⟩], rfl, rfl⟩
      | cons next texts' => exact ⟨[⟨text, leading, trailing⟩], rfl, rfl⟩
    | cons next texts =>
      obtain ⟨front, hlength, hfront⟩ := ih [] [] (List.cons_ne_nil _ _)
      refine ⟨⟨text, leading, trailing⟩ :: front, congrArg (· + 1) hlength, ?_⟩
      exact congrArg (⟨text, leading, trailing⟩ :: ·) hfront

theorem cutMarks_semicolon (m n : List Marked) : cutMarks (m ++ (';', .code) :: n) =
    ((cutMarks m).1 ++ ((cutMarks m).2 ++ [(';', .code)]) :: (cutMarks n).1, (cutMarks n).2) := by
  have hcons : cutMarks ((';', .code) :: n) =
      ([(';', .code)] :: (cutMarks n).1, (cutMarks n).2) := by
    rw [cutMarks, if_pos rfl]
  rw [cutMarks_append, cutMarks_prepend (not_mem_cutMarks m), hcons]
  rfl

theorem scan_semicolon (ha : modeAfter (modeAfter .code code) a = .code) (b : List Char) :
    markFrom (modeAfter .code code) (a ++ ';' :: b) =
      markFrom (modeAfter .code code) a ++ (';', .code) :: mark b := by
  have hmarks := (scan_behind code (c := ';') (by decide) a b).1
  rwa [ha] at hmarks

/-- A scan that comes to a semicolon in code cuts there, and goes on as at the start of a text. -/
theorem cut_semicolon (ha : modeAfter (modeAfter .code code) a = .code) (b : List Char) :
    ∃ ss, ss ≠ [] ∧
      cutMarks (markFrom (modeAfter .code code) (a ++ [';'])) = (ss, []) ∧
      cutMarks (markFrom (modeAfter .code code) (a ++ ';' :: b)) =
        (ss ++ (cutMarks (mark b)).1, (cutMarks (mark b)).2) := by
  refine ⟨(cutMarks (markFrom (modeAfter .code code) a)).1 ++
    [(cutMarks (markFrom (modeAfter .code code) a)).2 ++ [(';', .code)]], by simp, ?_, ?_⟩
  · rw [scan_semicolon ha, cutMarks_semicolon]
    rfl
  · rw [scan_semicolon ha, cutMarks_semicolon, List.append_assoc, List.singleton_append]

theorem length_textsBehind_le (ha : modeAfter (modeAfter .code code) a = .code)
    (huncut : (';', .code) ∉ markFrom (modeAfter .code code) a) :
    (textsBehind code (a ++ [';'])).length ≤ 1 := by
  rw [textsBehind, scan_semicolon ha, cutMarks_semicolon, cutMarks_of_not_mem huncut]
  exact List.length_filter_le _ _

/-- Where only empty statements are completed, there are only semicolons and blanks. -/
theorem blank_of_completedTexts {ss : List (List Marked)} (hss : ∀ s ∈ ss, s ≠ []) (hne : ss ≠ [])
    (h : completedTexts code ss = []) :
    code = [] ∧ ∀ s ∈ ss, ∀ x ∈ s, isBlank x.1 = true ∨ x.1 = ';' := by
  obtain ⟨t, more, rfl⟩ := List.exists_cons_of_ne_nil hne
  rw [completedTexts, List.filter_eq_nil_iff] at h
  obtain ⟨hfirst, hmore⟩ := List.forall_mem_cons.1 h
  have ht : t.map (·.1) ≠ [] := by simpa using hss t List.mem_cons_self
  obtain ⟨hcode, htext⟩ := eq_nil_of_joined ht (by simpa using hfirst)
  refine ⟨hcode, List.forall_mem_cons.2 ⟨fun x hx => ?_, fun s hs x hx => ?_⟩⟩
  · have hmem := List.mem_map_of_mem (f := (·.1)) hx
    rw [htext] at hmem
    exact .inr (List.mem_singleton.1 hmem)
  · have htext : strip (s.map (·.1)) = [';'] := by
      simpa using hmore _ (List.mem_map_of_mem hs)
    have hchar : x.1 ∈ s.map (·.1) := List.mem_map_of_mem hx
    rcases isBlank_or_mem_strip hchar with hblank | hmem
    · exact .inl hblank
    · rw [htext] at hmem
      exact .inr (List.mem_singleton.1 hmem)

/-- A line that comes in code to one of its semicolons: behind it the line is read as if it stood
alone. -/
theorem Begun.line_of_semicolon (h : Begun w.code) (hl : (splitLineComment l).1 = a ++ ';' :: b)
    (ha : modeAfter (modeAfter .code w.code) a = .code)
    (hne : textsBehind w.code (a ++ [';']) ≠ []) :
    ∃ front : List Statement, front.length = (textsBehind w.code (a ++ [';'])).length ∧
      w.line l =
        (let comments := commentList (splitLineComment l).2
        let own := if (Idl.splitStatements b).2 = [] then comments else []
        let waiting := if (Idl.splitStatements b).2 = [] then [] else comments
        (front ++ attach [] [] own (Idl.splitStatements b).1,
          ⟨(Idl.splitStatements b).2, [], waiting⟩)) := by
  have hcode : (splitLineComment l).1 ≠ [] := by simp [hl]
  obtain ⟨ss, hss, hcut, hcuts⟩ := cut_semicolon ha b
  rw [textsBehind, hcut] at hne ⊢
  have hsplit := h.splitStatements (strip_splitLineComment l) hcode
  have hrest (rest : List Marked) :
      restText w.code (splitLineComment l).1 (ss ++ (cutMarks (mark b)).1, rest) =
        strip (rest.map (·.1)) := by
    obtain ⟨s, ss, rfl⟩ := List.exists_cons_of_ne_nil hss
    rfl
  rw [textsBehind, restBehind, hl, hcuts, ← hl, completedTexts_append _ hss, hrest] at hsplit
  obtain ⟨front, hlength, hfront⟩ := attach_append w.leading w.trailing
    (if (Idl.splitStatements b).2 = [] then commentList (splitLineComment l).2 else []) hne
    (statementTexts (mark b))
  refine ⟨front, hlength, ?_⟩
  rw [splitStatements_eq] at hfront ⊢
  rw [Unfinished.line_of_code hcode hsplit]
  dsimp only at hfront ⊢
  rw [if_neg (by simp [hne]), ← hfront]
  rfl

/-- The code of two states of the assembly, neither of which begins a statement in code while the
other stands in code. -/
structure Apart (code code' : List Char) : Prop where
  left : Begun code
  right : Begun code'
  leftEmpty : code = [] → modeAfter .code code' ≠ .code
  rightEmpty : code' = [] → modeAfter .code code ≠ .code

theorem textsBehind_ne_nil {other : List Char} (hcode : code = [] → modeAfter .code other ≠ .code)
    (hn : '\n' ∉ a) (ha : modeAfter (modeAfter .code code) a = .code)
    (hother : modeAfter (modeAfter .code other) a = .code) :
    textsBehind code (a ++ [';']) ≠ [] := by
  intro h
  obtain ⟨ss, hss, hcut, -⟩ := cut_semicolon ha []
  have hflat := congrArg (·.map (·.1))
    (flatten_cutMarks (markFrom (modeAfter .code code) (a ++ [';'])))
  simp only [markFrom_map_fst, hcut, List.append_nil] at hflat
  rw [textsBehind, hcut] at h
  have hnonempty : ∀ s ∈ ss, s ≠ [] := by
    intro s hs
    obtain ⟨t, rfl⟩ := mem_cutMarks (m := markFrom (modeAfter .code code) (a ++ [';']))
      (by rwa [hcut])
    simp
  obtain ⟨hnil, hblank⟩ := blank_of_completedTexts hnonempty hss h
  -- Semicolons and blanks would leave the other scan in the literal in which it comes to them.
  have hinert : ∀ c ∈ a, Inert c := by
    intro c hc
    obtain ⟨x, hx, rfl⟩ := List.mem_map.1 (hflat ▸ List.mem_append_left [';'] hc)
    obtain ⟨s, hs, hxs⟩ := List.mem_flatten.1 hx
    rcases hblank s hs x hxs with hb | hb
    · exact inert_of_isBlank hb fun e => hn (e ▸ hc)
    · rw [hb]
      decide
  rw [(Mode.reached_code.modeAfter other).modeAfter_inert (not_isMidway_modeAfter id other)
    hinert] at hother
  exact hcode hnil hother

/-- A semicolon that both scans come to in code brings the two states together. -/
theorem Apart.line_of_semicolon (h : Apart w.code w'.code) (hn : '\n' ∉ a)
    (hl : (splitLineComment l).1 = a ++ ';' :: b)
    (ha : modeAfter (modeAfter .code w.code) a = .code)
    (ha' : modeAfter (modeAfter .code w'.code) a = .code) :
    (w.line l).1.drop (textsBehind w.code (a ++ [';'])).length <:+ (w'.line l).1 ∧
      (w.line l).2 = (w'.line l).2 := by
  obtain ⟨front, hlength, hline⟩ :=
    h.left.line_of_semicolon hl ha (textsBehind_ne_nil h.leftEmpty hn ha ha')
  obtain ⟨front', -, hline'⟩ :=
    h.right.line_of_semicolon hl ha' (textsBehind_ne_nil h.rightEmpty hn ha' ha)
  rw [hline, hline', ← hlength]
  dsimp only
  rw [List.drop_left]
  exact ⟨List.suffix_append _ _, rfl⟩

theorem exists_of_restBehind (hline : strip line = line) (hne : line ≠ [])
    (h : restBehind code line = []) : ∃ u, line = u ++ [';'] := by
  rw [restBehind] at h
  cases hcut : cutMarks (markFrom (modeAfter .code code) line) with
  | mk found rest =>
    rw [hcut] at h
    cases found with
    | nil =>
      rw [restText, joined, if_neg hne] at h
      split at h
      · exact absurd h hne
      · simp at h
    | cons s ss =>
      obtain ⟨b, hb⟩ :=
        exists_of_cutMarks (m := markFrom (modeAfter .code code) line) (by simp [hcut])
      rw [hcut] at hb
      have hrest : rest.map (·.1) = [] := by
        rcases List.eq_nil_or_concat (rest.map (·.1)) with hnil | ⟨u, c, hlast⟩
        · exact hnil
        · rw [List.concat_eq_append] at hlast
          have hblank := strip_eq_nil_iff.1 h c (by simp [hlast])
          have hvisible := isBlank_getLast?_rest hline hb c (by simp [hlast])
          rw [hblank] at hvisible
          cases hvisible
      have hchars := markFrom_map_fst (modeAfter .code code) line
      rw [hb, List.map_append, List.map_cons, hrest] at hchars
      exact ⟨b.map (·.1), hchars.symm⟩

/-- A line at whose end a state has no code while the other stands in code: its last semicolon is
one that both scans come to in code. -/
theorem exists_common_of_restBehind {other : List Char} (hline : strip line = line)
    (hne : line ≠ []) (hrest : restBehind code line = [])
    (hcode : modeAfter (modeAfter .code code) line = .code)
    (hother : modeAfter (modeAfter .code other) line = .code) :
    ∃ u, line = u ++ [';'] ∧ modeAfter (modeAfter .code code) u = .code ∧
      modeAfter (modeAfter .code other) u = .code := by
  obtain ⟨u, rfl⟩ := exists_of_restBehind hline hne hrest
  have hmode (code : List Char) : modeAfter (modeAfter .code code) (u ++ [';']) =
      modeAfter (modeAfter .code code) u := (scan_behind code (by decide) u []).2
  rw [hmode] at hcode hother
  exact ⟨u, rfl, hcode, hother⟩

/-- A step: a line leaves two states apart, or it brings them together. -/
theorem Apart.after_line (h : Apart w.code w'.code) (hn : '\n' ∉ l)
    (hl : (splitLineComment l).1 ≠ []) :
    Apart (w.line l).2.code (w'.line l).2.code ∨ (w.line l).2 = (w'.line l).2 := by
  by_cases hcommon : ∃ a b, (splitLineComment l).1 = a ++ ';' :: b ∧
      modeAfter (modeAfter .code w.code) a = .code ∧ modeAfter (modeAfter .code w'.code) a = .code
  · obtain ⟨a, b, hline, ha, ha'⟩ := hcommon
    have hna : '\n' ∉ a := fun hmem =>
      hn (mem_of_mem_splitLineComment (hline ▸ List.mem_append_left _ hmem))
    exact .inr (h.line_of_semicolon hna hline ha ha').2
  · -- A state that were no longer apart would show a semicolon at the end of the line.
    obtain ⟨hbegun, hmode⟩ := h.left.line_code hl
    obtain ⟨hbegun', hmode'⟩ := h.right.line_code hl
    have hstrip := strip_splitLineComment l
    refine .inl ⟨hbegun, hbegun', fun hnil hclosed => ?_, fun hnil hclosed => ?_⟩
    · rw [hnil] at hmode
      rw [(h.left.line_text hl).2] at hnil
      obtain ⟨u, hu, ha, ha'⟩ :=
        exists_common_of_restBehind hstrip hl hnil hmode.symm (hmode'.symm.trans hclosed)
      exact hcommon ⟨u, [], hu, ha, ha'⟩
    · rw [hnil] at hmode'
      rw [(h.right.line_text hl).2] at hnil
      obtain ⟨u, hu, ha', ha⟩ :=
        exists_common_of_restBehind hstrip hl hnil hmode'.symm (hmode.symm.trans hclosed)
      exact hcommon ⟨u, [], hu, ha, ha'⟩

theorem joined_eq_append (hne : line ≠ []) (h : joined line k = a ++ ';' :: b) :
    (∃ b', line = a ++ ';' :: b') ∨ ∃ a', a = line ++ ' ' :: a' ∧ k = a' ++ ';' :: b := by
  by_cases hk : k = []
  · exact .inl ⟨b, by simpa [joined, hk] using h⟩
  · rw [joined, if_neg hk, if_neg hne] at h
    rcases List.append_eq_append_iff.1 h with ⟨t, ha, ht⟩ | ⟨t, hline, ht⟩
    · cases t with
      | nil => simp at ht
      | cons d t =>
        obtain ⟨rfl, htail⟩ := List.cons.inj ht
        exact .inr ⟨t, ha, htail⟩
    · cases t with
      | nil => simp at ht
      | cons d t =>
        obtain ⟨rfl, -⟩ := List.cons.inj ht
        exact .inl ⟨t, hline⟩

theorem strip_of_codeOf (h : codeOf ls = a ++ ';' :: b) : strip (a ++ [';']) = a ++ [';'] := by
  have hstrip := strip_codeOf ls
  rw [h, strip_eq_self_iff] at hstrip
  refine strip_eq_self_iff.2 ⟨fun c hc => hstrip.1 c ?_, fun c hc => ?_⟩
  · rw [List.head?_append] at hc ⊢
    exact hc
  · rw [List.getLast?_concat] at hc
    obtain rfl := Option.some.inj hc
    decide

theorem Begun.length_textsBehind (h : Begun w.code) (hl : (splitLineComment l).1 ≠ [])
    (hk : strip (a ++ [';']) = a ++ [';']) :
    (textsBehind w.code ((splitLineComment l).1 ++ ' ' :: a ++ [';'])).length =
      (w.line l).1.length + (textsBehind (w.line l).2.code (a ++ [';'])).length := by
  have hjoined : joined (splitLineComment l).1 (a ++ [';']) =
      (splitLineComment l).1 ++ ' ' :: a ++ [';'] := by simp [joined, hl]
  have htexts := congrArg List.length (h.line_text hl).1
  rw [List.length_map] at htexts
  rw [← hjoined, h.textsBehind_joined (strip_splitLineComment l) hl hk, List.length_append,
    htexts, (h.line_text hl).2]

theorem drop_append_suffix {α : Type} {n : Nat} {xs xs' : List α} (h : xs.drop n <:+ xs')
    (ys : List α) : (xs ++ ys).drop n <:+ xs' ++ ys := by
  obtain ⟨front, rfl⟩ := h
  rw [List.drop_append, List.append_assoc]
  rcases Nat.le_total n xs.length with hle | hle
  · rw [Nat.sub_eq_zero_of_le hle]
    exact List.suffix_append _ _
  · rw [List.drop_of_length_le hle]
    exact (List.drop_suffix _ _).trans (List.suffix_append _ _)

/-- Behind a semicolon that both scans come to in code, the two states complete the same
statements. -/
theorem Apart.lines (h : Apart w.code w'.code) (hls : ∀ l ∈ ls, '\n' ∉ l)
    (hcode : codeOf ls = a ++ ';' :: b) (ha : modeAfter (modeAfter .code w.code) a = .code)
    (ha' : modeAfter (modeAfter .code w'.code) a = .code) :
    (w.lines ls).drop (textsBehind w.code (a ++ [';'])).length <:+ w'.lines ls := by
  -- By induction on the lines: the states stay apart until a line makes them equal.
  induction ls generalizing w w' a with
  | nil => simp [codeOf] at hcode
  | cons l ls ih =>
    obtain ⟨hn, hls⟩ := List.forall_mem_cons.1 hls
    rw [Unfinished.lines, Unfinished.lines]
    rw [codeOf] at hcode
    by_cases hl : (splitLineComment l).1 = []
    · obtain ⟨hnone, hsame⟩ := w.line_code_of_codeless hl
      obtain ⟨hnone', hsame'⟩ := w'.line_code_of_codeless hl
      rw [hl, joined_nil_left] at hcode
      rw [← hsame] at h ha ⊢
      rw [← hsame'] at h ha'
      rw [hnone, hnone']
      exact ih h hls hcode ha ha'
    · rcases joined_eq_append hl hcode with ⟨b', hline⟩ | ⟨a', rfl, hrest⟩
      · have hna : '\n' ∉ a := fun hmem =>
          hn (mem_of_mem_splitLineComment (hline ▸ List.mem_append_left _ hmem))
        obtain ⟨hsuffix, hsame⟩ := h.line_of_semicolon hna hline ha ha'
        rw [← hsame]
        exact drop_append_suffix hsuffix _
      · have hmode (code : List Char) : modeAfter (modeAfter .code code)
            ((splitLineComment l).1 ++ ' ' :: a') =
              modeAfter (modeAfter (modeAfter .code code) (splitLineComment l).1) a' :=
          (scan_behind code (by decide) (splitLineComment l).1 a').2
        rw [hmode, ← (h.left.line_code hl).2] at ha
        rw [hmode, ← (h.right.line_code hl).2] at ha'
        rw [h.left.length_textsBehind hl (strip_of_codeOf hrest), List.drop_length_add_append]
        refine List.IsSuffix.trans ?_ (List.suffix_append _ _)
        rcases h.after_line hn hl with happart | hsame
        · exact ih happart hls hrest ha ha'
        · rw [← hsame]
          exact List.drop_suffix _ _

/-! ### A line that ends in a literal -/

/-- A line without braces that leaves a literal open at its end. -/
structure IsOpenLine (quote : Char) (l : List Char) : Prop where
  line : '\n' ∉ l
  braceless : ∀ c ∈ l, c ≠ '\x7b' ∧ c ≠ '\x7d'
  ending : modeAfter .code l = .string quote

variable {quote : Char}

theorem IsOpenLine.splitLineComment (h : IsOpenLine quote l) :
    splitLineComment l = (strip l, []) :=
  splitLineComment_of_modeAfter h.line (by simp [h.ending])

theorem IsOpenLine.strip_ne_nil (h : IsOpenLine quote l) : strip l ≠ [] := by
  intro hnil
  have hmode := modeAfter_strip h.line
  rw [hnil, h.ending] at hmode
  cases hmode

theorem IsOpenLine.dropBlocks_append (h : IsOpenLine quote l) (m : List Marked) :
    dropBlocks 0 (mark l ++ m) = l ++ dropBlocks 0 m := by
  have hbrace : ∀ x ∈ mark l, ¬IsBrace x := by
    intro x hx hb
    have hmem := List.mem_map_of_mem (f := (·.1)) hx
    rw [mark_map_fst] at hmem
    exact hb.2.elim (h.braceless _ hmem).1 (h.braceless _ hmem).2
  rw [dropBlocks_append_of_braceless hbrace, mark_map_fst]

theorem IsOpenLine.removeInnerBlocks_append (h : IsOpenLine quote l) (body : List Char) :
    removeInnerBlocks (l ++ '\n' :: body) = l ++ '\n' :: removeInnerBlocks body := by
  rw [removeInnerBlocks, mark_append_lineFeed (by simp [h.ending]), h.dropBlocks_append,
    dropBlocks_cons (by simp [IsBrace]), if_pos rfl]
  rfl

theorem IsOpenLine.removeInnerBlocks (h : IsOpenLine quote l) : removeInnerBlocks l = l := by
  rw [Idl.removeInnerBlocks, ← List.append_nil (mark l), h.dropBlocks_append, dropBlocks,
    List.append_nil]

theorem IsOpenLine.code_ne_nil (h : IsOpenLine quote l) : (Idl.splitLineComment l).1 ≠ [] := by
  rw [h.splitLineComment]
  exact h.strip_ne_nil

theorem IsOpenLine.line_code (h : IsOpenLine quote l) :
    (({} : Unfinished).line l).2.code = (splitStatements (strip l)).2 := by
  have hsplit := begun_nil.splitStatements (strip_splitLineComment l) h.code_ne_nil
  rw [joined_nil_left, h.splitLineComment] at hsplit
  rw [(Begun.line_text (w := {}) begun_nil h.code_ne_nil).2, h.splitLineComment, hsplit]

theorem IsOpenLine.modeAfter_line_code (h : IsOpenLine quote l) :
    modeAfter .code (({} : Unfinished).line l).2.code = .string quote := by
  rw [(Begun.line_code (w := {}) begun_nil h.code_ne_nil).2, h.splitLineComment]
  exact (modeAfter_strip h.line).trans h.ending

theorem IsOpenLine.apart (h : IsOpenLine quote l) :
    Apart [] (({} : Unfinished).line l).2.code where
  left := begun_nil
  right := (Begun.line_code (w := {}) begun_nil h.code_ne_nil).1
  leftEmpty := by
    intro _
    rw [h.modeAfter_line_code]
    exact nofun
  rightEmpty := by
    intro hnil
    have hmode := h.modeAfter_line_code
    rw [hnil] at hmode
    cases hmode

/-! ### The statements of a body -/

variable {body : List Char}

/-- The statements behind lines, in the state that a body begins with. -/
def Unfinished.statements (w : Unfinished) (body : List Char) : List Statement :=
  (w.lines (pieces (· == '\n') (removeInnerBlocks body))).filter (!isPassedOver ·.text)

theorem Begun.splitStatements_fst (h : Begun code) (hline : strip line = line) :
    (Idl.splitStatements (joined code line)).1 = textsBehind code line := by
  by_cases hne : line = []
  · subst hne
    rw [splitStatements_eq, statementTexts, joined, if_pos rfl, cutMarks_of_not_mem h.uncut]
    rfl
  · rw [h.splitStatements hline hne]

theorem Begun.statements_text (h : Begun w.code) (body : List Char) :
    (w.statements body).map Statement.text =
      (textsBehind w.code (codeOf (pieces (· == '\n') (removeInnerBlocks body)))).filter
        (!isPassedOver ·) := by
  rw [Unfinished.statements, ← h.lines_text, List.filter_map]
  rfl

theorem drop_filter_suffix {α : Type} {n : Nat} {xs ys : List α} (h : xs.drop n <:+ ys)
    (p : α → Bool) : (xs.filter p).drop ((xs.take n).filter p).length <:+ ys.filter p := by
  have hsplit := List.filter_append (p := p) (xs.take n) (xs.drop n)
  rw [List.take_append_drop] at hsplit
  rw [hsplit, List.drop_left]
  exact h.filter p

theorem Apart.statements (h : Apart w.code w'.code)
    (hcode : codeOf (pieces (· == '\n') (removeInnerBlocks body)) = a ++ ';' :: b)
    (ha : modeAfter (modeAfter .code w.code) a = .code)
    (ha' : modeAfter (modeAfter .code w'.code) a = .code) :
    (w.statements body).drop
        ((textsBehind w.code (a ++ [';'])).filter (!isPassedOver ·)).length <:+
      w'.statements body := by
  have hlines : ∀ l ∈ pieces (· == '\n') (removeInnerBlocks body), '\n' ∉ l :=
    fun l hl hn => by simpa using cut_of_mem_pieces hl _ hn
  have htexts := h.left.lines_text (pieces (· == '\n') (removeInnerBlocks body))
  have htake : textsBehind w.code (a ++ [';']) =
      ((w.lines (pieces (· == '\n') (removeInnerBlocks body))).take
        (textsBehind w.code (a ++ [';'])).length).map Statement.text := by
    obtain ⟨ss, hss, hcut, hcuts⟩ := cut_semicolon ha b
    rw [List.map_take, htexts, hcode, textsBehind, textsBehind, hcuts,
      completedTexts_append _ hss, hcut, List.take_left]
  have hsuffix := drop_filter_suffix (h.lines hlines hcode ha ha') (!isPassedOver ·.text)
  rw [htake, List.filter_map, List.length_map]
  exact hsuffix

/-! ### Literals go on -/

/-- A line that leaves a literal open at its end, before the lines of a body. The code of these
lines is scanned once more behind the literal: the line completes its own statements, and the texts
of the other statements are those of the code that is left of the line and of the lines, joined by
spaces. Without a semicolon that this scan finds in code, the body is lost. Behind a semicolon that
the scan with the literal and the scan without it both come to in code, all statements are those of
the body alone, with their comments; so where this is the first semicolon in code, at most the first
statement of the body is missing. -/
theorem statements_openLine (h : IsOpenLine quote l) (body : List Char) :
    let code := codeOf (pieces (· == '\n') (removeInnerBlocks body))
    (statements body).map Statement.text =
        (splitStatements code).1.filter (!isPassedOver ·) ∧
      ∃ more, statements (l ++ '\n' :: body) = statements l ++ more ∧
        more.map Statement.text =
          (splitStatements (joined (splitStatements (strip l)).2 code)).1.filter
            (!isPassedOver ·) ∧
        ((';', .code) ∉ markFrom (.string quote) code → more = []) ∧
        ∀ a b, code = a ++ ';' :: b → modeAfter .code a = .code →
          modeAfter (.string quote) a = .code →
            (statements body).drop
                ((splitStatements (a ++ [';'])).1.filter (!isPassedOver ·)).length <:+ more ∧
              ((';', .code) ∉ mark a → (statements body).tail <:+ more) := by
  intro code
  have hstrip : strip code = code := strip_codeOf _
  have hopen := h.modeAfter_line_code
  have hafter := h.apart.right
  have htexts := hafter.statements_text body
  refine ⟨?_, (({} : Unfinished).line l).2.statements body, ?_, ?_, ?_, ?_⟩
  · rw [← joined_nil_left code, begun_nil.splitStatements_fst hstrip]
    exact Begun.statements_text (w := {}) begun_nil body
  · have hline : pieces (· == '\n') l = [l] :=
      pieces_eq_singleton fun c hc => beq_eq_false_iff_ne.2 fun e => h.line (e ▸ hc)
    rw [statements, statements, h.removeInnerBlocks_append, h.removeInnerBlocks,
      pieces_append_lineFeed h.line, hline, Unfinished.lines, Unfinished.lines, Unfinished.lines,
      List.filter_append, List.append_nil]
    rfl
  · rw [htexts, ← h.line_code, hafter.splitStatements_fst hstrip]
  · intro hnone
    rw [← hopen] at hnone
    rw [textsBehind, cutMarks_of_not_mem hnone] at htexts
    exact List.map_eq_nil_iff.1 htexts
  · intro a b hcode ha ha'
    rw [← hopen] at ha'
    have hsuffix := h.apart.statements (w := {}) hcode ha ha'
    have hcount := begun_nil.splitStatements_fst (strip_of_codeOf hcode)
    rw [joined_nil_left] at hcount
    rw [hcount]
    refine ⟨hsuffix, fun huncut => List.IsSuffix.trans ?_ hsuffix⟩
    have hle : ((textsBehind [] (a ++ [';'])).filter (!isPassedOver ·)).length ≤ 1 :=
      (List.length_filter_le _ _).trans (length_textsBehind_le ha huncut)
    rw [← List.drop_one]
    exact List.drop_suffix_drop_left _ hle

def openLine : List Char := "reserved \"x".toList

theorem isOpenLine_openLine : IsOpenLine '"' openLine :=
  ⟨by decide +kernel, by decide +kernel, by decide +kernel⟩

/-- A body with a literal, before whose last semicolon both scans are back in code. -/
def quotedBody : List Char :=
  "string b = 2 [x = \"\\\"\"];\n// above\nstring c = 3; // beside".toList

def plainBody : List Char := "string b = 2;\nstring c = 3;".toList

theorem statements_openLine_bodies :
    IsOpenLine '"' openLine ∧
      [⟨"string c = 3;".toList, ["above".toList], ["beside".toList]⟩] <:+
        statements (openLine ++ '\n' :: quotedBody) ∧
      statements (openLine ++ '\n' :: plainBody) = [] := by
  have h := isOpenLine_openLine
  have hcode : codeOf (pieces (· == '\n') (removeInnerBlocks quotedBody)) =
      "string b = 2 [x = \"\\\"\"]".toList ++ ';' :: " string c = 3;".toList := by decide +kernel
  have htail : (statements quotedBody).tail =
      [⟨"string c = 3;".toList, ["above".toList], ["beside".toList]⟩] := by decide +kernel
  obtain ⟨-, more, hmore, -, -, hsame⟩ := statements_openLine h quotedBody
  obtain ⟨-, lost, hall, -, hlost, -⟩ := statements_openLine h plainBody
  have hsuffix := (hsame _ _ hcode (by decide +kernel) (by decide +kernel)).2 (by decide +kernel)
  refine ⟨h, ?_, ?_⟩
  · rw [← htail, hmore]
    exact hsuffix.trans (List.suffix_append _ _)
  · rw [hall, hlost (by decide +kernel)]
    decide +kernel

/-- A literal that is open at the end of a line does not end there. -/
theorem not_statements_openLine_plainBody :
    ¬ ∀ (quote : Char) (l body : List Char), IsOpenLine quote l →
      (statements body).tail.Sublist (statements (l ++ '\n' :: body)) := by
  intro h
  have hsame := h '"' openLine plainBody isOpenLine_openLine
  have hold : (statements plainBody).tail = [⟨"string c = 3;".toList, [], []⟩] := by decide +kernel
  have hnew : statements (openLine ++ '\n' :: plainBody) = [] := by decide +kernel
  rw [hold, hnew] at hsame
  exact absurd hsame (by decide)

end Formwork.Idl
