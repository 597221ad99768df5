import Formwork.Proofs.Idl.Nested
import Formwork.Proofs.Idl.Stretches
import Mathlib.Data.List.Flatten

/-!
Where comments belong. A comment behind code belongs to the last statement that has code on its
line; a comment on a line of its own belongs to the statement that has begun, or else to the next
one. The assembly of statements puts the comments of an orderly body where they belong, and so all
that it carries from line to line is accounted for.
-/
namespace Formwork.Idl
open Formwork.Text

/-! ### The statement of a comment -/

/-- Where a comment stands to its statement. -/
inductive Side
  | above
  | beside
  deriving DecidableEq, Repr

/-- A statement, by its number, and a side of it. -/
abbrev Spot := Nat × Side

/-- The statements that have code on a line: those that it completes, and the one that has begun at
its end. -/
def onLine (before line : List Char) : List Nat :=
  List.range' (completed before).length
    ((completed (before ++ line)).length - (completed before).length +
      if begun (before ++ line) = [] then 0 else 1)

/-- Where the comment of a line belongs. -/
def place? (before line : List Char) : Option Spot :=
  if (splitLineComment line).1 = [] then
    some ((completed before).length, if begun before = [] then .above else .beside)
  else (onLine before line).getLast?.map (·, .beside)

/-- The comments of lines and their places, `before` being the text before the lines. -/
def placements (before : List Char) : List (List Char) → List (List Char × Option Spot)
  | [] => []
  | l :: ls => (commentList (splitLineComment l).2).map (·, place? before l) ++
      placements (before ++ (l ++ ['\n'])) ls

/-- The comments in a place. -/
def commentsAt (placed : List (List Char × Option Spot)) (place : Spot) : List (List Char) :=
  (placed.filter (·.2 = some place)).map (·.1)

/-- Statements numbered from `k` on, each with its comments. -/
def withComments (placed : List (List Char × Option Spot)) (k : Nat) :
    List (List Char) → List Statement
  | [] => []
  | text :: more => ⟨text, commentsAt placed (k, .above), commentsAt placed (k, .beside)⟩ ::
      withComments placed (k + 1) more

/-- The statements that a text completes, with their comments. -/
def assembled (cs : List Char) : List Statement :=
  withComments (placements [] (pieces (· == '\n') cs)) 0 (completed cs)

variable {placed placed' : List (List Char × Option Spot)} {before l u s : List Char}
  {ls texts : List (List Char)} {w : Unfinished}

theorem placements_concat (before : List Char) (ls : List (List Char)) (l : List Char) :
    placements before (ls ++ [l]) = placements before ls ++
      (commentList (splitLineComment l).2).map (·, place? (before ++ unlines ls) l) := by
  induction ls generalizing before with
  | nil => simp [placements, unlines]
  | cons k ls ih =>
    rw [List.cons_append, placements, placements, ih, List.append_assoc]
    simp [unlines]

theorem commentsAt_append (placed : List (List Char × Option Spot)) (comments : List (List Char))
    (found : Option Spot) (place : Spot) :
    commentsAt (placed ++ comments.map (·, found)) place =
      commentsAt placed place ++ if found = some place then comments else [] := by
  rw [commentsAt, commentsAt, List.filter_append, List.map_append]
  congr 1
  split
  · next h => simp [h, List.filter_map, Function.comp_def]
  · next h => simp [h, List.filter_map, Function.comp_def]

theorem withComments_append (placed : List (List Char × Option Spot)) (k : Nat)
    (texts texts' : List (List Char)) : withComments placed k (texts ++ texts') =
      withComments placed k texts ++ withComments placed (k + texts.length) texts' := by
  induction texts generalizing k with
  | nil => rfl
  | cons text texts ih =>
    rw [List.cons_append, withComments, withComments, ih, List.length_cons, List.cons_append,
      Nat.add_right_comm, Nat.add_assoc]

theorem withComments_congr {k : Nat} (h : ∀ i side, k ≤ i → i < k + texts.length →
    commentsAt placed (i, side) = commentsAt placed' (i, side)) :
    withComments placed k texts = withComments placed' k texts := by
  induction texts generalizing k with
  | nil => rfl
  | cons text texts ih =>
    rw [List.length_cons] at h
    rw [withComments, withComments, h k .above (by omega) (by omega),
      h k .beside (by omega) (by omega), ih fun i side hk hi => h i side (by omega) (by omega)]

/-- The first statement of a line takes what waits, and the last one takes the comment of the
line. -/
theorem attach_eq_withComments {leading trailing own : List (List Char)} {k : Nat}
    (habove : ∀ i, k ≤ i → i < k + texts.length →
      commentsAt placed (i, .above) = if i = k then leading else [])
    (hbeside : ∀ i, k ≤ i → i < k + texts.length → commentsAt placed (i, .beside) =
      (if i = k then trailing else []) ++ if i + 1 = k + texts.length then own else []) :
    attach leading trailing own texts = withComments placed k texts := by
  induction texts generalizing k leading trailing with
  | nil => rfl
  | cons text texts ih =>
    rw [List.length_cons] at habove hbeside
    have hfirst := habove k (by omega) (by omega)
    have hsecond := hbeside k (by omega) (by omega)
    rw [if_pos rfl] at hfirst hsecond
    have hrest : attach [] [] own texts = withComments placed (k + 1) texts := by
      refine ih (fun i hk hi => ?_) fun i hk hi => ?_
      · rw [habove i (by omega) (by omega), if_neg (by omega), ite_self]
      · rw [hbeside i (by omega) (by omega), if_neg (by omega), ite_self, Nat.add_right_comm k,
          Nat.add_assoc k]
    rw [withComments, hfirst, hsecond, ← hrest]
    cases texts with
    | nil => simp [attach]
    | cons next texts => simp [attach]

/-! ### Reading line by line -/

theorem place?_of_code {new : List (List Char)} (hl : (splitLineComment l).1 ≠ [])
    (hnew : completed (before ++ l) = completed before ++ new) :
    place? before l =
      if begun (before ++ l) ≠ [] then some ((completed before).length + new.length, .beside)
      else if new = [] then none
      else some ((completed before).length + new.length - 1, .beside) := by
  rw [place?, if_neg hl, onLine, List.getLast?_range', hnew, List.length_append,
    Nat.add_sub_cancel_left]
  by_cases hb : begun (before ++ l) = []
  · by_cases hn : new = []
    · simp [hb, hn]
    · simp [hb, hn]
  · simp [hb]

/-- What is known after lines, and the statements that they have completed. -/
structure Placed (ls : List (List Char)) (w : Unfinished) (made : List Statement) : Prop where
  made : made = withComments (placements [] ls) 0 (completed (unlines ls))
  code : w.code = begun (unlines ls)
  isBegun : Begun w.code
  closed : modeAfter .code w.code = .code
  above : ∀ k, (completed (unlines ls)).length ≤ k → commentsAt (placements [] ls) (k, .above) =
    if k = (completed (unlines ls)).length then w.leading else []
  beside : ∀ k, (completed (unlines ls)).length ≤ k → commentsAt (placements [] ls) (k, .beside) =
    if k = (completed (unlines ls)).length then w.trailing else []

theorem placed_nil : Placed [] {} [] where
  made := rfl
  code := rfl
  isBegun := begun_nil
  closed := rfl
  above _ _ := (ite_self []).symm
  beside _ _ := (ite_self []).symm

variable {made : List Statement} {body : List Char}

/-- A comment belongs to no statement that was complete before its line. -/
theorem le_of_place? {p : Spot} (h : place? before l = some p) :
    (completed before).length ≤ p.1 := by
  rw [place?] at h
  split at h
  · rw [← Option.some.inj h]
  · obtain ⟨k, hk, rfl⟩ := Option.map_eq_some_iff.1 h
    exact (List.mem_range'_1.1 (List.mem_of_getLast? hk)).1

theorem commentsAt_concat (ls : List (List Char)) (l : List Char) (place : Spot) :
    commentsAt (placements [] (ls ++ [l])) place = commentsAt (placements [] ls) place ++
      if place? (unlines ls) l = some place then commentList (splitLineComment l).2 else [] := by
  rw [placements_concat, commentsAt_append, List.nil_append]

theorem Placed.made_append (h : Placed ls w made) (l : List Char) (new : List (List Char)) :
    withComments (placements [] (ls ++ [l])) 0 (completed (unlines ls) ++ new) =
      made ++ withComments (placements [] (ls ++ [l])) (completed (unlines ls)).length new := by
  have hold : withComments (placements [] (ls ++ [l])) 0 (completed (unlines ls)) = made := by
    rw [h.made]
    refine withComments_congr fun i side _ hi => ?_
    rw [commentsAt_concat, if_neg, List.append_nil]
    intro hplace
    have hle := le_of_place? hplace
    omega
  rw [withComments_append, hold, Nat.zero_add]

theorem Placed.line_of_codeless (h : Placed ls w made) (hls : AllLines ls) (hl : IsLine l u s)
    (hcode : (splitLineComment l).1 = []) :
    Placed (ls ++ [l]) (w.line l).2 (made ++ (w.line l).1) := by
  have hu : strip u = [] := by rw [← hcode, hl.splitLineComment]
  obtain ⟨hnew, hbegun⟩ := hl.completed_append hls
  obtain ⟨hnew', hbegun'⟩ := hl.completed_lineFeed hls
  rw [hu] at hnew hbegun
  replace hnew : completed (unlines (ls ++ [l])) = completed (unlines ls) ++ [] := hnew'.trans hnew
  replace hbegun : begun (unlines (ls ++ [l])) = w.code := (hbegun'.trans hbegun).trans h.code.symm
  have hplace : place? (unlines ls) l =
      some ((completed (unlines ls)).length, if w.code = [] then .above else .beside) := by
    rw [place?, if_pos hcode, h.code]
  rw [Unfinished.line_of_codeless hcode]
  constructor
  · rw [hnew, h.made_append]
    rfl
  · rw [hbegun]
    split <;> rfl
  · split <;> exact h.isBegun
  · split <;> exact h.closed
  · intro k hk
    rw [hnew, List.append_nil] at hk ⊢
    rw [commentsAt_concat, hplace, h.above k hk]
    by_cases hb : w.code = [] <;> by_cases hn : k = (completed (unlines ls)).length <;>
      simp [hb, hn, eq_comm]
  · intro k hk
    rw [hnew, List.append_nil] at hk ⊢
    rw [commentsAt_concat, hplace, h.beside k hk]
    by_cases hb : w.code = [] <;> by_cases hn : k = (completed (unlines ls)).length <;>
      simp [hb, hn, eq_comm]

/-- What a line with code completes and leaves, and the place of its comment. -/
theorem Placed.exists_split (h : Placed ls w made) (hls : AllLines ls) (hl : IsLine l u s)
    (hcode : (splitLineComment l).1 ≠ []) : ∃ new rest,
      splitStatements (joined w.code (splitLineComment l).1) = (new, rest) ∧
        completed (unlines (ls ++ [l])) = completed (unlines ls) ++ new ∧
        begun (unlines (ls ++ [l])) = rest ∧ Begun rest ∧ modeAfter .code rest = .code ∧
        place? (unlines ls) l =
          if rest ≠ [] then some ((completed (unlines ls)).length + new.length, .beside)
          else if new = [] then none
          else some ((completed (unlines ls)).length + new.length - 1, .beside) := by
  have hline : (splitLineComment l).1 = strip u := by rw [hl.splitLineComment]
  obtain ⟨hnew, hbegun⟩ := hl.completed_append hls
  obtain ⟨hnew', hbegun'⟩ := hl.completed_lineFeed hls
  have hplace := place?_of_code hcode hnew
  rw [hline] at hcode ⊢
  obtain ⟨-, -, -, -, -, hstrip, -⟩ := exists_strip_of_code hl.lineFeed_not_mem hl.closed
  obtain ⟨hrest, hclosed⟩ := h.isBegun.rest (strip_strip u) hcode
  have hsplit := h.isBegun.splitStatements (strip_strip u) hcode
  -- What has begun before the line is closed, so the line is scanned as if it stood alone.
  rw [textsBehind, restBehind, h.closed, ← mark] at hsplit
  rw [restBehind, h.closed, ← mark] at hrest hclosed
  rw [← h.code] at hnew hbegun hplace
  rw [hbegun] at hplace
  exact ⟨_, _, hsplit, hnew'.trans hnew, hbegun'.trans hbegun, hrest, hclosed.trans hstrip, hplace⟩

/-- A line with code completes the statements that end on it, and its comment belongs to the last
statement with code on it. -/
theorem Placed.line_of_code (h : Placed ls w made) (hls : AllLines ls) (hl : IsLine l u s)
    (hcode : (splitLineComment l).1 ≠ []) :
    Placed (ls ++ [l]) (w.line l).2 (made ++ (w.line l).1) := by
  obtain ⟨new, rest, hsplit, hnew, hbegun, hrest, hclosed, hplace⟩ := h.exists_split hls hl hcode
  rw [Unfinished.line_of_code hcode hsplit]
  dsimp only
  by_cases hempty : new = []
  · subst hempty
    rw [if_pos rfl]
    constructor
    · rw [hnew, h.made_append]
      rfl
    · exact hbegun.symm
    · exact hrest
    · exact hclosed
    · intro k hk
      rw [hnew, List.append_nil] at hk ⊢
      rw [commentsAt_concat, hplace, h.above k hk]
      by_cases hb : rest = [] <;> simp [hb]
    · intro k hk
      rw [hnew, List.append_nil] at hk ⊢
      rw [commentsAt_concat, hplace, h.beside k hk]
      by_cases hb : rest = [] <;> by_cases hn : k = (completed (unlines ls)).length <;>
        simp [hb, hn, eq_comm]
  · rw [if_neg hempty]
    have hpos := List.length_pos_of_ne_nil hempty
    constructor
    · rw [hnew, h.made_append]
      congr 1
      refine attach_eq_withComments (fun i hi hlt => ?_) fun i hi hlt => ?_
      · rw [commentsAt_concat, hplace, h.above i hi]
        by_cases hb : rest = [] <;> simp [hb, hempty]
      · rw [commentsAt_concat, hplace, h.beside i hi]
        congr 1
        by_cases hb : rest = []
        · have hlast : (completed (unlines ls)).length + new.length - 1 = i ↔
              i + 1 = (completed (unlines ls)).length + new.length := by omega
          simp [hb, hempty, hlast]
        · have hne : (completed (unlines ls)).length + new.length ≠ i := by omega
          simp [hb, hne]
    · exact hbegun.symm
    · exact hrest
    · exact hclosed
    · intro k hk
      rw [hnew, List.length_append] at hk ⊢
      rw [commentsAt_concat, hplace, h.above k (by omega), if_neg (by omega)]
      by_cases hb : rest = [] <;> simp [hb, hempty]
    · intro k hk
      rw [hnew, List.length_append] at hk ⊢
      rw [commentsAt_concat, hplace, h.beside k (by omega), if_neg (by omega), List.nil_append]
      by_cases hb : rest = []
      · have hne : (completed (unlines ls)).length + new.length - 1 ≠ k := by omega
        simp [hb, hempty, hne]
      · simp [hb, eq_comm]

/-- A step of the assembly. -/
theorem Placed.line (h : Placed ls w made) (hls : AllLines ls) (hl : IsLine l u s) :
    Placed (ls ++ [l]) (w.line l).2 (made ++ (w.line l).1) := by
  by_cases hcode : (splitLineComment l).1 = []
  · exact h.line_of_codeless hls hl hcode
  · exact h.line_of_code hls hl hcode

/-- A run of the assembly. -/
theorem placed_lines (hls : AllLines ls) :
    Placed ls (({} : Unfinished).after ls) (({} : Unfinished).lines ls) := by
  induction ls using List.reverseRecOn with
  | nil => exact placed_nil
  | append_singleton ls l ih =>
    have hbefore : AllLines ls := fun k hk => hls k (List.mem_append_left _ hk)
    obtain ⟨u, s, hl⟩ := hls l (List.mem_append_right ls (List.mem_singleton_self l))
    have hstep := (ih hbefore).line hbefore hl
    rw [Unfinished.after_append, Unfinished.lines_append]
    simpa [Unfinished.after, Unfinished.lines] using hstep

theorem Orderly.lines_eq_assembled {cs : List Char} (h : Orderly cs) :
    ({} : Unfinished).lines (pieces (· == '\n') cs) = assembled cs := by
  have hmark : mark (cs ++ ['\n']) = mark cs ++ [('\n', .code)] :=
    mark_append_lineFeed (ne_blockComment_of_modeAfter h.clean) []
  have hcompleted : completed (cs ++ ['\n']) = completed cs := by
    rw [completed, hmark, cutMarks_append_of_not_mem (by decide), ← completed]
  rw [(placed_lines h.exists_isLine).made, unlines_pieces, hcompleted, assembled]

/-! ### The order of comments -/

/-- The comments of a statement, in the order of the source. -/
def Statement.comments (statement : Statement) : List (List Char) :=
  statement.leading ++ statement.trailing

theorem flatMap_comments_attach {leading trailing own : List (List Char)} (hne : texts ≠ []) :
    (attach leading trailing own texts).flatMap Statement.comments =
      leading ++ (trailing ++ own) := by
  induction texts generalizing leading trailing with
  | nil => exact absurd rfl hne
  | cons text texts ih =>
    cases texts with
    | nil => simp [attach, Statement.comments]
    | cons next texts =>
      rw [attach, List.flatMap_cons, ih (List.cons_ne_nil _ _)]
      · simp [Statement.comments]
      · exact List.cons_ne_nil next texts

theorem Begun.eq_nil_of_splitStatements {code line : List Char} (h : Begun code)
    (hline : strip line = line) (hne : line ≠ [])
    (hsplit : Idl.splitStatements (joined code line) = ([], [])) : code = [] := by
  by_contra hcode
  rw [h.splitStatements hline hne] at hsplit
  obtain ⟨hfound, hrest⟩ := Prod.mk.inj hsplit
  rw [textsBehind] at hfound
  rw [restBehind] at hrest
  cases hcut : cutMarks (markFrom (modeAfter .code code) line) with
  | mk complete rest =>
    rw [hcut] at hfound hrest
    cases complete with
    | nil => simp [Idl.restText, joined, hne, hcode] at hrest
    | cons t more =>
      -- The first statement holds the code, so it is no lone semicolon.
      have hfirst : joined code (t.map (·.1)) = [';'] := by
        simpa using (List.filter_eq_nil_iff.1 hfound) _ List.mem_cons_self
      exact hcode (eq_nil_of_joined (strip_of_cutMarks hline hcut).2 hfirst).1

/-- What is known between lines: code that has begun, and comments beside it only if there is
some. -/
structure Unfinished.Sound (w : Unfinished) : Prop where
  isBegun : Begun w.code
  trailing : w.code = [] → w.trailing = []

/-- A line passes comments on in their order. -/
theorem Unfinished.Sound.line (h : w.Sound) (l : List Char) : (w.line l).2.Sound ∧
    ((w.line l).1.flatMap Statement.comments ++
        ((w.line l).2.leading ++ (w.line l).2.trailing)).Sublist
      (w.leading ++ (w.trailing ++ commentList (splitLineComment l).2)) := by
  by_cases hl : (splitLineComment l).1 = []
  · rw [Unfinished.line_of_codeless hl]
    by_cases hc : w.code = []
    · rw [if_pos hc]
      refine ⟨⟨h.isBegun, h.trailing⟩, ?_⟩
      simp [h.trailing hc]
    · rw [if_neg hc]
      refine ⟨⟨h.isBegun, fun e => absurd e hc⟩, ?_⟩
      simp
  · generalize hsplit : splitStatements (joined w.code (splitLineComment l).1) = found
    obtain ⟨complete, rest⟩ := found
    have hrest := (h.isBegun.rest (strip_splitLineComment l) hl).1
    have hstep := h.isBegun.splitStatements (strip_splitLineComment l) hl
    rw [hsplit] at hstep
    rw [← (Prod.mk.inj hstep).2] at hrest
    rw [Unfinished.line_of_code hl hsplit]
    dsimp only
    by_cases hempty : complete = []
    · subst hempty
      rw [if_pos rfl]
      refine ⟨⟨hrest, fun hnil => ?_⟩, ?_⟩
      · dsimp only at hnil
        subst hnil
        rw [if_pos rfl, List.append_nil]
        exact h.trailing (h.isBegun.eq_nil_of_splitStatements (strip_splitLineComment l) hl hsplit)
      · rw [List.flatMap_nil, List.nil_append]
        refine .append (.refl _) (.append (.refl _) ?_)
        split
        · exact List.nil_sublist _
        · exact .refl _
    · rw [if_neg hempty]
      refine ⟨⟨hrest, fun hnil => if_pos hnil⟩, ?_⟩
      rw [flatMap_comments_attach hempty]
      split <;> simp

/-- However the lines are, comments are passed on in their order, and none twice. -/
theorem Unfinished.Sound.lines (h : w.Sound) (ls : List (List Char)) :
    ((w.lines ls).flatMap Statement.comments).Sublist
      (w.leading ++ (w.trailing ++ ls.flatMap fun l => commentList (splitLineComment l).2)) := by
  induction ls generalizing w with
  | nil => exact List.nil_sublist _
  | cons l ls ih =>
    obtain ⟨hsound, hline⟩ := h.line l
    rw [lines, List.flatMap_append, List.flatMap_cons]
    have hmore := (List.Sublist.refl ((w.line l).1.flatMap Statement.comments)).append (ih hsound)
    have hall := hline.append (.refl (ls.flatMap fun l => commentList (splitLineComment l).2))
    simp only [List.append_assoc] at hmore hall ⊢
    exact hmore.trans hall

theorem placements_map_fst (before : List Char) (ls : List (List Char)) :
    (placements before ls).map (·.1) = ls.flatMap fun l => commentList (splitLineComment l).2 := by
  induction ls generalizing before with
  | nil => rfl
  | cons l ls ih =>
    rw [placements, List.map_append, ih, List.map_map, List.flatMap_cons]
    exact congrArg (· ++ _) (List.map_id _)

/-- The comments of the statements of any body are line comments of the text outside blocks, in
their order. -/
theorem comments_sublist (body : List Char) :
    ((statements body).flatMap Statement.comments).Sublist
      ((placements [] (pieces (· == '\n') (removeInnerBlocks body))).map (·.1)) := by
  have hstart : ({} : Unfinished).Sound := ⟨begun_nil, fun _ => rfl⟩
  have hlines := hstart.lines (pieces (· == '\n') (removeInnerBlocks body))
  rw [placements_map_fst]
  exact (List.filter_sublist.flatMap _).trans hlines

theorem filter_withComments (p : List Char → Bool) (placed : List (List Char × Option Spot))
    (k : Nat) (texts : List (List Char)) :
    ((withComments placed k texts).filter (p ·.text)).map Statement.text = texts.filter p := by
  induction texts generalizing k with
  | nil => rfl
  | cons text texts ih =>
    rw [withComments, List.filter_cons, List.filter_cons]
    split
    · rw [List.map_cons, ih]
    · exact ih _

/-- No brace in the body of a block closes what was opened before it. -/
theorem matchingBraceFrom_of_mem_blocks {k : String} {text : List Char} {b : Block}
    (hk : IsName k.toList) (hb : b ∈ blocks k text) : matchingBraceFrom 1 (mark b.body) = none := by
  obtain ⟨-, -, -, hnested⟩ := exists_of_mem_blocksFrom hk hb
  exact (balanced_iff.1 hnested.balanced).1

/-- The statements of a body without block comments in which no literal is open at the end of a
line, and no brace closes what was opened before the body, as is so in the body of every block.
Their texts are the stretches of the text outside blocks up to a semicolon in code, `reserved` and
`oneof` left out. Each line comment has one place: with the last statement that has code on its
line, or, on a line without code, beside the statement that has begun or else above the next one.
And the comments come in the order of the source. -/
theorem statements_eq_assembled :
    (∀ (k : String) (text : List Char), IsName k.toList →
      ∀ b ∈ blocks k text, matchingBraceFrom 1 (mark b.body) = none) ∧
    ∀ body, Orderly body → matchingBraceFrom 1 (mark body) = none →
      (statements body).map Statement.text =
          (completed (removeInnerBlocks body)).filter (!isPassedOver ·) ∧
        statements body = (assembled (removeInnerBlocks body)).filter (!isPassedOver ·.text) ∧
        ((statements body).flatMap Statement.comments).Sublist
          ((placements [] (pieces (· == '\n') (removeInnerBlocks body))).map (·.1)) := by
  refine ⟨fun k text hk b => matchingBraceFrom_of_mem_blocks hk, fun body h hnone => ?_⟩
  have hlines : statements body =
      (assembled (removeInnerBlocks body)).filter (!isPassedOver ·.text) := by
    rw [statements, (h.removeInnerBlocks hnone).lines_eq_assembled]
  refine ⟨?_, hlines, comments_sublist body⟩
  rw [hlines]
  exact filter_withComments (!isPassedOver ·) _ 0 _

/-- A body with comments in every place. -/
def remarkedBody : List Char :=
  ("// one\nint a = 1; int b // two\n// three\n= \";\"; // four\n" ++
    "enum E \x7b // x\n\x7d // five\nreserved 3; // six\n").toList

def remarkedMessage : List Char := "message M \x7b".toList ++ remarkedBody ++ ['\x7d']

theorem statements_eq_assembled_remarkedBody :
    ⟨['M'], remarkedBody, 0⟩ ∈ blocks "message" remarkedMessage ∧
      Orderly remarkedBody ∧ statements remarkedBody =
        [⟨"int a = 1;".toList, ["one".toList], []⟩,
          ⟨"int b = \";\";".toList, [], ["two".toList, "three".toList, "four".toList]⟩,
          ⟨"enum E ;".toList, [], ["five".toList]⟩] := by
  have hblock : ⟨['M'], remarkedBody, 0⟩ ∈ blocks "message" remarkedMessage := by decide +kernel
  have hnone := statements_eq_assembled.1 "message" _ (by decide) _ hblock
  have h : Orderly remarkedBody := by decide +kernel
  have hplaced : (assembled (removeInnerBlocks remarkedBody)).filter (!isPassedOver ·.text) =
      [⟨"int a = 1;".toList, ["one".toList], []⟩,
        ⟨"int b = \";\";".toList, [], ["two".toList, "three".toList, "four".toList]⟩,
        ⟨"enum E ;".toList, [], ["five".toList]⟩] := by decide +kernel
  exact ⟨hblock, h, (statements_eq_assembled.2 _ h hnone).2.1.trans hplaced⟩

end Formwork.Idl
