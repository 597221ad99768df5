import Formwork.Proofs.Idl.Complete

/-!
Declarations over lines. The lines of a body are stripped and joined by single spaces, and what has
been joined is cut at each semicolon; so however a body is broken into lines, its statements are those
of the body on one line, with shorter runs of blanks.
-/
namespace Formwork.Idl
open Formwork.Text

variable {m n : List Marked} {u v cs : List Char}

/-! ### Statements -/

/-- A statement and the same statement with shorter runs of blanks. -/
structure Respaced (s t : List Char) : Prop where
  tightens : Tightens space (mark s) (mark t)
  closed : s.getLast? = some ';'

theorem mark_stripLeft (cs : List Char) :
    mark (stripLeft cs) = (mark cs).dropWhile (isBlank ·.1) := by
  induction cs with
  | nil => rfl
  | cons c cs ih =>
    by_cases hc : isBlank c = true
    · have hmark := mark_cons_of_plain (plain_of_isStop (isStop_of_isBlank hc)) cs
      simpa [hmark, stripLeft, hc] using ih
    · simp [mark, markFrom, stripLeft, hc]

theorem strip_append_semicolon (u : List Char) : strip (u ++ [';']) = stripLeft (u ++ [';']) ∧
    (stripLeft (u ++ [';'])).getLast? = some ';' := by
  have hleft : stripLeft (u ++ [';']) = stripLeft u ++ [';'] := by
    rw [stripLeft, List.dropWhile_append]
    split
    · next h => rw [stripLeft, List.isEmpty_iff.1 h]; rfl
    · rfl
  rw [strip, hleft, stripRight_append (by decide)]
  exact ⟨rfl, List.getLast?_concat⟩

theorem Respaced.of_cut {s t : List Marked}
    (h : Tightens space (s.dropWhile (isBlank ·.1)) (t.dropWhile (isBlank ·.1)))
    (hs : ∃ b, s = b ++ [(';', .code)]) (ht : ∃ b, t = b ++ [(';', .code)])
    (hsmark : mark (s.map (·.1)) = s) (htmark : mark (t.map (·.1)) = t) :
    Respaced (strip (s.map (·.1))) (strip (t.map (·.1))) := by
  have hstrip {s : List Marked} (hs : ∃ b, s = b ++ [(';', .code)]) :
      strip (s.map (·.1)) = stripLeft (s.map (·.1)) ∧
        (stripLeft (s.map (·.1))).getLast? = some ';' := by
    obtain ⟨b, rfl⟩ := hs
    rw [List.map_append, List.map_singleton]
    exact strip_append_semicolon _
  obtain ⟨hsl, hsend⟩ := hstrip hs
  rw [hsl, (hstrip ht).1]
  refine ⟨?_, hsend⟩
  rwa [mark_stripLeft, mark_stripLeft, hsmark, htmark]

theorem Respaced.eq_semicolon_iff {s t : List Char} (h : Respaced s t) : s = [';'] ↔ t = [';'] := by
  have hchars : Tightens ' ' s t := by
    have hmap := h.tightens.map (·.1)
    rwa [mark_map_fst, mark_map_fst] at hmap
  constructor
  · rintro rfl
    cases hchars with
    | cons _ hrest => rw [hrest.eq_nil_iff.1 rfl]
  · rintro rfl
    cases hchars with
    | cons _ hrest => rw [hrest.eq_nil_iff.2 rfl]
    | drop hrest => cases hrest.head?_eq

/-! ### Lines -/

/-- Code with a space before it, if there is code. -/
def spaced (code : List Char) : List Marked := if code = [] then [] else space :: mark code

/-- Code with a space on either side of it, and a single space where there is no code. -/
def framed (code : List Char) : List Marked := spaced code ++ [space]

/-- The code of two lines, joined by a space if both hold some. -/
def joined (code line : List Char) : List Char :=
  if line = [] then code else if code = [] then line else code ++ ' ' :: line

/-- What lines have left unfinished stands for the end of the text on one line. -/
structure StandsFor (code pending : List Char) : Prop where
  tightens : Tightens space (space :: (mark pending ++ [space])) (framed code)
  code : Whole code
  pending : Whole pending

theorem mem_map_space {b : List Char} (hb : ∀ c ∈ b, c = ' ') :
    ∀ x ∈ b.map (·, Lexeme.code), x = space := by
  intro x hx
  obtain ⟨c, hc, rfl⟩ := List.mem_map.1 hx
  rw [hb c hc]
  rfl

/-- A line and the code of the line. -/
theorem Whole.tightens_framed (h : Whole cs) :
    Tightens space (space :: (mark cs ++ [space])) (framed (strip cs)) := by
  obtain ⟨a, b, ha, hb, -, -, hmark⟩ := h.exists_strip
  have ha := mem_map_space ha
  have hb := mem_map_space hb
  rw [hmark, framed, spaced]
  split
  · next hs =>
    refine .of_all_gap fun x hx => ?_
    rw [hs] at hx
    simp only [mark, markFrom, List.nil_append, List.mem_append, List.mem_singleton] at hx
    rcases hx with (hx | hx) | rfl
    · exact ha x hx
    · exact hb x hx
    · rfl
  · have hleft := Tightens.of_all_gap ha
    have hright : Tightens space (b.map (·, Lexeme.code) ++ [space]) [space] := by
      have hreverse := Tightens.of_all_gap fun x hx => hb x (List.mem_reverse.1 hx)
      simpa using hreverse.reverse
    have hall := (hleft.append (.refl space (mark (strip cs)))).append hright
    simpa using hall

theorem Whole.joined {l : List Char} (hu : Whole cs) (hl : Whole l) : Whole (joined cs l) := by
  rw [Idl.joined]
  split_ifs
  · exact hu
  · exact hl
  · exact hu.append_space hl

theorem framed_joined {code : List Char} (hcode : modeAfter .code code = .code) (l : List Char) :
    framed (joined code l) = spaced code ++ framed l := by
  rw [joined, framed, framed]
  by_cases hl : l = []
  · simp [hl, spaced]
  · by_cases hc : code = []
    · simp [hl, hc, spaced]
    · simp [hl, hc, spaced, mark_append_space hcode]

/-- A line more on both sides. -/
theorem StandsFor.joined {code pending l : List Char} (h : StandsFor code pending) (hl : Whole l) :
    StandsFor (joined code (strip l)) (pending ++ ' ' :: l) := by
  obtain ⟨-, -, -, -, -, hstrip, -⟩ := hl.exists_strip
  refine ⟨?_, h.code.joined hstrip, h.pending.append_space hl⟩
  have hcode := h.tightens
  rw [framed, ← List.cons_append] at hcode
  have hline := (Tightens.refl space (spaced code)).append hl.tightens_framed
  have hleft := hcode.append (.refl space (mark l ++ [space]))
  rw [List.append_assoc, List.append_assoc] at hleft
  rw [framed_joined h.code.closed, mark_append_space h.pending.closed]
  simpa using hleft.trans hline

theorem cutMarks_append_space (m : List Marked) :
    cutMarks (m ++ [space]) = ((cutMarks m).1, (cutMarks m).2 ++ [space]) :=
  cutMarks_append_of_not_mem (by decide) m

theorem cutMarks_framed (code : List Char) : cutMarks (framed code) =
    if code = [] then ([], [space])
    else push space ((cutMarks (mark code)).1, (cutMarks (mark code)).2 ++ [space]) := by
  rw [framed, spaced]
  split
  · rfl
  · rw [List.cons_append, cutMarks_space, cutMarks_append_space]

theorem dropWhile_space (m : List Marked) :
    (space :: m).dropWhile (isBlank ·.1) = m.dropWhile (isBlank ·.1) := rfl

/-- What a semicolon ends, it ends on both sides. -/
theorem StandsFor.cutMarks {code pending : List Char} (h : StandsFor code pending) :
    List.Forall₂ (fun s t => Tightens space (s.dropWhile (isBlank ·.1)) (t.dropWhile (isBlank ·.1)))
        (cutMarks (mark pending)).1 (cutMarks (mark code)).1 ∧
      Tightens space (space :: ((cutMarks (mark pending)).2 ++ [space]))
        (framed (strip ((cutMarks (mark code)).2.map (·.1)))) := by
  obtain ⟨-, hmark, hwhole⟩ := h.code.cutMarks
  have hframed := hwhole.tightens_framed
  obtain ⟨hfound, hrest⟩ := h.tightens.cutMarks
  rw [hmark] at hframed
  rw [cutMarks_space, cutMarks_append_space, cutMarks_framed] at hfound hrest
  by_cases hc : code = []
  · rw [if_pos hc] at hfound hrest
    subst hc
    revert hfound hrest
    cases Idl.cutMarks (mark pending) with
    | mk complete rest =>
      cases complete with
      | nil => exact fun _ hrest => ⟨.nil, hrest⟩
      | cons s more => exact fun hfound _ => nomatch hfound
  · rw [if_neg hc] at hfound hrest
    revert hframed hfound hrest
    cases Idl.cutMarks (mark code) with
    | mk complete' rest' =>
      cases Idl.cutMarks (mark pending) with
      | mk complete rest =>
        intro hframed hfound hrest
        have hblank : isBlank space.1 = true := by decide
        cases complete <;> cases complete'
        · exact ⟨.nil, hrest.trans hframed⟩
        · cases hfound
        · cases hfound
        · cases hfound with
          | cons hs hmore =>
            have hhead := hs.dropWhile (p := (isBlank ·.1)) hblank
            rw [dropWhile_space, dropWhile_space] at hhead
            refine ⟨.cons hhead ?_, (Tightens.cons space hrest).trans hframed⟩
            exact hmore.imp fun _ _ hs => hs.dropWhile hblank

theorem forall₂_imp_of_mem {α β : Type} {r t : α → β → Prop} {xs : List α} {ys : List β}
    (h : List.Forall₂ r xs ys) (himp : ∀ x ∈ xs, ∀ y ∈ ys, r x y → t x y) :
    List.Forall₂ t xs ys := by
  induction h with
  | nil => exact .nil
  | cons hxy _ ih =>
    refine .cons (himp _ List.mem_cons_self _ List.mem_cons_self hxy) (ih fun x hx y hy => ?_)
    exact himp x (List.mem_cons_of_mem _ hx) y (List.mem_cons_of_mem _ hy)

/-- A step: the complete statements are the same up to runs of blanks, and what is left over on one
side stands for what is left over on the other. -/
theorem StandsFor.cut {code pending : List Char} (h : StandsFor code pending) :
    List.Forall₂ Respaced (statementTexts (mark pending)) (statementTexts (mark code)) ∧
      StandsFor (strip ((Idl.cutMarks (mark code)).2.map (·.1)))
        ((Idl.cutMarks (mark pending)).2.map (·.1)) := by
  obtain ⟨hfound, hrest⟩ := h.cutMarks
  obtain ⟨hpending, hprest, hpwhole⟩ := h.pending.cutMarks
  obtain ⟨hcode, -, hcwhole⟩ := h.code.cutMarks
  obtain ⟨-, -, -, -, -, hstrip, -⟩ := hcwhole.exists_strip
  refine ⟨?_, ⟨by rwa [hprest], hstrip, hpwhole⟩⟩
  refine List.rel_filter (R := Respaced) (fun s t hst => ?_) ?_
  · simp [hst.eq_semicolon_iff]
  · rw [List.forall₂_map_left_iff, List.forall₂_map_right_iff]
    refine forall₂_imp_of_mem hfound fun s hs t ht hst => ?_
    exact .of_cut hst (mem_cutMarks hs) (mem_cutMarks ht) (hpending s hs) (hcode t ht)

/-! ### A body -/

/-- A statement without comments. -/
def Statement.plain (text : List Char) : Statement := ⟨text, [], []⟩

theorem attach_nil (texts : List (List Char)) :
    attach [] [] [] texts = texts.map Statement.plain := by
  induction texts with
  | nil => rfl
  | cons text texts ih =>
    cases texts with
    | nil => rfl
    | cons next texts =>
      have hcons : attach [] [] [] (text :: next :: texts) =
          ⟨text, [], []⟩ :: attach [] [] [] (next :: texts) := rfl
      rw [hcons, ih]
      rfl

theorem Whole.lineFeed_not_mem (h : Whole cs) : '\n' ∉ cs := fun hmem =>
  absurd (h.blank '\n' hmem (by decide)) (by decide)

/-- A line without a comment completes the statements that end in what has been joined with it. -/
theorem Unfinished.line_of_whole {l : List Char} (h : Whole l) (code : List Char) :
    ({ code } : Unfinished).line l =
      if strip l = [] then ([], { code })
      else ((statementTexts (mark (joined code (strip l)))).map Statement.plain,
        { code := strip ((cutMarks (mark (joined code (strip l)))).2.map (·.1)) }) := by
  have hsplit := splitLineComment_of_code h.lineFeed_not_mem h.closed
  simp only [line, hsplit, commentList, List.isEmpty_nil, if_true, List.isEmpty_iff]
  by_cases hl : strip l = []
  · simp [hl]
  · have hjoined : (if code = [] then strip l else code ++ ' ' :: strip l) =
        joined code (strip l) := by
      rw [joined, if_neg hl]
    simp only [if_neg hl, hjoined, splitStatements_eq, List.append_nil, ite_self]
    cases hfound : statementTexts (mark (joined code (strip l))) with
    | nil => rfl
    | cons text texts => simp only [attach_nil]

theorem statementTexts_eq_nil (h : (';', .code) ∉ m) : statementTexts m = [] := by
  rw [statementTexts, cutMarks_of_not_mem h]
  rfl

theorem statementTexts_append_of_not_mem (h : (';', .code) ∉ n) (m : List Marked) :
    statementTexts (m ++ n) = statementTexts m := by
  rw [statementTexts, cutMarks_append_of_not_mem h, ← statementTexts]

theorem statementTexts_space (m : List Marked) :
    statementTexts (space :: m) = statementTexts m := by
  rw [statementTexts, cutMarks_space, statementTexts]
  cases cutMarks m with
  | mk complete rest => cases complete <;> rfl

/-- What a complete text is cut into, and then the text that is left over with what follows. -/
theorem Whole.statementTexts_append (h : Whole u) (hv : Detached v) :
    statementTexts (mark (u ++ v)) = statementTexts (mark u) ++
      statementTexts (mark ((Idl.cutMarks (mark u)).2.map (·.1) ++ v)) := by
  obtain ⟨-, hmark, hrest⟩ := h.cutMarks
  rw [mark_append_of_code hrest.closed hv, hmark, mark_append_of_code h.closed hv, statementTexts,
    cutMarks_append, List.map_append, List.filter_append]
  rfl

theorem detached_lines (ls : List (List Char)) : Detached (ls.flatMap (' ' :: ·)) := by
  cases ls with
  | nil => exact nofun
  | cons l ls => exact detached_space _

/-- The lines of a body complete the statements of the body on one line, up to runs of blanks. -/
theorem StandsFor.lines {code pending : List Char} (h : StandsFor code pending)
    (hcode : (';', .code) ∉ mark code) {ls : List (List Char)} (hls : ∀ l ∈ ls, Whole l) :
    ∃ texts, ({ code } : Unfinished).lines ls = texts.map Statement.plain ∧
      List.Forall₂ Respaced (statementTexts (mark (pending ++ ls.flatMap (' ' :: ·)))) texts := by
  induction ls generalizing code pending with
  | nil =>
    have hfound := h.cut.1
    rw [statementTexts_eq_nil hcode] at hfound
    exact ⟨[], rfl, by simpa using hfound⟩
  | cons l ls ih =>
    obtain ⟨hl, hls⟩ := List.forall_mem_cons.1 hls
    have hjoined := h.joined hl
    have hmore : pending ++ (l :: ls).flatMap (' ' :: ·) =
        (pending ++ ' ' :: l) ++ ls.flatMap (' ' :: ·) := by simp
    rw [hmore, Unfinished.lines, Unfinished.line_of_whole hl]
    by_cases hs : strip l = []
    · rw [hs, Idl.joined, if_pos rfl] at hjoined
      rw [if_pos hs]
      exact ih hjoined hcode hls
    · obtain ⟨hfound, hrest⟩ := hjoined.cut
      obtain ⟨-, hmark, hwhole⟩ := hjoined.code.cutMarks
      obtain ⟨_, _, -, -, -, -, hstrip⟩ := hwhole.exists_strip
      obtain ⟨texts, hlines, htexts⟩ := ih hrest (fun hmem => not_mem_cutMarks _ <| by
        rw [← hmark, hstrip]
        exact List.mem_append_right _ (List.mem_append_left _ hmem)) hls
      rw [if_neg hs, hlines, ← List.map_append,
        hjoined.pending.statementTexts_append (detached_lines ls)]
      exact ⟨_, rfl, List.rel_append hfound htexts⟩

/-- A body on one line. -/
theorem Unfinished.lines_singleton {l : List Char} (h : Whole l) :
    ({} : Unfinished).lines [l] = (statementTexts (mark l)).map Statement.plain := by
  obtain ⟨a, b, ha, hb, -, -, hmark⟩ := h.exists_strip
  have hspaces {b : List Char} (hb : ∀ c ∈ b, c = ' ') : (';', .code) ∉ b.map (·, Lexeme.code) :=
    fun hmem => absurd (mem_map_space hb _ hmem) (by decide)
  have hfront (a : List Char) (ha : ∀ c ∈ a, c = ' ') (m : List Marked) :
      statementTexts (a.map (·, .code) ++ m) = statementTexts m := by
    induction a with
    | nil => rfl
    | cons c a ih =>
      obtain ⟨rfl, hrest⟩ := List.forall_mem_cons.1 ha
      exact (statementTexts_space _).trans (ih hrest)
  have htexts : statementTexts (mark l) = statementTexts (mark (strip l)) := by
    rw [hmark, hfront a ha, statementTexts_append_of_not_mem (hspaces hb)]
  rw [lines, lines, List.append_nil, line_of_whole h, htexts]
  by_cases hs : strip l = []
  · rw [if_pos hs, hs]
    rfl
  · rw [if_neg hs, joined, if_neg hs, if_pos rfl]

/-! ### Line feeds as spaces -/

/-- A space in place of a line feed. -/
def unbroken (c : Char) : Char := if c = '\n' then ' ' else c

/-- The text with its line feeds turned into spaces. -/
def oneLine (cs : List Char) : List Char := cs.map unbroken

theorem space_oneLine (cs : List Char) :
    ' ' :: oneLine cs = (pieces (· == '\n') cs).flatMap (' ' :: ·) := by
  induction cs with
  | nil => rfl
  | cons c cs ih =>
    rw [oneLine, List.map_cons, ← oneLine, pieces]
    by_cases hc : c = '\n'
    · simp [hc, ih, unbroken]
    · obtain ⟨p, ps, hp⟩ := List.exists_cons_of_ne_nil (pieces_ne_nil (· == '\n') cs)
      rw [hp] at ih ⊢
      simp [hc, unbroken] at ih ⊢
      exact ih

/-- Two statements without comments, one with shorter runs of blanks. -/
def Statement.Respaced (s t : Statement) : Prop :=
  ∃ a b, s = plain a ∧ t = plain b ∧ Idl.Respaced a b

/-- However a text is broken into lines, its statements are those of the text on one line, up to
runs of blanks. -/
theorem lines_respaced (hone : Whole (oneLine cs))
    (hlines : ∀ l ∈ pieces (· == '\n') cs, Whole l) :
    List.Forall₂ Statement.Respaced (({} : Unfinished).lines [oneLine cs])
      (({} : Unfinished).lines (pieces (· == '\n') cs)) := by
  have hstart : StandsFor [] [] := ⟨.drop (.refl space [space]), .nil, .nil⟩
  obtain ⟨texts, hmany, htexts⟩ := hstart.lines List.not_mem_nil hlines
  rw [List.nil_append, ← space_oneLine, mark_space, statementTexts_space] at htexts
  rw [hmany, Unfinished.lines_singleton hone, List.forall₂_map_left_iff,
    List.forall₂_map_right_iff]
  exact htexts.imp fun a b h => ⟨a, b, rfl, rfl, h⟩

end Formwork.Idl
