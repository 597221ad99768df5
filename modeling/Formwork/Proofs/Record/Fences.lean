import Formwork.Proofs.Text.Blank
import Formwork.Record.Fence

/-!
Balanced texts. The scan of the lines, with the open block as its state, agrees with the structure
of the text: lines that begin with no fence, and blocks from the fence that opens one to the first
that closes it.
-/
namespace Formwork.Record
open Formwork.Text

/-- A line begins with a fence: at most three spaces, a run of three or more marks, and then a text
that does not go on with the mark. -/
structure Fence.Begins (fence : Fence) (line : List Char) : Prop where
  three_le : 3 ≤ fence.length
  info : fence.info.head? ≠ some fence.mark.char
  text : ∃ indent ≤ 3, line = List.replicate indent ' ' ++
    (List.replicate fence.length fence.mark.char ++ fence.info)

/-- A line that closes the block which a fence has opened: a fence of the same mark, at least as
long, with nothing but white space behind it. -/
def Fence.ClosedBy (opening : Fence) (line : List Char) : Prop :=
  ∃ fence : Fence, fence.Begins line ∧ fence.mark = opening.mark ∧ opening.length ≤ fence.length ∧
    ∀ c ∈ fence.info, isBlank c = true

/-- Lines that are split into single lines without fences and closed blocks. -/
inductive Fenced : List (List Char) → Prop
  | nil : Fenced []
  | line {l ls} : (∀ fence : Fence, ¬fence.Begins l) → Fenced ls → Fenced (l :: ls)
  | block {fence : Fence} {l inside closing ls} : fence.Begins l →
      (∀ k ∈ inside, ¬fence.ClosedBy k) → fence.ClosedBy closing → Fenced ls →
      Fenced (l :: (inside ++ closing :: ls))

variable {fence : Fence} {l u v : List Char} {ls : List (List Char)}

/-! ### Fences -/

theorem takeWhile_replicate_append {c : Char} {r : List Char} (h : r.head? ≠ some c) (n : Nat) :
    (List.replicate n c ++ r).takeWhile (· == c) = List.replicate n c ∧
      (List.replicate n c ++ r).dropWhile (· == c) = r := by
  have hrun : ∀ d ∈ List.replicate n c, (d == c) = true := by
    intro d hd
    rw [List.eq_of_mem_replicate hd]
    exact beq_self_eq_true c
  rw [List.takeWhile_append_of_pos hrun, List.dropWhile_append_of_pos hrun]
  cases r with
  | nil => simp
  | cons d r =>
    have hd : ¬(d == c) = true := by simpa using h
    simp [hd]

theorem takeWhile_eq_replicate (c : Char) (cs : List Char) :
    cs.takeWhile (· == c) = List.replicate (cs.takeWhile (· == c)).length c := by
  apply List.eq_replicate_of_mem
  intro d hd
  have hc := List.mem_takeWhile_imp (p := (· == c)) hd
  exact beq_iff_eq.1 hc

theorem FenceMark.ofChar?_eq_some_iff {c : Char} {mark : FenceMark} :
    ofChar? c = some mark ↔ c = mark.char := by
  cases mark <;> grind [ofChar?, FenceMark.char]

theorem FenceMark.char_ne_space (mark : FenceMark) : mark.char ≠ ' ' := by
  cases mark <;> decide

theorem Fence.atFront?_eq_some_iff : atFront? l = some fence ↔ 3 ≤ fence.length ∧
    fence.info.head? ≠ some fence.mark.char ∧
      l = List.replicate fence.length fence.mark.char ++ fence.info := by
  constructor
  · intro h
    simp only [atFront?, Option.bind_eq_bind, Option.bind_eq_some_iff] at h
    obtain ⟨c, -, mark, -, h⟩ := h
    split at h
    · cases h
    · next hlength =>
      cases h
      refine ⟨Nat.le_of_not_lt hlength, ?_, ?_⟩
      · intro hinfo
        have hhead := List.head?_dropWhile_not (· == mark.char) l
        rw [hinfo] at hhead
        simp at hhead
      · rw [← takeWhile_eq_replicate, List.takeWhile_append_dropWhile]
  · obtain ⟨mark, length, info⟩ := fence
    rintro ⟨hlength, hinfo, rfl⟩
    obtain ⟨hrun, hrest⟩ := takeWhile_replicate_append hinfo length
    have hhead : (List.replicate length mark.char ++ info).head? = some mark.char := by
      cases length with
      | zero => cases hlength
      | succ length => rfl
    simp only [atFront?, Option.bind_eq_bind, hhead, Option.bind_some,
      FenceMark.ofChar?_eq_some_iff.2 rfl, hrun, hrest, List.length_replicate]
    exact if_neg (Nat.not_lt.2 hlength)

/-- The fence of a line is the one that the line begins with. -/
theorem Fence.ofLine?_eq_some_iff : ofLine? l = some fence ↔ fence.Begins l := by
  constructor
  · intro h
    rw [ofLine?] at h
    split at h
    · cases h
    · next hindent =>
      obtain ⟨hlength, hinfo, htext⟩ := atFront?_eq_some_iff.1 h
      refine ⟨hlength, hinfo, _, Nat.le_of_not_lt hindent, ?_⟩
      rw [← htext, ← takeWhile_eq_replicate]
      have hprefix := List.takeWhile_prefix (· == ' ') (l := l)
      exact (List.prefix_iff_eq_append.1 hprefix).symm
  · rintro ⟨hlength, hinfo, indent, hindent, rfl⟩
    have hhead : (List.replicate fence.length fence.mark.char ++ fence.info).head? ≠ some ' ' := by
      obtain ⟨n, hn⟩ := Nat.exists_eq_add_of_le' (Nat.le_of_succ_le hlength)
      rw [hn, List.replicate_succ, List.cons_append, List.head?_cons]
      exact fun h => fence.mark.char_ne_space (Option.some.inj h)
    have hrun := (takeWhile_replicate_append hhead indent).1
    rw [ofLine?, hrun, List.length_replicate, if_neg (Nat.not_lt.2 hindent),
      List.drop_left' List.length_replicate]
    exact atFront?_eq_some_iff.2 ⟨hlength, hinfo, rfl⟩

theorem Fence.ofLine?_eq_none_iff : ofLine? l = none ↔ ∀ fence : Fence, ¬fence.Begins l := by
  simp only [Option.eq_none_iff_forall_ne_some, ne_eq, ofLine?_eq_some_iff]

theorem Fence.closes_iff {opening : Fence} : closes opening fence = true ↔
    fence.mark = opening.mark ∧ opening.length ≤ fence.length ∧
      ∀ c ∈ fence.info, isBlank c = true := by
  simp only [closes, Bool.and_eq_true, beq_iff_eq, decide_eq_true_eq, List.isEmpty_iff,
    strip_eq_nil_iff, and_assoc]

/-! ### The scan -/

theorem Fence.after_none (l : List Char) : after none l = ofLine? l := by
  cases h : ofLine? l <;> simp [after, h]

/-- An open block stays open up to the line that closes it. -/
theorem Fence.after_some (opening : Fence) (l : List Char) :
    (opening.ClosedBy l ∧ after (some opening) l = none) ∨
      (¬opening.ClosedBy l ∧ after (some opening) l = some opening) := by
  cases h : ofLine? l with
  | none =>
    refine .inr ⟨?_, by simp [after, h]⟩
    rintro ⟨fence, hbegins, -⟩
    exact ofLine?_eq_none_iff.1 h fence hbegins
  | some fence =>
    have hbegins := ofLine?_eq_some_iff.1 h
    by_cases hc : closes opening fence = true
    · exact .inl ⟨⟨fence, hbegins, closes_iff.1 hc⟩, by simp [after, h, hc]⟩
    · refine .inr ⟨?_, by simp [after, h, hc]⟩
      rintro ⟨other, hother, hcloses⟩
      have heq : some other = some fence := (ofLine?_eq_some_iff.2 hother).symm.trans h
      cases heq
      exact hc (closes_iff.2 hcloses)

/-- The scan ends outside blocks exactly when the lines are split into single lines and closed
blocks; where a block is open before them, they must go on with the rest of that block. -/
theorem foldl_after_eq_none_iff (ls : List (List Char)) :
    (ls.foldl Fence.after none = none ↔ Fenced ls) ∧
      ∀ opening : Fence, ls.foldl Fence.after (some opening) = none ↔
        ∃ inside closing rest, ls = inside ++ closing :: rest ∧
          (∀ k ∈ inside, ¬opening.ClosedBy k) ∧ opening.ClosedBy closing ∧ Fenced rest := by
  induction ls with
  | nil => exact ⟨⟨fun _ => .nil, fun _ => rfl⟩, fun opening => by simp⟩
  | cons l ls ih =>
    obtain ⟨ihout, ihin⟩ := ih
    refine ⟨?_, fun opening => ?_⟩
    · rw [List.foldl_cons, Fence.after_none]
      cases h : Fence.ofLine? l with
      | none =>
        have hnone := Fence.ofLine?_eq_none_iff.1 h
        rw [ihout]
        refine ⟨.line hnone, fun hfenced => ?_⟩
        cases hfenced with
        | line _ hls => exact hls
        | block hbegins _ _ _ => exact (hnone _ hbegins).elim
      | some fence =>
        have hbegins := Fence.ofLine?_eq_some_iff.1 h
        rw [ihin fence]
        constructor
        · rintro ⟨inside, closing, rest, rfl, hinside, hclosing, hrest⟩
          exact .block hbegins hinside hclosing hrest
        · intro hfenced
          cases hfenced with
          | line hnone _ => exact (hnone fence hbegins).elim
          | block hother hinside hclosing hrest =>
            have heq := (Fence.ofLine?_eq_some_iff.2 hother).symm.trans h
            cases heq
            exact ⟨_, _, _, rfl, hinside, hclosing, hrest⟩
    · rw [List.foldl_cons]
      rcases opening.after_some l with ⟨hclosed, hafter⟩ | ⟨hopen, hafter⟩
      · rw [hafter, ihout]
        refine ⟨fun hls => ⟨[], l, ls, rfl, List.forall_mem_nil _, hclosed, hls⟩, ?_⟩
        rintro ⟨inside, closing, rest, heq, hinside, hclosing, hrest⟩
        cases inside with
        | nil =>
          cases heq
          exact hrest
        | cons k inside =>
          cases heq
          exact (hinside _ List.mem_cons_self hclosed).elim
      · rw [hafter, ihin opening]
        constructor
        · rintro ⟨inside, closing, rest, rfl, hinside, hclosing, hrest⟩
          exact ⟨l :: inside, closing, rest, rfl, List.forall_mem_cons.2 ⟨hopen, hinside⟩,
            hclosing, hrest⟩
        · rintro ⟨inside, closing, rest, heq, hinside, hclosing, hrest⟩
          cases inside with
          | nil =>
            cases heq
            exact (hopen hclosing).elim
          | cons k inside =>
            cases heq
            exact ⟨inside, closing, rest, rfl, (List.forall_mem_cons.1 hinside).2, hclosing, hrest⟩

theorem fencesBalanced_eq_true_iff {text : List Char} :
    fencesBalanced text = true ↔ Fenced (lines text) := by
  rw [fencesBalanced, Option.isNone_iff_eq_none]
  exact (foldl_after_eq_none_iff _).1

theorem Fenced.append {ks : List (List Char)} (hks : Fenced ks) (hls : Fenced ls) :
    Fenced (ks ++ ls) := by
  induction hks with
  | nil => exact hls
  | line hnone _ ih => exact .line hnone ih
  | block hbegins hinside hclosing _ ih =>
    rw [List.cons_append, List.append_assoc, List.cons_append]
    exact .block hbegins hinside hclosing ih

/-! ### Joined lines -/

theorem not_begins_nil (fence : Fence) : ¬fence.Begins [] := by
  rintro ⟨hlength, -, indent, -, htext⟩
  have hzero := congrArg List.length htext
  simp only [List.length_nil, List.length_append, List.length_replicate] at hzero
  omega

theorem linesFrom_lineFeed (line : List Char) (open_ : Bool) (v : List Char) :
    linesFrom line open_ ('\n' :: v) = line.reverse :: lines v := by
  rw [linesFrom, if_pos (by decide)]
  · rfl
  · exact nofun

theorem linesFrom_cons {line : List Char} {open_ : Bool} {c : Char} {cs : List Char}
    (h : c = '\r' → cs.head? ≠ some '\n') : linesFrom line open_ (c :: cs) =
      if isLineEnd c then line.reverse :: lines cs else linesFrom (c :: line) true cs := by
  rw [linesFrom]
  · rfl
  · rintro cs' rfl rfl
    exact h rfl rfl

/-- A line feed ends the last line of the text before it, or one more line that is empty. -/
theorem linesFrom_append_lineFeed {line : List Char} {open_ : Bool}
    (hline : open_ = false → line = []) (u v : List Char) :
    ∃ b, (b = [] ∨ b = [[]]) ∧
      linesFrom line open_ (u ++ '\n' :: v) = linesFrom line open_ u ++ (b ++ lines v) := by
  fun_induction linesFrom line open_ u with
  | case1 line => exact ⟨[], .inl rfl, linesFrom_lineFeed line true v⟩
  | case2 line open_ hopen =>
    obtain rfl := hline (by simpa using hopen)
    exact ⟨[[]], .inr rfl, linesFrom_lineFeed [] open_ v⟩
  | case3 line open_ cs ih =>
    obtain ⟨b, hb, hlines⟩ := ih fun _ => rfl
    exact ⟨b, hb, congrArg (line.reverse :: ·) hlines⟩
  | case4 line open_ c cs hfeed hend ih =>
    by_cases hreturn : c = '\r' ∧ cs = []
    · -- A carriage return before the line feed belongs to the same line end.
      obtain ⟨rfl, rfl⟩ := hreturn
      exact ⟨[], .inl rfl, rfl⟩
    · obtain ⟨b, hb, hlines⟩ := ih fun _ => rfl
      refine ⟨b, hb, ?_⟩
      rw [List.cons_append, linesFrom_cons, if_pos hend]
      · exact congrArg (line.reverse :: ·) hlines
      · intro hc hhead
        cases cs with
        | nil => exact hreturn ⟨hc, rfl⟩
        | cons d cs => exact hfeed cs hc (congrArg (· :: cs) (Option.some.inj hhead))
  | case5 line open_ c cs hfeed hend ih =>
    obtain ⟨b, hb, hlines⟩ := ih nofun
    refine ⟨b, hb, ?_⟩
    rw [List.cons_append, linesFrom_cons, if_neg hend]
    · exact hlines
    · rintro rfl
      exact (hend (by decide)).elim

theorem lines_append_lineFeed (u v : List Char) :
    ∃ b, (b = [] ∨ b = [[]]) ∧ lines (u ++ '\n' :: v) = lines u ++ (b ++ lines v) :=
  linesFrom_append_lineFeed (fun _ => rfl) u v

theorem linesFrom_append_of_line {line : List Char} {open_ : Bool} (hne : l ≠ [])
    (hl : ∀ c ∈ l, isLineEnd c = false) (r : List Char) :
    linesFrom line open_ (l ++ r) = linesFrom (l.reverse ++ line) true r := by
  induction l generalizing line open_ with
  | nil => exact (hne rfl).elim
  | cons c l ih =>
    obtain ⟨hc, hl⟩ := List.forall_mem_cons.1 hl
    rw [List.cons_append, linesFrom_cons, hc, if_neg Bool.false_ne_true]
    · cases l with
      | nil => rfl
      | cons d l =>
        have hreverse : (c :: d :: l).reverse ++ line = (d :: l).reverse ++ c :: line := by simp
        rw [ih (List.cons_ne_nil d l) hl, hreverse]
    · rintro rfl
      cases hc

theorem lines_of_line (hne : l ≠ []) (hl : ∀ c ∈ l, isLineEnd c = false) : lines l = [l] := by
  have hlines : linesFrom [] false (l ++ []) = linesFrom (l.reverse ++ []) true [] :=
    linesFrom_append_of_line hne hl []
  rw [List.append_nil, List.append_nil] at hlines
  rw [lines, hlines, linesFrom, if_pos rfl, List.reverse_reverse]

theorem lines_line_append (hne : l ≠ []) (hl : ∀ c ∈ l, isLineEnd c = false) (r : List Char) :
    lines (l ++ '\n' :: r) = l :: lines r := by
  rw [lines, linesFrom_append_of_line hne hl, linesFrom_lineFeed, List.append_nil,
    List.reverse_reverse]

theorem fenced_gap {b : List (List Char)} (hb : b = [] ∨ b = [[]]) : Fenced b := by
  rcases hb with rfl | rfl
  · exact .nil
  · exact .line not_begins_nil .nil

/-- A text is balanced exactly when its lines are split into single lines without fences and closed
blocks. So two balanced texts make a balanced text, and so does any text between a fence that is
longer than all fences in it and a line that closes this fence. -/
theorem fencesBalanced_iff_fenced :
    (∀ text, fencesBalanced text = true ↔ Fenced (lines text)) ∧
      (∀ u v, fencesBalanced u = true → fencesBalanced v = true →
        fencesBalanced (u ++ '\n' :: v) = true) ∧
      ∀ (fence : Fence) (opening text closing : List Char), fence.Begins opening →
        fence.ClosedBy closing → (∀ c ∈ opening ++ closing, isLineEnd c = false) →
        (∀ l ∈ lines text, ∀ inner : Fence, inner.Begins l → inner.length < fence.length) →
        fencesBalanced (opening ++ '\n' :: (text ++ '\n' :: closing)) = true := by
  refine ⟨fun text => fencesBalanced_eq_true_iff, fun u v hu hv => ?_, ?_⟩
  · rw [fencesBalanced_eq_true_iff] at hu hv ⊢
    obtain ⟨b, hb, hlines⟩ := lines_append_lineFeed u v
    rw [hlines]
    exact hu.append ((fenced_gap hb).append hv)
  · intro fence opening text closing hopening hclosing hends hinner
    have hne {l : List Char} {fence : Fence} (hl : fence.Begins l) : l ≠ [] := by
      rintro rfl
      exact not_begins_nil fence hl
    have hclosingNe : closing ≠ [] := by
      obtain ⟨_, hbegins, -⟩ := hclosing
      exact hne hbegins
    obtain ⟨b, hb, hlines⟩ := lines_append_lineFeed text closing
    have hopen : ∀ k ∈ lines text ++ b, ¬fence.ClosedBy k := by
      rintro k hk ⟨inner, hbegins, -, hlength, -⟩
      rcases List.mem_append.1 hk with hk | hk
      · exact Nat.not_lt.2 hlength (hinner k hk inner hbegins)
      · rcases hb with rfl | rfl
        · cases hk
        · rw [List.mem_singleton.1 hk] at hbegins
          exact not_begins_nil inner hbegins
    rw [fencesBalanced_eq_true_iff,
      lines_line_append (hne hopening) fun c hc => hends c (List.mem_append_left _ hc), hlines,
      lines_of_line hclosingNe fun c hc => hends c (List.mem_append_right _ hc),
      ← List.append_assoc]
    exact .block hopening hopen hclosing .nil

/-- Four backticks and the name of a language. -/
def codeFence : Fence := ⟨.backtick, 4, "md".toList⟩

def codeLine : List Char := " \x60\x60\x60\x60md".toList

def endLine : List Char := "\x60\x60\x60\x60\x60 ".toList

/-- A block that is never closed, with a fence of the other mark in it. -/
def looseText : List Char := "\x60\x60\x60\n~~~ a\x0bb".toList

theorem fencesBalanced_looseText :
    codeFence.Begins codeLine ∧ codeFence.ClosedBy endLine ∧
      (∀ l ∈ lines looseText, ∀ inner : Fence, inner.Begins l → inner.length < codeFence.length) ∧
        fencesBalanced looseText = false ∧
          fencesBalanced (codeLine ++ '\n' :: (looseText ++ '\n' :: endLine)) = true := by
  have hopening : codeFence.Begins codeLine := Fence.ofLine?_eq_some_iff.1 (by decide +kernel)
  have hclosing : codeFence.ClosedBy endLine :=
    ⟨⟨.backtick, 5, [' ']⟩, Fence.ofLine?_eq_some_iff.1 (by decide +kernel), by decide⟩
  have hshort : ∀ l ∈ lines looseText, ∀ inner : Fence, inner.Begins l →
      inner.length < codeFence.length := by
    have hall : ∀ l ∈ lines looseText, (Fence.ofLine? l).all (·.length < 4) = true := by
      decide +kernel
    intro l hl inner hinner
    have hlength := hall l hl
    rw [Fence.ofLine?_eq_some_iff.2 hinner] at hlength
    exact of_decide_eq_true hlength
  have hwrapped := fencesBalanced_iff_fenced.2.2 codeFence codeLine looseText endLine hopening
    hclosing (by decide +kernel) hshort
  exact ⟨hopening, hclosing, hshort, by decide +kernel, hwrapped⟩

end Formwork.Record
