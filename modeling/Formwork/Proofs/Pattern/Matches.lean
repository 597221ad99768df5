import Formwork.Pattern.Match

/-!
What a node matches, told without the order in which its choices are tried: a word, with the text
before it, the text after it and the groups that it sets. On expressions of characters, anchors,
alternatives, groups and greedy loops the matcher finds a match wherever there is one, and nothing
that is none.
-/
namespace Formwork.Pattern
open Formwork.Text

/-- A word with the text before it, nearest character first, the text after it, and the texts of
the groups that it sets, latest first. -/
abbrev Matching := List Char → List Char → List Char → List (Nat × List Char) → Prop

/-- Between `min` and `max` matches, one behind the other. -/
inductive Rounds (S : Matching) : Nat → Option Nat → Matching
  | stop {max before after} : Rounds S 0 max before [] after []
  | must {min max before u v after g h} (hu : S before u (v ++ after) g)
      (hv : Rounds S min (max.map (· - 1)) (u.reverse ++ before) v after h) :
      Rounds S (min + 1) max before (u ++ v) after (h ++ g)
  | may {max before u v after g h} (hmax : max ≠ some 0) (hu : S before u (v ++ after) g)
      (hv : Rounds S 0 (max.map (· - 1)) (u.reverse ++ before) v after h) :
      Rounds S 0 max before (u ++ v) after (h ++ g)

/-- What a node without references, look-around and atomic groups matches. -/
def Node.Matches : Node → Matching
  | .empty, _, w, _, g => w = [] ∧ g = []
  | .char set, _, w, _, g => ∃ x, set.holds x = true ∧ w = [x] ∧ g = []
  | .dot lineFeeds, _, w, _, g => ∃ x, (lineFeeds || x != '\n') = true ∧ w = [x] ∧ g = []
  | .anchor condition, before, w, after, g =>
    (Cursor.mk before after 0 []).meets condition = true ∧ w = [] ∧ g = []
  | .seq a b, before, w, after, g => ∃ u v h k, w = u ++ v ∧ g = k ++ h ∧
      a.Matches before u (v ++ after) h ∧ b.Matches (u.reverse ++ before) v after k
  | .alt a b, before, w, after, g => a.Matches before w after g ∨ b.Matches before w after g
  | .loop _ min max body, before, w, after, g => Rounds body.Matches min max before w after g
  | .scope body, before, w, after, g => body.Matches before w after g
  | .capture group body, before, w, after, g =>
    ∃ h, g = (group, w) :: h ∧ body.Matches before w after h
  | _, _, _, _, _ => False

/-- The node has none of the parts whose matches depend on the order of choices, and no loop of it
can go round without reading a character. -/
def Node.isRegular : Node → Bool
  | .empty | .char _ | .dot _ | .anchor _ => true
  | .seq a b | .alt a b => a.isRegular && b.isRegular
  | .loop mode _ _ body => mode = .greedy && 0 < body.width.least && body.isRegular
  | .scope body | .capture _ body => body.isRegular
  | _ => false

/-- The cursor behind the word `w`, which `rest` follows and which set the groups `g`. -/
def Cursor.past (c : Cursor) (w rest : List Char) (g : List (Nat × List Char)) : Cursor :=
  ⟨w.reverse ++ c.before, rest, c.position + w.length, g ++ c.captured⟩

variable {S : Matching} {node : Node} {c e : Cursor} {next : Continuation}
  {before w after rest u v : List Char} {g h : List (Nat × List Char)} {min fuel : Nat}
  {max last : Option Nat}

/-! ### First choices and second choices -/

theorem eq_some_of_orElse {o : Option Cursor} {f : Unit → Option Cursor}
    (h : o.orElse f = some e) : o = some e ∨ f () = some e := by
  cases o with
  | none => exact .inr h
  | some d => exact .inl h

theorem isSome_orElse (o : Option Cursor) (f : Unit → Option Cursor) :
    (o.orElse f).isSome = (o.isSome || (f ()).isSome) := by
  cases o <;> rfl

/-! ### Positions -/

theorem Cursor.past_past :
    (c.past u (v ++ rest) g).past v rest h = c.past (u ++ v) rest (h ++ g) := by
  simp [Cursor.past, Nat.add_assoc]

theorem Cursor.advance_of_after {x : Char} (h : c.after = x :: rest) :
    c.advance = c.past [x] rest [] := by
  rw [Cursor.advance, h]
  rfl

theorem Cursor.meets_eq (c : Cursor) (condition : Anchor) :
    c.meets condition = (Cursor.mk c.before c.after 0 []).meets condition := by
  cases condition <;> rfl

/-- The text of a group is the word that its body reads. -/
theorem Cursor.read_past :
    ((c.past w rest g).before.take ((c.past w rest g).position - c.position)).reverse = w := by
  have hlength : (c.past w rest g).position - c.position = w.reverse.length := by
    simp [Cursor.past]
  rw [hlength, Cursor.past, List.take_left, List.reverse_reverse]

/-! ### Lengths -/

theorem Rounds.least_le_length {n : Nat} (hS : ∀ {b w a g}, S b w a g → n ≤ w.length)
    (h : Rounds S min max before w after g) : n * min ≤ w.length := by
  induction h with
  | stop => simp
  | must hu _ ih =>
    have hlength := hS hu
    rw [List.length_append, Nat.mul_succ]
    omega
  | may => simp

/-- A match is as long as the node's width says at least. -/
theorem Node.Matches.least_le_length (h : node.Matches before w after g) :
    node.width.least ≤ w.length := by
  induction node generalizing before w after g with
  | empty | anchor | ahead | behind => exact Nat.zero_le _
  | char | dot =>
    obtain ⟨x, -, rfl, -⟩ := h
    exact Nat.le_refl 1
  | seq a b iha ihb =>
    obtain ⟨u, v, _, _, rfl, -, hu, hv⟩ := h
    rw [List.length_append]
    exact Nat.add_le_add (iha hu) (ihb hv)
  | alt a b iha ihb =>
    rcases h with h | h
    · exact Nat.le_trans (Nat.min_le_left _ _) (iha h)
    · exact Nat.le_trans (Nat.min_le_right _ _) (ihb h)
  | loop mode min max body ih => exact Rounds.least_le_length ih h
  | scope body ih => exact ih h
  | capture group body ih =>
    obtain ⟨_, -, h⟩ := h
    exact ih h
  | atomic | backref | branch => exact h.elim

/-! ### The matcher finds matches only -/

/-- From `c` on there is a match behind which `next` ends at `e`. -/
def Matching.Leads (S : Matching) (c : Cursor) (next : Continuation) (e : Cursor) : Prop :=
  ∃ w rest g, c.after = w ++ rest ∧ S c.before w rest g ∧ next (c.past w rest g) = some e

theorem greedyRounds_sound {step : Cursor → Continuation → Option Cursor}
    (hstep : ∀ {c next e}, step c next = some e → S.Leads c next e) (hfuel : min ≤ fuel)
    (h : greedyRounds step next fuel min max last c = some e) :
    Matching.Leads (Rounds S min max) c next e := by
  have stop {max : Option Nat} {c : Cursor} (h : next c = some e) :
      Matching.Leads (Rounds S 0 max) c next e :=
    ⟨[], c.after, [], rfl, .stop, h⟩
  induction fuel generalizing min max last c with
  | zero =>
    -- The fuel lasts longer than the rounds that must be.
    obtain rfl : min = 0 := Nat.le_zero.1 hfuel
    exact stop h
  | succ fuel ih =>
    rw [greedyRounds] at h
    split at h
    · next hmin =>
      obtain ⟨min, rfl⟩ := Nat.exists_eq_succ_of_ne_zero (Nat.ne_of_gt hmin)
      obtain ⟨u, rest, g, hu, hS, hround⟩ := hstep h
      obtain ⟨v, rest, k, hv, hrounds, hend⟩ := ih (Nat.le_of_succ_le_succ hfuel) hround
      obtain rfl : _ = v ++ rest := hv
      rw [Cursor.past_past] at hend
      exact ⟨u ++ v, rest, k ++ g, by rw [hu, List.append_assoc], .must hS hrounds, hend⟩
    · next hmin =>
      obtain rfl : min = 0 := Nat.eq_zero_of_not_pos hmin
      split at h
      · next hmore =>
        rcases eq_some_of_orElse h with h | h
        · obtain ⟨u, rest, g, hu, hS, hround⟩ := hstep h
          obtain ⟨v, rest, k, hv, hrounds, hend⟩ := ih (Nat.zero_le _) hround
          obtain rfl : _ = v ++ rest := hv
          rw [Cursor.past_past] at hend
          exact ⟨u ++ v, rest, k ++ g, by rw [hu, List.append_assoc], .may hmore.1 hS hrounds,
            hend⟩
        · exact stop h
      · exact stop h

/-- What the matcher finds is a match. -/
theorem Node.run_sound (hn : node.isRegular = true) (h : node.run c next = some e) :
    node.Matches.Leads c next e := by
  induction node generalizing c next e with
  | empty => exact ⟨[], c.after, [], rfl, ⟨rfl, rfl⟩, h⟩
  | char set =>
    rw [Node.run] at h
    split at h
    · next x xs hc =>
      split at h
      · next hx =>
        rw [Cursor.advance_of_after hc] at h
        exact ⟨[x], xs, [], hc, ⟨x, hx, rfl, rfl⟩, h⟩
      · cases h
    · cases h
  | dot lineFeeds =>
    rw [Node.run] at h
    split at h
    · next x xs hc =>
      split at h
      · next hx =>
        rw [Cursor.advance_of_after hc] at h
        exact ⟨[x], xs, [], hc, ⟨x, hx, rfl, rfl⟩, h⟩
      · cases h
    · cases h
  | anchor condition =>
    rw [Node.run] at h
    split at h
    · next hmeets => exact ⟨[], c.after, [], rfl, ⟨c.meets_eq condition ▸ hmeets, rfl, rfl⟩, h⟩
    · cases h
  | seq a b iha ihb =>
    simp only [Node.isRegular, Bool.and_eq_true] at hn
    obtain ⟨u, rest, g, hu, ha, h⟩ := iha hn.1 h
    obtain ⟨v, rest, k, hv, hb, hend⟩ := ihb hn.2 h
    obtain rfl : _ = v ++ rest := hv
    rw [Cursor.past_past] at hend
    exact ⟨u ++ v, rest, k ++ g, by rw [hu, List.append_assoc],
      ⟨u, v, g, k, rfl, rfl, ha, hb⟩, hend⟩
  | alt a b iha ihb =>
    simp only [Node.isRegular, Bool.and_eq_true] at hn
    rcases eq_some_of_orElse h with h | h
    · obtain ⟨w, rest, g, hw, ha, hend⟩ := iha hn.1 h
      exact ⟨w, rest, g, hw, .inl ha, hend⟩
    · obtain ⟨w, rest, g, hw, hb, hend⟩ := ihb hn.2 h
      exact ⟨w, rest, g, hw, .inr hb, hend⟩
  | loop mode min max body ih =>
    simp only [Node.isRegular, Bool.and_eq_true, decide_eq_true_eq] at hn
    obtain ⟨⟨rfl, -⟩, hbody⟩ := hn
    exact greedyRounds_sound (ih hbody) (by omega) h
  | scope body ih => exact ih hn h
  | capture group body ih =>
    obtain ⟨w, rest, g, hw, hbody, h⟩ := ih hn h
    simp only [Cursor.read_past] at h
    exact ⟨w, rest, (group, w) :: g, hw, ⟨g, rfl, hbody⟩, h⟩
  | atomic | ahead | behind | backref | branch => cases hn

/-! ### The matcher finds a match wherever there is one -/

theorem greedyRounds_complete {step : Cursor → Continuation → Option Cursor}
    (hstep : ∀ {c next w rest g}, S c.before w rest g → c.after = w ++ rest →
      (next (c.past w rest g)).isSome → (step c next).isSome)
    (hleast : ∀ {b w a g}, S b w a g → 0 < w.length)
    (h : Rounds S min max c.before w rest g) (hc : c.after = w ++ rest)
    (hfuel : w.length ≤ fuel) (hlast : ∀ p, last = some p → p < c.position)
    (hnext : (next (c.past w rest g)).isSome) :
    (greedyRounds step next fuel min max last c).isSome := by
  generalize hbefore : c.before = before at h
  induction h generalizing c fuel last with
  | stop =>
    obtain rfl := hc
    have hstop : (next c).isSome := hnext
    cases fuel with
    | zero => exact hstop
    | succ fuel =>
      rw [greedyRounds, if_neg (Nat.lt_irrefl 0)]
      split
      · rw [isSome_orElse, hstop, Bool.or_true]
      · exact hstop
  | @must min max before u v after g h hu _ ih =>
    have hlength := hleast hu
    rw [List.length_append] at hfuel
    obtain ⟨fuel, rfl⟩ : ∃ n, fuel = n + 1 := ⟨fuel - 1, by omega⟩
    rw [greedyRounds, if_pos (Nat.succ_pos min), Nat.add_sub_cancel]
    refine hstep (hbefore ▸ hu) (by rw [hc, List.append_assoc]) ?_
    refine ih rfl (by omega) (fun p hp => ?_) (Cursor.past_past ▸ hnext)
      (by rw [Cursor.past, hbefore])
    exact Nat.lt_of_lt_of_le (hlast p hp) (Nat.le_add_right _ _)
  | @may max before u v after g h hmax hu _ ih =>
    have hlength := hleast hu
    rw [List.length_append] at hfuel
    obtain ⟨fuel, rfl⟩ : ∃ n, fuel = n + 1 := ⟨fuel - 1, by omega⟩
    -- The round before read a character, so this one begins elsewhere and is tried.
    have hfresh : last ≠ some c.position := fun h => Nat.lt_irrefl _ (hlast _ h)
    rw [greedyRounds, if_neg (Nat.lt_irrefl 0), if_pos ⟨hmax, hfresh⟩, isSome_orElse,
      Bool.or_eq_true]
    refine .inl (hstep (hbefore ▸ hu) (by rw [hc, List.append_assoc]) ?_)
    refine ih rfl (by omega) (fun p hp => ?_) (Cursor.past_past ▸ hnext)
      (by rw [Cursor.past, hbefore])
    obtain rfl := Option.some.inj hp
    exact Nat.lt_add_of_pos_right hlength

/-- Where there is a match that `next` accepts, the matcher finds one. -/
theorem Node.run_complete (hn : node.isRegular = true) (h : node.Matches c.before w rest g)
    (hc : c.after = w ++ rest) (hnext : (next (c.past w rest g)).isSome) :
    (node.run c next).isSome := by
  induction node generalizing c next w rest g with
  | empty =>
    obtain ⟨rfl, rfl⟩ := h
    obtain rfl := hc
    exact hnext
  | char set | dot lineFeeds =>
    obtain ⟨x, hx, rfl, rfl⟩ := h
    have hc : c.after = x :: rest := hc
    rw [← Cursor.advance_of_after hc] at hnext
    rw [Node.run, hc]
    simp only [hx, if_true, hnext]
  | anchor condition =>
    obtain ⟨hmeets, rfl, rfl⟩ := h
    obtain rfl := hc
    rw [Node.run, Cursor.meets_eq, if_pos hmeets]
    exact hnext
  | seq a b iha ihb =>
    simp only [Node.isRegular, Bool.and_eq_true] at hn
    obtain ⟨u, v, g, k, rfl, rfl, hu, hv⟩ := h
    refine iha hn.1 hu (by rw [hc, List.append_assoc]) ?_
    exact ihb hn.2 hv rfl (Cursor.past_past ▸ hnext)
  | alt a b iha ihb =>
    simp only [Node.isRegular, Bool.and_eq_true] at hn
    rw [Node.run, isSome_orElse, Bool.or_eq_true]
    rcases h with h | h
    · exact .inl (iha hn.1 h hc hnext)
    · exact .inr (ihb hn.2 h hc hnext)
  | loop mode min max body ih =>
    simp only [Node.isRegular, Bool.and_eq_true, decide_eq_true_eq] at hn
    obtain ⟨⟨rfl, hpos⟩, hbody⟩ := hn
    refine greedyRounds_complete (ih hbody) (fun h => Nat.lt_of_lt_of_le hpos h.least_le_length) h
      hc ?_ (fun p hp => by cases hp) hnext
    rw [hc, List.length_append]
    omega
  | scope body ih => exact ih hn h hc hnext
  | capture group body ih =>
    obtain ⟨h, rfl, hbody⟩ := h
    refine ih hn hbody hc ?_
    simp only [Cursor.read_past]
    exact hnext
  | atomic | ahead | behind | backref | branch => cases hn

/-- From the start of a text on, the front of the text and the groups that are found are a match. -/
theorem Node.matches_of_run_ofText (hn : node.isRegular = true) {text : List Char}
    (h : node.run (.ofText text) some = some e) :
    ∃ w rest, text = w ++ rest ∧ node.Matches [] w rest e.captured := by
  obtain ⟨w, rest, g, htext, hw, hend⟩ := Node.run_sound hn h
  obtain rfl := Option.some.inj hend
  have hgroups : ((Cursor.ofText text).past w rest g).captured = g := List.append_nil g
  refine ⟨w, rest, htext, ?_⟩
  rw [hgroups]
  exact hw

/-- A text is matched from its start on exactly where some front of it is a match. -/
theorem Node.isSome_run_ofText (hn : node.isRegular = true) {text : List Char} :
    (node.run (.ofText text) some).isSome = true ↔
      ∃ w rest g, text = w ++ rest ∧ node.Matches [] w rest g := by
  constructor
  · intro h
    obtain ⟨e, he⟩ := Option.isSome_iff_exists.1 h
    obtain ⟨w, rest, htext, hw⟩ := Node.matches_of_run_ofText hn he
    exact ⟨w, rest, e.captured, htext, hw⟩
  · rintro ⟨w, rest, g, htext, hw⟩
    exact Node.run_complete hn (c := .ofText text) hw htext rfl

/-! ### Rounds of characters, and rounds that may be left out -/

theorem rounds_single {p : Char → Prop}
    (hS : ∀ {b w a g}, S b w a g ↔ ∃ x, p x ∧ w = [x] ∧ g = []) :
    Rounds S min none before w after g ↔ min ≤ w.length ∧ (∀ x ∈ w, p x) ∧ g = [] := by
  constructor
  · intro h
    generalize hmax : none = max at h
    induction h with
    | stop => exact ⟨Nat.zero_le _, by simp, rfl⟩
    | must hu _ ih =>
      obtain ⟨x, hx, rfl, rfl⟩ := hS.1 hu
      obtain ⟨hlength, hall, rfl⟩ := ih (by rw [← hmax]; rfl)
      exact ⟨Nat.succ_le_succ hlength, List.forall_mem_cons.2 ⟨hx, hall⟩, rfl⟩
    | may _ hu _ ih =>
      obtain ⟨x, hx, rfl, rfl⟩ := hS.1 hu
      obtain ⟨-, hall, rfl⟩ := ih (by rw [← hmax]; rfl)
      exact ⟨Nat.zero_le _, List.forall_mem_cons.2 ⟨hx, hall⟩, rfl⟩
  · rintro ⟨hmin, hall, rfl⟩
    induction w generalizing min before with
    | nil =>
      obtain rfl := Nat.le_zero.1 hmin
      exact .stop
    | cons x w ih =>
      have hx : S before [x] (w ++ after) [] := hS.2 ⟨x, hall x List.mem_cons_self, rfl, rfl⟩
      have hw := fun y hy => hall y (List.mem_cons_of_mem x hy)
      suffices Rounds S min none before ([x] ++ w) after ([] ++ []) from this
      cases min with
      | zero => exact .may (by simp) hx (ih (Nat.zero_le _) hw)
      | succ min => exact .must hx (ih (Nat.le_of_succ_le_succ hmin) hw)

theorem rounds_optional :
    Rounds S 0 (some 1) before w after g ↔ S before w after g ∨ w = [] ∧ g = [] := by
  constructor
  · intro h
    cases h with
    | stop => exact .inr ⟨rfl, rfl⟩
    | may _ hu hv =>
      cases hv with
      | stop => exact .inl (by simpa using hu)
      | may hmax => simp at hmax
  · rintro (h | ⟨rfl, rfl⟩)
    · have hround : Rounds S 0 (some 1) before (w ++ []) after ([] ++ g) := .may (by simp) h .stop
      rwa [List.append_nil] at hround
    · exact .stop

/-! ### Nodes that match the same words everywhere -/

/-- The node matches the words of `p`, wherever they stand, and sets the groups that `groups` tells
of the word. -/
def Node.Reads (node : Node) (p : List Char → Prop) (groups : List Char → List (Nat × List Char)) :
    Prop :=
  ∀ before w after g, node.Matches before w after g ↔ p w ∧ g = groups w

/-- No word sets a group. -/
def noGroups (_ : List Char) : List (Nat × List Char) := []

section Reads
variable {a b : Node} {p q : List Char → Prop} {groups : List Char → List (Nat × List Char)}

theorem Node.Reads.congr (h : a.Reads p groups) (hpq : ∀ w, p w ↔ q w) : a.Reads q groups :=
  fun before w after g => (h before w after g).trans (and_congr_left' (hpq w))

theorem reads_char (set : CharSet) :
    (Node.char set).Reads (fun w => ∃ x, set.holds x = true ∧ w = [x]) noGroups := by
  intro before w after g
  rw [Node.Matches]
  exact ⟨fun ⟨x, hx, hw, hg⟩ => ⟨⟨x, hx, hw⟩, hg⟩, fun ⟨⟨x, hx, hw⟩, hg⟩ => ⟨x, hx, hw, hg⟩⟩

theorem reads_chars (mode : LoopMode) (min : Nat) (set : CharSet) :
    (Node.loop mode min none (.char set)).Reads
      (fun w => min ≤ w.length ∧ ∀ x ∈ w, set.holds x = true) noGroups := by
  intro before w after g
  rw [Node.Matches, and_assoc]
  exact rounds_single (by rfl)

theorem reads_dots (mode : LoopMode) (min : Nat) :
    (Node.loop mode min none (.dot false)).Reads (fun w => min ≤ w.length ∧ '\n' ∉ w) noGroups := by
  intro before w after g
  have hdot : (∀ x ∈ w, (false || x != '\n') = true) ↔ '\n' ∉ w := by
    constructor
    · exact fun h hmem => by simpa using h _ hmem
    · rintro h x hx
      have hne : x ≠ '\n' := by
        rintro rfl
        exact h hx
      simpa using hne
  rw [Node.Matches, and_assoc, ← hdot]
  exact rounds_single (by rfl)

theorem Node.Reads.capture (h : a.Reads p groups) (group : Nat) :
    (Node.capture group a).Reads p fun w => (group, w) :: groups w := by
  intro before w after g
  constructor
  · rintro ⟨h', rfl, hw⟩
    obtain ⟨hp, rfl⟩ := (h before w after h').1 hw
    exact ⟨hp, rfl⟩
  · rintro ⟨hp, rfl⟩
    exact ⟨groups w, rfl, (h before w after _).2 ⟨hp, rfl⟩⟩

/-- A word of the first node, and a match of the second behind it. -/
theorem Node.Reads.seq_iff (h : a.Reads p groups) :
    (Node.seq a b).Matches before w after g ↔
      ∃ u v k, p u ∧ w = u ++ v ∧ g = k ++ groups u ∧
        b.Matches (u.reverse ++ before) v after k := by
  constructor
  · rintro ⟨u, v, h', k, rfl, rfl, hu, hv⟩
    obtain ⟨hp, rfl⟩ := (h before u (v ++ after) h').1 hu
    exact ⟨u, v, k, hp, rfl, rfl, hv⟩
  · rintro ⟨u, v, k, hp, rfl, rfl, hv⟩
    exact ⟨u, v, groups u, k, rfl, rfl, (h before u (v ++ after) _).2 ⟨hp, rfl⟩, hv⟩

theorem Node.Reads.silent_seq_iff (h : a.Reads p noGroups) :
    (Node.seq a b).Matches before w after g ↔
      ∃ u v, p u ∧ w = u ++ v ∧ b.Matches (u.reverse ++ before) v after g := by
  rw [h.seq_iff]
  simp [noGroups]

theorem reads_empty : Node.empty.Reads (· = []) noGroups := fun _ _ _ _ => Iff.rfl

theorem Node.Reads.seq (ha : a.Reads p noGroups) (hb : b.Reads q noGroups) :
    (Node.seq a b).Reads (fun w => ∃ u v, p u ∧ q v ∧ w = u ++ v) noGroups := by
  intro before w after g
  rw [ha.silent_seq_iff]
  constructor
  · rintro ⟨u, v, hu, rfl, hv⟩
    obtain ⟨hq, rfl⟩ := (hb _ _ _ _).1 hv
    exact ⟨⟨u, v, hu, hq, rfl⟩, rfl⟩
  · rintro ⟨⟨u, v, hu, hq, rfl⟩, rfl⟩
    exact ⟨u, v, hu, rfl, (hb _ _ _ _).2 ⟨hq, rfl⟩⟩

/-- Nothing stands behind the last node of a row. -/
theorem Node.Reads.seq_empty (h : a.Reads p noGroups) : (Node.seq a .empty).Reads p noGroups :=
  (h.seq reads_empty).congr fun w => by simp

end Reads

end Formwork.Pattern
