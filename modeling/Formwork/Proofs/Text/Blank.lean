import Formwork.Text.Blank
import Formwork.Text.Word
import Mathlib.Data.List.TakeWhile

/-!
White space, words and the cuts of a text at line feeds.
-/
namespace Formwork.Text

/-- A statement about the characters of a text is decided along the text and not over all
characters. -/
instance (priority := high) decidableForallChar {p : Char → Prop} [DecidablePred p]
    (cs : List Char) : Decidable (∀ c ∈ cs, p c) := List.decidableBAll p cs

/-- A statement about the character at an end of a text, likewise. -/
instance (priority := high) decidableForallEndChar {p : Char → Prop} [DecidablePred p]
    (end? : Option Char) : Decidable (∀ c ∈ end?, p c) := Option.decidableForallMem end?

/-- The code points of white space. -/
def blankCodes : List Nat :=
  List.range' 9 5 ++ List.range' 28 5 ++ List.range' 0x2000 11 ++
    [0x85, 0xA0, 0x1680, 0x2028, 0x2029, 0x202F, 0x205F, 0x3000]

theorem mem_blankCodes {c : Char} (h : isBlank c = true) : c.toNat ∈ blankCodes := by
  simp only [isBlank, Bool.or_eq_true, Bool.and_eq_true, decide_eq_true_eq, beq_iff_eq] at h
  simp only [blankCodes, List.mem_append, List.mem_range'_1, List.mem_cons, List.not_mem_nil,
    or_false]
  omega

/-- White space is no part of a word. -/
theorem isWord_of_isBlank {c : Char} (h : isBlank c = true) : isWord c = false := by
  have hall : ∀ n ∈ blankCodes, isWord (Char.ofNat n) = false := by decide +kernel
  rw [← Char.ofNat_toNat c]
  exact hall _ (mem_blankCodes h)

theorem isBlank_of_isWord {c : Char} (h : isWord c = true) : isBlank c = false := by
  cases hb : isBlank c with
  | false => rfl
  | true => simp [isWord_of_isBlank hb] at h

theorem isAlpha_eq (c : Char) : c.isAlpha = (c.isUpper || c.isLower) := rfl

theorem isUpper_eq (c : Char) : c.isUpper = decide (c.val ≥ 'A'.val ∧ c.val ≤ 'Z'.val) := rfl

theorem isLower_eq (c : Char) : c.isLower = (c.val ≥ 'a'.val && c.val ≤ 'z'.val) := rfl

theorem toNat_lt_of_isAsciiWord {c : Char} (h : isAsciiWord c = true) : c.toNat < 128 := by
  simp only [isAsciiWord, Char.isAlphanum, isAlpha_eq, isUpper_eq, isLower_eq, Char.isDigit,
    Bool.or_eq_true, Bool.and_eq_true, decide_eq_true_eq, beq_iff_eq, UInt32.le_iff_toNat_le,
    ge_iff_le] at h
  change (((65 ≤ c.toNat ∧ c.toNat ≤ 90) ∨ (97 ≤ c.toNat ∧ c.toNat ≤ 122)) ∨
    (48 ≤ c.toNat ∧ c.toNat ≤ 57)) ∨ c = '_' at h
  rcases h with h | rfl
  · omega
  · decide

theorem isWord_of_isAsciiWord {c : Char} (h : isAsciiWord c = true) : isWord c = true := by
  rw [isWord, if_pos (toNat_lt_of_isAsciiWord h), h]

theorem isAsciiWord_of_isNameStart {c : Char} (h : isNameStart c = true) :
    isAsciiWord c = true := by
  simp only [isNameStart, Bool.or_eq_true] at h
  rcases h with h | h <;> simp [isAsciiWord, Char.isAlphanum, h]

theorem isWord_of_isNameStart {c : Char} (h : isNameStart c = true) : isWord c = true :=
  isWord_of_isAsciiWord (isAsciiWord_of_isNameStart h)

/-! ### Stripping -/

theorem stripLeft_append {b : List Char} (h : ∀ c ∈ b, isBlank c = true) (r : List Char) :
    stripLeft (b ++ r) = stripLeft r := List.dropWhile_append_of_pos h

theorem stripLeft_cons {c : Char} (h : isBlank c = false) (cs : List Char) :
    stripLeft (c :: cs) = c :: cs := List.dropWhile_cons_of_neg (by simp [h])

theorem exists_stripLeft (cs : List Char) :
    ∃ b, (∀ c ∈ b, isBlank c = true) ∧ cs = b ++ stripLeft cs :=
  ⟨cs.takeWhile isBlank, fun _ hc => List.mem_takeWhile_imp hc,
    List.takeWhile_append_dropWhile.symm⟩

theorem stripRight_append {c : Char} (hc : isBlank c = false) (u : List Char) :
    stripRight (u ++ [c]) = u ++ [c] := by
  simp [stripRight, hc]

/-- White space in front of a text is stripped, and nothing else where both ends are visible. -/
theorem strip_append {b u : List Char} {c : Char} (hb : ∀ d ∈ b, isBlank d = true)
    (hu : ∀ d, (u ++ [c]).head? = some d → isBlank d = false) (hc : isBlank c = false) :
    strip (b ++ (u ++ [c])) = u ++ [c] := by
  have hleft : stripLeft (u ++ [c]) = u ++ [c] := by
    cases u with
    | nil => exact stripLeft_cons hc []
    | cons d u => exact stripLeft_cons (hu d rfl) _
  rw [strip, stripLeft_append hb, hleft, stripRight_append hc]

theorem strip_of_blank {b : List Char} (hb : ∀ d ∈ b, isBlank d = true) : strip b = [] := by
  have h := stripLeft_append hb []
  rw [List.append_nil] at h
  rw [strip, h]
  rfl

theorem stripLeft_append_of_ne_nil {u : List Char} (h : stripLeft u ≠ []) (r : List Char) :
    stripLeft (u ++ r) = stripLeft u ++ r := by
  have hne : ¬(u.dropWhile isBlank).isEmpty = true := fun he => h (List.isEmpty_iff.1 he)
  rw [stripLeft, List.dropWhile_append, if_neg hne]
  rfl

theorem stripRight_append_of_blank {b : List Char} (hb : ∀ c ∈ b, isBlank c = true)
    (u : List Char) : stripRight (u ++ b) = stripRight u := by
  rw [stripRight, List.reverse_append,
    List.dropWhile_append_of_pos fun c hc => hb c (List.mem_reverse.1 hc), ← stripRight]

theorem exists_stripRight (cs : List Char) :
    ∃ b, (∀ c ∈ b, isBlank c = true) ∧ cs = stripRight cs ++ b := by
  obtain ⟨b, hb, he⟩ := exists_stripLeft cs.reverse
  refine ⟨b.reverse, fun c hc => hb c (List.mem_reverse.1 hc), ?_⟩
  rw [stripRight, ← stripLeft, ← List.reverse_append, ← he, List.reverse_reverse]

theorem stripRight_append_cons {c : Char} (hc : isBlank c = false) (u r : List Char) :
    stripRight (u ++ c :: r) = u ++ c :: stripRight r := by
  have hreverse : (u ++ c :: r).reverse = r.reverse ++ c :: u.reverse := by simp
  rw [stripRight, hreverse, List.dropWhile_append, stripRight]
  split
  · next h => rw [List.dropWhile_cons_of_neg (by simp [hc]), List.isEmpty_iff.1 h]; simp
  · simp

/-- White space at the end of a text is stripped. -/
theorem strip_append_of_blank {b : List Char} (hb : ∀ c ∈ b, isBlank c = true) (u : List Char) :
    strip (u ++ b) = strip u := by
  by_cases h : stripLeft u = []
  · have hu := List.dropWhile_eq_nil_iff.1 h
    rw [strip_of_blank hu, strip_of_blank fun c hc => (List.mem_append.1 hc).elim (hu c) (hb c)]
  · rw [strip, stripLeft_append_of_ne_nil h, stripRight_append_of_blank hb, ← strip]

/-- Nothing is left of blank text only. -/
theorem strip_eq_nil_iff {cs : List Char} : strip cs = [] ↔ ∀ c ∈ cs, isBlank c = true := by
  constructor
  · intro h
    have hall : ∀ c ∈ stripLeft cs, isBlank c = true := by
      rw [strip, stripRight, List.reverse_eq_nil_iff, List.dropWhile_eq_nil_iff] at h
      exact fun c hc => h c (List.mem_reverse.2 hc)
    -- What is left on the left begins with no blank, so it is empty.
    have hnil : stripLeft cs = [] := by
      by_contra hne
      have hhead : isBlank ((stripLeft cs).head hne) = false := List.head_dropWhile_not isBlank hne
      rw [hall _ (List.head_mem hne)] at hhead
      cases hhead
    exact List.dropWhile_eq_nil_iff.1 hnil
  · exact strip_of_blank

theorem mem_of_mem_strip {c : Char} {cs : List Char} (h : c ∈ strip cs) : c ∈ cs := by
  have hright := (List.dropWhile_sublist isBlank).subset (List.mem_reverse.1 h)
  exact (List.dropWhile_sublist isBlank).subset (List.mem_reverse.1 hright)

theorem isBlank_or_mem_strip {c : Char} {cs : List Char} (h : c ∈ cs) :
    isBlank c = true ∨ c ∈ strip cs := by
  obtain ⟨a, ha, hleft⟩ := exists_stripLeft cs
  obtain ⟨b, hb, hright⟩ := exists_stripRight (stripLeft cs)
  rw [hleft, hright] at h
  rcases List.mem_append.1 h with h | h
  · exact .inl (ha c h)
  · rcases List.mem_append.1 h with h | h
    · exact .inr h
    · exact .inl (hb c h)

theorem isBlank_of_mem_head?_strip {c : Char} {cs : List Char} (h : c ∈ (strip cs).head?) :
    isBlank c = false := by
  obtain ⟨b, -, he⟩ := exists_stripRight (stripLeft cs)
  have hleft : (stripLeft cs).head? = some c := by
    rw [he, ← strip, List.head?_append, h]
    rfl
  have hhead := List.head?_dropWhile_not isBlank cs
  rw [← stripLeft, hleft] at hhead
  exact hhead

theorem isBlank_of_mem_getLast?_strip {c : Char} {cs : List Char}
    (h : c ∈ (strip cs).getLast?) : isBlank c = false := by
  rw [strip, stripRight, List.getLast?_reverse] at h
  have hhead := List.head?_dropWhile_not isBlank (stripLeft cs).reverse
  rw [h] at hhead
  exact hhead

/-- A text is stripped if its ends are visible. -/
theorem strip_eq_self_iff {cs : List Char} : strip cs = cs ↔
    (∀ c ∈ cs.head?, isBlank c = false) ∧ ∀ c ∈ cs.getLast?, isBlank c = false := by
  constructor
  · intro h
    rw [← h]
    exact ⟨fun _ => isBlank_of_mem_head?_strip, fun _ => isBlank_of_mem_getLast?_strip⟩
  · rintro ⟨hhead, hlast⟩
    rcases List.eq_nil_or_concat cs with rfl | ⟨u, c, rfl⟩
    · rfl
    · rw [List.concat_eq_append] at hhead hlast ⊢
      have h := strip_append (b := []) (u := u) (List.forall_mem_nil _) hhead
        (hlast c List.getLast?_concat)
      simpa using h

theorem strip_strip (cs : List Char) : strip (strip cs) = strip cs :=
  strip_eq_self_iff.2 ⟨fun _ => isBlank_of_mem_head?_strip, fun _ => isBlank_of_mem_getLast?_strip⟩

theorem strip_eq_stripLeft {cs : List Char} (h : ∀ c ∈ cs.getLast?, isBlank c = false) :
    strip cs = stripLeft cs := by
  obtain ⟨b, -, he⟩ := exists_stripLeft cs
  rcases List.eq_nil_or_concat (stripLeft cs) with hnil | ⟨u, c, hc⟩
  · rw [strip, hnil]
    rfl
  · rw [List.concat_eq_append] at hc
    rw [hc, ← List.append_assoc] at he
    rw [strip, hc]
    exact stripRight_append (h c (he ▸ List.getLast?_concat)) u

/-! ### Lines -/

theorem pieces_append {cut : Char → Bool} {l : List Char} (h : ∀ c ∈ l, cut c = false) {d : Char}
    (hd : cut d = true) (r : List Char) : pieces cut (l ++ d :: r) = l :: pieces cut r := by
  induction l with
  | nil => simp [pieces, hd]
  | cons c l ih =>
    rw [List.cons_append, pieces, h c List.mem_cons_self, if_neg (by simp),
      ih fun e he => h e (List.mem_cons_of_mem _ he)]

theorem pieces_eq_singleton {cut : Char → Bool} {l : List Char} (h : ∀ c ∈ l, cut c = false) :
    pieces cut l = [l] := by
  induction l with
  | nil => rfl
  | cons c l ih =>
    rw [pieces, h c List.mem_cons_self, if_neg (by simp),
      ih fun e he => h e (List.mem_cons_of_mem _ he)]

theorem pieces_ne_nil (cut : Char → Bool) (cs : List Char) : pieces cut cs ≠ [] := by
  cases cs with
  | nil => exact List.cons_ne_nil _ _
  | cons c cs =>
    rw [pieces]
    split
    · exact List.cons_ne_nil _ _
    · split <;> exact List.cons_ne_nil _ _

/-- A cut ends the pieces before it. -/
theorem pieces_append_cons {cut : Char → Bool} (u : List Char) {d : Char} (hd : cut d = true)
    (r : List Char) : pieces cut (u ++ d :: r) = pieces cut u ++ pieces cut r := by
  induction u with
  | nil => simp [pieces, hd]
  | cons c u ih =>
    rw [List.cons_append, pieces, pieces, ih]
    split
    · rfl
    · obtain ⟨p, ps, hp⟩ := List.exists_cons_of_ne_nil (pieces_ne_nil cut u)
      rw [hp]
      rfl

theorem cut_of_mem_pieces {cut : Char → Bool} {cs l : List Char} (h : l ∈ pieces cut cs) :
    ∀ c ∈ l, cut c = false := by
  induction cs generalizing l with
  | nil =>
    rw [List.mem_singleton.1 h]
    exact nofun
  | cons c cs ih =>
    rw [pieces] at h
    split at h
    · rcases List.mem_cons.1 h with rfl | h
      · exact nofun
      · exact ih h
    · next hc =>
      obtain ⟨p, ps, hp⟩ := List.exists_cons_of_ne_nil (pieces_ne_nil cut cs)
      rw [hp] at h ih
      rcases List.mem_cons.1 h with rfl | h
      · exact List.forall_mem_cons.2 ⟨Bool.eq_false_iff.2 hc, ih List.mem_cons_self⟩
      · exact ih (List.mem_cons_of_mem _ h)

theorem pieces_append_lineFeed {l : List Char} (h : '\n' ∉ l) (r : List Char) :
    pieces (· == '\n') (l ++ '\n' :: r) = l :: pieces (· == '\n') r := by
  refine pieces_append (fun c hc => ?_) rfl r
  rw [beq_eq_false_iff_ne]
  exact fun e => h (e ▸ hc)

/-- The line that a text ends in. -/
def IsLastLine (l cs : List Char) : Prop := '\n' ∉ l ∧ (cs = l ∨ ∃ u, cs = u ++ '\n' :: l)

/-- A text is cut at the last place where a character stands. -/
theorem exists_append_cons_of_mem {c : Char} {cs : List Char} (h : c ∈ cs) :
    ∃ u v, cs = u ++ c :: v ∧ c ∉ v := by
  obtain ⟨v, u, he, hv⟩ := List.eq_append_cons_of_mem (List.mem_reverse.2 h)
  refine ⟨u.reverse, v.reverse, ?_, fun hmem => hv (List.mem_reverse.1 hmem)⟩
  rw [← List.reverse_reverse cs, he]
  simp

/-- What is put behind a text is put behind its last line. -/
theorem exists_isLastLine (cs : List Char) :
    ∃ before l, IsLastLine l cs ∧
      ∀ r, pieces (· == '\n') (cs ++ r) = before ++ pieces (· == '\n') (l ++ r) := by
  by_cases h : '\n' ∈ cs
  · obtain ⟨u, l, hcs, hl⟩ := exists_append_cons_of_mem h
    refine ⟨pieces (· == '\n') u, l, ⟨hl, .inr ⟨u, hcs⟩⟩, fun r => ?_⟩
    rw [hcs, List.append_assoc, List.cons_append, pieces_append_cons _ rfl]
  · exact ⟨[], cs, ⟨h, .inl rfl⟩, fun _ => rfl⟩

end Formwork.Text
