import Formwork.Text.Fold
import Formwork.Proofs.Text.Blank

/-!
Letters without regard to case. What counts as a character of an ASCII word is a word character
itself, so a word in any case ends where its characters end.
-/
namespace Formwork.Text

/-- The code points of ASCII words. -/
def wordCodes : List Nat := (List.range 128).filter fun n => isAsciiWord (Char.ofNat n)

/-- The letters that count as a character of an ASCII word. -/
def wordVariants : List Nat := wordCodes.flatMap fun n => Fold.unicode.variants (asciiLower n)

variable {c d : Char}

theorem mem_wordCodes (h : isAsciiWord c = true) : c.toNat ∈ wordCodes := by
  rw [wordCodes, List.mem_filter, List.mem_range, Char.ofNat_toNat]
  exact ⟨toNat_lt_of_isAsciiWord h, h⟩

theorem isAsciiWord_asciiLower :
    ∀ n < 128, isAsciiWord (Char.ofNat (asciiLower n)) = isAsciiWord (Char.ofNat n) := by
  decide

/-- A letter above ASCII whose lower case counts as a character of an ASCII word. -/
theorem isWord_of_unicodeLower (hc : 128 ≤ c.toNat) (h : unicodeLower c.toNat ∈ wordVariants) :
    isWord c = true := by
  -- Few runs lead to letters that low.
  have hshifted : ∀ r ∈ lowerRuns, r.first + r.shift ≤ 383 → ∀ v ∈ wordVariants,
      r.first ≤ ((v : Int) - r.shift).toNat → ((v : Int) - r.shift).toNat ≤ r.last →
        isWord (Char.ofNat ((v : Int) - r.shift).toNat) = true := by
    decide +kernel
  have hown : ∀ v ∈ wordVariants, 128 ≤ v → isWord (Char.ofNat v) = true := by decide +kernel
  have hrange : ∀ v ∈ wordVariants, 0 < v ∧ v ≤ 383 := by decide +kernel
  rw [unicodeLower, if_neg (by omega)] at h
  split at h
  · next he =>
    rw [← Char.ofNat_toNat c, he]
    decide
  · rw [CaseRun.apply] at h
    split at h
    · next r hr =>
      have hbounds := List.find?_some hr
      simp only [Bool.and_eq_true, decide_eq_true_eq] at hbounds
      obtain ⟨hpos, hle⟩ := hrange _ h
      have hcode : (((c.toNat + r.shift).toNat : Int) - r.shift).toNat = c.toNat := by omega
      have hword := hshifted r (List.mem_of_find?_eq_some hr) (by omega) _ h
      rw [hcode, Char.ofNat_toNat] at hword
      exact hword hbounds.1.1 hbounds.1.2
    · have hword := hown _ h hc
      rwa [Char.ofNat_toNat] at hword

/-- What counts as a character of an ASCII word is a word character. -/
theorem isWord_of_same (hd : isAsciiWord d = true)
    (h : Fold.unicode.same d.toNat c.toNat = true) : isWord c = true := by
  have hlt := toNat_lt_of_isAsciiWord hd
  by_cases hc : c.toNat < 128
  · have hlower : asciiLower d.toNat = asciiLower c.toNat := by
      simpa [Fold.same, hlt, hc] using h
    have hword := isAsciiWord_asciiLower _ hc
    rw [← hlower, isAsciiWord_asciiLower _ hlt, Char.ofNat_toNat, Char.ofNat_toNat, hd] at hword
    exact isWord_of_isAsciiWord hword.symm
  · have hlower : Fold.unicode.lower d.toNat = asciiLower d.toNat := if_pos hlt
    unfold Fold.same at h
    rw [if_neg (by omega), hlower, List.contains_iff_mem] at h
    exact isWord_of_unicodeLower (Nat.le_of_not_lt hc)
      (List.mem_flatMap.2 ⟨_, mem_wordCodes hd, h⟩)

/-- A character that belongs to no word counts as no character of one. -/
theorem same_eq_false (hd : isAsciiWord d = true) (hc : isWord c = false) :
    Fold.unicode.same d.toNat c.toNat = false := by
  cases h : Fold.unicode.same d.toNat c.toNat with
  | false => rfl
  | true => rw [isWord_of_same hd h] at hc; cases hc

/-! ### Words -/

variable {w x y r : List Char}

theorem dropFolded?_suffix (h : dropFolded? w x = some y) : y <:+ x := by
  induction w generalizing x with
  | nil => exact Option.some.inj h ▸ List.suffix_rfl
  | cons d w ih =>
    cases x with
    | nil => cases h
    | cons c x =>
      rw [dropFolded?] at h
      split at h
      · exact (ih h).trans (List.suffix_cons c x)
      · cases h

/-- A word is read before a text that goes on with no word character as it is read alone. -/
theorem dropFolded?_append_of_not_word (hw : ∀ c ∈ w, isAsciiWord c = true)
    (hr : r.head?.any isWord = false) (x : List Char) :
    dropFolded? w (x ++ r) = (dropFolded? w x).map (· ++ r) := by
  induction w generalizing x with
  | nil => rfl
  | cons d w ih =>
    obtain ⟨hd, hw⟩ := List.forall_mem_cons.1 hw
    cases x with
    | nil =>
      cases r with
      | nil => rfl
      | cons c r =>
        have hsame := same_eq_false hd (c := c) hr
        have hnil : dropFolded? (d :: w) [] = none := rfl
        rw [List.nil_append, hnil, dropFolded?, if_neg (by rw [hsame]; exact Bool.false_ne_true)]
        rfl
    | cons c x =>
      rw [List.cons_append, dropFolded?, dropFolded?]
      split
      · exact ih hw x
      · rfl

/-- A letter that begins a name is a word character. -/
theorem isWord_of_beginsName (h : beginsName c = true) : isWord c = true := by
  simp only [beginsName, Bool.or_eq_true, beq_iff_eq] at h
  rcases h with ((((h | rfl) | rfl) | rfl) | rfl) | h
  · exact isWord_of_isNameStart (by simp [isNameStart, h])
  · decide
  · decide
  · decide
  · decide
  · refine isWord_of_same (d := 'k') (by decide) ?_
    rw [h]
    decide

/-! ### Exact comparison -/

theorem Fold.same_exact (m n : Nat) : Fold.exact.same m n = (m == n) := by
  rw [Fold.same, Bool.eq_iff_iff]
  split
  · rfl
  · change [m].contains n = true ↔ _
    rw [List.contains_iff_mem, List.mem_singleton, beq_iff_eq, eq_comm]

theorem Fold.within_exact (lo hi n : Nat) :
    Fold.exact.within lo hi n = (decide (lo ≤ n) && decide (n ≤ hi)) := by
  simp only [Fold.within, Fold.lower, Fold.variants, Fold.sources, List.any_cons, List.any_nil,
    Bool.or_false]

theorem isUpper_eq_within (c : Char) : c.isUpper = Fold.exact.within 65 90 c.toNat := by
  rw [Fold.within_exact, isUpper_eq, Bool.decide_and]
  rfl

theorem isLower_eq_within (c : Char) : c.isLower = Fold.exact.within 97 122 c.toNat := by
  rw [Fold.within_exact, isLower_eq]
  rfl

theorem isDigit_eq_within (c : Char) : c.isDigit = Fold.exact.within 48 57 c.toNat := by
  rw [Fold.within_exact, Char.isDigit]
  rfl

theorem beq_eq_same (c d : Char) : (d == c) = Fold.exact.same c.toNat d.toNat := by
  rw [Fold.same_exact, Bool.eq_iff_iff, beq_iff_eq, beq_iff_eq, Char.toNat_inj, eq_comm]

end Formwork.Text
