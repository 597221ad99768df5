import Formwork.Idl.Scan

/-!
Written code. A text made of characters that open nothing and of complete literals leaves the scan
where it found it, so the classes of its characters do not depend on what stands around it.
-/
namespace Formwork.Idl
open Formwork.Text

/-- A backslash before every double quote and every backslash. -/
def escape : List Char → List Char
  | [] => []
  | c :: cs => if c = '"' ∨ c = '\\' then '\\' :: c :: escape cs else c :: escape cs

/-- The double-quoted form of a text. -/
def literal (cs : List Char) : List Char := '"' :: escape cs ++ ['"']

/-- A character that in code opens neither a literal nor a comment. -/
def Plain (c : Char) : Prop := c ≠ '/' ∧ c ≠ '"' ∧ c ≠ '\''

instance (c : Char) : Decidable (Plain c) :=
  inferInstanceAs (Decidable (c ≠ '/' ∧ c ≠ '"' ∧ c ≠ '\''))

/-- Code whose characters outside literals are plain and satisfy `p`; the texts of its literals hold
no line feed. -/
inductive Written (p : Char → Prop) : List Char → Prop
  | nil : Written p []
  | code {c cs} : Plain c → p c → Written p cs → Written p (c :: cs)
  | literal {s cs} : '\n' ∉ s → Written p cs → Written p (literal s ++ cs)

theorem escape_cons_of_ne {c : Char} (hq : c ≠ '"') (hb : c ≠ '\\') (cs : List Char) :
    escape (c :: cs) = c :: escape cs := by
  simp [escape, hq, hb]

theorem lineFeed_not_mem_escape {cs : List Char} (h : '\n' ∉ cs) : '\n' ∉ escape cs := by
  induction cs with
  | nil => exact h
  | cons c cs ih =>
    simp only [List.mem_cons, not_or] at h
    unfold escape
    split
    · simp [h.1, ih h.2]
    · simp [h.1, ih h.2]

theorem lineFeed_not_mem_literal {cs : List Char} (h : '\n' ∉ cs) : '\n' ∉ literal cs := by
  simp [literal, lineFeed_not_mem_escape h]

/-! ### The value of a written text -/

/-- The text with every backslash doubled. -/
def doubleBackslashes : List Char → List Char
  | [] => []
  | c :: cs => if c = '\\' then '\\' :: '\\' :: doubleBackslashes cs else c :: doubleBackslashes cs

theorem bareQuotes_cons_of_ne {c : Char} (h : c ≠ '\\') (cs : List Char) :
    bareQuotes (c :: cs) = c :: bareQuotes cs := by
  rw [bareQuotes.eq_def]
  split
  · next heq => exact (h (List.cons.inj heq).1).elim
  · next heq => rw [(List.cons.inj heq).1, (List.cons.inj heq).2]
  · next heq => cases heq

theorem bareQuotes_backslash_of_ne {c : Char} (h : c ≠ '"') (cs : List Char) :
    bareQuotes ('\\' :: c :: cs) = '\\' :: bareQuotes (c :: cs) := by
  rw [bareQuotes.eq_def]
  split
  · next heq => exact (h (List.cons.inj (List.cons.inj heq).2).1).elim
  · next heq => rw [(List.cons.inj heq).1, (List.cons.inj heq).2]
  · next heq => cases heq

theorem halveBackslashes_cons_of_ne {c : Char} (h : c ≠ '\\') (cs : List Char) :
    halveBackslashes (c :: cs) = c :: halveBackslashes cs := by
  rw [halveBackslashes.eq_def]
  split
  · next heq => exact (h (List.cons.inj heq).1).elim
  · next heq => rw [(List.cons.inj heq).1, (List.cons.inj heq).2]
  · next heq => cases heq

theorem bareQuotes_escape (cs : List Char) : bareQuotes (escape cs) = doubleBackslashes cs := by
  have backslash (ds : List Char) (h : bareQuotes (escape ds) = doubleBackslashes ds) :
      bareQuotes ('\\' :: escape ds) = '\\' :: doubleBackslashes ds := by
    cases ds with
    | nil => rfl
    | cons d ds =>
      unfold escape at h ⊢
      split at h
      · next hd =>
        rw [if_pos hd]
        rw [bareQuotes_backslash_of_ne (by decide), h]
      · next hd =>
        rw [if_neg hd]
        rw [bareQuotes_backslash_of_ne (by simp_all), h]
  induction cs with
  | nil => rfl
  | cons c cs ih =>
    by_cases hq : c = '"'
    · subst hq
      simp [escape, bareQuotes, doubleBackslashes, ih]
    · by_cases hb : c = '\\'
      · subst hb
        simp only [escape, doubleBackslashes, or_true, ↓reduceIte]
        rw [bareQuotes_backslash_of_ne (by decide), backslash cs ih]
      · rw [escape_cons_of_ne hq hb, bareQuotes_cons_of_ne hb, ih]
        simp [doubleBackslashes, hb]

theorem halveBackslashes_double (cs : List Char) : halveBackslashes (doubleBackslashes cs) = cs := by
  induction cs with
  | nil => rfl
  | cons c cs ih =>
    by_cases hb : c = '\\'
    · subst hb
      simp [doubleBackslashes, halveBackslashes, ih]
    · simp only [doubleBackslashes, hb, ↓reduceIte]
      rw [halveBackslashes_cons_of_ne hb, ih]

/-- A text is the value of its written form. -/
theorem unescapeQuoted_escape (cs : List Char) : unescapeQuoted (escape cs) = cs := by
  rw [unescapeQuoted, bareQuotes_escape, halveBackslashes_double]

/-! ### Classes of written code -/

theorem mark_map_fst (u : List Char) : (mark u).map (·.1) = u := markFrom_map_fst .code u

theorem mark_cons_of_plain {c : Char} (h : Plain c) (cs : List Char) :
    mark (c :: cs) = (c, .code) :: mark cs := by
  simp [mark, markFrom, Mode.step, h.1, h.2.1, h.2.2]

theorem mark_append_of_plain {u : List Char} (h : ∀ c ∈ u, Plain c) (v : List Char) :
    mark (u ++ v) = u.map (·, .code) ++ mark v := by
  induction u with
  | nil => rfl
  | cons c u ih =>
    rw [List.cons_append, mark_cons_of_plain (h c List.mem_cons_self),
      ih fun d hd => h d (List.mem_cons_of_mem _ hd)]
    rfl

theorem markFrom_escape_append {s : List Char} (h : '\n' ∉ s) (v : List Char) :
    markFrom (.string '"') (escape s ++ '"' :: v) =
      (escape s ++ ['"']).map (·, .string) ++ mark v := by
  induction s with
  | nil => simp [escape, markFrom, Mode.step, mark]
  | cons c s ih =>
    simp only [List.mem_cons, not_or] at h
    have hn : c ≠ '\n' := fun e => h.1 e.symm
    have ih := ih h.2
    by_cases hc : c = '"' ∨ c = '\\'
    · simp [escape, hc, markFrom, Mode.step, hn, ih]
    · simp only [escape, hc, ↓reduceIte]
      rw [not_or] at hc
      simp [markFrom, Mode.step, hn, hc, ih]

theorem mark_literal_append {s : List Char} (h : '\n' ∉ s) (v : List Char) :
    mark (literal s ++ v) = (literal s).map (·, .string) ++ mark v := by
  have hs := markFrom_escape_append h v
  simp only [List.map_append, List.map_cons, List.map_nil] at hs
  simp [literal, mark, markFrom, Mode.step] at hs ⊢
  exact hs

namespace Written

variable {p q : Char → Prop} {u v : List Char}

theorem append (hu : Written p u) (hv : Written p v) : Written p (u ++ v) := by
  induction hu with
  | nil => exact hv
  | code hc hp _ ih => exact .code hc hp ih
  | literal hn _ ih => rw [List.append_assoc]; exact .literal hn ih

theorem of_plain (h : ∀ c ∈ u, Plain c ∧ p c) : Written p u := by
  induction u with
  | nil => exact .nil
  | cons c u ih =>
    obtain ⟨hc, hp⟩ := h c List.mem_cons_self
    exact .code hc hp (ih fun d hd => h d (List.mem_cons_of_mem _ hd))

theorem mono (h : ∀ c, p c → q c) (hu : Written p u) : Written q u := by
  induction hu with
  | nil => exact .nil
  | code hc hp _ ih => exact .code hc (h _ hp) ih
  | literal hn _ ih => exact .literal hn ih

/-- What follows written code is scanned as if it stood alone. -/
theorem mark_append (hu : Written p u) (v : List Char) : mark (u ++ v) = mark u ++ mark v := by
  induction hu with
  | nil => rfl
  | code hc _ _ ih =>
    rw [List.cons_append, mark_cons_of_plain hc, mark_cons_of_plain hc, ih, List.cons_append]
  | literal hn _ ih =>
    rw [List.append_assoc, mark_literal_append hn, mark_literal_append hn, ih, List.append_assoc]

/-- Written code is code and literals; it holds no comment. -/
theorem mem_mark (hu : Written p u) {x : Marked} (hx : x ∈ mark u) :
    x.2 = .code ∧ p x.1 ∨ x.2 = .string := by
  induction hu with
  | nil => cases hx
  | code hc hp _ ih =>
    rw [mark_cons_of_plain hc] at hx
    rcases List.mem_cons.1 hx with rfl | hx
    · exact .inl ⟨rfl, hp⟩
    · exact ih hx
  | literal hn _ ih =>
    rw [mark_literal_append hn] at hx
    rcases List.mem_append.1 hx with hx | hx
    · obtain ⟨c, -, rfl⟩ := List.mem_map.1 hx
      exact .inr rfl
    · exact ih hx

theorem stripBlockComments_eq (hu : Written p u) : stripBlockComments u = u := by
  rw [stripBlockComments, List.filter_eq_self.2, mark_map_fst]
  rintro ⟨c, l⟩ hx
  rcases hu.mem_mark hx with ⟨rfl, -⟩ | rfl <;> rfl

end Written

end Formwork.Idl
