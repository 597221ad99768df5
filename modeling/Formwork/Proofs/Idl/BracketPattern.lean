import Formwork.Proofs.Idl.DirectiveOrder
import Formwork.Proofs.Idl.QuotedContent

/-!
Patterns in option lists. Reading an entry resolves the escapes of its literal, and when the pattern
is put to use its doubled backslashes are made single once more. So a pattern comes back as it was
written exactly if it has no two backslashes side by side.
-/
namespace Formwork.Idl
open Formwork.Text Formwork.Pattern

variable {p : List Char}

/-! ### Doubled backslashes -/

theorem length_halveBackslashes_le (cs : List Char) : (halveBackslashes cs).length ≤ cs.length := by
  fun_induction halveBackslashes cs with
  | case1 cs ih => exact Nat.succ_le_succ (Nat.le_succ_of_le ih)
  | case2 c cs _ ih => exact Nat.succ_le_succ ih
  | case3 => rfl

/-- A text with two backslashes side by side gets shorter. -/
theorem length_halveBackslashes_lt (h : ['\\', '\\'] <:+: p) :
    (halveBackslashes p).length < p.length := by
  fun_induction halveBackslashes p with
  | case1 cs _ => exact Nat.succ_lt_succ (Nat.lt_succ_of_le (length_halveBackslashes_le cs))
  | case2 c cs hne ih =>
    rcases List.infix_cons_iff.1 h with hprefix | hinfix
    · obtain ⟨rfl, t, rfl⟩ := List.cons_prefix_cons.1 hprefix
      exact (hne t rfl rfl).elim
    · exact Nat.succ_lt_succ (ih hinfix)
  | case3 => exact absurd (List.infix_nil.1 h) (by decide)

theorem halveBackslashes_eq_self_iff : halveBackslashes p = p ↔ ¬['\\', '\\'] <:+: p := by
  refine ⟨fun heq h => ?_, halveBackslashes_eq_self⟩
  exact (length_halveBackslashes_lt h).ne (congrArg List.length heq)

/-! ### An entry with a pattern -/

/-- The option list with one entry, which sets a pattern. -/
def patternEntry (p : List Char) : List Char := keyed "ui_pattern" (literal p)

theorem patternEntry_eq (p : List Char) :
    patternEntry p = entryList [',', ' '] [.text "ui_pattern" p] := by
  rw [entryList, moreEntries, List.append_nil]
  rfl

/-- The entry gives the text that was written, whatever the text spells. -/
theorem entryText?_patternEntry (p : List Char) :
    entryText? "ui_pattern" (patternEntry p) = some p := by
  have hkey : ∀ e ∈ [Entry.text "ui_pattern" p], IsKey e.key.toList :=
    List.forall_mem_singleton.2 (isKey_of_mem_optionKeys (k := "ui_pattern") (by decide))
  rw [patternEntry_eq, entryText?_entryList separates_comma (by decide) hkey]
  rfl

/-- The pattern of the option list is what its text is normalized to. -/
theorem pattern_patternEntry (hp : p ≠ []) :
    (optionMeta (patternEntry p)).map FieldMeta.pattern =
      (Pattern.normalize p).map (Option.map String.ofList) := by
  have htext : (some p).filter (!·.isEmpty) = some p := by simpa [Option.filter] using hp
  rw [optionMeta, entryText?_patternEntry, htext]
  dsimp only
  cases Pattern.normalize p <;> rfl

theorem normalize_of_read {node : Node} (h : Pattern.read (halveBackslashes p) = .ok node) :
    Pattern.normalize p = .ok (some (halveBackslashes p)) := by
  simp only [Pattern.normalize, h]

/-- A text that is kept is kept with its doubled backslashes made single. -/
theorem eq_halveBackslashes_of_normalize {q : List Char} (h : Pattern.normalize p = .ok (some q)) :
    q = halveBackslashes p := by
  rw [Pattern.normalize] at h
  cases hread : Pattern.read (halveBackslashes p) with
  | ok node =>
    rw [hread] at h
    exact (Option.some.inj (Except.ok.inj h)).symm
  | error fault =>
    rw [hread] at h
    cases fault <;> cases h

/-- An entry with an expression comes back as the expression with its doubled backslashes made
single, if that is an expression; so it comes back as it was written exactly if no two backslashes
are side by side. Any expression comes back from an entry that has its backslashes doubled. -/
theorem pattern_bracketed {node : Node} (hp : p ≠ []) (hread : Pattern.read p = .ok node) :
    ((optionMeta (patternEntry p)).map FieldMeta.pattern = .ok (some (String.ofList p)) ↔
        ¬['\\', '\\'] <:+: p) ∧
      (optionMeta (patternEntry p)).map FieldMeta.pattern =
        (match Pattern.read (halveBackslashes p) with
        | .ok _ => .ok (some (String.ofList (halveBackslashes p)))
        | .error .malformed => .ok none
        | .error fault => .error fault) ∧
      (optionMeta (patternEntry (doubleBackslashes p))).map FieldMeta.pattern =
        .ok (some (String.ofList p)) := by
  rw [pattern_patternEntry hp, ← halveBackslashes_eq_self_iff]
  refine ⟨⟨fun h => ?_, fun h => ?_⟩, ?_, ?_⟩
  · cases hnorm : Pattern.normalize p with
    | error fault => simp [hnorm, Except.map] at h
    | ok q =>
      rw [hnorm] at h
      obtain ⟨q, rfl, hq⟩ := Option.map_eq_some_iff.1 (Except.ok.inj h)
      rw [← eq_halveBackslashes_of_normalize hnorm, String.ofList_injective hq]
  · have hback : Pattern.read (halveBackslashes p) = .ok node := by rw [h, hread]
    rw [normalize_of_read hback, h]
    rfl
  · rw [Pattern.normalize]
    cases Pattern.read (halveBackslashes p) with
    | ok node => rfl
    | error fault => cases fault <;> rfl
  · have hdouble : doubleBackslashes p ≠ [] := by
      intro hnil
      rw [← halveBackslashes_double p, hnil] at hp
      exact hp rfl
    have hback : Pattern.read (halveBackslashes (doubleBackslashes p)) = .ok node := by
      rw [halveBackslashes_double, hread]
    rw [pattern_patternEntry hdouble, normalize_of_read hback, halveBackslashes_double]
    rfl

/-- An expression with one backslash at a time. -/
def digits : List Char := ['^', '\\', 'd', '+', '$']

theorem pattern_bracketed_digits :
    digits ≠ [] ∧ (∃ node, Pattern.read digits = .ok node) ∧
      patternEntry digits = "(ui_pattern) = \"^\\\\d+$\"".toList ∧
      (optionMeta (patternEntry digits)).map FieldMeta.pattern = .ok (some "^\\d+$") := by
  obtain ⟨node, hread⟩ : ∃ node, Pattern.read digits = .ok node := ⟨_, rfl⟩
  have hback := (pattern_bracketed (by decide) hread).1.2 (by decide)
  exact ⟨by decide, ⟨node, hread⟩, by decide, hback⟩

/-- A backslash between two letters. -/
def slashed : List Char := ['a', '\\', '\\', 'b']

/-- It comes back as the edge of a word between the letters. -/
theorem not_pattern_bracketed_slashed :
    ¬∀ (p : List Char) (node : Node), p ≠ [] → '\n' ∉ p → Pattern.read p = .ok node →
      (optionMeta (patternEntry p)).map FieldMeta.pattern = .ok (some (String.ofList p)) := by
  intro h
  obtain ⟨node, hread⟩ : ∃ node, Pattern.read slashed = .ok node := ⟨_, rfl⟩
  have hkept := h slashed node (by decide) (by decide) hread
  have hedge : Pattern.normalize slashed = .ok (some ['a', '\\', 'b']) := rfl
  rw [pattern_patternEntry (by decide), hedge] at hkept
  exact absurd (Except.ok.inj hkept) (by decide)

end Formwork.Idl
