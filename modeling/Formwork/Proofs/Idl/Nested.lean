import Formwork.Proofs.Idl.Complete
import Formwork.Proofs.Idl.Remark

/-!
The bodies of nested blocks. The body of a block ends in code and its braces come in pairs; whatever
such a body holds, the text around the block is read as if a semicolon stood in the place of the
block.
-/
namespace Formwork.Idl
open Formwork.Text

/-! ### Braces in pairs -/

/-- Marked text whose closing braces all have partners but for `depth` of them. -/
inductive Closing : Nat → List Marked → Prop
  | balanced {m} : Balanced m → Closing 0 m
  | close {depth m n} : Balanced m → Closing depth n →
      Closing (depth + 1) (m ++ ('\x7d', .code) :: n)

variable {mode : Mode} {m : List Marked} {u w w' cs : List Char} {c : Char} {depth : Nat}

theorem Closing.cons {x : Marked} (hx : ¬IsBrace x) (h : Closing depth m) :
    Closing depth (x :: m) := by
  cases h with
  | balanced hm => exact .balanced (.cons hx hm)
  | close hm hn => exact .close (.cons hx hm) hn

theorem Closing.open (h : Closing (depth + 1) m) : Closing depth (('\x7b', .code) :: m) := by
  cases h with
  | close hm hn =>
    cases hn with
    | balanced hn => exact .balanced (.nest hm hn)
    | @close _ n k hn hk =>
      have hnest := Closing.close (Balanced.nest hm hn) hk
      simpa using hnest

theorem closing_of_openAfter (hnone : matchingBraceFrom (depth + 1) m = none)
    (hopen : openAfter depth m = 0) : Closing depth m := by
  induction m generalizing depth with
  | nil =>
    obtain rfl : depth = 0 := hopen
    exact .balanced .nil
  | cons x m ih =>
    rcases eq_brace_or x with rfl | rfl | hx
    · rw [matchingBraceFrom_succ_open, Option.map_eq_none_iff] at hnone
      rw [openAfter_open] at hopen
      exact .open (ih hnone hopen)
    · cases depth with
      | zero => simp [matchingBraceFrom] at hnone
      | succ depth =>
        rw [matchingBraceFrom_succ_close, Option.map_eq_none_iff] at hnone
        rw [openAfter_close] at hopen
        exact .close .nil (ih hnone hopen)
    · rw [matchingBraceFrom_cons hx, Option.map_eq_none_iff] at hnone
      rw [openAfter_cons hx] at hopen
      exact .cons hx (ih hnone hopen)

theorem Balanced.openAfter_append (hm : Balanced m) (depth : Nat) (n : List Marked) :
    openAfter depth (m ++ n) = openAfter depth n := by
  induction hm generalizing depth n with
  | nil => rfl
  | cons hx _ ih => rw [List.cons_append, openAfter_cons hx, ih]
  | nest _ _ ihm ihn =>
    rw [List.cons_append, List.append_assoc, List.cons_append, openAfter_open, ihm,
      openAfter_close, ihn, Nat.add_sub_cancel]

/-- Braces come in pairs where none closes more than was opened, and all that was opened is
closed. -/
theorem balanced_iff : Balanced m ↔ matchingBraceFrom 1 m = none ∧ openAfter 0 m = 0 := by
  constructor
  · intro hm
    have hnone := hm.matchingBraceFrom_append (Int.le_refl 1) []
    have hopen := hm.openAfter_append 0 []
    rw [List.append_nil] at hnone hopen
    exact ⟨hnone, hopen⟩
  · rintro ⟨hnone, hopen⟩
    have hclosing : Closing 0 m := closing_of_openAfter hnone hopen
    cases hclosing with
    | balanced hm => exact hm

instance (m : List Marked) : Decidable (Balanced m) := decidable_of_iff _ balanced_iff.symm

/-! ### The bodies of blocks -/

/-- A text that may stand between the braces of a block: it ends in code, and its braces come in
pairs. -/
structure IsNested (w : List Char) : Prop where
  closed : modeAfter .code w = .code
  balanced : Balanced (mark w)

instance (w : List Char) : Decidable (IsNested w) :=
  decidable_of_iff (modeAfter .code w = .code ∧ Balanced (mark w))
    ⟨fun h => ⟨h.1, h.2⟩, fun h => ⟨h.closed, h.balanced⟩⟩

/-- The text before a closing brace is scanned as if it stood alone. -/
theorem markFrom_brace (h : markFrom mode cs = m ++ ('\x7d', .code) :: n) :
    markFrom mode (m.map (·.1)) = m ∧ modeAfter mode (m.map (·.1)) = .code := by
  induction m generalizing mode cs with
  | nil =>
    cases cs with
    | nil => cases h
    | cons d cs =>
      rw [markFrom, List.nil_append] at h
      exact ⟨rfl, (Mode.eq_code_of_isBrace (List.cons.inj h).1 ⟨rfl, .inr rfl⟩).1⟩
  | cons x m ih =>
    cases cs with
    | nil => cases h
    | cons d cs =>
      rw [markFrom, List.cons_append] at h
      obtain ⟨rfl, htail⟩ := List.cons.inj h
      obtain ⟨hmarks, hmode⟩ := ih htail
      have hchars := markFrom_map_fst (mode.step d cs.head?).2 cs
      rw [htail, List.map_append, List.map_cons] at hchars
      have hstep : mode.step d (m.map (·.1)).head? = mode.step d cs.head? := by
        cases m with
        | nil =>
          rw [← hchars] at hmode ⊢
          exact Mode.step_none_eq (by decide) hmode
        | cons y m =>
          rw [← hchars]
          rfl
      rw [List.map_cons, markFrom, modeAfter, hstep, hmarks]
      exact ⟨rfl, hmode⟩

/-- What stands before the brace that closes a block. -/
theorem matchingBraceFrom_eq_some {depth count : Nat}
    (h : matchingBraceFrom (depth + 1) m = some count) :
    ∃ m' n, m = m' ++ ('\x7d', .code) :: n ∧ m' = m.take count ∧
      matchingBraceFrom (depth + 1) m' = none ∧ openAfter depth m' = 0 := by
  induction m generalizing depth count with
  | nil => cases h
  | cons x m ih =>
    rcases eq_brace_or x with rfl | rfl | hx
    · rw [matchingBraceFrom_succ_open] at h
      obtain ⟨count, hcount, rfl⟩ := Option.map_eq_some_iff.1 h
      obtain ⟨m', n, rfl, hm', hnone, hopen⟩ := ih hcount
      refine ⟨('\x7b', .code) :: m', n, rfl, by rw [List.take_succ_cons, ← hm'], ?_, ?_⟩
      · rw [matchingBraceFrom_succ_open, hnone]
        rfl
      · rwa [openAfter_open]
    · cases depth with
      | zero =>
        obtain rfl : 0 = count := by simpa [matchingBraceFrom] using h
        exact ⟨[], m, rfl, rfl, rfl, rfl⟩
      | succ depth =>
        rw [matchingBraceFrom_succ_close] at h
        obtain ⟨count, hcount, rfl⟩ := Option.map_eq_some_iff.1 h
        obtain ⟨m', n, rfl, hm', hnone, hopen⟩ := ih hcount
        refine ⟨('\x7d', .code) :: m', n, rfl, by rw [List.take_succ_cons, ← hm'], ?_, ?_⟩
        · rw [matchingBraceFrom_succ_close, hnone]
          rfl
        · rwa [openAfter_close]
    · rw [matchingBraceFrom_cons hx] at h
      obtain ⟨count, hcount, rfl⟩ := Option.map_eq_some_iff.1 h
      obtain ⟨m', n, rfl, hm', hnone, hopen⟩ := ih hcount
      refine ⟨x :: m', n, rfl, by rw [List.take_succ_cons, ← hm'], ?_, ?_⟩
      · rw [matchingBraceFrom_cons hx, hnone]
        rfl
      · rwa [openAfter_cons hx]

theorem exists_of_mem_blockAt {k : List Char} {afterWord : Bool} {position count : Nat}
    {name : List Char} (hk : IsName k)
    (hh : headerAt? k afterWord c (markFrom (mode.step c cs.head?).2 cs) = some (name, count))
    {b : Block} (hb : b ∈ blockAt position name count (markFrom mode (c :: cs))) :
    ∃ p n, markFrom mode (c :: cs) =
        p ++ ('\x7b', .code) :: (mark b.body ++ ('\x7d', .code) :: n) ∧ IsNested b.body := by
  rw [blockAt] at hb
  split at hb
  · next length hlength =>
    rw [List.mem_singleton.1 hb]
    split at hlength
    · next hcode =>
      have hl : (mode.step c cs.head?).1 = .code := by simpa [markFrom] using hcode
      obtain ⟨u, hdrop, -⟩ := drop_of_headerAt? hk hh hl
      rw [hdrop, matchingBraceFrom_open] at hlength
      obtain ⟨length, hn, rfl⟩ := Option.map_eq_some_iff.1 hlength
      obtain ⟨m', n, hu, hm', hnone, hopen⟩ := matchingBraceFrom_eq_some hn
      obtain ⟨hmark, hmode⟩ := markFrom_brace hu
      rw [← mark] at hmark
      have htext : (((markFrom mode (c :: cs)).drop count).take (length + 1)).drop 1 = m' := by
        rw [hdrop, List.take_succ_cons, List.drop_succ_cons, List.drop_zero, hm']
      have hsplit := List.take_append_drop count (markFrom mode (c :: cs))
      rw [hdrop, hu] at hsplit
      rw [htext, hmark]
      exact ⟨_, n, hsplit.symm, hmode, hmark.symm ▸ balanced_iff.2 ⟨hnone, hopen⟩⟩
    · cases hlength
  · cases hb

/-- Every block stands between its braces, and its body is scanned as if it stood alone. -/
theorem exists_of_mem_blocksFrom {k : List Char} {afterWord : Bool} {position : Nat}
    (hk : IsName k) {b : Block}
    (hb : b ∈ blocksFrom k position afterWord 0 (markFrom mode cs)) :
    ∃ p n, markFrom mode cs =
        p ++ ('\x7b', .code) :: (mark b.body ++ ('\x7d', .code) :: n) ∧ IsNested b.body := by
  induction cs generalizing mode position afterWord with
  | nil => cases hb
  | cons c cs ih =>
    rw [markFrom, blocksFrom_cons hk] at hb
    rcases List.mem_append.1 hb with hb | hb
    · split at hb
      · next name count hh => exact exists_of_mem_blockAt hk hh hb
      · cases hb
    · obtain ⟨p, n, hsplit, hnested⟩ := ih hb
      exact ⟨_ :: p, n, by rw [markFrom, hsplit, List.cons_append], hnested⟩

/-! ### The text in the place of a block -/

theorem IsNested.mark_block (hw : IsNested w) (v : List Char) :
    mark ('\x7b' :: (w ++ '\x7d' :: v)) =
      ('\x7b', .code) :: (mark w ++ ('\x7d', .code) :: mark v) := by
  rw [mark_cons_of_plain (by decide), mark_append_of_code hw.closed (detached_cons (by decide) v),
    mark_cons_of_plain (by decide)]

/-- A block in code leaves what a semicolon in its place leaves, also within another block. -/
theorem IsNested.removeInnerBlocks_block (hw : IsNested w) (hu : modeAfter .code u = .code)
    (v : List Char) :
    removeInnerBlocks (u ++ '\x7b' :: (w ++ '\x7d' :: v)) = removeInnerBlocks (u ++ ';' :: v) := by
  have hsemi : ¬IsBrace (';', .code) := by simp [IsBrace]
  rw [removeInnerBlocks, removeInnerBlocks, mark_append_of_code hu (detached_cons (by decide) _),
    mark_append_of_code hu (detached_cons (by decide) _), hw.mark_block,
    mark_cons_of_plain (by decide), dropBlocks_append, dropBlocks_append, dropBlocks_open,
    hw.balanced.dropBlocks_append, dropBlocks_close, dropBlocks_cons hsemi]
  cases openAfter 0 (mark u) <;> rfl

/-- Nested blocks do not leak: the declarations around a block, with their comments, are the same
whatever the block holds. They are those of the text with a semicolon in the place of the block. -/
theorem statements_nested (hu : modeAfter .code u = .code) (hw : IsNested w) (hw' : IsNested w')
    (v : List Char) :
    statements (u ++ '\x7b' :: (w ++ '\x7d' :: v)) =
        statements (u ++ '\x7b' :: (w' ++ '\x7d' :: v)) ∧
      statements (u ++ '\x7b' :: (w ++ '\x7d' :: v)) = statements (u ++ ';' :: v) := by
  have hblock {w : List Char} (hw : IsNested w) :
      statements (u ++ '\x7b' :: (w ++ '\x7d' :: v)) = statements (u ++ ';' :: v) := by
    rw [statements, statements, hw.removeInnerBlocks_block hu]
  exact ⟨(hblock hw).trans (hblock hw').symm, hblock hw⟩

/-- Text around a block, with a comment above a declaration and an enum to come. -/
def outerText : List Char := "string a = 1; // beside\n// above\nenum E ".toList

/-- A body with braces in a literal and in comments, and with a block of its own. -/
def innerText : List Char :=
  " string s = 2 [x = \"\x7d\"]; // \x7d \"\n /* \x7b */ enum F \x7b A = 0; \x7d\n".toList

theorem statements_nested_outerText :
    modeAfter .code outerText = .code ∧ IsNested innerText ∧ IsNested [] ∧
      statements (outerText ++ '\x7b' :: (innerText ++ '\x7d' :: " string b = 3;".toList)) =
        [⟨"string a = 1;".toList, [], ["beside".toList]⟩,
          ⟨"enum E ;".toList, ["above".toList], []⟩, ⟨"string b = 3;".toList, [], []⟩] := by
  have hu : modeAfter .code outerText = .code := by decide +kernel
  have hw : IsNested innerText := by decide +kernel
  have hw' : IsNested [] := by decide
  have hempty : statements (outerText ++ ';' :: " string b = 3;".toList) =
      [⟨"string a = 1;".toList, [], ["beside".toList]⟩,
        ⟨"enum E ;".toList, ["above".toList], []⟩, ⟨"string b = 3;".toList, [], []⟩] := by
    decide +kernel
  exact ⟨hu, hw, hw', (statements_nested hu hw hw' _).2.trans hempty⟩

end Formwork.Idl
