import Formwork.Proofs.Idl.LineEnd
import Formwork.Proofs.Idl.Nesting

/-!
The text outside blocks. A text is read in two parts, the second with the braces that the first has
left open; and where every closing brace has its partner, a scan of the text outside blocks finds
each character in the class that it had among the blocks.
-/
namespace Formwork.Idl
open Formwork.Text

/-- The number of braces that are open after marked text, `depth` being open before it. -/
def openAfter (depth : Nat) : List Marked → Nat
  | [] => depth
  | (c, l) :: cs =>
    if l = .code ∧ c = '{' then openAfter (depth + 1) cs
    else if l = .code ∧ c = '}' then openAfter (depth - 1) cs
    else openAfter depth cs

variable {mode before : Mode} {m : List Marked} {x : Marked} {depth : Nat} {text u v s : List Char}

theorem eq_brace_or (x : Marked) : x = ('{', .code) ∨ x = ('}', .code) ∨ ¬IsBrace x := by
  by_cases h : IsBrace x
  · obtain ⟨c, l⟩ := x
    obtain ⟨rfl, rfl | rfl⟩ := h
    · exact .inl rfl
    · exact .inr (.inl rfl)
  · exact .inr (.inr h)

theorem openAfter_open (depth : Nat) (m : List Marked) :
    openAfter depth (('{', .code) :: m) = openAfter (depth + 1) m := by
  simp [openAfter]

theorem openAfter_close (depth : Nat) (m : List Marked) :
    openAfter depth (('}', .code) :: m) = openAfter (depth - 1) m := by
  simp [openAfter]

theorem openAfter_cons (h : ¬IsBrace x) (depth : Nat) (m : List Marked) :
    openAfter depth (x :: m) = openAfter depth m := by
  obtain ⟨c, l⟩ := x
  have hopen : ¬(l = .code ∧ c = '{') := fun e => h ⟨e.1, .inl e.2⟩
  have hclose : ¬(l = .code ∧ c = '}') := fun e => h ⟨e.1, .inr e.2⟩
  rw [openAfter, if_neg hopen, if_neg hclose]

theorem dropBlocks_open (depth : Nat) (m : List Marked) :
    dropBlocks depth (('{', .code) :: m) = dropBlocks (depth + 1) m := by
  simp [dropBlocks]

theorem dropBlocks_close (depth : Nat) (m : List Marked) :
    dropBlocks depth (('}', .code) :: m) =
      (if depth = 1 then [';'] else []) ++ dropBlocks (depth - 1) m := by
  rcases depth with _ | _ | depth <;> simp [dropBlocks]

/-! ### Two parts of a text -/

theorem dropBlocks_append (depth : Nat) (m n : List Marked) :
    dropBlocks depth (m ++ n) = dropBlocks depth m ++ dropBlocks (openAfter depth m) n := by
  induction m generalizing depth with
  | nil => rfl
  | cons x m ih =>
    rw [List.cons_append]
    rcases eq_brace_or x with rfl | rfl | hx
    · rw [dropBlocks_open, dropBlocks_open, openAfter_open, ih]
    · rw [dropBlocks_close, dropBlocks_close, openAfter_close, ih, List.append_assoc]
    · rw [dropBlocks_cons hx, dropBlocks_cons hx, openAfter_cons hx, ih, ih]
      split
      · next h => rw [h, List.cons_append]
      · rfl

theorem matchingBraceFrom_succ_open (depth : Nat) (m : List Marked) :
    matchingBraceFrom (depth + 1) (('{', .code) :: m) =
      (matchingBraceFrom ((depth + 1 : Nat) + 1) m).map (· + 1) :=
  matchingBraceFrom_open _ _

theorem matchingBraceFrom_succ_close (depth : Nat) (m : List Marked) :
    matchingBraceFrom ((depth + 1 : Nat) + 1) (('}', .code) :: m) =
      (matchingBraceFrom (depth + 1) m).map (· + 1) := by
  rw [matchingBraceFrom_close (by omega), Int.add_sub_cancel]
  rfl

/-- A text that closes no block leaves the search for the brace to the text behind it. -/
theorem matchingBraceFrom_append_of_eq_none
    (h : matchingBraceFrom (depth + 1) m = none) (n : List Marked) :
    matchingBraceFrom (depth + 1) (m ++ n) =
      (matchingBraceFrom (openAfter depth m + 1) n).map (· + m.length) := by
  induction m generalizing depth with
  | nil => simp [openAfter]
  | cons x m ih =>
    rw [List.cons_append]
    rcases eq_brace_or x with rfl | rfl | hx
    · rw [matchingBraceFrom_succ_open, Option.map_eq_none_iff] at h
      rw [matchingBraceFrom_succ_open, openAfter_open, ih h, Option.map_map]
      rfl
    · cases depth with
      | zero => simp [matchingBraceFrom] at h
      | succ depth =>
        rw [matchingBraceFrom_succ_close, Option.map_eq_none_iff] at h
        rw [matchingBraceFrom_succ_close, openAfter_close, ih h, Option.map_map]
        rfl
    · rw [matchingBraceFrom_cons hx, Option.map_eq_none_iff] at h
      rw [matchingBraceFrom_cons hx, openAfter_cons hx, ih h, Option.map_map]
      rfl

/-! ### Scanning the text outside blocks -/

/-- Where a block is open, the semicolon that its end leaves comes next, if anything comes. -/
theorem head?_dropBlocks (depth : Nat) (m : List Marked) :
    (dropBlocks (depth + 1) m).head? = none ∨ (dropBlocks (depth + 1) m).head? = some ';' := by
  induction m generalizing depth with
  | nil => exact .inl rfl
  | cons x m ih =>
    rcases eq_brace_or x with rfl | rfl | hx
    · rw [dropBlocks_open]
      exact ih (depth + 1)
    · rw [dropBlocks_close]
      cases depth with
      | zero => exact .inr rfl
      | succ depth => exact ih depth
    · rw [dropBlocks_cons hx, if_neg (by omega)]
      exact ih depth

theorem Mode.step_semicolon (mode : Mode) (c : Char) :
    mode.step c (some ';') = mode.step c (some '{') := by
  cases mode <;> simp [step]

/-- Only code holds braces in code. -/
theorem Mode.eq_code_of_isBrace {c : Char} {next : Option Char}
    (h : (c, (mode.step c next).1) = x) (hx : IsBrace x) :
    mode = .code ∧ (mode.step c next).2 = .code := by
  subst h
  obtain ⟨hl, hc⟩ := hx
  dsimp only at hl hc
  cases mode <;> grind [Mode.step]

/-- The mode of a scan of the text outside blocks. -/
def Mode.outside (mode : Mode) : Nat → Mode
  | 0 => mode
  | _ + 1 => .code

/-- A character outside blocks reads as it does among the blocks. -/
theorem step_dropBlocks {c : Char} (hm : (mode.step c text.head?).2 = before)
    (hnone : matchingBraceFrom 1 (markFrom before text) = none) :
    mode.step c (dropBlocks 0 (markFrom before text)).head? = mode.step c text.head? := by
  cases text with
  | nil => rfl
  | cons d text =>
    rw [markFrom] at hnone ⊢
    rcases eq_brace_or (d, (before.step d text.head?).1) with hd | hd | hd
    · -- In place of the block comes its semicolon, or nothing where the block is never closed.
      obtain ⟨rfl, -⟩ := Mode.eq_code_of_isBrace hd ⟨rfl, .inl rfl⟩
      obtain rfl : d = '\x7b' := (Prod.mk.inj hd).1
      rw [hd, dropBlocks_open, List.head?_cons]
      rw [List.head?_cons] at hm
      rcases head?_dropBlocks 0 (markFrom (Mode.code.step '\x7b' text.head?).2 text) with hh | hh
      · rw [hh, Mode.step_none_eq (by decide) hm]
      · rw [hh, mode.step_semicolon]
    · rw [hd] at hnone
      simp [matchingBraceFrom] at hnone
    · rw [dropBlocks_cons hd]
      rfl

/-- Every character of a text scanned from `mode` on has `p`, which may ask for the mode before the
character and for its class. -/
def Along (p : Mode → Char → Lexeme → Prop) (mode : Mode) : List Char → Prop
  | [] => True
  | c :: cs => p mode c (mode.step c cs.head?).1 ∧ Along p (mode.step c cs.head?).2 cs

instance decidableAlong {p : Mode → Char → Lexeme → Prop} [∀ mode c l, Decidable (p mode c l)]
    (mode : Mode) : (cs : List Char) → Decidable (Along p mode cs)
  | [] => isTrue trivial
  | c :: cs =>
    have := decidableAlong (p := p) (mode.step c cs.head?).2 cs
    inferInstanceAs (Decidable (_ ∧ _))

theorem along_iff_forall (p : Lexeme → Prop) :
    Along (fun _ _ l => p l) mode text ↔ ∀ x ∈ markFrom mode text, p x.2 := by
  induction text generalizing mode with
  | nil => exact ⟨fun _ => List.forall_mem_nil _, fun _ => trivial⟩
  | cons c text ih => rw [Along, ih, markFrom, List.forall_mem_cons]

/-- Where no brace closes more than was opened, the text outside blocks has what the text among the
blocks has. It ends in the mode of the whole text, or in code where a block is left open. -/
theorem Along.dropBlocks {p : Mode → Char → Lexeme → Prop} (hsemi : p .code ';' .code)
    (h : Along p mode text)
    (hnone : matchingBraceFrom (depth + 1) (markFrom mode text) = none) :
    Along p (mode.outside depth) (dropBlocks depth (markFrom mode text)) ∧
      modeAfter (mode.outside depth) (dropBlocks depth (markFrom mode text)) =
        (modeAfter mode text).outside (openAfter depth (markFrom mode text)) := by
  induction text generalizing mode depth with
  | nil => exact ⟨trivial, rfl⟩
  | cons c text ih =>
    obtain ⟨hc, htail⟩ := h
    rw [markFrom] at hnone ⊢
    rw [modeAfter]
    rcases eq_brace_or (c, (mode.step c text.head?).1) with hbrace | hbrace | hbrace
    · obtain ⟨rfl, -⟩ := Mode.eq_code_of_isBrace hbrace ⟨rfl, .inl rfl⟩
      rw [hbrace, matchingBraceFrom_succ_open, Option.map_eq_none_iff] at hnone
      rw [hbrace, dropBlocks_open, openAfter_open]
      cases depth <;> exact ih htail hnone
    · obtain ⟨rfl, hm⟩ := Mode.eq_code_of_isBrace hbrace ⟨rfl, .inr rfl⟩
      rw [hbrace] at hnone
      rw [hbrace, dropBlocks_close, openAfter_close]
      rcases depth with _ | _ | depth
      · simp [matchingBraceFrom] at hnone
      · -- The last brace of a block leaves a semicolon, which is code like the brace.
        rw [matchingBraceFrom_succ_close, Option.map_eq_none_iff] at hnone
        obtain ⟨hrest, hmode⟩ := ih htail hnone
        rw [hm] at hrest hmode ⊢
        have hstep (next : Option Char) : Mode.code.step ';' next = (.code, .code) := by
          simp [Mode.step]
        rw [if_pos rfl, Mode.outside, List.singleton_append, Along, modeAfter, hstep]
        exact ⟨⟨hsemi, hrest⟩, hmode⟩
      · rw [matchingBraceFrom_succ_close, Option.map_eq_none_iff] at hnone
        exact ih htail hnone
    · rw [matchingBraceFrom_cons hbrace, Option.map_eq_none_iff] at hnone
      rw [dropBlocks_cons hbrace, openAfter_cons hbrace]
      obtain ⟨hrest, hmode⟩ := ih htail hnone
      cases depth with
      | zero =>
        rw [if_pos rfl, Mode.outside, Along, modeAfter, step_dropBlocks rfl hnone]
        exact ⟨⟨hc, hrest⟩, hmode⟩
      | succ depth => exact ⟨hrest, hmode⟩

/-- Where no brace closes more than was opened, and all that was opened is closed, the text outside
blocks ends in the mode of the whole text, and it holds no more block comments. -/
theorem scan_dropBlocks (hopen : openAfter depth (markFrom mode text) = 0)
    (hnone : matchingBraceFrom (depth + 1) (markFrom mode text) = none)
    (hclean : ∀ x ∈ markFrom mode text, x.2 ≠ .blockComment) :
    modeAfter (mode.outside depth) (dropBlocks depth (markFrom mode text)) = modeAfter mode text ∧
      ∀ x ∈ markFrom (mode.outside depth) (dropBlocks depth (markFrom mode text)),
        x.2 ≠ .blockComment := by
  have halong : Along (fun _ _ l => l ≠ .blockComment) mode text := (along_iff_forall _).2 hclean
  obtain ⟨hmarks, hmode⟩ := halong.dropBlocks nofun hnone
  rw [hopen] at hmode
  exact ⟨hmode, (along_iff_forall (· ≠ .blockComment)).1 hmarks⟩

/-! ### A comment at the end of a line -/

theorem not_isBrace_of_mem_remarkMarks (hx : x ∈ remarkMarks s) : ¬IsBrace x := by
  rintro ⟨hl, hc⟩
  rcases List.mem_cons.1 hx with rfl | hx
  · rcases hc with hc | hc <;> cases hc
  · obtain ⟨c, -, rfl⟩ := List.mem_map.1 hx
    cases hl

theorem dropBlocks_remarkMarks_append (s : List Char) (depth : Nat) (m : List Marked) :
    dropBlocks depth (remarkMarks s ++ m) =
      (if depth = 0 then remark s else []) ++ dropBlocks depth m := by
  have hbrace : ∀ x ∈ remarkMarks s, ¬IsBrace x := fun _ => not_isBrace_of_mem_remarkMarks
  cases depth with
  | zero => rw [dropBlocks_append_of_braceless hbrace, remarkMarks_map_fst, if_pos rfl]
  | succ depth => rw [(Balanced.of_braceless hbrace).dropBlocks_append]; rfl

theorem AtLineEnd.removeInnerBlocks (hv : AtLineEnd v) : AtLineEnd (removeInnerBlocks v) := by
  cases v with
  | nil => trivial
  | cons c v =>
    obtain rfl : c = '\n' := hv
    have hmark : mark ('\n' :: v) = ('\n', .code) :: mark v := rfl
    rw [Idl.removeInnerBlocks, hmark, dropBlocks_cons (by simp [IsBrace]), if_pos rfl]
    rfl

/-- A comment at the end of a line shows outside blocks only where the line ends outside blocks, and
there it changes this line only. -/
theorem map_lines_remark {β : Type} (f : List Char → β) (hu : modeAfter .code u = .code)
    (hs : '\n' ∉ s) (hv : AtLineEnd v)
    (hf : openAfter 0 (mark u) = 0 → ∀ l, IsLastLine l (removeInnerBlocks u) →
      f (l ++ remark s) = f l) :
    (pieces (· == '\n') (removeInnerBlocks (u ++ (remark s ++ v)))).map f =
      (pieces (· == '\n') (removeInnerBlocks (u ++ v))).map f := by
  rw [removeInnerBlocks, removeInnerBlocks, mark_append_remark_append hu hs hv,
    mark_append_of_code hu hv.detached, dropBlocks_append 0 (mark u) (remarkMarks s ++ mark v),
    dropBlocks_remarkMarks_append, dropBlocks_append 0 (mark u) (mark v)]
  by_cases h : openAfter 0 (mark u) = 0
  · rw [h, if_pos rfl]
    exact map_pieces_remark f hs hv.removeInnerBlocks (hf h)
  · rw [if_neg h, List.nil_append]

end Formwork.Idl
