import Formwork.Proofs.Idl.Lexical

/-!
Braces in marked text. Where every brace in code has its partner, the brace that closes a block is
found behind the block's body, and a nested block leaves nothing but a semicolon.
-/
namespace Formwork.Idl

/-- A character in code that opens or closes a block. -/
def IsBrace (x : Marked) : Prop := x.2 = .code ∧ (x.1 = '{' ∨ x.1 = '}')

/-- Marked text whose braces in code come in pairs. -/
inductive Balanced : List Marked → Prop
  | nil : Balanced []
  | cons {x m} : ¬IsBrace x → Balanced m → Balanced (x :: m)
  | nest {m n} : Balanced m → Balanced n →
      Balanced (('{', .code) :: (m ++ ('}', .code) :: n))

variable {m n : List Marked} {x : Marked}

theorem Balanced.of_braceless (h : ∀ x ∈ m, ¬IsBrace x) : Balanced m := by
  induction m with
  | nil => exact .nil
  | cons x m ih =>
    exact .cons (h x List.mem_cons_self) (ih fun y hy => h y (List.mem_cons_of_mem _ hy))

theorem Balanced.append (hm : Balanced m) (hn : Balanced n) : Balanced (m ++ n) := by
  induction hm with
  | nil => exact hn
  | cons hx _ ih => exact .cons hx ih
  | nest hm _ _ ih =>
    rw [List.cons_append, List.append_assoc, List.cons_append]
    exact .nest hm ih

/-! ### The brace that closes a block -/

theorem matchingBraceFrom_cons (h : ¬IsBrace x) (depth : Int) (m : List Marked) :
    matchingBraceFrom depth (x :: m) = (matchingBraceFrom depth m).map (· + 1) := by
  obtain ⟨c, l⟩ := x
  have hopen : ¬(l = .code ∧ c = '{') := fun e => h ⟨e.1, .inl e.2⟩
  have hclose : ¬(l = .code ∧ c = '}') := fun e => h ⟨e.1, .inr e.2⟩
  rw [matchingBraceFrom, if_neg hopen, if_neg hclose]

theorem matchingBraceFrom_open (depth : Int) (m : List Marked) :
    matchingBraceFrom depth (('{', .code) :: m) =
      (matchingBraceFrom (depth + 1) m).map (· + 1) := by
  simp [matchingBraceFrom]

theorem matchingBraceFrom_close {depth : Int} (h : depth ≠ 1) (m : List Marked) :
    matchingBraceFrom depth (('}', .code) :: m) =
      (matchingBraceFrom (depth - 1) m).map (· + 1) := by
  simp [matchingBraceFrom, h]

/-- Inside a block, balanced text is passed over. -/
theorem Balanced.matchingBraceFrom_append (hm : Balanced m) {depth : Int} (hd : 1 ≤ depth)
    (rest : List Marked) :
    matchingBraceFrom depth (m ++ rest) = (matchingBraceFrom depth rest).map (· + m.length) := by
  induction hm generalizing depth rest with
  | nil => simp
  | cons hx _ ih =>
    rw [List.cons_append, matchingBraceFrom_cons hx, ih hd, Option.map_map]
    rfl
  | nest _ _ ihm ihn =>
    rw [List.cons_append, List.append_assoc, List.cons_append, matchingBraceFrom_open,
      ihm (by omega), matchingBraceFrom_close (by omega), ihn (by omega), Option.map_map,
      Option.map_map, Option.map_map]
    rw [Int.add_sub_cancel]
    congr 1
    funext k
    simp only [Function.comp_apply, List.length_cons, List.length_append]
    omega

/-- The brace after a balanced body closes the block. -/
theorem Balanced.matchingBraceFrom_block (hm : Balanced m) (rest : List Marked) :
    matchingBraceFrom 0 (('{', .code) :: (m ++ ('}', .code) :: rest)) = some (m.length + 1) := by
  rw [matchingBraceFrom_open, hm.matchingBraceFrom_append (by omega)]
  simp [matchingBraceFrom]

/-! ### Text outside blocks -/

theorem dropBlocks_cons (h : ¬IsBrace x) (depth : Nat) (m : List Marked) :
    dropBlocks depth (x :: m) =
      if depth = 0 then x.1 :: dropBlocks 0 m else dropBlocks depth m := by
  obtain ⟨c, l⟩ := x
  have hopen : ¬(l = .code ∧ c = '{') := fun e => h ⟨e.1, .inl e.2⟩
  have hclose : ¬(l = .code ∧ c = '}') := fun e => h ⟨e.1, .inr e.2⟩
  rw [dropBlocks.eq_def]
  dsimp only
  rw [if_neg hopen, if_neg hclose]

theorem dropBlocks_append_of_braceless (h : ∀ x ∈ m, ¬IsBrace x) (rest : List Marked) :
    dropBlocks 0 (m ++ rest) = m.map (·.1) ++ dropBlocks 0 rest := by
  induction m with
  | nil => rfl
  | cons x m ih =>
    rw [List.cons_append, dropBlocks_cons (h x List.mem_cons_self), if_pos rfl,
      ih fun y hy => h y (List.mem_cons_of_mem _ hy)]
    rfl

/-- Inside a block, balanced text leaves nothing behind. -/
theorem Balanced.dropBlocks_append (hm : Balanced m) (depth : Nat) (rest : List Marked) :
    dropBlocks (depth + 1) (m ++ rest) = dropBlocks (depth + 1) rest := by
  induction hm generalizing depth rest with
  | nil => rfl
  | cons hx _ ih => rw [List.cons_append, dropBlocks_cons hx, if_neg (by omega), ih]
  | nest _ _ ihm ihn =>
    rw [List.cons_append, List.append_assoc, List.cons_append]
    simp only [dropBlocks, and_self, ↓reduceIte]
    rw [ihm]
    simp only [dropBlocks, Char.reduceEq, and_false, and_self, ↓reduceIte]
    rw [ihn]

/-- A block leaves a semicolon behind. -/
theorem Balanced.dropBlocks_block (hm : Balanced m) (rest : List Marked) :
    dropBlocks 0 (('{', .code) :: (m ++ ('}', .code) :: rest)) = ';' :: dropBlocks 0 rest := by
  simp only [dropBlocks, and_self, ↓reduceIte]
  rw [hm.dropBlocks_append]
  simp only [dropBlocks, Char.reduceEq, and_false, and_self, ↓reduceIte]

end Formwork.Idl
