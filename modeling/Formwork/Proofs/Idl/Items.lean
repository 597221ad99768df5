import Formwork.Proofs.Idl.Layout

/-!
Written items. Their braces are balanced, their blocks are found in the order of their headers, and
in the body of each block every item stands for one statement.
-/
namespace Formwork.Idl
open Formwork.Text Formwork.Pattern

theorem isName_message : IsName "message".toList := by decide

theorem isName_enum : IsName "enum".toList := by decide

/-- What an item leaves in the block around it, without the semicolon. -/
def Item.residue : Item → List Char
  | .field f => f.write
  | .message name _ => front "message".toList name.toList
  | .enumeration name _ => front "enum".toList name.toList

/-- The lines of the members of an enumeration. -/
def memberLines (depth : Nat) (members : List SourceMember) : List Char :=
  members.flatMap fun m => lineOf depth m.write

theorem memberLines_eq (depth : Nat) (members : List SourceMember) :
    memberLines depth members = (members.map (·.write)).flatMap (lineOf depth) := by
  rw [memberLines, List.flatMap_map]

variable {k : List Char} {members : List SourceMember}

theorem isDeclaration_members (h : ∀ m ∈ members, m.Valid) :
    ∀ u ∈ members.map (·.write), IsDeclaration u := by
  intro u hu
  obtain ⟨m, hm, rfl⟩ := List.mem_map.1 hu
  exact (h m hm).isDeclaration

theorem written_memberLines (h : ∀ m ∈ members, m.Valid) (depth : Nat) :
    Written Braceless (memberLines depth members) := by
  rw [memberLines_eq]
  exact written_lines (isDeclaration_members h) depth

theorem Item.Valid.isDeclaration {i : Item} (h : i.Valid) : IsDeclaration i.residue := by
  cases i with
  | field f => exact SourceField.Valid.isDeclaration h
  | message name items => exact isDeclaration_front isName_message h.1
  | enumeration name members => exact isDeclaration_front isName_enum h.1

theorem ItemsValid.mem {items : List Item} (h : ItemsValid items) : ∀ i ∈ items, i.Valid := by
  induction items with
  | nil => simp
  | cons i items ih =>
    intro j hj
    rcases List.mem_cons.1 hj with rfl | hj
    · exact h.1
    · exact ih h.2 j hj

theorem ItemsValid.isDeclaration {items : List Item} (h : ItemsValid items) :
    ∀ u ∈ items.map Item.residue, IsDeclaration u := by
  intro u hu
  obtain ⟨i, hi, rfl⟩ := List.mem_map.1 hu
  exact (h.mem i hi).isDeclaration

/-! ### Classes of written items -/

mutual

theorem Item.Valid.written : {i : Item} → i.Valid → (depth : Nat) →
    Written (fun _ => True) (i.write depth)
  | .field _, h, depth =>
    ((SourceField.Valid.isDeclaration h).written_lineOf depth).mono fun _ _ => trivial
  | .message _ _, h, depth => (h.2.written (depth + 1)).blockOf isName_message h.1 depth
  | .enumeration _ _, h, depth =>
    ((written_memberLines h.2 (depth + 1)).mono fun _ _ => trivial).blockOf isName_enum h.1 depth

theorem ItemsValid.written : {items : List Item} → ItemsValid items → (depth : Nat) →
    Written (fun _ => True) (writeItems depth items)
  | [], _, _ => .nil
  | _ :: _, h, depth => (h.1.written depth).append (h.2.written depth)

end

mutual

theorem Item.Valid.balanced : {i : Item} → i.Valid → (depth : Nat) → Balanced (mark (i.write depth))
  | .field _, h, depth =>
    .of_braceless ((SourceField.Valid.isDeclaration h).written_lineOf depth).braceless
  | .message _ _, h, depth =>
    (h.2.balanced (depth + 1)).blockOf isName_message h.1 (h.2.written (depth + 1)) depth
  | .enumeration _ _, h, depth =>
    have hw := written_memberLines h.2 (depth + 1)
    (Balanced.of_braceless hw.braceless).blockOf isName_enum h.1 (hw.mono fun _ _ => trivial) depth

theorem ItemsValid.balanced : {items : List Item} → ItemsValid items → (depth : Nat) →
    Balanced (mark (writeItems depth items))
  | [], _, _ => .nil
  | i :: items, h, depth => by
    rw [writeItems, (h.1.written depth).mark_append]
    exact (h.1.balanced depth).append (h.2.balanced depth)

end

/-! ### Blocks of written items -/

mutual

/-- The names and the bodies of the blocks of an item that a keyword opens. -/
def Item.bodies (k : List Char) (depth : Nat) : Item → List (List Char × List Char)
  | .field _ => []
  | .message name items =>
    opened k depth "message" name (writeItems (depth + 1) items) ++ bodiesOf k (depth + 1) items
  | .enumeration name members => opened k depth "enum" name (memberLines (depth + 1) members)

/-- The names and the bodies of the blocks of items that a keyword opens. -/
def bodiesOf (k : List Char) (depth : Nat) : List Item → List (List Char × List Char)
  | [] => []
  | i :: items => i.bodies k depth ++ bodiesOf k depth items

end

mutual

theorem Item.Valid.outline_write (hk : IsName k) : {i : Item} → i.Valid → (depth : Nat) →
    (m : List Marked) →
    outline k false (mark (i.write depth) ++ m) = i.bodies k depth ++ outline k false m
  | .field _, h, depth, m => (SourceField.Valid.isDeclaration h).outline_lineOf hk depth m
  | .message _ _, h, depth, m => by
    rw [Item.write, outline_blockOf hk isName_message h.1 (h.2.written (depth + 1))
      (h.2.balanced (depth + 1)) (h.2.outline_write hk (depth + 1)), Item.bodies,
      List.append_assoc]
  | .enumeration name members, h, depth, m => by
    have hw := written_memberLines h.2 (depth + 1)
    have hadded (m : List Marked) : outline k false (mark (memberLines (depth + 1) members) ++ m)
        = [] ++ outline k false m := by
      rw [memberLines_eq, outline_lines (isDeclaration_members h.2) hk]
      rfl
    rw [Item.write, ← memberLines, outline_blockOf hk isName_enum h.1 (hw.mono fun _ _ => trivial)
      (.of_braceless hw.braceless) hadded, Item.bodies]
    rfl

theorem ItemsValid.outline_write (hk : IsName k) : {items : List Item} → ItemsValid items →
    (depth : Nat) → (m : List Marked) →
    outline k false (mark (writeItems depth items) ++ m) =
      bodiesOf k depth items ++ outline k false m
  | [], _, _, _ => rfl
  | i :: items, h, depth, m => by
    rw [writeItems, (h.1.written depth).mark_append, List.append_assoc, h.1.outline_write hk,
      h.2.outline_write hk, bodiesOf, List.append_assoc]

end

/-! ### Statements of written items -/

theorem Item.Valid.dropBlocks_write {i : Item} (h : i.Valid) (depth : Nat) (m : List Marked) :
    dropBlocks 0 (mark (i.write depth) ++ m) = lineOf depth i.residue ++ dropBlocks 0 m := by
  cases i with
  | field f => exact (SourceField.Valid.isDeclaration h).dropBlocks_lineOf depth m
  | message name items =>
    exact dropBlocks_blockOf isName_message h.1 (h.2.written (depth + 1))
      (h.2.balanced (depth + 1)) depth m
  | enumeration name members =>
    have hw := written_memberLines h.2 (depth + 1)
    exact dropBlocks_blockOf isName_enum h.1 (hw.mono fun _ _ => trivial)
      (.of_braceless hw.braceless) depth m

theorem ItemsValid.dropBlocks_write {items : List Item} (h : ItemsValid items) (depth : Nat)
    (m : List Marked) :
    dropBlocks 0 (mark (writeItems depth items) ++ m) =
      (items.map Item.residue).flatMap (lineOf depth) ++ dropBlocks 0 m := by
  induction items with
  | nil => rfl
  | cons i items ih =>
    rw [writeItems, (h.1.written depth).mark_append, List.append_assoc, h.1.dropBlocks_write, ih h.2,
      List.map_cons, List.flatMap_cons, List.append_assoc]

theorem removeInnerBlocks_bodyOf {lines kept : List Char} (hw : Written (fun _ => True) lines)
    (hkept : ∀ m, dropBlocks 0 (mark lines ++ m) = kept ++ dropBlocks 0 m) (depth : Nat) :
    removeInnerBlocks (bodyOf depth lines) = bodyOf depth kept := by
  have hindent := (written_indent Braceless (by simp [Braceless]) depth).braceless
  have hend := dropBlocks_append_of_braceless hindent []
  rw [List.append_nil, mark_map_fst] at hend
  rw [removeInnerBlocks, bodyOf, mark_cons_of_plain (by decide), hw.mark_append,
    dropBlocks_cons (by simp [IsBrace]), if_pos rfl, hkept, hend]
  simp [bodyOf, dropBlocks]

theorem Item.Valid.isPassedOver_residue {i : Item} (h : i.Valid) :
    isPassedOver (i.residue ++ [';']) = false := by
  have hfront (w : List Char) (hw : IsName w) (hr : w ≠ "reserved".toList)
      (ho : w ≠ "oneof".toList) (name : List Char) :
      isPassedOver (front w name ++ [';']) = false := by
    have he : front w name ++ [';'] = w ++ ' ' :: (name ++ [' ', ';']) := by simp [front]
    rw [he, isPassedOver_of_ne hw hr ho]
  cases i with
  | message name items =>
    exact hfront _ isName_message (by decide) (by decide) _
  | enumeration name members => exact hfront _ isName_enum (by decide) (by decide) _
  | field f =>
    have h : f.Valid := h
    rw [Item.residue, SourceField.write]
    split
    · simp only [headed, List.append_assoc, List.cons_append]
      exact isPassedOver_of_ne (by decide) (by decide) (by decide) _
    · next hr =>
      rcases h.keyword with hkeyword | ⟨hreserved, honeof⟩
      · exact (hr hkeyword).elim
      · simp only [headed, List.append_assoc, List.cons_append]
        exact isPassedOver_of_ne h.type (fun e => hreserved (String.toList_injective e))
          (fun e => honeof (String.toList_injective e)) _

theorem ItemsValid.statements_body {items : List Item} (h : ItemsValid items) (depth : Nat) :
    statements (bodyOf depth (writeItems (depth + 1) items)) =
      (items.map Item.residue).map fun u => ⟨u ++ [';'], [], []⟩ := by
  apply statements_of_lines h.isDeclaration
  · intro u hu
    obtain ⟨i, hi, rfl⟩ := List.mem_map.1 hu
    exact (h.mem i hi).isPassedOver_residue
  · exact removeInnerBlocks_bodyOf (h.written (depth + 1)) (h.dropBlocks_write (depth + 1)) depth

theorem statements_memberLines (h : ∀ m ∈ members, m.Valid) (depth : Nat) :
    statements (bodyOf depth (memberLines (depth + 1) members)) =
      (members.map (·.write)).map fun u => ⟨u ++ [';'], [], []⟩ := by
  have hw := written_memberLines h (depth + 1)
  have hkept (m : List Marked) : dropBlocks 0 (mark (memberLines (depth + 1) members) ++ m) =
      (members.map (·.write)).flatMap (lineOf (depth + 1)) ++ dropBlocks 0 m := by
    rw [dropBlocks_append_of_braceless hw.braceless, mark_map_fst, memberLines_eq]
  refine statements_of_lines (isDeclaration_members h) (fun u hu => ?_)
    (removeInnerBlocks_bodyOf (hw.mono fun _ _ => trivial) hkept depth)
  obtain ⟨m, hm, rfl⟩ := List.mem_map.1 hu
  have hname := (h m hm).name
  have hupper (w : List Char) (hw : w.head?.any Char.isUpper = false) : m.name.toList ≠ w := by
    rintro rfl
    cases hn : m.name.toList with
    | nil => rw [hn] at hname; exact hname
    | cons c n =>
      rw [hn] at hname hw
      simp [hname.1] at hw
  rw [SourceMember.write, List.append_assoc, numbering]
  exact isPassedOver_of_ne hname.isName (hupper _ (by decide)) (hupper _ (by decide)) _

end Formwork.Idl
