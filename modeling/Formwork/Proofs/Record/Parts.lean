import Formwork.Proofs.Record.Location
import Formwork.Record.Check
import Mathlib.Data.List.Basic

/-!
The parts of a visit: what is checked of a value, one part after the other, with the rows of a list of
objects as a run over the list.
-/
namespace Formwork.Record

variable {checks : Checks} {slot : Slot} {v : Value} {p : Place}

/-- What the kind of a field asks of its value, the children included. -/
def checkKind (checks : Checks) (slot : Slot) (value : Value) (p : Place) : Except Refusal Unit :=
  match slot.kind, value with
  | "image", v => checkImage v p
  | "array-image", v => checkImages v p
  | "object", .object ms => checkSlots checks p ms slot.children
  | "object", _ => p.fail .notObject
  | "array<object>", v =>
    match rows? v with
    | some rows => checkRows (fun place ms => checkSlots checks place ms slot.children) p 0 rows
    | none => p.fail .notObjectList
  | _, _ => .ok ()

theorem checkSlot_of_isVoid (hv : isVoid v = true) : checkSlot checks p v slot = .ok () := by
  cases slot
  rw [checkSlot.eq_def]
  simp only [hv, ↓reduceIte]

theorem checkSlot_eq (hv : isVoid v = false) :
    checkSlot checks p v slot = (do
      checkJson slot v p
      checkMarkdown slot v p
      checkKind checks slot v p
      slot.rules.forM (checkRule checks v p)) := by
  obtain ⟨key, label, kind, rules, children⟩ := slot
  rw [checkSlot.eq_def]
  simp only [hv, Bool.false_eq_true, ↓reduceIte, checkKind]
  congr 1
  funext _
  congr 1
  funext _
  split
  · rfl
  · rfl
  · rfl
  · simp
  · split
    · next hr => simp only [hr]
    · next hr => simp only [hr]
  · simp

/-- A row is an object, and its members are checked. -/
def checkRow (check : Place → List (String × Value) → Except Refusal Unit) (p : Place) :
    Value × Nat → Except Refusal Unit
  | (.object ms, i) => check (p.item i) ms
  | (_, i) => (p.item i).fail (.notRow i)

theorem checkRows_eq_forM (check : Place → List (String × Value) → Except Refusal Unit)
    (index : Nat) (rows : List Value) :
    checkRows check p index rows = (rows.zipIdx index).forM (checkRow check p) := by
  induction rows generalizing index with
  | nil => rfl
  | cons row rows ih =>
    cases row with
    | object ms =>
      rw [checkRows, ih]
      rfl
    | _ => rfl

theorem checkRow_eq_fail (check : Place → List (String × Value) → Except Refusal Unit) {row : Value}
    (h : ∀ ms, row ≠ .object ms) (i : Nat) :
    checkRow check p (row, i) = (p.item i).fail (.notRow i) := by
  cases row with
  | object ms => exact absurd rfl (h ms)
  | _ => rfl

/-- Rows stand at their indices, also the only one that an object is. -/
theorem at?_row {rows : List Value} {i : Nat} {w : Value} (hr : rows? v = some rows)
    (hi : rows[i]? = some w) (steps : List Step) : v.at? (.index i :: steps) = w.at? steps := by
  cases v with
  | list items =>
    cases hr
    exact Value.at?_index hi steps
  | object ms =>
    cases hr
    cases i with
    | zero =>
      cases hi
      rfl
    | succ i => cases hi
  | _ => cases hr

/-! ### Kinds -/

/-- The kinds that ask something of a value. -/
def askingKinds : List String := ["image", "array-image", "object", "array<object>"]

theorem checkKind_image (hk : slot.kind = "image") :
    checkKind checks slot v p = checkImage v p := by
  simp only [checkKind, hk]

theorem checkKind_images (hk : slot.kind = "array-image") :
    checkKind checks slot v p = checkImages v p := by
  simp only [checkKind, hk]

theorem checkKind_object (hk : slot.kind = "object") (ms : List (String × Value)) :
    checkKind checks slot (.object ms) p = checkSlots checks p ms slot.children := by
  simp only [checkKind, hk]

theorem checkKind_notObject (hk : slot.kind = "object") (hv : ∀ ms, v ≠ .object ms) :
    checkKind checks slot v p = p.fail .notObject := by
  rw [checkKind.eq_def, hk]
  cases v with
  | object ms => exact absurd rfl (hv ms)
  | _ => rfl

theorem checkKind_rows (hk : slot.kind = "array<object>") {rows : List Value}
    (hr : rows? v = some rows) :
    checkKind checks slot v p =
      rows.zipIdx.forM (checkRow (fun place ms => checkSlots checks place ms slot.children) p) := by
  rw [checkKind.eq_def, hk, ← checkRows_eq_forM]
  simp only [hr]

theorem checkKind_noRows (hk : slot.kind = "array<object>") (hr : rows? v = none) :
    checkKind checks slot v p = p.fail .notObjectList := by
  rw [checkKind.eq_def, hk]
  simp only [hr]

theorem checkKind_of_not_mem (hk : slot.kind ∉ askingKinds) :
    checkKind checks slot v p = .ok () := by
  simp only [askingKinds, List.mem_cons, List.not_mem_nil, or_false, not_or] at hk
  obtain ⟨himage, himages, hobject, hrows⟩ := hk
  rw [checkKind.eq_def]
  split
  · contradiction
  · contradiction
  · contradiction
  · contradiction
  · contradiction
  · rfl

/-! ### Texts -/

/-- What is asked of a markdown text. -/
def requireMarkdown (p : Place) (v : Value) : Except Refusal Unit :=
  v.text?.elim (p.fail .notMarkdown) fun s => p.require .openFence (fencesBalanced s.toList)

theorem checkMarkdown_eq :
    checkMarkdown slot v p = if slot.kind = "markdown" || slot.has "markdown" then
      (textsOf slot.kind v p).forM fun x => requireMarkdown x.1 x.2 else .ok () := by
  rw [checkMarkdown]
  congr 2
  funext ⟨q, w⟩
  cases w <;> rfl

theorem textsOf_array (items : List Value) (p : Place) :
    textsOf "array" (.list items) p =
      (items.zipIdx.filter fun (v, _) => !isVoid v).map fun (v, i) => (p.item i, v) := rfl

theorem textsOf_whole {kind : String} (h : kind = "array" → ∀ items, v ≠ .list items) :
    textsOf kind v p = [(p, v)] := by
  rw [textsOf]
  rintro items rfl rfl
  exact h rfl items rfl

end Formwork.Record
