import Formwork.Proofs.Record.Parts

/-!
The defects of a record: which checks of which fields its values break, at any depth. A defect stands
at a turn, and the order of turns is the order in which a record is gone through.
-/
namespace Formwork.Record

/-- A turn names a field by its index, then what is checked of the field (its JSON texts 0, its
markdown texts 1, its kind and its children 2, its rules 3), and then an item, a row or a rule by its
index; in an object or a row, the turn goes on with a field of it. -/
abbrev Turn := List Nat

variable {checks : Checks}

/-- The texts that a check of texts is about: the items of a list of scalars, or else the value. -/
inductive TextOf (kind : String) (v : Value) : Turn → List Step → Value → Prop
  | whole (h : kind = "array" → ∀ items, v ≠ .list items) : TextOf kind v [] [] v
  | item {items : List Value} {i : Nat} {w : Value} (hk : kind = "array") (hv : v = .list items)
      (hi : items[i]? = some w) (hw : isVoid w = false) : TextOf kind v [i] [.index i] w

inductive BreaksMarkdown : Value → Flaw → Prop
  | notText {w : Value} (h : ∀ s, w ≠ .text s) : BreaksMarkdown w .notMarkdown
  | fence {s : String} (h : fencesBalanced s.toList = false) : BreaksMarkdown (.text s) .openFence

/-- The reference that an image is: the value, or the first item of a list. -/
def imageOf : Value → Option Value
  | .list items => items.head?
  | v => some v

/-- What a value breaks of the kind of its field, apart from its children. -/
inductive BreaksKind (kind : String) (v : Value) : Turn → List Step → Value → Flaw → Prop
  | image {x : Value} (hk : kind = "image") (hx : imageOf v = some x)
      (h : isImageUrl x = .ok false) : BreaksKind kind v [] [] v .notImage
  | imageList (hk : kind = "array-image") (h : ∀ items, v ≠ .list items) :
      BreaksKind kind v [] [] v .notImageList
  | imageItem {items : List Value} {i : Nat} {w : Value} (hk : kind = "array-image")
      (hv : v = .list items) (hi : items[i]? = some w) (h : isImageUrl w = .ok false) :
      BreaksKind kind v [i] [.index i] w (.notImageItem i)
  | object (hk : kind = "object") (h : ∀ ms, v ≠ .object ms) :
      BreaksKind kind v [] [] v .notObject
  | objectList (hk : kind = "array<object>") (h : rows? v = none) :
      BreaksKind kind v [] [] v .notObjectList
  | row {rows : List Value} {i : Nat} {w : Value} (hk : kind = "array<object>")
      (hr : rows? v = some rows) (hi : rows[i]? = some w) (h : ∀ ms, w ≠ .object ms) :
      BreaksKind kind v [i] [.index i] w (.notRow i)

inductive BreaksRule (checks : Checks) : Value → Rule → Flaw → Prop
  | pattern {s : String} {r : Rule} {node : Pattern.Node} (ht : r.type = "pattern")
      (hne : r.value.getD "" ≠ "") (hr : Pattern.read (r.value.getD "").toList = .ok node)
      (h : node.foundIn s.toList = false) : BreaksRule checks (.text s) r .badFormat
  | min {v : Value} {r : Rule} {size bound : Quantity} (ht : r.type = "min")
      (hs : size? v = some size) (hb : bound? r = some bound) (h : size.lt bound = true) :
      BreaksRule checks v r (if isNumber v then .tooSmall else .tooShort)
  | max {v : Value} {r : Rule} {size bound : Quantity} (ht : r.type = "max")
      (hs : size? v = some size) (hb : bound? r = some bound) (h : bound.lt size = true) :
      BreaksRule checks v r (if isNumber v then .tooLarge else .tooLong)
  | custom {v : Value} {r : Rule} {check : Value → Option String → Bool} (ht : r.type = "custom")
      (hne : checkName r ≠ "") (hc : checks.lookup (checkName r) = some check)
      (h : check v r.value = false) : BreaksRule checks v r (.failedCheck (checkName r))
  | other {v : Value} {r : Rule} {check : Value → Option String → Bool}
      (ht : r.type ∉ Rule.builtin) (hc : checks.lookup r.type = some check)
      (h : check v r.value = false) : BreaksRule checks v r (.failedCheck r.type)

/-- A check of a field that a value breaks, with the steps to the part of the value that does. -/
inductive Breaks (checks : Checks) (slot : Slot) (v : Value) :
    Turn → List Step → Value → Flaw → Prop
  | json {t : Turn} {part : List Step} {w : Value}
      (hk : slot.kind = "json" ∨ slot.has "json" = true)
      (hw : TextOf slot.kind v t part w) (h : isJsonText w = false) :
      Breaks checks slot v (0 :: t) part w .notJson
  | markdown {t : Turn} {part : List Step} {w : Value} {flaw : Flaw}
      (hk : slot.kind = "markdown" ∨ slot.has "markdown" = true)
      (hw : TextOf slot.kind v t part w) (h : BreaksMarkdown w flaw) :
      Breaks checks slot v (1 :: t) part w flaw
  | kind {t : Turn} {part : List Step} {w : Value} {flaw : Flaw}
      (h : BreaksKind slot.kind v t part w flaw) : Breaks checks slot v (2 :: t) part w flaw
  | rule {i : Nat} {r : Rule} {flaw : Flaw} (hr : slot.rules[i]? = some r)
      (h : BreaksRule checks v r flaw) : Breaks checks slot v [3, i] [] v flaw

/-- A defect of an item, seen from the list. -/
def Defect.inItem (i : Nat) (d : Defect) : Defect := ⟨d.flaw, .index i :: d.path, d.labels⟩

/-- A defect of the value of a field, seen from the object that it is a member of. -/
def Defect.inField (slot : Slot) (d : Defect) : Defect :=
  ⟨d.flaw, .key slot.key :: d.path, slot.label :: d.labels⟩

mutual

/-- A defect in the value of a field: the value is not void and breaks a check of the field, or one
of its children has a defect. The path and the labels begin behind the field. -/
inductive FieldDefect (checks : Checks) : Slot → Value → Turn → Value → Defect → Prop
  | own {slot : Slot} {v w : Value} {t : Turn} {part : List Step} {flaw : Flaw}
      (hv : isVoid v = false) (h : Breaks checks slot v t part w flaw) :
      FieldDefect checks slot v t w ⟨flaw, part, []⟩
  | object {slot : Slot} {ms : List (String × Value)} {t : Turn} {w : Value} {d : Defect}
      (hk : slot.kind = "object") (h : DefectAt checks slot.children ms t w d) :
      FieldDefect checks slot (.object ms) (2 :: t) w d
  | row {slot : Slot} {v w : Value} {rows : List Value} {i : Nat} {ms : List (String × Value)}
      {t : Turn} {d : Defect} (hk : slot.kind = "array<object>") (hr : rows? v = some rows)
      (hi : rows[i]? = some (.object ms)) (h : DefectAt checks slot.children ms t w d) :
      FieldDefect checks slot v (2 :: i :: t) w (d.inItem i)

/-- A defect among the members of an object: at a turn, a value is flawed. -/
inductive DefectAt (checks : Checks) :
    List Slot → List (String × Value) → Turn → Value → Defect → Prop
  | field {slots : List Slot} {ms : List (String × Value)} {i : Nat} {slot : Slot} {t : Turn}
      {w : Value} {d : Defect} (hs : slots[i]? = some slot)
      (h : FieldDefect checks slot (Value.get ms slot.key) t w d) :
      DefectAt checks slots ms (i :: t) w (d.inField slot)

end

/-! ### Defects are where they are said to be -/

variable {slot : Slot} {slots : List Slot} {ms : List (String × Value)} {v w : Value} {t : Turn}
  {d : Defect}

theorem isVoid_of_rows? {rows : List Value} (h : rows? v = some rows) : isVoid v = false := by
  cases v with
  | object | list => rfl
  | _ => cases h

theorem FieldDefect.isVoid_eq_false (h : FieldDefect checks slot v t w d) : isVoid v = false := by
  cases h with
  | own hv => exact hv
  | object => rfl
  | row hk hr => exact isVoid_of_rows? hr

theorem TextOf.at?_eq {kind : String} {part : List Step} (h : TextOf kind v t part w) :
    v.at? part = some w := by
  cases h with
  | whole => exact Value.at?_nil v
  | item hk hv hi => rw [hv, Value.at?_index hi, Value.at?_nil]

theorem BreaksKind.at?_eq {kind : String} {part : List Step} {flaw : Flaw}
    (h : BreaksKind kind v t part w flaw) : v.at? part = some w := by
  cases h with
  | imageItem hk hv hi => rw [hv, Value.at?_index hi, Value.at?_nil]
  | row hk hr hi => rw [at?_row hr hi, Value.at?_nil]
  | image | imageList | object | objectList => exact Value.at?_nil v

theorem Breaks.at?_eq {part : List Step} {flaw : Flaw} (h : Breaks checks slot v t part w flaw) :
    v.at? part = some w := by
  cases h with
  | json hk hw | markdown hk hw => exact hw.at?_eq
  | kind h => exact h.at?_eq
  | rule => exact Value.at?_nil v

mutual

theorem FieldDefect.at?_eq {slot : Slot} {v : Value} {t : Turn} {w : Value} {d : Defect} :
    FieldDefect checks slot v t w d → v.at? d.path = some w
  | .own _ h => h.at?_eq
  | .object _ h => h.at?_eq
  | .row _ hr hi h => (at?_row hr hi _).trans h.at?_eq

/-- The path of a defect leads to the value that is flawed. -/
theorem DefectAt.at?_eq {slots : List Slot} {ms : List (String × Value)} {t : Turn} {w : Value}
    {d : Defect} : DefectAt checks slots ms t w d → (Value.object ms).at? d.path = some w
  | @DefectAt.field _ _ ms i slot t w d hs h => by
    have hne : Value.get ms slot.key ≠ .null := by
      intro hnull
      have hv := h.isVoid_eq_false
      rw [hnull] at hv
      cases hv
    exact (Value.at?_key hne _).trans h.at?_eq

end

/-! ### Paths of plain keys -/

/-- Slots whose keys are plain, at every depth. -/
inductive Slot.IsPlain : Slot → Prop
  | mk {slot : Slot} (hkey : IsPlainKey slot.key) (h : ∀ child ∈ slot.children, child.IsPlain) :
      slot.IsPlain

theorem Slot.IsPlain.key_isPlain (h : slot.IsPlain) : IsPlainKey slot.key := by
  cases h with
  | mk hkey => exact hkey

theorem Slot.IsPlain.children_isPlain (h : slot.IsPlain) :
    ∀ child ∈ slot.children, child.IsPlain := by
  cases h with
  | mk _ h => exact h

theorem Breaks.isPlain {part : List Step} {flaw : Flaw} (h : Breaks checks slot v t part w flaw) :
    ∀ step ∈ part, step.IsPlain := by
  cases h with
  | json hk hw | markdown hk hw => cases hw <;> simp [Step.IsPlain]
  | kind h => cases h <;> simp [Step.IsPlain]
  | rule => simp

mutual

theorem FieldDefect.isPlain {slot : Slot} {v : Value} {t : Turn} {w : Value} {d : Defect}
    (hp : slot.IsPlain) : FieldDefect checks slot v t w d → ∀ step ∈ d.path, step.IsPlain
  | .own _ h => h.isPlain
  | .object _ h => h.isPlain hp.children_isPlain
  | .row _ _ _ h => List.forall_mem_cons.2 ⟨trivial, h.isPlain hp.children_isPlain⟩

theorem DefectAt.isPlain {slots : List Slot} {ms : List (String × Value)} {t : Turn} {w : Value}
    {d : Defect} (hp : ∀ slot ∈ slots, slot.IsPlain) :
    DefectAt checks slots ms t w d → ∀ step ∈ d.path, step.IsPlain
  | .field hs h => by
    have hslot := hp _ (List.mem_of_getElem? hs)
    exact List.forall_mem_cons.2 ⟨hslot.key_isPlain, h.isPlain hslot⟩

end

end Formwork.Record
