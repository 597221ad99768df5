import Formwork.Proofs.Record.Likeness

/-!
Records that agree on the declared fields. What is not declared does not count, neither does how a
value is missing, and everything else is equal; then validation has the same outcome for both. Where
a single object may also stand for the list of it, the outcomes differ at most by a complaint of a
rule about the size of such a list.
-/
namespace Formwork.Record

mutual

/-- Two values of a field agree: they are both void, or equal, or objects that agree on the children
of the field, or lists of rows that agree. In a field that is `bare`, an object also agrees with the
list of one row that it agrees with. -/
inductive Agrees (bare : Slot → Prop) : Slot → Value → Value → Prop
  | void {slot : Slot} {v w : Value} (hv : isVoid v = true) (hw : isVoid w = true) :
      Agrees bare slot v w
  | equal {slot : Slot} {v w : Value} (h : v.Equals w) : Agrees bare slot v w
  | object {slot : Slot} {ms ns : List (String × Value)}
      (hk : slot.kind = "object" ∨ slot.kind = "array<object>")
      (h : ∀ child ∈ slot.children, Agrees bare child (Value.get ms child.key)
        (Value.get ns child.key)) : Agrees bare slot (.object ms) (.object ns)
  | rows {slot : Slot} {xs ys : List Value} (hk : slot.kind = "array<object>")
      (hl : xs.length = ys.length)
      (h : ∀ (i : Nat) x y, xs[i]? = some x → ys[i]? = some y →
        AgreesRow bare slot.children x y) :
      Agrees bare slot (.list xs) (.list ys)
  | listed {slot : Slot} {ms ns : List (String × Value)} (hb : bare slot)
      (hk : slot.kind = "array<object>")
      (h : ∀ child ∈ slot.children, Agrees bare child (Value.get ms child.key)
        (Value.get ns child.key)) : Agrees bare slot (.object ms) (.list [.object ns])

/-- Two rows agree: they are objects that agree on the fields of rows, or equal. -/
inductive AgreesRow (bare : Slot → Prop) : List Slot → Value → Value → Prop
  | object {slots : List Slot} {ms ns : List (String × Value)}
      (h : ∀ slot ∈ slots, Agrees bare slot (Value.get ms slot.key) (Value.get ns slot.key)) :
      AgreesRow bare slots (.object ms) (.object ns)
  | equal {slots : List Slot} {v w : Value} (h : v.Equals w) : AgreesRow bare slots v w

end

/-- Two objects agree on fields. -/
def AgreesOn (bare : Slot → Prop) (slots : List Slot) (ms ns : List (String × Value)) : Prop :=
  ∀ slot ∈ slots, Agrees bare slot (Value.get ms slot.key) (Value.get ns slot.key)

/-! ### Outcomes that are the same but for some defects -/

/-- The second outcome is the first one, or one of some defects. -/
def Within (D : Defect → Prop) (x y : Except Refusal Unit) : Prop :=
  y = x ∨ ∃ d, D d ∧ y = .error (.defect d)

namespace Within

variable {D D' : Defect → Prop} {x x' y y' : Except Refusal Unit} {α : Type}

theorem of_eq (h : x = y) : Within D x y := .inl h.symm

theorem imp (h : Within D x y) (hD : ∀ d, D d → D' d) : Within D' x y := by
  rcases h with h | ⟨d, hd, h⟩
  · exact .inl h
  · exact .inr ⟨d, hD d hd, h⟩

theorem bind (hx : Within D x x') (hy : Within D y y') : Within D (do x; y) (do x'; y') := by
  rcases hx with rfl | ⟨d, hd, rfl⟩
  -- What follows a refusal is not looked at, so `hy` counts only where the first parts pass.
  · cases x' with
    | ok => exact hy
    | error => exact .inl rfl
  · exact .inr ⟨d, hd, rfl⟩

theorem forM {f g : α → Except Refusal Unit} {xs : List α} (h : ∀ a ∈ xs, Within D (f a) (g a)) :
    Within D (xs.forM f) (xs.forM g) := by
  induction xs with
  | nil => exact .inl rfl
  | cons a xs ih =>
    obtain ⟨ha, hxs⟩ := List.forall_mem_cons.1 h
    exact ha.bind (ih hxs)

theorem forM_zipIdx {f : α × Nat → Except Refusal Unit} {xs ys : List α}
    (hl : xs.length = ys.length) (n : Nat)
    (h : ∀ (i : Nat) a b, xs[i]? = some a → ys[i]? = some b →
      Within D (f (a, n + i)) (f (b, n + i))) :
    Within D ((xs.zipIdx n).forM f) ((ys.zipIdx n).forM f) := by
  induction xs generalizing ys n with
  | nil =>
    obtain rfl := List.length_eq_zero_iff.1 hl.symm
    exact .inl rfl
  | cons a xs ih =>
    cases ys with
    | nil => cases hl
    | cons b ys =>
      rw [List.zipIdx_cons, List.zipIdx_cons]
      refine (h 0 a b rfl rfl).bind (ih (Nat.succ.inj hl) (n + 1) fun i a b ha hb => ?_)
      have hi := h (i + 1) a b ha hb
      rwa [← Nat.add_assoc, Nat.add_right_comm] at hi

end Within

/-! ### What agreeing values have in common -/

variable {bare : Slot → Prop} {slot : Slot} {v w : Value}
variable {ms ns : List (String × Value)} {p : Place}

theorem AgreesOn.of_equals (h : ∀ key, (Value.get ms key).Equals (Value.get ns key))
    (slots : List Slot) : AgreesOn bare slots ms ns := fun slot _ => .equal (h slot.key)

theorem Agrees.isVoid_eq (h : Agrees bare slot v w) : isVoid v = isVoid w := by
  cases h with
  | void hv hw => exact hv.trans hw.symm
  | equal h => exact h.isVoid_eq
  | object | rows | listed => rfl

/-- Fields without children agree on equal values only. -/
theorem Agrees.equals (h : Agrees bare slot v w) (hv : isVoid v = false)
    (hobject : slot.kind ≠ "object") (hrows : slot.kind ≠ "array<object>") : v.Equals w := by
  cases h with
  | void hv' => cases hv.symm.trans hv'
  | equal h => exact h
  | object hk => exact absurd hk (not_or.2 ⟨hobject, hrows⟩)
  | rows hk | listed _ hk => exact absurd hk hrows

theorem Agrees.object_or (h : Agrees bare slot v w) (hv : isVoid v = false)
    (hk : slot.kind = "object") :
    (∃ ms ns, v = .object ms ∧ w = .object ns ∧ AgreesOn bare slot.children ms ns) ∨
      (∀ ms, v ≠ .object ms) ∧ ∀ ns, w ≠ .object ns := by
  cases h with
  | void hv' => cases hv.symm.trans hv'
  | equal h =>
    by_cases ho : ∃ ms, v = .object ms
    · obtain ⟨ms, rfl⟩ := ho
      obtain ⟨ns, rfl, hget⟩ := h.object_inv
      exact .inl ⟨ms, ns, rfl, rfl, .of_equals hget _⟩
    · refine .inr ⟨fun ms he => ho ⟨ms, he⟩, ?_⟩
      rintro ns rfl
      exact ho h.exists_object
  | object _ h => exact .inl ⟨_, _, rfl, rfl, h⟩
  | rows =>
    refine .inr ⟨?_, ?_⟩
    · intro ms he
      cases he
    · intro ns he
      cases he
  | listed _ hk' => simp [hk] at hk'

theorem Agrees.rows_or (h : Agrees bare slot v w) (hv : isVoid v = false) :
    (∃ xs ys, rows? v = some xs ∧ rows? w = some ys ∧ xs.length = ys.length ∧
      ∀ (i : Nat) x y, xs[i]? = some x → ys[i]? = some y →
        AgreesRow bare slot.children x y) ∨
      rows? v = none ∧ rows? w = none := by
  have hone {x y : Value} (h : AgreesRow bare slot.children x y) (i : Nat) (x' y' : Value)
      (hx : [x][i]? = some x') (hy : [y][i]? = some y') : AgreesRow bare slot.children x' y' := by
    cases i with
    | zero =>
      cases hx
      cases hy
      exact h
    | succ i => cases hx
  cases h with
  | void hv' => cases hv.symm.trans hv'
  | equal h =>
    have hr := h.rows?_rel
    generalize rows? v = x at hr ⊢
    generalize rows? w = y at hr ⊢
    cases hr with
    | none => exact .inr ⟨rfl, rfl⟩
    | @some xs ys hr =>
      refine .inl ⟨xs, ys, rfl, rfl, hr.length_eq, fun i x y hx hy => .equal ?_⟩
      obtain ⟨hix, rfl⟩ := List.getElem?_eq_some_iff.1 hx
      obtain ⟨hiy, rfl⟩ := List.getElem?_eq_some_iff.1 hy
      exact hr.get hix hiy
  | object _ h => exact .inl ⟨_, _, rfl, rfl, rfl, hone (.object h)⟩
  | rows _ hl h => exact .inl ⟨_, _, rfl, rfl, hl, h⟩
  | listed _ _ h => exact .inl ⟨_, _, rfl, rfl, rfl, hone (.object h)⟩

theorem LooksAlike.objects (ms ns : List (String × Value)) :
    LooksAlike (.object ms) (.object ns) := ⟨rfl, rfl, .none⟩

theorem LooksAlike.lists {xs ys : List Value} (h : xs.length = ys.length) :
    LooksAlike (.list xs) (.list ys) := by
  refine ⟨rfl, rfl, ?_⟩
  rw [size?, size?, h]
  exact .some (.refl _)

/-- Checks of texts see no difference. -/
theorem Agrees.map_seeText (h : Agrees bare slot v w) (hv : isVoid v = false) :
    (textsOf slot.kind v p).map seeText = (textsOf slot.kind w p).map seeText := by
  cases h with
  | void hv' => cases hv.symm.trans hv'
  | equal h => exact map_seeText_of_equals h slot.kind
  | object hk => exact map_seeText_whole (by rcases hk with hk | hk <;> simp [hk]) rfl
  | rows hk | listed _ hk => exact map_seeText_whole (by simp [hk]) rfl

/-! ### The size of a list of one -/

/-- A complaint about the size of a list in whose place a value has an object. -/
def BareSize (p : Place) (v : Value) (d : Defect) : Prop :=
  (d.flaw = .tooShort ∨ d.flaw = .tooLong) ∧
    ∃ steps row, d.path = p.path ++ steps ∧ v.at? steps = some (.object row)

theorem BareSize.of_field {d : Defect}
    (h : BareSize (p.field slot) (Value.get ms slot.key) d) : BareSize p (.object ms) d := by
  obtain ⟨hflaw, steps, row, hpath, hat⟩ := h
  refine ⟨hflaw, .key slot.key :: steps, row, ?_, ?_⟩
  · rw [hpath, Place.field, List.append_assoc]
    rfl
  · -- A member that is missing reads as null, and no path leads from null to an object.
    have hne : Value.get ms slot.key ≠ .null := by
      intro hnull
      rw [hnull] at hat
      cases steps with
      | nil => cases hat
      | cons step steps => simp [Value.at?] at hat
    exact (Value.at?_key hne steps).trans hat

/-- Fields with a rule about a size. -/
def Slot.Measured (slot : Slot) : Prop := ∃ r ∈ slot.rules, r.type = "min" ∨ r.type = "max"

/-- What only a list is refused for, where it stands for a single object in a bare field. -/
def BareDefect (bare : Slot → Prop) (p : Place) (v : Value) (d : Defect) : Prop :=
  (∃ slot, bare slot ∧ slot.Measured) ∧ BareSize p v d

theorem within_checkRule_listed (xs : List Value) (r : Rule) :
    Within (fun d => (r.type = "min" ∨ r.type = "max") ∧ BareSize p (.object ms) d)
      (checkRule [] (.object ms) p r) (checkRule [] (.list xs) p r) := by
  have hsize {flaw : Flaw} (ht : r.type = "min" ∨ r.type = "max")
      (hf : flaw = .tooShort ∨ flaw = .tooLong) (holds : Bool) :
      Within (fun d => (r.type = "min" ∨ r.type = "max") ∧ BareSize p (.object ms) d) (.ok ())
        (p.require flaw holds) := by
    cases holds with
    | true => exact .inl rfl
    | false => exact .inr ⟨_, ⟨ht, hf, [], ms, (List.append_nil _).symm, rfl⟩, rfl⟩
  rw [checkRule.eq_def, checkRule.eq_def]
  -- No object is a text and none has a size, so only the list can break the rules about sizes.
  split
  · exact .inl rfl
  · next ht =>
    rw [checkMin, checkMin]
    cases bound? r with
    | none => exact .inl rfl
    | some bound => exact hsize (.inl ht) (.inl rfl) _
  · next ht =>
    rw [checkMax, checkMax]
    cases bound? r with
    | none => exact .inl rfl
    | some bound => exact hsize (.inr ht) (.inr rfl) _
  · exact .inl rfl
  · exact .inl rfl

theorem Agrees.within_rules (h : Agrees bare slot v w) (hv : isVoid v = false) :
    Within (BareDefect bare p v) (slot.rules.forM (checkRule [] v p))
      (slot.rules.forM (checkRule [] w p)) := by
  apply Within.forM
  intro r hr
  cases h with
  | void hv' => cases hv.symm.trans hv'
  | equal h => exact .of_eq (checkRule_congr h.looksAlike r)
  | object => exact .of_eq (checkRule_congr (.objects _ _) r)
  | rows _ hl => exact .of_eq (checkRule_congr (.lists hl) r)
  | listed hb =>
    exact (within_checkRule_listed _ r).imp fun d hd => ⟨⟨slot, hb, r, hr, hd.1⟩, hd.2⟩

/-! ### Children -/

/-- Checks of objects have outcomes within the sizes of single objects. -/
def WithinOn (bare : Slot → Prop) (slots : List Slot) : Prop :=
  ∀ {p : Place} {ms ns : List (String × Value)}, AgreesOn bare slots ms ns →
    Within (BareDefect bare p (.object ms)) (checkSlots [] p ms slots)
      (checkSlots [] p ns slots)

theorem BareSize.of_row {rows : List Value} {i : Nat} {row : Value} {d : Defect}
    (h : BareSize (p.item i) row d) (hr : rows? v = some rows) (hi : rows[i]? = some row) :
    BareSize p v d := by
  obtain ⟨hflaw, steps, ms, hpath, hat⟩ := h
  refine ⟨hflaw, .index i :: steps, ms, ?_, (at?_row hr hi steps).trans hat⟩
  rw [hpath, Place.item, List.append_assoc]
  rfl

theorem AgreesRow.within {slots : List Slot} (h : AgreesRow bare slots v w)
    (ih : WithinOn bare slots) (i : Nat) : Within (BareDefect bare (p.item i) v)
      (checkRow (fun place ms => checkSlots [] place ms slots) p (v, i))
      (checkRow (fun place ms => checkSlots [] place ms slots) p (w, i)) := by
  cases h with
  | object h => exact ih h
  | equal h =>
    by_cases ho : ∃ ms, v = .object ms
    · obtain ⟨ms, rfl⟩ := ho
      obtain ⟨ns, rfl, hget⟩ := h.object_inv
      exact ih (.of_equals hget slots)
    · have hv (ms : List (String × Value)) : v ≠ .object ms := fun he => ho ⟨ms, he⟩
      have hw (ns : List (String × Value)) : w ≠ .object ns := by
        rintro rfl
        exact ho h.exists_object
      rw [checkRow_eq_fail _ hv, checkRow_eq_fail _ hw]
      exact .inl rfl

theorem Agrees.within_rows (h : Agrees bare slot v w) (hv : isVoid v = false)
    (hk : slot.kind = "array<object>") (ih : WithinOn bare slot.children) :
    Within (BareDefect bare p v) (checkKind [] slot v p) (checkKind [] slot w p) := by
  rcases h.rows_or hv with ⟨xs, ys, hx, hy, hl, hrows⟩ | ⟨hx, hy⟩
  · rw [checkKind_rows hk hx, checkKind_rows hk hy]
    apply Within.forM_zipIdx hl
    intro i x y hxi hyi
    rw [Nat.zero_add]
    exact ((hrows i x y hxi hyi).within ih i).imp fun d hd => ⟨hd.1, hd.2.of_row hx hxi⟩
  · rw [checkKind_noRows hk hx, checkKind_noRows hk hy]
    exact .inl rfl

theorem Agrees.within_kind (h : Agrees bare slot v w) (hv : isVoid v = false)
    (ih : WithinOn bare slot.children) :
    Within (BareDefect bare p v) (checkKind [] slot v p) (checkKind [] slot w p) := by
  by_cases hobject : slot.kind = "object"
  · rcases h.object_or hv hobject with ⟨ms, ns, rfl, rfl, hon⟩ | ⟨hno, hno'⟩
    · rw [checkKind_object hobject, checkKind_object hobject]
      exact ih hon
    · rw [checkKind_notObject hobject hno, checkKind_notObject hobject hno']
      exact .inl rfl
  by_cases hrows : slot.kind = "array<object>"
  · exact h.within_rows hv hrows ih
  have heq := h.equals hv hobject hrows
  apply Within.of_eq
  by_cases himage : slot.kind = "image"
  · rw [checkKind_image himage, checkKind_image himage]
    exact checkImage_congr heq
  by_cases himages : slot.kind = "array-image"
  · rw [checkKind_images himages, checkKind_images himages]
    exact checkImages_congr heq
  have hother : slot.kind ∉ askingKinds := by
    simp [askingKinds, himage, himages, hobject, hrows]
  rw [checkKind_of_not_mem hother, checkKind_of_not_mem hother]

mutual

theorem within_checkSlot {bare : Slot → Prop} {p : Place} {v w : Value} : (slot : Slot) →
    Agrees bare slot v w →
    Within (BareDefect bare p v) (checkSlot [] p v slot) (checkSlot [] p w slot)
  | ⟨key, label, kind, rules, children⟩, h => by
    cases hv : isVoid v with
    | true =>
      rw [checkSlot_of_isVoid hv, checkSlot_of_isVoid (h.isVoid_eq ▸ hv)]
      exact .inl rfl
    | false =>
      rw [checkSlot_eq hv, checkSlot_eq (h.isVoid_eq ▸ hv)]
      apply Within.bind (.of_eq (checkJson_congr (h.map_seeText hv)))
      apply Within.bind (.of_eq (checkMarkdown_congr (h.map_seeText hv)))
      apply Within.bind (h.within_kind hv (within_checkSlots children))
      exact h.within_rules hv

theorem within_checkSlots {bare : Slot → Prop} : (slots : List Slot) → WithinOn bare slots
  | [], _, _, _, _ => .inl rfl
  | slot :: slots, p, ms, ns, h => by
    obtain ⟨hslot, hslots⟩ := List.forall_mem_cons.1 h
    have hfirst := within_checkSlot slot (p := p.field slot) hslot
    exact (hfirst.imp fun d hd => ⟨hd.1, hd.2.of_field⟩).bind (within_checkSlots slots hslots)

end

/-! ### Records -/

theorem within_validate {schema : Schema}
    (h : ∀ slots, schema.slots = .ok slots → AgreesOn bare slots ms ns) :
    Within (BareDefect bare .root (.object ms)) (validate schema (.object ms) [])
      (validate schema (.object ns) []) := by
  rw [validate, validate]
  cases hs : schema.slots with
  | error fault => exact .inl rfl
  | ok slots => exact within_checkSlots slots (h slots hs)

/-- Records that agree on the declared fields are both accepted, or refused in the same way. -/
theorem validate_eq_of_agreesOn {schema : Schema}
    (h : ∀ slots, schema.slots = .ok slots → AgreesOn (fun _ => False) slots ms ns) :
    validate schema (.object ms) [] = validate schema (.object ns) [] := by
  rcases within_validate h with h | ⟨d, ⟨⟨slot, hbare, -⟩, -⟩, -⟩
  · exact h.symm
  · exact hbare.elim

def cityField : FormField :=
  { key := "city", label := "City", kind := "string", rules := [⟨"min", some "2", none⟩] }

/-- A form for a name and an address. -/
def addressForm : Form :=
  { name := "F", createdAt := "2024-01-01T00:00:00+00:00",
    fields := [{ key := "name", label := "Name", kind := "string" },
      { key := "address", label := "Address", kind := "object", children := some [cityField] }] }

/-- An empty name, and an address with a note that nothing declares. -/
def notedAddress : List (String × Value) :=
  [("name", .text ""), ("address", .object [("note", .int 1), ("city", .text "X")])]

def plainAddress : List (String × Value) :=
  [("address", .object [("city", .text "X")]), ("agreed", .bool true)]

theorem validate_eq_address :
    (∀ slots, (Schema.form addressForm).slots = .ok slots →
      AgreesOn (fun _ => False) slots notedAddress plainAddress) ∧
    validate (.form addressForm) (.object notedAddress) [] =
      validate (.form addressForm) (.object plainAddress) [] := by
  have h : ∀ slots, (Schema.form addressForm).slots = .ok slots →
      AgreesOn (fun _ => False) slots notedAddress plainAddress := by
    rintro slots ⟨⟩ slot hslot
    simp only [addressForm, cityField, ofFields, ofField, ofChildren, List.mem_cons,
      List.not_mem_nil, or_false] at hslot
    rcases hslot with rfl | rfl
    · exact .void rfl rfl
    · apply Agrees.object (.inl rfl)
      exact List.forall_mem_singleton.2 (.equal (.refl _))
  exact ⟨h, validate_eq_of_agreesOn h⟩

end Formwork.Record
