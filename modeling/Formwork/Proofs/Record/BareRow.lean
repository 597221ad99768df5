import Formwork.Proofs.Record.Agreement
import Formwork.Proofs.Record.FirstDefect

/-!
Single objects in place of lists of objects. Validation takes such an object for the only row, and it
has the same outcome as for the list of that row, except that only the list has a size: a rule about
the size of the list does not see the object.
-/
namespace Formwork.Record

variable {checks : Checks} {slot : Slot} {slots : List Slot} {ms ns : List (String × Value)}
  {v w : Value} {t : Turn} {d : Defect}

/-! ### Complaints about a size are about something that has one -/

theorem BreaksRule.size?_ne_none {r : Rule} {flaw : Flaw} (h : BreaksRule checks v r flaw)
    (hf : flaw = .tooShort ∨ flaw = .tooLong) : size? v ≠ none := by
  cases h with
  | min _ hs | max _ hs => simp [hs]
  | pattern | custom | other => simp at hf

theorem Breaks.size?_ne_none {part : List Step} {flaw : Flaw}
    (h : Breaks checks slot v t part w flaw) (hf : flaw = .tooShort ∨ flaw = .tooLong) :
    size? w ≠ none := by
  cases h with
  | json => simp at hf
  | markdown _ _ h => cases h <;> simp at hf
  | kind h => cases h <;> simp at hf
  | rule _ h => exact h.size?_ne_none hf

mutual

theorem FieldDefect.size?_ne_none {slot : Slot} {v : Value} {t : Turn} {w : Value} {d : Defect} :
    FieldDefect checks slot v t w d → d.flaw = .tooShort ∨ d.flaw = .tooLong → size? w ≠ none
  | .own _ h => h.size?_ne_none
  | .object _ h => h.size?_ne_none
  | .row _ _ _ h => h.size?_ne_none

theorem DefectAt.size?_ne_none {slots : List Slot} {ms : List (String × Value)} {t : Turn}
    {w : Value} {d : Defect} :
    DefectAt checks slots ms t w d → d.flaw = .tooShort ∨ d.flaw = .tooLong → size? w ≠ none
  | .field _ h => h.size?_ne_none

end

/-- No outcome complains about the size of an object. -/
theorem not_bareSize_of_validate {schema : Schema}
    (hd : validate schema (.object ms) checks = .error (.defect d)) :
    ¬BareSize .root (.object ms) d := by
  rintro ⟨hflaw, steps, row, hpath, hat⟩
  obtain ⟨slots, hs⟩ := exists_slots_of_validate fun fault he => by cases he.symm.trans hd
  obtain ⟨t, e, rfl, ⟨w, h⟩, -⟩ := (finds_validate hs ms checks).first d hd
  obtain rfl : e.path = steps := hpath
  -- The path leads to the value that is flawed, and an object has no size.
  have hw : w = .object row := Option.some.inj (h.at?_eq.symm.trans hat)
  exact h.size?_ne_none hflaw (hw ▸ rfl)

/-- Where single objects are put into lists, validation has the same outcome exactly if it does not
complain about the size of one of these lists. -/
theorem validate_listed_iff {schema : Schema}
    (h : ∀ slots, schema.slots = .ok slots → AgreesOn (fun _ => True) slots ms ns) :
    validate schema (.object ns) [] = validate schema (.object ms) [] ↔
      ∀ d, validate schema (.object ns) [] = .error (.defect d) →
        ¬BareSize .root (.object ms) d := by
  constructor
  · intro he d hd
    exact not_bareSize_of_validate (he.symm.trans hd)
  · intro hno
    rcases within_validate h with he | ⟨d, ⟨-, hsize⟩, hd⟩
    · exact he
    · exact absurd hsize (hno d hd)

/-- Where no field whose lists are put in has a rule about a size, validation has the same outcome. -/
theorem validate_listed_of_not_measured {schema : Schema}
    (h : ∀ slots, schema.slots = .ok slots → AgreesOn (fun slot => ¬slot.Measured) slots ms ns) :
    validate schema (.object ns) [] = validate schema (.object ms) [] := by
  rcases within_validate h with he | ⟨d, ⟨⟨slot, hno, hm⟩, -⟩, -⟩
  · exact he
  · exact absurd hm hno

/-! ### One object in place of a list -/

theorem find?_cons (m : String × Value) (ms : List (String × Value)) (key : String) :
    Value.find? (m :: ms) key = if key = m.1 then some m.2 else Value.find? ms key := by
  rw [Value.find?, List.lookup_cons]
  by_cases h : key = m.1
  · simp [h]
  · rw [if_neg h, beq_false_of_ne h]
    rfl

theorem find?_put (key : String) (v : Value) (ms : List (String × Value)) (other : String) :
    Value.find? (Value.put key v ms) other =
      if other = key then some v else Value.find? ms other := by
  induction ms with
  | nil => rw [Value.put, Keyed.put, find?_cons]
  | cons m ms ih =>
    rw [Value.put, Keyed.put]
    split
    · next hm =>
      rw [find?_cons, find?_cons, hm]
      split <;> rfl
    · next hm =>
      rw [find?_cons, find?_cons]
      split
      · next ho => rw [if_neg (ho ▸ hm)]
      · exact ih

/-- A row under a key of lists of objects agrees with the list of it. -/
theorem agreesOn_put {key : String}
    (hk : ∀ slot ∈ slots, slot.key = key → slot.kind = "array<object>")
    (row ms : List (String × Value)) :
    AgreesOn (fun _ => True) slots (Value.put key (.object row) ms)
      (Value.put key (.list [.object row]) ms) := by
  intro slot hslot
  rw [Value.get, Value.get, find?_put, find?_put]
  split
  · next he => exact .listed trivial (hk slot hslot he) fun child _ => .equal (.refl _)
  · exact .equal (.refl _)

/-- A form for two items or more. -/
def itemsForm : Form :=
  { name := "F", createdAt := "2024-01-01T00:00:00+00:00",
    fields := [{ key := "items", label := "Items", kind := "array<object>",
                 children := some [{ key := "sku", label := "SKU", kind := "string" }],
                 rules := [⟨"min", some "2", none⟩] }] }

theorem kind_itemsForm {slots : List Slot} (hs : (Schema.form itemsForm).slots = .ok slots) :
    ∀ slot ∈ slots, slot.key = "items" → slot.kind = "array<object>" := by
  cases hs
  exact List.forall_mem_singleton.2 fun _ => rfl

theorem validate_listed_itemsForm :
    let row := [("sku", Value.text "A")]
    let ms := Value.put "items" (.object row) []
    let ns := Value.put "items" (.list [.object row]) []
    (∀ slots, (Schema.form itemsForm).slots = .ok slots → AgreesOn (fun _ => True) slots ms ns) ∧
      (validate (.form itemsForm) (.object ns) [] = validate (.form itemsForm) (.object ms) [] ↔
        ∀ d, validate (.form itemsForm) (.object ns) [] = .error (.defect d) →
          ¬BareSize .root (.object ms) d) := by
  intro row ms ns
  have h : ∀ slots, (Schema.form itemsForm).slots = .ok slots →
      AgreesOn (fun _ => True) slots ms ns :=
    fun slots hs => agreesOn_put (kind_itemsForm hs) row []
  exact ⟨h, validate_listed_iff h⟩

/-- One item is too few, but not where it stands for the list. -/
theorem not_validate_put_itemsForm :
    ¬∀ (schema : Schema) (slots : List Slot) (key : String) (row ms : List (String × Value)),
      schema.slots = .ok slots →
      (∀ slot ∈ slots, slot.key = key → slot.kind = "array<object>") →
      validate schema (.object (Value.put key (.list [.object row]) ms)) [] =
        validate schema (.object (Value.put key (.object row) ms)) [] := by
  intro h
  have he := h (.form itemsForm) _ "items" [("sku", .text "A")] [] rfl (kind_itemsForm rfl)
  have hlist : validate (.form itemsForm)
      (.object (Value.put "items" (.list [.object [("sku", .text "A")]]) [])) [] =
      .error (.defect ⟨.tooShort, [.key "items"], ["Items"]⟩) := by decide +kernel
  have hrow : validate (.form itemsForm)
      (.object (Value.put "items" (.object [("sku", .text "A")]) [])) [] = .ok () := by
    decide +kernel
  rw [hlist, hrow] at he
  cases he

end Formwork.Record
