import Formwork.Proofs.Form.Wire
import Formwork.Record.Check

/-!
Rendered forms ask for the same records. A rendered field yields the slot of the field that it was
made from, up to a rule for its flag that asks nothing of a value, and a rendered form is read back
from the wire as it was sent. So records are validated alike against a form, its rendered form and
the rendered form on the far side.
-/
namespace Formwork
open Formwork.Idl Formwork.Record

/-! ### Slots -/

mutual

/-- What is lost of a field on the wire plays no part in validation. -/
theorem ofField_stored : (f : FormField) → ofField f.stored = ofField f
  | { children, .. } => by
    simp only [FormField.stored, ofField, ofChildren_storedChildren children]

theorem ofChildren_storedChildren : (children : Option (List FormField)) →
    ofChildren (FormField.storedChildren children) = ofChildren children
  | none => by simp only [FormField.storedChildren]
  | some fs => by simp only [FormField.storedChildren, ofChildren, ofFields_storedAll fs]

theorem ofFields_storedAll : (fs : List FormField) → ofFields (FormField.storedAll fs) = ofFields fs
  | [] => by simp only [FormField.storedAll]
  | f :: fs => by
    simp only [FormField.storedAll, ofFields, ofField_stored f, ofFields_storedAll fs]

end

/-- The children that a rendered field describes have the slots of the field's children. -/
theorem describedFields_props (f : FormField) :
    ∃ fs, describedFields (Value.get f.props "objectFields") = .ok fs ∧
      ofFields fs = ofChildren f.children := by
  have hg : Value.get f.props "objectFields" =
      (FormField.childValues .omit f.children).getD .null := by
    simp [FormField.props, Value.get, Value.find?_cons, Value.find?_member_append,
      Value.find?_member]
  rw [hg]
  cases f.children with
  | none => exact ⟨[], by simp [FormField.childValues, describedFields, Value.truth], rfl⟩
  | some fs =>
    cases fs with
    | nil =>
      exact ⟨[], by simp [FormField.childValues, FormField.toValues, describedFields, Value.truth],
        rfl⟩
    | cons f fs =>
      refine ⟨FormField.storedAll (f :: fs), ?_, ofFields_storedAll (f :: fs)⟩
      have hd := FormField.decodeAll_toValues (f :: fs)
      simp only [FormField.childValues, Option.getD_some, describedFields]
      rw [hd]
      simp [Value.truth, FormField.toValues]

theorem label_render (f : FormField) :
    f.render.label.plain = if f.label.isEmpty then f.key else f.label := by
  have hg : Value.get f.render.props "label" = .text f.label := by
    simp [FormField.render, FormField.props, Value.get, Value.find?_cons]
  rw [RenderedField.label, hg]
  by_cases h : f.label.isEmpty <;> simp [Value.truth, h, Value.plain, FormField.render]

/-- A rendered field yields the slot of its field, with the rules that the renderer is given. -/
theorem ofRendered_render (f : FormField) :
    ofRendered f.render = .ok { ofField f with rules := f.renderedRules } := by
  obtain ⟨fs, hd, hs⟩ := describedFields_props f
  have hp : f.render.props = f.props := rfl
  rw [ofRendered, hp, hd, label_render]
  obtain ⟨_⟩ := f
  simp only [ofField, ← hs]
  rfl

/-! ### Validation -/

theorem checkRule_required (checks : Checks) (value : Value) (p : Place) :
    checkRule checks value p { type := "required" } = .ok () := by
  rfl

theorem forM_renderedRules (checks : Checks) (value : Value) (p : Place) (f : FormField) :
    f.renderedRules.forM (checkRule checks value p) = f.rules.forM (checkRule checks value p) := by
  unfold FormField.renderedRules
  split
  · change (checkRule checks value p _ >>= fun _ => f.rules.forM _) = _
    rw [checkRule_required]
    rfl
  · rfl

theorem hasRule_renderedRules (type : String) (h : "required" ≠ type) (f : FormField) :
    hasRule f.renderedRules type = hasRule f.rules type := by
  unfold FormField.renderedRules
  split
  · simp [hasRule, h]
  · rfl

/-- The rules that a renderer is given ask no more of a value than the rules of the field. -/
theorem checkSlot_renderedRules (checks : Checks) (p : Place) (value : Value) (f : FormField) :
    checkSlot checks p value { ofField f with rules := f.renderedRules } =
      checkSlot checks p value (ofField f) := by
  have hj := hasRule_renderedRules "json" (by decide) f
  have hm := hasRule_renderedRules "markdown" (by decide) f
  have hr := forM_renderedRules checks value p f
  obtain ⟨key, label, kind, required, _, _, _, _, children, rules, _, _⟩ := f
  simp only [ofField]
  rw [checkSlot, checkSlot]
  simp only [checkJson, checkMarkdown, Slot.has, hj, hm, hr]
  rfl

theorem checkSlots_render (checks : Checks) (p : Place) (members : List (String × Value))
    (fs : List FormField) :
    checkSlots checks p members
        (fs.map fun f => { ofField f with rules := f.renderedRules }) =
      checkSlots checks p members (ofFields fs) := by
  induction fs with
  | nil => rfl
  | cons f fs ih =>
    have hf : p.field { ofField f with rules := f.renderedRules } = p.field (ofField f) := rfl
    simp only [List.map_cons, ofFields, checkSlots, hf, checkSlot_renderedRules, ih]

theorem slots_render (f : Form) :
    (Schema.rendered f.render).slots =
      .ok (f.fields.map fun g => { ofField g with rules := g.renderedRules }) := by
  have h (fs : List FormField) : (fs.map FormField.render).mapM ofRendered =
      .ok (fs.map fun g => { ofField g with rules := g.renderedRules }) := by
    induction fs with
    | nil => rfl
    | cons g fs ih =>
      rw [List.map_cons, List.mapM_cons, ofRendered_render, ih]
      rfl
  exact h f.fields

/-- A form and its rendered form refuse the same records for the same reasons. -/
theorem validate_render (f : Form) (record : Value) (checks : Checks) :
    validate (.rendered f.render) record checks = validate (.form f) record checks := by
  cases record with
  | object members =>
    have h := checkSlots_render checks .root members f.fields
    simp only [validate, slots_render]
    exact h
  | _ => rfl

/-! ### The wire -/

/-- The properties of a rendered field are stored as they are. -/
theorem FormField.storedMembers_props (f : FormField) : Value.storedMembers f.props = f.props := by
  have ho := Value.storedItems_eq_self ((f.options.getD []).map FormOption.toValue) fun v hv => by
    obtain ⟨o, ho, rfl⟩ := List.mem_map.1 hv
    exact o.stored_toValue
  simp only [props, Value.storedMembers_append, Value.storedMembers, Value.stored, ho]
  rw [Nulls.storedMembers_member, Nulls.storedMembers_member]
  · exact FormField.stored_childValues f.children
  · simp +contextual [Value.stored]

theorem RenderedField.decode?_toValue (f : RenderedField)
    (h : Value.storedMembers f.props = f.props) : RenderedField.decode? f.toValue = some f := by
  obtain ⟨id', component, props, rules, visibleWhen, valueProp⟩ := f
  simp only [decode?, toValue, Value.toObject?, Option.bind_eq_bind, Option.bind_some, h,
    List.cons_append, List.nil_append]
  rw [Value.needed_eq (v := .text id') (a := id'),
    Value.needed_eq (v := .text component) (a := component),
    Value.defaulted_eq (v := .object props) (a := props), decodeRules_eq rules,
    Value.optional_eq (o := visibleWhen) (w := .text) (f := fun s => s),
    Value.optional_eq (o := valueProp) (w := .text) (f := fun s => s)]
  · simp
  all_goals simp [Value.under?_cons, Value.under?_nil, Value.find?_cons,
    Value.find?_member_append, Value.find?_member, Value.toText?, Value.toObject?]

/-- A rendered form is read back from the wire as it was sent. -/
theorem RenderedForm.decode?_toValue_render (f : Form) :
    RenderedForm.decode? f.render.toValue = some f.render := by
  have hf (fs : List FormField) : ((fs.map FormField.render).map RenderedField.toValue).mapM
      RenderedField.decode? = some (fs.map FormField.render) := by
    induction fs with
    | nil => rfl
    | cons g fs ih =>
      have hg := RenderedField.decode?_toValue g.render g.storedMembers_props
      simp only [List.map_cons, List.mapM_cons, hg, ih, Option.bind_eq_bind, Option.bind_some,
        Option.pure_def]
  simp only [decode?, toValue, Value.toObject?, Option.bind_eq_bind, Option.bind_some]
  rw [Value.needed_eq (v := .text f.render.id) (a := f.render.id),
    Value.needed_eq (v := .text f.render.version) (a := f.render.version),
    Value.defaulted_eq (v := .list (f.render.fields.map RenderedField.toValue))
      (a := f.render.fields)]
  · rfl
  · rfl
  · exact hf f.fields
  all_goals rfl

/-- A form, its rendered form, and the rendered form sent over the wire and read back refuse the same
records for the same reasons. -/
theorem validate_render_wire (f : Form) (record : Value) (checks : Checks) :
    validate (.rendered f.render) record checks = validate (.form f) record checks ∧
      ∃ received, RenderedForm.decode? f.render.toValue = some received ∧
        validate (.rendered received) record checks = validate (.form f) record checks :=
  ⟨validate_render f record checks, f.render, RenderedForm.decode?_toValue_render f,
    validate_render f record checks⟩

end Formwork
