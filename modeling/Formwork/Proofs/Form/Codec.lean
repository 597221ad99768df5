import Formwork.Proofs.Form.Reloading
import Formwork.Proofs.Rendering.Validation

/-!
Forms on the wire. A form that is written and read back is the same again, down to the metadata of the
fields at every depth, unless these hold a number that is not finite; a rendered form is always the
same again.
-/
namespace Formwork

/-! ### Data of any shape -/

namespace Value

mutual

/-- No number in the value, at any depth, is an infinity or no number at all. -/
def isFinite : Value → Bool
  | .float (.nan _) | .float (.infinite _) => false
  | .list items => itemsFinite items
  | .object members => membersFinite members
  | _ => true

def itemsFinite : List Value → Bool
  | [] => true
  | v :: vs => v.isFinite && itemsFinite vs

def membersFinite : List (String × Value) → Bool
  | [] => true
  | (_, v) :: ms => v.isFinite && membersFinite ms

end

mutual

/-- Finite values, and no others, are stored as they are. -/
theorem stored_eq_self_iff : (v : Value) → v.stored = v ↔ v.isFinite = true
  | .null | .bool _ | .int _ | .text _ => by simp [stored, isFinite]
  | .float x => by cases x <;> simp [stored, isFinite]
  | .list items => by
    rw [stored, isFinite, list.injEq]
    exact storedItems_eq_self_iff items
  | .object members => by
    rw [stored, isFinite, object.injEq]
    exact storedMembers_eq_self_iff members

theorem storedItems_eq_self_iff : (vs : List Value) → storedItems vs = vs ↔ itemsFinite vs = true
  | [] => by simp [storedItems, itemsFinite]
  | v :: vs => by
    rw [storedItems, itemsFinite, List.cons.injEq, Bool.and_eq_true, stored_eq_self_iff v,
      storedItems_eq_self_iff vs]

theorem storedMembers_eq_self_iff : (ms : List (String × Value)) →
    storedMembers ms = ms ↔ membersFinite ms = true
  | [] => by simp [storedMembers, membersFinite]
  | (k, v) :: ms => by
    rw [storedMembers, membersFinite, List.cons.injEq, Prod.mk.injEq, Bool.and_eq_true,
      stored_eq_self_iff v, storedMembers_eq_self_iff ms, and_iff_right rfl]

end

end Value

/-! ### Fields -/

/-- The metadata of the field, if it has any, is finite. -/
def FormField.FiniteMetadata (f : FormField) : Prop :=
  ∀ ms, f.metadata = some ms → Value.membersFinite ms = true

theorem finiteMetadata_iff (f : FormField) :
    f.metadata.map Value.storedMembers = f.metadata ↔ f.FiniteMetadata := by
  rw [FormField.FiniteMetadata]
  cases f.metadata with
  | none => simp
  | some ms => simp [Value.storedMembers_eq_self_iff]

mutual

theorem FormField.stored_eq_self_iff : (f : FormField) → (f.stored = f ↔ f.FiniteMetadata ∧
    ∀ gs, f.children = some gs → Throughout FormField.FiniteMetadata gs)
  | ⟨key, label, kind, required, inTable, unique, options, item, children, rules, visibility,
      metadata⟩ => by
    rw [← finiteMetadata_iff, ← FormField.storedChildren_eq_self_iff children]
    simp [FormField.stored, and_comm]

theorem FormField.storedChildren_eq_self_iff : (children : Option (List FormField)) →
    (FormField.storedChildren children = children ↔
      ∀ gs, children = some gs → Throughout FormField.FiniteMetadata gs)
  | none => by simp [FormField.storedChildren]
  | some fs => by simp [FormField.storedChildren, FormField.storedAll_eq_self_iff fs]

/-- Fields come back as they were exactly if the metadata at every depth is finite. -/
theorem FormField.storedAll_eq_self_iff : (fs : List FormField) →
    (FormField.storedAll fs = fs ↔ Throughout FormField.FiniteMetadata fs)
  | [] => iff_of_true (by rw [FormField.storedAll]) throughout_nil
  | f :: fs => by
    rw [FormField.storedAll, List.cons.injEq, FormField.stored_eq_self_iff f,
      FormField.storedAll_eq_self_iff fs, throughout_cons_iff, and_assoc]

end

/-! ### Forms -/

open Value

/-- A form is read back from its stored shape. -/
theorem Form.decode?_toValue (f : Form) :
    Form.decode? f.toValue = some { f with fields := FormField.storedAll f.fields } := by
  obtain ⟨name, version, tenant, status, createdAt, fields⟩ := f
  have hstatus : FormStatus.ofName? status.name = some status := by cases status <;> rfl
  have hnil (key : String) : find? [] key = none := rfl
  simp only [decode?, toValue, toObject?, Option.bind_eq_bind, Option.bind_some]
  rw [needed_eq (v := .text name) (a := name), defaulted_eq (v := .text version) (a := version),
    optional_eq (o := tenant) (w := .text) (f := fun s => s),
    defaulted_eq (v := .text status.name) (a := status),
    needed_eq (v := .text createdAt) (a := createdAt),
    defaulted_eq (v := .list (FormField.toValues .omit fields)) (a := FormField.storedAll fields)]
  · simp
  all_goals simp [under?_cons, under?_nil, find?_cons, find?_member_append, toText?, toList?,
    FormField.decodeAll_toValues, hstatus, hnil]

/-- A form that is sent over the wire and read back is the same again exactly if the metadata of its
fields is finite at every depth. Its rendered form is the same again in any case. -/
theorem decode_wire_iff (f : Form) :
    (Form.decode? f.toValue = some f ↔ Throughout FormField.FiniteMetadata f.fields) ∧
      RenderedForm.decode? f.render.toValue = some f.render := by
  have hform : Form.decode? f.toValue = some f ↔ FormField.storedAll f.fields = f.fields := by
    rw [Form.decode?_toValue]
    obtain ⟨_⟩ := f
    simp
  exact ⟨hform.trans (FormField.storedAll_eq_self_iff f.fields),
    RenderedForm.decode?_toValue_render f⟩

/-- A form with an infinity in the metadata of its field. -/
def unboundedForm : Form :=
  { name := "F", createdAt := "2024-01-01T00:00:00+00:00",
    fields := [{ key := "a", label := "a", kind := "string",
                 metadata := some [("x", .float (.infinite false))] }] }

/-- The infinity comes back as null. -/
theorem decode_unboundedForm_ne : Form.decode? unboundedForm.toValue ≠ some unboundedForm := by
  intro h
  rw [Form.decode?_toValue] at h
  have hfields := congrArg Form.fields (Option.some.inj h)
  have hfinite := (FormField.storedAll_eq_self_iff unboundedForm.fields).1 hfields
  exact absurd (hfinite _ .here _ rfl) (by decide)

end Formwork
