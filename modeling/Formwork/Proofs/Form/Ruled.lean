import Formwork.Proofs.Form.Unfolding

/-!
The rules of compiled fields. They come from annotations alone: a pattern, and a rule for the texts
of JSON or of markdown where that widget is selected. Widgets are only for texts, but the rules are
attached to fields of every kind.
-/
namespace Formwork
open Formwork.Idl

/-- The kinds that single texts and lists of images have. -/
def textKinds : List String := ["string", "textarea", "json", "markdown", "image", "array-image"]

/-- What the rules of a compiled field and of the fields below it are. -/
inductive Ruled : FormField → Prop
  | intro {f : FormField} (types : ∀ r ∈ f.rules, r.type ∈ ["pattern", "json", "markdown"])
      (own : f.kind ∈ textKinds → ∀ type, type ≠ "pattern" → f.has type = true → f.kind = type)
      (children : ∀ fs, f.children = some fs → ∀ g ∈ fs, Ruled g) : Ruled f

theorem type_mem_of_mem_annotatedRules {info : FieldMeta} {r : Rule}
    (hr : r ∈ annotatedRules info) : r.type ∈ ["pattern", "json", "markdown"] := by
  simp only [annotatedRules, List.mem_append] at hr
  rcases hr with (hr | hr) | hr
  · split at hr
    · split at hr
      · cases hr
      · rw [List.mem_singleton.1 hr]
        exact .head _
    · cases hr
  · split at hr
    · rw [List.mem_singleton.1 hr]
      exact .tail _ (.head _)
    · cases hr
  · split at hr
    · rw [List.mem_singleton.1 hr]
      exact .tail _ (.tail _ (.head _))
    · cases hr

/-- A rule that is no pattern comes from the widget of its name. -/
theorem widget_of_hasRule {info : FieldMeta} {type : String} (hp : type ≠ "pattern")
    (h : hasRule (annotatedRules info) type = true) :
    info.widget = some type ∧ (type = "json" ∨ type = "markdown") := by
  simp only [hasRule, annotatedRules, List.any_append, Bool.or_eq_true] at h
  rcases h with (h | h) | h
  · split at h
    · split at h
      · cases h
      · exact absurd (by simpa using h) (Ne.symm hp)
    · cases h
  · split at h
    · next hw =>
      obtain rfl : "json" = type := by simpa using h
      exact ⟨hw, .inl rfl⟩
    · cases h
  · split at h
    · next hw =>
      obtain rfl : "markdown" = type := by simpa using h
      exact ⟨hw, .inr rfl⟩
    · cases h

section

variable {f : FormField} {info : FieldMeta} (hr : f.rules = annotatedRules info)
include hr

theorem Ruled.of_annotatedRules
    (hown : f.kind ∈ textKinds → ∀ type, info.widget = some type →
      type = "json" ∨ type = "markdown" → f.kind = type)
    (hchildren : ∀ fs, f.children = some fs → ∀ g ∈ fs, Ruled g) : Ruled f := by
  refine .intro (fun r hm => ?_) (fun hk type hp h => ?_) hchildren
  · rw [hr] at hm
    exact type_mem_of_mem_annotatedRules hm
  · rw [FormField.has, hr] at h
    obtain ⟨hw, ht⟩ := widget_of_hasRule hp h
    exact hown hk type hw ht

theorem Ruled.of_kind (kind : String) (hk : f.kind = kind)
    (hchildren : ∀ fs, f.children = some fs → ∀ g ∈ fs, Ruled g)
    (h : kind ∉ textKinds := by decide) : Ruled f :=
  .of_annotatedRules hr (fun hm => absurd (hk ▸ hm) h) hchildren

end

theorem toFormFields_eq_map (rs : List ResolvedField) :
    ResolvedField.toFormFields rs = rs.map ResolvedField.toFormField := by
  induction rs with
  | nil => rfl
  | cons r rs ih => rw [ResolvedField.toFormFields, ih, List.map_cons]

theorem ruled_ofScalar (f : FieldDecl) (s : Scalar) :
    Ruled (ResolvedField.ofScalar f s).toFormField := by
  unfold ResolvedField.ofScalar
  split
  · -- A single text has the kind of its widget.
    refine .of_annotatedRules rfl (fun _ type hw ht => ?_) nofun
    rw [hw]
    rcases ht with rfl | rfl <;> rfl
  · split
    · next hw =>
      refine .of_annotatedRules rfl (fun _ type hw' ht => ?_) nofun
      rw [hw] at hw'
      rcases ht with rfl | rfl <;> exact absurd hw' (by decide)
    · exact .of_kind rfl "array" rfl nofun
  · exact .of_kind rfl "number" rfl nofun
  · exact .of_kind rfl "array" rfl nofun
  · exact .of_kind rfl "switch" rfl nofun
  · exact .of_kind rfl "checkbox-group" rfl nofun

theorem ruled_ofEnumeration (f : FieldDecl) (e : Enumeration) :
    Ruled (ResolvedField.ofEnumeration f e).toFormField := by
  unfold ResolvedField.ofEnumeration
  split
  · exact .of_kind rfl "checkbox-group" rfl nofun
  · exact .of_kind rfl "select" rfl nofun

theorem ruled_ofMessage (f : FieldDecl) {rs : List ResolvedField}
    (h : ∀ r ∈ rs, Ruled r.toFormField) : Ruled (ResolvedField.ofMessage f rs).toFormField := by
  have hchildren : ∀ fs, some (ResolvedField.toFormFields rs) = some fs → ∀ g ∈ fs, Ruled g := by
    rintro _ ⟨⟩ g hg
    rw [toFormFields_eq_map] at hg
    obtain ⟨r, hr, rfl⟩ := List.mem_map.1 hg
    exact h r hr
  unfold ResolvedField.ofMessage
  split
  · exact .of_kind rfl "array<object>" rfl hchildren
  · exact .of_kind rfl "object" rfl hchildren

theorem Unfolds.ruled {types : Types} {expanded : List Message → Prop} {chain : List Message}
    {fs : List FieldDecl} {rs : List ResolvedField} (h : Unfolds types expanded chain fs rs) :
    ∀ r ∈ rs, Ruled r.toFormField := by
  induction h with
  | nil => exact fun r hr => nomatch hr
  | unknown ht hs ih => exact ih
  | scalar ht hs ih => exact List.forall_mem_cons.2 ⟨ruled_ofScalar _ _, ih⟩
  | enumeration ht hs ih => exact List.forall_mem_cons.2 ⟨ruled_ofEnumeration _ _, ih⟩
  | expand ht he hm hs ihm ih => exact List.forall_mem_cons.2 ⟨ruled_ofMessage _ ihm, ih⟩
  | drop ht he hs ih => exact ih

/-- Every field of a compiled form is ruled. -/
theorem ruled_of_compile {text : List Char} {app : String} {config : CompilerConfig} {stamp : Stamp}
    {form : Form} {notices : List Notice}
    (h : compile text app config stamp = .ok (some form, notices)) :
    ∀ f ∈ form.fields, Ruled f := by
  obtain ⟨d, root, rs, -, -, hu, hfields⟩ := exists_unfolds_of_compile h
  intro f hf
  rw [hfields, toFormFields_eq_map] at hf
  obtain ⟨r, hr, rfl⟩ := List.mem_map.1 hf
  exact hu.ruled r hr

end Formwork
