import Formwork.Extension.Registry
import Formwork.Proofs.Form.Ruled
import Formwork.Proofs.Form.Wire
import Formwork.Proofs.Idl.Sound

/-!
The shape of compiled forms. At every depth a field has a kind with a component of its own, has
what that kind needs and nothing else, and its rules are few and can be applied.
-/
namespace Formwork
open Formwork.Idl Formwork.Text

/-- `f` is one of the fields or lies below one of them. -/
inductive FormField.Within (f : FormField) : List FormField → Prop
  | here {fs} : Within f (f :: fs)
  | child {g gs fs} (hg : g.children = some gs) (h : Within f gs) : Within f (g :: fs)
  | later {g fs} (h : Within f fs) : Within f (g :: fs)

theorem FormField.within_of_mem {f : FormField} {fs : List FormField} (h : f ∈ fs) :
    f.Within fs := by
  induction h with
  | head => exact .here
  | tail _ _ ih => exact .later ih

/-- A rule that annotations ask for. -/
structure Rule.Annotated (r : Rule) : Prop where
  type : r.type ∈ ["pattern", "json", "markdown"]
  pattern : r.type = "pattern" → ∃ p, r.value = some p ∧ p ≠ "" ∧ Readable p

structure FormField.Shaped (f : FormField) : Prop where
  kind : f.kind ∈ Extension.builtinTypes
  itemType : if f.kind = "array" then f.itemType ∈ [some "string", some "number"]
    else f.itemType = none
  options : f.options.isSome = true ↔ f.kind ∈ ["select", "checkbox-group"]
  children : f.children.isSome = true ↔ f.kind ∈ ["object", "array<object>"]
  label : f.label ≠ ""
  key : IsName f.key.toList
  rules : ∀ r ∈ f.rules, r.Annotated
  distinct : (f.rules.map (·.type)).Nodup

theorem FormField.forall_within_cons {p : FormField → Prop} {f : FormField} {fs : List FormField}
    (hf : p f) (hc : ∀ gs, f.children = some gs → ∀ g, g.Within gs → p g)
    (hfs : ∀ g, g.Within fs → p g) (g : FormField) (h : g.Within (f :: fs)) : p g := by
  cases h with
  | here => exact hf
  | child hg h => exact hc _ hg g h
  | later h => exact hfs g h

/-! ### Rules and labels -/

theorem annotated_of_mem_annotatedRules {info : FieldMeta} (hi : info.Sound) {r : Rule}
    (hr : r ∈ annotatedRules info) : r.Annotated := by
  refine ⟨type_mem_of_mem_annotatedRules hr, fun hp => ?_⟩
  simp only [annotatedRules, List.mem_append] at hr
  rcases hr with (hr | hr) | hr
  · split at hr
    · next p he =>
      split at hr
      · cases hr
      · next hne =>
        rw [List.mem_singleton.1 hr]
        refine ⟨p, rfl, fun he => hne ?_, hi p he⟩
        rw [he]
        rfl
    · cases hr
  · split at hr
    · rw [List.mem_singleton.1 hr] at hp
      exact absurd hp (by decide)
    · cases hr
  · split at hr
    · rw [List.mem_singleton.1 hr] at hp
      exact absurd hp (by decide)
    · cases hr

/-- A field asks for each rule once. -/
theorem nodup_annotatedRules (info : FieldMeta) :
    ((annotatedRules info).map (·.type)).Nodup := by
  have hw (w : String) :
      (List.map Rule.type (if info.widget = some w then [{ type := w }] else [])).Sublist [w] := by
    split
    · exact .refl _
    · exact List.nil_sublist _
  have hsub : ((annotatedRules info).map (·.type)).Sublist ["pattern", "json", "markdown"] := by
    rw [annotatedRules, List.map_append, List.map_append, List.append_assoc]
    refine List.Sublist.append (?_ : List.Sublist _ ["pattern"])
      ((hw "json").append (hw "markdown"))
    split
    · split
      · exact List.nil_sublist _
      · exact .refl _
    · exact List.nil_sublist _
  exact hsub.nodup (by decide)

/-- A name makes a title that is not empty. -/
theorem fieldTitle_ne_nil {name : List Char} (h : IsName name) : fieldTitle name ≠ [] := by
  cases name with
  | nil => exact h.elim
  | cons c cs =>
    have hascii : (if c == '_' then ' ' else c).toNat < 128 := by
      split
      · decide
      · exact toNat_lt_of_isAsciiWord (isAsciiWord_of_isNameStart h.1)
    rw [fieldTitle, underscoresToSpaces, List.map_cons, capitalized, upperChar, if_pos hascii]
    exact List.cons_ne_nil _ _

theorem declaredLabel_ne_empty {f : FieldDecl} (h : IsName f.name.toList) :
    declaredLabel f ≠ "" := by
  have htitle : String.ofList (fieldTitle f.name.toList) ≠ "" := by
    intro he
    exact fieldTitle_ne_nil h (String.ofList_injective he)
  rw [declaredLabel]
  split
  · split
    · exact htitle
    · next l _ hl =>
      rintro rfl
      exact hl rfl
  · exact htitle

/-! ### Kinds -/

/-- What all kinds of resolved fields need. -/
structure FieldBase.Sound (b : FieldBase) : Prop where
  name : IsName b.name.toList
  label : b.label ≠ ""
  rules : ∀ r ∈ b.rules, r.Annotated
  distinct : (b.rules.map (·.type)).Nodup

theorem FieldBase.sound_ofDecl {f : FieldDecl} (h : f.Sound) : (FieldBase.ofDecl f).Sound where
  name := h.name
  label := declaredLabel_ne_empty h.name
  rules _ := annotated_of_mem_annotatedRules h.info
  distinct := nodup_annotatedRules f.info

/-- Each kind of field comes with what it needs. -/
theorem ResolvedField.shaped_toFormField (r : ResolvedField) (h : r.base.Sound) :
    r.toFormField.Shaped := by
  cases r with
  | text b w =>
    refine ⟨?_, ?_, ?_, ?_, h.label, h.name, h.rules, h.distinct⟩ <;>
      cases w <;> simp [toFormField, Widget.kind, Extension.builtinTypes]
  | array b item =>
    refine ⟨?_, ?_, ?_, ?_, h.label, h.name, h.rules, h.distinct⟩ <;>
      cases item <;> simp [toFormField, ItemType.name, Extension.builtinTypes]
  | number b | switch b | select b cs | checkboxGroup b os | imageArray b | object b fs
  | objectArray b fs =>
    refine ⟨?_, ?_, ?_, ?_, h.label, h.name, h.rules, h.distinct⟩ <;>
      simp [toFormField, Extension.builtinTypes]

/-! ### Forms -/

theorem children_toFormField_ofScalar (f : FieldDecl) (s : Scalar) :
    (ResolvedField.ofScalar f s).toFormField.children = none := by
  unfold ResolvedField.ofScalar
  split
  · rfl
  · split <;> rfl
  all_goals rfl

theorem children_toFormField_ofEnumeration (f : FieldDecl) (e : Enumeration) :
    (ResolvedField.ofEnumeration f e).toFormField.children = none := by
  unfold ResolvedField.ofEnumeration
  split <;> rfl

theorem children_toFormField_ofMessage (f : FieldDecl) (rs : List ResolvedField) :
    (ResolvedField.ofMessage f rs).toFormField.children =
      some (ResolvedField.toFormFields rs) := by
  unfold ResolvedField.ofMessage
  split <;> rfl

theorem base_ofScalar (f : FieldDecl) (s : Scalar) :
    (ResolvedField.ofScalar f s).base = .ofDecl f := by
  unfold ResolvedField.ofScalar
  split
  · rfl
  · split <;> rfl
  all_goals rfl

theorem base_ofEnumeration (f : FieldDecl) (e : Enumeration) :
    (ResolvedField.ofEnumeration f e).base = .ofDecl f := by
  unfold ResolvedField.ofEnumeration
  split <;> rfl

theorem base_ofMessage (f : FieldDecl) (rs : List ResolvedField) :
    (ResolvedField.ofMessage f rs).base = .ofDecl f := by
  unfold ResolvedField.ofMessage
  split <;> rfl

theorem shaped_of_base {r : ResolvedField} {f : FieldDecl} (hb : r.base = .ofDecl f)
    (hf : f.Sound) : r.toFormField.Shaped :=
  r.shaped_toFormField (hb ▸ FieldBase.sound_ofDecl hf)

/-- What sound declarations unfold to has its shape at every depth. -/
theorem Unfolds.shaped {types : Types} {expanded : List Message → Prop} {chain : List Message}
    {fs : List FieldDecl} {rs : List ResolvedField} (h : Unfolds types expanded chain fs rs)
    (ht : ∀ name m, (name, m) ∈ types.messages → ∀ f ∈ m.fields, f.Sound)
    (hfs : ∀ f ∈ fs, f.Sound) :
    ∀ g : FormField, g.Within (ResolvedField.toFormFields rs) → g.Shaped := by
  induction h with
  | nil => exact fun g hg => nomatch hg
  | unknown _ _ ih | drop _ _ _ ih => exact ih (List.forall_mem_cons.1 hfs).2
  | @scalar chain f fs rs s _ _ ih =>
    obtain ⟨hf, hfs⟩ := List.forall_mem_cons.1 hfs
    apply FormField.forall_within_cons (shaped_of_base (base_ofScalar f s) hf) _ (ih hfs)
    rw [children_toFormField_ofScalar]
    exact nofun
  | @enumeration chain f fs rs e _ _ ih =>
    obtain ⟨hf, hfs⟩ := List.forall_mem_cons.1 hfs
    apply FormField.forall_within_cons (shaped_of_base (base_ofEnumeration f e) hf) _ (ih hfs)
    rw [children_toFormField_ofEnumeration]
    exact nofun
  | @expand chain f fs rs m children hm _ _ _ ihm ih =>
    obtain ⟨hf, hfs⟩ := List.forall_mem_cons.1 hfs
    apply FormField.forall_within_cons (shaped_of_base (base_ofMessage f children) hf) _ (ih hfs)
    rw [children_toFormField_ofMessage]
    rintro _ ⟨⟩
    exact ihm (ht f.type m (Types.mem_of_find? hm))

theorem mem_messages_of_root? {d : Document} {app : String} {config : CompilerConfig}
    {root : Message} (h : Document.root? d app config = some root) :
    ∃ name, (name, root) ∈ d.messages := by
  obtain ⟨name, -, hl⟩ := Option.bind_eq_some_iff.1 h
  exact ⟨name, Types.mem_of_find?.mem_of_lookup hl⟩

/-! ### Components -/

theorem memberTypes_eq (ms : List (String × Value)) :
    Extension.memberTypes ms = Extension.describedTypes (Value.get ms "objectFields") := by
  induction ms with
  | nil => rw [Extension.memberTypes]; rfl
  | cons x ms ih =>
    obtain ⟨k, v⟩ := x
    rw [Extension.memberTypes, Value.get, Value.find?_cons]
    by_cases hk : k = "objectFields"
    · rw [if_pos hk, if_pos hk.symm]
      rfl
    · rw [if_neg hk, if_neg (Ne.symm hk), ih]
      rfl

theorem get_members_fieldType (f : FormField) : Value.get f.members "fieldType" = .text f.kind := by
  obtain ⟨_⟩ := f
  simp [FormField.members, Value.get, Value.find?_cons]

theorem get_members_objectFields (f : FormField) :
    Value.get f.members "objectFields" =
      (FormField.childValues .omit f.children).getD .null := by
  obtain ⟨_⟩ := f
  simp [FormField.members, Value.get, Value.find?_cons, Value.find?_member_append,
    Value.find?_member]

theorem get_props_objectFields (f : FormField) :
    Value.get f.props "objectFields" = (FormField.childValues .omit f.children).getD .null := by
  simp [FormField.props, Value.get, Value.find?_cons, Value.find?_member_append,
    Value.find?_member]

mutual

/-- The types that the children of a field are said to use are kinds of fields below it. -/
theorem describedTypes_childValues : (children : Option (List FormField)) →
    ∃ ts, Extension.describedTypes ((FormField.childValues .omit children).getD .null) = .ok ts ∧
      ∀ t ∈ ts, ∃ fs, children = some fs ∧ ∃ f : FormField, f.Within fs ∧ f.kind = t
  | none => ⟨[], by rw [FormField.childValues, Option.getD_none, Extension.describedTypes], nofun⟩
  | some fs => by
    obtain ⟨ts, hts, hk⟩ := itemTypes_toValues fs
    refine ⟨ts, ?_, fun t ht => ⟨fs, rfl, hk t ht⟩⟩
    rw [FormField.childValues, Option.getD_some, Extension.describedTypes, hts]

theorem itemTypes_toValues : (fs : List FormField) →
    ∃ ts, Extension.itemTypes (FormField.toValues .omit fs) = .ok ts ∧
      ∀ t ∈ ts, ∃ f : FormField, f.Within fs ∧ f.kind = t
  | [] => ⟨[], by rw [FormField.toValues, Extension.itemTypes], nofun⟩
  | ⟨key, label, kind, required, listInTable, uniqueKey, options, itemType, children, rules,
      visibility, metadata⟩ :: fs => by
    obtain ⟨below, hb, hkb⟩ := describedTypes_childValues children
    obtain ⟨ts, hts, hk⟩ := itemTypes_toValues fs
    let f : FormField := ⟨key, label, kind, required, listInTable, uniqueKey, options, itemType,
      children, rules, visibility, metadata⟩
    refine ⟨f.kind :: below ++ ts, ?_, ?_⟩
    · rw [FormField.toValues, FormField.toValue_eq, Extension.itemTypes, memberTypes_eq,
        get_members_fieldType, get_members_objectFields, hb, hts]
      rfl
    · intro t ht
      rcases List.mem_append.1 ht with ht | ht
      · rcases List.mem_cons.1 ht with rfl | ht
        · exact ⟨f, .here, rfl⟩
        · obtain ⟨gs, hg, g, hw, hk⟩ := hkb t ht
          exact ⟨g, .child hg hw, hk⟩
      · obtain ⟨g, hw, hk⟩ := hk t ht
        exact ⟨g, .later hw, hk⟩

end

/-- The component types of some rendered fields are kinds of the fields and of those below them. -/
theorem mapM_describedTypes_render (fs : List FormField) :
    ∃ tss, (fs.map FormField.render).mapM (fun f => do
        pure (f.component ::
          (← Extension.describedTypes (Value.get f.props "objectFields")))) = .ok tss ∧
      ∀ t ∈ tss.flatten, ∃ f : FormField, f.Within fs ∧ f.kind = t := by
  induction fs with
  | nil => exact ⟨[], rfl, nofun⟩
  | cons f fs ih =>
    obtain ⟨tss, htss, hk⟩ := ih
    obtain ⟨below, hb, hkb⟩ := describedTypes_childValues f.children
    refine ⟨(f.kind :: below) :: tss, ?_, ?_⟩
    · have hprops : f.render.props = f.props := rfl
      rw [List.map_cons, List.mapM_cons, hprops, get_props_objectFields, hb, htss]
      rfl
    · intro t ht
      rw [List.flatten_cons] at ht
      rcases List.mem_append.1 ht with ht | ht
      · rcases List.mem_cons.1 ht with rfl | ht
        · exact ⟨f, .here, rfl⟩
        · obtain ⟨gs, hg, g, hw, hk⟩ := hkb t ht
          exact ⟨g, .child hg hw, hk⟩
      · obtain ⟨g, hw, hk⟩ := hk t ht
        exact ⟨g, .later hw, hk⟩

/-- Nothing is missing where the kinds of all fields are registered. -/
theorem missing_render {form : Form} {r : Extension.Registry}
    (h : ∀ f : FormField, f.Within form.fields → f.kind ∈ r.types) :
    r.missing form.render = .ok [] := by
  obtain ⟨tss, htss, hk⟩ := mapM_describedTypes_render form.fields
  have hused : Extension.usedTypes form.render = .ok tss.flatten := by
    rw [Extension.usedTypes, Form.render, htss]
    rfl
  have hnone : tss.flatten.eraseDups.filter (!r.types.contains ·) = [] := by
    refine List.filter_eq_nil_iff.2 fun t ht => ?_
    obtain ⟨f, hf, rfl⟩ := hk t (List.mem_eraseDups.1 ht)
    simpa using h f hf
  rw [Extension.Registry.missing, hused]
  simp only [bind, Except.bind, hnone, List.mergeSort_nil]
  rfl

theorem forall_within_shaped_of_compile {text : List Char} {app : String} {config : CompilerConfig}
    {stamp : Stamp} {form : Form} {notices : List Notice}
    (h : compile text app config stamp = .ok (some form, notices)) :
    ∀ f : FormField, f.Within form.fields → f.Shaped := by
  obtain ⟨d, root, rs, hd, hroot, hu, hfields⟩ := exists_unfolds_of_compile h
  obtain ⟨name, hm⟩ := mem_messages_of_root? hroot
  rw [hfields]
  exact hu.shaped (fun _ _ hm => Document.sound_of_read hd hm) (Document.sound_of_read hd hm)

/-- Every field of a compiled form, at every depth, has its shape. So a registry of the built-in
component types lacks none that the rendered form uses. -/
theorem shaped_of_compile {text : List Char} {app : String} {config : CompilerConfig}
    {stamp : Stamp} {form : Form} {notices : List Notice}
    (h : compile text app config stamp = .ok (some form, notices)) :
    (∀ f : FormField, f.Within form.fields → f.Shaped) ∧
      ∀ r : Extension.Registry, (∀ type ∈ Extension.builtinTypes, type ∈ r.types) →
        r.missing form.render = .ok [] := by
  have hshaped := forall_within_shaped_of_compile h
  exact ⟨hshaped, fun r hr => missing_render fun f hf => hr _ (hshaped f hf).kind⟩

/-- A ticket with lines, each with a code. -/
def ticketText : String :=
  "message Ticket \x7b repeated Line lines = 1; \x7d
message Line \x7b string code = 1; // @pattern [A-Z]
\x7d"

def codeDecl : FieldDecl where
  name := "code"
  type := "string"
  info := { pattern := some "[A-Z]" }

def linesDecl : FieldDecl where
  name := "lines"
  type := "Line"
  repeated := true

def lineMessage : Message := ⟨"Line", [codeDecl]⟩

def ticketMessage : Message := ⟨"Ticket", [linesDecl]⟩

def ticketForm (stamp : Stamp) : Form where
  name := "Ticket"
  tenant := stamp.tenant
  status := stamp.status
  createdAt := stamp.now.withOffset
  fields := [
    { key := "lines", label := "Lines", kind := "array<object>", children := some [
      { key := "code", label := "Code", kind := "string",
        rules := [{ type := "pattern", value := some "[A-Z]" }] }] }]

theorem read_ticketText : Document.read ticketText.toList = .ok {
    messages := [("Ticket", ticketMessage), ("Line", lineMessage)]
    enumerations := []
    options := [] } := by
  simp only [ticketText, String.reduceToList]
  decide +kernel

/-- The form of a ticket, compiled. -/
theorem compile_ticketText (stamp : Stamp) :
    ∃ notices, compile ticketText.toList "ticket" {} stamp =
      .ok (some (ticketForm stamp), notices) := by
  let d : Document := ⟨[("Ticket", ticketMessage), ("Line", lineMessage)], [], []⟩
  have hroot : Document.root? d "ticket" {} = some ticketMessage := by decide
  have hline : Unfolds ⟨d.messages, d.enumerations⟩ (Expandable 16) [ticketMessage, lineMessage]
      lineMessage.fields [.ofScalar codeDecl .text] :=
    .scalar rfl .nil
  have hticket : Unfolds ⟨d.messages, d.enumerations⟩ (Expandable 16) [ticketMessage]
      ticketMessage.fields [.ofMessage linesDecl [.ofScalar codeDecl .text]] :=
    .expand rfl ⟨by decide, by decide⟩ hline .nil
  have hc := Document.compile_of_root d "ticket" {} hroot
  have hfields := hticket.resolveFields_eq (List.pairwise_singleton ..)
  rw [List.map_singleton] at hfields
  rw [hfields] at hc
  refine ⟨(Document.compile d "ticket" {}).2, ?_⟩
  rw [compile, read_ticketText]
  simp only [bind, Except.bind]
  rw [hc]
  rfl

theorem shaped_ticketForm :
    (∃ notices, compile ticketText.toList "ticket" {} { now := .ofSeconds 0 } =
      .ok (some (ticketForm { now := .ofSeconds 0 }), notices)) ∧
    (∀ f : FormField, f.Within (ticketForm { now := .ofSeconds 0 }).fields → f.Shaped) ∧
    ∀ r : Extension.Registry, (∀ type ∈ Extension.builtinTypes, type ∈ r.types) →
      r.missing (ticketForm { now := .ofSeconds 0 }).render = .ok [] := by
  obtain ⟨notices, h⟩ := compile_ticketText { now := .ofSeconds 0 }
  exact ⟨⟨notices, h⟩, shaped_of_compile h⟩

end Formwork
