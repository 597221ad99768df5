import Formwork.Form.Resolved
import Formwork.Form.Stored
import Formwork.Proofs.Fallible
import Formwork.Proofs.Form.Wire

/-!
The two shapes of a compiled field. A manifest holds the resolved field under its own names, and a
store the field of the form that it becomes; loaded, both yield the same field, with the same fields
below it.
-/
namespace Formwork
open Formwork.Idl

namespace Stored

theorem lookup_candidates (ms : List (String × Value)) (key : String) :
    (candidates ms).lookup key = (Value.find? ms key).map candidateOf := by
  induction ms with
  | nil => rw [candidates]; rfl
  | cons m ms ih =>
    obtain ⟨k, v⟩ := m
    rw [candidates, Value.find?_cons, List.lookup_cons, ih]
    by_cases h : key = k
    · simp [h]
    · simp [h, beq_eq_false_iff_ne.2 h]

theorem inMetadata_eq_none {ms : List (String × Value)} (h : Value.find? ms "metadata" = none) :
    inMetadata ms = none := by
  induction ms with
  | nil => rw [inMetadata]
  | cons m ms ih =>
    obtain ⟨k, v⟩ := m
    rw [Value.find?_cons] at h
    split at h
    · cases h
    · next hk => rw [inMetadata, if_neg (Ne.symm hk), ih h]

theorem candidate?_cons (key : String) (keys : List String) (nested : List (String × Candidate)) :
    candidate? (key :: keys) nested = ((nested.lookup key).join).or (candidate? keys nested) := by
  rw [candidate?, List.findSome?_cons]
  cases (nested.lookup key).join <;> rfl

theorem candidate?_nil (nested : List (String × Candidate)) : candidate? [] nested = none := rfl

theorem find?_nil (key : String) : Value.find? [] key = none := rfl

/-- What loading reads from the members of a compiled field: what all kinds have, the kind, the
value of the options, the type of the items, and what the children yield. -/
structure Reads (ms : List (String × Value)) (b : FieldBase) (kind : String) (options : Value)
    (itemType : Option String) (children : Candidate) : Prop where
  key : key? ms = (some b.name).filter (!·.isEmpty)
  label : Value.get ms "label" = .text b.label
  kind : ["fieldType", "field_type", "type"].findSome? (fun k => (Value.get ms k).text?) = some kind
  required : Value.get ms "required" = .bool b.required
  listInTable : first ms ["listInTable", "list_in_table", "listVisible", "list_visible"] =
    .bool b.listVisible
  uniqueKey : first ms ["uniqueKey", "unique_key"] = .bool b.uniqueKey
  options : Value.get ms "options" = options
  itemType : itemType? [Value.get ms "itemType", Value.get ms "item_type"] = .ok itemType
  children : candidate? childKeys (candidates ms) = children
  rules : Value.get ms "rules" = .list (b.rules.map (Rule.toValue .omit))
  visibility : Value.get ms "visibility" = .null
  metadata : Value.find? ms "metadata" = none

variable {ms : List (String × Value)} {b : FieldBase} {kind : String} {options : Value}
  {itemType : Option String} {children : Candidate}

/-- The field that is loaded depends on nothing else. -/
theorem field?_of_reads (h : Reads ms b kind options itemType children) {fs : List FormField}
    (hc : children.getD (pure []) = .ok fs) :
    field? (.object ms) = .ok (if b.name.isEmpty then none else some {
      key := b.name
      label := b.label
      kind
      required := b.required
      listInTable := b.listVisible
      uniqueKey := b.uniqueKey
      options := Stored.options options
      itemType
      children := someList fs
      rules := rules (.list (b.rules.map (Rule.toValue .omit))) }) := by
  have hm : metadata ms = [] := by
    rw [metadata, Value.get, h.metadata]
    rfl
  have hnested : ((candidate? childKeys (candidates ms)).orElse fun _ => inMetadata ms).getD
      (pure []) = .ok fs := by
    rw [inMetadata_eq_none h.metadata, h.children, ← hc]
    cases children <;> rfl
  by_cases hname : b.name.isEmpty = true
  · rw [field?, h.key, if_pos hname, Option.filter_some, if_neg (by simp [hname])]
    rfl
  · rw [field?, h.key, if_neg hname, Option.filter_some, if_pos (by simp [hname])]
    simp only [h.itemType, hnested, assemble, hm, h.label, h.kind, h.required, h.listInTable,
      h.uniqueKey, h.options, h.visibility, bind, Except.bind]
    rw [h.rules]
    rfl

/-! ### Members of resolved fields -/

theorem reads_baseMembers (b : FieldBase) (kind : String) :
    Reads (ResolvedField.baseMembers b kind) b kind .null none none := by
  constructor <;>
    simp [ResolvedField.baseMembers, key?, Value.get, Value.find?_cons, find?_nil, Value.text?,
      first, Value.isNull, itemType?, candidate?_cons, candidate?_nil, childKeys,
      lookup_candidates, Option.filter_some]

theorem reads_options (b : FieldBase) (kind : String) (v : Value) :
    Reads (ResolvedField.baseMembers b kind ++ [("options", v)]) b kind v none none := by
  constructor <;>
    simp [ResolvedField.baseMembers, key?, Value.get, Value.find?_cons, find?_nil, Value.text?,
      first, Value.isNull, itemType?, candidate?_cons, candidate?_nil, childKeys,
      lookup_candidates, Option.filter_some]

theorem reads_itemType (b : FieldBase) (kind : String) (item : ItemType) :
    Reads (ResolvedField.baseMembers b kind ++ [("item_type", .text item.name)]) b kind .null
      (some item.name) none := by
  have hitem : itemType? [.null, .text item.name] = .ok (some item.name) := by
    cases item <;> rfl
  constructor <;>
    simp [ResolvedField.baseMembers, key?, Value.get, Value.find?_cons, find?_nil, Value.text?,
      first, Value.isNull, hitem, candidate?_cons, candidate?_nil, childKeys,
      lookup_candidates, Option.filter_some]

theorem reads_children (b : FieldBase) (kind : String) {key : String}
    (hk : key = "object_fields" ∨ key = "item_object_fields") (vs : List Value) :
    Reads (ResolvedField.baseMembers b kind ++ [(key, .list vs)]) b kind .null none
      (some (fields vs)) := by
  rcases hk with rfl | rfl <;> constructor <;>
    simp [ResolvedField.baseMembers, key?, Value.get, Value.find?_cons, find?_nil, Value.text?,
      first, Value.isNull, itemType?, candidate?_cons, candidate?_nil, childKeys,
      lookup_candidates, candidateOf, Option.filter_some]

/-! ### Members of fields of forms -/

/-- What a field of a form shares with the resolved field that it was made from. -/
def baseOf (f : FormField) : FieldBase where
  name := f.key
  label := f.label
  required := f.required
  rules := f.rules
  listVisible := f.listInTable
  uniqueKey := f.uniqueKey

theorem reads_members {f : FormField} (hv : f.visibility = none) (hm : f.metadata = none)
    (hi : f.itemType ∈ [none, some "string", some "number"]) :
    Reads f.members (baseOf f) f.kind
      ((f.options.map fun os => .list (os.map FormOption.toValue)).getD .null) f.itemType
      (f.children.map fun fs => fields (FormField.toValues .omit fs)) := by
  have hitem : itemType? [(f.itemType.map .text).getD .null, .null] = .ok f.itemType := by
    simp only [List.mem_cons, List.not_mem_nil, or_false] at hi
    rcases hi with hi | hi | hi <;> rw [hi] <;> rfl
  have hchildren : ((FormField.childValues .omit f.children).map candidateOf).join =
      f.children.map fun fs => fields (FormField.toValues .omit fs) := by
    cases f.children with
    | none => rfl
    | some fs => rw [FormField.childValues, Option.map_some, candidateOf]; rfl
  obtain ⟨key, label, kind, required, listInTable, uniqueKey, options, itemType, children, rules,
    _, _⟩ := f
  obtain rfl : _ = none := hv
  obtain rfl : _ = none := hm
  constructor <;>
    simp [FormField.members, baseOf, key?, Value.get, Value.find?_cons, Value.find?_member_append,
      Value.find?_member, Value.text?, first, Value.isNull, candidate?_cons, candidate?_nil,
      childKeys, lookup_candidates, Option.filter_some, hitem, hchildren]

/-- Two shapes that read alike load alike. -/
theorem exists_field?_of_reads {ns : List (String × Value)} {nested : Candidate}
    (h : Reads ms b kind options itemType children) (h' : Reads ns b kind options itemType nested)
    (hc : ∃ fs, children.getD (pure []) = .ok fs ∧ nested.getD (pure []) = .ok fs) :
    ∃ o, field? (.object ms) = .ok o ∧ field? (.object ns) = .ok o := by
  obtain ⟨fs, hfs, hfs'⟩ := hc
  exact ⟨_, field?_of_reads h hfs, field?_of_reads h' hfs'⟩

/-- A field with nothing but what all kinds have. -/
def plainField (b : FieldBase) (kind : String) : FormField where
  key := b.name
  label := b.label
  kind
  required := b.required
  listInTable := b.listVisible
  uniqueKey := b.uniqueKey
  rules := b.rules

theorem exists_field?_plainField (b : FieldBase) (kind : String) :
    ∃ o, field? (.object (ResolvedField.baseMembers b kind)) = .ok o ∧
      field? ((plainField b kind).toValue .omit) = .ok o := by
  have h := reads_members (f := plainField b kind) rfl rfl (.head _)
  rw [FormField.toValue_eq]
  exact exists_field?_of_reads (reads_baseMembers b kind) h ⟨[], rfl, rfl⟩

end Stored

open Stored

mutual

/-- Both shapes of a resolved field load to one field, or to none. -/
theorem ResolvedField.exists_field? : (r : ResolvedField) → ∃ o,
    Stored.field? r.toValue = .ok o ∧ Stored.field? (r.toFormField.toValue .omit) = .ok o
  | .text b w => exists_field?_plainField b w.kind
  | .number b => exists_field?_plainField b "number"
  | .switch b => exists_field?_plainField b "switch"
  | .imageArray b => exists_field?_plainField b "array-image"
  | .select b cs => by
    have h := reads_members (f := (select b cs).toFormField) rfl rfl (.head _)
    have hcs : (cs.map FormOption.choice).map FormOption.toValue = cs.map Choice.toValue := by
      rw [List.map_map]
      rfl
    rw [FormField.toValue_eq, ResolvedField.toValue, ← hcs]
    exact exists_field?_of_reads (reads_options b "select" _) h ⟨[], rfl, rfl⟩
  | .checkboxGroup b os => by
    have h := reads_members (f := (checkboxGroup b os).toFormField) rfl rfl (.head _)
    rw [FormField.toValue_eq]
    exact exists_field?_of_reads (reads_options b "checkbox-group" _) h ⟨[], rfl, rfl⟩
  | .array b item => by
    have h := reads_members (f := (array b item).toFormField) rfl rfl
      (by cases item <;> simp [toFormField, ItemType.name])
    rw [FormField.toValue_eq]
    exact exists_field?_of_reads (reads_itemType b "array" item) h ⟨[], rfl, rfl⟩
  | .object b rs => by
    have h := reads_members (f := (object b rs).toFormField) rfl rfl (.head _)
    rw [FormField.toValue_eq]
    exact exists_field?_of_reads (reads_children b "object" (.inl rfl) _) h
      (ResolvedField.exists_fields rs)
  | .objectArray b rs => by
    have h := reads_members (f := (objectArray b rs).toFormField) rfl rfl (.head _)
    rw [FormField.toValue_eq]
    exact exists_field?_of_reads (reads_children b "array<object>" (.inr rfl) _) h
      (ResolvedField.exists_fields rs)

/-- Both shapes of some resolved fields load to the same fields. -/
theorem ResolvedField.exists_fields : (rs : List ResolvedField) → ∃ fs,
    Stored.fields (ResolvedField.toValues rs) = .ok fs ∧
      Stored.fields (FormField.toValues .omit (ResolvedField.toFormFields rs)) = .ok fs
  | [] => ⟨[], by rw [toValues, Stored.fields]; rfl, by
      rw [toFormFields, FormField.toValues, Stored.fields]; rfl⟩
  | r :: rs => by
    obtain ⟨o, ho, ho'⟩ := ResolvedField.exists_field? r
    obtain ⟨fs, hfs, hfs'⟩ := ResolvedField.exists_fields rs
    refine ⟨o.toList ++ fs, ?_, ?_⟩
    · rw [toValues, Stored.fields, ho, hfs]
      rfl
    · rw [toFormFields, FormField.toValues, Stored.fields, ho', hfs']
      rfl

end

/-! ### Forms -/

/-- A text, or nothing. -/
def IsTextual (v : Value) : Prop := v = .null ∨ ∃ s, v = .text s

theorem firstTrue_of_isTextual {v w : Value} (hv : IsTextual v) (hw : IsTextual w) :
    firstTrue [.null, v, w] = none ∨ ∃ s, firstTrue [.null, v, w] = some (.text s) := by
  have hall : ∀ u ∈ [.null, v, w], IsTextual u :=
    List.forall_mem_cons.2 ⟨.inl rfl, List.forall_mem_cons.2 ⟨hv, List.forall_mem_singleton.2 hw⟩⟩
  cases hf : firstTrue [.null, v, w] with
  | none => exact .inl rfl
  | some u =>
    have ht : u.truth = true := List.find?_some hf
    rcases hall u (List.mem_of_find?_eq_some hf) with rfl | ⟨s, rfl⟩
    · cases ht
    · exact .inr ⟨s, rfl⟩

theorem root_eq_self {raw : List (String × Value)} {values : List Value}
    (h : Value.get raw "fields" = .list values) : root raw = raw := by
  rw [root, h]

/-- A document whose name and version are texts loads, with the fields that it holds. -/
theorem exists_load {raw : List (String × Value)} {values : List Value} {fs : List FormField}
    (hfields : Value.get (root raw) "fields" = .list values) (hfs : fields values = .ok fs)
    (hname : IsTextual (first raw ["formName", "form_name"]))
    (hroot_name : IsTextual (first (root raw) ["formName", "form_name"]))
    (hversion : IsTextual (Value.get raw "version"))
    (hroot_version : IsTextual (Value.get (root raw) "version")) (now : Moment) :
    ∃ f, Form.load raw {} now = .ok (some f) ∧ f.fields = fs := by
  have hnames := firstTrue_of_isTextual hname hroot_name
  have hversions := firstTrue_of_isTextual hversion hroot_version
  simp only [Form.load, hfields, hfs, textOf, mapError_ok]
  rcases hnames with hn | ⟨n, hn⟩ <;> rcases hversions with hv | ⟨v, hv⟩ <;> rw [hn, hv] <;>
    exact ⟨_, rfl, rfl⟩

/-- A written form begins with its name and its version, and has its fields. -/
theorem exists_toValue_eq (f : Form) :
    ∃ rest, f.toValue =
        .object (("formName", .text f.name) :: ("version", .text f.version) :: rest) ∧
      Value.get (("formName", .text f.name) :: ("version", .text f.version) :: rest) "fields" =
        .list (FormField.toValues .omit f.fields) :=
  ⟨_, rfl, by simp [Value.get, Value.find?_cons, Value.find?_member_append]⟩

/-- A written form loads with the fields that its written fields load to. -/
theorem exists_load_of_toValue {f : Form} {ms : List (String × Value)} {fs : List FormField}
    (hms : f.toValue = .object ms) (hfs : fields (FormField.toValues .omit f.fields) = .ok fs)
    (now : Moment) : ∃ g, Form.load ms {} now = .ok (some g) ∧ g.fields = fs := by
  obtain ⟨rest, hf, hfields⟩ := exists_toValue_eq f
  obtain rfl := Value.object.inj (hf.symm.trans hms)
  have hroot := root_eq_self hfields
  have hname : IsTextual (first (("formName", .text f.name) :: ("version", .text f.version) :: rest)
      ["formName", "form_name"]) := .inr ⟨f.name, rfl⟩
  have hversion : IsTextual (Value.get
      (("formName", .text f.name) :: ("version", .text f.version) :: rest) "version") :=
    .inr ⟨f.version, rfl⟩
  exact exists_load (hroot.symm ▸ hfields) hfs hname (hroot.symm ▸ hname) hversion
    (hroot.symm ▸ hversion) now

end Formwork
