import Formwork.Rendering.Form

/-!
The stored shape of fields read back. A field comes back as it was written, except that its metadata
comes back as stored: an infinity, or a value that is no number, has become null there.
-/
namespace Formwork
open Formwork.Idl

/-! ### Stored data -/

mutual

/-- Data that has been stored is stored unchanged. -/
theorem Value.stored_stored : (v : Value) → v.stored.stored = v.stored
  | .null | .bool _ | .int _ | .text _ => by simp only [Value.stored]
  | .float x => by cases x <;> simp only [Value.stored]
  | .list items => by simp only [Value.stored, Value.storedItems_storedItems items]
  | .object members => by simp only [Value.stored, Value.storedMembers_storedMembers members]

theorem Value.storedItems_storedItems : (vs : List Value) →
    Value.storedItems (Value.storedItems vs) = Value.storedItems vs
  | [] => by simp only [Value.storedItems]
  | v :: vs => by
    simp only [Value.storedItems, Value.stored_stored v, Value.storedItems_storedItems vs]

theorem Value.storedMembers_storedMembers : (ms : List (String × Value)) →
    Value.storedMembers (Value.storedMembers ms) = Value.storedMembers ms
  | [] => by simp only [Value.storedMembers]
  | (k, v) :: ms => by
    simp only [Value.storedMembers, Value.stored_stored v, Value.storedMembers_storedMembers ms]

end

theorem Value.storedMembers_append (ms ns : List (String × Value)) :
    Value.storedMembers (ms ++ ns) = Value.storedMembers ms ++ Value.storedMembers ns := by
  induction ms with
  | nil => simp only [Value.storedMembers, List.nil_append]
  | cons m ms ih => simp only [List.cons_append, Value.storedMembers, ih]

/-- An attribute whose value is stored as it is, is stored as it is. -/
theorem Nulls.storedMembers_member (n : Nulls) (key : String) {v : Option Value}
    (h : ∀ w ∈ v, w.stored = w) : Value.storedMembers (n.member key v) = n.member key v := by
  cases v with
  | none => cases n <;> simp only [member, Value.storedMembers, Value.stored]
  | some w => simp only [member, Value.storedMembers, h w rfl]

theorem Value.storedItems_eq_self (vs : List Value) (h : ∀ v ∈ vs, v.stored = v) :
    Value.storedItems vs = vs := by
  induction vs with
  | nil => simp only [Value.storedItems]
  | cons v vs ih =>
    simp only [Value.storedItems, h v List.mem_cons_self,
      ih fun w hw => h w (List.mem_cons_of_mem v hw)]

theorem Rule.stored_toValue (r : Rule) : (r.toValue .omit).stored = r.toValue .omit := by
  simp only [toValue, Value.stored, List.cons_append, Value.storedMembers,
    Value.storedMembers_append]
  rw [Nulls.storedMembers_member, Nulls.storedMembers_member] <;>
    simp +contextual [Value.stored]

theorem FormOption.stored_toValue (o : FormOption) : o.toValue.stored = o.toValue := by
  cases o <;> simp only [toValue, Choice.toValue, Value.stored, Value.storedMembers]

/-! ### Fields -/

mutual

/-- The field that comes back when a field has been stored. -/
def FormField.stored : FormField → FormField
  | { key, label, kind, required, listInTable, uniqueKey, options, itemType, children, rules,
      visibility, metadata } =>
    { key, label, kind, required, listInTable, uniqueKey, options, itemType,
      children := FormField.storedChildren children, rules, visibility,
      metadata := metadata.map Value.storedMembers }

def FormField.storedChildren : Option (List FormField) → Option (List FormField)
  | none => none
  | some fs => some (FormField.storedAll fs)

def FormField.storedAll : List FormField → List FormField
  | [] => []
  | f :: fs => f.stored :: FormField.storedAll fs

end

mutual

theorem FormField.stored_toValue : (f : FormField) → (f.toValue .omit).stored = f.toValue .omit
  | { key, label, kind, required, listInTable, uniqueKey, options, itemType, children, rules,
      visibility, metadata } => by
    have hrules := Value.storedItems_eq_self (rules.map (Rule.toValue .omit)) fun v hv => by
      obtain ⟨r, hr, rfl⟩ := List.mem_map.1 hv
      exact r.stored_toValue
    have hoptions (os : List FormOption) :=
      Value.storedItems_eq_self (os.map FormOption.toValue) fun v hv => by
        obtain ⟨o, ho, rfl⟩ := List.mem_map.1 hv
        exact o.stored_toValue
    have hchildren := FormField.stored_childValues children
    simp only [FormField.toValue, Value.stored, Value.storedMembers_append, Value.storedMembers,
      hrules]
    rw [Nulls.storedMembers_member, Nulls.storedMembers_member, Nulls.storedMembers_member,
      Nulls.storedMembers_member, Nulls.storedMembers_member] <;>
      simp +contextual [Value.stored, Value.storedMembers, Value.storedMembers_storedMembers,
        hoptions, hchildren]

theorem FormField.stored_childValues : (children : Option (List FormField)) →
    ∀ v ∈ FormField.childValues .omit children, v.stored = v
  | none => by simp [FormField.childValues]
  | some fs => by
    simp only [FormField.childValues, Option.mem_some_iff, forall_eq', Value.stored,
      FormField.storedItems_toValues fs]

theorem FormField.storedItems_toValues : (fs : List FormField) →
    Value.storedItems (FormField.toValues .omit fs) = FormField.toValues .omit fs
  | [] => by simp only [FormField.toValues, Value.storedItems]
  | f :: fs => by
    simp only [FormField.toValues, Value.storedItems, FormField.stored_toValue f,
      FormField.storedItems_toValues fs]

end

/-! ### Reading back -/

theorem Value.find?_cons (key k : String) (v : Value) (ms : List (String × Value)) :
    Value.find? ((k, v) :: ms) key = if key = k then some v else Value.find? ms key := by
  by_cases h : key = k
  · simp only [find?, h, List.lookup_cons_self, ↓reduceIte]
  · simp only [find?, List.lookup_cons, beq_eq_false_iff_ne.2 h, if_neg h]

theorem Value.find?_member_append (key k : String) (v : Option Value)
    (ms : List (String × Value)) :
    Value.find? (Nulls.omit.member k v ++ ms) key =
      if key = k then v.or (Value.find? ms key) else Value.find? ms key := by
  cases v with
  | none => simp only [Nulls.member, List.nil_append, Option.none_or, ite_self]
  | some w =>
    simp only [Nulls.member, List.singleton_append, find?_cons, Option.some_or]

theorem Value.find?_member (key k : String) (v : Option Value) :
    Value.find? (Nulls.omit.member k v) key = if key = k then v else none := by
  have h := find?_member_append key k v []
  simpa only [List.append_nil, find?, List.lookup_nil, Option.or_none] using h

theorem Value.under?_cons (ms : List (String × Value)) (key : String) (keys : List String) :
    Value.under? ms (key :: keys) = (Value.find? ms key).or (Value.under? ms keys) := by
  cases h : find? ms key <;> simp [under?, h]

theorem Value.under?_nil (ms : List (String × Value)) : Value.under? ms [] = none := rfl

theorem Value.needed_eq {α : Type} {ms : List (String × Value)} {keys : List String}
    {read : Value → Option α} {v : Value} {a : α} (h : Value.under? ms keys = some v)
    (hr : read v = some a) : Value.needed ms keys read = some a := by
  rw [needed, h, Option.bind_some, hr]

theorem Value.defaulted_eq {α : Type} {ms : List (String × Value)} {keys : List String}
    {read : Value → Option α} {v : Value} {a d : α} (h : Value.under? ms keys = some v)
    (hr : read v = some a) : Value.defaulted ms keys d read = some a := by
  simp only [defaulted, h, hr]

/-- An attribute is read back from the member written for it, or from none. -/
theorem Value.optional_eq {α β : Type} {ms : List (String × Value)} {keys : List String}
    {read : Value → Option β} {o : Option α} {w : α → Value} {f : α → β}
    (h : Value.under? ms keys = o.map w) (hn : ∀ a, w a ≠ .null)
    (hr : ∀ a ∈ o, read (w a) = some (f a)) :
    Value.optional ms keys read = some (o.map f) := by
  cases o with
  | none => simp only [optional, h, Option.map_none]
  | some a =>
    simp only [optional, h, Option.map_some]
    split
    · next hv => cases hv
    · next hv => exact absurd (Option.some.inj hv) (hn a)
    · next v _ hv =>
      obtain rfl := Option.some.inj hv
      rw [hr a rfl, Option.map_some]

theorem Rule.decode?_toValue (r : Rule) : Rule.decode? (r.toValue .omit) = some r := by
  obtain ⟨type, value, plugin⟩ := r
  simp only [decode?, toValue, Value.toObject?, List.cons_append, Option.bind_eq_bind,
    Option.bind_some]
  rw [Value.needed_eq (v := .text type) (a := type),
    Value.optional_eq (o := value) (w := .text) (f := id),
    Value.optional_eq (o := plugin) (w := .text) (f := id)]
  · simp
  all_goals simp [Value.under?_cons, Value.under?_nil, Value.find?_cons,
    Value.find?_member_append, Value.find?_member, Value.toText?]

theorem mapM_map_eq_some {α β : Type} {write : α → β} {read : β → Option α}
    (h : ∀ a, read (write a) = some a) (xs : List α) : (xs.map write).mapM read = some xs := by
  induction xs with
  | nil => rfl
  | cons x xs ih => simp [h, ih]

theorem FormOption.decode?_toValue (o : FormOption) :
    FormOption.decode? o.toValue = some o := by
  cases o with
  | plain text => rfl
  | choice c =>
    simp [toValue, Choice.toValue, decode?, Choice.decode?, Value.toObject?, Value.needed,
      Value.under?_cons, Value.under?_nil, Value.find?_cons, Value.toText?]

theorem decodeRules_eq {ms : List (String × Value)} (rules : List Rule)
    (h : Value.under? ms ["rules"] = some (.list (rules.map (Rule.toValue .omit)))) :
    decodeRules ms = some rules := by
  refine Value.defaulted_eq h ?_
  simp only [Value.toList?, Option.bind_eq_bind, Option.bind_some]
  exact mapM_map_eq_some Rule.decode?_toValue rules

theorem FormField.lookup_decodeNested (ms : List (String × Value)) (key : String) :
    (FormField.decodeNested ms).lookup key =
      (Value.find? ms key).map FormField.decodeOptionalList := by
  induction ms with
  | nil => rfl
  | cons m ms ih =>
    obtain ⟨k, v⟩ := m
    by_cases h : key = k
    · simp only [FormField.decodeNested, h, List.lookup_cons_self, Value.find?_cons, ↓reduceIte,
        Option.map_some]
    · simp only [FormField.decodeNested, List.lookup_cons, beq_eq_false_iff_ne.2 h, ih,
        Value.find?_cons, if_neg h]

/-- The members that a field is written as. -/
def FormField.members : FormField → List (String × Value)
  | { key, label, kind, required, listInTable, uniqueKey, options, itemType, children, rules,
      visibility, metadata } =>
    [("key", .text key), ("label", .text label), ("fieldType", .text kind),
      ("required", .bool required), ("listInTable", .bool listInTable),
      ("uniqueKey", .bool uniqueKey)] ++
    Nulls.omit.member "options" (options.map fun os => .list (os.map FormOption.toValue)) ++
    Nulls.omit.member "itemType" (itemType.map .text) ++
    Nulls.omit.member "objectFields" (FormField.childValues .omit children) ++
    [("rules", .list (rules.map (Rule.toValue .omit)))] ++
    Nulls.omit.member "visibility" (visibility.map fun e => .object [("expr", .text e)]) ++
    Nulls.omit.member "metadata" (metadata.map fun ms => .object (Value.storedMembers ms))

theorem FormField.toValue_eq (f : FormField) : f.toValue .omit = .object f.members := by
  obtain ⟨_⟩ := f
  rfl

/-- A field is put together from its members as it was written. -/
theorem FormField.assemble_members (f : FormField) (children : Option (List FormField)) :
    FormField.assemble f.members children =
      some { f with children, metadata := f.metadata.map Value.storedMembers } := by
  obtain ⟨key, label, kind, required, listInTable, uniqueKey, options, itemType, _, rules,
    visibility, metadata⟩ := f
  simp only [assemble, Option.bind_eq_bind]
  rw [Value.needed_eq (v := .text key) (a := key), Value.needed_eq (v := .text label) (a := label),
    Value.needed_eq (v := .text kind) (a := kind),
    Value.defaulted_eq (v := .bool required) (a := required),
    Value.defaulted_eq (v := .bool listInTable) (a := listInTable),
    Value.defaulted_eq (v := .bool uniqueKey) (a := uniqueKey),
    Value.optional_eq (o := options) (w := fun os => .list (os.map FormOption.toValue))
      (f := id),
    Value.optional_eq (o := itemType) (w := .text) (f := id), decodeRules_eq rules,
    Value.optional_eq (o := visibility) (w := fun e => .object [("expr", .text e)]) (f := id),
    Value.optional_eq (o := metadata) (w := fun ms => .object (Value.storedMembers ms))
      (f := Value.storedMembers)]
  · simp
  all_goals simp [members, Value.under?_cons, Value.under?_nil, Value.find?_cons,
    Value.find?_member_append, Value.find?_member, Value.toText?, Value.toSwitch?, Value.toList?,
    Value.toObject?, decodeCondition, Value.needed, mapM_map_eq_some FormOption.decode?_toValue]

theorem FormField.storedChildren_of_childValues (children : Option (List FormField))
    (h : FormField.childValues .omit children = none) : FormField.storedChildren children = none := by
  cases children with
  | none => rw [storedChildren]
  | some fs => simp [childValues] at h

theorem FormField.decodeChildren_members (f : FormField) {children : Option (List FormField)}
    (h : ∀ v ∈ FormField.childValues .omit f.children,
      FormField.decodeOptionalList v = some children)
    (hn : FormField.childValues .omit f.children = none → children = none) :
    FormField.decodeChildren FormField.childKeys (FormField.decodeNested f.members) =
      some children := by
  have hc : Value.find? f.members "objectFields" = FormField.childValues .omit f.children := by
    obtain ⟨_⟩ := f
    simp [members, Value.find?_cons, Value.find?_member_append, Value.find?_member]
  have hs : Value.find? f.members "object_fields" = none := by
    obtain ⟨_⟩ := f
    simp [members, Value.find?_cons, Value.find?_member_append, Value.find?_member]
  cases hv : FormField.childValues .omit f.children with
  | none => simp [decodeChildren, childKeys, lookup_decodeNested, hc, hs, hv, hn hv]
  | some v => simp [decodeChildren, childKeys, lookup_decodeNested, hc, hv, h v hv]

mutual

/-- A field is read back from its stored shape. -/
theorem FormField.decode?_toValue : (f : FormField) →
    FormField.decode? (f.toValue .omit) = some f.stored
  | { key, label, kind, required, listInTable, uniqueKey, options, itemType, children, rules,
      visibility, metadata } => by
    rw [FormField.toValue_eq, FormField.decode?,
      FormField.decodeChildren_members _ (FormField.decodeOptionalList_childValues children)
        (FormField.storedChildren_of_childValues children),
      Option.bind_eq_bind, Option.bind_some, FormField.assemble_members, FormField.stored]

theorem FormField.decodeOptionalList_childValues : (children : Option (List FormField)) →
    ∀ v ∈ FormField.childValues .omit children,
      FormField.decodeOptionalList v = some (FormField.storedChildren children)
  | none => by simp [FormField.childValues]
  | some fs => by
    simp only [FormField.childValues, Option.mem_some_iff, forall_eq',
      FormField.decodeOptionalList, FormField.decodeAll_toValues fs, Option.map_some,
      FormField.storedChildren]

theorem FormField.decodeAll_toValues : (fs : List FormField) →
    FormField.decodeAll (FormField.toValues .omit fs) = some (FormField.storedAll fs)
  | [] => by simp only [FormField.toValues, FormField.decodeAll, FormField.storedAll]
  | f :: fs => by
    simp only [FormField.toValues, FormField.decodeAll, FormField.decode?_toValue f,
      FormField.decodeAll_toValues fs, FormField.storedAll, Option.bind_eq_bind, Option.bind_some,
      Option.pure_def]

end

end Formwork
