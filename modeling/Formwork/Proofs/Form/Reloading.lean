import Formwork.Proofs.Form.Loading
import Formwork.Proofs.Form.Shape

/-!
Loading what was loaded before. A loaded form is written down and loaded again: every attribute comes
back, save that a field whose list of children was empty looks for children in its metadata, and that
infinities in metadata are not written.
-/
namespace Formwork
open Formwork.Idl

/-- `p` holds of the fields at every depth. -/
def Throughout (p : FormField → Prop) (fs : List FormField) : Prop :=
  ∀ f : FormField, f.Within fs → p f

section

variable {p : FormField → Prop} {f : FormField} {fs gs : List FormField}

theorem throughout_nil : Throughout p [] := nofun

theorem throughout_cons_iff :
    Throughout p (f :: fs) ↔
      p f ∧ (∀ gs, f.children = some gs → Throughout p gs) ∧ Throughout p fs := by
  constructor
  · intro h
    exact ⟨h f .here, fun gs hgs g hg => h g (.child hgs hg), fun g hg => h g (.later hg)⟩
  · rintro ⟨hf, hc, hfs⟩
    exact FormField.forall_within_cons hf hc hfs

theorem Throughout.append (hf : Throughout p fs) (hg : Throughout p gs) :
    Throughout p (fs ++ gs) := by
  induction fs with
  | nil => exact hg
  | cons f fs ih =>
    obtain ⟨hf, hc, hfs⟩ := throughout_cons_iff.1 hf
    exact throughout_cons_iff.2 ⟨hf, hc, ih hfs⟩

end

/-! ### One field -/

namespace Stored

/-- What has to be there for a field to be loaded as it was written. -/
structure Loadable (f : FormField) : Prop where
  key : f.key ≠ ""
  itemType : ∀ t ∈ f.itemType, t ∈ itemTypes
  rules : ∀ r ∈ f.rules, r.type ≠ ""

/-- The children that loading finds in metadata. -/
def childrenIn (info : List (String × Value)) : Except UnusableItemType (List FormField) :=
  ((Value.find? info "objectFields").bind candidateOf).getD (pure [])

/-- The children that a written field holds: its own, or those in its metadata. -/
def writtenChildren (f : FormField) : Except UnusableItemType (List FormField) :=
  match f.children with
  | some fs => fields (FormField.toValues .omit fs)
  | none => childrenIn (Value.storedMembers (f.metadata.getD []))

/-- The field with what loading makes of empty lists and of metadata. -/
def reloaded (f : FormField) (children : List FormField) : FormField :=
  { f with
    options := f.options.bind someList
    children := someList children
    metadata := someList (Value.storedMembers (f.metadata.getD [])) }

theorem rule?_toValue {r : Rule} (h : r.type ≠ "") : rule? (r.toValue .omit) = some r := by
  obtain ⟨type, value, plugin⟩ := r
  have htrue : (Value.text type).truth = true := by simpa [Value.truth] using h
  have htype : Value.get (("type", .text type) :: Nulls.omit.member "value" (value.map .text) ++
      Nulls.omit.member "plugin" (plugin.map .text)) "type" = .text type := by
    simp [Value.get, Value.find?_cons]
  rw [Rule.toValue, rule?, htype, if_pos htrue]
  cases value <;> cases plugin <;> rfl

theorem rules_toValue {rs : List Rule} (h : ∀ r ∈ rs, r.type ≠ "") :
    rules (.list (rs.map (Rule.toValue .omit))) = rs := by
  rw [rules, List.filterMap_map]
  induction rs with
  | nil => rfl
  | cons r rs ih =>
    obtain ⟨hr, hrs⟩ := List.forall_mem_cons.1 h
    have hfirst : (rule? ∘ Rule.toValue .omit) r = some r := rule?_toValue hr
    rw [List.filterMap_cons_some hfirst, ih hrs]

theorem option?_toValue (o : FormOption) : option? o.toValue = some o := by
  cases o with
  | plain text => rfl
  | choice c => rfl

theorem options_toValue (os : Option (List FormOption)) :
    options ((os.map fun os => .list (os.map FormOption.toValue)).getD .null) =
      os.bind someList := by
  cases os with
  | none => rfl
  | some os =>
    have hmap : (os.map FormOption.toValue).filterMap option? = os := by
      rw [List.filterMap_map]
      exact (List.filterMap_congr fun o _ => option?_toValue o).trans List.filterMap_some
    rw [Option.map_some, Option.getD_some, options, hmap]
    rfl

theorem metadata_members (f : FormField) :
    metadata f.members = Value.storedMembers (f.metadata.getD []) := by
  obtain ⟨_, _, _, _, _, _, _, _, _, _, _, info⟩ := f
  cases info <;>
    simp [metadata, FormField.members, Value.get, Value.find?_cons, Value.find?_member_append,
      Value.find?_member, Value.storedMembers]

theorem inMetadata_eq (ms : List (String × Value)) :
    inMetadata ms = metadataChildren (Value.get ms "metadata") := by
  induction ms with
  | nil => rw [inMetadata]; rfl
  | cons m ms ih =>
    obtain ⟨k, v⟩ := m
    rw [inMetadata, Value.get, Value.find?_cons]
    by_cases hk : k = "metadata"
    · rw [if_pos hk, if_pos hk.symm]
      rfl
    · rw [if_neg hk, if_neg (Ne.symm hk), ih]
      rfl

theorem inMetadata_getD (ms : List (String × Value)) :
    (inMetadata ms).getD (pure []) = childrenIn (metadata ms) := by
  rw [inMetadata_eq, metadata]
  cases Value.get ms "metadata" with
  | object info =>
    rw [metadataChildren, lookup_candidates, childrenIn]
    cases Value.find? info "objectFields" <;> rfl
  | _ => rfl

/-- The members of a field hold children under one key only. -/
theorem candidate?_members (f : FormField) :
    candidate? childKeys (candidates f.members) =
      f.children.map fun fs => fields (FormField.toValues .omit fs) := by
  have hchildren : ((FormField.childValues .omit f.children).map candidateOf).join =
      f.children.map fun fs => fields (FormField.toValues .omit fs) := by
    cases f.children with
    | none => rfl
    | some fs => rw [FormField.childValues, Option.map_some, candidateOf]; rfl
  obtain ⟨_⟩ := f
  simp [FormField.members, Value.find?_cons, Value.find?_member_append, Value.find?_member,
    candidate?_cons, candidate?_nil, childKeys, lookup_candidates, hchildren]

theorem get_members_itemType (f : FormField) :
    Value.get f.members "itemType" = (f.itemType.map .text).getD .null ∧
      Value.get f.members "item_type" = .null := by
  obtain ⟨_⟩ := f
  simp [FormField.members, Value.get, Value.find?_cons, Value.find?_member_append,
    Value.find?_member]

theorem itemType?_members {f : FormField} (h : ∀ t ∈ f.itemType, t ∈ itemTypes) :
    itemType? [Value.get f.members "itemType", Value.get f.members "item_type"] =
      .ok f.itemType := by
  rw [(get_members_itemType f).1, (get_members_itemType f).2]
  cases hi : f.itemType with
  | none => rfl
  | some t =>
    have ht : itemTypes.contains t = true := List.contains_iff_mem.2 (h t hi)
    rw [Option.map_some, Option.getD_some, itemType?, if_pos ht]

theorem key?_members {f : FormField} (h : f.key ≠ "") : key? f.members = some f.key := by
  obtain ⟨_⟩ := f
  simpa [key?, FormField.members, Value.get, Value.find?_cons, Option.filter_some] using h

theorem condition?_toValue (o : Option String) :
    condition? ((o.map fun e => .object [("expr", .text e)]).getD .null) = o := by
  cases o <;> rfl

/-- A flag that is written is not looked up in the metadata. -/
theorem first_members (f : FormField) :
    first f.members ["listInTable", "list_in_table", "listVisible", "list_visible"] =
        .bool f.listInTable ∧
      first f.members ["uniqueKey", "unique_key"] = .bool f.uniqueKey := by
  obtain ⟨_⟩ := f
  simp [first, FormField.members, Value.find?_cons, Value.isNull, Option.filter_some]

theorem assemble_members {f : FormField} (h : Loadable f) (children : List FormField) :
    assemble f.members f.key f.itemType (someList children) = reloaded f children := by
  have hrules := rules_toValue h.rules
  have hoptions := options_toValue f.options
  have hcondition := condition?_toValue f.visibility
  rw [assemble, reloaded, metadata_members, (first_members f).1, (first_members f).2]
  obtain ⟨key, label, kind, required, inTable, unique, options, item, _, rules, visibility, info⟩ := f
  simp [FormField.members, Value.get, Value.find?_cons, Value.find?_member_append,
    Value.find?_member, Value.text?, Value.truth, orElse, flag, Value.isNull, hrules, hoptions,
    hcondition]

theorem field?_toValue {f : FormField} (h : Loadable f) :
    field? (f.toValue .omit) = (writtenChildren f).map fun fs => some (reloaded f fs) := by
  have hchildren : ((candidate? childKeys (candidates f.members)).orElse fun _ =>
      inMetadata f.members).getD (pure []) = writtenChildren f := by
    rw [candidate?_members, writtenChildren]
    cases f.children with
    | some fs => rfl
    | none => rw [← metadata_members]; exact inMetadata_getD f.members
  rw [FormField.toValue_eq, field?, key?_members h.key]
  simp only [itemType?_members h.itemType, hchildren]
  cases writtenChildren f with
  | error e => rfl
  | ok fs => exact congrArg (fun g => Except.ok (some g)) (assemble_members h fs)

/-! ### What loading yields -/

theorem someList_ne {α : Type} (xs : List α) : someList xs ≠ some [] := by
  cases xs <;> nofun

theorem someList_eq_some_iff {α : Type} {xs ys : List α} (h : ys ≠ []) :
    someList xs = some ys ↔ xs = ys := by
  cases xs with
  | nil => exact ⟨nofun, fun he => absurd he.symm h⟩
  | cons x xs => exact Option.some_inj

theorem someList_eq_none_iff {α : Type} {xs : List α} : someList xs = none ↔ xs = [] := by
  cases xs <;> simp [someList]

/-- What every loaded field is like. -/
structure Loaded (f : FormField) : Prop extends Loadable f where
  options : f.options ≠ some []
  children : f.children ≠ some []
  metadata : f.metadata ≠ some []

theorem layout_write_ne_nil (l : Decimal.Layout) (n : Decimal.Numeral) : l.write n ≠ [] := by
  simp only [Decimal.Layout.write]
  split
  · split
    · simp
    · split <;> simp
  · simp

theorem plain_ne_empty {v : Value} (h : v.truth = true) : v.plain ≠ "" := by
  cases v with
  | null => cases h
  | bool b => cases b <;> simp [Value.plain, Value.display]
  | int n =>
    rw [Value.plain, Value.display, Int.toString_eq_repr]
    · cases n <;> simp [Int.repr]
    · exact nofun
  | float x =>
    have hbody (m : Nat) (e : Int) : (if m = 0 then ['0', '.', '0'] else
        Decimal.layout.write (Decimal.shortest m e)) ≠ [] := by
      split
      · exact List.cons_ne_nil _ _
      · exact layout_write_ne_nil _ _
    cases x with
    | finite negative m e => simp [Value.plain, Value.display, Decimal.write, hbody]
    | infinite negative => cases negative <;> decide
    | nan mark => exact ne_of_beq_false rfl
  | text s =>
    rintro rfl
    cases h
  | list items => simp [Value.plain, Value.display]
  | object members => simp [Value.plain, Value.display]

theorem type_ne_empty_of_rule? {v : Value} {r : Rule} (h : rule? v = some r) : r.type ≠ "" := by
  cases v with
  | object ms =>
    obtain rfl := Option.some.inj h
    simp only
    split
    · next ht => exact plain_ne_empty ht
    · decide
  | _ => cases h

theorem type_ne_empty_of_mem_rules {v : Value} {r : Rule} (h : r ∈ rules v) : r.type ≠ "" := by
  cases v with
  | list items =>
    obtain ⟨w, -, hr⟩ := List.mem_filterMap.1 h
    exact type_ne_empty_of_rule? hr
  | _ => cases h

theorem mem_itemTypes_of_itemType? {vs : List Value} {o : Option String}
    (h : itemType? vs = .ok o) : ∀ t ∈ o, t ∈ itemTypes := by
  induction vs with
  | nil =>
    obtain rfl := Except.ok.inj h
    exact nofun
  | cons v vs ih =>
    cases v with
    | list items | object ms => cases h
    | text s =>
      rw [itemType?] at h
      split at h
      · next hs =>
        obtain rfl := Except.ok.inj h
        rintro _ ⟨⟩
        exact List.contains_iff_mem.1 hs
      · exact ih h
    | _ => exact ih h

theorem key_ne_empty_of_key? {ms : List (String × Value)} {key : String}
    (h : key? ms = some key) : key ≠ "" := by
  have hne := (Option.filter_eq_some_iff.1 h).2
  rintro rfl
  cases hne

theorem options_ne (v : Value) : Stored.options v ≠ some [] := by
  cases v with
  | list items => exact someList_ne _
  | _ => exact nofun

theorem loaded_assemble {ms : List (String × Value)} {key : String} {item : Option String}
    (hkey : key? ms = some key)
    (hitem : itemType? [Value.get ms "itemType", Value.get ms "item_type"] = .ok item)
    (children : List FormField) : Loaded (assemble ms key item (someList children)) where
  key := key_ne_empty_of_key? hkey
  itemType := mem_itemTypes_of_itemType? hitem
  rules _ := type_ne_empty_of_mem_rules
  options := options_ne _
  children := someList_ne _
  metadata := someList_ne _

/-- The children of a field come from the value under one of its keys, or from its metadata. -/
theorem exists_of_candidate? {keys : List String} {ms : List (String × Value)}
    {c : Except UnusableItemType (List FormField)} (h : candidate? keys (candidates ms) = some c) :
    ∃ k ∈ keys, (candidates ms).lookup k = some (some c) := by
  obtain ⟨k, hk, hc⟩ := List.exists_of_findSome?_eq_some h
  exact ⟨k, hk, Option.join_eq_some_iff.1 hc⟩

mutual

theorem loaded_of_field? : (v : Value) → ∀ o, field? v = .ok o → Throughout Loaded o.toList
  | .object ms => by
    intro o h
    rw [field?] at h
    split at h
    · obtain rfl := Except.ok.inj h
      exact throughout_nil
    · next key hkey =>
      obtain ⟨item, hitem, h⟩ := bind_eq_ok_iff.1 h
      obtain ⟨fs, hfs, h⟩ := bind_eq_ok_iff.1 h
      obtain rfl := Except.ok.inj h
      have hchildren : Throughout Loaded fs := by
        cases hown : candidate? childKeys (candidates ms) with
        | some c =>
          rw [hown] at hfs
          obtain rfl : c = .ok fs := hfs
          obtain ⟨k, -, hk⟩ := exists_of_candidate? hown
          exact loaded_of_candidates ms k fs hk
        | none =>
          rw [hown] at hfs
          cases hin : inMetadata ms with
          | none =>
            rw [hin] at hfs
            obtain rfl := Except.ok.inj hfs
            exact throughout_nil
          | some c =>
            rw [hin] at hfs
            obtain rfl : c = .ok fs := hfs
            exact loaded_of_inMetadata ms fs hin
      refine throughout_cons_iff.2 ⟨loaded_assemble hkey hitem fs, fun gs hgs => ?_,
        throughout_nil⟩
      obtain rfl : fs = gs := by
        cases fs with
        | nil => cases hgs
        | cons f fs => exact Option.some.inj hgs
      exact hchildren
  | .null | .bool _ | .int _ | .float _ | .text _ | .list _ => by
    intro o h
    rw [field?] at h
    · obtain rfl := Except.ok.inj h
      exact throughout_nil
    · exact nofun

theorem loaded_of_candidates : (ms : List (String × Value)) → ∀ k fs,
    (candidates ms).lookup k = some (some (.ok fs)) → Throughout Loaded fs
  | [] => by
    intro k fs h
    rw [candidates] at h
    cases h
  | (key, v) :: ms => by
    intro k fs h
    rw [candidates, List.lookup_cons] at h
    split at h
    · exact loaded_of_candidateOf v fs (Option.some.inj h)
    · exact loaded_of_candidates ms k fs h

theorem loaded_of_candidateOf : (v : Value) → ∀ fs, candidateOf v = some (.ok fs) → Throughout Loaded fs
  | .null => by
    intro fs h
    rw [candidateOf] at h
    cases h
  | .list vs => by
    intro fs h
    rw [candidateOf] at h
    exact loaded_of_fields vs fs (Option.some.inj h)
  | .bool _ | .int _ | .float _ | .text _ | .object _ => by
    intro fs h
    rw [candidateOf] at h
    · obtain rfl := Except.ok.inj (Option.some.inj h)
      exact throughout_nil
    · exact nofun
    · exact nofun

theorem loaded_of_inMetadata : (ms : List (String × Value)) → ∀ fs,
    inMetadata ms = some (.ok fs) → Throughout Loaded fs
  | [] => by
    intro fs h
    rw [inMetadata] at h
    cases h
  | (k, v) :: ms => by
    intro fs h
    rw [inMetadata] at h
    split at h
    · exact loaded_of_metadataChildren v fs h
    · exact loaded_of_inMetadata ms fs h

theorem loaded_of_metadataChildren : (v : Value) → ∀ fs,
    metadataChildren v = some (.ok fs) → Throughout Loaded fs
  | .object info => by
    intro fs h
    rw [metadataChildren] at h
    exact loaded_of_candidates info "objectFields" fs (Option.join_eq_some_iff.1 h)
  | .null | .bool _ | .int _ | .float _ | .text _ | .list _ => by
    intro fs h
    rw [metadataChildren] at h
    · cases h
    · exact nofun

theorem loaded_of_fields : (vs : List Value) → ∀ fs, fields vs = .ok fs → Throughout Loaded fs
  | [] => by
    intro fs h
    rw [fields] at h
    obtain rfl := Except.ok.inj h
    exact throughout_nil
  | v :: vs => by
    intro fs h
    rw [fields] at h
    obtain ⟨o, ho, h⟩ := bind_eq_ok_iff.1 h
    obtain ⟨gs, hgs, h⟩ := bind_eq_ok_iff.1 h
    obtain rfl := Except.ok.inj h
    exact (loaded_of_field? v o ho).append (loaded_of_fields vs gs hgs)

end

/-! ### Loading again -/

/-- A field that loads as it was, once it is written. -/
structure Settled (f : FormField) : Prop where
  /-- Its metadata is written as it is: it holds no infinity, and nothing that is no number. -/
  metadata : f.metadata.map Value.storedMembers = f.metadata
  /-- Where it has no children, its metadata has none for it. -/
  children : f.children = none → childrenIn (f.metadata.getD []) = .ok []

/-- The metadata of a loaded field comes back exactly if it is written as it is. -/
theorem someList_storedMembers_eq_iff {o : Option (List (String × Value))} (h : o ≠ some []) :
    someList (Value.storedMembers (o.getD [])) = o ↔ o.map Value.storedMembers = o := by
  cases o with
  | none => exact iff_of_true rfl rfl
  | some ms =>
    have hne : ms ≠ [] := fun he => h (congrArg some he)
    rw [Option.getD_some, Option.map_some, someList_eq_some_iff hne, Option.some_inj]

theorem bind_someList {α : Type} {o : Option (List α)} (h : o ≠ some []) :
    o.bind someList = o := by
  cases o with
  | none => rfl
  | some xs => exact (someList_eq_some_iff fun he => h (congrArg some he)).2 rfl

theorem reloaded_eq_iff {f : FormField} (h : Loaded f) (fs : List FormField) :
    reloaded f fs = f ↔
      someList fs = f.children ∧ f.metadata.map Value.storedMembers = f.metadata := by
  have hm := someList_storedMembers_eq_iff h.metadata
  have ho := bind_someList h.options
  obtain ⟨_⟩ := f
  simp_all [reloaded]

theorem map_eq_ok_iff {α β ε : Type} {x : Except ε α} {g : α → β} {b : β} :
    x.map g = .ok b ↔ ∃ a, x = .ok a ∧ g a = b := by
  cases x with
  | error e => exact ⟨nofun, nofun⟩
  | ok a =>
    constructor
    · exact fun h => ⟨a, rfl, Except.ok.inj h⟩
    · rintro ⟨_, ⟨⟩, h⟩
      exact congrArg Except.ok h

theorem field?_toValue_eq_iff {f : FormField} (h : Loaded f) :
    field? (f.toValue .omit) = .ok (some f) ↔
      ∃ fs, writtenChildren f = .ok fs ∧ someList fs = f.children ∧
        f.metadata.map Value.storedMembers = f.metadata := by
  rw [field?_toValue h.toLoadable, map_eq_ok_iff]
  apply exists_congr
  intro fs
  rw [Option.some_inj, reloaded_eq_iff h]

theorem fields_toValues_cons_eq_iff {f : FormField} (h : Loaded f) (fs : List FormField) :
    fields (FormField.toValues .omit (f :: fs)) = .ok (f :: fs) ↔
      field? (f.toValue .omit) = .ok (some f) ∧
        fields (FormField.toValues .omit fs) = .ok fs := by
  rw [FormField.toValues, fields, bind_eq_ok_iff, field?_toValue h.toLoadable]
  constructor
  · rintro ⟨o, ho, hrest⟩
    obtain ⟨gs, hgs, he⟩ := bind_eq_ok_iff.1 hrest
    obtain ⟨cs, hcs, rfl⟩ := map_eq_ok_iff.1 ho
    obtain ⟨hf, rfl⟩ := List.cons.inj (Except.ok.inj he)
    exact ⟨map_eq_ok_iff.2 ⟨cs, hcs, congrArg some hf⟩, hgs⟩
  · rintro ⟨hf, hfs⟩
    exact ⟨some f, hf, bind_eq_ok_iff.2 ⟨fs, hfs, rfl⟩⟩

theorem exists_childrenIn_iff {info : List (String × Value)} :
    (∃ fs, childrenIn info = .ok fs ∧ someList fs = none) ↔ childrenIn info = .ok [] := by
  constructor
  · rintro ⟨fs, hfs, hn⟩
    rw [hfs, someList_eq_none_iff.1 hn]
  · exact fun h => ⟨[], h, rfl⟩

/-- A field without children comes back exactly if none are found for it. -/
theorem field?_toValue_eq_iff_of_childless {f : FormField} (h : Loaded f) (hc : f.children = none) :
    field? (f.toValue .omit) = .ok (some f) ↔ Settled f := by
  rw [field?_toValue_eq_iff h, writtenChildren, hc]
  have hwritten (hm : f.metadata.map Value.storedMembers = f.metadata) :
      Value.storedMembers (f.metadata.getD []) = f.metadata.getD [] := by
    cases hi : f.metadata with
    | none => rw [Option.getD_none, Value.storedMembers]
    | some info =>
      rw [hi] at hm
      exact Option.some.inj hm
  constructor
  · rintro ⟨fs, hfs, hn, hm⟩
    rw [hwritten hm] at hfs
    exact ⟨hm, fun _ => exists_childrenIn_iff.1 ⟨fs, hfs, hn⟩⟩
  · rintro ⟨hm, hin⟩
    obtain ⟨fs, hfs, hn⟩ := exists_childrenIn_iff.2 (hin hc)
    exact ⟨fs, (hwritten hm).symm ▸ hfs, hn, hm⟩

/-- A field with children comes back exactly if these do. -/
theorem field?_toValue_eq_iff_of_children {f : FormField} {gs : List FormField} (h : Loaded f)
    (hc : f.children = some gs) :
    field? (f.toValue .omit) = .ok (some f) ↔
      Settled f ∧ fields (FormField.toValues .omit gs) = .ok gs := by
  have hne : gs ≠ [] := fun he => h.children (he ▸ hc)
  rw [field?_toValue_eq_iff h, writtenChildren, hc]
  constructor
  · rintro ⟨fs, hfs, hs, hm⟩
    rw [(someList_eq_some_iff hne).1 hs] at hfs
    exact ⟨⟨hm, fun hn => nomatch hc.symm.trans hn⟩, hfs⟩
  · rintro ⟨hf, hgs⟩
    exact ⟨gs, hgs, (someList_eq_some_iff hne).2 rfl, hf.metadata⟩

mutual

/-- A loaded field comes back exactly if it and all fields below it are settled. -/
theorem field?_toValue_eq_iff_settled : (f : FormField) → Loaded f →
    (∀ gs, f.children = some gs → Throughout Loaded gs) →
    (field? (f.toValue .omit) = .ok (some f) ↔
      Settled f ∧ ∀ gs, f.children = some gs → Throughout Settled gs)
  | ⟨_, _, _, _, _, _, _, _, none, _, _, _⟩ => by
    intro h _
    rw [field?_toValue_eq_iff_of_childless h rfl]
    exact (and_iff_left nofun).symm
  | ⟨_, _, _, _, _, _, _, _, some gs, _, _, _⟩ => by
    intro h hgs
    rw [field?_toValue_eq_iff_of_children h rfl, fields_toValues_eq_iff gs (hgs gs rfl)]
    apply and_congr_right'
    constructor
    · rintro hs _ ⟨⟩
      exact hs
    · exact fun hs => hs gs rfl

theorem fields_toValues_eq_iff : (fs : List FormField) → Throughout Loaded fs →
    (fields (FormField.toValues .omit fs) = .ok fs ↔ Throughout Settled fs)
  | [] => by
    intro _
    rw [FormField.toValues, fields]
    exact iff_of_true rfl throughout_nil
  | f :: fs => by
    intro h
    obtain ⟨hf, hc, hfs⟩ := throughout_cons_iff.1 h
    rw [fields_toValues_cons_eq_iff hf, field?_toValue_eq_iff_settled f hf hc,
      fields_toValues_eq_iff fs hfs, throughout_cons_iff, and_assoc]

end

/-! ### Forms -/

theorem withOffset_ne_empty (m : Moment) : m.withOffset ≠ "" := by
  simp [Moment.withOffset]

theorem firstTrue_null (vs : List Value) : firstTrue (.null :: vs) = firstTrue vs := rfl

theorem firstTrue_text {s : String} (h : s ≠ "") (vs : List Value) :
    firstTrue (.text s :: vs) = some (.text s) := by
  have ht : (Value.text s).truth = true := by simpa [Value.truth] using h
  exact List.find?_cons_of_pos ht

/-- What is found among the members of a form. -/
structure Holds (ms : List (String × Value)) (form : Form) : Prop where
  fields : Value.get ms "fields" = .list (FormField.toValues .omit form.fields)
  name : first ms ["formName", "form_name"] = .text form.name
  version : Value.get ms "version" = .text form.version
  tenant : Value.get ms "tenantId" = (form.tenant.map .text).getD .null
  status : Value.get ms "status" = .text form.status.name
  createdAt : Value.get ms "createdAt" = .text form.createdAt

theorem holds_toValue {form : Form} {ms : List (String × Value)}
    (hms : form.toValue = .object ms) : Holds ms form := by
  obtain rfl := Value.object.inj hms
  constructor <;>
    simp [Value.get, Value.find?_cons, Value.find?_member_append, find?_nil, first, Value.isNull,
      Option.filter_some]

/-- A written form loads with its own name, version and time, and with what its fields load to. -/
theorem load_toValue {form : Form} {ms : List (String × Value)} (hms : form.toValue = .object ms)
    (hn : form.name ≠ "") (hv : form.version ≠ "") (hc : form.createdAt ≠ "") (now : Moment) :
    Form.load ms {} now = ((fields (FormField.toValues .omit form.fields)).mapError
      fun _ => LoadError.itemType).map fun fs => some { form with fields := fs } := by
  have h := holds_toValue hms
  have hstatus : FormStatus.ofName? form.status.name = some form.status := by
    cases form.status <;> rfl
  have hstatus_ne : form.status.name ≠ "" := by
    cases form.status <;> decide
  have htenant : ((form.tenant.map Value.text).getD .null).text? = form.tenant := by
    cases form.tenant <;> rfl
  have htext (s : String) : (Value.text s).text? = some s := rfl
  simp only [Form.load, root_eq_self h.fields, h.fields, h.name, h.version, h.tenant, h.status,
    h.createdAt, textOf, firstTrue_null, firstTrue_text hn, firstTrue_text hv, firstTrue_text hc,
    firstTrue_text hstatus_ne, htenant, Option.bind_some, htext, hstatus, Option.getD_some]
  cases fields (FormField.toValues .omit form.fields) <;> rfl

end Stored

open Stored

end Formwork
