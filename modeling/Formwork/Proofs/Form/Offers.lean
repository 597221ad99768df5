import Formwork.Proofs.Form.Reloading

/-!
What a stored field offers. Loading a field reads one value for each attribute, be it from the field
or from its metadata; its children are the fields that the list among these values describes, each
loaded from its own item. So a property of lists of stored fields that goes from the children of
the items to the list holds of every list.
-/
namespace Formwork.Stored

/-- The items of a list; nothing else has any. -/
def itemsIn : Value → List Value
  | .list vs => vs
  | _ => []

/-- Whether a value is the name of an item type. -/
def isItemType : Value → Bool
  | .text s => itemTypes.contains s
  | _ => false

/-- What a field offers for an attribute. Some attributes it may keep in its metadata instead; the
older key of the item type counts where the newer one names none. -/
def offer (ms : List (String × Value)) : String → Value
  | "item_type" => if isItemType (Value.get ms "itemType") then .null else Value.get ms "item_type"
  | "objectFields" => orElse (first ms childKeys) (Value.get (metadata ms) "objectFields")
  | "listInTable" => orElse (first ms ["listInTable", "list_in_table", "listVisible", "list_visible"])
      (Value.get (metadata ms) "listInTable")
  | "uniqueKey" => orElse (first ms ["uniqueKey", "unique_key"])
      (Value.get (metadata ms) "uniqueKey")
  | key => Value.get ms key

/-- The values that describe the children of a field. -/
def childValues (ms : List (String × Value)) : List Value := itemsIn (offer ms "objectFields")

variable {ms : List (String × Value)} {v : Value} {vs : List Value} {fs : List FormField}

/-! ### Children -/

theorem fields_itemsIn (v : Value) : fields (itemsIn v) = (candidateOf v).getD (pure []) := by
  cases v <;> simp [itemsIn, candidateOf, fields]

theorem first_cons (ms : List (String × Value)) (key : String) (keys : List String) :
    first ms (key :: keys) = orElse (Value.get ms key) (first ms keys) := by
  rw [first, List.findSome?_cons, Value.get]
  cases hv : Value.find? ms key with
  | none => rfl
  | some v => cases v <;> rfl

theorem candidateOf_orElse (v w : Value) :
    candidateOf (orElse v w) = (candidateOf v).or (candidateOf w) := by
  cases v <;> simp [orElse, Value.isNull, candidateOf]

/-- The first candidate is that of the first value. -/
theorem candidate?_candidates (ms : List (String × Value)) (keys : List String) :
    candidate? keys (candidates ms) = candidateOf (first ms keys) := by
  induction keys with
  | nil =>
    rw [candidate?_nil, first]
    simp [candidateOf]
  | cons key keys ih =>
    rw [candidate?_cons, first_cons, candidateOf_orElse, ih, lookup_candidates, Value.get]
    cases Value.find? ms key with
    | none => simp [candidateOf]
    | some v => rfl

theorem children_eq (ms : List (String × Value)) :
    ((candidate? childKeys (candidates ms)).orElse fun _ => inMetadata ms).getD (pure []) =
      fields (childValues ms) := by
  have hin : candidateOf (Value.get (metadata ms) "objectFields") = inMetadata ms := by
    rw [inMetadata_eq, metadata]
    cases Value.get ms "metadata" with
    | object info =>
      rw [metadataChildren, lookup_candidates, Value.get]
      cases Value.find? info "objectFields" with
      | none => simp [candidateOf]
      | some v => rfl
    | _ => simp [metadataChildren, Value.get, Value.find?, candidateOf]
  rw [candidate?_candidates, childValues, offer, fields_itemsIn, candidateOf_orElse, hin]
  cases candidateOf (first ms childKeys) <;> rfl

theorem offer_item_type (ms : List (String × Value)) :
    offer ms "item_type" =
      if isItemType (offer ms "itemType") then .null else Value.get ms "item_type" := rfl

theorem itemType?_offer (ms : List (String × Value)) :
    itemType? [offer ms "itemType", offer ms "item_type"] =
      itemType? [Value.get ms "itemType", Value.get ms "item_type"] := by
  have hnew : offer ms "itemType" = Value.get ms "itemType" := rfl
  rw [offer_item_type, hnew]
  split
  · next h =>
    cases hv : Value.get ms "itemType" with
    | text s =>
      rw [hv, isItemType] at h
      rw [itemType?, itemType?, if_pos h, if_pos h]
    | _ =>
      rw [hv] at h
      cases h
  · rfl

/-- A field is loaded from what it offers. -/
theorem field?_object (ms : List (String × Value)) :
    field? (.object ms) = (match key? ms with
      | none => pure none
      | some key => do
        let itemType ← itemType? [offer ms "itemType", offer ms "item_type"]
        let children ← fields (childValues ms)
        pure (some (assemble ms key itemType (someList children)))) := by
  rw [field?]
  cases key? ms with
  | none => rfl
  | some key =>
    dsimp only
    rw [children_eq, itemType?_offer]

/-- A list of fields is loaded item by item. -/
theorem fields_eq (vs : List Value) :
    fields vs = (do pure ((← vs.mapM field?).filterMap id)) := by
  induction vs with
  | nil => rw [fields]; rfl
  | cons v vs ih =>
    rw [fields, ih, List.mapM_cons]
    cases field? v with
    | error e => rfl
    | ok o =>
      cases vs.mapM field? with
      | error e => rfl
      | ok os => cases o <;> rfl

end Formwork.Stored
