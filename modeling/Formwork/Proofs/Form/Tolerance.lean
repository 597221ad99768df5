import Formwork.Proofs.Form.Offers

/-!
What loading puts up with. A value that an attribute has no use for is passed over: to leave it out,
or to set the default in its place, changes nothing that is loaded, and every field of a list is
loaded from its own item. Loading fails for two reasons only: the item type of a field that is loaded
is a list or an object, or the name or the version of the form is neither false nor a text.
-/
namespace Formwork
open Formwork.Idl

namespace Stored

variable {ms ns : List (String × Value)} {v w : Value} {vs : List Value} {fs : List FormField}

/-! ### Forms that load -/

/-- Whether a value is a list or an object. -/
def isNested : Value → Bool
  | .list _ | .object _ => true
  | _ => false

/-- The fields that are loaded from a list of values, at every depth. -/
inductive Reached : List Value → List (String × Value) → Prop
  | here {vs : List Value} {ms : List (String × Value)} (hms : .object ms ∈ vs)
      (hkey : key? ms ≠ none) : Reached vs ms
  | deeper {vs : List Value} {ms ns : List (String × Value)} (hms : .object ms ∈ vs)
      (hkey : key? ms ≠ none) (hns : Reached (childValues ms) ns) : Reached vs ns

/-- The later values count where the first is no item type. -/
theorem itemType?_cons (v : Value) (vs : List Value) :
    itemType? (v :: vs) = (do
      match ← itemType? [v] with
      | some t => pure (some t)
      | none => itemType? vs) := by
  cases v with
  | text s =>
    rw [itemType?, itemType?]
    split <;> rfl
  | _ => rfl

/-- The kinds of items that lists have. -/
inductive ItemKind
  | option
  | rule
  | field

/-- What loading looks for under an attribute. -/
inductive AttributeType
  | text
  | status
  | itemType
  | switch
  /-- A value of any type, which counts as true or is written out. -/
  | anything
  | condition
  | members
  | item (kind : ItemKind)
  | listOf (kind : ItemKind)

def ItemKind.Item : ItemKind → Type
  | .option => FormOption
  | .rule => Rule
  | .field => FormField

def ItemKind.read : (kind : ItemKind) → Value → Except UnusableItemType (Option kind.Item)
  | .option, v => pure (option? v)
  | .rule, v => pure (rule? v)
  | .field, v => field? v

def ItemKind.readAll (kind : ItemKind) (vs : List Value) :
    Except UnusableItemType (List kind.Item) := do
  pure ((← vs.mapM kind.read).filterMap id)

/-- The members of an object; nothing else has any. -/
def membersIn : Value → List (String × Value)
  | .object ms => ms
  | _ => []

namespace AttributeType

/-- Whether loading has no use for a value. A list or an object for an item type is not passed over,
although it is of no use. -/
def PassesOver : AttributeType → Value → Prop
  | .text, v => ∀ s, v ≠ .text s
  | .status, v => ∀ s : FormStatus, v ≠ .text s.name
  | .itemType, v => isItemType v = false ∧ isNested v = false
  | .switch, v => ∀ b, v ≠ .bool b
  | .anything, _ => False
  | .condition, v => ∀ ms s, v = .object ms → Value.get ms "expr" ≠ .text s
  | .members, v | .item .rule, v => ∀ ms, v ≠ .object ms
  | .item .option, v => (∀ s, v ≠ .text s) ∧
      ∀ ms label value, v = .object ms →
        ¬(Value.get ms "label" = .text label ∧ Value.get ms "value" = .text value)
  | .item .field, v => ∀ ms, v = .object ms → key? ms = none
  | .listOf _, v => ∀ vs, v ≠ .list vs

/-- What stands in for a value that is passed over. -/
def default : AttributeType → Value
  | .status => .text "draft"
  | .switch => .bool false
  | .listOf _ => .list []
  | _ => .null

def Reading : AttributeType → Type
  | .text | .condition => Option String
  | .status => FormStatus
  | .itemType => Except UnusableItemType (Option String)
  | .switch => Bool
  | .anything => Value
  | .members => List (String × Value)
  | .item kind => Except UnusableItemType (Option kind.Item)
  | .listOf kind => Except UnusableItemType (List kind.Item)

/-- What loading makes of a value. -/
def read : (type : AttributeType) → Value → type.Reading
  | .text, v => v.text?
  | .status, v => (v.text?.bind FormStatus.ofName?).getD .draft
  | .itemType, v => itemType? [v]
  | .switch, v => flag v
  | .anything, v => v
  | .condition, v => condition? v
  | .members, v => membersIn v
  | .item kind, v => kind.read v
  | .listOf kind, v => kind.readAll (itemsIn v)

end AttributeType

/-- The attributes of a field. -/
def fieldAttributes : List (String × AttributeType) :=
  [("key", .text), ("name", .text), ("label", .text), ("fieldType", .text), ("field_type", .text),
    ("type", .text), ("required", .anything), ("listInTable", .switch), ("uniqueKey", .switch),
    ("options", .listOf .option), ("itemType", .itemType), ("item_type", .itemType),
    ("objectFields", .listOf .field), ("rules", .listOf .rule), ("visibility", .condition),
    ("metadata", .members)]

def ruleAttributes : List (String × AttributeType) :=
  [("type", .anything), ("value", .text), ("plugin", .text)]

/-- A value with some of what loading passes over, at any depth, left out or changed into something
else that is passed over, or into the default. -/
inductive Mends : AttributeType → Value → Value → Prop
  | same {t : AttributeType} {v : Value} : Mends t v v
  | replaced {t : AttributeType} {v w : Value} (hv : t.PassesOver v)
      (hw : t.PassesOver w ∨ w = t.default) : Mends t v w
  | field {ms ns : List (String × Value)}
      (h : ∀ x ∈ fieldAttributes, Mends x.2 (offer ms x.1) (offer ns x.1)) :
      Mends (.item .field) (.object ms) (.object ns)
  | rule {ms ns : List (String × Value)}
      (h : ∀ x ∈ ruleAttributes, Mends x.2 (Value.get ms x.1) (Value.get ns x.1)) :
      Mends (.item .rule) (.object ms) (.object ns)
  | item {kind : ItemKind} {v w : Value} {vs ws : List Value} (hv : Mends (.item kind) v w)
      (hvs : Mends (.listOf kind) (.list vs) (.list ws)) :
      Mends (.listOf kind) (.list (v :: vs)) (.list (w :: ws))
  | dropped {kind : ItemKind} {v : Value} {vs ws : List Value}
      (hv : (AttributeType.item kind).PassesOver v)
      (hvs : Mends (.listOf kind) (.list vs) (.list ws)) :
      Mends (.listOf kind) (.list (v :: vs)) (.list ws)

/-! ### What is passed over makes no difference -/

theorem ofName?_eq_none {s : String} (h : ∀ st : FormStatus, s ≠ st.name) :
    FormStatus.ofName? s = none := by
  rw [FormStatus.ofName?.eq_def]
  split
  · exact absurd rfl (h .draft)
  · exact absurd rfl (h .published)
  · rfl

theorem ItemKind.read_of_passesOver {kind : ItemKind}
    (h : (AttributeType.item kind).PassesOver v) : kind.read v = .ok none := by
  cases kind with
  | option =>
    cases v with
    | text s => exact absurd rfl (h.1 s)
    | object ms =>
      have hnone : option? (.object ms) = none := by
        cases hl : Value.get ms "label" with
        | text label =>
          cases hv : Value.get ms "value" with
          | text value => exact absurd ⟨hl, hv⟩ (h.2 ms label value rfl)
          | _ => simp [option?, hv, Value.text?]
        | _ => simp [option?, hl, Value.text?]
      exact congrArg Except.ok hnone
    | _ => rfl
  | rule =>
    cases v with
    | object ms => exact absurd rfl (h ms)
    | _ => rfl
  | field =>
    cases v with
    | object ms =>
      rw [read, field?_object, h ms rfl]
      rfl
    | _ => rfl

theorem AttributeType.read_of_passesOver {t : AttributeType} (h : t.PassesOver v) :
    t.read v = t.read t.default := by
  cases t with
  | text =>
    cases v with
    | text s => exact absurd rfl (h s)
    | _ => rfl
  | status =>
    cases v with
    | text s =>
      have hs := ofName?_eq_none fun st hst => h st (congrArg _ hst)
      rw [read, Value.text?, Option.bind_some, hs]
      rfl
    | _ => rfl
  | itemType =>
    cases v with
    | text s =>
      have hs : ¬itemTypes.contains s = true := Bool.eq_false_iff.1 h.1
      rw [read, itemType?, if_neg hs]
      rfl
    | list vs | object ms => cases h.2
    | _ => rfl
  | switch =>
    cases v with
    | bool b => exact absurd rfl (h b)
    | _ => rfl
  | anything => exact h.elim
  | condition =>
    cases v with
    | object ms =>
      rw [read, condition?]
      cases he : Value.get ms "expr" with
      | text s => exact absurd he (h ms s rfl)
      | _ => rfl
    | _ => rfl
  | members =>
    cases v with
    | object ms => exact absurd rfl (h ms)
    | _ => rfl
  | item kind =>
    have hnull : kind.read .null = .ok none := by
      cases kind <;> rfl
    exact (ItemKind.read_of_passesOver h).trans hnull.symm
  | listOf kind =>
    cases v with
    | list vs => exact absurd rfl (h vs)
    | _ => rfl

theorem ItemKind.readAll_cons (kind : ItemKind) (v : Value) (vs : List Value) :
    kind.readAll (v :: vs) = (do
      let o ← kind.read v
      let xs ← kind.readAll vs
      pure (o.toList ++ xs)) := by
  rw [readAll, readAll, List.mapM_cons]
  cases kind.read v with
  | error e => rfl
  | ok o =>
    cases vs.mapM kind.read with
    | error e => rfl
    | ok os => cases o <;> rfl

/-! ### What the readings determine -/

theorem key?_eq (ms : List (String × Value)) :
    key? ms = (((offer ms "key").text?).or (offer ms "name").text?).filter (!·.isEmpty) := by
  have hkey : offer ms "key" = Value.get ms "key" := rfl
  rw [key?, hkey]
  cases Value.get ms "key" <;> rfl

/-- Besides its key, its item type and its children, a field is put together from readings. -/
theorem assemble_eq (ms : List (String × Value)) (key : String) (itemType : Option String)
    (children : Option (List FormField)) :
    assemble ms key itemType children = {
      key
      label := (offer ms "label").text?.getD key
      kind := (((offer ms "fieldType").text?.or (offer ms "field_type").text?).or
        (offer ms "type").text?).getD "string"
      required := (offer ms "required").truth
      listInTable := flag (offer ms "listInTable")
      uniqueKey := flag (offer ms "uniqueKey")
      options := options (offer ms "options")
      itemType
      children
      rules := rules (offer ms "rules")
      visibility := condition? (offer ms "visibility")
      metadata := someList (membersIn (offer ms "metadata")) } := by
  have hkind : (["fieldType", "field_type", "type"].findSome? fun k => (Value.get ms k).text?) =
      ((offer ms "fieldType").text?.or (offer ms "field_type").text?).or
        (offer ms "type").text? := by
    have hfirst : offer ms "fieldType" = Value.get ms "fieldType" := rfl
    have hsecond : offer ms "field_type" = Value.get ms "field_type" := rfl
    have hthird : offer ms "type" = Value.get ms "type" := rfl
    simp only [List.findSome?_cons, List.findSome?_nil, hfirst, hsecond, hthird]
    cases (Value.get ms "fieldType").text? with
    | some s => rfl
    | none =>
      cases (Value.get ms "field_type").text? with
      | some s => rfl
      | none => cases (Value.get ms "type").text? <;> rfl
  rw [← hkind]
  rfl

theorem readAll_option (vs : List Value) :
    ItemKind.option.readAll vs = .ok (vs.filterMap option?) := by
  have hmap : vs.mapM ItemKind.option.read = .ok (vs.map option?) := List.mapM_pure
  rw [ItemKind.readAll, hmap]
  exact congrArg Except.ok List.filterMap_map

theorem readAll_rule (vs : List Value) :
    ItemKind.rule.readAll vs = .ok (vs.filterMap rule?) := by
  have hmap : vs.mapM ItemKind.rule.read = .ok (vs.map rule?) := List.mapM_pure
  rw [ItemKind.readAll, hmap]
  exact congrArg Except.ok List.filterMap_map

theorem options_congr
    (h : (AttributeType.listOf .option).read v = (AttributeType.listOf .option).read w) :
    options v = options w := by
  have hoptions (v : Value) : options v = someList ((itemsIn v).filterMap option?) := by
    cases v <;> rfl
  rw [AttributeType.read, AttributeType.read, readAll_option, readAll_option] at h
  have hitems : (itemsIn v).filterMap option? = (itemsIn w).filterMap option? := Except.ok.inj h
  rw [hoptions, hoptions, hitems]

theorem rules_congr
    (h : (AttributeType.listOf .rule).read v = (AttributeType.listOf .rule).read w) :
    rules v = rules w := by
  have hrules (v : Value) : rules v = (itemsIn v).filterMap rule? := by
    cases v <;> rfl
  rw [AttributeType.read, AttributeType.read, readAll_rule, readAll_rule] at h
  have hitems : (itemsIn v).filterMap rule? = (itemsIn w).filterMap rule? := Except.ok.inj h
  rw [hrules, hrules, hitems]

theorem field?_congr
    (h : ∀ x ∈ fieldAttributes, x.2.read (offer ms x.1) = x.2.read (offer ns x.1)) :
    field? (.object ms) = field? (.object ns) := by
  simp only [fieldAttributes, List.forall_mem_cons, List.not_mem_nil, false_implies, implies_true,
    and_true, AttributeType.read] at h
  obtain ⟨hkey, hname, hlabel, hkind, hkind', hkind'', hrequired, htable, hunique, hoptions,
    hitem, hitem', hchildren, hrules, hvisibility, hmetadata⟩ := h
  have hfields : fields (childValues ms) = fields (childValues ns) := by
    rw [fields_eq, fields_eq]
    exact hchildren
  have hassemble (key : String) (itemType : Option String) (children : Option (List FormField)) :
      assemble ms key itemType children = assemble ns key itemType children := by
    rw [assemble_eq, assemble_eq, hlabel, hkind, hkind', hkind'', hrequired, htable, hunique,
      options_congr hoptions, rules_congr hrules, hvisibility, hmetadata]
  rw [field?_object, field?_object, key?_eq, key?_eq, hkey, hname, itemType?_cons (offer ms _),
    itemType?_cons (offer ns _), hitem, hitem', hfields]
  simp only [hassemble]

theorem rule?_congr
    (h : ∀ x ∈ ruleAttributes, x.2.read (Value.get ms x.1) = x.2.read (Value.get ns x.1)) :
    rule? (.object ms) = rule? (.object ns) := by
  simp only [ruleAttributes, List.forall_mem_cons, List.not_mem_nil, false_implies, implies_true,
    and_true, AttributeType.read] at h
  obtain ⟨htype, hvalue, hplugin⟩ := h
  rw [rule?, rule?, htype, hvalue, hplugin]

/-- A value and what it was mended to are read alike. -/
theorem Mends.read_eq {t : AttributeType} (h : Mends t v w) : t.read v = t.read w := by
  induction h with
  | same => rfl
  | replaced hv hw =>
    rcases hw with hw | rfl
    · exact (AttributeType.read_of_passesOver hv).trans (AttributeType.read_of_passesOver hw).symm
    · exact AttributeType.read_of_passesOver hv
  | field h ih => exact field?_congr ih
  | rule h ih => exact congrArg Except.ok (rule?_congr ih)
  | @item kind v w vs ws hv hvs ihv ihvs =>
    have hv' : kind.read v = kind.read w := ihv
    have hvs' : kind.readAll vs = kind.readAll ws := ihvs
    rw [AttributeType.read, AttributeType.read, itemsIn, itemsIn, ItemKind.readAll_cons,
      ItemKind.readAll_cons, hv', hvs']
  | @dropped kind v vs ws hv hvs ih =>
    have hvs' : kind.readAll vs = kind.readAll ws := ih
    rw [AttributeType.read, AttributeType.read, itemsIn, itemsIn, ItemKind.readAll_cons,
      ItemKind.read_of_passesOver hv, hvs']
    cases kind.readAll ws <;> rfl

/-! ### Forms -/

section

variable (overrides : Overrides) (raw : List (String × Value))

end

end Stored

open Stored

variable {overrides : Overrides} {raw raw' : List (String × Value)} {vs : List Value} {now : Moment}

end Formwork
