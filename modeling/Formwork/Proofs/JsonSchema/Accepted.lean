import Formwork.JsonSchema.Export
import Formwork.JsonSchema.Violation
import Formwork.Proofs.Fallible
import Formwork.Proofs.Form.Pruning
import Formwork.Proofs.Keyed
import Formwork.Proofs.Record.Acceptance

/-!
Which records the exported document of a compiled form accepts: exactly those that hold declared keys
only, have a value for each required field and give every field a value of its own kind, at every
level of objects.
-/
namespace Formwork.JsonSchema
open Formwork.Record (isNumeral)

/-! ### Values of a field's kind -/

/-- The pattern is found in the text. -/
def Shows (s p : String) : Prop :=
  ∃ node, Pattern.read p.toList = .ok node ∧ node.foundIn s.toList = true

/-- The text is one that a field for texts takes. -/
structure TakesText (f : FormField) (s : String) : Prop where
  filled : f.isRequired = true → s ≠ ""
  pattern : ∀ r ∈ f.rules, r.type = "pattern" → ∀ p ∈ r.value, Shows s p

/-- The text is the value of an option, or the field has no options. -/
def Picks (f : FormField) (s : String) : Prop :=
  f.options.getD [] = [] ∨ s ∈ (f.options.getD []).map FormOption.value

mutual

/-- Values of a field's kind. Null is of no kind; an image may also be stored as a list of texts. -/
inductive OfKind : FormField → Value → Prop
  | text {f : FormField} {s : String} (hk : f.kind ∈ ["string", "textarea", "markdown", "json"])
      (ht : TakesText f s) : OfKind f (.text s)
  | select {f : FormField} {s : String} (hk : f.kind = "select") (ho : Picks f s)
      (ht : TakesText f s) : OfKind f (.text s)
  | number {f : FormField} {v : Value} (hk : f.kind = "number") (hv : isNumeral v = true) :
      OfKind f v
  | switch {f : FormField} {b : Bool} (hk : f.kind ∈ ["switch", "checkbox"]) : OfKind f (.bool b)
  | image {f : FormField} {s : String} (hk : f.kind = "image") : OfKind f (.text s)
  | images {f : FormField} {ss : List String} (hk : f.kind ∈ ["image", "array-image"]) :
      OfKind f (.list (ss.map .text))
  | checkboxes {f : FormField} {ss : List String} (hk : f.kind = "checkbox-group")
      (ho : ∀ s ∈ ss, Picks f s) : OfKind f (.list (ss.map .text))
  | texts {f : FormField} {ss : List String} (hk : f.kind = "array")
      (hi : f.itemType = some "string") : OfKind f (.list (ss.map .text))
  | numbers {f : FormField} {vs : List Value} (hk : f.kind = "array")
      (hi : f.itemType = some "number") (hv : ∀ v ∈ vs, isNumeral v = true) : OfKind f (.list vs)
  | object {f : FormField} {fs : List FormField} {ms : List (String × Value)}
      (hk : f.kind = "object") (hc : f.children = some fs) (h : WellTyped fs ms) :
      OfKind f (.object ms)
  | rows {f : FormField} {fs : List FormField} {rows : List (List (String × Value))}
      (hk : f.kind = "array<object>") (hc : f.children = some fs)
      (h : ∀ ms ∈ rows, WellTyped fs ms) : OfKind f (.list (rows.map .object))

/-- Records, at one level of objects and all below, that are typed as their fields are declared. -/
inductive WellTyped : List FormField → List (String × Value) → Prop
  | intro {fs : List FormField} {ms : List (String × Value)}
      (declared : ∀ m ∈ ms, m.1 ∈ fs.map (·.key))
      (required : ∀ f ∈ fs, f.isRequired = true → (Value.find? ms f.key).isSome = true)
      (typed : ∀ f ∈ fs, ∀ v, Value.find? ms f.key = some v → OfKind f v) : WellTyped fs ms

end

/-! ### What single keywords accept -/

/-- A value of which a node has nothing to complain. -/
def Accepts (node : Node) (v : Value) : Prop := node.violations v = []

/-- The node says nothing about the members of objects. -/
def SaysNothingOfMembers (node : Node) : Prop :=
  ∀ k ∈ node, k.word ≠ "properties" ∧ k.word ≠ "additionalProperties"

variable {v : Value} {a b : Node} {ps : List String}

theorem violations_cons (k : Keyword) (node : Node) :
    violations ps v (k :: node) = keywordViolations ps v k ++ violations ps v node := rfl

theorem violations_eq_nil_iff {node : Node} :
    violations ps v node = [] ↔ ∀ k ∈ node, keywordViolations ps v k = [] := by
  induction node with
  | nil => exact iff_of_true rfl nofun
  | cons k node ih => rw [violations_cons, List.append_eq_nil_iff, ih, List.forall_mem_cons]

theorem when_eq_nil_iff {fault : Fault} {c : Bool} : when (!c) fault = [] ↔ c = true := by
  cases c <;> simp [when]

theorem keywordViolations_congr {k : Keyword} (h : k.word ≠ "additionalProperties")
    (ps qs : List String) : keywordViolations ps v k = keywordViolations qs v k := by
  cases k with
  | closed => exact absurd rfl h
  | _ => rfl

theorem propertyKeys_eq_nil (h : SaysNothingOfMembers a) : a.propertyKeys = [] := by
  rw [Node.propertyKeys, List.findSome?_eq_none_iff.2, Option.getD_none]
  intro k hk
  have hw := (h k hk).1
  cases k with
  | properties => exact absurd rfl hw
  | _ => rfl

theorem propertyKeys_append_left (h : SaysNothingOfMembers a) :
    Node.propertyKeys (a ++ b) = b.propertyKeys := by
  induction a with
  | nil => rfl
  | cons k a ih =>
    obtain ⟨⟨hk, -⟩, ha⟩ := List.forall_mem_cons.1 h
    rw [← ih ha]
    cases k with
    | properties => exact absurd rfl hk
    | _ => rfl

theorem propertyKeys_append_right (h : SaysNothingOfMembers b) :
    Node.propertyKeys (a ++ b) = a.propertyKeys := by
  induction a with
  | nil => exact propertyKeys_eq_nil h
  | cons k a ih =>
    cases k with
    | properties => rfl
    | _ => exact ih

theorem violations_congr (h : SaysNothingOfMembers a) (ps qs : List String) :
    violations ps v a = [] ↔ violations qs v a = [] := by
  rw [violations_eq_nil_iff, violations_eq_nil_iff]
  apply forall₂_congr
  intro k hk
  rw [keywordViolations_congr (h k hk).2 ps qs]

theorem accepts_append_left (h : SaysNothingOfMembers a) :
    Accepts (a ++ b) v ↔ Accepts a v ∧ Accepts b v := by
  rw [Accepts, Node.violations, propertyKeys_append_left h, violations_eq_nil_iff,
    List.forall_mem_append, ← violations_eq_nil_iff, ← violations_eq_nil_iff,
    violations_congr h _ a.propertyKeys]
  rfl

theorem accepts_append_right (h : SaysNothingOfMembers b) :
    Accepts (a ++ b) v ↔ Accepts a v ∧ Accepts b v := by
  rw [Accepts, Node.violations, propertyKeys_append_right h, violations_eq_nil_iff,
    List.forall_mem_append, ← violations_eq_nil_iff, ← violations_eq_nil_iff,
    violations_congr h _ b.propertyKeys]
  rfl

theorem accepts_nil : Accepts [] v := rfl

theorem accepts_singleton {k : Keyword} (h : k.word ≠ "additionalProperties") :
    Accepts [k] v ↔ keywordViolations [] v k = [] := by
  rw [Accepts, Node.violations, violations_eq_nil_iff, List.forall_mem_singleton,
    keywordViolations_congr h _ []]

theorem saysNothing_singleton {k : Keyword} (hp : k.word ≠ "properties")
    (hc : k.word ≠ "additionalProperties") : SaysNothingOfMembers [k] :=
  List.forall_mem_singleton.2 ⟨hp, hc⟩

theorem accepts_iff_forall (h : SaysNothingOfMembers a) :
    Accepts a v ↔ ∀ k ∈ a, Accepts [k] v := by
  rw [Accepts, Node.violations, violations_eq_nil_iff]
  apply forall₂_congr
  intro k hk
  rw [accepts_singleton (h k hk).2, keywordViolations_congr (h k hk).2]

theorem accepts_type {names : List TypeName} :
    Accepts [.type names] v ↔ ∃ n ∈ names, n.fits v = true := by
  rw [accepts_singleton (by simp [Keyword.word])]
  exact when_eq_nil_iff.trans List.any_eq_true

theorem accepts_type_cons {names : List TypeName} :
    Accepts (.type names :: a) v ↔ (∃ n ∈ names, n.fits v = true) ∧ Accepts a v := by
  rw [← accepts_type, ← accepts_append_left
    (saysNothing_singleton (by simp [Keyword.word]) (by simp [Keyword.word]))]
  rfl

theorem accepts_options {values : List String} :
    Accepts [.options values] v ↔ ∃ s ∈ values, v = .text s := by
  rw [accepts_singleton (by simp [Keyword.word])]
  apply when_eq_nil_iff.trans
  cases v <;> simp [Value.text?]

theorem accepts_items {node : Node} {vs : List Value} :
    Accepts [.items node] (.list vs) ↔ ∀ x ∈ vs, Accepts node x := by
  rw [accepts_singleton (by simp [Keyword.word])]
  apply List.flatMap_eq_nil_iff.trans
  simp only [List.map_eq_nil_iff]
  conv_rhs => rw [← List.zipIdx_map_fst 0 vs, List.forall_mem_map]
  rfl

theorem accepts_items_text {node : Node} {s : String} : Accepts [.items node] (.text s) := by
  rw [accepts_singleton (by simp [Keyword.word])]
  rfl

theorem accepts_pattern {p s : String} (h : Idl.Readable p) :
    Accepts [.pattern p] (.text s) ↔ Shows s p := by
  obtain ⟨node, hnode⟩ := h
  rw [accepts_singleton (by simp [Keyword.word])]
  change when (mismatches p (.text s)) _ = [] ↔ _
  rw [mismatches, hnode, when_eq_nil_iff, Shows, hnode]
  simp

theorem lt_ofInt {m n : Int} : Quantity.lt (.ofInt m) (.ofInt n) = true ↔ m < n := by
  simp [Quantity.lt, Quantity.compare?, Quantity.ofInt, Int.compare_eq_lt]

theorem accepts_nonempty {s : String} :
    Accepts [.limit .minLength (.whole 1)] (.text s) ↔ s ≠ "" := by
  have hlength : ¬((s.length : Int) < 1) ↔ s ≠ "" := by
    rw [← not_iff_not, not_not, not_not, ← String.length_eq_zero_iff]
    omega
  rw [accepts_singleton (by decide)]
  apply when_eq_nil_iff.trans
  simp only [Limit.admits, Bound.quantity]
  rw [Bool.not_eq_true', ← Bool.not_eq_true, lt_ofInt, hlength]

theorem extraKeys_eq_nil_iff {keys : List String} {ms : List (String × Value)} :
    extraKeys keys (.object ms) = [] ↔ ∀ m ∈ ms, m.1 ∈ keys := by
  rw [extraKeys, ← List.length_eq_zero_iff, List.length_mergeSort, List.length_eq_zero_iff,
    List.filter_eq_nil_iff, List.forall_mem_map]
  simp

theorem flatMap_missing_eq_nil_iff {keys : List String} {ms : List (String × Value)} :
    (keys.flatMap fun key => when (Value.find? ms key).isNone (.missing key)) = [] ↔
      ∀ key ∈ keys, (Value.find? ms key).isSome = true := by
  rw [List.flatMap_eq_nil_iff]
  apply forall₂_congr
  intro key _
  rw [← Option.not_isSome, when_eq_nil_iff]

theorem accepts_objectNode {required : List String} {properties : List (String × Node)} :
    Accepts (objectNode required properties) v ↔ ∃ ms, v = .object ms ∧
      propertyViolations ms properties = [] ∧
      (∀ key ∈ required, (Value.find? ms key).isSome = true) ∧
      ∀ m ∈ ms, m.1 ∈ properties.map (·.1) := by
  have htype : keywordViolations (properties.map (·.1)) v (.type [.object]) = [] ↔
      ∃ ms, v = .object ms := by
    rw [keywordViolations, when_eq_nil_iff]
    cases v <;> simp [TypeName.fits]
  have hmembers (ms : List (String × Value)) : (∀ k ∈ [.properties properties, .required required,
      .closed], keywordViolations (properties.map (·.1)) (.object ms) k = []) ↔
      propertyViolations ms properties = [] ∧
        (∀ key ∈ required, (Value.find? ms key).isSome = true) ∧
        ∀ m ∈ ms, m.1 ∈ properties.map (·.1) := by
    have hclosed (keys : List String) : when (!keys.isEmpty) (.unexpected keys) = [] ↔ keys = [] := by
      rw [when_eq_nil_iff, List.isEmpty_iff]
    rw [List.forall_mem_cons, List.forall_mem_cons, List.forall_mem_singleton, keywordViolations,
      keywordViolations, keywordViolations, flatMap_missing_eq_nil_iff, hclosed,
      extraKeys_eq_nil_iff]
  have hkeys : (objectNode required properties).propertyKeys = properties.map (·.1) := rfl
  rw [Accepts, Node.violations, hkeys, objectNode, violations_eq_nil_iff, List.forall_mem_cons, htype]
  constructor
  · rintro ⟨⟨ms, rfl⟩, h⟩
    exact ⟨ms, rfl, (hmembers ms).1 h⟩
  · rintro ⟨ms, rfl, h⟩
    exact ⟨⟨ms, rfl⟩, (hmembers ms).2 h⟩

theorem accepts_listOf {items : Node} :
    Accepts (listOf items) v ↔ ∃ vs, v = .list vs ∧ ∀ x ∈ vs, Accepts items x := by
  rw [listOf, accepts_type_cons]
  constructor
  · rintro ⟨⟨n, hn, hfits⟩, hitems⟩
    obtain rfl := List.mem_singleton.1 hn
    cases v with
    | list vs => exact ⟨vs, rfl, accepts_items.1 hitems⟩
    | _ => cases hfits
  · rintro ⟨vs, rfl, hitems⟩
    exact ⟨⟨.array, .head _, rfl⟩, accepts_items.2 hitems⟩

/-! ### The type of a field's values -/

variable {f : FormField}

/-- The items of a list are each made by `c` from something that has `p`. -/
theorem forall_mem_exists_iff {α : Type} {c : α → Value} {p : α → Prop} {vs : List Value} :
    (∀ x ∈ vs, ∃ a, x = c a ∧ p a) ↔ ∃ as : List α, vs = as.map c ∧ ∀ a ∈ as, p a := by
  constructor
  · intro h
    induction vs with
    | nil => exact ⟨[], rfl, nofun⟩
    | cons x vs ih =>
      obtain ⟨⟨a, rfl, ha⟩, hvs⟩ := List.forall_mem_cons.1 h
      obtain ⟨as, rfl, has⟩ := ih hvs
      exact ⟨a :: as, rfl, List.forall_mem_cons.2 ⟨ha, has⟩⟩
  · rintro ⟨as, rfl, h⟩
    rw [List.forall_mem_map]
    exact fun a ha => ⟨a, rfl, h a ha⟩

theorem accepts_string : Accepts [.type [.string]] v ↔ ∃ s, v = .text s := by
  rw [accepts_type]
  cases v <;> simp [TypeName.fits]

theorem accepts_number : Accepts [.type [.number]] v ↔ isNumeral v = true := by
  rw [accepts_type]
  cases v <;> simp [TypeName.fits, isNumeral]

theorem accepts_boolean : Accepts [.type [.boolean]] v ↔ ∃ b, v = .bool b := by
  rw [accepts_type]
  cases v <;> simp [TypeName.fits]

theorem accepts_image : Accepts [.type [.string, .array], .items [.type [.string]]] v ↔
    (∃ s, v = .text s) ∨ ∃ ss : List String, v = .list (ss.map .text) := by
  rw [accepts_type_cons]
  cases v with
  | list vs =>
    have hitems : (∀ x ∈ vs, ∃ s, x = Value.text s) ↔ ∃ ss : List String, vs = ss.map .text := by
      simpa using forall_mem_exists_iff (c := Value.text) (p := fun _ => True)
    simp only [accepts_items, accepts_string, hitems]
    simp [TypeName.fits]
  | text s => simp [accepts_items_text, TypeName.fits]
  | _ => simp [TypeName.fits]

theorem accepts_optionNode : Accepts (optionNode f) v ↔ ∃ s, v = .text s ∧ Picks f s := by
  rw [optionNode]
  split
  · next h =>
    have hnone : f.options.getD [] = [] := List.map_eq_nil_iff.1 h
    simp [accepts_string, Picks, hnone]
  · next values hne =>
    have hsome : f.options.getD [] ≠ [] := by
      intro h
      rw [h] at hne
      exact hne rfl
    rw [accepts_type_cons, accepts_options]
    simp only [Picks, hsome, false_or]
    constructor
    · rintro ⟨-, s, hs, rfl⟩
      exact ⟨s, rfl, hs⟩
    · rintro ⟨s, rfl, hs⟩
      exact ⟨⟨.string, .head _, rfl⟩, s, hs, rfl⟩

theorem accepts_listOf_map {α : Type} {c : α → Value} {p : α → Prop} {items : Node}
    (h : ∀ x, Accepts items x ↔ ∃ a, x = c a ∧ p a) :
    Accepts (listOf items) v ↔ ∃ as : List α, v = .list (as.map c) ∧ ∀ a ∈ as, p a := by
  simp only [accepts_listOf, h, forall_mem_exists_iff]
  constructor
  · rintro ⟨_, rfl, as, rfl, h⟩
    exact ⟨as, rfl, h⟩
  · rintro ⟨as, rfl, h⟩
    exact ⟨_, rfl, as, rfl, h⟩

theorem accepts_texts :
    Accepts (listOf [.type [.string]]) v ↔ ∃ ss : List String, v = .list (ss.map .text) := by
  rw [accepts_listOf_map (c := Value.text) (p := fun _ => True) fun x => by
    simp only [accepts_string, and_true]]
  simp only [implies_true, and_true]

/-! ### Rules -/

/-- The keywords that an annotated rule adds to the node of a field. -/
def ruleKeywords (kind : String) (r : Rule) : Node :=
  if r.type = "pattern" ∧ kind ∈ textKinds then [.pattern (r.value.getD "")] else []

theorem put_of_not_has {k : Keyword} {node : Node} (h : node.has k.word = false) :
    node.put k = node ++ [k] := by
  apply Keyed.put_of_not_mem
  intro hm
  obtain ⟨l, hl, hw⟩ := List.mem_map.1 hm
  have := List.any_eq_false.1 h l hl
  simp [hw] at this

theorem putRule_of_annotated {r : Rule} (hr : r.Annotated) (kind : String)
    (hn : kind ∈ textKinds → r.type = "pattern" → a.has "pattern" = false) :
    putRule kind a r = .ok (a ++ ruleKeywords kind r) := by
  rw [putRule, ruleKeywords]
  by_cases hp : r.type = "pattern"
  · obtain ⟨p, hv, hempty, node, hread⟩ := hr.pattern hp
    by_cases hk : kind ∈ textKinds
    · have hput : a.put (.pattern p) = a ++ [.pattern p] := put_of_not_has (hn hk hp)
      simp [hp, putPattern, hv, hempty, hk, hread, hput]
    · simp [hp, putPattern, hk]
  · have ht := hr.type
    simp only [List.mem_cons, hp, List.not_mem_nil, or_false, false_or] at ht
    rcases ht with ht | ht <;> simp [ht]

/-- A field has one pattern at most, so the keywords of its rules come one after the other. -/
theorem foldlM_putRule {rules : List Rule} (hr : ∀ r ∈ rules, r.Annotated)
    (hd : (rules.map (·.type)).Nodup) (kind : String)
    (hn : kind ∈ textKinds → "pattern" ∈ rules.map (·.type) → a.has "pattern" = false) :
    rules.foldlM (putRule kind) a = .ok (a ++ rules.flatMap (ruleKeywords kind)) := by
  induction rules generalizing a with
  | nil => simp [pure, Except.pure]
  | cons r rules ih =>
    obtain ⟨hr, hrs⟩ := List.forall_mem_cons.1 hr
    rw [List.map_cons, List.nodup_cons] at hd
    have hput := putRule_of_annotated (a := a) hr kind fun hk hp =>
      hn hk (by rw [List.map_cons, hp]; exact .head _)
    have hrest : kind ∈ textKinds → "pattern" ∈ rules.map (·.type) →
        Node.has "pattern" (a ++ ruleKeywords kind r) = false := by
      intro hk hm
      have hp : r.type ≠ "pattern" := by
        rintro hp
        exact hd.1 (hp ▸ hm)
      rw [ruleKeywords, if_neg (fun h => hp h.1), List.append_nil]
      exact hn hk (.tail _ hm)
    rw [List.foldlM_cons, hput, List.flatMap_cons, ← List.append_assoc, ← ih hrs hd.2 hrest]
    rfl

def titleKeywords (f : FormField) : Node := if f.label.isEmpty then [] else [.title f.label]

/-- What the rules of a field and its being required add to its node. -/
def textKeywords (f : FormField) : Node :=
  f.rules.flatMap (ruleKeywords f.kind) ++
    if f.isRequired ∧ f.kind ∈ textKinds then [.limit .minLength (.whole 1)] else []

theorem has_append {word : String} : Node.has word (a ++ b) = (a.has word || b.has word) :=
  List.any_append

theorem has_titleKeywords {word : String} (h : word ≠ "title") :
    (titleKeywords f).has word = false := by
  rw [titleKeywords]
  split
  · rfl
  · simp [Node.has, Keyword.word, h.symm]

theorem has_typeNode {word : String} (hk : f.kind ∈ textKinds) (ht : word ≠ "type")
    (he : word ≠ "enum") (children : Node) : (typeNode f children).has word = false := by
  have hoptions : (optionNode f).has word = false := by
    rw [optionNode]
    split <;> simp [Node.has, Keyword.word, ht.symm, he.symm]
  simp only [textKinds, List.mem_cons, List.not_mem_nil, or_false] at hk
  rw [typeNode]
  rcases hk with hk | hk | hk | hk | hk
  case inr.inr.inr.inr => simpa [hk] using hoptions
  all_goals simp [hk, Node.has, Keyword.word, ht.symm]

theorem has_flatMap_ruleKeywords {rules : List Rule} {kind word : String} (h : word ≠ "pattern") :
    Node.has word (rules.flatMap (ruleKeywords kind)) = false := by
  rw [Node.has, List.any_eq_false]
  intro k hk
  obtain ⟨r, -, hk⟩ := List.mem_flatMap.1 hk
  rw [ruleKeywords] at hk
  split at hk
  · rw [List.mem_singleton.1 hk]
    simp [Keyword.word, h.symm]
  · cases hk

/-- The node of a compiled field: a title, the type of the values, and what is asked of texts. -/
theorem fieldNode_eq (hf : f.Shaped) (children : Node) :
    fieldNode f children = .ok (titleKeywords f ++ (typeNode f children ++ textKeywords f)) := by
  have hbase (word : String) (hk : f.kind ∈ textKinds) (h : word ∉ ["title", "type", "enum"]) :
      (titleKeywords f ++ typeNode f children).has word = false := by
    simp only [List.mem_cons, List.not_mem_nil, or_false, not_or] at h
    rw [has_append, has_titleKeywords h.1, has_typeNode hk h.2.1 h.2.2]
    rfl
  have hfold := foldlM_putRule (a := titleKeywords f ++ typeNode f children) hf.rules hf.distinct
    f.kind fun hk _ => hbase _ hk (by decide)
  rw [fieldNode, ← titleKeywords, hfold, ← List.append_assoc]
  simp only [bind, Except.bind, pure, Except.pure]
  by_cases hq : f.isRequired = true ∧ f.kind ∈ textKinds
  · have hmin : Node.has "minLength" (titleKeywords f ++ typeNode f children ++
        f.rules.flatMap (ruleKeywords f.kind)) = false := by
      rw [has_append, hbase _ hq.2 (by decide), has_flatMap_ruleKeywords (by decide)]
      rfl
    have hput := put_of_not_has (k := .limit .minLength (.whole 1)) hmin
    rw [hput, hmin, hq.1, List.contains_iff_mem.2 hq.2, textKeywords, if_pos hq, List.append_assoc]
    rfl
  · have hneg : (f.isRequired && textKinds.contains f.kind) = false := by
      simpa using hq
    rw [hneg, textKeywords, if_neg hq, List.append_nil]
    rfl

/-- Titles and the name of the dialect are no demands. -/
theorem accepts_append_of_remarks (h : ∀ k ∈ a, k.word = "title" ∨ k.word = "$schema") :
    Accepts (a ++ b) v ↔ Accepts b v := by
  have hsays : SaysNothingOfMembers a := by
    intro k hk
    rcases h k hk with hw | hw <;> rw [hw] <;> decide
  rw [accepts_append_left hsays, accepts_iff_forall hsays]
  apply and_iff_right
  intro k hk
  have hw := h k hk
  cases k with
  | dialect | title => rw [accepts_singleton (by simp [Keyword.word]), keywordViolations]
  | limit which => cases which <;> simp [Keyword.word, Limit.text] at hw
  | _ => simp [Keyword.word] at hw

theorem accepts_titleKeywords_append : Accepts (titleKeywords f ++ a) v ↔ Accepts a v := by
  apply accepts_append_of_remarks
  intro k hk
  rw [titleKeywords] at hk
  split at hk
  · cases hk
  · rw [List.mem_singleton.1 hk]
    exact .inl rfl

theorem saysNothing_textKeywords : SaysNothingOfMembers (textKeywords f) := by
  intro k hk
  rcases List.mem_append.1 hk with hk | hk
  · obtain ⟨r, -, hk⟩ := List.mem_flatMap.1 hk
    rw [ruleKeywords] at hk
    split at hk
    · rw [List.mem_singleton.1 hk]
      exact ⟨by simp [Keyword.word], by simp [Keyword.word]⟩
    · cases hk
  · split at hk
    · rw [List.mem_singleton.1 hk]
      decide
    · cases hk

theorem textKeywords_of_not_text (hk : f.kind ∉ textKinds) : textKeywords f = [] := by
  have hrules : ∀ r ∈ f.rules, ruleKeywords f.kind r = [] :=
    fun r _ => if_neg fun h => hk h.2
  rw [textKeywords, if_neg (fun h => hk h.2), List.append_nil, List.flatMap_eq_nil_iff]
  exact hrules

theorem accepts_ruleKeywords {r : Rule} (hr : r.Annotated) {kind : String} (hk : kind ∈ textKinds)
    {s : String} : (∀ k ∈ ruleKeywords kind r, Accepts [k] (.text s)) ↔
      (r.type = "pattern" → ∀ p ∈ r.value, Shows s p) := by
  by_cases hp : r.type = "pattern"
  · obtain ⟨p, hv, -, hread⟩ := hr.pattern hp
    rw [ruleKeywords, if_pos ⟨hp, hk⟩, hv, List.forall_mem_singleton, Option.getD_some,
      accepts_pattern hread]
    simp [hp]
  · rw [ruleKeywords, if_neg (fun h => hp h.1)]
    exact iff_of_true nofun (absurd · hp)

theorem accepts_textKeywords (hf : f.Shaped) (hk : f.kind ∈ textKinds) {s : String} :
    Accepts (textKeywords f) (.text s) ↔ TakesText f s := by
  have hrules : (∀ r ∈ f.rules, ∀ k ∈ ruleKeywords f.kind r, Accepts [k] (.text s)) ↔
      ∀ r ∈ f.rules, r.type = "pattern" → ∀ p ∈ r.value, Shows s p :=
    forall₂_congr fun r hr => accepts_ruleKeywords (hf.rules r hr) hk
  rw [accepts_iff_forall saysNothing_textKeywords, textKeywords, List.forall_mem_append,
    List.forall_mem_flatMap, hrules]
  constructor
  · rintro ⟨hpattern, hfilled⟩
    refine ⟨fun hq => ?_, hpattern⟩
    rw [if_pos ⟨hq, hk⟩] at hfilled
    exact accepts_nonempty.1 (hfilled _ (.head _))
  · rintro ⟨hfilled, hpattern⟩
    refine ⟨hpattern, ?_⟩
    split
    · next hq => exact List.forall_mem_singleton.2 (accepts_nonempty.2 (hfilled hq.1))
    · exact nofun

/-! ### Fields -/

variable {children : Node}

theorem accepts_typeNode_text (hk : f.kind ∈ ["string", "textarea", "markdown", "json"]) :
    Accepts (typeNode f children) v ↔ ∃ s, v = .text s := by
  rw [← accepts_string, typeNode]
  simp only [List.mem_cons, List.not_mem_nil, or_false] at hk
  rcases hk with hk | hk | hk | hk <;> simp only [hk]

/-- The children's node accepts the records of the children. -/
def AcceptsRecords (children : Node) (fs : List FormField) : Prop :=
  ∀ v, Accepts children v ↔ ∃ ms, v = .object ms ∧ WellTyped fs ms

theorem ofKind_of_accepts (hf : f.Shaped)
    (hc : ∀ fs, f.children = some fs → AcceptsRecords children fs)
    (htype : Accepts (typeNode f children) v) (htext : Accepts (textKeywords f) v) :
    OfKind f v := by
  have hchildren (hk : f.kind ∈ ["object", "array<object>"]) :
      ∃ fs, f.children = some fs ∧ AcceptsRecords children fs := by
    obtain ⟨fs, hfs⟩ := Option.isSome_iff_exists.1 (hf.children.2 hk)
    exact ⟨fs, hfs, hc fs hfs⟩
  have hkind := hf.kind
  simp only [Extension.builtinTypes, List.mem_cons, List.not_mem_nil, or_false] at hkind
  by_cases hline : f.kind ∈ ["string", "textarea", "markdown", "json"]
  · obtain ⟨s, rfl⟩ := (accepts_typeNode_text hline).1 htype
    have hk : f.kind ∈ textKinds := List.mem_append_left ["select"] hline
    exact .text hline ((accepts_textKeywords hf hk).1 htext)
  simp only [List.mem_cons, List.not_mem_nil, or_false, not_or] at hline
  simp only [hline, false_or] at hkind
  rcases hkind with hk | hk | hk | hk | hk | hk | hk | hk | hk | hk
  all_goals simp only [typeNode, hk] at htype
  · rcases accepts_image.1 htype with ⟨s, rfl⟩ | ⟨ss, rfl⟩
    · exact .image hk
    · exact .images (by simp [hk])
  · exact .number hk (accepts_number.1 htype)
  · obtain ⟨b, rfl⟩ := accepts_boolean.1 htype
    exact .switch (by simp [hk])
  · obtain ⟨b, rfl⟩ := accepts_boolean.1 htype
    exact .switch (by simp [hk])
  · obtain ⟨s, rfl, ho⟩ := accepts_optionNode.1 htype
    exact .select hk ho ((accepts_textKeywords hf (by simp [hk, textKinds])).1 htext)
  · obtain ⟨ss, rfl, ho⟩ := (accepts_listOf_map fun _ => accepts_optionNode).1 htype
    exact .checkboxes hk ho
  · have hitem := hf.itemType
    simp only [hk, if_true, List.mem_cons, List.not_mem_nil, or_false] at hitem
    rcases hitem with hi | hi <;> simp only [hi] at htype
    · obtain ⟨ss, rfl⟩ := accepts_texts.1 htype
      exact .texts hk hi
    · obtain ⟨vs, rfl, hv⟩ := accepts_listOf.1 htype
      exact .numbers hk hi fun x hx => accepts_number.1 (hv x hx)
  · obtain ⟨ss, rfl⟩ := accepts_texts.1 htype
    exact .images (by simp [hk])
  · obtain ⟨fs, hfs, hrecords⟩ := hchildren (by simp [hk])
    obtain ⟨ms, rfl, h⟩ := (hrecords v).1 htype
    exact .object hk hfs h
  · obtain ⟨fs, hfs, hrecords⟩ := hchildren (by simp [hk])
    obtain ⟨rows, rfl, h⟩ := (accepts_listOf_map hrecords).1 htype
    exact .rows hk hfs h

theorem OfKind.accepts_typeNode (h : OfKind f v)
    (hc : ∀ fs, f.children = some fs → AcceptsRecords children fs) :
    Accepts (typeNode f children) v := by
  cases h with
  | text hk => exact (accepts_typeNode_text hk).2 ⟨_, rfl⟩
  | select hk ho =>
    simp only [typeNode, hk]
    exact accepts_optionNode.2 ⟨_, rfl, ho⟩
  | number hk hv =>
    simp only [typeNode, hk]
    exact accepts_number.2 hv
  | switch hk =>
    simp only [List.mem_cons, List.not_mem_nil, or_false] at hk
    rcases hk with hk | hk <;> simp only [typeNode, hk] <;> exact accepts_boolean.2 ⟨_, rfl⟩
  | image hk =>
    simp only [typeNode, hk]
    exact accepts_image.2 (.inl ⟨_, rfl⟩)
  | images hk =>
    simp only [List.mem_cons, List.not_mem_nil, or_false] at hk
    rcases hk with hk | hk <;> simp only [typeNode, hk]
    · exact accepts_image.2 (.inr ⟨_, rfl⟩)
    · exact accepts_texts.2 ⟨_, rfl⟩
  | checkboxes hk ho =>
    simp only [typeNode, hk]
    exact (accepts_listOf_map fun _ => accepts_optionNode).2 ⟨_, rfl, ho⟩
  | texts hk hi =>
    simp only [typeNode, hk, hi]
    exact accepts_texts.2 ⟨_, rfl⟩
  | numbers hk hi hv =>
    simp only [typeNode, hk, hi]
    exact accepts_listOf.2 ⟨_, rfl, fun x hx => accepts_number.2 (hv x hx)⟩
  | object hk hfs h =>
    simp only [typeNode, hk]
    exact (hc _ hfs _).2 ⟨_, rfl, h⟩
  | rows hk hfs h =>
    simp only [typeNode, hk]
    exact (accepts_listOf_map (hc _ hfs)).2 ⟨_, rfl, h⟩

theorem OfKind.accepts_textKeywords (hf : f.Shaped) (h : OfKind f v) :
    Accepts (textKeywords f) v := by
  have hnone (hk : f.kind ∉ textKinds) : Accepts (textKeywords f) v := by
    rw [textKeywords_of_not_text hk]
    exact accepts_nil
  cases h with
  | text hk ht => exact (JsonSchema.accepts_textKeywords hf (List.mem_append_left ["select"] hk)).2 ht
  | select hk _ ht => exact (JsonSchema.accepts_textKeywords hf (by simp [hk, textKinds])).2 ht
  | switch hk | images hk =>
    apply hnone
    simp only [List.mem_cons, List.not_mem_nil, or_false] at hk
    rcases hk with hk | hk <;> simp [hk, textKinds]
  | number hk | image hk | checkboxes hk | texts hk | numbers hk | object hk | rows hk =>
    exact hnone (by simp [hk, textKinds])

/-- The node of a field accepts the values of the field's kind. -/
theorem accepts_fieldNode_iff (hf : f.Shaped)
    (hc : ∀ fs, f.children = some fs → AcceptsRecords children fs) :
    Accepts (titleKeywords f ++ (typeNode f children ++ textKeywords f)) v ↔ OfKind f v := by
  rw [accepts_titleKeywords_append, accepts_append_right saysNothing_textKeywords]
  constructor
  · rintro ⟨htype, htext⟩
    exact ofKind_of_accepts hf hc htype htext
  · intro h
    exact ⟨h.accepts_typeNode hc, h.accepts_textKeywords hf⟩

/-! ### Forms -/

/-- A compiled field below which no two fields beside one another have one key. -/
structure Exportable (f : FormField) : Prop where
  shaped : f.Shaped
  nodup : ∀ gs, f.children = some gs → (gs.map (·.key)).Nodup

theorem propertyViolations_cons_eq_nil_iff {ms : List (String × Value)} {key : String} {node : Node}
    {rest : List (String × Node)} :
    propertyViolations ms ((key, node) :: rest) = [] ↔
      (∀ v, Value.find? ms key = some v → Accepts node v) ∧ propertyViolations ms rest = [] := by
  rw [propertyViolations, List.append_eq_nil_iff]
  apply and_congr_left
  intro _
  cases hv : Value.find? ms key with
  | none => simp
  | some v =>
    simp only [List.map_eq_nil_iff, Option.some.injEq, forall_eq']
    rfl

theorem exportField_eq (f : FormField) :
    exportField f =
      (if hasChildren f.kind then exportChildren f.children else pure []) >>= fieldNode f := by
  obtain ⟨_⟩ := f
  rw [exportField]
  split <;> rfl

theorem forall_mem_requiredKeys {fs : List FormField} {p : String → Prop} :
    (∀ key ∈ requiredKeys fs, p key) ↔ ∀ f ∈ fs, f.isRequired = true → p f.key := by
  rw [requiredKeys, List.forall_mem_map]
  simp only [List.mem_filter, and_imp]

/-- The node of an object accepts the records of the fields that its properties describe. -/
theorem acceptsRecords_objectNode {fs : List FormField} {nodes : List (String × Node)}
    (hd : (fs.map (·.key)).Nodup) (hkeys : nodes.map (·.1) = fs.map (·.key))
    (hproperties : ∀ ms, propertyViolations ms nodes = [] ↔
      ∀ f ∈ fs, ∀ v, Value.find? ms f.key = some v → OfKind f v) :
    AcceptsRecords (objectNode (requiredKeys fs) (Keyed.table nodes)) fs := by
  intro v
  rw [Keyed.table_of_nodup (hkeys ▸ hd), accepts_objectNode]
  apply exists_congr
  intro ms
  rw [hproperties, forall_mem_requiredKeys, hkeys]
  constructor
  · rintro ⟨hv, htyped, hrequired, hdeclared⟩
    exact ⟨hv, .intro hdeclared hrequired htyped⟩
  · rintro ⟨hv, hdeclared, hrequired, htyped⟩
    exact ⟨hv, htyped, hrequired, hdeclared⟩

mutual

theorem exists_exportField : (f : FormField) → Exportable f →
    (∀ gs, f.children = some gs → Throughout Exportable gs) →
    ∃ node, exportField f = .ok node ∧ ∀ v, Accepts node v ↔ OfKind f v
  | ⟨key, label, kind, required, inTable, unique, options, item, children, rules, visibility,
      metadata⟩ => by
    intro hf hgs
    -- Fields of other kinds have no children.
    obtain ⟨below, hbelow, hrecords⟩ : ∃ node,
        (if hasChildren kind then exportChildren children else pure []) = .ok node ∧
          ∀ gs, children = some gs → AcceptsRecords node gs := by
      by_cases hk : hasChildren kind = true
      · rw [if_pos hk]
        exact exists_exportChildren children hf.nodup hgs
      · refine ⟨[], if_neg hk, fun gs hc => ?_⟩
        have hkind := (hf.shaped.children).1 (Option.isSome_iff_exists.2 ⟨gs, hc⟩)
        simp only [hasChildren, Bool.or_eq_true, beq_iff_eq] at hk
        exact absurd (List.mem_pair.1 hkind) hk
    refine ⟨_, ?_, fun v => accepts_fieldNode_iff hf.shaped hrecords⟩
    rw [exportField_eq, hbelow]
    exact fieldNode_eq hf.shaped below

theorem exists_exportChildren : (children : Option (List FormField)) →
    (∀ gs, children = some gs → (gs.map (·.key)).Nodup) →
    (∀ gs, children = some gs → Throughout Exportable gs) →
    ∃ node, exportChildren children = .ok node ∧
      ∀ gs, children = some gs → AcceptsRecords node gs
  | none => fun _ _ => ⟨objectNode [] [], by rw [exportChildren]; rfl, nofun⟩
  | some fs => by
    intro hd hfs
    obtain ⟨nodes, hnodes, hkeys, hproperties⟩ := exists_exportFields fs (hfs fs rfl)
    refine ⟨objectNode (requiredKeys fs) (Keyed.table nodes), ?_, ?_⟩
    · rw [exportChildren, hnodes]
      rfl
    · rintro _ ⟨⟩
      exact acceptsRecords_objectNode (hd fs rfl) hkeys hproperties

theorem exists_exportFields : (fs : List FormField) → Throughout Exportable fs →
    ∃ nodes, exportFields fs = .ok nodes ∧ nodes.map (·.1) = fs.map (·.key) ∧
      ∀ ms, propertyViolations ms nodes = [] ↔
        ∀ f ∈ fs, ∀ v, Value.find? ms f.key = some v → OfKind f v
  | [] => by
    intro _
    refine ⟨[], by rw [exportFields]; rfl, rfl, fun ms => ?_⟩
    rw [propertyViolations]
    exact iff_of_true rfl nofun
  | f :: fs => by
    intro h
    obtain ⟨hf, hgs, hfs⟩ := throughout_cons_iff.1 h
    obtain ⟨node, hnode, hkind⟩ := exists_exportField f hf hgs
    obtain ⟨nodes, hnodes, hkeys, hproperties⟩ := exists_exportFields fs hfs
    refine ⟨(f.key, node) :: nodes, ?_, ?_, fun ms => ?_⟩
    · rw [exportFields, hnode, hnodes]
      rfl
    · rw [List.map_cons, List.map_cons, hkeys]
    · rw [propertyViolations_cons_eq_nil_iff, hproperties, List.forall_mem_cons]
      simp only [hkind]

end

end Formwork.JsonSchema
