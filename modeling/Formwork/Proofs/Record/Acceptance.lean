import Formwork.Proofs.Form.Ruled
import Formwork.Proofs.Idl.RoundTrip
import Formwork.Proofs.Record.Visit

/-!
Which records a compiled form accepts. A record that gives fields values of their own kinds is
accepted exactly if the rules for texts that a widget attaches to other fields are kept as well.
-/
namespace Formwork.Record

/-! ### Values of a field's own kind -/

def isNumeral : Value → Bool
  | .int _ | .float _ => true
  | _ => false

/-- Values of the kind of a field that has no fields below it. -/
inductive SuitsLeaf : FormField → Value → Prop
  | line {f : FormField} {s : String} (hk : f.kind = "string" ∨ f.kind = "textarea") :
      SuitsLeaf f (.text s)
  | json {f : FormField} {s : String} (hk : f.kind = "json")
      (hs : Value.isJson s.toList = true) : SuitsLeaf f (.text s)
  | markdown {f : FormField} {s : String} (hk : f.kind = "markdown")
      (hs : fencesBalanced s.toList = true) : SuitsLeaf f (.text s)
  | image {f : FormField} {s : String} (hk : f.kind = "image")
      (hs : isImageUrl (.text s) = .ok true) : SuitsLeaf f (.text s)
  | number {f : FormField} {v : Value} (hk : f.kind = "number") (hv : isNumeral v = true) :
      SuitsLeaf f v
  | switch {f : FormField} {b : Bool} (hk : f.kind = "switch") : SuitsLeaf f (.bool b)
  | select {f : FormField} {s : String} {options : List FormOption} (hk : f.kind = "select")
      (ho : f.options = some options) (hs : s ∈ options.map (·.value)) : SuitsLeaf f (.text s)
  | checkboxes {f : FormField} {ss : List String} {options : List FormOption}
      (hk : f.kind = "checkbox-group") (ho : f.options = some options)
      (hs : ∀ s ∈ ss, s ∈ options.map (·.value)) : SuitsLeaf f (.list (ss.map .text))
  | texts {f : FormField} {ss : List String} (hk : f.kind = "array")
      (hi : f.itemType = some "string")
      (hj : f.has "json" = true → ∀ s ∈ ss, Value.isJson s.toList = true)
      (hm : f.has "markdown" = true → ∀ s ∈ ss, fencesBalanced s.toList = true) :
      SuitsLeaf f (.list (ss.map .text))
  | numbers {f : FormField} {vs : List Value} (hk : f.kind = "array")
      (hi : f.itemType = some "number") (hv : ∀ v ∈ vs, isNumeral v = true) :
      SuitsLeaf f (.list vs)
  | images {f : FormField} {ss : List String} (hk : f.kind = "array-image")
      (hs : ∀ s ∈ ss, isImageUrl (.text s) = .ok true) : SuitsLeaf f (.list (ss.map .text))

/-- Members leave out the fields that have a pattern. -/
def LeavesOutPatterns (fs : List FormField) (members : List (String × Value)) : Prop :=
  ∀ f ∈ fs, Value.get members f.key ≠ .null → f.has "pattern" = false

/-- Values of a field's own kind. -/
inductive Suits : FormField → Value → Prop
  | leaf {f : FormField} {v : Value} (h : SuitsLeaf f v) : Suits f v
  | object {f : FormField} {fs : List FormField} {ms : List (String × Value)}
      (hk : f.kind = "object") (hc : f.children = some fs) (hp : LeavesOutPatterns fs ms)
      (h : ∀ g ∈ fs, Value.get ms g.key ≠ .null → Suits g (Value.get ms g.key)) :
      Suits f (.object ms)
  | rows {f : FormField} {fs : List FormField} {rows : List (List (String × Value))}
      (hk : f.kind = "array<object>") (hc : f.children = some fs)
      (hp : ∀ ms ∈ rows, LeavesOutPatterns fs ms)
      (h : ∀ ms ∈ rows, ∀ g ∈ fs, Value.get ms g.key ≠ .null → Suits g (Value.get ms g.key)) :
      Suits f (.list (rows.map .object))

/-! ### Stray rules -/

/-- The fields at and below a field that a value gives values to. -/
inductive Given : FormField → Value → FormField → Value → Prop
  | here {f : FormField} {v : Value} (hv : isVoid v = false) : Given f v f v
  | object {f c g : FormField} {fs : List FormField} {ms : List (String × Value)} {w : Value}
      (hk : f.kind = "object") (hc : f.children = some fs) (hm : c ∈ fs)
      (h : Given c (Value.get ms c.key) g w) : Given f (.object ms) g w
  | row {f c g : FormField} {fs : List FormField} {rows : List Value}
      {ms : List (String × Value)} {w : Value} (hk : f.kind = "array<object>")
      (hc : f.children = some fs) (hr : .object ms ∈ rows) (hm : c ∈ fs)
      (h : Given c (Value.get ms c.key) g w) : Given f (.list rows) g w

/-- Whether a field is for texts, one or many. -/
def IsTextual (f : FormField) : Prop :=
  f.kind ∈ textKinds ∨ f.kind = "array" ∧ f.itemType = some "string"

def isMarkdownText : Value → Bool
  | .text s => fencesBalanced s.toList
  | _ => false

/-- What the rules for texts test, by the type of the rule. -/
def textTests : List (String × (Value → Bool)) :=
  [("json", isJsonText), ("markdown", isMarkdownText)]

/-- What the rules for texts are asked of: the value, or the items of a list of scalars. -/
def ruledValues (f : FormField) : Value → List Value
  | .list items => if f.kind = "array" then items.filter (!isVoid ·) else [.list items]
  | v => [v]

/-- Whether a value keeps the rules for texts that its field has. -/
def KeepsTextRules (f : FormField) (v : Value) : Prop :=
  ∀ x ∈ textTests, f.has x.1 = true → ∀ t ∈ ruledValues f v, x.2 t = true

/-- Whether a value keeps the rules for texts that fields for something else have. -/
def KeepsStrayRules (f : FormField) (v : Value) : Prop :=
  ∀ g w, Given f v g w → ¬IsTextual g → KeepsTextRules g w

theorem KeepsStrayRules.of_isVoid {f : FormField} {v : Value} (hv : isVoid v = true) :
    KeepsStrayRules f v := by
  intro g w hg
  cases hg with
  | here h => simp [hv] at h
  | object | row => cases hv

section

variable {f : FormField} {fs : List FormField}

theorem keepsStrayRules_of_leaf (ho : f.kind ≠ "object") (hr : f.kind ≠ "array<object>") {v : Value}
    (hv : isVoid v = false) : KeepsStrayRules f v ↔ (¬IsTextual f → KeepsTextRules f v) := by
  constructor
  · intro h
    exact h f v (.here hv)
  · intro h g w hg
    cases hg with
    | here => exact h
    | object hk => exact absurd hk ho
    | row hk => exact absurd hk hr

theorem keepsStrayRules_object (hk : f.kind = "object") (hc : f.children = some fs)
    (ms : List (String × Value)) :
    KeepsStrayRules f (.object ms) ↔ (¬IsTextual f → KeepsTextRules f (.object ms)) ∧
      ∀ c ∈ fs, KeepsStrayRules c (Value.get ms c.key) := by
  constructor
  · intro h
    exact ⟨h f _ (.here rfl), fun c hm g w hg => h g w (.object hk hc hm hg)⟩
  · rintro ⟨hf, hcs⟩ g w hg
    cases hg with
    | here => exact hf
    | object _ hc' hm hg =>
      rw [hc, Option.some_inj] at hc'
      exact hcs _ (hc' ▸ hm) g w hg

theorem keepsStrayRules_rows (hk : f.kind = "array<object>") (hc : f.children = some fs)
    (rows : List (List (String × Value))) :
    KeepsStrayRules f (.list (rows.map .object)) ↔
      (¬IsTextual f → KeepsTextRules f (.list (rows.map .object))) ∧
        ∀ ms ∈ rows, ∀ c ∈ fs, KeepsStrayRules c (Value.get ms c.key) := by
  constructor
  · intro h
    refine ⟨h f _ (.here rfl), fun ms hms c hm g w hg => h g w (.row hk hc ?_ hm hg)⟩
    exact List.mem_map_of_mem hms
  · rintro ⟨hf, hcs⟩ g w hg
    cases hg with
    | here => exact hf
    | row _ hc' hr hm hg =>
      rw [hc, Option.some_inj] at hc'
      obtain ⟨_, hms, ⟨⟩⟩ := List.mem_map.1 hr
      exact hcs _ hms _ (hc' ▸ hm) g w hg

end

/-! ### Visits that are answered well -/

/-- Every question of a visit is answered well. -/
def Visit.Answered (checks : Checks) (visit : Visit) : Prop :=
  ∀ x ∈ visit, x.2.ask checks x.1 = .ok ()

variable {checks : Checks} {p : Place} {f : FormField} {v : Value}

theorem Visit.run_eq_ok_iff {visit : Visit} :
    visit.run checks = .ok () ↔ visit.Answered checks := forM_eq_ok_iff

theorem Visit.answered_append {a b : Visit} :
    Visit.Answered checks (a ++ b) ↔ a.Answered checks ∧ b.Answered checks :=
  List.forall_mem_append

theorem Place.require_eq_ok_iff {flaw : Flaw} {holds : Bool} :
    p.require flaw holds = .ok () ↔ holds = true := by
  cases holds <;> simp [require, fail]

theorem ask_json_eq_ok_iff :
    (Question.json v).ask checks p = .ok () ↔ isJsonText v = true :=
  Place.require_eq_ok_iff

theorem ask_markdown_eq_ok_iff :
    (Question.markdown v).ask checks p = .ok () ↔ isMarkdownText v = true := by
  cases v with
  | text s => exact Place.require_eq_ok_iff
  | _ => exact ⟨nofun, nofun⟩

theorem requireImage_eq_ok {flaw : Flaw} (h : isImageUrl v = .ok true) :
    requireImage p flaw v = .ok () := by
  rw [requireImage, h]
  rfl

/-! ### The visit of a field -/

theorem ofField_key (f : FormField) : (ofField f).key = f.key := by
  cases f
  rw [ofField]

theorem ofField_kind (f : FormField) : (ofField f).kind = f.kind := by
  cases f
  rw [ofField]

theorem ofField_has (f : FormField) (type : String) : (ofField f).has type = f.has type := by
  cases f
  rw [ofField]
  rfl

theorem map_snd_textsOf : (textsOf f.kind v p).map Prod.snd = ruledValues f v := by
  cases v with
  | list items =>
    by_cases hk : f.kind = "array"
    · have hz : (fun x : Value × Nat => !isVoid x.1) = (!isVoid ·) ∘ Prod.fst := rfl
      simp only [textsOf, ruledValues, hk, if_true, List.map_map, hz]
      rw [← List.zipIdx_map_fst 0 items, List.filter_map, List.zipIdx_map_fst]
      rfl
    · simp [textsOf, ruledValues, hk]
  | _ => simp [textsOf, ruledValues]

/-- The texts of a field are each tested if it asks for that. -/
theorem answered_texts {asks : Bool} {ask : Place × Value → Place × Question}
    {test : Value → Bool} (h : ∀ x, (ask x).2.ask checks (ask x).1 = .ok () ↔ test x.2 = true) :
    Visit.Answered checks (if asks then (textsOf f.kind v p).map ask else []) ↔
      (asks = true → ∀ t ∈ ruledValues f v, test t = true) := by
  cases asks with
  | false => simp [Visit.Answered]
  | true =>
    rw [← map_snd_textsOf (p := p), if_pos rfl, Visit.Answered, List.forall_mem_map,
      List.forall_mem_map]
    simp only [h, true_imp_iff]

theorem answered_textVisit :
    (textVisit (ofField f) v p).Answered checks ↔
      ∀ x ∈ textTests, f.kind = x.1 ∨ f.has x.1 = true → ∀ t ∈ ruledValues f v, x.2 t = true := by
  rw [textVisit, Visit.answered_append, ofField_kind, ofField_has, ofField_has]
  refine (and_congr (answered_texts fun _ => ask_json_eq_ok_iff)
    (answered_texts fun _ => ask_markdown_eq_ok_iff)).trans ?_
  simp only [textTests, List.forall_mem_cons, List.not_mem_nil, false_imp_iff, implies_true,
    and_true, Bool.or_eq_true, decide_eq_true_eq]

/-- Without a pattern, the rules of a compiled field ask for nothing by themselves. -/
theorem answered_rules (hr : Ruled f) (hp : f.has "pattern" = false) :
    Visit.Answered checks (f.rules.map fun r => (p, .rule r v)) := by
  obtain ⟨types, -, -⟩ := hr
  intro x hx
  obtain ⟨r, hm, rfl⟩ := List.mem_map.1 hx
  have hn : r.type ≠ "pattern" := by
    intro ht
    have := List.any_eq_false.1 hp r hm
    simp [ht] at this
  have ht := types r hm
  simp only [List.mem_cons, List.not_mem_nil, or_false, hn, false_or] at ht
  change checkRule checks v p r = .ok ()
  rcases ht with ht | ht
  all_goals simp [checkRule, ht, Rule.builtin]

/-- The questions about the kind of a field. -/
def kindVisit (p : Place) (f : FormField) (value : Value) : Visit :=
  match f.kind, value with
  | "image", v => imageVisit p v
  | "array-image", v => imagesVisit p v
  | "object", .object ms => slotsVisit p ms (ofChildren f.children)
  | "object", _ => [(p, .shape .notObject)]
  | "array<object>", v =>
    match rows? v with
    | some rows => rowsVisit (fun place ms => slotsVisit place ms (ofChildren f.children)) p 0 rows
    | none => [(p, .shape .notObjectList)]
  | _, _ => []

theorem slotVisit_of_isVoid (hv : isVoid v = true) (slot : Slot) : slotVisit p v slot = [] := by
  cases slot
  rw [slotVisit.eq_def]
  simp only [hv, if_true]

theorem slotVisit_ofField (hv : isVoid v = false) :
    slotVisit p v (ofField f) = textVisit (ofField f) v p ++ kindVisit p f v ++
      f.rules.map fun r => (p, .rule r v) := by
  cases f
  rw [ofField, slotVisit.eq_def]
  simp only [hv]
  rfl

/-- A field that is given a value, apart from its children. -/
theorem answered_slotVisit (hr : Ruled f) (hp : f.has "pattern" = false) (hv : isVoid v = false) :
    (slotVisit p v (ofField f)).Answered checks ↔
      (textVisit (ofField f) v p).Answered checks ∧ (kindVisit p f v).Answered checks := by
  rw [slotVisit_ofField hv, Visit.answered_append, Visit.answered_append]
  exact and_iff_left (answered_rules hr hp)

theorem answered_slotsVisit {fs : List FormField} {ms : List (String × Value)} :
    (slotsVisit p ms (ofFields fs)).Answered checks ↔ ∀ g ∈ fs,
      (slotVisit (p.field (ofField g)) (Value.get ms g.key) (ofField g)).Answered checks := by
  induction fs with
  | nil => simp [ofFields, slotsVisit, Visit.Answered]
  | cons f fs ih =>
    rw [ofFields, slotsVisit, Visit.answered_append, List.forall_mem_cons, ih, ofField_key]

/-- Rows are each answered well, wherever they stand. -/
theorem answered_rowsVisit {visit : Place → List (String × Value) → Visit}
    {Good : List (String × Value) → Prop} {rows : List (List (String × Value))}
    (h : ∀ ms ∈ rows, ∀ p, (visit p ms).Answered checks ↔ Good ms) (index : Nat) :
    (rowsVisit visit p index (rows.map .object)).Answered checks ↔ ∀ ms ∈ rows, Good ms := by
  induction rows generalizing index with
  | nil => simp [rowsVisit, Visit.Answered]
  | cons row rows ih =>
    obtain ⟨hrow, hrows⟩ := List.forall_mem_cons.1 h
    rw [List.map_cons, rowsVisit, Visit.answered_append, List.forall_mem_cons, hrow, ih hrows]

/-! ### Values of a field's own kind are refused for stray rules only -/

theorem mem_textTests {x : String × (Value → Bool)} (hx : x ∈ textTests) :
    x = ("json", isJsonText) ∨ x = ("markdown", isMarkdownText) := by
  simpa only [textTests, List.mem_cons, List.not_mem_nil, or_false] using hx

/-- On a field for something else, the texts are asked for by rules alone. -/
theorem answered_textVisit_of_not_isTextual (ht : ¬IsTextual f) :
    (textVisit (ofField f) v p).Answered checks ↔ KeepsTextRules f v := by
  have hk {x : String × (Value → Bool)} (hx : x ∈ textTests) : f.kind ≠ x.1 := by
    intro he
    apply ht
    left
    rw [he]
    rcases mem_textTests hx with rfl | rfl <;> decide
  rw [answered_textVisit]
  exact forall₂_congr fun x hx => by rw [or_iff_right (hk hx)]

theorem SuitsLeaf.answered_textVisit (hr : Ruled f) (h : SuitsLeaf f v) (ht : IsTextual f) :
    (textVisit (ofField f) v p).Answered checks := by
  rw [Record.answered_textVisit]
  intro x hx hasks
  have hx := mem_textTests hx
  obtain ⟨-, own, -⟩ := hr
  -- A rule of JSON or of markdown on a single text is that of its kind.
  have hkind : f.kind ∈ textKinds → f.kind = x.1 := by
    intro hm
    refine hasks.elim id (own hm x.1 ?_)
    rcases hx with rfl | rfl <;> decide
  cases h with
  | line hk =>
    rcases hk with hk | hk
    all_goals rcases hx with rfl | rfl <;> simp [hk, textKinds] at hkind
  | json hk hs =>
    rcases hx with rfl | rfl
    · simpa [ruledValues, isJsonText] using hs
    · simp [hk, textKinds] at hkind
  | markdown hk hs =>
    rcases hx with rfl | rfl
    · simp [hk, textKinds] at hkind
    · simpa [ruledValues, isMarkdownText] using hs
  | image hk | images hk => rcases hx with rfl | rfl <;> simp [hk, textKinds] at hkind
  | texts hk hi hj hm =>
    have hrule := hasks.resolve_left (by rcases hx with rfl | rfl <;> simp [hk])
    intro t ht
    rw [ruledValues, if_pos hk] at ht
    obtain ⟨s, hs, rfl⟩ := List.mem_map.1 (List.mem_filter.1 ht).1
    rcases hx with rfl | rfl
    · exact hj hrule s hs
    · exact hm hrule s hs
  | number hk | switch hk | select hk | checkboxes hk => simp [IsTextual, hk, textKinds] at ht
  | numbers hk hi => simp [IsTextual, hk, hi, textKinds] at ht

theorem SuitsLeaf.answered_kindVisit (h : SuitsLeaf f v) : (kindVisit p f v).Answered checks := by
  cases h with
  | image hk hs =>
    simp only [kindVisit, hk, imageVisit]
    exact List.forall_mem_singleton.2 (requireImage_eq_ok hs)
  | images hk hs =>
    simp only [kindVisit, hk, imagesVisit]
    intro x hx
    obtain ⟨⟨v, i⟩, hm, rfl⟩ := List.mem_map.1 hx
    obtain ⟨s, hs', rfl⟩ := List.mem_map.1 (List.fst_mem_of_mem_zipIdx hm)
    exact requireImage_eq_ok (hs s hs')
  | line hk => rcases hk with hk | hk <;> simp [kindVisit, hk, Visit.Answered]
  | json hk | markdown hk | number hk | switch hk | select hk | checkboxes hk | texts hk
  | numbers hk => simp [kindVisit, hk, Visit.Answered]

theorem SuitsLeaf.kind_ne (h : SuitsLeaf f v) : f.kind ≠ "object" ∧ f.kind ≠ "array<object>" := by
  cases h with
  | line hk => rcases hk with hk | hk <;> simp [hk]
  | json hk | markdown hk | image hk | number hk | switch hk | select hk | checkboxes hk
  | texts hk | numbers hk | images hk => simp [hk]

theorem Suits.answered_textVisit (hr : Ruled f) (h : Suits f v) :
    (textVisit (ofField f) v p).Answered checks ↔ (¬IsTextual f → KeepsTextRules f v) := by
  by_cases ht : IsTextual f
  · refine iff_of_true ?_ (absurd ht)
    cases h with
    | leaf h => exact h.answered_textVisit hr ht
    | object hk | rows hk => simp [IsTextual, hk, textKinds] at ht
  · rw [answered_textVisit_of_not_isTextual ht]
    exact ⟨fun h _ => h, fun h => h ht⟩

/-- The members of an object are visited as their fields are, where they suit them. -/
theorem answered_members {fs : List FormField} {ms : List (String × Value)}
    (hr : ∀ g ∈ fs, Ruled g) (hp : LeavesOutPatterns fs ms)
    (h : ∀ g ∈ fs, Value.get ms g.key ≠ .null → ∀ p, Ruled g → g.has "pattern" = false →
      ((slotVisit p (Value.get ms g.key) (ofField g)).Answered checks ↔
        KeepsStrayRules g (Value.get ms g.key))) (p : Place) :
    (slotsVisit p ms (ofFields fs)).Answered checks ↔
      ∀ g ∈ fs, KeepsStrayRules g (Value.get ms g.key) := by
  rw [answered_slotsVisit]
  refine forall₂_congr fun g hg => ?_
  by_cases hn : Value.get ms g.key = .null
  · rw [hn, slotVisit_of_isVoid rfl]
    exact iff_of_true nofun (.of_isVoid rfl)
  · exact h g hg hn _ (hr g hg) (hp g hg hn)

theorem Suits.answered_slotVisit (h : Suits f v) :
    ∀ p, Ruled f → f.has "pattern" = false →
      ((slotVisit p v (ofField f)).Answered checks ↔ KeepsStrayRules f v) := by
  induction h with
  | leaf h =>
    next f v =>
    intro p hr hp
    by_cases hv : isVoid v = true
    · rw [slotVisit_of_isVoid hv]
      exact iff_of_true nofun (.of_isVoid hv)
    · rw [Bool.not_eq_true] at hv
      rw [Record.answered_slotVisit hr hp hv, keepsStrayRules_of_leaf h.kind_ne.1 h.kind_ne.2 hv,
        Suits.answered_textVisit hr (.leaf h)]
      exact and_iff_left h.answered_kindVisit
  | object hk hc hp h ih =>
    intro p hr hpf
    have hchildren := answered_members (by obtain ⟨-, -, hrc⟩ := hr; exact hrc _ hc) hp ih p
    rw [Record.answered_slotVisit hr hpf rfl, keepsStrayRules_object hk hc,
      Suits.answered_textVisit hr (.object hk hc hp h), ← hchildren]
    simp only [kindVisit, hk, hc, ofChildren]
  | rows hk hc hp h ih =>
    intro p hr hpf
    have hrows := answered_rowsVisit (p := p) (fun ms hm => answered_members
      (by obtain ⟨-, -, hrc⟩ := hr; exact hrc _ hc) (hp ms hm) (ih ms hm)) 0
    rw [Record.answered_slotVisit hr hpf rfl, keepsStrayRules_rows hk hc,
      Suits.answered_textVisit hr (.rows hk hc hp h), ← hrows]
    simp only [kindVisit, hk, hc, ofChildren, rows?]

/-- A compiled form accepts a record of values of the fields' own kinds, those with a pattern left
out, exactly if the record keeps the rules for texts that the form has on fields for something
else. -/
theorem validate_suits_iff {text : List Char} {app : String} {config : CompilerConfig}
    {stamp : Stamp} {form : Form} {notices : List Notice}
    (h : compile text app config stamp = .ok (some form, notices))
    {members : List (String × Value)} (hp : LeavesOutPatterns form.fields members)
    (hs : ∀ f ∈ form.fields, Value.get members f.key ≠ .null → Suits f (Value.get members f.key))
    (checks : Checks) :
    validate (.form form) (.object members) checks = .ok () ↔
      ∀ f ∈ form.fields, KeepsStrayRules f (Value.get members f.key) := by
  rw [validate_eq_run, Visit.run_eq_ok_iff, recordVisit]
  exact answered_members (ruled_of_compile h) hp (fun f hf hn => (hs f hf hn).answered_slotVisit) _

/-! ### A rule for texts on a number -/

open Idl in
/-- A field for a line, and one for a number to which a widget for texts is annotated. -/
def measurement : Source where
  options := []
  items := [.message "M" [
    .field { decl := { name := "unit", type := "string" }, number := 1 },
    .field { decl := { name := "n", type := "int32", info := { widget := some "json" } },
             number := 2 }]]

theorem measurement_valid : measurement.Valid where
  items := ⟨⟨by decide, ⟨by decide, by decide, by decide, by decide⟩,
    ⟨by decide, by decide, by decide, by decide⟩, trivial⟩, trivial⟩
  topLevel := rfl
  messagesNodup := by decide
  enumerationsNodup := by decide
  keys := by decide
  keysNodup := by decide
  values := by decide

def measurementText : String :=
  "message M \x7b\n  string unit = 1;\n  int32 n = 2 [(ui_widget) = \"json\"];\n\x7d\n"

theorem write_measurement : measurement.write = measurementText.toList := by
  rfl

/-- The number has a rule that only texts keep. -/
def measurementForm (stamp : Stamp) : Form where
  name := "M"
  tenant := stamp.tenant
  status := stamp.status
  createdAt := stamp.now.withOffset
  fields := [
    { key := "unit", label := "Unit", kind := "string" },
    { key := "n", label := "N", kind := "number", rules := [{ type := "json" }] }]

open Idl in
theorem read_measurement : Document.read measurement.write = .ok {
    messages := [("M", { name := "M", fields := [
      { name := "unit", type := "string" },
      { name := "n", type := "int32", info := { widget := some "json" } }] })]
    enumerations := []
    options := [] } := by
  rw [measurement_valid.read_write]
  rfl

theorem compile_measurement (stamp : Stamp) :
    compile measurement.write "m" {} stamp = .ok (some (measurementForm stamp), []) := by
  have hroot : pickRoot "m" ["M"] ["ValidationRule", "Field", "ProfileFormPreset"] = some "M" := by
    decide
  have hfields (types : Types) : resolveFields types 16 ["M"]
      [{ name := "unit", type := "string" },
        { name := "n", type := "int32", info := { widget := some "json" } }] =
      ([.ofScalar { name := "unit", type := "string" } .text,
        .ofScalar { name := "n", type := "int32", info := { widget := some "json" } } .number],
        []) := by
    rw [resolveFields_scalar rfl, resolveFields_scalar rfl, resolveFields]
  rw [compile, read_measurement]
  simp only [Document.compile, bind, Except.bind, List.map_cons, List.map_nil, hroot,
    Option.bind_some, List.lookup_cons_self, hfields]
  rfl

/-- The stamp of the start of 2024. -/
def newYear : Stamp where
  now := .ofSeconds 1704067200

theorem validate_measurement_unit :
    compile measurement.write "m" {} newYear = .ok (some (measurementForm newYear), []) ∧
      validate (.form (measurementForm newYear)) (.object [("unit", .text "kg")]) [] = .ok () := by
  refine ⟨compile_measurement newYear, (validate_suits_iff (compile_measurement newYear)
    ?patterns ?suits []).2 ?stray⟩
  case patterns =>
    intro f hf _
    rcases List.mem_pair.1 hf with rfl | rfl <;> rfl
  case suits =>
    intro f hf hn
    rcases List.mem_pair.1 hf with rfl | rfl
    · exact .leaf (.line (.inl rfl))
    · exact absurd rfl hn
  case stray =>
    intro f hf
    rcases List.mem_pair.1 hf with rfl | rfl
    · exact (keepsStrayRules_of_leaf (by decide) (by decide) rfl).2 (absurd (.inl (.head _)))
    · exact .of_isVoid rfl

/-- A number is of the field's own kind, but it is refused for being no text of JSON. -/
theorem not_validate_measurement_number :
    compile measurementText.toList "m" {} newYear = .ok (some (measurementForm newYear), []) ∧
      LeavesOutPatterns (measurementForm newYear).fields [("n", .int 5), ("unit", .text "kg")] ∧
      (∀ f ∈ (measurementForm newYear).fields,
        Suits f (Value.get [("n", .int 5), ("unit", .text "kg")] f.key)) ∧
      validate (.form (measurementForm newYear))
          (.object [("n", .int 5), ("unit", .text "kg")]) [] =
        .error (.defect ⟨.notJson, [.key "n"], ["N"]⟩) := by
  refine ⟨?_, ?_, ?_, rfl⟩
  · rw [← write_measurement]
    exact compile_measurement newYear
  · intro f hf _
    rcases List.mem_pair.1 hf with rfl | rfl <;> rfl
  · intro f hf
    rcases List.mem_pair.1 hf with rfl | rfl
    · exact .leaf (.line (.inl rfl))
    · exact .leaf (.number rfl rfl)

end Formwork.Record
