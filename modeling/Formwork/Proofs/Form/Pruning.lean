import Formwork.Proofs.Form.Reloading

/-!
Compiled forms, stored and loaded. Loading reads an empty list of options or of children as none, so a
compiled form comes back pruned of them: as it was, unless an enumeration without members or a message
without fields is in it.
-/
namespace Formwork
open Formwork.Idl Formwork.Stored

mutual

/-- The field without empty lists of options and of children, at every depth. -/
def FormField.pruned : FormField → FormField
  | { key, label, kind, required, listInTable, uniqueKey, options, itemType, children, rules,
      visibility, metadata } =>
    { key, label, kind, required, listInTable, uniqueKey, options := options.bind someList,
      itemType, children := FormField.prunedChildren children, rules, visibility, metadata }

def FormField.prunedChildren : Option (List FormField) → Option (List FormField)
  | none => none
  | some fs => someList (FormField.prunedAll fs)

def FormField.prunedAll : List FormField → List FormField
  | [] => []
  | f :: fs => f.pruned :: FormField.prunedAll fs

end

def Form.pruned (form : Form) : Form := { form with fields := FormField.prunedAll form.fields }

/-- A field whose lists are not empty. -/
structure FormField.Full (f : FormField) : Prop where
  options : f.options ≠ some []
  children : f.children ≠ some []

theorem bind_someList_eq_iff {α : Type} {o : Option (List α)} :
    o.bind someList = o ↔ o ≠ some [] := by
  constructor
  · rintro h rfl
    cases h
  · exact bind_someList

/-! ### What pruning changes -/

theorem FormField.full_iff {f : FormField} :
    f.Full ↔ f.options.bind someList = f.options ∧ f.children ≠ some [] := by
  rw [bind_someList_eq_iff]
  exact ⟨fun h => ⟨h.options, h.children⟩, fun h => ⟨h.1, h.2⟩⟩

mutual

theorem FormField.pruned_eq_iff : (f : FormField) →
    (f.pruned = f ↔ f.Full ∧ ∀ gs, f.children = some gs → Throughout FormField.Full gs)
  | ⟨_, _, _, _, _, _, options, _, children, _, _, _⟩ => by
    rw [full_iff, and_assoc, ← FormField.prunedChildren_eq_iff children]
    simp [pruned]

theorem FormField.prunedChildren_eq_iff : (children : Option (List FormField)) →
    (FormField.prunedChildren children = children ↔
      children ≠ some [] ∧ ∀ gs, children = some gs → Throughout FormField.Full gs)
  | none => iff_of_true rfl ⟨nofun, nofun⟩
  | some [] => iff_of_false nofun fun h => h.1 rfl
  | some (f :: fs) => by
    have hne : f :: fs ≠ [] := List.cons_ne_nil f fs
    rw [prunedChildren, someList_eq_some_iff hne, FormField.prunedAll_eq_iff (f :: fs)]
    constructor
    · intro h
      refine ⟨fun he => hne (Option.some.inj he), ?_⟩
      rintro _ ⟨⟩
      exact h
    · exact fun h => h.2 _ rfl

theorem FormField.prunedAll_eq_iff : (fs : List FormField) →
    (FormField.prunedAll fs = fs ↔ Throughout FormField.Full fs)
  | [] => iff_of_true rfl throughout_nil
  | f :: fs => by
    rw [prunedAll, List.cons.injEq, FormField.pruned_eq_iff f, FormField.prunedAll_eq_iff fs,
      throughout_cons_iff, and_assoc]

end

/-! ### What is written of a pruned field -/

theorem FormField.get_members_options (f : FormField) :
    Value.get f.members "options" =
      (f.options.map fun os => .list (os.map FormOption.toValue)).getD .null := by
  obtain ⟨_⟩ := f
  simp [members, Value.get, Value.find?_cons, Value.find?_member_append, Value.find?_member]

/-- An empty list of options is written. -/
theorem FormField.options_ne_of_members_eq {f g : FormField} (h : g.members = f.members)
    (ho : g.options = f.options.bind someList) : f.options ≠ some [] := by
  intro he
  have hget := congrArg (Value.get · "options") h
  simp only [get_members_options, ho, he] at hget
  cases hget

theorem FormField.childValues_eq_of_members_eq {f g : FormField} (h : g.members = f.members) :
    (FormField.childValues .omit g.children).getD .null =
      (FormField.childValues .omit f.children).getD .null := by
  rw [← get_members_objectFields, ← get_members_objectFields, h]

mutual

/-- A field is written as it was exactly if pruning changes nothing. -/
theorem FormField.full_of_toValue_pruned : (f : FormField) →
    f.pruned.toValue .omit = f.toValue .omit →
    f.Full ∧ ∀ gs, f.children = some gs → Throughout FormField.Full gs
  | f@⟨_, _, _, _, _, _, options, _, children, _, _, _⟩ => by
    intro h
    rw [toValue_eq, toValue_eq] at h
    have hm := Value.object.inj h
    obtain ⟨hne, hgs⟩ := FormField.full_of_childValues children (childValues_eq_of_members_eq hm)
    exact ⟨⟨options_ne_of_members_eq hm rfl, hne⟩, hgs⟩

theorem FormField.full_of_childValues : (children : Option (List FormField)) →
    (FormField.childValues .omit (FormField.prunedChildren children)).getD .null =
      (FormField.childValues .omit children).getD .null →
    children ≠ some [] ∧ ∀ gs, children = some gs → Throughout FormField.Full gs
  | none => fun _ => ⟨nofun, nofun⟩
  | some [] => by
    intro h
    cases h
  | some (f :: fs) => by
    intro h
    refine ⟨fun he => List.cons_ne_nil f fs (Option.some.inj he), ?_⟩
    rintro _ ⟨⟩
    exact FormField.full_of_toValues (f :: fs) (Value.list.inj h)

theorem FormField.full_of_toValues : (fs : List FormField) →
    FormField.toValues .omit (FormField.prunedAll fs) = FormField.toValues .omit fs →
    Throughout FormField.Full fs
  | [] => fun _ => throughout_nil
  | f :: fs => by
    intro h
    rw [prunedAll, toValues, toValues] at h
    obtain ⟨hf, hfs⟩ := List.cons.inj h
    obtain ⟨hfull, hgs⟩ := FormField.full_of_toValue_pruned f hf
    exact throughout_cons_iff.2 ⟨hfull, hgs, FormField.full_of_toValues fs hfs⟩

end

/-! ### Rendering -/

theorem FormField.render_pruned_eq_iff (f : FormField) :
    f.pruned.render = f.render ↔
      f.children ≠ some [] ∧ ∀ gs, f.children = some gs → Throughout FormField.Full gs := by
  have hchildren : f.pruned.children = FormField.prunedChildren f.children := by
    obtain ⟨_⟩ := f
    rfl
  constructor
  · intro h
    have hprops : f.pruned.props = f.props := congrArg RenderedField.props h
    have hget := congrArg (Value.get · "objectFields") hprops
    simp only [get_props_objectFields, hchildren] at hget
    exact FormField.full_of_childValues f.children hget
  · intro h
    have hoptions (o : Option (List FormOption)) : (o.bind someList).getD [] = o.getD [] := by
      rcases o with _ | _ | _ <;> rfl
    have hsame := (FormField.prunedChildren_eq_iff f.children).2 h
    obtain ⟨_⟩ := f
    simp only [pruned, render, props, renderedRules, has, hoptions]
    rw [hsame]
    rfl

theorem FormField.prunedAll_eq_map (fs : List FormField) :
    FormField.prunedAll fs = fs.map FormField.pruned := by
  induction fs with
  | nil => rfl
  | cons f fs ih => rw [prunedAll, ih, List.map_cons]

/-- A form is rendered alike when it is pruned, unless a list of children is empty or a list of
options below a field is. -/
theorem Form.render_pruned_eq_iff (form : Form) :
    form.pruned.render = form.render ↔ ∀ f ∈ form.fields,
      f.children ≠ some [] ∧ ∀ gs, f.children = some gs → Throughout FormField.Full gs := by
  have hfields : form.pruned.render = form.render ↔
      (form.fields.map FormField.pruned).map FormField.render = form.fields.map FormField.render := by
    simp [Form.pruned, render, FormField.prunedAll_eq_map]
  rw [hfields, List.map_map, List.map_inj_left]
  apply forall₂_congr
  intro f _
  exact f.render_pruned_eq_iff

theorem Form.pruned_eq_iff (form : Form) :
    form.pruned = form ↔ Throughout FormField.Full form.fields := by
  rw [← FormField.prunedAll_eq_iff]
  obtain ⟨_⟩ := form
  simp [Form.pruned]

/-! ### Loading compiled forms -/

/-- A field that loading needs no metadata for. -/
structure FormField.Plain (f : FormField) : Prop extends Loadable f where
  metadata : f.metadata = none

theorem Stored.field?_toValue_of_plain {f : FormField} (h : f.Plain) {cs : List FormField}
    (hcs : writtenChildren f = .ok cs) (hp : someList cs = FormField.prunedChildren f.children) :
    Stored.field? (f.toValue .omit) = .ok (some f.pruned) := by
  have hm := h.metadata
  rw [Stored.field?_toValue h.toLoadable, hcs, Except.map, reloaded, hp, hm]
  obtain ⟨_⟩ := f
  obtain rfl : _ = none := hm
  rfl

mutual

/-- A written field without metadata loads pruned. -/
theorem Stored.field?_toValue_plain : (f : FormField) → f.Plain →
    (∀ gs, f.children = some gs → Throughout FormField.Plain gs) →
    Stored.field? (f.toValue .omit) = .ok (some f.pruned)
  | ⟨_, _, _, _, _, _, _, _, none, _, _, _⟩ => by
    intro h _
    obtain rfl : _ = none := h.metadata
    exact Stored.field?_toValue_of_plain h (show _ = Except.ok [] from rfl) rfl
  | ⟨_, _, _, _, _, _, _, _, some gs, _, _, _⟩ => by
    intro h hgs
    exact Stored.field?_toValue_of_plain h (Stored.fields_toValues_plain gs (hgs gs rfl)) rfl

theorem Stored.fields_toValues_plain : (fs : List FormField) → Throughout FormField.Plain fs →
    Stored.fields (FormField.toValues .omit fs) = .ok (FormField.prunedAll fs)
  | [] => by
    intro _
    rw [FormField.toValues, Stored.fields, FormField.prunedAll]
    rfl
  | f :: fs => by
    intro h
    obtain ⟨hf, hgs, hfs⟩ := throughout_cons_iff.1 h
    rw [FormField.toValues, Stored.fields, Stored.field?_toValue_plain f hf hgs,
      Stored.fields_toValues_plain fs hfs]
    rfl

end

mutual

/-- Compiling sets no metadata. -/
theorem ResolvedField.metadata_toFormField : (r : ResolvedField) →
    r.toFormField.metadata = none ∧ ∀ gs, r.toFormField.children = some gs →
      Throughout (·.metadata = none) gs
  | .text _ _ | .number _ | .switch _ | .select _ _ | .checkboxGroup _ _ | .array _ _
  | .imageArray _ => ⟨rfl, nofun⟩
  | .object _ rs | .objectArray _ rs => by
    refine ⟨rfl, ?_⟩
    rintro _ ⟨⟩
    exact ResolvedField.metadata_toFormFields rs

theorem ResolvedField.metadata_toFormFields : (rs : List ResolvedField) →
    Throughout (·.metadata = none) (ResolvedField.toFormFields rs)
  | [] => throughout_nil
  | r :: rs => by
    obtain ⟨hr, hgs⟩ := ResolvedField.metadata_toFormField r
    exact throughout_cons_iff.2 ⟨hr, hgs, ResolvedField.metadata_toFormFields rs⟩

end

theorem FormField.Shaped.loadable {f : FormField} (h : f.Shaped) : Loadable f where
  key := by
    intro he
    have hname := h.key
    rw [he] at hname
    exact hname
  itemType := by
    intro t ht
    have hitem := h.itemType
    rw [Option.mem_def.1 ht] at hitem
    split at hitem
    · simp only [List.mem_cons, Option.some.injEq, List.not_mem_nil, or_false] at hitem
      rcases hitem with rfl | rfl <;> decide
    · cases hitem
  rules r hr := by
    have htype := (h.rules r hr).type
    rintro he
    rw [he] at htype
    exact absurd htype (by decide)

section

variable {text : List Char} {app : String} {config : CompilerConfig} {stamp : Stamp} {form : Form}
  {notices : List Notice} (h : compile text app config stamp = .ok (some form, notices))
include h

theorem plain_of_compile : Throughout FormField.Plain form.fields := by
  obtain ⟨_, _, rs, -, -, -, hfields⟩ := exists_unfolds_of_compile h
  intro f hf
  refine ⟨(forall_within_shaped_of_compile h f hf).loadable, ?_⟩
  rw [hfields] at hf
  exact ResolvedField.metadata_toFormFields rs f hf

/-- A compiled form has the name of a message, and is stamped. -/
theorem stamped_of_compile :
    form.name ≠ "" ∧ form.version = config.defaultVersion ∧
      form.createdAt = stamp.now.withOffset := by
  obtain ⟨d, root, hd, hroot, rfl⟩ := exists_root_of_compile h
  refine ⟨?_, rfl, rfl⟩
  obtain ⟨name, hm⟩ := mem_messages_of_root? hroot
  have hname := Document.isName_of_read hd hm
  intro he
  rw [show root.name = "" from he] at hname
  exact hname

end

/-- A compiled form, stored and loaded, comes back pruned. So it is what was compiled exactly if no
field has an empty list of options or of children; and it is rendered alike exactly if no list of
children is empty, and no list of options below a field is. -/
theorem load_compile {text : List Char} {app : String} {config : CompilerConfig} {stamp : Stamp}
    {form : Form} {notices : List Notice}
    (h : compile text app config stamp = .ok (some form, notices))
    (hversion : config.defaultVersion ≠ "") {ms : List (String × Value)}
    (hms : form.toValue = .object ms) (later : Moment) :
    Form.load ms {} later = .ok (some form.pruned) ∧
      (form.pruned = form ↔ Throughout FormField.Full form.fields) ∧
      (form.pruned.render = form.render ↔ ∀ f ∈ form.fields,
        f.children ≠ some [] ∧ ∀ gs, f.children = some gs → Throughout FormField.Full gs) := by
  obtain ⟨hn, hv, hc⟩ := stamped_of_compile h
  have hfields := Stored.fields_toValues_plain form.fields (plain_of_compile h)
  refine ⟨?_, form.pruned_eq_iff, form.render_pruned_eq_iff⟩
  rw [load_toValue hms hn (hv ▸ hversion) (hc ▸ withOffset_ne_empty _), hfields]
  rfl

/-- A message with an enumeration that has no members and a message that has no fields. -/
def bareText : String :=
  "message M \x7b E e = 1; A a = 2; \x7d message A \x7b \x7d enum E \x7b \x7d"

def enumDecl : FieldDecl where
  name := "e"
  type := "E"

def partDecl : FieldDecl where
  name := "a"
  type := "A"

def bareDocument : Document where
  messages := [("M", ⟨"M", [enumDecl, partDecl]⟩), ("A", ⟨"A", []⟩)]
  enumerations := [("E", ⟨"E", []⟩)]
  options := []

def bareForm (stamp : Stamp) : Form where
  name := "M"
  tenant := stamp.tenant
  status := stamp.status
  createdAt := stamp.now.withOffset
  fields := [{ key := "e", label := "E", kind := "select", options := some [] },
    { key := "a", label := "A", kind := "object", children := some [] }]

theorem read_bareText : Document.read bareText.toList = .ok bareDocument := by
  simp only [bareText, String.reduceToList]
  decide +kernel

theorem compile_bareText (stamp : Stamp) :
    ∃ notices, compile bareText.toList "m" {} stamp = .ok (some (bareForm stamp), notices) := by
  have hroot : Document.root? bareDocument "m" {} = some ⟨"M", [enumDecl, partDecl]⟩ := by decide
  have hpart : Unfolds ⟨bareDocument.messages, bareDocument.enumerations⟩ (Expandable 16)
      [⟨"M", [enumDecl, partDecl]⟩] [partDecl] [.ofMessage partDecl []] :=
    .expand rfl ⟨by decide, by decide⟩ .nil .nil
  have hfields := (Unfolds.enumeration (f := enumDecl) rfl hpart).resolveFields_eq
    (List.pairwise_singleton ..)
  have hc := Document.compile_of_root bareDocument "m" {} hroot
  rw [List.map_singleton] at hfields
  rw [hfields] at hc
  refine ⟨(Document.compile bareDocument "m" {}).2, ?_⟩
  rw [compile, read_bareText]
  simp only [bind, Except.bind]
  rw [hc]
  rfl

theorem load_compile_bareText :
    ∃ notices, compile bareText.toList "m" {} { now := .ofSeconds 0 } =
        .ok (some (bareForm { now := .ofSeconds 0 }), notices) ∧
      ({} : CompilerConfig).defaultVersion ≠ "" ∧
      ∃ ms, (bareForm { now := .ofSeconds 0 }).toValue = .object ms ∧
        Form.load ms {} (.ofSeconds 1) = .ok (some (bareForm { now := .ofSeconds 0 }).pruned) := by
  obtain ⟨notices, h⟩ := compile_bareText { now := .ofSeconds 0 }
  exact ⟨notices, h, by decide, _, rfl, (load_compile h (by decide) rfl (.ofSeconds 1)).1⟩

/-- What was compiled is not what is loaded, nor is it rendered alike. -/
theorem load_bareForm_ne :
    ∃ notices, compile bareText.toList "m" {} { now := .ofSeconds 0 } =
        .ok (some (bareForm { now := .ofSeconds 0 }), notices) ∧
      ∃ ms loaded, (bareForm { now := .ofSeconds 0 }).toValue = .object ms ∧
        Form.load ms {} (.ofSeconds 1) = .ok (some loaded) ∧
        loaded ≠ bareForm { now := .ofSeconds 0 } ∧
        loaded.render ≠ (bareForm { now := .ofSeconds 0 }).render := by
  obtain ⟨notices, h⟩ := compile_bareText { now := .ofSeconds 0 }
  refine ⟨notices, h, _, (bareForm { now := .ofSeconds 0 }).pruned, rfl, rfl, ?_, ?_⟩
  · intro he
    cases congrArg (fun f : Form => f.fields.map (·.options.isSome)) he
  · intro he
    cases congrArg (fun f : RenderedForm => f.fields.map (·.props.length)) he

end Formwork
