import Formwork.Proofs.Form.Unfolding
import Formwork.Proofs.Idl.Judged

/-!
What patterns cost. Compiling fails with the first annotated pattern that stops the reader, and never
otherwise. Whatever is made of the patterns of a text, the compiled form differs in nothing but the
pattern rules of its fields.
-/
namespace Formwork
open Formwork.Idl Formwork.Pattern

/-! ### Without patterns -/

def Idl.FieldMeta.withoutPattern (info : FieldMeta) : FieldMeta := { info with pattern := none }

def Idl.FieldDecl.withoutPattern (f : FieldDecl) : FieldDecl :=
  { f with info := f.info.withoutPattern }

def Idl.Message.withoutPatterns (m : Message) : Message :=
  { m with fields := m.fields.map FieldDecl.withoutPattern }

def Idl.Document.withoutPatterns (d : Document) : Document :=
  { d with messages := d.messages.map fun e => (e.1, e.2.withoutPatterns) }

mutual

/-- The field without its pattern rules, at every depth. -/
def FormField.withoutPatterns : FormField → FormField
  | { key, label, kind, required, listInTable, uniqueKey, options, itemType, children, rules,
      visibility, metadata } =>
    { key, label, kind, required, listInTable, uniqueKey, options, itemType,
      children := FormField.withoutPatternsBelow children,
      rules := rules.filter (·.type != "pattern"), visibility, metadata }

def FormField.withoutPatternsBelow : Option (List FormField) → Option (List FormField)
  | none => none
  | some fs => some (FormField.withoutPatternsAll fs)

def FormField.withoutPatternsAll : List FormField → List FormField
  | [] => []
  | f :: fs => f.withoutPatterns :: FormField.withoutPatternsAll fs

end

def Form.withoutPatterns (form : Form) : Form :=
  { form with fields := FormField.withoutPatternsAll form.fields }

/-! ### Documents -/

section

variable (judge : Judge)

/-- A judge that leaves every pattern out. -/
def noPattern : Judge := fun _ => none

theorem commentJudged_withoutPattern (comment : List Char) :
    (commentJudged judge comment).withoutPattern = commentJudged noPattern comment := by
  rw [commentJudged, commentJudged, FieldMeta.withoutPattern]
  cases commentPattern? comment <;> rfl

theorem optionJudged_withoutPattern (options : List Char) :
    (optionJudged judge options).withoutPattern = optionJudged noPattern options := by
  rw [optionJudged, optionJudged, FieldMeta.withoutPattern]
  cases optionPattern? options <;> rfl

theorem merge_withoutPattern (earlier later : FieldMeta) :
    (earlier.merge later).withoutPattern = earlier.withoutPattern.merge later.withoutPattern := rfl

theorem commentsJudged_withoutPattern (comments : List (List Char)) :
    (commentsJudged judge comments).withoutPattern = commentsJudged noPattern comments := by
  have hfold (start : FieldMeta) :
      (comments.foldl (fun info c => info.merge (commentJudged judge c)) start).withoutPattern =
        comments.foldl (fun info c => info.merge (commentJudged noPattern c))
          start.withoutPattern := by
    induction comments generalizing start with
    | nil => rfl
    | cons c comments ih =>
      rw [List.foldl_cons, ih, merge_withoutPattern, commentJudged_withoutPattern, List.foldl_cons]
  exact hfold {}

theorem judged?_withoutPattern (s : Statement) :
    (FieldDecl.judged? judge s).map FieldDecl.withoutPattern = FieldDecl.judged? noPattern s := by
  rw [FieldDecl.judged?, FieldDecl.judged?, Option.map_map]
  apply congrArg (Option.map · _)
  funext found
  simp only [Function.comp_apply, FieldDecl.withoutPattern, merge_withoutPattern,
    commentsJudged_withoutPattern, optionJudged_withoutPattern]

/-- The judge decides about the patterns of a document only. -/
theorem judged_withoutPatterns (text : List Char) :
    (Document.judged judge text).withoutPatterns = Document.judged noPattern text := by
  have hblock (b : Block) : ((b.judged judge).1, (b.judged judge).2.withoutPatterns) =
      b.judged noPattern := by
    simp only [Block.judged, Message.withoutPatterns, List.map_filterMap, judged?_withoutPattern]
  simp only [Document.judged, Document.withoutPatterns, ← Keyed.table_map, List.map_map,
    Function.comp_def, hblock]

end

/-! ### Resolved fields -/

def Types.withoutPatterns (types : Types) : Types :=
  { types with messages := types.messages.map fun e => (e.1, e.2.withoutPatterns) }

def TypeRef.withoutPatterns : TypeRef → TypeRef
  | .message m => .message m.withoutPatterns
  | t => t

theorem lookup_map {α β : Type} (g : α → β) (name : String) (entries : List (String × α)) :
    (entries.map fun e => (e.1, g e.2)).lookup name = (entries.lookup name).map g := by
  induction entries with
  | nil => rfl
  | cons e entries ih =>
    rw [List.map_cons, List.lookup_cons, List.lookup_cons, ih]
    cases name == e.1 <;> rfl

theorem Types.find?_withoutPatterns (types : Types) (f : FieldDecl) :
    types.withoutPatterns.find? f.withoutPattern.type =
      (types.find? f.type).map TypeRef.withoutPatterns := by
  have hname : f.withoutPattern.type = f.type := rfl
  rw [hname, find?, find?]
  cases Scalar.ofName? f.type with
  | some s => rfl
  | none =>
    simp only [withoutPatterns, lookup_map]
    cases types.enumerations.lookup f.type with
    | some e => rfl
    | none => cases types.messages.lookup f.type <;> rfl

theorem annotatedRules_withoutPattern (info : FieldMeta) :
    annotatedRules info.withoutPattern = (annotatedRules info).filter (·.type != "pattern") := by
  have hrule (c : Prop) [Decidable c] (r : Rule) (hr : (r.type != "pattern") = true) :
      (if c then [r] else []).filter (·.type != "pattern") = if c then [r] else [] := by
    split <;> simp [hr]
  obtain ⟨label, required, pattern, listVisible, uniqueKey, widget⟩ := info
  simp only [annotatedRules, FieldMeta.withoutPattern, List.filter_append,
    hrule (widget = some "json") { type := "json" } rfl,
    hrule (widget = some "markdown") { type := "markdown" } rfl]
  cases pattern with
  | none => rfl
  | some p =>
    have hpattern : (if p.isEmpty then [] else [{ type := "pattern", value := some p }]).filter
        (fun r : Rule => r.type != "pattern") = [] := by
      split <;> rfl
    simp only [hpattern]
    rfl

def FieldBase.withoutPatterns (b : FieldBase) : FieldBase :=
  { b with rules := b.rules.filter (·.type != "pattern") }

theorem FieldBase.ofDecl_withoutPattern (f : FieldDecl) :
    ofDecl f.withoutPattern = (ofDecl f).withoutPatterns := by
  have hrules := annotatedRules_withoutPattern f.info
  simp only [ofDecl, withoutPatterns, FieldDecl.withoutPattern, hrules]
  rfl

theorem toFormField_ofScalar (f : FieldDecl) (s : Scalar) :
    (ResolvedField.ofScalar f.withoutPattern s).toFormField =
      (ResolvedField.ofScalar f s).toFormField.withoutPatterns := by
  unfold ResolvedField.ofScalar
  rw [FieldBase.ofDecl_withoutPattern]
  obtain ⟨name, type, repeated, info⟩ := f
  cases s with
  | text =>
    cases repeated with
    | false => rfl
    | true =>
      by_cases hi : info.widget = some "image"
      · simp only [FieldDecl.withoutPattern, FieldMeta.withoutPattern, hi, if_true]
        rfl
      · simp only [FieldDecl.withoutPattern, FieldMeta.withoutPattern, hi, if_false]
        rfl
  | number => cases repeated <;> rfl
  | boolean => cases repeated <;> rfl

theorem toFormField_ofEnumeration (f : FieldDecl) (e : Enumeration) :
    (ResolvedField.ofEnumeration f.withoutPattern e).toFormField =
      (ResolvedField.ofEnumeration f e).toFormField.withoutPatterns := by
  rw [ResolvedField.ofEnumeration, ResolvedField.ofEnumeration, FieldBase.ofDecl_withoutPattern]
  obtain ⟨name, type, repeated, info⟩ := f
  cases repeated <;> rfl

theorem toFormField_ofMessage (f : FieldDecl) {children children' : List ResolvedField}
    (h : ResolvedField.toFormFields children' =
      FormField.withoutPatternsAll (ResolvedField.toFormFields children)) :
    (ResolvedField.ofMessage f.withoutPattern children').toFormField =
      (ResolvedField.ofMessage f children).toFormField.withoutPatterns := by
  rw [ResolvedField.ofMessage, ResolvedField.ofMessage, FieldBase.ofDecl_withoutPattern]
  have hrepeated : f.withoutPattern.repeated = f.repeated := rfl
  rw [hrepeated]
  split
  · simp only [ResolvedField.toFormField, FormField.withoutPatterns,
      FormField.withoutPatternsBelow, h]
    rfl
  · simp only [ResolvedField.toFormField, FormField.withoutPatterns,
      FormField.withoutPatternsBelow, h]
    rfl

/-- A declaration adds at most one field and the notices about it. -/
theorem resolveFields_cons_eq : resolveFields types limit path (f :: fs) =
    (let rest := resolveFields types limit path fs
    match types.find? f.type with
    | none => rest
    | some (.scalar s) => (.ofScalar f s :: rest.1, rest.2)
    | some (.enumeration e) => (.ofEnumeration f e :: rest.1, rest.2)
    | some (.message m) =>
      if m.name ∈ path then (rest.1, .recursion f.name m.name (path ++ [m.name]) :: rest.2)
      else if limit ≤ path.length then (rest.1, .depth f.name limit m.name :: rest.2)
      else
        let inner := resolveFields types limit (path ++ [m.name]) m.fields
        (.ofMessage f inner.1 :: rest.1, inner.2 ++ rest.2)) := by
  rw [resolveFields]
  dsimp only
  split
  · next ht => rw [ht]
  · next ht => rw [ht]
  · next ht => rw [ht]
  · next m ht =>
    rw [ht]
    rfl

/-- Patterns take no part in the resolution of fields. -/
theorem resolveFields_withoutPatterns (types : Types) (limit : Int) (path : List String)
    (fs : List FieldDecl) :
    ResolvedField.toFormFields (resolveFields types.withoutPatterns limit path
        (fs.map FieldDecl.withoutPattern)).1 =
      FormField.withoutPatternsAll (ResolvedField.toFormFields (resolveFields types limit path fs).1) ∧
    (resolveFields types.withoutPatterns limit path (fs.map FieldDecl.withoutPattern)).2 =
      (resolveFields types limit path fs).2 := by
  -- The induction follows the unfolding, so that it covers the fields of a nested message as well.
  fun_induction resolveFields types limit path fs with
  | case1 =>
    simp [resolveFields, ResolvedField.toFormFields, FormField.withoutPatternsAll]
  | case2 path f fs fields notices hr ht ih =>
    rw [hr] at ih
    simp only [List.map_cons, resolveFields_cons_eq, Types.find?_withoutPatterns, ht, Option.map_none]
    exact ih
  | case3 path f fs fields notices hr s ht ih =>
    rw [hr] at ih
    simp only [List.map_cons, resolveFields_cons_eq, Types.find?_withoutPatterns, ht,
      Option.map_some, TypeRef.withoutPatterns, ResolvedField.toFormFields,
      FormField.withoutPatternsAll, toFormField_ofScalar]
    exact ⟨congrArg _ ih.1, ih.2⟩
  | case4 path f fs fields notices hr e ht ih =>
    rw [hr] at ih
    simp only [List.map_cons, resolveFields_cons_eq, Types.find?_withoutPatterns, ht,
      Option.map_some, TypeRef.withoutPatterns, ResolvedField.toFormFields,
      FormField.withoutPatternsAll, toFormField_ofEnumeration]
    exact ⟨congrArg _ ih.1, ih.2⟩
  | case5 path f fs fields notices hr m ht hm ih =>
    rw [hr] at ih
    have hname : m.withoutPatterns.name ∈ path := hm
    simp only [List.map_cons, resolveFields_cons_eq, Types.find?_withoutPatterns, ht,
      Option.map_some, TypeRef.withoutPatterns, if_pos hname]
    exact ⟨ih.1, congrArg _ ih.2⟩
  | case6 path f fs fields notices hr m ht hm hl ih =>
    rw [hr] at ih
    have hname : m.withoutPatterns.name ∉ path := hm
    simp only [List.map_cons, resolveFields_cons_eq, Types.find?_withoutPatterns, ht,
      Option.map_some, TypeRef.withoutPatterns, if_neg hname, if_pos hl]
    exact ⟨ih.1, congrArg _ ih.2⟩
  | case7 path f fs fields notices hr m ht hm hl children inner hi ih ihm =>
    rw [hr] at ih
    rw [hi] at ihm
    have hname : m.withoutPatterns.name ∉ path := hm
    simp only [List.map_cons, resolveFields_cons_eq, Types.find?_withoutPatterns, ht,
      Option.map_some, TypeRef.withoutPatterns, if_neg hname, if_neg hl,
      ResolvedField.toFormFields, FormField.withoutPatternsAll]
    exact ⟨congrArg₂ _ (toFormField_ofMessage f ihm.1) ih.1, congrArg₂ _ ihm.2 ih.2⟩

/-! ### Forms -/

/-- The form that a document makes. -/
def Idl.Document.form (d : Document) (app : String) (config : CompilerConfig) (stamp : Stamp) :
    Option Form × List Notice :=
  ((Document.compile d app config).1.map (·.toForm config.defaultVersion stamp),
    (Document.compile d app config).2)

variable {app : String} {config : CompilerConfig} {stamp : Stamp}

theorem root?_withoutPatterns (d : Document) :
    Document.root? d.withoutPatterns app config =
      (Document.root? d app config).map Message.withoutPatterns := by
  have hnames : d.withoutPatterns.messages.map (·.1) = d.messages.map (·.1) := by
    simp [Document.withoutPatterns]
  rw [Document.root?, Document.root?, hnames]
  cases pickRoot app (d.messages.map (·.1)) config.rootExclusions with
  | none => rfl
  | some name => exact lookup_map Message.withoutPatterns name d.messages

theorem Document.compile_eq (d : Document) (app : String) (config : CompilerConfig) :
    Document.compile d app config = (Document.root? d app config).elim (none, [.noRoot app])
      fun root =>
        let found := resolveFields ⟨d.messages, d.enumerations⟩ config.maxDepth [root.name]
          root.fields
        (some ⟨root, found.1⟩, found.2) := by
  rw [Document.compile, ← Document.root?]
  cases Document.root? d app config <;> rfl

theorem toForm_withoutPatterns {c : CompiledForm} {fields : List ResolvedField} (version : String)
    (h : ResolvedField.toFormFields fields =
      FormField.withoutPatternsAll (ResolvedField.toFormFields c.fields)) :
    CompiledForm.toForm ⟨c.root.withoutPatterns, fields⟩ version stamp =
      (c.toForm version stamp).withoutPatterns := by
  rw [CompiledForm.toForm, h]
  rfl

/-- Patterns make no difference to a form but in its pattern rules. -/
theorem form_withoutPatterns (d : Document) :
    d.withoutPatterns.form app config stamp =
      (d.form app config stamp).map (Option.map Form.withoutPatterns) id := by
  rw [Document.form, Document.form, Document.compile_eq, Document.compile_eq,
    root?_withoutPatterns]
  cases Document.root? d app config with
  | none => rfl
  | some root =>
    obtain ⟨hfields, hnotices⟩ := resolveFields_withoutPatterns ⟨d.messages, d.enumerations⟩
      config.maxDepth [root.name] root.fields
    exact Prod.ext (congrArg some (toForm_withoutPatterns (c := ⟨root, _⟩) _ hfields)) hnotices

/-- Compiling fails with the first annotated pattern that cannot be used though it is well formed, and
never otherwise. A malformed pattern is left out, and whatever is left out, the form is the same but
for its pattern rules. -/
theorem compile_eq_judged (text : List Char) (app : String) (config : CompilerConfig)
    (stamp : Stamp) :
    compile text app config stamp =
        unlessFault ((annotatedPatterns text).findSome? stop?)
          ((Document.judged usable? text).form app config stamp) ∧
      ∀ judge : Judge, (Document.judged noPattern text).form app config stamp =
        ((Document.judged judge text).form app config stamp).map (Option.map Form.withoutPatterns)
          id := by
  constructor
  · rw [compile, Document.read_eq_judged]
    exact unlessFault_map
  · intro judge
    rw [← judged_withoutPatterns judge, form_withoutPatterns]

/-- A field whose pattern asks for more rounds than can be counted. -/
def endlessText : String :=
  "message M \x7b\n  string a = 1; // @pattern a\x7b4294967295\x7d\n\x7d\n"

theorem compile_endlessText :
    compile endlessText.toList "m" {} { now := .ofSeconds 0 } = .error .countTooLarge := by
  have hread : Document.read endlessText.toList = .error .countTooLarge := by
    simp only [endlessText, String.reduceToList]
    decide +kernel
  rw [compile, hread]
  rfl

end Formwork
