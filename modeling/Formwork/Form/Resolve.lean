import Formwork.Form.Resolved
import Formwork.Idl.Document
import Formwork.Notice

/-!
Looking up the types of declared fields. A scalar, an enumeration or a message type gives a field of
its kind, and a repeated one a list of such; a field of any other type is dropped.

Message types are unfolded. A field is dropped where its message type is being unfolded already or
where the nesting is too deep, so that the unfolding ends.
-/
namespace Formwork
open Formwork.Idl Formwork.Text

/-- The kinds of scalar type. -/
inductive Scalar
  | text
  | number
  | boolean
  deriving DecidableEq, Repr

def numberTypes : List String :=
  ["double", "float", "int32", "int64", "uint32", "uint64", "sint32", "sint64", "fixed32",
   "fixed64", "sfixed32", "sfixed64"]

def Scalar.ofName? (type : String) : Option Scalar :=
  if type = "string" ∨ type = "bytes" then some .text
  else if type = "bool" then some .boolean
  else if numberTypes.contains type then some .number
  else none

/-- The message and enumeration types that a name may refer to. -/
structure Types where
  messages : List (String × Message)
  enumerations : List (String × Enumeration)

/-- What the name of a type refers to. -/
inductive TypeRef
  | scalar (scalar : Scalar)
  | enumeration (enumeration : Enumeration)
  | message (message : Message)

/-- Looks up a type: scalars hide enumerations, and these hide messages. -/
def Types.find? (types : Types) (name : String) : Option TypeRef :=
  match Scalar.ofName? name with
  | some s => some (.scalar s)
  | none =>
    match types.enumerations.lookup name with
    | some e => some (.enumeration e)
    | none => (types.messages.lookup name).map .message

/-- The rules that the annotations of a field ask for. -/
def annotatedRules (info : FieldMeta) : List Rule :=
  (match info.pattern with
    | some p => if p.isEmpty then [] else [{ type := "pattern", value := some p }]
    | none => []) ++
  (if info.widget = some "json" then [{ type := "json" }] else []) ++
  (if info.widget = some "markdown" then [{ type := "markdown" }] else [])

/-- The label of a declared field: the annotated one, or its name in words. -/
def declaredLabel (f : FieldDecl) : String :=
  match f.info.label with
  | some l => if l.isEmpty then String.ofList (fieldTitle f.name.toList) else l
  | none => String.ofList (fieldTitle f.name.toList)

def FieldBase.ofDecl (f : FieldDecl) : FieldBase where
  name := f.name
  label := declaredLabel f
  required := f.info.required.getD false
  rules := annotatedRules f.info
  listVisible := f.info.listVisible.getD false
  uniqueKey := f.info.uniqueKey.getD false

namespace ResolvedField

def ofScalar (f : FieldDecl) (s : Scalar) : ResolvedField :=
  let base := FieldBase.ofDecl f
  match s, f.repeated with
  | .text, false => .text base ((f.info.widget.map Widget.ofName).getD .line)
  | .text, true => if f.info.widget = some "image" then .imageArray base else .array base .text
  | .number, false => .number base
  | .number, true => .array base .number
  | .boolean, false => .switch base
  | .boolean, true => .checkboxGroup base [.plain "true", .plain "false"]

def ofEnumeration (f : FieldDecl) (e : Enumeration) : ResolvedField :=
  if f.repeated then .checkboxGroup (.ofDecl f) (e.choices.map .choice)
  else .select (.ofDecl f) e.choices

def ofMessage (f : FieldDecl) (children : List ResolvedField) : ResolvedField :=
  if f.repeated then .objectArray (.ofDecl f) children else .object (.ofDecl f) children

end ResolvedField

/-- How many declared messages have a name that is not on the path. -/
def Types.unvisited (types : Types) (path : List String) : Nat :=
  types.messages.countP fun (_, m) => !path.contains m.name

theorem Types.mem_of_find? {types : Types} {name : String} {m : Message}
    (h : types.find? name = some (.message m)) : (name, m) ∈ types.messages := by
  unfold Types.find? at h
  split at h
  · simp at h
  · split at h
    · simp at h
    · simp only [Option.map_eq_some_iff, TypeRef.message.injEq] at h
      obtain ⟨m', hm, rfl⟩ := h
      exact mem_of_lookup hm
where
  mem_of_lookup {k : String} {m : Message} :
      ∀ {l : List (String × Message)}, l.lookup k = some m → (k, m) ∈ l := by
    intro l hl
    induction l with
    | nil => simp at hl
    | cons p l ih =>
      obtain ⟨k', m'⟩ := p
      by_cases hk : k = k'
      · subst hk
        simp only [List.lookup_cons_self, Option.some.injEq] at hl
        simp [hl]
      · have : (k == k') = false := by simp [hk]
        simp only [List.lookup_cons, this] at hl
        exact List.mem_cons_of_mem _ (ih hl)

/-- A message that is put on the path is one message less to unfold. -/
theorem Types.unvisited_lt {types : Types} {name : String} {m : Message} {path : List String}
    (h : types.find? name = some (.message m)) (hp : m.name ∉ path) :
    types.unvisited (path ++ [m.name]) < types.unvisited path := by
  have hmem := mem_of_find? h
  unfold Types.unvisited
  generalize types.messages = l at hmem
  have mono (l : List (String × Message)) :
      (l.countP fun (_, x) => !(path ++ [m.name]).contains x.name) ≤
        l.countP fun (_, x) => !path.contains x.name := by
    apply List.countP_mono_left
    intro x _ hx
    simp_all
  induction l with
  | nil => simp at hmem
  | cons p l ih =>
    rw [List.countP_cons, List.countP_cons]
    rcases List.mem_cons.1 hmem with rfl | hmem
    · have := mono l
      simp [hp]
      simp at this
      omega
    · have lt := ih hmem
      have := mono [p]
      rw [List.countP_cons, List.countP_cons, List.countP_nil, List.countP_nil] at this
      omega

/-- Resolves fields in order. `path` holds the messages being unfolded, the outermost first, and
`limit` is the greatest length it may reach. -/
def resolveFields (types : Types) (limit : Int) (path : List String) :
    List FieldDecl → List ResolvedField × List Notice
  | [] => ([], [])
  | f :: fs =>
    let (fields, notices) := resolveFields types limit path fs
    match _ : types.find? f.type with
    | none => (fields, notices)
    | some (.scalar s) => (.ofScalar f s :: fields, notices)
    | some (.enumeration e) => (.ofEnumeration f e :: fields, notices)
    | some (.message m) =>
      if _ : m.name ∈ path then
        (fields, .recursion f.name m.name (path ++ [m.name]) :: notices)
      else if limit ≤ path.length then (fields, .depth f.name limit m.name :: notices)
      else
        let (children, inner) := resolveFields types limit (path ++ [m.name]) m.fields
        (.ofMessage f children :: fields, inner ++ notices)
  termination_by fs => (types.unvisited path, fs.length)
  decreasing_by
    · exact Prod.Lex.right _ (by simp)
    · exact Prod.Lex.left _ _ (Types.unvisited_lt ‹_› ‹_›)

end Formwork
