import Formwork.Proofs.Fallible
import Formwork.Proofs.Idl.Remark

/-!
Patterns and all that is not a pattern. Reading a document fails with the first annotated pattern of
a field, in the order of the text, that cannot be used though it is well formed. Where there is none,
the document is that of a reader that judges each pattern by itself: one that is let through is kept,
any other is left out, and nothing else depends on it.
-/
namespace Formwork.Idl
open Formwork.Text Formwork.Pattern

/-- What is made of a pattern; `none` leaves it out. -/
abbrev Judge := List Char → Option (List Char)

/-- The pattern as it is to be used, if it can be read. -/
def usable? : Judge := fun raw =>
  (Pattern.read (halveBackslashes raw)).toOption.map fun _ => halveBackslashes raw

/-- The fault of a pattern that cannot be used though it is well formed. -/
def stop? (raw : List Char) : Option Fault :=
  match Pattern.read (halveBackslashes raw) with
  | .ok _ | .error .malformed => none
  | .error fault => some fault

/-! ### Reading with a judge -/

/-- The pattern that a comment sets. -/
def commentPattern? (comment : List Char) : Option (List Char) :=
  (textDirective? ["pattern", "regex"] comment).map unquote

/-- The pattern that an option list sets. -/
def optionPattern? (options : List Char) : Option (List Char) :=
  (entryText? "ui_pattern" options).filter (!·.isEmpty)

section

variable (judge : Judge)

def commentJudged (comment : List Char) : FieldMeta :=
  let label := (textDirective? ["label"] comment).filter (!·.isEmpty)
  let starred := label.bind starless?
  { label := label.bind fun l => nonEmpty (unquote (strip (starred.getD l)))
    required := (switchDirective? ["required", "require"] comment).or (starred.map fun _ => true)
    pattern := ((commentPattern? comment).bind judge).map String.ofList
    listVisible := switchDirective? ["list_visible", "list", "table"] comment
    uniqueKey := switchDirective? ["unique_key", "unique", "uk"] comment }

def optionJudged (options : List Char) : FieldMeta where
  label := (entryText? "ui_label" options).bind nonEmpty
  required := entryTruth? "ui_required" options
  pattern := ((optionPattern? options).bind judge).map String.ofList
  listVisible := entryTruth? "ui_list" options
  uniqueKey := entryTruth? "ui_unique" options
  widget := (entryText? "ui_widget" options).bind fun w => nonEmpty (lower (strip w))

def commentsJudged (comments : List (List Char)) : FieldMeta :=
  comments.foldl (fun info c => info.merge (commentJudged judge c)) {}

def FieldDecl.judged? (s : Statement) : Option FieldDecl :=
  (fieldHeader? s.text).map fun (repeated, type, name) =>
    { name := String.ofList name
      type := String.ofList (localName type)
      repeated
      info := ((commentsJudged judge s.leading).merge (commentsJudged judge s.trailing)).merge
        (optionJudged judge (optionList s.text)) }

def Block.judged (b : Block) : String × Message :=
  let fields := (statements b.body).filterMap (FieldDecl.judged? judge)
  (String.ofList b.name, { name := String.ofList b.name, fields })

/-- The document that a text describes. -/
def Document.judged (text : List Char) : Document :=
  let clean := stripBlockComments text
  { messages := Keyed.table ((blocks "message" clean).map (Block.judged judge))
    enumerations := enumerationTable clean
    options := fileOptions clean }

end

/-- The patterns that a statement sets, if it declares a field. -/
def Statement.patterns (s : Statement) : List (List Char) :=
  if (fieldHeader? s.text).isSome then
    (s.leading ++ s.trailing).filterMap commentPattern? ++
      (optionPattern? (optionList s.text)).toList
  else []

/-- The patterns that the fields of a text are annotated with, in the order of the text. -/
def annotatedPatterns (text : List Char) : List (List Char) :=
  (blocks "message" (stripBlockComments text)).flatMap fun b =>
    (statements b.body).flatMap Statement.patterns

/-! ### Faults and results -/

theorem normalize_eq (raw : List Char) :
    Pattern.normalize raw = unlessFault (stop? raw) (usable? raw) := by
  rw [Pattern.normalize, stop?, usable?]
  cases Pattern.read (halveBackslashes raw) with
  | ok node => rfl
  | error fault => cases fault <;> rfl

theorem commentMeta_eq_judged (comment : List Char) :
    commentMeta comment =
      unlessFault ((commentPattern? comment).bind stop?) (commentJudged usable? comment) := by
  rw [commentMeta, commentJudged, commentPattern?]
  cases textDirective? ["pattern", "regex"] comment with
  | none => rfl
  | some raw =>
    simp only [normalize_eq, Option.map_some, Option.bind_some]
    exact unlessFault_map

theorem optionMeta_eq_judged (options : List Char) :
    optionMeta options =
      unlessFault ((optionPattern? options).bind stop?) (optionJudged usable? options) := by
  rw [optionMeta, optionJudged, optionPattern?]
  cases (entryText? "ui_pattern" options).filter (!·.isEmpty) with
  | none => rfl
  | some raw =>
    simp only [normalize_eq, Option.bind_some]
    exact unlessFault_map

theorem commentsMeta_eq_judged (comments : List (List Char)) :
    commentsMeta comments =
      unlessFault ((comments.filterMap commentPattern?).findSome? stop?)
        (commentsJudged usable? comments) := by
  rw [commentsMeta, commentsJudged]
  -- Each comment adds to what the comments before it have said.
  generalize ({} : FieldMeta) = start
  induction comments generalizing start with
  | nil => rfl
  | cons c comments ih =>
    have hfault : ((c :: comments).filterMap commentPattern?).findSome? stop? =
        ((commentPattern? c).bind stop?).or ((comments.filterMap commentPattern?).findSome? stop?) := by
      rw [List.filterMap_cons]
      cases commentPattern? c with
      | none => rfl
      | some raw =>
        rw [Option.bind_some, List.findSome?_cons]
        cases stop? raw <;> rfl
    rw [List.foldlM_cons, commentMeta_eq_judged, unlessFault_map, hfault]
    exact unlessFault_bind (ih _)

theorem FieldDecl.ofStatement?_eq_judged (s : Statement) :
    FieldDecl.ofStatement? s =
      unlessFault (s.patterns.findSome? stop?) (FieldDecl.judged? usable? s) := by
  rw [ofStatement?, judged?, Statement.patterns]
  cases fieldHeader? s.text with
  | none => rfl
  | some found =>
    obtain ⟨repeated, type, name⟩ := found
    have hoptions : (optionPattern? (optionList s.text)).bind stop? =
        (optionPattern? (optionList s.text)).toList.findSome? stop? := by
      cases optionPattern? (optionList s.text) with
      | none => rfl
      | some raw =>
        rw [Option.bind_some, Option.toList_some, List.findSome?_singleton]
    rw [Option.isSome_some, if_pos rfl, List.filterMap_append, List.findSome?_append,
      List.findSome?_append, Option.or_assoc, ← hoptions]
    simp only [commentsMeta_eq_judged, optionMeta_eq_judged]
    exact unlessFault_bind (unlessFault_bind unlessFault_map)

theorem findSome?_flatMap {α β γ : Type} {f : α → List β} {p : β → Option γ} {xs : List α} :
    (xs.flatMap f).findSome? p = xs.findSome? fun x => (f x).findSome? p := by
  induction xs with
  | nil => rfl
  | cons x xs ih =>
    rw [List.flatMap_cons, List.findSome?_append, ih, List.findSome?_cons]
    cases (f x).findSome? p <;> rfl

/-- The body of a message is read up to the first pattern that stops the reader. -/
theorem Block.message_eq_judged (b : Block) :
    b.message = unlessFault (((statements b.body).flatMap Statement.patterns).findSome? stop?)
      (b.judged usable?) := by
  have hfields := mapM_eq_unlessFault FieldDecl.ofStatement?_eq_judged (statements b.body)
  rw [message, readBody, hfields, findSome?_flatMap, Block.judged]
  apply unlessFault_map.trans
  rw [List.filterMap_map]
  rfl

/-- A document is read unless one of the patterns of its fields stops the reader; the first one does. -/
theorem Document.read_eq_judged (text : List Char) :
    Document.read text =
      unlessFault ((annotatedPatterns text).findSome? stop?) (Document.judged usable? text) := by
  have hmessages := mapM_eq_unlessFault Block.message_eq_judged
    (blocks "message" (stripBlockComments text))
  rw [Document.read_eq, annotatedPatterns, findSome?_flatMap]
  simp only [hmessages]
  exact unlessFault_map

end Formwork.Idl
