import Formwork.Record.Check

/-!
The visit of a record as a list. Validation asks one question after the other, and the form and the
record alone tell which questions and in which order; so its outcome is that of the first question
that is not answered well.
-/
namespace Formwork.Record

/-- What is asked of a value at a place. -/
inductive Question
  | json (value : Value)
  | markdown (value : Value)
  | image (flaw : Flaw) (value : Value)
  /-- The value has the wrong shape. -/
  | shape (flaw : Flaw)
  | rule (rule : Rule) (value : Value)

/-- Asks a question. -/
def Question.ask (checks : Checks) (p : Place) : Question → Except Refusal Unit
  | .json v => p.require .notJson (isJsonText v)
  | .markdown (.text s) => p.require .openFence (fencesBalanced s.toList)
  | .markdown _ => p.fail .notMarkdown
  | .image flaw v => requireImage p flaw v
  | .shape flaw => p.fail flaw
  | .rule r v => checkRule checks v p r

/-- Questions with the places that they are about, in order. -/
abbrev Visit := List (Place × Question)

/-- Asks the questions of a visit until one is not answered well. -/
def Visit.run (checks : Checks) (visit : Visit) : Except Refusal Unit :=
  visit.forM fun (p, q) => q.ask checks p

/-- The questions about the texts of a field. -/
def textVisit (slot : Slot) (value : Value) (p : Place) : Visit :=
  (if slot.kind = "json" || slot.has "json" then
    (textsOf slot.kind value p).map fun (place, v) => (place, .json v) else []) ++
  (if slot.kind = "markdown" || slot.has "markdown" then
    (textsOf slot.kind value p).map fun (place, v) => (place, .markdown v) else [])

def imageVisit (p : Place) : Value → Visit
  | .list [] => []
  | .list (v :: _) => [(p, .image .notImage v)]
  | v => [(p, .image .notImage v)]

def imagesVisit (p : Place) : Value → Visit
  | .list items => items.zipIdx.map fun (v, i) => (p.item i, .image (.notImageItem i) v)
  | _ => [(p, .shape .notImageList)]

/-- The questions about the rows of a list of objects, up to the first that is no object. -/
def rowsVisit (visit : Place → List (String × Value) → Visit) (p : Place) (index : Nat) :
    List Value → Visit
  | [] => []
  | .object ms :: rows => visit (p.item index) ms ++ rowsVisit visit p (index + 1) rows
  | _ :: _ => [(p.item index, .shape (.notRow index))]

mutual

/-- The questions about the value of a field: about its texts, its kind, its children, its rules. -/
def slotVisit (p : Place) (value : Value) : Slot → Visit
  | ⟨key, label, kind, rules, children⟩ =>
    if isVoid value then []
    else
      textVisit ⟨key, label, kind, rules, children⟩ value p ++
      (match kind, value with
        | "image", v => imageVisit p v
        | "array-image", v => imagesVisit p v
        | "object", .object ms => slotsVisit p ms children
        | "object", _ => [(p, .shape .notObject)]
        | "array<object>", v =>
          match rows? v with
          | some rows => rowsVisit (fun place ms => slotsVisit place ms children) p 0 rows
          | none => [(p, .shape .notObjectList)]
        | _, _ => []) ++
      rules.map fun r => (p, .rule r value)

/-- The questions about the members of an object, field by field. -/
def slotsVisit (p : Place) (members : List (String × Value)) : List Slot → Visit
  | [] => []
  | slot :: slots =>
    slotVisit (p.field slot) (Value.get members slot.key) slot ++ slotsVisit p members slots

end

/-! ### Validation asks the questions of the visit -/

theorem Visit.run_nil (checks : Checks) : Visit.run checks [] = .ok () := rfl

theorem Visit.run_cons (checks : Checks) (p : Place) (q : Question) (visit : Visit) :
    Visit.run checks ((p, q) :: visit) = (do q.ask checks p; Visit.run checks visit) := rfl

theorem Visit.run_singleton (checks : Checks) (p : Place) (q : Question) :
    Visit.run checks [(p, q)] = q.ask checks p := by
  rw [run_cons]
  cases q.ask checks p <;> rfl

theorem Visit.run_append (checks : Checks) (u v : Visit) :
    Visit.run checks (u ++ v) = (do Visit.run checks u; Visit.run checks v) := by
  induction u with
  | nil => rfl
  | cons x u ih =>
    obtain ⟨p, q⟩ := x
    rw [List.cons_append, run_cons, run_cons, ih]
    cases q.ask checks p <;> rfl

/-- Things that are each asked one question about are asked as one visit. -/
theorem Visit.run_map {α : Type} (checks : Checks) (f : α → Place × Question)
    {check : α → Except Refusal Unit} (h : ∀ a, (f a).2.ask checks (f a).1 = check a)
    (xs : List α) : Visit.run checks (xs.map f) = xs.forM check := by
  induction xs with
  | nil => rfl
  | cons x xs ih =>
    rw [List.map_cons, run_cons, ih, h]
    rfl

theorem run_textVisit (checks : Checks) (slot : Slot) (value : Value) (p : Place) :
    (textVisit slot value p).run checks =
      (do checkJson slot value p; checkMarkdown slot value p) := by
  rw [textVisit, Visit.run_append]
  congr 1
  · rw [checkJson]
    split
    · exact Visit.run_map checks _ (fun _ => rfl) _
    · rfl
  · funext _
    rw [checkMarkdown]
    split
    · exact Visit.run_map checks _ (fun (_, v) => by cases v <;> rfl) _
    · rfl

theorem run_imageVisit (checks : Checks) (p : Place) (value : Value) :
    (imageVisit p value).run checks = checkImage value p := by
  cases value with
  | list items =>
    cases items with
    | nil => rfl
    | cons v vs => exact Visit.run_singleton checks p _
  | _ => exact Visit.run_singleton checks p _

theorem run_imagesVisit (checks : Checks) (p : Place) (value : Value) :
    (imagesVisit p value).run checks = checkImages value p := by
  cases value with
  | list items => exact Visit.run_map checks _ (fun _ => rfl) _
  | _ => exact Visit.run_singleton checks p _

theorem run_rowsVisit (checks : Checks) {visit : Place → List (String × Value) → Visit}
    {check : Place → List (String × Value) → Except Refusal Unit}
    (h : ∀ p ms, (visit p ms).run checks = check p ms) (p : Place) (index : Nat)
    (rows : List Value) :
    (rowsVisit visit p index rows).run checks = checkRows check p index rows := by
  induction rows generalizing index with
  | nil => rfl
  | cons row rows ih =>
    cases row with
    | object ms => simp only [rowsVisit, checkRows, Visit.run_append, h, ih]
    | _ => exact Visit.run_singleton checks _ _

mutual

theorem run_slotVisit (checks : Checks) (p : Place) (value : Value) : (slot : Slot) →
    (slotVisit p value slot).run checks = checkSlot checks p value slot
  | ⟨key, label, kind, rules, children⟩ => by
    have hs (place ms) := run_slotsVisit checks place ms children
    have hr : Visit.run checks (rules.map fun r => (p, .rule r value)) =
        rules.forM (checkRule checks value p) := Visit.run_map checks _ (fun _ => rfl) rules
    rw [slotVisit.eq_def, checkSlot.eq_def]
    dsimp only
    by_cases hv : isVoid value
    · simp only [hv, ↓reduceIte]
      rfl
    · simp only [hv, Bool.false_eq_true, ↓reduceIte]
      rw [Visit.run_append, Visit.run_append, run_textVisit, hr, bind_assoc, bind_assoc]
      congr 1
      funext _
      congr 1
      funext _
      -- Only what is asked before the rules depends on the kind.
      have hbefore {u v : Except Refusal Unit} (h : u = v) :
          (do u; rules.forM (checkRule checks value p)) =
            (do v; rules.forM (checkRule checks value p)) := by rw [h]
      by_cases himage : kind = "image"
      · subst himage
        exact hbefore (run_imageVisit checks p value)
      by_cases himages : kind = "array-image"
      · subst himages
        exact hbefore (run_imagesVisit checks p value)
      by_cases hobject : kind = "object"
      · subst hobject
        cases value with
        | object ms => exact hbefore (hs p ms)
        | _ => exact hbefore (Visit.run_singleton checks p _)
      by_cases hlist : kind = "array<object>"
      · subst hlist
        cases hrows : rows? value with
        | none =>
          simp only [hrows]
          exact hbefore (Visit.run_singleton checks p _)
        | some rows =>
          simp only [hrows]
          exact hbefore (run_rowsVisit checks hs p 0 rows)
      · simp [hobject, Visit.run_nil]

theorem run_slotsVisit (checks : Checks) (p : Place) (members : List (String × Value)) :
    (slots : List Slot) →
    (slotsVisit p members slots).run checks = checkSlots checks p members slots
  | [] => rfl
  | slot :: slots => by
    rw [slotsVisit, checkSlots, Visit.run_append, run_slotVisit checks _ _ slot,
      run_slotsVisit checks p members slots]

end

/-- The visit of a record that is an object. -/
def recordVisit (f : Form) (members : List (String × Value)) : Visit :=
  slotsVisit .root members (ofFields f.fields)

/-- Validating a record asks the questions of its visit. -/
theorem validate_eq_run (f : Form) (members : List (String × Value)) (checks : Checks) :
    validate (.form f) (.object members) checks = (recordVisit f members).run checks := by
  rw [recordVisit, run_slotsVisit]
  rfl

/-- A visit goes wrong at the first question that is not answered well. -/
theorem Visit.run_eq_error_iff (checks : Checks) (visit : Visit) (r : Refusal) :
    visit.run checks = .error r ↔
      ∃ before p q after, visit = before ++ (p, q) :: after ∧
        (∀ x ∈ before, x.2.ask checks x.1 = .ok ()) ∧ q.ask checks p = .error r := by
  induction visit with
  | nil => simp [run_nil]
  | cons x visit ih =>
    obtain ⟨p, q⟩ := x
    rw [run_cons]
    cases hq : q.ask checks p with
    | error r' =>
      constructor
      · intro h
        obtain rfl : r' = r := by simpa [bind, Except.bind] using h
        exact ⟨[], p, q, visit, rfl, by simp, hq⟩
      · rintro ⟨before, p', q', after, he, hb, ha⟩
        cases before with
        | nil =>
          obtain ⟨⟨rfl, rfl⟩, rfl⟩ := by simpa using he
          rw [← hq, ha]
          rfl
        | cons y before =>
          obtain ⟨rfl, -⟩ := by simpa using he
          have hok := hb (p, q) List.mem_cons_self
          simp [hq] at hok
    | ok u =>
      have hrun : (do Except.ok u; Visit.run checks visit) = Visit.run checks visit := rfl
      rw [hrun, ih]
      constructor
      · rintro ⟨before, p', q', after, rfl, hb, ha⟩
        refine ⟨(p, q) :: before, p', q', after, rfl, ?_, ha⟩
        intro x hx
        rcases List.mem_cons.1 hx with rfl | hx
        · exact hq
        · exact hb x hx
      · rintro ⟨before, p', q', after, he, hb, ha⟩
        cases before with
        | nil =>
          obtain ⟨⟨rfl, rfl⟩, rfl⟩ := by simpa using he
          simp [hq] at ha
        | cons y before =>
          obtain ⟨rfl, rfl⟩ := by simpa using he
          exact ⟨before, p', q', after, rfl, fun x hx => hb x (List.mem_cons_of_mem _ hx), ha⟩

end Formwork.Record
