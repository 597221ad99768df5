import Formwork.Proofs.Record.Visit

/-!
Questions without an answer. Whether a text refers to an image cannot be told when its authority is
malformed, nor whether it has a format when the pattern is well formed but unusable. Validation ends
otherwise than by accepting a record or naming a defect exactly when it comes to such a question.
-/
namespace Formwork.Record

/-- Nothing tells how the value stands to the question. -/
def Question.Unanswerable : Question → Prop
  | .image _ (.text s) => isImageText s.toList = .error {}
  | .rule r (.text _) => r.type = "pattern" ∧ ∃ pattern fault, r.value = some pattern ∧
      pattern ≠ "" ∧ Pattern.read pattern.toList = .error fault ∧ fault ≠ .malformed
  | _ => False

/-- A record was accepted, or refused for a defect. -/
def Settled (outcome : Except Refusal Unit) : Prop :=
  outcome = .ok () ∨ ∃ d, outcome = .error (.defect d)

theorem Place.settled_fail (p : Place) (flaw : Flaw) : Settled (p.fail flaw) := .inr ⟨_, rfl⟩

theorem Place.settled_require (p : Place) (flaw : Flaw) (holds : Bool) :
    Settled (p.require flaw holds) := by
  cases holds with
  | true => exact .inl rfl
  | false => exact p.settled_fail flaw

theorem not_settled_of_error {r : Refusal} (h : ∀ d, r ≠ .defect d) : ¬Settled (.error r) := by
  rintro (hok | ⟨d, hd⟩)
  · cases hok
  · exact h d (Except.error.inj hd)

theorem settled_requireImage_iff (p : Place) (flaw : Flaw) (v : Value) :
    Settled (requireImage p flaw v) ↔ isImageUrl v ≠ .error {} := by
  cases h : isImageUrl v with
  | ok holds => simp [requireImage, h, p.settled_require flaw holds]
  | error e =>
    simp only [requireImage, h, ne_eq, not_true_eq_false, iff_false]
    exact not_settled_of_error (by simp)

theorem settled_checkPattern_iff (pattern : String) (v : Value) (p : Place) :
    Settled (checkPattern pattern v p) ↔
      ¬((∃ s, v = .text s) ∧ pattern ≠ "" ∧
        ∃ fault, Pattern.read pattern.toList = .error fault ∧ fault ≠ .malformed) := by
  cases v with
  | text s =>
    by_cases hp : pattern = ""
    · simp [checkPattern, hp, Settled]
    · have he : pattern.isEmpty = false := by simpa using hp
      cases hr : Pattern.read pattern.toList with
      | ok node => simp [checkPattern, he, hr, p.settled_require]
      | error fault =>
        cases fault with
        | malformed => simp [checkPattern, he, hr, Settled]
        | _ =>
          simp only [checkPattern, he, hr]
          simp [hp, Settled]
  | _ => simp [checkPattern, Settled]

theorem settled_checkMin (r : Rule) (v : Value) (p : Place) : Settled (checkMin r v p) := by
  unfold checkMin
  split
  · exact p.settled_require _ _
  · exact .inl rfl

theorem settled_checkMax (r : Rule) (v : Value) (p : Place) : Settled (checkMax r v p) := by
  unfold checkMax
  split
  · exact p.settled_require _ _
  · exact .inl rfl

theorem settled_checkNamed (checks : Checks) (name : String) (r : Rule) (v : Value) (p : Place) :
    Settled (checkNamed checks name r v p) := by
  unfold checkNamed
  split
  · exact p.settled_require _ _
  · exact .inl rfl

theorem settled_checkRule_of_ne (checks : Checks) (v : Value) (p : Place) {r : Rule}
    (h : r.type ≠ "pattern") : Settled (checkRule checks v p r) := by
  unfold checkRule
  split
  · next ht => exact (h ht).elim
  · exact settled_checkMin r v p
  · exact settled_checkMax r v p
  · dsimp only
    split
    · exact .inl rfl
    · exact settled_checkNamed checks _ r v p
  · split
    · exact .inl rfl
    · exact settled_checkNamed checks _ r v p

/-- A question ends otherwise than well or with a defect exactly if it has no answer. -/
theorem Question.settled_ask_iff (checks : Checks) (p : Place) (q : Question) :
    Settled (q.ask checks p) ↔ ¬q.Unanswerable := by
  cases q with
  | json v => simp [ask, Unanswerable, p.settled_require]
  | markdown v =>
    cases v with
    | text s => simp [ask, Unanswerable, p.settled_require]
    | _ => simp [ask, Unanswerable, p.settled_fail]
  | image flaw v =>
    rw [ask, settled_requireImage_iff]
    cases v with
    | text s => simp [Unanswerable, isImageUrl]
    | _ => simp [Unanswerable, isImageUrl]
  | shape flaw => simp [ask, Unanswerable, p.settled_fail]
  | rule r v =>
    by_cases ht : r.type = "pattern"
    · have hc : ask checks p (.rule r v) = checkPattern (r.value.getD "") v p := by
        simp [ask, checkRule, ht]
      rw [hc, settled_checkPattern_iff]
      cases v with
      | text s => cases hv : r.value <;> simp [Unanswerable, ht, hv]
      | _ => simp [Unanswerable]
    · have hs := settled_checkRule_of_ne checks v p ht
      cases v with
      | text s => simp [ask, Unanswerable, ht, hs]
      | _ => simp [ask, Unanswerable, hs]

/-- Validating a record that is an object accepts it or names a defect, unless the visit comes to a
question without an answer before it comes to a defect. -/
theorem settled_validate_iff (f : Form) (members : List (String × Value)) (checks : Checks) :
    Settled (validate (.form f) (.object members) checks) ↔
      ¬∃ before p q after, recordVisit f members = before ++ (p, q) :: after ∧
        (∀ x ∈ before, x.2.ask checks x.1 = .ok ()) ∧ q.Unanswerable := by
  rw [validate_eq_run]
  constructor
  · rintro hs ⟨before, p, q, after, he, hb, hq⟩
    have hn : ¬Settled (q.ask checks p) := fun h => (q.settled_ask_iff checks p).1 h hq
    cases ha : q.ask checks p with
    | ok u => exact hn (.inl ha)
    | error r =>
      have hr := (Visit.run_eq_error_iff checks _ r).2 ⟨before, p, q, after, he, hb, ha⟩
      rw [hr] at hs
      exact hn (ha ▸ hs)
  · intro h
    cases hv : (recordVisit f members).run checks with
    | ok u => exact .inl rfl
    | error r =>
      obtain ⟨before, p, q, after, he, hb, ha⟩ := (Visit.run_eq_error_iff checks _ r).1 hv
      have hq : ¬q.Unanswerable := fun hq => h ⟨before, p, q, after, he, hb, hq⟩
      exact ha ▸ (q.settled_ask_iff checks p).2 hq

/-- A form with an image field and nothing else. -/
def imageForm : Form :=
  { name := "F", createdAt := "2024-01-01T00:00:00+00:00",
    fields := [{ key := "pic", label := "Pic", kind := "image" }] }

/-- The bracket that opens the authority is never closed. -/
theorem not_settled_imageForm :
    ¬Settled (validate (.form imageForm) (.object [("pic", .text "http://[")]) []) := by
  have h : validate (.form imageForm) (.object [("pic", .text "http://[")]) [] =
      .error .authority := rfl
  rw [h]
  exact not_settled_of_error (by simp)

end Formwork.Record
