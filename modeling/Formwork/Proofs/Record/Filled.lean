import Formwork.Proofs.Record.Acceptance
import Formwork.Proofs.Text.Blank
import Formwork.Record.Write

/-!
Required fields. Where a record may be written, every required field at the top of its form is filled
in the way of its kind, but for one gap: an empty list or object counts as there in a field of a kind
that neither has a shape of its own nor is for texts of a format, and an empty list also in an image
field.
-/
namespace Formwork.Record
open Formwork.Text

/-- Whether there is something in a value: a character that is no blank, an item, a member. -/
def HasContent : Value → Prop
  | .null => False
  | .text s => ∃ c ∈ s.toList, isBlank c = false
  | .list items => items ≠ []
  | .object ms => ms ≠ []
  | _ => True

/-- Whether a value is a reference to an image or a list that has one. -/
def HoldsImage (v : Value) : Prop :=
  ∃ u, isImageUrl u = .ok true ∧ (v = u ∨ ∃ items, v = .list items ∧ u ∈ items)

/-- The kinds whose required fields are filled in a way of their own. -/
def shapedKinds : List String := switchKinds ++ listKinds ++ ["object"]

/-- Whether a value fills a field, by the kind of the field. -/
inductive Filled (f : FormField) : Value → Prop
  | switchedOn (hk : f.kind ∈ switchKinds) : Filled f (.bool true)
  | items {items : List Value} (hk : f.kind ∈ listKinds) (hne : items ≠ []) :
      Filled f (.list items)
  | members {ms : List (String × Value)} (hk : f.kind = "object") (hne : ms ≠ []) :
      Filled f (.object ms)
  | content {v : Value} (hk : f.kind ∉ shapedKinds) (hv : HasContent v)
      (himage : f.kind = "image" → HoldsImage v) : Filled f v

/-- Whether a field is for texts of a format, by its kind or by a rule. -/
def AsksFormat (f : FormField) : Prop := ∃ x ∈ textTests, f.kind = x.1 ∨ f.has x.1 = true

/-- The empty values that count as there: nothing that is asked about the field tells them from a
value with content. -/
inductive CountsAsThere (f : FormField) : Value → Prop
  | list (hk : f.kind ∉ shapedKinds) (hf : ¬AsksFormat f) : CountsAsThere f (.list [])
  | object (hk : f.kind ∉ shapedKinds) (hf : ¬AsksFormat f) (hi : f.kind ≠ "image") :
      CountsAsThere f (.object [])

variable {form : Form} {record v : Value} {context : Context} {checks : Checks} {f : FormField}
  {ms : List (String × Value)} {p : Place}

/-! ### The check of required fields -/

theorem fills_of_not_shaped (hk : f.kind ∉ shapedKinds) :
    fills f.kind v = true ↔ HasContent v ∨ v = .list [] ∨ v = .object [] := by
  simp only [shapedKinds, List.mem_append, List.mem_singleton, not_or] at hk
  obtain ⟨⟨hswitch, hlist⟩, hobject⟩ := hk
  rw [fills.eq_def, if_neg (by simpa using hswitch), if_neg (by simpa using hlist), if_neg hobject]
  cases v with
  | text s =>
    have hblank : (strip s.toList).isEmpty = false ↔ ∃ c ∈ s.toList, isBlank c = false := by
      rw [Bool.eq_false_iff, ne_eq, List.isEmpty_iff, strip_eq_nil_iff]
      simp
    simpa [HasContent] using hblank
  | list items => cases items <;> simp [HasContent, Value.isNull]
  | object ms => cases ms <;> simp [HasContent, Value.isNull]
  | _ => simp [HasContent, Value.isNull]

theorem eq_true_of_fills (hk : f.kind ∈ switchKinds) (h : fills f.kind v = true) :
    v = .bool true := by
  rw [fills.eq_def, if_pos (by simpa using hk)] at h
  cases v with
  | bool b => exact congrArg _ h
  | _ => cases h

theorem exists_items_of_fills (hk : f.kind ∈ listKinds) (h : fills f.kind v = true) :
    ∃ items, items ≠ [] ∧ v = .list items := by
  have hswitch : f.kind ∉ switchKinds := by
    intro hs
    simp only [switchKinds, listKinds, List.mem_cons, List.not_mem_nil, or_false] at hk hs
    grind
  rw [fills.eq_def, if_neg (by simpa using hswitch), if_pos (by simpa using hk)] at h
  cases v with
  | list items => exact ⟨items, by simpa using h, rfl⟩
  | _ => cases h

theorem exists_members_of_fills (hk : f.kind = "object") (h : fills f.kind v = true) :
    ∃ ms, ms ≠ [] ∧ v = .object ms := by
  rw [hk, fills.eq_def, if_neg (by decide), if_neg (by decide), if_pos rfl] at h
  cases v with
  | object ms => exact ⟨ms, by simpa using h, rfl⟩
  | _ => cases h

/-- The check passes exactly if every required field is filled. -/
theorem checkRequired_eq_ok_iff :
    checkRequired form (.object ms) = .ok () ↔
      ∀ f ∈ form.fields, f.isRequired = true → fills f.kind (Value.get ms f.key) = true := by
  rw [checkRequired, forM_eq_ok_iff]
  refine forall₂_congr fun f _ => ?_
  have hmember : member (.object ms) f.key = .ok (Value.get ms f.key) := rfl
  cases f.isRequired with
  | false => exact iff_of_true rfl nofun
  | true =>
    rw [if_pos rfl, hmember]
    change (if fills f.kind (Value.get ms f.key) = true then pure () else throw _) = _ ↔ _
    cases fills f.kind (Value.get ms f.key) with
    | false => exact iff_of_false nofun fun h => Bool.false_ne_true (h rfl)
    | true => exact iff_of_true rfl fun _ => rfl

/-! ### The check of shapes -/

/-- A list that is not taken apart, or an object, is of no format. -/
theorem not_asksFormat_of_answered (hv : v = .list [] ∨ v = .object []) (hk : f.kind ∉ shapedKinds)
    (h : (textVisit (ofField f) v p).Answered checks) : ¬AsksFormat f := by
  have harray : f.kind ≠ "array" := fun he => hk (by rw [he]; decide)
  have hruled : ruledValues f v = [v] := by
    rcases hv with rfl | rfl
    · exact if_neg harray
    · rfl
  rintro ⟨x, hx, hasks⟩
  have htest := answered_textVisit.1 h x hx hasks v (by rw [hruled]; exact .head _)
  rcases mem_textTests hx with rfl | rfl <;> rcases hv with rfl | rfl <;> cases htest

theorem requireImage_eq_ok_iff {flaw : Flaw} :
    requireImage p flaw v = .ok () ↔ isImageUrl v = .ok true := by
  refine ⟨fun h => ?_, requireImage_eq_ok⟩
  rw [requireImage] at h
  cases hu : isImageUrl v with
  | error e =>
    rw [hu] at h
    cases h
  | ok holds =>
    rw [hu] at h
    rw [Place.require_eq_ok_iff.1 h]

/-- The value of an image field is an empty list or holds an image. -/
theorem holdsImage_of_answered (h : (imageVisit p v).Answered checks) :
    v = .list [] ∨ HoldsImage v := by
  have hfirst {u : Value} (hu : (imageVisit p v) = [(p, .image .notImage u)]) :
      isImageUrl u = .ok true := by
    rw [hu] at h
    have hask : requireImage p .notImage u = .ok () := h _ (.head _)
    exact requireImage_eq_ok_iff.1 hask
  cases v with
  | list items =>
    cases items with
    | nil => exact .inl rfl
    | cons u items => exact .inr ⟨u, hfirst rfl, .inr ⟨_, rfl, .head _⟩⟩
  | _ => exact .inr ⟨_, hfirst rfl, .inl rfl⟩

/-! ### Both checks of one field -/

theorem Filled.not_countsAsThere (h : Filled f v) : ¬CountsAsThere f v := by
  intro hc
  cases h with
  | switchedOn => cases hc
  | items hk hne =>
    cases hc with
    | list => exact hne rfl
  | members hk hne =>
    cases hc with
    | object => exact hne rfl
  | content _ hv =>
    cases hc with
    | list => exact hv rfl
    | object => exact hv rfl

/-- A field that passes both checks is filled, or holds an empty value that counts as there. -/
theorem filled_or_countsAsThere (hfills : fills f.kind v = true)
    (hshape : (slotVisit p v (ofField f)).Answered checks) : Filled f v ∨ CountsAsThere f v := by
  by_cases hk : f.kind ∈ shapedKinds
  · left
    simp only [shapedKinds, List.mem_append, List.mem_singleton] at hk
    rcases hk with (hk | hk) | hk
    · rw [eq_true_of_fills hk hfills]
      exact .switchedOn hk
    · obtain ⟨items, hne, rfl⟩ := exists_items_of_fills hk hfills
      exact .items hk hne
    · obtain ⟨ms, hne, rfl⟩ := exists_members_of_fills hk hfills
      exact .members hk hne
  · have hthere := (fills_of_not_shaped hk).1 hfills
    have hvoid : isVoid v = false := by
      cases v with
      | null => simp [HasContent] at hthere
      | text s =>
        cases hs : s.isEmpty with
        | false => exact hs
        | true =>
          rw [String.isEmpty_iff] at hs
          subst hs
          simp [HasContent] at hthere
      | _ => rfl
    rw [slotVisit_ofField hvoid, Visit.answered_append, Visit.answered_append] at hshape
    obtain ⟨⟨htext, hkind⟩, -⟩ := hshape
    have himage (hi : f.kind = "image") : v = .list [] ∨ HoldsImage v := by
      have hvisit : kindVisit p f v = imageVisit p v := by
        rw [kindVisit.eq_def, hi]
        rfl
      exact holdsImage_of_answered (hvisit ▸ hkind)
    rcases hthere with hv | hv
    · refine .inl (.content hk hv fun hi => (himage hi).resolve_left ?_)
      rintro rfl
      exact hv rfl
    · have hf := not_asksFormat_of_answered hv hk htext
      rcases hv with rfl | rfl
      · exact .inr (.list hk hf)
      · refine .inr (.object hk hf fun hi => ?_)
        rcases himage hi with hne | ⟨u, hu, rfl | ⟨items, he, -⟩⟩
        · cases hne
        · cases hu
        · cases he

/-- Where a record may be written, it is an object, and a required field at the top of its form is
filled exactly if it does not hold an empty list or object that counts as there. -/
theorem filled_iff_of_checkWrite (h : checkWrite form record context checks = .ok ()) :
    ∃ ms, record = .object ms ∧ ∀ f ∈ form.fields, f.isRequired = true →
      (Filled f (Value.get ms f.key) ↔ ¬CountsAsThere f (Value.get ms f.key)) := by
  obtain ⟨_, hrequired, h⟩ := bind_eq_ok_iff.1 h
  obtain ⟨_, hshape, -⟩ := bind_eq_ok_iff.1 h
  rw [mapError_eq_ok_iff] at hrequired hshape
  cases record with
  | object ms =>
    refine ⟨ms, rfl, fun f hf hr => ⟨Filled.not_countsAsThere, fun hc => ?_⟩⟩
    rw [validate_eq_run, Visit.run_eq_ok_iff] at hshape
    exact (filled_or_countsAsThere (checkRequired_eq_ok_iff.1 hrequired f hf hr)
      (answered_slotsVisit.1 hshape f hf)).resolve_right hc
  | _ => cases hshape

/-- A form that asks whether something is agreed to, for a picture and for a name. -/
def consentForm : Form :=
  { name := "F", createdAt := "2024-01-01T00:00:00+00:00",
    fields := [{ key := "agreed", label := "Agreed", kind := "switch", required := true },
      { key := "pic", label := "Pic", kind := "image", required := true },
      { key := "name", label := "Name", kind := "string", rules := [⟨"required", none, none⟩] }] }

/-- What is agreed to, with an uploaded picture. -/
def consent : List (String × Value) :=
  [("agreed", .bool true), ("pic", .list [.text "/a.png"]), ("name", .text " x ")]

theorem filled_consentForm :
    checkWrite consentForm (.object consent) {} [] = .ok () ∧
      ∃ ms, Value.object consent = .object ms ∧
        ∀ f ∈ consentForm.fields, f.isRequired = true → Filled f (Value.get ms f.key) := by
  have hwrite : checkWrite consentForm (.object consent) {} [] = .ok () := by decide +kernel
  obtain ⟨ms, hms, hfilled⟩ := filled_iff_of_checkWrite hwrite
  refine ⟨hwrite, ms, hms, fun f hf hr => (hfilled f hf hr).2 ?_⟩
  obtain rfl := Value.object.inj hms
  simp only [consentForm, List.mem_cons, List.not_mem_nil, or_false] at hf
  rcases hf with rfl | rfl | rfl <;> exact nofun

/-! ### The gap -/

theorem CountsAsThere.fills (hc : CountsAsThere f v) : fills f.kind v = true := by
  cases hc with
  | list hk => exact (fills_of_not_shaped hk).2 (.inr (.inl rfl))
  | object hk => exact (fills_of_not_shaped hk).2 (.inr (.inr rfl))

theorem CountsAsThere.kindVisit_eq (hc : CountsAsThere f v) : kindVisit p f v = [] := by
  have hk : f.kind ∉ shapedKinds := by cases hc <;> assumption
  have hne {kind : String} (hs : kind ∈ shapedKinds) : f.kind ≠ kind := fun he => hk (he ▸ hs)
  rw [kindVisit.eq_def]
  split
  · next hi =>
    cases hc with
    | list => rfl
    | object _ _ hni => exact absurd hi hni
  · next hi => exact absurd hi (hne (by decide))
  · next hi => exact absurd hi (hne (by decide))
  · next hi _ => exact absurd hi (hne (by decide))
  · next hi => exact absurd hi (hne (by decide))
  · rfl

/-- The gap is there for every such field: a form of this field alone takes the empty value, unless a
rule of the field refuses it. -/
theorem checkWrite_of_countsAsThere (hc : CountsAsThere f v) (hu : f.uniqueKey = false)
    (hr : ∀ r ∈ f.rules, checkRule checks v (Place.root.field (ofField f)) r = .ok ()) :
    checkWrite { form with fields := [f] } (.object [(f.key, v)]) context checks = .ok () := by
  have hget : Value.get [(f.key, v)] f.key = v := by simp [Value.get, Value.find?]
  have hrequired : checkRequired { form with fields := [f] } (.object [(f.key, v)]) = .ok () := by
    refine checkRequired_eq_ok_iff.2 (List.forall_mem_singleton.2 fun _ => ?_)
    rw [hget]
    exact hc.fills
  have hvoid : isVoid v = false := by cases hc <;> rfl
  have hformat : ¬AsksFormat f := by cases hc <;> assumption
  have hshape : validate (.form { form with fields := [f] }) (.object [(f.key, v)]) checks =
      .ok () := by
    rw [validate_eq_run, Visit.run_eq_ok_iff]
    refine answered_slotsVisit.2 (List.forall_mem_singleton.2 ?_)
    rw [hget, slotVisit_ofField hvoid, hc.kindVisit_eq, List.append_nil, Visit.answered_append]
    exact ⟨answered_textVisit.2 fun x hx hasks => absurd ⟨x, hx, hasks⟩ hformat,
      List.forall_mem_map.2 hr⟩
  have hkey : uniqueKey? { form with fields := [f] } = none := by
    simp [uniqueKey?, hu]
  rw [checkWrite, hrequired, hshape, checkUniqueKey, hkey]
  rfl

/-- A picture, which is required. -/
def pictureField : FormField := { key := "pic", label := "Pic", kind := "image", required := true }

/-- The picture may be missing where it is required: a list without pictures counts as one. -/
theorem not_filled_pictureField :
    ¬ ∀ (form : Form) (record : Value) (context : Context) (checks : Checks),
      checkWrite form record context checks = .ok () → ∃ ms, record = .object ms ∧
        ∀ f ∈ form.fields, f.isRequired = true → Filled f (Value.get ms f.key) := by
  intro h
  have hc : CountsAsThere pictureField (.list []) := by
    refine .list (by decide) ?_
    rintro ⟨x, hx, hasks⟩
    rcases mem_textTests hx with rfl | rfl <;> revert hasks <;> decide
  have hwrite : checkWrite { consentForm with fields := [pictureField] }
      (.object [("pic", .list [])]) {} [] = .ok () := checkWrite_of_countsAsThere hc rfl nofun
  obtain ⟨ms, hms, hfilled⟩ := h _ _ _ _ hwrite
  obtain rfl := Value.object.inj hms
  exact (hfilled pictureField (.head _) rfl).not_countsAsThere hc

end Formwork.Record
