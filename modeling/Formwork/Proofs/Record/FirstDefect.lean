import Formwork.Proofs.Record.Defects

/-!
Validation finds the first defect of a record. Every part of a visit finds the first of the defects
that it is about, and of parts that come one after the other, each with an index of its own, the
whole finds the first.
-/
namespace Formwork.Record

/-- The defect of the record for a defect that is found from a place on. -/
def Place.found (p : Place) (e : Defect) : Defect :=
  ⟨e.flaw, p.path ++ e.path, p.labels ++ e.labels⟩

/-- An outcome tells of the first of some defects, each with the turn at which it stands. -/
structure Finds (At : Turn → Defect → Prop) (p : Place) (outcome : Except Refusal Unit) : Prop where
  none : outcome = .ok () → ∀ t e, ¬At t e
  first : ∀ d, outcome = .error (.defect d) →
    ∃ t e, d = p.found e ∧ At t e ∧ ∀ u < t, ∀ e', ¬At u e'

/-- Flaws of the value at a place itself. -/
inductive Own (Is : Flaw → Prop) : Turn → Defect → Prop
  | mk {flaw : Flaw} (h : Is flaw) : Own Is [] ⟨flaw, [], []⟩

theorem Own.self {flaw : Flaw} : Own (· = flaw) [] ⟨flaw, [], []⟩ := .mk rfl

/-- Defects of parts by the index of the part. -/
def Each (At : Nat → Turn → Defect → Prop) (t : Turn) (e : Defect) : Prop :=
  ∃ i u, t = i :: u ∧ At i u e

/-- Defects of the items of a list. -/
def Among {α : Type} (xs : List α) (B : Nat → α → Turn → Defect → Prop) : Turn → Defect → Prop :=
  Each fun i t e => ∃ a, xs[i]? = some a ∧ B i a t e

/-- Defects seen from further up. -/
inductive Lifted (lift : Defect → Defect) (At : Turn → Defect → Prop) : Turn → Defect → Prop
  | mk {t : Turn} {e : Defect} (h : At t e) : Lifted lift At t (lift e)

variable {At At' : Turn → Defect → Prop} {A : Nat → Turn → Defect → Prop} {p : Place}
  {x y : Except Refusal Unit} {α : Type} {B : Nat → α → Turn → Defect → Prop}

namespace Finds

theorem congr (h : Finds At p x) (he : ∀ t e, At t e ↔ At' t e) : Finds At' p x := by
  obtain rfl : At = At' := funext fun t => funext fun e => propext (he t e)
  exact h

theorem ok (h : ∀ t e, ¬At t e) : Finds At p (.ok ()) := ⟨fun _ => h, nofun⟩

theorem own {Is : Flaw → Prop} (hfails : ∀ flaw, Is flaw → x = p.fail flaw)
    (his : ∀ d, x = .error (.defect d) → ∃ flaw, Is flaw ∧ d = ⟨flaw, p.path, p.labels⟩) :
    Finds (Own Is) p x := by
  constructor
  · rintro hx t e ⟨h⟩
    cases hx.symm.trans (hfails _ h)
  · intro d hd
    obtain ⟨flaw, hflaw, rfl⟩ := his d hd
    refine ⟨[], ⟨flaw, [], []⟩, ?_, .mk hflaw, fun u hu => absurd hu (List.not_lt_nil u)⟩
    simp [Place.found]

theorem fail (flaw : Flaw) : Finds (Own (· = flaw)) p (p.fail flaw) := by
  apply own
  · rintro _ rfl
    rfl
  · intro d hd
    cases hd
    exact ⟨flaw, rfl, rfl⟩

theorem require {flaw : Flaw} {holds : Bool} :
    Finds (Own fun f => holds = false ∧ f = flaw) p (p.require flaw holds) := by
  cases holds with
  | true => exact ok fun t e ⟨h⟩ => nomatch h.1
  | false => exact (fail flaw).congr fun t e => by simp

theorem lifted {q : Place} {lift : Defect → Defect} (h : Finds At q x)
    (hq : ∀ e, q.found e = p.found (lift e)) : Finds (Lifted lift At) p x := by
  constructor
  · rintro hx t e ⟨he⟩
    exact h.none hx _ _ he
  · intro d hd
    obtain ⟨t, e, rfl, he, hfirst⟩ := h.first d hd
    refine ⟨t, lift e, hq e, .mk he, ?_⟩
    rintro u hu e' ⟨he'⟩
    exact hfirst u hu _ he'

theorem inItem {i : Nat} (h : Finds At (p.item i) x) : Finds (Lifted (·.inItem i) At) p x :=
  h.lifted fun e => by simp [Place.found, Place.item, Defect.inItem]

theorem inField {slot : Slot} (h : Finds At (p.field slot) x) :
    Finds (Lifted (·.inField slot) At) p x :=
  h.lifted fun e => by simp [Place.found, Place.field, Defect.inField]

/-- The first part, and then the others: their defects stand at later turns. -/
theorem cons (hx : Finds (A 0) p x) (hy : Finds (Each fun i => A (i + 1)) p y) :
    Finds (Each A) p (do x; y) := by
  cases x with
  | error r =>
    refine ⟨nofun, fun d hd => ?_⟩
    obtain rfl : r = .defect d := by
      cases hd
      rfl
    obtain ⟨t, e, he, hat, hfirst⟩ := hx.first d rfl
    refine ⟨0 :: t, e, he, ⟨0, t, rfl, hat⟩, ?_⟩
    rintro - hu e' ⟨i, u, rfl, h⟩
    -- An earlier turn is one of the first part too, for no index is below 0.
    rcases List.cons_lt_cons_iff.1 hu with hi | ⟨rfl, hut⟩
    · exact absurd hi (Nat.not_lt_zero i)
    · exact hfirst u hut e' h
  | ok a =>
    have hnone := hx.none rfl
    constructor
    · rintro hok - e ⟨i, t, rfl, h⟩
      cases i with
      | zero => exact hnone t e h
      | succ i => exact hy.none hok _ e ⟨i, t, rfl, h⟩
    · intro d hd
      obtain ⟨-, e, he, ⟨i, t, rfl, hat⟩, hfirst⟩ := hy.first d hd
      refine ⟨(i + 1) :: t, e, he, ⟨i + 1, t, rfl, hat⟩, ?_⟩
      rintro - hu e' ⟨j, u, rfl, h⟩
      cases j with
      | zero => exact hnone u e' h
      | succ j =>
        refine hfirst (j :: u) ?_ e' ⟨j, u, rfl, h⟩
        rcases List.cons_lt_cons_iff.1 hu with hij | ⟨hij, hu⟩
        · exact List.cons_lt_cons_iff.2 (.inl (Nat.lt_of_succ_lt_succ hij))
        · exact List.cons_lt_cons_iff.2 (.inr ⟨Nat.succ.inj hij, hu⟩)

/-- The last part. -/
theorem last (hx : Finds (A 0) p x) (h : ∀ i t e, ¬A (i + 1) t e) : Finds (Each A) p x := by
  have hx' : (do x; Except.ok ()) = x := by cases x <;> rfl
  rw [← hx']
  apply hx.cons
  apply ok
  rintro - e ⟨i, t, rfl, he⟩
  exact h i t e he

theorem forM {xs : List α} {f : α → Except Refusal Unit}
    (h : ∀ i a, xs[i]? = some a → Finds (B i a) p (f a)) : Finds (Among xs B) p (xs.forM f) := by
  induction xs generalizing B with
  | nil =>
    apply ok
    rintro - e ⟨i, t, rfl, a, ha, -⟩
    cases ha
  | cons a xs ih =>
    -- The items behind the first have defects of their own, so `B` moves on with the index.
    apply Finds.cons
    · refine (h 0 a rfl).congr fun t e => ⟨fun hb => ⟨a, rfl, hb⟩, ?_⟩
      rintro ⟨b, hb, he⟩
      cases hb
      exact he
    · exact ih fun i b hb => h (i + 1) b hb

/-- The items of a list with their indices. -/
theorem forM_zipIdx {xs : List α} {f : α × Nat → Except Refusal Unit}
    (h : ∀ i a, xs[i]? = some a → Finds (B i a) p (f (a, i))) :
    Finds (Among xs B) p (xs.zipIdx.forM f) := by
  have hall : Finds (Among xs.zipIdx fun i a => B i a.1) p (xs.zipIdx.forM f) := by
    apply forM
    intro i a ha
    obtain ⟨b, hb, rfl⟩ := by simpa [List.getElem?_zipIdx] using ha
    exact h i b hb
  refine hall.congr fun t e => ⟨?_, ?_⟩
  · rintro ⟨i, u, rfl, a, ha, he⟩
    obtain ⟨b, hb, rfl⟩ := by simpa [List.getElem?_zipIdx] using ha
    exact ⟨i, u, rfl, b, hb, he⟩
  · rintro ⟨i, u, rfl, a, ha, he⟩
    exact ⟨i, u, rfl, (a, i), by simp [List.getElem?_zipIdx, ha], he⟩

end Finds

/-! ### The parts of a field -/

variable {checks : Checks} {slot : Slot} {v : Value}

theorem Place.require_eq_error_iff {flaw : Flaw} {holds : Bool} {d : Defect} :
    p.require flaw holds = .error (.defect d) ↔ holds = false ∧ d = ⟨flaw, p.path, p.labels⟩ := by
  cases holds with
  | true => simp [require]
  | false => simp [require, fail, eq_comm]

theorem forM_map_filter {β : Type} (q : α → Bool) (g : α → β) (f : β → Except Refusal Unit)
    (xs : List α) :
    ((xs.filter q).map g).forM f = xs.forM fun a => if q a then f (g a) else .ok () := by
  induction xs with
  | nil => rfl
  | cons a xs ih =>
    cases hq : q a with
    | true =>
      rw [List.filter_cons_of_pos hq, List.map_cons]
      simp only [List.forM_eq_forM, List.forM_cons, hq, ↓reduceIte] at ih ⊢
      rw [ih]
    | false =>
      rw [List.filter_cons_of_neg (by simp [hq])]
      simp only [List.forM_eq_forM, List.forM_cons, hq] at ih ⊢
      rw [ih]
      rfl

/-- The texts of a value that are flawed. -/
def TextsAre (kind : String) (v : Value) (Is : Value → Flaw → Prop) (t : Turn) (e : Defect) :
    Prop :=
  ∃ part w flaw, TextOf kind v t part w ∧ Is w flaw ∧ e = ⟨flaw, part, []⟩

theorem finds_texts {kind : String} {Is : Value → Flaw → Prop}
    {ask : Place × Value → Except Refusal Unit} (h : ∀ q w, Finds (Own (Is w)) q (ask (q, w))) :
    Finds (TextsAre kind v Is) p ((textsOf kind v p).forM ask) := by
  by_cases ha : kind = "array" → ∀ items, v ≠ .list items
  · rw [textsOf_whole ha]
    have hone : [(p, v)].forM ask = ask (p, v) := by
      rw [List.forM_eq_forM, List.forM_cons]
      cases ask (p, v) <;> rfl
    rw [hone]
    refine (h p v).congr fun t e => ⟨?_, ?_⟩
    · rintro ⟨hf⟩
      exact ⟨[], v, _, .whole ha, hf, rfl⟩
    · rintro ⟨part, w, flaw, ht, hf, rfl⟩
      cases ht with
      | whole => exact .mk hf
      | item hk hv => exact absurd hv (ha hk _)
  · simp only [Classical.not_imp, Classical.not_forall, not_not] at ha
    obtain ⟨rfl, items, rfl⟩ := ha
    -- Void items are skipped, but they count for the indices of the others.
    rw [textsOf_array, forM_map_filter]
    have hall : Finds
        (Among items fun i w t e => isVoid w = false ∧ Lifted (·.inItem i) (Own (Is w)) t e) p
        (items.zipIdx.forM fun x => if !isVoid x.1 then ask (p.item x.2, x.1) else .ok ()) := by
      apply Finds.forM_zipIdx
      intro i w hw
      cases hv : isVoid w with
      | true => exact .ok fun t e hf => nomatch hf.1
      | false => exact (h (p.item i) w).inItem.congr fun t e => (and_iff_right rfl).symm
    refine hall.congr fun t e => ⟨?_, ?_⟩
    · rintro ⟨i, -, rfl, w, hi, hw, ⟨⟨hf⟩⟩⟩
      exact ⟨[.index i], w, _, .item rfl rfl hi hw, hf, rfl⟩
    · rintro ⟨part, w, flaw, ht, hf, rfl⟩
      cases ht with
      | whole hk => exact absurd rfl (hk rfl items)
      | item hk hv hi hw =>
        cases hv
        exact ⟨_, [], rfl, w, hi, hw, Lifted.mk (Own.mk hf)⟩

/-- A check of texts that is made only where it is asked for. -/
theorem finds_textCheck {kind : String} {asks : Bool} {Is : Value → Flaw → Prop}
    {ask : Place × Value → Except Refusal Unit} (h : ∀ q w, Finds (Own (Is w)) q (ask (q, w))) :
    Finds (fun t e => asks = true ∧ TextsAre kind v Is t e) p
      (if asks then (textsOf kind v p).forM ask else .ok ()) := by
  cases asks with
  | true => exact (finds_texts h).congr fun t e => (and_iff_right rfl).symm
  | false => exact .ok fun t e hf => nomatch hf.1

/-- Defects of a field in the part of it with a number. -/
def PartDefect (checks : Checks) (slot : Slot) (v : Value) (i : Nat) (t : Turn) (e : Defect) :
    Prop :=
  ∃ w, FieldDefect checks slot v (i :: t) w e

theorem finds_checkJson (hv : isVoid v = false) :
    Finds (PartDefect checks slot v 0) p (checkJson slot v p) := by
  refine (finds_textCheck fun q w => .require).congr fun t e => ⟨?_, ?_⟩
  · rintro ⟨hk, part, w, flaw, hw, ⟨h, rfl⟩, rfl⟩
    exact ⟨w, .own hv (.json (by simpa using hk) hw h)⟩
  · rintro ⟨w, hf⟩
    cases hf with
    | own _ h =>
      cases h with
      | json hk hw h => exact ⟨by simpa using hk, _, w, _, hw, ⟨h, rfl⟩, rfl⟩

theorem finds_requireMarkdown {q : Place} {w : Value} :
    Finds (Own (BreaksMarkdown w)) q (requireMarkdown q w) := by
  apply Finds.own
  · intro flaw h
    cases h with
    | notText h =>
      cases w with
      | text s => exact absurd rfl (h s)
      | _ => rfl
    | fence h => simp [requireMarkdown, Value.text?, h, Place.require]
  · intro d hd
    cases w with
    | text s =>
      obtain ⟨h, rfl⟩ := Place.require_eq_error_iff.1 hd
      exact ⟨_, .fence h, rfl⟩
    | _ =>
      cases hd
      exact ⟨_, .notText (by simp), rfl⟩

theorem finds_checkMarkdown (hv : isVoid v = false) :
    Finds (PartDefect checks slot v 1) p (checkMarkdown slot v p) := by
  rw [checkMarkdown_eq]
  refine (finds_textCheck fun q w => finds_requireMarkdown).congr fun t e => ⟨?_, ?_⟩
  · rintro ⟨hk, part, w, flaw, hw, h, rfl⟩
    exact ⟨w, .own hv (.markdown (by simpa using hk) hw h)⟩
  · rintro ⟨w, hf⟩
    cases hf with
    | own _ h =>
      cases h with
      | markdown hk hw h => exact ⟨by simpa using hk, _, w, _, hw, h, rfl⟩

theorem checkRule_of_not_mem {r : Rule} (h : r.type ∉ Rule.builtin) :
    checkRule checks v p r = checkNamed checks r.type r v p := by
  have hne (type : String) (hm : type ∈ Rule.builtin) : r.type ≠ type := fun ht => h (ht ▸ hm)
  rw [checkRule.eq_def]
  split
  · next ht => exact absurd ht (hne "pattern" (by decide))
  · next ht => exact absurd ht (hne "min" (by decide))
  · next ht => exact absurd ht (hne "max" (by decide))
  · next ht => exact absurd ht (hne "custom" (by decide))
  · exact if_neg (by simpa using h)

theorem checkNamed_eq_error {name : String} {r : Rule} {d : Defect}
    (h : checkNamed checks name r v p = .error (.defect d)) :
    ∃ check, checks.lookup name = some check ∧ check v r.value = false ∧
      d = ⟨.failedCheck name, p.path, p.labels⟩ := by
  rw [checkNamed] at h
  split at h
  · next check hc => exact ⟨check, hc, Place.require_eq_error_iff.1 h⟩
  · cases h

theorem finds_checkRule (r : Rule) :
    Finds (Own (BreaksRule checks v r)) p (checkRule checks v p r) := by
  apply Finds.own
  · intro flaw h
    cases h with
    | pattern ht hne hr h => simp [checkRule, ht, checkPattern, hne, hr, h, Place.require]
    | min ht hs hb h => simp [checkRule, ht, checkMin, hs, hb, h, Place.require]
    | max ht hs hb h => simp [checkRule, ht, checkMax, hs, hb, h, Place.require]
    | custom ht hne hc h => simp [checkRule, ht, hne, checkNamed, hc, h, Place.require]
    | other ht hc h => simp [checkRule_of_not_mem ht, checkNamed, hc, h, Place.require]
  · intro d hd
    rw [checkRule.eq_def] at hd
    split at hd
    · next ht =>
      rw [checkPattern.eq_def] at hd
      split at hd
      · split at hd
        · cases hd
        · next s hne =>
          split at hd
          · next node hr =>
            obtain ⟨h, rfl⟩ := Place.require_eq_error_iff.1 hd
            exact ⟨_, .pattern ht (by simpa using hne) hr h, rfl⟩
          · cases hd
          · cases hd
      · cases hd
    · next ht =>
      rw [checkMin] at hd
      split at hd
      · next size bound hs hb =>
        obtain ⟨h, rfl⟩ := Place.require_eq_error_iff.1 hd
        exact ⟨_, .min ht hs hb (by simpa using h), rfl⟩
      · cases hd
    · next ht =>
      rw [checkMax] at hd
      split at hd
      · next size bound hs hb =>
        obtain ⟨h, rfl⟩ := Place.require_eq_error_iff.1 hd
        exact ⟨_, .max ht hs hb (by simpa using h), rfl⟩
      · cases hd
    · next ht =>
      dsimp only at hd
      split at hd
      · cases hd
      · next hne =>
        obtain ⟨check, hc, h, rfl⟩ := checkNamed_eq_error hd
        exact ⟨_, .custom ht (by simpa using hne) hc h, rfl⟩
    · split at hd
      · cases hd
      · next ht =>
        obtain ⟨check, hc, h, rfl⟩ := checkNamed_eq_error hd
        exact ⟨_, .other (by simpa using ht) hc h, rfl⟩

theorem finds_rules (hv : isVoid v = false) :
    Finds (PartDefect checks slot v 3) p (slot.rules.forM (checkRule checks v p)) := by
  have hall : Finds (Among slot.rules fun _ r => Own (BreaksRule checks v r)) p
      (slot.rules.forM (checkRule checks v p)) := .forM fun _ r _ => finds_checkRule r
  refine hall.congr fun t e => ⟨?_, ?_⟩
  · rintro ⟨i, -, rfl, r, hr, ⟨h⟩⟩
    exact ⟨v, .own hv (.rule hr h)⟩
  · rintro ⟨w, hf⟩
    cases hf with
    | own _ h =>
      cases h with
      | rule hr h => exact ⟨_, [], rfl, _, hr, .mk h⟩

/-! ### Kinds -/

theorem finds_requireImage {flaw : Flaw} :
    Finds (Own fun f => isImageUrl v = .ok false ∧ f = flaw) p (requireImage p flaw v) := by
  cases hi : isImageUrl v with
  | ok holds =>
    simp only [requireImage, hi]
    exact Finds.require.congr fun t e => by simp
  | error r =>
    simp only [requireImage, hi]
    apply Finds.own
    · rintro f ⟨h, -⟩
      cases h
    · intro d hd
      cases hd

/-- A kind without children has its own defects only. -/
theorem partDefect_two_iff (hv : isVoid v = false) (hobject : slot.kind ≠ "object")
    (hrows : slot.kind ≠ "array<object>") (t : Turn) (e : Defect) :
    PartDefect checks slot v 2 t e ↔
      ∃ part w flaw, BreaksKind slot.kind v t part w flaw ∧ e = ⟨flaw, part, []⟩ := by
  constructor
  · rintro ⟨w, hf⟩
    cases hf with
    | own _ h =>
      cases h with
      | kind h => exact ⟨_, w, _, h, rfl⟩
    | object hk => exact absurd hk hobject
    | row hk => exact absurd hk hrows
  · rintro ⟨part, w, flaw, h, rfl⟩
    exact ⟨w, .own hv (.kind h)⟩

theorem finds_image (hv : isVoid v = false) (hk : slot.kind = "image") :
    Finds (PartDefect checks slot v 2) p (checkKind checks slot v p) := by
  have hone : checkImage v p = (imageOf v).elim (.ok ()) (requireImage p .notImage) := by
    cases v with
    | list items => cases items <;> rfl
    | _ => rfl
  have hall : Finds (Own fun f => (∃ x, imageOf v = some x ∧ isImageUrl x = .ok false) ∧
      f = .notImage) p (checkImage v p) := by
    rw [hone]
    cases imageOf v with
    | none =>
      apply Finds.ok
      rintro - - ⟨⟨x, hx, -⟩, -⟩
      cases hx
    | some x => exact finds_requireImage.congr fun t e => by simp
  rw [checkKind_image hk]
  refine hall.congr fun t e => ?_
  rw [partDefect_two_iff hv (by simp [hk]) (by simp [hk])]
  constructor
  · rintro ⟨⟨x, hx, h⟩, rfl⟩
    exact ⟨[], v, _, .image hk hx h, rfl⟩
  · rintro ⟨part, w, flaw, h, rfl⟩
    cases h with
    | image _ hx h => exact .mk ⟨⟨_, hx, h⟩, rfl⟩
    | imageList hk' | imageItem hk' | object hk' | objectList hk' | row hk' => simp [hk] at hk'

theorem finds_images (hv : isVoid v = false) (hk : slot.kind = "array-image") :
    Finds (PartDefect checks slot v 2) p (checkKind checks slot v p) := by
  have hobject : slot.kind ≠ "object" := by simp [hk]
  have hrows : slot.kind ≠ "array<object>" := by simp [hk]
  rw [checkKind_images hk]
  by_cases hl : ∃ items, v = .list items
  · obtain ⟨items, rfl⟩ := hl
    have hall : Finds
        (Among items fun i w =>
          Lifted (·.inItem i) (Own fun f => isImageUrl w = .ok false ∧ f = .notImageItem i)) p
        (checkImages (.list items) p) :=
      .forM_zipIdx fun i w hw => finds_requireImage.inItem
    refine hall.congr fun t e => ?_
    rw [partDefect_two_iff hv hobject hrows]
    constructor
    · rintro ⟨i, -, rfl, w, hi, ⟨⟨h, rfl⟩⟩⟩
      exact ⟨_, w, _, .imageItem hk rfl hi h, rfl⟩
    · rintro ⟨part, w, flaw, h, rfl⟩
      cases h with
      | imageList _ h => exact absurd rfl (h items)
      | imageItem _ hv hi h =>
        cases hv
        exact ⟨_, [], rfl, w, hi, Lifted.mk (Own.mk ⟨h, rfl⟩)⟩
      | image hk' | object hk' | objectList hk' | row hk' => simp [hk] at hk'
  · have hfail : checkImages v p = p.fail .notImageList := by
      cases v with
      | list items => exact absurd ⟨items, rfl⟩ hl
      | _ => rfl
    rw [hfail]
    refine (Finds.fail _).congr fun t e => ?_
    rw [partDefect_two_iff hv hobject hrows]
    constructor
    · rintro ⟨rfl⟩
      exact ⟨[], v, _, .imageList hk fun items he => hl ⟨items, he⟩, rfl⟩
    · rintro ⟨part, w, flaw, h, rfl⟩
      cases h with
      | imageList => exact .mk rfl
      | imageItem _ hv => exact absurd ⟨_, hv⟩ hl
      | image hk' | object hk' | objectList hk' | row hk' => simp [hk] at hk'

/-- Defects among the members of an object. -/
def MemberDefect (checks : Checks) (slots : List Slot) (ms : List (String × Value)) (t : Turn)
    (e : Defect) : Prop :=
  ∃ w, DefectAt checks slots ms t w e

theorem finds_object (hv : isVoid v = false) (hk : slot.kind = "object")
    (ih : ∀ p ms, Finds (MemberDefect checks slot.children ms) p
      (checkSlots checks p ms slot.children)) :
    Finds (PartDefect checks slot v 2) p (checkKind checks slot v p) := by
  by_cases ho : ∃ ms, v = .object ms
  · obtain ⟨ms, rfl⟩ := ho
    rw [checkKind_object hk]
    refine (ih p ms).congr fun t e => ⟨fun ⟨w, h⟩ => ⟨w, .object hk h⟩, ?_⟩
    rintro ⟨w, hf⟩
    cases hf with
    | own _ h =>
      cases h with
      | kind h =>
        cases h with
        | object _ h => exact absurd rfl (h ms)
        | image hk' | imageList hk' | imageItem hk' | objectList hk' | row hk' => simp [hk] at hk'
    | object _ h => exact ⟨w, h⟩
    | row hk' => simp [hk] at hk'
  · have hno (ms : List (String × Value)) : v ≠ .object ms := fun he => ho ⟨ms, he⟩
    rw [checkKind_notObject hk hno]
    refine (Finds.fail _).congr fun t e => ⟨?_, ?_⟩
    · rintro ⟨rfl⟩
      exact ⟨v, .own hv (.kind (.object hk hno))⟩
    · rintro ⟨w, hf⟩
      cases hf with
      | own _ h =>
        cases h with
        | kind h =>
          cases h with
          | object => exact .mk rfl
          | image hk' | imageList hk' | imageItem hk' | objectList hk' | row hk' =>
            simp [hk] at hk'
      | object => exact absurd rfl (hno _)
      | row hk' => simp [hk] at hk'

/-- A row that is an object has the defects of its members, any other one is itself a defect. -/
def RowDefect (At : List (String × Value) → Turn → Defect → Prop) (i : Nat) (row : Value) (t : Turn)
    (e : Defect) : Prop :=
  (∃ ms, row = .object ms ∧ Lifted (·.inItem i) (At ms) t e) ∨
    (∀ ms, row ≠ .object ms) ∧ Lifted (·.inItem i) (Own (· = .notRow i)) t e

theorem finds_checkRow {check : Place → List (String × Value) → Except Refusal Unit}
    {At : List (String × Value) → Turn → Defect → Prop}
    (h : ∀ p ms, Finds (At ms) p (check p ms)) (i : Nat) (row : Value) :
    Finds (RowDefect At i row) p (checkRow check p (row, i)) := by
  by_cases ho : ∃ ms, row = .object ms
  · obtain ⟨ms, rfl⟩ := ho
    refine (h (p.item i) ms).inItem.congr fun t e => ⟨fun h => .inl ⟨ms, rfl, h⟩, ?_⟩
    rintro (⟨ns, hn, h⟩ | ⟨hn, -⟩)
    · cases hn
      exact h
    · exact absurd rfl (hn ms)
  · have hno (ms : List (String × Value)) : row ≠ .object ms := fun he => ho ⟨ms, he⟩
    rw [checkRow_eq_fail check hno]
    refine (Finds.fail _).inItem.congr fun t e => ⟨fun h => .inr ⟨hno, h⟩, ?_⟩
    rintro (⟨ms, hm, -⟩ | ⟨-, h⟩)
    · exact absurd hm (hno ms)
    · exact h

theorem finds_rows (hv : isVoid v = false) (hk : slot.kind = "array<object>")
    (ih : ∀ p ms, Finds (MemberDefect checks slot.children ms) p
      (checkSlots checks p ms slot.children)) :
    Finds (PartDefect checks slot v 2) p (checkKind checks slot v p) := by
  cases hr : rows? v with
  | none =>
    rw [checkKind_noRows hk hr]
    refine (Finds.fail _).congr fun t e => ⟨?_, ?_⟩
    · rintro ⟨rfl⟩
      exact ⟨v, .own hv (.kind (.objectList hk hr))⟩
    · rintro ⟨w, hf⟩
      cases hf with
      | own _ h =>
        cases h with
        | kind h =>
          cases h with
          | objectList => exact .mk rfl
          | row _ hr' => cases hr.symm.trans hr'
          | image hk' | imageList hk' | imageItem hk' | object hk' => simp [hk] at hk'
      | object hk' => simp [hk] at hk'
      | row _ hr' => cases hr.symm.trans hr'
  | some rows =>
    rw [checkKind_rows hk hr]
    have hall : Finds _ p _ := .forM_zipIdx fun i row (_ : rows[i]? = some row) =>
      finds_checkRow ih i row
    refine hall.congr fun t e => ⟨?_, ?_⟩
    · rintro ⟨i, u, rfl, row, hi, ⟨ms, rfl, ⟨w, h⟩⟩ | ⟨hn, ⟨⟨rfl⟩⟩⟩⟩
      · exact ⟨w, .row hk hr hi h⟩
      · exact ⟨row, .own hv (.kind (.row hk hr hi hn))⟩
    · rintro ⟨w, hf⟩
      cases hf with
      | own _ h =>
        cases h with
        | kind h =>
          cases h with
          | objectList _ hr' => cases hr.symm.trans hr'
          | row _ hr' hi h =>
            cases hr.symm.trans hr'
            exact ⟨_, [], rfl, w, hi, .inr ⟨h, Lifted.mk Own.self⟩⟩
          | image hk' | imageList hk' | imageItem hk' | object hk' => simp [hk] at hk'
      | object hk' => simp [hk] at hk'
      | row _ hr' hi h =>
        cases hr.symm.trans hr'
        exact ⟨_, _, rfl, _, hi, .inl ⟨_, rfl, Lifted.mk ⟨w, h⟩⟩⟩

theorem finds_checkKind (hv : isVoid v = false)
    (ih : ∀ p ms, Finds (MemberDefect checks slot.children ms) p
      (checkSlots checks p ms slot.children)) :
    Finds (PartDefect checks slot v 2) p (checkKind checks slot v p) := by
  by_cases himage : slot.kind = "image"
  · exact finds_image hv himage
  by_cases himages : slot.kind = "array-image"
  · exact finds_images hv himages
  by_cases hobject : slot.kind = "object"
  · exact finds_object hv hobject ih
  by_cases hrows : slot.kind = "array<object>"
  · exact finds_rows hv hrows ih
  · rw [checkKind_of_not_mem (by simp [askingKinds, himage, himages, hobject, hrows])]
    apply Finds.ok
    intro t e
    rw [partDefect_two_iff hv hobject hrows]
    rintro ⟨part, w, flaw, h, -⟩
    cases h with
    | image hk => exact himage hk
    | imageList hk | imageItem hk => exact himages hk
    | object hk => exact hobject hk
    | objectList hk | row hk => exact hrows hk

/-! ### Fields -/

theorem FieldDefect.exists_cons {t : Turn} {w : Value} {e : Defect}
    (h : FieldDefect checks slot v t w e) : ∃ i u, t = i :: u ∧ i < 4 := by
  cases h with
  | own _ h =>
    cases h with
    | json | markdown | kind | rule => exact ⟨_, _, rfl, by decide⟩
  | object | row => exact ⟨_, _, rfl, by decide⟩

mutual

theorem finds_checkSlot (checks : Checks) (p : Place) (v : Value) : (slot : Slot) →
    Finds (fun t e => ∃ w, FieldDefect checks slot v t w e) p (checkSlot checks p v slot)
  | ⟨key, label, kind, rules, children⟩ => by
    have ih (p ms) := finds_checkSlots checks p ms children
    cases hv : isVoid v with
    | true =>
      rw [checkSlot_of_isVoid hv]
      apply Finds.ok
      rintro t e ⟨w, h⟩
      cases hv.symm.trans h.isVoid_eq_false
    | false =>
      rw [checkSlot_eq hv]
      -- The rules are the last of four parts.
      have hend (i : Nat) (t : Turn) (e : Defect) :
          ¬PartDefect checks ⟨key, label, kind, rules, children⟩ v (i + 4) t e := by
        rintro ⟨w, h⟩
        obtain ⟨j, u, hj, hlt⟩ := h.exists_cons
        cases hj
        omega
      have hall : Finds (Each (PartDefect checks ⟨key, label, kind, rules, children⟩ v)) p _ :=
        (finds_checkJson hv).cons ((finds_checkMarkdown hv).cons
          ((finds_checkKind hv ih).cons ((finds_rules hv).last hend)))
      refine hall.congr fun t e => ⟨?_, ?_⟩
      · rintro ⟨i, u, rfl, h⟩
        exact h
      · rintro ⟨w, h⟩
        obtain ⟨i, u, rfl, -⟩ := h.exists_cons
        exact ⟨i, u, rfl, w, h⟩

theorem finds_checkSlots (checks : Checks) (p : Place) (ms : List (String × Value)) :
    (slots : List Slot) →
    Finds (MemberDefect checks slots ms) p (checkSlots checks p ms slots)
  | [] => by
    apply Finds.ok
    rintro t e ⟨w, h⟩
    cases h with
    | field hs => cases hs
  | slot :: slots => by
    have hfirst := (finds_checkSlot checks (p.field slot) (Value.get ms slot.key) slot).inField
    have hrest := finds_checkSlots checks p ms slots
    rw [checkSlots]
    -- Whatever the field turns up stands at 0, and the other fields each move on by one.
    have hall : Finds (Each fun i t e => ∃ w, DefectAt checks (slot :: slots) ms (i :: t) w e) p
        (do checkSlot checks (p.field slot) (Value.get ms slot.key) slot
            checkSlots checks p ms slots) := by
      apply Finds.cons
      · refine hfirst.congr fun t e => ⟨?_, ?_⟩
        · rintro ⟨w, h⟩
          exact ⟨w, .field rfl h⟩
        · rintro ⟨w, h⟩
          cases h with
          | field hs h =>
            cases hs
            exact .mk ⟨w, h⟩
      · refine hrest.congr fun t e => ⟨?_, ?_⟩
        · rintro ⟨w, h⟩
          cases h with
          | field hs h => exact ⟨_, _, rfl, w, .field hs h⟩
        · rintro ⟨i, u, rfl, w, h⟩
          cases h with
          | field hs h => exact ⟨w, .field hs h⟩
    refine hall.congr fun t e => ⟨?_, ?_⟩
    · rintro ⟨i, u, rfl, h⟩
      exact h
    · rintro ⟨w, h⟩
      cases h with
      | field hs h => exact ⟨_, _, rfl, w, .field hs h⟩

end

/-! ### Records -/

/-- Validating an object finds the first of its defects. -/
theorem finds_validate {schema : Schema} {slots : List Slot} (hs : schema.slots = .ok slots)
    (ms : List (String × Value)) (checks : Checks) :
    Finds (MemberDefect checks slots ms) .root
      (validate schema (.object ms) checks) := by
  have hv : validate schema (.object ms) checks = checkSlots checks .root ms slots := by
    rw [validate, hs]
    rfl
  rw [hv]
  exact finds_checkSlots checks .root ms slots

theorem Place.root_found (e : Defect) : Place.root.found e = e := rfl

theorem exists_slots_of_validate {schema : Schema} {ms : List (String × Value)}
    (h : ∀ fault, validate schema (.object ms) checks ≠ .error (.children fault)) :
    ∃ slots, schema.slots = .ok slots := by
  cases hs : schema.slots with
  | ok slots => exact ⟨slots, rfl⟩
  | error fault =>
    refine absurd ?_ (h fault)
    rw [validate, hs]
    rfl

theorem Defect.complaint_of_path {d : Defect} {path : String} (h : d.complaint.path = some path) :
    path = pathText d.path ∧ d.complaint.label = some (" / ".intercalate d.labels) := by
  rw [complaint, Complaint.about] at h ⊢
  split at h
  · cases h
  · next hne =>
    rw [if_neg hne]
    exact ⟨(Option.some.inj h).symm, rfl⟩

/-- The flaw in an object that is refused is in the value that the path leads to, and no defect stands
at an earlier turn; an object that is accepted has no defect. -/
theorem validate_first_defect {schema : Schema}
    (hp : ∀ slots, schema.slots = .ok slots → ∀ slot ∈ slots, slot.IsPlain)
    (record : Value) (checks : Checks) :
    (∀ d path, validate schema record checks = .error (.defect d) → d.complaint.path = some path →
      ∃ slots ms t w, schema.slots = .ok slots ∧ record = .object ms ∧
        DefectAt checks slots ms t w d ∧ readPath path = d.path ∧
        record.at? (readPath path) = some w ∧
        d.complaint.label = some (" / ".intercalate d.labels) ∧
        ∀ u < t, ∀ w' d', ¬DefectAt checks slots ms u w' d') ∧
    (validate schema record checks = .ok () →
      ∃ slots ms, schema.slots = .ok slots ∧ record = .object ms ∧
        ∀ t w d, ¬DefectAt checks slots ms t w d) := by
  constructor
  · intro d path hd hpath
    obtain ⟨rfl, hlabel⟩ := d.complaint_of_path hpath
    cases record with
    | object ms =>
      obtain ⟨slots, hs⟩ := exists_slots_of_validate fun fault he => by cases he.symm.trans hd
      obtain ⟨t, e, rfl, ⟨w, hat⟩, hfirst⟩ := (finds_validate hs ms checks).first d hd
      rw [Place.root_found] at hpath hlabel ⊢
      have hread := readPath_pathText (hat.isPlain (hp slots hs))
      refine ⟨slots, ms, t, w, hs, rfl, hat, hread, ?_, hlabel, ?_⟩
      · rw [hread]
        exact hat.at?_eq
      · intro u hu w' d' h
        exact hfirst u hu d' ⟨w', h⟩
    | _ =>
      cases hd
      cases hpath
  · intro hv
    cases record with
    | object ms =>
      obtain ⟨slots, hs⟩ := exists_slots_of_validate fun fault he => by cases he.symm.trans hv
      refine ⟨slots, ms, hs, rfl, ?_⟩
      intro t w d h
      exact (finds_validate hs ms checks).none hv t d ⟨w, h⟩
    | _ => cases hv

def skuField : FormField :=
  { key := "sku", label := "SKU", kind := "string", rules := [⟨"min", some "2", none⟩] }

/-- A form for a name and for items, each with a text of two characters or more. -/
def orderForm : Form :=
  { name := "F", createdAt := "2024-01-01T00:00:00+00:00",
    fields := [{ key := "name", label := "Name", kind := "string" },
      { key := "items", label := "Items", kind := "array<object>", children := some [skuField] }] }

/-- An order in which the text of the second item is too short. -/
def order : List (String × Value) :=
  [("items", .list [.object [("sku", .text "AB")], .object [("sku", .text "A")]])]

theorem isPlain_orderForm : ∀ slots, (Schema.form orderForm).slots = .ok slots →
    ∀ slot ∈ slots, slot.IsPlain := by
  rintro slots ⟨⟩ slot hslot
  simp only [orderForm, skuField, ofFields, ofField, ofChildren, List.mem_cons, List.not_mem_nil,
    or_false] at hslot
  rcases hslot with rfl | rfl
  · exact .mk ⟨by decide, by decide⟩ nofun
  · refine .mk ⟨by decide, by decide⟩ (List.forall_mem_singleton.2 ?_)
    exact .mk ⟨by decide, by decide⟩ nofun

theorem validate_first_defect_order :
    (∀ slots, (Schema.form orderForm).slots = .ok slots → ∀ slot ∈ slots, slot.IsPlain) ∧
    ∃ d, validate (.form orderForm) (.object order) [] = .error (.defect d) ∧
      d.complaint.path = some "items[1].sku" ∧
      ∃ slots ms t w, (Schema.form orderForm).slots = .ok slots ∧ Value.object order = .object ms ∧
        DefectAt [] slots ms t w d ∧ readPath "items[1].sku" = d.path ∧
        (Value.object order).at? (readPath "items[1].sku") = some w ∧
        d.complaint.label = some (" / ".intercalate d.labels) ∧
        ∀ u < t, ∀ w' d', ¬DefectAt [] slots ms u w' d' := by
  have hd : validate (.form orderForm) (.object order) [] =
      .error (.defect ⟨.tooShort, [.key "items", .index 1, .key "sku"], ["Items", "SKU"]⟩) := by
    decide +kernel
  have hpath : pathText [.key "items", .index 1, .key "sku"] = "items[1].sku" := by
    decide +kernel
  refine ⟨isPlain_orderForm, _, hd, ?_, ?_⟩
  · rw [Defect.complaint, hpath]
    rfl
  · apply (validate_first_defect isPlain_orderForm (.object order) []).1 _ _ hd
    rw [Defect.complaint, hpath]
    rfl

end Formwork.Record
