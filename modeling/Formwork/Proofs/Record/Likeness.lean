import Formwork.Proofs.Number.Order
import Formwork.Proofs.Record.Parts
import Mathlib.Data.List.Forall2

/-!
What validation sees of a value. Values that are equal as JSON look the same to it: numbers are seen
by their quantity, lists by their items, objects by their members.
-/
namespace Formwork

def Value.number? : Value → Option Quantity
  | .int n => some (.ofInt n)
  | .float x => some x.quantity
  | _ => none

/-- Equality of values of JSON: of numbers by quantity, of objects in any order of members. The truth
values are no numbers. -/
inductive Value.Equals : Value → Value → Prop
  | refl (v : Value) : Equals v v
  | number {v w : Value} {a b : Quantity} (hv : v.number? = some a) (hw : w.number? = some b)
      (h : a.eq b = true) : Equals v w
  | list {xs ys : List Value} (h : List.Forall₂ Equals xs ys) : Equals (.list xs) (.list ys)
  | object {ms ns : List (String × Value)}
      (h : ∀ key, Option.Rel Equals (find? ms key) (find? ns key)) :
      Equals (.object ms) (.object ns)

namespace Record

/-- What the checks of a single value can tell of it. -/
structure LooksAlike (v w : Value) : Prop where
  text : v.text? = w.text?
  number : isNumber v = isNumber w
  size : Option.Rel Quantity.Alike (size? v) (size? w)

variable {v w : Value} {p : Place}

theorem LooksAlike.refl (v : Value) : LooksAlike v v := by
  refine ⟨rfl, rfl, ?_⟩
  cases size? v with
  | none => exact .none
  | some q => exact .some (.refl q)

theorem of_number? {a : Quantity} (h : v.number? = some a) :
    v.text? = none ∧ isNumber v = true ∧ size? v = some a ∧ isVoid v = false ∧ rows? v = none := by
  cases v with
  | int n | float x =>
    cases h
    exact ⟨rfl, rfl, rfl, rfl, rfl⟩
  | _ => cases h

end Record

namespace Value.Equals
open Record

variable {v w : Value}

theorem looksAlike (h : v.Equals w) : LooksAlike v w := by
  cases h with
  | refl => exact .refl v
  | number hv hw h =>
    obtain ⟨htv, hnv, hsv, -⟩ := of_number? hv
    obtain ⟨htw, hnw, hsw, -⟩ := of_number? hw
    refine ⟨htv.trans htw.symm, hnv.trans hnw.symm, ?_⟩
    rw [hsv, hsw]
    exact .some (Quantity.alike_of_eq h)
  | list h =>
    refine ⟨rfl, rfl, ?_⟩
    rw [size?, size?, h.length_eq]
    exact .some (.refl _)
  | object => exact ⟨rfl, rfl, .none⟩

theorem isVoid_eq (h : v.Equals w) : isVoid v = isVoid w := by
  cases h with
  | refl => rfl
  | number hv hw =>
    obtain ⟨-, -, -, hvv, -⟩ := of_number? hv
    obtain ⟨-, -, -, hvw, -⟩ := of_number? hw
    exact hvv.trans hvw.symm
  | list | object => rfl

theorem object_inv {ms : List (String × Value)} (h : (Value.object ms).Equals w) :
    ∃ ns, w = .object ns ∧ ∀ key, (Value.get ms key).Equals (Value.get ns key) := by
  cases h with
  | refl => exact ⟨ms, rfl, fun key => .refl _⟩
  | number hv => cases hv
  | object h =>
    refine ⟨_, rfl, fun key => ?_⟩
    have hk := h key
    rw [Value.get, Value.get]
    generalize find? ms key = x at hk ⊢
    generalize find? _ key = y at hk ⊢
    cases hk with
    | none => exact .refl _
    | some h => exact h

theorem exists_object {ms : List (String × Value)} (h : v.Equals (.object ms)) :
    ∃ ns, v = .object ns := by
  cases h with
  | refl => exact ⟨ms, rfl⟩
  | number _ hw => cases hw
  | object => exact ⟨_, rfl⟩

/-- Equal values have equal rows, or none. -/
theorem rows?_rel (h : v.Equals w) : Option.Rel (List.Forall₂ Equals) (rows? v) (rows? w) := by
  cases h with
  | refl =>
    cases rows? v with
    | none => exact .none
    | some rows => exact .some (List.forall₂_same.2 fun v _ => .refl v)
  | number hv hw =>
    obtain ⟨-, -, -, -, hrv⟩ := of_number? hv
    obtain ⟨-, -, -, -, hrw⟩ := of_number? hw
    rw [hrv, hrw]
    exact .none
  | list h => exact .some h
  | object h => exact .some (.cons (.object h) .nil)

end Value.Equals

namespace Record

variable {v w : Value} {p : Place} {slot : Slot} {α γ : Type}

/-! ### Checks that see no difference -/

/-- A run over a list depends only on what its steps see of the items. -/
theorem forM_congr_of_map_eq {see : α → γ} {f : α → Except Refusal Unit}
    (hf : ∀ a b, see a = see b → f a = f b) {xs ys : List α} (h : xs.map see = ys.map see) :
    xs.forM f = ys.forM f := by
  induction xs generalizing ys with
  | nil =>
    obtain rfl := List.map_eq_nil_iff.1 h.symm
    rfl
  | cons x xs ih =>
    cases ys with
    | nil => cases h
    | cons y ys =>
      obtain ⟨hx, hxs⟩ := List.cons.inj h
      have hcons (z : α) (zs : List α) : (z :: zs).forM f = (do f z; zs.forM f) := rfl
      rw [hcons, hcons, hf x y hx, ih hxs]

theorem isJsonText_congr (h : v.text? = w.text?) : isJsonText v = isJsonText w := by
  have hsee (v : Value) : isJsonText v = v.text?.any fun s => Value.isJson s.toList := by
    cases v <;> rfl
  rw [hsee, hsee, h]

theorem isImageUrl_congr (h : v.text? = w.text?) : isImageUrl v = isImageUrl w := by
  have hsee (v : Value) :
      isImageUrl v = v.text?.elim (.ok false) fun s => isImageText s.toList := by
    cases v <;> rfl
  rw [hsee, hsee, h]

/-- What checks of texts see of a text. -/
def seeText (x : Place × Value) : Place × Option String := (x.1, x.2.text?)

theorem checkJson_congr
    (h : (textsOf slot.kind v p).map seeText = (textsOf slot.kind w p).map seeText) :
    checkJson slot v p = checkJson slot w p := by
  rw [checkJson, checkJson]
  congr 1
  refine forM_congr_of_map_eq ?_ h
  rintro ⟨q, x⟩ ⟨r, y⟩ he
  obtain ⟨rfl, ht⟩ := Prod.mk.inj he
  dsimp only
  rw [isJsonText_congr ht]

theorem checkMarkdown_congr
    (h : (textsOf slot.kind v p).map seeText = (textsOf slot.kind w p).map seeText) :
    checkMarkdown slot v p = checkMarkdown slot w p := by
  rw [checkMarkdown_eq, checkMarkdown_eq]
  congr 1
  refine forM_congr_of_map_eq ?_ h
  rintro ⟨q, x⟩ ⟨r, y⟩ he
  obtain ⟨rfl, ht⟩ := Prod.mk.inj he
  dsimp only at ht ⊢
  rw [requireMarkdown, requireMarkdown, ht]

theorem checkPattern_congr (h : v.text? = w.text?) (pattern : String) :
    checkPattern pattern v p = checkPattern pattern w p := by
  have hsee (v : Value) : checkPattern pattern v p =
      v.text?.elim (.ok ()) fun s => checkPattern pattern (.text s) p := by
    cases v <;> rfl
  rw [hsee, hsee, h]

theorem checkMin_congr (h : LooksAlike v w) (r : Rule) : checkMin r v p = checkMin r w p := by
  have hs := h.size
  rw [checkMin, checkMin, h.number]
  generalize size? v = x at hs ⊢
  generalize size? w = y at hs ⊢
  cases hs with
  | none => rfl
  | some ha =>
    cases bound? r with
    | none => rfl
    | some bound => simp only [(ha bound).2]

theorem checkMax_congr (h : LooksAlike v w) (r : Rule) : checkMax r v p = checkMax r w p := by
  have hs := h.size
  rw [checkMax, checkMax, h.number]
  generalize size? v = x at hs ⊢
  generalize size? w = y at hs ⊢
  cases hs with
  | none => rfl
  | some ha =>
    cases bound? r with
    | none => rfl
    | some bound => simp only [(ha bound).1]

theorem checkRule_congr (h : LooksAlike v w) (r : Rule) :
    checkRule [] v p r = checkRule [] w p r := by
  rw [checkRule.eq_def, checkRule.eq_def]
  split
  · exact checkPattern_congr h.text _
  · exact checkMin_congr h r
  · exact checkMax_congr h r
  · rfl
  · rfl

theorem requireImage_congr (h : v.text? = w.text?) (flaw : Flaw) :
    requireImage p flaw v = requireImage p flaw w := by
  rw [requireImage, requireImage, isImageUrl_congr h]

/-! ### Equal values -/

theorem map_seeText_whole {kind : String} (hk : kind ≠ "array") (h : v.text? = w.text?) :
    (textsOf kind v p).map seeText = (textsOf kind w p).map seeText := by
  rw [textsOf_whole fun ha => absurd ha hk, textsOf_whole fun ha => absurd ha hk,
    List.map_singleton, List.map_singleton, seeText, seeText, h]

theorem map_seeText_of_forall₂ {xs ys : List Value} (h : List.Forall₂ Value.Equals xs ys) :
    (textsOf "array" (.list xs) p).map seeText = (textsOf "array" (.list ys) p).map seeText := by
  rw [textsOf_array, textsOf_array]
  -- The places depend on the indices, so the induction is for any first index.
  generalize 0 = n
  induction h generalizing n with
  | nil => rfl
  | @cons x y xs ys hxy _ ih =>
    have hv := hxy.isVoid_eq
    cases hy : isVoid y with
    | true => simpa [hv, hy] using ih (n + 1)
    | false => simpa [hv, hy, seeText, hxy.looksAlike.text] using ih (n + 1)

theorem map_seeText_of_equals (h : v.Equals w) (kind : String) :
    (textsOf kind v p).map seeText = (textsOf kind w p).map seeText := by
  by_cases hk : kind = "array"
  · subst hk
    cases h with
    | refl => rfl
    | list h => exact map_seeText_of_forall₂ h
    | number hv hw =>
      have hlist {u : Value} {a : Quantity} (hu : u.number? = some a) (items : List Value) :
          u ≠ .list items := by
        rintro rfl
        cases hu
      rw [textsOf_whole fun _ => hlist hv, textsOf_whole fun _ => hlist hw, List.map_singleton,
        List.map_singleton, seeText, seeText, (of_number? hv).1, (of_number? hw).1]
    | object => rfl
  · exact map_seeText_whole hk h.looksAlike.text

theorem checkImage_congr (h : v.Equals w) : checkImage v p = checkImage w p := by
  cases h with
  | refl => rfl
  | number hv hw =>
    cases v with
    | int | float =>
      cases w with
      | int | float => rfl
      | _ => cases hw
    | _ => cases hv
  | list h =>
    cases h with
    | nil => rfl
    | cons h => exact requireImage_congr h.looksAlike.text _
  | object => rfl

theorem checkImages_congr (h : v.Equals w) : checkImages v p = checkImages w p := by
  cases h with
  | refl => rfl
  | number hv hw =>
    cases v with
    | int | float =>
      cases w with
      | int | float => rfl
      | _ => cases hw
    | _ => cases hv
  | @list xs ys h =>
    have hmap : xs.map Value.text? = ys.map Value.text? := by
      induction h with
      | nil => rfl
      | cons h _ ih => rw [List.map_cons, List.map_cons, h.looksAlike.text, ih]
    have hzip :
        xs.zipIdx.map (Prod.map Value.text? id) = ys.zipIdx.map (Prod.map Value.text? id) := by
      rw [← List.zipIdx_map, ← List.zipIdx_map, hmap]
    refine forM_congr_of_map_eq ?_ hzip
    rintro ⟨x, i⟩ ⟨y, j⟩ he
    obtain ⟨ht, rfl⟩ := Prod.mk.inj he
    exact requireImage_congr ht _
  | object => rfl

end Record

end Formwork
