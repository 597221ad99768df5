/-!
Lists whose elements have keys. An element that is put in takes the place of the one with its key,
or comes last: no key occurs twice, and keys stand in the order in which they came in.
-/
namespace Formwork.Keyed

variable {α κ : Type} [DecidableEq κ]

/-- The list with `x` in the place of the first element that has its key, or at its end. -/
def put (key : α → κ) (x : α) : List α → List α
  | [] => [x]
  | y :: ys => if key y = key x then x :: ys else y :: put key x ys

/-- The elements put in one after the other. -/
def ofList (key : α → κ) (xs : List α) : List α := xs.foldl (fun ys x => put key x ys) []

/-- A table of entries: of those with one name the last, in the place of the first. -/
def table (entries : List (κ × α)) : List (κ × α) := ofList Prod.fst entries

theorem mem_put_self (key : α → κ) (x : α) (ys : List α) : x ∈ put key x ys := by
  induction ys with
  | nil => simp [put]
  | cons y ys ih => unfold put; split <;> simp [ih]

theorem mem_put_of_mem {key : α → κ} {x y : α} {ys : List α} (hy : y ∈ ys) (hk : key y ≠ key x) :
    y ∈ put key x ys := by
  induction ys with
  | nil => cases hy
  | cons z ys ih =>
    unfold put
    split
    · next hz =>
      cases hy with
      | head => exact absurd hz hk
      | tail _ hy => exact .tail _ hy
    · cases hy with
      | head => exact .head _
      | tail _ hy => exact .tail _ (ih hy)

/-- Where no key occurs twice, an element that is put in takes the place of all that have its
key. -/
theorem mem_of_mem_put {key : α → κ} {x y : α} {ys : List α} (h : (ys.map key).Nodup)
    (hy : y ∈ put key x ys) : y = x ∨ y ∈ ys ∧ key y ≠ key x := by
  induction ys with
  | nil => exact .inl (List.mem_singleton.1 hy)
  | cons z ys ih =>
    rw [List.map_cons, List.nodup_cons] at h
    unfold put at hy
    split at hy
    · next hz =>
      rcases List.mem_cons.1 hy with rfl | hy
      · exact .inl rfl
      · refine .inr ⟨.tail _ hy, fun hk => h.1 ?_⟩
        rw [hz, ← hk]
        exact List.mem_map_of_mem hy
    · next hz =>
      rcases List.mem_cons.1 hy with rfl | hy
      · exact .inr ⟨.head _, hz⟩
      · exact (ih h.2 hy).imp_right fun ⟨hm, hk⟩ => ⟨.tail _ hm, hk⟩

/-- An element that is put in adds its key at the end, unless it is there. -/
theorem map_put (key : α → κ) (x : α) (ys : List α) :
    (put key x ys).map key =
      if key x ∈ ys.map key then ys.map key else ys.map key ++ [key x] := by
  induction ys with
  | nil => simp [put]
  | cons y ys ih =>
    by_cases h : key y = key x
    · simp [put, h]
    · have h' : ¬key x = key y := fun e => h e.symm
      by_cases hm : key x ∈ ys.map key
      · simp_all [put]
      · simp_all [put]

theorem nodup_map_put {key : α → κ} {ys : List α} (h : (ys.map key).Nodup) (x : α) :
    ((put key x ys).map key).Nodup := by
  rw [map_put]
  split
  · exact h
  · next hx => exact List.nodup_append.2 ⟨h, by simp, by simp_all⟩

/-- No key occurs twice. -/
theorem nodup_map_ofList (key : α → κ) (xs : List α) : ((ofList key xs).map key).Nodup := by
  have (ys : List α) (h : (ys.map key).Nodup) :
      ((xs.foldl (fun ys x => put key x ys) ys).map key).Nodup := by
    induction xs generalizing ys with
    | nil => exact h
    | cons x xs ih => exact ih _ (nodup_map_put h x)
  exact this [] .nil

/-- Under its own key an element is found that was put in. -/
theorem find?_put_self (key : α → κ) (x : α) (ys : List α) :
    (put key x ys).find? (fun y => key y = key x) = some x := by
  induction ys with
  | nil => simp [put]
  | cons y ys ih => by_cases h : key y = key x <;> simp [put, h, ih]

/-- Under every other key the same is found as before. -/
theorem find?_put_of_ne {key : α → κ} {k : κ} {x : α} (h : key x ≠ k) (ys : List α) :
    (put key x ys).find? (fun y => key y = k) = ys.find? (fun y => key y = k) := by
  induction ys with
  | nil => simp [put, h]
  | cons y ys ih =>
    by_cases hy : key y = key x
    · simp [put, hy, h]
    · simp [put, hy, List.find?_cons, ih]

end Formwork.Keyed
