import Formwork.Keyed
import Mathlib.Data.List.Induction

/-!
What tables hold. A table of entries whose names are distinct already holds them as they are.
-/
namespace Formwork.Keyed

variable {α κ : Type} [DecidableEq κ]

theorem eq_or_mem_of_mem_put {key : α → κ} {x y : α} {ys : List α} (h : y ∈ put key x ys) :
    y = x ∨ y ∈ ys := by
  induction ys with
  | nil => exact .inl (List.mem_singleton.1 h)
  | cons z ys ih =>
    rw [put] at h
    split at h
    · rcases List.mem_cons.1 h with rfl | h
      · exact .inl rfl
      · exact .inr (.tail _ h)
    · rcases List.mem_cons.1 h with rfl | h
      · exact .inr (.head _)
      · exact (ih h).imp_right (.tail _)

theorem mem_of_mem_foldl_put {key : α → κ} {x : α} {xs ys : List α}
    (h : x ∈ xs.foldl (fun ys x => put key x ys) ys) : x ∈ xs ∨ x ∈ ys := by
  induction xs generalizing ys with
  | nil => exact .inr h
  | cons y xs ih =>
    rcases ih h with h | h
    · exact .inl (.tail _ h)
    · rcases eq_or_mem_of_mem_put h with rfl | h
      · exact .inl (.head _)
      · exact .inr h

/-- A table holds none but its entries. -/
theorem mem_of_mem_table {x : κ × α} {entries : List (κ × α)} (h : x ∈ table entries) :
    x ∈ entries := (mem_of_mem_foldl_put h).resolve_right List.not_mem_nil

theorem put_of_not_mem {key : α → κ} {x : α} {ys : List α} (h : key x ∉ ys.map key) :
    put key x ys = ys ++ [x] := by
  induction ys with
  | nil => rfl
  | cons y ys ih =>
    simp only [List.map_cons, List.mem_cons, not_or] at h
    rw [put, if_neg (Ne.symm h.1), ih h.2, List.cons_append]

theorem foldl_put_of_nodup {key : α → κ} {xs ys : List α} (h : ((ys ++ xs).map key).Nodup) :
    xs.foldl (fun ys x => put key x ys) ys = ys ++ xs := by
  induction xs generalizing ys with
  | nil => simp
  | cons x xs ih =>
    have hx : key x ∉ ys.map key := by
      rw [List.map_append, List.nodup_append] at h
      exact fun hm => h.2.2 _ hm _ (by simp) rfl
    have hmove : ys ++ x :: xs = (ys ++ [x]) ++ xs := by simp
    rw [hmove] at h ⊢
    rw [List.foldl_cons, put_of_not_mem hx, ih h]

/-- Elements with distinct keys are put in as they are. -/
theorem ofList_of_nodup {key : α → κ} {xs : List α} (h : (xs.map key).Nodup) :
    ofList key xs = xs := foldl_put_of_nodup h

theorem table_of_nodup {entries : List (κ × α)} (h : (entries.map (·.1)).Nodup) :
    table entries = entries := ofList_of_nodup h

theorem mem_put_iff {key : α → κ} {x y : α} {ys : List α} (h : (ys.map key).Nodup) :
    y ∈ put key x ys ↔ y = x ∨ y ∈ ys ∧ key y ≠ key x := by
  constructor
  · exact mem_of_mem_put h
  · rintro (rfl | ⟨hy, hk⟩)
    · exact mem_put_self key y ys
    · exact mem_put_of_mem hy hk

theorem ofList_append_singleton (key : α → κ) (xs : List α) (x : α) :
    ofList key (xs ++ [x]) = put key x (ofList key xs) := by
  rw [ofList, List.foldl_append]
  rfl

/-- Of the elements with one key the last is kept. -/
theorem mem_ofList_iff {key : α → κ} {y : α} {xs : List α} :
    y ∈ ofList key xs ↔ ∃ before after, xs = before ++ y :: after ∧ key y ∉ after.map key := by
  induction xs using List.reverseRecOn with
  | nil => simp [ofList]
  | append_singleton xs x ih =>
    rw [ofList_append_singleton, mem_put_iff (nodup_map_ofList key xs), ih]
    constructor
    · rintro (rfl | ⟨⟨before, after, rfl, hafter⟩, hk⟩)
      · exact ⟨xs, [], rfl, List.not_mem_nil⟩
      · exact ⟨before, after ++ [x], by simp, by simp_all⟩
    · rintro ⟨before, after, heq, hafter⟩
      rcases List.eq_nil_or_concat after with rfl | ⟨after, z, rfl⟩
      · obtain ⟨-, hx⟩ := List.append_inj' heq rfl
        exact .inl (List.singleton_inj.1 hx).symm
      · rw [List.concat_eq_append] at heq hafter
        rw [← List.cons_append, ← List.append_assoc] at heq
        obtain ⟨rfl, hx⟩ := List.append_inj' heq rfl
        obtain rfl := List.singleton_inj.1 hx
        rw [List.map_append, List.mem_append, List.map_singleton, List.mem_singleton, not_or] at hafter
        exact .inr ⟨⟨before, after, rfl, hafter.1⟩, hafter.2⟩

/-- The keys are those of the elements that were put in. -/
theorem mem_map_ofList_iff {key : α → κ} {k : κ} {xs : List α} :
    k ∈ (ofList key xs).map key ↔ k ∈ xs.map key := by
  induction xs using List.reverseRecOn with
  | nil => rfl
  | append_singleton xs x ih =>
    rw [ofList_append_singleton, map_put, List.map_append, List.mem_append, ← ih, List.map_singleton]
    split
    · next hx =>
      constructor
      · exact .inl
      · rintro (hk | hk)
        · exact hk
        · exact List.mem_singleton.1 hk ▸ hx
    · exact List.mem_append

theorem mem_map_table_iff {k : κ} {entries : List (κ × α)} :
    k ∈ (table entries).map (·.1) ↔ k ∈ entries.map (·.1) := mem_map_ofList_iff

theorem filter_put {key : α → κ} {x : α} {p : α → Bool} (hx : p x = true) {ys : List α}
    (h : ∀ y ∈ ys, key y = key x → p y = true) :
    (put key x ys).filter p = put key x (ys.filter p) := by
  induction ys with
  | nil => simp [put, hx]
  | cons y ys ih =>
    obtain ⟨hy, hys⟩ := List.forall_mem_cons.1 h
    by_cases hk : key y = key x
    · simp [put, hk, hx, hy hk]
    · cases hp : p y <;> simp [put, hk, hp, ih hys]

/-- A table of entries whose values are changed is the table with its values changed. -/
theorem table_map {β : Type} (g : α → β) (entries : List (κ × α)) :
    table (entries.map fun e => (e.1, g e.2)) = (table entries).map fun e => (e.1, g e.2) := by
  have hput (x : κ × α) (ys : List (κ × α)) :
      put Prod.fst (x.1, g x.2) (ys.map fun e => (e.1, g e.2)) =
        (put Prod.fst x ys).map fun e => (e.1, g e.2) := by
    induction ys with
    | nil => rfl
    | cons y ys ih =>
      rw [List.map_cons, put, put, ih]
      split <;> rfl
  have hfold (ys : List (κ × α)) : (entries.map fun e => (e.1, g e.2)).foldl
      (fun ys x => put Prod.fst x ys) (ys.map fun e => (e.1, g e.2)) =
        (entries.foldl (fun ys x => put Prod.fst x ys) ys).map fun e => (e.1, g e.2) := by
    induction entries generalizing ys with
    | nil => rfl
    | cons x entries ih => rw [List.map_cons, List.foldl_cons, hput, ih, List.foldl_cons]
  exact hfold []

end Formwork.Keyed
