import Mathlib.Data.List.Forall2

/-!
Runs that may fail: what is known of the steps when a run succeeds.
-/
namespace Formwork

variable {α β ε : Type}

theorem bind_eq_ok_iff {x : Except ε α} {f : α → Except ε β} {b : β} :
    x >>= f = .ok b ↔ ∃ a, x = .ok a ∧ f a = .ok b := by
  cases x with
  | error e => exact ⟨nofun, nofun⟩
  | ok a =>
    constructor
    · exact fun h => ⟨a, rfl, h⟩
    · rintro ⟨_, ⟨⟩, h⟩
      exact h

theorem mapError_ok {ε' : Type} (g : ε → ε') (a : α) :
    (Except.ok a).mapError g = .ok a := rfl

theorem mapError_eq_ok_iff {ε' : Type} {g : ε → ε'} {x : Except ε α} {a : α} :
    x.mapError g = .ok a ↔ x = .ok a := by
  cases x with
  | error e => exact ⟨nofun, nofun⟩
  | ok b => exact ⟨fun h => congrArg _ (Except.ok.inj h), fun h => congrArg _ (Except.ok.inj h)⟩

/-- A run over a list for its effect succeeds if its steps do. -/
theorem forM_eq_ok_iff {f : α → Except ε Unit} {xs : List α} :
    xs.forM f = .ok () ↔ ∀ x ∈ xs, f x = .ok () := by
  induction xs with
  | nil => exact iff_of_true rfl (List.forall_mem_nil _)
  | cons x xs ih =>
    have hcons : (x :: xs).forM f = (f x >>= fun _ => xs.forM f) := rfl
    rw [hcons, bind_eq_ok_iff, List.forall_mem_cons, ← ih]
    exact ⟨fun ⟨_, h⟩ => h, fun h => ⟨(), h⟩⟩

/-- A run over a list yields what its steps yield, in their order. -/
theorem mapM_eq_ok_iff_forall₂ {f : α → Except ε β} {xs : List α} {ys : List β} :
    xs.mapM f = .ok ys ↔ List.Forall₂ (fun x y => f x = .ok y) xs ys := by
  induction xs generalizing ys with
  | nil =>
    rw [List.mapM_nil, List.forall₂_nil_left_iff]
    exact ⟨fun h => (Except.ok.inj h).symm, fun h => h ▸ rfl⟩
  | cons x xs ih =>
    rw [List.mapM_cons, bind_eq_ok_iff, List.forall₂_cons_left_iff]
    refine exists_congr fun y => ?_
    rw [bind_eq_ok_iff]
    constructor
    · rintro ⟨hy, zs, hzs, he⟩
      exact ⟨zs, hy, ih.1 hzs, (Except.ok.inj he).symm⟩
    · rintro ⟨zs, hy, hzs, rfl⟩
      exact ⟨hy, zs, ih.2 hzs, rfl⟩

/-- What a run yields comes from its steps. -/
theorem exists_of_mem_mapM {f : α → Except ε β} {xs : List α} {ys : List β}
    (h : xs.mapM f = .ok ys) {y : β} (hy : y ∈ ys) : ∃ x ∈ xs, f x = .ok y := by
  rw [mapM_eq_ok_iff_forall₂] at h
  induction h with
  | nil => cases hy
  | cons hxy _ ih =>
    rcases List.mem_cons.1 hy with rfl | hy
    · exact ⟨_, .head _, hxy⟩
    · obtain ⟨x, hx, hf⟩ := ih hy
      exact ⟨x, .tail _ hx, hf⟩

/-- Where every element has a partner, the list has a list of partners. -/
theorem exists_forall₂ {r : α → β → Prop} {xs : List α} (h : ∀ x ∈ xs, ∃ y, r x y) :
    ∃ ys, List.Forall₂ r xs ys := by
  induction xs with
  | nil => exact ⟨[], .nil⟩
  | cons x xs ih =>
    obtain ⟨hx, hxs⟩ := List.forall_mem_cons.1 h
    obtain ⟨y, hy⟩ := hx
    obtain ⟨ys, hys⟩ := ih hxs
    exact ⟨y :: ys, .cons hy hys⟩

/-! ### Faults and results apart -/

/-- A result, unless there is a fault. -/
def unlessFault (fault : Option ε) (a : α) : Except ε α :=
  match fault with
  | some e => .error e
  | none => .ok a

theorem unlessFault_map {fault : Option ε} {a : α} {g : α → β} :
    (unlessFault fault a >>= fun a => pure (g a)) = unlessFault fault (g a) := by
  cases fault <;> rfl

/-- Of two runs, one after the other, the first fault is found. -/
theorem unlessFault_bind {first second : Option ε} {a : α} {b : β} {f : α → Except ε β}
    (h : f a = unlessFault second b) :
    unlessFault first a >>= f = unlessFault (first.or second) b := by
  cases first with
  | some e => rfl
  | none => exact h

/-- A run over a list has the first fault of its steps. -/
theorem mapM_eq_unlessFault {f : α → Except ε β} {fault : α → Option ε} {g : α → β}
    (h : ∀ x, f x = unlessFault (fault x) (g x)) (xs : List α) :
    xs.mapM f = unlessFault (xs.findSome? fault) (xs.map g) := by
  induction xs with
  | nil => rfl
  | cons x xs ih =>
    rw [List.mapM_cons, h, ih, List.findSome?_cons]
    cases fault x with
    | some e => rfl
    | none => exact unlessFault_map

end Formwork
