import Formwork.Store.Basic
import Mathlib.Data.List.Nodup

/-!
What is found in a store, and in which order its rows are listed, after a change.
-/
namespace Formwork.Store

variable {s : Store} {k : Key} {r r' x : Row}

theorem eq_of_mem_rows {e e' : Nat × Row} (he : e ∈ s.rows) (he' : e' ∈ s.rows)
    (hk : e.2.key = e'.2.key) : e = e' :=
  List.inj_on_of_nodup_map s.distinct he he' hk

theorem find?_eq_some_iff : s.find? k = some r ↔ r.key = k ∧ ∃ n, (n, r) ∈ s.rows := by
  rw [find?]
  constructor
  · intro h
    obtain ⟨e, hf, rfl⟩ := Option.map_eq_some_iff.1 h
    have hk : e.2.key = k := by simpa using List.find?_some hf
    exact ⟨hk, e.1, List.mem_of_find?_eq_some hf⟩
  · rintro ⟨rfl, n, hm⟩
    cases hf : s.rows.find? (·.2.key == r.key) with
    | none =>
      have hne := List.find?_eq_none.1 hf _ hm
      exact absurd (beq_self_eq_true r.key) hne
    | some e =>
      have hk : e.2.key = r.key := by simpa using List.find?_some hf
      rw [eq_of_mem_rows (List.mem_of_find?_eq_some hf) hm hk]
      rfl

theorem mem_rows_put {n : Nat} :
    (n, x) ∈ (s.put r).rows ↔ n = s.next ∧ x = r ∨ (n, x) ∈ s.rows ∧ x.key ≠ r.key := by
  constructor
  · intro h
    exact (Keyed.mem_of_mem_put s.distinct h).imp_left Prod.mk.inj
  · rintro (⟨rfl, rfl⟩ | ⟨hm, hk⟩)
    · exact Keyed.mem_put_self ..
    · exact Keyed.mem_put_of_mem hm hk

theorem find?_put (s : Store) (r : Row) (k : Key) :
    (s.put r).find? k = if r.key = k then some r else s.find? k := by
  ext x
  rw [find?_eq_some_iff]
  constructor
  · rintro ⟨rfl, n, hm⟩
    rcases mem_rows_put.1 hm with ⟨-, rfl⟩ | ⟨hm, hk⟩
    · rw [if_pos rfl]
    · rw [if_neg hk.symm]
      exact find?_eq_some_iff.2 ⟨rfl, n, hm⟩
  · intro h
    split at h
    · next hk =>
      cases h
      exact ⟨hk, s.next, mem_rows_put.2 (.inl ⟨rfl, rfl⟩)⟩
    · next hk =>
      obtain ⟨rfl, n, hm⟩ := find?_eq_some_iff.1 h
      exact ⟨rfl, n, mem_rows_put.2 (.inr ⟨hm, Ne.symm hk⟩)⟩

theorem mem_rows_filter {p : Row → Bool} {n : Nat} :
    (n, r) ∈ (s.filter p).rows ↔ (n, r) ∈ s.rows ∧ p r = true := List.mem_filter

theorem find?_filter (s : Store) (p : Row → Bool) (k : Key) :
    (s.filter p).find? k = (s.find? k).filter p := by
  ext x
  rw [Option.filter_eq_some_iff, find?_eq_some_iff, find?_eq_some_iff]
  simp only [mem_rows_filter, exists_and_right, and_assoc]

/-- The removed rows are those that were found before and are stale. -/
theorem mem_keepOnly_snd {t a : String} {forms : List String} :
    r ∈ (s.keepOnly t a forms).2 ↔ s.find? r.key = some r ∧ r.isStale t a forms = true := by
  simp only [keepOnly, List.mem_filter, List.mem_map, find?_eq_some_iff, true_and]
  refine and_congr_left fun _ => ⟨?_, ?_⟩
  · rintro ⟨⟨n, r⟩, hm, rfl⟩
    exact ⟨n, hm⟩
  · rintro ⟨n, hm⟩
    exact ⟨(n, r), hm, rfl⟩

theorem nodup_keepOnly_snd (s : Store) (t a : String) (forms : List String) :
    ((s.keepOnly t a forms).2.map (·.key)).Nodup := by
  refine List.Nodup.sublist (List.filter_sublist.map _) ?_
  rw [List.map_map]
  exact s.distinct

theorem isOf_iff {t a : String} : r.isOf t a = true ↔ r.key.tenant = t ∧ r.key.app = a := by
  rw [Row.isOf, Bool.and_eq_true, beq_iff_eq, beq_iff_eq]

theorem isOf_key (r : Row) : r.isOf r.key.tenant r.key.app = true := isOf_iff.2 ⟨rfl, rfl⟩

/-- Within an app rows are told apart by their forms. -/
theorem key_eq_iff_of_isOf {t a form : String} (h : r.isOf t a = true) :
    r.key = ⟨t, a, form⟩ ↔ r.key.form = form := by
  obtain ⟨rfl, rfl⟩ := isOf_iff.1 h
  constructor
  · intro hk
    rw [hk]
  · rintro rfl
    rfl

theorem isStale_iff {t a : String} {forms : List String} :
    r.isStale t a forms = true ↔ r.key.tenant = t ∧ r.key.app = a ∧ r.key.form ∉ forms := by
  simp [Row.isStale, isOf_iff, and_assoc]

/-- The keys of the removed rows are those that are found before and not after. -/
theorem mem_map_keepOnly_snd {t a : String} {forms : List String} :
    k ∈ (s.keepOnly t a forms).2.map (·.key) ↔
      (∃ r, s.find? k = some r) ∧ (s.keepOnly t a forms).1.find? k = none := by
  rw [List.mem_map]
  constructor
  · rintro ⟨r, hm, rfl⟩
    obtain ⟨hf, hs⟩ := mem_keepOnly_snd.1 hm
    refine ⟨⟨r, hf⟩, ?_⟩
    simp [keepOnly, find?_filter, hf, hs]
  · rintro ⟨⟨r, hf⟩, hnone⟩
    obtain ⟨rfl, -⟩ := find?_eq_some_iff.1 hf
    refine ⟨r, mem_keepOnly_snd.2 ⟨hf, ?_⟩, rfl⟩
    simpa [keepOnly, find?_filter, hf] using hnone

/-! ### Newer and older rows -/

/-- Whether a row was written after another one. -/
def Newer (s : Store) (r r' : Row) : Prop := ∃ n n', (n, r) ∈ s.rows ∧ (n', r') ∈ s.rows ∧ n' < n

theorem newer_put : (s.put x).Newer r r' ↔
    r'.key ≠ x.key ∧ s.find? r'.key = some r' ∧ (r = x ∨ r.key ≠ x.key ∧ s.Newer r r') := by
  constructor
  · rintro ⟨n, n', hm, hm', hlt⟩
    rcases mem_rows_put.1 hm with ⟨rfl, rfl⟩ | ⟨hr, hk⟩
    · rcases mem_rows_put.1 hm' with ⟨rfl, rfl⟩ | ⟨hr', hk'⟩
      · exact absurd hlt (Nat.lt_irrefl _)
      · exact ⟨hk', find?_eq_some_iff.2 ⟨rfl, n', hr'⟩, .inl rfl⟩
    · rcases mem_rows_put.1 hm' with ⟨rfl, rfl⟩ | ⟨hr', hk'⟩
      · exact absurd hlt (Nat.lt_asymm (s.numbered (n, r) hr).1)
      · exact ⟨hk', find?_eq_some_iff.2 ⟨rfl, n', hr'⟩, .inr ⟨hk, n, n', hr, hr', hlt⟩⟩
  · rintro ⟨hk', hf, rfl | ⟨hk, n, n', hm, hm', hlt⟩⟩
    · obtain ⟨-, n', hm'⟩ := find?_eq_some_iff.1 hf
      exact ⟨s.next, n', mem_rows_put.2 (.inl ⟨rfl, rfl⟩), mem_rows_put.2 (.inr ⟨hm', hk'⟩),
        (s.numbered _ hm').1⟩
    · exact ⟨n, n', mem_rows_put.2 (.inr ⟨hm, hk⟩), mem_rows_put.2 (.inr ⟨hm', hk'⟩), hlt⟩

theorem newer_filter {p : Row → Bool} :
    (s.filter p).Newer r r' ↔ s.Newer r r' ∧ p r = true ∧ p r' = true := by
  constructor
  · rintro ⟨n, n', hm, hm', hlt⟩
    rw [mem_rows_filter] at hm hm'
    exact ⟨⟨n, n', hm.1, hm'.1, hlt⟩, hm.2, hm'.2⟩
  · rintro ⟨⟨n, n', hm, hm', hlt⟩, hp, hp'⟩
    exact ⟨n, n', mem_rows_filter.2 ⟨hm, hp⟩, mem_rows_filter.2 ⟨hm', hp'⟩, hlt⟩

theorem Newer.key_ne (h : s.Newer r r') : r.key ≠ r'.key := by
  obtain ⟨n, n', hm, hm', hlt⟩ := h
  intro hk
  obtain ⟨rfl, -⟩ := Prod.mk.inj (eq_of_mem_rows hm hm' hk)
  exact Nat.lt_irrefl n hlt

theorem Newer.asymm (h : s.Newer r r') : ¬s.Newer r' r := by
  obtain ⟨n, n', hm, hm', hlt⟩ := h
  rintro ⟨m', m, hr', hr, hlt'⟩
  obtain ⟨rfl, -⟩ := Prod.mk.inj (eq_of_mem_rows hm hr rfl)
  obtain ⟨rfl, -⟩ := Prod.mk.inj (eq_of_mem_rows hm' hr' rfl)
  exact Nat.lt_asymm hlt hlt'

theorem mem_listByApp {t a : String} :
    r ∈ s.listByApp t a ↔ r.isOf t a = true ∧ s.find? r.key = some r := by
  simp only [listByApp, List.mem_map, List.mem_mergeSort, List.mem_filter, find?_eq_some_iff]
  constructor
  · rintro ⟨⟨n, r⟩, ⟨hm, ho⟩, rfl⟩
    exact ⟨ho, trivial, n, hm⟩
  · rintro ⟨ho, -, n, hm⟩
    exact ⟨(n, r), ⟨hm, ho⟩, rfl⟩

theorem find?_eq_some_iff_mem_listByApp :
    s.find? k = some r ↔ r.key = k ∧ r ∈ s.listByApp k.tenant k.app := by
  rw [mem_listByApp]
  constructor
  · intro h
    obtain ⟨rfl, -⟩ := find?_eq_some_iff.1 h
    exact ⟨rfl, isOf_key r, h⟩
  · rintro ⟨rfl, -, h⟩
    exact h

/-- Rows are listed from the newest to the oldest. -/
theorem pairwise_listByApp (s : Store) (t a : String) : (s.listByApp t a).Pairwise s.Newer := by
  let rows := s.rows.filter fun e => e.2.isOf t a
  have hnodup : rows.Nodup := (s.distinct.of_map _).filter _
  have hdesc : (rows.mergeSort fun e e' => e'.1 ≤ e.1).Pairwise
      fun e e' => decide (e'.1 ≤ e.1) = true := by
    refine List.pairwise_mergeSort (fun e e' e'' h h' => ?_) (fun e e' => ?_) rows
    · exact decide_eq_true (Nat.le_trans (of_decide_eq_true h') (of_decide_eq_true h))
    · rw [Bool.or_eq_true, decide_eq_true_eq, decide_eq_true_eq]
      exact Nat.le_total ..
  have hboth := hdesc.and ((List.mergeSort_perm rows _).nodup_iff.2 hnodup)
  refine List.pairwise_map.2 (hboth.imp_of_mem fun {e e'} he he' ⟨hle, hne⟩ => ?_)
  rw [List.mem_mergeSort, List.mem_filter] at he he'
  refine ⟨e.1, e'.1, he.1, he'.1, Nat.lt_of_le_of_ne (of_decide_eq_true hle) fun hn => ?_⟩
  exact hne ((s.numbered e' he'.1).2 e he.1 hn.symm)

/-- The only list of an app's rows from the newest to the oldest is the one that is given. -/
theorem eq_listByApp {t a : String} {rows : List Row} (hnewer : rows.Pairwise s.Newer)
    (hmem : ∀ r, r ∈ rows ↔ r ∈ s.listByApp t a) : rows = s.listByApp t a := by
  have hne {rows : List Row} (h : rows.Pairwise s.Newer) : rows.Nodup :=
    h.imp fun hn he => hn.key_ne (congrArg Row.key he)
  have hlist := pairwise_listByApp s t a
  have hperm := (List.perm_ext_iff_of_nodup (hne hnewer) (hne hlist)).2 hmem
  exact hperm.eq_of_pairwise (fun _ _ _ _ h h' => absurd h' h.asymm) hnewer hlist

/-- A row that is written comes first in the list of its app, in the place of the one with its
key. -/
theorem listByApp_put (s : Store) (r : Row) (t a : String) :
    (s.put r).listByApp t a =
      if r.isOf t a then r :: (s.listByApp t a).filter (·.key ≠ r.key) else s.listByApp t a := by
  have hmem (x : Row) (hx : x ∈ (s.listByApp t a).filter (·.key ≠ r.key)) :
      x.key ≠ r.key ∧ s.find? x.key = some x := by
    rw [List.mem_filter, mem_listByApp] at hx
    exact ⟨of_decide_eq_true hx.2, hx.1.2⟩
  have hrest : ((s.listByApp t a).filter (·.key ≠ r.key)).Pairwise (s.put r).Newer := by
    refine ((pairwise_listByApp s t a).filter _).imp_of_mem fun {x y} hx hy hn => ?_
    obtain ⟨hk, hf⟩ := hmem y hy
    exact newer_put.2 ⟨hk, hf, .inr ⟨(hmem x hx).1, hn⟩⟩
  symm
  split
  · next ho =>
    refine eq_listByApp (List.pairwise_cons.2 ⟨fun x hx => ?_, hrest⟩) fun x => ?_
    · obtain ⟨hk, hf⟩ := hmem x hx
      exact newer_put.2 ⟨hk, hf, .inl rfl⟩
    · rw [List.mem_cons, List.mem_filter, mem_listByApp, mem_listByApp, find?_put,
        decide_eq_true_eq]
      by_cases hk : r.key = x.key
      · rw [if_pos hk]
        have ho' : x.isOf t a = true := by rwa [Row.isOf, ← hk]
        simp only [hk, ne_eq, not_true, and_false, or_false, ho', true_and, Option.some.injEq]
        exact eq_comm
      · rw [if_neg hk]
        have hne : x ≠ r := fun he => hk (congrArg Row.key he).symm
        simp only [hne, false_or, Ne.symm hk, ne_eq, not_false_eq_true, and_true]
  · next ho =>
    have hall : (s.listByApp t a).filter (·.key ≠ r.key) = s.listByApp t a := by
      refine List.filter_eq_self.2 fun x hx => decide_eq_true fun hk => ho ?_
      rw [Row.isOf, ← hk]
      exact (mem_listByApp.1 hx).1
    rw [hall] at hrest
    refine eq_listByApp hrest fun x => ?_
    rw [mem_listByApp, mem_listByApp, find?_put]
    refine and_congr_right fun hx => ?_
    rw [if_neg fun hk => ho (by rwa [Row.isOf, hk])]

theorem listByApp_filter (s : Store) (p : Row → Bool) (t a : String) :
    (s.filter p).listByApp t a = (s.listByApp t a).filter p := by
  refine (eq_listByApp ?_ fun r => ?_).symm
  · refine ((pairwise_listByApp s t a).filter p).imp_of_mem fun {x y} hx hy hn => ?_
    exact newer_filter.2 ⟨hn, (List.mem_filter.1 hx).2, (List.mem_filter.1 hy).2⟩
  · rw [List.mem_filter, mem_listByApp, mem_listByApp, find?_filter, Option.filter_eq_some_iff,
      and_assoc]

end Formwork.Store
