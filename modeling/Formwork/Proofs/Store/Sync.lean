import Formwork.Proofs.Store.Rows
import Formwork.Store.Sync
import Mathlib.Data.List.Induction

/-!
What is in a store after it was brought in step with a folder: for each app with a description that
compiles, the forms that its descriptions compile to and no others; for every other app what was
there before. Doing it again removes nothing and changes no more than times.
-/
namespace Formwork.Store
open Formwork.Catalog

/-- What becomes of a description. -/
inductive Fate
  | synced (form : Form)
  | failed (e : SourceError)
  | skipped

def Fate.form? : Fate → Option Form
  | .synced f => some f
  | _ => none

def Fate.synced? (s : Source) : Fate → Option SyncedForm
  | .synced f => some ⟨s.app, f.name, f.version⟩
  | _ => none

def Fate.failed? (s : Source) : Fate → Option (String × SourceError)
  | .failed e => some (s.name, e)
  | _ => none

def Fate.skipped? (s : Source) : Fate → Option String
  | .skipped => some s.app
  | _ => none

/-- Of the forms with one name the last; the last form of all comes first. -/
def newestForms (fs : List Form) : List Form :=
  fs.foldl (fun kept f => f :: kept.filter (·.name ≠ f.name)) []

theorem newestForms_snoc (fs : List Form) (f : Form) :
    newestForms (fs ++ [f]) = f :: (newestForms fs).filter (·.name ≠ f.name) := by
  rw [newestForms, List.foldl_append]
  rfl

theorem exists_mem_newestForms {fs : List Form} {f : Form} (hf : f ∈ fs) :
    ∃ g ∈ newestForms fs, g.name = f.name := by
  induction fs using List.reverseRecOn with
  | nil => cases hf
  | append_singleton fs last ih =>
    rw [newestForms_snoc]
    by_cases hn : last.name = f.name
    · exact ⟨last, .head _, hn⟩
    · rw [List.mem_append, List.mem_singleton] at hf
      obtain ⟨g, hg, hgn⟩ := ih (hf.resolve_right fun he => hn (he ▸ rfl))
      refine ⟨g, .tail _ (List.mem_filter.2 ⟨hg, decide_eq_true ?_⟩), hgn⟩
      rw [hgn]
      exact Ne.symm hn

theorem mem_of_mem_newestForms {fs : List Form} {f : Form} (hf : f ∈ newestForms fs) : f ∈ fs := by
  induction fs using List.reverseRecOn with
  | nil => exact hf
  | append_singleton fs last ih =>
    rw [newestForms_snoc] at hf
    cases hf with
    | head => exact List.mem_append_right _ (.head _)
    | tail _ hf => exact List.mem_append_left _ (ih (List.mem_filter.1 hf).1)

section

variable (tenant : String) (config : CompilerConfig) (now : Moment)

def fate (s : Source) : Fate :=
  match compileSource tenant config now s with
  | .error e => .failed e
  | .ok (none, _) => .skipped
  | .ok (some f, _) => .synced f

/-- The forms that the descriptions of an app compile to. -/
def appForms (ds : List Source) (app : String) : List Form :=
  ds.filterMap fun s => if s.app = app then (fate tenant config now s).form? else none

/-- The row of a form that is synced to a store. -/
def syncedRow (store : Store) (app : String) (f : Form) : Row :=
  let key : Key := ⟨tenant, app, f.name⟩
  ⟨key, f.version, .published, formMembers f,
    ((store.find? key).map (·.createdAt)).getD now, now⟩

end

variable {tenant : String} {config : CompilerConfig} {now : Moment} {store : Store}
  {ds : List Source} {p : Progress}

theorem take_store (p : Progress) (s : Source) :
    (p.take tenant config now s).store =
      match fate tenant config now s with
      | .synced f =>
        (p.store.upsert ⟨tenant, s.app, f.name⟩ f.version .published (formMembers f) now).1
      | _ => p.store := by
  rw [Progress.take, fate]
  cases compileSource tenant config now s with
  | error e => rfl
  | ok x =>
    obtain ⟨form, told⟩ := x
    cases form <;> rfl

theorem take_report (p : Progress) (s : Source) :
    (p.take tenant config now s).report =
      { synced := p.report.synced ++ ((fate tenant config now s).synced? s).toList
        failed := p.report.failed ++ ((fate tenant config now s).failed? s).toList
        skipped := p.report.skipped ++ ((fate tenant config now s).skipped? s).toList
        removed := p.report.removed } := by
  rw [Progress.take, fate]
  cases compileSource tenant config now s with
  | error e => simp [Fate.synced?, Fate.failed?, Fate.skipped?]
  | ok x =>
    obtain ⟨form, told⟩ := x
    cases form <;> simp [Fate.synced?, Fate.failed?, Fate.skipped?]

/-- A store while it is brought in step: some descriptions have been taken, and of some apps the
other forms have been removed. -/
structure InStep (tenant : String) (config : CompilerConfig) (now : Moment) (store : Store)
    (ds : List Source) (pruned : List String) (s : Store) : Prop where
  listed : ∀ app, s.listByApp tenant app =
    (newestForms (appForms tenant config now ds app)).map (syncedRow tenant now store app) ++
      if app ∈ pruned then [] else (store.listByApp tenant app).filter fun r =>
        r.key.form ∉ (appForms tenant config now ds app).map (·.name)
  others : ∀ t app, t ≠ tenant → s.listByApp t app = store.listByApp t app

/-! ### Taking descriptions -/

theorem filterMap_cons_eq_append {α β : Type} (part : α → Option β) (x : α) (xs : List α) :
    (x :: xs).filterMap part = (part x).toList ++ xs.filterMap part := by
  rw [List.filterMap_cons]
  cases part x <;> rfl

/-- What the descriptions add to a report, each to one of its lists. -/
theorem report_foldl_take (ds : List Source) (p : Progress) :
    (ds.foldl (Progress.take tenant config now) p).report =
      { synced := p.report.synced ++ ds.filterMap fun s => (fate tenant config now s).synced? s
        failed := p.report.failed ++ ds.filterMap fun s => (fate tenant config now s).failed? s
        skipped := p.report.skipped ++ ds.filterMap fun s => (fate tenant config now s).skipped? s
        removed := p.report.removed } := by
  induction ds generalizing p with
  | nil => simp
  | cons d ds ih =>
    rw [List.foldl_cons, ih, take_report]
    simp only [filterMap_cons_eq_append, List.append_assoc]

theorem appForms_snoc (s : Source) (app : String) :
    appForms tenant config now (ds ++ [s]) app = appForms tenant config now ds app ++
      if s.app = app then (fate tenant config now s).form?.toList else [] := by
  rw [appForms, appForms, List.filterMap_append]
  split
  · next h =>
    cases hf : (fate tenant config now s).form? <;> simp [h, hf]
  · next h => simp [h]

theorem isOf_syncedRow (store : Store) (app : String) (f : Form) :
    (syncedRow tenant now store app f).isOf tenant app = true := isOf_iff.2 ⟨rfl, rfl⟩

/-- What is listed after the form of one more description is written. -/
theorem InStep.put {s : Store} (h : InStep tenant config now store ds [] s) {d : Source} {f : Form}
    (hf : fate tenant config now d = .synced f) :
    InStep tenant config now store (ds ++ [d]) []
      (s.put (syncedRow tenant now store d.app f)) := by
  constructor
  · intro app
    rw [listByApp_put, appForms_snoc, hf]
    by_cases happ : d.app = app
    · subst happ
      have hnew {rows : List Row} (hrows : ∀ r ∈ rows, r.isOf tenant d.app = true) :
          rows.filter (·.key ≠ (syncedRow tenant now store d.app f).key) =
            rows.filter fun r => r.key.form ≠ f.name := by
        refine List.filter_congr fun r hr => ?_
        exact decide_eq_decide.2 (not_congr (key_eq_iff_of_isOf (hrows r hr)))
      have hold : ∀ r ∈ s.listByApp tenant d.app, r.isOf tenant d.app = true :=
        fun r hr => (mem_listByApp.1 hr).1
      have hforms : (Fate.synced f).form?.toList = [f] := rfl
      rw [if_pos (isOf_syncedRow store d.app f), hnew hold, h.listed d.app, if_pos rfl, hforms,
        newestForms_snoc, if_neg List.not_mem_nil, if_neg List.not_mem_nil, List.filter_append,
        List.filter_map, List.filter_filter, List.map_append]
      congr 2
      refine List.filter_congr fun r hr => ?_
      rw [← Bool.decide_and]
      refine decide_eq_decide.2 ?_
      rw [List.mem_append, not_or, List.map_singleton, List.mem_singleton]
      exact and_comm
    · have ho : ¬(syncedRow tenant now store d.app f).isOf tenant app = true := by
        rw [isOf_iff]
        exact fun hk => happ hk.2
      rw [if_neg ho, if_neg happ, List.append_nil, h.listed app]
  · intro t app ht
    have ho : ¬(syncedRow tenant now store d.app f).isOf t app = true := by
      rw [isOf_iff]
      exact fun hk => ht hk.1.symm
    rw [listByApp_put, if_neg ho]
    exact h.others t app ht

theorem InStep.pass {s : Store} (h : InStep tenant config now store ds [] s) {d : Source}
    (hf : (fate tenant config now d).form? = none) :
    InStep tenant config now store (ds ++ [d]) [] s := by
  have hforms (app : String) :
      appForms tenant config now (ds ++ [d]) app = appForms tenant config now ds app := by
    rw [appForms_snoc, hf]
    split <;> exact List.append_nil _
  constructor
  · intro app
    rw [hforms, h.listed app]
  · exact h.others

/-- What one description keeps: besides what is listed, when a form is said to be created. -/
theorem InStep.take (h : InStep tenant config now store ds [] p.store)
    (hc : ∀ k, ((p.store.find? k).map (·.createdAt)).getD now =
      ((store.find? k).map (·.createdAt)).getD now) (d : Source) :
    InStep tenant config now store (ds ++ [d]) [] (p.take tenant config now d).store ∧
      ∀ k, (((p.take tenant config now d).store.find? k).map (·.createdAt)).getD now =
        ((store.find? k).map (·.createdAt)).getD now := by
  rw [take_store]
  cases hf : fate tenant config now d with
  | synced f =>
    have hput : (p.store.upsert ⟨tenant, d.app, f.name⟩ f.version .published (formMembers f) now).1 =
        p.store.put (syncedRow tenant now store d.app f) := by
      simp only [upsert, syncedRow, hc]
    dsimp only
    rw [hput]
    refine ⟨h.put hf, fun k => ?_⟩
    rw [find?_put]
    split
    · next hk =>
      rw [← hk]
      rfl
    · exact hc k
  | failed e | skipped => exact ⟨h.pass (by rw [hf]; rfl), hc⟩

/-- What one description keeps, all of them keep. -/
theorem inStep_foldl_take (store : Store) (ds : List Source) :
    InStep tenant config now store ds []
        (ds.foldl (Progress.take tenant config now) { store }).store ∧
      ∀ k, (((ds.foldl (Progress.take tenant config now) { store }).store.find? k).map
        (·.createdAt)).getD now = ((store.find? k).map (·.createdAt)).getD now := by
  induction ds using List.reverseRecOn with
  | nil =>
    refine ⟨⟨fun app => ?_, fun _ _ _ => rfl⟩, fun _ => rfl⟩
    have hall (r : Row) (_ : r ∈ store.listByApp tenant app) :
        decide (r.key.form ∉ ([] : List Form).map (·.name)) = true := decide_eq_true List.not_mem_nil
    exact (List.filter_eq_self.2 hall).symm
  | append_singleton ds d ih =>
    rw [List.foldl_append]
    exact ih.1.take ih.2 d

/-! ### Removing other forms -/

theorem mem_names_appForms {app : String} {f : Form}
    (hf : f ∈ newestForms (appForms tenant config now ds app)) :
    f.name ∈ (appForms tenant config now ds app).map (·.name) :=
  List.mem_map_of_mem (mem_of_mem_newestForms hf)

/-- The forms of an app that are left when its others are removed. -/
theorem InStep.prune {s : Store} {pruned : List String}
    (h : InStep tenant config now store ds pruned s) (app : String) :
    InStep tenant config now store ds (pruned ++ [app])
      (s.keepOnly tenant app ((appForms tenant config now ds app).map (·.name))).1 := by
  let forms := (appForms tenant config now ds app).map (·.name)
  have hother {t a : String} (hne : ¬(t = tenant ∧ a = app)) :
      (s.keepOnly tenant app forms).1.listByApp t a = s.listByApp t a := by
    rw [keepOnly, listByApp_filter]
    refine List.filter_eq_self.2 fun r hr => ?_
    rw [Bool.not_eq_true', ← Bool.not_eq_true, isStale_iff]
    rintro ⟨ht, ha, -⟩
    have ho := isOf_iff.1 (mem_listByApp.1 hr).1
    exact hne ⟨ho.1.symm.trans ht, ho.2.symm.trans ha⟩
  constructor
  · intro a
    by_cases ha : a = app
    · subst ha
      rw [if_pos (List.mem_append_right _ (.head _)), List.append_nil, keepOnly, listByApp_filter,
        h.listed a, List.filter_append]
      have hkept : ∀ r ∈ (newestForms (appForms tenant config now ds a)).map
          (syncedRow tenant now store a), (!r.isStale tenant a forms) = true := by
        intro r hr
        obtain ⟨f, hf, rfl⟩ := List.mem_map.1 hr
        rw [Bool.not_eq_true', ← Bool.not_eq_true, isStale_iff]
        exact fun hs => hs.2.2 (mem_names_appForms hf)
      have hgone : (if a ∈ pruned then [] else (store.listByApp tenant a).filter
          fun r => r.key.form ∉ forms).filter (fun r => !r.isStale tenant a forms) = [] := by
        split
        · rfl
        · refine List.filter_eq_nil_iff.2 fun r hr => ?_
          rw [List.mem_filter, mem_listByApp, isOf_iff, decide_eq_true_eq] at hr
          obtain ⟨⟨⟨ht, ha⟩, -⟩, hf⟩ := hr
          rw [Bool.not_eq_true', Bool.not_eq_false, isStale_iff]
          exact ⟨ht, ha, hf⟩
      rw [List.filter_eq_self.2 hkept, hgone, List.append_nil]
    · rw [hother fun hk => ha hk.2, h.listed a]
      simp only [List.mem_append, List.mem_singleton, ha, or_false]
  · intro t a ht
    rw [hother fun hk => ht hk.1, h.others t a ht]

section

variable (tenant config now)

/-- The forms by which an app is pruned are those that its descriptions compile to. -/
theorem names_synced (ds : List Source) (app : String) :
    ((ds.filterMap fun s => (fate tenant config now s).synced? s).filter (·.app == app)).map
      (·.form) = (appForms tenant config now ds app).map (·.name) := by
  rw [appForms, List.filter_filterMap, List.map_filterMap, List.map_filterMap]
  congr 1
  funext s
  cases fate tenant config now s with
  | synced f =>
    by_cases ha : s.app = app
    · simp [Fate.synced?, Fate.form?, Option.filter, ha]
    · simp [Fate.synced?, Option.filter, ha]
  | failed e | skipped => simp [Fate.synced?, Fate.form?]

theorem mem_apps_synced (ds : List Source) (app : String) :
    app ∈ (ds.filterMap fun s => (fate tenant config now s).synced? s).map (·.app) ↔
      appForms tenant config now ds app ≠ [] := by
  rw [ne_eq, ← List.map_eq_nil_iff (f := Form.name), ← names_synced, List.map_eq_nil_iff,
    List.filter_eq_nil_iff, List.mem_map]
  simp only [beq_iff_eq, not_forall, not_not, exists_prop]

end

theorem foldl_prune_report (apps : List String) (p : Progress) :
    (apps.foldl (Progress.prune tenant) p).report =
      { p.report with removed := (apps.foldl (Progress.prune tenant) p).report.removed } := by
  induction apps generalizing p with
  | nil => rfl
  | cons app apps ih =>
    rw [List.foldl_cons, ih]
    rfl

theorem InStep.foldl_prune {pruned : List String}
    (h : InStep tenant config now store ds pruned p.store)
    (hs : p.report.synced = ds.filterMap fun s => (fate tenant config now s).synced? s)
    (apps : List String) :
    InStep tenant config now store ds (pruned ++ apps)
      (apps.foldl (Progress.prune tenant) p).store := by
  induction apps generalizing pruned p with
  | nil => rwa [List.append_nil]
  | cons app apps ih =>
    have hp : InStep tenant config now store ds (pruned ++ [app]) (p.prune tenant app).store := by
      have hnames := names_synced tenant config now ds app
      rw [← hs] at hnames
      rw [Progress.prune, hnames]
      exact h.prune app
    rw [List.append_cons]
    exact ih hp hs

theorem find?_foldl_prune_of_none {k : Key} (apps : List String) (h : p.store.find? k = none) :
    (apps.foldl (Progress.prune tenant) p).store.find? k = none := by
  induction apps generalizing p with
  | nil => exact h
  | cons app apps ih =>
    refine ih ?_
    rw [Progress.prune, keepOnly, find?_filter, h]
    rfl

/-- The number of removed rows is that of the keys that are found before and not after. -/
theorem removed_foldl_prune (tenant : String) (apps : List String) (p : Progress) :
    ∃ gone : List Key,
      (apps.foldl (Progress.prune tenant) p).report.removed = p.report.removed + gone.length ∧
      gone.Nodup ∧ ∀ k, k ∈ gone ↔ (∃ r, p.store.find? k = some r) ∧
        (apps.foldl (Progress.prune tenant) p).store.find? k = none := by
  induction apps generalizing p with
  | nil =>
    refine ⟨[], rfl, .nil, fun k => ?_⟩
    refine iff_of_false List.not_mem_nil ?_
    rintro ⟨⟨r, hr⟩, hn⟩
    rw [List.foldl_nil, hr] at hn
    cases hn
  | cons app apps ih =>
    obtain ⟨gone, hcount, hnodup, hgone⟩ := ih (p.prune tenant app)
    let forms := (p.report.synced.filter (·.app == app)).map (·.form)
    let now := (p.store.keepOnly tenant app forms).2.map (·.key)
    have hnow (k : Key) : k ∈ now ↔
        (∃ r, p.store.find? k = some r) ∧ (p.prune tenant app).store.find? k = none :=
      mem_map_keepOnly_snd
    refine ⟨now ++ gone, ?_, ?_, fun k => ?_⟩
    · rw [List.foldl_cons, hcount, List.length_append, List.length_map]
      exact Nat.add_assoc ..
    · refine List.nodup_append.2 ⟨nodup_keepOnly_snd .., hnodup, ?_⟩
      rintro k hk _ hk' rfl
      obtain ⟨⟨r, hr⟩, -⟩ := (hgone k).1 hk'
      rw [((hnow k).1 hk).2] at hr
      cases hr
    · rw [List.mem_append, hnow, hgone, List.foldl_cons]
      constructor
      · rintro (⟨hr, hn⟩ | ⟨⟨r, hr⟩, hn⟩)
        · exact ⟨hr, find?_foldl_prune_of_none apps hn⟩
        · rw [Progress.prune, keepOnly, find?_filter, Option.filter_eq_some_iff] at hr
          exact ⟨⟨r, hr.1⟩, hn⟩
      · rintro ⟨hr, hn⟩
        cases hf : (p.prune tenant app).store.find? k with
        | none => exact .inl ⟨hr, rfl⟩
        | some r => exact .inr ⟨⟨r, rfl⟩, hn⟩

/-- The keys that are found while the store is brought in step. -/
theorem InStep.exists_find?_iff {s : Store} {pruned : List String}
    (h : InStep tenant config now store ds pruned s) (k : Key) :
    (∃ r, s.find? k = some r) ↔
      k.tenant = tenant ∧ k.form ∈ (appForms tenant config now ds k.app).map (·.name) ∨
      (∃ r, store.find? k = some r) ∧ ¬(k.tenant = tenant ∧ k.app ∈ pruned) := by
  simp only [find?_eq_some_iff_mem_listByApp]
  by_cases ht : k.tenant = tenant
  · subst ht
    rw [h.listed]
    simp only [true_and]
    constructor
    · rintro ⟨r, hk, hr⟩
      rcases List.mem_append.1 hr with hr | hr
      · obtain ⟨f, hf, rfl⟩ := List.mem_map.1 hr
        rw [← hk]
        exact .inl (mem_names_appForms hf)
      · split at hr
        · cases hr
        · next happ => exact .inr ⟨⟨r, hk, (List.mem_filter.1 hr).1⟩, happ⟩
    · intro hor
      by_cases hform : k.form ∈ (appForms k.tenant config now ds k.app).map (·.name)
      · obtain ⟨g, hg, hn⟩ := List.mem_map.1 hform
        obtain ⟨f, hf, hfn⟩ := exists_mem_newestForms hg
        refine ⟨syncedRow k.tenant now store k.app f, ?_, ?_⟩
        · rw [syncedRow, hfn, hn]
        · exact List.mem_append_left _ (List.mem_map_of_mem hf)
      · obtain ⟨⟨r, hk, hr⟩, happ⟩ := hor.resolve_left hform
        refine ⟨r, hk, List.mem_append_right _ ?_⟩
        rw [if_neg happ, List.mem_filter, hk]
        exact ⟨hr, decide_eq_true hform⟩
  · rw [h.others _ _ ht]
    simp only [ht, false_and, false_or, not_false_eq_true, and_true]

/-! ### The whole run -/

/-- What bringing a store in step does. -/
structure Synced (tenant : String) (config : CompilerConfig) (now : Moment) (store : Store)
    (files : List Source) (p : Progress) : Prop where
  /-- The rows of an app with a description that compiles are those of its forms, the last
  description of a form counting. -/
  listed : ∀ app, appForms tenant config now (descriptions files) app ≠ [] →
    p.store.listByApp tenant app =
      (newestForms (appForms tenant config now (descriptions files) app)).map
        (syncedRow tenant now store app)
  untouched : ∀ t app, t ≠ tenant ∨ appForms tenant config now (descriptions files) app = [] →
    p.store.listByApp t app = store.listByApp t app
  synced : p.report.synced =
    (descriptions files).filterMap fun s => (fate tenant config now s).synced? s
  failed : p.report.failed =
    (descriptions files).filterMap fun s => (fate tenant config now s).failed? s
  skipped : p.report.skipped =
    (descriptions files).filterMap fun s => (fate tenant config now s).skipped? s
  accounted : p.report.synced.length + p.report.failed.length + p.report.skipped.length =
    (descriptions files).length
  /-- As many rows are said to be removed as there are keys that have a row before and none
  after. -/
  removed : ∃ gone : List Key, p.report.removed = gone.length ∧ gone.Nodup ∧
    ∀ k, k ∈ gone ↔ (∃ r, store.find? k = some r) ∧ p.store.find? k = none

/-- Each fate is told in one list. -/
theorem Fate.length_parts (s : Source) (x : Fate) :
    (x.synced? s).toList.length + (x.failed? s).toList.length + (x.skipped? s).toList.length = 1 := by
  cases x <;> rfl

theorem length_fates (ds : List Source) :
    (ds.filterMap fun s => (fate tenant config now s).synced? s).length +
      (ds.filterMap fun s => (fate tenant config now s).failed? s).length +
      (ds.filterMap fun s => (fate tenant config now s).skipped? s).length = ds.length := by
  induction ds with
  | nil => rfl
  | cons d ds ih =>
    have hone := (fate tenant config now d).length_parts d
    simp only [filterMap_cons_eq_append, List.length_append, List.length_cons]
    omega

theorem synced_sync (store : Store) (files : List Source) (tenant : String)
    (config : CompilerConfig) (now : Moment) :
    Synced tenant config now store files (sync store files tenant config now) := by
  let ds := descriptions files
  let taken := ds.foldl (Progress.take tenant config now) { store }
  let apps := (taken.report.synced.map (·.app)).eraseDups
  have hreport : taken.report = _ := report_foldl_take ds { store }
  have hfinal : (sync store files tenant config now).report = _ := foldl_prune_report apps taken
  have htaken : InStep tenant config now store ds [] taken.store := (inStep_foldl_take store ds).1
  have hsynced : taken.report.synced =
      ds.filterMap fun s => (fate tenant config now s).synced? s := by rw [hreport]; rfl
  have hstep : InStep tenant config now store ds apps (sync store files tenant config now).store :=
    htaken.foldl_prune hsynced apps
  have happs (app : String) : app ∈ apps ↔ appForms tenant config now ds app ≠ [] := by
    rw [← mem_apps_synced, ← hsynced]
    exact List.mem_eraseDups
  constructor
  case listed =>
    intro app happ
    rw [hstep.listed, if_pos ((happs app).2 happ), List.append_nil]
  case untouched =>
    intro t app h
    by_cases ht : t = tenant
    · subst ht
      have hnone : appForms t config now ds app = [] := h.resolve_left fun hne => hne rfl
      have happ : app ∉ apps := fun hm => (happs app).1 hm hnone
      rw [hstep.listed, hnone, if_neg happ]
      exact List.filter_eq_self.2 fun r _ => decide_eq_true List.not_mem_nil
    · exact hstep.others t app ht
  case removed =>
    obtain ⟨gone, hcount, hnodup, hgone⟩ := removed_foldl_prune tenant apps taken
    refine ⟨gone, ?_, hnodup, fun k => ?_⟩
    · rw [hreport] at hcount
      exact hcount.trans (Nat.zero_add _)
    · rw [hgone]
      refine and_congr_left fun hnone => ?_
      -- The forms that are synced keep their rows: a row that disappears was there before.
      have hk : ¬(k.tenant = tenant ∧
          k.form ∈ (appForms tenant config now ds k.app).map (·.name)) := by
        intro hs
        obtain ⟨r, hr⟩ := (hstep.exists_find?_iff k).2 (.inl hs)
        exact Option.some_ne_none r (hr.symm.trans hnone)
      rw [htaken.exists_find?_iff, or_iff_right hk]
      exact and_iff_left fun hm => List.not_mem_nil hm.2
  case accounted =>
    rw [hfinal, hreport]
    exact length_fates ds
  all_goals
    rw [hfinal, hreport]
    rfl

end Formwork.Store
