import Formwork.Proofs.Catalog.Published

/-!
What a manifest says of a folder. Its apps are sorted by their ids, each is the app of a description,
and under the id of each stands a form: that of the last description of the app, in the order of
names. So an app and the form under its id come from one file, and no id occurs twice, provided that
no two descriptions with a form describe one app.
-/
namespace Formwork.Catalog
open Formwork.Idl

/-- The ids of the apps of a manifest, in their order. -/
def listedIds (manifest : Value) : List String :=
  (listedApps manifest).filterMap fun app => (Value.get app "appId").text?

/-- The forms of a manifest by the ids of their apps. -/
def formTable (manifest : Value) : List (String × Value) :=
  membersOf (Value.get (membersOf manifest) "formsByApp")

/-- Whether a description can be read and has a root message. -/
def Source.hasForm (s : Source) (config : CompilerConfig) : Bool :=
  match s.toEntry config with
  | .ok (some _) => true
  | _ => false

/-- The descriptions that a manifest is made of, in the order of their names. -/
def published (files : List Source) (prefixes : List String) (config : CompilerConfig) :
    List Source :=
  ((descriptions files).filter fun s => !isSkipped prefixes s.name).filter (·.hasForm config)

/-- A description is that of an entry. -/
def Source.Yields (config : CompilerConfig) (s : Source) (e : Entry) : Prop :=
  s.toEntry config = .ok (some e)

/-- The app of a manifest that a description yields. -/
def Source.YieldsApp (config : CompilerConfig) (s : Source) (app : List (String × Value)) : Prop :=
  ∃ e, s.Yields config e ∧ app = membersOf e.app.toValue

/-- The forms of a manifest that a description yields. -/
def Source.YieldsForms (config : CompilerConfig) (s : Source) (forms : Value) : Prop :=
  ∃ e, s.Yields config e ∧ forms = .list [e.formValue config.defaultVersion]

/-- What the manifest of a folder is like in any case. -/
structure Lists (files : List Source) (prefixes : List String) (config : CompilerConfig)
    (manifest : Value) : Prop where
  sorted : (listedIds manifest).Pairwise (· ≤ ·)
  keys : ∀ id, id ∈ (formTable manifest).map (·.1) ↔ id ∈ listedIds manifest
  keys_nodup : ((formTable manifest).map (·.1)).Nodup
  apps : ∀ app ∈ listedApps manifest, ∃ s ∈ published files prefixes config, s.YieldsApp config app
  /-- Of the descriptions of one app, the last has its form in the manifest. -/
  forms : ∀ id forms, (id, forms) ∈ formTable manifest → ∃ before s after,
    published files prefixes config = before ++ s :: after ∧ s.app = id ∧
      id ∉ after.map Source.app ∧ s.YieldsForms config forms

/-- The apps of a manifest are distinct and sorted, they are the apps that have forms, and each comes
from the file that its form comes from. -/
structure Consistent (files : List Source) (prefixes : List String) (config : CompilerConfig)
    (manifest : Value) : Prop where
  distinct : (listedIds manifest).Nodup
  sorted : (listedIds manifest).Pairwise (· ≤ ·)
  keys : ∀ id, id ∈ (formTable manifest).map (·.1) ↔ id ∈ listedIds manifest
  together : ∀ app ∈ listedApps manifest, ∃ s ∈ published files prefixes config, ∃ forms,
    Value.get app "protoFile" = .text s.name ∧ Value.get app "appId" = .text s.app ∧
      (s.app, forms) ∈ formTable manifest ∧ s.YieldsApp config app ∧ s.YieldsForms config forms

variable {files : List Source} {prefixes : List String} {config : CompilerConfig} {s : Source}
  {e : Entry} {es : List Entry} {version : String}

/-! ### Entries -/

theorem Source.Yields.id_eq (h : s.Yields config e) : e.app.id = s.app ∧ e.app.file = s.name := by
  obtain ⟨text, -, h⟩ := bind_eq_ok_iff.1 h
  obtain ⟨d, -, h⟩ := bind_eq_ok_iff.1 h
  obtain ⟨c, -, rfl⟩ := Option.map_eq_some_iff.1 (Except.ok.inj h)
  exact ⟨rfl, rfl⟩

theorem Source.hasForm_iff : s.hasForm config = true ↔ ∃ e, s.Yields config e := by
  rw [hasForm]
  constructor
  · intro h
    split at h
    · next e he => exact ⟨e, he⟩
    · cases h
  · rintro ⟨e, he⟩
    rw [show s.toEntry config = .ok (some e) from he]

/-- The entries of some descriptions are those of the ones that have a form. -/
theorem forall₂_hasForm {ds : List Source} {found : List (Option Entry)}
    (h : List.Forall₂ (fun s o => s.toEntry config = .ok o) ds found) :
    List.Forall₂ (Source.Yields config) (ds.filter (·.hasForm config)) (found.filterMap id) := by
  induction h with
  | nil => exact .nil
  | @cons s o ds found ho _ ih =>
    cases o with
    | none =>
      have hnone : s.hasForm config = false := by rw [Source.hasForm, ho]
      rw [List.filter_cons, hnone]
      exact ih
    | some e =>
      have hsome : s.hasForm config = true := Source.hasForm_iff.2 ⟨e, ho⟩
      rw [List.filter_cons, hsome]
      exact .cons ho ih

/-- The entries of a folder, one for each description that is published. -/
theorem forall₂_published (h : entries files prefixes config = .ok es) :
    List.Forall₂ (Source.Yields config) (published files prefixes config) es := by
  obtain ⟨found, hfound, h⟩ := bind_eq_ok_iff.1 h
  obtain rfl := Except.ok.inj h
  exact forall₂_hasForm (mapM_eq_ok_iff_forall₂.1 hfound)

theorem exists_toEntry {text : List Char} {d : Document} (ht : s.text = .ok text)
    (hd : Document.read text = .ok d) (config : CompilerConfig) :
    ∃ o, s.toEntry config = .ok o := by
  cases ho : s.toEntry config with
  | ok o => exact ⟨o, rfl⟩
  | error fault =>
    rw [Source.toEntry, ht] at ho
    simp only [bind, Except.bind, hd, mapError_ok] at ho
    cases ho

/-- A folder all of whose descriptions can be read has entries. -/
theorem exists_entries (h : ∀ s ∈ descriptions files, ∃ o, s.toEntry config = .ok o)
    (prefixes : List String) : ∃ es, entries files prefixes config = .ok es := by
  obtain ⟨found, hfound⟩ := exists_forall₂ fun s hs => h s (List.mem_filter.1 hs).1
  exact ⟨found.filterMap id, by rw [entries, mapM_eq_ok_iff_forall₂.2 hfound]; rfl⟩

/-- Of two lists that are related element by element, a part of the second tells one of the first. -/
theorem exists_split_of_forall₂ {α β : Type} {r : α → β → Prop} {xs : List α} {y : β}
    {ys zs : List β} (h : List.Forall₂ r xs (ys ++ y :: zs)) :
    ∃ us x vs, xs = us ++ x :: vs ∧ r x y ∧ List.Forall₂ r vs zs := by
  induction ys generalizing xs with
  | nil =>
    obtain ⟨x, vs, hx, hvs, rfl⟩ := List.forall₂_cons_right_iff.1 h
    exact ⟨[], x, vs, rfl, hx, hvs⟩
  | cons w ys ih =>
    obtain ⟨u, xs, -, hxs, rfl⟩ := List.forall₂_cons_right_iff.1 h
    obtain ⟨us, x, vs, rfl, hx, hvs⟩ := ih hxs
    exact ⟨u :: us, x, vs, rfl, hx, hvs⟩

theorem map_app_id_eq {ds : List Source} (h : List.Forall₂ (Source.Yields config) ds es) :
    es.map (·.app.id) = ds.map Source.app := by
  induction h with
  | nil => rfl
  | cons he _ ih => rw [List.map_cons, List.map_cons, he.id_eq.1, ih]

/-! ### Manifests of entries -/

/-- The apps of a manifest as they are sorted. -/
def sortedApps (es : List Entry) : List App :=
  (es.map (·.app)).mergeSort fun a b => a.id ≤ b.id

theorem listedApps_manifest (es : List Entry) (version : String) :
    listedApps (manifest es version) = (sortedApps es).map fun a => membersOf a.toValue :=
  List.map_map

theorem listedIds_manifest (es : List Entry) (version : String) :
    listedIds (manifest es version) = (sortedApps es).map (·.id) := by
  rw [listedIds, listedApps_manifest, List.filterMap_map]
  exact congrFun (List.filterMap_eq_map (f := App.id)) _

theorem perm_listedIds (es : List Entry) (version : String) :
    (listedIds (manifest es version)).Perm (es.map (·.app.id)) := by
  have hperm := (List.mergeSort_perm (es.map (·.app)) fun a b => a.id ≤ b.id).map App.id
  rw [listedIds_manifest]
  exact hperm.trans (.of_eq List.map_map)

theorem pairwise_listedIds (es : List Entry) (version : String) :
    (listedIds (manifest es version)).Pairwise (· ≤ ·) := by
  have hsorted : (sortedApps es).Pairwise fun a b => decide (a.id ≤ b.id) = true := by
    apply List.pairwise_mergeSort
    · intro a b c hab hbc
      exact decide_eq_true (String.le_trans (of_decide_eq_true hab) (of_decide_eq_true hbc))
    · intro a b
      simpa using String.le_total a.id b.id
  rw [listedIds_manifest, List.pairwise_map]
  exact hsorted.imp of_decide_eq_true

theorem formTable_manifest (es : List Entry) (version : String) :
    formTable (manifest es version) =
      Keyed.table (es.map fun e => (e.app.id, .list [e.formValue version])) := rfl

/-- The ids under which a manifest has forms are those of its apps. -/
theorem mem_keys_iff {id : String} :
    id ∈ (formTable (manifest es version)).map (·.1) ↔ id ∈ listedIds (manifest es version) := by
  rw [formTable_manifest, Keyed.mem_map_table_iff, (perm_listedIds es version).mem_iff,
    List.map_map]
  rfl

theorem exists_yieldsApp {ds : List Source} (h : List.Forall₂ (Source.Yields config) ds es)
    {app : List (String × Value)} (happ : app ∈ listedApps (manifest es version)) :
    ∃ s ∈ ds, ∃ e ∈ es, s.Yields config e ∧ app = membersOf e.app.toValue := by
  obtain ⟨e, he, rfl⟩ := mem_listedApps_manifest happ
  obtain ⟨before, after, rfl⟩ := List.append_of_mem he
  obtain ⟨us, s, vs, rfl, hs, -⟩ := exists_split_of_forall₂ h
  exact ⟨s, List.mem_append_right _ (.head _), e, he, hs, rfl⟩

/-- Under an id stands the form of the last description of the app. -/
theorem exists_yieldsForms {ds : List Source} (h : List.Forall₂ (Source.Yields config) ds es)
    {id : String} {forms : Value}
    (hforms : (id, forms) ∈ formTable (manifest es config.defaultVersion)) :
    ∃ before s after, ds = before ++ s :: after ∧ s.app = id ∧ id ∉ after.map Source.app ∧
      s.YieldsForms config forms := by
  rw [formTable_manifest, Keyed.table, Keyed.mem_ofList_iff] at hforms
  obtain ⟨front, back, heq, hlast⟩ := hforms
  obtain ⟨fs, rest, rfl, -, hrest⟩ := List.map_eq_append_iff.1 heq
  obtain ⟨e, bs, rfl, he, rfl⟩ := List.map_eq_cons_iff.1 hrest
  obtain ⟨before, s, after, rfl, hs, hafter⟩ := exists_split_of_forall₂ h
  obtain ⟨rfl, rfl⟩ := Prod.mk.inj he
  refine ⟨before, s, after, rfl, hs.id_eq.1.symm, ?_, e, hs, rfl⟩
  rw [← map_app_id_eq hafter]
  rwa [List.map_map] at hlast

theorem lists_manifest (h : entries files prefixes config = .ok es) :
    Lists files prefixes config (manifest es config.defaultVersion) where
  sorted := pairwise_listedIds es _
  keys _ := mem_keys_iff
  keys_nodup := Keyed.nodup_map_ofList _ _
  apps app happ := by
    obtain ⟨s, hs, e, -, he, rfl⟩ := exists_yieldsApp (forall₂_published h) happ
    exact ⟨s, hs, e, he, rfl⟩
  forms _ _ := exists_yieldsForms (forall₂_published h)

/-- Where the ids of the entries are distinct, each app has the form of its own file. -/
theorem consistent_of_nodup (h : entries files prefixes config = .ok es)
    (hn : (es.map (·.app.id)).Nodup) :
    Consistent files prefixes config (manifest es config.defaultVersion) where
  distinct := (perm_listedIds es _).nodup_iff.2 hn
  sorted := pairwise_listedIds es _
  keys _ := mem_keys_iff
  together app happ := by
    obtain ⟨s, hs, e, hmem, he, rfl⟩ := exists_yieldsApp (forall₂_published h) happ
    have htable : Keyed.table (es.map fun e =>
        (e.app.id, Value.list [e.formValue config.defaultVersion])) = _ :=
      Keyed.table_of_nodup (by rwa [List.map_map])
    obtain ⟨hid, hfile⟩ := he.id_eq
    refine ⟨s, hs, .list [e.formValue config.defaultVersion], hfile ▸ rfl, hid ▸ rfl, ?_,
      ⟨e, he, rfl⟩, e, he, rfl⟩
    rw [formTable_manifest, htable, ← hid]
    exact List.mem_map_of_mem hmem

/-- The manifest of a folder is consistent exactly if no two descriptions that are published describe
one app; in any case its apps are sorted, they are those that have forms, each is the app of a
description, and the form under an id is that of the last description of the app. -/
theorem consistent_manifest_iff (h : entries files prefixes config = .ok es) :
    Lists files prefixes config (manifest es config.defaultVersion) ∧
      (Consistent files prefixes config (manifest es config.defaultVersion) ↔
        ((published files prefixes config).map Source.app).Nodup) := by
  have hids := map_app_id_eq (forall₂_published h)
  refine ⟨lists_manifest h, fun hc => ?_, fun hn => consistent_of_nodup h (hids ▸ hn)⟩
  rw [← hids]
  exact (perm_listedIds es _).nodup_iff.1 hc.distinct

theorem consistent_manifest_twoFiles :
    ∃ es, entries twoFiles ["common."] {} = .ok es ∧
      Consistent twoFiles ["common."] {} (manifest es "1.0.0") := by
  have hread : ∀ s ∈ descriptions twoFiles, ∃ o, s.toEntry {} = .ok o := by
    intro s hs
    obtain ⟨text, d, ht, hd⟩ := exists_read_of_mem_twoFiles hs
    exact exists_toEntry ht hd {}
  obtain ⟨es, hes⟩ := exists_entries hread ["common."]
  have hsublist : (published twoFiles ["common."] {}).Sublist (descriptions twoFiles) :=
    List.filter_sublist.trans List.filter_sublist
  exact ⟨es, hes, (consistent_manifest_iff hes).2.2
    (nodup_apps_twoFiles.sublist (hsublist.map Source.app))⟩

/-- Two descriptions of one app, which their names tell apart by the case of the suffix only. -/
def twins : List Source :=
  [asciiFile "a.proto" "message M \x7b string x = 1; \x7d",
    asciiFile "a.PROTO" "message N \x7b string y = 1; \x7d"]

/-- Of two descriptions of one app both are listed, but there is one place for their forms. -/
theorem not_consistent_twins :
    ¬ ∀ (files : List Source) (prefixes : List String) (config : CompilerConfig) (es : List Entry),
      entries files prefixes config = .ok es →
        Consistent files prefixes config (manifest es config.defaultVersion) := by
  intro h
  have hform : ∀ s ∈ twins, s.hasForm {} = true := by decide +kernel
  have hread : ∀ s ∈ descriptions twins, ∃ o, s.toEntry {} = .ok o := by
    intro s hs
    obtain ⟨e, he⟩ := Source.hasForm_iff.1 (hform s (List.mem_filter.1 (List.mem_mergeSort.1 hs)).1)
    exact ⟨some e, he⟩
  obtain ⟨es, hes⟩ := exists_entries hread []
  have hn : ((published twins [] {}).map Source.app).Nodup := by
    rw [← map_app_id_eq (forall₂_published hes)]
    exact (perm_listedIds es _).nodup_iff.1 (h _ _ _ _ hes).distinct
  have hperm : ((published twins [] {}).map Source.app).Perm ((((twins.filter fun f =>
      isDescription f.name).filter fun s => !isSkipped [] s.name).filter (·.hasForm {})).map
        Source.app) := (((List.mergeSort_perm _ _).filter _).filter _).map _
  exact absurd (hperm.nodup_iff.1 hn) (by decide +kernel)

end Formwork.Catalog
