import Formwork.Catalog.App
import Formwork.Proofs.Fallible
import Formwork.Proofs.Form.Loading
import Formwork.Proofs.Idl.Stripping
import Formwork.Proofs.Keyed
import Formwork.Proofs.Store.Sync

/-!
What is published. A manifest of a folder and a store that is brought in step with it hold the same
forms, provided that every description can be read and that no two describe one app: the same apps,
names and versions, and fields that load alike. The apps of the manifest are named as in the
catalog.
-/
namespace Formwork.Catalog
open Formwork.Idl Formwork.Store

/-! ### Reading a manifest -/

def membersOf : Value → List (String × Value)
  | .object ms => ms
  | _ => []

def itemsOf : Value → List Value
  | .list vs => vs
  | _ => []

/-- The members of each app of a manifest. -/
def listedApps (manifest : Value) : List (List (String × Value)) :=
  (itemsOf (Value.get (membersOf manifest) "apps")).map membersOf

/-- The members of each form of a manifest. -/
def listedForms (manifest : Value) : List (List (String × Value)) :=
  (membersOf (Value.get (membersOf manifest) "formsByApp")).flatMap fun (_, forms) =>
    (itemsOf forms).map membersOf

/-- The app, the name and the version of a form of a manifest. -/
def listedAs? (form : List (String × Value)) : Option SyncedForm := do
  pure ⟨← (Value.get form "appId").text?, ← (Value.get form "formName").text?,
    ← (Value.get form "version").text?⟩

/-- The name under which a form is synced. -/
def Entry.synced (e : Entry) (version : String) : SyncedForm :=
  ⟨e.app.id, e.form.root.name, version⟩

/-! ### One description -/

section

variable (tenant : String) (config : CompilerConfig) (now : Moment)

/-- The form that an entry is synced as. -/
def Entry.toForm (e : Entry) : Form :=
  e.form.toForm config.defaultVersion ⟨.published, some tenant, now⟩

/-- What becomes of a description in the manifest, the store and the catalog. -/
structure Described (s : Source) (o : Option Entry) : Prop where
  entry : s.toEntry config = .ok o
  fate : Store.fate tenant config now s =
    (o.map fun e => Fate.synced (e.toForm tenant config now)).getD .skipped
  app : ∃ a, s.toApp = .ok a ∧ a.file = s.name ∧
    ∀ e ∈ o, e.app.id = s.app ∧ e.app.file = s.name ∧ e.app.name = a.name

end

variable {tenant : String} {config : CompilerConfig} {now : Moment} {s : Source}

theorem exists_described {text : List Char} {d : Document} (ht : s.text = .ok text)
    (hd : Document.read text = .ok d) : ∃ o, Described tenant config now s o := by
  have hoptions : d.options = fileOptions text := by
    obtain ⟨messages, -, he⟩ := bind_eq_ok_iff.1 hd
    rw [← Except.ok.inj he]
    exact fileOptions_stripBlockComments text
  refine ⟨(Document.compile d s.app config).1.map
    (⟨App.ofOptions s d.options fun _ => "Generated from " ++ s.name, ·⟩), ?_, ?_, ?_⟩
  · rw [Source.toEntry, ht]
    simp only [bind, Except.bind, hd, mapError_ok]
    rfl
  · rw [fate, compileSource, ht]
    simp only [bind, Except.bind, compile, hd]
    cases (Document.compile d s.app config).1 <;> rfl
  · refine ⟨_, by rw [Source.toApp, ht]; rfl, rfl, ?_⟩
    intro e he
    obtain ⟨c, -, rfl⟩ := Option.map_eq_some_iff.1 he
    exact ⟨rfl, rfl, by rw [hoptions]; rfl⟩

/-! ### All descriptions -/

variable {ds : List Source} {found : List (Option Entry)}

theorem described_apps (h : List.Forall₂ (Described tenant config now) ds found) :
    ∃ as, ds.mapM Source.toApp = .ok as ∧
      ∀ e ∈ found.filterMap id, ∃ a ∈ as, a.file = e.app.file ∧ a.name = e.app.name := by
  induction h with
  | nil => exact ⟨[], rfl, nofun⟩
  | @cons s o ds found ho _ ih =>
    obtain ⟨as, has, hnames⟩ := ih
    obtain ⟨a, ha, hfile, happ⟩ := ho.app
    refine ⟨a :: as, ?_, ?_⟩
    · rw [List.mapM_cons, ha, has]
      rfl
    · intro e he
      obtain ⟨_, ho, rfl⟩ := List.mem_filterMap.1 he
      rcases List.mem_cons.1 ho with rfl | ho
      · obtain ⟨-, hefile, hename⟩ := happ e rfl
        exact ⟨a, .head _, hfile.trans hefile.symm, hename.symm⟩
      · obtain ⟨b, hb, hfile, hname⟩ := hnames e (List.mem_filterMap.2 ⟨_, ho, rfl⟩)
        exact ⟨b, .tail _ hb, hfile, hname⟩

/-- The entries are the forms that are synced, in their order. -/
theorem described_synced (h : List.Forall₂ (Described tenant config now) ds found) :
    (found.filterMap id).map (·.synced config.defaultVersion) =
      ds.filterMap fun s => (fate tenant config now s).synced? s := by
  induction h with
  | nil => rfl
  | @cons s o ds found ho _ ih =>
    obtain ⟨a, -, -, happ⟩ := ho.app
    rw [filterMap_cons_eq_append, filterMap_cons_eq_append, List.map_append, ih, ho.fate]
    cases o with
    | none => rfl
    | some e =>
      obtain ⟨hid, -⟩ := happ e rfl
      simp only [id, Option.toList, List.map_cons, List.map_nil, Fate.synced?, Entry.synced, hid]
      rfl

/-- Each entry comes from a description of its app. -/
theorem exists_fate_of_mem (h : List.Forall₂ (Described tenant config now) ds found) {e : Entry}
    (he : e ∈ found.filterMap id) : ∃ s ∈ ds, s.app = e.app.id ∧
      fate tenant config now s = .synced (e.toForm tenant config now) := by
  induction h with
  | nil => cases he
  | @cons s o ds found ho _ ih =>
    obtain ⟨_, hm, rfl⟩ := List.mem_filterMap.1 he
    rcases List.mem_cons.1 hm with rfl | hm
    · obtain ⟨a, -, -, happ⟩ := ho.app
      exact ⟨s, .head _, (happ e rfl).1.symm, ho.fate⟩
    · obtain ⟨s', hs, hfate⟩ := ih (List.mem_filterMap.2 ⟨_, hm, rfl⟩)
      exact ⟨s', .tail _ hs, hfate⟩

/-- The apps of the entries are those of the descriptions, some left out. -/
theorem sublist_described (h : List.Forall₂ (Described tenant config now) ds found) :
    ((found.filterMap id).map (·.app.id)).Sublist (ds.map Source.app) := by
  induction h with
  | nil => exact .refl _
  | @cons s o ds found ho _ ih =>
    obtain ⟨a, -, -, happ⟩ := ho.app
    cases o with
    | none => exact .cons _ ih
    | some e =>
      have hhead : (some e :: found).filterMap id = e :: found.filterMap id := rfl
      rw [hhead, List.map_cons, List.map_cons, (happ e rfl).1]
      exact .cons_cons _ ih

/-- An app with one description has the form of that description. -/
theorem appForms_of_nodup (hn : (ds.map Source.app).Nodup) (hs : s ∈ ds) :
    appForms tenant config now ds s.app = (fate tenant config now s).form?.toList := by
  induction ds with
  | nil => cases hs
  | cons d ds ih =>
    rw [List.map_cons, List.nodup_cons] at hn
    rw [appForms, filterMap_cons_eq_append]
    rcases List.mem_cons.1 hs with rfl | hs
    · have hnone : (ds.filterMap fun t =>
          if t.app = s.app then (fate tenant config now t).form? else none) = [] := by
        refine List.filterMap_eq_nil_iff.2 fun t ht => if_neg fun he => hn.1 ?_
        exact he ▸ List.mem_map_of_mem ht
      rw [hnone, if_pos rfl, List.append_nil]
    · have hne : d.app ≠ s.app := fun he => hn.1 (he ▸ List.mem_map_of_mem hs)
      rw [if_neg hne]
      exact ih hn.2 hs

/-! ### Manifests -/

/-- The members of the form of an entry. -/
def Entry.members (e : Entry) (version : String) : List (String × Value) :=
  membersOf (e.formValue version)

theorem listedForms_manifest {es : List Entry} (hn : (es.map (·.app.id)).Nodup) (version : String) :
    listedForms (manifest es version) = es.map (·.members version) := by
  have htable : Keyed.table (es.map fun e => (e.app.id, Value.list [e.formValue version])) =
      es.map fun e => (e.app.id, .list [e.formValue version]) := by
    apply Keyed.table_of_nodup
    rw [List.map_map]
    exact hn
  have hforms : Value.get (membersOf (manifest es version)) "formsByApp" =
      .object (Keyed.table (es.map fun e => (e.app.id, .list [e.formValue version]))) := rfl
  rw [listedForms, hforms, htable, membersOf, List.flatMap_map]
  simp only [itemsOf, List.map_cons, List.map_nil]
  exact List.map_eq_flatMap.symm

theorem mem_listedApps_manifest {es : List Entry} {version : String} {ms : List (String × Value)}
    (h : ms ∈ listedApps (manifest es version)) : ∃ e ∈ es, ms = membersOf e.app.toValue := by
  obtain ⟨v, hv, rfl⟩ := List.mem_map.1 h
  obtain ⟨a, ha, rfl⟩ := List.mem_map.1 hv
  rw [List.mem_mergeSort] at ha
  obtain ⟨e, he, rfl⟩ := List.mem_map.1 ha
  exact ⟨e, he, rfl⟩

/-- The form of an entry loads with the fields that its resolved fields load to. -/
theorem exists_load_members {e : Entry} {fs : List FormField}
    (hfs : Stored.fields (ResolvedField.toValues e.form.fields) = .ok fs) (version : String)
    (now : Moment) : ∃ f, Form.load (e.members version) {} now = .ok (some f) ∧ f.fields = fs :=
  exists_load rfl hfs (.inr ⟨e.form.root.name, rfl⟩) (.inl rfl) (.inr ⟨version, rfl⟩) (.inl rfl) now

/-! ### Stores -/

/-- A form whose app has no other description is in the store that is brought in step. -/
theorem find?_sync {files : List Source} (store : Store) {f : Form}
    (hn : ((descriptions files).map Source.app).Nodup) (hs : s ∈ descriptions files)
    (hf : fate tenant config now s = .synced f) :
    (sync store files tenant config now).store.find? ⟨tenant, s.app, f.name⟩ =
      some (syncedRow tenant now store s.app f) := by
  have hforms : appForms tenant config now (descriptions files) s.app = [f] := by
    rw [appForms_of_nodup hn hs, hf]
    rfl
  have hlisted := (synced_sync store files tenant config now).listed s.app (by simp [hforms])
  rw [find?_eq_some_iff_mem_listByApp, hlisted, hforms]
  exact ⟨rfl, .head _⟩

/-- A manifest and a store that was brought in step hold the same forms, and the apps of the
manifest have their names from the catalog. -/
structure Agrees (manifest : Value) (p : Progress) (tenant : String) (catalog : List App) :
    Prop where
  forms : (listedForms manifest).map listedAs? = p.report.synced.map some
  fields : ∀ form ∈ listedForms manifest, ∀ x, listedAs? form = some x → ∀ now, ∃ row f g,
    p.store.find? ⟨tenant, x.app, x.form⟩ = some row ∧
      Form.load form {} now = .ok (some f) ∧ Form.load row.schema {} now = .ok (some g) ∧
      f.fields = g.fields
  names : ∀ app ∈ listedApps manifest, ∃ a ∈ catalog,
    Value.get app "protoFile" = .text a.file ∧ Value.get app "name" = .text a.name

/-- What is published is what is synced. Where every description of a folder can be read and no two
describe one app, its manifest agrees with every store that is brought in step with it. -/
theorem manifest_agrees {files : List Source} {config : CompilerConfig}
    (hread : ∀ s ∈ descriptions files, ∃ text d, s.text = .ok text ∧ Document.read text = .ok d)
    (hn : ((descriptions files).map Source.app).Nodup) (tenant : String) (store : Store)
    (now : Moment) :
    ∃ es as, entries files [] config = .ok es ∧ apps files = .ok as ∧
      Agrees (manifest es config.defaultVersion) (sync store files tenant config now) tenant
        as := by
  have hdescribed : ∀ s ∈ descriptions files, ∃ o, Described tenant config now s o := by
    intro s hs
    obtain ⟨text, d, ht, hd⟩ := hread s hs
    exact exists_described ht hd
  obtain ⟨found, hfound⟩ := exists_forall₂ hdescribed
  obtain ⟨as, has, hnames⟩ := described_apps hfound
  have hall : (descriptions files).filter (fun s => !isSkipped [] s.name) = descriptions files :=
    List.filter_eq_self.2 fun _ _ => rfl
  have hentries : entries files [] config = .ok (found.filterMap id) := by
    have hrun := mapM_eq_ok_iff_forall₂.2 (hfound.imp fun _ _ h => h.entry)
    rw [entries, hall, hrun]
    rfl
  have hforms := listedForms_manifest (hn.sublist (sublist_described hfound)) config.defaultVersion
  refine ⟨found.filterMap id, as, hentries, has, ?forms, ?fields, ?names⟩
  case forms =>
    rw [hforms, (synced_sync store files tenant config now).synced, ← described_synced hfound,
      List.map_map, List.map_map]
    rfl
  case fields =>
    intro form hform x hx later
    rw [hforms] at hform
    obtain ⟨e, he, rfl⟩ := List.mem_map.1 hform
    obtain rfl := Option.some.inj hx
    obtain ⟨s, hs, happ, hfate⟩ := exists_fate_of_mem hfound he
    obtain ⟨fs, hfs, hfs'⟩ := ResolvedField.exists_fields e.form.fields
    obtain ⟨f, hf, hff⟩ := exists_load_members hfs config.defaultVersion later
    have hmembers : (e.toForm tenant config now).toValue =
        .object (formMembers (e.toForm tenant config now)) := rfl
    obtain ⟨g, hg, hgf⟩ := exists_load_of_toValue hmembers hfs' later
    have hrow := find?_sync store hn hs hfate
    rw [happ] at hrow
    exact ⟨_, f, g, hrow, hf, hg, hff.trans hgf.symm⟩
  case names =>
    intro app happ
    obtain ⟨e, he, rfl⟩ := mem_listedApps_manifest happ
    obtain ⟨a, ha, hfile, hname⟩ := hnames e he
    exact ⟨a, ha, hfile ▸ rfl, hname ▸ rfl⟩

/-- A file of characters below 128. -/
def asciiFile (name text : String) : Source := ⟨name, text.toList.map fun c => c.toNat.toUInt8⟩

def ordersText : String :=
  "option app_name = \"All\"; message O \x7b L a = 1; \x7d message L \x7b int32 b = 1; \x7d"

def stockText : String := "message S \x7b repeated bool c = 1; \x7d"

/-- Two descriptions, not in the order of their names. -/
def twoFiles : List Source :=
  [asciiFile "stock.proto" stockText, asciiFile "orders.proto" ordersText]

theorem read_stockText : (asciiFile "stock.proto" stockText).text = .ok stockText.toList ∧
    Document.read stockText.toList = .ok {
      messages := [("S", ⟨"S", [{ name := "c", type := "bool", repeated := true }]⟩)]
      enumerations := []
      options := [] } := by
  simp only [asciiFile, stockText, String.reduceToList]
  decide +kernel

theorem read_ordersText : (asciiFile "orders.proto" ordersText).text = .ok ordersText.toList ∧
    Document.read ordersText.toList = .ok {
      messages := [("O", ⟨"O", [{ name := "a", type := "L" }]⟩),
        ("L", ⟨"L", [{ name := "b", type := "int32" }]⟩)]
      enumerations := []
      options := [("app_name", "All")] } := by
  simp only [asciiFile, ordersText, String.reduceToList]
  decide +kernel

theorem exists_read_of_mem_twoFiles {s : Source} (hs : s ∈ descriptions twoFiles) :
    ∃ text d, s.text = .ok text ∧ Document.read text = .ok d := by
  have hmem : s ∈ twoFiles := (List.mem_filter.1 (List.mem_mergeSort.1 hs)).1
  rcases List.mem_pair.1 hmem with rfl | rfl
  · exact ⟨_, _, read_stockText⟩
  · exact ⟨_, _, read_ordersText⟩

theorem nodup_apps_twoFiles : ((descriptions twoFiles).map Source.app).Nodup := by
  have hperm := List.mergeSort_perm (twoFiles.filter fun f => isDescription f.name)
    fun a b => a.name ≤ b.name
  exact (hperm.map Source.app).nodup_iff.2 (by decide +kernel)

theorem manifest_agrees_twoFiles :
    (∀ s ∈ descriptions twoFiles, ∃ text d, s.text = .ok text ∧ Document.read text = .ok d) ∧
    ((descriptions twoFiles).map Source.app).Nodup ∧
    ∃ es as, entries twoFiles [] {} = .ok es ∧ apps twoFiles = .ok as ∧
      Agrees (manifest es "1.0.0") (sync .empty twoFiles "shop" {} (.ofSeconds 0)) "shop" as :=
  ⟨fun _ => exists_read_of_mem_twoFiles, nodup_apps_twoFiles,
    manifest_agrees (fun _ => exists_read_of_mem_twoFiles) nodup_apps_twoFiles "shop" .empty
      (.ofSeconds 0)⟩

end Formwork.Catalog
