import Formwork.Proofs.Store.Rows

/-!
The store as a summary of its log: which rows it has after a sequence of calls, what they hold and
how they are listed, said of the calls alone.
-/
namespace Formwork.Store

/-- The calls that change a store. -/
inductive Op
  | upsert (key : Key) (version status : String) (schema : List (String × Value)) (now : Moment)
  | keepOnly (tenant app : String) (forms : List String)

inductive Answer
  | row (r : Row)
  | unknownStatus (e : UnknownStatus)
  /-- The number of the rows that were removed. -/
  | removed (n : Nat)

def Op.perform (s : Store) : Op → Answer × Store
  | .upsert key version status schema now =>
    match (write key version status schema now).run.run s with
    | (.ok r, s) => (.row r, s)
    | (.error e, s) => (.unknownStatus e, s)
  | .keepOnly tenant app forms =>
    let (s, removed) := s.keepOnly tenant app forms
    (.removed removed.length, s)

/-- The store after the calls of a log. -/
def run (log : List Op) : Store := log.foldl (fun s op => (op.perform s).2) .empty

/-! ### What a log says -/

/-- Whether a call writes a form at a time. -/
def Op.WritesAt (k : Key) (now : Moment) (op : Op) : Prop :=
  ∃ (version : String) (status : FormStatus) (schema : List (String × Value)),
    op = .upsert k version status.name schema now

def Op.Writes (k : Key) (op : Op) : Prop := ∃ now, op.WritesAt k now

/-- Whether a call removes a form if there is one. -/
def Op.Drops (k : Key) (op : Op) : Prop :=
  ∃ forms, op = .keepOnly k.tenant k.app forms ∧ k.form ∉ forms

/-- A call of some kind, given the calls before it, and since then only calls that keep
something. -/
def Since (event : List Op → Op → Prop) (keeps : Op → Prop) (log : List Op) : Prop :=
  ∃ before op after, log = before ++ op :: after ∧ event before op ∧ ∀ o ∈ after, keeps o

/-- Whether the last call that writes a form is not followed by one that removes it. -/
def Live (k : Key) : List Op → Prop :=
  Since (fun _ op => op.Writes k) fun op => ¬op.Writes k ∧ ¬op.Drops k

/-- Whether a row is as the last call that writes its form says. -/
def LastWritten (r : Row) : List Op → Prop :=
  Since (fun _ op => op = .upsert r.key r.version r.status.name r.schema r.updatedAt)
    fun op => ¬op.Writes r.key

/-- Whether a form was first written at a time, since it was last missing. -/
def CreatedAt (k : Key) (now : Moment) : List Op → Prop :=
  Since (fun before op => op.WritesAt k now ∧ ¬Live k before) fun op => ¬op.Drops k

/-- Whether the last call that writes `k` follows the last one that writes `k'`. -/
def WrittenAfter (k k' : Key) : List Op → Prop :=
  Since (fun _ op => op.Writes k ∧ ¬op.Writes k') fun op => ¬op.Writes k'

variable {log : List Op} {op : Op} {k k' : Key} {event : List Op → Op → Prop} {keeps : Op → Prop}
  {s : Store} {r r' : Row}

theorem not_since_nil : ¬Since event keeps [] := by
  rintro ⟨before, op, after, h, -, -⟩
  exact List.append_ne_nil_of_right_ne_nil before (List.cons_ne_nil op after) h.symm

theorem since_snoc_iff :
    Since event keeps (log ++ [op]) ↔ event log op ∨ Since event keeps log ∧ keeps op := by
  constructor
  · rintro ⟨before, o, after, h, he, hk⟩
    rcases List.eq_nil_or_concat after with rfl | ⟨after, o', rfl⟩
    · obtain ⟨rfl, ho⟩ := List.append_inj' h rfl
      cases ho
      exact .inl he
    · rw [List.concat_eq_append] at h hk
      rw [← List.cons_append, ← List.append_assoc] at h
      obtain ⟨rfl, ho⟩ := List.append_inj' h rfl
      cases ho
      rw [List.forall_mem_append] at hk
      exact .inr ⟨⟨before, o, after, rfl, he, hk.1⟩, hk.2 op (.head _)⟩
  · rintro (he | ⟨⟨before, o, after, rfl, he, hk⟩, ho⟩)
    · exact ⟨log, op, [], rfl, he, nofun⟩
    · refine ⟨before, o, after ++ [op], by simp, he, ?_⟩
      rw [List.forall_mem_append]
      exact ⟨hk, by simpa using ho⟩

theorem live_snoc_iff : Live k (log ++ [op]) ↔ op.Writes k ∨ Live k log ∧ ¬op.Drops k := by
  rw [Live, since_snoc_iff]
  by_cases hw : op.Writes k
  · simp only [hw, true_or]
  · simp only [hw, false_or, not_false_eq_true, true_and]

theorem Op.Writes.key_eq (h : op.Writes k) (h' : op.Writes k') : k = k' := by
  obtain ⟨now, version, status, schema, rfl⟩ := h
  obtain ⟨now', version', status', schema', h'⟩ := h'
  exact (Op.upsert.inj h').1

theorem Op.Writes.not_drops (h : op.Writes k) : ¬op.Drops k' := by
  obtain ⟨now, version, status, schema, rfl⟩ := h
  rintro ⟨forms, h, -⟩
  cases h

theorem not_writes_keepOnly {tenant app : String} {forms : List String} :
    ¬(Op.keepOnly tenant app forms).Writes k := by
  rintro ⟨now, version, status, schema, h⟩
  cases h

theorem drops_keepOnly_iff {tenant app : String} {forms : List String} :
    (Op.keepOnly tenant app forms).Drops r.key ↔ r.isStale tenant app forms = true := by
  rw [isStale_iff]
  constructor
  · rintro ⟨forms', h, hf⟩
    cases h
    exact ⟨rfl, rfl, hf⟩
  · rintro ⟨rfl, rfl, hf⟩
    exact ⟨forms, rfl, hf⟩

/-! ### What one call does -/

theorem ofName?_name (status : FormStatus) : FormStatus.ofName? status.name = some status := by
  cases status <;> rfl

theorem ofName?_eq_some {name : String} {status : FormStatus}
    (h : FormStatus.ofName? name = some status) : name = status.name := by
  unfold FormStatus.ofName? at h
  split at h <;> cases h <;> rfl

/-- What a call answers and leaves behind, by the three things that it can do. -/
inductive Performs (s : Store) : Op → Answer × Store → Prop
  | write (r : Row)
      (hr : r.createdAt = ((s.find? r.key).map (·.createdAt)).getD r.updatedAt) :
      Performs s (.upsert r.key r.version r.status.name r.schema r.updatedAt) (.row r, s.put r)
  | refuse {op : Op} (e : UnknownStatus) (hw : ∀ k, ¬op.Writes k) (hd : ∀ k, ¬op.Drops k) :
      Performs s op (.unknownStatus e, s)
  | remove (tenant app : String) (forms : List String) :
      Performs s (.keepOnly tenant app forms)
        (.removed (s.keepOnly tenant app forms).2.length, (s.keepOnly tenant app forms).1)

theorem performs (s : Store) (op : Op) : Performs s op (op.perform s) := by
  cases op with
  | upsert key version status schema now =>
    cases hs : FormStatus.ofName? status with
    | none =>
      have hp : (Op.upsert key version status schema now).perform s =
          (.unknownStatus ⟨status⟩, s) := by
        simp only [Op.perform, write, hs]
        rfl
      rw [hp]
      refine .refuse ⟨status⟩ ?_ ?_
      · rintro k ⟨now', version', status', schema', h⟩
        obtain ⟨-, -, rfl, -⟩ := Op.upsert.inj h
        rw [ofName?_name] at hs
        cases hs
      · rintro k ⟨forms, h, -⟩
        cases h
    | some st =>
      obtain rfl := ofName?_eq_some hs
      have hp : (Op.upsert key version st.name schema now).perform s =
          (.row (s.upsert key version st schema now).2, (s.upsert key version st schema now).1) := by
        simp only [Op.perform, write, hs]
        rfl
      rw [hp]
      exact .write (s.upsert key version st schema now).2 rfl
  | keepOnly tenant app forms => exact .remove tenant app forms

/-! ### What each call keeps -/

/-- A store that is as its log says. -/
structure Reflects (log : List Op) (s : Store) : Prop where
  live : ∀ k, Live k log ↔ ∃ r, s.find? k = some r
  lastWritten : ∀ k r, s.find? k = some r → LastWritten r log
  createdAt : ∀ k r, s.find? k = some r → CreatedAt k r.createdAt log
  newer : ∀ r r', s.Newer r r' → WrittenAfter r.key r'.key log

/-- Nothing is lost by a call that neither writes nor removes a form. -/
theorem Reflects.refuse (h : Reflects log s) (hw : ∀ k, ¬op.Writes k) (hd : ∀ k, ¬op.Drops k) :
    Reflects (log ++ [op]) s where
  live k := by
    rw [live_snoc_iff, ← h.live k]
    exact ⟨fun hl => (hl.resolve_left (hw k)).1, fun hl => .inr ⟨hl, hd k⟩⟩
  lastWritten k x hx := since_snoc_iff.2 (.inr ⟨h.lastWritten k x hx, hw x.key⟩)
  createdAt k x hx := since_snoc_iff.2 (.inr ⟨h.createdAt k x hx, hd k⟩)
  newer x x' hx := since_snoc_iff.2 (.inr ⟨h.newer x x' hx, hw x'.key⟩)

theorem Reflects.put (h : Reflects log s)
    (hr : r.createdAt = ((s.find? r.key).map (·.createdAt)).getD r.updatedAt) :
    Reflects (log ++ [.upsert r.key r.version r.status.name r.schema r.updatedAt]) (s.put r) := by
  let op := Op.upsert r.key r.version r.status.name r.schema r.updatedAt
  have hat : op.WritesAt r.key r.updatedAt := ⟨r.version, r.status, r.schema, rfl⟩
  have hwrites : op.Writes r.key := ⟨r.updatedAt, hat⟩
  have hother {k : Key} (hk : r.key ≠ k) : ¬op.Writes k := fun hw => hk (hwrites.key_eq hw)
  constructor
  · intro k
    rw [live_snoc_iff, find?_put]
    by_cases hk : r.key = k
    · rw [if_pos hk]
      exact iff_of_true (.inl (hk ▸ hwrites)) ⟨r, rfl⟩
    · rw [if_neg hk, ← h.live k]
      exact ⟨fun hl => (hl.resolve_left (hother hk)).1, fun hl => .inr ⟨hl, hwrites.not_drops⟩⟩
  · intro k x hx
    rw [find?_put] at hx
    split at hx
    · cases hx
      exact since_snoc_iff.2 (.inl rfl)
    · next hk =>
      obtain ⟨rfl, -⟩ := find?_eq_some_iff.1 hx
      exact since_snoc_iff.2 (.inr ⟨h.lastWritten _ x hx, hother hk⟩)
  · intro k x hx
    rw [find?_put] at hx
    split at hx
    · next hk =>
      cases hx
      subst hk
      -- A row that is there gives its time of creation on; else the key was missing until now.
      cases hf : s.find? r.key with
      | some old =>
        rw [hf] at hr
        rw [hr]
        exact since_snoc_iff.2 (.inr ⟨h.createdAt _ old hf, hwrites.not_drops⟩)
      | none =>
        rw [hf] at hr
        rw [hr]
        refine since_snoc_iff.2 (.inl ⟨hat, fun hl => ?_⟩)
        obtain ⟨old, ho⟩ := (h.live r.key).1 hl
        rw [hf] at ho
        cases ho
    · exact since_snoc_iff.2 (.inr ⟨h.createdAt k x hx, hwrites.not_drops⟩)
  · intro x x' hx
    obtain ⟨hk', -, rfl | ⟨-, hx⟩⟩ := newer_put.1 hx
    · exact since_snoc_iff.2 (.inl ⟨hwrites, hother hk'.symm⟩)
    · exact since_snoc_iff.2 (.inr ⟨h.newer x x' hx, hother hk'.symm⟩)

theorem Reflects.keepOnly (h : Reflects log s) (tenant app : String) (forms : List String) :
    Reflects (log ++ [.keepOnly tenant app forms]) (s.keepOnly tenant app forms).1 := by
  have hfind {k : Key} {x : Row} : (s.keepOnly tenant app forms).1.find? k = some x ↔
      s.find? k = some x ∧ ¬(Op.keepOnly tenant app forms).Drops k := by
    rw [Store.keepOnly, find?_filter, Option.filter_eq_some_iff]
    refine and_congr_right fun hx => ?_
    obtain ⟨rfl, -⟩ := find?_eq_some_iff.1 hx
    rw [drops_keepOnly_iff, Bool.not_eq_true', Bool.not_eq_true]
  constructor
  · intro k
    rw [live_snoc_iff, h.live k]
    constructor
    · intro hl
      obtain ⟨⟨x, hx⟩, hd⟩ := hl.resolve_left not_writes_keepOnly
      exact ⟨x, hfind.2 ⟨hx, hd⟩⟩
    · rintro ⟨x, hx⟩
      obtain ⟨hx, hd⟩ := hfind.1 hx
      exact .inr ⟨⟨x, hx⟩, hd⟩
  · intro k x hx
    exact since_snoc_iff.2 (.inr ⟨h.lastWritten k x (hfind.1 hx).1, not_writes_keepOnly⟩)
  · intro k x hx
    obtain ⟨hx, hd⟩ := hfind.1 hx
    exact since_snoc_iff.2 (.inr ⟨h.createdAt k x hx, hd⟩)
  · intro x x' hx
    exact since_snoc_iff.2 (.inr ⟨h.newer x x' (newer_filter.1 hx).1, not_writes_keepOnly⟩)

theorem Reflects.perform (h : Reflects log s) (op : Op) :
    Reflects (log ++ [op]) (op.perform s).2 := by
  generalize hx : op.perform s = x
  have hp := hx ▸ performs s op
  cases hp with
  | write r hr => exact h.put hr
  | refuse e hw hd => exact h.refuse hw hd
  | remove tenant app forms => exact h.keepOnly tenant app forms

/-- What every call keeps, a whole run keeps. -/
theorem reflects_run (log : List Op) : Reflects log (run log) := by
  have hfrom (after before : List Op) (s : Store) (h : Reflects before s) :
      Reflects (before ++ after) (after.foldl (fun s op => (op.perform s).2) s) := by
    induction after generalizing before s with
    | nil => simpa using h
    | cons op after ih =>
      rw [List.append_cons]
      exact ih _ _ (h.perform op)
  refine hfrom log [] .empty ⟨fun k => ?_, nofun, nofun, ?_⟩
  · refine iff_of_false not_since_nil ?_
    rintro ⟨r, h⟩
    cases h
  · rintro r r' ⟨n, n', h, -⟩
    cases h

/-! ### What a store answers -/

/-- Whether a form has the name that is asked for, if one is. -/
def Key.IsNamed (form : Option String) (k : Key) : Prop := ∀ name ∈ form, k.form = name

theorem isNamed_iff {form : Option String} :
    r.key.IsNamed form ↔ form.all (· == r.key.form) = true := by
  cases form with
  | none => exact iff_of_true nofun rfl
  | some name =>
    simp only [Key.IsNamed, Option.mem_some_iff, forall_eq', Option.all_some, beq_iff_eq]
    exact eq_comm

theorem current_eq_ok_iff {tenant app : String} {form : Option String} :
    s.current tenant app form = .ok r ↔
      ∃ newer older, s.listByApp tenant app = newer ++ r :: older ∧
        r.key.IsNamed form ∧ ∀ r' ∈ newer, ¬r'.key.IsNamed form := by
  have hfind : s.current tenant app form = .ok r ↔
      (s.listByApp tenant app).find? (fun r => form.all (· == r.key.form)) = some r := by
    rw [current]
    cases (s.listByApp tenant app).find? fun r => form.all (· == r.key.form) with
    | none => simp
    | some r' => simp
  rw [hfind, List.find?_eq_some_iff_append]
  simp only [isNamed_iff, Bool.not_eq_true', Bool.not_eq_true]
  constructor
  · rintro ⟨hn, newer, older, hl, hnot⟩
    exact ⟨newer, older, hl, hn, hnot⟩
  · rintro ⟨newer, older, hl, hn, hnot⟩
    exact ⟨hn, newer, older, hl, hnot⟩

theorem current_eq_error_iff {tenant app : String} {form : Option String} {e : NotFound} :
    s.current tenant app form = .error e ↔
      e = ⟨app⟩ ∧ ∀ r ∈ s.listByApp tenant app, ¬r.key.IsNamed form := by
  simp only [isNamed_iff, ← List.find?_eq_none, current]
  cases (s.listByApp tenant app).find? fun r => form.all (· == r.key.form) with
  | none => simp [eq_comm]
  | some r' => simp

/-- What can be asked of a store after the calls of a log, said of the log alone. -/
structure Refines (log : List Op) (s : Store) : Prop where
  live : ∀ k, (∃ r, s.find? k = some r) ↔ Live k log
  row : ∀ k r, s.find? k = some r → r.key = k ∧ LastWritten r log ∧ CreatedAt k r.createdAt log
  /-- The rows of an app are those of its live forms, -/
  mem_list : ∀ tenant app r, r ∈ s.listByApp tenant app ↔
    r.key.tenant = tenant ∧ r.key.app = app ∧ s.find? r.key = some r
  /-- each listed once, and the one written last first. -/
  list_order : ∀ tenant app, (s.listByApp tenant app).Pairwise fun r r' =>
    r.key ≠ r'.key ∧ WrittenAfter r.key r'.key log
  current : ∀ tenant app form r, s.current tenant app form = .ok r ↔
    ∃ newer older, s.listByApp tenant app = newer ++ r :: older ∧
      r.key.IsNamed form ∧ ∀ r' ∈ newer, ¬r'.key.IsNamed form
  not_found : ∀ tenant app form e, s.current tenant app form = .error e ↔
    e = ⟨app⟩ ∧ ∀ k, k.tenant = tenant → k.app = app → k.IsNamed form → ¬Live k log
  removed : ∀ tenant app forms, ∃ gone : List Key,
    ((Op.keepOnly tenant app forms).perform s).1 = .removed gone.length ∧ gone.Nodup ∧
      ∀ k, k ∈ gone ↔ Live k log ∧ ¬Live k (log ++ [.keepOnly tenant app forms])
  /-- A call writes a form exactly if it answers with its row; -/
  writes : ∀ (op : Op) k, op.Writes k ↔ ∃ r, (op.perform s).1 = .row r ∧ r.key = k
  /-- a call that is refused could as well be left out. -/
  refused : ∀ (op : Op) e, (op.perform s).1 = .unknownStatus e →
    ∀ after, run (log ++ op :: after) = run (log ++ after)

theorem run_refines (log : List Op) : Refines log (run log) := by
  have h := reflects_run log
  constructor
  case live => exact fun k => (h.live k).symm
  case row =>
    intro k r hr
    exact ⟨(find?_eq_some_iff.1 hr).1, h.lastWritten k r hr, h.createdAt k r hr⟩
  case mem_list =>
    intro t a r
    rw [mem_listByApp, isOf_iff, and_assoc]
  case list_order =>
    exact fun t a => (pairwise_listByApp _ t a).imp fun {r r'} hn => ⟨hn.key_ne, h.newer r r' hn⟩
  case current => exact fun t a form r => current_eq_ok_iff
  case not_found =>
    intro t a form e
    rw [current_eq_error_iff]
    refine and_congr_right fun _ => ⟨fun hall k ht ha hname hl => ?_, fun hnone r hr hname => ?_⟩
    · obtain ⟨r, hr⟩ := (h.live k).1 hl
      obtain ⟨rfl, -⟩ := find?_eq_some_iff.1 hr
      exact hall r (mem_listByApp.2 ⟨isOf_iff.2 ⟨ht, ha⟩, hr⟩) hname
    · obtain ⟨ho, hr⟩ := mem_listByApp.1 hr
      rw [isOf_iff] at ho
      exact hnone r.key ho.1 ho.2 hname ((h.live r.key).2 ⟨r, hr⟩)
  case removed =>
    intro t a forms
    refine ⟨((run log).keepOnly t a forms).2.map (·.key), ?_, nodup_keepOnly_snd .., fun k => ?_⟩
    · rw [List.length_map]
      rfl
    · rw [mem_map_keepOnly_snd, h.live k, (h.keepOnly t a forms).live k, not_exists,
        Option.eq_none_iff_forall_ne_some]
  case writes =>
    intro op k
    generalize hx : op.perform (run log) = x
    have hp := hx ▸ performs (run log) op
    cases hp with
    | write r hr =>
      have hw : (Op.upsert r.key r.version r.status.name r.schema r.updatedAt).Writes r.key :=
        ⟨_, _, _, _, rfl⟩
      constructor
      · exact fun hk => ⟨r, rfl, hw.key_eq hk⟩
      · rintro ⟨r', hr', rfl⟩
        cases hr'
        exact hw
    | refuse e hw hd => exact iff_of_false (hw k) (by rintro ⟨r, h, -⟩; cases h)
    | remove t a forms => exact iff_of_false not_writes_keepOnly (by rintro ⟨r, h, -⟩; cases h)
  case refused =>
    intro op e he after
    have hstays : (op.perform (run log)).2 = run log := by
      generalize hx : op.perform (run log) = x at he
      have hp := hx ▸ performs (run log) op
      cases hp with
      | write | remove => cases he
      | refuse => rfl
    rw [run, List.foldl_append, List.foldl_cons, run, List.foldl_append]
    exact congrArg (after.foldl _) hstays

end Formwork.Store
