import Formwork.Record.Write

/-!
Unique keys over whole histories. Records are created and updated one after the other, and a write is
committed only if it passes the check of the unique key. Then distinct records never come to have one
unique value, a unique value stays as it is once it is there, and every record that was written has
one.
-/
namespace Formwork.Record

/-- The unique value of a record, where it is not empty. -/
def filledKey? (key : String) (record : List (String × Value)) : Option String :=
  (uniqueText (Value.get record key)).filter (!·.isEmpty)

/-- The stored records of a form, each known by its number. -/
abbrev Archive := List (List (String × Value))

namespace Archive

/-- The unique value of the record with a number, where it is not empty. -/
def valueAt? (archive : Archive) (key : String) (n : Nat) : Option String :=
  archive[n]?.bind (filledKey? key)

/-- Whether a record has a unique value, other than the one that is being written. -/
def holdsBesides (archive : Archive) (written : Option Nat) (key value : String) : Bool :=
  archive.zipIdx.any fun (record, n) =>
    some n != written && uniqueText (Value.get record key) == some value

/-- What the writing of a record is checked against; a new record has no number yet. -/
def context (archive : Archive) (written : Option Nat) : Context where
  previous := (written.bind (archive[·]?)).map .object
  isTaken := archive.holdsBesides written

/-- Distinct records have distinct unique values, as far as these are not empty. -/
def Distinct (archive : Archive) (key : String) : Prop :=
  ∀ m n value, archive.valueAt? key m = some value → archive.valueAt? key n = some value → m = n

end Archive

/-- A write of the record with a number is committed. -/
inductive Commits (form : Form) (archive : Archive) : Nat → Archive → Prop
  | create {record : List (String × Value)} {value : Option String}
      (check : checkUniqueKey form (.object record) (archive.context none) = .ok value) :
      Commits form archive archive.length (archive ++ [record])
  | update {n : Nat} {record : List (String × Value)} {value : Option String}
      (stored : n < archive.length)
      (check : checkUniqueKey form (.object record) (archive.context (some n)) = .ok value) :
      Commits form archive n (archive.set n record)

/-- Creates and updates one after the other, with the numbers of the records that were written; a
write that is refused changes nothing. -/
inductive History (form : Form) (start : Archive) : List Nat → Archive → Prop
  | start : History form start [] start
  | commit {written : List Nat} {archive next : Archive} {n : Nat}
      (before : History form start written archive) (write : Commits form archive n next) :
      History form start (n :: written) next

variable {form : Form} {key value : String} {archive next start final : Archive} {m n : Nat}
  {record : List (String × Value)}

/-! ### One write -/

/-- The check in terms of the unique values that are there. -/
theorem checkUniqueKey_eq (hkey : uniqueKey? form = some key)
    (previous : Option (List (String × Value))) (taken : String → String → Bool) :
    checkUniqueKey form (.object record) ⟨previous.map .object, taken⟩ =
      match filledKey? key record with
      | none => .error (.key key .missing)
      | some value =>
        if (previous.bind (filledKey? key)).any (· != value) then .error (.key key .changed)
        else if taken key value then .error (.key key (.taken value))
        else .ok (some value) := by
  have hread (r : List (String × Value)) :
      (uniqueValue? (.object r) key).mapError WriteRefusal.shape =
        .ok (uniqueText (Value.get r key)) := rfl
  have hbind {α β : Type} (a : α) (f : α → Except WriteRefusal β) : (.ok a >>= f) = f a := rfl
  have hfilled (r : List (String × Value)) (value : String) :
      ((filledKey? key r).any (· != value)) =
        (uniqueText (Value.get r key)).any fun old => !old.isEmpty && old != value := by
    rw [filledKey?]
    cases uniqueText (Value.get r key) with
    | none => rfl
    | some old => cases h : old.isEmpty <;> simp [Option.filter_some, h]
  rw [checkUniqueKey, hkey]
  simp only [hread, hbind]
  cases hnew : filledKey? key record with
  | none =>
    rw [filledKey?] at hnew
    rw [hnew]
    rfl
  | some value =>
    rw [filledKey?] at hnew
    rw [hnew]
    cases previous with
    | none => rfl
    | some old =>
      simp only [Option.map_some, Option.bind_some, hread, hbind, hfilled]
      rfl

/-- A record passes the check exactly if it has a unique value, the same as before if it had one, and
no other record has it. -/
theorem checkUniqueKey_eq_ok_iff (hkey : uniqueKey? form = some key)
    (previous : Option (List (String × Value))) {taken : String → String → Bool}
    {o : Option String} :
    checkUniqueKey form (.object record) ⟨previous.map .object, taken⟩ = .ok o ↔
      ∃ value, o = some value ∧ filledKey? key record = some value ∧
        (∀ old, previous.bind (filledKey? key) = some old → old = value) ∧
        taken key value = false := by
  have hsame (value : String) : (previous.bind (filledKey? key)).any (· != value) = true ↔
      ¬∀ old, previous.bind (filledKey? key) = some old → old = value := by
    cases previous.bind (filledKey? key) <;> simp
  rw [checkUniqueKey_eq hkey]
  constructor
  · intro h
    split at h
    · cases h
    · next value hvalue =>
      split at h
      · cases h
      · next hold =>
        split at h
        · cases h
        · next htaken =>
          exact ⟨value, (Except.ok.inj h).symm, hvalue, Classical.not_not.1 (mt (hsame value).2 hold),
            Bool.eq_false_iff.2 htaken⟩
  · rintro ⟨value, rfl, hvalue, hold, htaken⟩
    have hkept := mt (hsame value).1 (Classical.not_not.2 hold)
    rw [hvalue]
    dsimp only
    rw [if_neg hkept, if_neg (Bool.eq_false_iff.1 htaken)]

/-! ### One step -/

theorem Archive.holdsBesides_eq_false {written : Option Nat}
    (h : archive.holdsBesides written key value = false) (hn : some n ≠ written) :
    archive.valueAt? key n ≠ some value := by
  intro he
  obtain ⟨record, hr, hvalue⟩ := Option.bind_eq_some_iff.1 he
  have hmem : (record, n) ∈ archive.zipIdx := List.mk_mem_zipIdx_iff_getElem?.2 hr
  have hother := List.any_eq_false.1 h (record, n) hmem
  have htext := (Option.filter_eq_some_iff.1 hvalue).1
  simp [hn, htext] at hother

theorem Archive.valueAt?_append_of_ne (hn : n ≠ archive.length) :
    Archive.valueAt? (archive ++ [record]) key n = archive.valueAt? key n := by
  rw [valueAt?, valueAt?, List.getElem?_append]
  split
  · rfl
  · next h =>
    rw [List.getElem?_eq_none (by simp; omega), List.getElem?_eq_none (by omega)]

theorem Archive.valueAt?_append_length :
    Archive.valueAt? (archive ++ [record]) key archive.length = filledKey? key record := by
  rw [valueAt?, List.getElem?_concat_length, Option.bind_some]

theorem Archive.valueAt?_set_of_ne (hn : n ≠ m) :
    Archive.valueAt? (archive.set m record) key n = archive.valueAt? key n := by
  rw [valueAt?, valueAt?, List.getElem?_set_ne hn.symm]

theorem Archive.valueAt?_set_self (hn : n < archive.length) :
    Archive.valueAt? (archive.set n record) key n = filledKey? key record := by
  rw [valueAt?, List.getElem?_set_self hn, Option.bind_some]

/-- What a committed write of a record leaves behind. -/
structure Leaves (archive next : Archive) (key : String) (n : Nat) (value : String) : Prop where
  present : next.valueAt? key n = some value
  kept : ∀ old, archive.valueAt? key n = some old → old = value
  free : ∀ m, m ≠ n → archive.valueAt? key m ≠ some value
  others : ∀ m, m ≠ n → next.valueAt? key m = archive.valueAt? key m

theorem Commits.leaves (hkey : uniqueKey? form = some key) (h : Commits form archive n next) :
    ∃ value, Leaves archive next key n value := by
  cases h with
  | create check =>
    obtain ⟨value, -, hvalue, -, hfree⟩ := (checkUniqueKey_eq_ok_iff hkey none).1 check
    refine ⟨value, Archive.valueAt?_append_length.trans hvalue, ?_, ?_, ?_⟩
    · intro old hold
      simp [Archive.valueAt?] at hold
    · intro m _
      exact Archive.holdsBesides_eq_false hfree nofun
    · intro m hm
      exact Archive.valueAt?_append_of_ne hm
  | update stored check =>
    obtain ⟨value, -, hvalue, hkept, hfree⟩ := (checkUniqueKey_eq_ok_iff hkey _).1 check
    refine ⟨value, (Archive.valueAt?_set_self stored).trans hvalue, hkept, ?_, ?_⟩
    · intro m hm
      exact Archive.holdsBesides_eq_false hfree (by simpa using hm)
    · intro m hm
      exact Archive.valueAt?_set_of_ne hm

theorem Leaves.distinct (h : Leaves archive next key n value) (ha : archive.Distinct key) :
    next.Distinct key := by
  intro i j v hi hj
  by_cases hin : i = n
  · by_cases hjn : j = n
    · rw [hin, hjn]
    · -- No other record had the value that was written.
      rw [hin, h.present] at hi
      obtain rfl := Option.some.inj hi
      rw [h.others j hjn] at hj
      exact (h.free j hjn hj).elim
  · rw [h.others i hin] at hi
    by_cases hjn : j = n
    · rw [hjn, h.present] at hj
      obtain rfl := Option.some.inj hj
      exact (h.free i hin hi).elim
    · rw [h.others j hjn] at hj
      exact ha i j v hi hj

/-- A unique value outlasts every committed write. -/
theorem Leaves.valueAt?_eq {old : String} (h : Leaves archive next key n value)
    (hm : archive.valueAt? key m = some old) : next.valueAt? key m = some old := by
  by_cases hmn : m = n
  · subst hmn
    rw [h.present, h.kept old hm]
  · rw [h.others m hmn, hm]

/-! ### Whole histories -/

theorem History.distinct {written : List Nat} (hkey : uniqueKey? form = some key)
    (h : History form start written archive) (hs : start.Distinct key) : archive.Distinct key := by
  induction h with
  | start => exact hs
  | commit before write ih =>
    obtain ⟨value, hleaves⟩ := write.leaves hkey
    exact hleaves.distinct ih

theorem History.valueAt?_eq {written : List Nat} (hkey : uniqueKey? form = some key)
    (h : History form start written archive) (hm : start.valueAt? key m = some value) :
    archive.valueAt? key m = some value := by
  induction h with
  | start => exact hm
  | commit before write ih =>
    obtain ⟨value, hleaves⟩ := write.leaves hkey
    exact hleaves.valueAt?_eq ih

theorem History.exists_valueAt? {written : List Nat} (hkey : uniqueKey? form = some key)
    (h : History form start written archive) (hm : m ∈ written) :
    ∃ value, archive.valueAt? key m = some value := by
  induction h with
  | start => cases hm
  | commit before write ih =>
    obtain ⟨value, hleaves⟩ := write.leaves hkey
    rcases List.mem_cons.1 hm with rfl | hm
    · exact ⟨value, hleaves.present⟩
    · obtain ⟨old, hold⟩ := ih hm
      exact ⟨old, hleaves.valueAt?_eq hold⟩

/-- However records are created and updated, at every point of the history distinct records have
distinct unique values, every record written so far has one, and the unique values of that point are
those of every later one. -/
theorem unique_throughout_history (hkey : uniqueKey? form = some key) (hs : start.Distinct key)
    {earlier later : List Nat} (hearlier : History form start earlier archive)
    (hlater : History form archive later final) :
    archive.Distinct key ∧
      (∀ n value, archive.valueAt? key n = some value → final.valueAt? key n = some value) ∧
      ∀ n ∈ earlier, ∃ value, archive.valueAt? key n = some value :=
  ⟨hearlier.distinct hkey hs, fun _ _ h => hlater.valueAt?_eq hkey h,
    fun _ h => hearlier.exists_valueAt? hkey h⟩

/-- A form whose records are told apart by a number. -/
def numberedForm : Form :=
  { name := "F", createdAt := "2024-01-01T00:00:00+00:00",
    fields := [{ key := "title", label := "Title", kind := "string" },
      { key := "number", label := "Number", kind := "string", uniqueKey := true }] }

/-- A record that has no number yet, and one that has. -/
def numberedStart : Archive := [[("number", .null)], [("number", .text "A")]]

theorem distinct_numberedStart : numberedStart.Distinct "number" := by
  have hone : ∀ n value, numberedStart.valueAt? "number" n = some value → n = 1
    | 0, _ => nofun
    | 1, _ => fun _ => rfl
    | _ + 2, _ => nofun
  intro m n value hm hn
  rw [hone m value hm, hone n value hn]

/-- The first record gets its number, a third one is made, and its number is put as a text. -/
theorem unique_throughout_numbered :
    uniqueKey? numberedForm = some "number" ∧ numberedStart.Distinct "number" ∧
      ∃ archive final : Archive, History numberedForm numberedStart [2, 0] archive ∧
        History numberedForm archive [2] final ∧ archive.Distinct "number" ∧
        ∃ value, archive.valueAt? "number" 2 = some value ∧
          final.valueAt? "number" 2 = some value := by
  have hkey : uniqueKey? numberedForm = some "number" := rfl
  have hnumbered : Commits numberedForm numberedStart 0
      [[("number", .text "B")], [("number", .text "A")]] :=
    @Commits.update _ _ 0 [("number", .text "B")] (some "B") (by decide) rfl
  have hmade : Commits numberedForm [[("number", .text "B")], [("number", .text "A")]] 2
      [[("number", .text "B")], [("number", .text "A")], [("number", .int 7)]] :=
    @Commits.create _ _ [("number", .int 7)] (some "7") rfl
  have hput : Commits numberedForm
      [[("number", .text "B")], [("number", .text "A")], [("number", .int 7)]] 2
      [[("number", .text "B")], [("number", .text "A")], [("number", .text "7")]] :=
    @Commits.update _ _ 2 [("number", .text "7")] (some "7") (by decide) rfl
  have hearlier := (History.start.commit hnumbered).commit hmade
  have hlater := History.start.commit hput
  obtain ⟨hdistinct, hkept, hwritten⟩ :=
    unique_throughout_history hkey distinct_numberedStart hearlier hlater
  obtain ⟨value, hvalue⟩ := hwritten 2 (.head _)
  exact ⟨hkey, distinct_numberedStart, _, _, hearlier, hlater, hdistinct, value, hvalue,
    hkept 2 value hvalue⟩

end Formwork.Record
