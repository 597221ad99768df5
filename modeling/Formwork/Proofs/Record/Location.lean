import Formwork.Proofs.Number.Digits
import Formwork.Record.Defect
import Formwork.Value.Basic

/-!
Paths into records. The text of a path is read back as the steps of the path when its keys are not
empty and hold no points and opening brackets, and steps lead from a value to a part of it.
-/
namespace Formwork

/-- The part of a value that steps lead to. An object counts as the only row of a list. -/
def Value.at? : Value → List Record.Step → Option Value
  | v, [] => some v
  | .object ms, .key k :: steps => (find? ms k).bind (at? · steps)
  | .object ms, .index 0 :: steps => at? (.object ms) steps
  | .list items, .index i :: steps => items[i]?.bind (at? · steps)
  | _, _ => none

theorem Value.at?_nil (v : Value) : v.at? [] = some v := by
  cases v <;> rfl

theorem Value.at?_index {items : List Value} {i : Nat} {v : Value} (hi : items[i]? = some v)
    (steps : List Record.Step) : (Value.list items).at? (.index i :: steps) = v.at? steps := by
  rw [Value.at?, hi, Option.bind_some]

theorem Value.at?_key {ms : List (String × Value)} {key : String} (h : Value.get ms key ≠ .null)
    (steps : List Record.Step) :
    (Value.object ms).at? (.key key :: steps) = (Value.get ms key).at? steps := by
  rw [Value.get] at h ⊢
  rw [Value.at?]
  cases hm : find? ms key with
  | none => simp [hm] at h
  | some v => rfl

namespace Record

/-- The key that has been read; none has been read in front of a bracket that follows another. -/
def keyRead (word : List Char) : List Step :=
  if word.isEmpty then [] else [.key (String.ofList word)]

mutual

/-- Reads a path from within a key: a point or an opening bracket ends the key. -/
def readKey (word : List Char) : List Char → List Step
  | [] => keyRead word
  | '.' :: cs => keyRead word ++ readKey [] cs
  | '[' :: cs => keyRead word ++ readIndex [] cs
  | c :: cs => readKey (word ++ [c]) cs

/-- Reads a path from within brackets. -/
def readIndex (word : List Char) : List Char → List Step
  | [] => []
  | ']' :: cs => .index (Decimal.valueOf (Decimal.spanDigits word).1) :: readKey [] cs
  | c :: cs => readIndex (word ++ [c]) cs

end

/-- Reads a path as keys and indices. -/
def readPath (path : String) : List Step := readKey [] path.toList

/-- A key that stands apart from what follows it in a path. -/
structure IsPlainKey (key : String) : Prop where
  nonempty : key ≠ ""
  apart : ∀ c ∈ key.toList, c ≠ '.' ∧ c ≠ '['

def Step.IsPlain : Step → Prop
  | .key k => IsPlainKey k
  | .index _ => True

/-- How a step is written behind another. -/
def Step.chars : Step → List Char
  | .key k => '.' :: k.toList
  | .index i => '[' :: (Nat.toDigits 10 i ++ [']'])

theorem Step.toList_extend {path : String} (h : path ≠ "") (step : Step) :
    (step.extend path).toList = path.toList ++ step.chars := by
  cases step with
  | key k =>
    have hp : path.isEmpty = false := by simpa using h
    simp [extend, chars, hp]
  | index i => simp [extend, chars, Nat.toList_repr]

theorem toList_foldl_extend {path : String} (h : path ≠ "") (steps : List Step) :
    (steps.foldl Step.extend path).toList = path.toList ++ steps.flatMap Step.chars := by
  induction steps generalizing path with
  | nil => simp
  | cons step steps ih =>
    -- The text does not become empty again, so every key that follows gets its point.
    have hne : step.extend path ≠ "" := by
      intro he
      have hl := step.toList_extend h
      rw [he] at hl
      simp [h] at hl
    rw [List.foldl_cons, ih hne, step.toList_extend h, List.flatMap_cons, List.append_assoc]

theorem readKey_append {key : List Char} (h : ∀ c ∈ key, c ≠ '.' ∧ c ≠ '[')
    (word rest : List Char) : readKey word (key ++ rest) = readKey (word ++ key) rest := by
  induction key generalizing word with
  | nil => simp
  | cons c key ih =>
    obtain ⟨⟨hp, hb⟩, hkey⟩ := List.forall_mem_cons.1 h
    rw [List.cons_append, readKey, ih hkey, List.append_assoc, List.singleton_append]
    · exact hp
    · exact hb

theorem readIndex_append {digits : List Char} (h : ∀ c ∈ digits, c.isDigit = true)
    (word rest : List Char) :
    readIndex word (digits ++ rest) = readIndex (word ++ digits) rest := by
  induction digits generalizing word with
  | nil => simp
  | cons c digits ih =>
    obtain ⟨hc, hdigits⟩ := List.forall_mem_cons.1 h
    have hb : c ≠ ']' := by
      rintro rfl
      cases hc
    rw [List.cons_append, readIndex, ih hdigits, List.append_assoc, List.singleton_append]
    exact hb

theorem keyRead_toList {key : String} (h : key ≠ "") : keyRead key.toList = [.key key] := by
  simp [keyRead, h]

theorem readKey_flatMap_chars {steps : List Step} (h : ∀ step ∈ steps, step.IsPlain)
    (word : List Char) : readKey word (steps.flatMap Step.chars) = keyRead word ++ steps := by
  induction steps generalizing word with
  | nil => simp [readKey]
  | cons step steps ih =>
    obtain ⟨hstep, hsteps⟩ := List.forall_mem_cons.1 h
    cases step with
    | key k =>
      rw [List.flatMap_cons, Step.chars, List.cons_append, readKey, readKey_append hstep.apart,
        List.nil_append, ih hsteps, keyRead_toList hstep.nonempty]
      rfl
    | index i =>
      rw [List.flatMap_cons, Step.chars, List.cons_append, List.append_assoc, readKey,
        readIndex_append (Decimal.isDigit_toDigits i), List.nil_append, List.singleton_append,
        readIndex, Decimal.valueOf_toDigits, ih hsteps]
      rfl

/-- A path whose keys are plain is read as it is written. -/
theorem readPath_pathText {steps : List Step} (h : ∀ step ∈ steps, step.IsPlain) :
    readPath (pathText steps) = steps := by
  cases steps with
  | nil => rfl
  | cons step steps =>
    obtain ⟨hstep, hsteps⟩ := List.forall_mem_cons.1 h
    cases step with
    | key k =>
      have hfirst : Step.extend "" (.key k) = k := rfl
      rw [readPath, pathText, List.foldl_cons, hfirst, toList_foldl_extend hstep.nonempty,
        readKey_append hstep.apart, List.nil_append, readKey_flatMap_chars hsteps,
        keyRead_toList hstep.nonempty]
      rfl
    | index i =>
      have hfirst : (Step.extend "" (.index i)).toList = (Step.index i).chars := by
        simp [Step.extend, Step.chars, Nat.toList_repr]
      have hne : Step.extend "" (.index i) ≠ "" := by
        intro he
        rw [he] at hfirst
        cases hfirst
      rw [readPath, pathText, List.foldl_cons, toList_foldl_extend hne, hfirst,
        ← List.flatMap_cons, readKey_flatMap_chars h]
      rfl

end Record

end Formwork
