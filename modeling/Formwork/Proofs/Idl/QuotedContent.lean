import Formwork.Proofs.Idl.Judged
import Formwork.Proofs.Idl.Search

/-!
The contents of literals in option lists. An entry is searched for in the whole list, also inside the
literals of other entries. So a literal gives its own option its content, and may give others a truth
value that its content spells, or the text behind it if its content ends in the name of an option and
an equals sign. Two contents can be exchanged everywhere exactly if they agree in that.
-/
namespace Formwork.Idl
open Formwork.Text Formwork.Pattern

/-- The options of a field that have a truth value. -/
def truthOptions : List String := ["ui_required", "ui_list", "ui_unique"]

/-- The options of a field that have a text. -/
def textOptions : List String := ["ui_label", "ui_pattern", "ui_widget"]

/-- The pattern that the entries of a list give, if it is not empty. -/
def givenPattern? (sep : List Char) (es : List Entry) : Option (List Char) :=
  (givenText? sep "ui_pattern" es).filter (!·.isEmpty)

/-- What the entries of a list with qualified keys give. -/
def FieldMeta.given (sep : List Char) (es : List Entry) : FieldMeta where
  label := (givenText? sep "ui_label" es).bind nonEmpty
  required := givenTruth? "ui_required" es
  pattern := ((givenPattern? sep es).bind usable?).map String.ofList
  listVisible := givenTruth? "ui_list" es
  uniqueKey := givenTruth? "ui_unique" es
  widget := (givenText? sep "ui_widget" es).bind fun w => nonEmpty (lower (strip w))

/-- The same is said but for the attribute that the key names. -/
structure FieldMeta.AgreesBut (k : String) (x y : FieldMeta) : Prop where
  label : ¬Names k "ui_label" → x.label = y.label
  required : ¬Names k "ui_required" → x.required = y.required
  pattern : ¬Names k "ui_pattern" → x.pattern = y.pattern
  listVisible : ¬Names k "ui_list" → x.listVisible = y.listVisible
  uniqueKey : ¬Names k "ui_unique" → x.uniqueKey = y.uniqueKey
  widget : ¬Names k "ui_widget" → x.widget = y.widget

/-- Two contents give the same to the options that their literal is not for. -/
structure EchoAlike (s t : List Char) : Prop where
  truth : ∀ key ∈ truthOptions, entryTruth? key s = entryTruth? key t
  text : ∀ key ∈ textOptions, endsOpen key s = endsOpen key t

variable {sep s t : List Char} {k key : String} {es before after : List Entry}

/-! ### What a list gives -/

/-- What an option list says is what its entries give. -/
theorem optionMeta_entryList (hsep : Separates sep) (hes : ∀ e ∈ es, IsKey e.key.toList) :
    optionMeta (entryList sep es) =
      unlessFault ((givenPattern? sep es).bind stop?) (FieldMeta.given sep es) := by
  have htext {key : String} (hkey : key ∈ optionKeys) := entryText?_entryList hsep hkey hes
  have htruth {key : String} (hkey : key ∈ optionKeys) := entryTruth?_entryList hsep hkey hes
  rw [optionMeta_eq_judged, optionJudged, optionPattern?, htext (by decide), htext (by decide),
    htext (by decide), htruth (by decide), htruth (by decide), htruth (by decide)]
  rfl

/-! ### Exchanging the content of a literal -/

theorem upToLiteral_exchange :
    upToLiteral sep (before ++ .text k s :: after) = upToLiteral sep (before ++ .text k t :: after) := by
  induction before with
  | nil => rfl
  | cons e before ih =>
    cases e with
    | text k' s' => rfl
    | truth k' b => rw [List.cons_append, List.cons_append, upToLiteral, upToLiteral, ih]

theorem givenTruth?_exchange (h : entryTruth? key s = entryTruth? key t) :
    givenTruth? key (before ++ .text k s :: after) =
      givenTruth? key (before ++ .text k t :: after) := by
  simp only [givenTruth?, List.findSome?_append, List.findSome?_cons, Entry.givenTruth?, h]

theorem givenText?_exchange (hk : ¬Names k key) (h : endsOpen key s = endsOpen key t) :
    givenText? sep key (before ++ .text k s :: after) =
      givenText? sep key (before ++ .text k t :: after) := by
  induction before with
  | nil => rw [List.nil_append, List.nil_append, givenText?, givenText?, if_neg hk, if_neg hk, h]
  | cons e before ih =>
    cases e with
    | text k' s' =>
      rw [List.cons_append, List.cons_append, givenText?, givenText?, ih, upToLiteral_exchange]
    | truth k' b => exact ih

/-- Contents that echo alike are exchanged with no effect on the options their literal is not for. -/
theorem EchoAlike.agreesBut (h : EchoAlike s t) :
    (FieldMeta.given sep (before ++ .text k s :: after)).AgreesBut k
      (FieldMeta.given sep (before ++ .text k t :: after)) := by
  have htruth {key : String} (hkey : key ∈ truthOptions) :
      givenTruth? key (before ++ .text k s :: after) =
        givenTruth? key (before ++ .text k t :: after) :=
    givenTruth?_exchange (h.truth key hkey)
  have htext {key : String} (hkey : key ∈ textOptions) (hk : ¬Names k key) :
      givenText? sep key (before ++ .text k s :: after) =
        givenText? sep key (before ++ .text k t :: after) :=
    givenText?_exchange hk (h.text key hkey)
  constructor
  · intro hk
    rw [FieldMeta.given, FieldMeta.given, htext (by decide) hk]
  · intro _
    exact htruth (by decide)
  · intro hk
    rw [FieldMeta.given, FieldMeta.given, givenPattern?, givenPattern?, htext (by decide) hk]
  · intro _
    exact htruth (by decide)
  · intro _
    exact htruth (by decide)
  · intro hk
    rw [FieldMeta.given, FieldMeta.given, htext (by decide) hk]

/-! ### Contents without an equals sign -/

theorem mem_of_mem_dropOptional {c d : Char} {cs : List Char} (h : d ∈ dropOptional c cs) :
    d ∈ cs := by
  cases cs with
  | nil => exact h
  | cons e cs =>
    rw [dropOptional] at h
    split at h
    · exact List.mem_cons_of_mem e h
    · exact h

theorem mem_of_mem_afterQualifiers {c : Char} {best cs : List Char} {inName : Bool}
    (h : c ∈ afterQualifiers best inName cs) : c ∈ best ∨ c ∈ cs := by
  induction cs generalizing best inName with
  | nil => exact .inl h
  | cons d cs ih =>
    have hmore {o : Prop} (h : o ∨ c ∈ cs) : o ∨ c ∈ d :: cs := h.imp_right (List.mem_cons_of_mem d)
    rw [afterQualifiers] at h
    split_ifs at h
    · exact .inr (List.mem_cons_of_mem d ((ih h).elim id id))
    · exact hmore (ih h)
    · exact .inl h
    · exact hmore (ih h)
    · exact .inl h

/-- An entry has an equals sign. -/
theorem entryValue?_eq_none {cs : List Char} (h : '=' ∉ cs) : entryValue? key cs = none := by
  rw [entryValue?, Option.bind_eq_none_iff]
  intro t ht
  have hnamed : '=' ∉ stripLeft (dropOptional ')' t) := fun hmem => by
    have hmem := (dropFolded?_suffix ht).subset
      (mem_of_mem_dropOptional ((List.dropWhile_suffix isBlank).subset hmem))
    exact h (mem_of_mem_dropOptional ((mem_of_mem_afterQualifiers hmem).elim id id))
  rw [afterEquals?.eq_def]
  split
  · next he => exact (hnamed (he ▸ List.mem_cons_self)).elim
  · rfl

theorem entryFrom?_eq_none {α : Type} {value? : List Char → Option α} {before : Option Char}
    (h : '=' ∉ s) : entryFrom? key value? before s = none := by
  induction s generalizing before with
  | nil => rfl
  | cons c s ih =>
    rw [entryFrom?_cons_of_none (.inr (entryValue?_eq_none h)),
      ih fun hs => h (List.mem_cons_of_mem c hs)]

theorem echoAlike_of_not_mem (hs : '=' ∉ s) (ht : '=' ∉ t) : EchoAlike s t where
  truth key _ := (entryFrom?_eq_none hs).trans (entryFrom?_eq_none ht).symm
  text key _ := by rw [endsOpen, endsOpen, entryFrom?_eq_none hs, entryFrom?_eq_none ht]

/-! ### Contents that cannot be exchanged -/

theorem isKey_singleton : ∀ k ∈ ["x", "y"], IsKey k.toList := by
  have hname : ∀ k ∈ ["x", "y"], IsName k.toList := by decide
  exact fun k hk => .name (hname k hk)

theorem not_names_singleton : ∀ k ∈ ["x", "y"], ∀ key ∈ optionKeys, ¬Names k key := by decide

/-- A literal that ends in the name of an option and an equals sign gives the text behind it. -/
theorem givenText?_pair (hkey : key ∈ optionKeys) (s : List Char) :
    givenText? [',', ' '] key [.text "x" s, .text "y" []] =
      if endsOpen key s then some (',' :: ' ' :: keyed "y" []) else none := by
  have hx := not_names_singleton "x" (by decide) key hkey
  have hy := not_names_singleton "y" (by decide) key hkey
  have hempty : endsOpen key [] = false := rfl
  rw [givenText?, givenText?, givenText?, if_neg hx, if_neg hy, hempty]
  simp only [Bool.false_eq_true, if_false, Option.or_none]
  rfl

theorem eq_of_given_eq {α β : Type} {f : Option α → β} {x : α} (hf : f (some x) ≠ f none)
    {b b' : Bool} (h : f (if b then some x else none) = f (if b' then some x else none)) : b = b' := by
  cases b <;> cases b'
  · rfl
  · exact (hf h.symm).elim
  · exact (hf h).elim
  · rfl

/-- Every text option shows whether it is given the text behind a literal. -/
theorem endsOpen_eq_of_agreesBut
    (h : (FieldMeta.given [',', ' '] [.text "x" s, .text "y" []]).AgreesBut "x"
      (FieldMeta.given [',', ' '] [.text "x" t, .text "y" []])) :
    ∀ key ∈ textOptions, endsOpen key s = endsOpen key t := by
  have hother {key : String} (hkey : key ∈ optionKeys) :=
    not_names_singleton "x" (by decide) key hkey
  have hlabel := h.label (hother (by decide))
  have hpattern := h.pattern (hother (by decide))
  have hwidget := h.widget (hother (by decide))
  simp only [FieldMeta.given, givenPattern?, givenText?_pair (by decide : "ui_label" ∈ optionKeys),
    givenText?_pair (by decide : "ui_pattern" ∈ optionKeys),
    givenText?_pair (by decide : "ui_widget" ∈ optionKeys)] at hlabel hpattern hwidget
  intro key hkey
  simp only [textOptions, List.mem_cons, List.not_mem_nil, or_false] at hkey
  rcases hkey with rfl | rfl | rfl
  · exact eq_of_given_eq (f := fun o => o.bind nonEmpty) (by decide) hlabel
  · exact eq_of_given_eq
      (f := fun o => ((o.filter (!·.isEmpty)).bind usable?).map String.ofList) (by decide) hpattern
  · exact eq_of_given_eq (f := fun o => o.bind fun w => nonEmpty (lower (strip w))) (by decide) hwidget

/-- Contents that can be exchanged wherever keys are distinct echo alike. -/
theorem echoAlike_of_agreesBut
    (h : ∀ after, (∀ e ∈ after, IsKey e.key.toList) → ((.text "x" s :: after).map Entry.key).Nodup →
      (FieldMeta.given [',', ' '] (.text "x" s :: after)).AgreesBut "x"
        (FieldMeta.given [',', ' '] (.text "x" t :: after))) : EchoAlike s t where
  truth := by
    have hother {key : String} (hkey : key ∈ optionKeys) :=
      not_names_singleton "x" (by decide) key hkey
    have hagrees := h [] (by simp) (by simp)
    have hecho (key : String) (s : List Char) : givenTruth? key [.text "x" s] = entryTruth? key s :=
      List.findSome?_singleton ..
    have hrequired := hagrees.required (hother (by decide))
    have hlist := hagrees.listVisible (hother (by decide))
    have hunique := hagrees.uniqueKey (hother (by decide))
    simp only [FieldMeta.given, hecho] at hrequired hlist hunique
    simpa only [truthOptions, List.forall_mem_cons] using
      ⟨hrequired, hlist, hunique, List.forall_mem_nil _⟩
  text := by
    refine endsOpen_eq_of_agreesBut (h [.text "y" []] ?_ ?_)
    · exact List.forall_mem_cons.2 ⟨isKey_singleton "y" (by decide), List.forall_mem_nil _⟩
    · simp [Entry.key]

/-! ### Literals set their own attribute -/

/-- An option list says what its entries give. The content of a literal can be exchanged with no
effect on the attributes that the key of the literal does not name, in every list with distinct keys,
exactly for another content that echoes alike; contents without an equals sign all do. -/
theorem optionMeta_exchange (s t : List Char) :
    (∀ sep es, Separates sep → (∀ e ∈ es, IsKey e.key.toList) →
      optionMeta (entryList sep es) =
        unlessFault ((givenPattern? sep es).bind stop?) (FieldMeta.given sep es)) ∧
    (EchoAlike s t ↔ ∀ sep before after k, Separates sep →
      (∀ e ∈ before ++ .text k s :: after, IsKey e.key.toList) →
      ((before ++ .text k s :: after).map Entry.key).Nodup →
        (FieldMeta.given sep (before ++ .text k s :: after)).AgreesBut k
          (FieldMeta.given sep (before ++ .text k t :: after))) ∧
    ('=' ∉ s → '=' ∉ t → EchoAlike s t) := by
  refine ⟨fun sep es hsep hes => optionMeta_entryList hsep hes, ⟨?_, ?_⟩, echoAlike_of_not_mem⟩
  · intro h sep before after k _ _ _
    exact h.agreesBut
  · intro h
    refine echoAlike_of_agreesBut fun after hafter hnodup => ?_
    exact h [',', ' '] [] after "x" separates_comma
      (List.forall_mem_cons.2 ⟨isKey_singleton "x" (by decide), hafter⟩) hnodup

/-- A label in brackets between other entries; two of the keys are qualified. -/
def dueEntries (label : String) : List Entry :=
  [.truth "ui_list" true, .text "a.UI_Label" label.toList, .text "b.ui_label" ['x']]

theorem optionMeta_exchange_due :
    EchoAlike "Due (d.m.)".toList "Date =".toList ∧
      optionMeta (entryList [','] (dueEntries "Due (d.m.)")) =
        .ok { label := some "Due (d.m.)", listVisible := some true } ∧
      (FieldMeta.given [','] (dueEntries "Due (d.m.)")).AgreesBut "a.UI_Label"
        (FieldMeta.given [','] (dueEntries "Date =")) := by
  have hsep : Separates [','] := ⟨by decide, by decide⟩
  have ha : IsKey (['a'] ++ '.' :: "UI_Label".toList) :=
    .qualified (by decide) (.name (by decide))
  have hb : IsKey (['b'] ++ '.' :: "ui_label".toList) :=
    .qualified (by decide) (.name (by decide))
  have hkeys (label : String) : ∀ e ∈ dueEntries label, IsKey e.key.toList := by
    have hlist : IsKey "ui_list".toList := isKey_of_mem_optionKeys (by decide)
    simp only [String.reduceToList, List.cons_append, List.nil_append] at ha hb hlist
    simp only [dueEntries, List.forall_mem_cons, Entry.key, String.reduceToList]
    exact ⟨hlist, ha, hb, List.forall_mem_nil _⟩
  have hecho : EchoAlike "Due (d.m.)".toList "Date =".toList := by
    simp only [String.reduceToList]
    exact ⟨by decide, by decide⟩
  obtain ⟨hmeta, hexchange, -⟩ := optionMeta_exchange "Due (d.m.)".toList "Date =".toList
  refine ⟨hecho, ?_, ?_⟩
  · rw [hmeta _ _ hsep (hkeys _)]
    simp only [dueEntries, String.reduceToList]
    decide
  · exact hexchange.1 hecho [','] [.truth "ui_list" true] [.text "b.ui_label" ['x']]
      "a.UI_Label" hsep (hkeys "Due (d.m.)") (by simp [Entry.key])

theorem not_optionMeta_exchange_required :
    ¬∀ sep before after k s t m m', Separates sep →
      (∀ e ∈ before ++ .text k s :: after, IsKey e.key.toList) →
      ((before ++ .text k s :: after).map Entry.key).Nodup → '\n' ∉ s → '\n' ∉ t →
      optionMeta (entryList sep (before ++ .text k s :: after)) = .ok m →
      optionMeta (entryList sep (before ++ .text k t :: after)) = .ok m' → m.AgreesBut k m' := by
  intro h
  have hquoted : optionMeta (entryList [',', ' '] [.text "ui_label" "ui_required = true".toList]) =
      .ok { label := some "ui_required = true", required := some true } := by
    simp only [String.reduceToList]
    decide
  have hplain : optionMeta (entryList [',', ' '] [.text "ui_label" ['a']]) =
      .ok { label := some "a" } := by
    decide
  have hkey : IsKey "ui_label".toList := isKey_of_mem_optionKeys (by decide)
  have hagrees := h [',', ' '] [] [] "ui_label" _ _ _ _ separates_comma
    (List.forall_mem_cons.2 ⟨hkey, List.forall_mem_nil _⟩) (by simp)
    (by simp only [String.reduceToList]; decide) (by decide) hquoted hplain
  exact absurd (hagrees.required (by decide)) (by decide)

end Formwork.Idl
