import Formwork.Proofs.Idl.Assembly
import Formwork.Proofs.Idl.Source

/-!
Reading one written declaration. The statement that it makes is recognized with its type and its
name, its option list is found between its brackets, and what the list says depends on its entries
alone.
-/
namespace Formwork.Idl
open Formwork.Text Formwork.Pattern

/-! ### What option lists say -/

/-- What the entries of an option list say about a field. -/
def FieldMeta.ofEntries (es : List Entry) : Except Fault FieldMeta := do
  let pattern ←
    match (readText? "ui_pattern" es).filter (!·.isEmpty) with
    | some raw => normalize raw
    | none => pure none
  pure {
    label := (readText? "ui_label" es).bind nonEmpty
    required := readTruth? "ui_required" es
    pattern := pattern.map String.ofList
    listVisible := readTruth? "ui_list" es
    uniqueKey := readTruth? "ui_unique" es
    widget := (readText? "ui_widget" es).bind fun w => nonEmpty (lower (strip w)) }

/-- What the entries of an option list say about a member of an enumeration. -/
def MemberMeta.ofEntries (es : List Entry) : MemberMeta where
  label := (readText? "ui_enum_label" es).bind nonEmpty
  value := (readText? "ui_enum_value" es).map String.ofList

variable {es : List Entry}

theorem optionMeta_writeEntries (hes : ∀ e ∈ es, e.key ∈ optionKeys) :
    optionMeta (writeEntries es) = FieldMeta.ofEntries es := by
  have hkey (k : String) (hk : k ∈ optionKeys) := entryText?_writeEntries hk hes
  have htruth (k : String) (hk : k ∈ optionKeys) := entryTruth?_writeEntries hk hes
  rw [optionMeta, hkey "ui_label" (by decide), hkey "ui_pattern" (by decide),
    hkey "ui_widget" (by decide), htruth "ui_required" (by decide), htruth "ui_list" (by decide),
    htruth "ui_unique" (by decide)]
  rfl

theorem optionMemberMeta_writeEntries (hes : ∀ e ∈ es, e.key ∈ optionKeys) :
    optionMemberMeta (writeEntries es) = MemberMeta.ofEntries es := by
  have hkey (k : String) (hk : k ∈ optionKeys) := entryText?_writeEntries hk hes
  rw [optionMemberMeta, MemberMeta.ofEntries, hkey "ui_enum_label" (by decide),
    hkey "ui_enum_value" (by decide)]

theorem key_of_mem_textEntry {key : String} {o : Option String} {e : Entry}
    (h : e ∈ textEntry key o) : e.key = key := by
  cases o with
  | none => cases h
  | some s => rw [List.mem_singleton.1 h, Entry.key]

theorem key_of_mem_truthEntry {key : String} {o : Option Bool} {e : Entry}
    (h : e ∈ truthEntry key o) : e.key = key := by
  cases o with
  | none => cases h
  | some b => rw [List.mem_singleton.1 h, Entry.key]

theorem FieldMeta.key_mem_optionKeys (info : FieldMeta) :
    ∀ e ∈ info.entries, e.key ∈ optionKeys := by
  intro e he
  simp only [FieldMeta.entries, List.mem_append] at he
  rcases he with h | h | h | h | h | h
  · exact key_of_mem_textEntry h ▸ by decide
  · exact key_of_mem_truthEntry h ▸ by decide
  · exact key_of_mem_textEntry h ▸ by decide
  · exact key_of_mem_truthEntry h ▸ by decide
  · exact key_of_mem_truthEntry h ▸ by decide
  · exact key_of_mem_textEntry h ▸ by decide

theorem MemberMeta.key_mem_optionKeys (info : MemberMeta) :
    ∀ e ∈ info.entries, e.key ∈ optionKeys := by
  intro e he
  rcases List.mem_append.1 he with h | h
  · exact key_of_mem_textEntry h ▸ by decide
  · exact key_of_mem_textEntry h ▸ by decide

/-! ### Silent texts -/

/-- The text of an entry does not read as an entry, nor does it end as the front of one. -/
def Entry.Silent : Entry → Prop
  | .text _ s => ∀ key ∈ optionKeys, entryTruth? key s = none ∧ endsOpen key s = false
  | .truth _ _ => True

instance : (e : Entry) → Decidable e.Silent
  | .text _ s => inferInstanceAs
      (Decidable (∀ key ∈ optionKeys, entryTruth? key s = none ∧ endsOpen key s = false))
  | .truth _ _ => inferInstanceAs (Decidable True)

/-- The truth value that an entry sets for a key. -/
def Entry.ownTruth? (key : String) : Entry → Option Bool
  | .truth k b => if k = key then some b else none
  | .text _ _ => none

/-- The text that an entry sets for a key. -/
def Entry.ownText? (key : String) : Entry → Option (List Char)
  | .text k s => if k = key then some s else none
  | .truth _ _ => none

variable {key : String}

theorem readTruth?_of_silent (hkey : key ∈ optionKeys) (h : ∀ e ∈ es, e.Silent) :
    readTruth? key es = es.findSome? (Entry.ownTruth? key) := by
  induction es with
  | nil => rfl
  | cons e es ih =>
    have he : e.truth? key = e.ownTruth? key := by
      cases e with
      | text k s => exact (h _ List.mem_cons_self key hkey).1
      | truth k b => rfl
    rw [readTruth?, List.findSome?_cons, List.findSome?_cons, he, ← readTruth?,
      ih fun e he => h e (List.mem_cons_of_mem _ he)]

theorem readText?_of_silent (hkey : key ∈ optionKeys) (h : ∀ e ∈ es, e.Silent) :
    readText? key es = es.findSome? (Entry.ownText? key) := by
  induction es with
  | nil => rfl
  | cons e es ih =>
    have ih := ih fun e he => h e (List.mem_cons_of_mem _ he)
    cases e with
    | text k s =>
      have hclosed : endsOpen key s = false := (h _ List.mem_cons_self key hkey).2
      rw [readText?, List.findSome?_cons, Entry.ownText?, hclosed, ih]
      split <;> rfl
    | truth k b => exact ih

/-- The texts of a field can be said in an option list, and none of them says anything else. -/
structure FieldMeta.Clear (info : FieldMeta) : Prop where
  label : ∀ s, info.label = some s → s ≠ ""
  pattern : ∀ s, info.pattern = some s → s ≠ "" ∧ normalize s.toList = .ok (some s.toList)
  widget : ∀ s, info.widget = some s → s ≠ "" ∧ lower (strip s.toList) = s.toList
  silent : ∀ e ∈ info.entries, e.Silent

/-- The label of a member can be said in an option list, and its texts say nothing else. -/
structure MemberMeta.Clear (info : MemberMeta) : Prop where
  label : ∀ s, info.label = some s → s ≠ ""
  silent : ∀ e ∈ info.entries, e.Silent

theorem findSome?_ownText?_textEntry (k : String) (o : Option String) :
    (textEntry k o).findSome? (Entry.ownText? key) =
      if k = key then o.map String.toList else none := by
  cases o <;> simp [textEntry, Entry.ownText?]

theorem findSome?_ownText?_truthEntry (k : String) (o : Option Bool) :
    (truthEntry k o).findSome? (Entry.ownText? key) = none := by
  cases o <;> rfl

theorem findSome?_ownTruth?_truthEntry (k : String) (o : Option Bool) :
    (truthEntry k o).findSome? (Entry.ownTruth? key) = if k = key then o else none := by
  cases o <;> simp [truthEntry, Entry.ownTruth?]

theorem findSome?_ownTruth?_textEntry (k : String) (o : Option String) :
    (textEntry k o).findSome? (Entry.ownTruth? key) = none := by
  cases o <;> rfl

theorem map_bind_nonEmpty {o : Option String} (h : ∀ s, o = some s → s ≠ "") :
    (o.map String.toList).bind nonEmpty = o := by
  cases o with
  | none => rfl
  | some s => simp [nonEmpty, h s rfl]

theorem map_ofList_toList (o : Option String) : (o.map String.toList).map String.ofList = o := by
  cases o <;> simp

theorem FieldMeta.Clear.texts {info : FieldMeta} (h : info.Clear) :
    readText? "ui_label" info.entries = info.label.map String.toList ∧
    readText? "ui_pattern" info.entries = info.pattern.map String.toList ∧
    readText? "ui_widget" info.entries = info.widget.map String.toList := by
  have htext (key : String) (hkey : key ∈ optionKeys) := readText?_of_silent hkey h.silent
  rw [htext "ui_label" (by decide), htext "ui_pattern" (by decide), htext "ui_widget" (by decide)]
  simp only [FieldMeta.entries, List.findSome?_append, findSome?_ownText?_textEntry,
    findSome?_ownText?_truthEntry]
  simp

theorem FieldMeta.Clear.truths {info : FieldMeta} (h : info.Clear) :
    readTruth? "ui_required" info.entries = info.required ∧
    readTruth? "ui_list" info.entries = info.listVisible ∧
    readTruth? "ui_unique" info.entries = info.uniqueKey := by
  have htruth (key : String) (hkey : key ∈ optionKeys) := readTruth?_of_silent hkey h.silent
  rw [htruth "ui_required" (by decide), htruth "ui_list" (by decide), htruth "ui_unique" (by decide)]
  simp only [FieldMeta.entries, List.findSome?_append, findSome?_ownTruth?_textEntry,
    findSome?_ownTruth?_truthEntry]
  simp

/-- The entries of a clear field say what set them. -/
theorem FieldMeta.Clear.ofEntries {info : FieldMeta} (h : info.Clear) :
    FieldMeta.ofEntries info.entries = .ok info := by
  obtain ⟨hlabel, hpattern, hwidget⟩ := h.texts
  obtain ⟨hrequired, hlist, hunique⟩ := h.truths
  have hlower : ((info.widget.map String.toList).bind fun w => nonEmpty (lower (strip w))) =
      info.widget := by
    cases hw : info.widget with
    | none => rfl
    | some s =>
      obtain ⟨hne, hs⟩ := h.widget s hw
      simp [nonEmpty, hs, hne]
  rw [FieldMeta.ofEntries, hlabel, hpattern, hwidget, hrequired, hlist, hunique, hlower,
    map_bind_nonEmpty h.label]
  obtain ⟨label, required, pattern, listVisible, uniqueKey, widget⟩ := info
  cases pattern with
  | none => rfl
  | some s =>
    obtain ⟨hne, hs⟩ := h.pattern s rfl
    have hfilter : ((some s).map String.toList).filter (!·.isEmpty) = some s.toList := by
      simp [Option.filter, hne]
    simp only [hfilter, hs]
    simp [bind, Except.bind, pure, Except.pure]

theorem MemberMeta.Clear.texts {info : MemberMeta} (h : info.Clear) :
    readText? "ui_enum_label" info.entries = info.label.map String.toList ∧
    readText? "ui_enum_value" info.entries = info.value.map String.toList := by
  have htext (key : String) (hkey : key ∈ optionKeys) := readText?_of_silent hkey h.silent
  rw [htext "ui_enum_label" (by decide), htext "ui_enum_value" (by decide)]
  simp only [MemberMeta.entries, List.findSome?_append, findSome?_ownText?_textEntry]
  simp

/-- The entries of a clear member say what set them. -/
theorem MemberMeta.Clear.ofEntries {info : MemberMeta} (h : info.Clear) :
    MemberMeta.ofEntries info.entries = info := by
  obtain ⟨hlabel, hvalue⟩ := h.texts
  rw [MemberMeta.ofEntries, hlabel, hvalue, map_bind_nonEmpty h.label, map_ofList_toList]

/-! ### Where an option list stands -/

theorem beforeLast?_eq_none {c : Char} {v : List Char} (h : c ∉ v) : beforeLast? c v = none := by
  induction v with
  | nil => rfl
  | cons d v ih =>
    simp only [List.mem_cons, not_or] at h
    rw [beforeLast?, ih h.2]
    simp [Ne.symm h.1]

theorem beforeLast?_append {c : Char} {v : List Char} (h : c ∉ v) (u : List Char) :
    beforeLast? c (u ++ c :: v) = some u := by
  induction u with
  | nil => simp [beforeLast?, beforeLast?_eq_none h]
  | cons d u ih => rw [List.cons_append, beforeLast?, ih]

theorem afterFirst?_append {c : Char} {u : List Char} (h : c ∉ u) (v : List Char) :
    afterFirst? c (u ++ c :: v) = some v := by
  induction u with
  | nil => simp [afterFirst?]
  | cons d u ih =>
    simp only [List.mem_cons, not_or] at h
    rw [List.cons_append, afterFirst?, if_neg (Ne.symm h.1), ih h.2]

theorem afterFirst?_eq_none {c : Char} {u : List Char} (h : c ∉ u) : afterFirst? c u = none := by
  induction u with
  | nil => rfl
  | cons d u ih =>
    simp only [List.mem_cons, not_or] at h
    rw [afterFirst?, if_neg (Ne.symm h.1), ih h.2]

/-- The option list of a declaration is found between its brackets. -/
theorem optionList_brackets {u : List Char} (hu : '[' ∉ u) (es : List Entry) :
    optionList (u ++ (brackets es ++ [';'])) = writeEntries es := by
  rw [optionList, ← List.append_assoc, beforeLast?_append (by simp), Option.getD_some, brackets]
  cases es with
  | nil =>
    have hnone : afterFirst? '[' (u ++ []) = none := afterFirst?_eq_none (by simpa using hu)
    simp only [List.isEmpty_nil, if_true, hnone]
    rfl
  | cons e es =>
    have hu' : '[' ∉ u ++ [' '] := by simp [hu]
    have hsome := afterFirst?_append hu' (writeEntries (e :: es) ++ [']'])
    rw [List.append_assoc, List.singleton_append] at hsome
    simp only [List.isEmpty_cons, Bool.false_eq_true, if_false, hsome, Option.bind_some,
      beforeLast?_append (c := ']') (v := []) (by simp), Option.getD_some]

/-! ### The end of a declaration -/

theorem isDigit_of_mem_toDigits {number : Nat} {c : Char} (h : c ∈ Nat.toDigits 10 number) :
    Text.isDigit c = true := by
  have hc := Nat.isDigit_of_mem_toDigits (by decide) (by decide) h
  simp only [Char.isDigit, Bool.and_eq_true, decide_eq_true_eq, ge_iff_le,
    UInt32.le_iff_toNat_le] at hc
  change 48 ≤ c.toNat ∧ c.toNat ≤ 57 at hc
  have hlt : c.toNat < 128 := by omega
  simp [Text.isDigit, digitValue?, hlt, hc]

theorem isWord_of_mem_toDigits {number : Nat} {c : Char} (h : c ∈ Nat.toDigits 10 number) :
    isWord c = true := by
  apply isWord_of_isAsciiWord
  simp [isAsciiWord, Char.isAlphanum, Nat.isDigit_of_mem_toDigits (by decide) (by decide) h]

theorem lineFeed_not_mem_writeMore (hk : ∀ e ∈ es, e.key ∈ optionKeys)
    (h : ∀ e ∈ es, e.OneLine) : '\n' ∉ writeMore es := by
  have hkey (k : String) (hk : k ∈ optionKeys) : '\n' ∉ k.toList := fun h =>
    absurd ((isName_of_mem_optionKeys k hk).isWord _ h) (by decide)
  induction es with
  | nil => simp [writeMore]
  | cons e es ih =>
    have ih := ih (fun e he => hk e (List.mem_cons_of_mem _ he))
      fun e he => h e (List.mem_cons_of_mem _ he)
    have hvalue : '\n' ∉ e.value := by
      have he := h e List.mem_cons_self
      cases e with
      | text k s => exact lineFeed_not_mem_literal he
      | truth k b => cases b <;> simp [Entry.value, truthWord]
    simp [writeMore, keyed, hkey e.key (hk e List.mem_cons_self), hvalue, ih]

theorem lineFeed_not_mem_writeEntries (hk : ∀ e ∈ es, e.key ∈ optionKeys)
    (h : ∀ e ∈ es, e.OneLine) : '\n' ∉ writeEntries es := by
  have hmore := lineFeed_not_mem_writeMore hk h
  cases es with
  | nil => exact hmore
  | cons e es =>
    simp only [writeMore, List.mem_cons, not_or] at hmore
    exact hmore.2.2

theorem closesOptions_bracket {options : List Char} (h : '\n' ∉ options) :
    closesOptions ('[' :: (options ++ [']', ';'])) = true := by
  have hlast : ('[' :: (options ++ [']', ';'])).getLast? = some ';' := by
    rw [← List.cons_append, List.getLast?_append]
    rfl
  have hall : options.all (· != '\n') = true := by
    rw [List.all_eq_true]
    intro c hc
    rw [bne_iff_ne]
    rintro rfl
    exact h hc
  have hreverse : ('[' :: (options ++ [']', ';'])).reverse =
      ';' :: ']' :: (options.reverse ++ ['[']) := by simp
  have hblank : isBlank ']' = false := rfl
  rw [closesOptions, dropFinalLineFeed, hlast, if_neg (by simp), hreverse]
  simp [hblank, hall]

theorem dropWhile_toDigits_append (number : Nat) {r : List Char}
    (hr : ∀ c, r.head? = some c → Text.isDigit c = false) :
    (Nat.toDigits 10 number ++ r).dropWhile Text.isDigit = r := by
  rw [List.dropWhile_append_of_pos fun c hc => isDigit_of_mem_toDigits hc]
  cases r with
  | nil => rfl
  | cons c r => simp [hr c rfl]

/-- A number begins with a digit. -/
theorem toDigits_append_head (number : Nat) (r : List Char) :
    (Nat.toDigits 10 number ++ r).head?.any Text.isDigit = true ∧
      stripLeft (Nat.toDigits 10 number ++ r) = Nat.toDigits 10 number ++ r := by
  cases hd : Nat.toDigits 10 number with
  | nil => exact (Nat.toDigits_ne_nil hd).elim
  | cons c ds =>
    have hc : c ∈ Nat.toDigits 10 number := by simp [hd]
    have hblank := isBlank_of_isWord (isWord_of_mem_toDigits hc)
    exact ⟨by simp [isDigit_of_mem_toDigits hc], stripLeft_cons hblank _⟩

/-- A written number and option list end a declaration. -/
theorem isNumbering_numbering (number : Nat) (hk : ∀ e ∈ es, e.key ∈ optionKeys)
    (h : ∀ e ∈ es, e.OneLine) : isNumbering (numbering number es ++ [';']) = true := by
  have hstart : stripLeft (numbering number es ++ [';']) =
      '=' :: ' ' :: (Nat.toDigits 10 number ++ (brackets es ++ [';'])) := by
    simp [numbering, stripLeft, isBlank]
  obtain ⟨hfirst, hstrip⟩ := toDigits_append_head number (brackets es ++ [';'])
  have hspace : stripLeft (' ' :: (Nat.toDigits 10 number ++ (brackets es ++ [';']))) =
      Nat.toDigits 10 number ++ (brackets es ++ [';']) := hstrip
  rw [isNumbering, hstart]
  simp only [hspace, hfirst, Bool.true_and]
  cases es with
  | nil =>
    have hnil : brackets [] ++ [';'] = [';'] := rfl
    rw [hnil, dropWhile_toDigits_append number (by simp; decide)]
    rfl
  | cons e es =>
    have hopen : brackets (e :: es) ++ [';'] =
        ' ' :: '[' :: (writeEntries (e :: es) ++ [']', ';']) := by simp [brackets]
    have hspace : ∀ c, (' ' :: '[' :: (writeEntries (e :: es) ++ [']', ';'])).head? = some c →
        Text.isDigit c = false := by
      intro c hc
      rw [← Option.some.inj hc]
      decide
    rw [hopen, dropWhile_toDigits_append number hspace]
    exact closesOptions_bracket (lineFeed_not_mem_writeEntries hk h)

/-! ### Recognized declarations -/

theorem typeName?_append {t : List Char} (ht : IsName t) {d : Char}
    (hd : (isWord d || d == '.') = false) (r : List Char) :
    typeName? (t ++ d :: r) = some (t, d :: r) := by
  cases t with
  | nil => exact ht.elim
  | cons c t =>
    have hin : ∀ d ∈ t, (isWord d || d == '.') = true := fun d hd => by simp [ht.2 d hd]
    rw [List.cons_append, typeName?]
    simp only [ht.1, if_true, List.takeWhile_append_of_pos hin, List.dropWhile_append_of_pos hin]
    rw [List.takeWhile_cons_of_neg (by simp [hd]), List.dropWhile_cons_of_neg (by simp [hd]),
      List.append_nil]

theorem typeAndName?_append {t n : List Char} (ht : IsName t) (hn : IsName n) (r : List Char) :
    typeAndName? (t ++ ' ' :: (n ++ ' ' :: r)) =
      if isNumbering (' ' :: r) then some (t, n) else none := by
  have hname : identifier? (n ++ ' ' :: r) = some (n, ' ' :: r) := by
    refine identifier?_append hn fun c hc => ?_
    rw [← Option.some.inj hc]
    decide
  have hspace : (isWord ' ' || ' ' == '.') = false := by decide
  simp only [typeAndName?, typeName?_append ht hspace, dropBlanks?_space hn, hname, bind,
    Option.bind_some]

/-- A name before an equals sign is no type. -/
theorem typeAndName?_equals {n : List Char} (hn : IsName n) (r : List Char) :
    typeAndName? (n ++ ' ' :: '=' :: r) = none := by
  have hnone : identifier? ('=' :: r) = none := rfl
  have hblanks : dropBlanks? (' ' :: '=' :: r) = some ('=' :: r) := rfl
  have hspace : (isWord ' ' || ' ' == '.') = false := by decide
  simp only [typeAndName?, typeName?_append hn hspace, hblanks, hnone, bind, Option.bind_some,
    Option.bind_none]

variable {f : SourceField} {m : SourceMember}

/-- A written field is recognized. -/
theorem SourceField.Valid.fieldHeader?_write (h : f.Valid) :
    fieldHeader? (f.write ++ [';']) =
      some (f.decl.repeated, f.decl.type.toList, f.decl.name.toList) := by
  have hnum := isNumbering_numbering f.number f.decl.info.key_mem_optionKeys h.info
  have hplain : typeAndName? (f.decl.type.toList ++ ' ' :: (f.decl.name.toList ++
      (numbering f.number f.decl.info.entries ++ [';']))) =
        some (f.decl.type.toList, f.decl.name.toList) := by
    rw [numbering, List.cons_append] at hnum ⊢
    rw [typeAndName?_append h.type h.name, if_pos hnum]
  have hrepeated : IsName "repeated".toList := by decide
  cases hr : f.decl.repeated with
  | true =>
    have hw : f.write ++ [';'] = "repeated".toList ++ ' ' :: (f.decl.type.toList ++
        ' ' :: (f.decl.name.toList ++ (numbering f.number f.decl.info.entries ++ [';']))) := by
      simp [SourceField.write, headed, hr]
    rw [hw, fieldHeader?, dropWord?_bind_dropBlanks? hrepeated hrepeated, if_pos rfl,
      stripLeft_name h.type, Option.bind_some, hplain]
    rfl
  | false =>
    have hw : f.write ++ [';'] = f.decl.type.toList ++ ' ' :: (f.decl.name.toList ++
        (numbering f.number f.decl.info.entries ++ [';'])) := by
      simp [SourceField.write, headed, hr]
    have hfirst : (((dropWord? "repeated".toList (f.write ++ [';'])).bind dropBlanks?).bind
        typeAndName?) = none := by
      rw [hw, dropWord?_bind_dropBlanks? hrepeated h.type]
      split
      · rw [stripLeft_name h.name, Option.bind_some]
        exact typeAndName?_equals h.name _
      · rfl
    rw [fieldHeader?, hfirst, hw, hplain]
    rfl

end Formwork.Idl
