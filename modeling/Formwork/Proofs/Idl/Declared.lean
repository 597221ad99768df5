import Formwork.Proofs.Idl.Reading

/-!
What written declarations declare. Each is a statement of its own, and it declares what was written
with the metadata that its entries give.
-/
namespace Formwork.Idl
open Formwork.Text Formwork.Pattern

instance (c : Char) : Decidable (InDeclaration c) := by
  unfold InDeclaration
  infer_instance

/-! ### Declarations are written code -/

theorem plain_of_isWord {c : Char} (h : isWord c = true) : Plain c ∧ InDeclaration c := by
  have hne (d : Char) (hd : isWord d = false) : c ≠ d := by
    rintro rfl
    simp [hd] at h
  exact ⟨⟨hne _ (by decide), hne _ (by decide), hne _ (by decide)⟩,
    hne _ (by decide), hne _ (by decide), hne _ (by decide), hne _ (by decide)⟩

theorem Written.cons {c : Char} (hc : Plain c ∧ InDeclaration c) {u : List Char}
    (hu : Written InDeclaration u) : Written InDeclaration (c :: u) := .code hc.1 hc.2 hu

theorem Written.word {w : List Char} (hw : ∀ c ∈ w, isWord c = true) : Written InDeclaration w :=
  .of_plain fun c hc => plain_of_isWord (hw c hc)

theorem Written.keyed {k : String} (hk : IsName k.toList) {u : List Char}
    (hu : Written InDeclaration u) : Written InDeclaration (keyed k u) := by
  refine .cons (by decide) ((Written.word hk.isWord).append ?_)
  exact .cons (by decide) (.cons (by decide) (.cons (by decide) (.cons (by decide) hu)))

theorem Entry.written_value {e : Entry} (he : e.OneLine) {u : List Char}
    (hu : Written InDeclaration u) : Written InDeclaration (e.value ++ u) := by
  cases e with
  | text k s => exact .literal he hu
  | truth k b =>
    have hword : ∀ c ∈ truthWord b, isWord c = true := by cases b <;> decide
    exact (Written.word hword).append hu

variable {es : List Entry}

theorem written_writeMore (hk : ∀ e ∈ es, e.key ∈ optionKeys) (h : ∀ e ∈ es, e.OneLine) :
    Written InDeclaration (writeMore es) := by
  induction es with
  | nil => exact .nil
  | cons e es ih =>
    have ih := ih (fun e he => hk e (List.mem_cons_of_mem _ he))
      fun e he => h e (List.mem_cons_of_mem _ he)
    have hvalue := Entry.written_value (h e List.mem_cons_self) ih
    have hkey := isName_of_mem_optionKeys e.key (hk e List.mem_cons_self)
    exact .cons (by decide) (.cons (by decide) (hvalue.keyed hkey))

theorem written_writeEntries (hk : ∀ e ∈ es, e.key ∈ optionKeys) (h : ∀ e ∈ es, e.OneLine) :
    Written InDeclaration (writeEntries es) := by
  cases es with
  | nil => exact .nil
  | cons e es =>
    have hmore := written_writeMore (fun e he => hk e (List.mem_cons_of_mem _ he))
      fun e he => h e (List.mem_cons_of_mem _ he)
    have hkey := isName_of_mem_optionKeys e.key (hk e List.mem_cons_self)
    exact (Entry.written_value (h e List.mem_cons_self) hmore).keyed hkey

theorem written_numbering (number : Nat) (hk : ∀ e ∈ es, e.key ∈ optionKeys)
    (h : ∀ e ∈ es, e.OneLine) : Written InDeclaration (numbering number es) := by
  have hdigits : Written InDeclaration (Nat.toDigits 10 number) :=
    .word fun c hc => isWord_of_mem_toDigits hc
  have hbrackets : Written InDeclaration (brackets es) := by
    rw [brackets]
    split
    · exact .nil
    · have hend : Written InDeclaration [']'] := .cons (by decide) .nil
      exact .cons (by decide) (.cons (by decide) ((written_writeEntries hk h).append hend))
  exact .cons (by decide) (.cons (by decide) (.cons (by decide) (hdigits.append hbrackets)))

theorem IsDeclaration.of_name {n u : List Char} (hn : IsName n) (hu : Written InDeclaration u) :
    IsDeclaration (n ++ u) where
  written := (Written.word hn.isWord).append hu
  start := by
    cases n with
    | nil => exact hn.elim
    | cons c n =>
      intro d hd
      rw [← Option.some.inj hd]
      exact isBlank_of_isWord (isWord_of_isNameStart hn.1)
  nonempty := by
    cases n with
    | nil => exact hn.elim
    | cons c n => simp

variable {f : SourceField} {m : SourceMember}

theorem SourceField.Valid.isDeclaration (h : f.Valid) : IsDeclaration f.write := by
  have hnumber := written_numbering f.number f.decl.info.key_mem_optionKeys h.info
  have hname := (Written.word h.name.isWord).append hnumber
  have htype := IsDeclaration.of_name h.type (.cons (c := ' ') (by decide) hname)
  rw [SourceField.write]
  split
  · have hrepeated : IsName "repeated".toList := by decide
    exact .of_name hrepeated (.cons (c := ' ') (by decide) htype.written)
  · exact htype

theorem isWord_of_inMemberName {c : Char} (h : (c.isUpper || c.isDigit || c == '_') = true) :
    isWord c = true := by
  simp only [Bool.or_eq_true] at h
  apply isWord_of_isAsciiWord
  rcases h with (h | h) | h <;> simp [isAsciiWord, Char.isAlphanum, isAlpha_eq, h]

theorem IsMemberName.isName {n : List Char} (h : IsMemberName n) : IsName n := by
  cases n with
  | nil => exact h
  | cons c n =>
    exact ⟨by simp [isNameStart, isAlpha_eq, h.1], fun d hd => isWord_of_inMemberName (h.2 d hd)⟩

theorem SourceMember.Valid.isDeclaration (h : m.Valid) : IsDeclaration m.write :=
  .of_name h.name.isName (written_numbering m.number m.info.key_mem_optionKeys h.info)

theorem isDeclaration_front {k n : List Char} (hk : IsName k) (hn : IsName n) :
    IsDeclaration (front k n) :=
  .of_name hk (.cons (by decide) ((Written.word hn.isWord).append (.cons (by decide) .nil)))

theorem isDeclaration_writeOption {o : String × String} (hk : IsName o.1.toList)
    (hv : '\n' ∉ o.2.toList) : IsDeclaration (writeOption o) := by
  have hoption : IsName "option".toList := by decide
  have hvalue : Written InDeclaration (literal o.2.toList) := by
    have h := Written.literal hv (.nil (p := InDeclaration))
    rwa [List.append_nil] at h
  exact .of_name hoption (.cons (c := ' ') (by decide) (hvalue.keyed hk))

/-! ### What is declared -/

/-- What the entries of a field make of it. -/
def SourceField.read (f : SourceField) : Except Fault FieldDecl :=
  (FieldMeta.ofEntries f.decl.info.entries).map fun info => { f.decl with info }

/-- What the entries of a member make of it. -/
def SourceMember.read (m : SourceMember) : Choice where
  label := (MemberMeta.ofEntries m.info.entries).label.getD
    (String.ofList (memberTitle m.name.toList))
  value := (MemberMeta.ofEntries m.info.entries).value.getD m.name

theorem bracket_not_mem_numbering {w : List Char} (hw : ∀ c ∈ w, isWord c = true ∨ c = ' ')
    (number : Nat) : '[' ∉ w ++ ' ' :: '=' :: ' ' :: Nat.toDigits 10 number := by
  have hdigits : '[' ∉ Nat.toDigits 10 number := fun h =>
    absurd (isWord_of_mem_toDigits h) (by decide)
  have hfront : '[' ∉ w := by
    intro h
    rcases hw _ h with hc | hc
    · exact absurd hc (by decide)
    · exact absurd hc (by decide)
  simp [hdigits, hfront]

theorem optionList_numbering {w : List Char} (hw : ∀ c ∈ w, isWord c = true ∨ c = ' ')
    (number : Nat) (es : List Entry) :
    optionList (w ++ (numbering number es ++ [';'])) = writeEntries es := by
  have h := optionList_brackets (bracket_not_mem_numbering hw number) es
  rw [← h]
  simp [numbering]

/-- A written field declares what its entries make of it. -/
theorem SourceField.Valid.ofStatement? (h : f.Valid) :
    FieldDecl.ofStatement? ⟨f.write ++ [';'], [], []⟩ = f.read.map some := by
  have hlist : optionList (f.write ++ [';']) = writeEntries f.decl.info.entries := by
    have hdeclared : ∀ c ∈ f.decl.type.toList ++ ' ' :: f.decl.name.toList,
        isWord c = true ∨ c = ' ' := by
      intro c hc
      simp only [List.mem_append, List.mem_cons] at hc
      rcases hc with hc | rfl | hc
      · exact .inl (h.type.isWord c hc)
      · exact .inr rfl
      · exact .inl (h.name.isWord c hc)
    rw [SourceField.write]
    split
    · have hrepeated : ∀ c ∈ "repeated".toList ++ ' ' ::
          (f.decl.type.toList ++ ' ' :: f.decl.name.toList), isWord c = true ∨ c = ' ' := by
        intro c hc
        rcases List.mem_append.1 hc with hc | hc
        · exact .inl ((by decide : IsName "repeated".toList).isWord c hc)
        · rcases List.mem_cons.1 hc with rfl | hc
          · exact .inr rfl
          · exact hdeclared c hc
      rw [← optionList_numbering hrepeated f.number]
      simp only [headed, List.append_assoc, List.cons_append]
    · rw [← optionList_numbering hdeclared f.number]
      simp only [headed, List.append_assoc, List.cons_append]
  rw [FieldDecl.ofStatement?, h.fieldHeader?_write, hlist,
    optionMeta_writeEntries f.decl.info.key_mem_optionKeys, SourceField.read]
  simp only [localName_name h.type, String.ofList_toList]
  cases FieldMeta.ofEntries f.decl.info.entries with
  | error fault => rfl
  | ok info =>
    obtain ⟨label, required, pattern, listVisible, uniqueKey, widget⟩ := info
    simp [commentsMeta, FieldMeta.merge, Except.map, bind, Except.bind, pure, Except.pure]

theorem memberName?_append {n : List Char} (hn : IsMemberName n) (r : List Char) :
    memberName? (n ++ ' ' :: r) = some (n, ' ' :: r) := by
  cases n with
  | nil => exact hn.elim
  | cons c n =>
    rw [List.cons_append, memberName?]
    simp only [hn.1, if_true, List.takeWhile_append_of_pos hn.2, List.dropWhile_append_of_pos hn.2]
    rw [List.takeWhile_cons_of_neg (by decide), List.dropWhile_cons_of_neg (by decide),
      List.append_nil]

/-- A written member declares what its entries make of it. -/
theorem SourceMember.Valid.ofStatement? (h : m.Valid) :
    Choice.ofStatement? ⟨m.write ++ [';'], [], []⟩ = some m.read := by
  have hlist : optionList (m.write ++ [';']) = writeEntries m.info.entries := by
    rw [← optionList_numbering (fun c hc => .inl (h.name.isName.isWord c hc)) m.number,
      SourceMember.write, List.append_assoc]
  have hname : memberName? (m.write ++ [';']) =
      some (m.name.toList, numbering m.number m.info.entries ++ [';']) := by
    rw [SourceMember.write, List.append_assoc, numbering, List.cons_append,
      memberName?_append h.name]
  have hnum := isNumbering_numbering m.number m.info.key_mem_optionKeys h.info
  simp only [Choice.ofStatement?, hname, hlist, bind, Option.bind_some, if_pos hnum,
    optionMemberMeta_writeEntries m.info.key_mem_optionKeys]
  simp [SourceMember.read, MemberMeta.merge]

/-- The front of a block declares no field. -/
theorem fieldHeader?_front {k n : List Char} (hk : IsName k) (hn : IsName n)
    (h : k ≠ "repeated".toList) : fieldHeader? (front k n ++ [';']) = none := by
  have hfront : front k n ++ [';'] = k ++ ' ' :: (n ++ ' ' :: [';']) := by simp [front]
  have hrepeated : IsName "repeated".toList := by decide
  have hnum : isNumbering (' ' :: [';']) = false := rfl
  rw [hfront, fieldHeader?, dropWord?_bind_dropBlanks? hrepeated hk, if_neg h,
    typeAndName?_append hk hn, hnum]
  rfl

/-- A written file option is read. -/
theorem fileOption?_writeOption {o : String × String} (hk : IsName o.1.toList) :
    fileOption? (writeOption o ++ [';']) = some o := by
  have hw : writeOption o ++ [';'] = "option".toList ++ ' ' :: '(' ::
      (o.1.toList ++ ')' :: ' ' :: '=' :: ' ' :: (literal o.2.toList ++ [';'])) := by
    simp [writeOption, headed, keyed]
  have hoption : IsName "option".toList := by decide
  have hclose : (isWord ')' || ')' == '.') = false := by decide
  have hstrip (r : List Char) : stripLeft ('(' :: r) = '(' :: r := rfl
  have hopen (r : List Char) : dropOptional '(' ('(' :: r) = r := rfl
  have hequals (r : List Char) : stripLeft (dropOptional ')' (')' :: ' ' :: '=' :: r)) = '=' :: r :=
    rfl
  have hvalue (s r : List Char) : stripLeft (' ' :: (literal s ++ r)) = literal s ++ r := rfl
  have hend : stripLeft [';'] = [';'] := rfl
  rw [fileOption?, hw, dropWord?_bind_dropBlanks? hoption hoption, if_pos rfl, hstrip]
  simp only [hopen, typeName?_append hk hclose, bind, Option.bind_some, hequals, hvalue,
    quotedText?_literal_append, hend, localName_name hk, String.ofList_toList]

/-- The front of a block is no file option. -/
theorem fileOption?_front {k n : List Char} (hk : IsName k) (h : k ≠ "option".toList) :
    fileOption? (front k n ++ [';']) = none := by
  have hfront : front k n ++ [';'] = k ++ ' ' :: (n ++ [' ', ';']) := by simp [front]
  have hoption : IsName "option".toList := by decide
  rw [hfront, fileOption?, dropWord?_bind_dropBlanks? hoption hk, if_neg h]
  rfl

end Formwork.Idl
