import Formwork.Proofs.Idl.Items
import Formwork.Proofs.Keyed
import Mathlib.Data.List.Basic

/-!
The round trip of form descriptions. A written description is read back with its blocks, its
declarations in order and its options; each declaration comes back with what its option list says,
so that the document is the one that was written exactly if every option list says what its entries
set.
-/
namespace Formwork.Idl
open Formwork.Text Formwork.Pattern

/-! ### Runs that may fail -/

section

variable {α β ε : Type} {f : α → Except ε β}

theorem mapM_eq_ok_iff (g : α → β) (xs : List α) :
    xs.mapM f = .ok (xs.map g) ↔ ∀ x ∈ xs, f x = .ok (g x) := by
  induction xs with
  | nil => simp [pure, Except.pure]
  | cons x xs ih =>
    rw [List.mapM_cons, List.forall_mem_cons, ← ih, List.map_cons]
    cases hx : f x with
    | error e => simp [bind, Except.bind]
    | ok y =>
      cases hxs : xs.mapM f with
      | error e => simp [bind, Except.bind]
      | ok ys => simp [bind, Except.bind, pure, Except.pure]

/-- What every step keeps, a run keeps. -/
theorem map_eq_of_mapM_eq_ok {γ : Type} {g : α → γ} {k : β → γ}
    (h : ∀ x y, f x = .ok y → k y = g x) {xs : List α} {ys : List β} (hr : xs.mapM f = .ok ys) :
    ys.map k = xs.map g := by
  induction xs generalizing ys with
  | nil =>
    obtain rfl : [] = ys := by simpa [pure, Except.pure] using hr
    rfl
  | cons x xs ih =>
    rw [List.mapM_cons] at hr
    cases hx : f x with
    | error e => simp [hx, bind, Except.bind] at hr
    | ok y =>
      cases hxs : xs.mapM f with
      | error e => simp [hx, hxs, bind, Except.bind] at hr
      | ok zs =>
        obtain rfl : y :: zs = ys := by simpa [hx, hxs, bind, Except.bind, pure, Except.pure] using hr
        rw [List.map_cons, List.map_cons, h x y hx, ih hxs]

end

/-! ### Messages -/

theorem Item.Valid.ofStatement?_residue {i : Item} (h : i.Valid) :
    FieldDecl.ofStatement? ⟨i.residue ++ [';'], [], []⟩ =
      match i.field? with
      | some f => f.read.map some
      | none => .ok none := by
  have hfront (w : List Char) (hw : IsName w) (hne : w ≠ "repeated".toList) (name : List Char)
      (hn : IsName name) : FieldDecl.ofStatement? ⟨front w name ++ [';'], [], []⟩ = .ok none := by
    rw [FieldDecl.ofStatement?, fieldHeader?_front hw hn hne]
    rfl
  cases i with
  | field f => exact SourceField.Valid.ofStatement? h
  | message name items => exact hfront _ isName_message (by decide) _ h.1
  | enumeration name members => exact hfront _ isName_enum (by decide) _ h.1

/-- The statements of a body declare the fields of the block. -/
theorem ItemsValid.fields {items : List Item} (h : ItemsValid items) (depth : Nat) :
    ((statements (bodyOf depth (writeItems (depth + 1) items))).mapM FieldDecl.ofStatement?).map
      (·.filterMap id) = (items.filterMap Item.field?).mapM SourceField.read := by
  rw [h.statements_body]
  induction items with
  | nil => rfl
  | cons i items ih =>
    have ih := ih h.2
    rw [List.map_cons, List.map_cons, List.mapM_cons, h.1.ofStatement?_residue]
    cases hi : i.field? with
    | none =>
      rw [List.filterMap_cons_none hi, ← ih]
      cases ((items.map Item.residue).map fun u => (⟨u ++ [';'], [], []⟩ : Statement)).mapM
        FieldDecl.ofStatement? <;> rfl
    | some f =>
      rw [List.filterMap_cons_some hi, List.mapM_cons, ← ih]
      dsimp only
      cases f.read with
      | error e => rfl
      | ok decl =>
        cases ((items.map Item.residue).map fun u => (⟨u ++ [';'], [], []⟩ : Statement)).mapM
          FieldDecl.ofStatement? <;> rfl

/-- Reads the message type with a name and a body. -/
def readBody (b : List Char × List Char) : Except Fault (String × Message) := do
  let fields ← (statements b.2).mapM FieldDecl.ofStatement?
  pure (String.ofList b.1, { name := String.ofList b.1, fields := fields.filterMap id })

/-- What the entries of its fields make of a message type. -/
def readMessage (m : String × List SourceField) : Except Fault (String × Message) := do
  let fields ← m.2.mapM SourceField.read
  pure (m.1, { name := m.1, fields })

theorem ItemsValid.readBody_eq {items : List Item} (h : ItemsValid items) (depth : Nat)
    (name : String) :
    readBody (name.toList, bodyOf depth (writeItems (depth + 1) items)) =
      readMessage (name, items.filterMap Item.field?) := by
  rw [readBody, readMessage, ← h.fields depth, String.ofList_toList]
  cases (statements (bodyOf depth (writeItems (depth + 1) items))).mapM
    FieldDecl.ofStatement? <;> rfl

mutual

theorem Item.Valid.messages : {i : Item} → i.Valid → (depth : Nat) →
    (i.bodies "message".toList depth).mapM readBody = i.messages.mapM readMessage
  | .field _, _, _ => rfl
  | .message _ _, h, depth => by
    rw [Item.bodies, opened, if_pos rfl, Item.messages, List.singleton_append, List.mapM_cons,
      List.mapM_cons, h.2.readBody_eq, h.2.messages]
  | .enumeration _ _, _, _ => by
    rw [Item.bodies, opened, if_neg (by decide)]
    rfl

theorem ItemsValid.messages : {items : List Item} → ItemsValid items → (depth : Nat) →
    (bodiesOf "message".toList depth items).mapM readBody = (messagesOf items).mapM readMessage
  | [], _, _ => rfl
  | _ :: _, h, depth => by
    rw [bodiesOf, messagesOf, List.mapM_append, List.mapM_append, h.1.messages, h.2.messages]

end

/-! ### Enumerations -/

/-- Reads the enumeration type with a name and a body. -/
def readEnumBody (b : List Char × List Char) : String × Enumeration :=
  (String.ofList b.1,
    { name := String.ofList b.1, choices := (statements b.2).filterMap Choice.ofStatement? })

/-- What the entries of its members make of an enumeration type. -/
def readEnumeration (e : String × List SourceMember) : String × Enumeration :=
  (e.1, { name := e.1, choices := e.2.map SourceMember.read })

theorem readEnumBody_memberLines {members : List SourceMember} (h : ∀ m ∈ members, m.Valid)
    (depth : Nat) (name : String) :
    readEnumBody (name.toList, bodyOf depth (memberLines (depth + 1) members)) =
      readEnumeration (name, members) := by
  have hchoices : (statements (bodyOf depth (memberLines (depth + 1) members))).filterMap
      Choice.ofStatement? = members.map SourceMember.read := by
    rw [statements_memberLines h]
    induction members with
    | nil => rfl
    | cons m members ih =>
      have hm := (h m List.mem_cons_self).ofStatement?
      rw [List.map_cons, List.map_cons, List.filterMap_cons_some hm,
        ih fun n hn => h n (List.mem_cons_of_mem _ hn), List.map_cons]
  rw [readEnumBody, readEnumeration, hchoices, String.ofList_toList]

mutual

theorem Item.Valid.enumerations : {i : Item} → i.Valid → (depth : Nat) →
    (i.bodies "enum".toList depth).map readEnumBody = i.enumerations.map readEnumeration
  | .field _, _, _ => rfl
  | .message _ _, h, depth => by
    rw [Item.bodies, opened, if_neg (by decide), Item.enumerations, List.nil_append,
      h.2.enumerations]
  | .enumeration _ _, h, depth => by
    rw [Item.bodies, opened, if_pos rfl, Item.enumerations, List.map_cons, List.map_cons,
      readEnumBody_memberLines h.2]
    rfl

theorem ItemsValid.enumerations : {items : List Item} → ItemsValid items → (depth : Nat) →
    (bodiesOf "enum".toList depth items).map readEnumBody =
      (enumerationsOf items).map readEnumeration
  | [], _, _ => rfl
  | _ :: _, h, depth => by
    rw [bodiesOf, enumerationsOf, List.map_append, List.map_append, h.1.enumerations,
      h.2.enumerations]

end

/-! ### Documents -/

variable {s : Source}

theorem Source.write_eq (s : Source) :
    s.write = (s.options.map writeOption).flatMap (lineOf 0) ++ writeItems 0 s.items := by
  rw [Source.write, List.flatMap_map]

theorem Source.Valid.isDeclaration_options (h : s.Valid) :
    ∀ u ∈ s.options.map writeOption, IsDeclaration u := by
  intro u hu
  obtain ⟨o, ho, rfl⟩ := List.mem_map.1 hu
  exact isDeclaration_writeOption (h.keys o ho) (h.values o ho)

theorem Source.Valid.written (h : s.Valid) : Written (fun _ => True) s.write := by
  rw [Source.write_eq]
  exact ((written_lines h.isDeclaration_options 0).mono fun _ _ => trivial).append
    (h.items.written 0)

/-- The blocks of a written description. -/
theorem Source.Valid.blocks_write (h : s.Valid) {keyword : String} (hk : IsName keyword.toList) :
    (blocks keyword s.write).map (fun b => (b.name, b.body)) =
      bodiesOf keyword.toList 0 s.items := by
  have hitems := h.items.outline_write hk 0 []
  rw [outline_nil, List.append_nil, List.append_nil] at hitems
  rw [blocks, outline_eq, Source.write_eq, (written_lines h.isDeclaration_options 0).mark_append,
    outline_lines h.isDeclaration_options hk, hitems]

theorem Source.Valid.messageTable_write (h : s.Valid) :
    messageTable s.write = (do pure (Keyed.table (← (messagesOf s.items).mapM readMessage))) := by
  rw [← h.items.messages 0, ← h.blocks_write isName_message, List.mapM_map]
  rfl

theorem Source.Valid.enumerationTable_write (h : s.Valid) :
    enumerationTable s.write = (enumerationsOf s.items).map readEnumeration := by
  have hnames : ((enumerationsOf s.items).map readEnumeration).map (·.1) =
      (enumerationsOf s.items).map (·.1) := by
    rw [List.map_map]
    rfl
  have htable : enumerationTable s.write =
      Keyed.table (((blocks "enum" s.write).map fun b => (b.name, b.body)).map readEnumBody) := by
    rw [enumerationTable, List.map_map]
    rfl
  rw [htable, h.blocks_write isName_enum, h.items.enumerations 0]
  exact Keyed.table_of_nodup (hnames ▸ h.enumerationsNodup)

/-- What stands at the top of a written description, blocks dropped. -/
theorem Source.Valid.removeInnerBlocks_write (h : s.Valid) :
    removeInnerBlocks s.write =
      (s.options.map writeOption ++ s.items.map Item.residue).flatMap (lineOf 0) := by
  have hitems := h.items.dropBlocks_write 0 []
  have hnil : dropBlocks 0 [] = [] := rfl
  rw [hnil, List.append_nil, List.append_nil] at hitems
  have hoptions := written_lines h.isDeclaration_options 0
  rw [removeInnerBlocks, Source.write_eq, hoptions.mark_append,
    dropBlocks_append_of_braceless hoptions.braceless, mark_map_fst, hitems, List.flatMap_append]

theorem Source.Valid.fileOptions_write (h : s.Valid) : fileOptions s.write = s.options := by
  have hus : ∀ u ∈ s.options.map writeOption ++ s.items.map Item.residue, IsDeclaration u := by
    intro u hu
    rcases List.mem_append.1 hu with hu | hu
    · exact h.isDeclaration_options u hu
    · exact h.items.isDeclaration u hu
  have hline (u : List Char) (hu : IsDeclaration u) :
      fileOption? (splitLineComment (indent 0 ++ (u ++ [';']))).1 = fileOption? (u ++ [';']) := by
    rw [hu.splitLineComment_line (mem_indent 0)]
  have hoptions : ((s.options.map writeOption).map fun u => indent 0 ++ (u ++ [';'])).filterMap
      (fun l => fileOption? (splitLineComment l).1) = s.options := by
    rw [List.map_map, List.filterMap_map]
    refine (List.filterMap_congr fun o ho => ?_).trans List.filterMap_some
    exact (hline _ (isDeclaration_writeOption (h.keys o ho) (h.values o ho))).trans
      (fileOption?_writeOption (h.keys o ho))
  have hitems : ((s.items.map Item.residue).map fun u => indent 0 ++ (u ++ [';'])).filterMap
      (fun l => fileOption? (splitLineComment l).1) = [] := by
    rw [List.map_map, List.filterMap_map, List.filterMap_eq_nil_iff]
    intro i hi
    refine (hline _ (h.items.mem i hi).isDeclaration).trans ?_
    have hvalid := h.items.mem i hi
    cases i with
    | field f =>
      have htop := List.filterMap_eq_nil_iff.1 h.topLevel _ hi
      cases htop
    | message name items => exact fileOption?_front isName_message (by decide)
    | enumeration name members => exact fileOption?_front isName_enum (by decide)
  have hlast : [[]].filterMap (fun l => fileOption? (splitLineComment l).1) = [] := rfl
  have hpieces := pieces_lines hus 0 (List.not_mem_nil (a := '\n'))
  rw [List.append_nil] at hpieces
  rw [fileOptions, h.written.stripBlockComments_eq, h.removeInnerBlocks_write]
  simp only [hpieces, List.map_append, List.filterMap_append, hoptions, hitems,
    hlast, List.append_nil]
  exact Keyed.table_of_nodup h.keysNodup

/-- Reading a written description reads its entries. -/
theorem Source.Valid.read_write (h : s.Valid) :
    Document.read s.write = (do
      let messages ← (messagesOf s.items).mapM readMessage
      pure {
        messages
        enumerations := (enumerationsOf s.items).map readEnumeration
        options := s.options }) := by
  have hnames (x : String × List SourceField) (y : String × Message)
      (hxy : readMessage x = .ok y) : y.1 = x.1 := by
    rw [readMessage] at hxy
    cases hf : x.2.mapM SourceField.read with
    | error e => simp [hf, bind, Except.bind] at hxy
    | ok fields =>
      obtain rfl := by simpa [hf, bind, Except.bind, pure, Except.pure] using hxy
      rfl
  rw [Document.read, h.written.stripBlockComments_eq, h.messageTable_write,
    h.enumerationTable_write, h.fileOptions_write]
  cases hm : (messagesOf s.items).mapM readMessage with
  | error e => rfl
  | ok messages =>
    have hkept := map_eq_of_mapM_eq_ok hnames hm
    have htable : Keyed.table messages = messages :=
      Keyed.table_of_nodup (hkept ▸ h.messagesNodup)
    simp [bind, Except.bind, pure, Except.pure, htable]

/-- Every option list says what its entries set. -/
structure Source.Faithful (s : Source) : Prop where
  fields : ∀ m ∈ messagesOf s.items, ∀ f ∈ m.2,
    FieldMeta.ofEntries f.decl.info.entries = .ok f.decl.info
  members : ∀ e ∈ enumerationsOf s.items, ∀ m ∈ e.2, m.read = m.choice

theorem SourceField.read_eq_iff (f : SourceField) :
    f.read = .ok f.decl ↔ FieldMeta.ofEntries f.decl.info.entries = .ok f.decl.info := by
  rw [SourceField.read]
  cases FieldMeta.ofEntries f.decl.info.entries with
  | error e => simp [Except.map]
  | ok info =>
    obtain ⟨⟨name, type, repeated, own⟩, number⟩ := f
    simp [Except.map]

theorem readMessage_eq_iff (m : String × List SourceField) :
    readMessage m = .ok (m.1, { name := m.1, fields := m.2.map (·.decl) }) ↔
      ∀ f ∈ m.2, FieldMeta.ofEntries f.decl.info.entries = .ok f.decl.info := by
  simp only [← SourceField.read_eq_iff, ← mapM_eq_ok_iff, readMessage]
  cases m.2.mapM SourceField.read with
  | error e => simp [bind, Except.bind]
  | ok fields => simp [bind, Except.bind, pure, Except.pure]

theorem readEnumeration_eq_iff (e : String × List SourceMember) :
    readEnumeration e = (e.1, { name := e.1, choices := e.2.map (·.choice) }) ↔
      ∀ m ∈ e.2, m.read = m.choice := by
  simp [readEnumeration, List.map_inj_left]

/-- The texts of all fields and members are clear. -/
structure Source.Clear (s : Source) : Prop where
  fields : ∀ m ∈ messagesOf s.items, ∀ f ∈ m.2, f.decl.info.Clear
  members : ∀ e ∈ enumerationsOf s.items, ∀ m ∈ e.2, m.info.Clear

theorem Source.Clear.faithful (h : s.Clear) : s.Faithful where
  fields m hm f hf := (h.fields m hm f hf).ofEntries
  members e he m hm := by
    rw [SourceMember.read, (h.members e he m hm).ofEntries]
    rfl

/-- A written description is read back as it was written exactly if every option list says what its
entries set. -/
theorem read_write_iff {s : Source} (h : s.Valid) :
    Document.read s.write = .ok s.document ↔ s.Faithful := by
  have hmessages := mapM_eq_ok_iff (f := readMessage)
    (fun m => (m.1, { name := m.1, fields := m.2.map (·.decl) })) (messagesOf s.items)
  have henumerations : (enumerationsOf s.items).map readEnumeration = s.document.enumerations ↔
      ∀ e ∈ enumerationsOf s.items, ∀ m ∈ e.2, m.read = m.choice := by
    rw [Source.document, List.map_inj_left]
    exact forall₂_congr fun e _ => readEnumeration_eq_iff e
  simp only [readMessage_eq_iff] at hmessages
  rw [h.read_write]
  constructor
  · intro hread
    cases hm : (messagesOf s.items).mapM readMessage with
    | error e => simp [hm, bind, Except.bind] at hread
    | ok messages =>
      obtain hdocument := by simpa [hm, bind, Except.bind, pure, Except.pure] using hread
      have h₁ := congrArg Document.messages hdocument
      have h₂ := congrArg Document.enumerations hdocument
      exact ⟨hmessages.1 (by rw [hm]; exact congrArg _ h₁), henumerations.1 h₂⟩
  · rintro ⟨hf, hm⟩
    rw [hmessages.2 hf, henumerations.2 hm]
    rfl

/-! ### A description that is read back -/

def lineField : SourceField where
  decl := {
    name := "lines"
    type := "Line"
    repeated := true
    info := {
      label := some "Lines; // \x7b \"]"
      required := some true
      pattern := some "[A-Z]+"
      widget := some "text" } }
  number := 12

def openMember : SourceMember where
  name := "STILL_OPEN"
  info := { label := some "/* \\ */", value := some "" }
  number := 0

/-- Nested blocks below a file option. -/
def orders : Source where
  options := [("app_name", "Orders \x7d \\ \"2\" //")]
  items := [.message "Order"
    [.field lineField, .message "Line" [], .enumeration "State" [openMember]]]

theorem orders_valid : orders.Valid where
  items := by
    have hfield : lineField.Valid := ⟨by decide, by decide, .inl rfl, by decide⟩
    have hmember : openMember.Valid := ⟨by decide, by decide⟩
    have hmembers : ∀ m ∈ [openMember], m.Valid := List.forall_mem_singleton.2 hmember
    exact ⟨⟨by decide, hfield, ⟨by decide, trivial⟩, ⟨by decide, hmembers⟩, trivial⟩, trivial⟩
  topLevel := rfl
  messagesNodup := by decide
  enumerationsNodup := by decide
  keys := by decide
  keysNodup := by decide
  values := by decide

theorem lineField_clear : lineField.decl.info.Clear where
  label s h := by
    rw [← Option.some.inj h]
    decide
  pattern s h := by
    rw [← Option.some.inj h]
    exact ⟨by decide, by decide +kernel⟩
  widget s h := by
    rw [← Option.some.inj h]
    exact ⟨by decide, rfl⟩
  silent := by decide +kernel

theorem openMember_clear : openMember.info.Clear where
  label s h := by
    rw [← Option.some.inj h]
    decide
  silent := by decide +kernel

theorem orders_clear : orders.Clear where
  fields m hm f hf := by
    have hm : m ∈ [("Order", [lineField]), ("Line", [])] := hm
    rcases List.mem_pair.1 hm with rfl | rfl
    · rw [List.mem_singleton.1 hf]
      exact lineField_clear
    · cases hf
  members e he m hm := by
    have he : e ∈ [("State", [openMember])] := he
    rw [List.mem_singleton.1 he] at hm
    rw [List.mem_singleton.1 hm]
    exact openMember_clear

theorem read_write_orders : orders.Valid ∧ Document.read orders.write = .ok orders.document :=
  ⟨orders_valid, (read_write_iff orders_valid).2 orders_clear.faithful⟩

/-! ### A description that is read back with an attribute that it does not set -/

/-- A field that only has a label; the label reads as an entry. -/
def quotedField : SourceField where
  decl := { name := "a", type := "string", info := { label := some "ui_required = true" } }
  number := 1

def quotedEntry : Source where
  options := []
  items := [.message "M" [.field quotedField]]

theorem quotedEntry_valid : quotedEntry.Valid where
  items := by
    have hfield : quotedField.Valid := ⟨by decide, by decide, by decide, by decide⟩
    exact ⟨⟨by decide, hfield, trivial⟩, trivial⟩
  topLevel := rfl
  messagesNodup := by decide
  enumerationsNodup := by decide
  keys := by decide
  keysNodup := by decide
  values := by decide

theorem read_write_quotedEntry : Document.read quotedEntry.write = .ok {
    messages := [("M", { name := "M", fields := [{ quotedField.decl with
      info := { quotedField.decl.info with required := some true } }] })]
    enumerations := []
    options := [] } := by
  rw [quotedEntry_valid.read_write]
  rfl

theorem not_read_write_quotedEntry :
    ¬ ∀ s : Source, s.Valid → Document.read s.write = .ok s.document := by
  intro h
  have hread := h quotedEntry quotedEntry_valid
  rw [read_write_quotedEntry] at hread
  exact absurd hread (by decide)

end Formwork.Idl
