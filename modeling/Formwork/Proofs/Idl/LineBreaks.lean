import Formwork.Proofs.Idl.OneLine
import Formwork.Proofs.Idl.Spacing
import Mathlib.Data.List.Infix

/-!
Line breaks. A text without comments whose literals are closed on their lines declares the same
messages and enumerations however it is broken into lines, unless a text in an option list is found
that holds a run of blanks outside literals: the search for a text takes a closing quote for an opening
one where the literal before it ends in the key and an equals sign.
-/
namespace Formwork.Idl
open Formwork.Text Formwork.Pattern

/-- The keys of options whose values are texts. -/
def fieldTextKeys : List String := ["ui_label", "ui_pattern", "ui_widget"]

def memberTextKeys : List String := ["ui_enum_label", "ui_enum_value"]

/-- No text that an option list gives to one of the keys holds two blanks in a row outside
literals. -/
def Compact (keys : List String) (statement : List Char) : Prop :=
  ∀ key ∈ keys, ¬[space, space] <:+: valueMarks key (optionMarks statement)

instance (keys : List String) (statement : List Char) : Decidable (Compact keys statement) :=
  List.decidableBAll _ _

variable {s t : List Char} {u v : List Char}

/-! ### Statements -/

theorem Respaced.entryText? (h : Respaced s t) {keys : List String} (hc : Compact keys s)
    {key : String} (hk : key ∈ keys) (hkey : key ∈ optionKeys) :
    entryText? key (optionList s) = entryText? key (optionList t) := by
  obtain ⟨hmarks, hs, ht⟩ := h.tightens.optionMarks h.closed
  rw [← hs, ← ht]
  exact hmarks.entryText? hkey (hc key hk)

theorem Respaced.entryTruth? (h : Respaced s t) {key : String} (hkey : key ∈ optionKeys) :
    entryTruth? key (optionList s) = entryTruth? key (optionList t) := by
  obtain ⟨hmarks, hs, ht⟩ := h.tightens.optionMarks h.closed
  rw [← hs, ← ht]
  exact hmarks.entryTruth? hkey

theorem Respaced.optionMeta (h : Respaced s t) (hc : Compact fieldTextKeys s) :
    optionMeta (optionList s) = optionMeta (optionList t) := by
  have htext (key : String) (hk : key ∈ fieldTextKeys) (hkey : key ∈ optionKeys) :=
    h.entryText? hc hk hkey
  have htruth (key : String) (hkey : key ∈ optionKeys) := h.entryTruth? hkey
  simp only [Idl.optionMeta, htext "ui_label" (by decide) (by decide),
    htext "ui_pattern" (by decide) (by decide), htext "ui_widget" (by decide) (by decide),
    htruth "ui_required" (by decide), htruth "ui_list" (by decide), htruth "ui_unique" (by decide)]

theorem Respaced.optionMemberMeta (h : Respaced s t) (hc : Compact memberTextKeys s) :
    optionMemberMeta (optionList s) = optionMemberMeta (optionList t) := by
  have htext (key : String) (hk : key ∈ memberTextKeys) (hkey : key ∈ optionKeys) :=
    h.entryText? hc hk hkey
  simp only [Idl.optionMemberMeta, htext "ui_enum_label" (by decide) (by decide),
    htext "ui_enum_value" (by decide) (by decide)]

theorem Respaced.aligned (h : Respaced s t) : Aligned (mark s) (mark t) s t := by
  have haligned := Aligned.of_tightens h.tightens
  rwa [mark_map_fst, mark_map_fst] at haligned

/-- Statements that agree up to runs of blanks declare the same field. -/
theorem Statement.Respaced.fieldDecl {s t : Statement} (h : s.Respaced t)
    (hc : (fieldHeader? s.text).isSome → Compact fieldTextKeys s.text) :
    FieldDecl.ofStatement? s = FieldDecl.ofStatement? t := by
  obtain ⟨a, b, rfl, rfl, hab⟩ := h
  have hheader : fieldHeader? a = fieldHeader? b := hab.aligned.fieldHeader?
  simp only [Statement.plain] at hc ⊢
  rw [FieldDecl.ofStatement?, FieldDecl.ofStatement?]
  cases ha : fieldHeader? a with
  | none => simp only [ha, ← hheader]
  | some found => simp only [ha, ← hheader, hab.optionMeta (hc (by rw [ha]; rfl))]

/-- Statements that agree up to runs of blanks declare the same choice. -/
theorem Statement.Respaced.choice {s t : Statement} (h : s.Respaced t)
    (hc : (Choice.ofStatement? s).isSome → Compact memberTextKeys s.text) :
    Choice.ofStatement? s = Choice.ofStatement? t := by
  obtain ⟨a, b, rfl, rfl, hab⟩ := h
  simp only [Statement.plain] at hc ⊢
  rw [Choice.ofStatement?] at hc ⊢
  rw [Choice.ofStatement?]
  obtain ⟨ha, hb⟩ | ⟨x, y, ha, hb, hname, hrest⟩ :=
    none_or_some_of_rel hab.aligned.memberName?
  · simp only [ha, hb]
    rfl
  · obtain ⟨key, rest⟩ := x
    obtain ⟨key', rest'⟩ := y
    obtain rfl : key = key' := hname
    have hnumbering : isNumbering rest = isNumbering rest' := hrest.isNumbering
    simp only [ha, hb, bind, Option.bind_some, ← hnumbering] at hc ⊢
    split
    · next hn =>
      rw [hab.optionMemberMeta (hc (by rw [if_pos hn]; rfl))]
    · rfl

/-! ### Documents -/

/-- Every text in the option list of a declaration is compact once the text is on one line. -/
structure Steady (text : List Char) : Prop where
  fields : ∀ b ∈ blocks "message" (oneLine text), ∀ s ∈ statements b.body,
    (fieldHeader? s.text).isSome → Compact fieldTextKeys s.text
  members : ∀ b ∈ blocks "enum" (oneLine text), ∀ s ∈ statements b.body,
    (Choice.ofStatement? s).isSome → Compact memberTextKeys s.text

theorem steady_iff {text : List Char} : Steady text ↔
    (∀ b ∈ blocks "message" (oneLine text), ∀ s ∈ statements b.body,
      (fieldHeader? s.text).isSome → Compact fieldTextKeys s.text) ∧
    ∀ b ∈ blocks "enum" (oneLine text), ∀ s ∈ statements b.body,
      (Choice.ofStatement? s).isSome → Compact memberTextKeys s.text :=
  ⟨fun h => ⟨h.fields, h.members⟩, fun h => ⟨h.1, h.2⟩⟩

instance (text : List Char) : Decidable (Steady text) := decidable_of_iff _ steady_iff.symm

/-- The messages and the enumerations that a text declares. -/
def Document.types (text : List Char) :
    Except Fault (List (String × Message) × List (String × Enumeration)) :=
  (Document.read text).map fun d => (d.messages, d.enumerations)

theorem map_eq_of_respaced {β : Type} {f : Statement → β} {ss ts : List Statement}
    (h : List.Forall₂ Statement.Respaced ss ts)
    (hf : ∀ s ∈ ss, ∀ t, s.Respaced t → f s = f t) : ss.map f = ts.map f := by
  rw [← List.forall₂_eq_eq_eq, List.forall₂_map_left_iff, List.forall₂_map_right_iff]
  exact forall₂_imp_of_mem h fun s hs t _ hst => hf s hs t hst

theorem mapM_eq {m : Type → Type} [Monad m] [LawfulMonad m] {α β : Type} (f : α → m β)
    (xs : List α) : xs.mapM f = (xs.map f).mapM id := by
  rw [List.mapM_map]
  rfl

section

variable (h : Tidy .code u) (hs : Steady u)
include h

theorem Tidy.stripBlockComments_eq : stripBlockComments u = u :=
  stripBlockComments_eq_self fun x hx => by
    rcases h.clean x hx with hl | hl <;> simp [hl]

theorem Tidy.statements_oneLine {keyword : String} (hk : IsName keyword.toList) {b : Block}
    (hb : b ∈ blocks keyword u) :
    List.Forall₂ Statement.Respaced (statements b.oneLine.body) (statements b.body) :=
  (isBody_of_mem_blocksFrom hk h hb).statements_respaced

theorem Tidy.oneLine_mem_blocks {keyword : String} (hk : IsName keyword.toList) {b : Block}
    (hb : b ∈ blocks keyword u) : b.oneLine ∈ blocks keyword (oneLine u) := by
  rw [h.blocks_oneLine hk]
  exact List.mem_map_of_mem hb

include hs

theorem Tidy.messages_oneLine :
    (blocks "message" (oneLine u)).mapM Block.message = (blocks "message" u).mapM Block.message := by
  rw [mapM_eq, mapM_eq Block.message (blocks "message" u), h.blocks_oneLine isName_message,
    List.map_map]
  refine congrArg (List.mapM id) (List.map_congr_left fun b hb => ?_)
  have hfields := hs.fields _ (h.oneLine_mem_blocks isName_message hb)
  have hmap := map_eq_of_respaced (h.statements_oneLine isName_message hb) fun s hs' t hst =>
    hst.fieldDecl (hfields s hs')
  rw [Function.comp_apply, Block.message, Block.message, readBody, readBody, mapM_eq,
    mapM_eq FieldDecl.ofStatement? (statements b.body), hmap]
  rfl

theorem Tidy.enumerations_oneLine :
    (blocks "enum" (oneLine u)).map Block.enumeration =
      (blocks "enum" u).map Block.enumeration := by
  rw [h.blocks_oneLine isName_enum, List.map_map]
  refine List.map_congr_left fun b hb => ?_
  have hmembers := hs.members _ (h.oneLine_mem_blocks isName_enum hb)
  have hmap := map_eq_of_respaced (h.statements_oneLine isName_enum hb) fun s hs' t hst =>
    hst.choice (hmembers s hs')
  have hfilter (ss : List Statement) :
      ss.filterMap Choice.ofStatement? = (ss.map Choice.ofStatement?).filterMap id := by
    rw [List.filterMap_map]
    rfl
  rw [Function.comp_apply, Block.enumeration, Block.enumeration, readEnumBody, readEnumBody,
    hfilter, hfilter (statements b.body), hmap]
  rfl

theorem Tidy.types_oneLine : Document.types (oneLine u) = Document.types u := by
  have hone := (h.relaid Mode.proper_code (h.relaid_oneLine Mode.proper_code)).1
  simp only [Document.types, Document.read_eq, h.stripBlockComments_eq, hone.stripBlockComments_eq,
    h.messages_oneLine hs, h.enumerations_oneLine hs]
  cases (blocks "message" u).mapM Block.message <;> rfl

end

/-- Line feeds turned into spaces, and spaces outside literals turned into line feeds, leave the
messages and the enumerations as they are. -/
theorem Document.types_relaid (h : Tidy .code u) (hr : Relaid (mark u) v) (hs : Steady u) :
    Document.types v = Document.types u := by
  obtain ⟨hv, -, -, hone⟩ := h.relaid Mode.proper_code hr
  have hsteady : Steady v := ⟨hone ▸ hs.fields, hone ▸ hs.members⟩
  rw [← hv.types_oneLine hsteady, ← h.types_oneLine hs, hone]

/-- An enumeration and a message, their declarations broken into lines. -/
def brokenLines : String :=
  "enum E \x7b\n  A = 1\n    [(ui_enum_label) = \"a;  b\"];\n\x7d\nmessage M \x7b string\n  a = 1; \x7d"

/-- The same text with its lines broken elsewhere. -/
def otherLines : String :=
  "enum\nE \x7b   A = 1     [(ui_enum_label)\n= \"a;  b\"]; \x7d message M\n\x7b string   a\n=\n1; \x7d"

theorem types_relaid_otherLines :
    Tidy .code brokenLines.toList ∧ Relaid (mark brokenLines.toList) otherLines.toList ∧
      Steady brokenLines.toList ∧ Document.types otherLines.toList = .ok
        ([("M", { name := "M", fields := [{ name := "a", type := "string" }] })],
          [("E", { name := "E", choices := [{ label := "a;  b", value := "A" }] })]) := by
  have htidy : Tidy .code brokenLines.toList := by
    simp only [brokenLines, String.reduceToList]
    decide +kernel
  have hrelaid : Relaid (mark brokenLines.toList) otherLines.toList := by
    simp only [brokenLines, otherLines, String.reduceToList]
    decide +kernel
  have hsteady : Steady brokenLines.toList := by
    simp only [brokenLines, String.reduceToList]
    decide +kernel
  have hread : Document.types brokenLines.toList = .ok
      ([("M", { name := "M", fields := [{ name := "a", type := "string" }] })],
        [("E", { name := "E", choices := [{ label := "a;  b", value := "A" }] })]) := by
    simp only [brokenLines, String.reduceToList]
    decide +kernel
  exact ⟨htidy, hrelaid, hsteady, (Document.types_relaid htidy hrelaid hsteady).trans hread⟩

/-- A field whose label ends in another key and an equals sign, with two blanks behind the label. -/
def openLabel : String :=
  "message M \x7b\n  string a = 1 [(ui_label) = \"ui_pattern =\",  (x) = \"b\"];\n\x7d\n"

/-- The field with its line broken behind the label. -/
def openLabelBroken : String :=
  "message M \x7b\n  string a = 1 [(ui_label) = \"ui_pattern =\",\n (x) = \"b\"];\n\x7d\n"

/-- The text that the search takes for the pattern stands between two literals, where a line break
changes it. -/
theorem not_types_relaid_openLabel :
    ¬ ∀ u v : List Char, Tidy .code u → Relaid (mark u) v →
      Document.types v = Document.types u := by
  intro h
  have htidy : Tidy .code openLabel.toList := by
    simp only [openLabel, String.reduceToList]
    decide +kernel
  have hrelaid : Relaid (mark openLabel.toList) openLabelBroken.toList := by
    simp only [openLabel, openLabelBroken, String.reduceToList]
    decide +kernel
  have hold : Document.types openLabel.toList = .ok ([("M", { name := "M", fields :=
      [{ name := "a", type := "string",
         info := { label := some "ui_pattern =", pattern := some ",  (x) = " } }] })], []) := by
    simp only [openLabel, String.reduceToList]
    decide +kernel
  have hnew : Document.types openLabelBroken.toList = .ok ([("M", { name := "M", fields :=
      [{ name := "a", type := "string",
         info := { label := some "ui_pattern =", pattern := some ", (x) = " } }] })], []) := by
    simp only [openLabelBroken, String.reduceToList]
    decide +kernel
  have hsame := h openLabel.toList openLabelBroken.toList htidy hrelaid
  rw [hold, hnew] at hsame
  exact absurd hsame (by decide +kernel)

end Formwork.Idl
