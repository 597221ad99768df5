import Formwork.Idl.Document
import Formwork.Proofs.Fallible
import Formwork.Proofs.Idl.Header
import Formwork.Proofs.Keyed

/-!
Declared fields are sound. Whatever a document is read from, the names of its fields are
identifiers, and a pattern that an annotation sets can be read: one that cannot is dropped where it
is found, so that merging annotations never meets it.
-/
namespace Formwork.Idl
open Formwork.Text Formwork.Pattern

/-- A pattern that is not malformed. -/
def Readable (pattern : String) : Prop := ∃ node, Pattern.read pattern.toList = .ok node

def FieldMeta.Sound (info : FieldMeta) : Prop := ∀ p, info.pattern = some p → Readable p

structure FieldDecl.Sound (f : FieldDecl) : Prop where
  name : IsName f.name.toList
  info : f.info.Sound

/-! ### Annotations -/

theorem readable_of_normalize {raw text : List Char} (h : Pattern.normalize raw = .ok (some text)) :
    Readable (String.ofList text) := by
  simp only [Pattern.normalize] at h
  cases hr : Pattern.read (halveBackslashes raw) with
  | error fault => cases fault <;> simp [hr] at h
  | ok node =>
    obtain rfl : halveBackslashes raw = text := by simpa [hr] using h
    exact ⟨node, by rwa [String.toList_ofList]⟩

theorem FieldMeta.sound_of_normalize {raw : List Char} {pattern : Option (List Char)}
    {info : FieldMeta} (h : Pattern.normalize raw = .ok pattern)
    (hi : info.pattern = pattern.map String.ofList) : info.Sound := by
  intro p hp
  rw [hi] at hp
  obtain ⟨text, rfl, rfl⟩ := Option.map_eq_some_iff.1 hp
  exact readable_of_normalize h

/-- Metadata without a pattern is sound. -/
theorem FieldMeta.sound_of_none {info : FieldMeta} (h : info.pattern = none) : info.Sound := by
  intro p hp
  cases h.symm.trans hp

theorem FieldMeta.Sound.merge {earlier later : FieldMeta} (he : earlier.Sound) (hl : later.Sound) :
    (earlier.merge later).Sound := by
  intro p hp
  rcases Option.or_eq_some_iff.1 hp with hp | ⟨-, hp⟩
  · exact hl p hp
  · exact he p hp

theorem sound_of_commentMeta {comment : List Char} {info : FieldMeta}
    (h : commentMeta comment = .ok info) : info.Sound := by
  simp only [commentMeta] at h
  split at h
  · obtain ⟨pattern, hp, hi⟩ := bind_eq_ok_iff.1 h
    exact FieldMeta.sound_of_normalize hp (by rw [← Except.ok.inj hi])
  · exact FieldMeta.sound_of_none (by rw [← Except.ok.inj h]; rfl)

theorem sound_of_optionMeta {options : List Char} {info : FieldMeta}
    (h : optionMeta options = .ok info) : info.Sound := by
  simp only [optionMeta] at h
  split at h
  · obtain ⟨pattern, hp, hi⟩ := bind_eq_ok_iff.1 h
    exact FieldMeta.sound_of_normalize hp (by rw [← Except.ok.inj hi])
  · exact FieldMeta.sound_of_none (by rw [← Except.ok.inj h]; rfl)

/-- What comments say together is sound, if what was said before them is. -/
theorem FieldMeta.Sound.foldlM {comments : List (List Char)} {start info : FieldMeta}
    (hs : start.Sound)
    (h : comments.foldlM (fun info c => do pure (info.merge (← commentMeta c))) start =
      (.ok info : Except Fault FieldMeta)) : info.Sound := by
  induction comments generalizing start with
  | nil => exact Except.ok.inj h ▸ hs
  | cons c comments ih =>
    rw [List.foldlM_cons] at h
    obtain ⟨merged, hm, h⟩ := bind_eq_ok_iff.1 h
    obtain ⟨own, ho, he⟩ := bind_eq_ok_iff.1 hm
    exact ih (Except.ok.inj he ▸ hs.merge (sound_of_commentMeta ho)) h

theorem sound_of_commentsMeta {comments : List (List Char)} {info : FieldMeta}
    (h : commentsMeta comments = .ok info) : info.Sound :=
  have hstart : ({} : FieldMeta).Sound := nofun
  hstart.foldlM h

/-! ### Declarations -/

theorem isName_of_typeAndName? {cs type name : List Char}
    (h : typeAndName? cs = some (type, name)) : IsName name := by
  simp only [typeAndName?, Option.bind_eq_bind, Option.bind_eq_some_iff] at h
  obtain ⟨_, -, rest, -, ⟨n, _⟩, hn, h⟩ := h
  split at h
  · obtain ⟨-, rfl⟩ := Prod.mk.inj (Option.some.inj h)
    exact (identifier?_eq_some hn).1
  · cases h

theorem isName_of_fieldHeader? {text type name : List Char} {repeated : Bool}
    (h : fieldHeader? text = some (repeated, type, name)) : IsName name := by
  rw [fieldHeader?] at h
  cases hr : ((dropWord? "repeated".toList text).bind dropBlanks?).bind typeAndName? with
  | none =>
    rw [hr] at h
    obtain ⟨x, hx, he⟩ := Option.map_eq_some_iff.1 h
    obtain ⟨-, rfl⟩ := Prod.mk.inj he
    exact isName_of_typeAndName? hx
  | some x =>
    rw [hr] at h
    obtain ⟨-, rfl⟩ := Prod.mk.inj (Option.some.inj h)
    obtain ⟨cs, -, hx⟩ := Option.bind_eq_some_iff.1 hr
    exact isName_of_typeAndName? hx

theorem FieldDecl.sound_of_ofStatement? {s : Statement} {f : FieldDecl}
    (h : FieldDecl.ofStatement? s = .ok (some f)) : f.Sound := by
  rw [ofStatement?] at h
  split at h
  · cases h
  · next repeated type name hh =>
    obtain ⟨leading, hl, h⟩ := bind_eq_ok_iff.1 h
    obtain ⟨trailing, ht, h⟩ := bind_eq_ok_iff.1 h
    obtain ⟨options, ho, h⟩ := bind_eq_ok_iff.1 h
    obtain rfl := Option.some.inj (Except.ok.inj h)
    constructor
    · rw [String.toList_ofList]
      exact isName_of_fieldHeader? hh
    · exact ((sound_of_commentsMeta hl).merge (sound_of_commentsMeta ht)).merge
        (sound_of_optionMeta ho)

/-! ### Documents -/

/-- Every declared field of a document that is read is sound. -/
theorem Document.sound_of_read {text : List Char} {d : Document} (h : Document.read text = .ok d)
    {name : String} {m : Message} (hm : (name, m) ∈ d.messages) : ∀ f ∈ m.fields, f.Sound := by
  obtain ⟨messages, hmessages, hd⟩ := bind_eq_ok_iff.1 h
  obtain rfl := Except.ok.inj hd
  obtain ⟨found, hfound, ht⟩ := bind_eq_ok_iff.1 hmessages
  obtain rfl := Except.ok.inj ht
  obtain ⟨b, -, hb⟩ := exists_of_mem_mapM hfound (Keyed.mem_of_mem_table hm)
  obtain ⟨fields, hfields, hm⟩ := bind_eq_ok_iff.1 hb
  obtain ⟨-, rfl⟩ := Prod.mk.inj (Except.ok.inj hm)
  intro f hf
  obtain ⟨o, ho, rfl⟩ := List.mem_filterMap.1 hf
  obtain ⟨s, -, hs⟩ := exists_of_mem_mapM hfields ho
  exact FieldDecl.sound_of_ofStatement? hs

theorem isName_of_mem_blocksFrom {k : List Char} {position skip : Nat} {afterWord : Bool}
    {m : List Marked} {b : Block} (h : b ∈ blocksFrom k position afterWord skip m) :
    IsName b.name := by
  induction m generalizing position skip afterWord with
  | nil => cases h
  | cons x m ih =>
    obtain ⟨c, l⟩ := x
    cases skip with
    | succ skip => exact ih h
    | zero =>
      rw [blocksFrom] at h
      split at h
      · exact ih h
      · next name count hname =>
        rcases List.mem_append.1 h with h | h
        · rw [headerAt?] at hname
          split at hname
          · cases hname
          · obtain ⟨⟨n, body⟩, hn, he⟩ := Option.map_eq_some_iff.1 hname
            obtain ⟨rfl, -⟩ := Prod.mk.inj he
            obtain ⟨_, _, _, -, -, hn, -⟩ := header?_eq_some hn
            split at h
            · rw [List.mem_singleton.1 h]
              exact hn
            · cases h
        · exact ih h

/-- A message that is read has an identifier for its name. -/
theorem Document.isName_of_read {text : List Char} {d : Document} (h : Document.read text = .ok d)
    {name : String} {m : Message} (hm : (name, m) ∈ d.messages) : IsName m.name.toList := by
  obtain ⟨messages, hmessages, hd⟩ := bind_eq_ok_iff.1 h
  obtain rfl := Except.ok.inj hd
  obtain ⟨found, hfound, ht⟩ := bind_eq_ok_iff.1 hmessages
  obtain rfl := Except.ok.inj ht
  obtain ⟨b, hmem, hb⟩ := exists_of_mem_mapM hfound (Keyed.mem_of_mem_table hm)
  obtain ⟨fields, -, hm⟩ := bind_eq_ok_iff.1 hb
  obtain ⟨-, rfl⟩ := Prod.mk.inj (Except.ok.inj hm)
  rw [String.toList_ofList]
  exact isName_of_mem_blocksFrom hmem

end Formwork.Idl
