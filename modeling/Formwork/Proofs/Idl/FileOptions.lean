import Formwork.Proofs.Idl.FileLines

/-!
Where file options are found. At the top of a file options stand among other declarations, and
white space may stand between any two tokens. An option is found exactly if it begins a line and is
written on that line, with white space behind its keyword and none inside its parentheses.
-/
namespace Formwork.Idl
open Formwork.Text

/-! ### Declarations at the top of a file -/

/-- An option as it is written: its key and value, and the white space between its tokens. -/
structure OptionSource where
  key : List Char
  value : List Char
  afterKeyword : List Char
  afterOpen : List Char
  beforeClose : List Char
  afterClose : List Char
  beforeValue : List Char
  afterValue : List Char
  deriving DecidableEq

namespace OptionSource

variable (o : OptionSource)

/-- The white space between the tokens. -/
def gaps : List (List Char) :=
  [o.afterKeyword, o.afterOpen, o.beforeClose, o.afterClose, o.beforeValue, o.afterValue]

/-- The text behind the keyword. -/
def writeRest : List Char :=
  o.afterKeyword ++ '(' :: (o.afterOpen ++ (o.key ++ (o.beforeClose ++ ')' ::
    (o.afterClose ++ '=' :: (o.beforeValue ++ (literal o.value ++ (o.afterValue ++ [';'])))))))

def write : List Char := "option".toList ++ o.writeRest

/-- What the option declares; a key loses its qualifiers. -/
def entry : String × String := (String.ofList (localName o.key), String.ofList o.value)

theorem forall_gaps {p : List Char → Prop} : (∀ g ∈ o.gaps, p g) ↔
    p o.afterKeyword ∧ p o.afterOpen ∧ p o.beforeClose ∧ p o.afterClose ∧ p o.beforeValue ∧
      p o.afterValue := by
  simp [gaps]

structure Valid : Prop where
  key : IsKey o.key
  value : '\n' ∉ o.value
  blank : ∀ g ∈ o.gaps, ∀ c ∈ g, isBlank c = true

/-- The option is written on one line, with white space behind the keyword and none inside the
parentheses. -/
structure Straight : Prop where
  apart : o.afterKeyword ≠ []
  opened : o.afterOpen = []
  closed : o.beforeClose = []
  oneLine : ∀ g ∈ o.gaps, '\n' ∉ g

instance : Decidable o.Straight :=
  decidable_of_iff (o.afterKeyword ≠ [] ∧ o.afterOpen = [] ∧ o.beforeClose = [] ∧
    ∀ g ∈ o.gaps, '\n' ∉ g)
    ⟨fun h => ⟨h.1, h.2.1, h.2.2.1, h.2.2.2⟩, fun h => ⟨h.apart, h.opened, h.closed, h.oneLine⟩⟩

theorem straight_iff : o.Straight ↔
    ((o.afterKeyword ≠ [] ∧ '\n' ∉ o.afterKeyword) ∧ o.afterOpen = [] ∧ o.beforeClose = [] ∧
      '\n' ∉ o.afterClose) ∧ ¬('\n' ∈ o.beforeValue ∨ '\n' ∈ o.afterValue) := by
  constructor
  · rintro ⟨hapart, hopened, hclosed, hline⟩
    obtain ⟨h₁, -, -, h₄, h₅, h₆⟩ := o.forall_gaps.1 hline
    exact ⟨⟨⟨hapart, h₁⟩, hopened, hclosed, h₄⟩, not_or.2 ⟨h₅, h₆⟩⟩
  · rintro ⟨⟨⟨hapart, h₁⟩, hopened, hclosed, h₄⟩, hvalue⟩
    obtain ⟨h₅, h₆⟩ := not_or.1 hvalue
    refine ⟨hapart, hopened, hclosed, o.forall_gaps.2 ⟨h₁, ?_, ?_, h₄, h₅, h₆⟩⟩
    · rw [hopened]
      exact List.not_mem_nil
    · rw [hclosed]
      exact List.not_mem_nil

end OptionSource

/-- A declaration at the top of a file, with the white space between its tokens. -/
inductive TopDecl
  | option (o : OptionSource)
  /-- The version of the language. -/
  | dialect (value afterKeyword beforeValue afterValue : List Char)
  | package (key afterKeyword afterKey : List Char)
  | message (name body afterKeyword afterName : List Char)

namespace TopDecl

/-- The front of a declaration that a keyword and a name begin. -/
def headed (keyword : String) (gap name gap' : List Char) : List Char :=
  keyword.toList ++ (gap ++ (name ++ gap'))

def write : TopDecl → List Char
  | option o => o.write
  | dialect value a b c => "syntax".toList ++ (a ++ '=' :: (b ++ (literal value ++ (c ++ [';']))))
  | package key a b => headed "package" a key b ++ [';']
  | message name body a b => headed "message" a name b ++ '\x7b' :: (body ++ ['\x7d'])

/-- The declaration with a semicolon in the place of its block. -/
def bare : TopDecl → List Char
  | message name _ a b => headed "message" a name b ++ [';']
  | d => d.write

/-- What an option declares. -/
def declared? : TopDecl → Option (String × String)
  | option o => some o.entry
  | _ => none

def Valid : TopDecl → Prop
  | option o => o.Valid
  | dialect value a b c => '\n' ∉ value ∧ ∀ g ∈ [a, b, c], ∀ c ∈ g, isBlank c = true
  | package key a b => IsKey key ∧ a ≠ [] ∧ ∀ g ∈ [a, b], ∀ c ∈ g, isBlank c = true
  | message name body a b =>
    IsName name ∧ IsNested body ∧ a ≠ [] ∧ ∀ g ∈ [a, b], ∀ c ∈ g, isBlank c = true

/-- The option that a declaration sets where it begins a line. -/
def foundOnLine? : TopDecl → Option (String × String)
  | option o => if o.Straight then some o.entry else none
  | _ => none

end TopDecl

/-- Declarations, each with the white space before it. -/
abbrev FileSource := List (List Char × TopDecl)

/-- The text of a file; white space stands at its end. -/
def fileText : FileSource → List Char → List Char
  | [], last => last
  | (gap, d) :: ds, last => gap ++ (d.write ++ fileText ds last)

/-- The text with a semicolon in the place of each block. -/
def bareText : FileSource → List Char → List Char
  | [], last => last
  | (gap, d) :: ds, last => gap ++ (d.bare ++ bareText ds last)

/-- The declarations as they stand behind a line feed. -/
def behindLineFeed : FileSource → FileSource
  | [] => []
  | (gap, d) :: ds => ('\n' :: gap, d) :: ds

/-- The options that the declarations make. -/
def declaredOptions (ds : FileSource) : List (String × String) :=
  ds.filterMap fun p => p.2.declared?

/-- The option that is found in a declaration. -/
def foundOption? (p : List Char × TopDecl) : Option (String × String) :=
  if '\n' ∈ p.1 then p.2.foundOnLine? else none

/-- The options that begin a line and are written on it. -/
def foundOptions (ds : FileSource) : List (String × String) :=
  (behindLineFeed ds).filterMap foundOption?

variable {o : OptionSource} {d : TopDecl} {ds : FileSource} {last r t : List Char}

/-! ### What stands outside the blocks -/

instance (c : Char) : Decidable (Braceless c) :=
  inferInstanceAs (Decidable (c ≠ '\x7b' ∧ c ≠ '\x7d'))

theorem written_blank {b : List Char} (hb : ∀ c ∈ b, isBlank c = true) : Written Braceless b :=
  .of_plain fun c hc => by
    refine ⟨plain_of_isStop (isStop_of_isBlank (hb c hc)), ?_, ?_⟩ <;>
    · rintro rfl
      exact absurd (hb _ hc) (by decide)

theorem written_key {k : List Char} (hk : IsKey k) : Written Braceless k :=
  .of_plain fun c hc => by
    rcases hk.isWord c hc with hc | rfl
    · refine ⟨plain_of_isStop (isStop_of_isWord hc), ?_, ?_⟩ <;>
      · rintro rfl
        exact absurd hc (by decide)
    · decide

theorem written_literal {v : List Char} (hv : '\n' ∉ v) : Written Braceless (literal v) := by
  have h := Written.literal hv (.nil (p := Braceless))
  rwa [List.append_nil] at h

theorem Written.mark {c : Char} (hc : Plain c ∧ Braceless c) (ht : Written Braceless t) :
    Written Braceless (c :: t) := .code hc.1 hc.2 ht

theorem OptionSource.Valid.written (h : o.Valid) : Written Braceless o.write := by
  obtain ⟨h₁, h₂, h₃, h₄, h₅, h₆⟩ := o.forall_gaps.1 fun g hg => written_blank (h.blank g hg)
  have hword : Written Braceless "option".toList := .of_plain (by decide)
  have hend : Written Braceless [';'] := .mark (by decide) .nil
  have hvalue := h₅.append ((written_literal h.value).append (h₆.append hend))
  have hclose := h₃.append (.mark (c := ')') (by decide)
    (h₄.append (.mark (c := '=') (by decide) hvalue)))
  exact hword.append (h₁.append (.mark (c := '(') (by decide)
    (h₂.append ((written_key h.key).append hclose))))

theorem written_headed {keyword : String} {a n b : List Char}
    (hk : Written Braceless keyword.toList) (hn : IsKey n)
    (hb : ∀ g ∈ [a, b], ∀ c ∈ g, isBlank c = true) :
    Written Braceless (TopDecl.headed keyword a n b) :=
  hk.append ((written_blank (hb a (by simp))).append
    ((written_key hn).append (written_blank (hb b (by simp)))))

/-- Outside comments and blocks a declaration is what it is with a semicolon for its block. -/
theorem TopDecl.Valid.outside_append (h : d.Valid) (t : List Char) :
    Written Braceless d.bare ∧ outside (d.write ++ t) = d.bare ++ outside t := by
  have hend : Written Braceless [';'] := .mark (by decide) .nil
  have hplain {u : List Char} (hu : Written Braceless u) :
      Written Braceless u ∧ outside (u ++ t) = u ++ outside t :=
    ⟨hu, by rw [hu.separate.outside_append, hu.outside_eq_self]⟩
  cases d with
  | option o => exact hplain (OptionSource.Valid.written h)
  | dialect value a b c =>
    obtain ⟨hvalue, hblank⟩ := h
    have hword : Written Braceless "syntax".toList := .of_plain (by decide)
    exact hplain (hword.append ((written_blank (hblank a (by simp))).append (.mark (by decide)
      ((written_blank (hblank b (by simp))).append ((written_literal hvalue).append
        ((written_blank (hblank c (by simp))).append hend))))))
  | package key a b =>
    obtain ⟨hkey, -, hblank⟩ := h
    exact hplain ((written_headed (.of_plain (by decide)) hkey hblank).append hend)
  | message name body a b =>
    obtain ⟨hname, hbody, -, hblank⟩ := h
    have hfront : Written Braceless (headed "message" a name b) :=
      written_headed (.of_plain (by decide)) (.name hname) hblank
    have hblock := congrArg (· ++ outside t) (outside_block hfront hbody)
    exact ⟨hfront.append hend, ((Separate.block hfront hbody).outside_append t).trans hblock⟩

/-- The white space in front of the declarations and at the end of the file, and the
declarations themselves, are well formed. -/
def FileSource.Valid (ds : FileSource) : Prop :=
  ∀ p ∈ ds, (∀ c ∈ p.1, isBlank c = true) ∧ p.2.Valid

theorem FileSource.Valid.outside_fileText (h : FileSource.Valid ds)
    (hlast : ∀ c ∈ last, isBlank c = true) :
    Written Braceless (bareText ds last) ∧ outside (fileText ds last) = bareText ds last := by
  induction ds with
  | nil => exact ⟨written_blank hlast, (written_blank hlast).outside_eq_self⟩
  | cons p ds ih =>
    obtain ⟨gap, d⟩ := p
    obtain ⟨⟨hgap, hd⟩, hds⟩ := List.forall_mem_cons.1 h
    obtain ⟨hw, he⟩ := ih hds
    have hgap := written_blank hgap
    obtain ⟨hbare, hout⟩ := TopDecl.Valid.outside_append hd (fileText ds last)
    have hsplit := hgap.separate.outside_append (d.write ++ fileText ds last)
    rw [hgap.outside_eq_self, hout, he] at hsplit
    exact ⟨hgap.append (hbare.append hw), hsplit⟩

/-! ### An option that begins a line -/

theorem stripLeft_gap {b : List Char} {c : Char} (hb : ∀ c ∈ b, isBlank c = true)
    (hc : isBlank c = false) (t : List Char) :
    stripLeft (firstLine (b ++ c :: t)) = if '\n' ∈ b then [] else c :: firstLine t := by
  rw [stripLeft_firstLine_append hb, firstLine_cons (ne_lineFeed_of_not_blank hc),
    stripLeft_cons hc]

theorem optionValue?_firstLine {b b' v : List Char} (hb : ∀ c ∈ b, isBlank c = true)
    (hv : '\n' ∉ v) (hb' : ∀ c ∈ b', isBlank c = true) (t : List Char) :
    optionValue? (firstLine (b ++ (literal v ++ (b' ++ ';' :: t)))) =
      if '\n' ∈ b ∨ '\n' ∈ b' then none else some v := by
  have hquote : stripLeft (firstLine (b ++ (literal v ++ (b' ++ ';' :: t)))) =
      if '\n' ∈ b then [] else literal v ++ firstLine (b' ++ ';' :: t) := by
    rw [stripLeft_firstLine_append hb, firstLine_append (lineFeed_not_mem_literal hv)]
    rfl
  rw [optionValue?, hquote]
  by_cases h : '\n' ∈ b
  · rw [if_pos h, if_pos (.inl h)]
    rfl
  · rw [if_neg h, quotedText?_literal_append, Option.bind_some, stripLeft_gap hb' (by decide)]
    by_cases h' : '\n' ∈ b'
    · rw [if_pos h', if_pos (.inr h')]
      rfl
    · rw [if_neg h', if_neg (by simp [h, h']), dropWord?_singleton]
      rfl

/-- Behind white space no key is read. -/
theorem typeName?_of_blank {b : List Char} (hb : ∀ c ∈ b, isBlank c = true) (hne : b ≠ [])
    (t : List Char) : typeName? (firstLine (b ++ t)) = none := by
  obtain ⟨c, b, rfl⟩ := List.exists_cons_of_ne_nil hne
  by_cases hc : c = '\n'
  · subst hc
    rfl
  · rw [List.cons_append, firstLine_cons hc,
      typeName?_eq_none (isWord_of_isBlank (hb c List.mem_cons_self))]

theorem typeName?_key {k y : List Char} (hk : IsKey k) (hy : EndsKey y) :
    typeName? (k ++ y) = some (k, y) := by
  obtain ⟨c, cs, rfl, hc⟩ := hk.exists_cons
  have hin : ∀ d ∈ cs, (isWord d || d == '.') = true := fun d hd => by
    simpa using hk.isWord d (List.mem_cons_of_mem c hd)
  have hend : y.takeWhile (fun d => isWord d || d == '.') = [] ∧
      y.dropWhile (fun d => isWord d || d == '.') = y := by
    cases y with
    | nil => exact ⟨rfl, rfl⟩
    | cons d y =>
      have hd : (isWord d || d == '.') = false := by simpa using hy d rfl
      exact ⟨List.takeWhile_cons_of_neg (by simp [hd]), List.dropWhile_cons_of_neg (by simp [hd])⟩
  rw [List.cons_append, typeName?]
  simp only [hc, if_true, List.takeWhile_append_of_pos hin, List.dropWhile_append_of_pos hin, hend,
    List.append_nil]

/-- White space before the closing parenthesis keeps the equals sign from being found. -/
theorem dropEquals_firstLine {b b' : List Char} (hb : ∀ c ∈ b, isBlank c = true)
    (hb' : ∀ c ∈ b', isBlank c = true) (t : List Char) :
    dropWord? ['='] (stripLeft (dropOptional ')' (firstLine (b ++ ')' :: (b' ++ '=' :: t))))) =
      if b = [] ∧ '\n' ∉ b' then some (firstLine t) else none := by
  cases b with
  | nil =>
    rw [List.nil_append, firstLine_cons (by decide), dropOptional, if_pos rfl,
      stripLeft_gap hb' (by decide)]
    by_cases h : '\n' ∈ b'
    · simp [h, dropWord?]
    · simp [h, dropWord?_singleton]
  | cons d b =>
    have hd : d ≠ ')' := by
      rintro rfl
      exact absurd (hb ')' List.mem_cons_self) (by decide)
    have hkept : dropOptional ')' (firstLine ((d :: b) ++ ')' :: (b' ++ '=' :: t))) =
        firstLine ((d :: b) ++ ')' :: (b' ++ '=' :: t)) := by
      by_cases hn : d = '\n'
      · subst hn
        rfl
      · rw [List.cons_append, firstLine_cons hn, dropOptional, if_neg hd]
    have hno : ¬(d :: b = [] ∧ '\n' ∉ b') := fun h => List.cons_ne_nil d b h.1
    rw [hkept, stripLeft_gap hb (by decide), if_neg hno]
    split <;> rfl

theorem OptionSource.write_append (o : OptionSource) (t : List Char) :
    o.write ++ t = "option".toList ++ (o.afterKeyword ++ '(' :: (o.afterOpen ++ (o.key ++
      (o.beforeClose ++ ')' :: (o.afterClose ++ '=' :: (o.beforeValue ++ (literal o.value ++
        (o.afterValue ++ ';' :: t)))))))) := by
  have hrest : o.writeRest ++ t = o.afterKeyword ++ '(' :: (o.afterOpen ++ (o.key ++
      (o.beforeClose ++ ')' :: (o.afterClose ++ '=' :: (o.beforeValue ++ (literal o.value ++
        (o.afterValue ++ ';' :: t))))))) := by
    simp only [writeRest, List.append_assoc, List.cons_append, List.nil_append]
  rw [← hrest]
  exact List.append_assoc ..

theorem dropBlanks?_firstLine {a : List Char} {c : Char} (ha : ∀ c ∈ a, isBlank c = true)
    (hne : a ≠ []) (hn : '\n' ∉ a) (hc : isBlank c = false) (t : List Char) :
    dropBlanks? (firstLine (a ++ c :: t)) = some (c :: firstLine t) := by
  obtain ⟨d, a, rfl⟩ := List.exists_cons_of_ne_nil hne
  obtain ⟨hd, ha⟩ := List.forall_mem_cons.1 ha
  rw [firstLine_append hn, List.cons_append, dropBlanks?, if_pos hd, stripLeft_append ha,
    firstLine_cons (ne_lineFeed_of_not_blank hc), stripLeft_cons hc]

/-- The key is read on the line of the keyword, with white space behind the keyword and none inside
the parentheses. -/
theorem optionKey?_firstLine {a b k b' a' : List Char} (ha : ∀ c ∈ a, isBlank c = true)
    (hb : ∀ c ∈ b, isBlank c = true) (hk : IsKey k) (hb' : ∀ c ∈ b', isBlank c = true)
    (ha' : ∀ c ∈ a', isBlank c = true) (t : List Char) :
    optionKey? (firstLine ("option".toList ++
        (a ++ '(' :: (b ++ (k ++ (b' ++ ')' :: (a' ++ '=' :: t))))))) =
      if (a ≠ [] ∧ '\n' ∉ a) ∧ b = [] ∧ b' = [] ∧ '\n' ∉ a' then some (k, firstLine t)
      else none := by
  rw [firstLine_append (by decide), optionKey?, dropWord?_append, Option.bind_some]
  by_cases hfront : a ≠ [] ∧ '\n' ∉ a
  · rw [dropBlanks?_firstLine ha hfront.1 hfront.2 (by decide), Option.bind_some, dropOptional,
      if_pos rfl]
    by_cases hopen : b = []
    · have hends : EndsKey (firstLine (b' ++ ')' :: (a' ++ '=' :: t))) :=
        endsKey_firstLine (endsKey_gap hb' (by decide) _)
      rw [hopen, List.nil_append, firstLine_append hk.lineFeed_not_mem, typeName?_key hk hends,
        Option.bind_some, dropEquals_firstLine hb' ha']
      by_cases hclose : b' = [] ∧ '\n' ∉ a'
      · rw [if_pos hclose, if_pos ⟨hfront, rfl, hclose⟩]
        rfl
      · rw [if_neg hclose, if_neg fun h => hclose h.2.2]
        rfl
    · rw [typeName?_of_blank hb hopen, if_neg fun h => hopen h.2.1]
      rfl
  · rw [if_neg fun h => hfront h.1]
    by_cases hne : a = []
    · rw [hne]
      rfl
    · -- The line ends behind the keyword.
      have hn : '\n' ∈ a := by simpa [hne] using hfront
      cases hrest : dropBlanks? (firstLine
          (a ++ '(' :: (b ++ (k ++ (b' ++ ')' :: (a' ++ '=' :: t)))))) with
      | none => rfl
      | some rest =>
        rw [eq_stripLeft_of_dropBlanks? hrest, stripLeft_firstLine_append ha, if_pos hn]
        rfl

/-- An option that begins a line is found if it is written straight on. -/
theorem lineOption?_write (h : o.Valid) (t : List Char) :
    lineOption? (firstLine (o.write ++ t)) = if o.Straight then some o.entry else none := by
  obtain ⟨h₁, h₂, h₃, h₄, h₅, h₆⟩ := o.forall_gaps.1 h.blank
  have hword (t : List Char) : stripLeft (firstLine ("option".toList ++ t)) =
      firstLine ("option".toList ++ t) := by
    rw [firstLine_append (by decide)]
    exact stripLeft_name (by decide : IsName "option".toList) _
  rw [o.write_append, lineOption?, hword, fileOption?_eq_bind,
    optionKey?_firstLine h₁ h₂ h.key h₃ h₄]
  by_cases hkey : (o.afterKeyword ≠ [] ∧ '\n' ∉ o.afterKeyword) ∧ o.afterOpen = [] ∧
      o.beforeClose = [] ∧ '\n' ∉ o.afterClose
  · rw [if_pos hkey, Option.bind_some, optionValue?_firstLine h₅ h.value h₆]
    by_cases hvalue : '\n' ∈ o.beforeValue ∨ '\n' ∈ o.afterValue
    · rw [if_pos hvalue, if_neg fun hs => (o.straight_iff.1 hs).2 hvalue]
      rfl
    · rw [if_neg hvalue, if_pos (o.straight_iff.2 ⟨hkey, hvalue⟩)]
      rfl
  · rw [if_neg hkey, if_neg fun hs => hkey (o.straight_iff.1 hs).1]
    rfl

/-! ### Declarations line by line -/

theorem OptionSource.Valid.optionsBelow_write (h : o.Valid) (t : List Char) :
    optionsBelow (o.write ++ t) = optionsBelow t := by
  obtain ⟨h₁, h₂, h₃, h₄, h₅, h₆⟩ := o.forall_gaps.1 h.blank
  rw [o.write_append, optionsBelow_append (by decide), optionsBelow_mark h₁ (by decide) (by decide),
    optionsBelow_key h₂ h.key h₃ (by decide) (by decide) (by decide),
    optionsBelow_mark h₃ (by decide) (by decide), optionsBelow_mark h₄ (by decide) (by decide),
    optionsBelow_literal h₅ h.value, optionsBelow_mark h₆ (by decide) (by decide)]

theorem idle_word {w : List Char} (hw : IsName w) (ho : w.head? ≠ some 'o') (t : List Char) :
    Idle (w ++ t) := by
  cases w with
  | nil => exact hw.elim
  | cons c w =>
    exact idle_of_head (isBlank_of_isWord (hw.isWord c List.mem_cons_self))
      (fun h => ho (h ▸ rfl)) _

theorem IsName.lineFeed_not_mem {w : List Char} (hw : IsName w) : '\n' ∉ w :=
  (IsKey.name hw).lineFeed_not_mem

theorem TopDecl.lineOptions_headed {keyword : String} {a n b : List Char}
    (hw : IsName keyword.toList) (ho : keyword.toList.head? ≠ some 'o') (hn : IsKey n)
    (hb : ∀ g ∈ [a, b], ∀ c ∈ g, isBlank c = true) (t : List Char) :
    Idle (headed keyword a n b ++ [';'] ++ t) ∧
      optionsBelow (headed keyword a n b ++ [';'] ++ t) = optionsBelow t := by
  obtain ⟨ha, hb, -⟩ : (∀ c ∈ a, isBlank c = true) ∧ (∀ c ∈ b, isBlank c = true) ∧ True := by
    simpa using hb
  have he :
      headed keyword a n b ++ [';'] ++ t = keyword.toList ++ (a ++ (n ++ (b ++ ';' :: t))) := by
    simp only [headed, List.append_assoc, List.cons_append, List.nil_append]
  rw [he]
  refine ⟨idle_word hw ho _, ?_⟩
  rw [optionsBelow_append hw.lineFeed_not_mem,
    optionsBelow_key ha hn hb (by decide) (by decide) (by decide),
    optionsBelow_mark hb (by decide) (by decide)]

/-- Where a declaration begins a line it sets its option, and no other line of it sets any. -/
theorem TopDecl.Valid.lineOptions_append (h : d.Valid) (t : List Char) :
    lineOption? (firstLine (d.bare ++ t)) = d.foundOnLine? ∧
      optionsBelow (d.bare ++ t) = optionsBelow t := by
  cases d with
  | option o => exact ⟨lineOption?_write h t, OptionSource.Valid.optionsBelow_write h t⟩
  | dialect value a b c =>
    obtain ⟨hvalue, hblank⟩ := h
    obtain ⟨ha, hb, hc⟩ : (∀ d ∈ a, isBlank d = true) ∧ (∀ d ∈ b, isBlank d = true) ∧
        ∀ d ∈ c, isBlank d = true := by simpa using hblank
    have hw : IsName "syntax".toList := by decide
    have he : (dialect value a b c).bare ++ t =
        "syntax".toList ++ (a ++ '=' :: (b ++ (literal value ++ (c ++ ';' :: t)))) := by
      have hrest : (a ++ '=' :: (b ++ (literal value ++ (c ++ [';'])))) ++ t =
          a ++ '=' :: (b ++ (literal value ++ (c ++ ';' :: t))) := by simp
      rw [← hrest]
      exact List.append_assoc ..
    rw [he]
    refine ⟨idle_word hw (by decide) _, ?_⟩
    rw [optionsBelow_append hw.lineFeed_not_mem, optionsBelow_mark ha (by decide) (by decide),
      optionsBelow_literal hb hvalue, optionsBelow_mark hc (by decide) (by decide)]
  | package key a b =>
    obtain ⟨hkey, -, hblank⟩ := h
    exact lineOptions_headed (by decide) (by decide) hkey hblank t
  | message name body a b =>
    obtain ⟨hname, -, -, hblank⟩ := h
    exact lineOptions_headed (by decide) (by decide) (.name hname) hblank t

/-- The lines below the first hold the options that stand behind a line feed. -/
theorem FileSource.Valid.optionsBelow_bareText (h : FileSource.Valid ds)
    (hlast : ∀ c ∈ last, isBlank c = true) :
    optionsBelow (bareText ds last) = ds.filterMap foundOption? := by
  induction ds with
  | nil =>
    have hgap := optionsBelow_gap hlast []
    rw [List.append_nil] at hgap
    exact hgap.trans (ite_self _)
  | cons p ds ih =>
    obtain ⟨gap, d⟩ := p
    obtain ⟨⟨hgap, hd⟩, hds⟩ := List.forall_mem_cons.1 h
    obtain ⟨hline, hbelow⟩ := TopDecl.Valid.lineOptions_append hd (bareText ds last)
    rw [bareText, optionsBelow_gap hgap, lineOptions_eq, hline, hbelow, ih hds, List.filterMap_cons,
      foundOption?]
    by_cases hn : '\n' ∈ gap
    · rw [if_pos hn, if_pos hn]
      cases d.foundOnLine? <;> rfl
    · rw [if_neg hn, if_neg hn]

/-- The beginning of the file begins a line as well. -/
theorem FileSource.Valid.lineOptions_bareText (h : FileSource.Valid ds)
    (hlast : ∀ c ∈ last, isBlank c = true) : lineOptions (bareText ds last) = foundOptions ds := by
  have hvalid : FileSource.Valid (behindLineFeed ds) := by
    cases ds with
    | nil => exact h
    | cons p ds =>
      obtain ⟨⟨hgap, hd⟩, hds⟩ := List.forall_mem_cons.1 h
      exact List.forall_mem_cons.2 ⟨⟨List.forall_mem_cons.2 ⟨by decide, hgap⟩, hd⟩, hds⟩
  have hbelow := hvalid.optionsBelow_bareText hlast
  cases ds with
  | nil =>
    have hgap := lineOptions_append hlast []
    rw [List.append_nil] at hgap
    exact hgap
  | cons p ds => exact hbelow

/-- The file options are those of the declarations that begin a line and are written straight on. -/
theorem FileSource.Valid.fileOptions_fileText (h : FileSource.Valid ds)
    (hlast : ∀ c ∈ last, isBlank c = true) :
    fileOptions (fileText ds last) = Keyed.table (foundOptions ds) := by
  obtain ⟨hwritten, hout⟩ := h.outside_fileText hlast
  have hlines := lineOptions_of_written hwritten
  rw [h.lineOptions_bareText hlast, ← hout] at hlines
  exact congrArg Keyed.table hlines

/-! ### Options that are found -/

/-- The option of a declaration, if it has one, begins a line and is written straight on. -/
def Stands (p : List Char × TopDecl) : Prop :=
  match p.2 with
  | .option o => '\n' ∈ p.1 ∧ o.Straight
  | _ => True

theorem foundOption?_eq_iff (p : List Char × TopDecl) :
    foundOption? p = p.2.declared? ↔ Stands p := by
  obtain ⟨gap, d⟩ := p
  cases d with
  | option o =>
    by_cases hn : '\n' ∈ gap <;> by_cases hs : o.Straight <;>
      simp [foundOption?, TopDecl.foundOnLine?, TopDecl.declared?, Stands, hn, hs]
  | dialect | package | message =>
    simp [foundOption?, TopDecl.foundOnLine?, TopDecl.declared?, Stands]

theorem foundOption?_eq_none_or (p : List Char × TopDecl) :
    foundOption? p = none ∨ foundOption? p = p.2.declared? := by
  obtain ⟨gap, d⟩ := p
  cases d with
  | option o =>
    by_cases hn : '\n' ∈ gap <;> by_cases hs : o.Straight <;>
      simp [foundOption?, TopDecl.foundOnLine?, TopDecl.declared?, hn, hs]
  | dialect | package | message => simp [foundOption?, TopDecl.foundOnLine?]

section

variable {α β : Type} {f g : α → Option β} {xs : List α}

theorem filterMap_sublist_filterMap (h : ∀ x, f x = none ∨ f x = g x) :
    (xs.filterMap f).Sublist (xs.filterMap g) := by
  induction xs with
  | nil => exact .slnil
  | cons x xs ih =>
    rw [List.filterMap_cons, List.filterMap_cons]
    rcases h x with hx | hx
    · rw [hx]
      cases g x with
      | none => exact ih
      | some y => exact ih.cons y
    · rw [hx]
      cases g x with
      | none => exact ih
      | some y => exact ih.cons_cons y

/-- A selection that keeps less agrees with another only where it keeps the same. -/
theorem filterMap_eq_filterMap_iff (h : ∀ x, f x = none ∨ f x = g x) :
    xs.filterMap f = xs.filterMap g ↔ ∀ x ∈ xs, f x = g x := by
  refine ⟨fun heq => ?_, List.filterMap_congr⟩
  induction xs with
  | nil => exact List.forall_mem_nil _
  | cons x xs ih =>
    rw [List.filterMap_cons, List.filterMap_cons] at heq
    have hx : f x = g x := by
      rcases h x with hnone | hx
      · cases hg : g x with
        | none => exact hnone
        | some y =>
          -- The one selection would be longer than the other.
          have hlonger : xs.filterMap f = y :: xs.filterMap g := by simpa only [hnone, hg] using heq
          have hsub : (xs.filterMap f).Sublist (xs.filterMap g) := filterMap_sublist_filterMap h
          have hlength := hsub.length_le
          rw [hlonger, List.length_cons] at hlength
          exact absurd hlength (Nat.not_succ_le_self _)
      · exact hx
    rw [hx] at heq
    refine List.forall_mem_cons.2 ⟨hx, ih ?_⟩
    cases hg : g x with
    | none => rwa [hg] at heq
    | some y =>
      rw [hg] at heq
      exact (List.cons.inj heq).2

end

theorem filterMap_behindLineFeed (ds : FileSource) :
    (behindLineFeed ds).filterMap (fun p => p.2.declared?) = declaredOptions ds := by
  cases ds <;> rfl

/-- Options with distinct keys are all found exactly if each begins a line and is written straight
on; otherwise those that do are found. -/
theorem fileOptions_eq_declared_iff (h : FileSource.Valid ds) (hlast : ∀ c ∈ last, isBlank c = true)
    (hkeys : ((declaredOptions ds).map (·.1)).Nodup) :
    fileOptions (fileText ds last) = foundOptions ds ∧
      (fileOptions (fileText ds last) = declaredOptions ds ↔
        ∀ p ∈ behindLineFeed ds, Stands p) := by
  have hsub : (foundOptions ds).Sublist (declaredOptions ds) := by
    rw [← filterMap_behindLineFeed, foundOptions]
    exact filterMap_sublist_filterMap foundOption?_eq_none_or
  have hfound : fileOptions (fileText ds last) = foundOptions ds := by
    rw [h.fileOptions_fileText hlast]
    exact Keyed.table_of_nodup (hkeys.sublist (hsub.map (·.1)))
  refine ⟨hfound, ?_⟩
  rw [hfound, ← filterMap_behindLineFeed, foundOptions,
    filterMap_eq_filterMap_iff foundOption?_eq_none_or]
  exact forall₂_congr fun p _ => foundOption?_eq_iff p

/-- A key with a value, written with single spaces. -/
def OptionSource.spaced (key value : String) : OptionSource :=
  ⟨key.toList, value.toList, [' '], [], [], [' '], [' '], []⟩

theorem OptionSource.Valid.spaced {key value : String} (hk : IsKey key.toList)
    (hv : '\n' ∉ value.toList) : (OptionSource.spaced key value).Valid where
  key := hk
  value := hv
  blank := by
    have hspace : ∀ c ∈ [' '], isBlank c = true := by decide
    have hnil := List.forall_mem_nil fun c => isBlank c = true
    exact (OptionSource.spaced key value).forall_gaps.2 ⟨hspace, hnil, hnil, hspace, hspace, hnil⟩

/-- A file with options around a block, the last of them over two lines. -/
def shopFile : FileSource :=
  [([], .dialect "proto3".toList [' '] [' '] []),
    (['\n', '\n'], .package "shop".toList [' '] []),
    (['\n'], .option (.spaced "common.app_name" "a \"b\";")),
    ([' '], .message "M".toList " option (x) = \"y\"; // \x7d\n".toList [' '] ['\n']),
    (['\n', ' '], .option (.spaced "d" "")),
    (['\n'], .option { OptionSource.spaced "e" "f" with beforeValue := ['\n', ' '] })]

theorem isKey_app_name : IsKey "common.app_name".toList :=
  .qualified (n := ['c', 'o', 'm', 'm', 'o', 'n']) (k := ['a', 'p', 'p', '_', 'n', 'a', 'm', 'e'])
    (by decide) (.name (by decide))

theorem shopFile_valid : FileSource.Valid shopFile := by
  have hname : (OptionSource.spaced "common.app_name" "a \"b\";").Valid :=
    .spaced isKey_app_name (by decide)
  have hd : (OptionSource.spaced "d" "").Valid := .spaced (.name (by decide)) (by decide)
  have he : OptionSource.Valid { OptionSource.spaced "e" "f" with beforeValue := ['\n', ' '] } :=
    { key := .name (by decide), value := by decide, blank := by decide }
  have hdialect : (TopDecl.dialect "proto3".toList [' '] [' '] []).Valid := ⟨by decide, by decide⟩
  have hpackage : (TopDecl.package "shop".toList [' '] []).Valid :=
    ⟨.name (by decide), by decide, by decide⟩
  have hmessage : (TopDecl.message "M".toList " option (x) = \"y\"; // \x7d\n".toList [' ']
      ['\n']).Valid := ⟨by decide, by decide +kernel, by decide, by decide⟩
  simp only [shopFile, FileSource.Valid, List.forall_mem_cons]
  exact ⟨⟨by decide, hdialect⟩, ⟨by decide, hpackage⟩, ⟨by decide, hname⟩, ⟨by decide, hmessage⟩,
    ⟨by decide, hd⟩, ⟨by decide, he⟩, List.forall_mem_nil _⟩

theorem fileOptions_shopFile :
    FileSource.Valid shopFile ∧ ((declaredOptions shopFile).map (·.1)).Nodup ∧
      fileText shopFile ['\n'] = ("syntax = \"proto3\";\n\npackage shop;\n" ++
        "option (common.app_name) = \"a \\\"b\\\";\"; message M\n" ++
        "\x7b option (x) = \"y\"; // \x7d\n\x7d\n" ++
        " option (d) = \"\";\noption (e) =\n \"f\";\n").toList ∧
      fileOptions (fileText shopFile ['\n']) = [("app_name", "a \"b\";"), ("d", "")] := by
  have hkeys : ((declaredOptions shopFile).map (·.1)).Nodup := by decide
  have hfound : foundOptions shopFile = [("app_name", "a \"b\";"), ("d", "")] := by decide
  refine ⟨shopFile_valid, hkeys, by decide +kernel, ?_⟩
  rw [(fileOptions_eq_declared_iff shopFile_valid (by decide) hkeys).1, hfound]

/-- Two options on one line. -/
def oneLineFile : FileSource :=
  [([], .option (.spaced "a" "b")), ([' '], .option (.spaced "c" "d"))]

/-- The second is not found. -/
theorem not_fileOptions_oneLineFile :
    ¬∀ (ds : FileSource) (last : List Char), FileSource.Valid ds → (∀ c ∈ last, isBlank c = true) →
      ((declaredOptions ds).map (·.1)).Nodup →
        fileOptions (fileText ds last) = declaredOptions ds := by
  intro h
  have ha : (OptionSource.spaced "a" "b").Valid := .spaced (.name (by decide)) (by decide)
  have hc : (OptionSource.spaced "c" "d").Valid := .spaced (.name (by decide)) (by decide)
  have hvalid : FileSource.Valid oneLineFile :=
    List.forall_mem_cons.2 ⟨⟨by decide, ha⟩, List.forall_mem_singleton.2 ⟨by decide, hc⟩⟩
  have hall := h oneLineFile [] hvalid (by decide) (by decide)
  rw [hvalid.fileOptions_fileText (by decide)] at hall
  exact absurd hall (by decide)

end Formwork.Idl
