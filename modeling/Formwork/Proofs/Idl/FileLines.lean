import Formwork.Proofs.Idl.Nested
import Formwork.Proofs.Idl.OptionLines

/-!
The lines that file options are read from. What stands outside comments and blocks is read line by
line; white space in front of a line has no effect, and a line feed between two tokens begins a line
with the second of them. A line is an option only if it begins with the keyword.
-/
namespace Formwork.Idl
open Formwork.Text

variable {m : List Marked} {b n t u v w y : List Char} {c : Char}

/-! ### Outside blocks -/

/-- A text without its block comments and its blocks. -/
def outside (text : List Char) : List Char := removeInnerBlocks (stripBlockComments text)

/-- Marked text with its block comments stripped. -/
def uncommented (m : List Marked) : List Marked := (m.filter isKept).map unblocked

theorem outside_eq (text : List Char) : outside text = dropBlocks 0 (uncommented (mark text)) := by
  rw [outside, removeInnerBlocks, mark_stripBlockComments, uncommented]

theorem uncommented_append (m n : List Marked) :
    uncommented (m ++ n) = uncommented m ++ uncommented n := by
  rw [uncommented, List.filter_append, List.map_append]
  rfl

theorem uncommented_code (c : Char) (m : List Marked) :
    uncommented ((c, .code) :: m) = (c, .code) :: uncommented m := rfl

theorem Balanced.uncommented (hm : Balanced m) : Balanced (uncommented m) := by
  induction hm with
  | nil => exact .nil
  | @cons x m hx _ ih =>
    by_cases hk : isKept x = true
    · have hx' : ¬IsBrace (unblocked x) := by
        rintro ⟨hl, hc⟩
        by_cases hb : x.2 = .blockComment
        · -- Of a block comment only line feeds are kept.
          have hn : x.1 = '\n' := by simpa [isKept, hb] using hk
          rw [unblocked, hn] at hc
          exact absurd hc (by decide)
        · rw [unblocked, if_neg hb] at hl hc
          exact hx ⟨hl, hc⟩
      rw [Idl.uncommented, List.filter_cons_of_pos hk, List.map_cons]
      exact .cons hx' ih
    · rw [Idl.uncommented, List.filter_cons_of_neg hk]
      exact ih
  | nest _ _ ihm ihn =>
    rw [uncommented_code, uncommented_append, uncommented_code]
    exact .nest ihm ihn

/-- A text that is scanned for itself, whatever follows, and whose braces come in pairs. -/
structure Separate (u : List Char) : Prop where
  mark_append : ∀ v, mark (u ++ v) = mark u ++ mark v
  balanced : Balanced (mark u)

theorem Written.separate (hu : Written Braceless u) : Separate u where
  mark_append := hu.mark_append
  balanced := .of_braceless hu.braceless

theorem Separate.block (hu : Written Braceless u) (hw : IsNested w) :
    Separate (u ++ '\x7b' :: (w ++ ['\x7d'])) where
  mark_append v := by
    have hassoc :
        (u ++ '\x7b' :: (w ++ ['\x7d'])) ++ v = u ++ '\x7b' :: (w ++ '\x7d' :: v) := by simp
    rw [hassoc, hu.mark_append, hu.mark_append, hw.mark_block, hw.mark_block]
    simp [mark, markFrom]
  balanced := by
    rw [hu.mark_append, hw.mark_block]
    exact (Balanced.of_braceless hu.braceless).append (.nest hw.balanced .nil)

/-- What stands outside is found part by part. -/
theorem Separate.outside_append (hu : Separate u) (v : List Char) :
    outside (u ++ v) = outside u ++ outside v := by
  have hopen : openAfter 0 (uncommented (mark u)) = 0 := by
    have h := hu.balanced.uncommented.openAfter_append 0 []
    rwa [List.append_nil] at h
  rw [outside_eq, outside_eq, outside_eq, hu.mark_append, uncommented_append, dropBlocks_append,
    hopen]

theorem Written.outside_eq_self (hu : Written Braceless u) : outside u = u := by
  have hdrop := dropBlocks_append_of_braceless hu.braceless []
  rw [List.append_nil, mark_map_fst] at hdrop
  rw [outside, hu.stripBlockComments_eq, removeInnerBlocks, hdrop]
  exact List.append_nil u

/-- A block leaves a semicolon behind. -/
theorem outside_block (hu : Written Braceless u) (hw : IsNested w) :
    outside (u ++ '\x7b' :: (w ++ ['\x7d'])) = u ++ [';'] := by
  have hcode : uncommented (mark u) = mark u := by
    have hclean := mark_stripBlockComments u
    rw [hu.stripBlockComments_eq] at hclean
    exact hclean.symm
  rw [outside_eq, hu.mark_append, uncommented_append, hcode, hw.mark_block, uncommented_code,
    uncommented_append, uncommented_code, dropBlocks_append_of_braceless hu.braceless, mark_map_fst,
    hw.balanced.uncommented.dropBlocks_block]
  rfl

/-! ### Lines -/

/-- The text up to its first line feed. -/
def firstLine (t : List Char) : List Char := t.takeWhile (· != '\n')

/-- The option that a line declares. -/
def lineOption? (l : List Char) : Option (String × String) := fileOption? (stripLeft l)

/-- The options of all lines. -/
def lineOptions (t : List Char) : List (String × String) :=
  (pieces (· == '\n') t).filterMap lineOption?

/-- The options of the lines below the first. -/
def optionsBelow (t : List Char) : List (String × String) :=
  (pieces (· == '\n') t).tail.filterMap lineOption?

theorem firstLine_cons (hc : c ≠ '\n') (t : List Char) : firstLine (c :: t) = c :: firstLine t :=
  List.takeWhile_cons_of_pos (by simpa using hc)

theorem firstLine_append (hu : '\n' ∉ u) (t : List Char) : firstLine (u ++ t) = u ++ firstLine t :=
  List.takeWhile_append_of_pos fun _ hc => bne_iff_ne.2 fun h => hu (h ▸ hc)

theorem pieces_eq (t : List Char) :
    pieces (· == '\n') t = firstLine t :: (pieces (· == '\n') t).tail := by
  induction t with
  | nil => rfl
  | cons c t ih =>
    by_cases hc : c = '\n'
    · subst hc
      rfl
    · rw [pieces, if_neg (by simpa using hc), ih, firstLine_cons hc]
      rfl

theorem lineOptions_eq (t : List Char) :
    lineOptions t = (lineOption? (firstLine t)).toList ++ optionsBelow t := by
  rw [lineOptions, pieces_eq, List.filterMap_cons, optionsBelow]
  cases lineOption? (firstLine t) <;> rfl

theorem optionsBelow_lineFeed (t : List Char) : optionsBelow ('\n' :: t) = lineOptions t := rfl

theorem tail_pieces_cons (hc : c ≠ '\n') (t : List Char) :
    (pieces (· == '\n') (c :: t)).tail = (pieces (· == '\n') t).tail := by
  rw [pieces, if_neg (by simpa using hc), pieces_eq t]
  rfl

theorem tail_pieces_append (hu : '\n' ∉ u) (t : List Char) :
    (pieces (· == '\n') (u ++ t)).tail = (pieces (· == '\n') t).tail := by
  induction u with
  | nil => rfl
  | cons c u ih =>
    rw [List.mem_cons, not_or] at hu
    rw [List.cons_append, tail_pieces_cons (Ne.symm hu.1), ih hu.2]

theorem optionsBelow_append (hu : '\n' ∉ u) (t : List Char) :
    optionsBelow (u ++ t) = optionsBelow t := by
  rw [optionsBelow, tail_pieces_append hu, optionsBelow]

theorem Written.of_mem_pieces {p : Char → Prop} {l : List Char} (ht : Written p t)
    (hl : l ∈ pieces (· == '\n') t) : Written p l := by
  induction ht generalizing l with
  | nil =>
    rw [List.mem_singleton.1 hl]
    exact .nil
  | @code c t hc hp _ ih =>
    by_cases hn : c = '\n'
    · subst hn
      rcases List.mem_cons.1 hl with rfl | hl
      · exact .nil
      · exact ih hl
    · rw [pieces_eq, firstLine_cons hn, tail_pieces_cons hn] at hl
      rw [pieces_eq] at ih
      rcases List.mem_cons.1 hl with rfl | hl
      · exact .code hc hp (ih List.mem_cons_self)
      · exact ih (List.mem_cons_of_mem _ hl)
  | @literal s t hs _ ih =>
    have hn := lineFeed_not_mem_literal hs
    rw [pieces_eq, firstLine_append hn, tail_pieces_append hn] at hl
    rw [pieces_eq] at ih
    rcases List.mem_cons.1 hl with rfl | hl
    · exact .literal hs (ih List.mem_cons_self)
    · exact ih (List.mem_cons_of_mem _ hl)

/-- In code without comments a line is judged as it stands. -/
theorem lineOptions_of_written {p : Char → Prop} (ht : Written p t) :
    (pieces (· == '\n') t).filterMap (fun l => fileOption? (splitLineComment l).1) =
      lineOptions t := by
  refine List.filterMap_congr fun l hl => ?_
  rw [(ht.of_mem_pieces hl).splitLineComment, strip, fileOption?_stripRight, lineOption?]

/-! ### White space between tokens -/

theorem stripLeft_firstLine_append (hb : ∀ c ∈ b, isBlank c = true) (t : List Char) :
    stripLeft (firstLine (b ++ t)) = if '\n' ∈ b then [] else stripLeft (firstLine t) := by
  split
  · next h =>
    obtain ⟨b₁, b₂, rfl, h₁⟩ := List.eq_append_cons_of_mem h
    have hb₁ : ∀ c ∈ b₁, isBlank c = true := fun c hc => hb c (List.mem_append_left _ hc)
    rw [List.append_assoc, firstLine_append h₁, stripLeft_append hb₁]
    rfl
  · next h => rw [firstLine_append h, stripLeft_append hb]

theorem lineOptions_append (hb : ∀ c ∈ b, isBlank c = true) (t : List Char) :
    lineOptions (b ++ t) = lineOptions t := by
  induction b with
  | nil => rfl
  | cons c b ih =>
    obtain ⟨hc, hb⟩ := List.forall_mem_cons.1 hb
    rw [← ih hb, List.cons_append, lineOptions_eq, lineOptions_eq (b ++ t)]
    by_cases hn : c = '\n'
    · subst hn
      rw [optionsBelow_lineFeed, lineOptions_eq (b ++ t)]
      rfl
    · rw [firstLine_cons hn, optionsBelow, tail_pieces_cons hn, optionsBelow]
      simp [lineOption?, stripLeft, hc]

/-- White space with a line feed puts what follows at the front of a line. -/
theorem optionsBelow_gap (hb : ∀ c ∈ b, isBlank c = true) (t : List Char) :
    optionsBelow (b ++ t) = if '\n' ∈ b then lineOptions t else optionsBelow t := by
  split
  · next h =>
    obtain ⟨b₁, b₂, rfl, h₁⟩ := List.eq_append_cons_of_mem h
    have hb₂ : ∀ c ∈ b₂, isBlank c = true := fun c hc =>
      hb c (List.mem_append_right _ (List.mem_cons_of_mem _ hc))
    rw [List.append_assoc, optionsBelow_append h₁, List.cons_append, optionsBelow_lineFeed,
      lineOptions_append hb₂]
  · next h => exact optionsBelow_append h t

/-! ### Tokens that begin no option -/

/-- No option stands at the front of the text. -/
def Idle (t : List Char) : Prop := lineOption? (firstLine t) = none

/-- Before a text that begins no option, white space has no effect. -/
theorem Idle.optionsBelow_append (ht : Idle t) (hb : ∀ c ∈ b, isBlank c = true) :
    optionsBelow (b ++ t) = optionsBelow t := by
  rw [optionsBelow_gap hb, lineOptions_eq, ht]
  exact ite_self _

theorem ne_lineFeed_of_not_blank (hc : isBlank c = false) : c ≠ '\n' := by
  rintro rfl
  exact absurd hc (by decide)

theorem idle_of_head (hc : isBlank c = false) (ho : c ≠ 'o') (t : List Char) : Idle (c :: t) := by
  have hword : "option".toList = 'o' :: "ption".toList := by decide
  rw [Idle, firstLine_cons (ne_lineFeed_of_not_blank hc), lineOption?, stripLeft_cons hc,
    fileOption?_eq_bind, optionKey?, hword, dropWord?, if_neg (Ne.symm ho)]
  rfl

/-- A mark, or another character that begins no option, behind white space. -/
theorem optionsBelow_mark (hb : ∀ c ∈ b, isBlank c = true) (hc : isBlank c = false) (ho : c ≠ 'o')
    (t : List Char) : optionsBelow (b ++ c :: t) = optionsBelow t := by
  rw [(idle_of_head hc ho t).optionsBelow_append hb, optionsBelow, optionsBelow,
    tail_pieces_cons (ne_lineFeed_of_not_blank hc)]

theorem optionsBelow_literal (hb : ∀ c ∈ b, isBlank c = true) (hv : '\n' ∉ v) (t : List Char) :
    optionsBelow (b ++ (literal v ++ t)) = optionsBelow t := by
  have hidle : Idle (literal v ++ t) := idle_of_head (c := '"') (by decide) (by decide) _
  rw [hidle.optionsBelow_append hb, optionsBelow_append (lineFeed_not_mem_literal hv)]

/-- No word or key goes on. -/
def EndsKey (y : List Char) : Prop := ∀ c ∈ y.head?, isWord c = false ∧ c ≠ '.'

theorem isBlank_of_inKey (hc : isWord c = true ∨ c = '.') : isBlank c = false := by
  rcases hc with hc | rfl
  · exact isBlank_of_isWord hc
  · decide

/-- A keyword is read where it is the whole key. -/
theorem dropWord?_bind_dropBlanks?_append {k : List Char} (hk : ∀ c ∈ k, isWord c = true)
    (hn : ∀ c ∈ n, isWord c = true ∨ c = '.') (hy : EndsKey y) :
    (dropWord? k (n ++ y)).bind dropBlanks? = if n = k then dropBlanks? y else none := by
  induction k generalizing n with
  | nil =>
    cases n with
    | nil => rfl
    | cons c n =>
      have hc := isBlank_of_inKey (hn c List.mem_cons_self)
      simp [dropWord?, dropBlanks?, hc]
  | cons d k ih =>
    obtain ⟨hd, hk⟩ := List.forall_mem_cons.1 hk
    cases n with
    | nil =>
      rw [if_neg (List.cons_ne_nil d k).symm, List.nil_append]
      cases y with
      | nil => rfl
      | cons c y =>
        have hne : d ≠ c := by
          rintro rfl
          exact absurd hd (by simp [(hy d rfl).1])
        rw [dropWord?, if_neg hne]
        rfl
    | cons c n =>
      have htail := (List.forall_mem_cons.1 hn).2
      rw [List.cons_append, dropWord?]
      by_cases hc : d = c
      · subst hc
        rw [if_pos rfl, ih hk htail]
        simp
      · rw [if_neg hc, if_neg fun h => hc (List.cons.inj h).1.symm]
        rfl

theorem IsKey.exists_cons {k : List Char} (hk : IsKey k) :
    ∃ c cs, k = c :: cs ∧ isNameStart c = true := by
  have hname {n : List Char} (hn : IsName n) : ∃ c cs, n = c :: cs ∧ isNameStart c = true := by
    cases n with
    | nil => exact hn.elim
    | cons c cs => exact ⟨c, cs, rfl, hn.1⟩
  cases hk with
  | name hn => exact hname hn
  | qualified hn _ =>
    obtain ⟨c, cs, rfl, hc⟩ := hname hn
    exact ⟨c, _, rfl, hc⟩

theorem IsKey.lineFeed_not_mem {k : List Char} (hk : IsKey k) : '\n' ∉ k := fun h =>
  absurd (isBlank_of_inKey (hk.isWord _ h)) (by decide)

theorem stripLeft_key {k : List Char} (hk : IsKey k) (t : List Char) :
    stripLeft (k ++ t) = k ++ t := by
  obtain ⟨c, cs, rfl, hc⟩ := hk.exists_cons
  exact stripLeft_cons (isBlank_of_isWord (isWord_of_isNameStart hc)) _

theorem endsKey_firstLine (hy : EndsKey y) : EndsKey (firstLine y) := by
  cases y with
  | nil => exact nofun
  | cons c y =>
    by_cases hn : c = '\n'
    · subst hn
      exact nofun
    · rw [firstLine_cons hn]
      exact fun d hd => hy d hd

/-- White space, and a mark behind it. -/
theorem endsKey_gap (hb : ∀ c ∈ b, isBlank c = true) (hc : isWord c = false ∧ c ≠ '.')
    (t : List Char) : EndsKey (b ++ c :: t) := by
  intro d hd
  cases b with
  | nil =>
    obtain rfl := Option.some.inj hd
    exact hc
  | cons e b =>
    have he := hb e List.mem_cons_self
    rw [← Option.some.inj hd]
    refine ⟨isWord_of_isBlank he, ?_⟩
    rintro rfl
    exact absurd he (by decide)

theorem eq_stripLeft_of_dropBlanks? {cs r : List Char} (h : dropBlanks? cs = some r) :
    r = stripLeft cs := by
  cases cs with
  | nil => cases h
  | cons c cs =>
    rw [dropBlanks?] at h
    split at h
    · next hc =>
      rw [← Option.some.inj h, stripLeft, stripLeft, List.dropWhile_cons_of_pos hc]
    · cases h

theorem typeName?_eq_none (hc : isWord c = false) (t : List Char) : typeName? (c :: t) = none := by
  have hstart : ¬isNameStart c = true := fun h => by simp [isWord_of_isNameStart h] at hc
  rw [typeName?]
  exact if_neg hstart

/-- A key with a mark behind it begins no option, though the key may be the keyword. -/
theorem idle_key {k : List Char} (hk : IsKey k) (hb : ∀ c ∈ b, isBlank c = true)
    (hc : isWord c = false ∧ c ≠ '.') (hblank : isBlank c = false) (hopen : c ≠ '(')
    (t : List Char) : Idle (k ++ (b ++ c :: t)) := by
  have hends := endsKey_firstLine (endsKey_gap hb hc t)
  have hword : ∀ d ∈ "option".toList, isWord d = true := by decide
  rw [Idle, lineOption?, firstLine_append hk.lineFeed_not_mem, stripLeft_key hk,
    fileOption?_eq_bind, optionKey?, dropWord?_bind_dropBlanks?_append hword hk.isWord hends]
  split
  · cases hrest : dropBlanks? (firstLine (b ++ c :: t)) with
    | none => rfl
    | some rest =>
      have hnone : typeName? (dropOptional '(' rest) = none := by
        rw [eq_stripLeft_of_dropBlanks? hrest, stripLeft_firstLine_append hb]
        split
        · rfl
        · rw [firstLine_cons (ne_lineFeed_of_not_blank hblank), stripLeft_cons hblank, dropOptional,
            if_neg hopen, typeName?_eq_none hc.1]
      rw [Option.bind_some, hnone]
      rfl
  · rfl

/-- A key behind white space, with a mark behind it. -/
theorem optionsBelow_key {b' k : List Char} (hb : ∀ c ∈ b, isBlank c = true) (hk : IsKey k)
    (hb' : ∀ c ∈ b', isBlank c = true) (hc : isWord c = false ∧ c ≠ '.')
    (hblank : isBlank c = false) (hopen : c ≠ '(') (t : List Char) :
    optionsBelow (b ++ (k ++ (b' ++ c :: t))) = optionsBelow (b' ++ c :: t) := by
  rw [(idle_key hk hb' hc hblank hopen t).optionsBelow_append hb,
    optionsBelow_append hk.lineFeed_not_mem]

end Formwork.Idl
