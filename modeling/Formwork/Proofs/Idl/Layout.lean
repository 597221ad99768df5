import Formwork.Proofs.Idl.Declared

/-!
Lines and blocks of written text: what each adds to the outline of the text around it, what it
leaves where nested blocks are dropped, and the statements that the lines of a block make.
-/
namespace Formwork.Idl
open Formwork.Text

/-- No brace. -/
def Braceless (c : Char) : Prop := c ≠ '{' ∧ c ≠ '}'

theorem Written.braceless {u : List Char} (hu : Written Braceless u) :
    ∀ x ∈ mark u, ¬IsBrace x := by
  rintro x hx ⟨hl, hb⟩
  rcases hu.mem_mark hx with ⟨-, hp⟩ | hs
  · rcases hb with hb | hb
    · exact hp.1 hb
    · exact hp.2 hb
  · rw [hl] at hs
    cases hs

theorem mem_indent (depth : Nat) : ∀ c ∈ indent depth, c = ' ' := fun _ =>
  List.eq_of_mem_replicate

theorem written_indent (p : Char → Prop) (hp : p ' ') (depth : Nat) : Written p (indent depth) :=
  .of_plain fun c hc => by
    rw [mem_indent depth c hc]
    exact ⟨by decide, hp⟩

theorem plain_indent (depth : Nat) : ∀ c ∈ indent depth, Plain c := fun c hc => by
  rw [mem_indent depth c hc]
  decide

theorem isWord_indent (depth : Nat) : ∀ c ∈ indent depth, isWord c = false := fun c hc => by
  rw [mem_indent depth c hc]
  decide

theorem mark_indent (depth : Nat) : mark (indent depth) = (indent depth).map (·, .code) := by
  have h := mark_append_of_plain (plain_indent depth) []
  rwa [List.append_nil, show mark [] = [] from rfl, List.append_nil] at h

theorem lineFeed_not_mem_indent (depth : Nat) : '\n' ∉ indent depth := fun h =>
  absurd (mem_indent depth _ h) (by decide)

variable {k u : List Char} {depth : Nat}

/-! ### Declarations -/

theorem IsDeclaration.written_lineOf (hu : IsDeclaration u) (depth : Nat) :
    Written Braceless (lineOf depth u) := by
  have hw := hu.written.mono (q := Braceless) fun _ hp => ⟨hp.2.1, hp.2.2.1⟩
  have hend : Written Braceless [';', '\n'] := .of_plain (by simp [Plain, Braceless])
  exact (written_indent Braceless (by simp [Braceless]) depth).append (hw.append hend)

theorem IsDeclaration.outline_lineOf (hu : IsDeclaration u) (hk : IsName k) (depth : Nat)
    (m : List Marked) : outline k false (mark (lineOf depth u) ++ m) = outline k false m := by
  have hsemicolon : Written (fun _ => True) (u ++ [';']) :=
    (hu.written.mono fun _ _ => trivial).append written_semicolon
  have hline : lineOf depth u = indent depth ++ ((u ++ [';']) ++ ['\n']) := by simp [lineOf]
  rw [hline, mark_append_of_plain (plain_indent depth), hsemicolon.mark_append, List.append_assoc,
    outline_append_of_gap hk (isWord_indent depth), List.append_assoc, hu.written.outline_append hk]
  exact outline_append_of_gap hk (b := ['\n']) (by decide) m

theorem IsDeclaration.dropBlocks_lineOf (hu : IsDeclaration u) (depth : Nat) (m : List Marked) :
    dropBlocks 0 (mark (lineOf depth u) ++ m) = lineOf depth u ++ dropBlocks 0 m := by
  rw [dropBlocks_append_of_braceless (hu.written_lineOf depth).braceless, mark_map_fst]

variable {us : List (List Char)}

theorem written_lines (hus : ∀ u ∈ us, IsDeclaration u) (depth : Nat) :
    Written Braceless (us.flatMap (lineOf depth)) := by
  induction us with
  | nil => exact .nil
  | cons u us ih =>
    rw [List.flatMap_cons]
    exact ((hus u List.mem_cons_self).written_lineOf depth).append
      (ih fun v hv => hus v (List.mem_cons_of_mem _ hv))

/-- Lines of declarations add nothing to the outline. -/
theorem outline_lines (hus : ∀ u ∈ us, IsDeclaration u) (hk : IsName k) (depth : Nat)
    (m : List Marked) : outline k false (mark (us.flatMap (lineOf depth)) ++ m) =
      outline k false m := by
  induction us with
  | nil => rfl
  | cons u us ih =>
    have hu := hus u List.mem_cons_self
    rw [List.flatMap_cons, (hu.written_lineOf depth).mark_append, List.append_assoc,
      hu.outline_lineOf hk, ih fun v hv => hus v (List.mem_cons_of_mem _ hv)]

theorem pieces_lines (hus : ∀ u ∈ us, IsDeclaration u) (depth : Nat) {rest : List Char}
    (hrest : '\n' ∉ rest) :
    pieces (· == '\n') (us.flatMap (lineOf depth) ++ rest) =
      us.map (fun u => indent depth ++ (u ++ [';'])) ++ [rest] := by
  induction us with
  | nil =>
    refine pieces_eq_singleton fun c hc => ?_
    rw [beq_eq_false_iff_ne]
    exact fun e => hrest (e ▸ hc)
  | cons u us ih =>
    have hu := (hus u List.mem_cons_self).written.lineFeed_not_mem
    have hfirst : '\n' ∉ indent depth ++ (u ++ [';']) := by
      simp [lineFeed_not_mem_indent, hu]
    have he : lineOf depth u = (indent depth ++ (u ++ [';'])) ++ ['\n'] := by simp [lineOf]
    rw [List.flatMap_cons, List.append_assoc, he, List.append_assoc, List.singleton_append,
      pieces_append_lineFeed hfirst, ih fun v hv => hus v (List.mem_cons_of_mem _ hv)]
    rfl

/-- Lines of declarations make one statement each. -/
theorem Unfinished.lines_declarations (hus : ∀ u ∈ us, IsDeclaration u) (depth : Nat)
    {rest : List Char} (hrest : ∀ c ∈ rest, c = ' ') :
    ({} : Unfinished).lines (us.map (fun u => indent depth ++ (u ++ [';'])) ++ [rest]) =
      us.map fun u => ⟨u ++ [';'], [], []⟩ := by
  induction us with
  | nil => simp [Unfinished.lines, Unfinished.line_of_blank hrest]
  | cons u us ih =>
    have hu := (hus u List.mem_cons_self).line (mem_indent depth)
    rw [List.map_cons, List.cons_append, Unfinished.lines, hu,
      ih fun v hv => hus v (List.mem_cons_of_mem _ hv)]
    rfl

/-! ### Blocks -/

/-- What stands between the braces of a block. -/
def bodyOf (depth : Nat) (lines : List Char) : List Char := '\n' :: (lines ++ indent depth)

/-- The name and the body of a block, if `k` is its keyword. -/
def opened (k : List Char) (depth : Nat) (keyword name : String) (lines : List Char) :
    List (List Char × List Char) :=
  if keyword.toList = k then [(name.toList, bodyOf depth lines)] else []

variable {keyword name : String} {lines : List Char}

theorem Written.bodyOf (hw : Written (fun _ => True) lines) (depth : Nat) :
    Written (fun _ => True) (bodyOf depth lines) :=
  .code (by decide) trivial (hw.append (written_indent _ trivial depth))

theorem plain_front (hk : IsName keyword.toList) (hn : IsName name.toList) (depth : Nat) :
    ∀ c ∈ indent depth ++ front keyword.toList name.toList, Plain c ∧ Braceless c := by
  have hword (w : List Char) (hw : IsName w) : ∀ c ∈ w, Plain c ∧ Braceless c := fun c hc => by
    obtain ⟨hc, hp⟩ := plain_of_isWord (hw.isWord c hc)
    exact ⟨hc, hp.2.1, hp.2.2.1⟩
  have hspace : Plain ' ' ∧ Braceless ' ' := by simp [Plain, Braceless]
  intro c hc
  simp only [front, List.mem_append, List.mem_cons, List.not_mem_nil, or_false] at hc
  rcases hc with hc | hc | rfl | hc | rfl
  · rw [mem_indent depth c hc]
    exact hspace
  · exact hword _ hk c hc
  · exact hspace
  · exact hword _ hn c hc
  · exact hspace

/-- The classes of a written block. -/
theorem mark_blockOf (hk : IsName keyword.toList) (hn : IsName name.toList)
    (hw : Written (fun _ => True) lines) (depth : Nat) :
    mark (blockOf depth keyword name lines) =
      (indent depth).map (·, .code) ++ ((front keyword.toList name.toList).map (·, .code) ++
        ('{', .code) :: (mark (bodyOf depth lines) ++ [('}', .code), ('\n', .code)])) := by
  have hfront : ∀ c ∈ indent depth ++ front keyword.toList name.toList, Plain c :=
    fun c hc => (plain_front hk hn depth c hc).1
  have hend : mark ['}', '\n'] = [('}', .code), ('\n', .code)] := rfl
  have he : blockOf depth keyword name lines =
      (indent depth ++ front keyword.toList name.toList) ++
        '{' :: (bodyOf depth lines ++ ['}', '\n']) := by simp [blockOf, bodyOf]
  rw [he, mark_append_of_plain hfront, mark_cons_of_plain (by decide),
    (hw.bodyOf depth).mark_append, hend]
  simp

theorem Written.blockOf (hk : IsName keyword.toList) (hn : IsName name.toList)
    (hw : Written (fun _ => True) lines) (depth : Nat) :
    Written (fun _ => True) (blockOf depth keyword name lines) := by
  have hfront : Written (fun _ => True) (indent depth ++ front keyword.toList name.toList) :=
    .of_plain fun c hc => ⟨(plain_front hk hn depth c hc).1, trivial⟩
  have hend : Written (fun _ => True) ['}', '\n'] := .of_plain (by simp [Plain])
  have he : Idl.blockOf depth keyword name lines =
      (indent depth ++ front keyword.toList name.toList) ++
        '{' :: (Idl.bodyOf depth lines ++ ['}', '\n']) := by simp [Idl.blockOf, Idl.bodyOf]
  rw [he]
  exact hfront.append (.code (by decide) trivial ((hw.bodyOf depth).append hend))

theorem Balanced.bodyOf (hw : Written (fun _ => True) lines) (hb : Balanced (mark lines))
    (depth : Nat) : Balanced (mark (bodyOf depth lines)) := by
  have hindent := (written_indent Braceless (by simp [Braceless]) depth).braceless
  rw [Idl.bodyOf, mark_cons_of_plain (by decide), hw.mark_append]
  exact .cons (by simp [IsBrace]) (hb.append (.of_braceless hindent))

theorem balanced_front (hk : IsName keyword.toList) (hn : IsName name.toList) (depth : Nat) :
    ∀ x ∈ (indent depth ++ front keyword.toList name.toList).map (·, Lexeme.code), ¬IsBrace x := by
  rintro x hx ⟨-, hb⟩
  obtain ⟨c, hc, rfl⟩ := List.mem_map.1 hx
  have hbraceless := (plain_front hk hn depth c hc).2
  rcases hb with hb | hb
  · exact hbraceless.1 hb
  · exact hbraceless.2 hb

theorem Balanced.blockOf (hk : IsName keyword.toList) (hn : IsName name.toList)
    (hw : Written (fun _ => True) lines) (hb : Balanced (mark lines)) (depth : Nat) :
    Balanced (mark (blockOf depth keyword name lines)) := by
  rw [mark_blockOf hk hn hw, ← List.append_assoc, ← List.map_append]
  refine .append (.of_braceless (balanced_front hk hn depth)) ?_
  exact .nest (hb.bodyOf hw depth) (.cons (by simp [IsBrace]) .nil)

/-- A block leaves the front of it behind, as a declaration. -/
theorem dropBlocks_blockOf (hk : IsName keyword.toList) (hn : IsName name.toList)
    (hw : Written (fun _ => True) lines) (hb : Balanced (mark lines)) (depth : Nat)
    (m : List Marked) :
    dropBlocks 0 (mark (blockOf depth keyword name lines) ++ m) =
      lineOf depth (front keyword.toList name.toList) ++ dropBlocks 0 m := by
  have hfront := balanced_front hk hn depth
  have hrest : dropBlocks 0 (('\n', .code) :: m) = '\n' :: dropBlocks 0 m := by
    rw [dropBlocks_cons (by simp [IsBrace]), if_pos rfl]
  rw [mark_blockOf hk hn hw, ← List.append_assoc, ← List.map_append, List.append_assoc,
    dropBlocks_append_of_braceless hfront, List.cons_append, List.append_assoc, List.cons_append,
    List.cons_append, List.nil_append, (hb.bodyOf hw depth).dropBlocks_block, hrest]
  simp [lineOf, Function.comp_def]

/-- A block adds itself to the outline, if its keyword is asked for, and what its lines add. -/
theorem outline_blockOf (hkey : IsName k) (hk : IsName keyword.toList) (hn : IsName name.toList)
    (hw : Written (fun _ => True) lines) (hb : Balanced (mark lines))
    {added : List (List Char × List Char)}
    (hadded : ∀ m, outline k false (mark lines ++ m) = added ++ outline k false m)
    (depth : Nat) (m : List Marked) :
    outline k false (mark (blockOf depth keyword name lines) ++ m) =
      opened k depth keyword name lines ++ (added ++ outline k false m) := by
  have hinside : outline k false (mark (bodyOf depth lines) ++
      ('}', .code) :: ('\n', .code) :: m) = added ++ outline k false m := by
    have hfeed (m : List Marked) : outline k false (('\n', .code) :: m) = outline k false m :=
      outline_append_of_gap hkey (b := ['\n']) (by decide) m
    rw [bodyOf, mark_cons_of_plain (by decide), hw.mark_append, List.cons_append, hfeed,
      List.append_assoc, hadded, mark_indent, outline_append_of_gap hkey (isWord_indent depth)]
    exact congrArg _ (outline_append_of_gap hkey (b := ['}', '\n']) (by decide) m)
  rw [mark_blockOf hk hn hw, List.append_assoc, outline_append_of_gap hkey (isWord_indent depth),
    List.append_assoc, List.cons_append, List.append_assoc, List.cons_append, List.cons_append,
    List.nil_append, outline_block hkey hk hn (hb.bodyOf hw depth), hinside, mark_map_fst, opened]

/-- A body whose nested blocks leave declarations makes the statements of these. -/
theorem statements_of_lines (hus : ∀ u ∈ us, IsDeclaration u)
    (hpassed : ∀ u ∈ us, isPassedOver (u ++ [';']) = false) {body : List Char} {inner : Nat}
    (hbody : removeInnerBlocks body = bodyOf depth (us.flatMap (lineOf inner))) :
    statements body = us.map fun u => ⟨u ++ [';'], [], []⟩ := by
  have hfirst : pieces (· == '\n') (bodyOf depth (us.flatMap (lineOf inner))) =
      [] :: pieces (· == '\n') (us.flatMap (lineOf inner) ++ indent depth) := rfl
  have hblank : ({} : Unfinished).line [] = ([], {}) := Unfinished.line_of_blank (by simp)
  rw [statements, hbody, hfirst, pieces_lines hus inner (lineFeed_not_mem_indent depth),
    Unfinished.lines, hblank, Unfinished.lines_declarations hus inner (mem_indent depth),
    List.nil_append, List.filter_eq_self]
  intro s hs
  obtain ⟨u, hu, rfl⟩ := List.mem_map.1 hs
  simp [hpassed u hu]

/-- A declaration that begins with another word is not passed over. -/
theorem isPassedOver_of_ne {w : List Char} (hw : IsName w) (hr : w ≠ "reserved".toList)
    (ho : w ≠ "oneof".toList) (r : List Char) : isPassedOver (w ++ ' ' :: r) = false := by
  have hnone (v : List Char) (hv : IsName v) (hne : w ≠ v) :
      (v ++ [' ']).isPrefixOf (w ++ ' ' :: r) = false := by
    rw [Bool.eq_false_iff, Ne, List.isPrefixOf_iff_prefix]
    rintro ⟨t, ht⟩
    have hwords := congrArg (List.takeWhile isWord) ht
    rw [List.append_assoc, List.singleton_append, takeWhile_isWord_append hv.isWord (by decide),
      takeWhile_isWord_append hw.isWord (by decide)] at hwords
    exact hne hwords.symm
  rw [isPassedOver, Bool.or_eq_false_iff]
  exact ⟨hnone "reserved".toList (by decide) hr, hnone "oneof".toList (by decide) ho⟩

end Formwork.Idl
