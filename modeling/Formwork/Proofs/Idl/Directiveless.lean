import Formwork.Proofs.Idl.Outside
import Formwork.Idl.Declaration

/-!
Comments without directives. They say nothing about the declaration they belong to; so statements
that agree up to such comments declare the same, and a comment of this kind may be put at the end of
any line of a block.
-/
namespace Formwork.Idl
open Formwork.Text Formwork.Pattern

/-- The comments that may hold a directive. -/
def telling (comments : List (List Char)) : List (List Char) := comments.filter ('@' ∈ ·)

/-- The statement without the comments that hold no directive. -/
def Statement.essence (s : Statement) : Statement :=
  { s with leading := telling s.leading, trailing := telling s.trailing }

/-- What is known between two lines, without the comments that hold no directive. -/
def Unfinished.essence (u : Unfinished) : Unfinished :=
  { u with leading := telling u.leading, trailing := telling u.trailing }

/-- The code of a line, and its comment if that may hold a directive. -/
def lineSense (raw : List Char) : List Char × List (List Char) :=
  ((splitLineComment raw).1, telling (commentList (splitLineComment raw).2))

variable {comment text : List Char} {comments : List (List Char)}

theorem telling_append (cs ds : List (List Char)) : telling (cs ++ ds) = telling cs ++ telling ds :=
  List.filter_append ..

theorem telling_commentList (h : '@' ∉ comment) : telling (commentList comment) = [] := by
  rw [commentList]
  split
  · rfl
  · simp [telling, h]

/-! ### What comments say -/

theorem firstFrom_eq_none {α : Type} {f : List Char → Option α}
    (hf : ∀ cs, '@' ∉ cs → f cs = none) (h : '@' ∉ comment) : firstFrom f comment = none := by
  induction comment with
  | nil => exact hf [] h
  | cons c cs ih =>
    rw [firstFrom, hf _ h, ih fun hmem => h (List.mem_cons_of_mem _ hmem)]
    rfl

theorem directive?_eq_none (names : List String) (cs : List Char) (h : '@' ∉ cs) :
    directive? names cs = none := by
  cases cs with
  | nil => rfl
  | cons c cs =>
    rw [directive?.eq_def]
    split
    · next he => exact (h (he ▸ List.mem_cons_self)).elim
    · rfl

theorem textDirective?_eq_none (names : List String) (h : '@' ∉ comment) :
    textDirective? names comment = none := by
  rw [textDirective?, firstFrom_eq_none (fun cs hcs => ?_) h]
  · rfl
  · rw [directive?_eq_none names cs hcs]
    rfl

theorem switchDirective?_eq_none (names : List String) (h : '@' ∉ comment) :
    switchDirective? names comment = none := by
  rw [switchDirective?, firstFrom_eq_none (directive?_eq_none names) h]
  rfl

/-- A comment without a directive says nothing about a field. -/
theorem commentMeta_eq (h : '@' ∉ comment) : commentMeta comment = .ok {} := by
  simp only [commentMeta, textDirective?_eq_none _ h, switchDirective?_eq_none _ h]
  rfl

/-- A comment without a directive says nothing about a member of an enumeration. -/
theorem commentMemberMeta_eq (h : '@' ∉ comment) : commentMemberMeta comment = {} := by
  simp only [commentMemberMeta, textDirective?_eq_none _ h]
  rfl

theorem foldlM_telling {m : Type → Type} [Monad m] [LawfulMonad m] {α : Type}
    {f : α → List Char → m α} (hf : ∀ a c, '@' ∉ c → f a c = pure a) (a : α)
    (comments : List (List Char)) : (telling comments).foldlM f a = comments.foldlM f a := by
  induction comments generalizing a with
  | nil => rfl
  | cons c comments ih =>
    rw [telling, List.filter_cons]
    split
    · rw [List.foldlM_cons, List.foldlM_cons]
      exact congrArg _ (funext fun a => ih a)
    · next hc =>
      rw [List.foldlM_cons, hf a c (by simpa using hc), pure_bind]
      exact ih a

theorem commentsMeta_telling (comments : List (List Char)) :
    commentsMeta (telling comments) = commentsMeta comments := by
  refine foldlM_telling (fun info c hc => ?_) ({} : FieldMeta) comments
  rw [commentMeta_eq hc]
  rfl

theorem foldl_telling (info : MemberMeta) (comments : List (List Char)) :
    (telling comments).foldl (fun info c => info.merge (commentMemberMeta c)) info =
      comments.foldl (fun info c => info.merge (commentMemberMeta c)) info := by
  rw [List.foldl_eq_foldlM, List.foldl_eq_foldlM, foldlM_telling fun info c hc => ?_]
  rw [commentMemberMeta_eq hc]
  rfl

theorem FieldDecl.ofStatement?_essence (s : Statement) :
    FieldDecl.ofStatement? s.essence = FieldDecl.ofStatement? s := by
  rw [FieldDecl.ofStatement?, FieldDecl.ofStatement?]
  simp only [Statement.essence, commentsMeta_telling]

theorem Choice.ofStatement?_essence (s : Statement) :
    Choice.ofStatement? s.essence = Choice.ofStatement? s := by
  rw [Choice.ofStatement?, Choice.ofStatement?]
  simp only [Statement.essence, ← telling_append, foldl_telling]

/-! ### Lines -/

theorem attach_essence {leading leading' trailing trailing' own own' : List (List Char)}
    (hl : telling leading = telling leading') (ht : telling trailing = telling trailing')
    (ho : telling own = telling own') (texts : List (List Char)) :
    (attach leading trailing own texts).map Statement.essence =
      (attach leading' trailing' own' texts).map Statement.essence := by
  induction texts generalizing leading leading' trailing trailing' with
  | nil => rfl
  | cons text texts ih =>
    cases texts with
    | nil => simp only [attach, List.map_cons, List.map_nil, Statement.essence, telling_append, *]
    | cons next texts =>
      have hcons (l t o : List (List Char)) : attach l t o (text :: next :: texts) =
          ⟨text, l, t⟩ :: attach [] [] o (next :: texts) := rfl
      rw [hcons, hcons, List.map_cons, List.map_cons, ih rfl rfl]
      simp only [Statement.essence, hl, ht]

/-- Lines that agree up to comments without directives complete such statements. -/
theorem Unfinished.line_essence {u u' : Unfinished} {raw raw' : List Char}
    (hu : u.essence = u'.essence) (hraw : lineSense raw = lineSense raw') :
    (u.line raw).1.map Statement.essence = (u'.line raw').1.map Statement.essence ∧
      (u.line raw).2.essence = (u'.line raw').2.essence := by
  obtain ⟨code, leading, trailing⟩ := u
  obtain ⟨code', leading', trailing'⟩ := u'
  simp only [essence, Unfinished.mk.injEq] at hu
  obtain ⟨rfl, hl, ht⟩ := hu
  simp only [lineSense, Prod.mk.injEq] at hraw
  obtain ⟨hcode, hcomment⟩ := hraw
  simp only [Unfinished.line, hcode]
  split
  · split <;> simp [essence, telling_append, *]
  · generalize splitStatements _ = found
    obtain ⟨complete, rest⟩ := found
    have hown (p : Prop) [Decidable p] :
        telling (if p then commentList (splitLineComment raw).2 else []) =
          telling (if p then commentList (splitLineComment raw').2 else []) := by
      split <;> simp [hcomment]
    have hwaiting (p : Prop) [Decidable p] :
        telling (if p then [] else commentList (splitLineComment raw).2) =
          telling (if p then [] else commentList (splitLineComment raw').2) := by
      split <;> simp [hcomment]
    cases complete with
    | nil => exact ⟨rfl, by simp only [essence, telling_append, ht, hl, hwaiting]⟩
    | cons text texts =>
      exact ⟨attach_essence hl ht (hown _) _, by simp only [essence, hwaiting]⟩

theorem Unfinished.lines_essence {u u' : Unfinished} {ls ls' : List (List Char)}
    (hu : u.essence = u'.essence) (hls : ls.map lineSense = ls'.map lineSense) :
    (u.lines ls).map Statement.essence = (u'.lines ls').map Statement.essence := by
  induction ls generalizing u u' ls' with
  | nil =>
    rw [List.map_nil, eq_comm, List.map_eq_nil_iff] at hls
    rw [hls]
    rfl
  | cons l ls ih =>
    cases ls' with
    | nil => cases hls
    | cons l' ls' =>
      obtain ⟨hl, hls⟩ := List.cons.inj hls
      obtain ⟨hdone, hrest⟩ := Unfinished.line_essence hu hl
      rw [Unfinished.lines, Unfinished.lines, List.map_append, List.map_append, hdone,
        ih hrest hls]

/-- The statements of two texts declare the same when the lines outside blocks agree up to comments
without directives. -/
theorem statements_essence {body body' : List Char}
    (h : (pieces (· == '\n') (removeInnerBlocks body)).map lineSense =
      (pieces (· == '\n') (removeInnerBlocks body')).map lineSense) :
    (statements body).map Statement.essence = (statements body').map Statement.essence := by
  have hkeep : ∀ ss : List Statement,
      (ss.filter (!isPassedOver ·.text)).map Statement.essence =
        (ss.map Statement.essence).filter (!isPassedOver ·.text) := by
    intro ss
    rw [List.filter_map]
    rfl
  rw [statements, statements, hkeep, hkeep, Unfinished.lines_essence rfl h]

/-- A comment without a directive may be put at the end of a line of a body whose blocks are not
closed before it. -/
theorem statements_remark {u v s : List Char} (hu : modeAfter .code u = .code)
    (hclean : ∀ x ∈ mark u, x.2 ≠ .blockComment) (hopen : matchingBraceFrom 1 (mark u) = none)
    (hv : AtLineEnd v) (hs : '\n' ∉ s) (hat : '@' ∉ s) :
    (statements (u ++ (remark s ++ v))).map Statement.essence =
      (statements (u ++ v)).map Statement.essence := by
  apply statements_essence
  refine map_lines_remark lineSense hu hs hv fun hdepth l hl => ?_
  -- The line is one of the text outside blocks, which is scanned like the text it comes from.
  obtain ⟨hmode, hmarks⟩ := scan_dropBlocks hdepth hopen hclean
  have hcode : modeAfter .code l = .code := (modeAfter_last_line hmarks hl).trans (hmode.trans hu)
  have hat' : '@' ∉ strip (' ' :: s) := fun h => by
    simpa [hat] using mem_of_mem_strip h
  rw [lineSense, lineSense, splitLineComment_append_remark hl.1 hcode hs,
    splitLineComment_of_code hl.1 hcode, telling_commentList hat']
  rfl

end Formwork.Idl
