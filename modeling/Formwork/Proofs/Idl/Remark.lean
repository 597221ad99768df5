import Formwork.Proofs.Idl.Directiveless
import Formwork.Proofs.Idl.OptionLines
import Formwork.Proofs.Idl.RoundTrip

/-!
Line comments without directives. Such a comment may be put at the end of every line whose end
stands in code, unless the line ends within the header of a block: headers are found in the text
with its line comments, so a comment between a keyword and its brace hides the block.
-/
namespace Formwork.Idl
open Formwork.Text Formwork.Pattern

variable {k : List Char} {afterWord : Bool} {c : Char} {mode : Mode} {m : List Marked}
  {u v s cs : List Char}

/-! ### Headers -/

/-- What stands before the brace of a header holds no stop. -/
theorem exists_of_header? (hk : IsName k) {n body : List Char} (h : header? k cs = some (n, body)) :
    ∃ w r, cs = w ++ '{' :: r ∧ body = '{' :: r ∧ w ≠ [] ∧ (∀ c ∈ w, isStop c = false) ∧
      ∀ r', header? k (w ++ '{' :: r') = some (n, '{' :: r') := by
  obtain ⟨b₁, b₂, r, hne, hb₁, hn, hb₂, rfl, rfl⟩ := header?_eq_some h
  refine ⟨k ++ (b₁ ++ (n ++ b₂)), r, by simp, rfl, by simp [hne], fun c hc => ?_, fun r' => ?_⟩
  · simp only [List.mem_append] at hc
    rcases hc with hc | hc | hc | hc
    · exact isStop_of_isWord (hk.isWord c hc)
    · exact isStop_of_isBlank (hb₁ c hc)
    · exact isStop_of_isWord (hn.isWord c hc)
    · exact isStop_of_isBlank (hb₂ c hc)
  · simpa using header?_of_pieces (k := k) hne hb₁ hn hb₂ r'

/-- Whether a header begins is settled at the first brace. -/
theorem header?_append_eq_none (hk : IsName k) (h : header? k cs = none) (hb : '{' ∈ cs)
    (r : List Char) : header? k (cs ++ r) = none := by
  cases hr : header? k (cs ++ r) with
  | none => rfl
  | some found =>
    obtain ⟨w, t, he, -, -, hstop, hread⟩ := exists_of_header? hk hr
    have hw : '{' ∉ w := fun hmem => absurd (hstop _ hmem) (by decide)
    rcases List.append_eq_append_iff.1 he with ⟨a, rfl, -⟩ | ⟨a, rfl, ha⟩
    · exact (hw (List.mem_append_left _ hb)).elim
    · cases a with
      | nil => rw [List.append_nil] at hb; exact (hw hb).elim
      | cons x a =>
        rw [List.cons_append] at ha
        obtain ⟨rfl, -⟩ := List.cons.inj ha
        rw [hread a] at h
        cases h

theorem headerAt?_append_of_mem (hk : IsName k) (hb : '{' ∈ c :: m.map (·.1)) (r : List Marked) :
    headerAt? k afterWord c (m ++ r) = headerAt? k afterWord c m := by
  cases h : headerAt? k afterWord c m with
  | some found => exact headerAt?_append_of_eq_some h r
  | none =>
    rw [headerAt?] at h ⊢
    split at h
    · next hw => rw [if_pos hw]
    · next hw =>
      rw [if_neg hw, List.map_append, ← List.cons_append,
        header?_append_eq_none hk (Option.map_eq_none_iff.1 h) hb]
      rfl

/-! ### Bodies -/

/-- The body of a block whose opening brace stands before marked text. -/
def bodyIn? (m : List Marked) : Option (List Char) :=
  (matchingBraceFrom 1 m).map fun n => (m.take n).map (·.1)

theorem bodyIn?_append_of_eq_some {n : Nat} (h : matchingBraceFrom 1 m = some n)
    (r : List Marked) : bodyIn? (m ++ r) = some ((m.take n).map (·.1)) := by
  obtain ⟨hr, hlt⟩ := matchingBraceFrom_append_of_eq_some h r
  rw [bodyIn?, hr, Option.map_some, List.take_append_of_le_length hlt.le]

theorem bodyIn?_append_of_eq_none (h : matchingBraceFrom 1 m = none) (r : List Marked) :
    bodyIn? (m ++ r) = (matchingBraceFrom (openAfter 0 m + 1) r).map fun n =>
      m.map (·.1) ++ (r.take n).map (·.1) := by
  have hr : matchingBraceFrom 1 (m ++ r) =
      (matchingBraceFrom (openAfter 0 m + 1) r).map (· + m.length) :=
    matchingBraceFrom_append_of_eq_none h r
  rw [bodyIn?, hr, Option.map_map]
  congr 1
  funext n
  rw [Function.comp_apply, Nat.add_comm, List.take_length_add_append, List.map_append]

/-- What a body declares is the same with a comment without a directive at the end of a line. -/
theorem bodyIn?_remark (hu : modeAfter .code u = .code) (hclean : ∀ x ∈ mark u, x.2 ≠ .blockComment)
    (hv : AtLineEnd v) (hs : '\n' ∉ s) (hat : '@' ∉ s) :
    (bodyIn? (mark u ++ (remarkMarks s ++ mark v))).map
        (fun body => (statements body).map Statement.essence) =
      (bodyIn? (mark u ++ mark v)).map fun body => (statements body).map Statement.essence := by
  cases h : matchingBraceFrom 1 (mark u) with
  | some n => rw [bodyIn?_append_of_eq_some h, bodyIn?_append_of_eq_some h]
  | none =>
    -- The body goes on over the line end, so its own text has the comment in it.
    have hpast (depth : Int) (hd : 1 ≤ depth) : matchingBraceFrom depth (remarkMarks s ++ mark v) =
        (matchingBraceFrom depth (mark v)).map (· + (remarkMarks s).length) :=
      (Balanced.of_braceless fun _ => not_isBrace_of_mem_remarkMarks).matchingBraceFrom_append hd _
    rw [bodyIn?_append_of_eq_none h, bodyIn?_append_of_eq_none h, hpast _ (by omega),
      Option.map_map, Option.map_map, Option.map_map]
    cases hn : matchingBraceFrom (openAfter 0 (mark u) + 1) (mark v) with
    | none => rfl
    | some n =>
      have hv' : AtLineEnd (v.take n) := by
        cases v with
        | nil => rw [List.take_nil]; trivial
        | cons c v =>
          cases n with
          | zero => trivial
          | succ n => exact hv
      have htake : ((mark v).take n).map (·.1) = v.take n := by
        rw [List.map_take, mark_map_fst]
      have hlong : ((remarkMarks s ++ mark v).take (n + (remarkMarks s).length)).map (·.1) =
          remark s ++ v.take n := by
        rw [Nat.add_comm, List.take_length_add_append, List.map_append, remarkMarks_map_fst, htake]
      have hbody := statements_remark hu hclean h hv' hs hat
      simp only [Option.map_some, Function.comp_apply, hlong, htake, mark_map_fst, hbody]

/-! ### Blocks -/

/-- A header whose keyword stands in code leads to a brace in code. -/
theorem drop_of_headerAt? (hk : IsName k) {n : List Char} {count : Nat}
    (h : headerAt? k afterWord c (markFrom (mode.step c cs.head?).2 cs) = some (n, count))
    (hl : (mode.step c cs.head?).1 = .code) :
    ∃ u, (markFrom mode (c :: cs)).drop count = ('{', .code) :: mark u ∧
      modeAfter mode (c :: cs) = modeAfter .code u := by
  have hm := Mode.step_snd_of_code hl
  rw [headerAt?] at h
  split at h
  · cases h
  · obtain ⟨⟨n', body⟩, hb, he⟩ := Option.map_eq_some_iff.1 h
    obtain ⟨rfl, rfl⟩ := Prod.mk.inj he
    rw [markFrom_map_fst] at hb
    obtain ⟨w, u, hcs, rfl, hne, hstop, -⟩ := exists_of_header? hk hb
    cases w with
    | nil => exact (hne rfl).elim
    | cons d w =>
      rw [List.cons_append] at hcs
      obtain ⟨rfl, rfl⟩ := List.cons.inj hcs
      have hplain : ∀ d ∈ w, Plain d := fun d hd =>
        plain_of_isStop (hstop d (List.mem_cons_of_mem _ hd))
      have hmarks : mark (w ++ '{' :: u) = w.map (·, .code) ++ ('{', .code) :: mark u := by
        rw [mark_append_of_plain hplain, mark_cons_of_plain (by decide)]
      refine ⟨u, ?_, ?_⟩
      · have hcount : (markFrom .code (w ++ '{' :: u)).length + 1 - ('{' :: u).length =
            w.length + 1 := by
          rw [← mark, length_mark, List.length_append]
          omega
        rw [markFrom, hm, hcount, List.drop_succ_cons, ← mark, hmarks,
          List.drop_left' (by rw [List.length_map])]
      · rw [modeAfter, hm, modeAfter_append_of_plain hplain]
        rfl

/-- The name of a block and what its body declares. -/
def declared (b : List Char × List Char) : List Char × List Statement :=
  (b.1, (statements b.2).map Statement.essence)

def Block.sense (b : Block) : List Char × List Statement := declared (b.name, b.body)

theorem blocksFrom_map_sense (position : Nat) :
    (blocksFrom k position afterWord 0 m).map Block.sense =
      (outline k afterWord m).map declared := by
  rw [← outline_eq k position, List.map_map]
  rfl

/-- Whether `front`, the text before some position, ends within the header of a block: behind the
first character of its keyword and before its brace. -/
def Block.cutBy (front : List Char) (b : Block) : Bool :=
  b.start < front.length && !(front.drop b.start).contains '{'

theorem blockAt_append (position : Nat) (name : List Char) {count : Nat} {n : List Marked}
    (hl : m.head?.any (·.2 = .code) = true) (hm : m.drop count = ('{', .code) :: n)
    (r : List Marked) :
    blockAt position name count (m ++ r) =
      ((bodyIn? (n ++ r)).map fun body => ⟨name, body, position⟩).toList := by
  have hcount : count ≤ m.length := by
    by_contra h
    rw [List.drop_eq_nil_of_le (by omega)] at hm
    cases hm
  have hdrop : (m ++ r).drop count = ('{', .code) :: (n ++ r) := by
    rw [List.drop_append_of_le_length hcount, hm, List.cons_append]
  have hhead : (m ++ r).head?.any (·.2 = .code) = true := by
    cases m with
    | nil => cases hl
    | cons x m => exact hl
  rw [blockAt, if_pos hhead, hdrop, matchingBraceFrom_open, bodyIn?]
  cases h : matchingBraceFrom 1 (n ++ r) with
  | none => simp [h]
  | some count => simp [h]

/-- A header that is read to its brace keeps its block, and the block declares the same. -/
theorem blockHere_remark (hk : IsName k) (hmode : modeAfter mode (c :: cs) = .code)
    (hclean : ∀ x ∈ markFrom mode (c :: cs), x.2 ≠ .blockComment) (hb : '{' ∈ c :: cs)
    (hv : AtLineEnd v) (hs : '\n' ∉ s) (hat : '@' ∉ s) (position : Nat) :
    (blockHere k position afterWord c (mode.step c cs.head?).1
        (markFrom (mode.step c cs.head?).2 cs ++ (remarkMarks s ++ mark v))).map Block.sense =
      (blockHere k position afterWord c (mode.step c cs.head?).1
        (markFrom (mode.step c cs.head?).2 cs ++ mark v)).map Block.sense := by
  have hmem : '{' ∈ c :: (markFrom (mode.step c cs.head?).2 cs).map (·.1) := by
    rwa [markFrom_map_fst]
  rw [blockHere, blockHere, headerAt?_append_of_mem hk hmem, headerAt?_append_of_mem hk hmem]
  cases h : headerAt? k afterWord c (markFrom (mode.step c cs.head?).2 cs) with
  | none => rfl
  | some found =>
    obtain ⟨n, count⟩ := found
    by_cases hl : (mode.step c cs.head?).1 = .code
    · obtain ⟨u, hdrop, hcode⟩ := drop_of_headerAt? hk h hl
      have hcleanBody : ∀ x ∈ mark u, x.2 ≠ .blockComment := by
        intro x hx
        have hmem := List.mem_of_mem_drop (hdrop ▸ List.mem_cons_of_mem ('{', Lexeme.code) hx)
        exact hclean x hmem
      have hbody := bodyIn?_remark (hcode.symm.trans hmode) hcleanBody hv hs hat
      have hblock (r : List Marked) :
          (blockAt position n count ((c, (mode.step c cs.head?).1) ::
            (markFrom (mode.step c cs.head?).2 cs ++ r))).map Block.sense =
          (((bodyIn? (mark u ++ r)).map fun body => (statements body).map Statement.essence).map
            (n, ·)).toList := by
        have hcode' : (markFrom mode (c :: cs)).head?.any (·.2 = .code) = true := by
          simp [markFrom, hl]
        have hread := blockAt_append position n hcode' hdrop r
        rw [markFrom, List.cons_append] at hread
        rw [hread]
        cases bodyIn? (mark u ++ r) <;> rfl
      simp only [hblock, hbody]
    · have hnone (r : List Marked) :
          blockAt position n count ((c, (mode.step c cs.head?).1) :: r) = [] := by
        simp [blockAt, hl]
      simp only [hnone]

theorem blockHere_remark_of_not_mem (hk : IsName k) (hb : '{' ∉ c :: cs) (position : Nat)
    (l : Lexeme) :
    blockHere k position afterWord c l (markFrom mode cs ++ (remarkMarks s ++ mark v)) = [] := by
  have htext : (markFrom mode cs ++ (remarkMarks s ++ mark v)).map (·.1) =
      cs ++ (remark s ++ v) := by
    simp [markFrom_map_fst, remarkMarks_map_fst, mark_map_fst]
  -- The slash of the comment comes before every brace.
  have hstop : ((c :: cs) ++ (remark s ++ v)).find? isStop ≠ some '{' := by
    rw [List.find?_append]
    cases h : (c :: cs).find? isStop with
    | none => simp [remark, show isStop ' ' = false by decide, show isStop '/' = true by decide]
    | some d =>
      rw [Option.some_or]
      intro hd
      exact hb (Option.some.inj hd ▸ List.mem_of_find?_eq_some h)
  rw [blockHere, headerAt?_eq_none]
  rw [htext]
  exact .inr (.inr (header?_eq_none hk hstop))

theorem start_ge_of_mem_blocksFrom {position : Nat} {b : Block}
    (hb : b ∈ blocksFrom k position afterWord 0 m) : position ≤ b.start := by
  have h := blocksFrom_add k 0 position afterWord 0 m
  rw [Nat.zero_add] at h
  rw [h] at hb
  obtain ⟨b', -, rfl⟩ := List.mem_map.1 hb
  exact Nat.le_add_left _ _

theorem outline_mark_lineEnd (hk : IsName k) (hv : AtLineEnd v) (before after : Bool) :
    outline k before (mark v) = outline k after (mark v) := by
  cases v with
  | nil => rfl
  | cons c v =>
    obtain rfl : c = '\n' := hv
    have hmark : mark ('\n' :: v) = ('\n', .code) :: mark v := rfl
    rw [hmark, outline_cons_of_noHeader hk (.of_not_word hk before (by decide) _),
      outline_cons_of_noHeader hk (.of_not_word hk after (by decide) _)]

theorem outline_remarkMarks_append (hk : IsName k) (hv : AtLineEnd v) :
    outline k afterWord (remarkMarks s ++ mark v) = outline k afterWord (mark v) := by
  have hcomment (w : List Char) (before : Bool) :
      outline k before (w.map (·, .lineComment) ++ mark v) = outline k afterWord (mark v) := by
    induction w generalizing before with
    | nil => exact outline_mark_lineEnd hk hv before afterWord
    | cons c w ih =>
      have hclass : Lexeme.lineComment ≠ .code := nofun
      rw [List.map_cons, List.cons_append, outline_cons_of_ne_code hk c hclass, ih]
  rw [remarkMarks, List.cons_append,
    outline_cons_of_noHeader hk (.of_not_word hk afterWord (by decide) _), hcomment]

/-- With a comment at the end of a line, the blocks are those whose header the line end does not
cut, and they declare the same. -/
theorem blocksFrom_remark (hk : IsName k) (hcode : modeAfter mode u = .code)
    (hclean : ∀ x ∈ markFrom mode u, x.2 ≠ .blockComment) (hv : AtLineEnd v) (hs : '\n' ∉ s)
    (hat : '@' ∉ s) (position : Nat) (afterWord : Bool) :
    (blocksFrom k position afterWord 0 (markFrom mode u ++ (remarkMarks s ++ mark v))).map
        Block.sense =
      ((blocksFrom k position afterWord 0 (markFrom mode u ++ mark v)).filter fun b =>
        !(b.start < position + u.length && !(u.drop (b.start - position)).contains '{')).map
          Block.sense := by
  induction u generalizing mode afterWord position with
  | nil =>
    rw [List.filter_eq_self.2 fun b hb => ?_, markFrom, List.nil_append, List.nil_append,
      blocksFrom_map_sense, blocksFrom_map_sense, outline_remarkMarks_append hk hv]
    have hge := start_ge_of_mem_blocksFrom hb
    simp [hge]
  | cons c u ih =>
    have hcode' : modeAfter (mode.step c u.head?).2 u = .code := hcode
    have htail := ih hcode' (fun x hx => hclean x (List.mem_cons_of_mem _ hx)) (position + 1)
      (isWord c)
    rw [markFrom, List.cons_append, List.cons_append, blocksFrom_eq_append hk,
      blocksFrom_eq_append hk, List.filter_append, List.map_append, List.map_append, htail]
    congr 1
    · -- A block that starts here is cut unless a brace stands before the line end.
      by_cases hb : '{' ∈ c :: u
      · rw [blockHere_remark hk hcode hclean hb hv hs hat, List.filter_eq_self.2 fun b hb' => ?_]
        rw [start_of_mem_blockHere hb']
        simpa using hb
      · rw [blockHere_remark_of_not_mem hk hb, List.filter_eq_nil_iff.2 fun b hb' => ?_]
        rw [start_of_mem_blockHere hb']
        simpa using hb
    · congr 1
      refine List.filter_congr fun b hb => ?_
      have hge := start_ge_of_mem_blocksFrom hb
      have hdrop : (c :: u).drop (b.start - position) = u.drop (b.start - (position + 1)) := by
        rw [show b.start - position = b.start - (position + 1) + 1 by omega, List.drop_succ_cons]
      rw [hdrop, List.length_cons, Nat.add_right_comm, Nat.add_assoc]

theorem blocks_remark {keyword : String} (hk : IsName keyword.toList)
    (hu : modeAfter .code u = .code) (hclean : ∀ x ∈ mark u, x.2 ≠ .blockComment)
    (hv : AtLineEnd v) (hs : '\n' ∉ s) (hat : '@' ∉ s) :
    (blocks keyword (u ++ (remark s ++ v))).map Block.sense =
      ((blocks keyword (u ++ v)).filter (!·.cutBy u)).map Block.sense := by
  have h := blocksFrom_remark hk hu hclean hv hs hat 0 false
  simp only [Nat.zero_add, Nat.sub_zero] at h
  rw [blocks, mark_append_remark_append hu hs hv, blocks, mark_append_of_code hu hv.detached]
  exact h

/-! ### Documents -/

theorem mapM_essence (ss : List Statement) :
    (ss.map Statement.essence).mapM FieldDecl.ofStatement? = ss.mapM FieldDecl.ofStatement? := by
  rw [List.mapM_map]
  exact congrArg (ss.mapM ·) (funext FieldDecl.ofStatement?_essence)

theorem filterMap_essence (ss : List Statement) :
    (ss.map Statement.essence).filterMap Choice.ofStatement? =
      ss.filterMap Choice.ofStatement? := by
  rw [List.filterMap_map]
  exact congrArg (ss.filterMap ·) (funext Choice.ofStatement?_essence)

/-- The message type that a block stands for. -/
def Block.message (b : Block) : Except Fault (String × Message) := readBody (b.name, b.body)

/-- The enumeration type that a block stands for. -/
def Block.enumeration (b : Block) : String × Enumeration := readEnumBody (b.name, b.body)

theorem Block.message_congr {b b' : Block} (h : b.sense = b'.sense) : b.message = b'.message := by
  obtain ⟨hname, hbody⟩ := Prod.mk.inj h
  rw [message, message, readBody, readBody, ← mapM_essence, hbody, mapM_essence, hname]

theorem Block.enumeration_congr {b b' : Block} (h : b.sense = b'.sense) :
    b.enumeration = b'.enumeration := by
  obtain ⟨hname, hbody⟩ := Prod.mk.inj h
  rw [enumeration, enumeration, readEnumBody, readEnumBody, ← filterMap_essence, hbody,
    filterMap_essence, hname]

theorem map_congr_of_sense {β : Type} {f : Block → β} (hf : ∀ b b', b.sense = b'.sense → f b = f b')
    {bs bs' : List Block} (h : bs.map Block.sense = bs'.map Block.sense) :
    bs.map f = bs'.map f := by
  induction bs generalizing bs' with
  | nil =>
    rw [List.map_nil, eq_comm, List.map_eq_nil_iff] at h
    rw [h]
  | cons b bs ih =>
    cases bs' with
    | nil => cases h
    | cons b' bs' =>
      obtain ⟨hb, hbs⟩ := List.cons.inj h
      rw [List.map_cons, List.map_cons, hf b b' hb, ih hbs]

/-- Reads a form description, and passes over the blocks that `keep` refuses. -/
def Document.readWhere (keep : Block → Bool) (text : List Char) : Except Fault Document := do
  let clean := stripBlockComments text
  pure {
    messages := Keyed.table (← ((blocks "message" clean).filter keep).mapM Block.message)
    enumerations := Keyed.table (((blocks "enum" clean).filter keep).map Block.enumeration)
    options := fileOptions clean }

theorem Document.read_eq (text : List Char) : Document.read text = (do
    let clean := stripBlockComments text
    pure {
      messages := Keyed.table (← (blocks "message" clean).mapM Block.message)
      enumerations := Keyed.table ((blocks "enum" clean).map Block.enumeration)
      options := fileOptions clean }) := by
  have htable (clean : List Char) : messageTable clean = (do
      pure (Keyed.table (← (blocks "message" clean).mapM Block.message))) := rfl
  rw [Document.read, htable]
  dsimp only
  cases (blocks "message" (stripBlockComments text)).mapM Block.message <;> rfl

theorem Document.readWhere_eq_read {keep : Block → Bool} {text : List Char}
    (h : ∀ keyword ∈ ["message", "enum"], ∀ b ∈ blocks keyword (stripBlockComments text),
      keep b = true) : Document.readWhere keep text = Document.read text := by
  obtain ⟨hmessages, hrest⟩ := List.forall_mem_cons.1 h
  have henums := (List.forall_mem_cons.1 hrest).1
  rw [Document.readWhere, List.filter_eq_self.2 hmessages, List.filter_eq_self.2 henums,
    Document.read_eq]

/-- A line comment without a directive, put at the end of a line that ends in code, hides the blocks
whose header the line end cuts, and changes nothing else; where it cuts no header, it changes
nothing. -/
theorem Document.read_remark (hu : modeAfter .code u = .code) (hv : AtLineEnd v) (hs : '\n' ∉ s)
    (hat : '@' ∉ s) :
    Document.read (u ++ (remark s ++ v)) =
        Document.readWhere (!·.cutBy (stripBlockComments u)) (u ++ v) ∧
      ((∀ keyword ∈ ["message", "enum"], ∀ b ∈ blocks keyword (stripBlockComments (u ++ v)),
          b.cutBy (stripBlockComments u) = false) →
        Document.read (u ++ (remark s ++ v)) = Document.read (u ++ v)) := by
  have hcode := modeAfter_stripBlockComments hu
  have hclean : ∀ x ∈ mark (stripBlockComments u), x.2 ≠ .blockComment :=
    fun _ => ne_blockComment_of_mem_mark_stripBlockComments
  have hnew := stripBlockComments_append_remark_append hu hs hv
  have hold := stripBlockComments_append hu hv.detached
  have hmessages := congrArg (List.mapM id) (map_congr_of_sense (fun _ _ => Block.message_congr)
    (blocks_remark isName_message hcode hclean hv.stripBlockComments hs hat))
  have henums := map_congr_of_sense (fun _ _ => Block.enumeration_congr)
    (blocks_remark isName_enum hcode hclean hv.stripBlockComments hs hat)
  have hoptions : fileOptions (stripBlockComments (u ++ (remark s ++ v))) =
      fileOptions (stripBlockComments (u ++ v)) := by
    rw [fileOptions_stripBlockComments, fileOptions_stripBlockComments,
      fileOptions_remark hu hs hv]
  have hread : Document.read (u ++ (remark s ++ v)) =
      Document.readWhere (!·.cutBy (stripBlockComments u)) (u ++ v) := by
    rw [List.mapM_map, List.mapM_map, ← hnew, ← hold] at hmessages
    rw [← hnew, ← hold] at henums
    simp only [Document.read_eq, Document.readWhere, hoptions, henums]
    exact congrArg (· >>= _) hmessages
  refine ⟨hread, fun hwhole => hread.trans (Document.readWhere_eq_read fun keyword hk b hb => ?_)⟩
  rw [hwhole keyword hk b hb]
  rfl

/-- A message up to the middle of its field. -/
def openField : String := "message M \x7b\n  string a ="

def restOfField : String := "\n    1;\n\x7d\n"

/-- The message with one text field. -/
def oneField : Document where
  messages := [("M", { name := "M", fields := [{ name := "a", type := "string" }] })]
  enumerations := []
  options := []

theorem read_remark_openField :
    modeAfter .code openField.toList = .code ∧ AtLineEnd restOfField.toList ∧
      Document.read (openField.toList ++ (remark "a \x7b or \"".toList ++ restOfField.toList)) =
        .ok oneField := by
  have hcode : modeAfter .code openField.toList = .code := by decide +kernel
  have hrest : AtLineEnd restOfField.toList := by decide +kernel
  have hwhole : ∀ keyword ∈ ["message", "enum"],
      ∀ b ∈ blocks keyword (stripBlockComments (openField.toList ++ restOfField.toList)),
        b.cutBy (stripBlockComments openField.toList) = false := by
    simp only [openField, restOfField, String.reduceToList]
    decide +kernel
  have hread : Document.read (openField.toList ++ restOfField.toList) = .ok oneField := by
    simp only [openField, restOfField, String.reduceToList]
    decide +kernel
  have hsame := (Document.read_remark (s := "a \x7b or \"".toList) hcode hrest (by decide +kernel)
    (by decide +kernel)).2 hwhole
  exact ⟨hcode, hrest, hsame.trans hread⟩

/-- A message up to the end of its name. -/
def openHeader : String := "message M"

def restOfHeader : String := "\n\x7b\n  string a = 1;\n\x7d\n"

/-- Between the name of a block and its brace a comment does make a difference. -/
theorem not_read_remark_openHeader :
    ¬ ∀ u v s : List Char, modeAfter .code u = .code → AtLineEnd v → '\n' ∉ s → '@' ∉ s →
      Document.read (u ++ (remark s ++ v)) = Document.read (u ++ v) := by
  intro h
  have hsame := h openHeader.toList restOfHeader.toList ['c'] (by decide +kernel)
    (by decide +kernel) (by decide) (by decide)
  have hold : Document.read (openHeader.toList ++ restOfHeader.toList) = .ok oneField := by
    simp only [openHeader, restOfHeader, String.reduceToList]
    decide +kernel
  have hnew : Document.read (openHeader.toList ++ (remark ['c'] ++ restOfHeader.toList)) =
      .ok { messages := [], enumerations := [], options := [] } := by
    simp only [openHeader, restOfHeader, String.reduceToList]
    decide +kernel
  rw [hold, hnew] at hsame
  exact absurd hsame (by decide)

end Formwork.Idl
