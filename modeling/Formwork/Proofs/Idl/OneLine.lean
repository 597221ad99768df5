import Formwork.Proofs.Idl.Joining
import Formwork.Proofs.Idl.Nested

/-!
Texts on one line. In a text without comments whose literals are closed on their lines, a line feed is
scanned like a space; so the blocks are those of the text on one line, and so are the texts outside
blocks that their bodies leave.
-/
namespace Formwork.Idl
open Formwork.Text

variable {mode : Mode} {m n : List Marked} {u v cs : List Char} {c : Char}

/-! ### Texts whose line feeds may move -/

/-- A text scanned from `mode` on that holds no comment, no white space but spaces and line feeds, and
no literal that is open at the end of a line. -/
structure Tidy (mode : Mode) (cs : List Char) : Prop where
  blank : ∀ c ∈ cs, isBlank c = true → c = ' ' ∨ c = '\n'
  clean : ∀ x ∈ markFrom mode cs, x.2 = .code ∨ x.2 = .string
  lineFeed : ∀ u v, cs = u ++ '\n' :: v → modeAfter mode u = .code

theorem tidy_nil (mode : Mode) : Tidy mode [] := by
  refine ⟨List.forall_mem_nil _, List.forall_mem_nil _, fun u v h => ?_⟩
  simp at h

theorem tidy_cons : Tidy mode (c :: cs) ↔ (isBlank c = true → c = ' ' ∨ c = '\n') ∧
    ((mode.step c cs.head?).1 = .code ∨ (mode.step c cs.head?).1 = .string) ∧
      (c = '\n' → mode = .code) ∧ Tidy (mode.step c cs.head?).2 cs := by
  constructor
  · rintro ⟨hblank, hclean, hfeed⟩
    rw [markFrom] at hclean
    obtain ⟨hb, hblank⟩ := List.forall_mem_cons.1 hblank
    obtain ⟨hc, hclean⟩ := List.forall_mem_cons.1 hclean
    refine ⟨hb, hc, fun e => hfeed [] cs (e ▸ rfl), hblank, hclean, ?_⟩
    rintro u v rfl
    have hcode := hfeed (c :: u) v rfl
    rwa [modeAfter, ← Mode.step_head?_append mode c u v] at hcode
  · rintro ⟨hb, hc, hn, hblank, hclean, hfeed⟩
    refine ⟨List.forall_mem_cons.2 ⟨hb, hblank⟩, ?_, fun u v h => ?_⟩
    · rw [markFrom]
      exact List.forall_mem_cons.2 ⟨hc, hclean⟩
    · cases u with
      | nil => exact hn (List.cons.inj h).1
      | cons d u =>
        obtain ⟨rfl, rfl⟩ := List.cons.inj h
        rw [modeAfter, ← Mode.step_head?_append mode c u v]
        exact hfeed u v rfl

instance decidableTidy : (mode : Mode) → (cs : List Char) → Decidable (Tidy mode cs)
  | mode, [] => isTrue (tidy_nil mode)
  | mode, c :: cs =>
    have := decidableTidy (mode.step c cs.head?).2 cs
    decidable_of_iff _ tidy_cons.symm

/-- `v` is the marked text with line feeds turned into spaces, and spaces outside literals turned into
line feeds. -/
def Relaid (m : List Marked) (v : List Char) : Prop :=
  List.Forall₂ (fun x c => x.1 = c ∨
    x.2 = .code ∧ (x.1 = ' ' ∨ x.1 = '\n') ∧ (c = ' ' ∨ c = '\n')) m v

instance (m : List Marked) (v : List Char) : Decidable (Relaid m v) := by
  unfold Relaid
  infer_instance

/-- A blank in code is scanned in code. -/
theorem Tidy.mode_eq_code (h : Tidy mode (c :: cs)) (hc : c = ' ' ∨ c = '\n')
    (hl : (mode.step c cs.head?).1 = .code) : mode = .code := by
  rcases hc with rfl | rfl
  · cases mode <;> grind [Mode.step]
  · exact (tidy_cons.1 h).2.2.1 rfl

theorem Mode.step_code_blank {next : Option Char} (hc : c = ' ' ∨ c = '\n') :
    Mode.code.step c next = (.code, .code) := by
  rcases hc with rfl | rfl <;> simp [Mode.step]

/-- Where a blank in code follows, it makes no difference which. -/
theorem Mode.Proper.step_blank (hm : mode.Proper) {b b' : Char} (hb : b = ' ' ∨ b = '\n')
    (hb' : b' = ' ' ∨ b' = '\n') (h : (mode.step c (some b)).2 = .code) :
    mode.step c (some b') = mode.step c (some b) := by
  have hmark {d : Char} (hd : d = ' ' ∨ d = '\n') : d ≠ '/' ∧ d ≠ '*' := by
    rcases hd with rfl | rfl <;> decide
  have hnone := Mode.step_none_eq (hmark hb) h
  rw [← hnone] at h ⊢
  refine hm.sound.step_congr (fun d hd => ?_) h
  obtain rfl := Option.some.inj hd
  exact hmark hb'

theorem Tidy.step_eq (hm : mode.Proper) (h : Tidy mode (c :: cs)) {v : List Char}
    (hr : Relaid (markFrom (mode.step c cs.head?).2 cs) v) :
    mode.step c v.head? = mode.step c cs.head? := by
  cases cs with
  | nil =>
    cases hr
    rfl
  | cons b cs =>
    rw [markFrom] at hr
    cases hr with
    | @cons _ b' _ v hb _ =>
      obtain rfl | ⟨hl, hb, hb'⟩ := hb
      · rfl
      · have hcode := (tidy_cons.1 h).2.2.2.mode_eq_code hb hl
        exact hm.step_blank hb hb' hcode

/-- The text is scanned in the same way when its lines are broken elsewhere. -/
theorem Tidy.relaid (hm : mode.Proper) (h : Tidy mode u) (hr : Relaid (markFrom mode u) v) :
    Tidy mode v ∧ (markFrom mode v).map (·.2) = (markFrom mode u).map (·.2) ∧
      modeAfter mode v = modeAfter mode u ∧ oneLine v = oneLine u := by
  induction u generalizing mode v with
  | nil =>
    cases hr
    exact ⟨h, rfl, rfl, rfl⟩
  | cons c u ih =>
    rw [markFrom] at hr
    cases hr with
    | @cons _ d _ v hc hrest =>
      obtain ⟨hblank, hclass, hfeed, htail⟩ := tidy_cons.1 h
      have hstep : mode.step d v.head? = mode.step c u.head? := by
        obtain rfl | ⟨hl, hc, hd⟩ := hc
        · exact h.step_eq hm hrest
        · obtain rfl := h.mode_eq_code hc hl
          rw [Mode.step_code_blank hc, Mode.step_code_blank hd]
      obtain ⟨htidy, hmarks, hmode, hline⟩ := ih (hm.step hclass) htail hrest
      have hone : unbroken d = unbroken c := by
        obtain rfl | ⟨-, rfl | rfl, rfl | rfl⟩ := hc <;> rfl
      refine ⟨tidy_cons.2 ⟨fun hb => ?_, hstep ▸ hclass, fun hd => ?_, hstep ▸ htidy⟩, ?_, ?_, ?_⟩
      · obtain rfl | ⟨-, -, hd⟩ := hc
        · exact hblank hb
        · exact hd
      · obtain rfl | ⟨hl, hc, -⟩ := hc
        · exact hfeed hd
        · exact h.mode_eq_code hc hl
      · rw [markFrom, markFrom, hstep, List.map_cons, List.map_cons, hmarks]
      · rw [modeAfter, modeAfter, hstep, hmode]
      · exact congrArg₂ List.cons hone hline

/-- A marked character with a space in place of a line feed. -/
def unbrokenMark (x : Marked) : Marked := (unbroken x.1, x.2)

theorem Tidy.relaid_oneLine (hm : mode.Proper) (h : Tidy mode cs) :
    Relaid (markFrom mode cs) (oneLine cs) := by
  induction cs generalizing mode with
  | nil => exact .nil
  | cons c cs ih =>
    obtain ⟨-, hclass, hfeed, htail⟩ := tidy_cons.1 h
    refine .cons ?_ (ih (hm.step hclass) htail)
    by_cases hc : c = '\n'
    · obtain rfl := hfeed hc
      subst hc
      exact .inr ⟨rfl, .inr rfl, .inl rfl⟩
    · exact .inl (by rw [unbroken, if_neg hc])

theorem Tidy.markFrom_oneLine (hm : mode.Proper) (h : Tidy mode cs) :
    markFrom mode (oneLine cs) = (markFrom mode cs).map unbrokenMark := by
  have hclass := (h.relaid hm (h.relaid_oneLine hm)).2.1
  have hchar : (markFrom mode (oneLine cs)).map (·.1) =
      ((markFrom mode cs).map unbrokenMark).map (·.1) := by
    rw [markFrom_map_fst, List.map_map, oneLine, ← markFrom_map_fst mode cs, List.map_map]
    rw [markFrom_map_fst]
    rfl
  have hclass' : (markFrom mode (oneLine cs)).map (·.2) =
      ((markFrom mode cs).map unbrokenMark).map (·.2) := by
    rw [hclass, List.map_map]
    rfl
  exact (List.zip_of_prod hchar hclass').trans (List.zip_of_prod rfl rfl).symm

theorem Tidy.mark_oneLine (h : Tidy .code cs) :
    mark (oneLine cs) = (mark cs).map unbrokenMark :=
  h.markFrom_oneLine Mode.proper_code

/-! ### Blocks -/

theorem isBlank_unbroken (c : Char) : isBlank (unbroken c) = isBlank c := by
  rw [unbroken]
  split
  · next h =>
    rw [h]
    rfl
  · rfl

theorem isWord_unbroken (c : Char) : isWord (unbroken c) = isWord c := by
  rw [unbroken]
  split
  · next h =>
    rw [h]
    decide
  · rfl

/-- No other character is confused with a line feed. -/
theorem unbroken_eq_iff {d : Char} (hn : d ≠ '\n') (hs : d ≠ ' ') : unbroken c = d ↔ c = d := by
  rw [unbroken]
  split
  · next h =>
    rw [h]
    exact ⟨fun e => (hs e.symm).elim, fun e => (hn e.symm).elim⟩
  · rfl

theorem stripLeft_oneLine (cs : List Char) : stripLeft (oneLine cs) = oneLine (stripLeft cs) := by
  rw [stripLeft, oneLine, List.dropWhile_map]
  simp only [Function.comp_def, isBlank_unbroken]
  rfl

theorem dropWord?_oneLine {w : List Char} (hw : ∀ c ∈ w, isBlank c = false) (cs : List Char) :
    dropWord? w (oneLine cs) = (dropWord? w cs).map oneLine := by
  induction w generalizing cs with
  | nil => rfl
  | cons w ws ih =>
    obtain ⟨hw, hws⟩ := List.forall_mem_cons.1 hw
    have hn : w ≠ '\n' := fun e => by simp [e, isBlank] at hw
    have hs : w ≠ ' ' := fun e => by simp [e, isBlank] at hw
    cases cs with
    | nil => rfl
    | cons c cs =>
      rw [oneLine, List.map_cons, ← oneLine, dropWord?, dropWord?]
      by_cases hc : w = c
      · rw [if_pos hc, if_pos ((unbroken_eq_iff hn hs).2 hc.symm).symm, ih hws]
      · rw [if_neg hc, if_neg fun e => hc ((unbroken_eq_iff hn hs).1 e.symm).symm]
        rfl

theorem dropBlanks?_oneLine (cs : List Char) :
    dropBlanks? (oneLine cs) = (dropBlanks? cs).map oneLine := by
  cases cs with
  | nil => rfl
  | cons c cs =>
    rw [oneLine, List.map_cons, ← oneLine, dropBlanks?, dropBlanks?, isBlank_unbroken,
      stripLeft_oneLine]
    split <;> rfl

theorem identifier?_oneLine (cs : List Char) :
    identifier? (oneLine cs) = (identifier? cs).map fun found => (found.1, oneLine found.2) := by
  have hname {c : Char} (hc : isWord c = true) : unbroken c = c := by
    rw [unbroken, if_neg]
    rintro rfl
    exact absurd hc (by decide)
  have htake (cs : List Char) : (oneLine cs).takeWhile isWord = cs.takeWhile isWord := by
    have hsame : (cs.takeWhile isWord).map unbroken = cs.takeWhile isWord :=
      (List.map_congr_left fun c hc => hname (List.mem_takeWhile_imp hc)).trans (List.map_id _)
    rw [oneLine, List.takeWhile_map]
    simpa only [Function.comp_def, isWord_unbroken] using hsame
  have hdrop (cs : List Char) : (oneLine cs).dropWhile isWord = oneLine (cs.dropWhile isWord) := by
    rw [oneLine, List.dropWhile_map]
    simp only [Function.comp_def, isWord_unbroken]
    rfl
  cases cs with
  | nil => rfl
  | cons c cs =>
    rw [oneLine, List.map_cons, ← oneLine, identifier?, identifier?, htake, hdrop]
    by_cases hc : isNameStart c = true
    · rw [hname (isWord_of_isNameStart hc), if_pos hc, if_pos hc]
      rfl
    · have hc' : ¬isNameStart (unbroken c) = true := by
        rw [unbroken]
        split
        · decide
        · exact hc
      rw [if_neg hc, if_neg hc']
      rfl

theorem header?_oneLine {k : List Char} (hk : IsName k) (cs : List Char) :
    header? k (oneLine cs) = (header? k cs).map fun found => (found.1, oneLine found.2) := by
  have hword : ∀ c ∈ k, isBlank c = false := fun c hc => isBlank_of_isWord (hk.isWord c hc)
  simp only [header?, bind, dropWord?_oneLine hword, dropBlanks?_oneLine, identifier?_oneLine,
    Option.bind_map, Option.map_bind, Function.comp_def, stripLeft_oneLine]
  congr 1
  funext r
  congr 1
  funext r
  congr 1
  funext found
  cases stripLeft found.2 with
  | nil => rfl
  | cons c cs =>
    rw [oneLine, List.map_cons]
    by_cases hc : c = '\x7b'
    · subst hc
      rfl
    · have hc' : unbroken c ≠ '\x7b' := fun e =>
        hc ((unbroken_eq_iff (by decide) (by decide)).1 e)
      simp [hc, hc']

theorem headerAt?_unbroken {k : List Char} (hk : IsName k) (afterWord : Bool) (c : Char)
    (m : List Marked) :
    headerAt? k afterWord (unbroken c) (m.map unbrokenMark) = headerAt? k afterWord c m := by
  have hhead : k.head?.any (· ≠ unbroken c) = k.head?.any (· ≠ c) := by
    cases k with
    | nil => rfl
    | cons d k =>
      have hd := isBlank_of_isWord (hk.isWord d List.mem_cons_self)
      have hiff : unbroken c = d ↔ c = d :=
        unbroken_eq_iff (fun e => by simp [e, isBlank] at hd) (fun e => by simp [e, isBlank] at hd)
      simp [eq_comm (a := d), hiff]
  have htext : unbroken c :: (m.map unbrokenMark).map (·.1) = oneLine (c :: m.map (·.1)) := by
    rw [List.map_map, oneLine, List.map_cons, List.map_map]
    rfl
  rw [headerAt?, headerAt?, isWord_unbroken, hhead, htext, header?_oneLine hk, Option.map_map]
  simp only [Function.comp_def, oneLine, List.length_map]

/-- The block on one line. -/
def Block.oneLine (b : Block) : Block := { b with body := Idl.oneLine b.body }

theorem matchingBraceFrom_unbroken (depth : Int) (m : List Marked) :
    matchingBraceFrom depth (m.map unbrokenMark) = matchingBraceFrom depth m := by
  induction m generalizing depth with
  | nil => rfl
  | cons x m ih =>
    obtain ⟨c, l⟩ := x
    have hopen : unbroken c = '\x7b' ↔ c = '\x7b' := unbroken_eq_iff (by decide) (by decide)
    have hclose : unbroken c = '\x7d' ↔ c = '\x7d' := unbroken_eq_iff (by decide) (by decide)
    rw [List.map_cons, unbrokenMark, matchingBraceFrom, matchingBraceFrom]
    simp only [hopen, hclose, ih]

theorem dropBlocks_unbroken (depth : Nat) (m : List Marked) :
    dropBlocks depth (m.map unbrokenMark) = oneLine (dropBlocks depth m) := by
  induction m generalizing depth with
  | nil => rfl
  | cons x m ih =>
    rcases eq_brace_or x with rfl | rfl | hx
    · rw [List.map_cons, dropBlocks_open]
      exact (dropBlocks_open depth _).trans (ih _)
    · rw [List.map_cons, dropBlocks_close]
      refine (dropBlocks_close depth _).trans ?_
      rw [ih, oneLine, oneLine, List.map_append]
      split <;> rfl
    · have hx' : ¬IsBrace (unbrokenMark x) := by
        rintro ⟨hl, hc⟩
        refine hx ⟨hl, ?_⟩
        rcases hc with hc | hc
        · exact .inl ((unbroken_eq_iff (by decide) (by decide)).1 hc)
        · exact .inr ((unbroken_eq_iff (by decide) (by decide)).1 hc)
      rw [List.map_cons, dropBlocks_cons hx, dropBlocks_cons hx', ih, ih]
      split <;> rfl

theorem blocksFrom_unbroken {k : List Char} (hk : IsName k) (position : Nat) (afterWord : Bool)
    (skip : Nat) (m : List Marked) :
    blocksFrom k position afterWord skip (m.map unbrokenMark) =
      (blocksFrom k position afterWord skip m).map Block.oneLine := by
  induction m generalizing position afterWord skip with
  | nil => rfl
  | cons x m ih =>
    obtain ⟨c, l⟩ := x
    cases skip with
    | succ skip => 
      rw [List.map_cons, unbrokenMark, blocksFrom, blocksFrom, isWord_unbroken, ih]
    | zero =>
      rw [List.map_cons, unbrokenMark, blocksFrom, blocksFrom, isWord_unbroken,
        headerAt?_unbroken hk]
      cases headerAt? k afterWord c m with
      | none => exact ih ..
      | some found =>
        obtain ⟨name, count⟩ := found
        have hdrop : ((unbroken c, l) :: m.map unbrokenMark).drop count =
            (((c, l) :: m).drop count).map unbrokenMark := by
          rw [List.map_drop]
          rfl
        simp only [hdrop, matchingBraceFrom_unbroken, ih, List.map_append]
        congr 1
        split
        · simp only [Block.oneLine, oneLine, List.map_cons, List.map_nil, List.map_take,
            List.map_drop, List.map_map]
          rfl
        · rfl

theorem Tidy.blocks_oneLine {keyword : String} (hk : IsName keyword.toList) (h : Tidy .code cs) :
    blocks keyword (Idl.oneLine cs) = (blocks keyword cs).map Block.oneLine := by
  rw [blocks, h.mark_oneLine, blocksFrom_unbroken hk]
  rfl

/-! ### Bodies -/

/-- Behind a character of code a text is tidy from code on. -/
theorem Tidy.behind (h : Tidy mode cs) (hm : markFrom mode cs = m ++ (c, .code) :: n) :
    Tidy .code (n.map (·.1)) := by
  induction m generalizing mode cs with
  | nil =>
    cases cs with
    | nil => cases hm
    | cons d cs =>
      rw [markFrom, List.nil_append] at hm
      obtain ⟨hd, rfl⟩ := List.cons.inj hm
      have htail := (tidy_cons.1 h).2.2.2
      rw [Mode.step_snd_of_code (congrArg (·.2) hd)] at htail
      rwa [markFrom_map_fst]
  | cons x m ih =>
    cases cs with
    | nil => cases hm
    | cons d cs => exact ih (tidy_cons.1 h).2.2.2 (List.cons.inj hm).2

theorem Tidy.before (h : Tidy mode cs) (hm : markFrom mode cs = m ++ n)
    (hmark : markFrom mode (m.map (·.1)) = m) : Tidy mode (m.map (·.1)) where
  blank c hc := by
    obtain ⟨x, hx, rfl⟩ := List.mem_map.1 hc
    have hmem : x.1 ∈ (markFrom mode cs).map (·.1) :=
      List.mem_map_of_mem (hm ▸ List.mem_append_left n hx)
    rw [markFrom_map_fst] at hmem
    exact h.blank x.1 hmem
  clean x hx := h.clean x (hm ▸ List.mem_append_left n (hmark ▸ hx))
  lineFeed u v he := by
    have hchars := markFrom_map_fst mode cs
    rw [hm, List.map_append, he, List.append_assoc, List.cons_append] at hchars
    exact h.lineFeed u _ hchars.symm

/-- The body of a block: it ends in code, and every block in it is closed in it. -/
structure IsBody (body : List Char) : Prop where
  tidy : Tidy .code body
  closed : modeAfter .code body = .code
  nested : matchingBraceFrom 1 (mark body) = none
  outside : openAfter 0 (mark body) = 0

theorem isBody_of_mem_blocksFrom {k : List Char} {afterWord : Bool} {position : Nat}
    (hk : IsName k) (h : Tidy mode cs) {b : Block}
    (hb : b ∈ blocksFrom k position afterWord 0 (markFrom mode cs)) : IsBody b.body := by
  obtain ⟨p, n, hsplit, hnested⟩ := exists_of_mem_blocksFrom hk hb
  obtain ⟨hnone, hopen⟩ := balanced_iff.1 hnested.balanced
  have hbehind := h.behind hsplit
  obtain ⟨-, hmark, -⟩ := markFrom_cut hsplit
  have htidy := hbehind.before hmark (by rw [mark_map_fst]; rfl)
  rw [mark_map_fst] at htidy
  exact ⟨htidy, hnested.closed, hnone, hopen⟩

/-! ### Texts outside blocks -/

theorem tidy_iff_along : Tidy mode cs ↔ Along (fun mode c l =>
    (isBlank c = true → c = ' ' ∨ c = '\n') ∧ (l = .code ∨ l = .string) ∧
      (c = '\n' → mode = .code)) mode cs := by
  induction cs generalizing mode with
  | nil => exact iff_of_true (tidy_nil mode) trivial
  | cons c cs ih => rw [tidy_cons, Along, ih, and_assoc, and_assoc]

/-- The text outside blocks is as tidy as the text among the blocks. -/
theorem Tidy.dropBlocks {depth : Nat} (h : Tidy mode cs)
    (hnone : matchingBraceFrom (depth + 1) (markFrom mode cs) = none) :
    Tidy (mode.outside depth) (dropBlocks depth (markFrom mode cs)) := by
  refine tidy_iff_along.2 ((tidy_iff_along.1 h).dropBlocks ?_ hnone).1
  exact ⟨fun hb => absurd hb (by decide), .inl rfl, fun _ => rfl⟩

theorem Tidy.whole (h : Tidy .code cs) (hcode : modeAfter .code cs = .code) (hn : '\n' ∉ cs) :
    Whole cs where
  blank c hc hb := (h.blank c hc hb).resolve_right fun e => hn (e ▸ hc)
  clean := h.clean
  closed := hcode

/-- Every line of a tidy text is complete. -/
theorem Tidy.whole_of_mem_pieces {cs : List Char} (h : Tidy .code cs)
    (hcode : modeAfter .code cs = .code) :
    ∀ l ∈ pieces (· == '\n') cs, Whole l := by
  by_cases hn : '\n' ∈ cs
  · obtain ⟨l, rest, he, hl⟩ := List.eq_append_cons_of_mem hn
    have hshorter : rest.length < cs.length := by
      rw [he, List.length_append, List.length_cons]
      omega
    have hend := h.lineFeed l rest he
    have hmark : mark cs = mark l ++ ('\n', .code) :: mark rest := by
      rw [he, mark_append_lineFeed (by simp [hend])]
    have hfront := h.before hmark (by rw [mark_map_fst]; rfl)
    have hback := h.behind hmark
    obtain ⟨-, -, hmode⟩ := markFrom_cut hmark
    rw [mark_map_fst] at hfront hback hmode
    rw [he, pieces_append_lineFeed hl]
    exact List.forall_mem_cons.2 ⟨hfront.whole hend hl,
      Tidy.whole_of_mem_pieces hback (hmode.trans hcode)⟩
  · have hone : ∀ c ∈ cs, (c == '\n') = false := fun c hc =>
      beq_eq_false_iff_ne.2 fun e => hn (e ▸ hc)
    rw [pieces_eq_singleton hone]
    exact List.forall_mem_singleton.2 (h.whole hcode hn)
termination_by cs.length

theorem Tidy.whole_oneLine (h : Tidy .code cs) (hcode : modeAfter .code cs = .code) :
    Whole (oneLine cs) := by
  obtain ⟨htidy, -, hmode, -⟩ :=
    h.relaid Mode.proper_code (h.relaid_oneLine Mode.proper_code)
  refine htidy.whole (hmode.trans hcode) fun hn => ?_
  obtain ⟨c, -, hc⟩ := List.mem_map.1 hn
  rw [unbroken] at hc
  split at hc
  · cases hc
  · contradiction

theorem isPrefixOf_eq (w : List Char) (text : List Char) :
    (w ++ [' ']).isPrefixOf text = (dropWord? w text).any (·.head? == some ' ') := by
  induction w generalizing text with
  | nil => cases text <;> simp [dropWord?, List.isPrefixOf, eq_comm]
  | cons c w ih =>
    cases text with
    | nil => rfl
    | cons d text =>
      rw [List.cons_append, List.isPrefixOf, dropWord?, ih]
      by_cases hc : c = d <;> simp [hc]

theorem Respaced.isPassedOver_eq {s t : List Char} (h : Respaced s t) :
    isPassedOver s = isPassedOver t := by
  have haligned := Aligned.of_tightens h.tightens
  rw [mark_map_fst, mark_map_fst] at haligned
  have hword {w : List Char} (hw : ' ' ∉ w) :
      (w ++ [' ']).isPrefixOf s = (w ++ [' ']).isPrefixOf t := by
    rw [isPrefixOf_eq, isPrefixOf_eq]
    obtain ⟨hs, ht⟩ | ⟨u, v, hs, ht, huv⟩ := none_or_some_of_rel (haligned.dropWord? hw)
    · rw [hs, ht]
    · rw [hs, ht, Option.any_some, Option.any_some, huv.head?_eq]
  have hreserved := hword (w := "reserved".toList) (by decide)
  have honeof := hword (w := "oneof".toList) (by decide)
  exact congrArg₂ or hreserved honeof

/-- The statements of a body are those of the body on one line, up to runs of blanks. -/
theorem IsBody.statements_respaced (h : IsBody cs) :
    List.Forall₂ Statement.Respaced (statements (oneLine cs)) (statements cs) := by
  have htidy : Tidy .code (removeInnerBlocks cs) := h.tidy.dropBlocks h.nested
  have hclosed : modeAfter .code (removeInnerBlocks cs) = .code :=
    (scan_dropBlocks h.outside h.nested fun x hx => by
      rcases h.tidy.clean x hx with hl | hl <;> simp [hl]).1.trans h.closed
  have hone : removeInnerBlocks (oneLine cs) = oneLine (removeInnerBlocks cs) := by
    rw [removeInnerBlocks, h.tidy.mark_oneLine, dropBlocks_unbroken]
    rfl
  have hwhole := htidy.whole_oneLine hclosed
  have hlines := lines_respaced hwhole (htidy.whole_of_mem_pieces hclosed)
  have hsingle : pieces (· == '\n') (oneLine (removeInnerBlocks cs)) =
      [oneLine (removeInnerBlocks cs)] :=
    pieces_eq_singleton fun c hc =>
      beq_eq_false_iff_ne.2 fun e => hwhole.lineFeed_not_mem (e ▸ hc)
  rw [statements, statements, hone, hsingle]
  refine List.rel_filter (R := Statement.Respaced) (fun s t hst => ?_) hlines
  obtain ⟨a, b, rfl, rfl, hab⟩ := hst
  simp only [Statement.plain, hab.isPassedOver_eq]

end Formwork.Idl
