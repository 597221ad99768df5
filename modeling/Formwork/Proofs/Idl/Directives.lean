import Formwork.Proofs.Idl.Directiveless
import Formwork.Proofs.Text.Fold

/-!
Directives in comments. A directive begins at an at sign and its name ends where its word ends, so a
comment can be read in two parts wherever the second part begins with no word character. What a
switch is set to ends before the next at sign; the value of a text directive ends where a token
stands behind white space.
-/
namespace Formwork.Idl
open Formwork.Text

variable {names : List String} {α β : Type} {x y z w r : List Char}

/-! ### Searching -/

theorem firstFrom_map (f : List Char → Option α) (k : α → β) (x : List Char) :
    (firstFrom f x).map k = firstFrom (fun y => (f y).map k) x := by
  induction x with
  | nil => rfl
  | cons c x ih =>
    rw [firstFrom, firstFrom, ← ih]
    cases f (c :: x) <;> rfl

theorem firstFrom_congr {f g : List Char → Option α} (h : ∀ y, y <:+ x → f y = g y) :
    firstFrom f x = firstFrom g x := by
  induction x with
  | nil => exact h [] List.suffix_rfl
  | cons c x ih =>
    rw [firstFrom, firstFrom, h _ List.suffix_rfl,
      ih fun y hy => h y (hy.trans (List.suffix_cons c x))]

/-- A search through a text in two parts. -/
theorem firstFrom_append {f g : List Char → Option α} (hg : g [] = none)
    (h : ∀ y, y ≠ [] → y <:+ x → f (y ++ r) = g y) :
    firstFrom f (x ++ r) = (firstFrom g x).or (firstFrom f r) := by
  induction x with
  | nil => rw [List.nil_append, firstFrom, hg, Option.none_or]
  | cons c x ih =>
    rw [List.cons_append, firstFrom, firstFrom, ← List.cons_append,
      h _ (List.cons_ne_nil c x) List.suffix_rfl,
      ih fun y hy hs => h y hy (hs.trans (List.suffix_cons c x))]
    cases g (c :: x) <;> rfl

/-- A search that only stops at an at sign passes over a text without one. -/
theorem firstFrom_append_of_not_mem {f : List Char → Option α}
    (hf : ∀ cs, cs.head? ≠ some '@' → f cs = none) (hx : '@' ∉ x) (r : List Char) :
    firstFrom f (x ++ r) = firstFrom f r := by
  have hskip := firstFrom_append (f := f) (g := fun _ => none) (x := x) (r := r) rfl ?_
  · rw [hskip, firstFrom_eq_none (fun _ _ => rfl) hx, Option.none_or]
  · intro y hy hs
    obtain ⟨c, y, rfl⟩ := List.exists_cons_of_ne_nil hy
    refine hf _ fun hc => hx (hs.subset ?_)
    rw [← Option.some.inj hc]
    exact List.mem_cons_self

/-! ### Names -/

/-- The names are ASCII words. -/
def AsciiNames (names : List String) : Prop := ∀ n ∈ names, ∀ c ∈ n.toList, isAsciiWord c = true

instance (names : List String) : Decidable (AsciiNames names) := by
  unfold AsciiNames
  infer_instance

theorem keyword?_append (hn : AsciiNames names) (hr : r.head?.any isWord = false) (x : List Char) :
    keyword? names (x ++ r) = (keyword? names x).map (· ++ r) := by
  induction names with
  | nil => rfl
  | cons n names ih =>
    obtain ⟨hw, hn⟩ := List.forall_mem_cons.1 hn
    have hrest (t : List Char) : (t ++ r).head?.any isWord = t.head?.any isWord := by
      cases t with
      | nil => exact hr
      | cons c t => rfl
    have hown : ((dropFolded? n.toList x).map (· ++ r)).filter (fun t => !t.head?.any isWord) =
        ((dropFolded? n.toList x).filter fun t => !t.head?.any isWord).map (· ++ r) := by
      cases dropFolded? n.toList x with
      | none => rfl
      | some t =>
        rw [Option.map_some, Option.filter_some, Option.filter_some, hrest]
        split <;> rfl
    have ih := ih hn
    rw [keyword?] at ih ⊢
    rw [keyword?, List.findSome?_cons, List.findSome?_cons, ih,
      dropFolded?_append_of_not_word hw hr, hown]
    cases (dropFolded? n.toList x).filter fun t => !t.head?.any isWord <;> rfl

theorem directive?_of_head?_ne (h : x.head? ≠ some '@') : directive? names x = none := by
  rw [directive?.eq_def]
  split
  · exact (h rfl).elim
  · rfl

theorem directive?_append (hn : AsciiNames names) (hr : r.head?.any isWord = false) (hx : x ≠ []) :
    directive? names (x ++ r) = (directive? names x).map (· ++ r) := by
  obtain ⟨c, x, rfl⟩ := List.exists_cons_of_ne_nil hx
  by_cases hc : c = '@'
  · subst hc
    exact keyword?_append hn hr x
  · have hne (t : List Char) : (c :: t).head? ≠ some '@' := fun h => hc (Option.some.inj h)
    rw [directive?_of_head?_ne (hne x), List.cons_append, directive?_of_head?_ne (hne _)]
    rfl

/-- A directive in the first part of a comment takes what it says from both parts. -/
theorem firstFrom_directive?_append (hn : AsciiNames names) (hr : r.head?.any isWord = false)
    (k : List Char → Option α) (x : List Char) :
    firstFrom (fun y => (directive? names y).bind k) (x ++ r) =
      (firstFrom (fun y => (directive? names y).bind fun z => k (z ++ r)) x).or
        (firstFrom (fun y => (directive? names y).bind k) r) := by
  refine firstFrom_append rfl fun y hy _ => ?_
  rw [directive?_append hn hr hy, Option.bind_map]
  rfl

/-- A text that begins like a directive. -/
def OpensDirective (r : List Char) : Prop := ∃ c t, r = '@' :: c :: t ∧ beginsName c = true

theorem OpensDirective.directiveAhead_append {b : List Char} (hr : OpensDirective r) (hne : b ≠ [])
    (hb : ∀ c ∈ b, isBlank c = true) : directiveAhead (b ++ r) = true := by
  obtain ⟨c, t, rfl, hc⟩ := hr
  obtain ⟨d, b, rfl⟩ := List.exists_cons_of_ne_nil hne
  have hstrip : stripLeft (d :: b ++ '@' :: c :: t) = '@' :: c :: t :=
    (stripLeft_append hb _).trans (stripLeft_cons (by decide) _)
  rw [directiveAhead, hstrip, Bool.and_eq_true]
  exact ⟨hb d List.mem_cons_self, hc⟩

/-! ### Switches -/

theorem switchDirective?_eq (names : List String) (x : List Char) :
    switchDirective? names x =
      firstFrom (fun y => (directive? names y).bind fun z => some (switchSetting z)) x := by
  rw [switchDirective?, firstFrom_map]
  simp only [Option.map_eq_bind]
  rfl

/-- The text behind a leading separator, if there is one. -/
def dropSeparator : List Char → List Char
  | [] => []
  | c :: cs => if isSeparator c then cs else c :: cs

/-- The text behind white space, a separator and white space. -/
def afterMark (cs : List Char) : List Char := stripLeft (dropSeparator (stripLeft cs))

/-- What a keyword at the front of a text sets a switch to. -/
def wordSetting (cs : List Char) : Bool :=
  match keyword? switchWords cs with
  | none => true
  | some rest =>
    ["true", "1", "yes"].contains (String.ofList (lower (cs.take (cs.length - rest.length))))

theorem switchSetting_eq (cs : List Char) : switchSetting cs = wordSetting (afterMark cs) := by
  rw [switchSetting, afterMark]
  cases stripLeft cs <;> rfl

theorem asciiNames_switchWords : AsciiNames switchWords := by decide

theorem wordSetting_append (hr : r.head?.any isWord = false) (x : List Char) :
    wordSetting (x ++ r) = wordSetting x := by
  rw [wordSetting, wordSetting, keyword?_append asciiNames_switchWords hr]
  cases keyword? switchWords x with
  | none => rfl
  | some rest =>
    have hlength : (x ++ r).length - (rest ++ r).length = x.length - rest.length := by
      simp only [List.length_append]
      omega
    simp only [Option.map_some, hlength, List.take_append_of_le_length (Nat.sub_le ..)]

/-- A text that goes on with a visible character is stripped alone. -/
theorem stripLeft_append_of_head {c : Char} (hc : isBlank c = false) (x r : List Char) :
    stripLeft (x ++ c :: r) = stripLeft x ++ c :: r := by
  by_cases h : stripLeft x = []
  · rw [stripLeft_append (List.dropWhile_eq_nil_iff.1 h), h, stripLeft_cons hc, List.nil_append]
  · exact stripLeft_append_of_ne_nil h _

theorem head?_at (r : List Char) : ('@' :: r).head?.any isWord = false := by
  rw [List.head?_cons, Option.any_some]
  decide

theorem afterMark_append_of_head {c : Char} (hc : isBlank c = false) (hs : isSeparator c = false)
    (x r : List Char) : afterMark (x ++ c :: r) = afterMark x ++ c :: r := by
  have hdrop (t : List Char) : dropSeparator (t ++ c :: r) = dropSeparator t ++ c :: r := by
    cases t with
    | nil => exact if_neg (by simp [hs])
    | cons d t =>
      rw [List.cons_append, dropSeparator, dropSeparator]
      split <;> rfl
  rw [afterMark, afterMark, stripLeft_append_of_head hc, hdrop, stripLeft_append_of_head hc]

theorem afterMark_append_at (x r : List Char) :
    afterMark (x ++ '@' :: r) = afterMark x ++ '@' :: r :=
  afterMark_append_of_head (by decide) (by decide) x r

/-- What a switch is set to ends before the next at sign. -/
theorem switchSetting_append_at (x r : List Char) :
    switchSetting (x ++ '@' :: r) = switchSetting x := by
  rw [switchSetting_eq, switchSetting_eq, afterMark_append_at]
  exact wordSetting_append (head?_at r) (afterMark x)

/-- Switches are read between at signs. -/
theorem switchDirective?_append_at (hn : AsciiNames names) (x r : List Char) :
    switchDirective? names (x ++ '@' :: r) =
      (switchDirective? names x).or (switchDirective? names ('@' :: r)) := by
  simp only [switchDirective?_eq, firstFrom_directive?_append hn (head?_at r),
    switchSetting_append_at]

/-- A comment with one at sign, in front, has one switch or none. -/
theorem switchDirective?_at (names : List String) (hx : '@' ∉ x) :
    switchDirective? names ('@' :: x) = (keyword? names x).map switchSetting := by
  rw [switchDirective?_eq, firstFrom, ← switchDirective?_eq, switchDirective?_eq_none names hx]
  cases h : directive? names ('@' :: x) with
  | none =>
    have hk : keyword? names x = none := h
    rw [hk]
    rfl
  | some z =>
    have hk : keyword? names x = some z := h
    rw [hk]
    rfl

/-! ### Values -/

/-- The value of a directive, read behind its name. -/
def value? (cs : List Char) : Option (List Char) := (valueStarts cs).findSome? shortestValue?

theorem textDirective?_eq (names : List String) (x : List Char) :
    textDirective? names x =
      (firstFrom (fun cs => (directive? names cs).bind value?) x).map strip := rfl

theorem exists_afterBlanks (cs : List Char) : ∃ more, afterBlanks cs = stripLeft cs :: more := by
  induction cs with
  | nil => exact ⟨[], rfl⟩
  | cons c cs ih =>
    obtain ⟨more, hmore⟩ := ih
    by_cases hc : isBlank c = true
    · have hstrip : stripLeft (c :: cs) = stripLeft cs := List.dropWhile_cons_of_pos hc
      exact ⟨more ++ [c :: cs], by rw [afterBlanks, if_pos hc, hmore, hstrip, List.cons_append]⟩
    · exact ⟨[], by rw [afterBlanks, if_neg hc, stripLeft, List.dropWhile_cons_of_neg hc]⟩

/-- A value begins behind the mark where it can. -/
theorem exists_valueStarts (cs : List Char) : ∃ more, valueStarts cs = afterMark cs :: more := by
  have hseparator (ds : List Char) : ∃ more, afterSeparator ds = dropSeparator ds :: more := by
    cases ds with
    | nil => exact ⟨[], rfl⟩
    | cons d ds =>
      rw [afterSeparator, dropSeparator]
      split
      · exact ⟨_, rfl⟩
      · exact ⟨[], rfl⟩
  obtain ⟨more, hmore⟩ := exists_afterBlanks cs
  obtain ⟨more', hmore'⟩ := hseparator (stripLeft cs)
  obtain ⟨more'', hmore''⟩ := exists_afterBlanks (dropSeparator (stripLeft cs))
  rw [valueStarts, hmore, List.flatMap_cons, hmore', List.cons_append, List.flatMap_cons, hmore'']
  exact ⟨_, rfl⟩

theorem value?_of_afterMark {cs v : List Char} (h : shortestValue? (afterMark cs) = some v) :
    value? cs = some v := by
  obtain ⟨more, hmore⟩ := exists_valueStarts cs
  rw [value?, hmore, List.findSome?_cons, h]

/-- A value runs on to a place where it may end, if it may end nowhere before. -/
theorem shortestValue?_append (hx : x ≠ []) (hline : '\n' ∉ x) (hr : valueEnds r = true)
    (hinside : ∀ y, y ≠ [] → y <:+ x → y ≠ x → valueEnds (y ++ r) = false) :
    shortestValue? (x ++ r) = some x := by
  induction x with
  | nil => exact (hx rfl).elim
  | cons c x ih =>
    have hc : c ≠ '\n' := fun h => hline (h ▸ List.mem_cons_self)
    rw [List.cons_append, shortestValue?, if_neg hc]
    cases x with
    | nil => rw [List.nil_append, if_pos hr]
    | cons d x =>
      have hsuffix := List.suffix_cons c (d :: x)
      rw [hinside _ (List.cons_ne_nil d x) hsuffix (by simp), if_neg Bool.false_ne_true,
        ih (List.cons_ne_nil d x) fun h => hline (List.mem_cons_of_mem c h)]
      · rfl
      · intro y hy hs hne
        refine hinside y hy (hs.trans hsuffix) fun he => ?_
        have hlength := hs.length_le
        simp only [he, List.length_cons] at hlength
        omega

/-! ### Values before a directive -/

/-- White space, or nothing, stands at the end. -/
def EndsBlank (u : List Char) : Prop := ∀ c ∈ u.getLast?, isBlank c = true

instance (u : List Char) : Decidable (EndsBlank u) := by
  unfold EndsBlank
  infer_instance

theorem EndsBlank.of_suffix (hx : EndsBlank x) (hy : y <:+ x) : EndsBlank y := by
  intro c hc
  obtain ⟨t, rfl⟩ := hy
  exact hx c (by rw [List.getLast?_append, hc]; rfl)

/-- A text that ends in white space, and is not all white space, has an end of white space. -/
theorem EndsBlank.exists_blank_suffix (hx : EndsBlank x) (hne : stripLeft x ≠ []) :
    ∃ b, b ≠ [] ∧ (∀ c ∈ b, isBlank c = true) ∧ b <:+ x ∧ b ≠ x := by
  induction x with
  | nil => exact (hne rfl).elim
  | cons c x ih =>
    have hsuffix := List.suffix_cons c x
    by_cases hblank : stripLeft x = []
    · refine ⟨x, ?_, List.dropWhile_eq_nil_iff.1 hblank, hsuffix, by simp⟩
      rintro rfl
      exact hne (List.dropWhile_cons_of_pos (hx c rfl))
    · obtain ⟨b, hb, hall, hs, -⟩ := ih (hx.of_suffix hsuffix) hblank
      refine ⟨b, hb, hall, hs.trans hsuffix, fun he => ?_⟩
      have hle := hs.length_le
      rw [he, List.length_cons] at hle
      omega

/-- Whether a value ends before white space does not depend on the directive behind it. -/
theorem EndsBlank.valueEnds_append (hx : EndsBlank x) {r r' : List Char} (hr : OpensDirective r)
    (hr' : OpensDirective r') : valueEnds (x ++ r) = valueEnds (x ++ r') := by
  by_cases hne : x = []
  · have hat {r : List Char} (hr : OpensDirective r) : valueEnds r = false := by
      obtain ⟨c, t, rfl, -⟩ := hr
      rfl
    subst hne
    exact (hat hr).trans (hat hr').symm
  by_cases hstrip : stripLeft x = []
  · have hb := List.dropWhile_eq_nil_iff.1 hstrip
    rw [valueEnds, valueEnds, hr.directiveAhead_append hne hb, hr'.directiveAhead_append hne hb,
      Bool.or_true, Bool.or_true]
  · -- What stands behind the white space has two characters at least, a visible one and a last one.
    obtain ⟨d, t, ht⟩ := List.exists_cons_of_ne_nil hstrip
    have hd : isBlank d = false := by
      have hhead := List.head?_dropWhile_not isBlank x
      rw [← stripLeft, ht] at hhead
      simpa using hhead
    have hends := hx.of_suffix (List.dropWhile_suffix isBlank)
    rw [← stripLeft, ht] at hends
    obtain ⟨e, t, rfl⟩ : ∃ e t', t = e :: t' := List.exists_cons_of_ne_nil fun h => by
      rw [h] at hends
      exact absurd (hends d rfl) (by simp [hd])
    have hahead (r : List Char) : directiveAhead (x ++ r) = directiveAhead x := by
      obtain ⟨f, u, rfl⟩ := List.exists_cons_of_ne_nil hne
      rw [directiveAhead, directiveAhead, stripLeft_append_of_ne_nil hstrip, ht]
      by_cases hat : d = '@'
      · subst hat
        rfl
      · simp [hat]
    have hvalue {r : List Char} (hr : OpensDirective r) :
        valueEnds (x ++ r) = directiveAhead x := by
      rw [valueEnds, hahead]
      obtain ⟨c, s, rfl, -⟩ := hr
      obtain ⟨f, u, rfl⟩ := List.exists_cons_of_ne_nil hne
      simp
    rw [hvalue hr, hvalue hr']

/-- A value is read as before, if it may end in the same places and at one of them at least. -/
theorem shortestValue?_congr {r r' : List Char}
    (h : ∀ y, y <:+ x → valueEnds (y ++ r) = valueEnds (y ++ r'))
    (hstop : ∃ y, y <:+ x ∧ y ≠ x ∧ valueEnds (y ++ r) = true) :
    shortestValue? (x ++ r) = shortestValue? (x ++ r') := by
  induction x with
  | nil =>
    obtain ⟨y, hy, hne, -⟩ := hstop
    exact (hne (List.suffix_nil.1 hy)).elim
  | cons c x ih =>
    rw [List.cons_append, List.cons_append, shortestValue?, shortestValue?,
      ← h x (List.suffix_cons c x)]
    split
    · rfl
    split
    · rfl
    next hends =>
      obtain ⟨y, hy, hne, hstops⟩ := hstop
      have hyx : y <:+ x := (List.suffix_cons_iff.1 hy).resolve_left hne
      rw [ih (fun t ht => h t (ht.trans (List.suffix_cons c x)))
        ⟨y, hyx, fun he => hends (he ▸ hstops), hstops⟩]

/-! ### The places where a value may begin -/

theorem afterBlanks_append (hx : stripLeft x ≠ []) (r : List Char) :
    afterBlanks (x ++ r) = (afterBlanks x).map (· ++ r) := by
  induction x with
  | nil => exact (hx rfl).elim
  | cons c x ih =>
    rw [List.cons_append, afterBlanks, afterBlanks]
    split
    · next hc =>
      have hstrip : stripLeft (c :: x) = stripLeft x := List.dropWhile_cons_of_pos hc
      rw [ih (hstrip ▸ hx), List.map_append]
      rfl
    · rfl

theorem mem_afterBlanks (hy : y ∈ afterBlanks x) : y <:+ x ∧ stripLeft y = stripLeft x := by
  induction x with
  | nil =>
    rw [List.mem_singleton.1 hy]
    exact ⟨List.suffix_rfl, rfl⟩
  | cons c x ih =>
    rw [afterBlanks] at hy
    split at hy
    · next hc =>
      have hstrip : stripLeft (c :: x) = stripLeft x := List.dropWhile_cons_of_pos hc
      rcases List.mem_append.1 hy with hy | hy
      · obtain ⟨hs, he⟩ := ih hy
        exact ⟨hs.trans (List.suffix_cons c x), he.trans hstrip.symm⟩
      · rw [List.mem_singleton.1 hy]
        exact ⟨List.suffix_rfl, rfl⟩
    · rw [List.mem_singleton.1 hy]
      exact ⟨List.suffix_rfl, rfl⟩

theorem afterSeparator_append (hx : x ≠ []) (r : List Char) :
    afterSeparator (x ++ r) = (afterSeparator x).map (· ++ r) := by
  obtain ⟨c, x, rfl⟩ := List.exists_cons_of_ne_nil hx
  rw [List.cons_append, afterSeparator, afterSeparator]
  split <;> rfl

theorem mem_afterSeparator (hmark : afterMark x ≠ []) (hy : y ∈ afterSeparator x) :
    y <:+ x ∧ stripLeft y ≠ [] := by
  cases x with
  | nil => exact (hmark rfl).elim
  | cons c x =>
    have hsame : stripLeft (c :: x) ≠ [] := fun h => hmark (by rw [afterMark, h]; rfl)
    rw [afterSeparator] at hy
    split at hy
    · next hc =>
      have hblank : isBlank c = false := by
        rcases Bool.or_eq_true_iff.1 hc with hc | hc
        · rw [beq_iff_eq.1 hc]
          decide
        · rw [beq_iff_eq.1 hc]
          decide
      rw [afterMark, stripLeft_cons hblank, dropSeparator, if_pos hc] at hmark
      simp only [List.mem_cons, List.not_mem_nil, or_false] at hy
      rcases hy with rfl | rfl
      · exact ⟨List.suffix_cons c y, hmark⟩
      · exact ⟨List.suffix_rfl, hsame⟩
    · rw [List.mem_singleton.1 hy]
      exact ⟨List.suffix_rfl, hsame⟩

/-- A value begins in a part of the text that is not all white space. -/
theorem mem_valueStarts (hmark : afterMark x ≠ []) (hy : y ∈ valueStarts x) :
    y <:+ x ∧ stripLeft y ≠ [] := by
  obtain ⟨t, ht, hy⟩ := List.mem_flatMap.1 hy
  obtain ⟨s, hs, ht⟩ := List.mem_flatMap.1 ht
  obtain ⟨hsx, hstrip⟩ := mem_afterBlanks hs
  obtain ⟨hts, hne⟩ := mem_afterSeparator (by rwa [afterMark, hstrip]) ht
  obtain ⟨hyt, he⟩ := mem_afterBlanks hy
  exact ⟨hyt.trans (hts.trans hsx), by rwa [he]⟩

theorem flatMap_append {f : List Char → List (List Char)} {xs : List (List Char)}
    (h : ∀ x ∈ xs, f (x ++ r) = (f x).map (· ++ r)) :
    (xs.map (· ++ r)).flatMap f = (xs.flatMap f).map (· ++ r) := by
  induction xs with
  | nil => rfl
  | cons x xs ih =>
    obtain ⟨hx, hxs⟩ := List.forall_mem_cons.1 h
    rw [List.map_cons, List.flatMap_cons, List.flatMap_cons, hx, ih hxs, List.map_append]

theorem valueStarts_append (hmark : afterMark x ≠ []) (r : List Char) :
    valueStarts (x ++ r) = (valueStarts x).map (· ++ r) := by
  have hstrip : stripLeft x ≠ [] := fun h => hmark (by rw [afterMark, h]; rfl)
  rw [valueStarts, valueStarts, afterBlanks_append hstrip, flatMap_append, flatMap_append]
  · intro s hs
    obtain ⟨t, ht, hs⟩ := List.mem_flatMap.1 hs
    obtain ⟨-, hsame⟩ := mem_afterBlanks ht
    exact afterBlanks_append (mem_afterSeparator (by rwa [afterMark, hsame]) hs).2 r
  · intro t ht
    refine afterSeparator_append (fun h => hstrip ?_) r
    rw [← (mem_afterBlanks ht).2, h]
    rfl

theorem findSome?_congr {f g : α → Option β} {xs : List α} (h : ∀ x ∈ xs, f x = g x) :
    xs.findSome? f = xs.findSome? g := by
  induction xs with
  | nil => rfl
  | cons x xs ih =>
    obtain ⟨hx, hxs⟩ := List.forall_mem_cons.1 h
    rw [List.findSome?_cons, List.findSome?_cons, hx, ih hxs]

/-- A value that begins before a directive does not depend on the directive. -/
theorem EndsBlank.value?_append (hx : EndsBlank x) (hmark : afterMark x ≠ []) {r r' : List Char}
    (hr : OpensDirective r) (hr' : OpensDirective r') : value? (x ++ r) = value? (x ++ r') := by
  rw [value?, value?, valueStarts_append hmark, valueStarts_append hmark, List.findSome?_map,
    List.findSome?_map]
  refine findSome?_congr fun y hy => ?_
  obtain ⟨hs, hne⟩ := mem_valueStarts hmark hy
  have hends := hx.of_suffix hs
  obtain ⟨b, hb, hblank, hbs, hbne⟩ := hends.exists_blank_suffix hne
  refine shortestValue?_congr (fun t ht => (hends.of_suffix ht).valueEnds_append hr hr')
    ⟨b, hbs, hbne, ?_⟩
  rw [valueEnds, hr.directiveAhead_append hb hblank, Bool.or_true]

end Formwork.Idl
