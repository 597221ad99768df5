import Formwork.Proofs.Idl.Directives
import Formwork.Proofs.Idl.Judged

/-!
Patterns in comments. A pattern runs up to the next token behind white space, but directives are
searched for everywhere, also inside the pattern. So what a comment says besides its pattern is
independent of the pattern exactly where no other directive begins inside it, and where no label
before it is still without a text: such a label takes the pattern directive as its text.
-/
namespace Formwork.Idl
open Formwork.Text Formwork.Pattern

variable {u v p q x y z : List Char} {names : List String}

/-- The comment that sets a pattern between two texts. -/
def patternComment (u p v : List Char) : List Char :=
  u ++ ("@pattern".toList ++ ' ' :: (p ++ v))

/-- What a comment says besides its pattern. -/
def unpatterned (comment : List Char) : FieldMeta := commentJudged (fun _ => none) comment

/-- White space, or nothing, stands at the front. -/
def BeginsBlank (v : List Char) : Prop := ∀ c ∈ v.head?, isBlank c = true

instance (v : List Char) : Decidable (BeginsBlank v) := by
  unfold BeginsBlank
  infer_instance

/-- A text without white space that is no directive. -/
structure IsToken (p : List Char) : Prop where
  ne_nil : p ≠ []
  visible : ∀ c ∈ p, isBlank c = false
  front : p.head? ≠ some '@'

/-- The names of the directives of a field that set no pattern. -/
def settingNames : List (List String) :=
  [["label"], ["required", "require"], ["list_visible", "list", "table"],
    ["unique_key", "unique", "uk"]]

/-- No directive but one for a pattern begins in the text. -/
def Unmarked (p : List Char) : Prop := ∀ names ∈ settingNames, firstFrom (directive? names) p = none

instance (p : List Char) : Decidable (Unmarked p) := by
  unfold Unmarked
  infer_instance

/-- The label that a text sets when a directive follows it, `none` for the one that it leaves to what
follows. -/
def labelBefore? (u : List Char) : Option (Option (List Char)) :=
  firstFrom (fun y => (directive? ["label"] y).bind fun z =>
    if afterMark z = [] then some none else (value? (z ++ ['@', 'a'])).map some) u

/-- The text ends in a label directive that takes what follows as its value. -/
def LeavesLabel (u : List Char) : Prop := labelBefore? u = some none

instance (u : List Char) : Decidable (LeavesLabel u) := by
  unfold LeavesLabel
  infer_instance

/-! ### Searching -/

theorem asciiNames_settingNames : ∀ names ∈ settingNames, AsciiNames names := by decide

theorem firstFrom_bind_eq_none {α β : Type} {f : List Char → Option α} (h : firstFrom f x = none)
    (k : α → Option β) : firstFrom (fun y => (f y).bind k) x = none := by
  induction x with
  | nil =>
    have hf : f [] = none := h
    rw [firstFrom, hf]
    rfl
  | cons c x ih =>
    rw [firstFrom, Option.orElse_eq_or, Option.or_eq_none_iff] at h
    rw [firstFrom, h.1, ih h.2]
    rfl

/-- A directive that sets no pattern is found before the pattern, in it or behind it. -/
theorem firstFrom_patternComment {α : Type} (hnames : names ∈ settingNames) (hv : BeginsBlank v)
    (k : List Char → Option α) (u p : List Char) :
    firstFrom (fun y => (directive? names y).bind k) (patternComment u p v) =
      (firstFrom (fun y => (directive? names y).bind fun z => k (z ++ patternComment [] p v)) u).or
        ((firstFrom (fun y => (directive? names y).bind fun z => k (z ++ v)) p).or
          (firstFrom (fun y => (directive? names y).bind k) v)) := by
  have hascii := asciiNames_settingNames names hnames
  have hmark : ∀ names ∈ settingNames, firstFrom (directive? names) "@pattern".toList = none := by
    decide
  have hword : v.head?.any isWord = false := by
    cases v with
    | nil => rfl
    | cons c v => exact isWord_of_isBlank (hv c rfl)
  have hblank : (' ' :: (p ++ v)).head?.any isWord = false := isWord_of_isBlank (by decide)
  have hspace : firstFrom (fun y => (directive? names y).bind k) (' ' :: (p ++ v)) =
      firstFrom (fun y => (directive? names y).bind k) (p ++ v) := rfl
  have hpattern : firstFrom (fun y => (directive? names y).bind k) (patternComment [] p v) =
      (firstFrom (fun y => (directive? names y).bind fun z => k (z ++ v)) p).or
        (firstFrom (fun y => (directive? names y).bind k) v) := by
    rw [patternComment, List.nil_append, firstFrom_directive?_append hascii hblank,
      firstFrom_bind_eq_none (hmark names hnames), Option.none_or, hspace,
      firstFrom_directive?_append hascii hword]
  rw [← hpattern]
  exact firstFrom_directive?_append hascii (head?_at _) k u

theorem firstFrom_patternComment_of_unmarked {α : Type} (hnames : names ∈ settingNames)
    (hv : BeginsBlank v) (hp : Unmarked p) (k : List Char → Option α) (u : List Char) :
    firstFrom (fun y => (directive? names y).bind k) (patternComment u p v) =
      (firstFrom (fun y => (directive? names y).bind fun z => k (z ++ patternComment [] p v)) u).or
        (firstFrom (fun y => (directive? names y).bind k) v) := by
  rw [firstFrom_patternComment hnames hv, firstFrom_bind_eq_none (hp names hnames), Option.none_or]

/-! ### The text before the pattern -/

theorem directive?_suffix (h : directive? names x = some y) : y <:+ x := by
  rw [directive?.eq_def] at h
  split at h
  · next c x =>
    obtain ⟨n, -, hn⟩ := List.exists_of_findSome?_eq_some h
    exact (dropFolded?_suffix (Option.filter_eq_some_iff.1 hn).1).trans (List.suffix_cons '@' x)
  · cases h

/-- A search is one for results that may be missing, up to the first that is. -/
theorem firstFrom_eq_join {α : Type} {f : List Char → Option α} {g : List Char → Option (Option α)}
    (h : ∀ y, y <:+ x → g y ≠ some none → f y = (g y).join) (hx : firstFrom g x ≠ some none) :
    firstFrom f x = (firstFrom g x).join := by
  induction x with
  | nil => exact h [] List.suffix_rfl hx
  | cons c x ih =>
    have hsuffix := List.suffix_cons c x
    have hhere := h _ List.suffix_rfl
    have ih := ih fun y hy => h y (hy.trans hsuffix)
    rw [firstFrom] at hx
    rw [firstFrom, firstFrom]
    cases hg : g (c :: x) with
    | none =>
      rw [hg] at hx hhere
      rw [hhere (by simp)]
      exact ih hx
    | some found =>
      rw [hg] at hx hhere
      cases found with
      | none => exact (hx rfl).elim
      | some a =>
        rw [hhere (by simp)]
        rfl

/-- A label whose text begins before the pattern ends before it. -/
theorem value?_patternComment (hu : EndsBlank u) (hy : y <:+ u) (hz : directive? names y = some z)
    (hmark : afterMark z ≠ []) (p v : List Char) :
    value? (z ++ patternComment [] p v) = value? (z ++ ['@', 'a']) := by
  have hends := hu.of_suffix ((directive?_suffix hz).trans hy)
  exact hends.value?_append hmark ⟨'p', _, rfl, by decide⟩ ⟨'a', [], rfl, by decide⟩

/-- A text that leaves no label sets the label, if it does, whatever pattern stands behind it. -/
theorem firstFrom_label_of_not_leavesLabel (hu : EndsBlank u) (hleaves : ¬LeavesLabel u)
    (p v : List Char) :
    firstFrom (fun y => (directive? ["label"] y).bind fun z => value? (z ++ patternComment [] p v))
      u = (labelBefore? u).join := by
  refine firstFrom_eq_join (fun y hy hne => ?_) hleaves
  cases hz : directive? ["label"] y with
  | none => rfl
  | some z =>
    rw [hz, Option.bind_some] at hne
    have hmark : afterMark z ≠ [] := fun h => hne (if_pos h)
    rw [Option.bind_some, Option.bind_some, if_neg hmark, value?_patternComment hu hy hz hmark]
    cases value? (z ++ ['@', 'a']) <;> rfl

/-! ### Patterns that set nothing else -/

theorem switchDirective?_patternComment (hnames : names ∈ settingNames) (hv : BeginsBlank v)
    (hp : Unmarked p) (u : List Char) :
    switchDirective? names (patternComment u p v) =
      (switchDirective? names u).or (switchDirective? names v) := by
  simp only [switchDirective?_eq, firstFrom_patternComment_of_unmarked hnames hv hp]
  have hat (z : List Char) : switchSetting (z ++ patternComment [] p v) = switchSetting z :=
    switchSetting_append_at z _
  simp only [hat]

/-- A pattern in which no other directive begins is not seen in what a comment says besides it. -/
theorem unpatterned_eq_of_unmarked (hu : EndsBlank u) (hv : BeginsBlank v) (hleaves : ¬LeavesLabel u)
    (hp : Unmarked p) (hq : Unmarked q) :
    unpatterned (patternComment u p v) = unpatterned (patternComment u q v) := by
  have hnames : ["label"] ∈ settingNames := by decide
  have hlabel : textDirective? ["label"] (patternComment u p v) =
      textDirective? ["label"] (patternComment u q v) := by
    simp only [textDirective?_eq, firstFrom_patternComment_of_unmarked hnames hv hp,
      firstFrom_patternComment_of_unmarked hnames hv hq, firstFrom_label_of_not_leavesLabel hu hleaves]
  have hswitch {names : List String} (hnames : names ∈ settingNames) :
      switchDirective? names (patternComment u p v) =
        switchDirective? names (patternComment u q v) := by
    rw [switchDirective?_patternComment hnames hv hp, switchDirective?_patternComment hnames hv hq]
  rw [unpatterned, unpatterned, commentJudged, commentJudged, hlabel, hswitch (by decide),
    hswitch (by decide), hswitch (by decide), Option.bind_fun_none, Option.bind_fun_none]

/-! ### Patterns and labels that are seen -/

/-- Behind a text without white space a word is the end of a value. -/
theorem valueEnds_eq_false_of_suffix (hz : ∀ c ∈ z, isBlank c = false) (hy : y ≠ [])
    (hs : y <:+ z ++ [' ', 'a']) : valueEnds y = false := by
  induction z with
  | nil =>
    rcases List.suffix_cons_iff.1 hs with rfl | hs
    · decide
    · rcases List.suffix_cons_iff.1 hs with rfl | hs
      · decide
      · exact (hy (List.suffix_nil.1 hs)).elim
  | cons d z ih =>
    obtain ⟨hd, hz⟩ := List.forall_mem_cons.1 hz
    rcases List.suffix_cons_iff.1 hs with rfl | hs
    · simp [valueEnds, directiveAhead, hd]
    · exact ih hz hs

theorem afterMark_suffix (x : List Char) : afterMark x <:+ x := by
  have hdrop (t : List Char) : dropSeparator t <:+ t := by
    cases t with
    | nil => exact List.suffix_rfl
    | cons c t =>
      rw [dropSeparator]
      split
      · exact List.suffix_cons c t
      · exact List.suffix_rfl
  have hstrip (t : List Char) : stripLeft t <:+ t := List.dropWhile_suffix isBlank
  exact (hstrip _).trans ((hdrop _).trans (hstrip x))

/-- A directive without white space takes the word behind it as the end of its value. -/
theorem value?_append_word (hz : ∀ c ∈ z, isBlank c = false) :
    value? (z ++ [' ', 'a']) = some (afterMark (z ++ [' ']) ++ ['a']) := by
  have hmark : afterMark (z ++ [' ', 'a']) = afterMark (z ++ [' ']) ++ ['a'] := by
    rw [← afterMark_append_of_head (by decide) (by decide), List.append_assoc]
    rfl
  have hsuffix := afterMark_suffix (z ++ [' ', 'a'])
  have hline : '\n' ∉ z ++ [' ', 'a'] := by
    intro h
    rcases List.mem_append.1 h with h | h
    · exact absurd (hz _ h) (by decide)
    · exact absurd h (by decide)
  apply value?_of_afterMark
  rw [← hmark]
  have hvalue := shortestValue?_append (x := afterMark (z ++ [' ', 'a'])) (r := []) (by simp [hmark])
    (fun h => hline (hsuffix.subset h)) (by rfl) fun y hy hs _ => by
      rw [List.append_nil]
      exact valueEnds_eq_false_of_suffix hz hy (hs.trans hsuffix)
  rwa [List.append_nil] at hvalue

theorem strip_append_word (t : List Char) : strip (t ++ ['a']) = stripLeft t ++ ['a'] := by
  rw [strip, stripLeft_append_of_head (by decide), stripRight_append (by decide)]

/-- A comment sets a label that ends in a word. -/
theorem isSome_label_commentJudged (judge : Judge) {c t : List Char}
    (h : textDirective? ["label"] c = some (t ++ ['a'])) :
    (commentJudged judge c).label.isSome = true := by
  have hkept : (some (t ++ ['a'])).filter (fun l => !l.isEmpty) = some (t ++ ['a']) := by simp
  have hstarless : starless? (t ++ ['a']) = none := by
    rw [starless?, stripRight_append (by decide), List.reverse_append]
    rfl
  have hunquote (l : List Char) : unquote (l ++ ['a']) = l ++ ['a'] := by
    cases l with
    | nil => rfl
    | cons q l =>
      rw [List.cons_append, unquote, if_neg]
      rw [List.getLast?_concat]
      intro hq
      simp only [Bool.and_eq_true, Bool.or_eq_true, beq_iff_eq, Option.some.injEq] at hq
      obtain ⟨⟨rfl | rfl, -⟩, h⟩ := hq <;> exact absurd h (by decide)
  simp [commentJudged, h, hkept, hstarless, strip_append_word, hunquote, nonEmpty]

section

variable {found : List Char} (hnames : names ∈ settingNames)
  (hfound : firstFrom (directive? names) p = some found)

include hnames hfound

theorem isSome_switchDirective?_patternComment (hv : BeginsBlank v) :
    (switchDirective? names (patternComment [] p v)).isSome = true := by
  have hpattern : firstFrom (fun y => (directive? names y).bind fun z =>
      some (switchSetting (z ++ v))) p = some (switchSetting (found ++ v)) := by
    have hmap := firstFrom_map (directive? names) (fun z => switchSetting (z ++ v)) p
    rw [hfound] at hmap
    simp only [Option.map_eq_bind] at hmap
    exact hmap.symm
  rw [switchDirective?_eq, firstFrom_patternComment hnames hv, hpattern]
  rfl

theorem textDirective?_patternComment_word (hp : IsToken p) :
    ∃ t, textDirective? names (patternComment [] p [' ', 'a']) = some (t ++ ['a']) := by
  have hpattern : firstFrom (fun y => (directive? names y).bind fun z => value? (z ++ [' ', 'a'])) p =
      some (afterMark (found ++ [' ']) ++ ['a']) := by
    rw [firstFrom_congr (g := fun y => (directive? names y).map fun z =>
      afterMark (z ++ [' ']) ++ ['a']), ← firstFrom_map, hfound]
    · rfl
    intro y hy
    cases hz : directive? names y with
    | none => rfl
    | some z =>
      have hs : z <:+ p := (directive?_suffix hz).trans hy
      exact value?_append_word fun c hc => hp.visible c (hs.subset hc)
  refine ⟨stripLeft (afterMark (found ++ [' '])), ?_⟩
  rw [textDirective?_eq, firstFrom_patternComment hnames (by decide), hpattern, ← strip_append_word]
  rfl

end

/-- A pattern in which another directive begins is seen before a word. -/
theorem unpatterned_ne_of_not_unmarked (hp : IsToken p) (hmarked : ¬Unmarked p) :
    unpatterned (patternComment [] p [' ', 'a']) ≠
      unpatterned (patternComment [] ['a'] [' ', 'a']) := by
  have hplain : unpatterned (patternComment [] ['a'] [' ', 'a']) = {} := by decide
  have hv : BeginsBlank [' ', 'a'] := by decide
  obtain ⟨names, hnames, hfound⟩ : ∃ names ∈ settingNames, firstFrom (directive? names) p ≠ none := by
    simpa [Unmarked] using hmarked
  obtain ⟨found, hfound⟩ := Option.ne_none_iff_exists'.1 hfound
  have hlabel := textDirective?_patternComment_word hnames hfound hp
  have hswitch := isSome_switchDirective?_patternComment hnames hfound hv
  rw [hplain]
  intro he
  simp only [settingNames, List.mem_cons, List.not_mem_nil, or_false] at hnames
  rcases hnames with rfl | rfl | rfl | rfl
  · obtain ⟨t, ht⟩ := hlabel
    have hset := isSome_label_commentJudged (fun _ => none) ht
    rw [← unpatterned, he] at hset
    cases hset
  all_goals obtain ⟨b, hb⟩ := Option.isSome_iff_exists.1 hswitch
  · simpa [unpatterned, commentJudged, hb] using congrArg FieldMeta.required he
  · simpa [unpatterned, commentJudged, hb] using congrArg FieldMeta.listVisible he
  · simpa [unpatterned, commentJudged, hb] using congrArg FieldMeta.uniqueKey he

/-- A text that leaves a label gives what follows to it, where that is a value. -/
theorem label_of_leavesLabel (hu : EndsBlank u) (hleaves : LeavesLabel u) 
    (hvalue : shortestValue? (patternComment [] p []) = some (patternComment [] p [])) :
    textDirective? ["label"] (patternComment u p []) = some (strip (patternComment [] p [])) := by
  have hbefore : firstFrom (fun y => (directive? ["label"] y).bind fun z =>
      value? (z ++ patternComment [] p [])) u = some (patternComment [] p []) := by
    rw [firstFrom_congr (g := fun y => ((directive? ["label"] y).bind fun z =>
      if afterMark z = [] then some none else (value? (z ++ ['@', 'a'])).map some).map fun o =>
        o.getD (patternComment [] p [])), ← firstFrom_map, ← labelBefore?, hleaves]
    · rfl
    intro y hy
    cases hz : directive? ["label"] y with
    | none => rfl
    | some z =>
      rw [Option.bind_some, Option.bind_some]
      by_cases hmark : afterMark z = []
      · have hwhole : afterMark (z ++ patternComment [] p []) = patternComment [] p [] := by
          obtain ⟨r, hr⟩ : ∃ r, patternComment [] p [] = '@' :: r := ⟨_, rfl⟩
          rw [hr, afterMark_append_at, hmark, List.nil_append]
        rw [value?_of_afterMark (by rwa [hwhole]), if_pos hmark]
        rfl
      · rw [value?_patternComment hu hy hz hmark, if_neg hmark]
        cases value? (z ++ ['@', 'a']) <;> rfl
  have hnames : ["label"] ∈ settingNames := by decide
  have hv : BeginsBlank [] := by decide
  rw [textDirective?_eq, firstFrom_patternComment hnames hv, hbefore, Option.some_or, Option.map_some]

/-- A text that leaves a label does not set the label itself. -/
theorem unpatterned_ne_of_leavesLabel (hu : EndsBlank u) (hleaves : LeavesLabel u) :
    unpatterned (patternComment u ['a'] []) ≠ unpatterned (patternComment u ['b'] []) := by
  have hvalue : ∀ p ∈ [['a'], ['b']],
      shortestValue? (patternComment [] p []) = some (patternComment [] p []) := by
    decide
  have ha := label_of_leavesLabel hu hleaves (hvalue ['a'] (by simp))
  have hb := label_of_leavesLabel hu hleaves (hvalue ['b'] (by simp))
  intro he
  have hlabel := congrArg FieldMeta.label he
  simp only [unpatterned, commentJudged, ha, hb] at hlabel
  exact absurd hlabel (by decide)

/-! ### Patterns set the pattern only -/

theorem isToken_singleton {c : Char} (hc : isBlank c = false) (hat : c ≠ '@') : IsToken [c] where
  ne_nil := List.cons_ne_nil c []
  visible := by simpa using hc
  front := by simpa using hat

/-- A pattern without an at sign sets nothing else. -/
theorem unmarked_of_not_mem (hp : '@' ∉ p) : Unmarked p := fun names _ =>
  firstFrom_eq_none (directive?_eq_none names) hp

/-- What a comment says is its pattern, and what it says besides that. What it says besides its
pattern is the same for all patterns in which no other directive begins, and for no other pattern;
this holds behind every text that leaves no label, and behind no other text. -/
theorem unpatterned_patternComment (hu : EndsBlank u) (hp : IsToken p) :
    (∀ c, commentMeta c = unlessFault ((commentPattern? c).bind stop?)
      { unpatterned c with pattern := ((commentPattern? c).bind usable?).map String.ofList }) ∧
    (Unmarked p ↔
      ∀ u v q, EndsBlank u → BeginsBlank v → IsToken q → ¬LeavesLabel u → Unmarked q →
        unpatterned (patternComment u p v) = unpatterned (patternComment u q v)) ∧
    (¬LeavesLabel u ↔
      ∀ v p q, BeginsBlank v → IsToken p → IsToken q → Unmarked p → Unmarked q →
        unpatterned (patternComment u p v) = unpatterned (patternComment u q v)) := by
  have ha : IsToken ['a'] := isToken_singleton (by decide) (by decide)
  have hb : IsToken ['b'] := isToken_singleton (by decide) (by decide)
  refine ⟨commentMeta_eq_judged, ⟨?_, ?_⟩, ⟨?_, ?_⟩⟩
  · intro hunmarked u v q hu hv _ hleaves hq
    exact unpatterned_eq_of_unmarked hu hv hleaves hunmarked hq
  · intro h
    by_contra hmarked
    exact unpatterned_ne_of_not_unmarked hp hmarked
      (h [] [' ', 'a'] ['a'] (by decide) (by decide) ha (by decide) (by decide))
  · intro hleaves v p q hv _ _ hp hq
    exact unpatterned_eq_of_unmarked hu hv hleaves hp hq
  · intro h hleaves
    exact unpatterned_ne_of_leavesLabel hu hleaves
      (h [] ['a'] ['b'] (by decide) ha hb (by decide) (by decide))

/-- A text that sets a label and a switch. -/
def mailLabel : String := "@label Mail @list\n"

/-- A pattern for mail addresses. -/
def mailPattern : String := "^[a-z]+@[a-z]+\\.com$"

theorem unpatterned_patternComment_mail :
    EndsBlank mailLabel.toList ∧ ¬LeavesLabel mailLabel.toList ∧ IsToken mailPattern.toList ∧
      Unmarked mailPattern.toList ∧
      ∀ v, BeginsBlank v →
        unpatterned (patternComment mailLabel.toList mailPattern.toList v) =
          unpatterned (patternComment mailLabel.toList ['a'] v) := by
  have htext : EndsBlank mailLabel.toList ∧ ¬LeavesLabel mailLabel.toList := by
    simp only [mailLabel, String.reduceToList]
    decide
  have htoken : IsToken mailPattern.toList := by
    simp only [mailPattern, String.reduceToList]
    exact ⟨by decide, by decide, by decide⟩
  have hunmarked : Unmarked mailPattern.toList := by
    simp only [mailPattern, String.reduceToList]
    decide
  have ha : IsToken ['a'] := isToken_singleton (by decide) (by decide)
  obtain ⟨-, hpattern, -⟩ := unpatterned_patternComment htext.1 htoken
  refine ⟨htext.1, htext.2, htoken, hunmarked, fun v hv => ?_⟩
  exact hpattern.1 hunmarked _ v ['a'] htext.1 hv ha htext.2 (by decide)

/-- A pattern for the mail addresses of one host; a switch begins in the middle of it. -/
def listMail : String := "^[a-z]+@list\\.com$"

theorem not_unpatterned_listMail :
    ¬∀ u v p q m m', EndsBlank u → BeginsBlank v → IsToken p → IsToken q →
      commentMeta (patternComment u p v) = .ok m → commentMeta (patternComment u q v) = .ok m' →
        m.label = m'.label ∧ m.required = m'.required ∧ m.listVisible = m'.listVisible ∧
          m.uniqueKey = m'.uniqueKey := by
  intro h
  have hmail : commentMeta (patternComment [] listMail.toList []) =
      .ok { pattern := some listMail, listVisible := some true } := by
    simp only [listMail, String.reduceToList]
    decide
  have hplain : commentMeta (patternComment [] ['a'] []) = .ok { pattern := some "a" } := by
    decide
  have htoken : IsToken listMail.toList := by
    simp only [listMail, String.reduceToList]
    exact ⟨by decide, by decide, by decide⟩
  obtain ⟨-, -, hlist, -⟩ := h [] [] listMail.toList ['a'] _ _ (by decide) (by decide) htoken
    (isToken_singleton (by decide) (by decide)) hmail hplain
  cases hlist

end Formwork.Idl
