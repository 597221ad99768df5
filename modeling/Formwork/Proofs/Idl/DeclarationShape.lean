import Formwork.Proofs.Idl.FileLines

/-!
The shape of the texts that declare a field or a member of an enumeration. A declaration is
recognized exactly where its text has the shape, with the names that stand there, and the option
list that is found in it is the one that the shape has between its brackets.
-/
namespace Formwork.Idl
open Formwork.Text

variable {o : Option (List Char)} {b cs m n r t rest text : List Char}

/-! ### Shapes -/

/-- The end of a text, or the line feed at its end. -/
def IsEnd (rest : List Char) : Prop := rest = [] ∨ rest = ['\n']

/-- A type name: an ASCII letter or underscore, then word characters and dots. -/
def IsTypeName : List Char → Prop
  | [] => False
  | c :: cs => isNameStart c = true ∧ ∀ d ∈ cs, (isWord d || d == '.') = true

/-- An option list between its brackets, or nothing. -/
def bracketed : Option (List Char) → List Char
  | none => []
  | some options => '[' :: (options ++ [']'])

/-- An equals sign, a number, the option list `o` on one line or none, and a semicolon. -/
inductive Numbered : Option (List Char) → List Char → Prop
  | intro {o : Option (List Char)} {b₁ b₂ ds b₃ b₄ : List Char}
      (hb₁ : ∀ c ∈ b₁, isBlank c = true) (hb₂ : ∀ c ∈ b₂, isBlank c = true)
      (hne : ds ≠ []) (hds : ∀ c ∈ ds, Text.isDigit c = true)
      (hb₃ : ∀ c ∈ b₃, isBlank c = true) (hb₄ : ∀ c ∈ b₄, isBlank c = true)
      (ho : ∀ options ∈ o, '\n' ∉ options) :
      Numbered o (b₁ ++ '=' :: (b₂ ++ (ds ++ (b₃ ++ (bracketed o ++ (b₄ ++ [';']))))))

/-- The type `t`, the name `n`, a number and the option list `o`. -/
inductive TypedName : (t n : List Char) → Option (List Char) → List Char → Prop
  | intro {t n : List Char} {o : Option (List Char)} {b m : List Char} (ht : IsTypeName t)
      (hne : b ≠ []) (hb : ∀ c ∈ b, isBlank c = true) (hn : IsName n) (hm : Numbered o m) :
      TypedName t n o (t ++ (b ++ (n ++ m)))

/-- A declaration of a field; `r` is the word `repeated` with the white space behind it, or
nothing. -/
inductive FieldText : (r t n : List Char) → Option (List Char) → List Char → Prop
  | single {t n text : List Char} {o : Option (List Char)} (h : TypedName t n o text) :
      FieldText [] t n o text
  | repeated {b t n text : List Char} {o : Option (List Char)} (hne : b ≠ [])
      (hb : ∀ c ∈ b, isBlank c = true) (h : TypedName t n o text) :
      FieldText ("repeated".toList ++ b) t n o ("repeated".toList ++ b ++ text)

/-- A declaration of the member `n`. -/
inductive MemberText : (n : List Char) → Option (List Char) → List Char → Prop
  | intro {n : List Char} {o : Option (List Char)} {m : List Char} (hn : IsMemberName n)
      (hm : Numbered o m) : MemberText n o (n ++ m)

/-! ### Characters and runs -/

theorem isDigit_of_isBlank {c : Char} (h : isBlank c = true) : Text.isDigit c = false := by
  have hall : ∀ n ∈ blankCodes, Text.isDigit (Char.ofNat n) = false := by decide +kernel
  rw [← Char.ofNat_toNat c]
  exact hall _ (mem_blankCodes h)

theorem isBlank_of_isDigit {c : Char} (h : Text.isDigit c = true) : isBlank c = false := by
  cases hb : isBlank c with
  | false => rfl
  | true => simp [isDigit_of_isBlank hb] at h

/-- A run of characters of one kind ends where a character of another kind stands. -/
theorem span_append {p : Char → Bool} {u v : List Char} (hu : ∀ c ∈ u, p c = true)
    (hv : ∀ c ∈ v.head?, p c = false) :
    (u ++ v).takeWhile p = u ∧ (u ++ v).dropWhile p = v := by
  rw [List.takeWhile_append_of_pos hu, List.dropWhile_append_of_pos hu]
  cases v with
  | nil => simp
  | cons c v => simp [hv c rfl]

theorem exists_span (p : Char → Bool) (cs : List Char) :
    ∃ u v, (∀ c ∈ u, p c = true) ∧ (∀ c ∈ v.head?, p c = false) ∧ cs = u ++ v := by
  refine ⟨cs.takeWhile p, cs.dropWhile p, fun c hc => List.mem_takeWhile_imp hc, fun c hc => ?_,
    List.takeWhile_append_dropWhile.symm⟩
  have hend := List.head?_dropWhile_not p cs
  rw [Option.mem_def.1 hc] at hend
  simpa using hend

/-- Behind white space stands no digit. -/
theorem not_isDigit_of_head {c : Char} (hb : ∀ d ∈ b, isBlank d = true)
    (hc : Text.isDigit c = false) (t : List Char) :
    ∀ d ∈ (b ++ c :: t).head?, Text.isDigit d = false := by
  intro d hd
  cases b with
  | nil => exact Option.some.inj hd ▸ hc
  | cons e b => exact isDigit_of_isBlank (Option.some.inj hd ▸ hb e List.mem_cons_self)

/-- A character that is neither white space nor `c` is not among white space before `c`. -/
theorem not_mem_of_blank {c : Char} (hc : isBlank c = false) (hb : ∀ d ∈ b, isBlank d = true) :
    c ∉ b := fun h => by simp [hb c h] at hc

theorem IsTypeName.inKey (h : IsTypeName t) : ∀ c ∈ t, isWord c = true ∨ c = '.' := by
  cases t with
  | nil => exact h.elim
  | cons c t =>
    refine List.forall_mem_cons.2 ⟨.inl (isWord_of_isNameStart h.1), fun d hd => ?_⟩
    simpa using h.2 d hd

theorem dropBlanks?_append (hne : b ≠ []) (hb : ∀ c ∈ b, isBlank c = true) (r : List Char) :
    dropBlanks? (b ++ r) = some (stripLeft r) := by
  cases b with
  | nil => exact (hne rfl).elim
  | cons c b =>
    obtain ⟨hc, hb⟩ := List.forall_mem_cons.1 hb
    rw [List.cons_append, dropBlanks?, if_pos hc, stripLeft_append hb]

theorem typeName?_eq_some_iff :
    typeName? cs = some (t, r) ↔ IsTypeName t ∧ EndsKey r ∧ cs = t ++ r := by
  constructor
  · intro h
    cases cs with
    | nil => cases h
    | cons c cs =>
      obtain ⟨u, v, hu, hv, rfl⟩ := exists_span (fun d => isWord d || d == '.') cs
      obtain ⟨htake, hdrop⟩ := span_append hu hv
      rw [typeName?] at h
      split at h
      · next hc =>
        obtain ⟨rfl, rfl⟩ := Prod.mk.inj (Option.some.inj h)
        simp only [htake, hdrop]
        exact ⟨⟨hc, hu⟩, fun d hd => by simpa using hv d hd, rfl⟩
      · cases h
  · rintro ⟨ht, hr, rfl⟩
    cases t with
    | nil => exact ht.elim
    | cons c t =>
      obtain ⟨htake, hdrop⟩ := span_append (p := fun d => isWord d || d == '.') ht.2
        fun d hd => by simpa using hr d hd
      simp only [List.cons_append, typeName?, if_pos ht.1, htake, hdrop]

theorem memberName?_eq_some_iff :
    memberName? cs = some (n, r) ↔ IsMemberName n ∧
      (∀ c ∈ r.head?, (c.isUpper || c.isDigit || c == '_') = false) ∧ cs = n ++ r := by
  constructor
  · intro h
    cases cs with
    | nil => cases h
    | cons c cs =>
      obtain ⟨u, v, hu, hv, rfl⟩ := exists_span (fun d => d.isUpper || d.isDigit || d == '_') cs
      obtain ⟨htake, hdrop⟩ := span_append hu hv
      rw [memberName?] at h
      split at h
      · next hc =>
        obtain ⟨rfl, rfl⟩ := Prod.mk.inj (Option.some.inj h)
        simp only [htake, hdrop]
        exact ⟨⟨hc, hu⟩, hv, rfl⟩
      · cases h
  · rintro ⟨hn, hr, rfl⟩
    cases n with
    | nil => exact hn.elim
    | cons c n =>
      obtain ⟨htake, hdrop⟩ := span_append hn.2 hr
      simp only [List.cons_append, memberName?, if_pos hn.1, htake, hdrop]

/-! ### The end of a declaration -/

theorem isTerminator_iff :
    isTerminator cs = true ↔
      ∃ b rest, (∀ c ∈ b, isBlank c = true) ∧ IsEnd rest ∧ cs = b ++ ';' :: rest := by
  constructor
  · intro h
    obtain ⟨b, hb, hcs⟩ := exists_stripLeft cs
    rw [isTerminator] at h
    split at h
    · next hrest => exact ⟨b, [], hb, .inl rfl, hrest ▸ hcs⟩
    · next hrest => exact ⟨b, ['\n'], hb, .inr rfl, hrest ▸ hcs⟩
    · cases h
  · rintro ⟨b, rest, hb, rfl | rfl, rfl⟩
    · rw [isTerminator, stripLeft_append hb]
      rfl
    · rw [isTerminator, stripLeft_append hb]
      rfl

theorem dropFinalLineFeed_append (hrest : IsEnd rest) (u : List Char) :
    dropFinalLineFeed (u ++ ';' :: rest) = u ++ [';'] := by
  rcases hrest with rfl | rfl
  · rw [dropFinalLineFeed, List.getLast?_concat, if_neg (by decide)]
  · have hcut : u ++ ';' :: ['\n'] = (u ++ [';']) ++ ['\n'] := by simp
    rw [hcut, dropFinalLineFeed, List.getLast?_concat, if_pos rfl, List.dropLast_concat]

theorem exists_dropFinalLineFeed (cs : List Char) :
    ∃ rest, IsEnd rest ∧ cs = dropFinalLineFeed cs ++ rest := by
  by_cases h : cs.getLast? = some '\n'
  · refine ⟨['\n'], .inr rfl, ?_⟩
    rw [dropFinalLineFeed, if_pos h, List.dropLast_append_getLast? '\n' h]
  · exact ⟨[], .inl rfl, by rw [dropFinalLineFeed, if_neg h, List.append_nil]⟩

/-- An option list goes on to the last closing bracket. -/
theorem closesOptions_iff :
    closesOptions ('[' :: cs) = true ↔ ∃ options b rest, '\n' ∉ options ∧
      (∀ c ∈ b, isBlank c = true) ∧ IsEnd rest ∧ cs = options ++ ']' :: (b ++ ';' :: rest) := by
  constructor
  · intro h
    obtain ⟨rest, hrest, hcs⟩ := exists_dropFinalLineFeed ('[' :: cs)
    rw [closesOptions] at h
    split at h
    · next back hback =>
      obtain ⟨b, hb, hsplit⟩ := exists_stripLeft back
      rw [stripLeft] at hsplit
      split at h
      · next content hcontent =>
        simp only [Bool.and_eq_true, Bool.not_eq_true', List.isEmpty_eq_false_iff, List.all_eq_true,
          bne_iff_ne] at h
        have hfront : dropFinalLineFeed ('[' :: cs) =
            content.reverse ++ ']' :: (b.reverse ++ [';']) := by
          rw [← List.reverse_inj, hback, hsplit, hcontent]
          simp
        -- The opening bracket is the last that reading backwards comes to.
        obtain ⟨options, c, hlast⟩ := List.eq_nil_or_concat content |>.resolve_left h.1
        subst hlast
        rw [hfront] at hcs
        simp only [List.concat_eq_append, List.reverse_append, List.reverse_singleton,
          List.cons_append, List.cons.injEq] at hcs
        refine ⟨options.reverse, b.reverse, rest, fun hmem => ?_, fun c hc => ?_, hrest, ?_⟩
        · have hmem := List.mem_reverse.1 hmem
          exact h.2 '\n' (by simp [hmem]) rfl
        · exact hb c (List.mem_reverse.1 hc)
        · simpa using hcs.2
      · cases h
    · cases h
  · rintro ⟨options, b, rest, ho, hb, hrest, rfl⟩
    have hall : ('[' :: options).reverse.all (· != '\n') = true := by
      rw [List.all_eq_true]
      intro c hc
      rw [bne_iff_ne]
      rintro rfl
      simp [ho] at hc
    have hdrop : dropFinalLineFeed ('[' :: (options ++ ']' :: (b ++ ';' :: rest))) =
        '[' :: (options ++ ']' :: (b ++ [';'])) := by
      have h := dropFinalLineFeed_append hrest ('[' :: (options ++ ']' :: b))
      simpa using h
    have hback : ('[' :: (options ++ ']' :: (b ++ [';']))).reverse =
        ';' :: (b.reverse ++ ']' :: ('[' :: options).reverse) := by simp
    have hstrip : (b.reverse ++ ']' :: ('[' :: options).reverse).dropWhile isBlank =
        ']' :: ('[' :: options).reverse := by
      rw [List.dropWhile_append_of_pos fun c hc => hb c (List.mem_reverse.1 hc),
        List.dropWhile_cons_of_neg (by decide)]
    rw [closesOptions, hdrop, hback]
    simp only [hstrip, hall, Bool.and_true]
    simp

/-- What is read of a number and of the text behind it. -/
theorem isNumbering_append {b₁ b₂ ds tail : List Char} (hb₁ : ∀ c ∈ b₁, isBlank c = true)
    (hb₂ : ∀ c ∈ b₂, isBlank c = true) (hne : ds ≠ []) (hds : ∀ c ∈ ds, Text.isDigit c = true)
    (htail : ∀ c ∈ tail.head?, Text.isDigit c = false) :
    isNumbering (b₁ ++ '=' :: (b₂ ++ (ds ++ tail))) =
      if (stripLeft tail).head? = some '[' then closesOptions (stripLeft tail)
      else isTerminator (stripLeft tail) := by
  obtain ⟨d, ds', rfl⟩ := List.exists_cons_of_ne_nil hne
  have hd := hds d List.mem_cons_self
  have hequals : stripLeft (b₁ ++ '=' :: (b₂ ++ (d :: ds' ++ tail))) =
      '=' :: (b₂ ++ (d :: ds' ++ tail)) := by
    rw [stripLeft_append hb₁, stripLeft_cons (by decide)]
  have hdigits : stripLeft (b₂ ++ (d :: ds' ++ tail)) = d :: ds' ++ tail := by
    rw [stripLeft_append hb₂, List.cons_append, stripLeft_cons (isBlank_of_isDigit hd)]
  have hfirst : (d :: ds' ++ tail).head?.any Text.isDigit = true := hd
  rw [isNumbering, hequals]
  simp only [hdigits, hfirst, (span_append hds htail).2, Bool.true_and]
  split
  · next hopen => rw [hopen, if_pos List.head?_cons]
  · next hplain =>
    rw [if_neg]
    intro hopen
    obtain ⟨options, hoptions⟩ := List.head?_eq_some_iff.1 hopen
    exact hplain options hoptions

theorem exists_of_isNumbering (h : isNumbering cs = true) :
    ∃ b₁ b₂ ds tail, (∀ c ∈ b₁, isBlank c = true) ∧ (∀ c ∈ b₂, isBlank c = true) ∧ ds ≠ [] ∧
      (∀ c ∈ ds, Text.isDigit c = true) ∧ (∀ c ∈ tail.head?, Text.isDigit c = false) ∧
      cs = b₁ ++ '=' :: (b₂ ++ (ds ++ tail)) := by
  obtain ⟨b₁, hb₁, hcs⟩ := exists_stripLeft cs
  rw [isNumbering] at h
  split at h
  · next behind hequals =>
    obtain ⟨b₂, hb₂, hbehind⟩ := exists_stripLeft behind
    obtain ⟨ds, tail, hds, htail, hdigits⟩ := exists_span Text.isDigit (stripLeft behind)
    refine ⟨b₁, b₂, ds, tail, hb₁, hb₂, ?_, hds, htail,
      by rw [← hdigits, ← hbehind, ← hequals, ← hcs]⟩
    rintro rfl
    simp only [hdigits, List.nil_append, Bool.and_eq_true] at h
    obtain ⟨c, hc, hdigit⟩ := Option.any_eq_true _ _ |>.1 h.1
    simp [htail c hc] at hdigit
  · cases h

/-- A number is recognized exactly where one stands, with its option list and its semicolon. -/
theorem isNumbering_iff :
    isNumbering cs = true ↔ ∃ o m rest, Numbered o m ∧ IsEnd rest ∧ cs = m ++ rest := by
  constructor
  · intro h
    obtain ⟨b₁, b₂, ds, tail, hb₁, hb₂, hne, hds, htail, rfl⟩ := exists_of_isNumbering h
    obtain ⟨b₃, hb₃, hstrip⟩ := exists_stripLeft tail
    rw [isNumbering_append hb₁ hb₂ hne hds htail] at h
    split at h
    · next hopen =>
      obtain ⟨list, hlist⟩ := List.head?_eq_some_iff.1 hopen
      rw [hlist] at h
      obtain ⟨options, b₄, rest, ho, hb₄, hrest, rfl⟩ := closesOptions_iff.1 h
      refine ⟨some options, _, rest, .intro hb₁ hb₂ hne hds hb₃ hb₄ ?_, hrest, ?_⟩
      · exact fun _ he => Option.some.inj he ▸ ho
      · rw [hstrip, hlist]
        simp [bracketed]
    · obtain ⟨b₄, rest, hb₄, hrest, hend⟩ := isTerminator_iff.1 h
      refine ⟨none, _, rest, .intro hb₁ hb₂ hne hds hb₃ hb₄ nofun, hrest, ?_⟩
      rw [hstrip, hend]
      simp [bracketed]
  · rintro ⟨o, _, rest, @⟨b₁, b₂, ds, b₃, b₄, hb₁, hb₂, hne, hds, hb₃, hb₄, ho⟩, hrest, rfl⟩
    cases o with
    | none =>
      have hb : ∀ c ∈ b₃ ++ b₄, isBlank c = true := List.forall_mem_append.2 ⟨hb₃, hb₄⟩
      have h := isNumbering_append hb₁ hb₂ hne hds (not_isDigit_of_head hb (c := ';') rfl rest)
      have hend : stripLeft (b₃ ++ b₄ ++ ';' :: rest) = ';' :: rest := by
        rw [stripLeft_append hb, stripLeft_cons rfl]
      rw [hend] at h
      have hterminator : isTerminator (';' :: rest) = true :=
        isTerminator_iff.2 ⟨[], rest, nofun, hrest, rfl⟩
      simpa [bracketed, hterminator] using h
    | some options =>
      have h := isNumbering_append hb₁ hb₂ hne hds (not_isDigit_of_head hb₃ (c := '[') rfl
        (options ++ ']' :: (b₄ ++ ';' :: rest)))
      have hopen : stripLeft (b₃ ++ '[' :: (options ++ ']' :: (b₄ ++ ';' :: rest))) =
          '[' :: (options ++ ']' :: (b₄ ++ ';' :: rest)) := by
        rw [stripLeft_append hb₃, stripLeft_cons rfl]
      rw [hopen] at h
      have hcloses : closesOptions ('[' :: (options ++ ']' :: (b₄ ++ ';' :: rest))) = true :=
        closesOptions_iff.2 ⟨options, b₄, rest, ho options rfl, hb₄, hrest, rfl⟩
      simpa [bracketed, hcloses] using h

/-- The text between the first opening and the last closing bracket is the option list. -/
theorem Numbered.optionList_eq (h : Numbered o m) {u : List Char} (hu : '[' ∉ u)
    (hrest : IsEnd rest) : optionList (u ++ (m ++ rest)) = o.getD [] := by
  obtain @⟨b₁, b₂, ds, b₃, b₄, hb₁, hb₂, hne, hds, hb₃, hb₄, ho⟩ := h
  have hsemicolon : ';' ∉ rest := by rcases hrest with rfl | rfl <;> decide
  have hdigits : '[' ∉ ds := fun h => absurd (hds _ h) (by decide)
  have hfront : '[' ∉ u ++ (b₁ ++ '=' :: (b₂ ++ (ds ++ b₃))) := by
    have hblank {b : List Char} (hb : ∀ c ∈ b, isBlank c = true) : '[' ∉ b :=
      not_mem_of_blank rfl hb
    simp [hu, hblank hb₁, hblank hb₂, hdigits, hblank hb₃]
  have hcut : u ++ (b₁ ++ '=' :: (b₂ ++ (ds ++ (b₃ ++ (bracketed o ++ (b₄ ++ [';']))))) ++ rest) =
      u ++ (b₁ ++ '=' :: (b₂ ++ (ds ++ b₃))) ++ (bracketed o ++ b₄) ++ ';' :: rest := by simp
  rw [optionList, hcut, beforeLast?_append hsemicolon, Option.getD_some]
  cases o with
  | none =>
    rw [afterFirst?_eq_none]
    · rfl
    · exact List.not_mem_append hfront (not_mem_of_blank rfl hb₄)
  | some options =>
    have hlist : bracketed (some options) ++ b₄ = '[' :: (options ++ ']' :: b₄) := by
      simp [bracketed]
    rw [hlist, afterFirst?_append hfront, Option.bind_some,
      beforeLast?_append (not_mem_of_blank rfl hb₄), Option.getD_some]

/-! ### Recognized declarations -/

theorem endsKey_of_blank (hne : b ≠ []) (hb : ∀ c ∈ b, isBlank c = true) (t : List Char) :
    EndsKey (b ++ t) := by
  obtain ⟨c, b, rfl⟩ := List.exists_cons_of_ne_nil hne
  have hc := hb c List.mem_cons_self
  refine endsKey_gap (b := []) nofun ⟨isWord_of_isBlank hc, ?_⟩ (b ++ t)
  rintro rfl
  exact absurd hc (by decide)

theorem Numbered.endsKey (h : Numbered o m) (rest : List Char) : EndsKey (m ++ rest) := by
  obtain @⟨b₁, _, _, _, _, hb₁, -, -, -, -, -, -⟩ := h
  rw [List.append_assoc, List.cons_append]
  exact endsKey_gap hb₁ (by decide) _

theorem IsTypeName.stripLeft_append (ht : IsTypeName t) (r : List Char) :
    stripLeft (t ++ r) = t ++ r := by
  cases t with
  | nil => exact ht.elim
  | cons c t => exact stripLeft_cons (isBlank_of_isWord (isWord_of_isNameStart ht.1)) _

theorem IsName.isTypeName (hn : IsName n) : IsTypeName n := by
  cases n with
  | nil => exact hn.elim
  | cons c n => exact ⟨hn.1, fun d hd => by simp [hn.2 d hd]⟩

theorem typeAndName?_eq_some_iff :
    typeAndName? text = some (t, n) ↔
      ∃ o w rest, TypedName t n o w ∧ IsEnd rest ∧ text = w ++ rest := by
  constructor
  · intro h
    simp only [typeAndName?, Option.bind_eq_bind, Option.bind_eq_some_iff, Prod.exists] at h
    obtain ⟨t', r₁, htype, r₂, hblanks, n', r₃, hname, h⟩ := h
    split at h
    · next hnum =>
      obtain ⟨rfl, rfl⟩ := Prod.mk.inj (Option.some.inj h)
      obtain ⟨ht, -, rfl⟩ := typeName?_eq_some_iff.1 htype
      obtain ⟨b, hne, hb, rfl⟩ := dropBlanks?_eq_some hblanks
      obtain ⟨hn, rfl⟩ := identifier?_eq_some hname
      obtain ⟨o, m, rest, hm, hrest, rfl⟩ := isNumbering_iff.1 hnum
      exact ⟨o, _, rest, .intro ht hne hb hn hm, hrest, by simp⟩
    · cases h
  · rintro ⟨o, _, rest, @⟨b, m, ht, hne, hb, hn, hm⟩, hrest, rfl⟩
    have hcut : t ++ (b ++ (n ++ m)) ++ rest = t ++ (b ++ (n ++ (m ++ rest))) := by simp
    have htype : typeName? (t ++ (b ++ (n ++ (m ++ rest)))) =
        some (t, b ++ (n ++ (m ++ rest))) :=
      typeName?_eq_some_iff.2 ⟨ht, endsKey_of_blank hne hb _, rfl⟩
    have hname : identifier? (n ++ (m ++ rest)) = some (n, m ++ rest) :=
      identifier?_append hn fun c hc => (hm.endsKey rest c hc).1
    have hnum : isNumbering (m ++ rest) = true := isNumbering_iff.2 ⟨o, m, rest, hm, hrest, rfl⟩
    simp only [hcut, typeAndName?, htype, dropBlanks?_append hne hb, stripLeft_name hn, hname, bind,
      Option.bind_some, if_pos hnum]

/-- A name with a number behind it is no type. -/
theorem typeAndName?_numbered (hn : IsName n) (hm : Numbered o m) (rest : List Char) :
    typeAndName? (n ++ (m ++ rest)) = none := by
  have htype : typeName? (n ++ (m ++ rest)) = some (n, m ++ rest) :=
    typeName?_eq_some_iff.2 ⟨hn.isTypeName, hm.endsKey rest, rfl⟩
  have hname : (dropBlanks? (m ++ rest)).bind identifier? = none := by
    obtain @⟨b₁, b₂, ds, b₃, b₄, hb₁, -, -, -, -, -, -⟩ := hm
    rw [List.append_assoc, List.cons_append]
    by_cases hne : b₁ = []
    · subst hne
      rfl
    · rw [dropBlanks?_append hne hb₁, stripLeft_cons rfl]
      rfl
  cases hblanks : dropBlanks? (m ++ rest) with
  | none => simp only [typeAndName?, htype, hblanks, bind, Option.bind_some, Option.bind_none]
  | some r =>
    rw [hblanks, Option.bind_some] at hname
    simp only [typeAndName?, htype, hblanks, hname, bind, Option.bind_some, Option.bind_none]

/-- A field is recognized exactly where one is declared, with its type and its name. -/
theorem fieldHeader?_eq_some_iff {repeated : Bool} :
    fieldHeader? text = some (repeated, t, n) ↔
      ∃ r o w rest, FieldText r t n o w ∧ IsEnd rest ∧ text = w ++ rest ∧
        repeated = !r.isEmpty := by
  constructor
  · intro h
    rw [fieldHeader?] at h
    cases hr : ((dropWord? "repeated".toList text).bind dropBlanks?).bind typeAndName? with
    | none =>
      rw [hr] at h
      obtain ⟨x, hx, he⟩ := Option.map_eq_some_iff.1 h
      obtain ⟨rfl, rfl⟩ := Prod.mk.inj he
      obtain ⟨o, w, rest, hw, hrest, rfl⟩ := typeAndName?_eq_some_iff.1 hx
      exact ⟨[], o, w, rest, .single hw, hrest, rfl, rfl⟩
    | some x =>
      rw [hr] at h
      obtain ⟨rfl, rfl⟩ := Prod.mk.inj (Option.some.inj h)
      obtain ⟨r₂, hr, hx⟩ := Option.bind_eq_some_iff.1 hr
      obtain ⟨r₁, hword, hblanks⟩ := Option.bind_eq_some_iff.1 hr
      obtain ⟨b, hne, hb, rfl⟩ := dropBlanks?_eq_some hblanks
      obtain ⟨o, w, rest, hw, hrest, rfl⟩ := typeAndName?_eq_some_iff.1 hx
      refine ⟨_, o, _, rest, .repeated hne hb hw, hrest, ?_, rfl⟩
      rw [dropWord?_eq_some hword]
      simp
  · rintro ⟨r, o, w, rest, hw, hrest, rfl, rfl⟩
    rw [fieldHeader?]
    cases hw with
    | single hw =>
      have hplain := typeAndName?_eq_some_iff.2 ⟨o, w, rest, hw, hrest, rfl⟩
      have hfirst : ((dropWord? "repeated".toList (w ++ rest)).bind dropBlanks?).bind
          typeAndName? = none := by
        obtain @⟨b, m, ht, hne, hb, hn, hm⟩ := hw
        have hword : ∀ c ∈ "repeated".toList, isWord c = true := by decide
        have hcut : t ++ (b ++ (n ++ m)) ++ rest = t ++ (b ++ (n ++ (m ++ rest))) := by simp
        rw [hcut, dropWord?_bind_dropBlanks?_append hword ht.inKey (endsKey_of_blank hne hb _)]
        -- Where `repeated` is the type, its name and number stand behind it, and no second type.
        split
        · rw [dropBlanks?_append hne hb, stripLeft_name hn, Option.bind_some,
            typeAndName?_numbered hn hm]
        · rfl
      rw [hfirst, hplain]
      rfl
    | @repeated b _ _ w _ hne hb hw =>
      have hplain := typeAndName?_eq_some_iff.2 ⟨o, w, rest, hw, hrest, rfl⟩
      have hstrip : stripLeft (w ++ rest) = w ++ rest := by
        obtain ⟨ht, -, -, -, -⟩ := hw
        rw [List.append_assoc, ht.stripLeft_append]
      rw [List.append_assoc, List.append_assoc, dropWord?_append, Option.bind_some,
        dropBlanks?_append hne hb, hstrip, Option.bind_some, hplain]
      rfl

/-- A member is recognized exactly where one is declared, with its name. -/
theorem memberName?_isNumbering_iff :
    (∃ r, memberName? text = some (n, r) ∧ isNumbering r = true) ↔
      ∃ o w rest, MemberText n o w ∧ IsEnd rest ∧ text = w ++ rest := by
  constructor
  · rintro ⟨r, hname, hnum⟩
    obtain ⟨hn, -, rfl⟩ := memberName?_eq_some_iff.1 hname
    obtain ⟨o, m, rest, hm, hrest, rfl⟩ := isNumbering_iff.1 hnum
    exact ⟨o, _, rest, .intro hn hm, hrest, by simp⟩
  · rintro ⟨o, _, rest, @⟨m, hn, hm⟩, hrest, rfl⟩
    refine ⟨m ++ rest, memberName?_eq_some_iff.2 ⟨hn, fun c hc => ?_, by simp⟩,
      isNumbering_iff.2 ⟨o, m, rest, hm, hrest, rfl⟩⟩
    have hword := (hm.endsKey rest c hc).1
    exact Bool.eq_false_iff.2 fun h => by simp [isWord_of_inMemberName h] at hword

theorem isSome_ofStatement?_iff {leading trailing : List (List Char)} :
    (Choice.ofStatement? ⟨text, leading, trailing⟩).isSome = true ↔
      ∃ n o w rest, MemberText n o w ∧ IsEnd rest ∧ text = w ++ rest := by
  rw [← exists_congr fun n => memberName?_isNumbering_iff]
  cases hname : memberName? text with
  | none => simp [Choice.ofStatement?, hname]
  | some x =>
    obtain ⟨key, r⟩ := x
    by_cases hnum : isNumbering r = true
    · simp [Choice.ofStatement?, hname, hnum]
    · simp [Choice.ofStatement?, hname, hnum]

/-! ### The option list of a declaration -/

theorem TypedName.optionList_eq (h : TypedName t n o text) {u : List Char} (hu : '[' ∉ u)
    (hrest : IsEnd rest) : optionList (u ++ (text ++ rest)) = o.getD [] := by
  obtain @⟨b, m, ht, hne, hb, hn, hm⟩ := h
  have htype : '[' ∉ t := fun h => by
    rcases ht.inKey _ h with h | h
    · exact absurd h (by decide)
    · exact absurd h (by decide)
  have hname : '[' ∉ n := fun h => absurd (hn.isWord _ h) (by decide)
  have hblank : '[' ∉ b := not_mem_of_blank rfl hb
  have hfront : '[' ∉ u ++ (t ++ (b ++ n)) := by simp [hu, htype, hblank, hname]
  have hcut : u ++ (t ++ (b ++ (n ++ m)) ++ rest) = u ++ (t ++ (b ++ n)) ++ (m ++ rest) := by simp
  rw [hcut, hm.optionList_eq hfront hrest]

/-- The option list that is found in the declaration of a field is the one that it has. -/
theorem FieldText.optionList_eq (h : FieldText r t n o text) (hrest : IsEnd rest) :
    optionList (text ++ rest) = o.getD [] := by
  cases h with
  | single h => exact h.optionList_eq (u := []) List.not_mem_nil hrest
  | repeated hne hb h =>
    have hword : '[' ∉ "repeated".toList := by decide
    rw [List.append_assoc]
    exact h.optionList_eq (List.not_mem_append hword (not_mem_of_blank rfl hb)) hrest

/-- The option list that is found in the declaration of a member is the one that it has. -/
theorem MemberText.optionList_eq (h : MemberText n o text) (hrest : IsEnd rest) :
    optionList (text ++ rest) = o.getD [] := by
  obtain ⟨hn, hm⟩ := h
  have hopen : '[' ∉ n := fun h => absurd (hn.isName.isWord _ h) (by decide)
  rw [List.append_assoc, hm.optionList_eq hopen hrest]

end Formwork.Idl
