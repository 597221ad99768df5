import Formwork.Proofs.Idl.Outside

/-!
The lines of file options. Outside blocks a text may hold stray closing braces, and without them the
characters around may make up comment marks that the text does not have; so a line is judged by its
literals alone. A line that closes all its literals sets the same option with a comment at its end
and without.
-/
namespace Formwork.Idl
open Formwork.Text

/-! ### Literals alone -/

/-- The mode after a character, where no comment begins and a line feed closes every literal. -/
def Mode.read (mode : Mode) (c : Char) : Mode :=
  if c = '\n' then .code else (mode.step c (some ' ')).2

/-- A text that closes every literal that it opens. -/
def Closed (cs : List Char) : Prop := cs.foldl Mode.read .code = .code

/-- What a scan that knows of literals alone may say of the scan of a text before `next`. -/
def Mode.Tracks (mode : Mode) (next : Option Char) (quoting : Mode) : Prop :=
  match mode with
  | .code => quoting = .code
  | .string quote => quoting = .string quote ∨ next = none ∨ next = some '\n'
  | .escaped quote => quoting = .escaped quote ∧ next ≠ some '\n'
  | .lineMark | .lineComment | .blockMark | .blockComment | .closeMark => True

variable {mode quoting : Mode} {depth : Nat} {text u v w s l : List Char}

theorem Mode.Tracks.step {c : Char} {next : Option Char} (hm : mode.Sound)
    (h : mode.Tracks (some c) quoting) (hc : (mode.step c next).1 ≠ .blockComment) :
    (mode.step c next).2.Tracks next (quoting.read c) := by
  cases mode <;> cases next <;> grind [Mode.step, Mode.Tracks, Mode.read, Mode.Sound]

/-- Outside blocks the literals are those of the whole text. -/
theorem foldl_read_dropBlocks (hm : mode.Sound) (hout : depth = 0 → mode.Tracks text.head? quoting)
    (hin : depth ≠ 0 → quoting = .code) (hclean : ∀ x ∈ markFrom mode text, x.2 ≠ .blockComment)
    (hopen : openAfter depth (markFrom mode text) = 0) (hcode : modeAfter mode text = .code) :
    (dropBlocks depth (markFrom mode text)).foldl Mode.read quoting = .code := by
  induction text generalizing mode depth quoting with
  | nil =>
    obtain rfl : depth = 0 := hopen
    obtain rfl : mode = .code := hcode
    exact hout rfl
  | cons c text ih =>
    rw [markFrom] at hopen hclean ⊢
    have hclean' := fun x hx => hclean x (List.mem_cons_of_mem _ hx)
    -- A brace stands in code, so no literal is open around it.
    have hbrace {x : Marked} (hc : (c, (mode.step c text.head?).1) = x) (hx : IsBrace x) :
        quoting = .code ∧ (mode.step c text.head?).2 = .code := by
      obtain ⟨rfl, hm'⟩ := Mode.eq_code_of_isBrace hc hx
      exact ⟨(Nat.eq_zero_or_pos depth).elim hout fun h => hin h.ne', hm'⟩
    rcases eq_brace_or (c, (mode.step c text.head?).1) with hc | hc | hc
    · obtain ⟨rfl, -⟩ := hbrace hc ⟨rfl, .inl rfl⟩
      rw [hc, openAfter_open] at hopen
      rw [hc, dropBlocks_open]
      exact ih (hm.step ..) (fun h => absurd h depth.succ_ne_zero) (fun _ => rfl) hclean' hopen
        hcode
    · obtain ⟨rfl, hm'⟩ := hbrace hc ⟨rfl, .inr rfl⟩
      rw [hc, openAfter_close] at hopen
      rw [hc, dropBlocks_close, List.foldl_append]
      have hsemicolon : (if depth = 1 then [';'] else []).foldl Mode.read .code = .code := by
        split <;> rfl
      rw [hsemicolon]
      exact ih (hm.step ..) (fun _ => by rw [hm']; rfl) (fun _ => rfl) hclean' hopen hcode
    · rw [openAfter_cons hc] at hopen
      rw [dropBlocks_cons hc]
      cases depth with
      | zero =>
        have hstep := (hout rfl).step hm (hclean _ List.mem_cons_self)
        exact ih (hm.step ..) (fun _ => hstep) (absurd rfl) hclean' hopen hcode
      | succ depth =>
        exact ih (hm.step ..) (fun h => absurd h depth.succ_ne_zero) hin hclean' hopen hcode

theorem Closed.of_isLastLine (h : Closed u) (hl : IsLastLine l u) : Closed l := by
  obtain ⟨-, rfl | ⟨before, rfl⟩⟩ := hl
  · exact h
  · rw [Closed, List.foldl_append, List.foldl_cons] at h
    exact h

/-- Outside blocks a text that ends in code and outside blocks closes its literals. -/
theorem closed_removeInnerBlocks (hclean : ∀ x ∈ mark u, x.2 ≠ .blockComment)
    (hopen : openAfter 0 (mark u) = 0) (hu : modeAfter .code u = .code) :
    Closed (removeInnerBlocks u) :=
  foldl_read_dropBlocks Mode.sound_code (fun _ => rfl) (absurd rfl) hclean hopen hu

theorem foldl_read_of_plain (h : ∀ c ∈ u, Plain c) : u.foldl Mode.read .code = .code := by
  induction u with
  | nil => rfl
  | cons c u ih =>
    obtain ⟨hc, hu⟩ := List.forall_mem_cons.1 h
    have hread : Mode.code.read c = .code := by
      simp [Mode.read, Mode.step, hc.1, hc.2.1, hc.2.2]
    rw [List.foldl_cons, hread, ih hu]

/-! ### The form of an option

Each reader takes a front off the text, and it takes the same front off every text that goes on with
the same character behind it. -/

/-- A run of characters is the same before every text that goes on with the same character. -/
theorem span_takeWhile_append {p : Char → Bool} {cs r : List Char}
    (hr : r.head? = (cs.dropWhile p).head?) :
    (cs.takeWhile p ++ r).takeWhile p = cs.takeWhile p ∧ (cs.takeWhile p ++ r).dropWhile p = r := by
  have hrun : ∀ c ∈ cs.takeWhile p, p c = true := fun _ hc => List.mem_takeWhile_imp hc
  have hend := List.head?_dropWhile_not p cs
  rw [← hr] at hend
  rw [List.takeWhile_append_of_pos hrun, List.dropWhile_append_of_pos hrun]
  cases r with
  | nil => simp
  | cons c r =>
    rw [List.head?_cons] at hend
    have hc : p c = false := by simpa using hend
    simp [hc]

theorem stripLeft_eq (cs : List Char) : ∃ b, (∀ c ∈ b, isBlank c = true) ∧ cs = b ++ stripLeft cs ∧
    ∀ r, r.head? = (stripLeft cs).head? → stripLeft (b ++ r) = r :=
  ⟨cs.takeWhile isBlank, fun _ hc => List.mem_takeWhile_imp hc,
    List.takeWhile_append_dropWhile.symm, fun _ hr => (span_takeWhile_append hr).2⟩

theorem dropBlanks?_eq {cs r : List Char} (h : dropBlanks? cs = some r) :
    ∃ b, (∀ c ∈ b, isBlank c = true) ∧ cs = b ++ r ∧
      ∀ r', r'.head? = r.head? → dropBlanks? (b ++ r') = some r' := by
  cases cs with
  | nil => cases h
  | cons c cs =>
    rw [dropBlanks?] at h
    split at h
    · next hc =>
      obtain rfl := Option.some.inj h
      obtain ⟨b, hb, he, hr⟩ := stripLeft_eq cs
      refine ⟨c :: b, List.forall_mem_cons.2 ⟨hc, hb⟩, by rw [List.cons_append, ← he], ?_⟩
      intro r' hr'
      rw [List.cons_append, dropBlanks?, if_pos hc, hr r' hr']
    · cases h

theorem dropOptional_eq (c : Char) (cs : List Char) : ∃ o, (∀ d ∈ o, d = c) ∧
    cs = o ++ dropOptional c cs ∧
      ∀ r, r.head? = (dropOptional c cs).head? → dropOptional c (o ++ r) = r := by
  cases cs with
  | nil =>
    refine ⟨[], List.forall_mem_nil _, rfl, fun r hr => ?_⟩
    obtain rfl : r = [] := List.head?_eq_none_iff.1 hr
    rfl
  | cons d cs =>
    by_cases hd : d = c
    · subst hd
      exact ⟨[d], by simp, by simp [dropOptional], fun r _ => by simp [dropOptional]⟩
    · refine ⟨[], List.forall_mem_nil _, by simp [dropOptional, hd], fun r hr => ?_⟩
      rw [dropOptional, if_neg hd] at hr
      cases r with
      | nil => rfl
      | cons e r =>
        obtain rfl := Option.some.inj hr
        simp [dropOptional, hd]

theorem typeName?_eq {cs n r : List Char} (h : typeName? cs = some (n, r)) :
    (∀ c ∈ n, isWord c = true ∨ c = '.') ∧ cs = n ++ r ∧
      ∀ r', r'.head? = r.head? → typeName? (n ++ r') = some (n, r') := by
  cases cs with
  | nil => cases h
  | cons c cs =>
    rw [typeName?] at h
    split at h
    · next hc =>
      obtain ⟨rfl, rfl⟩ := Prod.mk.inj (Option.some.inj h)
      refine ⟨fun d hd => ?_, by rw [List.cons_append, List.takeWhile_append_dropWhile], ?_⟩
      · rcases List.mem_cons.1 hd with rfl | hd
        · exact .inl (isWord_of_isNameStart hc)
        · simpa using List.mem_takeWhile_imp hd
      · intro r' hr'
        obtain ⟨htake, hdrop⟩ := span_takeWhile_append hr'
        simp only [List.cons_append, typeName?, if_pos hc, htake, hdrop]
    · cases h

/-- What a double-quoted text holds closes no literal before its end, unless it goes over lines. -/
theorem quotedContent?_eq {cs content rest : List Char}
    (h : quotedContent? cs = some (content, rest)) :
    cs = content ++ '"' :: rest ∧
      (∀ r, quotedContent? (content ++ '"' :: r) = some (content, r)) ∧
      ('\n' ∉ content → ∀ p, p <+: content → p.foldl Mode.read (.string '"') ≠ .code) := by
  fun_induction quotedContent? cs generalizing content rest with
  | case1 => cases h
  | case2 cs =>
    obtain ⟨rfl, rfl⟩ := Prod.mk.inj (Option.some.inj h)
    refine ⟨rfl, fun _ => rfl, fun _ p hp => ?_⟩
    rw [List.prefix_nil.1 hp]
    decide
  | case3 => cases h
  | case4 c cs hc ih =>
    obtain ⟨⟨content', rest'⟩, h', he⟩ := Option.map_eq_some_iff.1 h
    obtain ⟨rfl, rfl⟩ := Prod.mk.inj he
    obtain ⟨hcs, hread, hopen⟩ := ih h'
    refine ⟨by rw [hcs]; rfl, fun r => ?_, fun hn p hp => ?_⟩
    · rw [List.cons_append, List.cons_append, quotedContent?, if_neg hc, hread]
      rfl
    · simp only [List.mem_cons, not_or] at hn
      have hescape : (Mode.string '"').read '\\' = .escaped '"' := rfl
      have hnext : (Mode.escaped '"').read c = .string '"' := by simp [Mode.read, Mode.step, hc]
      rcases List.prefix_cons_iff.1 hp with rfl | ⟨p, rfl, hp'⟩
      · decide
      · -- An escaped character closes nothing, and a prefix may end behind its backslash.
        rw [List.foldl_cons, hescape]
        rcases List.prefix_cons_iff.1 hp' with rfl | ⟨p, rfl, hp''⟩
        · decide
        · rw [List.foldl_cons, hnext]
          exact hopen hn.2.2 p hp''
  | case5 => cases h
  | case6 c cs hquote hpair hc ih =>
    obtain ⟨⟨content', rest'⟩, h', he⟩ := Option.map_eq_some_iff.1 h
    obtain ⟨rfl, rfl⟩ := Prod.mk.inj he
    obtain ⟨hcs, hread, hopen⟩ := ih h'
    refine ⟨by rw [hcs]; rfl, fun r => ?_, fun hn p hp => ?_⟩
    · rw [List.cons_append, quotedContent?, if_neg hc, hread]
      · rfl
      · exact hquote
      · exact fun _ _ hd => (hc hd).elim
    · simp only [List.mem_cons, not_or] at hn
      have hnext : (Mode.string '"').read c = .string '"' := by
        have hquote' : c ≠ '"' := hquote
        simp [Mode.read, Mode.step, Ne.symm hn.1, hc, hquote']
      rcases List.prefix_cons_iff.1 hp with rfl | ⟨p, rfl, hp'⟩
      · decide
      · rw [List.foldl_cons, hnext]
        exact hopen hn.2 p hp'

theorem head?_append_cons (u : List Char) (c : Char) (v w : List Char) :
    (u ++ c :: v).head? = (u ++ c :: w).head? := by
  cases u <;> rfl

theorem quotedText?_eq {cs value rest : List Char} (h : quotedText? cs = some (value, rest)) :
    ∃ content, cs = '"' :: (content ++ '"' :: rest) ∧
      (∀ r, quotedText? ('"' :: (content ++ '"' :: r)) = some (value, r)) ∧
      ('\n' ∉ content → ∀ p, p <+: content → p.foldl Mode.read (.string '"') ≠ .code) := by
  unfold quotedText? at h
  split at h
  · obtain ⟨⟨content, rest'⟩, h', he⟩ := Option.map_eq_some_iff.1 h
    obtain ⟨rfl, rfl⟩ := Prod.mk.inj he
    obtain ⟨hcs, hread, hopen⟩ := quotedContent?_eq h'
    exact ⟨content, by rw [hcs], fun r => by rw [quotedText?, hread]; rfl, hopen⟩
  · cases h

/-- The key of an option declaration and the text behind its equals sign. -/
def optionKey? (code : List Char) : Option (List Char × List Char) :=
  ((dropWord? "option".toList code).bind dropBlanks?).bind fun rest =>
    (typeName? (dropOptional '(' rest)).bind fun found =>
      (dropWord? ['='] (stripLeft (dropOptional ')' found.2))).map fun rest => (found.1, rest)

/-- The value of an option declaration, behind its equals sign. -/
def optionValue? (cs : List Char) : Option (List Char) :=
  (quotedText? (stripLeft cs)).bind fun found =>
    (dropWord? [';'] (stripLeft found.2)).map fun _ => found.1

theorem dropWord?_singleton_eq_none {c : Char} {cs : List Char} (h : ∀ r, cs = c :: r → False) :
    dropWord? [c] cs = none := by
  cases cs with
  | nil => rfl
  | cons d cs =>
    have hd : c ≠ d := fun e => h cs (e ▸ rfl)
    rw [dropWord?, if_neg hd]

theorem dropWord?_singleton (c : Char) (r : List Char) : dropWord? [c] (c :: r) = some r :=
  dropWord?_append [c] r

theorem fileOption?_eq_bind (code : List Char) : fileOption? code =
    (optionKey? code).bind fun found => (optionValue? found.2).map fun value =>
      (String.ofList (localName found.1), String.ofList value) := by
  rw [fileOption?, optionKey?]
  cases (dropWord? "option".toList code).bind dropBlanks? with
  | none => rfl
  | some rest =>
    cases hname : typeName? (dropOptional '(' rest) with
    | none => simp only [bind, Option.bind_some, hname, Option.bind_none]
    | some found =>
      simp only [bind, Option.bind_some, hname]
      split
      · next rest' heq =>
        rw [heq, dropWord?_singleton, Option.map_some, Option.bind_some, optionValue?]
        cases quotedText? (stripLeft rest') with
        | none => rfl
        | some quoted =>
          simp only [Option.bind_some]
          split
          · next heq' => rw [heq', dropWord?_singleton]; rfl
          · next hne => rw [dropWord?_singleton_eq_none hne]; rfl
      · next hne => rw [dropWord?_singleton_eq_none hne]; rfl

theorem optionKey?_eq {cs name rest : List Char} (h : optionKey? cs = some (name, rest)) :
    ∃ front, cs = front ++ rest ∧ (∀ c ∈ front, Plain c) ∧
      ∀ r, optionKey? (front ++ r) = some (name, r) := by
  simp only [optionKey?, Option.bind_eq_some_iff, Option.map_eq_some_iff, Prod.exists] at h
  obtain ⟨r₁, ⟨r₀, h₀, h₁⟩, name, r₂, h₂, rest, h₃, he⟩ := h
  obtain ⟨rfl, rfl⟩ := Prod.mk.inj he
  obtain ⟨b₁, hb₁, rfl, htake₁⟩ := dropBlanks?_eq h₁
  obtain ⟨o₁, ho₁, he₁, hopt₁⟩ := dropOptional_eq '(' r₁
  obtain ⟨hname, hen, htype⟩ := typeName?_eq h₂
  obtain ⟨o₂, ho₂, he₂, hopt₂⟩ := dropOptional_eq ')' r₂
  obtain ⟨b₂, hb₂, heb₂, hstrip₂⟩ := stripLeft_eq (dropOptional ')' r₂)
  rw [dropWord?_eq_some h₃] at heb₂ hstrip₂
  rw [heb₂] at he₂ hopt₂
  rw [he₂] at hen htype
  rw [hen] at he₁ hopt₁
  rw [he₁] at htake₁
  refine ⟨"option".toList ++ (b₁ ++ (o₁ ++ (name ++ (o₂ ++ (b₂ ++ ['=']))))), ?_, ?_, fun r => ?_⟩
  · rw [dropWord?_eq_some h₀, he₁]
    simp
  · intro c hc
    simp only [List.mem_append, List.mem_singleton] at hc
    rcases hc with hc | hc | hc | hc | hc | hc | rfl
    · revert c
      decide
    · exact plain_of_isStop (isStop_of_isBlank (hb₁ c hc))
    · rw [ho₁ c hc]
      decide
    · rcases hname c hc with hc | rfl
      · exact plain_of_isStop (isStop_of_isWord hc)
      · decide
    · rw [ho₂ c hc]
      decide
    · exact plain_of_isStop (isStop_of_isBlank (hb₂ c hc))
    · decide
  · -- The same character follows at every seam, so every reader takes off the same front.
    have hequals := hstrip₂ ('=' :: r) rfl
    have hclose := hopt₂ (b₂ ++ '=' :: r) (head?_append_cons ..)
    have hkey := htype (o₂ ++ (b₂ ++ '=' :: r)) (by simp [List.head?_append])
    have hopen := hopt₁ (name ++ (o₂ ++ (b₂ ++ '=' :: r))) (by simp [List.head?_append])
    have hblank := htake₁ (o₁ ++ (name ++ (o₂ ++ (b₂ ++ '=' :: r)))) (by simp [List.head?_append])
    simp only [List.append_assoc, List.cons_append, List.nil_append, optionKey?, dropWord?_append,
      Option.bind_some, hblank, hopen, hkey, hclose, hequals, dropWord?_singleton,
      Option.map_some]

theorem optionValue?_eq {cs value : List Char} (h : optionValue? cs = some value) :
    ∃ b content b' r, cs = b ++ '"' :: (content ++ '"' :: (b' ++ ';' :: r)) ∧
      (∀ c ∈ b, isBlank c = true) ∧ (∀ c ∈ b', isBlank c = true) ∧
      ('\n' ∉ content → ∀ p, p <+: content → p.foldl Mode.read (.string '"') ≠ .code) ∧
      ∀ r', optionValue? (b ++ '"' :: (content ++ '"' :: (b' ++ ';' :: r'))) = some value := by
  simp only [optionValue?, Option.bind_eq_some_iff, Option.map_eq_some_iff, Prod.exists] at h
  obtain ⟨value, r₁, h₁, r₂, h₂, rfl⟩ := h
  obtain ⟨b, hb, heb, hstrip⟩ := stripLeft_eq cs
  obtain ⟨b', hb', heb', hstrip'⟩ := stripLeft_eq r₁
  obtain ⟨content, hec, hquoted, hopen⟩ := quotedText?_eq h₁
  rw [hec] at heb hstrip
  rw [dropWord?_eq_some h₂] at heb' hstrip'
  refine ⟨b, content, b', r₂, heb' ▸ heb, hb, hb', hopen, fun r' => ?_⟩
  have hblank := hstrip ('"' :: (content ++ '"' :: (b' ++ ';' :: r'))) rfl
  have hvalue := hquoted (b' ++ ';' :: r')
  have hend := hstrip' (';' :: r') rfl
  simp only [optionValue?, hblank, hvalue, Option.bind_some, hend, dropWord?_singleton,
    Option.map_some]

/-- What an option declaration is made of: a front that opens no literal, a double-quoted text, and
white space before the semicolon. What stands behind the semicolon has no effect. -/
theorem fileOption?_eq {cs : List Char} {option : String × String}
    (h : fileOption? cs = some option) :
    ∃ front content b r, cs = front ++ '"' :: (content ++ '"' :: (b ++ ';' :: r)) ∧
      (∀ c ∈ front, Plain c) ∧ (∀ c ∈ b, isBlank c = true) ∧
      ('\n' ∉ content → ∀ p, p <+: content → p.foldl Mode.read (.string '"') ≠ .code) ∧
      ∀ r', fileOption? (front ++ '"' :: (content ++ '"' :: (b ++ ';' :: r'))) = some option := by
  simp only [fileOption?_eq_bind, Option.bind_eq_some_iff, Option.map_eq_some_iff,
    Prod.exists] at h
  obtain ⟨name, rest, hname, value, hvalue, rfl⟩ := h
  obtain ⟨front, rfl, hfront, hkey⟩ := optionKey?_eq hname
  obtain ⟨b, content, b', r, rfl, hb, hb', hopen, hread⟩ := optionValue?_eq hvalue
  refine ⟨front ++ b, content, b', r, by simp, fun c hc => ?_, hb', hopen, fun r' => ?_⟩
  · rcases List.mem_append.1 hc with hc | hc
    · exact hfront c hc
    · exact plain_of_isStop (isStop_of_isBlank (hb c hc))
  · simp only [fileOption?_eq_bind, List.append_assoc, hkey, Option.bind_some, hread,
      Option.map_some]

/-! ### A comment behind an option -/

theorem fileOption?_append {cs : List Char} {option : String × String}
    (h : fileOption? cs = some option) (r : List Char) : fileOption? (cs ++ r) = some option := by
  obtain ⟨front, content, b, r₀, rfl, -, -, -, hread⟩ := fileOption?_eq h
  simpa using hread (r₀ ++ r)

/-- Within an option declaration a slash stands in the literal only, so what stands before it leaves
the literal open. -/
theorem not_closed_of_slash {front content b p q : List Char} (hfront : ∀ c ∈ front, Plain c)
    (hb : ∀ c ∈ b, isBlank c = true)
    (hopen : ∀ p, p <+: content → p.foldl Mode.read (.string '"') ≠ .code)
    (h : front ++ '"' :: (content ++ '"' :: b) = p ++ '/' :: q) : ¬Closed p := by
  rcases List.append_eq_append_iff.1 h with ⟨a, rfl, ha⟩ | ⟨a, rfl, ha⟩
  · cases a with
    | nil => cases ha
    | cons x a =>
      rw [List.cons_append] at ha
      obtain ⟨rfl, hcontent⟩ := List.cons.inj ha
      rcases List.append_eq_append_iff.1 hcontent with ⟨a', rfl, ha'⟩ | ⟨a', rfl, -⟩
      · cases a' with
        | nil => cases ha'
        | cons x a' =>
          rw [List.cons_append] at ha'
          obtain ⟨-, rfl⟩ := List.cons.inj ha'
          have hslash := hb '/' (by simp)
          exact absurd hslash (by decide)
      · rw [Closed, List.foldl_append, foldl_read_of_plain hfront]
        exact hopen a (List.prefix_append ..)
  · cases a with
    | nil => cases ha
    | cons x a =>
      obtain ⟨rfl, -⟩ := List.cons.inj ha
      exact ((hfront '/' (by simp)).1 rfl).elim

theorem fileOption?_append_remark (hu : Closed u) (hn : '\n' ∉ u ++ remark s)
    (hw : w <+: remark s) : fileOption? (u ++ w) = fileOption? u := by
  cases hnew : fileOption? (u ++ w) with
  | none =>
    cases hold : fileOption? u with
    | none => rfl
    | some option => rw [fileOption?_append hold] at hnew; cases hnew
  | some option =>
    obtain ⟨front, content, b, r, he, hfront, hb, hopen, hread⟩ := fileOption?_eq hnew
    have hlines : '\n' ∉ content := by
      intro h
      have hmem : '\n' ∈ u ++ w := by simp [he, h]
      exact hn (((List.prefix_append_right_inj u).2 hw).subset hmem)
    have he' : u ++ w = (front ++ '"' :: (content ++ '"' :: b)) ++ ';' :: r := by simpa using he
    obtain ⟨rest, hrest⟩ := hw
    rcases List.append_eq_append_iff.1 he' with ⟨a, ha, rfl⟩ | ⟨a, rfl, ha⟩
    · -- The declaration would end within the comment, so its literal would hold the comment mark.
      rcases a with _ | ⟨x, _ | ⟨y, a⟩⟩
      · cases hrest
      · cases hrest
      · obtain ⟨rfl, hmark⟩ := List.cons.inj hrest
        obtain ⟨rfl, -⟩ := List.cons.inj hmark
        refine (not_closed_of_slash (p := u ++ [' ']) (q := a) hfront hb (hopen hlines) ?_ ?_).elim
        · simpa using ha
        · rw [Closed, List.foldl_append, hu]
          rfl
    · cases a with
      | nil => cases ha; cases hrest
      | cons x a =>
        obtain ⟨rfl, -⟩ := List.cons.inj ha
        simpa using (hread a).symm

theorem fileOption?_stripRight (cs : List Char) : fileOption? (stripRight cs) = fileOption? cs := by
  obtain ⟨b, hb, he⟩ := exists_stripRight cs
  cases hold : fileOption? cs with
  | none =>
    cases hnew : fileOption? (stripRight cs) with
    | none => rfl
    | some option =>
      rw [he, fileOption?_append hnew b] at hold
      cases hold
  | some option =>
    obtain ⟨front, content, b', r, hcs, -, -, -, hread⟩ := fileOption?_eq hold
    have hcut : stripRight cs =
        front ++ '"' :: (content ++ '"' :: (b' ++ ';' :: stripRight r)) := by
      have h := stripRight_append_cons (show isBlank ';' = false by decide)
        (front ++ '"' :: (content ++ '"' :: b')) r
      rw [hcs]
      simpa using h
    rw [hcut, hread]

theorem Closed.stripLeft (hl : Closed l) : Closed (stripLeft l) := by
  obtain ⟨b, hb, he⟩ := exists_stripLeft l
  rw [Closed, he, List.foldl_append,
    foldl_read_of_plain fun c hc => plain_of_isStop (isStop_of_isBlank (hb c hc))] at hl
  exact hl

theorem fileOption?_strip_append_remark (hl : Closed l) (hn : '\n' ∉ l ++ remark s)
    (hw : w <+: remark s) : fileOption? (strip (l ++ w)) = fileOption? (strip l) := by
  rw [strip, strip, fileOption?_stripRight, fileOption?_stripRight]
  by_cases h : stripLeft l = []
  · rw [stripLeft_append (List.dropWhile_eq_nil_iff.1 h), h]
    obtain ⟨rest, hrest⟩ := hw
    rcases w with _ | ⟨x, _ | ⟨y, w⟩⟩
    · rfl
    · obtain ⟨rfl, -⟩ := List.cons.inj hrest
      rfl
    · obtain ⟨rfl, hmark⟩ := List.cons.inj hrest
      obtain ⟨rfl, -⟩ := List.cons.inj hmark
      rfl
  · have hn' : '\n' ∉ stripLeft l ++ remark s := fun hmem => hn
      (((List.dropWhile_sublist isBlank).append_right (remark s)).subset hmem)
    rw [stripLeft_append_of_ne_nil h, fileOption?_append_remark hl.stripLeft hn' hw]

/-- Before white space a text is scanned as before its end. -/
theorem exists_markFrom_append_space (mode : Mode) (u v : List Char) :
    ∃ m, markFrom mode (u ++ ' ' :: v) = markFrom mode u ++ m := by
  have hclass (mode : Mode) (c : Char) : (mode.step c (some ' ')).1 = (mode.step c none).1 := by
    cases mode <;> grind [Mode.step]
  induction u generalizing mode with
  | nil => exact ⟨_, rfl⟩
  | cons c u ih =>
    cases u with
    | nil =>
      refine ⟨markFrom (mode.step c (some ' ')).2 (' ' :: v), ?_⟩
      exact congrArg (fun l => (c, l) :: _) (hclass mode c)
    | cons d u =>
      obtain ⟨m, hm⟩ := ih (mode.step c (some d)).2
      exact ⟨m, congrArg ((c, (mode.step c (some d)).1) :: ·) hm⟩

theorem splitAtLineComment_fst_isPrefix (m : List Marked) :
    (splitAtLineComment m).1 <+: m.map (·.1) := by
  induction m with
  | nil => exact List.prefix_rfl
  | cons x m ih =>
    obtain ⟨c, l⟩ := x
    rw [splitAtLineComment]
    split
    · exact List.nil_prefix
    · exact List.prefix_cons_iff.2 (.inr ⟨_, rfl, ih⟩)

theorem splitAtLineComment_append_of_mem {m : List Marked} {x : Marked} (hx : x ∈ m)
    (h : x.2 = .lineComment) (n : List Marked) :
    (splitAtLineComment (m ++ n)).1 = (splitAtLineComment m).1 := by
  induction m with
  | nil => cases hx
  | cons y m ih =>
    obtain ⟨c, l⟩ := y
    rw [List.cons_append, splitAtLineComment, splitAtLineComment]
    split
    · rfl
    · next hl =>
      rcases List.mem_cons.1 hx with rfl | hx
      · exact (hl h).elim
      · rw [ih hx]

/-- A comment at the end of a line that closes its literals leaves the option of the line. -/
theorem fileOption?_splitLineComment (hl : Closed l) (hn : '\n' ∉ l) (hs : '\n' ∉ s) :
    fileOption? (splitLineComment (l ++ remark s)).1 = fileOption? (splitLineComment l).1 := by
  obtain ⟨m, hm⟩ := exists_markFrom_append_space .code l ('/' :: '/' :: ' ' :: s)
  have hfst (line : List Char) :
      (splitLineComment line).1 = strip (splitAtLineComment (mark line)).1 := rfl
  rw [hfst, hfst, show mark (l ++ remark s) = mark l ++ m from hm]
  by_cases h : ∃ x ∈ mark l, x.2 = .lineComment
  · obtain ⟨x, hx, hc⟩ := h
    rw [splitAtLineComment_append_of_mem hx hc]
  · have hnone : ∀ x ∈ mark l, x.2 ≠ .lineComment := fun x hx hc => h ⟨x, hx, hc⟩
    have htext : m.map (·.1) = remark s := by
      have hmap := congrArg (List.map (·.1)) hm
      rw [List.map_append, markFrom_map_fst, markFrom_map_fst] at hmap
      exact (List.append_cancel_left hmap).symm
    rw [splitAtLineComment_append hnone, splitAtLineComment_eq hnone, mark_map_fst]
    refine fileOption?_strip_append_remark hl (s := s) ?_ ?_
    · simp [remark, hn, hs]
    · rw [← htext]
      exact splitAtLineComment_fst_isPrefix m

theorem fileOptions_remark (hu : modeAfter .code u = .code) (hs : '\n' ∉ s) (hv : AtLineEnd v) :
    fileOptions (u ++ (remark s ++ v)) = fileOptions (u ++ v) := by
  have hcode := modeAfter_stripBlockComments hu
  have hclean : ∀ x ∈ mark (stripBlockComments u), x.2 ≠ .blockComment :=
    fun _ => ne_blockComment_of_mem_mark_stripBlockComments
  have hlines := map_lines_remark (fun l => fileOption? (splitLineComment l).1) hcode hs
    hv.stripBlockComments fun hopen l hl => fileOption?_splitLineComment
      ((closed_removeInnerBlocks hclean hopen hcode).of_isLastLine hl) hl.1 hs
  have hoptions := congrArg (List.filterMap id) hlines
  rw [List.filterMap_map, List.filterMap_map] at hoptions
  rw [fileOptions, fileOptions, stripBlockComments_append_remark_append hu hs hv,
    stripBlockComments_append hu hv.detached]
  exact congrArg Keyed.table hoptions

end Formwork.Idl
