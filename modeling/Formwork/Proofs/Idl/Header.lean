import Formwork.Idl.Block
import Formwork.Proofs.Idl.Lexical
import Formwork.Proofs.Text.Blank

/-!
The search for block headers. Headers never overlap, so the search finds the same blocks whether or
not it goes on behind a header that it has read, and every position of a text can be judged alone.
-/
namespace Formwork.Idl
open Formwork.Text

/-- An identifier: an ASCII letter or underscore, then word characters. -/
def IsName : List Char → Prop
  | [] => False
  | c :: cs => isNameStart c = true ∧ ∀ d ∈ cs, isWord d = true

instance : (cs : List Char) → Decidable (IsName cs)
  | [] => isFalse id
  | c :: cs => inferInstanceAs (Decidable (isNameStart c = true ∧ ∀ d ∈ cs, isWord d = true))

theorem IsName.isWord {n : List Char} (h : IsName n) : ∀ c ∈ n, isWord c = true := by
  cases n with
  | nil => simp
  | cons c cs =>
    intro d hd
    rcases List.mem_cons.1 hd with rfl | hd
    · exact isWord_of_isNameStart h.1
    · exact h.2 d hd

/-! ### The pieces of a header -/

theorem dropWord?_append (w r : List Char) : dropWord? w (w ++ r) = some r := by
  induction w with
  | nil => rfl
  | cons c w ih => simp [dropWord?, ih]

theorem dropWord?_eq_some {w cs r : List Char} (h : dropWord? w cs = some r) : cs = w ++ r := by
  induction w generalizing cs with
  | nil => exact Option.some.inj h
  | cons c w ih =>
    cases cs with
    | nil => cases h
    | cons d cs =>
      rw [dropWord?] at h
      split at h
      · next hd => rw [hd, ih h, List.cons_append]
      · cases h

theorem dropBlanks?_eq_some {cs r : List Char} (h : dropBlanks? cs = some r) :
    ∃ b, b ≠ [] ∧ (∀ c ∈ b, isBlank c = true) ∧ cs = b ++ r := by
  cases cs with
  | nil => cases h
  | cons c cs =>
    rw [dropBlanks?] at h
    split at h
    · next hc =>
      obtain ⟨b, hb, he⟩ := exists_stripLeft cs
      obtain rfl := Option.some.inj h
      refine ⟨c :: b, by simp, ?_, by rw [List.cons_append, ← he]⟩
      intro d hd
      rcases List.mem_cons.1 hd with rfl | hd
      · exact hc
      · exact hb d hd
    · cases h

theorem stripLeft_name {n : List Char} (hn : IsName n) (r : List Char) :
    stripLeft (n ++ r) = n ++ r := by
  cases n with
  | nil => exact hn.elim
  | cons c n => exact stripLeft_cons (isBlank_of_isWord (isWord_of_isNameStart hn.1)) _

theorem dropBlanks?_space {n : List Char} (hn : IsName n) (r : List Char) :
    dropBlanks? (' ' :: (n ++ r)) = some (n ++ r) := by
  rw [dropBlanks?, if_pos (by decide), stripLeft_name hn]

theorem takeWhile_isWord_append {w : List Char} (hw : ∀ c ∈ w, isWord c = true) {c : Char}
    (hc : isWord c = false) (r : List Char) : (w ++ c :: r).takeWhile isWord = w := by
  rw [List.takeWhile_append_of_pos hw, List.takeWhile_cons_of_neg (by simp [hc]), List.append_nil]

/-- A text begins with a word and white space exactly if that is its first word. -/
theorem dropWord?_bind_dropBlanks? {k w : List Char} (hk : IsName k) (hw : IsName w)
    (r : List Char) : (dropWord? k (w ++ ' ' :: r)).bind dropBlanks? =
      if w = k then some (stripLeft r) else none := by
  by_cases h : w = k
  · rw [if_pos h, h, dropWord?_append]
    rfl
  · rw [if_neg h]
    cases hd : dropWord? k (w ++ ' ' :: r) with
    | none => rfl
    | some t =>
      cases hb : dropBlanks? t with
      | none => simp [hb]
      | some u =>
        obtain ⟨b, hne, hblank, rfl⟩ := dropBlanks?_eq_some hb
        have e := dropWord?_eq_some hd
        cases b with
        | nil => exact (hne rfl).elim
        | cons c b =>
          have hc := isWord_of_isBlank (hblank c List.mem_cons_self)
          have hwords := congrArg (List.takeWhile isWord) e
          rw [takeWhile_isWord_append hw.isWord (by decide), List.cons_append,
            takeWhile_isWord_append hk.isWord hc] at hwords
          exact (h hwords).elim

theorem identifier?_append {n : List Char} (hn : IsName n) {r : List Char}
    (hr : ∀ c, r.head? = some c → isWord c = false) : identifier? (n ++ r) = some (n, r) := by
  cases n with
  | nil => exact hn.elim
  | cons c n =>
    have ht : (n ++ r).takeWhile isWord = n := by
      rw [List.takeWhile_append_of_pos hn.2]
      cases r with
      | nil => simp
      | cons d r => simp [hr d rfl]
    have hd : (n ++ r).dropWhile isWord = r := by
      rw [List.dropWhile_append_of_pos hn.2]
      cases r with
      | nil => rfl
      | cons d r => simp [hr d rfl]
    rw [List.cons_append, identifier?, if_pos hn.1, ht, hd]

theorem identifier?_eq_some {cs n r : List Char} (h : identifier? cs = some (n, r)) :
    IsName n ∧ cs = n ++ r := by
  cases cs with
  | nil => cases h
  | cons c cs =>
    rw [identifier?] at h
    split at h
    · next hc =>
      obtain ⟨rfl, rfl⟩ := Prod.mk.inj (Option.some.inj h)
      exact ⟨⟨hc, fun d hd => List.mem_takeWhile_imp hd⟩,
        by rw [List.cons_append, List.takeWhile_append_dropWhile]⟩
    · cases h

/-- What a header is made of. -/
theorem header?_eq_some {k cs n body : List Char} (h : header? k cs = some (n, body)) :
    ∃ b₁ b₂ r, b₁ ≠ [] ∧ (∀ c ∈ b₁, isBlank c = true) ∧ IsName n ∧
      (∀ c ∈ b₂, isBlank c = true) ∧ body = '{' :: r ∧ cs = k ++ (b₁ ++ (n ++ (b₂ ++ body))) := by
  simp only [header?, bind, Option.bind_eq_some_iff, Prod.exists] at h
  obtain ⟨r₁, h₁, r₂, h₂, m, r₃, h₃, h₄⟩ := h
  obtain ⟨b₁, hne, hb₁, e₂⟩ := dropBlanks?_eq_some h₂
  obtain ⟨hn, e₃⟩ := identifier?_eq_some h₃
  obtain ⟨b₂, hb₂, e₄⟩ := exists_stripLeft r₃
  split at h₄
  · next r hr =>
    obtain ⟨rfl, rfl⟩ := Prod.mk.inj (Option.some.inj h₄)
    exact ⟨b₁, b₂, r, hne, hb₁, hn, hb₂, rfl,
      by rw [← hr, ← e₄, ← e₃, ← e₂, dropWord?_eq_some h₁]⟩
  · cases h₄

/-- A header is read off the text that it was made of. -/
theorem header?_append {n : List Char} (hn : IsName n) (k r : List Char) :
    header? k (k ++ ' ' :: (n ++ ' ' :: '{' :: r)) = some (n, '{' :: r) := by
  have hname : identifier? (n ++ ' ' :: '{' :: r) = some (n, ' ' :: '{' :: r) := by
    apply identifier?_append hn
    intro c hc
    rw [← Option.some.inj hc]
    decide
  have hbrace : stripLeft (' ' :: '{' :: r) = '{' :: r := rfl
  simp only [header?, dropWord?_append, dropBlanks?_space hn, hname, hbrace, bind, Option.bind_some]

/-- A character that no header holds before its brace. -/
def isStop (c : Char) : Bool := !isWord c && !isBlank c

theorem find?_isStop_append {w : List Char} (h : ∀ c ∈ w, isStop c = false) (r : List Char) :
    (w ++ r).find? isStop = r.find? isStop := by
  rw [List.find?_append, List.find?_eq_none.2 (by simpa using h), Option.none_or]

theorem isStop_of_isWord {c : Char} (h : isWord c = true) : isStop c = false := by simp [isStop, h]

theorem isStop_of_isBlank {c : Char} (h : isBlank c = true) : isStop c = false := by
  simp [isStop, h]

/-- A header leads to its brace before any other stop. -/
theorem header?_eq_none {k cs : List Char} (hk : IsName k) (h : cs.find? isStop ≠ some '{') :
    header? k cs = none := by
  cases hh : header? k cs with
  | none => rfl
  | some found =>
    obtain ⟨n, body⟩ := found
    obtain ⟨b₁, b₂, r, -, hb₁, hn, hb₂, rfl, rfl⟩ := header?_eq_some hh
    rw [find?_isStop_append fun c hc => isStop_of_isWord (hk.isWord c hc),
      find?_isStop_append fun c hc => isStop_of_isBlank (hb₁ c hc),
      find?_isStop_append fun c hc => isStop_of_isWord (hn.isWord c hc),
      find?_isStop_append fun c hc => isStop_of_isBlank (hb₂ c hc)] at h
    exact (h rfl).elim

/-- The name of a block begins no header. -/
theorem header?_name_eq_none {k n b r : List Char} (hk : IsName k) (hn : ∀ c ∈ n, isWord c = true)
    (hb : ∀ c ∈ b, isBlank c = true) : header? k (n ++ (b ++ '{' :: r)) = none := by
  cases hh : header? k (n ++ (b ++ '{' :: r)) with
  | none => rfl
  | some found =>
    obtain ⟨m, body⟩ := found
    obtain ⟨b₁, b₂, r', hne, hb₁, hm, -, rfl, e⟩ := header?_eq_some hh
    have hskip := congrArg (List.dropWhile fun c => isWord c) e
    have hfirst : ∀ c s, b₁ = c :: s → isWord c = false := fun c s hs =>
      isWord_of_isBlank (hb₁ c (hs ▸ List.mem_cons_self))
    rw [List.dropWhile_append_of_pos hn, List.dropWhile_append_of_pos hk.isWord] at hskip
    have hleft : (b ++ '{' :: r).dropWhile isWord = b ++ '{' :: r := by
      cases b with
      | nil => rfl
      | cons c b => simp [isWord_of_isBlank (hb c List.mem_cons_self)]
    have hright : ∀ t, (b₁ ++ t).dropWhile isWord = b₁ ++ t := by
      intro t
      cases b₁ with
      | nil => exact (hne rfl).elim
      | cons c b₁ => simp [hfirst c b₁ rfl]
    rw [hleft, hright] at hskip
    have hstrip := congrArg stripLeft hskip
    rw [stripLeft_append hb, stripLeft_append hb₁] at hstrip
    cases m with
    | nil => exact hm.elim
    | cons c m =>
      rw [List.cons_append, stripLeft_cons (isBlank_of_isWord (isWord_of_isNameStart hm.1)),
        stripLeft_cons (by decide)] at hstrip
      have hc := hm.1
      rw [← (List.cons.inj hstrip).1] at hc
      exact absurd hc (by decide)

/-! ### Positions of a text -/

/-- No header begins at `c`. -/
def NoHeader (k : List Char) (afterWord : Bool) (c : Char) (cs : List Char) : Prop :=
  afterWord = isWord c ∨ k.head?.any (· ≠ c) ∨ header? k (c :: cs) = none

/-- No header begins at the next `count` characters. -/
def Quiet (k : List Char) : Nat → Bool → List Char → Prop
  | 0, _, _ => True
  | _ + 1, _, [] => True
  | count + 1, afterWord, c :: cs => NoHeader k afterWord c cs ∧ Quiet k count (isWord c) cs

theorem NoHeader.of_not_word {k : List Char} (hk : IsName k) (afterWord : Bool) {c : Char}
    (hc : isWord c = false) (cs : List Char) : NoHeader k afterWord c cs := by
  cases k with
  | nil => exact hk.elim
  | cons d k =>
    have hd := isWord_of_isNameStart hk.1
    refine .inr (.inl ?_)
    simp only [List.head?_cons, Option.any_some, decide_eq_true_eq]
    rintro rfl
    simp [hd] at hc

theorem headerAt?_eq_none {k : List Char} {afterWord : Bool} {c : Char} {cs : List Marked}
    (h : NoHeader k afterWord c (cs.map (·.1))) : headerAt? k afterWord c cs = none := by
  rw [headerAt?]
  split
  · rfl
  · next hn =>
    rw [not_or] at hn
    rcases h with h | h | h
    · exact (hn.1 h).elim
    · exact (hn.2 h).elim
    · rw [h]
      rfl

theorem Quiet.word {k w r : List Char} (hw : ∀ c ∈ w, isWord c = true) {count : Nat}
    (h : Quiet k count true r) : Quiet k (w.length + count) true (w ++ r) := by
  induction w with
  | nil => simpa using h
  | cons c w ih =>
    have hc := hw c List.mem_cons_self
    rw [List.length_cons, Nat.add_right_comm]
    exact ⟨.inl hc.symm, hc ▸ ih fun d hd => hw d (List.mem_cons_of_mem _ hd)⟩

theorem Quiet.gap {k b r : List Char} (hk : IsName k) (hb : ∀ c ∈ b, isWord c = false)
    (hne : b ≠ []) {count : Nat} (h : Quiet k count false r) (afterWord : Bool) :
    Quiet k (b.length + count) afterWord (b ++ r) := by
  induction b generalizing afterWord with
  | nil => exact (hne rfl).elim
  | cons c b ih =>
    have hc := hb c List.mem_cons_self
    rw [List.length_cons, Nat.add_right_comm]
    refine ⟨.of_not_word hk afterWord hc _, ?_⟩
    rw [hc]
    cases b with
    | nil => simpa using h
    | cons d b => exact ih (fun e he => hb e (List.mem_cons_of_mem _ he)) (by simp) false

/-- Behind the front of a header and up to its brace no header begins. -/
theorem quiet_header {k w b₁ n b₂ : List Char} (hk : IsName k) (hw : ∀ c ∈ w, isWord c = true)
    (hne : b₁ ≠ []) (hb₁ : ∀ c ∈ b₁, isBlank c = true) (hn : IsName n)
    (hb₂ : ∀ c ∈ b₂, isBlank c = true) (r : List Char) :
    Quiet k (w ++ (b₁ ++ (n ++ (b₂ ++ ['{'])))).length true
      (w ++ (b₁ ++ (n ++ (b₂ ++ '{' :: r)))) := by
  cases n with
  | nil => exact hn.elim
  | cons m n =>
    have hm := isWord_of_isNameStart hn.1
    have hlast : Quiet k 1 false ('{' :: r) := ⟨.of_not_word hk false (by decide) r, trivial⟩
    have hgap : Quiet k (b₂.length + 1) true (b₂ ++ '{' :: r) := by
      cases b₂ with
      | nil => exact ⟨.of_not_word hk true (by decide) r, trivial⟩
      | cons b b₂ => exact hlast.gap hk (fun e he => isWord_of_isBlank (hb₂ e he)) (by simp) true
    have hname : Quiet k (n.length + (b₂.length + 1) + 1) false
        (m :: (n ++ (b₂ ++ '{' :: r))) :=
      ⟨.inr (.inr (header?_name_eq_none hk hn.isWord hb₂)), hm ▸ hgap.word hn.2⟩
    have hrest := hname.gap hk (fun e he => isWord_of_isBlank (hb₁ e he)) hne true
    have hlen : (w ++ (b₁ ++ (m :: n ++ (b₂ ++ ['{'])))).length =
        w.length + (b₁.length + (n.length + (b₂.length + 1) + 1)) := by
      simp only [List.length_append, List.length_cons, List.length_nil]
      omega
    rw [hlen]
    exact hrest.word hw

theorem quiet_of_header? {k : List Char} (hk : IsName k) {c : Char} {cs n body : List Char}
    (h : header? k (c :: cs) = some (n, body)) :
    Quiet k (cs.length + 1 - body.length) (isWord c) cs := by
  obtain ⟨b₁, b₂, r, hne, hb₁, hn, hb₂, rfl, e⟩ := header?_eq_some h
  cases k with
  | nil => exact hk.elim
  | cons d k =>
    rw [List.cons_append] at e
    obtain ⟨rfl, rfl⟩ := List.cons.inj e
    have hq := quiet_header hk hk.2 hne hb₁ hn hb₂ r
    rw [isWord_of_isNameStart hk.1]
    convert hq using 1
    simp only [List.length_append, List.length_cons, List.length_nil]
    omega

theorem quiet_of_headerAt? {k : List Char} (hk : IsName k) {afterWord : Bool} {c : Char}
    {cs : List Marked} {n : List Char} {count : Nat}
    (h : headerAt? k afterWord c cs = some (n, count)) :
    Quiet k count (isWord c) (cs.map (·.1)) := by
  rw [headerAt?] at h
  split at h
  · cases h
  · obtain ⟨⟨m, body⟩, hb, he⟩ := Option.map_eq_some_iff.1 h
    obtain ⟨rfl, rfl⟩ := Prod.mk.inj he
    have hq := quiet_of_header? hk hb
    rwa [List.length_map] at hq

/-- Where no header begins, it makes no difference that the search goes on behind a header. -/
theorem blocksFrom_skip {k : List Char} {count : Nat} {afterWord : Bool} {m : List Marked}
    (h : Quiet k count afterWord (m.map (·.1))) (position : Nat) :
    blocksFrom k position afterWord count m = blocksFrom k position afterWord 0 m := by
  induction m generalizing count afterWord position with
  | nil => rfl
  | cons x m ih =>
    obtain ⟨c, l⟩ := x
    cases count with
    | zero => rfl
    | succ count =>
      obtain ⟨hc, hrest⟩ := h
      rw [blocksFrom, ih hrest, blocksFrom, headerAt?_eq_none hc]

/-- The block whose header begins at the front of marked text, with a header of `count` characters
before its brace. -/
def blockAt (position : Nat) (name : List Char) (count : Nat) (m : List Marked) : List Block :=
  match if m.head?.any (·.2 = .code) then matchingBraceFrom 0 (m.drop count) else none with
  | some n => [{ name, body := (((m.drop count).take n).drop 1).map (·.1), start := position }]
  | none => []

/-- Every position is judged alone. -/
theorem blocksFrom_cons {k : List Char} (hk : IsName k) (position : Nat) (afterWord : Bool)
    (c : Char) (l : Lexeme) (m : List Marked) :
    blocksFrom k position afterWord 0 ((c, l) :: m) =
      (match headerAt? k afterWord c m with
        | some (name, count) => blockAt position name count ((c, l) :: m)
        | none => []) ++ blocksFrom k (position + 1) (isWord c) 0 m := by
  rw [blocksFrom]
  cases h : headerAt? k afterWord c m with
  | none => rfl
  | some found =>
    obtain ⟨name, count⟩ := found
    simp only
    rw [blocksFrom_skip (quiet_of_headerAt? hk h)]
    congr 1
    cases l <;> rfl

end Formwork.Idl
