import Formwork.Idl.Declaration
import Formwork.Proofs.Idl.Entries

/-!
Shorter runs of blanks. Lines that are joined by single spaces leave shorter runs of blanks between
the words of a declaration than one long line does. Readers of declarations pass over such a run
whole, so what they read, and where they stop, is the same in both.
-/
namespace Formwork.Idl
open Formwork.Text

/-- `ys` is `xs` with runs of `gap` shortened, none of them to nothing. -/
inductive Tightens {α : Type} (gap : α) : List α → List α → Prop
  | nil : Tightens gap [] []
  | cons (x : α) {xs ys : List α} : Tightens gap xs ys → Tightens gap (x :: xs) (x :: ys)
  | drop {xs ys : List α} : Tightens gap (gap :: xs) ys → Tightens gap (gap :: gap :: xs) ys

namespace Tightens

variable {α β : Type} {gap x : α} {xs ys zs us vs : List α}

theorem refl (gap : α) (xs : List α) : Tightens gap xs xs := by
  induction xs with
  | nil => exact .nil
  | cons x xs ih => exact .cons x ih

theorem head?_eq (h : Tightens gap xs ys) : xs.head? = ys.head? := by
  induction h with
  | nil => rfl
  | cons x _ _ => rfl
  | drop _ ih => exact ih

theorem eq_nil_iff (h : Tightens gap xs ys) : xs = [] ↔ ys = [] := by
  rw [← List.head?_eq_none_iff, ← List.head?_eq_none_iff, h.head?_eq]

theorem of_gap (h : Tightens gap xs ys) (hx : xs.head? = some gap) :
    Tightens gap (gap :: xs) ys := by
  cases xs with
  | nil => cases hx
  | cons x xs =>
    obtain rfl : x = gap := Option.some.inj hx
    exact .drop h

theorem trans (h : Tightens gap xs ys) (h' : Tightens gap ys zs) : Tightens gap xs zs := by
  induction h generalizing zs with
  | nil => exact h'
  | cons x h ih =>
    cases h' with
    | cons _ h' => exact .cons x (ih h')
    | drop h' => exact (ih h').of_gap h.head?_eq
  | drop _ ih => exact .drop (ih h')

theorem append (h : Tightens gap xs ys) (h' : Tightens gap us vs) :
    Tightens gap (xs ++ us) (ys ++ vs) := by
  induction h with
  | nil => exact h'
  | cons x _ ih => exact .cons x ih
  | drop _ ih => exact .drop ih

theorem map (f : α → β) (h : Tightens gap xs ys) : Tightens (f gap) (xs.map f) (ys.map f) := by
  induction h with
  | nil => exact .nil
  | cons x _ ih => exact .cons (f x) ih
  | drop _ ih => exact .drop ih

theorem mem_iff (h : Tightens gap xs ys) : x ∈ xs ↔ x ∈ ys := by
  induction h with
  | nil => exact Iff.rfl
  | cons y _ ih => simp only [List.mem_cons, ih]
  | drop _ ih => rw [← ih, List.mem_cons, List.mem_cons, or_self_left]

theorem of_append_cons (h : Tightens gap (us ++ x :: vs) zs) (hx : x ≠ gap) :
    ∃ us' vs', zs = us' ++ x :: vs' ∧ Tightens gap us us' ∧ Tightens gap vs vs' := by
  generalize hxs : us ++ x :: vs = xs at h
  induction h generalizing us with
  | nil => simp at hxs
  | @cons y xs ys h ih =>
    cases us with
    | nil =>
      obtain ⟨rfl, rfl⟩ := List.cons.inj hxs
      exact ⟨[], ys, rfl, .nil, h⟩
    | cons u us =>
      obtain ⟨rfl, hrest⟩ := List.cons.inj hxs
      obtain ⟨us', vs', rfl, hu, hv⟩ := ih hrest
      exact ⟨u :: us', vs', rfl, .cons u hu, hv⟩
  | drop h ih =>
    cases us with
    | nil => exact (hx (List.cons.inj hxs).1).elim
    | cons u us =>
      obtain ⟨rfl, hrest⟩ := List.cons.inj hxs
      obtain ⟨us', vs', rfl, hu, hv⟩ := ih hrest
      cases us with
      | nil => exact (hx (List.cons.inj hrest).1).elim
      | cons w us =>
        obtain ⟨rfl, -⟩ := List.cons.inj hrest
        exact ⟨us', vs', rfl, .drop hu, hv⟩

/-- Where no two gaps are adjacent, nothing is shortened. -/
theorem eq_of_not_infix (h : Tightens gap xs ys) (hxs : ¬[gap, gap] <:+: xs) : xs = ys := by
  induction h with
  | nil => rfl
  | cons x _ ih => rw [ih fun hi => hxs (hi.trans (List.suffix_cons x _).isInfix)]
  | @drop xs _ _ _ => exact (hxs ⟨[], xs, rfl⟩).elim

theorem dropWhile {p : α → Bool} (hp : p gap = true) (h : Tightens gap xs ys) :
    Tightens gap (xs.dropWhile p) (ys.dropWhile p) := by
  induction h with
  | nil => exact .nil
  | @cons x xs ys h ih =>
    rw [List.dropWhile_cons, List.dropWhile_cons]
    split
    · exact ih
    · exact .cons x h
  | drop _ ih => rwa [List.dropWhile_cons_of_pos hp]

theorem of_all_gap (h : ∀ y ∈ xs, y = gap) : Tightens gap (gap :: xs) [gap] := by
  induction xs with
  | nil => exact refl gap [gap]
  | cons y xs ih =>
    obtain ⟨rfl, hxs⟩ := List.forall_mem_cons.1 h
    exact .drop (ih hxs)

theorem append_gap_gap (h : Tightens gap (xs ++ [gap]) ys) :
    Tightens gap (xs ++ [gap, gap]) ys := by
  induction xs generalizing ys with
  | nil => exact .drop h
  | cons x xs ih =>
    rw [List.cons_append] at h ⊢
    generalize hxs : xs ++ [gap] = rest at h
    cases h with
    | cons _ h => exact .cons x (ih (hxs ▸ h))
    | drop h =>
      refine (ih (hxs ▸ h)).of_gap ?_
      have hhead := congrArg List.head? hxs
      cases xs <;> exact hhead

theorem reverse (h : Tightens gap xs ys) : Tightens gap xs.reverse ys.reverse := by
  induction h with
  | nil => exact .nil
  | cons x _ ih =>
    rw [List.reverse_cons, List.reverse_cons]
    exact ih.append (refl gap [x])
  | drop _ ih =>
    rw [List.reverse_cons] at ih
    rw [List.reverse_cons, List.reverse_cons, List.append_assoc]
    exact ih.append_gap_gap

end Tightens

/-! ### Reading on in both texts -/

/-- A blank in code. -/
def space : Marked := (' ', .code)

/-- `cs` and `ds` are ends of the texts of `m` and `n`, and stand for each other there. -/
def Aligned (m n : List Marked) (cs ds : List Char) : Prop :=
  ∃ m' n', m' <:+ m ∧ n' <:+ n ∧ m'.map (·.1) = cs ∧ n'.map (·.1) = ds ∧ Tightens space m' n'

/-- Both readers refuse, or both read the same and stop at places that stand for each other. -/
def SameRead {β : Type} (m n : List Marked) :
    Option (β × List Char) → Option (β × List Char) → Prop :=
  Option.Rel fun a b => a.1 = b.1 ∧ Aligned m n a.2 b.2

theorem rel_bind {α β γ δ : Type} {r : α → β → Prop} {s : γ → δ → Prop} {x : Option α}
    {y : Option β} {f : α → Option γ} {g : β → Option δ} (h : Option.Rel r x y)
    (hfg : ∀ a b, r a b → Option.Rel s (f a) (g b)) : Option.Rel s (x.bind f) (y.bind g) := by
  cases h with
  | none => exact .none
  | some h => exact hfg _ _ h

theorem none_or_some_of_rel {α β : Type} {r : α → β → Prop} {x : Option α} {y : Option β}
    (h : Option.Rel r x y) : (x = none ∧ y = none) ∨ ∃ a b, x = some a ∧ y = some b ∧ r a b := by
  cases h with
  | none => exact .inl ⟨rfl, rfl⟩
  | some h => exact .inr ⟨_, _, rfl, rfl, h⟩

theorem eq_of_rel_eq {α : Type} {x y : Option α} (h : Option.Rel (· = ·) x y) : x = y := by
  cases h with
  | none => rfl
  | some h => rw [h]

namespace Aligned

variable {m n : List Marked} {cs ds : List Char}

theorem of_tightens (h : Tightens space m n) : Aligned m n (m.map (·.1)) (n.map (·.1)) :=
  ⟨m, n, List.suffix_rfl, List.suffix_rfl, rfl, rfl, h⟩

theorem tightens (h : Aligned m n cs ds) : Tightens ' ' cs ds := by
  obtain ⟨m', n', -, -, rfl, rfl, h⟩ := h
  exact h.map (·.1)

/-- Both texts are at their ends, or go on with the same character; behind a character that is no
blank they stand for each other again. -/
theorem next (h : Aligned m n cs ds) : (cs = [] ∧ ds = []) ∨
    ∃ c cs' ds', cs = c :: cs' ∧ ds = c :: ds' ∧ (c ≠ ' ' → Aligned m n cs' ds') := by
  obtain ⟨m', n', hm, hn, rfl, rfl, h⟩ := h
  cases h with
  | nil => exact .inl ⟨rfl, rfl⟩
  | cons x h =>
    refine .inr ⟨x.1, _, _, rfl, rfl, fun _ => ⟨_, _, ?_, ?_, rfl, rfl, h⟩⟩
    · exact (List.suffix_cons x _).trans hm
    · exact (List.suffix_cons x _).trans hn
  | drop h =>
    obtain ⟨zs, rfl⟩ : ∃ zs, n' = space :: zs := List.head?_eq_some_iff.1 h.head?_eq.symm
    exact .inr ⟨' ', _, _, rfl, rfl, fun hc => (hc rfl).elim⟩

theorem head?_eq (h : Aligned m n cs ds) : cs.head? = ds.head? := h.tightens.head?_eq

protected theorem stripLeft (h : Aligned m n cs ds) :
    Aligned m n (stripLeft cs) (stripLeft ds) := by
  obtain ⟨m', n', hm, hn, rfl, rfl, h⟩ := h
  refine ⟨m'.dropWhile (isBlank ·.1), n'.dropWhile (isBlank ·.1),
    (List.dropWhile_suffix _).trans hm, (List.dropWhile_suffix _).trans hn, ?_, ?_,
    h.dropWhile (by decide)⟩
  · rw [Text.stripLeft, List.dropWhile_map]
    rfl
  · rw [Text.stripLeft, List.dropWhile_map]
    rfl

/-- A run of characters other than blanks. -/
theorem span {p : Char → Bool} (hp : p ' ' = false) (h : Aligned m n cs ds) :
    cs.takeWhile p = ds.takeWhile p ∧ Aligned m n (cs.dropWhile p) (ds.dropWhile p) := by
  induction cs generalizing ds with
  | nil =>
    obtain rfl : ds = [] := List.head?_eq_none_iff.1 h.head?_eq.symm
    exact ⟨rfl, h⟩
  | cons c cs ih =>
    obtain ⟨hnil, -⟩ | ⟨d, cs', ds', hcs, rfl, htail⟩ := h.next
    · cases hnil
    · obtain ⟨rfl, rfl⟩ := List.cons.inj hcs
      by_cases hc : p c = true
      · obtain ⟨htake, hdrop⟩ := ih (htail fun e => by simp [e, hp] at hc)
        simp only [List.takeWhile_cons_of_pos hc, List.dropWhile_cons_of_pos hc, htake]
        exact ⟨trivial, hdrop⟩
      · simp only [List.takeWhile_cons_of_neg hc, List.dropWhile_cons_of_neg hc]
        exact ⟨trivial, h⟩

/-! ### Words and names -/

theorem dropWord? {w : List Char} (hw : ' ' ∉ w) (h : Aligned m n cs ds) :
    Option.Rel (Aligned m n) (dropWord? w cs) (dropWord? w ds) := by
  induction w generalizing cs ds with
  | nil => exact .some h
  | cons w ws ih =>
    rw [List.mem_cons, not_or] at hw
    obtain ⟨rfl, rfl⟩ | ⟨c, cs, ds, rfl, rfl, htail⟩ := h.next
    · exact .none
    · rw [Idl.dropWord?, Idl.dropWord?]
      by_cases hc : w = c
      · rw [if_pos hc, if_pos hc]
        exact ih hw.2 (htail fun e => hw.1 (hc.trans e).symm)
      · rw [if_neg hc, if_neg hc]
        exact .none

theorem dropBlanks? (h : Aligned m n cs ds) :
    Option.Rel (Aligned m n) (dropBlanks? cs) (dropBlanks? ds) := by
  have hstrip := h.stripLeft
  obtain ⟨rfl, rfl⟩ | ⟨c, cs, ds, rfl, rfl, -⟩ := h.next
  · exact .none
  · rw [Idl.dropBlanks?, Idl.dropBlanks?]
    by_cases hc : isBlank c = true
    · rw [Text.stripLeft, Text.stripLeft, List.dropWhile_cons_of_pos hc,
        List.dropWhile_cons_of_pos hc] at hstrip
      rw [if_pos hc, if_pos hc]
      exact .some hstrip
    · rw [if_neg hc, if_neg hc]
      exact .none

/-- A name is a character of one kind and a run of another. -/
theorem name {first p : Char → Bool} (hfirst : first ' ' = false) (hp : p ' ' = false)
    (h : Aligned m n cs ds) {f : List Char → Option (List Char × List Char)} (hnil : f [] = none)
    (hcons : ∀ c cs, f (c :: cs) =
      if first c then some (c :: cs.takeWhile p, cs.dropWhile p) else none) :
    SameRead m n (f cs) (f ds) := by
  obtain ⟨rfl, rfl⟩ | ⟨c, cs, ds, rfl, rfl, htail⟩ := h.next
  · rw [hnil]
    exact .none
  · rw [hcons, hcons]
    by_cases hc : first c = true
    · obtain ⟨htake, hdrop⟩ := (htail fun e => by simp [e, hfirst] at hc).span hp
      rw [if_pos hc, if_pos hc, htake]
      exact .some ⟨rfl, hdrop⟩
    · rw [if_neg hc, if_neg hc]
      exact .none

theorem identifier? (h : Aligned m n cs ds) : SameRead m n (identifier? cs) (identifier? ds) :=
  h.name (by decide) (by decide) rfl fun _ _ => rfl

theorem typeName? (h : Aligned m n cs ds) : SameRead m n (typeName? cs) (typeName? ds) :=
  h.name (by decide) (by decide) rfl fun _ _ => rfl

theorem memberName? (h : Aligned m n cs ds) : SameRead m n (memberName? cs) (memberName? ds) :=
  h.name (by decide) (by decide) rfl fun _ _ => rfl

/-! ### Numbers and the ends of declarations -/

theorem isTerminator (h : Aligned m n cs ds) : isTerminator cs = isTerminator ds := by
  rw [Idl.isTerminator, Idl.isTerminator]
  obtain ⟨hc, hd⟩ | ⟨c, cs', ds', hc, hd, htail⟩ := h.stripLeft.next
  · rw [hc, hd]
  · rw [hc, hd]
    by_cases hs : c = ';'
    · subst hs
      obtain ⟨rfl, rfl⟩ | ⟨e, cs, ds, rfl, rfl, htail'⟩ := (htail (by decide)).next
      · rfl
      · by_cases hn : e = '\n'
        · subst hn
          obtain ⟨rfl, rfl⟩ | ⟨_, _, _, rfl, rfl, -⟩ := (htail' (by decide)).next <;> rfl
        · simp [hn]
    · simp [hs]

theorem dropOptional {c : Char} (hc : c ≠ ' ') (h : Aligned m n cs ds) :
    Aligned m n (dropOptional c cs) (dropOptional c ds) := by
  obtain ⟨rfl, rfl⟩ | ⟨d, cs', ds', rfl, rfl, htail⟩ := h.next
  · exact h
  · rw [Idl.dropOptional, Idl.dropOptional]
    by_cases hd : d = c
    · rw [if_pos hd, if_pos hd]
      exact htail fun e => hc (hd.symm.trans e)
    · rwa [if_neg hd, if_neg hd]

/-- Texts alone, as if all their characters were code. -/
theorem of_chars (h : Tightens ' ' cs ds) :
    Aligned (cs.map (·, .code)) (ds.map (·, .code)) cs ds := by
  have hmarks := of_tightens (h.map (·, Lexeme.code))
  simpa [Function.comp_def] using hmarks

end Aligned

theorem reverse_dropFinalLineFeed (cs : List Char) :
    (dropFinalLineFeed cs).reverse = dropOptional '\n' cs.reverse := by
  obtain rfl | ⟨u, c, rfl⟩ := List.eq_nil_or_concat cs
  · rfl
  · rw [dropFinalLineFeed, List.concat_eq_append, List.getLast?_concat, List.reverse_concat,
      dropOptional]
    by_cases hc : c = '\n'
    · rw [if_pos (congrArg some hc), if_pos hc, List.dropLast_concat]
    · rw [if_neg fun h => hc (Option.some.inj h), if_neg hc, List.reverse_concat]

theorem Tightens.closesOptions {cs ds : List Char} (h : Tightens ' ' cs ds) :
    closesOptions cs = closesOptions ds := by
  have hend := (Aligned.of_chars h.reverse).dropOptional (c := '\n') (by decide)
  rw [Idl.closesOptions, Idl.closesOptions, reverse_dropFinalLineFeed, reverse_dropFinalLineFeed]
  obtain ⟨hc, hd⟩ | ⟨c, cs', ds', hc, hd, htail⟩ := hend.next
  · rw [hc, hd]
  · rw [hc, hd]
    by_cases hs : c = ';'
    · subst hs
      obtain ⟨hc, hd⟩ | ⟨e, content, content', hc, hd, htail⟩ := (htail (by decide)).stripLeft.next
      · simp only [Text.stripLeft] at hc hd
        simp only [hc, hd]
      · simp only [Text.stripLeft] at hc hd
        simp only [hc, hd]
        by_cases hb : e = ']'
        · subst hb
          have hcontent := htail (by decide)
          have hall : content.all (· != '\n') = content'.all (· != '\n') := by
            rw [Bool.eq_iff_iff, List.all_eq_true, List.all_eq_true]
            exact forall_congr' fun x => by rw [hcontent.tightens.mem_iff]
          have hempty : content.isEmpty = content'.isEmpty := by
            obtain ⟨rfl, rfl⟩ | ⟨_, _, _, rfl, rfl, -⟩ := hcontent.next <;> rfl
          simp only [hall, hempty]
        · simp [hb]
    · simp [hs]

namespace Aligned

variable {m n : List Marked} {cs ds : List Char}

theorem isNumbering (h : Aligned m n cs ds) : isNumbering cs = isNumbering ds := by
  rw [Idl.isNumbering, Idl.isNumbering]
  obtain ⟨hc, hd⟩ | ⟨c, cs', ds', hc, hd, htail⟩ := h.stripLeft.next
  · rw [hc, hd]
  · rw [hc, hd]
    by_cases hs : c = '='
    · subst hs
      have hdigits := (htail (by decide)).stripLeft
      obtain ⟨-, hrest⟩ := hdigits.span (p := isDigit) (by decide)
      simp only [hdigits.head?_eq]
      congr 1
      obtain ⟨hc, hd⟩ | ⟨e, cs, ds, hc, hd, htail⟩ := hrest.stripLeft.next
      · rw [hc, hd]
      · have hclose := hrest.stripLeft.tightens.closesOptions
        have hterminator := hrest.stripLeft.isTerminator
        rw [hc, hd] at hclose hterminator ⊢
        by_cases hb : e = '['
        · subst hb
          exact hclose
        · simpa [hb] using hterminator
    · simp [hs]

theorem typeAndName? (h : Aligned m n cs ds) : typeAndName? cs = typeAndName? ds := by
  apply eq_of_rel_eq
  refine rel_bind h.typeName? fun a b ⟨htype, hrest⟩ => ?_
  refine rel_bind hrest.dropBlanks? fun u v hblanks => ?_
  refine rel_bind hblanks.identifier? fun a' b' ⟨hname, hrest'⟩ => ?_
  simp only [htype, hname, hrest'.isNumbering]
  split
  · exact .some rfl
  · exact .none

theorem fieldHeader? (h : Aligned m n cs ds) : fieldHeader? cs = fieldHeader? ds := by
  have hrepeated : (((Idl.dropWord? "repeated".toList cs).bind Idl.dropBlanks?).bind
      Idl.typeAndName?) = (((Idl.dropWord? "repeated".toList ds).bind Idl.dropBlanks?).bind
      Idl.typeAndName?) := by
    apply eq_of_rel_eq
    refine rel_bind (rel_bind (h.dropWord? (by decide)) fun _ _ h => h.dropBlanks?) ?_
    intro u v huv
    rw [huv.typeAndName?]
    cases Idl.typeAndName? v with
    | none => exact .none
    | some _ => exact .some rfl
  rw [Idl.fieldHeader?, Idl.fieldHeader?, hrepeated, h.typeAndName?]

end Aligned

end Formwork.Idl
