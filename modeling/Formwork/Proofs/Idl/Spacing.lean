import Formwork.Proofs.Idl.OptionLines
import Formwork.Proofs.Idl.Reading
import Formwork.Proofs.Idl.Search
import Formwork.Proofs.Idl.Tightens

/-!
Option lists with shorter runs of blanks. Both lists have an entry at the same places; a truth value
reads the same in both, and so does a text, unless the text itself holds a run that is shortened.
A literal holds no such run. But the closing quote of a literal that ends in a key and an equals sign
counts as the opening quote of a text, and this text goes on over the blanks behind the literal.
-/
namespace Formwork.Idl
open Formwork.Text Formwork.Pattern

variable {m n : List Marked} {cs ds : List Char} {key : String}

theorem ne_space_of_ne {x : Marked} (h : x.1 ≠ ' ') : x ≠ space := fun e => h (congrArg (·.1) e)

/-! ### Entries -/

/-- No character of the word stands for a blank. -/
def Spaceless (w : List Char) : Prop := ∀ c ∈ w, Fold.unicode.same c.toNat ' '.toNat = false

theorem Spaceless.of_isAsciiWord {w : List Char} (hw : ∀ c ∈ w, isAsciiWord c = true) :
    Spaceless w :=
  fun c hc => same_eq_false (hw c hc) (by decide)

namespace Aligned

theorem dropFolded? {w : List Char} (hw : Spaceless w) (h : Aligned m n cs ds) :
    Option.Rel (Aligned m n) (dropFolded? w cs) (dropFolded? w ds) := by
  induction w generalizing cs ds with
  | nil => exact .some h
  | cons w ws ih =>
    obtain ⟨hw, hws⟩ := List.forall_mem_cons.1 hw
    obtain ⟨rfl, rfl⟩ | ⟨c, cs, ds, rfl, rfl, htail⟩ := h.next
    · exact .none
    · rw [Text.dropFolded?, Text.dropFolded?]
      by_cases hc : Fold.unicode.same w.toNat c.toNat = true
      · rw [if_pos hc, if_pos hc]
        refine ih hws (htail fun e => ?_)
        rw [e, hw] at hc
        cases hc
      · rw [if_neg hc, if_neg hc]
        exact .none

theorem afterQualifiers {best best' : List Char} (hbest : Aligned m n best best') (inName : Bool)
    (h : Aligned m n cs ds) :
    Aligned m n (afterQualifiers best inName cs) (afterQualifiers best' inName ds) := by
  induction cs generalizing ds best best' inName with
  | nil =>
    obtain rfl : ds = [] := List.head?_eq_none_iff.1 h.head?_eq.symm
    exact hbest
  | cons c cs ih =>
    obtain ⟨hnil, -⟩ | ⟨d, cs', ds', hcs, rfl, htail⟩ := h.next
    · cases hnil
    · obtain ⟨rfl, rfl⟩ := List.cons.inj hcs
      rw [Idl.afterQualifiers, Idl.afterQualifiers]
      by_cases hc : c = ' '
      · subst hc
        simpa [show isWord ' ' = false by decide, show beginsName ' ' = false by decide] using hbest
      · have hrest := htail hc
        split_ifs
        · exact ih hrest false hrest
        · exact ih hbest true hrest
        · exact hbest
        · exact ih hbest true hrest
        · exact hbest

/-- The values of two entries begin at places that stand for each other. -/
theorem entryValue? (hkey : key ∈ optionKeys) (h : Aligned m n cs ds) :
    Option.Rel (Aligned m n) (entryValue? key cs) (entryValue? key ds) := by
  have hnamed := h.dropOptional (c := '(') (by decide)
  refine rel_bind ((hnamed.afterQualifiers false hnamed).dropFolded?
    (.of_isAsciiWord (isAsciiWord_of_mem_optionKeys key hkey))) fun u v huv => ?_
  obtain ⟨hu, hv⟩ | ⟨c, cs', ds', hu, hv, htail⟩ :=
    (huv.dropOptional (c := ')') (by decide)).stripLeft.next
  · rw [hu, hv]
    exact .none
  · rw [hu, hv]
    by_cases hc : c = '='
    · subst hc
      exact .some (htail (by decide)).stripLeft
    · rw [afterEquals?.eq_def, afterEquals?.eq_def]
      simp [hc]

theorem keyword?_isSome {w : String} (hw : Spaceless w.toList) (h : Aligned m n cs ds) :
    (keyword? [w] cs).isSome = (keyword? [w] ds).isSome := by
  rw [keyword?_singleton, keyword?_singleton]
  obtain ⟨hu, hv⟩ | ⟨u, v, hu, hv, h⟩ := none_or_some_of_rel (h.dropFolded? hw)
  · rw [hu, hv]
  · rw [hu, hv, Option.filter_some, Option.filter_some, h.head?_eq]
    split <;> rfl

theorem truthAt? (h : Aligned m n cs ds) : truthAt? cs = truthAt? ds := by
  have hword (b : Bool) : Spaceless (truthWord b) := .of_isAsciiWord (isAsciiWord_truthWord b)
  rw [Idl.truthAt?, Idl.truthAt?, h.keyword?_isSome (hword true), h.keyword?_isSome (hword false)]

end Aligned

/-! ### The search -/

variable {α : Type} {value? : List Char → Option α}

/-- The search first finds where the value begins, and then reads it. -/
theorem entryFrom?_eq_bind (before : Option Char) (cs : List Char) :
    entryFrom? key value? before cs =
      (entryFrom? key (fun v => (value? v).map fun _ => v) before cs).bind value? := by
  induction cs generalizing before with
  | nil => rfl
  | cons c cs ih =>
    rw [entryFrom?_cons, entryFrom?_cons, ih]
    cases blocked before with
    | true => rfl
    | false =>
      cases entryValue? key (c :: cs) with
      | none => rfl
      | some v =>
        simp only [Bool.false_eq_true, if_false, Option.bind_some]
        cases hv : value? v with
        | none => rfl
        | some a => simp [hv]

/-- The search stops at places that stand for each other. -/
theorem Aligned.entryFrom? (hkey : key ∈ optionKeys)
    (hvalue : ∀ v w, Aligned m n v w → (value? v).isSome = (value? w).isSome) {m' n' : List Marked}
    (hm : m' <:+ m) (hn : n' <:+ n) (h : Tightens space m' n') (before : Option Char) :
    Option.Rel (Aligned m n)
      (entryFrom? key (fun v => (value? v).map fun _ => v) before (m'.map (·.1)))
      (entryFrom? key (fun v => (value? v).map fun _ => v) before (n'.map (·.1))) := by
  induction h generalizing before with
  | nil => exact .none
  | @cons x xs ys h ih =>
    have hgo := ih ((List.suffix_cons x xs).trans hm) ((List.suffix_cons x ys).trans hn) (some x.1)
    have hhere : Aligned m n (x.1 :: xs.map (·.1)) (x.1 :: ys.map (·.1)) :=
      ⟨_, _, hm, hn, rfl, rfl, .cons x h⟩
    rw [List.map_cons, List.map_cons, entryFrom?_cons, entryFrom?_cons]
    cases blocked before with
    | true => exact hgo
    | false =>
      obtain ⟨hv, hw⟩ | ⟨v, w, hv, hw, hvw⟩ := none_or_some_of_rel (hhere.entryValue? hkey)
      · rw [hv, hw]
        exact hgo
      · have hsome := hvalue v w hvw
        rw [hv, hw]
        simp only [Bool.false_eq_true, if_false, Option.bind_some]
        cases hx : value? v <;> cases hy : value? w
        · exact hgo
        · simp [hx, hy] at hsome
        · simp [hx, hy] at hsome
        · exact .some hvw
  | @drop xs ys h ih =>
    obtain ⟨zs, rfl⟩ : ∃ zs, ys = space :: zs := List.head?_eq_some_iff.1 h.head?_eq.symm
    have hgo := ih ((List.suffix_cons _ _).trans hm) hn (some ' ')
    have hmark : IsMark ' ' := by decide
    simp only [List.map_cons, space, entryFrom?_mark hkey hmark] at hgo ⊢
    exact hgo

/-- A truth value is read the same. -/
theorem Tightens.entryTruth? (hkey : key ∈ optionKeys) (h : Tightens space m n) :
    entryTruth? key (m.map (·.1)) = entryTruth? key (n.map (·.1)) := by
  have hvalue (v w : List Char) (hvw : Aligned m n v w) :
      (truthAt? v).isSome = (truthAt? w).isSome := by rw [hvw.truthAt?]
  have hsearch := Aligned.entryFrom? hkey hvalue List.suffix_rfl List.suffix_rfl h none
  rw [Idl.entryTruth?, Idl.entryTruth?, entryFrom?_eq_bind, entryFrom?_eq_bind none (n.map (·.1))]
  apply eq_of_rel_eq
  refine rel_bind hsearch fun v w hvw => ?_
  rw [hvw.truthAt?]
  cases truthAt? w with
  | none => exact .none
  | some _ => exact .some rfl

/-! ### Texts -/

theorem isSome_quotedContent?_cons {c : Char} (hq : c ≠ '"') (hb : c ≠ '\\') :
    (quotedContent? (c :: cs)).isSome = (quotedContent? cs).isSome := by
  rw [quotedContent?.eq_def]
  split
  · next h => cases h
  · next h => exact (hq (List.cons.inj h).1).elim
  · next h => exact (hb (List.cons.inj h).1).elim
  · next h =>
    obtain ⟨rfl, rfl⟩ := List.cons.inj h
    rw [if_neg hb, Option.isSome_map]

theorem isSome_quotedContent?_pair {c : Char} (hn : c ≠ '\n') :
    (quotedContent? ('\\' :: c :: cs)).isSome = (quotedContent? cs).isSome := by
  rw [quotedContent?, if_neg hn, Option.isSome_map]

theorem Tightens.isSome_quotedContent? (h : Tightens ' ' cs ds) :
    (quotedContent? cs).isSome = (quotedContent? ds).isSome := by
  fun_induction quotedContent? cs generalizing ds with
  | case1 =>
    cases h
    rfl
  | case2 cs =>
    cases h
    rfl
  | case3 cs =>
    obtain ⟨ds, rfl⟩ : ∃ ds', ds = '\\' :: '\n' :: ds' := by
      cases h with
      | cons _ h => cases h; exact ⟨_, rfl⟩
    rfl
  | case4 c cs hc ih =>
    rw [Option.isSome_map]
    cases h with
    | cons _ h =>
      cases h with
      | cons _ h => rw [isSome_quotedContent?_pair hc, ih h]
      | drop h =>
        -- The first blank is protected, the second is not.
        obtain ⟨ds, rfl⟩ := List.head?_eq_some_iff.1 h.head?_eq.symm
        rw [ih h, isSome_quotedContent?_pair hc, isSome_quotedContent?_cons (by decide) (by decide)]
  | case5 cs _ hpair =>
    obtain rfl : cs = [] := by
      cases cs with
      | nil => rfl
      | cons c cs => exact (hpair c cs rfl rfl).elim
    cases h with
    | cons _ h => cases h; rfl
  | case6 c cs hquote hpair hc ih =>
    rw [Option.isSome_map]
    cases h with
    | cons _ h => rw [isSome_quotedContent?_cons hquote hc, ih h]
    | drop h => exact ih h

theorem Aligned.isSome_quotedText? (h : Aligned m n cs ds) :
    (quotedText? cs).isSome = (quotedText? ds).isSome := by
  obtain ⟨rfl, rfl⟩ | ⟨c, cs, ds, rfl, rfl, htail⟩ := h.next
  · rfl
  · by_cases hc : c = '"'
    · subst hc
      rw [quotedText?, quotedText?, Option.isSome_map, Option.isSome_map,
        (htail (by decide)).tightens.isSome_quotedContent?]
    · rw [quotedText?.eq_def, quotedText?.eq_def]
      simp [hc]

/-- The stretch of an option list that the search for a text takes for its value, with the quotes
around it; empty if it finds none. -/
def valueMarks (key : String) (options : List Marked) : List Marked :=
  match entryFrom? key (fun v => (quotedText? v).map fun (_, rest) => (v.length, rest.length)) none
    (options.map (·.1)) with
  | some (start, stop) => (options.drop (options.length - start)).take (start - stop)
  | none => []

/-- Where a text entry with the key has its value. -/
def textValue? (key : String) (cs : List Char) : Option (List Char) :=
  entryFrom? key (fun v => (quotedText? v).map fun _ => v) none cs

theorem entryText?_eq_bind (cs : List Char) :
    entryText? key cs = (textValue? key cs).bind fun v => (quotedText? v).map (·.1) := by
  rw [entryText?, entryFrom?_eq_bind]
  simp only [Option.map_map]
  rfl

theorem valueMarks_eq {front value rest : List Marked} {text : List Char}
    (hv : textValue? key ((front ++ (value ++ rest)).map (·.1)) = some ((value ++ rest).map (·.1)))
    (ht : quotedText? ((value ++ rest).map (·.1)) = some (text, rest.map (·.1))) :
    valueMarks key (front ++ (value ++ rest)) = value := by
  have hfound : entryFrom? key (fun v => (quotedText? v).map fun (_, rest) =>
      (v.length, rest.length)) none ((front ++ (value ++ rest)).map (·.1)) =
        some ((value ++ rest).length, rest.length) := by
    rw [textValue?] at hv
    rw [entryFrom?_eq_bind]
    simp only [Option.map_map, Function.comp_def, hv, Option.bind_some, ht, Option.map_some,
      List.length_map]
  rw [valueMarks, hfound]
  simp only [List.length_append, Nat.add_sub_cancel]
  rw [List.drop_left' rfl, List.take_left' rfl]

/-- A text is read the same if its value holds no run of blanks outside literals. -/
theorem Tightens.entryText? (hkey : key ∈ optionKeys) (h : Tightens space m n)
    (hfirm : ¬[space, space] <:+: valueMarks key m) :
    entryText? key (m.map (·.1)) = entryText? key (n.map (·.1)) := by
  have hsearch : Option.Rel (Aligned m n) (textValue? key (m.map (·.1)))
      (textValue? key (n.map (·.1))) :=
    Aligned.entryFrom? hkey (fun v w hvw => hvw.isSome_quotedText?) List.suffix_rfl
      List.suffix_rfl h none
  rw [entryText?_eq_bind, entryText?_eq_bind]
  obtain ⟨hv, hw⟩ | ⟨v, w, hv, hw, hvw⟩ := none_or_some_of_rel hsearch
  · rw [hv, hw]
  · rw [hv, hw, Option.bind_some, Option.bind_some]
    have hsome := hvw.isSome_quotedText?
    cases hq : quotedText? v with
    | none =>
      cases hq' : quotedText? w with
      | none => rfl
      | some _ => simp [hq, hq'] at hsome
    | some found =>
      obtain ⟨text, rest⟩ := found
      obtain ⟨content, hcontent, hread, -⟩ := quotedText?_eq hq
      obtain ⟨m', n', ⟨front, hm⟩, -, rfl, rfl, htight⟩ := hvw
      obtain ⟨q, tail, rfl, hq₁, htail⟩ := List.map_eq_cons_iff.1 hcontent
      obtain ⟨inner, tail, rfl, hinner, htail⟩ := List.map_eq_append_iff.1 htail
      obtain ⟨q', behind, rfl, hq₂, rfl⟩ := List.map_eq_cons_iff.1 htail
      have hassoc : q :: (inner ++ q' :: behind) = q :: (inner ++ [q']) ++ behind := by simp
      have hvalue : valueMarks key m = q :: (inner ++ [q']) := by
        rw [hassoc] at hm hq hv
        rw [← hm]
        exact valueMarks_eq (hm.symm ▸ hv) hq
      -- The value ends in a quote, which is no blank, so it is shortened on its own.
      have hne : q' ≠ space := ne_space_of_ne (by rw [hq₂]; decide)
      rw [← List.cons_append] at htight
      obtain ⟨inner', behind', rfl, hin, -⟩ := htight.of_append_cons hne
      have hsame := hin.eq_of_not_infix fun hi => hfirm <| hvalue ▸ hi.trans
        (List.prefix_append (q :: inner) [q']).isInfix
      subst hsame
      have hagain := hread (behind'.map (·.1))
      simp only [List.map_cons, List.map_append, List.cons_append, hq₁, hq₂, hinner, hagain,
        Option.map_some]

/-! ### Option lists in statements -/

/-- The option list of a statement, with the classes that its characters have in the statement. -/
def optionMarks (statement : List Char) : List Marked :=
  ((mark statement).drop ((statement.takeWhile (· != '[')).length + 1)).take
    (optionList statement).length

variable {s s' : List Char} {d u o r : List Marked} {a b x : Marked}

theorem optionList_eq_bind (cs : List Char) :
    optionList (cs ++ [';']) = ((afterFirst? '[' cs).bind (beforeLast? ']')).getD [] := by
  rw [optionList, beforeLast?_append (v := []) List.not_mem_nil, Option.getD_some]

theorem optionList_of_no_open {cs : List Char} (h : '[' ∉ cs) : optionList (cs ++ [';']) = [] := by
  rw [optionList_eq_bind, afterFirst?_eq_none h]
  rfl

theorem optionList_of_no_close {us cs : List Char} (hu : '[' ∉ us) (hc : ']' ∉ cs) :
    optionList ((us ++ '[' :: cs) ++ [';']) = [] := by
  rw [optionList_eq_bind, afterFirst?_append hu, Option.bind_some, beforeLast?_eq_none hc]
  rfl

theorem text_of_mark (hs : mark s = m) : s = m.map (·.1) := by
  rw [← hs, mark_map_fst]

theorem optionMarks_eq (hs : mark s = (u ++ a :: (o ++ b :: r)) ++ [x]) (ha : a.1 = '[')
    (hb : b.1 = ']') (hx : x.1 = ';') (hu : '[' ∉ u.map (·.1)) (hr : ']' ∉ r.map (·.1)) :
    optionMarks s = o ∧ optionList s = o.map (·.1) := by
  have htext : s = (u.map (·.1) ++ '[' :: (o.map (·.1) ++ ']' :: r.map (·.1))) ++ [';'] := by
    rw [text_of_mark hs]
    simp [ha, hb, hx]
  have hlist : optionList s = o.map (·.1) := by
    rw [htext, optionList_eq_bind, afterFirst?_append hu, Option.bind_some, beforeLast?_append hr,
      Option.getD_some]
  have hfront : (s.takeWhile (· != '[')).length = u.length := by
    rw [htext, List.append_assoc, List.takeWhile_append_of_pos]
    · simp
    · intro c hc
      exact bne_iff_ne.2 fun e => hu (e ▸ hc)
  refine ⟨?_, hlist⟩
  rw [optionMarks, hlist, hfront, hs, List.append_assoc, ← List.drop_drop, List.drop_left' rfl]
  simp

theorem optionMarks_eq_nil (h : optionList s = []) : optionMarks s = [] := by
  rw [optionMarks, h]
  rfl

/-- The option lists of two statements that agree up to runs of blanks outside literals agree up to
such runs. -/
theorem Tightens.optionMarks (h : Tightens space (mark s) (mark s')) (hs : s.getLast? = some ';') :
    Tightens space (optionMarks s) (optionMarks s') ∧
      (optionMarks s).map (·.1) = optionList s ∧ (optionMarks s').map (·.1) = optionList s' := by
  have hnone (hs : optionList s = []) (hs' : optionList s' = []) :
      Tightens space (Idl.optionMarks s) (Idl.optionMarks s') ∧
        (Idl.optionMarks s).map (·.1) = optionList s ∧
        (Idl.optionMarks s').map (·.1) = optionList s' := by
    rw [optionMarks_eq_nil hs, optionMarks_eq_nil hs', hs, hs']
    exact ⟨.nil, rfl, rfl⟩
  obtain ⟨cs, rfl⟩ := List.getLast?_eq_some_iff.1 hs
  obtain ⟨d, last, hd, hcs, hlast⟩ := List.map_eq_append_iff.1 (mark_map_fst (cs ++ [';']))
  obtain ⟨x, rfl, hx⟩ := List.map_eq_singleton_iff.1 hlast
  rw [hd] at h
  obtain ⟨d', last, hd', hdd, hlast⟩ := h.of_append_cons (ne_space_of_ne (by rw [hx]; decide))
  cases hlast
  have htext' := text_of_mark hd'
  rw [List.map_append, List.map_singleton, hx] at htext'
  subst hcs
  by_cases hopen : '[' ∈ d.map (·.1)
  · obtain ⟨_, _, he, hu⟩ := List.eq_append_cons_of_mem hopen
    obtain ⟨u, p, rfl, rfl, hp⟩ := List.map_eq_append_iff.1 he
    obtain ⟨a, p, rfl, ha, rfl⟩ := List.map_eq_cons_iff.1 hp
    obtain ⟨u', p', rfl, huu, hpp⟩ := hdd.of_append_cons (ne_space_of_ne (by rw [ha]; decide))
    have hu' := fun hmem => hu ((huu.map (·.1)).mem_iff.2 hmem)
    by_cases hclose : ']' ∈ p.map (·.1)
    · obtain ⟨_, _, he, hr⟩ := exists_append_cons_of_mem hclose
      obtain ⟨o, r, rfl, rfl, hr'⟩ := List.map_eq_append_iff.1 he
      obtain ⟨b, r, rfl, hb, rfl⟩ := List.map_eq_cons_iff.1 hr'
      obtain ⟨o', r', rfl, hoo, hrr⟩ := hpp.of_append_cons (ne_space_of_ne (by rw [hb]; decide))
      have hr' := fun hmem => hr ((hrr.map (·.1)).mem_iff.2 hmem)
      obtain ⟨hmarks, hlist⟩ := optionMarks_eq hd ha hb hx hu hr
      obtain ⟨hmarks', hlist'⟩ := optionMarks_eq hd' ha hb hx hu' hr'
      rw [hmarks, hmarks', hlist, hlist']
      exact ⟨hoo, rfl, rfl⟩
    · have hclose' := fun hmem => hclose ((hpp.map (·.1)).mem_iff.2 hmem)
      rw [List.map_append, List.map_cons, ha] at htext'
      refine hnone ?_ (htext' ▸ optionList_of_no_close hu' hclose')
      rw [List.map_append, List.map_cons, ha]
      exact optionList_of_no_close hu hclose
  · have hopen' := fun hmem => hopen ((hdd.map (·.1)).mem_iff.2 hmem)
    exact hnone (optionList_of_no_open hopen) (htext' ▸ optionList_of_no_open hopen')

end Formwork.Idl
