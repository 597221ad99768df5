import Formwork.Proofs.Idl.Entries

/-!
What the search for an entry finds in a written option list: the first entry that gives a value to
the key, where the content of a literal is searched like the rest of the list.
-/
namespace Formwork.Idl
open Formwork.Text Formwork.Pattern

variable {key : String}

/-- An entry begins behind no word character and no dot. -/
def blocked (before : Option Char) : Bool := before.any fun b => isWord b || b == '.'

variable {α : Type} {value? : List Char → Option α} {before : Option Char}

theorem entryFrom?_cons (c : Char) (cs : List Char) :
    entryFrom? key value? before (c :: cs) =
      (if blocked before then none else (entryValue? key (c :: cs)).bind value?).orElse fun _ =>
        entryFrom? key value? (some c) cs := by
  rw [entryFrom?, entryAt?_eq]
  rfl

theorem entryFrom?_congr {before' : Option Char} (h : blocked before = blocked before')
    (cs : List Char) : entryFrom? key value? before cs = entryFrom? key value? before' cs := by
  cases cs with
  | nil => rfl
  | cons c cs => rw [entryFrom?_cons, entryFrom?_cons, h]

theorem entryFrom?_cons_of_none {c : Char} {cs : List Char}
    (h : blocked before = true ∨ entryValue? key (c :: cs) = none) :
    entryFrom? key value? before (c :: cs) = entryFrom? key value? (some c) cs := by
  rw [entryFrom?_cons]
  rcases h with h | h
  · rw [if_pos h]
    rfl
  · rw [h]
    split <;> rfl

/-- The search passes over a word, dotted or not, that it stands in. -/
theorem entryFrom?_word_append {w : List Char} (hw : ∀ c ∈ w, blocked (some c) = true)
    (hb : blocked before = true) (r : List Char) :
    entryFrom? key value? before (w ++ r) = entryFrom? key value? before r := by
  induction w generalizing before with
  | nil => rfl
  | cons c w ih =>
    have hc := hw c List.mem_cons_self
    rw [List.cons_append, entryFrom?_cons_of_none (.inl hb),
      ih (fun d hd => hw d (List.mem_cons_of_mem _ hd)) hc]
    exact entryFrom?_congr (hc.trans hb.symm) r

/-- The search goes on behind a mark. -/
theorem entryFrom?_mark (hkey : key ∈ optionKeys) {c : Char} (hc : IsMark c) (cs : List Char) :
    entryFrom? key value? before (c :: cs) = entryFrom? key value? (some c) cs :=
  entryFrom?_cons_of_none (.inr (entryValue?_of_mark hkey hc cs))

/-- The search goes on behind a separator. -/
theorem entryFrom?_separator (hkey : key ∈ optionKeys) {sep : List Char} (hsep : Separates sep)
    (cs : List Char) :
    entryFrom? key value? before (sep ++ cs) = entryFrom? key value? (some ' ') cs := by
  obtain ⟨hne, hcomma⟩ := hsep
  induction sep generalizing before with
  | nil => exact (hne rfl).elim
  | cons c sep ih =>
    obtain ⟨hc, hsep⟩ := List.forall_mem_cons.1 hcomma
    have hmark : IsMark c ∧ blocked (some c) = false := by
      rcases hc with rfl | hc
      · decide
      · have hword := isWord_of_isBlank hc
        refine ⟨⟨hword, ?_⟩, ?_⟩
        · rintro rfl
          exact absurd hc (by decide)
        · have hdot : c ≠ '.' := by
            rintro rfl
            exact absurd hc (by decide)
          simp [blocked, hword, hdot]
    rw [List.cons_append, entryFrom?_mark hkey hmark.1]
    cases sep with
    | nil => exact entryFrom?_congr (hmark.2.trans (by decide)) cs
    | cons d sep => exact ih (List.cons_ne_nil d sep) hsep

/-- The search finds the entry that it stands before, or goes on behind its equals sign. -/
theorem entryFrom?_keyed {k : String} (hkey : key ∈ optionKeys) (hk : IsKey k.toList)
    (hb : blocked before = false) (cs : List Char) :
    entryFrom? key value? before (keyed k cs) =
      (if Names k key then value? (stripLeft cs) else none).orElse fun _ =>
        entryFrom? key value? (some ' ') cs := by
  obtain ⟨hopen, hbare⟩ := entryValue?_keyed hkey hk cs
  have hblocked (c : Char) (hc : c ∈ k.toList) : blocked (some c) = true := by
    rcases hk.isWord c hc with hc | rfl
    · simp [blocked, hc]
    · decide
  have hbind : (if Names k key then some (stripLeft cs) else none).bind value? =
      if Names k key then value? (stripLeft cs) else none := by
    split <;> rfl
  have htail (b : Char) (hb : blocked (some b) = true) :
      entryFrom? key value? (some b) (')' :: ' ' :: '=' :: ' ' :: cs) =
        entryFrom? key value? (some ' ') cs := by
    rw [entryFrom?_cons_of_none (.inl hb), entryFrom?_mark hkey (by decide),
      entryFrom?_mark hkey (by decide), entryFrom?_mark hkey (by decide)]
  have hrest : entryFrom? key value? (some '(') (k.toList ++ ')' :: ' ' :: '=' :: ' ' :: cs) =
      (if Names k key then value? (stripLeft cs) else none).orElse fun _ =>
        entryFrom? key value? (some ' ') cs := by
    cases h : k.toList with
    | nil => rw [h] at hk; exact (hk.ne_nil rfl).elim
    | cons c w =>
      rw [h] at hbare hblocked
      obtain ⟨hc, hw⟩ := List.forall_mem_cons.1 hblocked
      rw [List.cons_append] at hbare ⊢
      rw [entryFrom?_cons, if_neg (by decide), hbare, hbind, entryFrom?_word_append hw hc,
        htail c hc]
  rw [keyed] at hopen ⊢
  rw [entryFrom?_cons, hb, if_neg (by simp), hopen, hbind, hrest]
  cases (if Names k key then value? (stripLeft cs) else none) <;> rfl

/-! ### Literals -/

/-- The content of a literal is searched like the rest of the list, except that a value is read in
its written form and with what follows the literal. -/
theorem entryFrom?_inLiteral (hkey : key ∈ optionKeys) (rest s : List Char) :
    entryFrom? key value? before (inLiteral rest s) =
      (entryFrom? key (fun t => value? (inLiteral rest t)) before s).orElse fun _ =>
        entryFrom? key value? (some '"') rest := by
  induction s generalizing before with
  | nil => exact entryFrom?_mark hkey (by decide) rest
  | cons c s ih =>
    by_cases h : c = '"' ∨ c = '\\'
    · have hc : IsMark c := by rcases h with rfl | rfl <;> decide
      rw [inLiteral_cons rest s h, entryFrom?_mark hkey (by decide), entryFrom?_mark hkey hc, ih,
        entryFrom?_mark hkey hc]
    · rw [not_or] at h
      have hvalue := entryValue?_inLiteral rest (c :: s) (unquoted_of_mem_optionKeys hkey)
      rw [inLiteral_cons_of_ne rest s h.1 h.2] at hvalue ⊢
      rw [entryFrom?_cons, entryFrom?_cons, hvalue, ih, Option.bind_map]
      simp only [Function.comp_def]
      cases (if blocked before = true then none
        else (entryValue? key (c :: s)).bind fun t => value? (inLiteral rest t)) <;> rfl

/-- A search with a value that is the same wherever it is readable. -/
theorem entryFrom?_const (p : List Char → Bool) (x : Option α) (cs : List Char) :
    entryFrom? key (fun t => if p t then x else none) before cs =
      if (entryFrom? key (fun t => if p t then some () else none) before cs).isSome then x
      else none := by
  induction cs generalizing before with
  | nil => rfl
  | cons c cs ih =>
    have hbind (o : Option (List Char)) :
        (o.bind fun t => if p t then x else none) =
          if (o.bind fun t => if p t then some () else none).isSome then x else none := by
      cases o with
      | none => rfl
      | some t => cases h : p t <;> simp [h]
    rw [entryFrom?_cons, entryFrom?_cons, ih, hbind]
    cases blocked before with
    | true => rfl
    | false =>
      cases (entryValue? key (c :: cs)).bind fun t => if p t then some () else none with
      | none => simp
      | some u => cases x <;> simp

theorem quotedContent?_escape_append (s r : List Char) :
    quotedContent? (escape s ++ '"' :: r) = some (escape s, r) := by
  induction s with
  | nil => rfl
  | cons c s ih =>
    by_cases h : c = '"' ∨ c = '\\'
    · have hn : c ≠ '\n' := by rcases h with rfl | rfl <;> decide
      simp only [escape, h, if_true, List.cons_append]
      rw [quotedContent?, if_neg hn, ih]
      rfl
    · rw [not_or] at h
      rw [escape_cons_of_ne h.1 h.2, List.cons_append, quotedContent?, if_neg h.2, ih]
      · rfl
      · exact h.1
      · intro d t hc
        exact (h.2 hc).elim

theorem quotedText?_literal_append (s r : List Char) :
    quotedText? (literal s ++ r) = some (s, r) := by
  have h := quotedContent?_escape_append s r
  have hl : literal s ++ r = '"' :: (escape s ++ '"' :: r) := by simp [literal]
  rw [hl, quotedText?, h]
  simp [unescapeQuoted_escape]

theorem quotedText?_truthWord_append (b : Bool) (r : List Char) :
    quotedText? (truthWord b ++ r) = none := by
  cases b <;> rfl

/-- Neither a quote nor a backslash. -/
def IsBare (c : Char) : Prop := c ≠ '"' ∧ c ≠ '\\'

instance (c : Char) : Decidable (IsBare c) := by
  unfold IsBare
  infer_instance

theorem quotedContent?_append_of_bare {u : List Char} (h : ∀ c ∈ u, IsBare c) (r : List Char) :
    quotedContent? (u ++ r) = (quotedContent? r).map fun (content, rest) => (u ++ content, rest) := by
  induction u with
  | nil =>
    rw [List.nil_append]
    cases quotedContent? r <;> rfl
  | cons c u ih =>
    have hc := h c List.mem_cons_self
    have ih := ih fun d hd => h d (List.mem_cons_of_mem _ hd)
    rw [List.cons_append, quotedContent?, if_neg hc.2, ih, Option.map_map]
    · rfl
    · exact hc.1
    · intro d t hd
      exact (hc.2 hd).elim

theorem unescapeQuoted_of_bare {u : List Char} (h : ∀ c ∈ u, IsBare c) : unescapeQuoted u = u := by
  have hescape : escape u = u := by
    induction u with
    | nil => rfl
    | cons c u ih =>
      have hc := h c List.mem_cons_self
      rw [escape_cons_of_ne hc.1 hc.2, ih fun d hd => h d (List.mem_cons_of_mem _ hd)]
  rw [← hescape, unescapeQuoted_escape, hescape]

theorem bare_of_isAsciiWord {w : List Char} (hw : ∀ c ∈ w, isAsciiWord c = true) :
    ∀ c ∈ w, IsBare c := by
  intro c hc
  constructor
  · rintro rfl
    exact absurd (hw _ hc) (by decide)
  · rintro rfl
    exact absurd (hw _ hc) (by decide)

theorem IsKey.bare {k : List Char} (hk : IsKey k) : ∀ c ∈ k, IsBare c := by
  intro c hc
  constructor
  · rintro rfl
    exact absurd (hk.isWord _ hc) (by decide)
  · rintro rfl
    exact absurd (hk.isWord _ hc) (by decide)

theorem Separates.bare {sep : List Char} (hsep : Separates sep) : ∀ c ∈ sep, IsBare c := by
  intro c hc
  rcases hsep.comma c hc with rfl | hblank
  · decide
  · constructor
    · rintro rfl
      exact absurd hblank (by decide)
    · rintro rfl
      exact absurd hblank (by decide)

theorem bare_keyed {k : String} (hk : IsKey k.toList) {value : List Char}
    (hv : ∀ c ∈ value, IsBare c) : ∀ c ∈ keyed k value, IsBare c := by
  have hmarks : ∀ c ∈ ['(', ')', ' ', '='], IsBare c := by decide
  simp only [List.forall_mem_cons] at hmarks
  obtain ⟨hopen, hclose, hspace, hequals, -⟩ := hmarks
  intro c hc
  simp only [keyed, List.mem_cons, List.mem_append] at hc
  rcases hc with rfl | hc | rfl | rfl | rfl | rfl | hc
  · exact hopen
  · exact hk.bare c hc
  · exact hclose
  · exact hspace
  · exact hequals
  · exact hspace
  · exact hv c hc

theorem bare_truthWord (b : Bool) : ∀ c ∈ truthWord b, IsBare c :=
  bare_of_isAsciiWord (isAsciiWord_truthWord b)

theorem keyed_append (k : String) (u v : List Char) : keyed k (u ++ v) = keyed k u ++ v := by
  simp [keyed]

section

variable {sep : List Char} {es : List Entry} (hsep : Separates sep)
  (hes : ∀ e ∈ es, IsKey e.key.toList)

include hsep hes

theorem bare_upToLiteral {u : List Char} (h : upToLiteral sep es = some u) :
    ∀ c ∈ u, IsBare c := by
  induction es generalizing u with
  | nil => cases h
  | cons e es ih =>
    obtain ⟨hk, hmore⟩ := List.forall_mem_cons.1 hes
    intro c hc
    cases e with
    | text k s =>
      rw [← Option.some.inj h] at hc
      exact (List.mem_append.1 hc).elim (hsep.bare c) (bare_keyed hk (by simp) c)
    | truth k b =>
      obtain ⟨v, hv, rfl⟩ := Option.map_eq_some_iff.1 h
      rcases List.mem_append.1 hc with hc | hc
      · exact (List.mem_append.1 hc).elim (hsep.bare c) (bare_keyed hk (bare_truthWord b) c)
      · exact ih hmore hv c hc

theorem quotedContent?_moreEntries :
    (quotedContent? (moreEntries sep es)).map (·.1) = upToLiteral sep es := by
  induction es with
  | nil => rfl
  | cons e es ih =>
    obtain ⟨hk, hmore⟩ := List.forall_mem_cons.1 hes
    have ih := ih hmore
    have hbare {v : List Char} (hv : ∀ c ∈ v, IsBare c) : ∀ c ∈ sep ++ keyed e.key v, IsBare c :=
      fun c hc => (List.mem_append.1 hc).elim (hsep.bare c) (bare_keyed hk hv c)
    cases e with
    | text k s =>
      rw [Entry.key] at hbare
      have he : moreEntries sep (.text k s :: es) =
          (sep ++ keyed k []) ++ (literal s ++ moreEntries sep es) := by
        rw [List.append_assoc, ← keyed_append]
        rfl
      rw [he, quotedContent?_append_of_bare (hbare (by simp)), literal]
      simp [quotedContent?, upToLiteral]
    | truth k b =>
      rw [Entry.key] at hbare
      have he : moreEntries sep (.truth k b :: es) =
          (sep ++ keyed k (truthWord b)) ++ moreEntries sep es := by
        rw [List.append_assoc, ← keyed_append]
        rfl
      rw [he, quotedContent?_append_of_bare (hbare (bare_truthWord b)), Option.map_map, upToLiteral,
        ← ih, Option.map_map]
      rfl

/-- From the closing quote of a literal a text is read that ends before the next literal. -/
theorem quotedText?_upToLiteral :
    (quotedText? ('"' :: moreEntries sep es)).map (·.1) = upToLiteral sep es := by
  have h := quotedContent?_moreEntries hsep hes
  rw [quotedText?, Option.map_map]
  cases hc : quotedContent? (moreEntries sep es) with
  | none =>
    rw [hc] at h
    exact h
  | some found =>
    rw [hc] at h
    have hbare := bare_upToLiteral hsep hes h.symm
    rw [← h]
    simp only [Option.map_some, Function.comp_apply, unescapeQuoted_of_bare hbare]

end

/-! ### Truth values -/

theorem head?_any_isWord_inLiteral (rest s : List Char) :
    (inLiteral rest s).head?.any isWord = s.head?.any isWord := by
  have hq : isWord '"' = false := by decide
  have hb : isWord '\\' = false := by decide
  rcases inLiteral_cases rest s with ⟨rfl, e⟩ | ⟨c, t, rfl, h₁, h₂, e⟩ | ⟨c, t, rfl, h, e⟩
  · rw [e]
    simp [hq]
  · rw [e]
    rfl
  · rw [e]
    rcases h with rfl | rfl <;> simp [hq, hb]

theorem keyword?_singleton (w : String) (cs : List Char) :
    keyword? [w] cs = (dropFolded? w.toList cs).filter fun rest => !rest.head?.any isWord := by
  rw [keyword?, List.findSome?_cons, List.findSome?_nil]
  cases (dropFolded? w.toList cs).filter fun rest => !rest.head?.any isWord <;> rfl

theorem keyword?_eq_some {w : String} {cs r : List Char} (h : dropFolded? w.toList cs = some r)
    (hr : r.head?.any isWord = false) : keyword? [w] cs = some r := by
  rw [keyword?_singleton, h, Option.filter_some, if_pos (by rw [hr]; rfl)]

theorem keyword?_eq_none {w : String} {u r : List Char} (h : clash w.toList u = true) :
    keyword? [w] (u ++ r) = none := by
  rw [keyword?_singleton, dropFolded?_of_clash h]
  rfl

theorem keyword?_inLiteral {w : String} (hw : Unquoted w.toList) (rest s : List Char) :
    keyword? [w] (inLiteral rest s) = (keyword? [w] s).map (inLiteral rest) := by
  rw [keyword?_singleton, keyword?_singleton, dropFolded?_inLiteral rest s hw]
  cases dropFolded? w.toList s with
  | none => rfl
  | some t =>
    rw [Option.map_some, Option.filter_some, Option.filter_some, head?_any_isWord_inLiteral]
    split <;> rfl

theorem truthAt?_inLiteral (rest s : List Char) : truthAt? (inLiteral rest s) = truthAt? s := by
  have hword (b : Bool) : Unquoted (truthWord b) := .of_isAsciiWord (isAsciiWord_truthWord b)
  rw [truthAt?, truthAt?, keyword?_inLiteral (hword true), keyword?_inLiteral (hword false),
    Option.isSome_map, Option.isSome_map]

theorem truthAt?_truthWord_append (b : Bool) {r : List Char} (hr : r.head?.any isWord = false) :
    truthAt? (truthWord b ++ r) = some b := by
  have hdrop := dropFolded?_append (truthWord b) r
  cases b with
  | true =>
    have hk : keyword? ["true"] (truthWord true ++ r) = some r := keyword?_eq_some hdrop hr
    rw [truthAt?, hk]
    rfl
  | false =>
    have ht : keyword? ["true"] (truthWord false ++ r) = none :=
      keyword?_eq_none (by decide)
    have hf : keyword? ["false"] (truthWord false ++ r) = some r := keyword?_eq_some hdrop hr
    rw [truthAt?, ht, hf]
    rfl

theorem truthAt?_literal_append (s r : List Char) : truthAt? (literal s ++ r) = none := by
  have hl : literal s ++ r = ['"'] ++ (escape s ++ '"' :: r) := by simp [literal]
  rw [truthAt?, hl, keyword?_eq_none (by decide), keyword?_eq_none (by decide +kernel)]
  rfl

/-! ### The entries of a list -/

theorem stripLeft_value (e : Entry) (r : List Char) : stripLeft (e.value ++ r) = e.value ++ r := by
  cases e with
  | text k s => rfl
  | truth k b => cases b <;> rfl

section

variable {sep : List Char} (hsep : Separates sep) (es : List Entry)

include hsep

theorem head?_moreEntries : ∀ c, (moreEntries sep es).head? = some c → isWord c = false ∧ c ≠ '.' := by
  cases es with
  | nil => exact fun c hc => nomatch hc
  | cons e es =>
    intro c hc
    obtain ⟨d, t, ht⟩ := List.exists_cons_of_ne_nil hsep.ne_nil
    have hd : c = d := by
      rw [moreEntries, ht] at hc
      exact (Option.some.inj hc).symm
    rcases hsep.comma c (by rw [ht, hd]; exact List.mem_cons_self) with rfl | hblank
    · decide
    · refine ⟨isWord_of_isBlank hblank, ?_⟩
      rintro rfl
      exact absurd hblank (by decide)

theorem entryFrom?_moreEntries (hkey : key ∈ optionKeys) :
    entryFrom? key value? before (moreEntries sep es) =
      entryFrom? key value? (some ' ') (entryList sep es) := by
  cases es with
  | nil => rfl
  | cons e es => exact entryFrom?_separator hkey hsep _

/-- The search goes on behind a truth value. -/
theorem entryFrom?_truthWord_append (hkey : key ∈ optionKeys) (b : Bool) :
    entryFrom? key value? (some ' ') (truthWord b ++ moreEntries sep es) =
      entryFrom? key value? (some ' ') (entryList sep es) := by
  have hnone : entryValue? key (truthWord b ++ moreEntries sep es) = none := by
    have hname : IsName (truthWord b) := by cases b <;> decide
    have hq (best : List Char) :
        afterQualifiers best false (truthWord b ++ moreEntries sep es) = best :=
      afterQualifiers_name hname best (head?_moreEntries hsep es)
    have hopen : dropOptional '(' (truthWord b ++ moreEntries sep es) =
        truthWord b ++ moreEntries sep es := by
      cases b <;> rfl
    simp only [entryValue?, hopen, hq]
    rw [dropFolded?_of_clash (clash_truthWord key hkey b)]
    rfl
  have hword (c : Char) (w : List Char) (hcw : truthWord b = c :: w)
      (hc : blocked (some c) = true) (hw : ∀ d ∈ w, blocked (some d) = true) :
      entryFrom? key value? (some ' ') (truthWord b ++ moreEntries sep es) =
        entryFrom? key value? (some ' ') (entryList sep es) := by
    rw [hcw, List.cons_append] at hnone ⊢
    rw [entryFrom?_cons_of_none (.inr hnone), entryFrom?_word_append hw hc,
      entryFrom?_moreEntries hsep es hkey]
  cases b with
  | true => exact hword 't' ['r', 'u', 'e'] rfl (by decide) (by decide)
  | false => exact hword 'f' ['a', 'l', 's', 'e'] rfl (by decide) (by decide)

/-- The search goes through the content of a literal, and then on behind it. -/
theorem entryFrom?_literal_append (hkey : key ∈ optionKeys) (s : List Char) :
    entryFrom? key value? (some ' ') (literal s ++ moreEntries sep es) =
      (entryFrom? key (fun t => value? (inLiteral (moreEntries sep es) t)) none s).orElse fun _ =>
        entryFrom? key value? (some ' ') (entryList sep es) := by
  have hl : literal s ++ moreEntries sep es = '"' :: inLiteral (moreEntries sep es) s := by
    simp [literal, inLiteral]
  rw [hl, entryFrom?_mark hkey (by decide), entryFrom?_inLiteral hkey,
    entryFrom?_moreEntries hsep es hkey]
  congr 1
  exact entryFrom?_congr (by decide) s

end

section

variable {sep : List Char} {es : List Entry} (hsep : Separates sep) (hkey : key ∈ optionKeys)
  (hes : ∀ e ∈ es, IsKey e.key.toList)

include hsep hkey hes

/-- The truth value found in a list is the one that its entries give. -/
theorem entryTruth?_entryList : entryTruth? key (entryList sep es) = givenTruth? key es := by
  have hgo (before : Option Char) (hb : blocked before = false) :
      entryFrom? key truthAt? before (entryList sep es) = givenTruth? key es := by
    induction es generalizing before with
    | nil => rfl
    | cons e es ih =>
      obtain ⟨hk, hmore⟩ := List.forall_mem_cons.1 hes
      have ih := ih hmore (some ' ') (by decide)
      have hend : (moreEntries sep es).head?.any isWord = false := by
        cases h : (moreEntries sep es).head? with
        | none => rfl
        | some c => exact (head?_moreEntries hsep es c h).1
      rw [entryList, entryFrom?_keyed hkey hk hb, stripLeft_value, givenTruth?, List.findSome?_cons,
        ← givenTruth?]
      cases e with
      | text k s =>
        simp only [Entry.value, truthAt?_literal_append, entryFrom?_literal_append hsep es hkey, ih,
          truthAt?_inLiteral, Entry.givenTruth?, entryTruth?, ite_self]
        cases entryFrom? key truthAt? none s <;> rfl
      | truth k b =>
        simp only [Entry.value, truthAt?_truthWord_append b hend,
          entryFrom?_truthWord_append hsep es hkey, ih, Entry.givenTruth?, Entry.key]
        split <;> rfl
  exact hgo none rfl

/-- The text found in a list is the one that its entries give. -/
theorem entryText?_entryList : entryText? key (entryList sep es) = givenText? sep key es := by
  have hgo (before : Option Char) (hb : blocked before = false) :
      entryFrom? key (fun cs => (quotedText? cs).map (·.1)) before (entryList sep es) =
        givenText? sep key es := by
    induction es generalizing before with
    | nil => rfl
    | cons e es ih =>
      obtain ⟨hk, hmore⟩ := List.forall_mem_cons.1 hes
      have ih := ih hmore (some ' ') (by decide)
      rw [entryList, entryFrom?_keyed hkey hk hb, stripLeft_value]
      cases e with
      | text k s =>
        -- Inside the literal a value is only read at its end, where the closing quote opens one.
        have hvalue (t : List Char) :
            (quotedText? (inLiteral (moreEntries sep es) t)).map (·.1) =
              if t.isEmpty then upToLiteral sep es else none := by
          rcases inLiteral_cases (moreEntries sep es) t with
            ⟨rfl, e⟩ | ⟨c, u, rfl, h₁, h₂, e⟩ | ⟨c, u, rfl, h, e⟩
          · rw [e, quotedText?_upToLiteral hsep hmore]
            rfl
          · rw [e, quotedText?.eq_def]
            split
            · next heq => exact (h₁ (List.cons.inj heq).1).elim
            · rfl
          · rw [e]
            rfl
        have hinside : entryFrom? key
            (fun t => (quotedText? (inLiteral (moreEntries sep es) t)).map (·.1)) none s =
              if endsOpen key s then upToLiteral sep es else none := by
          simp only [hvalue]
          exact entryFrom?_const List.isEmpty (upToLiteral sep es) s
        simp only [Entry.value, Entry.key, quotedText?_literal_append,
          entryFrom?_literal_append hsep es hkey, hinside, ih, givenText?]
        split
        · rfl
        · simp
      | truth k b =>
        simp only [Entry.value, quotedText?_truthWord_append,
          entryFrom?_truthWord_append hsep es hkey, ih, givenText?, Option.map_none, ite_self]
        rfl
  exact hgo none rfl

end

variable {es : List Entry}

theorem isKey_of_mem_optionKeys {k : String} (hk : k ∈ optionKeys) : IsKey k.toList :=
  .name (isName_of_mem_optionKeys k hk)

theorem separates_comma : Separates [',', ' '] := ⟨by decide, by decide⟩

/-- The truth value found in a written list is the one that its entries give. -/
theorem entryTruth?_writeEntries (hkey : key ∈ optionKeys) (hes : ∀ e ∈ es, e.key ∈ optionKeys) :
    entryTruth? key (writeEntries es) = readTruth? key es := by
  rw [← entryList_comma, entryTruth?_entryList separates_comma hkey fun e he =>
    isKey_of_mem_optionKeys (hes e he), givenTruth?_eq_readTruth? hkey hes]

/-- The text found in a written list is the one that its entries give. -/
theorem entryText?_writeEntries (hkey : key ∈ optionKeys) (hes : ∀ e ∈ es, e.key ∈ optionKeys) :
    entryText? key (writeEntries es) = readText? key es := by
  rw [← entryList_comma, entryText?_entryList separates_comma hkey fun e he =>
    isKey_of_mem_optionKeys (hes e he), givenText?_eq_readText? hkey hes]

end Formwork.Idl
