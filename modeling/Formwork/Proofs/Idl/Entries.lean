import Formwork.Idl.Annotation
import Formwork.Idl.Declaration
import Formwork.Proofs.Idl.Header
import Formwork.Proofs.Text.Fold

/-!
Option lists as lists of entries. The search for an entry goes through the text of the list and does
not see where literals begin and end, so a literal whose content looks like an entry counts as one.
-/
namespace Formwork.Idl
open Formwork.Text Formwork.Pattern

/-- An entry of an option list. -/
inductive Entry
  | text (key : String) (value : List Char)
  | truth (key : String) (value : Bool)

def truthWord (value : Bool) : List Char := if value then "true".toList else "false".toList

def Entry.key : Entry → String
  | .text key _ | .truth key _ => key

/-- The written value of an entry. -/
def Entry.value : Entry → List Char
  | .text _ s => literal s
  | .truth _ b => truthWord b

/-- A key in brackets and an equals sign, before a value. -/
def keyed (key : String) (value : List Char) : List Char :=
  '(' :: (key.toList ++ ')' :: ' ' :: '=' :: ' ' :: value)

/-- The entries after the first, each behind a comma. -/
def writeMore : List Entry → List Char
  | [] => []
  | e :: es => ',' :: ' ' :: keyed e.key (e.value ++ writeMore es)

/-- The text of an option list. -/
def writeEntries : List Entry → List Char
  | [] => []
  | e :: es => keyed e.key (e.value ++ writeMore es)

/-! ### Lists with any separators -/

/-- Commas and white space, as they stand between two entries. -/
structure Separates (sep : List Char) : Prop where
  ne_nil : sep ≠ []
  comma : ∀ c ∈ sep, c = ',' ∨ isBlank c = true

/-- The entries after the first, each behind a separator. -/
def moreEntries (sep : List Char) : List Entry → List Char
  | [] => []
  | e :: es => sep ++ keyed e.key (e.value ++ moreEntries sep es)

/-- The text of an option list with the separator between its entries. -/
def entryList (sep : List Char) : List Entry → List Char
  | [] => []
  | e :: es => keyed e.key (e.value ++ moreEntries sep es)

theorem moreEntries_comma (es : List Entry) : moreEntries [',', ' '] es = writeMore es := by
  induction es with
  | nil => rfl
  | cons e es ih =>
    rw [moreEntries, ih]
    rfl

theorem entryList_comma (es : List Entry) : entryList [',', ' '] es = writeEntries es := by
  cases es with
  | nil => rfl
  | cons e es => rw [entryList, moreEntries_comma, writeEntries]

/-- The keys of field and member options. -/
def optionKeys : List String :=
  ["ui_label", "ui_required", "ui_pattern", "ui_list", "ui_unique", "ui_widget", "ui_enum_label",
    "ui_enum_value"]

/-! ### What the entries say -/

/-- Whether the end of a text reads as a key with an equals sign after it. -/
def endsOpen (key : String) (s : List Char) : Bool :=
  (entryFrom? key (fun rest => if rest.isEmpty then some () else none) none s).isSome

/-- What stands between the closing quote of a literal and the opening quote of the next one. -/
def between : List Entry → Option (List Char)
  | [] => none
  | .text key _ :: _ => some (',' :: ' ' :: keyed key [])
  | .truth key b :: es => (between es).map (',' :: ' ' :: keyed key (truthWord b) ++ ·)

/-- The truth value that an entry gives to a key. A literal gives what its content would give. -/
def Entry.truth? (key : String) : Entry → Option Bool
  | .truth k b => if k = key then some b else none
  | .text _ s => entryTruth? key s

/-- The truth value that the first of the entries gives to a key. -/
def readTruth? (key : String) (es : List Entry) : Option Bool := es.findSome? (Entry.truth? key)

/-- The text that the first of the entries gives to a key. A literal whose content ends in the key
and an equals sign gives what stands between it and the next literal. -/
def readText? (key : String) : List Entry → Option (List Char)
  | [] => none
  | .truth _ _ :: es => readText? key es
  | .text k s :: es =>
    if k = key then some s else (if endsOpen key s then between es else none).or (readText? key es)

/-! ### Reading inside a literal -/

/-- The rest of a literal that still has to write `s`, and the text after the literal. -/
def inLiteral (rest s : List Char) : List Char := escape s ++ '"' :: rest

section

variable (rest : List Char) {c : Char} (s : List Char)

theorem inLiteral_cons_of_ne (hq : c ≠ '"') (hb : c ≠ '\\') :
    inLiteral rest (c :: s) = c :: inLiteral rest s := by
  simp [inLiteral, escape, hq, hb]

theorem inLiteral_cons (h : c = '"' ∨ c = '\\') :
    inLiteral rest (c :: s) = '\\' :: c :: inLiteral rest s := by
  simp [inLiteral, escape, h]

/-- Inside a literal a character stands for itself, or a backslash stands before it. -/
theorem inLiteral_cases :
    s = [] ∧ inLiteral rest s = '"' :: rest ∨
    (∃ c t, s = c :: t ∧ c ≠ '"' ∧ c ≠ '\\' ∧ inLiteral rest s = c :: inLiteral rest t) ∨
    ∃ c t, s = c :: t ∧ (c = '"' ∨ c = '\\') ∧ inLiteral rest s = '\\' :: c :: inLiteral rest t := by
  cases s with
  | nil => exact .inl ⟨rfl, rfl⟩
  | cons c t =>
    by_cases h : c = '"' ∨ c = '\\'
    · exact .inr (.inr ⟨c, t, rfl, h, inLiteral_cons rest t h⟩)
    · rw [not_or] at h
      exact .inr (.inl ⟨c, t, rfl, h.1, h.2, inLiteral_cons_of_ne rest t h.1 h.2⟩)

theorem stripLeft_inLiteral : stripLeft (inLiteral rest s) = inLiteral rest (stripLeft s) := by
  have hq : isBlank '"' = false := rfl
  have hb : isBlank '\\' = false := rfl
  induction s with
  | nil => rfl
  | cons c s ih =>
    by_cases h : c = '"' ∨ c = '\\'
    · have hc : isBlank c = false := by rcases h with rfl | rfl <;> rfl
      rw [stripLeft_cons hc, inLiteral_cons rest s h, stripLeft_cons hb]
    · rw [not_or] at h
      rw [inLiteral_cons_of_ne rest s h.1 h.2]
      by_cases hc : isBlank c = true
      · rw [stripLeft, List.dropWhile_cons_of_pos hc, stripLeft, List.dropWhile_cons_of_pos hc]
        exact ih
      · rw [Bool.not_eq_true] at hc
        rw [stripLeft_cons hc, stripLeft_cons hc, inLiteral_cons_of_ne rest s h.1 h.2]

theorem dropOptional_inLiteral {d : Char} (hq : d ≠ '"') (hb : d ≠ '\\') :
    dropOptional d (inLiteral rest s) = inLiteral rest (dropOptional d s) := by
  rcases inLiteral_cases rest s with ⟨rfl, -⟩ | ⟨c, t, rfl, h₁, h₂, e⟩ | ⟨c, t, rfl, h, e⟩
  · simp [inLiteral, escape, dropOptional, hq.symm]
  · rw [e]
    by_cases hc : c = d
    · simp [dropOptional, hc]
    · simp [dropOptional, hc, e]
  · have hc : c ≠ d := by
      rintro rfl
      rcases h with rfl | rfl
      · exact hq rfl
      · exact hb rfl
    rw [e]
    simp [dropOptional, hb.symm, hc, e]

theorem afterQualifiers_inLiteral (best : List Char) (inName : Bool) :
    afterQualifiers (inLiteral rest best) inName (inLiteral rest s) =
      inLiteral rest (afterQualifiers best inName s) := by
  have hq : isWord '"' = false := by decide
  have hb : isWord '\\' = false := by decide
  have hq' : beginsName '"' = false := by decide
  have hb' : beginsName '\\' = false := by decide
  induction s generalizing best inName with
  | nil => cases inName <;> simp [inLiteral, escape, afterQualifiers, hq, hq']
  | cons c s ih =>
    by_cases h : c = '"' ∨ c = '\\'
    · rw [inLiteral_cons rest s h]
      rcases h with rfl | rfl <;> cases inName <;>
        simp [afterQualifiers, hq, hq', hb, hb']
    · rw [not_or] at h
      rw [inLiteral_cons_of_ne rest s h.1 h.2]
      simp only [afterQualifiers, ih]
      split_ifs <;> rfl

theorem mem_variants (f : Fold) (n : Nat) : n ∈ f.variants n := by
  cases f with
  | exact | ascii => exact List.mem_singleton_self n
  | unicode =>
    rw [Fold.variants]
    cases h : sharedUpper.find? (·.contains n) with
    | none => exact List.mem_singleton_self n
    | some letters => simpa using List.find?_some h

/-- A code point counts as itself. -/
theorem same_self (f : Fold) (n : Nat) : f.same n n = true := by
  unfold Fold.same
  split
  · split <;> exact beq_self_eq_true _
  · exact List.contains_iff_mem.2 (mem_variants f _)

/-- No character of the word stands for a quote or a backslash. -/
def Unquoted (w : List Char) : Prop :=
  ∀ c ∈ w, Fold.unicode.same c.toNat '"'.toNat = false ∧ Fold.unicode.same c.toNat '\\'.toNat = false

theorem Unquoted.of_isAsciiWord {w : List Char} (hw : ∀ c ∈ w, isAsciiWord c = true) :
    Unquoted w :=
  fun c hc => ⟨same_eq_false (hw c hc) (by decide), same_eq_false (hw c hc) (by decide)⟩

theorem dropFolded?_inLiteral {w : List Char} (hw : Unquoted w) :
    dropFolded? w (inLiteral rest s) = (dropFolded? w s).map (inLiteral rest) := by
  induction w generalizing s with
  | nil => rfl
  | cons d w ih =>
    obtain ⟨hq, hb⟩ := hw d List.mem_cons_self
    have ih := fun t => ih t fun e he => hw e (List.mem_cons_of_mem _ he)
    rcases inLiteral_cases rest s with ⟨rfl, e⟩ | ⟨c, t, rfl, h₁, h₂, e⟩ | ⟨c, t, rfl, h, e⟩
    · have hnone : dropFolded? (d :: w) [] = none := rfl
      rw [e, hnone, dropFolded?, if_neg (by rw [hq]; simp)]
      rfl
    · rw [e, dropFolded?, dropFolded?, ih]
      split <;> rfl
    · have hc : Fold.unicode.same d.toNat c.toNat = false := by
        rcases h with rfl | rfl
        · exact hq
        · exact hb
      rw [e, dropFolded?, if_neg (by rw [hb]; simp), dropFolded?, if_neg (by rw [hc]; simp)]
      rfl

/-- The text behind an equals sign and white space. -/
def afterEquals? : List Char → Option (List Char)
  | '=' :: cs => some (stripLeft cs)
  | _ => none

theorem afterEquals?_inLiteral :
    afterEquals? (inLiteral rest s) = (afterEquals? s).map (inLiteral rest) := by
  rcases inLiteral_cases rest s with ⟨rfl, e⟩ | ⟨c, t, rfl, h₁, h₂, e⟩ | ⟨c, t, rfl, h, e⟩
  · rw [e]
    rfl
  · rw [e]
    by_cases hc : c = '='
    · subst hc
      simp only [afterEquals?, stripLeft_inLiteral, Option.map_some]
    · rw [afterEquals?.eq_def, afterEquals?.eq_def]
      simp [hc]
  · rw [e]
    rcases h with rfl | rfl <;> rfl

/-- The text where the value of an entry at the front begins. -/
def entryValue? (key : String) (cs : List Char) : Option (List Char) :=
  let named := dropOptional '(' cs
  (dropFolded? key.toList (afterQualifiers named false named)).bind fun t =>
    afterEquals? (stripLeft (dropOptional ')' t))

theorem entryAt?_eq {α : Type} (key : String) (value? : List Char → Option α) (cs : List Char) :
    entryAt? key value? cs = (entryValue? key cs).bind value? := by
  rw [entryAt?, entryValue?]
  simp only [bind, Option.bind_assoc]
  congr 1
  funext t
  split
  · next h =>
    rw [h]
    rfl
  · next h =>
    rw [afterEquals?.eq_def]
    split
    · next h' => exact (h _ h').elim
    · rfl

theorem entryValue?_inLiteral {key : String} (hk : Unquoted key.toList) :
    entryValue? key (inLiteral rest s) = (entryValue? key s).map (inLiteral rest) := by
  have hopen : dropOptional '(' (inLiteral rest s) = inLiteral rest (dropOptional '(' s) :=
    dropOptional_inLiteral rest s (by decide) (by decide)
  simp only [entryValue?, hopen, afterQualifiers_inLiteral, dropFolded?_inLiteral rest _ hk,
    Option.bind_map, Option.map_bind]
  congr 1
  funext t
  simp only [Function.comp_apply, dropOptional_inLiteral rest t (d := ')') (by decide) (by decide),
    stripLeft_inLiteral, afterEquals?_inLiteral]

end

/-! ### Keys -/

theorem isName_of_mem_optionKeys : ∀ k ∈ optionKeys, IsName k.toList := by decide

theorem isAsciiWord_of_mem_optionKeys :
    ∀ k ∈ optionKeys, ∀ c ∈ k.toList, isAsciiWord c = true := by
  decide

theorem isAsciiWord_truthWord (b : Bool) : ∀ c ∈ truthWord b, isAsciiWord c = true := by
  cases b <;> decide

theorem unquoted_of_mem_optionKeys {k : String} (hk : k ∈ optionKeys) : Unquoted k.toList :=
  .of_isAsciiWord (isAsciiWord_of_mem_optionKeys k hk)

/-- The two words differ, in any case, at a place that both have. -/
def clash : List Char → List Char → Bool
  | w :: ws, c :: cs => !Fold.unicode.same w.toNat c.toNat || clash ws cs
  | _, _ => false

theorem clash_truthWord : ∀ k ∈ optionKeys, ∀ b, clash k.toList (truthWord b) = true := by
  decide

theorem dropFolded?_of_clash {w u : List Char} (h : clash w u = true) (r : List Char) :
    dropFolded? w (u ++ r) = none := by
  induction w generalizing u with
  | nil => simp [clash] at h
  | cons d w ih =>
    cases u with
    | nil => simp [clash] at h
    | cons c u =>
      rw [List.cons_append, dropFolded?]
      split
      · next hs =>
        rw [clash, hs, Bool.not_true, Bool.false_or] at h
        exact ih h
      · rfl

theorem dropFolded?_append (w r : List Char) : dropFolded? w (w ++ r) = some r := by
  induction w with
  | nil => rfl
  | cons c w ih => rw [List.cons_append, dropFolded?, if_pos (same_self .unicode c.toNat), ih]

/-- No entry begins at the character. -/
def IsMark (c : Char) : Prop := isWord c = false ∧ c ≠ '('

instance (c : Char) : Decidable (IsMark c) := by
  unfold IsMark
  infer_instance

variable {key : String}

theorem entryValue?_of_mark (hkey : key ∈ optionKeys) {c : Char} (hc : IsMark c) (cs : List Char) :
    entryValue? key (c :: cs) = none := by
  obtain ⟨hword, hopen⟩ := hc
  have hname := isName_of_mem_optionKeys key hkey
  have hascii := isAsciiWord_of_mem_optionKeys key hkey
  have hbegins : beginsName c = false := by
    cases hb : beginsName c with
    | false => rfl
    | true => rw [isWord_of_beginsName hb] at hword; cases hword
  have hq (best : List Char) : afterQualifiers best false (c :: cs) = best := by
    rw [afterQualifiers, if_neg (by simp), if_neg (by simp [hbegins])]
  have hdrop : dropFolded? key.toList (c :: cs) = none := by
    cases h : key.toList with
    | nil => rw [h] at hname; exact hname.elim
    | cons d w =>
      rw [h] at hascii
      rw [dropFolded?, same_eq_false (hascii d List.mem_cons_self) hword]
      exact if_neg Bool.false_ne_true
  simp only [entryValue?, dropOptional, hopen, if_false, hq, hdrop, Option.bind_none]

/-! ### Qualified keys -/

/-- A name, or several with dots between them. -/
inductive IsKey : List Char → Prop
  | name {n : List Char} (hn : IsName n) : IsKey n
  | qualified {n k : List Char} (hn : IsName n) (hk : IsKey k) : IsKey (n ++ '.' :: k)

/-- The last name of a key is that of an option, in any case. -/
def Names (k key : String) : Prop := dropFolded? key.toList (localName k.toList) = some []

instance (k key : String) : Decidable (Names k key) := by
  unfold Names
  infer_instance

theorem names_iff_eq : ∀ k ∈ optionKeys, ∀ key ∈ optionKeys, (Names k key ↔ k = key) := by decide

theorem IsName.cut_eq_false {n : List Char} (hn : IsName n) : ∀ c ∈ n, (c == '.') = false := by
  intro c hc
  refine beq_eq_false_iff_ne.2 fun h => ?_
  rw [h] at hc
  exact absurd (hn.isWord _ hc) (by decide)

/-- An identifier has no qualifiers to lose. -/
theorem localName_name {n : List Char} (hn : IsName n) : localName n = n := by
  rw [localName, pieces_eq_singleton hn.cut_eq_false]
  rfl

theorem localName_qualified {n : List Char} (hn : IsName n) (k : List Char) :
    localName (n ++ '.' :: k) = localName k := by
  rw [localName, localName, pieces_append hn.cut_eq_false (by decide),
    List.getLast?_cons_of_ne_nil (pieces_ne_nil _ k)]

theorem IsKey.isName_localName {k : List Char} (hk : IsKey k) : IsName (localName k) := by
  induction hk with
  | name hn => rwa [localName_name hn]
  | qualified hn hk ih => rwa [localName_qualified hn]

theorem afterQualifiers_append {n : List Char} (hn : IsName n) (best r : List Char) :
    afterQualifiers best false (n ++ r) = afterQualifiers best true r := by
  have hrest (u : List Char) (hu : ∀ c ∈ u, isWord c = true) :
      afterQualifiers best true (u ++ r) = afterQualifiers best true r := by
    induction u with
    | nil => rfl
    | cons c u ih =>
      have hc := hu c List.mem_cons_self
      have hdot : c ≠ '.' := by
        rintro rfl
        exact absurd hc (by decide)
      rw [List.cons_append, afterQualifiers, if_pos rfl, if_neg hdot, if_pos hc]
      exact ih fun d hd => hu d (List.mem_cons_of_mem _ hd)
  cases n with
  | nil => exact hn.elim
  | cons c n =>
    have hb : beginsName c = true := by
      have hc := hn.1
      simp only [isNameStart, Bool.or_eq_true] at hc
      simp only [beginsName, Bool.or_eq_true]
      exact .inl (.inl (.inl (.inl hc)))
    rw [List.cons_append, afterQualifiers, if_neg (by simp), if_pos hb]
    exact hrest n hn.2

theorem afterQualifiers_name {w : List Char} (hw : IsName w) (best : List Char) {r : List Char}
    (hr : ∀ c, r.head? = some c → isWord c = false ∧ c ≠ '.') :
    afterQualifiers best false (w ++ r) = best := by
  rw [afterQualifiers_append hw]
  cases r with
  | nil => rfl
  | cons c r => simp [afterQualifiers, hr c rfl]

/-- The name of an option is the last name of a key. -/
theorem afterQualifiers_key {k : List Char} (hk : IsKey k) {r : List Char}
    (hr : ∀ c, r.head? = some c → isWord c = false ∧ c ≠ '.') :
    afterQualifiers (k ++ r) false (k ++ r) = localName k ++ r := by
  induction hk with
  | name hn => rw [afterQualifiers_name hn _ hr, localName_name hn]
  | qualified hn hk ih =>
    rw [localName_qualified hn, List.append_assoc, List.cons_append, afterQualifiers_append hn, ← ih]
    rfl

theorem IsKey.dropOptional_append {k : List Char} (hk : IsKey k) (r : List Char) :
    dropOptional '(' (k ++ r) = k ++ r := by
  have hname {n : List Char} (hn : IsName n) (r : List Char) :
      dropOptional '(' (n ++ r) = n ++ r := by
    cases n with
    | nil => exact hn.elim
    | cons c n =>
      have hc : c ≠ '(' := by
        rintro rfl
        exact absurd hn.1 (by decide)
      simp [dropOptional, hc]
  cases hk with
  | name hn => exact hname hn r
  | qualified hn hk =>
    rw [List.append_assoc]
    exact hname hn _

/-- A key with an equals sign after it begins an entry with the option it names and with no other. -/
theorem entryValue?_keyed {k : String} (hkey : key ∈ optionKeys) (hk : IsKey k.toList)
    (cs : List Char) :
    entryValue? key (keyed k cs) = (if Names k key then some (stripLeft cs) else none) ∧
    entryValue? key (k.toList ++ ')' :: ' ' :: '=' :: ' ' :: cs) =
      if Names k key then some (stripLeft cs) else none := by
  have hclose : isWord ')' = false := by decide
  have hq := afterQualifiers_key hk (r := ')' :: ' ' :: '=' :: ' ' :: cs) fun c hc => by
    rw [← Option.some.inj hc]
    exact ⟨hclose, by decide⟩
  have hopen := hk.dropOptional_append (')' :: ' ' :: '=' :: ' ' :: cs)
  have hvalue : entryValue? key (k.toList ++ ')' :: ' ' :: '=' :: ' ' :: cs) =
      if Names k key then some (stripLeft cs) else none := by
    rw [entryValue?]
    simp only [hopen, hq]
    rw [dropFolded?_append_of_not_word (isAsciiWord_of_mem_optionKeys key hkey) (by simpa using hclose)]
    have hnames : Names k key ↔ dropFolded? key.toList (localName k.toList) = some [] := Iff.rfl
    cases h : dropFolded? key.toList (localName k.toList) with
    | none =>
      rw [if_neg (by simp [hnames, h])]
      rfl
    | some t =>
      cases t with
      | nil =>
        rw [if_pos (hnames.2 h)]
        rfl
      | cons c t =>
        -- The option's name is the front of a longer word.
        have hword : isWord c = true :=
          hk.isName_localName.isWord c ((dropFolded?_suffix h).subset List.mem_cons_self)
        have hc : c ≠ ')' ∧ c ≠ '=' := by
          constructor
          · rintro rfl
            exact absurd hword (by decide)
          · rintro rfl
            exact absurd hword (by decide)
        rw [if_neg (by simp [hnames, h]), Option.map_some, Option.bind_some, List.cons_append,
          dropOptional,
          if_neg hc.1, stripLeft_cons (isBlank_of_isWord hword), afterEquals?.eq_def]
        split
        · next he => exact (hc.2 (List.cons.inj he).1).elim
        · rfl
  refine ⟨?_, hvalue⟩
  rw [← hvalue, entryValue?, entryValue?]
  have hdrop : dropOptional '(' (keyed k cs) = k.toList ++ ')' :: ' ' :: '=' :: ' ' :: cs := rfl
  rw [hdrop, hopen]

theorem IsKey.ne_nil {k : List Char} (hk : IsKey k) : k ≠ [] := by
  cases hk with
  | name hn =>
    rintro rfl
    exact hn
  | qualified hn hk => simp

theorem IsKey.isWord {k : List Char} (hk : IsKey k) : ∀ c ∈ k, isWord c = true ∨ c = '.' := by
  induction hk with
  | name hn => exact fun c hc => .inl (hn.isWord c hc)
  | qualified hn hk ih =>
    intro c hc
    rcases List.mem_append.1 hc with hc | hc
    · exact .inl (hn.isWord c hc)
    · rcases List.mem_cons.1 hc with rfl | hc
      · exact .inr rfl
      · exact ih c hc

/-! ### What lists with qualified keys say -/

/-- What stands between the closing quote of a literal and the opening quote of the next one, in a
list with the separator. -/
def upToLiteral (sep : List Char) : List Entry → Option (List Char)
  | [] => none
  | .text key _ :: _ => some (sep ++ keyed key [])
  | .truth key b :: es => (upToLiteral sep es).map (sep ++ keyed key (truthWord b) ++ ·)

theorem upToLiteral_comma (es : List Entry) : upToLiteral [',', ' '] es = between es := by
  induction es with
  | nil => rfl
  | cons e es ih =>
    cases e with
    | text k s => rfl
    | truth k b =>
      rw [upToLiteral, ih]
      rfl

/-- The truth value that an entry gives to an option. A literal gives what its content would give. -/
def Entry.givenTruth? (key : String) : Entry → Option Bool
  | .truth k b => if Names k key then some b else none
  | .text _ s => entryTruth? key s

/-- The truth value that the first of the entries gives to an option. -/
def givenTruth? (key : String) (es : List Entry) : Option Bool :=
  es.findSome? (Entry.givenTruth? key)

/-- The text that the first of the entries gives to an option. A literal whose content ends in the
name of the option and an equals sign gives what stands between it and the next literal. -/
def givenText? (sep : List Char) (key : String) : List Entry → Option (List Char)
  | [] => none
  | .truth _ _ :: es => givenText? sep key es
  | .text k s :: es =>
    if Names k key then some s
    else (if endsOpen key s then upToLiteral sep es else none).or (givenText? sep key es)

section

variable {es : List Entry} (hkey : key ∈ optionKeys) (hes : ∀ e ∈ es, e.key ∈ optionKeys)

include hkey hes

theorem givenTruth?_eq_readTruth? : givenTruth? key es = readTruth? key es := by
  induction es with
  | nil => rfl
  | cons e es ih =>
    obtain ⟨he, hes⟩ := List.forall_mem_cons.1 hes
    have hown : e.givenTruth? key = e.truth? key := by
      cases e with
      | text k s => rfl
      | truth k b => simp only [Entry.givenTruth?, Entry.truth?, names_iff_eq k he key hkey]
    rw [givenTruth?, readTruth?, List.findSome?_cons, List.findSome?_cons, hown, ← givenTruth?,
      ih hes, readTruth?]

theorem givenText?_eq_readText? : givenText? [',', ' '] key es = readText? key es := by
  induction es with
  | nil => rfl
  | cons e es ih =>
    obtain ⟨he, hmore⟩ := List.forall_mem_cons.1 hes
    cases e with
    | text k s =>
      simp only [givenText?, readText?, names_iff_eq k he key hkey, upToLiteral_comma, ih hmore]
    | truth k b => exact ih hmore

end

end Formwork.Idl
