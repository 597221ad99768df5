import Formwork.Proofs.Idl.Directives
import Formwork.Proofs.Idl.Judged

/-!
Directives in any order. A comment that is made of different directives, joined by spaces, says what
each of them says by itself: every search finds the directive it looks for at its own at sign, and
the value of that directive ends where the next one begins.
-/
namespace Formwork.Idl
open Formwork.Text Formwork.Pattern

/-- A directive as a comment writes it. A switch is bare or set to a word. -/
inductive Directive
  | label (text : List Char) (starred : Bool)
  | required (word : Option String)
  | pattern (text : List Char)
  | list (word : Option String)
  | unique (word : Option String)

def Directive.name : Directive → String
  | .label _ _ => "label"
  | .required _ => "required"
  | .pattern _ => "pattern"
  | .list _ => "list"
  | .unique _ => "unique"

def star (starred : Bool) : List Char := if starred then ['*'] else []

/-- What stands behind the name of a switch. -/
def switchText : Option String → List Char
  | none => []
  | some w => '=' :: w.toList

/-- What stands behind the name of a directive. -/
def Directive.argument : Directive → List Char
  | .label t starred => ' ' :: (t ++ star starred)
  | .pattern p => ' ' :: '"' :: (p ++ ['"'])
  | .required w | .list w | .unique w => switchText w

def Directive.write (d : Directive) : List Char := '@' :: (d.name.toList ++ d.argument)

/-- The comment that some directives make up. -/
def writeDirectives (ds : List Directive) : List Char := joinWith [' '] (ds.map Directive.write)

/-! ### What directives say -/

/-- A bare switch is on. -/
def switchValue : Option String → Bool
  | none => true
  | some w => ["true", "1", "yes"].contains w

namespace Directive

def label? : Directive → Option (List Char × Bool)
  | .label t starred => some (t, starred)
  | _ => none

def pattern? : Directive → Option (List Char)
  | .pattern p => some p
  | _ => none

def required? : Directive → Option Bool
  | .required w => some (switchValue w)
  | _ => none

def list? : Directive → Option Bool
  | .list w => some (switchValue w)
  | _ => none

def unique? : Directive → Option Bool
  | .unique w => some (switchValue w)
  | _ => none

end Directive

/-- What directives say together. A star says that a value is required where no directive does. -/
def saidBy (ds : List Directive) : FieldMeta where
  label := (ds.findSome? Directive.label?).map fun l => String.ofList l.1
  required := (ds.findSome? Directive.required?).or
    ((ds.findSome? Directive.label?).bind fun l => if l.2 then some true else none)
  pattern := (ds.findSome? Directive.pattern?).map String.ofList
  listVisible := ds.findSome? Directive.list?
  uniqueKey := ds.findSome? Directive.unique?

/-- A text that can be told apart from the directives around it when it is written as a label. -/
structure IsLabel (t : List Char) : Prop where
  ne_nil : t ≠ []
  stripped : strip t = t
  line : '\n' ∉ t
  noDirective : '@' ∉ t
  front : ∀ c ∈ t.head?, isSeparator c = false
  back : t.getLast? ≠ some '*'
  unquoted : ¬∃ q u, (q = '"' ∨ q = '\'') ∧ t = q :: (u ++ [q])

/-- An expression that is used as it is written. -/
structure IsExpression (p : List Char) : Prop where
  ne_nil : p ≠ []
  line : '\n' ∉ p
  noDirective : '@' ∉ p
  backslashes : ¬['\\', '\\'] <:+: p
  read : ∃ node, Pattern.read p = .ok node

def Directive.Valid : Directive → Prop
  | .label t _ => IsLabel t
  | .pattern p => IsExpression p
  | .required w | .list w | .unique w => ∀ word ∈ w, word ∈ switchWords

/-! ### One directive -/

/-- The names of the switches of a field. -/
def switchNames : List (List String) :=
  [["required", "require"], ["list_visible", "list", "table"], ["unique_key", "unique", "uk"]]

/-- The names of the directives of a field that have a text. -/
def textNames : List (List String) := [["label"], ["pattern", "regex"]]

variable {d : Directive} {ds : List Directive} {names : List String} {r : List Char}

theorem asciiNames_of_mem : ∀ names ∈ switchNames ++ textNames, AsciiNames names := by decide

/-- The names under which directives are written. -/
def writtenNames : List String := ["label", "required", "pattern", "list", "unique"]

theorem Directive.name_mem_writtenNames (d : Directive) : d.name ∈ writtenNames := by
  cases d <;> simp [name, writtenNames]

/-- A directive is found under its own name alone. -/
theorem keyword?_of_mem_writtenNames :
    ∀ n ∈ writtenNames, ∀ names ∈ switchNames ++ textNames,
      keyword? names n.toList = if n ∈ names then some [] else none := by
  decide

theorem keyword?_name_append (hnames : names ∈ switchNames ++ textNames)
    (hr : r.head?.any isWord = false) :
    keyword? names (d.name.toList ++ r) = if d.name ∈ names then some r else none := by
  rw [keyword?_append (asciiNames_of_mem names hnames) hr, 
    keyword?_of_mem_writtenNames _ d.name_mem_writtenNames names hnames]
  split <;> rfl

/-- What follows a name or an argument on the way to the next directive. -/
def IsGap (r : List Char) : Prop := r = [] ∨ ∃ rest, r = ' ' :: rest

theorem IsGap.head?_argument (hr : IsGap r) (d : Directive) :
    (d.argument ++ r).head?.any isWord = false := by
  have hspace : isWord ' ' = false := by decide
  have hequals : isWord '=' = false := by decide
  have hswitch (w : Option String) : (switchText w ++ r).head?.any isWord = false := by
    cases w with
    | none =>
      obtain rfl | ⟨rest, rfl⟩ := hr
      · rfl
      · exact hspace
    | some w => exact hequals
  cases d with
  | label t starred => exact hspace
  | pattern p => exact hspace
  | required w => exact hswitch w
  | list w => exact hswitch w
  | unique w => exact hswitch w

theorem at_not_mem_switchText {w : Option String} (hw : ∀ word ∈ w, word ∈ switchWords) :
    '@' ∉ switchText w := by
  have hwords : ∀ word ∈ switchWords, '@' ∉ word.toList := by decide
  cases w with
  | none => exact List.not_mem_nil
  | some w => simpa [switchText] using hwords w (hw w rfl)

theorem at_not_mem_star (starred : Bool) : '@' ∉ star starred := by cases starred <;> decide

/-- A directive has one at sign, in front. -/
theorem Directive.Valid.at_not_mem (hd : d.Valid) : '@' ∉ d.name.toList ++ d.argument := by
  have hname : ∀ n ∈ writtenNames, '@' ∉ n.toList := by decide
  have hargument : '@' ∉ d.argument := by
    cases d with
    | label t starred => simpa [argument, at_not_mem_star] using IsLabel.noDirective hd
    | pattern p => simpa [argument] using IsExpression.noDirective hd
    | required w => exact at_not_mem_switchText hd
    | list w => exact at_not_mem_switchText hd
    | unique w => exact at_not_mem_switchText hd
  simp only [List.mem_append, hname _ d.name_mem_writtenNames, hargument, or_self,
    not_false_eq_true]

/-! ### Switches -/

/-- What a switch with one of the names is set to. -/
def Directive.switch? (names : List String) (d : Directive) : Option Bool :=
  match d with
  | .required w | .list w | .unique w => if d.name ∈ names then some (switchValue w) else none
  | _ => none

theorem switchSetting_switchText {w : Option String} (hw : ∀ word ∈ w, word ∈ switchWords) :
    ∀ r ∈ [[], [' ']], switchSetting (switchText w ++ r) = switchValue w := by
  have hwords : ∀ word ∈ switchWords, ∀ r ∈ [[], [' ']],
      switchSetting (switchText (some word) ++ r) = switchValue (some word) := by
    decide
  cases w with
  | none => decide
  | some w => exact hwords w (hw w rfl)

theorem Directive.Valid.switchDirective?_write (hd : d.Valid) (hnames : names ∈ switchNames)
    (hr : r = [] ∨ r = [' ']) : switchDirective? names (d.write ++ r) = d.switch? names := by
  have hgap : IsGap r := by
    rcases hr with rfl | rfl
    · exact .inl rfl
    · exact .inr ⟨[], rfl⟩
  have hat : '@' ∉ d.name.toList ++ (d.argument ++ r) := by
    rw [← List.append_assoc, List.mem_append, not_or]
    refine ⟨hd.at_not_mem, ?_⟩
    rcases hr with rfl | rfl <;> decide
  have htext : ∀ names ∈ switchNames, "label" ∉ names ∧ "pattern" ∉ names := by decide
  obtain ⟨hlabel, hpattern⟩ := htext names hnames
  rw [write, List.cons_append, List.append_assoc, switchDirective?_at names hat,
    keyword?_name_append (List.mem_append_left _ hnames) (hgap.head?_argument d)]
  cases d with
  | label t starred =>
    rw [Directive.name, if_neg hlabel]
    rfl
  | pattern p =>
    rw [Directive.name, if_neg hpattern]
    rfl
  | required w | list w | unique w =>
    rw [switch?, argument]
    split
    · exact congrArg some (switchSetting_switchText hd r (by simpa using hr))
    · rfl

/-- A comment that goes on is written up to the next at sign. -/
theorem writeDirectives_cons_cons (d e : Directive) (ds : List Directive) :
    writeDirectives (d :: e :: ds) = (d.write ++ [' ']) ++ writeDirectives (e :: ds) := rfl

theorem exists_writeDirectives_cons (d : Directive) (ds : List Directive) :
    ∃ rest, writeDirectives (d :: ds) = '@' :: (d.name.toList ++ rest) := by
  cases ds with
  | nil => exact ⟨d.argument, rfl⟩
  | cons e ds =>
    refine ⟨d.argument ++ ([' '] ++ writeDirectives (e :: ds)), ?_⟩
    rw [writeDirectives_cons_cons, Directive.write]
    simp only [List.append_assoc, List.cons_append]

/-- A switch is set by the first directive with one of its names. -/
theorem switchDirective?_writeDirectives (hnames : names ∈ switchNames)
    (hds : ∀ d ∈ ds, d.Valid) :
    switchDirective? names (writeDirectives ds) = ds.findSome? (Directive.switch? names) := by
  induction ds with
  | nil => rfl
  | cons d ds ih =>
    obtain ⟨hd, hds⟩ := List.forall_mem_cons.1 hds
    cases ds with
    | nil =>
      have hown := hd.switchDirective?_write hnames (.inl rfl)
      rw [List.append_nil] at hown
      rw [List.findSome?_singleton, ← hown]
      rfl
    | cons e ds =>
      obtain ⟨rest, hrest⟩ := exists_writeDirectives_cons e ds
      have hascii := asciiNames_of_mem names (List.mem_append_left _ hnames)
      rw [List.findSome?_cons, ← ih hds, writeDirectives_cons_cons, hrest,
        switchDirective?_append_at hascii, hd.switchDirective?_write hnames (.inr rfl)]
      cases d.switch? names <;> rfl

/-! ### Texts -/

/-- A value that nothing ends before its last character. -/
structure IsValue (v : List Char) : Prop where
  line : '\n' ∉ v
  noDirective : '@' ∉ v
  front : ∃ c ∈ v.head?, isBlank c = false ∧ isSeparator c = false
  back : ∃ c ∈ v.getLast?, isBlank c = false

theorem IsValue.ne_nil {v : List Char} (hv : IsValue v) : v ≠ [] := by
  rintro rfl
  obtain ⟨c, hc, -⟩ := hv.front
  cases hc

/-- Nothing ends a value inside: white space in it stands before a character of its own. -/
theorem IsValue.valueEnds_eq_false {v y : List Char} (hv : IsValue v) (hy : y ≠ [])
    (hs : y <:+ v) (r : List Char) : valueEnds (y ++ r) = false := by
  obtain ⟨c, hc, hvisible⟩ := hv.back
  have hlast : c ∈ y := by
    obtain ⟨u, rfl⟩ := hs
    rw [List.getLast?_append, List.getLast?_eq_some_getLast hy] at hc
    exact Option.some.inj hc ▸ List.getLast_mem hy
  have hstrip : stripLeft y ≠ [] := fun h =>
    absurd (List.dropWhile_eq_nil_iff.1 h c hlast) (by simp [hvisible])
  obtain ⟨b, hb, he⟩ := exists_stripLeft y
  obtain ⟨d, t, ht⟩ := List.exists_cons_of_ne_nil hstrip
  have hd : d ∈ v := hs.subset (by rw [he, ht]; exact List.mem_append_right b List.mem_cons_self)
  have hat : d ≠ '@' := fun h => hv.noDirective (h ▸ hd)
  have hahead : directiveAhead (y ++ r) = false := by
    rw [directiveAhead, stripLeft_append_of_ne_nil hstrip, ht, List.cons_append, Bool.and_eq_false_iff]
    right
    split
    · next heq => exact (hat (List.cons.inj heq).1).elim
    · rfl
  obtain ⟨e, y, rfl⟩ := List.exists_cons_of_ne_nil hy
  have hfeed : e ≠ '\n' := fun h => hv.line (h ▸ hs.subset List.mem_cons_self)
  rw [List.cons_append] at hahead ⊢
  simp [valueEnds, hahead, hfeed]

/-- A value behind a space ends where the comment ends or the next directive begins. -/
theorem IsValue.value?_append {v : List Char} (hv : IsValue v) (hr : valueEnds r = true) :
    value? (' ' :: (v ++ r)) = some v := by
  obtain ⟨c, hc, hblank, hseparator⟩ := hv.front
  obtain ⟨u, rfl⟩ : ∃ u, v = c :: u := by
    cases v with
    | nil => cases hc
    | cons e u => exact ⟨u, by rw [Option.some.inj hc]⟩
  have hmark : afterMark (' ' :: (c :: u ++ r)) = c :: u ++ r := by
    have hstrip : stripLeft (' ' :: (c :: u ++ r)) = c :: (u ++ r) :=
      (List.dropWhile_cons_of_pos (by decide)).trans (stripLeft_cons hblank _)
    rw [afterMark, hstrip, dropSeparator, if_neg (by simp [hseparator]), stripLeft_cons hblank]
    rfl
  apply value?_of_afterMark
  rw [hmark]
  exact shortestValue?_append hv.ne_nil hv.line hr fun y hy hs _ => hv.valueEnds_eq_false hy hs r

theorem IsLabel.isValue {t : List Char} (ht : IsLabel t) (starred : Bool) :
    IsValue (t ++ star starred) := by
  obtain ⟨hhead, hlast⟩ := strip_eq_self_iff.1 ht.stripped
  obtain ⟨c, u, rfl⟩ := List.exists_cons_of_ne_nil ht.ne_nil
  refine ⟨?_, ?_, ⟨c, rfl, hhead c rfl, ht.front c rfl⟩, ?_⟩
  · cases starred <;> simpa [star] using ht.line
  · cases starred <;> simpa [star] using ht.noDirective
  · cases starred with
    | true => exact ⟨'*', List.getLast?_concat, by decide⟩
    | false =>
      refine ⟨(c :: u).getLast ht.ne_nil, ?_, hlast _ (List.getLast?_eq_some_getLast _)⟩
      rw [star, if_neg (by decide), List.append_nil]
      exact List.getLast?_eq_some_getLast _

theorem IsExpression.isValue {p : List Char} (hp : IsExpression p) :
    IsValue ('"' :: (p ++ ['"'])) where
  line := by simpa using hp.line
  noDirective := by simpa using hp.noDirective
  front := ⟨'"', rfl, by decide, by decide⟩
  back := ⟨'"', List.getLast?_concat (l := '"' :: p), by decide⟩

/-- The text of a directive with one of the names. -/
def Directive.text? (names : List String) (d : Directive) : Option (List Char) :=
  match d with
  | .label t starred => if d.name ∈ names then some (t ++ star starred) else none
  | .pattern p => if d.name ∈ names then some ('"' :: (p ++ ['"'])) else none
  | _ => none

theorem Directive.Valid.value?_write (hd : d.Valid) (hnames : names ∈ textNames) (hgap : IsGap r)
    (hr : valueEnds r = true) :
    (directive? names (d.write ++ r)).bind value? = d.text? names := by
  have hswitch : ∀ names ∈ textNames,
      "required" ∉ names ∧ "list" ∉ names ∧ "unique" ∉ names := by
    decide
  obtain ⟨hrequired, hlist, hunique⟩ := hswitch names hnames
  have hname : directive? names (d.write ++ r) =
      if d.name ∈ names then some (d.argument ++ r) else none := by
    rw [← keyword?_name_append (List.mem_append_right _ hnames) (hgap.head?_argument d),
      ← List.append_assoc]
    rfl
  rw [hname]
  cases d with
  | label t starred =>
    rw [text?, argument, List.cons_append, ← (IsLabel.isValue hd starred).value?_append hr]
    split <;> rfl
  | pattern p =>
    rw [text?, argument, List.cons_append, ← (IsExpression.isValue hd).value?_append hr]
    split <;> rfl
  | required w => rw [name, if_neg hrequired]; rfl
  | list w => rw [name, if_neg hlist]; rfl
  | unique w => rw [name, if_neg hunique]; rfl

theorem opensDirective_writeDirectives (d : Directive) (ds : List Directive) :
    OpensDirective (writeDirectives (d :: ds)) := by
  have hbegins : ∀ n ∈ writtenNames, n.toList.head?.any beginsName = true := by decide
  have hname := hbegins _ d.name_mem_writtenNames
  obtain ⟨rest, hrest⟩ := exists_writeDirectives_cons d ds
  rw [hrest]
  cases h : d.name.toList with
  | nil =>
    rw [h] at hname
    cases hname
  | cons c u =>
    rw [h] at hname
    exact ⟨c, u ++ rest, rfl, hname⟩

/-- A value ends before a space and a directive. -/
theorem valueEnds_writeDirectives (d : Directive) (ds : List Directive) :
    valueEnds (' ' :: writeDirectives (d :: ds)) = true := by
  have hahead := (opensDirective_writeDirectives d ds).directiveAhead_append
    (List.cons_ne_nil ' ' []) (by decide)
  rw [valueEnds, ← List.singleton_append, hahead, Bool.or_true]

/-- The text of a directive is the one of the first directive with one of its names. -/
theorem textDirective?_writeDirectives (hnames : names ∈ textNames) (hds : ∀ d ∈ ds, d.Valid) :
    firstFrom (fun cs => (directive? names cs).bind value?) (writeDirectives ds) =
      ds.findSome? (Directive.text? names) := by
  have hoff (cs : List Char) (h : cs.head? ≠ some '@') : (directive? names cs).bind value? = none := by
    rw [directive?_of_head?_ne h]
    rfl
  -- The search stops at the at sign of a directive and passes over the rest of it.
  have hstep {d : Directive} (hd : d.Valid) {r : List Char} (hgap : IsGap r)
      (hr : valueEnds r = true) :
      firstFrom (fun cs => (directive? names cs).bind value?) (d.write ++ r) =
        (d.text? names).or (firstFrom (fun cs => (directive? names cs).bind value?) r) := by
    have hown := hd.value?_write hnames hgap hr
    rw [Directive.write, List.cons_append] at hown ⊢
    rw [firstFrom, hown, firstFrom_append_of_not_mem hoff hd.at_not_mem]
    cases d.text? names <;> rfl
  induction ds with
  | nil => rfl
  | cons d ds ih =>
    obtain ⟨hd, hds⟩ := List.forall_mem_cons.1 hds
    cases ds with
    | nil =>
      have hown := hstep hd (.inl rfl) rfl
      rw [List.append_nil] at hown
      rw [List.findSome?_singleton, ← Option.or_none (o := d.text? names)]
      exact hown
    | cons e ds =>
      have hspace : firstFrom (fun cs => (directive? names cs).bind value?)
          (' ' :: writeDirectives (e :: ds)) = (e :: ds).findSome? (Directive.text? names) := by
        rw [← ih hds, firstFrom, hoff _ (by simp)]
        rfl
      rw [writeDirectives_cons_cons, List.append_assoc, List.singleton_append,
        hstep hd (.inr ⟨_, rfl⟩) (valueEnds_writeDirectives e ds), hspace,
        List.findSome?_cons (a := d)]
      cases d.text? names <;> rfl

/-! ### Comments -/

theorem IsLabel.unquote_eq {t : List Char} (ht : IsLabel t) : unquote t = t := by
  obtain ⟨q, u, rfl⟩ := List.exists_cons_of_ne_nil ht.ne_nil
  rw [unquote]
  split
  · next h =>
    simp only [Bool.and_eq_true, Bool.or_eq_true, beq_iff_eq, Bool.not_eq_true'] at h
    obtain ⟨⟨hq, -⟩, hlast⟩ := h
    obtain ⟨v, rfl⟩ := List.getLast?_eq_some_iff.1 hlast
    exact (ht.unquoted ⟨q, v, hq, rfl⟩).elim
  · rfl

theorem IsLabel.starless?_eq {t : List Char} (ht : IsLabel t) (starred : Bool) :
    starless? (t ++ star starred) = if starred then some t else none := by
  obtain ⟨u, c, rfl⟩ : ∃ u c, t = u ++ [c] := by
    rcases List.eq_nil_or_concat t with h | ⟨u, c, h⟩
    · exact (ht.ne_nil h).elim
    · exact ⟨u, c, by rw [h, List.concat_eq_append]⟩
  have hc : isBlank c = false := (strip_eq_self_iff.1 ht.stripped).2 c List.getLast?_concat
  have hstar : c ≠ '*' := fun h => ht.back (by rw [List.getLast?_concat, h])
  cases starred with
  | true =>
    have hright : stripRight (u ++ [c] ++ ['*']) = u ++ [c] ++ ['*'] :=
      stripRight_append (by decide) _
    have hreverse : (u ++ [c] ++ ['*']).reverse = '*' :: c :: u.reverse := by simp
    have hkept : (c :: u.reverse).dropWhile (· == '*') = c :: u.reverse :=
      List.dropWhile_cons_of_neg (by simpa using hstar)
    rw [starless?, star, if_pos rfl, hright, hreverse, if_pos rfl]
    simp only [hkept, List.reverse_cons, List.reverse_reverse, stripRight_append hc]
  | false =>
    have hreverse : (u ++ [c]).reverse = c :: u.reverse := by simp
    rw [starless?, star, if_neg (by decide), List.append_nil, stripRight_append hc, hreverse,
      if_neg (by decide)]
    split
    · next heq => exact (hstar (List.cons.inj heq).1).elim
    · rfl

theorem IsValue.strip_eq {v : List Char} (hv : IsValue v) : strip v = v := by
  obtain ⟨c, hc, hfront, -⟩ := hv.front
  obtain ⟨d, hd, hback⟩ := hv.back
  refine strip_eq_self_iff.2 ⟨fun e he => ?_, fun e he => ?_⟩
  · rw [← Option.some.inj (hc.symm.trans he)]
    exact hfront
  · rw [← Option.some.inj (hd.symm.trans he)]
    exact hback

theorem unquote_quoted (p : List Char) : unquote ('"' :: (p ++ ['"'])) = p := by
  have hlast : (p ++ ['"']).getLast? = some '"' := List.getLast?_concat
  simp [unquote, hlast]

theorem halveBackslashes_eq_self {p : List Char} (h : ¬['\\', '\\'] <:+: p) :
    halveBackslashes p = p := by
  induction p using halveBackslashes.induct with
  | case1 cs => exact (h ⟨[], cs, rfl⟩).elim
  | case2 c cs hne ih =>
    rw [halveBackslashes, ih fun hi => h (hi.trans (List.suffix_cons c cs).isInfix)]
    exact hne
  | case3 => rfl

theorem IsExpression.stop?_eq {p : List Char} (hp : IsExpression p) : stop? p = none := by
  obtain ⟨node, hnode⟩ := hp.read
  rw [stop?, halveBackslashes_eq_self hp.backslashes, hnode]

theorem IsExpression.usable?_eq {p : List Char} (hp : IsExpression p) : usable? p = some p := by
  obtain ⟨node, hnode⟩ := hp.read
  rw [usable?, halveBackslashes_eq_self hp.backslashes, hnode]
  rfl

/-- What a list finds first, all but one of its elements finding nothing. -/
theorem findSome?_eq_some_iff_of_nodup {β : Type} {f : Directive → Option β} {n : String}
    (hf : ∀ d b, f d = some b → d.name = n) (hn : (ds.map Directive.name).Nodup) {b : β} :
    ds.findSome? f = some b ↔ ∃ d ∈ ds, f d = some b := by
  refine ⟨List.exists_of_findSome?_eq_some, ?_⟩
  rintro ⟨d, hd, hb⟩
  induction ds with
  | nil => cases hd
  | cons e ds ih =>
    rw [List.map_cons, List.nodup_cons] at hn
    rw [List.findSome?_cons]
    rcases List.mem_cons.1 hd with rfl | hd
    · rw [hb]
    · cases he : f e with
      | none => exact ih hn.2 hd
      | some x =>
        have hsame : e.name = d.name := (hf e x he).trans (hf d b hb).symm
        exact (hn.1 (hsame ▸ List.mem_map_of_mem hd)).elim

theorem findSome?_eq_of_perm {β : Type} {f : Directive → Option β} {n : String}
    {ds' : List Directive} (hf : ∀ d b, f d = some b → d.name = n)
    (hn : (ds.map Directive.name).Nodup) (hp : ds'.Perm ds) : ds'.findSome? f = ds.findSome? f := by
  have hn' : (ds'.map Directive.name).Nodup := (hp.map _).nodup_iff.2 hn
  ext b
  rw [findSome?_eq_some_iff_of_nodup hf hn', findSome?_eq_some_iff_of_nodup hf hn]
  simp only [hp.mem_iff]

/-- Different directives say the same in every order. -/
theorem saidBy_eq_of_perm {ds' : List Directive} (hn : (ds.map Directive.name).Nodup)
    (hp : ds'.Perm ds) : saidBy ds' = saidBy ds := by
  have hlabel : ds'.findSome? Directive.label? = ds.findSome? Directive.label? :=
    findSome?_eq_of_perm (fun | .label _ _, _, _ => rfl) hn hp
  have hrequired : ds'.findSome? Directive.required? = ds.findSome? Directive.required? :=
    findSome?_eq_of_perm (fun | .required _, _, _ => rfl) hn hp
  have hpattern : ds'.findSome? Directive.pattern? = ds.findSome? Directive.pattern? :=
    findSome?_eq_of_perm (fun | .pattern _, _, _ => rfl) hn hp
  have hlist : ds'.findSome? Directive.list? = ds.findSome? Directive.list? :=
    findSome?_eq_of_perm (fun | .list _, _, _ => rfl) hn hp
  have hunique : ds'.findSome? Directive.unique? = ds.findSome? Directive.unique? :=
    findSome?_eq_of_perm (fun | .unique _, _, _ => rfl) hn hp
  rw [saidBy, saidBy, hlabel, hrequired, hpattern, hlist, hunique]

/-! ### Reading -/

theorem findSome?_text?_label (ds : List Directive) :
    ds.findSome? (Directive.text? ["label"]) =
      (ds.findSome? Directive.label?).map fun l => l.1 ++ star l.2 := by
  rw [List.map_findSome?]
  congr 1
  funext d
  cases d <;> simp [Directive.text?, Directive.name, Directive.label?]

theorem findSome?_text?_pattern (ds : List Directive) :
    ds.findSome? (Directive.text? ["pattern", "regex"]) =
      (ds.findSome? Directive.pattern?).map fun p => '"' :: (p ++ ['"']) := by
  rw [List.map_findSome?]
  congr 1
  funext d
  cases d <;> simp [Directive.text?, Directive.name, Directive.pattern?]

theorem isLabel_of_findSome? (hds : ∀ d ∈ ds, d.Valid) {l : List Char × Bool}
    (h : ds.findSome? Directive.label? = some l) : IsLabel l.1 := by
  obtain ⟨d, hd, hl⟩ := List.exists_of_findSome?_eq_some h
  cases d with
  | label t starred =>
    rw [← Option.some.inj hl]
    exact hds _ hd
  | required w | pattern p | list w | unique w => cases hl

theorem isExpression_of_findSome? (hds : ∀ d ∈ ds, d.Valid) {p : List Char}
    (h : ds.findSome? Directive.pattern? = some p) : IsExpression p := by
  obtain ⟨d, hd, hp⟩ := List.exists_of_findSome?_eq_some h
  cases d with
  | pattern q =>
    rw [← Option.some.inj hp]
    exact hds _ hd
  | required w | label t starred | list w | unique w => cases hp

/-- The label and its star are those of the first label directive. -/
theorem label_writeDirectives (hds : ∀ d ∈ ds, d.Valid) :
    (textDirective? ["label"] (writeDirectives ds)).filter (!·.isEmpty) =
      (ds.findSome? Directive.label?).map fun l => l.1 ++ star l.2 := by
  rw [textDirective?_eq, textDirective?_writeDirectives (by decide) hds, findSome?_text?_label]
  cases h : ds.findSome? Directive.label? with
  | none => rfl
  | some l =>
    have hvalue := (isLabel_of_findSome? hds h).isValue l.2
    rw [Option.map_some, Option.map_some, hvalue.strip_eq, Option.filter_some, if_pos]
    simpa using hvalue.ne_nil

theorem commentPattern?_writeDirectives (hds : ∀ d ∈ ds, d.Valid) :
    commentPattern? (writeDirectives ds) = ds.findSome? Directive.pattern? := by
  rw [commentPattern?, textDirective?_eq, textDirective?_writeDirectives (by decide) hds,
    findSome?_text?_pattern]
  cases h : ds.findSome? Directive.pattern? with
  | none => rfl
  | some p =>
    have hvalue := (isExpression_of_findSome? hds h).isValue
    simp only [Option.map_some, hvalue.strip_eq, unquote_quoted]

/-- What is read from a label is its text, and whether it is starred. -/
theorem IsLabel.starless?_getD {t : List Char} (ht : IsLabel t) (starred : Bool) :
    nonEmpty (unquote (strip ((starless? (t ++ star starred)).getD (t ++ star starred)))) =
      some (String.ofList t) := by
  have hkept : (starless? (t ++ star starred)).getD (t ++ star starred) = t := by
    rw [ht.starless?_eq]
    cases starred <;> simp [star]
  rw [hkept, ht.stripped, ht.unquote_eq, nonEmpty, if_neg (by simpa using ht.ne_nil)]

/-- A comment made of directives says what its directives say. -/
theorem commentJudged_writeDirectives (hds : ∀ d ∈ ds, d.Valid) :
    commentJudged usable? (writeDirectives ds) = saidBy ds := by
  have hswitch {names : List String} (hnames : names ∈ switchNames) {f : Directive → Option Bool}
      (hf : ∀ d, Directive.switch? names d = f d) :
      switchDirective? names (writeDirectives ds) = ds.findSome? f := by
    rw [switchDirective?_writeDirectives hnames hds]
    exact congrArg (ds.findSome? ·) (funext hf)
  have hrequired : switchDirective? ["required", "require"] (writeDirectives ds) =
      ds.findSome? Directive.required? :=
    hswitch (by decide) fun d => by
      cases d <;> simp [Directive.switch?, Directive.name, Directive.required?]
  have hlist : switchDirective? ["list_visible", "list", "table"] (writeDirectives ds) =
      ds.findSome? Directive.list? :=
    hswitch (by decide) fun d => by
      cases d <;> simp [Directive.switch?, Directive.name, Directive.list?]
  have hunique : switchDirective? ["unique_key", "unique", "uk"] (writeDirectives ds) =
      ds.findSome? Directive.unique? :=
    hswitch (by decide) fun d => by
      cases d <;> simp [Directive.switch?, Directive.name, Directive.unique?]
  have hpattern : (ds.findSome? Directive.pattern?).bind usable? =
      ds.findSome? Directive.pattern? := by
    cases h : ds.findSome? Directive.pattern? with
    | none => rfl
    | some p => exact (isExpression_of_findSome? hds h).usable?_eq
  rw [commentJudged, commentPattern?_writeDirectives hds, label_writeDirectives hds, hrequired, hlist,
    hunique, hpattern, saidBy]
  cases h : ds.findSome? Directive.label? with
  | none => simp
  | some l =>
    have hl := isLabel_of_findSome? hds h
    simp only [Option.map_some, Option.bind_some, hl.starless?_getD]
    rw [hl.starless?_eq]
    cases l.2 <;> rfl

theorem commentMeta_eq_saidBy (hds : ∀ d ∈ ds, d.Valid) :
    commentMeta (writeDirectives ds) = .ok (saidBy ds) := by
  have hstop : (ds.findSome? Directive.pattern?).bind stop? = none := by
    cases h : ds.findSome? Directive.pattern? with
    | none => rfl
    | some p => exact (isExpression_of_findSome? hds h).stop?_eq
  rw [commentMeta_eq_judged, commentPattern?_writeDirectives hds, hstop,
    commentJudged_writeDirectives hds]
  rfl

/-- Directives commute. A comment that is made of different directives, in any order, says what each
of them says by itself. -/
theorem commentMeta_writeDirectives {ds' : List Directive} (hds : ∀ d ∈ ds, d.Valid)
    (hn : (ds.map Directive.name).Nodup) (hp : ds'.Perm ds) :
    commentMeta (writeDirectives ds') = .ok (saidBy ds) := by
  rw [commentMeta_eq_saidBy fun d hd => hds d (hp.mem_iff.1 hd), saidBy_eq_of_perm hn hp]

def dueLabel : String := "Due: \"on\" list"

def duePattern : String := "^\\d+\" required=[a-z]+ $"

/-- Directives of every kind; the label and the pattern hold what would be switches behind an at
sign. -/
def dueDirectives : List Directive :=
  [.label dueLabel.toList true, .required (some "no"), .pattern duePattern.toList,
    .list (some "0"), .unique none]

theorem commentMeta_writeDirectives_due :
    (∀ d ∈ dueDirectives, d.Valid) ∧ (dueDirectives.map Directive.name).Nodup ∧
      dueDirectives.reverse.Perm dueDirectives ∧
      commentMeta (writeDirectives dueDirectives.reverse) =
        .ok { label := some dueLabel, required := some false, pattern := some duePattern,
              listVisible := some false, uniqueKey := some true } := by
  have hlabel : IsLabel dueLabel.toList := by
    simp only [dueLabel, String.reduceToList]
    refine ⟨by decide, by decide, by decide, by decide, by decide, by decide, ?_⟩
    rintro ⟨q, u, hq, h⟩
    obtain ⟨rfl, -⟩ := List.cons.inj h
    exact absurd hq (by decide)
  have hread : (Pattern.read duePattern.toList).isOk = true := by
    simp only [duePattern, String.reduceToList]
    decide
  have hexpression : IsExpression duePattern.toList := by
    cases h : Pattern.read duePattern.toList with
    | error f =>
      rw [h] at hread
      cases hread
    | ok node =>
      refine ⟨?_, ?_, ?_, ?_, node, h⟩
      all_goals
        simp only [duePattern, String.reduceToList]
        decide
  have hswitch : ∀ w ∈ [some "no", some "0", none], ∀ word ∈ w, word ∈ switchWords := by decide
  have hvalid : ∀ d ∈ dueDirectives, d.Valid := by
    simp only [dueDirectives, List.forall_mem_cons]
    exact ⟨hlabel, hswitch _ (by decide), hexpression, hswitch _ (by decide), hswitch _ (by decide),
      List.forall_mem_nil _⟩
  have hnodup : (dueDirectives.map Directive.name).Nodup := by decide
  have hperm := dueDirectives.reverse_perm
  exact ⟨hvalid, hnodup, hperm, commentMeta_writeDirectives hvalid hnodup hperm⟩

end Formwork.Idl
