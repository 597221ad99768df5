import Formwork.Proofs.Form.Shape
import Formwork.Proofs.Visibility.Scope

/-!
Names of fields in conditions. A declaration may use word characters of any script and any word in
the name of a field; a condition knows names of ASCII characters only, and keeps some words for
itself. So a condition reaches the fields of a compiled form whose names are of the narrower kind,
and no others.
-/
namespace Formwork.Visibility
open Formwork.Idl Formwork.Text

variable {key s : String} {members : List (String × Value)} {v : Value} {cs rest : List Char}
  {c : Char}

/-- Words that make a condition which asks for a field of that name false, whatever the record. -/
def takenWords : List String := ["and", "or", "not", "in", "is", "null", "undefined"]

/-- Whether a condition can ask for the field of a name. `true` and `false` stand for themselves
there, and are not null. -/
def isAddressable (key : String) : Bool := key.toList.all isNameChar && !takenWords.contains key

/-! ### Names that a condition reads -/

theorem isNameChar_of_isNameStart (h : isNameStart c = true) : isNameChar c = true := by
  rw [isNameStart, Bool.or_eq_true] at h
  simp only [isNameChar, Char.isAlphanum, Bool.or_eq_true]
  tauto

theorem isDigit_of_isNameStart (h : isNameStart c = true) : c.isDigit = false := by
  rw [isNameStart, Bool.or_eq_true, beq_iff_eq] at h
  rcases h with h | rfl
  · cases hd : c.isDigit with
    | false => rfl
    | true =>
      simp only [isAlpha_eq, isUpper_eq, isLower_eq, Char.isDigit, Bool.or_eq_true,
        Bool.and_eq_true, decide_eq_true_eq, ge_iff_le, UInt32.le_iff_toNat_le] at h hd
      simp at h hd
      omega
  · decide

theorem isNameText_of_isName (hk : IsName cs) (h : ∀ c ∈ cs, isNameChar c = true) :
    IsNameText cs := by
  refine ⟨?_, h⟩
  cases cs with
  | nil => exact hk.elim
  | cons c cs => simp [isDigit_of_isNameStart hk.1]

/-- A field alone. -/
theorem derives_field (path : List String) (name : String) :
    Derives (.cond .operand) ((.name, name) :: namesWords path) (.field (name :: path)) := by
  obtain ⟨d, hw, hm, hd⟩ := derives_namesWords path
  refine ⟨.field name 0 d, ?_, ?_, by simpa using hd⟩
  · rw [← hw]
    rfl
  · rw [Derivation.meaning, hm]

def nullWords (negated : Bool) : List Word :=
  keywordWord "is" :: ((if negated then [keywordWord "not"] else []) ++ [keywordWord "null"])

theorem derives_nullCheck {ws : List Word} {e : Expr} (h : Derives (.cond .operand) ws e)
    (negated : Bool) :
    Derives (.cond .disjunction) (ws ++ nullWords negated) (.isNull e negated) := by
  have hp : Derives .predicate (nullWords negated) (fun left => .isNull left negated) := by
    cases negated with
    | true => exact ⟨.isNotNull 0 0 0, rfl, rfl, by simp⟩
    | false => exact ⟨.isNull 0 0, rfl, rfl, by simp⟩
  exact (h.comparison hp).ofComparison.ofNegation.ofConjunction

theorem read_present (hk : IsFieldName key) :
    Expr.read (key ++ " is not null").toList = .ok (.isNull (.field [key]) true) := by
  have hspaced : Spaced ((.name, key) :: nullWords true) (key ++ " is not null").toList := by
    have hnull : Spells (keywordWord "null") "null".toList := .keyword (by decide)
    rw [String.toList_append]
    exact .space (.name hk) (.space (.keyword (by decide)) (.space (.keyword (by decide))
      (.last hnull)))
  exact hspaced.read_eq (derives_nullCheck (derives_field [] key) true)

theorem read_missingBelow (hk : IsFieldName key) :
    Expr.read ("values." ++ key ++ " is null").toList =
      .ok (.isNull (.field ["values", key]) false) := by
  have hvalues : IsFieldName "values" := ⟨⟨by decide, by decide⟩, by decide⟩
  have hspaced : Spaced ((.name, "values") :: opWord "." :: (.name, key) :: nullWords false)
      ("values." ++ key ++ " is null").toList := by
    have htext : ("values." ++ key ++ " is null").toList =
        "values".toList ++ (".".toList ++ (key.toList ++ ' ' :: ("is".toList ++ ' ' ::
          "null".toList))) := by
      simp [String.toList_append]
    rw [htext]
    exact .touch (.name hvalues) (by decide) (.touch (.op (by decide)) (.inl (by decide))
      (.space (.name hk) (.space (.keyword (by decide)) (.last (.keyword (by decide))))))
  exact hspaced.read_eq (derives_nullCheck (derives_field [key] "values") false)

/-! ### Where the names lead -/

theorem find?_context_of_find? (h : Value.find? members key = some v) :
    Value.find? (context members) key = some v := by
  rw [context]
  split
  · exact h
  · rw [Value.find?, List.lookup_append, ← Value.find?, h, Option.some_or]

theorem follow_context_of_find? (h : Value.find? members key = some v) :
    follow [key] (.object (context members)) = v := by
  rw [follow, find?_context_of_find? h]
  rfl

theorem holds_nullCheck {path : List String} {negated : Bool}
    (hread : Expr.read s.toList = .ok (.isNull (.field path) negated))
    (h : follow path (.object (context members)) = v) :
    holds (some s) members = .ok (v.isNull != negated) := by
  rw [holds_of_read hread, eval, eval, h]
  rfl

/-! ### Words that a condition keeps for itself -/

/-- A condition without fields holds for every record or for none. -/
theorem holds_eq_of_no_paths (hs : strip s.toList ≠ [])
    (h : (Expr.read s.toList).toOption.all (·.paths.isEmpty) = true)
    (members members' : List (String × Value)) :
    holds (some s) members = holds (some s) members' := by
  rw [holds_of_not_blank hs, holds_of_not_blank hs, valueOf?, valueOf?]
  cases hread : Expr.read s.toList with
  | error err => rfl
  | ok e =>
    rw [hread] at h
    have hpaths : e.paths = [] := List.isEmpty_iff.1 h
    have heval : eval (.object (context members)) e = eval (.object (context members')) e :=
      eval_congr e fun path hp => by simp [hpaths] at hp
    simp only [Except.toOption, Option.bind_some, heval]

theorem holds_reserved (hk : key ∈ "undefined" :: keywords) (members : List (String × Value)) :
    holds (some (key ++ " is not null")) members = .ok (isAddressable key) ∧
      holds (some ("values." ++ key ++ " is null")) members = .ok false := by
  have hall : ∀ key ∈ "undefined" :: keywords,
      (strip (key ++ " is not null").toList ≠ [] ∧
        (Expr.read (key ++ " is not null").toList).toOption.all (·.paths.isEmpty) = true ∧
        holds (some (key ++ " is not null")) [] = .ok (isAddressable key)) ∧
      strip ("values." ++ key ++ " is null").toList ≠ [] ∧
        (Expr.read ("values." ++ key ++ " is null").toList).toOption.all (·.paths.isEmpty) =
          true ∧
        holds (some ("values." ++ key ++ " is null")) [] = .ok false := by decide +kernel
  obtain ⟨⟨hs, hread, hholds⟩, hs', hread', hholds'⟩ := hall key hk
  rw [holds_eq_of_no_paths hs hread members [], holds_eq_of_no_paths hs' hread' members []]
  exact ⟨hholds, hholds'⟩

/-! ### Characters that no condition knows -/

/-- A word character that cannot stand in a name is the front of no lexeme. -/
theorem lexeme?_eq_none (hw : isWord c = true) (hn : isNameChar c = false) (rest : List Char) :
    lexeme? (c :: rest) = none := by
  have hblank : isAsciiBlank c = false := by
    cases hb : isAsciiBlank c with
    | false => rfl
    | true =>
      have hall : ∀ c ∈ ['\t', '\n', '\x0b', '\x0c', '\r', ' '], isWord c = false := by decide
      rw [hall c (mem_asciiBlanks hb)] at hw
      cases hw
  have hquote : ¬(c = '"' ∨ c = '\'') := by
    rintro (rfl | rfl) <;> exact absurd hw (by decide)
  have hfind : operators.find? (fun o => o.toList.isPrefixOf (c :: rest)) = none := by
    have hall : ∀ o ∈ operators, o.toList.head?.any (fun d => !isWord d) = true := by decide
    refine List.find?_eq_none.2 fun o ho hp => ?_
    have ho' := hall o ho
    cases hcs : o.toList with
    | nil => simp [hcs] at ho'
    | cons d ds =>
      rw [hcs] at hp ho'
      obtain ⟨rfl, -⟩ := List.cons_prefix_cons.1 (List.isPrefixOf_iff_prefix.1 hp)
      simp [hw] at ho'
  simp [lexeme?, hblank, isDigit_of_isNameChar_eq_false hn, hquote, hn, hfind]

theorem ends_of_isWord (hw : isWord c = true) (hn : isNameChar c = false) (rest : List Char) :
    Ends (c :: rest) := by
  have hall : ∀ o ∈ operators, ∀ d ∈ o.toList, isWord d = false := by decide
  intro d hd
  obtain rfl := Option.some.inj hd
  refine ⟨hn, fun o ho hm => ?_⟩
  rw [hall o ho c (List.mem_of_mem_tail hm)] at hw
  cases hw

/-- A name with a character that no condition knows has one behind a name that conditions know. -/
theorem exists_append_cons_of_isName (hk : IsName cs) (h : ¬∀ c ∈ cs, isNameChar c = true) :
    ∃ front c back, cs = front ++ c :: back ∧ IsNameText front ∧ isWord c = true ∧
      isNameChar c = false := by
  cases cs with
  | nil => exact hk.elim
  | cons b cs =>
    have hb : isNameChar b = true := isNameChar_of_isNameStart hk.1
    obtain ⟨c, back, hdrop⟩ : ∃ c back, cs.dropWhile isNameChar = c :: back := by
      refine List.exists_cons_of_ne_nil fun hnil => h (List.forall_mem_cons.2 ⟨hb, ?_⟩)
      simpa using hnil
    have hsplit : cs = cs.takeWhile isNameChar ++ c :: back := by
      rw [← hdrop, List.takeWhile_append_dropWhile]
    have hc : isNameChar c = false := by
      have hhead := List.head?_dropWhile_not isNameChar cs
      simpa [hdrop] using hhead
    have hfront : IsName (b :: cs.takeWhile isNameChar) :=
      ⟨hk.1, fun d hd => hk.2 d ((List.takeWhile_sublist isNameChar).subset hd)⟩
    refine ⟨b :: cs.takeWhile isNameChar, c, back, congrArg (b :: ·) hsplit,
      isNameText_of_isName hfront ?_, hk.2 c (by rw [hsplit]; simp), hc⟩
    exact List.forall_mem_cons.2 ⟨hb, fun d hd => List.mem_takeWhile_imp hd⟩

/-- Any name of the characters that conditions know is a word of conditions. -/
theorem exists_spells_of_isNameText (h : IsNameText cs) : ∃ w, Spells w cs := by
  by_cases hfree : String.ofList cs ∈ "undefined" :: keywords
  · rcases List.mem_cons.1 hfree with hu | hw
    · have hspells : Spells (keywordWord "null") "undefined".toList :=
        .otherKeyword (by decide) (by decide)
      rw [← hu, String.toList_ofList] at hspells
      exact ⟨_, hspells⟩
    · have hspells := Spells.keyword hw
      rw [String.toList_ofList] at hspells
      exact ⟨_, hspells⟩
  · have hname : IsFieldName (String.ofList cs) := ⟨by rwa [String.toList_ofList], hfree⟩
    have hspells := Spells.name hname
    rw [String.toList_ofList] at hspells
    exact ⟨_, hspells⟩

theorem exists_tokensFrom_error (hk : IsName cs) (h : ¬∀ c ∈ cs, isNameChar c = true)
    (position : Nat) (rest : List Char) :
    ∃ err, tokensFrom position 0 (cs ++ rest) = .error err := by
  obtain ⟨front, c, back, rfl, hfront, hw, hn⟩ := exists_append_cons_of_isName hk h
  obtain ⟨w, hspells⟩ := exists_spells_of_isNameText hfront
  have hpoint : c ≠ '.' := by
    rintro rfl
    exact absurd hw (by decide)
  have hfollows : Follows w (c :: (back ++ rest)) :=
    .inr ⟨ends_of_isWord hw hn _, fun _ he => hpoint (Option.some.inj he)⟩
  rw [List.append_assoc, List.cons_append, hspells.tokensFrom_append hfollows, tokensFrom,
    lexeme?_eq_none hw hn]
  exact ⟨_, rfl⟩

theorem holds_of_tokens_error (hs : strip s.toList ≠ []) {err : TokenError}
    (h : tokens s.toList = .error err) (members : List (String × Value)) :
    holds (some s) members = .ok false := by
  have hlimit : ¬TextReachesLimit s.toList := by
    rintro ⟨ts, hts, -⟩
    cases h.symm.trans hts
  have hread : Expr.read s.toList = .error (.token err) := by
    rw [Expr.read, h]
    rfl
  rw [holds_of_not_blank hs, if_neg hlimit, valueOf?, hread]
  rfl

theorem holds_foreign (hk : IsName key.toList) (h : ¬∀ c ∈ key.toList, isNameChar c = true)
    (members : List (String × Value)) :
    holds (some (key ++ " is not null")) members = .ok false ∧
      holds (some ("values." ++ key ++ " is null")) members = .ok false := by
  constructor
  · obtain ⟨err, herr⟩ := exists_tokensFrom_error hk h 0 " is not null".toList
    rw [← String.toList_append] at herr
    refine holds_of_tokens_error (fun hs => ?_) herr members
    obtain ⟨c, hc⟩ := List.exists_mem_of_ne_nil key.toList (by rintro he; rw [he] at hk; exact hk)
    rw [strip_eq_nil_iff, String.toList_append] at hs
    have hblank := isWord_of_isBlank (hs c (List.mem_append_left _ hc))
    rw [hk.isWord c hc] at hblank
    cases hblank
  · have hvalues : IsFieldName "values" := ⟨⟨by decide, by decide⟩, by decide⟩
    have hpoint : Spells (.op, ".") ".".toList := .op (by decide)
    obtain ⟨err, herr⟩ := exists_tokensFrom_error hk h (0 + "values".toList.length +
      ".".toList.length) " is null".toList
    have htext : ("values." ++ key ++ " is null").toList =
        "values".toList ++ (".".toList ++ (key.toList ++ " is null".toList)) := by
      simp [String.toList_append]
    have htokens : tokens ("values." ++ key ++ " is null").toList = .error err := by
      rw [tokens, htext,
        (Spells.name hvalues).tokensFrom_append (.inr ⟨ends_mark (by decide) _, by simp⟩),
        hpoint.tokensFrom_append (.inl (by decide)), herr]
      rfl
    refine holds_of_tokens_error (fun hs => ?_) htokens members
    rw [strip_eq_nil_iff, htext] at hs
    exact absurd (hs 'v' (List.mem_append_left _ (by decide))) (by decide)

/-! ### Fields of compiled forms -/

/-- What conditions say of a field whose name a declaration can give. -/
theorem holds_of_isName (hk : IsName key.toList) (hv : Value.find? members key = some v)
    (hn : v ≠ .null) :
    holds (some (key ++ " is not null")) members = .ok (isAddressable key) ∧
      (Value.find? members "values" = none →
        holds (some ("values." ++ key ++ " is null")) members = .ok false) := by
  have hnull : v.isNull = false := by
    cases v <;> first | exact absurd rfl hn | rfl
  by_cases hall : ∀ c ∈ key.toList, isNameChar c = true
  · by_cases hfree : key ∈ "undefined" :: keywords
    · obtain ⟨hplain, hbelow⟩ := holds_reserved hfree members
      exact ⟨hplain, fun _ => hbelow⟩
    · have hname : IsFieldName key := ⟨isNameText_of_isName hk hall, hfree⟩
      have haddress : isAddressable key = true := by
        have htaken : ∀ w ∈ takenWords, w ∈ "undefined" :: keywords := by decide
        have hkey : key ∉ takenWords := fun hm => hfree (htaken key hm)
        simpa [isAddressable, hkey] using hall
      rw [haddress]
      refine ⟨?_, fun hnone => ?_⟩
      · rw [holds_nullCheck (read_present hname) (follow_context_of_find? hv), hnull]
        rfl
      · have hfollow : follow ["values", key] (.object (context members)) = v := by
          rw [follow_values_context hnone, follow, hv]
          rfl
        rw [holds_nullCheck (read_missingBelow hname) hfollow, hnull]
        rfl
  · obtain ⟨hplain, hbelow⟩ := holds_foreign hk hall members
    have haddress : isAddressable key = false := by
      have hfalse : key.toList.all isNameChar = false := by
        rw [Bool.eq_false_iff, ne_eq, List.all_eq_true]
        exact hall
      rw [isAddressable, hfalse, Bool.false_and]
    rw [haddress]
    exact ⟨hplain, fun _ => hbelow⟩

/-- Of a field at the top level of a compiled form that has a value, a condition can say that it is
not null exactly if the name of the field is of ASCII characters and not taken; and below `values`
no condition says that it is null. -/
theorem holds_of_compile {text : List Char} {app : String} {config : CompilerConfig} {stamp : Stamp}
    {form : Form} {notices : List Notice}
    (h : compile text app config stamp = .ok (some form, notices)) {f : FormField}
    (hf : f ∈ form.fields) (hv : Value.find? members f.key = some v) (hn : v ≠ .null) :
    holds (some (f.key ++ " is not null")) members = .ok (isAddressable f.key) ∧
      (Value.find? members "values" = none →
        holds (some ("values." ++ f.key ++ " is null")) members = .ok false) :=
  holds_of_isName (forall_within_shaped_of_compile h f (FormField.within_of_mem hf)).key hv hn

/-- A note with a field named by a word that conditions take, one named by a word that is not ASCII,
and one more. -/
def noteText : String := "message Note \x7b string in = 1; string café = 2; string text = 3; \x7d"

def noteMessage : Message :=
  ⟨"Note", [⟨"in", "string", false, {}⟩, ⟨"café", "string", false, {}⟩,
    ⟨"text", "string", false, {}⟩]⟩

def noteFields : List FormField :=
  [{ key := "in", label := "In", kind := "string" },
    { key := "café", label := "Café", kind := "string" },
    { key := "text", label := "Text", kind := "string" }]

theorem compile_noteText : ∃ form notices,
    compile noteText.toList "note" {} { now := .ofSeconds 0 } = .ok (some form, notices) ∧
      form.fields = noteFields := by
  let d : Document := ⟨[("Note", noteMessage)], [], []⟩
  have hread : Document.read noteText.toList = .ok d := by
    simp only [noteText, String.reduceToList]
    decide +kernel
  have hroot : Document.root? d "note" {} = some noteMessage := by decide
  have hunfolds : Unfolds ⟨d.messages, d.enumerations⟩ (Expandable 16) [noteMessage]
      noteMessage.fields (noteMessage.fields.map (.ofScalar · .text)) :=
    .scalar rfl (.scalar rfl (.scalar rfl .nil))
  have hc := Document.compile_of_root d "note" {} hroot
  have hfields := hunfolds.resolveFields_eq (List.pairwise_singleton ..)
  rw [List.map_singleton] at hfields
  rw [hfields] at hc
  let compiled : CompiledForm := ⟨noteMessage, noteMessage.fields.map (.ofScalar · .text)⟩
  refine ⟨compiled.toForm "1.0.0" { now := .ofSeconds 0 }, (Document.compile d "note" {}).2, ?_,
    rfl⟩
  rw [compile, hread]
  simp only [bind, Except.bind]
  rw [hc]
  rfl

/-- A value under a plain name is found, and one under a name that is not ASCII is not. -/
theorem holds_noteForm :
    let members := [("café", Value.bool true), ("text", Value.text "")]
    ∃ form notices,
      compile noteText.toList "note" {} { now := .ofSeconds 0 } = .ok (some form, notices) ∧
        form.fields = noteFields ∧
        holds (some "text is not null") members = .ok true ∧
        holds (some "values.text is null") members = .ok false ∧
        holds (some "café is not null") members = .ok false := by
  intro members
  obtain ⟨form, notices, hform, hfields⟩ := compile_noteText
  have hat (i : Nat) (h : i < noteFields.length) : noteFields[i] ∈ form.fields := by
    rw [hfields]
    exact List.getElem_mem h
  have hfilled : Value.find? members "text" = some (.text "") := rfl
  have hchecked : Value.find? members "café" = some (.bool true) := rfl
  have htext := holds_of_compile hform (hat 2 (by decide)) hfilled nofun
  have hforeign := holds_of_compile hform (hat 1 (by decide)) hchecked nofun
  have hplain : isAddressable "text" = true := by decide
  have hother : isAddressable "café" = false := by decide
  refine ⟨form, notices, hform, hfields, ?_, htext.2 rfl, ?_⟩
  · rw [← hplain]
    exact htext.1
  · rw [← hother]
    exact hforeign.1

/-- A compiled field has a value, and the condition that says so does not hold. -/
theorem not_holds_takenName : ∃ form notices,
    compile noteText.toList "note" {} { now := .ofSeconds 0 } = .ok (some form, notices) ∧
      ∃ f ∈ form.fields, f.key = "in" ∧
        Value.find? [("in", Value.int 1)] f.key = some (.int 1) ∧
        holds (some (f.key ++ " is not null")) [("in", .int 1)] = .ok false := by
  obtain ⟨form, notices, hform, hfields⟩ := compile_noteText
  refine ⟨form, notices, hform, noteFields[0], ?_, rfl, rfl, ?_⟩
  · rw [hfields]
    exact List.mem_cons_self
  · have htaken : "in" ∈ "undefined" :: keywords := by decide
    exact (holds_reserved htaken _).1

end Formwork.Visibility
