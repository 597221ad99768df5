import Formwork.Pattern.Reader
import Formwork.Proofs.Idl.DeclarationShape
import Formwork.Proofs.Pattern.Matches
import Formwork.Proofs.Text.Fold

/-!
The regular expressions of declarations. They match the texts of the shape of a declaration and no
others, so a declaration is recognized exactly where its expression matches, and the option list
that is searched for is the one that the expression matches.
-/
namespace Formwork.Idl
open Formwork.Text Formwork.Pattern

/-! ### The expressions -/

/-- Where an expression ends that matches a text from its start on. -/
def matchAt? (pattern : String) (text : List Char) : Option Cursor :=
  (Pattern.read pattern.toList).toOption.bind fun node => node.run (.ofText text) some

/-- The expression of a field; `options` stands between the brackets of the option list. -/
def fieldPattern (options : String) : String :=
  "^(repeated\\s+)?([A-Za-z_][\\w.]*)\\s+([A-Za-z_]\\w*)\\s*=\\s*\\d+\\s*(?:\\[" ++ options ++
    "\\])?\\s*;$"

/-- The expression of a member; `options` stands between the brackets of the option list. -/
def memberPattern (options : String) : String :=
  "^([A-Z][A-Z0-9_]*)\\s*=\\s*\\d+\\s*(?:\\[" ++ options ++ "\\])?\\s*;$"

/-! ### Their syntax trees -/

def oneOf (items : List SetItem) : Node := .char ⟨items, false, .exact, false⟩

def signNode (c : Char) : Node := oneOf [.single c.toNat]

def blanksNode (min : Nat) : Node := .loop .greedy min none (oneOf [.category .space false])

def dotsNode : Node := .loop .greedy 0 none (.dot false)

/-- A character of `first` and a run of characters of `others`. -/
def nameNode (first others : List SetItem) : Node :=
  .seq (oneOf first) (.seq (.loop .greedy 0 none (oneOf others)) .empty)

/-- ASCII letters and the underscore. -/
def nameStarts : List SetItem := [.range 65 90, .range 97 122, .single 95]

def terminatorNode : Node :=
  .seq (blanksNode 0) (.seq (signNode ';') (.seq (.anchor .closing) .empty))

def optionListNode (options : Node) : Node :=
  .loop .greedy 0 (some 1)
    (.scope (.seq (signNode '[') (.seq options (.seq (signNode ']') .empty))))

def numberingNode (options : Node) : Node :=
  .seq (blanksNode 0) <| .seq (signNode '=') <| .seq (blanksNode 0) <|
    .seq (.loop .greedy 1 none (oneOf [.category .digit false])) <| .seq (blanksNode 0) <|
      .seq (optionListNode options) terminatorNode

/-- The word and white space behind it. -/
def wordNode : List Char → Node
  | [] => .seq (blanksNode 1) .empty
  | c :: cs => .seq (signNode c) (wordNode cs)

def typedNameNode (options : Node) : Node :=
  .seq (.capture 2 (nameNode nameStarts [.category .word false, .single 46])) <|
    .seq (blanksNode 1) <| .seq (.capture 3 (nameNode nameStarts [.category .word false])) <|
      numberingNode options

def fieldNode (options : Node) : Node :=
  .seq (.anchor .textStart) <|
    .seq (.loop .greedy 0 (some 1) (.capture 1 (wordNode "repeated".toList))) <|
      typedNameNode options

def memberNode (options : Node) : Node :=
  .seq (.anchor .textStart) <|
    .seq (.capture 1 (nameNode [.range 65 90] [.range 65 90, .range 48 57, .single 95])) <|
      numberingNode options

/-- A group around the option list. -/
def groupedNode (group : Nat) : Node := .capture group (.seq dotsNode .empty)

theorem read_fieldPattern :
    (Pattern.read (fieldPattern ".*").toList).toOption = some (fieldNode dotsNode) ∧
      (Pattern.read (fieldPattern "(.*)").toList).toOption = some (fieldNode (groupedNode 4)) := by
  decide +kernel

theorem read_memberPattern :
    (Pattern.read (memberPattern ".*").toList).toOption = some (memberNode dotsNode) ∧
      (Pattern.read (memberPattern "(.*)").toList).toOption =
        some (memberNode (groupedNode 2)) := by
  decide +kernel

/-! ### What the parts match -/

variable {before w after rest text u : List Char} {g : List (Nat × List Char)} {options : Node}
  {groups : List Char → List (Nat × List Char)}

theorem holds_single (c d : Char) :
    CharSet.holds ⟨[.single c.toNat], false, .exact, false⟩ d = (d == c) := by
  simp [CharSet.holds, beq_eq_same]

theorem holds_space (c : Char) :
    CharSet.holds ⟨[.category .space false], false, .exact, false⟩ c = isBlank c := by
  simp [CharSet.holds, Category.holds]

theorem holds_digit (c : Char) :
    CharSet.holds ⟨[.category .digit false], false, .exact, false⟩ c = Text.isDigit c := by
  simp [CharSet.holds, Category.holds]

theorem holds_word (c : Char) :
    CharSet.holds ⟨[.category .word false], false, .exact, false⟩ c = isWord c := by
  simp [CharSet.holds, Category.holds]

theorem holds_inTypeName (c : Char) :
    CharSet.holds ⟨[.category .word false, .single 46], false, .exact, false⟩ c =
      (isWord c || c == '.') := by
  rw [beq_eq_same]
  simp [CharSet.holds, Category.holds]

theorem holds_nameStarts (c : Char) :
    CharSet.holds ⟨nameStarts, false, .exact, false⟩ c = isNameStart c := by
  rw [isNameStart, isAlpha_eq, isUpper_eq_within, isLower_eq_within, beq_eq_same]
  simp [CharSet.holds, nameStarts, Bool.or_assoc]

theorem holds_upper (c : Char) :
    CharSet.holds ⟨[.range 65 90], false, .exact, false⟩ c = c.isUpper := by
  rw [isUpper_eq_within]
  simp [CharSet.holds]

theorem holds_inMemberName (c : Char) :
    CharSet.holds ⟨[.range 65 90, .range 48 57, .single 95], false, .exact, false⟩ c =
      (c.isUpper || c.isDigit || c == '_') := by
  rw [isUpper_eq_within, isDigit_eq_within, beq_eq_same]
  simp [CharSet.holds, Bool.or_assoc]

theorem reads_signNode (c : Char) : (signNode c).Reads (· = [c]) noGroups :=
  (reads_char _).congr fun w => by simp [holds_single]

theorem reads_blanksNode (min : Nat) :
    (blanksNode min).Reads (fun w => min ≤ w.length ∧ ∀ c ∈ w, isBlank c = true) noGroups :=
  (reads_chars _ _ _).congr fun w => by simp only [holds_space]

theorem reads_nameNode (first others : List SetItem) :
    (nameNode first others).Reads
      (fun w => ∃ c cs, CharSet.holds ⟨first, false, .exact, false⟩ c = true ∧
        (∀ d ∈ cs, CharSet.holds ⟨others, false, .exact, false⟩ d = true) ∧ w = c :: cs)
      noGroups := by
  refine ((reads_char _).seq (reads_chars _ _ _).seq_empty).congr fun w => ?_
  constructor
  · rintro ⟨_, cs, ⟨c, hc, rfl⟩, ⟨-, hcs⟩, rfl⟩
    exact ⟨c, cs, hc, hcs, rfl⟩
  · rintro ⟨c, cs, hc, hcs, rfl⟩
    exact ⟨[c], cs, ⟨c, hc, rfl⟩, ⟨Nat.zero_le _, hcs⟩, rfl⟩

theorem reads_wordNode (word : List Char) :
    (wordNode word).Reads (fun w => ∃ b, b ≠ [] ∧ (∀ c ∈ b, isBlank c = true) ∧ w = word ++ b)
      noGroups := by
  induction word with
  | nil =>
    refine (reads_blanksNode 1).seq_empty.congr fun w => ?_
    simp [Nat.one_le_iff_ne_zero]
  | cons c word ih =>
    refine ((reads_signNode c).seq ih).congr fun w => ?_
    simp [and_assoc]

theorem reads_typeNode :
    (nameNode nameStarts [.category .word false, .single 46]).Reads IsTypeName noGroups := by
  refine (reads_nameNode _ _).congr fun w => ?_
  simp only [holds_nameStarts, holds_inTypeName]
  cases w <;> simp [IsTypeName]

theorem reads_identifierNode :
    (nameNode nameStarts [.category .word false]).Reads IsName noGroups := by
  refine (reads_nameNode _ _).congr fun w => ?_
  simp only [holds_nameStarts, holds_word]
  cases w <;> simp [IsName]

theorem reads_memberNameNode :
    (nameNode [.range 65 90] [.range 65 90, .range 48 57, .single 95]).Reads IsMemberName
      noGroups := by
  refine (reads_nameNode _ _).congr fun w => ?_
  simp only [holds_upper, holds_inMemberName]
  cases w <;> simp [IsMemberName]

theorem reads_digits :
    (Node.loop .greedy 1 none (oneOf [.category .digit false])).Reads
      (fun w => w ≠ [] ∧ ∀ c ∈ w, Text.isDigit c = true) noGroups :=
  (reads_chars _ _ _).congr fun w => by simp [holds_digit, Nat.one_le_iff_ne_zero]

/-! ### What the expressions match -/

/-- What stands between the brackets is any text on one line, and `groups` are set by it. -/
abbrev ReadsOptions (options : Node) (groups : List Char → List (Nat × List Char)) : Prop :=
  options.Reads (fun w => '\n' ∉ w) groups

theorem readsOptions_dotsNode : ReadsOptions dotsNode noGroups :=
  (reads_dots _ _).congr fun w => by simp

theorem readsOptions_groupedNode (group : Nat) :
    ReadsOptions (groupedNode group) fun w => [(group, w)] :=
  readsOptions_dotsNode.seq_empty.capture group

theorem matches_terminatorNode :
    terminatorNode.Matches before w after g ↔
      (∃ b, (∀ c ∈ b, isBlank c = true) ∧ w = b ++ [';']) ∧ IsEnd after ∧ g = [] := by
  have hclosing {before w after g} : (Node.seq (.anchor .closing) .empty).Matches before w after g ↔
      w = [] ∧ IsEnd after ∧ g = [] := by
    constructor
    · rintro ⟨_, _, _, _, rfl, rfl, ⟨hmeets, rfl, rfl⟩, rfl, rfl⟩
      exact ⟨rfl, by simpa [Cursor.meets, IsEnd] using hmeets, rfl⟩
    · rintro ⟨rfl, hend, rfl⟩
      exact ⟨[], [], [], [], rfl, rfl, ⟨by simpa [Cursor.meets, IsEnd] using hend, rfl, rfl⟩, rfl,
        rfl⟩
  rw [terminatorNode, (reads_blanksNode 0).silent_seq_iff]
  constructor
  · rintro ⟨b, v, ⟨-, hb⟩, rfl, hv⟩
    obtain ⟨_, _, rfl, rfl, hnil⟩ := (reads_signNode ';').silent_seq_iff.1 hv
    obtain ⟨rfl, hend, rfl⟩ := hclosing.1 hnil
    exact ⟨⟨b, hb, rfl⟩, hend, rfl⟩
  · rintro ⟨⟨b, hb, rfl⟩, hend, rfl⟩
    refine ⟨b, [';'], ⟨Nat.zero_le _, hb⟩, rfl, (reads_signNode ';').silent_seq_iff.2 ?_⟩
    exact ⟨[';'], [], rfl, rfl, hclosing.2 ⟨rfl, hend, rfl⟩⟩

theorem matches_optionListNode (h : ReadsOptions options groups) :
    (optionListNode options).Matches before w after g ↔
      ∃ o : Option (List Char), (∀ options ∈ o, '\n' ∉ options) ∧ w = bracketed o ∧
        g = o.elim [] groups := by
  rw [optionListNode, Node.Matches, rounds_optional, Node.Matches,
    (reads_signNode '[').silent_seq_iff]
  constructor
  · rintro (⟨_, v, rfl, rfl, hv⟩ | ⟨rfl, rfl⟩)
    · obtain ⟨options, _, _, ho, rfl, rfl, hclose⟩ := h.seq_iff.1 hv
      obtain ⟨rfl, rfl⟩ := ((reads_signNode ']').seq_empty _ _ _ _).1 hclose
      exact ⟨some options, fun _ he => Option.some.inj he ▸ ho, rfl, rfl⟩
    · exact ⟨none, by simp, rfl, rfl⟩
  · rintro ⟨o, ho, rfl, rfl⟩
    cases o with
    | none => exact .inr ⟨rfl, rfl⟩
    | some options =>
      refine .inl ⟨['['], options ++ [']'], rfl, rfl, h.seq_iff.2 ?_⟩
      exact ⟨options, [']'], [], ho options rfl, rfl, rfl,
        ((reads_signNode ']').seq_empty _ _ _ _).2 ⟨rfl, rfl⟩⟩

/-- The end of a declaration, from the equals sign on. -/
theorem matches_numberingNode (h : ReadsOptions options groups) :
    (numberingNode options).Matches before w after g ↔
      ∃ o, Numbered o w ∧ IsEnd after ∧ g = o.elim [] groups := by
  constructor
  · intro hw
    obtain ⟨b₁, _, ⟨-, hb₁⟩, rfl, hequals⟩ := (reads_blanksNode 0).silent_seq_iff.1 hw
    obtain ⟨_, _, rfl, rfl, hblanks⟩ := (reads_signNode '=').silent_seq_iff.1 hequals
    obtain ⟨b₂, _, ⟨-, hb₂⟩, rfl, hdigits⟩ := (reads_blanksNode 0).silent_seq_iff.1 hblanks
    obtain ⟨ds, _, ⟨hne, hds⟩, rfl, hbehind⟩ := reads_digits.silent_seq_iff.1 hdigits
    obtain ⟨b₃, _, ⟨-, hb₃⟩, rfl, hends⟩ := (reads_blanksNode 0).silent_seq_iff.1 hbehind
    obtain ⟨_, _, _, _, rfl, rfl, hlist, hterminator⟩ := hends
    obtain ⟨o, ho, rfl, rfl⟩ := (matches_optionListNode h).1 hlist
    obtain ⟨⟨b₄, hb₄, rfl⟩, hend, rfl⟩ := matches_terminatorNode.1 hterminator
    exact ⟨o, .intro hb₁ hb₂ hne hds hb₃ hb₄ ho, hend, rfl⟩
  · rintro ⟨o, @⟨b₁, b₂, ds, b₃, b₄, hb₁, hb₂, hne, hds, hb₃, hb₄, ho⟩, hend, rfl⟩
    refine (reads_blanksNode 0).silent_seq_iff.2 ⟨b₁, _, ⟨Nat.zero_le _, hb₁⟩, rfl, ?_⟩
    refine (reads_signNode '=').silent_seq_iff.2 ⟨['='], _, rfl, rfl, ?_⟩
    refine (reads_blanksNode 0).silent_seq_iff.2 ⟨b₂, _, ⟨Nat.zero_le _, hb₂⟩, rfl, ?_⟩
    refine reads_digits.silent_seq_iff.2 ⟨ds, _, ⟨hne, hds⟩, rfl, ?_⟩
    refine (reads_blanksNode 0).silent_seq_iff.2 ⟨b₃, _, ⟨Nat.zero_le _, hb₃⟩, rfl, ?_⟩
    exact ⟨bracketed o, b₄ ++ [';'], o.elim [] groups, [], rfl, rfl,
      (matches_optionListNode h).2 ⟨o, ho, rfl, rfl⟩,
      matches_terminatorNode.2 ⟨⟨b₄, hb₄, rfl⟩, hend, rfl⟩⟩

theorem matches_typedNameNode (h : ReadsOptions options groups) :
    (typedNameNode options).Matches before w after g ↔ ∃ t n o, TypedName t n o w ∧ IsEnd after ∧
      g = o.elim [] groups ++ [(3, n), (2, t)] := by
  constructor
  · intro hw
    obtain ⟨t, _, _, ht, rfl, rfl, hblanks⟩ := (reads_typeNode.capture 2).seq_iff.1 hw
    obtain ⟨b, _, ⟨hlength, hb⟩, rfl, hname⟩ := (reads_blanksNode 1).silent_seq_iff.1 hblanks
    obtain ⟨n, _, _, hn, rfl, rfl, hnumbering⟩ := (reads_identifierNode.capture 3).seq_iff.1 hname
    obtain ⟨o, hm, hend, rfl⟩ := (matches_numberingNode h).1 hnumbering
    exact ⟨t, n, o, .intro ht (List.ne_nil_of_length_pos hlength) hb hn hm, hend, by
      simp [noGroups]⟩
  · rintro ⟨t, n, o, @⟨b, m, ht, hne, hb, hn, hm⟩, hend, rfl⟩
    refine (reads_typeNode.capture 2).seq_iff.2 ⟨t, _, o.elim [] groups ++ [(3, n)], ht, rfl,
      by simp [noGroups], ?_⟩
    refine (reads_blanksNode 1).silent_seq_iff.2
      ⟨b, _, ⟨List.length_pos_iff.2 hne, hb⟩, rfl, ?_⟩
    refine (reads_identifierNode.capture 3).seq_iff.2 ⟨n, m, o.elim [] groups, hn, rfl, rfl, ?_⟩
    exact (matches_numberingNode h).2 ⟨o, hm, hend, rfl⟩

/-- The groups that a field sets before its option list, latest first. -/
def fieldGroups (r t n : List Char) : List (Nat × List Char) :=
  (3, n) :: (2, t) :: if r.isEmpty then [] else [(1, r)]

/-- At the start of a text the anchor changes nothing. -/
theorem matches_textStart {node : Node} :
    (Node.seq (.anchor .textStart) node).Matches [] w after g ↔ node.Matches [] w after g := by
  constructor
  · rintro ⟨_, _, _, _, rfl, rfl, ⟨-, rfl, rfl⟩, h⟩
    rwa [List.append_nil]
  · exact fun h => ⟨[], w, [], g, rfl, by simp, ⟨rfl, rfl, rfl⟩, h⟩

/-- The expression of a field matches the texts that declare one. -/
theorem matches_fieldNode (h : ReadsOptions options groups) :
    (fieldNode options).Matches [] w rest g ↔ ∃ r t n o, FieldText r t n o w ∧ IsEnd rest ∧
      g = o.elim [] groups ++ fieldGroups r t n := by
  rw [fieldNode, matches_textStart]
  constructor
  · rintro ⟨u, v, k, l, rfl, rfl, hrepeated, hv⟩
    obtain ⟨t, n, o, hw, hend, rfl⟩ := (matches_typedNameNode h).1 hv
    rcases rounds_optional.1 hrepeated with hword | ⟨rfl, rfl⟩
    · obtain ⟨⟨b, hne, hb, rfl⟩, rfl⟩ := ((reads_wordNode _).capture 1 _ _ _ _).1 hword
      exact ⟨_, t, n, o, .repeated hne hb hw, hend, by simp [fieldGroups, noGroups]⟩
    · exact ⟨[], t, n, o, .single hw, hend, by simp [fieldGroups]⟩
  · rintro ⟨r, t, n, o, hw, hend, rfl⟩
    cases hw with
    | single hw =>
      exact ⟨[], w, [], _, rfl, by simp [fieldGroups], rounds_optional.2 (.inr ⟨rfl, rfl⟩),
        (matches_typedNameNode h).2 ⟨t, n, o, hw, hend, rfl⟩⟩
    | @repeated b _ _ w _ hne hb hw =>
      have hword := ((reads_wordNode "repeated".toList).capture 1 [] _ (w ++ rest) _).2
        ⟨⟨b, hne, hb, rfl⟩, rfl⟩
      exact ⟨"repeated".toList ++ b, w, _, _, rfl, by simp [fieldGroups, noGroups],
        rounds_optional.2 (.inl hword), (matches_typedNameNode h).2 ⟨t, n, o, hw, hend, rfl⟩⟩

/-- The expression of a member matches the texts that declare one. -/
theorem matches_memberNode (h : ReadsOptions options groups) :
    (memberNode options).Matches [] w rest g ↔ ∃ n o, MemberText n o w ∧ IsEnd rest ∧
      g = o.elim [] groups ++ [(1, n)] := by
  rw [memberNode, matches_textStart, (reads_memberNameNode.capture 1).seq_iff]
  constructor
  · rintro ⟨n, m, k, hn, rfl, rfl, hnumbering⟩
    obtain ⟨o, hm, hend, rfl⟩ := (matches_numberingNode h).1 hnumbering
    exact ⟨n, o, .intro hn hm, hend, rfl⟩
  · rintro ⟨n, o, @⟨m, hn, hm⟩, hend, rfl⟩
    exact ⟨n, m, o.elim [] groups, hn, rfl, rfl, (matches_numberingNode h).2 ⟨o, hm, hend, rfl⟩⟩

/-! ### Matching and recognizing -/

theorem isSome_run_fieldNode (h : ReadsOptions options groups)
    (hregular : (fieldNode options).isRegular = true) :
    ((fieldNode options).run (.ofText text) some).isSome = (fieldHeader? text).isSome := by
  rw [Bool.eq_iff_iff, Node.isSome_run_ofText hregular, Option.isSome_iff_exists]
  simp only [matches_fieldNode h, Prod.exists, fieldHeader?_eq_some_iff]
  constructor
  · rintro ⟨w, rest, _, htext, r, t, n, o, hw, hend, rfl⟩
    exact ⟨!r.isEmpty, t, n, r, o, w, rest, hw, hend, htext, rfl⟩
  · rintro ⟨_, t, n, r, o, w, rest, hw, hend, htext, rfl⟩
    exact ⟨w, rest, _, htext, r, t, n, o, hw, hend, rfl⟩

theorem isSome_run_memberNode (h : ReadsOptions options groups)
    (hregular : (memberNode options).isRegular = true) (leading trailing : List (List Char)) :
    ((memberNode options).run (.ofText text) some).isSome =
      (Choice.ofStatement? ⟨text, leading, trailing⟩).isSome := by
  rw [Bool.eq_iff_iff, Node.isSome_run_ofText hregular, isSome_ofStatement?_iff]
  simp only [matches_memberNode h]
  constructor
  · rintro ⟨w, rest, _, htext, n, o, hw, hend, rfl⟩
    exact ⟨n, o, w, rest, hw, hend, htext⟩
  · rintro ⟨n, o, w, rest, hw, hend, htext⟩
    exact ⟨w, rest, _, htext, n, o, hw, hend, rfl⟩

theorem isRegular_fieldNode :
    (fieldNode dotsNode).isRegular = true ∧ (fieldNode (groupedNode 4)).isRegular = true := by
  decide

theorem isRegular_memberNode :
    (memberNode dotsNode).isRegular = true ∧ (memberNode (groupedNode 2)).isRegular = true := by
  decide

theorem lookup_fieldGroups (o : Option (List Char)) (r t n : List Char) :
    let g := (o.elim [] fun w => [(4, w)]) ++ fieldGroups r t n
    (g.lookup 1).isSome = !r.isEmpty ∧ g.lookup 2 = some t ∧ g.lookup 3 = some n ∧
      g.lookup 4 = o := by
  cases o <;> cases r <;> exact ⟨rfl, rfl, rfl, rfl⟩

theorem lookup_memberGroups (o : Option (List Char)) (n : List Char) :
    ((o.elim [] fun w => [(2, w)]) ++ [(1, n)]).lookup 2 = o := by
  cases o <;> rfl

/-- A match of the expression of a field finds the parts of a declaration. -/
theorem fieldText_of_match {c : Cursor} (h : matchAt? (fieldPattern "(.*)") text = some c) :
    ∃ r t n o w rest, FieldText r t n o w ∧ IsEnd rest ∧ text = w ++ rest ∧
      (c.captured.lookup 1).isSome = !r.isEmpty ∧ c.captured.lookup 2 = some t ∧
      c.captured.lookup 3 = some n ∧ c.captured.lookup 4 = o := by
  rw [matchAt?, read_fieldPattern.2, Option.bind_some] at h
  obtain ⟨w, rest, htext, hw⟩ := Node.matches_of_run_ofText isRegular_fieldNode.2 h
  obtain ⟨r, t, n, o, hfield, hend, hgroups⟩ :=
    (matches_fieldNode (readsOptions_groupedNode 4)).1 hw
  rw [hgroups]
  exact ⟨r, t, n, o, w, rest, hfield, hend, htext, lookup_fieldGroups o r t n⟩

/-- A match of the expression of a member finds the option list of a declaration. -/
theorem memberText_of_match {c : Cursor} (h : matchAt? (memberPattern "(.*)") text = some c) :
    ∃ n o w rest, MemberText n o w ∧ IsEnd rest ∧ text = w ++ rest ∧ c.captured.lookup 2 = o := by
  rw [matchAt?, read_memberPattern.2, Option.bind_some] at h
  obtain ⟨w, rest, htext, hw⟩ := Node.matches_of_run_ofText isRegular_memberNode.2 h
  obtain ⟨n, o, hmember, hend, hgroups⟩ := (matches_memberNode (readsOptions_groupedNode 2)).1 hw
  rw [hgroups]
  exact ⟨n, o, w, rest, hmember, hend, htext, lookup_memberGroups o n⟩

/-- A field is recognized exactly where its expression matches, with the groups of the match. -/
theorem fieldHeader?_eq_map_match (text : List Char) :
    fieldHeader? text = (matchAt? (fieldPattern "(.*)") text).map fun c =>
      ((c.captured.lookup 1).isSome, (c.captured.lookup 2).getD [],
        (c.captured.lookup 3).getD []) := by
  cases h : matchAt? (fieldPattern "(.*)") text with
  | none =>
    have hsome : _ = (fieldHeader? text).isSome :=
      isSome_run_fieldNode (readsOptions_groupedNode 4) isRegular_fieldNode.2
    rw [matchAt?, read_fieldPattern.2, Option.bind_some] at h
    rw [h] at hsome
    simpa using hsome.symm
  | some c =>
    obtain ⟨r, t, n, o, w, rest, hfield, hend, htext, hr, ht, hn, -⟩ := fieldText_of_match h
    rw [Option.map_some, hr, ht, hn]
    exact fieldHeader?_eq_some_iff.2 ⟨r, o, w, rest, hfield, hend, htext, rfl⟩

/-- Where a statement matches the expression of a field or of a member, the option list that is
searched for in it is the one that the expression matches between its brackets, and empty where it
matches none. Fields and members are recognized in the statements that match, and the group around
the option list makes no difference to that. -/
theorem optionList_eq_matched (text : List Char) :
    (∀ c, matchAt? (fieldPattern "(.*)") text = some c →
      optionList text = (c.captured.lookup 4).getD []) ∧
    (∀ c, matchAt? (memberPattern "(.*)") text = some c →
      optionList text = (c.captured.lookup 2).getD []) ∧
    (fieldHeader? text = (matchAt? (fieldPattern "(.*)") text).map fun c =>
      ((c.captured.lookup 1).isSome, (c.captured.lookup 2).getD [],
        (c.captured.lookup 3).getD [])) ∧
    (∀ leading trailing, (Choice.ofStatement? ⟨text, leading, trailing⟩).isSome =
      (matchAt? (memberPattern "(.*)") text).isSome) ∧
    (matchAt? (fieldPattern ".*") text).isSome =
      (matchAt? (fieldPattern "(.*)") text).isSome ∧
    (matchAt? (memberPattern ".*") text).isSome =
      (matchAt? (memberPattern "(.*)") text).isSome := by
  have hdots := readsOptions_dotsNode
  refine ⟨fun c h => ?_, fun c h => ?_, fieldHeader?_eq_map_match text, fun leading trailing => ?_,
    ?_, ?_⟩
  · obtain ⟨r, t, n, o, w, rest, hfield, hend, rfl, -, -, -, ho⟩ := fieldText_of_match h
    rw [ho, hfield.optionList_eq hend]
  · obtain ⟨n, o, w, rest, hmember, hend, rfl, ho⟩ := memberText_of_match h
    rw [ho, hmember.optionList_eq hend]
  · rw [matchAt?, read_memberPattern.2, Option.bind_some,
      isSome_run_memberNode (readsOptions_groupedNode 2) isRegular_memberNode.2]
  · rw [matchAt?, matchAt?, read_fieldPattern.1, read_fieldPattern.2, Option.bind_some,
      Option.bind_some, isSome_run_fieldNode hdots isRegular_fieldNode.1,
      isSome_run_fieldNode (readsOptions_groupedNode 4) isRegular_fieldNode.2]
  · rw [matchAt?, matchAt?, read_memberPattern.1, read_memberPattern.2, Option.bind_some,
      Option.bind_some, isSome_run_memberNode hdots isRegular_memberNode.1 [] [],
      isSome_run_memberNode (readsOptions_groupedNode 2) isRegular_memberNode.2 [] []]

/-- Brackets, semicolons, quotes and comment marks in an option list are part of it. -/
theorem optionList_eq_matched_marks :
    let field := "repeated a.B c = 1 [(d) = \"[e]; // f\", g = [\"];\"] /* h */ ] ;".toList
    let member := "A_1 = 2 [];];".toList
    (∃ c, matchAt? (fieldPattern "(.*)") field = some c ∧
      c.captured.lookup 4 = some "(d) = \"[e]; // f\", g = [\"];\"] /* h */ ".toList ∧
      optionList field = (c.captured.lookup 4).getD []) ∧
    ∃ c, matchAt? (memberPattern "(.*)") member = some c ∧
      c.captured.lookup 2 = some "];".toList ∧
      optionList member = (c.captured.lookup 2).getD [] := by
  intro field member
  have hfield : (matchAt? (fieldPattern "(.*)") field).map (·.captured.lookup 4) =
      some (some "(d) = \"[e]; // f\", g = [\"];\"] /* h */ ".toList) := by decide +kernel
  have hmember : (matchAt? (memberPattern "(.*)") member).map (·.captured.lookup 2) =
      some (some "];".toList) := by decide +kernel
  obtain ⟨c, hc, hoptions⟩ := Option.map_eq_some_iff.1 hfield
  obtain ⟨d, hd, hlist⟩ := Option.map_eq_some_iff.1 hmember
  exact ⟨⟨c, hc, hoptions, (optionList_eq_matched field).1 c hc⟩,
    ⟨d, hd, hlist, (optionList_eq_matched member).2.1 d hd⟩⟩

end Formwork.Idl
