import Formwork.Proofs.JsonSchema.Accepted
import Formwork.Proofs.Number.Order

/-!
The rules of a field in its exported node. A rule about size or pattern becomes a keyword that accepts
what the rule lets pass, but a node has one keyword of each word: of the rules of one type that can be
read the last one stands, and nothing is left of those before it.
-/
namespace Formwork.JsonSchema
open Formwork.Record (checkRule isNumeral Checks Place)

/-! ### What rules set -/

/-- The words of the keywords that rules set. -/
def ruledWords : List String :=
  ["minLength", "maxLength", "minimum", "maximum", "minItems", "maxItems", "pattern"]

/-- The part of a node that rules set. -/
def ruledPart (node : Node) : Node := node.filter fun k => ruledWords.contains k.word

/-- A rule about size or pattern whose value can be read. -/
inductive Usable (r : Rule) : Prop
  | limit (ht : r.type ∈ ["min", "max"]) (hb : (bound? r.value).isSome = true)
  | pattern (ht : r.type = "pattern") (hne : r.value.getD "" ≠ "")
      (hr : Idl.Readable (r.value.getD ""))

/-- A rule about size or pattern after which no usable rule of its type comes. -/
def Stands (rules : List Rule) (r : Rule) : Prop :=
  r.type ∈ ["min", "max", "pattern"] ∧ ∃ before after, rules = before ++ r :: after ∧
    ∀ s ∈ after, s.type = r.type → ¬Usable s

/-- Values, other than the empty text, of the JSON type of a kind. -/
inductive Fills : String → Value → Prop
  | text {kind s : String} (hk : kind ∈ textKinds) (hs : s ≠ "") : Fills kind (.text s)
  | list {kind : String} {vs : List Value} (hk : kind ∈ listKinds) : Fills kind (.list vs)
  | number {v : Value} (hv : isNumeral v = true) : Fills "number" v

/-- The limit that the rules of a type set. -/
def limitBy? (kind type : String) : Option Limit :=
  match type with
  | "min" => (limits? kind).map (·.1)
  | "max" => (limits? kind).map (·.2)
  | _ => none

/-- The keyword that a pattern makes. -/
def patternBy? (kind text : String) : Option Keyword :=
  if text.isEmpty || !textKinds.contains kind then none
  else match Pattern.read text.toList with
    | .ok _ => some (.pattern text)
    | .error _ => none

/-- The keyword that a rule sets. -/
def setBy? (kind : String) (r : Rule) : Option Keyword :=
  if r.type = "pattern" then patternBy? kind (r.value.getD "")
  else (limitBy? kind r.type).bind fun which => (bound? r.value).map (.limit which)

/-- A rule sets a keyword on the nodes of a kind. -/
inductive Sets (kind : String) (r : Rule) : Keyword → Prop
  | limit {which : Limit} {bound : Bound} (hl : limitBy? kind r.type = some which)
      (hb : bound? r.value = some bound) : Sets kind r (.limit which bound)
  | pattern (ht : r.type = "pattern") (hk : kind ∈ textKinds) (hne : r.value.getD "" ≠ "")
      (hr : Idl.Readable (r.value.getD "")) : Sets kind r (.pattern (r.value.getD ""))

variable {f : FormField} {kind type : String} {r s : Rule} {rules : List Rule} {k l : Keyword}
  {a b node children : Node} {v : Value} {checks : Checks} {p : Place} {which low high : Limit}

theorem setBy?_eq_some_iff : setBy? kind r = some k ↔ Sets kind r k := by
  rw [setBy?]
  by_cases hp : r.type = "pattern"
  · rw [if_pos hp, patternBy?]
    constructor
    · intro h
      split at h
      · cases h
      · next hskip =>
        simp only [Bool.or_eq_true, Bool.not_eq_true', not_or, String.isEmpty_iff,
          Bool.not_eq_false, List.contains_iff_mem] at hskip
        split at h
        · next tree hread =>
          obtain rfl := Option.some.inj h
          exact .pattern hp hskip.2 hskip.1 ⟨tree, hread⟩
        · cases h
    · intro h
      cases h with
      | limit hl => simp [hp, limitBy?] at hl
      | pattern _ hk hne hr =>
        obtain ⟨tree, hread⟩ := hr
        simp [hne, hk, hread]
  · rw [if_neg hp]
    constructor
    · intro h
      obtain ⟨which, hl, hmap⟩ := Option.bind_eq_some_iff.1 h
      obtain ⟨bound, hb, rfl⟩ := Option.map_eq_some_iff.1 hmap
      exact .limit hl hb
    · intro h
      cases h with
      | limit hl hb => rw [hl, hb, Option.bind_some, Option.map_some]
      | pattern ht => exact absurd ht hp

theorem putLimit_eq (o : Option Limit) :
    putLimit o r a = ((o.bind fun which => (bound? r.value).map (.limit which)).elim a a.put) := by
  unfold putLimit
  cases o <;> cases bound? r.value <;> rfl

theorem putPattern_eq (h : putPattern kind r a = .ok b) :
    b = (patternBy? kind (r.value.getD "")).elim a a.put := by
  rw [putPattern] at h
  rw [patternBy?]
  split at h
  · next hskip =>
    rw [if_pos hskip]
    exact (Except.ok.inj h).symm
  · next hskip =>
    rw [if_neg hskip]
    cases hread : Pattern.read (r.value.getD "").toList with
    | ok tree =>
      simp only [hread] at h
      exact (Except.ok.inj h).symm
    | error fault =>
      cases fault with
      | malformed =>
        simp only [hread] at h
        exact (Except.ok.inj h).symm
      | _ =>
        simp only [hread] at h
        cases h

theorem putRule_eq (h : putRule kind a r = .ok b) : b = (setBy? kind r).elim a a.put := by
  rw [putRule] at h
  rw [setBy?]
  split at h
  · next ht =>
    rw [ht, if_neg (by decide), limitBy?, ← putLimit_eq]
    exact (Except.ok.inj h).symm
  · next ht =>
    rw [ht, if_neg (by decide), limitBy?, ← putLimit_eq]
    exact (Except.ok.inj h).symm
  · next ht =>
    rw [if_pos ht]
    exact putPattern_eq h
  · next hmin hmax hp =>
    have hnone : limitBy? kind r.type = none := limitBy?.eq_3 kind r.type hmin hmax
    rw [if_neg hp, hnone]
    exact (Except.ok.inj h).symm

theorem limits?_of_text (hk : kind ∈ textKinds) : limits? kind = some (.minLength, .maxLength) :=
  if_pos (List.contains_iff_mem.2 hk)

theorem limits?_of_list (hk : kind ∈ listKinds) : limits? kind = some (.minItems, .maxItems) := by
  simp only [listKinds, List.mem_cons, List.not_mem_nil, or_false] at hk
  rcases hk with rfl | rfl | rfl | rfl <;> rfl

theorem limits?_number : limits? "number" = some (.minimum, .maximum) := rfl

theorem limits?_cases (h : limits? kind = some (low, high)) :
    low = .minLength ∧ high = .maxLength ∨ low = .minItems ∧ high = .maxItems ∨
      low = .minimum ∧ high = .maximum := by
  rw [limits?] at h
  split at h
  · obtain ⟨rfl, rfl⟩ := Prod.mk.inj (Option.some.inj h)
    exact .inl ⟨rfl, rfl⟩
  · split at h
    · obtain ⟨rfl, rfl⟩ := Prod.mk.inj (Option.some.inj h)
      exact .inr (.inl ⟨rfl, rfl⟩)
    · split at h
      · obtain ⟨rfl, rfl⟩ := Prod.mk.inj (Option.some.inj h)
        exact .inr (.inr ⟨rfl, rfl⟩)
      · cases h

theorem limitBy?_cases (h : limitBy? kind type = some which) :
    ∃ low high, limits? kind = some (low, high) ∧
      (type = "min" ∧ which = low ∨ type = "max" ∧ which = high) := by
  unfold limitBy? at h
  split at h
  · obtain ⟨⟨low, high⟩, hl, rfl⟩ := Option.map_eq_some_iff.1 h
    exact ⟨low, high, hl, .inl ⟨rfl, rfl⟩⟩
  · obtain ⟨⟨low, high⟩, hl, rfl⟩ := Option.map_eq_some_iff.1 h
    exact ⟨low, high, hl, .inr ⟨rfl, rfl⟩⟩
  · cases h

theorem Limit.text_ne_pattern (which : Limit) : which.text ≠ "pattern" := by
  cases which <;> decide

theorem Limit.text_injective {m n : Limit} (h : m.text = n.text) : m = n := by
  cases m <;> cases n <;> first | rfl | exact absurd h (by decide)

theorem eq_of_limitBy?_eq {t u : String} (ht : limitBy? kind t = some which)
    (hu : limitBy? kind u = some which) : t = u := by
  obtain ⟨low, high, hl, ht⟩ := limitBy?_cases ht
  obtain ⟨low', high', hl', hu⟩ := limitBy?_cases hu
  obtain ⟨rfl, rfl⟩ := Prod.mk.inj (Option.some.inj (hl.symm.trans hl'))
  have hne : low ≠ high := by
    rcases limits?_cases hl with ⟨rfl, rfl⟩ | ⟨rfl, rfl⟩ | ⟨rfl, rfl⟩ <;> decide
  rcases ht with ⟨rfl, rfl⟩ | ⟨rfl, rfl⟩ <;> rcases hu with ⟨rfl, hw⟩ | ⟨rfl, hw⟩
  · rfl
  · exact absurd hw hne
  · exact absurd hw.symm hne
  · rfl

theorem Sets.word_mem (h : Sets kind r k) : k.word ∈ ruledWords := by
  cases h with
  | @limit which => cases which <;> simp [ruledWords, Keyword.word, Limit.text]
  | pattern => simp [ruledWords, Keyword.word]

theorem Sets.usable (h : Sets kind r k) : Usable r := by
  cases h with
  | limit hl hb =>
    obtain ⟨low, high, -, ht⟩ := limitBy?_cases hl
    refine .limit ?_ (Option.isSome_of_eq_some hb)
    rcases ht with ⟨ht, -⟩ | ⟨ht, -⟩ <;> simp [ht]
  | pattern ht hk hne hr => exact .pattern ht hne hr

theorem Sets.type_mem (h : Sets kind r k) : r.type ∈ ["min", "max", "pattern"] := by
  cases h.usable with
  | limit ht => exact List.mem_append_left ["pattern"] ht
  | pattern ht =>
    rw [ht]
    decide

/-- A usable rule of the same type sets a keyword of the same word. -/
theorem Sets.of_usable (h : Sets kind r k) (ht : s.type = r.type) (hs : Usable s) :
    ∃ l, Sets kind s l ∧ l.word = k.word := by
  cases h with
  | @limit which bound hl hb =>
    cases hs with
    | limit _ hb' =>
      obtain ⟨bound', hbound⟩ := Option.isSome_iff_exists.1 hb'
      exact ⟨.limit which bound', .limit (ht ▸ hl) hbound, rfl⟩
    | pattern hp =>
      rw [← ht, hp] at hl
      cases hl
  | pattern hp hk =>
    cases hs with
    | limit ht' =>
      rw [ht, hp] at ht'
      simp at ht'
    | pattern hp' hne hr => exact ⟨_, .pattern hp' hk hne hr, rfl⟩

/-- Rules that set keywords of one word are of one type. -/
theorem Sets.type_eq (hr : Sets kind r k) (hs : Sets kind s l) (h : l.word = k.word) :
    s.type = r.type := by
  cases hr with
  | limit hl =>
    cases hs with
    | limit hl' =>
      obtain rfl := Limit.text_injective h
      exact eq_of_limitBy?_eq hl' hl
    | pattern => exact absurd h.symm (Limit.text_ne_pattern _)
  | pattern ht =>
    cases hs with
    | limit => exact absurd h (Limit.text_ne_pattern _)
    | pattern ht' => exact ht'.trans ht.symm

/-! ### Which keywords a node has -/

theorem ruledPart_put (hk : k.word ∈ ruledWords) :
    ruledPart (a.put k) = Keyed.put Keyword.word k (ruledPart a) := by
  have hword {l : Keyword} (hl : l.word = k.word) : ruledWords.contains l.word = true := by
    rw [hl, List.contains_iff_mem]
    exact hk
  exact Keyed.filter_put (p := fun l : Keyword => ruledWords.contains l.word) (hword rfl)
    fun l _ => hword

theorem ruledPart_foldlM_putRule (h : rules.foldlM (putRule kind) a = .ok b) :
    ruledPart b = (rules.filterMap (setBy? kind)).foldl
      (fun node k => Keyed.put Keyword.word k node) (ruledPart a) := by
  induction rules generalizing a with
  | nil =>
    obtain rfl := Except.ok.inj h
    rfl
  | cons r rules ih =>
    rw [List.foldlM_cons, bind_eq_ok_iff] at h
    obtain ⟨c, hput, hrest⟩ := h
    obtain rfl := putRule_eq hput
    rw [ih hrest, List.filterMap_cons]
    cases hk : setBy? kind r with
    | none => rfl
    | some k =>
      have hput := ruledPart_put (a := a) (setBy?_eq_some_iff.1 hk).word_mem
      rw [Option.elim_some, hput, List.foldl_cons]

theorem ruledPart_titleKeywords_append : ruledPart (titleKeywords f ++ a) = ruledPart a := by
  rw [ruledPart, List.filter_append, titleKeywords]
  split <;> rfl

theorem ruledPart_optionNode : ruledPart (optionNode f) = [] := by
  rw [optionNode]
  split <;> rfl

/-- The type of the values is none of what rules set. -/
theorem ruledPart_typeNode (hv : Fills f.kind v) : ruledPart (typeNode f children) = [] := by
  generalize hkind : f.kind = kind at hv
  cases hv with
  | text hk =>
    simp only [textKinds, List.mem_cons, List.not_mem_nil, or_false] at hk
    rcases hk with rfl | rfl | rfl | rfl | rfl <;> simp only [typeNode, hkind]
    case inr.inr.inr.inr => exact ruledPart_optionNode
    all_goals rfl
  | list hk =>
    simp only [listKinds, List.mem_cons, List.not_mem_nil, or_false] at hk
    rcases hk with rfl | rfl | rfl | rfl <;> simp only [typeNode, hkind] <;> rfl
  | number =>
    simp only [typeNode, hkind]
    rfl

/-- The rules that set keywords leave a table of these in the node; a required text may add that it is
not empty. -/
theorem ruledPart_of_fieldNode (h : fieldNode f children = .ok node) (hv : Fills f.kind v) :
    ruledPart node = Keyed.ofList Keyword.word (f.rules.filterMap (setBy? f.kind)) ∨
      f.kind ∈ textKinds ∧ ruledPart node =
        Keyed.ofList Keyword.word (f.rules.filterMap (setBy? f.kind)) ++
          [.limit .minLength (.whole 1)] := by
  rw [fieldNode, ← titleKeywords, bind_eq_ok_iff] at h
  obtain ⟨ruled, hfold, hrest⟩ := h
  have htable := ruledPart_foldlM_putRule hfold
  rw [ruledPart_titleKeywords_append, ruledPart_typeNode hv] at htable
  split at hrest
  · next hq =>
    simp only [Bool.and_eq_true, Bool.not_eq_true', List.contains_iff_mem] at hq
    obtain rfl := Except.ok.inj hrest
    have hput := put_of_not_has (k := .limit .minLength (.whole 1)) hq.2
    rw [hput, ruledPart, List.filter_append]
    exact .inr ⟨hq.1.2, congrArg (· ++ _) htable⟩
  · obtain rfl := Except.ok.inj hrest
    exact .inl htable

theorem saysNothing_ruledPart : SaysNothingOfMembers (ruledPart node) := by
  intro k hk
  have hword := List.contains_iff_mem.1 (List.mem_filter.1 hk).2
  constructor
  · intro hp
    rw [hp] at hword
    exact absurd hword (by decide)
  · intro hp
    rw [hp] at hword
    exact absurd hword (by decide)

theorem exists_putRule_of_mem (h : rules.foldlM (putRule kind) a = .ok b) (hr : r ∈ rules) :
    ∃ before after, putRule kind before r = .ok after := by
  induction rules generalizing a with
  | nil => cases hr
  | cons s rules ih =>
    rw [List.foldlM_cons, bind_eq_ok_iff] at h
    obtain ⟨c, hput, hrest⟩ := h
    rcases List.mem_cons.1 hr with rfl | hr
    · exact ⟨a, c, hput⟩
    · exact ih hrest hr

/-! ### What keywords accept -/

/-- A bound limits as the number from which it was made. -/
theorem Bound.alike_ofFloat (x : Binary64) : (Bound.ofFloat x).quantity.Alike x.quantity := by
  rw [ofFloat]
  split
  · next n hn =>
    cases x with
    | finite => exact Quantity.alike_of_worth_eq (Binary64.worth_of_toInt? hn)
    | infinite => cases hn
    | nan => cases hn
  · exact fun _ => ⟨rfl, rfl⟩

/-- The two sides read one bound from a rule. -/
theorem bound?_cases (r : Rule) :
    bound? r.value = none ∧ Record.bound? r = none ∨
      ∃ bound quantity, bound? r.value = some bound ∧ Record.bound? r = some quantity ∧
        bound.quantity.Alike quantity := by
  unfold bound? Record.bound?
  cases r.value with
  | none => exact .inl ⟨rfl, rfl⟩
  | some text =>
    simp only [Option.bind_some]
    cases Decimal.read? text.toList with
    | none => exact .inl ⟨rfl, rfl⟩
    | some x => exact .inr ⟨_, _, rfl, rfl, Bound.alike_ofFloat x⟩

/-- What the limits of a kind measure of a value is its size, and they ask that the bound is not above
it and not below. -/
theorem Fills.measure (h : Fills kind v) : ∃ low high q, limits? kind = some (low, high) ∧
    Record.size? v = some q ∧ low.measure? v = some q ∧ high.measure? v = some q ∧
    ∀ b, low.admits b q = !q.lt b.quantity ∧ high.admits b q = !b.quantity.lt q := by
  cases h with
  | text hk => exact ⟨_, _, _, limits?_of_text hk, rfl, rfl, rfl, fun _ => ⟨rfl, rfl⟩⟩
  | list hk => exact ⟨_, _, _, limits?_of_list hk, rfl, rfl, rfl, fun _ => ⟨rfl, rfl⟩⟩
  | number hv =>
    cases v with
    | int n => exact ⟨_, _, _, limits?_number, rfl, rfl, rfl, fun _ => ⟨rfl, rfl⟩⟩
    | float x => exact ⟨_, _, _, limits?_number, rfl, rfl, rfl, fun _ => ⟨rfl, rfl⟩⟩
    | _ => cases hv

theorem Fills.exists_limitBy? (h : Fills kind v) (ht : type ∈ ["min", "max", "pattern"])
    (hp : type ≠ "pattern") : ∃ which, limitBy? kind type = some which := by
  obtain ⟨low, high, q, hlimits, -⟩ := h.measure
  simp only [List.mem_cons, hp, List.not_mem_nil, or_false] at ht
  rcases ht with rfl | rfl
  · exact ⟨low, by rw [limitBy?, hlimits, Option.map_some]⟩
  · exact ⟨high, by rw [limitBy?, hlimits, Option.map_some]⟩

theorem Fills.exists_text (h : Fills kind v) (hk : kind ∈ textKinds) : ∃ s ≠ "", v = .text s := by
  cases h with
  | @text _ s _ hs => exact ⟨s, hs, rfl⟩
  | list hlist =>
    simp only [textKinds, List.mem_cons, List.not_mem_nil, or_false] at hk
    rcases hk with rfl | rfl | rfl | rfl | rfl <;> exact absurd hlist (by decide)
  | number => exact absurd hk (by decide)

theorem Fills.mem_textKinds {s : String} (h : Fills kind (.text s)) : kind ∈ textKinds := by
  cases h with
  | text hk => exact hk
  | number hv => cases hv

theorem accepts_limit {q : Quantity} {bound : Bound} (hq : which.measure? v = some q) :
    Accepts [.limit which bound] v ↔ which.admits bound q = true := by
  rw [accepts_singleton (by cases which <;> simp [Keyword.word, Limit.text]), keywordViolations, hq]
  exact when_eq_nil_iff

/-- A rule about size asks for its bound, if that can be read. -/
theorem checkRule_limit_iff (hl : limitBy? kind r.type = some which) (hv : Fills kind v) :
    checkRule checks v p r = .ok () ↔
      ∀ bound, bound? r.value = some bound → Accepts [.limit which bound] v := by
  obtain ⟨low, high, q, hlimits, hsize, hlow, hhigh, hadmits⟩ := hv.measure
  obtain ⟨low', high', hlimits', htype⟩ := limitBy?_cases hl
  obtain ⟨rfl, rfl⟩ := Prod.mk.inj (Option.some.inj (hlimits.symm.trans hlimits'))
  rcases htype with ⟨ht, rfl⟩ | ⟨ht, rfl⟩
  · have hcheck : checkRule checks v p r = Record.checkMin r v p := by
      simp only [checkRule, ht]
    rw [hcheck, Record.checkMin, hsize]
    rcases bound?_cases r with ⟨hnone, hnone'⟩ | ⟨bound, quantity, hbound, hquantity, halike⟩
    · rw [hnone']
      exact iff_of_true rfl (by simp [hnone])
    · simp only [hbound, hquantity, Option.some.injEq, forall_eq', accepts_limit hlow,
        (hadmits _).1, (halike q).1]
      exact Record.Place.require_eq_ok_iff
  · have hcheck : checkRule checks v p r = Record.checkMax r v p := by
      simp only [checkRule, ht]
    rw [hcheck, Record.checkMax, hsize]
    rcases bound?_cases r with ⟨hnone, hnone'⟩ | ⟨bound, quantity, hbound, hquantity, halike⟩
    · rw [hnone']
      exact iff_of_true rfl (by simp [hnone])
    · simp only [hbound, hquantity, Option.some.injEq, forall_eq', accepts_limit hhigh,
        (hadmits _).2, (halike q).2]
      exact Record.Place.require_eq_ok_iff

/-- A keyword accepts the values that the rule lets pass by which it was set. -/
theorem Sets.accepts_iff (h : Sets kind r k) (hv : Fills kind v) :
    Accepts [k] v ↔ checkRule checks v p r = .ok () := by
  cases h with
  | limit hl hb =>
    rw [checkRule_limit_iff hl hv]
    simp only [hb, Option.some.injEq, forall_eq']
  | pattern ht hk hne hr =>
    obtain ⟨s, -, rfl⟩ := hv.exists_text hk
    obtain ⟨tree, hread⟩ := hr
    have hcheck : checkRule checks (.text s) p r = p.require .badFormat (tree.foundIn s.toList) := by
      simp [checkRule, ht, Record.checkPattern, hne, hread]
    rw [accepts_pattern ⟨tree, hread⟩, hcheck, Record.Place.require_eq_ok_iff, Shows, hread]
    simp

/-- A pattern that is skipped in the export asks for nothing. -/
theorem checkPattern_of_putPattern {s : String} (hput : putPattern kind r a = .ok b)
    (hr : patternBy? kind (r.value.getD "") = none) (hk : kind ∈ textKinds) :
    Record.checkPattern (r.value.getD "") (.text s) p = .ok () := by
  rw [putPattern] at hput
  rw [patternBy?] at hr
  rw [Record.checkPattern]
  by_cases hempty : (r.value.getD "").isEmpty = true
  · rw [if_pos hempty]
  · have hskip : ¬((r.value.getD "").isEmpty || !textKinds.contains kind) = true := by
      simp [hempty, hk]
    rw [if_neg hskip] at hput hr
    rw [if_neg hempty]
    cases hread : Pattern.read (r.value.getD "").toList with
    | ok tree =>
      rw [hread] at hr
      cases hr
    | error fault =>
      cases fault with
      | malformed => rfl
      | _ =>
        simp only [hread] at hput
        cases hput

/-- A rule that sets no keyword lets every value pass. -/
theorem checkRule_of_setBy?_eq_none (h : exportField f = .ok node) (hv : Fills f.kind v)
    (hr : r ∈ f.rules) (ht : r.type ∈ ["min", "max", "pattern"]) (hset : setBy? f.kind r = none) :
    checkRule checks v p r = .ok () := by
  rw [exportField_eq, bind_eq_ok_iff] at h
  obtain ⟨children, -, hnode⟩ := h
  obtain ⟨ruled, hfold, -⟩ := bind_eq_ok_iff.1 hnode
  obtain ⟨a, b, hput⟩ := exists_putRule_of_mem hfold hr
  by_cases hp : r.type = "pattern"
  · have hcheck : checkRule checks v p r = Record.checkPattern (r.value.getD "") v p := by
      simp only [checkRule, hp]
    rw [hcheck]
    cases v with
    | text s =>
      have hput' : putPattern f.kind r a = .ok b := by simpa [putRule, hp] using hput
      have hnone : patternBy? f.kind (r.value.getD "") = none := by simpa [setBy?, hp] using hset
      exact checkPattern_of_putPattern hput' hnone hv.mem_textKinds
    | _ => rfl
  · obtain ⟨which, hl⟩ := hv.exists_limitBy? ht hp
    have hnone : bound? r.value = none := by
      simpa [setBy?, hp, hl] using hset
    rw [checkRule_limit_iff hl hv, hnone]
    intro bound hbound
    cases hbound

/-! ### The rules of a field -/

/-- The rules that stand are those that have set the keywords of the table. -/
theorem mem_table_iff : k ∈ Keyed.ofList Keyword.word (rules.filterMap (setBy? kind)) ↔
    ∃ r, Sets kind r k ∧ Stands rules r := by
  rw [Keyed.mem_ofList_iff]
  constructor
  · rintro ⟨before, after, heq, hafter⟩
    obtain ⟨before', rest, rfl, -, hrest⟩ := List.filterMap_eq_append_iff.1 heq
    obtain ⟨skipped, r, after', rfl, -, hr, rfl⟩ := List.filterMap_eq_cons_iff.1 hrest
    have hsets := setBy?_eq_some_iff.1 hr
    refine ⟨r, hsets, hsets.type_mem, before' ++ skipped, after', by simp, ?_⟩
    -- A later usable rule of the type would have set the keyword anew.
    intro s hs ht husable
    obtain ⟨l, hl, hword⟩ := hsets.of_usable ht husable
    apply hafter
    rw [← hword]
    exact List.mem_map_of_mem (List.mem_filterMap.2 ⟨s, hs, setBy?_eq_some_iff.2 hl⟩)
  · rintro ⟨r, hr, -, before, after, rfl, hafter⟩
    refine ⟨before.filterMap (setBy? kind), after.filterMap (setBy? kind), ?_, ?_⟩
    · rw [List.filterMap_append, List.filterMap_cons, setBy?_eq_some_iff.2 hr]
    · intro hm
      obtain ⟨l, hl, hword⟩ := List.mem_map.1 hm
      obtain ⟨s, hs, hset⟩ := List.mem_filterMap.1 hl
      have hsets := setBy?_eq_some_iff.1 hset
      exact hafter s hs (hr.type_eq hsets hword) hsets.usable

theorem accepts_ruledPart (h : exportField f = .ok node) (hv : Fills f.kind v) :
    Accepts (ruledPart node) v ↔
      ∀ k ∈ Keyed.ofList Keyword.word (f.rules.filterMap (setBy? f.kind)), Accepts [k] v := by
  rw [exportField_eq, bind_eq_ok_iff] at h
  obtain ⟨children, -, hnode⟩ := h
  rw [accepts_iff_forall saysNothing_ruledPart]
  rcases ruledPart_of_fieldNode hnode hv with hpart | ⟨hk, hpart⟩
  · rw [hpart]
  · -- The default of a required text asks for no more than that it is not empty.
    obtain ⟨s, hs, rfl⟩ := hv.exists_text hk
    rw [hpart, List.forall_mem_append, List.forall_mem_singleton]
    exact and_iff_left (accepts_nonempty.2 hs)

theorem checkRule_of_accepts (h : exportField f = .ok node) (hv : Fills f.kind v)
    (haccepts : Accepts (ruledPart node) v) (hr : Stands f.rules r) :
    checkRule checks v p r = .ok () := by
  obtain ⟨ht, before, after, hrules, -⟩ := id hr
  cases hset : setBy? f.kind r with
  | none => exact checkRule_of_setBy?_eq_none h hv (by simp [hrules]) ht hset
  | some k =>
    have hsets := setBy?_eq_some_iff.1 hset
    have hk := (accepts_ruledPart h hv).1 haccepts k (mem_table_iff.2 ⟨r, hsets, hr⟩)
    exact (hsets.accepts_iff hv).1 hk

theorem accepts_of_checkRule (h : exportField f = .ok node) (hv : Fills f.kind v)
    (hrules : ∀ r, Stands f.rules r → checkRule checks v p r = .ok ()) :
    Accepts (ruledPart node) v := by
  apply (accepts_ruledPart h hv).2
  intro k hk
  obtain ⟨r, hsets, hr⟩ := mem_table_iff.1 hk
  exact (hsets.accepts_iff hv).2 (hrules r hr)

/-- The limits and the pattern in the node of a field accept a value exactly if every rule about size
or pattern lets it pass after which no usable one of its type comes. -/
theorem accepts_ruledPart_iff (h : exportField f = .ok node) (hv : Fills f.kind v)
    (checks : Checks) (p : Place) :
    Accepts (ruledPart node) v ↔ ∀ r, Stands f.rules r → checkRule checks v p r = .ok () := by
  constructor
  · intro haccepts r hr
    exact checkRule_of_accepts h hv haccepts hr
  · intro hrules
    exact accepts_of_checkRule h hv hrules

/-- Where no two usable rules are of one type, the two sides agree on every value. -/
theorem accepts_ruledPart_iff_of_pairwise (h : exportField f = .ok node) (hv : Fills f.kind v)
    (hd : f.rules.Pairwise fun r s => Usable r → s.type = r.type → ¬Usable s)
    (checks : Checks) (p : Place) :
    Accepts (ruledPart node) v ↔
      ∀ r ∈ f.rules, r.type ∈ ["min", "max", "pattern"] → checkRule checks v p r = .ok () := by
  constructor
  · intro haccepts r hr ht
    by_cases hu : Usable r
    · obtain ⟨before, after, hrules⟩ := List.append_of_mem hr
      rw [hrules] at hd
      have hafter := (List.pairwise_cons.1 (List.pairwise_append.1 hd).2.1).1
      have hstands : Stands f.rules r := ⟨ht, before, after, hrules, fun s hs => hafter s hs hu⟩
      exact checkRule_of_accepts h hv haccepts hstands
    · have hset : setBy? f.kind r = none := by
        rw [Option.eq_none_iff_forall_not_mem]
        intro k hk
        exact hu (setBy?_eq_some_iff.1 hk).usable
      exact checkRule_of_setBy?_eq_none h hv hr ht hset
  · intro hrules
    apply accepts_of_checkRule h hv
    intro r hr
    obtain ⟨ht, before, after, hmem, -⟩ := hr
    exact hrules r (by simp [hmem]) ht

/-- A field whose second rule replaces the first in the export. -/
def relaxedField : FormField :=
  { key := "a", label := "A", kind := "string",
    rules := [{ type := "min", value := some "5" }, { type := "min", value := some "3" }] }

theorem accepts_relaxedField : ∃ node, exportField relaxedField = .ok node ∧
    Fills relaxedField.kind (.text "abcd") ∧ Accepts (ruledPart node) (.text "abcd") ∧
    ¬∀ r ∈ relaxedField.rules, checkRule [] (.text "abcd") .root r = .ok () := by
  refine ⟨_, rfl, .text (by decide) (by decide), rfl, ?_⟩
  intro h
  exact absurd (h _ (.head _)) (by decide)

/-- A field for codes of two to four characters. -/
def codeField : FormField :=
  { key := "code", label := "Code", kind := "string",
    rules := [{ type := "min", value := some "2" }, { type := "max", value := some "4" },
      { type := "pattern", value := some "[A-Z]" }] }

theorem accepts_codeField : ∃ node, exportField codeField = .ok node ∧
    Fills codeField.kind (.text "ABC") ∧ Accepts (ruledPart node) (.text "ABC") := by
  have hfills : Fills codeField.kind (.text "ABC") := .text (by decide) (by decide)
  have hrules : ∀ r ∈ codeField.rules, checkRule [] (.text "ABC") .root r = .ok () := by decide
  refine ⟨[.title "Code", .type [.string], .limit .minLength (.whole 2), .limit .maxLength (.whole 4),
    .pattern "[A-Z]"], rfl, hfills, (accepts_ruledPart_iff rfl hfills [] .root).2 ?_⟩
  intro r hr
  obtain ⟨-, before, after, hmem, -⟩ := hr
  exact hrules r (by simp [hmem])

end Formwork.JsonSchema
