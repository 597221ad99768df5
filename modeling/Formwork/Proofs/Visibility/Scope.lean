import Formwork.Proofs.Visibility.Composition

/-!
Where conditions look. What a condition comes to depends on the values at its paths alone. A path
that begins with `values` leads into the record itself, and so does any other path that is not
empty; so a condition may be written with the name in front of all its paths or of none.
-/
namespace Formwork.Visibility

variable {v w : Value} {members : List (String × Value)} {key : String} {path : List String}
  {e : Expr} {es : List Expr}

mutual

/-- The paths that a condition looks up. -/
def Expr.paths : Expr → List (List String)
  | .literal _ => []
  | .field path => [path]
  | .compare _ left right => left.paths ++ right.paths
  | .logical _ es => pathsAll es
  | .not e => e.paths
  | .member e items _ => e.paths ++ pathsAll items
  | .isNull e _ => e.paths

def pathsAll : List Expr → List (List String)
  | [] => []
  | e :: es => e.paths ++ pathsAll es

end

mutual

/-- The condition with `key` in front of every path. -/
def Expr.under (key : String) : Expr → Expr
  | .literal v => .literal v
  | .field path => .field (key :: path)
  | .compare op left right => .compare op (left.under key) (right.under key)
  | .logical op es => .logical op (underAll key es)
  | .not e => .not (e.under key)
  | .member e items negated => .member (e.under key) (underAll key items) negated
  | .isNull e negated => .isNull (e.under key) negated

def underAll (key : String) : List Expr → List Expr
  | [] => []
  | e :: es => e.under key :: underAll key es

end

/-! ### Looking up the same values -/

theorem evalChain_cons_cons (v : Value) (op : LogicalOp) (e e' : Expr) (es : List Expr) :
    evalChain v op (e :: e' :: es) = (do
      let u ← eval v e
      if op.decidedBy u then pure u else evalChain v op (e' :: es)) := by
  rw [evalChain]
  exact List.cons_ne_nil e' es

mutual

/-- A condition comes to the same where its paths lead to the same values. -/
theorem eval_congr (e : Expr) (h : ∀ path ∈ e.paths, follow path v = follow path w) :
    eval v e = eval w e := by
  cases e with
  | literal => rfl
  | field path => exact congrArg Except.ok (h path (List.mem_singleton.2 rfl))
  | compare op left right =>
    obtain ⟨hl, hr⟩ := List.forall_mem_append.1 h
    rw [eval, eval, eval_congr left hl, eval_congr right hr]
  | logical op es => rw [eval, eval, evalChain_congr op es h]
  | not e => rw [eval, eval, eval_congr e h]
  | member e items negated =>
    obtain ⟨he, hi⟩ := List.forall_mem_append.1 h
    rw [eval, eval, eval_congr e he, evalAll_congr items hi]
  | isNull e negated => rw [eval, eval, eval_congr e h]

theorem evalChain_congr (op : LogicalOp) (es : List Expr)
    (h : ∀ path ∈ pathsAll es, follow path v = follow path w) :
    evalChain v op es = evalChain w op es := by
  match es with
  | [] => rfl
  | e :: es =>
    obtain ⟨he, hes⟩ := List.forall_mem_append.1 h
    cases es with
    | nil => rw [evalChain, evalChain, eval_congr e he]
    | cons e' es =>
      rw [evalChain_cons_cons, evalChain_cons_cons, eval_congr e he,
        evalChain_congr op (e' :: es) hes]

theorem evalAll_congr (es : List Expr)
    (h : ∀ path ∈ pathsAll es, follow path v = follow path w) : evalAll v es = evalAll w es := by
  match es with
  | [] => rfl
  | e :: es =>
    obtain ⟨he, hes⟩ := List.forall_mem_append.1 h
    rw [evalAll, evalAll, eval_congr e he, evalAll_congr es hes]

end

mutual

/-- With `key` in front of its paths, a condition comes to what it comes to in the value under
`key`. -/
theorem eval_under (h : ∀ path, follow (key :: path) v = follow path w) (e : Expr) :
    eval v (e.under key) = eval w e := by
  cases e with
  | literal => rfl
  | field path => exact congrArg Except.ok (h path)
  | compare op left right =>
    rw [Expr.under, eval, eval, eval_under h left, eval_under h right]
  | logical op es => rw [Expr.under, eval, eval, evalChain_under h op es]
  | not e => rw [Expr.under, eval, eval, eval_under h e]
  | member e items negated =>
    rw [Expr.under, eval, eval, eval_under h e, evalAll_under h items]
  | isNull e negated => rw [Expr.under, eval, eval, eval_under h e]

theorem evalChain_under (h : ∀ path, follow (key :: path) v = follow path w) (op : LogicalOp)
    (es : List Expr) : evalChain v op (underAll key es) = evalChain w op es := by
  match es with
  | [] => rfl
  | e :: es =>
    cases es with
    | nil => rw [underAll, underAll, evalChain, evalChain, eval_under h e]
    | cons e' es =>
      have hmore := evalChain_under h op (e' :: es)
      rw [underAll] at hmore
      rw [underAll, underAll, evalChain_cons_cons, evalChain_cons_cons, eval_under h e, hmore]

theorem evalAll_under (h : ∀ path, follow (key :: path) v = follow path w) (es : List Expr) :
    evalAll v (underAll key es) = evalAll w es := by
  match es with
  | [] => rfl
  | e :: es => rw [underAll, evalAll, evalAll, eval_under h e, evalAll_under h es]

end

/-! ### The record under the name `values` -/

theorem find?_context_of_ne (members : List (String × Value)) (hk : key ≠ "values") :
    Value.find? (context members) key = Value.find? members key := by
  rw [context]
  split
  · rfl
  · have hother : [("values", Value.object members)].lookup key = none := by
      rw [List.lookup_eq_none_iff]
      simp [hk]
    rw [Value.find?, Value.find?, List.lookup_append, hother, Option.or_none]

theorem find?_context_values (h : Value.find? members "values" = none) :
    Value.find? (context members) "values" = some (.object members) := by
  rw [context, h, if_neg (by simp), Value.find?, List.lookup_append, ← Value.find?, h]
  rfl

theorem follow_values_context (h : Value.find? members "values" = none) (path : List String) :
    follow ("values" :: path) (.object (context members)) = follow path (.object members) := by
  rw [follow, find?_context_values h]

theorem follow_context (hk : key ≠ "values") (path : List String) :
    follow (key :: path) (.object (context members)) =
      follow (key :: path) (.object members) := by
  rw [follow, follow, find?_context_of_ne members hk]

/-! ### The paths of conditions that are read -/

/-- No path in what a phrase means is empty. -/
def Phrase.Rooted : (p : Phrase) → p.Meaning → Prop
  | .cond _, e => [] ∉ e.paths
  | .more _, es | .list, es => [] ∉ pathsAll es
  | .predicate, f => ∀ e : Expr, [] ∉ e.paths → [] ∉ (f e).paths
  | .names, _ => True

theorem paths_chain (op : LogicalOp) (es : List Expr) : (chain op es).paths = pathsAll es := by
  match es with
  | [] => rfl
  | [e] => simp [chain, pathsAll]
  | e :: e' :: es => rfl

/-- A path that is read has a name at its front. -/
theorem Derivation.rooted {p : Phrase} (d : Derivation p) : p.Rooted d.meaning := by
  induction d with
  | disjunction first more ihf ihm | conjunction first more ihf ihm =>
    rw [meaning, Phrase.Rooted, paths_chain, pathsAll, List.mem_append, not_or]
    exact ⟨ihf, ihm⟩
  | not i inner ih => exact ih
  | plain inner ih => exact ih
  | comparison first more ihf ihm => exact ihm _ ihf
  | parentheses i inner j ih => exact ih
  | number | negative | string | truth | null => exact List.not_mem_nil
  | field name i more ih => exact fun h => List.cons_ne_nil name _ (List.mem_singleton.1 h).symm
  | noItem | emptyList => exact List.not_mem_nil
  | item i next more ihn ihm => exact List.not_mem_append ihn ihm
  | noPredicate => exact fun _ => id
  | compare op i right ih => exact fun _ he => List.not_mem_append he ih
  | member i items ih | notMember i j items ih => exact fun _ he => List.not_mem_append he ih
  | isNull | isNotNull => exact fun _ => id
  | noName | dotName => trivial
  | list i first more j ihf ihm => exact List.not_mem_append ihf ihm

theorem nil_not_mem_paths_of_read {text : List Char} (h : Expr.read text = .ok e) :
    [] ∉ e.paths := by
  obtain ⟨ws, ⟨d, -, rfl, -⟩, -⟩ := exists_enclosable_of_read h
  exact d.rooted

/-- In a record without a member `values`, a condition with that name in front of all its paths
comes to what the condition comes to in the record, or fails as it fails there. That is what the
condition itself comes to if its paths begin with other names; and the paths of a condition that is
read all begin with a name. -/
theorem eval_under_values (h : Value.find? members "values" = none) (e : Expr) :
    eval (.object (context members)) (e.under "values") = eval (.object members) e ∧
      ((∀ path ∈ e.paths, ∃ key rest, path = key :: rest ∧ key ≠ "values") →
        eval (.object (context members)) (e.under "values") =
          eval (.object (context members)) e) ∧
      ∀ text, Expr.read text = .ok e → ∀ path ∈ e.paths, ∃ key rest, path = key :: rest := by
  have hunder := eval_under (follow_values_context h) e
  refine ⟨hunder, fun hpaths => ?_, fun text hread path hp => ?_⟩
  · rw [hunder]
    refine eval_congr e fun path hp => ?_
    obtain ⟨key, rest, rfl, hk⟩ := hpaths path hp
    exact (follow_context hk rest).symm
  · have hne : path ≠ [] := by
      rintro rfl
      exact nil_not_mem_paths_of_read hread hp
    exact List.exists_cons_of_ne_nil hne

/-- A path that leads nowhere, and then values that have no order. -/
def nestedCheck : Expr :=
  .logical .or [.member (.field ["a", "z"]) [.field ["c"], .field ["c", "d", "e"]] true,
    .compare (.order .lt) (.field ["a", "b"]) (.field ["c"])]

theorem eval_under_values_nested :
    let members := [("a", Value.object [("b", .int 1)]), ("c", .text "x")]
    Value.find? members "values" = none ∧
      (∀ path ∈ nestedCheck.paths, ∃ key rest, path = key :: rest ∧ key ≠ "values") ∧
      eval (.object (context members)) nestedCheck = .error ⟨"int", "str"⟩ ∧
      eval (.object (context members)) (nestedCheck.under "values") = .error ⟨"int", "str"⟩ := by
  intro members
  have hmembers : Value.find? members "values" = none := rfl
  have hpaths : ∀ path ∈ nestedCheck.paths,
      ∃ key rest, path = key :: rest ∧ key ≠ "values" := by
    intro path hp
    have hne : ∀ path ∈ nestedCheck.paths, path ≠ [] ∧ path.head? ≠ some "values" := by decide
    obtain ⟨hpath, hhead⟩ := hne path hp
    obtain ⟨key, rest, rfl⟩ := List.exists_cons_of_ne_nil hpath
    exact ⟨key, rest, rfl, fun hk => hhead (congrArg some hk)⟩
  have hplain : eval (.object (context members)) nestedCheck = .error ⟨"int", "str"⟩ := rfl
  obtain ⟨-, htransparent, -⟩ := eval_under_values hmembers nestedCheck
  exact ⟨hmembers, hpaths, hplain, (htransparent hpaths).trans hplain⟩

end Formwork.Visibility
