import Formwork.Form.Compile
import Formwork.Proofs.Fallible

/-!
The unfolding of message types. A field whose type is a message is expanded exactly if the message
types from the root down to it are pairwise distinct and not too many, however the types refer to
one another; every other field stands or falls by its own type.
-/
namespace Formwork
open Formwork.Idl

/-- The types along a chain of messages, from the root to the type of a field, are pairwise distinct,
and the field lies less than `limit` levels below the root. -/
def Expandable (limit : Int) (chain : List Message) : Prop :=
  (chain.map Message.name).Nodup ∧ (chain.length : Int) - 1 < limit

/-- The fields that a message at the end of a chain shows, in the order of their declarations, where
`expanded` tells of every chain whether the message at its end is unfolded. -/
inductive Unfolds (types : Types) (expanded : List Message → Prop) :
    List Message → List FieldDecl → List ResolvedField → Prop
  | nil {chain} : Unfolds types expanded chain [] []
  | unknown {chain f fs rs} (ht : types.find? f.type = none)
      (hs : Unfolds types expanded chain fs rs) : Unfolds types expanded chain (f :: fs) rs
  | scalar {chain f fs rs s} (ht : types.find? f.type = some (.scalar s))
      (hs : Unfolds types expanded chain fs rs) :
      Unfolds types expanded chain (f :: fs) (.ofScalar f s :: rs)
  | enumeration {chain f fs rs e} (ht : types.find? f.type = some (.enumeration e))
      (hs : Unfolds types expanded chain fs rs) :
      Unfolds types expanded chain (f :: fs) (.ofEnumeration f e :: rs)
  | expand {chain f fs rs m children} (ht : types.find? f.type = some (.message m))
      (he : expanded (chain ++ [m]))
      (hm : Unfolds types expanded (chain ++ [m]) m.fields children)
      (hs : Unfolds types expanded chain fs rs) :
      Unfolds types expanded chain (f :: fs) (.ofMessage f children :: rs)
  | drop {chain f fs rs m} (ht : types.find? f.type = some (.message m))
      (he : ¬expanded (chain ++ [m])) (hs : Unfolds types expanded chain fs rs) :
      Unfolds types expanded chain (f :: fs) rs

variable {types : Types} {limit : Int} {chain : List Message} {fs : List FieldDecl}
  {rs : List ResolvedField}

theorem expandable_append_iff (m : Message) (hc : (chain.map Message.name).Nodup) :
    Expandable limit (chain ++ [m]) ↔
      m.name ∉ chain.map Message.name ∧ (chain.length : Int) < limit := by
  have hn : ((chain ++ [m]).map Message.name).Nodup ↔ m.name ∉ chain.map Message.name := by
    rw [List.map_append, List.map_singleton, List.nodup_append]
    constructor
    · intro h hm
      exact h.2.2 m.name hm m.name (by simp) rfl
    · intro h
      refine ⟨hc, by simp, ?_⟩
      intro a ha b hb he
      rw [List.mem_singleton] at hb
      exact h (hb ▸ he ▸ ha)
  have hl : ((chain ++ [m]).length : Int) - 1 = chain.length := by simp
  rw [Expandable, hn, hl]

/-- A declaration adds at most one field before those of the declarations after it. -/
theorem resolveFields_cons (types : Types) (limit : Int) (path : List String) (f : FieldDecl)
    (fs : List FieldDecl) :
    (resolveFields types limit path (f :: fs)).1 =
      (match types.find? f.type with
        | none => []
        | some (.scalar s) => [.ofScalar f s]
        | some (.enumeration e) => [.ofEnumeration f e]
        | some (.message m) =>
          if m.name ∈ path ∨ limit ≤ path.length then []
          else [.ofMessage f (resolveFields types limit (path ++ [m.name]) m.fields).1]) ++
        (resolveFields types limit path fs).1 := by
  rw [resolveFields]
  dsimp only
  split
  · next ht => rw [ht]; rfl
  · next ht => rw [ht]; rfl
  · next ht => rw [ht]; rfl
  · next m ht =>
    rw [ht]
    by_cases hm : m.name ∈ path
    · simp only [hm, ↓reduceDIte, true_or, ↓reduceIte, List.nil_append]
    · by_cases hl : limit ≤ path.length
      · simp only [hm, hl, ↓reduceDIte, or_true, ↓reduceIte, List.nil_append]
      · simp only [hm, hl, ↓reduceDIte, or_self, ↓reduceIte, List.cons_append, List.nil_append]

theorem resolveFields_scalar {f : FieldDecl} {scalar : Scalar}
    (h : types.find? f.type = some (.scalar scalar)) (limit : Int) (path : List String)
    (fs : List FieldDecl) :
    resolveFields types limit path (f :: fs) =
      (.ofScalar f scalar :: (resolveFields types limit path fs).1,
        (resolveFields types limit path fs).2) := by
  rw [resolveFields]
  dsimp only
  split
  · next ht => cases h.symm.trans ht
  · next ht =>
    cases h.symm.trans ht
    rfl
  · next ht => cases h.symm.trans ht
  · next ht => cases h.symm.trans ht

/-- What is resolved below a chain of distinct messages is what the chain unfolds to. -/
theorem resolveFields_unfolds (types : Types) (limit : Int) (chain : List Message)
    (fs : List FieldDecl) (hc : (chain.map Message.name).Nodup) :
    Unfolds types (Expandable limit) chain fs
      (resolveFields types limit (chain.map Message.name) fs).1 := by
  -- The search knows the chain only by the names on its path.
  generalize hp : chain.map Message.name = path
  fun_induction resolveFields types limit path fs generalizing chain with
  | case1 => exact .nil
  | case2 path f fs fields notices hr ht ih =>
    have hs := ih chain hc hp
    rw [hr] at hs
    exact .unknown ht hs
  | case3 path f fs fields notices hr s ht ih =>
    have hs := ih chain hc hp
    rw [hr] at hs
    exact .scalar ht hs
  | case4 path f fs fields notices hr e ht ih =>
    have hs := ih chain hc hp
    rw [hr] at hs
    exact .enumeration ht hs
  | case5 path f fs fields notices hr m ht hm ih =>
    have hs := ih chain hc hp
    rw [hr] at hs
    subst hp
    exact .drop ht (fun he => ((expandable_append_iff m hc).1 he).1 hm) hs
  | case6 path f fs fields notices hr m ht hm hl ih =>
    have hs := ih chain hc hp
    rw [hr] at hs
    subst hp
    refine .drop ht (fun he => ?_) hs
    have hlt := ((expandable_append_iff m hc).1 he).2
    simp only [List.length_map] at hl
    omega
  | case7 path f fs fields notices hr m ht hm hl children inner hi ih ihm =>
    have hs := ih chain hc hp
    rw [hr] at hs
    subst hp
    have he : Expandable limit (chain ++ [m]) := by
      refine (expandable_append_iff m hc).2 ⟨hm, ?_⟩
      simp only [List.length_map] at hl
      omega
    have hcs := ihm (chain ++ [m]) he.1 (by simp)
    rw [hi] at hcs
    exact .expand ht he hcs hs

/-- A chain of distinct messages unfolds in one way only. -/
theorem Unfolds.resolveFields_eq (h : Unfolds types (Expandable limit) chain fs rs)
    (hc : (chain.map Message.name).Nodup) :
    (resolveFields types limit (chain.map Message.name) fs).1 = rs := by
  induction h with
  | nil => simp only [resolveFields]
  | unknown ht hs ih => simp only [resolveFields_cons, ht, ih hc, List.nil_append]
  | scalar ht hs ih => simp only [resolveFields_cons, ht, ih hc, List.singleton_append]
  | enumeration ht hs ih => simp only [resolveFields_cons, ht, ih hc, List.singleton_append]
  | @expand chain f fs rs m children ht he hm hs ihm ih =>
    obtain ⟨hn, hl⟩ := (expandable_append_iff m hc).1 he
    have hcs := ihm he.1
    rw [List.map_append, List.map_singleton] at hcs
    have hstop : ¬(m.name ∈ chain.map Message.name ∨ limit ≤ (chain.map Message.name).length) := by
      rw [List.length_map]
      intro h
      rcases h with hm' | hl'
      · exact hn hm'
      · omega
    simp only [resolveFields_cons, ht, if_neg hstop, hcs, ih hc, List.singleton_append]
  | @drop chain f fs rs m ht he hs ih =>
    have hstop : m.name ∈ chain.map Message.name ∨ limit ≤ (chain.map Message.name).length := by
      refine Decidable.byContradiction fun hn => ?_
      rw [not_or, List.length_map] at hn
      exact he ((expandable_append_iff m hc).2 ⟨hn.1, by omega⟩)
    simp only [resolveFields_cons, ht, if_pos hstop, ih hc, List.nil_append]

/-- The message of a document that an app's form is made from. -/
def Document.root? (d : Document) (app : String) (config : CompilerConfig) : Option Message :=
  (pickRoot app (d.messages.map (·.1)) config.rootExclusions).bind (List.lookup · d.messages)

theorem Document.compile_of_root (d : Document) (app : String) (config : CompilerConfig)
    {root : Message} (h : Document.root? d app config = some root) :
    (Document.compile d app config).1 = some ⟨root,
      (resolveFields ⟨d.messages, d.enumerations⟩ config.maxDepth [root.name] root.fields).1⟩ := by
  simp only [root?] at h
  simp only [compile, h]

theorem Document.compile_of_no_root (d : Document) (app : String) (config : CompilerConfig)
    (h : Document.root? d app config = none) : (Document.compile d app config).1 = none := by
  simp only [root?] at h
  simp only [compile, h]

section

variable {text : List Char} {app : String} {config : CompilerConfig} {stamp : Stamp} {form : Form}
  {notices : List Notice} (h : compile text app config stamp = .ok (some form, notices))
include h

/-- A form is compiled from the root message of the document that the text describes. -/
theorem exists_root_of_compile :
    ∃ d root, Document.read text = .ok d ∧ Document.root? d app config = some root ∧
      form = CompiledForm.toForm ⟨root,
        (resolveFields ⟨d.messages, d.enumerations⟩ config.maxDepth [root.name] root.fields).1⟩
        config.defaultVersion stamp := by
  obtain ⟨d, hd, h⟩ := bind_eq_ok_iff.1 h
  have hform : (Document.compile d app config).1.map (·.toForm config.defaultVersion stamp) =
      some form := congrArg Prod.fst (Except.ok.inj h)
  obtain ⟨c, hc, rfl⟩ := Option.map_eq_some_iff.1 hform
  cases hroot : Document.root? d app config with
  | none =>
    rw [Document.compile_of_no_root d app config hroot] at hc
    cases hc
  | some root =>
    rw [Document.compile_of_root d app config hroot] at hc
    exact ⟨d, root, hd, hroot, by rw [Option.some.inj hc]⟩

/-- The fields of a compiled form are what the root of the document unfolds to. -/
theorem exists_unfolds_of_compile :
    ∃ d root rs, Document.read text = .ok d ∧ Document.root? d app config = some root ∧
      Unfolds ⟨d.messages, d.enumerations⟩ (Expandable config.maxDepth) [root] root.fields rs ∧
      form.fields = ResolvedField.toFormFields rs := by
  obtain ⟨d, root, hd, hroot, rfl⟩ := exists_root_of_compile h
  exact ⟨d, root, _, hd, hroot, resolveFields_unfolds _ _ [root] root.fields
    (List.pairwise_singleton ..), rfl⟩

end

/-- Whatever message is taken as the root, and however the types of a document refer to one another,
the root has exactly one list of resolved fields, and in it a field whose type is a message is
expanded exactly if the chain of messages that leads to it is expandable. Compiling takes the root
of the app and yields this list. -/
theorem compile_iff_unfolds (d : Document) (app : String) (config : CompilerConfig)
    (root : Message) (rs : List ResolvedField) :
    ((resolveFields ⟨d.messages, d.enumerations⟩ config.maxDepth [root.name] root.fields).1 = rs ↔
      Unfolds ⟨d.messages, d.enumerations⟩ (Expandable config.maxDepth) [root] root.fields rs) ∧
    ((Document.compile d app config).1 = some ⟨root, rs⟩ ↔
      Document.root? d app config = some root ∧
        Unfolds ⟨d.messages, d.enumerations⟩ (Expandable config.maxDepth) [root] root.fields rs) := by
  have hc : ([root].map Message.name).Nodup := by simp
  have hu : (resolveFields ⟨d.messages, d.enumerations⟩ config.maxDepth [root.name]
      root.fields).1 = rs ↔
      Unfolds ⟨d.messages, d.enumerations⟩ (Expandable config.maxDepth) [root] root.fields rs := by
    constructor
    · intro h
      exact h ▸ resolveFields_unfolds _ _ [root] root.fields hc
    · intro h
      exact h.resolveFields_eq hc
  refine ⟨hu, ?_⟩
  cases hr : Document.root? d app config with
  | none =>
    rw [Document.compile_of_no_root d app config hr]
    simp
  | some m =>
    rw [Document.compile_of_root d app config hr]
    constructor
    · intro h
      simp only [Option.some.injEq, CompiledForm.mk.injEq] at h
      obtain ⟨rfl, hrs⟩ := h
      exact ⟨rfl, hu.1 hrs⟩
    · intro h
      obtain ⟨hm, hrs⟩ := h
      simp only [Option.some.injEq] at hm
      subst hm
      rw [hu.2 hrs]

end Formwork
