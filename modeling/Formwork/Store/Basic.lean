import Formwork.Form.Wire
import Formwork.Keyed
import Formwork.Moment
import Formwork.Notice

/-!
The store of forms. It has one row for each tenant, app and form name.
-/
namespace Formwork.Store

/-- What a row is found by. -/
structure Key where
  tenant : String
  app : String
  form : String
  deriving DecidableEq, Repr

/-- A stored form. -/
structure Row where
  key : Key
  version : String
  status : FormStatus
  schema : List (String × Value)
  createdAt : Moment
  updatedAt : Moment

def Row.toValue (r : Row) : Value :=
  .object [("tenantId", .text r.key.tenant), ("appId", .text r.key.app),
    ("formName", .text r.key.form), ("version", .text r.version), ("status", .text r.status.name),
    ("schema", .object (Value.storedMembers r.schema)), ("createdAt", .text r.createdAt.zulu),
    ("updatedAt", .text r.updatedAt.zulu)]

end Store

/-- The rows of a store, each with the number of the change that wrote it. They stand in the order
in which their keys came in; no two have one key or one number. -/
structure Store where
  rows : List (Nat × Store.Row)
  /-- The number of the next change. -/
  next : Nat
  distinct : (rows.map (·.2.key)).Nodup
  numbered : ∀ e ∈ rows, e.1 < next ∧ ∀ e' ∈ rows, e'.1 = e.1 → e' = e

namespace Store

def empty : Store where
  rows := []
  next := 0
  distinct := .nil
  numbered := List.forall_mem_nil _

def find? (s : Store) (key : Key) : Option Row := (s.rows.find? (·.2.key == key)).map (·.2)

/-- Writes a row in the place of the one with its key, under the next number. -/
def put (s : Store) (r : Row) : Store where
  rows := Keyed.put (·.2.key) (s.next, r) s.rows
  next := s.next + 1
  distinct := Keyed.nodup_map_put s.distinct (s.next, r)
  numbered := by
    have hold (e : Nat × Row) (he : e ∈ Keyed.put (·.2.key) (s.next, r) s.rows) :
        e = (s.next, r) ∨ e ∈ s.rows := (Keyed.mem_of_mem_put s.distinct he).imp_right And.left
    intro e he
    rcases hold e he with rfl | hm
    · refine ⟨Nat.lt_succ_self _, fun e' he' hn => (hold e' he').resolve_right fun hm' => ?_⟩
      exact Nat.lt_irrefl _ (hn ▸ (s.numbered e' hm').1)
    · have hlt := (s.numbered e hm).1
      refine ⟨Nat.lt_succ_of_lt hlt, fun e' he' hn => ?_⟩
      rcases hold e' he' with rfl | hm'
      · exact absurd (hn ▸ hlt) (Nat.lt_irrefl _)
      · exact (s.numbered e hm).2 e' hm' hn

/-- The rows that pass a test. -/
def filter (s : Store) (p : Row → Bool) : Store where
  rows := s.rows.filter fun e => p e.2
  next := s.next
  distinct := s.distinct.sublist (List.filter_sublist.map _)
  numbered e he := by
    obtain ⟨hlt, huniq⟩ := s.numbered e (List.mem_filter.1 he).1
    exact ⟨hlt, fun e' he' => huniq e' (List.mem_filter.1 he').1⟩

/-- Writes a form; a row that is there already keeps the time of its creation. -/
def upsert (s : Store) (key : Key) (version : String) (status : FormStatus)
    (schema : List (String × Value)) (now : Moment) : Store × Row :=
  let createdAt := ((s.find? key).map (·.createdAt)).getD now
  let row : Row := ⟨key, version, status, schema, createdAt, now⟩
  (s.put row, row)

/-- There is no status of a name. -/
structure UnknownStatus where
  name : String
  deriving DecidableEq, Repr

/-- Writes a form with the status of a name. -/
def write (key : Key) (version status : String) (schema : List (String × Value)) (now : Moment) :
    ExceptT UnknownStatus (StateM Store) Row := do
  let s ← get
  match FormStatus.ofName? status with
  | none => throw ⟨status⟩
  | some status =>
    let (s, row) := s.upsert key version status schema now
    set s
    pure row

/-- Whether a row belongs to an app of a tenant. -/
def Row.isOf (tenant app : String) (r : Row) : Bool := r.key.tenant == tenant && r.key.app == app

/-- Whether a row belongs to an app of a tenant, and its form is none of some. -/
def Row.isStale (tenant app : String) (forms : List String) (r : Row) : Bool :=
  r.isOf tenant app && !forms.contains r.key.form

/-- Removes the forms of an app that are none of some, and returns them. -/
def keepOnly (s : Store) (tenant app : String) (forms : List String) : Store × List Row :=
  (s.filter fun r => !r.isStale tenant app forms,
    (s.rows.map (·.2)).filter fun r => r.isStale tenant app forms)

/-- What is to be told of removed rows. -/
def removalNotices (tenant app : String) (removed : List Row) : List Notice :=
  if removed.isEmpty then [] else [.removed tenant app (removed.map (·.key.form))]

/-- The forms of an app, the one written last first. -/
def listByApp (s : Store) (tenant app : String) : List Row :=
  ((s.rows.filter fun (_, r) => r.isOf tenant app).mergeSort fun a b => b.1 ≤ a.1).map (·.2)

/-- No form of an app was found. -/
structure NotFound where
  app : String
  deriving DecidableEq, Repr

def NotFound.message (e : NotFound) : String := "Form not found in app " ++ e.app

/-- The form of an app that was written last, of any name or of a given one. -/
def current (s : Store) (tenant app : String) (form : Option String) : Except NotFound Row :=
  match (s.listByApp tenant app).find? fun r => form.all (· == r.key.form) with
  | some r => .ok r
  | none => .error ⟨app⟩

end Store

end Formwork
