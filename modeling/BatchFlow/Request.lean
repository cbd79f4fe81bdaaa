import Mathlib.Data.List.AList

/-!
# Errors, schemas and requests

The values the engine moves around: Go error values as far as the code compares them,
the `SchemaInterface` implementations `*Schema` and `*SQLSchema`, requests, and the row
dictionaries (`map[string]any`) the flush function builds. A schema is identified by
its pointer, so two schemas built by separate constructor calls are different map keys
even when their names and columns agree.

`request.go` is not among the sources. The request below follows the spec's data
model: a schema reference and a map from column name to value, read back in the
schema's column order with null where a column is unset. Typed `nil` pointers inside a
non-nil interface are not modelled.
-/

namespace BatchFlow

/-- Go error values. `errors.New` allocates, so each sentinel below is its own
constructor; `other` stands for every error the engine only passes through, and
`joinOne`/`joinTwo` are the values `errors.Join` builds from one or two errors. -/
inductive GoError where
  | canceled
  | deadlineExceeded
  | emptyRequest
  | invalidSchema
  | missingColumn
  | emptySchemaName
  | schemaNotSQLSchema
  | schemaNotSchema
  | emptyOperations
  | invalidOperationType
  | executeBatchTimeout
  | other (id : Nat)
  | joinOne (e : GoError)
  | joinTwo (a b : GoError)
  deriving DecidableEq, Repr

namespace GoError

/-- `errors.Is`: the error itself, or an error a join wraps. A join is a fresh pointer
that no caller holds before it is returned, so the targets asked about are never the
join itself: `is` answers `false` for a join as its own target, where Go's
`errors.Is(j, j)` is true. -/
def is : GoError → GoError → Bool
  | joinOne e, target => e.is target
  | joinTwo a b, target => a.is target || b.is target
  | e, target => e == target

/-- `errors.Join(err, e)` for a non-nil `e`: a nil `err` is dropped. -/
def join : Option GoError → GoError → GoError
  | none, e => joinOne e
  | some a, e => joinTwo a e

@[simp] theorem join_is (acc : Option GoError) (e target : GoError) :
    (join acc e).is target = ((acc.map (·.is target)).getD false || e.is target) := by
  cases acc <;> simp [join, is]

/-- A value that `errors.Join` built. -/
def isJoin : GoError → Bool
  | joinOne _ | joinTwo _ _ => true
  | _ => false

end GoError

/-- The values a request can hold: integers, floats (by their bits), strings, booleans,
timestamps, byte slices and null. -/
inductive Value where
  | null
  | int (i : Int)
  | float (bits : UInt64)
  | string (s : String)
  | bool (b : Bool)
  | time (unixNano : Int)
  | bytes (b : List UInt8)
  deriving DecidableEq, Repr

/-- `ConflictStrategy` is a `uint8`; `ConflictIgnore`, `ConflictReplace` and
`ConflictUpdate` are `0`, `1` and `2`. -/
structure SQLOperationConfig where
  conflictStrategy : UInt8
  deriving DecidableEq, Repr

/-- The dynamic type behind a non-nil `SchemaInterface`. -/
inductive SchemaKind where
  | schema
  | sqlSchema (operationConfig : SQLOperationConfig)
  deriving DecidableEq, Repr

/-- A schema behind a non-nil `SchemaInterface`; `ref` is its pointer. -/
structure Schema where
  ref : Nat
  name : String
  columns : List String
  kind : SchemaKind
  deriving DecidableEq, Repr

def newSchema (ref : Nat) (name : String) (columns : List String) : Schema :=
  ⟨ref, name, columns, .schema⟩

def newSQLSchema (ref : Nat) (name : String) (operationConfig : SQLOperationConfig)
    (columns : List String) : Schema :=
  ⟨ref, name, columns, .sqlSchema operationConfig⟩

/-- A `map[string]any` keyed by column name. -/
abbrev Row := AList (fun _ : String => Value)

/-- Modelled from the spec: `request.go` is not among the sources. A request holds its
`SchemaInterface` (`none` for nil) and a map from column name to value. -/
structure Request where
  schema : Option Schema
  columns : Row
  deriving DecidableEq

def newRequest (schema : Option Schema) : Request := ⟨schema, ∅⟩

def Request.set (r : Request) (column : String) (v : Value) : Request :=
  { r with columns := r.columns.insert column v }

/-- Modelled from the spec: the request's values in the column order of `s`, null
where a column is unset. -/
def Request.orderedValues (r : Request) (s : Schema) : List Value :=
  s.columns.map fun c => (r.columns.lookup c).getD .null

/-- Modelled from the spec: `GetOrderedValues` reads the request's own schema. On a nil
schema the Go method panics: `none`. -/
def Request.getOrderedValues (r : Request) : Option (List Value) :=
  r.schema.map r.orderedValues

/-- A request that passed `Submit`'s checks. Only these enter the pipeline buffer, so
the fields are what every buffered request satisfies. -/
structure ValidRequest where
  request : Request
  schema : Schema
  schema_eq : request.schema = some schema
  columns_pos : 0 < schema.columns.length
  name_pos : 0 < schema.name.length
  deriving DecidableEq

/-- The request checks of `Submit`, in the source's order. -/
def validateRequest : Option Request → Except GoError ValidRequest
  | none => .error .emptyRequest
  | some r =>
    match h : r.schema with
    | none => .error .invalidSchema
    | some s =>
      if hc : s.columns.length = 0 then .error .missingColumn
      else if hn : s.name.length = 0 then .error .emptySchemaName
      else .ok ⟨r, s, h, Nat.pos_of_ne_zero hc, Nat.pos_of_ne_zero hn⟩

/-- What `Submit`'s checks establish, as a predicate on the request alone. -/
def SchemaValid (s : Schema) : Prop :=
  0 < s.columns.length ∧ 0 < s.name.length

instance (s : Schema) : Decidable (SchemaValid s) :=
  inferInstanceAs (Decidable (_ ∧ _))

theorem ValidRequest.schemaValid (v : ValidRequest) : SchemaValid v.schema :=
  ⟨v.columns_pos, v.name_pos⟩

/-- `validateRequest` passes the request on unchanged: it accepts `req` as `v` exactly
when `req` is `v`'s request. -/
theorem validateRequest_ok {req : Option Request} {v : ValidRequest} :
    validateRequest req = .ok v ↔ req = some v.request := by
  constructor
  · intro h
    unfold validateRequest at h
    repeat' split at h
    all_goals cases h
    rfl
  · rintro rfl
    obtain ⟨r, s, hs, hc, hn⟩ := v
    simp only [validateRequest]
    split
    · rename_i h; rw [hs] at h; cases h
    · rename_i s' h
      obtain rfl : s = s' := Option.some_injective _ (hs.symm.trans h)
      rw [dif_neg (Nat.pos_iff_ne_zero.1 hc), dif_neg (Nat.pos_iff_ne_zero.1 hn)]

/-- `validateRequest` accepts exactly the non-nil requests whose schema is valid. -/
theorem validateRequest_accepts (req : Option Request) :
    (∃ v, validateRequest req = .ok v) ↔
      ∃ r s, req = some r ∧ r.schema = some s ∧ SchemaValid s := by
  simp only [validateRequest_ok]
  constructor
  · rintro ⟨v, rfl⟩
    exact ⟨v.request, v.schema, rfl, v.schema_eq, v.schemaValid⟩
  · rintro ⟨r, s, rfl, hs, hc, hn⟩
    exact ⟨⟨r, s, hs, hc, hn⟩, rfl⟩

/-- The schema and a request of the spec's scenario 5: `users (id, name)` with
`ConflictIgnore`, and the row `{id: 1, name: "a"}`. -/
def usersSchema : Schema := newSQLSchema 1 "users" ⟨0⟩ ["id", "name"]

def usersRequest : Request :=
  ((newRequest (some usersSchema)).set "id" (.int 1)).set "name" (.string "a")

/-- The same request once `Submit`'s checks have passed. -/
def usersValid : ValidRequest := ⟨usersRequest, usersSchema, rfl, by decide, by decide⟩

example : validateRequest (some usersRequest) = .ok usersValid := rfl

end BatchFlow
