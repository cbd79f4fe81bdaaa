import BatchFlow.Request

/-!
# Row dictionaries

The inner loop of the flush function turns a request into a `map[string]any` over its
schema's columns: column `j` receives value `j` of `GetOrderedValues`, and a column
past the end of the values is left unset. A repeated column name is written twice,
the later write winning.

Read back at the columns in order, with an absent key read as null, the row gives the
request's ordered values: for the spec's `GetOrderedValues`, repeated columns carry
equal values, so the later write changes nothing.
-/

namespace BatchFlow

/-- `for j, col := range columns { if j < len(values) { rowData[col] = values[j] } }`. -/
def fillRow (values : List Value) : Nat → List String → Row → Row
  | _, [], rowData => rowData
  | j, col :: columns, rowData =>
    fillRow values (j + 1) columns
      (match values[j]? with
        | some v => rowData.insert col v
        | none => rowData)

def buildRow (columns : List String) (values : List Value) : Row :=
  fillRow values 0 columns ∅

theorem Request.getOrderedValues_eq {r : Request} {s : Schema} (h : r.schema = some s) :
    r.getOrderedValues = some (r.orderedValues s) := by
  simp [Request.getOrderedValues, h]

/-- The row dictionary the flush function builds for a request of schema `s`. -/
def Request.rowData (r : Request) (s : Schema) : Row :=
  buildRow s.columns (r.orderedValues s)

/-- A row read back at the given columns, an absent key read as null. -/
def readBack (columns : List String) (rowData : Row) : List Value :=
  columns.map fun c => (rowData.lookup c).getD .null

/-- `values` cut or null-padded to length `n`. -/
def padTrunc (values : List Value) (n : Nat) : List Value :=
  values.take n ++ List.replicate (n - values.length) .null

theorem keys_fillRow (values : List Value) : ∀ (j : Nat) (columns : List String) (row : Row),
    ∀ k ∈ (fillRow values j columns row).keys, k ∈ row.keys ∨ k ∈ columns
  | _, [], _, k, hk => .inl hk
  | j, col :: columns, row, k, hk => by
    rcases keys_fillRow values (j + 1) columns _ k hk with h | h
    · cases hv : values[j]? with
      | none => simp only [hv] at h; exact .inl h
      | some v =>
        simp only [hv, AList.keys_insert, List.mem_cons] at h
        rcases h with rfl | h
        · exact .inr (List.mem_cons_self _ _)
        · exact .inl (List.mem_of_mem_erase h)
    · exact .inr (List.mem_cons_of_mem _ h)

/-- When the values are aligned with the columns, every column holds its own value,
however often it is repeated. -/
theorem lookup_fillRow_aligned (f : String → Value) (values : List Value) :
    ∀ (j : Nat) (columns : List String) (row : Row), values.drop j = columns.map f →
      ∀ c, (fillRow values j columns row).lookup c =
        if c ∈ columns then some (f c) else row.lookup c
  | _, [], _, _, c => by simp [fillRow]
  | j, col :: columns, row, h, c => by
    have hj : values[j]? = some (f col) := by
      simpa using congrArg List.head? h
    have hrest : values.drop (j + 1) = columns.map f := by
      simpa [List.drop_drop, Nat.add_comm] using congrArg List.tail h
    rw [fillRow, hj, lookup_fillRow_aligned f values (j + 1) columns _ hrest]
    by_cases hc : c = col
    · subst hc; simp
    · simp [hc, AList.lookup_insert_ne hc]

/-- A request's row dictionary, read back at its schema's columns, is its ordered values
cut or null-padded to the number of columns; the row has no key outside the columns. -/
theorem rowData_readBack (r : Request) (s : Schema) (hr : r.schema = some s) :
    readBack s.columns (r.rowData s) = padTrunc (r.getOrderedValues.getD []) s.columns.length ∧
      ∀ k ∈ (r.rowData s).keys, k ∈ s.columns := by
  have hlen : (r.orderedValues s).length = s.columns.length := by simp [Request.orderedValues]
  refine ⟨?_, fun k hk => (keys_fillRow _ 0 s.columns ∅ k hk).resolve_left (by simp)⟩
  rw [Request.getOrderedValues_eq hr, Option.getD_some, padTrunc, ← hlen, List.take_length,
    Nat.sub_self, List.replicate_zero, List.append_nil]
  refine List.map_congr_left fun c hc => ?_
  rw [Request.rowData, buildRow, lookup_fillRow_aligned (fun c => (r.columns.lookup c).getD .null)
    (r.orderedValues s) 0 s.columns ∅ rfl c, if_pos hc]
  rfl

/-- A schema that names `id` twice, and a request that sets `id` and leaves `name` unset. -/
def eventsSchema : Schema := newSchema 3 "events" ["id", "id", "name"]

def eventsRequest : Request := (newRequest (some eventsSchema)).set "id" (.int 1)

theorem rowData_readBack_events :
    eventsRequest.schema = some eventsSchema ∧
      (readBack eventsSchema.columns (eventsRequest.rowData eventsSchema) =
        padTrunc (eventsRequest.getOrderedValues.getD []) eventsSchema.columns.length ∧
      ∀ k ∈ (eventsRequest.rowData eventsSchema).keys, k ∈ eventsSchema.columns) ∧
      readBack eventsSchema.columns (eventsRequest.rowData eventsSchema) =
        [.int 1, .int 1, .null] :=
  ⟨rfl, rowData_readBack eventsRequest eventsSchema rfl, by decide⟩

end BatchFlow
