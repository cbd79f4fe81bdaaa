import BatchFlow.Row
import Mathlib.Data.List.Dedup

/-!
# The flush function

`flushFunc` of `NewBatchFlow`: the batch drained from the pipeline is grouped by schema
into a Go map, and the map is ranged over; for each group the context is checked, one
row dictionary is built per request, and the group goes to `ExecuteBatch`. The first
failing call or context error ends the flush.

Go ranges over a map in no fixed order, so the model takes the order as an argument
(`RangeOrder`, any permutation of the map's keys). The context and the executor are
arbitrary: the `n`-th `ctx.Err()` read and each `ExecuteBatch` answer are functions
the caller supplies. Metrics calls and timing are left out.

`Flushes` states the flush as its contract reads, one group after another; the range
loop refines it, and `FlushSpec` collects what follows for a whole batch: distinct
schemas, each with its own requests' rows in batch order, and on success every row
handed to the executor exactly once.
-/

namespace BatchFlow

/-- The map `schemaGroups`, keyed by `SchemaInterface` (nil included). -/
abbrev SchemaGroups := AList (fun _ : Option Schema => List Request)

/-- `schemaGroups[schema] = append(schemaGroups[schema], request)`. -/
def addRequest (groups : SchemaGroups) (request : Request) : SchemaGroups :=
  groups.insert request.schema ((groups.lookup request.schema).getD [] ++ [request])

def groupBySchema (batchData : List Request) : SchemaGroups :=
  batchData.foldl addRequest ∅

/-- An order in which Go's `range` may visit the given keys: any permutation of them. -/
structure RangeOrder {α : Type} (keys : List α) where
  order : List α
  perm : order.Perm keys

/-- One `ExecuteBatch` call as the flush function makes it, with what it returned. -/
structure ExecCall where
  schema : Option Schema
  data : List Row
  result : Option GoError
  deriving DecidableEq

/-- What the flush function reads of its world: the answer to its `n`-th `ctx.Err()`,
and the executor's answer to a call, given the calls made before it. -/
structure FlushEnv where
  ctxErr : Nat → Option GoError
  executeBatch : List ExecCall → Option Schema → List Row → Option GoError

/-- How a flush ends; a nil schema makes `GetOrderedValues` panic. -/
inductive FlushResult where
  | ok
  | err (e : GoError)
  | panic
  deriving DecidableEq, Repr

structure FlushRun where
  calls : List ExecCall
  result : FlushResult

/-- The `ctx.Err()` check made before row `i` of a group of more than 10000 requests
when `i % 1000 = 0`; `reads` counts the context reads so far. -/
def periodicCheck (env : FlushEnv) (due : Bool) (reads : Nat) : Except FlushResult Nat :=
  if due then
    match env.ctxErr reads with
    | some e => .error (.err e)
    | none => .ok (reads + 1)
  else .ok reads

/-- A method call on a nil interface panics. -/
def panicOnNil {α : Type} : Option α → Except FlushResult α
  | none => .error .panic
  | some a => .ok a

/-- The inner loop over a group's requests, building `data[i]`. -/
def assembleRows (env : FlushEnv) (large : Bool) (schema : Option Schema) :
    Nat → Nat → List Request → Except FlushResult (List Row × Nat)
  | _, reads, [] => .ok ([], reads)
  | i, reads, request :: requests =>
    match periodicCheck env (large && i % 1000 == 0) reads with
    | .error r => .error r
    | .ok reads =>
      match panicOnNil request.getOrderedValues, panicOnNil (schema.map Schema.columns) with
      | .error r, _ => .error r
      | _, .error r => .error r
      | .ok values, .ok columns =>
        match assembleRows env large schema (i + 1) reads requests with
        | .error r => .error r
        | .ok (data, reads) => .ok (buildRow columns values :: data, reads)

/-- The range loop over the groups, in the order Go visits them. -/
def runGroups (env : FlushEnv) :
    Nat → List ExecCall → List (Option Schema × List Request) → FlushRun
  | _, calls, [] => ⟨calls, .ok⟩
  | reads, calls, (schema, requests) :: groups =>
    match env.ctxErr reads with
    | some e => ⟨calls, .err e⟩
    | none =>
      match assembleRows env (10000 < requests.length) schema 0 (reads + 1) requests with
      | .error r => ⟨calls, r⟩
      | .ok (data, reads) =>
        match env.executeBatch calls schema data with
        | some e => ⟨calls ++ [⟨schema, data, some e⟩], .err e⟩
        | none => runGroups env reads (calls ++ [⟨schema, data, none⟩]) groups

def flushFunc (env : FlushEnv) (batchData : List Request)
    (order : RangeOrder (groupBySchema batchData).keys) : FlushRun :=
  runGroups env 0 []
    (order.order.map fun schema => (schema, ((groupBySchema batchData).lookup schema).getD []))

theorem lookup_foldl_addRequest (batchData : List Request) (groups : SchemaGroups)
    (k : Option Schema) :
    (batchData.foldl addRequest groups).lookup k =
      if batchData.filter (·.schema = k) = [] then groups.lookup k
      else some ((groups.lookup k).getD [] ++ batchData.filter (·.schema = k)) := by
  induction batchData generalizing groups with
  | nil => simp
  | cons r rs ih =>
    by_cases hr : r.schema = k
    · subst hr
      simp [ih, addRequest, List.filter_cons]
    · simp [ih, addRequest, List.filter_cons, hr, AList.lookup_insert_ne (Ne.symm hr)]

/-- Each key of `schemaGroups` holds exactly its requests of the batch, in batch order. -/
theorem groupBySchema_lookup (batchData : List Request) (k : Option Schema) :
    (groupBySchema batchData).lookup k =
      if batchData.filter (·.schema = k) = [] then none
      else some (batchData.filter (·.schema = k)) := by
  simp [groupBySchema, lookup_foldl_addRequest]

theorem mem_groupBySchema_keys {batchData : List Request} {k : Option Schema} :
    k ∈ (groupBySchema batchData).keys ↔ k ∈ batchData.map Request.schema := by
  rw [← AList.mem_keys, ← AList.lookup_isSome, groupBySchema_lookup]
  split <;> simp_all [List.filter_eq_nil_iff]

/-- `schemaGroups` has one key per distinct schema of the batch. -/
theorem groupBySchema_keys_length (batchData : List Request) :
    (groupBySchema batchData).keys.length = (batchData.map Request.schema).dedup.length :=
  List.Perm.length_eq <| (List.perm_ext_iff_of_nodup (AList.keys_nodup _) (List.nodup_dedup _)).2
    fun _ => by rw [mem_groupBySchema_keys, List.mem_dedup]

theorem periodicCheck_cases (env : FlushEnv) (due : Bool) (reads : Nat) :
    (∃ reads', periodicCheck env due reads = .ok reads') ∨
      ∃ e, env.ctxErr reads = some e ∧ periodicCheck env due reads = .error (.err e) := by
  unfold periodicCheck
  split
  · cases h : env.ctxErr reads <;> simp
  · simp

/-- A group of one schema is assembled into its row dictionaries, in order, unless a
periodic context check finds an error. -/
theorem assembleRows_of_schema (env : FlushEnv) (large : Bool) (s : Schema) :
    ∀ (i reads : Nat) (requests : List Request), (∀ r ∈ requests, r.schema = some s) →
      (∃ reads', assembleRows env large (some s) i reads requests =
          .ok (requests.map (·.rowData s), reads')) ∨
        ∃ n e, env.ctxErr n = some e ∧
          assembleRows env large (some s) i reads requests = .error (.err e)
  | _, reads, [], _ => .inl ⟨reads, rfl⟩
  | i, reads, r :: rs, hs => by
    have hr := Request.getOrderedValues_eq (hs r (List.mem_cons_self _ _))
    rcases periodicCheck_cases env (large && i % 1000 == 0) reads with ⟨reads', hc⟩ | ⟨e, he, hc⟩
    · rcases assembleRows_of_schema env large s (i + 1) reads' rs
          (fun r' h' => hs r' (List.mem_cons_of_mem _ h')) with ⟨n, hrs⟩ | ⟨n, e, he, hrs⟩
      · exact .inl ⟨n, by simp [assembleRows, hc, hr, panicOnNil, hrs, Request.rowData]⟩
      · exact .inr ⟨n, e, he, by simp [assembleRows, hc, hr, panicOnNil, hrs]⟩
    · exact .inr ⟨reads, e, he, by simp [assembleRows, hc]⟩

/-- The flush as its contract reads: the groups go to the executor in order, and the
first failing call, or a context error before a call, ends it. `calls` are the calls
made before, `new` the calls this flush makes. -/
inductive Flushes (env : FlushEnv) :
    List ExecCall → List (Schema × List Row) → List ExecCall → FlushResult → Prop
  | done {calls} : Flushes env calls [] [] .ok
  | cancelled {calls g gs n e} : env.ctxErr n = some e → Flushes env calls (g :: gs) [] (.err e)
  | failed {calls g gs e} : env.executeBatch calls (some g.1) g.2 = some e →
      Flushes env calls (g :: gs) [⟨some g.1, g.2, some e⟩] (.err e)
  | next {calls g gs new r} : env.executeBatch calls (some g.1) g.2 = none →
      Flushes env (calls ++ [⟨some g.1, g.2, none⟩]) gs new r →
      Flushes env calls (g :: gs) (⟨some g.1, g.2, none⟩ :: new) r

/-- Every recorded result is what the executor answered, given the calls before. -/
inductive Answered (env : FlushEnv) : List ExecCall → Prop
  | nil : Answered env []
  | snoc {calls c} : Answered env calls → c.result = env.executeBatch calls c.schema c.data →
      Answered env (calls ++ [c])

namespace Flushes

variable {env : FlushEnv} {calls new : List ExecCall} {gs : List (Schema × List Row)}
  {r : FlushResult}

/-- The calls made are the first groups, in order. -/
theorem calls_initial_segment (h : Flushes env calls gs new r) :
    (new.map fun c => (c.schema, c.data)) <+: gs.map fun g => (some g.1, g.2) := by
  induction h with
  | done | cancelled _ => exact List.nil_prefix
  | failed _ => simp
  | next _ _ ih => simpa using ih

theorem ok_iff (h : Flushes env calls gs new r) :
    r = .ok ↔ new.length = gs.length ∧ ∀ c ∈ new, c.result = none := by
  induction h with
  | done => simp
  | cancelled _ | failed _ => simp
  | next _ _ ih => simp [ih]

theorem err_cases (h : Flushes env calls gs new r) {e : GoError} (he : r = .err e) :
    (∃ c, new.getLast? = some c ∧ c.result = some e) ∨
      ((∀ c ∈ new, c.result = none) ∧ ∃ n, env.ctxErr n = some e) := by
  induction h with
  | done => cases he
  | cancelled hn => cases he; exact .inr ⟨by simp, _, hn⟩
  | failed _ => cases he; exact .inl ⟨_, rfl, rfl⟩
  | @next _ _ _ new _ _ _ ih =>
    rcases ih he with ⟨c, hc, hce⟩ | ⟨hall, hn⟩
    · cases new with
      | nil => cases hc
      | cons c' new => exact .inl ⟨c, by simpa [List.getLast?_cons_cons] using hc, hce⟩
    · exact .inr ⟨by simpa using hall, hn⟩

/-- No call follows a failed one. -/
theorem stops (h : Flushes env calls gs new r) : ∀ c ∈ new.dropLast, c.result = none := by
  induction h with
  | done | cancelled _ | failed _ => simp
  | @next _ _ _ new _ _ _ ih =>
    cases new with
    | nil => simp
    | cons c' new => simpa using ih

theorem no_panic (h : Flushes env calls gs new r) : r ≠ .panic := by
  induction h with
  | done | cancelled _ | failed _ => simp
  | next _ _ ih => exact ih

theorem answered (h : Flushes env calls gs new r) (ha : Answered env calls) :
    Answered env (calls ++ new) := by
  induction h with
  | done | cancelled _ => simpa using ha
  | failed he => exact .snoc ha he.symm
  | next he _ ih => simpa using ih (.snoc ha he.symm)

end Flushes

/-- The groups `flushFunc` visits, for keys in range order. -/
def visitGroups (batchData : List Request) (keys : List (Option Schema)) :
    List (Option Schema × List Request) :=
  keys.map fun schema => (schema, ((groupBySchema batchData).lookup schema).getD [])

/-- What those groups send: each schema with its requests' row dictionaries. -/
def sentGroups (batchData : List Request) (keys : List (Option Schema)) :
    List (Schema × List Row) :=
  keys.filterMap fun k => k.map fun s => (s, (batchData.filter (·.schema = k)).map (·.rowData s))

/-- The range loop refines the abstract flush, when no request has a nil schema. -/
theorem runGroups_flushes (env : FlushEnv) (batchData : List Request)
    (hs : ∀ r ∈ batchData, r.schema ≠ none) :
    ∀ (keys : List (Option Schema)) (reads : Nat) (calls : List ExecCall),
      (∀ k ∈ keys, k ∈ batchData.map Request.schema) →
      ∃ new, (runGroups env reads calls (visitGroups batchData keys)).calls = calls ++ new ∧
        Flushes env calls (sentGroups batchData keys) new
          (runGroups env reads calls (visitGroups batchData keys)).result
  | [], _, calls, _ => ⟨[], by simp [visitGroups, runGroups], .done⟩
  | k :: keys, reads, calls, hk => by
    obtain ⟨r, hr, hrk⟩ := List.mem_map.1 (hk _ (List.mem_cons_self _ _))
    obtain ⟨s, rfl⟩ : ∃ s, k = some s := hrk ▸ Option.ne_none_iff_exists'.1 (hs r hr)
    set group := batchData.filter (·.schema = some s)
    have hgroup : (groupBySchema batchData).lookup (some s) = some group := by
      rw [groupBySchema_lookup, if_neg]
      exact List.ne_nil_of_mem (List.mem_filter.2 ⟨hr, by simp [hrk]⟩)
    have hsame : ∀ r ∈ group, r.schema = some s := by simp [group]
    simp only [visitGroups, sentGroups, List.map_cons, List.filterMap_cons, Option.map_some',
      hgroup, Option.getD_some, runGroups] at hk ⊢
    cases hctx : env.ctxErr reads with
    | some e => exact ⟨[], by simp, .cancelled hctx⟩
    | none =>
      rcases assembleRows_of_schema env (10000 < group.length) s 0 (reads + 1) group hsame with
        ⟨reads', ha⟩ | ⟨n, e, hn, ha⟩
      · cases hexec : env.executeBatch calls (some s) (group.map (·.rowData s)) with
        | some e =>
          exact ⟨[⟨some s, group.map (·.rowData s), some e⟩], by simp [ha, hexec],
            by simpa [ha, hexec] using .failed hexec⟩
        | none =>
          let call : ExecCall := ⟨some s, group.map (·.rowData s), none⟩
          obtain ⟨new, hcalls, hflush⟩ := runGroups_flushes env batchData hs keys reads'
            (calls ++ [call]) (fun k h => hk k (List.mem_cons_of_mem _ h))
          exact ⟨call :: new, by simpa [ha, hexec, visitGroups] using hcalls, by
            simpa [ha, hexec, visitGroups] using
              Flushes.next (g := (s, group.map (·.rowData s))) hexec hflush⟩
      · exact ⟨[], by simp [ha], by simpa [ha] using .cancelled hn⟩

/-- The row dictionary the flush function builds for a request of a schema. -/
def Request.row (r : Request) : Row :=
  match r.schema with
  | some s => r.rowData s
  | none => ∅

/-- Taking, for every key once, the elements with that key loses and repeats nothing. -/
theorem flatMap_filter_perm {α β : Type} [DecidableEq β] (f : α → β) :
    ∀ {keys : List β}, keys.Nodup → ∀ {l : List α}, (∀ a ∈ l, f a ∈ keys) →
      (keys.flatMap fun k => l.filter (f · = k)).Perm l
  | [], _, [], _ => .nil
  | [], _, a :: _, hl => absurd (hl a (List.mem_cons_self _ _)) (List.not_mem_nil _)
  | k :: ks, hk, l, hl => by
    have hk' := List.nodup_cons.1 hk
    have hrest : (ks.flatMap fun k' => l.filter (f · = k')) =
        ks.flatMap fun k' => (l.filter fun a => !decide (f a = k)).filter (f · = k') :=
      List.flatMap_congr fun k' hk'' => by
        rw [List.filter_filter]
        refine List.filter_congr fun a _ => ?_
        by_cases h : f a = k' <;> simp [h, show k' ≠ k from fun e => hk'.1 (e ▸ hk'')]
    rw [List.flatMap_cons, hrest]
    refine ((List.perm_append_left_iff _).2 (flatMap_filter_perm f hk'.2 fun a ha => ?_)).trans
      (List.filter_append_perm _ l)
    obtain ⟨ha, hne⟩ := List.mem_filter.1 ha
    exact (List.mem_cons.1 (hl a ha)).resolve_left (by simpa using hne)

/-- The rows the groups send, in range order. -/
theorem sentGroups_rows (batchData : List Request) :
    ∀ keys : List (Option Schema), (∀ k ∈ keys, k ≠ none) →
      (sentGroups batchData keys).flatMap (·.2) =
        (keys.flatMap fun k => batchData.filter (·.schema = k)).map Request.row
  | [], _ => rfl
  | k :: keys, h => by
    obtain ⟨s, rfl⟩ := Option.ne_none_iff_exists'.1 (h k (List.mem_cons_self _ _))
    have hrow : ∀ r ∈ batchData.filter (·.schema = some s), r.row = r.rowData s := fun r hr => by
      simp [Request.row, (of_decide_eq_true (List.mem_filter.1 hr).2 : r.schema = some s)]
    have hcons : sentGroups batchData (some s :: keys) =
        (s, (batchData.filter (·.schema = some s)).map (·.rowData s)) ::
          sentGroups batchData keys := rfl
    rw [hcons, List.flatMap_cons, List.flatMap_cons, List.map_append, List.map_congr_left hrow,
      sentGroups_rows batchData keys fun k hk => h k (List.mem_cons_of_mem _ hk)]

theorem sentGroups_schemas (batchData : List Request) :
    ∀ keys : List (Option Schema), (∀ k ∈ keys, k ≠ none) →
      (sentGroups batchData keys).map (fun g => some g.1) = keys
  | [], _ => rfl
  | k :: keys, h => by
    obtain ⟨s, rfl⟩ := Option.ne_none_iff_exists'.1 (h k (List.mem_cons_self _ _))
    simpa [sentGroups] using sentGroups_schemas batchData keys
      (fun k hk => h k (List.mem_cons_of_mem _ hk))

theorem mem_sentGroups {batchData : List Request} {keys : List (Option Schema)}
    {g : Schema × List Row} (h : g ∈ sentGroups batchData keys) :
    some g.1 ∈ keys ∧ g.2 = (batchData.filter (·.schema = some g.1)).map (·.rowData g.1) := by
  obtain ⟨k, hk, hg⟩ := List.mem_filterMap.1 h
  obtain ⟨s, rfl, rfl⟩ := Option.map_eq_some'.1 hg
  exact ⟨hk, rfl⟩

/-- The flush contract over one batch: the calls go to distinct schemas of the batch,
each with its own requests' rows in batch order; each recorded result is the executor's
answer; the flush succeeds exactly when every schema was sent and every call succeeded;
on success every request's row reaches the executor exactly once; otherwise it returns
the last call's error or a context error, and no call follows a failed one. -/
structure FlushSpec (env : FlushEnv) (batchData : List Request) (run : FlushRun) : Prop where
  distinct : (run.calls.map ExecCall.schema).Nodup
  rows : ∀ c ∈ run.calls, ∃ s, c.schema = some s ∧ some s ∈ batchData.map Request.schema ∧
    c.data = (batchData.filter (·.schema = some s)).map (·.rowData s)
  answered : Answered env run.calls
  ok_iff : run.result = .ok ↔ run.calls.length = (batchData.map Request.schema).dedup.length ∧
    ∀ c ∈ run.calls, c.result = none
  covers : run.result = .ok → ∀ r ∈ batchData, ∃ c ∈ run.calls, c.schema = r.schema
  exactly_once : run.result = .ok →
    (run.calls.flatMap ExecCall.data).Perm (batchData.map Request.row)
  err : ∀ e, run.result = .err e → (∃ c, run.calls.getLast? = some c ∧ c.result = some e) ∨
    ((∀ c ∈ run.calls, c.result = none) ∧ ∃ n, env.ctxErr n = some e)
  stops : ∀ c ∈ run.calls.dropLast, c.result = none
  no_panic : run.result ≠ .panic

theorem flushFunc_flushes (env : FlushEnv) (batchData : List Request)
    (order : RangeOrder (groupBySchema batchData).keys) (hs : ∀ r ∈ batchData, r.schema ≠ none) :
    Flushes env [] (sentGroups batchData order.order) (flushFunc env batchData order).calls
      (flushFunc env batchData order).result := by
  obtain ⟨new, hcalls, hflush⟩ := runGroups_flushes env batchData hs order.order 0 []
    fun k hk => mem_groupBySchema_keys.1 (order.perm.subset hk)
  rw [List.nil_append] at hcalls
  exact hcalls ▸ hflush

/-- Each call goes to a schema of the batch, with that schema's requests' rows. -/
theorem flushFunc_call_rows (env : FlushEnv) (batchData : List Request)
    (order : RangeOrder (groupBySchema batchData).keys) (hs : ∀ r ∈ batchData, r.schema ≠ none) :
    ∀ c ∈ (flushFunc env batchData order).calls, ∃ s, c.schema = some s ∧
      some s ∈ batchData.map Request.schema ∧
      c.data = (batchData.filter (·.schema = some s)).map (·.rowData s) := by
  intro c hc
  obtain ⟨g, hg, hgc⟩ := List.mem_map.1 ((flushFunc_flushes env batchData order hs).calls_initial_segment.subset
    (List.mem_map_of_mem (fun c => (c.schema, c.data)) hc))
  obtain ⟨hgk, hgd⟩ := mem_sentGroups hg
  simp only [Prod.mk.injEq] at hgc
  exact ⟨g.1, hgc.1.symm, mem_groupBySchema_keys.1 (order.perm.subset hgk), hgc.2 ▸ hgd⟩

theorem flushFunc_meets_contract (env : FlushEnv) (batchData : List Request)
    (order : RangeOrder (groupBySchema batchData).keys)
    (hs : ∀ r ∈ batchData, r.schema ≠ none) :
    FlushSpec env batchData (flushFunc env batchData order) := by
  have hflush := flushFunc_flushes env batchData order hs
  have hkeys : ∀ r ∈ batchData, r.schema ∈ order.order := fun r hr =>
    order.perm.symm.subset (mem_groupBySchema_keys.2 (List.mem_map_of_mem _ hr))
  have hnone : ∀ k ∈ order.order, k ≠ none := fun k hk => by
    obtain ⟨r, hr, rfl⟩ := List.mem_map.1 (mem_groupBySchema_keys.1 (order.perm.subset hk))
    exact hs r hr
  have hnodup : order.order.Nodup := order.perm.nodup_iff.2 (AList.keys_nodup _)
  have hschemas := sentGroups_schemas batchData order.order hnone
  have hsentLen : (sentGroups batchData order.order).length = order.order.length := by
    simpa using congrArg List.length hschemas
  have hlen : (sentGroups batchData order.order).length =
      (batchData.map Request.schema).dedup.length := by
    rw [hsentLen, order.perm.length_eq, groupBySchema_keys_length]
  have hcallSchemas : (flushFunc env batchData order).calls.map ExecCall.schema <+: order.order := by
    have h := hflush.calls_initial_segment.map Prod.fst
    simp only [List.map_map, Function.comp_def] at h
    rwa [hschemas] at h
  -- on success every group has been sent
  have hfull : (flushFunc env batchData order).result = .ok →
      (flushFunc env batchData order).calls.map (fun c => (c.schema, c.data)) =
        (sentGroups batchData order.order).map fun g => (some g.1, g.2) := fun hok =>
    hflush.calls_initial_segment.eq_of_length (by simp [((hflush.ok_iff).1 hok).1])
  refine ⟨hnodup.sublist hcallSchemas.sublist, flushFunc_call_rows env batchData order hs,
    by simpa using hflush.answered .nil, by rw [hflush.ok_iff, hlen], fun hok r hr => ?_,
    fun hok => ?_, fun e he => hflush.err_cases he, hflush.stops, hflush.no_panic⟩
  · have hall : (flushFunc env batchData order).calls.map ExecCall.schema = order.order := by
      simpa [List.map_map, Function.comp_def, hschemas] using
        congrArg (List.map Prod.fst) (hfull hok)
    have hmem : r.schema ∈ (flushFunc env batchData order).calls.map ExecCall.schema :=
      hall ▸ hkeys r hr
    simpa [eq_comm] using hmem
  · have hdata : (flushFunc env batchData order).calls.flatMap ExecCall.data =
        (sentGroups batchData order.order).flatMap (·.2) := by
      simpa [List.flatMap_map] using congrArg (fun l => l.flatMap Prod.snd) (hfull hok)
    rw [hdata, sentGroups_rows batchData order.order hnone]
    exact (flatMap_filter_perm Request.schema hnodup hkeys).map Request.row

/-- A context that is never cancelled and an executor that always succeeds. -/
def quietEnv : FlushEnv := ⟨fun _ => none, fun _ _ _ => none⟩

/-- A second schema, `orders (id, total)`, and a batch that puts an orders row between
two users rows. -/
def ordersSchema : Schema := newSQLSchema 2 "orders" ⟨0⟩ ["id", "total"]

def ordersRequest : Request :=
  ((newRequest (some ordersSchema)).set "id" (.int 7)).set "total" (.int 30)

def interleavedBatch : List Request :=
  [usersRequest, ordersRequest, usersRequest.set "id" (.int 2)]

/-- A context that is never cancelled and an executor that fails every `orders` call. -/
def ordersFailEnv : FlushEnv :=
  ⟨fun _ => none, fun _ schema _ => if schema = some ordersSchema then some (.other 0) else none⟩

/-- Go visits `users` first: its two rows go in one call, in batch order, and the
`orders` call then fails. -/
theorem flushFunc_meets_contract_interleaved :
    (∀ r ∈ interleavedBatch, r.schema ≠ none) ∧
      FlushSpec ordersFailEnv interleavedBatch
        (flushFunc ordersFailEnv interleavedBatch ⟨_, List.Perm.refl _⟩) ∧
      (flushFunc ordersFailEnv interleavedBatch ⟨_, List.Perm.refl _⟩).calls.map
          (fun c => (c.schema, c.data.length, c.result)) =
        [(some usersSchema, 2, none), (some ordersSchema, 1, some (.other 0))] ∧
      (flushFunc ordersFailEnv interleavedBatch ⟨_, List.Perm.refl _⟩).result = .err (.other 0) :=
  have hs : ∀ r ∈ interleavedBatch, r.schema ≠ none := by
    simp [interleavedBatch, ordersRequest, usersRequest, Request.set, newRequest]
  ⟨hs, flushFunc_meets_contract ordersFailEnv interleavedBatch _ hs, by decide, by decide⟩

end BatchFlow
