import BatchFlow.Flush
import Mathlib.Algebra.Order.Ring.Nat

/-!
# The range loop of the flush function: metrics, nil schemas and context reads

What `flushFunc` does beyond its contract in `Flush`. After a group's rows are built and
before `ExecuteBatch`, it reports the group's size and assembly time to
`batchFlow.metricsReporter`. `runGroupsObserved` is the range loop with these calls;
dropping them gives `runGroups`, so all that is proved of `flushFunc` holds of it. The
sizes reported are the row counts of the calls made, one per call and in call order,
and when the flush succeeds they add up to the batch.

A request with a nil schema does not pass Submit's checks, and the flush function does
not rely on that: `schema.Columns()` on the nil interface panics before the group's
call, so no call gets a nil schema, such a batch never flushes successfully, and a flush
that succeeds has handed every request's row to the executor exactly once.

The assembly of a group of more than 10000 requests reads the context at every
1000th row; a smaller group is assembled without reading it. And when the context stays
live and the executor answers each call on its own, Go's map order decides only the
order of the calls, not whether the flush succeeds nor which calls it makes.

These two are all the flush function reports: it has no `defer` that observes its
duration with a success or failure status, though the comments of
`gopipeline_metrics_adapter.go` say that it does. Durations are not modelled, nor which
reporter receives the observations (the executor's own, or a Noop one).
-/

namespace BatchFlow

/-- A call the flush function makes on `batchFlow.metricsReporter`. -/
inductive FlushMetric where
  /-- `ObserveBatchSize(len(requests))`. -/
  | batchSize (n : Nat)
  /-- `ObserveBatchAssemble(time.Since(assembleStart))`. -/
  | batchAssemble
  deriving DecidableEq, Repr

def FlushMetric.size? : FlushMetric → Option Nat
  | batchSize n => some n
  | batchAssemble => none

/-- The range loop with its metrics calls; `metrics` are those made so far. -/
def runGroupsObserved (env : FlushEnv) :
    Nat → List ExecCall → List FlushMetric → List (Option Schema × List Request) →
      FlushRun × List FlushMetric
  | _, calls, metrics, [] => (⟨calls, .ok⟩, metrics)
  | reads, calls, metrics, (schema, requests) :: groups =>
    match env.ctxErr reads with
    | some e => (⟨calls, .err e⟩, metrics)
    | none =>
      match assembleRows env (10000 < requests.length) schema 0 (reads + 1) requests with
      | .error r => (⟨calls, r⟩, metrics)
      | .ok (data, reads) =>
        let metrics := metrics ++ [.batchSize requests.length, .batchAssemble]
        match env.executeBatch calls schema data with
        | some e => (⟨calls ++ [⟨schema, data, some e⟩], .err e⟩, metrics)
        | none => runGroupsObserved env reads (calls ++ [⟨schema, data, none⟩]) metrics groups

/-- `flushFunc` with its metrics calls. -/
def flushFuncObserved (env : FlushEnv) (batchData : List Request)
    (order : RangeOrder (groupBySchema batchData).keys) : FlushRun × List FlushMetric :=
  runGroupsObserved env 0 [] [] (visitGroups batchData order.order)

/-- The metrics reported for the group of one `ExecuteBatch` call. -/
def ExecCall.metrics (c : ExecCall) : List FlushMetric :=
  [.batchSize c.data.length, .batchAssemble]

theorem filterMap_size_metrics (calls : List ExecCall) :
    (calls.flatMap ExecCall.metrics).filterMap FlushMetric.size? = calls.map (·.data.length) := by
  induction calls with
  | nil => rfl
  | cons c calls ih => simp [ExecCall.metrics, FlushMetric.size?, ih]

/-- One round of the inner loop: it stops at the periodic check or on a nil interface,
or it builds the request's row and goes on with the rest. -/
theorem assembleRows_cons (env : FlushEnv) (large : Bool) (schema : Option Schema)
    (i reads : Nat) (request : Request) (requests : List Request) :
    (∃ r, r ≠ .ok ∧ assembleRows env large schema i reads (request :: requests) = .error r) ∨
      ∃ reads' columns values, schema.map Schema.columns = some columns ∧
        assembleRows env large schema i reads (request :: requests) =
          (assembleRows env large schema (i + 1) reads' requests).map
            fun p => (buildRow columns values :: p.1, p.2) := by
  rcases periodicCheck_cases env (large && i % 1000 == 0) reads with ⟨reads', hc⟩ | ⟨e, -, hc⟩
  · cases hv : request.getOrderedValues with
    | none => exact .inl ⟨.panic, nofun, by simp [assembleRows, hc, hv, panicOnNil]⟩
    | some values =>
      cases hcols : schema.map Schema.columns with
      | none => exact .inl ⟨.panic, nofun, by simp [assembleRows, hc, hv, hcols, panicOnNil]⟩
      | some columns =>
        refine .inr ⟨reads', columns, values, rfl, ?_⟩
        simp only [assembleRows, hc, hv, hcols, panicOnNil]
        cases assembleRows env large schema (i + 1) reads' requests <;> rfl
  · exact .inl ⟨.err e, nofun, by simp [assembleRows, hc]⟩

/-- The inner loop builds one row per request. -/
theorem assembleRows_length (env : FlushEnv) (large : Bool) (schema : Option Schema) :
    ∀ (i reads : Nat) (requests : List Request) {data : List Row} {reads' : Nat},
      assembleRows env large schema i reads requests = .ok (data, reads') →
        data.length = requests.length
  | _, _, [], _, _, h => by cases h; rfl
  | i, reads, r :: rs, _, _, h => by
    rcases assembleRows_cons env large schema i reads r rs with
      ⟨_, _, he⟩ | ⟨reads'', _, _, _, he⟩ <;> rw [he] at h
    · cases h
    · cases hrs : assembleRows env large schema (i + 1) reads'' rs <;> rw [hrs] at h <;> cases h
      simp [assembleRows_length env large schema _ _ rs hrs]

/-- The inner loop only stops with an error or a panic. -/
theorem assembleRows_error_ne_ok {env : FlushEnv} {large : Bool} {schema : Option Schema} :
    ∀ {i reads : Nat} {requests : List Request} {r : FlushResult},
      assembleRows env large schema i reads requests = .error r → r ≠ .ok
  | _, _, [], _, h => by cases h
  | i, reads, req :: rs, _, h => by
    rcases assembleRows_cons env large schema i reads req rs with
      ⟨_, hr, he⟩ | ⟨reads', _, _, _, he⟩ <;> rw [he] at h
    · cases h; exact hr
    · cases hrs : assembleRows env large schema (i + 1) reads' rs <;> rw [hrs] at h <;> cases h
      exact assembleRows_error_ne_ok hrs

/-- `schema.Columns()` on the nil interface panics at the group's first request, unless
the context check before it fails. -/
theorem assembleRows_nil_schema (env : FlushEnv) (large : Bool) (i reads : Nat)
    (request : Request) (requests : List Request) :
    ∃ r, assembleRows env large none i reads (request :: requests) = .error r := by
  rcases assembleRows_cons env large none i reads request requests with
    ⟨r, -, he⟩ | ⟨_, _, _, hcols, -⟩
  · exact ⟨r, he⟩
  · cases hcols

/-- With a context that is never done, the inner loop builds every row, reading the
context at each row whose index is a multiple of 1000 when the group is large. -/
theorem assembleRows_live {env : FlushEnv} (hlive : ∀ n, env.ctxErr n = none) (large : Bool)
    (s : Schema) :
    ∀ (i reads : Nat) (requests : List Request), (∀ r ∈ requests, r.schema = some s) →
      assembleRows env large (some s) i reads requests =
        .ok (requests.map (·.rowData s),
          reads + if large then (i + requests.length + 999) / 1000 - (i + 999) / 1000 else 0)
  | i, reads, [], _ => by simp [assembleRows]
  | i, reads, r :: rs, hs => by
    have hr := Request.getOrderedValues_eq (hs r (List.mem_cons_self _ _))
    have hc : periodicCheck env (large && i % 1000 == 0) reads =
        .ok (reads + if large && i % 1000 == 0 then 1 else 0) := by
      unfold periodicCheck; split <;> simp_all
    -- the check at row `i` is the one multiple of 1000 in `[i, i + 1)`
    have hcount : ((if large && i % 1000 == 0 then 1 else 0) +
        if large then (i + 1 + rs.length + 999) / 1000 - (i + 1 + 999) / 1000 else 0) =
        if large then (i + (rs.length + 1) + 999) / 1000 - (i + 999) / 1000 else 0 := by
      cases large <;> simp only [Bool.false_and, Bool.true_and, beq_iff_eq] <;> split <;>
        simp_all <;> omega
    rw [assembleRows, hc]
    simp only [hr, panicOnNil, Option.map_some', assembleRows_live hlive large s (i + 1) _ rs
      fun r' h => hs r' (List.mem_cons_of_mem _ h), List.map_cons, Request.rowData,
      List.length_cons]
    rw [Nat.add_assoc, hcount]

/-- With a context that is never done, assembling a group of `n` requests reads the
context `⌈n / 1000⌉` times when `n > 10000`, and never otherwise. -/
theorem assembleRows_context_reads (env : FlushEnv) (hlive : ∀ n, env.ctxErr n = none)
    (s : Schema) (requests : List Request) (hs : ∀ r ∈ requests, r.schema = some s) (reads : Nat) :
    assembleRows env (10000 < requests.length) (some s) 0 reads requests =
      .ok (requests.map (·.rowData s),
        reads + if 10000 < requests.length then (requests.length + 999) / 1000 else 0) := by
  rw [assembleRows_live hlive _ s 0 reads requests hs]
  simp

/-- A group of 10001 requests is assembled with 11 reads of the context, at rows 0, 1000,
..., 10000. -/
theorem assembleRows_context_reads_large :
    (∀ n, quietEnv.ctxErr n = none) ∧
      (∀ r ∈ List.replicate 10001 usersRequest, r.schema = some usersSchema) ∧
      assembleRows quietEnv true (some usersSchema) 0 0 (List.replicate 10001 usersRequest) =
        .ok (List.replicate 10001 (usersRequest.rowData usersSchema), 11) :=
  have hlive : ∀ n, quietEnv.ctxErr n = none := fun _ => rfl
  have hs : ∀ r ∈ List.replicate 10001 usersRequest, r.schema = some usersSchema :=
    fun r hr => (List.eq_of_mem_replicate hr).symm ▸ rfl
  have h := assembleRows_context_reads quietEnv hlive usersSchema _ hs 0
  ⟨hlive, hs, by rw [List.length_replicate, List.map_replicate] at h; exact h⟩

/-- One round of the range loop: it ends before the group's call, or it assembles the
group and then either the call fails or the loop goes on with the next group. -/
theorem runGroups_cons (env : FlushEnv) (reads : Nat) (calls : List ExecCall)
    (schema : Option Schema) (requests : List Request)
    (groups : List (Option Schema × List Request)) :
    (∃ r, r ≠ .ok ∧ runGroups env reads calls ((schema, requests) :: groups) = ⟨calls, r⟩) ∨
      ∃ data reads', assembleRows env (10000 < requests.length) schema 0 (reads + 1) requests =
          .ok (data, reads') ∧
        ((∃ e, runGroups env reads calls ((schema, requests) :: groups) =
            ⟨calls ++ [⟨schema, data, some e⟩], .err e⟩) ∨
          runGroups env reads calls ((schema, requests) :: groups) =
            runGroups env reads' (calls ++ [⟨schema, data, none⟩]) groups) := by
  simp only [runGroups]
  cases env.ctxErr reads with
  | some e => exact .inl ⟨.err e, nofun, rfl⟩
  | none =>
    cases ha : assembleRows env (10000 < requests.length) schema 0 (reads + 1) requests with
    | error r => exact .inl ⟨r, assembleRows_error_ne_ok ha, rfl⟩
    | ok p =>
      obtain ⟨data, reads'⟩ := p
      refine .inr ⟨data, reads', rfl, ?_⟩
      dsimp only
      cases env.executeBatch calls schema data with
      | some e => exact .inl ⟨e, rfl⟩
      | none => exact .inr rfl

/-- Dropping the metrics calls gives the range loop of `Flush`; the metrics reported
are those of the calls made. -/
theorem runGroupsObserved_eq (env : FlushEnv) :
    ∀ (reads : Nat) (calls : List ExecCall) (metrics : List FlushMetric)
      (groups : List (Option Schema × List Request)),
      ∃ new, (runGroups env reads calls groups).calls = calls ++ new ∧
        runGroupsObserved env reads calls metrics groups =
          (runGroups env reads calls groups, metrics ++ new.flatMap ExecCall.metrics)
  | _, calls, metrics, [] => ⟨[], by simp [runGroups, runGroupsObserved]⟩
  | reads, calls, metrics, (schema, requests) :: groups => by
    simp only [runGroupsObserved, runGroups]
    cases env.ctxErr reads with
    | some e => exact ⟨[], by simp⟩
    | none =>
      cases ha : assembleRows env (10000 < requests.length) schema 0 (reads + 1) requests with
      | error r => exact ⟨[], by simp⟩
      | ok p =>
        have hlen := assembleRows_length env _ schema 0 (reads + 1) requests ha
        dsimp only
        cases env.executeBatch calls schema p.1 with
        | some e => exact ⟨[⟨schema, p.1, some e⟩], by simp [ExecCall.metrics, hlen]⟩
        | none =>
          obtain ⟨new, hcalls, hrun⟩ := runGroupsObserved_eq env p.2
            (calls ++ [⟨schema, p.1, none⟩]) (metrics ++ [.batchSize requests.length, .batchAssemble])
            groups
          exact ⟨⟨schema, p.1, none⟩ :: new, by simp [hcalls], by
            simp [hrun, ExecCall.metrics, hlen]⟩

theorem flushFuncObserved_run (env : FlushEnv) (batchData : List Request)
    (order : RangeOrder (groupBySchema batchData).keys) :
    (flushFuncObserved env batchData order).1 = flushFunc env batchData order := by
  obtain ⟨_, _, h⟩ := runGroupsObserved_eq env 0 [] [] (visitGroups batchData order.order)
  rw [flushFuncObserved, h]
  rfl

/-- The groups the loop visits are the batch's requests of each key, nothing else. -/
theorem visitGroups_requests (batchData : List Request) (keys : List (Option Schema)) :
    (visitGroups batchData keys).map (·.2) = keys.map fun k => batchData.filter (·.schema = k) := by
  simp only [visitGroups, List.map_map]
  refine List.map_congr_left fun k _ => ?_
  simp only [Function.comp_apply, groupBySchema_lookup]
  split <;> simp_all

/-- A group whose requests all carry its schema is assembled into their row dictionaries. -/
theorem assembleRows_ok_rows {env : FlushEnv} {large : Bool} {schema : Option Schema}
    {i reads : Nat} {requests : List Request} {data : List Row} {reads' : Nat}
    (hsame : ∀ r ∈ requests, r.schema = schema)
    (h : assembleRows env large schema i reads requests = .ok (data, reads')) :
    data = requests.map Request.row := by
  cases schema with
  | none =>
    cases requests with
    | nil => cases h; rfl
    | cons r rs =>
      obtain ⟨e, he⟩ := assembleRows_nil_schema env large i reads r rs
      cases he ▸ h
  | some s =>
    rcases assembleRows_of_schema env large s i reads requests hsame with ⟨_, he⟩ | ⟨_, _, _, he⟩ <;>
      rw [he] at h <;> cases h
    exact List.map_congr_left fun r hr => by simp [Request.row, hsame r hr]

/-- A loop that succeeds over groups whose requests carry the group's schema has made one
call per group, in order, with the group's schema and rows. -/
theorem runGroups_ok_calls (env : FlushEnv) :
    ∀ (reads : Nat) (calls : List ExecCall) (groups : List (Option Schema × List Request)),
      (∀ g ∈ groups, ∀ r ∈ g.2, r.schema = g.1) →
      (runGroups env reads calls groups).result = .ok →
        (runGroups env reads calls groups).calls =
          calls ++ groups.map fun g => ⟨g.1, g.2.map Request.row, none⟩
  | _, calls, [], _, _ => by simp [runGroups]
  | reads, calls, (schema, requests) :: groups, hsame, hok => by
    rcases runGroups_cons env reads calls schema requests groups with
      ⟨r, hr, h⟩ | ⟨data, reads', ha, ⟨e, h⟩ | h⟩ <;> rw [h] at hok ⊢
    · exact absurd hok hr
    · cases hok
    · rw [runGroups_ok_calls env reads' _ groups (fun g hg => hsame g (List.mem_cons_of_mem _ hg)) hok,
        assembleRows_ok_rows (hsame _ (List.mem_cons_self _ _)) ha]
      simp

/-- The groups the range loop visits hold their key's requests. -/
theorem visitGroups_schema (batchData : List Request) (keys : List (Option Schema)) :
    ∀ g ∈ visitGroups batchData keys, ∀ r ∈ g.2, r.schema = g.1 := by
  intro g hg r hr
  obtain ⟨k, -, rfl⟩ := List.mem_map.1 hg
  rw [groupBySchema_lookup] at hr
  split at hr
  · cases hr
  · exact of_decide_eq_true (List.mem_filter.1 hr).2

/-- The groups the range loop visits, one per key of the map, are not empty. -/
theorem visitGroups_ne_nil {batchData : List Request}
    (order : RangeOrder (groupBySchema batchData).keys) :
    ∀ g ∈ visitGroups batchData order.order, g.2 ≠ [] := fun g hg => by
  obtain ⟨k, hk, rfl⟩ := List.mem_map.1 hg
  obtain ⟨r, hr, rfl⟩ := List.mem_map.1 (mem_groupBySchema_keys.1 (order.perm.subset hk))
  have hmem : r ∈ batchData.filter (·.schema = r.schema) := List.mem_filter.2 ⟨hr, by simp⟩
  rw [groupBySchema_lookup, if_neg (List.ne_nil_of_mem hmem)]
  exact List.ne_nil_of_mem hmem

/-- A flush that succeeds has made one call per schema of the batch, in range order,
each with its requests' rows. -/
theorem flushFunc_ok_calls (env : FlushEnv) (batchData : List Request)
    (order : RangeOrder (groupBySchema batchData).keys)
    (hok : (flushFunc env batchData order).result = .ok) :
    (flushFunc env batchData order).calls =
      (visitGroups batchData order.order).map fun g => ⟨g.1, g.2.map Request.row, none⟩ :=
  (runGroups_ok_calls env 0 [] _ (visitGroups_schema _ _) hok).trans (List.nil_append _)

/-- A flush that succeeds has handed every request's row to the executor exactly once,
whatever the batch. -/
theorem flushFunc_rows_perm (env : FlushEnv) (batchData : List Request)
    (order : RangeOrder (groupBySchema batchData).keys)
    (hok : (flushFunc env batchData order).result = .ok) :
    ((flushFunc env batchData order).calls.flatMap ExecCall.data).Perm
      (batchData.map Request.row) := by
  have hkeys : ∀ r ∈ batchData, r.schema ∈ order.order := fun r hr =>
    order.perm.symm.subset (mem_groupBySchema_keys.2 (List.mem_map_of_mem _ hr))
  have hrows : (visitGroups batchData order.order).flatMap (fun g => g.2.map Request.row) =
      (order.order.flatMap fun k => batchData.filter (·.schema = k)).map Request.row := by
    rw [List.map_flatMap, ← List.flatMap_map Prod.snd, visitGroups_requests, List.flatMap_map]
  rw [flushFunc_ok_calls env batchData order hok, List.flatMap_map]
  exact (List.Perm.of_eq hrows).trans ((flatMap_filter_perm Request.schema
    (order.perm.nodup_iff.2 (AList.keys_nodup _)) hkeys).map Request.row)

/-- The flush function reports one batch size and one assembly time for each group it
hands to `ExecuteBatch`, with that call's row count, and nothing for a group that ends
before its call; when the flush succeeds, the sizes reported add up to the batch. -/
theorem flushFunc_reports_sizes (env : FlushEnv) (batchData : List Request)
    (order : RangeOrder (groupBySchema batchData).keys) :
    (flushFuncObserved env batchData order).2 =
        (flushFunc env batchData order).calls.flatMap ExecCall.metrics ∧
      ((flushFunc env batchData order).result = .ok →
        ((flushFuncObserved env batchData order).2.filterMap FlushMetric.size?).sum =
          batchData.length) := by
  obtain ⟨new, hcalls, hrun⟩ := runGroupsObserved_eq env 0 [] [] (visitGroups batchData order.order)
  have hcalls' : (flushFunc env batchData order).calls = new := hcalls.trans (List.nil_append _)
  have hmetrics : (flushFuncObserved env batchData order).2 =
      (flushFunc env batchData order).calls.flatMap ExecCall.metrics := by
    rw [flushFuncObserved, hrun, hcalls', List.nil_append]
  refine ⟨hmetrics, fun hok => ?_⟩
  calc ((flushFuncObserved env batchData order).2.filterMap FlushMetric.size?).sum
      = ((flushFunc env batchData order).calls.map (·.data.length)).sum := by
        rw [hmetrics, filterMap_size_metrics]
    _ = ((flushFunc env batchData order).calls.flatMap ExecCall.data).length := by
        rw [List.flatMap_def, List.length_flatten, List.map_map]
        rfl
    _ = batchData.length := by
        rw [(flushFunc_rows_perm env batchData order hok).length_eq, List.length_map]

/-- Whatever the batch, no call gets a nil schema, and a batch holding a request with a
nil schema never flushes successfully. -/
theorem runGroups_nil_schema (env : FlushEnv) :
    ∀ (reads : Nat) (calls : List ExecCall) (groups : List (Option Schema × List Request)),
      (∀ g ∈ groups, g.2 ≠ []) →
        (∀ c ∈ (runGroups env reads calls groups).calls, c ∈ calls ∨ c.schema ≠ none) ∧
          (none ∈ groups.map Prod.fst → (runGroups env reads calls groups).result ≠ .ok)
  | _, calls, [], _ => ⟨fun c hc => .inl hc, by simp⟩
  | reads, calls, (schema, requests) :: groups, hne => by
    rcases runGroups_cons env reads calls schema requests groups with
      ⟨r, hr, h⟩ | ⟨data, reads', ha, hnext⟩
    · rw [h]; exact ⟨fun c hc => .inl hc, fun _ => hr⟩
    obtain ⟨s, rfl⟩ : ∃ s, schema = some s := by
      cases schema with
      | some s => exact ⟨s, rfl⟩
      | none =>
        obtain ⟨request, rest, rfl⟩ := List.exists_cons_of_ne_nil (hne _ (List.mem_cons_self _ _))
        obtain ⟨r, hr⟩ := assembleRows_nil_schema env _ 0 (reads + 1) request rest
        cases hr ▸ ha
    have hcall : ∀ res, ∀ c ∈ calls ++ [⟨some s, data, res⟩], c ∈ calls ∨ c.schema ≠ none := by
      rintro res c hc
      rcases List.mem_append.1 hc with hc | hc
      exacts [.inl hc, .inr (by simp [List.mem_singleton.1 hc])]
    rcases hnext with ⟨e, h⟩ | h <;> rw [h]
    · exact ⟨hcall _, fun _ => nofun⟩
    · obtain ⟨hcalls, hres⟩ := runGroups_nil_schema env reads' _ groups
        fun g hg => hne g (List.mem_cons_of_mem _ hg)
      exact ⟨fun c hc => (hcalls c hc).elim (hcall none c) .inr,
        fun hn => hres (by simpa using hn)⟩

theorem flushFunc_nil_schema (env : FlushEnv) (batchData : List Request)
    (order : RangeOrder (groupBySchema batchData).keys) :
    (∀ c ∈ (flushFunc env batchData order).calls, c.schema ≠ none) ∧
      (none ∈ batchData.map Request.schema → (flushFunc env batchData order).result ≠ .ok) := by
  obtain ⟨hcalls, hres⟩ := runGroups_nil_schema env 0 [] _ (visitGroups_ne_nil order)
  refine ⟨fun c hc => (hcalls c hc).resolve_left (List.not_mem_nil _), fun hn => hres ?_⟩
  simpa [visitGroups, Function.comp_def] using
    order.perm.symm.subset (mem_groupBySchema_keys.2 hn)

/-- With a context that is never done and an executor that answers each call on its own,
a loop over non-empty groups whose requests carry the group's schema succeeds exactly when
every group has a schema and the executor accepts its rows. -/
theorem runGroups_live_ok_iff {env : FlushEnv} (hlive : ∀ n, env.ctxErr n = none)
    (hindep : ∀ calls calls' schema data,
      env.executeBatch calls schema data = env.executeBatch calls' schema data) :
    ∀ (reads : Nat) (calls : List ExecCall) (groups : List (Option Schema × List Request)),
      (∀ g ∈ groups, g.2 ≠ [] ∧ ∀ r ∈ g.2, r.schema = g.1) →
      ((runGroups env reads calls groups).result = .ok ↔
        ∀ g ∈ groups, g.1 ≠ none ∧ env.executeBatch [] g.1 (g.2.map Request.row) = none)
  | _, _, [], _ => by simp [runGroups]
  | reads, calls, (schema, requests) :: groups, hg => by
    obtain ⟨hne, hsame⟩ := hg _ (List.mem_cons_self _ _)
    cases schema with
    | none =>
      refine iff_of_false ((runGroups_nil_schema env reads calls _ fun g hg' => (hg g hg').1).2
        (List.mem_cons_self _ _)) fun h => (h _ (List.mem_cons_self _ _)).1 rfl
    | some s =>
      have hrows : requests.map (·.rowData s) = requests.map Request.row :=
        List.map_congr_left fun r hr => by simp [Request.row, hsame r hr]
      simp only [runGroups, hlive, assembleRows_live hlive _ s 0 (reads + 1) requests hsame, hrows,
        hindep calls []]
      cases hexec : env.executeBatch [] (some s) (requests.map Request.row) with
      | some e => simp [hexec]
      | none =>
        rw [runGroups_live_ok_iff hlive hindep _ _ groups fun g h => hg g (List.mem_cons_of_mem _ h)]
        simp [hexec]

/-- When the context is never done and the executor answers each call on its own, Go's
map order only decides the order of the calls: whether the flush succeeds, and the calls
it makes when it does, are the same for every order. -/
theorem flushFunc_order_independent (env : FlushEnv) (hlive : ∀ n, env.ctxErr n = none)
    (hindep : ∀ calls calls' schema data,
      env.executeBatch calls schema data = env.executeBatch calls' schema data)
    (batchData : List Request) (order order' : RangeOrder (groupBySchema batchData).keys) :
    ((flushFunc env batchData order).result = .ok ↔
        (flushFunc env batchData order').result = .ok) ∧
      ((flushFunc env batchData order).result = .ok →
        (flushFunc env batchData order).calls.Perm (flushFunc env batchData order').calls) := by
  have hgroups : ∀ o : RangeOrder (groupBySchema batchData).keys,
      ∀ g ∈ visitGroups batchData o.order, g.2 ≠ [] ∧ ∀ r ∈ g.2, r.schema = g.1 := fun o g hg =>
    ⟨visitGroups_ne_nil o g hg, visitGroups_schema _ _ g hg⟩
  have hperm : (visitGroups batchData order.order).Perm (visitGroups batchData order'.order) :=
    (order.perm.trans order'.perm.symm).map _
  have hiff : (flushFunc env batchData order).result = .ok ↔
      (flushFunc env batchData order').result = .ok := by
    rw [flushFunc, ← visitGroups, flushFunc, ← visitGroups,
      runGroups_live_ok_iff hlive hindep 0 [] _ (hgroups order),
      runGroups_live_ok_iff hlive hindep 0 [] _ (hgroups order')]
    exact ⟨fun h g hg => h g (hperm.symm.subset hg), fun h g hg => h g (hperm.subset hg)⟩
  refine ⟨hiff, fun hok => ?_⟩
  rw [flushFunc_ok_calls env batchData order hok, flushFunc_ok_calls env batchData order' (hiff.1 hok)]
  exact hperm.map _

/-- The two orders in which Go may visit `users` and `orders` make their calls in
opposite orders, and both flushes succeed. -/
theorem flushFunc_order_independent_interleaved :
    (∀ n, quietEnv.ctxErr n = none) ∧
      (∀ calls calls' schema data,
        quietEnv.executeBatch calls schema data = quietEnv.executeBatch calls' schema data) ∧
      (((flushFunc quietEnv interleavedBatch ⟨_, List.Perm.refl _⟩).result = .ok ↔
          (flushFunc quietEnv interleavedBatch ⟨_, List.reverse_perm _⟩).result = .ok) ∧
        ((flushFunc quietEnv interleavedBatch ⟨_, List.Perm.refl _⟩).result = .ok →
          (flushFunc quietEnv interleavedBatch ⟨_, List.Perm.refl _⟩).calls.Perm
            (flushFunc quietEnv interleavedBatch ⟨_, List.reverse_perm _⟩).calls)) ∧
      (flushFunc quietEnv interleavedBatch ⟨_, List.Perm.refl _⟩).calls.map ExecCall.schema =
        (flushFunc quietEnv interleavedBatch ⟨_, List.reverse_perm _⟩).calls.reverse.map
          ExecCall.schema ∧
      (flushFunc quietEnv interleavedBatch ⟨_, List.Perm.refl _⟩).result = .ok :=
  have hlive : ∀ n, quietEnv.ctxErr n = none := fun _ => rfl
  have hindep : ∀ calls calls' schema data,
      quietEnv.executeBatch calls schema data = quietEnv.executeBatch calls' schema data :=
    fun _ _ _ _ => rfl
  ⟨hlive, hindep, flushFunc_order_independent quietEnv hlive hindep interleavedBatch _ _,
    by decide, by decide⟩

end BatchFlow
