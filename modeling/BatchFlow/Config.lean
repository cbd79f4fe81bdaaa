import BatchFlow.Processor

/-!
# The processors a flow is built with

`NewSQLBatchFlowWithDriver` and `NewRedisBatchFlowWithDriver` build their processor with
`NewSQLBatchProcessor` or `NewRedisBatchProcessor`, which leave the timeout at the zero
duration, and call `WithTimeout(config.Timeout)` only when `config.Timeout > 0`. The
processor then works under a child context with its own deadline exactly when the
configuration asks for one. Without it neither processor returns the
`execute batch timeout` error, whatever the caller's context, the events and the backend
do: that error is the cause of the child's own deadline and of nothing else.

The processor's connection and driver are the arguments of the functions that read
them: the `Env` of `ExecuteOperations` and the driver of `GenerateOperations`. The retry,
metrics and concurrency options of `PipelineConfig` go to `ThrottledBatchExecutor`, which
is not among the sources.
-/

namespace BatchFlow

/-- The field of a `*SQLBatchProcessor` or a `*RedisBatchProcessor` that the flow
constructors set: the timeout (`time.Duration`, nanoseconds). -/
structure Processor where
  timeout : Int

/-- `WithTimeout`, alike for both processors. -/
def Processor.withTimeout (p : Processor) (timeout : Int) : Processor :=
  { p with timeout := timeout }

/-- `NewSQLBatchProcessor(db, driver)`: the timeout is left at the zero duration. -/
def newSQLBatchProcessor : Processor := ⟨0⟩

/-- `NewRedisBatchProcessor(client, driver)`: the timeout is left at the zero duration. -/
def newRedisBatchProcessor : Processor := ⟨0⟩

/-- `if config.Timeout > 0 { processor.WithTimeout(config.Timeout) }`, the step both flow
constructors take after building their processor. -/
def Processor.configure (p : Processor) (timeout : Int) : Processor :=
  if 0 < timeout then p.withTimeout timeout else p

/-- The processor of `NewSQLBatchFlowWithDriver`, for `config.Timeout = timeout`. -/
def sqlFlowProcessor (timeout : Int) : Processor :=
  newSQLBatchProcessor.configure timeout

/-- The processor of `NewRedisBatchFlowWithDriver`, for `config.Timeout = timeout`. -/
def redisFlowProcessor (timeout : Int) : Processor :=
  newRedisBatchProcessor.configure timeout

/-- A processor built with zero timeout has a positive one exactly when it was configured
with one. -/
theorem Processor.configure_timeout_pos {p : Processor} (hp : p.timeout = 0) (timeout : Int) :
    0 < (p.configure timeout).timeout ↔ 0 < timeout := by
  unfold configure
  split <;> simp_all [withTimeout]

/-- A call either ends with an error other than the timeout cause, or returns the cause of
the context it ended on. -/
def CallEnd.SentinelFromCause (r : CallEnd) : Prop :=
  r.err ≠ some .executeBatchTimeout ∨ ∃ d, r.ctx.doneBy = some d ∧ r.err = some d.cause

/-- The timeout cause only comes from a child context's own deadline. -/
theorem CallEnd.SentinelFromCause.timed {r : CallEnd} (h : r.SentinelFromCause)
    (herr : r.err = some .executeBatchTimeout) : r.ctx.timed = true := by
  rcases h with h | ⟨d, hd, hcause⟩
  · exact absurd herr h
  · have hown : d = .ownDeadline := (CtxEvent.cause_eq_executeBatchTimeout d).1
      (Option.some_injective _ (hcause.symm.trans herr))
    exact r.ctx.own_timed (hown ▸ hd)

/-- A call of a configured processor that returned the timeout cause ran under a child
context, which the configuration asked for. -/
theorem Processor.timeout_pos_of_sentinel {p : Processor} (hp : p.timeout = 0) {timeout : Int}
    {r : CallEnd} (ht : r.ctx.timed = decide (0 < (p.configure timeout).timeout))
    (h : r.SentinelFromCause)
    (herr : r.err = some .executeBatchTimeout) : 0 < timeout :=
  (configure_timeout_pos hp timeout).1 (by simpa [ht] using h.timed herr)

namespace SQLBatchProcessor

theorem execStatement_timed (ctx : Ctx) (env : Env) (sql : String) (args : Operations) :
    (execStatement ctx env sql args).ctx.timed = ctx.timed := by
  simp [execStatement]

/-- `ExecuteOperations` works under a child context exactly when its timeout is positive,
and the timeout cause it may return is the cause of the context it ended on. -/
theorem executeOperations_sentinelFromCause (timeout : Int) (env : Env) (operations : Operations) :
    (executeOperations timeout env operations).ctx.timed = decide (0 < timeout) ∧
      (executeOperations timeout env operations).SentinelFromCause := by
  unfold executeOperations
  split
  · exact ⟨rfl, .inl (by simp)⟩
  · rename_i sql args
    refine ⟨by simp [execStatement_timed], ?_⟩
    rcases execStatement_cases (r := execStatement (Ctx.start (0 < timeout)) env sql args) rfl with
      ⟨_, herr | ⟨n, herr⟩⟩ | ⟨_, d, hd, herr⟩
    · exact .inl (by simp [herr])
    · exact .inl (by simp [herr])
    · exact .inr ⟨d, hd, herr⟩
  · exact ⟨rfl, .inl (by simp)⟩

end SQLBatchProcessor

namespace RedisBatchProcessor

theorem executeOperations_sentinelFromCause (timeout : Int) (env : Env) (operations : Operations) :
    (executeOperations timeout env operations).ctx.timed = decide (0 < timeout) ∧
      (executeOperations timeout env operations).SentinelFromCause := by
  obtain ⟨ht, h⟩ := executeOperations_cases timeout env operations
  refine ⟨ht, ?_⟩
  rcases h with ⟨d, -, herr⟩ | herr | ⟨n, herr⟩ | hcause
  · exact .inl (by simpa [herr] using d.err_ne_executeBatchTimeout)
  · exact .inl (by simp [herr])
  · exact .inl (by simp [herr])
  · exact .inr hcause

end RedisBatchProcessor

/-- A flow built with no positive `Timeout` never gets the `execute batch timeout` error
from its processor, SQL or Redis, whatever the operations, the events on the caller's context and
the backend's answers. -/
theorem flow_sentinel_needs_timeout (timeout : Int) (sqlEnv : SQLBatchProcessor.Env)
    (redisEnv : RedisBatchProcessor.Env) (operations : Operations) :
    ((SQLBatchProcessor.executeOperations (sqlFlowProcessor timeout).timeout sqlEnv
        operations).err = some .executeBatchTimeout → 0 < timeout) ∧
      ((RedisBatchProcessor.executeOperations (redisFlowProcessor timeout).timeout
        redisEnv operations).err = some .executeBatchTimeout → 0 < timeout) := by
  have hsql := SQLBatchProcessor.executeOperations_sentinelFromCause
    (sqlFlowProcessor timeout).timeout sqlEnv operations
  have hredis := RedisBatchProcessor.executeOperations_sentinelFromCause
    (redisFlowProcessor timeout).timeout redisEnv operations
  exact ⟨Processor.timeout_pos_of_sentinel rfl hsql.1 hsql.2,
    Processor.timeout_pos_of_sentinel rfl hredis.1 hredis.2⟩

end BatchFlow
