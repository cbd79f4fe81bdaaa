import BatchFlow.Context

/-!
# The SQL and Redis batch processors

`GenerateOperations` checks the schema's dynamic type and hands the rows to the
driver; `ExecuteOperations` runs the operations under the context of `Context`. The
drivers, `*sql.DB` and the go-redis client are not among the sources: a driver is a
function of the schema and the rows, and a backend call is a `Backend`. For
`pipeline.Exec` the model follows go-redis's documented contract: an empty pipeline
returns no commands and no error; otherwise every queued command gets its own result,
and `Exec` returns the commands together with the error of the first one that failed.

Redis's loop reads `ctx.Err()` twice when it returns; a done context never changes, so
one read stands for both.
-/

namespace BatchFlow

/-- An element of `Operations` (`[]any`), by the dynamic types the processors test:
a `RedisCmd`, or any other value. -/
inductive Operation where
  | value (v : Value)
  | redisCmd (cmd : List Value)
  deriving DecidableEq, Repr

abbrev Operations := List Operation

/-- `operation.(RedisCmd)`. -/
def Operation.asRedisCmd : Operation → Option (List Value)
  | redisCmd cmd => some cmd
  | value _ => none

/-- `SQLDriver.GenerateInsertSQL`: the statement and its arguments. -/
abbrev SQLDriver := Schema → List Row → Except GoError (String × List Value)

/-- `RedisDriver.GenerateCmds`. -/
abbrev RedisDriver := Schema → List Row → Except GoError (List (List Value))

namespace SQLBatchProcessor

def generateOperations (driver : SQLDriver) (schema : Option Schema) (data : List Row) :
    Except GoError Operations :=
  match schema with
  | some s@⟨_, _, _, .sqlSchema _⟩ => do
    let (sql, args) ← driver s data
    pure (.value (.string sql) :: args.map .value)
  | _ => .error .schemaNotSQLSchema

/-- `db.ExecContext(ctx, sql, args...)` answers with nil or an error of its own. -/
abbrev Env := CallEnv (String × Operations) (Option Nat)

/-- `_, err := bp.db.ExecContext(ctx, sql, args...)`, then the check of `err`. -/
def execStatement (ctx : Ctx) (env : Env) (sql : String) (args : Operations) : CallEnd :=
  let (ctx, schedule) := ctx.advance env.schedule
  let (err, exit) := match env.backend.answer (sql, args) ctx with
    | some answer => (answer.map GoError.other, Exit.code)
    | none => (ctx.err, Exit.backendGaveUp)
  let ctx := (ctx.advance schedule).1
  ⟨attributeTimeout ctx err, exit, ctx⟩

/-- `ExecuteOperations` with `bp.timeout = timeout`. -/
def executeOperations (timeout : Int) (env : Env) (operations : Operations) : CallEnd :=
  let ctx := Ctx.start (0 < timeout)
  match operations with
  | [] => ⟨some .emptyOperations, .code, ctx⟩
  | .value (.string sql) :: args => execStatement ctx env sql args
  | _ :: _ => ⟨some .invalidOperationType, .code, ctx⟩

end SQLBatchProcessor

namespace RedisBatchProcessor

def generateOperations (driver : RedisDriver) (schema : Option Schema) (data : List Row) :
    Except GoError Operations :=
  match schema with
  | some s@⟨_, _, _, .schema⟩ => (driver s data).map (·.map .redisCmd)
  | _ => .error .schemaNotSchema

/-- The round trip of `pipeline.Exec` answers with each queued command's result, by
position: nil or an error of its own. -/
abbrev Env := CallEnv (List (List Value)) (Nat → Option Nat)

/-- How the enqueue loop ends: `return ctx.Err()`, or past the last operation with the
commands queued on the pipeline. -/
inductive LoopEnd where
  | ctxErr (err : GoError) (ctx : Ctx)
  | done (ctx : Ctx) (schedule : Ctx.Schedule) (queued : List (List Value))

/-- `for _, operation := range operations`: check the context, then queue a
`RedisCmd`. -/
def enqueue : Ctx → Ctx.Schedule → List (List Value) → Operations → LoopEnd
  | ctx, schedule, queued, [] => .done ctx schedule queued
  | ctx, schedule, queued, operation :: operations =>
    let (ctx, schedule) := ctx.advance schedule
    match ctx.err with
    | some err => .ctxErr err ctx
    | none =>
      enqueue ctx schedule
        (match operation.asRedisCmd with
          | some cmd => queued ++ [cmd]
          | none => queued)
        operations

/-- What `pipeline.Exec(ctx)` returns, with the read at which it returned. -/
structure ExecResult where
  cmdErrs : List (Option GoError)
  err : Option GoError
  exit : Exit
  ctx : Ctx
  schedule : Ctx.Schedule

def pipelineExec (backend : Backend (List (List Value)) (Nat → Option Nat)) (ctx : Ctx)
    (schedule : Ctx.Schedule) (queued : List (List Value)) : ExecResult :=
  if queued.isEmpty then ⟨[], none, .code, ctx, schedule⟩
  else
    let (ctx, schedule) := ctx.advance schedule
    match backend.answer queued ctx with
    | some results =>
      let cmdErrs := (List.range queued.length).map fun i => (results i).map GoError.other
      ⟨cmdErrs, cmdErrs.findSome? id, .code, ctx, schedule⟩
    | none => ⟨queued.map fun _ => ctx.err, ctx.err, .backendGaveUp, ctx, schedule⟩

/-- `for _, cmd := range cmds { if cmd.Err() != nil { err = errors.Join(err, cmd.Err()) } }`. -/
def joinCmdErrs : Option GoError → List (Option GoError) → Option GoError
  | err, [] => err
  | err, none :: cmdErrs => joinCmdErrs err cmdErrs
  | err, some e :: cmdErrs => joinCmdErrs (some (GoError.join err e)) cmdErrs

/-- `ExecuteOperations` with `rp.timeout = timeout`. -/
def executeOperations (timeout : Int) (env : Env) (operations : Operations) : CallEnd :=
  match enqueue (Ctx.start (0 < timeout)) env.schedule [] operations with
  | .ctxErr err ctx => ⟨some err, .ctxCheck, ctx⟩
  | .done ctx schedule queued =>
    let r := pipelineExec env.backend ctx schedule queued
    match r.err with
    | some err =>
      let ctx := (r.ctx.advance r.schedule).1
      ⟨attributeTimeout ctx (some err), r.exit, ctx⟩
    | none => ⟨joinCmdErrs none r.cmdErrs, r.exit, r.ctx⟩

end RedisBatchProcessor

end BatchFlow

namespace BatchFlow.SQLBatchProcessor

/-- The statement reaches the database: the call returns nil or the database's own
error, or, when the database gave up on a done context, that context's cause. -/
theorem execStatement_cases {ctx : Ctx} {env : Env} {sql : String} {args : Operations}
    {r : CallEnd} (hr : execStatement ctx env sql args = r) :
    (r.exit = .code ∧ (r.err = none ∨ ∃ n, r.err = some (.other n))) ∨
      (r.exit = .backendGaveUp ∧ ∃ d, r.ctx.doneBy = some d ∧ r.err = some d.cause) := by
  subst hr
  unfold execStatement
  dsimp only
  generalize ctx.advance env.schedule = p
  cases h : env.backend.answer (sql, args) p.1 with
  | some answer => cases answer <;> simp
  | none =>
    obtain ⟨d, hd⟩ := Option.ne_none_iff_exists'.1 (env.backend.gives_up_when_done _ _ h)
    have hd' := Ctx.advance_doneBy_of_done hd p.2
    refine .inr ⟨rfl, d, hd', ?_⟩
    simp only [Ctx.err, hd, Option.map_some']
    exact attributeTimeout_err hd'

theorem executeOperations_attributesOwnTimeout (timeout : Int) (env : Env)
    (operations : Operations) : (executeOperations timeout env operations).AttributesOwnTimeout := by
  unfold executeOperations
  split
  · exact CallEnd.attributesOwnTimeout_of_code rfl (by simp)
  · rename_i sql args
    generalize hr : execStatement (Ctx.start (0 < timeout)) env sql args = r
    rcases execStatement_cases hr with ⟨hexit, herr | ⟨n, herr⟩⟩ | ⟨hexit, d, hd, herr⟩
    · exact CallEnd.attributesOwnTimeout_of_code hexit (by simp [herr])
    · exact CallEnd.attributesOwnTimeout_of_code hexit (by simp [herr])
    · exact CallEnd.attributesOwnTimeout_of_cause (by simp [hexit]) hd herr
  · exact CallEnd.attributesOwnTimeout_of_code rfl (by simp)

/-- Operations from `GenerateOperations` pass `ExecuteOperations`' own checks: the
statement reaches the database, and the call returns nil, the database's own error, or
the cause of a context the database gave up on. -/
theorem executeOperations_generated {driver : SQLDriver} {schema : Option Schema}
    {data : List Row} {operations : Operations}
    (hgen : generateOperations driver schema data = .ok operations) (timeout : Int) (env : Env) :
    ((executeOperations timeout env operations).exit = .code ∧
        ((executeOperations timeout env operations).err = none ∨
          ∃ n, (executeOperations timeout env operations).err = some (.other n))) ∨
      ((executeOperations timeout env operations).exit = .backendGaveUp ∧
        ∃ d, (executeOperations timeout env operations).ctx.doneBy = some d ∧
          (executeOperations timeout env operations).err = some d.cause) := by
  obtain ⟨sql, args, rfl⟩ : ∃ sql args, operations = .value (.string sql) :: args := by
    unfold generateOperations at hgen
    split at hgen
    · generalize driver _ data = res at hgen
      rcases res with _ | ⟨sql, args⟩
      · cases hgen
      · cases hgen; exact ⟨_, _, rfl⟩
    · cases hgen
  exact execStatement_cases rfl

/-- A driver that writes one statement with no arguments, and a database that accepts
it on a live context. -/
def insertDriver : SQLDriver := fun _ _ => .ok ("INSERT", [])

def quietDatabase : Env := ⟨[], .completes fun _ => none⟩

theorem executeOperations_generated_users :
    generateOperations insertDriver (some usersSchema) [] = .ok [.value (.string "INSERT")] ∧
      (((executeOperations 0 quietDatabase [.value (.string "INSERT")]).exit = .code ∧
          ((executeOperations 0 quietDatabase [.value (.string "INSERT")]).err = none ∨
            ∃ n, (executeOperations 0 quietDatabase [.value (.string "INSERT")]).err =
              some (.other n))) ∨
        ((executeOperations 0 quietDatabase [.value (.string "INSERT")]).exit = .backendGaveUp ∧
          ∃ d, (executeOperations 0 quietDatabase [.value (.string "INSERT")]).ctx.doneBy = some d ∧
            (executeOperations 0 quietDatabase [.value (.string "INSERT")]).err = some d.cause)) :=
  have hgen : generateOperations insertDriver (some usersSchema) [] =
      .ok [.value (.string "INSERT")] := rfl
  ⟨hgen, executeOperations_generated hgen 0 quietDatabase⟩

end BatchFlow.SQLBatchProcessor

namespace BatchFlow.RedisBatchProcessor

theorem enqueue_cases (ctx : Ctx) (schedule : Ctx.Schedule) (queued : List (List Value))
    (operations : Operations) :
    (∃ d c, c.doneBy = some d ∧ enqueue ctx schedule queued operations = .ctxErr d.err c) ∨
      ∃ c s, enqueue ctx schedule queued operations =
        .done c s (queued ++ operations.filterMap Operation.asRedisCmd) := by
  induction operations generalizing ctx schedule queued with
  | nil => exact .inr ⟨ctx, schedule, by simp [enqueue]⟩
  | cons operation operations ih =>
    simp only [enqueue]
    generalize ctx.advance schedule = p
    cases h : p.1.doneBy with
    | some d => exact .inl ⟨d, p.1, h, by simp [Ctx.err, h]⟩
    | none =>
      simp only [Ctx.err, h, Option.map_none']
      cases operation with
      | value v => simpa [Operation.asRedisCmd] using ih p.1 p.2 queued
      | redisCmd cmd => simpa [Operation.asRedisCmd] using ih p.1 p.2 (queued ++ [cmd])

theorem findSome?_map_other (l : List Nat) (results : Nat → Option Nat) :
    (l.map fun i => (results i).map GoError.other).findSome? id =
      (l.findSome? results).map GoError.other := by
  induction l with
  | nil => rfl
  | cons i l ih => cases h : results i <;> simp [List.findSome?, h, ih]

/-- The join loop leaves `err` as it is when no command failed. -/
theorem joinCmdErrs_of_all_none {cmdErrs : List (Option GoError)} (h : ∀ e ∈ cmdErrs, e = none)
    (err : Option GoError) : joinCmdErrs err cmdErrs = err := by
  induction cmdErrs with
  | nil => rfl
  | cons e cmdErrs ih =>
    obtain rfl := h e (List.mem_cons_self _ _)
    exact ih fun e he => h e (List.mem_cons_of_mem _ he)

theorem joinCmdErrs_eq_none (err : Option GoError) (cmdErrs : List (Option GoError)) :
    joinCmdErrs err cmdErrs = none ↔ err = none ∧ ∀ e ∈ cmdErrs, e = none := by
  induction cmdErrs generalizing err with
  | nil => simp [joinCmdErrs]
  | cons e cmdErrs ih => cases e <;> simp [joinCmdErrs, ih]

theorem joinCmdErrs_is (err : Option GoError) (cmdErrs : List (Option GoError))
    (target : GoError) :
    ((joinCmdErrs err cmdErrs).map (·.is target)).getD false =
      (((err.map (·.is target)).getD false) ||
        cmdErrs.any fun e => (e.map (·.is target)).getD false) := by
  induction cmdErrs generalizing err with
  | nil => simp [joinCmdErrs]
  | cons e cmdErrs ih => cases e <;> simp [joinCmdErrs, ih, Bool.or_assoc]

/-- The join loop, over any commands' results, returns nil exactly when no command failed,
and otherwise an error that `errors.Is` matches to exactly the targets some failed
command's error matches. -/
theorem joinCmdErrs_reports_every_failure (cmdErrs : List (Option GoError)) (target : GoError) :
    (joinCmdErrs none cmdErrs = none ↔ ∀ e ∈ cmdErrs, e = none) ∧
      ((joinCmdErrs none cmdErrs).map (·.is target)).getD false =
        cmdErrs.any fun e => (e.map (·.is target)).getD false := by
  simp [joinCmdErrs_eq_none, joinCmdErrs_is]

/-- `Exec` either returns a command's own error, or no error with every command
successful, or gives up with `ctx.Err()` of a done context. -/
theorem pipelineExec_cases {backend : Backend (List (List Value)) (Nat → Option Nat)}
    {ctx : Ctx} {schedule : Ctx.Schedule} {queued : List (List Value)} {r : ExecResult}
    (hr : pipelineExec backend ctx schedule queued = r) :
    (r.exit = .code ∧ ((∃ n, r.err = some (.other n)) ∨ (r.err = none ∧ ∀ e ∈ r.cmdErrs, e = none))) ∨
      (r.exit = .backendGaveUp ∧ ∃ d, r.ctx.doneBy = some d ∧ r.err = some d.err) := by
  subst hr
  unfold pipelineExec
  split
  · exact .inl ⟨rfl, .inr ⟨rfl, by simp⟩⟩
  · dsimp only
    generalize ctx.advance schedule = p
    cases h : backend.answer queued p.1 with
    | some results =>
      refine .inl ⟨rfl, ?_⟩
      dsimp only
      rw [findSome?_map_other]
      cases hf : (List.range queued.length).findSome? results with
      | some n => exact .inl ⟨n, rfl⟩
      | none =>
        refine .inr ⟨rfl, ?_⟩
        simpa [List.findSome?_eq_none_iff] using hf
    | none =>
      obtain ⟨d, hd⟩ := Option.ne_none_iff_exists'.1 (backend.gives_up_when_done _ _ h)
      exact .inr ⟨rfl, d, hd, by simp [Ctx.err, hd]⟩

/-- The context the enqueue loop ends on. -/
def LoopEnd.ctx : LoopEnd → Ctx
  | ctxErr _ ctx => ctx
  | done ctx _ _ => ctx

theorem enqueue_timed (ctx : Ctx) (schedule : Ctx.Schedule) (queued : List (List Value))
    (operations : Operations) : (enqueue ctx schedule queued operations).ctx.timed = ctx.timed := by
  induction operations generalizing ctx schedule queued with
  | nil => rfl
  | cons operation operations ih =>
    simp only [enqueue]
    split
    · simp [LoopEnd.ctx]
    · rw [ih]; simp

theorem pipelineExec_timed (backend : Backend (List (List Value)) (Nat → Option Nat)) (ctx : Ctx)
    (schedule : Ctx.Schedule) (queued : List (List Value)) :
    (pipelineExec backend ctx schedule queued).ctx.timed = ctx.timed := by
  unfold pipelineExec
  split
  · rfl
  · dsimp only
    split <;> simp

/-- How a call ends, under a context that is the processor's child exactly when it has a
timeout: at the loop's check with `ctx.Err()`; past `Exec` with no error or a command's
own error; or with the cause of the context `Exec` gave up on. -/
theorem executeOperations_cases (timeout : Int) (env : Env) (operations : Operations) :
    (executeOperations timeout env operations).ctx.timed = decide (0 < timeout) ∧
      ((∃ d, (executeOperations timeout env operations).ctx.doneBy = some d ∧
          (executeOperations timeout env operations).err = some d.err) ∨
        (executeOperations timeout env operations).err = none ∨
        (∃ n, (executeOperations timeout env operations).err = some (.other n)) ∨
        ∃ d, (executeOperations timeout env operations).ctx.doneBy = some d ∧
          (executeOperations timeout env operations).err = some d.cause) := by
  have ht := enqueue_timed (Ctx.start (0 < timeout)) env.schedule [] operations
  unfold executeOperations
  rcases enqueue_cases (Ctx.start (0 < timeout)) env.schedule [] operations with
    ⟨d, c, hd, he⟩ | ⟨c, s, he⟩ <;> rw [he] at ht ⊢
  · exact ⟨ht, .inl ⟨d, hd, rfl⟩⟩
  · dsimp only
    generalize hr : pipelineExec env.backend c s _ = r
    have hrt : r.ctx.timed = decide (0 < timeout) := by
      rw [← hr, pipelineExec_timed]; exact ht
    rcases pipelineExec_cases hr with ⟨-, ⟨n, herr⟩ | ⟨herr, hall⟩⟩ | ⟨-, d, hd, herr⟩ <;>
      simp only [herr]
    · exact ⟨by simpa using hrt, .inr (.inr (.inl ⟨n, by simp⟩))⟩
    · exact ⟨hrt, .inr (.inl (joinCmdErrs_of_all_none hall none))⟩
    · have hd' := Ctx.advance_doneBy_of_done hd r.schedule
      exact ⟨by simpa using hrt, .inr (.inr (.inr ⟨d, hd', attributeTimeout_err hd'⟩))⟩

theorem executeOperations_attribution (timeout : Int) (env : Env) (operations : Operations) :
    (executeOperations timeout env operations).AttributesOwnTimeout ∨
      ((executeOperations timeout env operations).exit = .ctxCheck ∧
        (executeOperations timeout env operations).err =
          (executeOperations timeout env operations).ctx.err) := by
  unfold executeOperations
  rcases enqueue_cases (Ctx.start (0 < timeout)) env.schedule [] operations with
    ⟨d, c, hd, he⟩ | ⟨c, s, he⟩ <;> rw [he]
  · exact .inr ⟨rfl, by simp [Ctx.err, hd]⟩
  · refine .inl ?_
    dsimp only
    generalize hr : pipelineExec env.backend c s _ = r
    rcases pipelineExec_cases hr with ⟨hexit, ⟨n, herr⟩ | ⟨herr, hall⟩⟩ | ⟨hexit, d, hd, herr⟩ <;>
      simp only [herr]
    · exact CallEnd.attributesOwnTimeout_of_code hexit (by simp)
    · exact CallEnd.attributesOwnTimeout_of_code hexit (by simp [joinCmdErrs_of_all_none hall])
    · have hd' := Ctx.advance_doneBy_of_done hd r.schedule
      exact CallEnd.attributesOwnTimeout_of_cause (by simp [hexit]) hd' (attributeTimeout_err hd')

/-- A call with a timeout whose own deadline expires before the loop's first check. -/
def ownDeadlineFirst : Env := ⟨[[.ownDeadline]], .completes fun _ _ => none⟩

/-- The loop's check returns `ctx.Err()`, `context.DeadlineExceeded`, for a call that ended
on the processor's own deadline. -/
theorem executeOperations_loop_exit_unattributed :
    (executeOperations 1 ownDeadlineFirst [.redisCmd [.string "PING"]]).OwnTimeout ∧
      (executeOperations 1 ownDeadlineFirst [.redisCmd [.string "PING"]]).err =
        some .deadlineExceeded := by
  decide

/-- With a live context the loop queues every command of the operations. -/
theorem enqueue_live {ctx : Ctx} (hctx : ctx.doneBy = none) (queued : List (List Value))
    (operations : Operations) :
    enqueue ctx [] queued operations =
      .done ctx [] (queued ++ operations.filterMap Operation.asRedisCmd) := by
  induction operations generalizing queued with
  | nil => simp [enqueue]
  | cons operation operations ih =>
    simp only [enqueue, Ctx.advance, Ctx.err, hctx, Option.map_none']
    cases operation with
    | value v => simpa [Operation.asRedisCmd] using ih queued
    | redisCmd cmd => simpa [Operation.asRedisCmd] using ih (queued ++ [cmd])

theorem filterMap_asRedisCmd (cmds : List (List Value)) :
    (cmds.map Operation.redisCmd).filterMap Operation.asRedisCmd = cmds := by
  induction cmds with
  | nil => rfl
  | cons cmd cmds ih => simp [Operation.asRedisCmd, ih]

/-- With a live context and every command answered, the call returns the error of the
first command that failed: `Exec` reports it and the join loop is never reached. -/
theorem executeOperations_live (timeout : Int) (cmds : List (List Value))
    (results : Nat → Option Nat) :
    (executeOperations timeout ⟨[], .completes fun _ => results⟩ (cmds.map .redisCmd)).err =
      ((List.range cmds.length).findSome? results).map .other := by
  unfold executeOperations
  rw [enqueue_live rfl, List.nil_append, filterMap_asRedisCmd]
  dsimp only
  unfold pipelineExec
  cases cmds with
  | nil => rfl
  | cons cmd cmds =>
    simp only [List.isEmpty_cons, Bool.false_eq_true, if_false, Ctx.advance, Backend.completes,
      findSome?_map_other]
    cases hf : (List.range (cmds.length + 1)).findSome? results with
    | some n => simp [hf]
    | none =>
      simp only [List.length_cons, hf, Option.map_none']
      refine joinCmdErrs_of_all_none ?_ none
      simpa [List.findSome?_eq_none_iff] using hf

theorem executeOperations_first_failure (timeout : Int) (cmds : List (List Value))
    (results : Nat → Option Nat) :
    (executeOperations timeout ⟨[], .completes fun _ => results⟩ (cmds.map .redisCmd)).err =
        ((List.range cmds.length).findSome? results).map .other ∧
      ((executeOperations timeout ⟨[], .completes fun _ => results⟩ (cmds.map .redisCmd)).err =
        none ↔ ∀ i < cmds.length, results i = none) := by
  rw [executeOperations_live]
  simp [List.findSome?_eq_none_iff]

/-- Two commands that both fail, with errors of their own. -/
def twoFailures : Env := ⟨[], .completes fun _ i => some (i + 1)⟩

theorem executeOperations_two_failures :
    (executeOperations 0 twoFailures
        [.redisCmd [.string "INCR", .string "a"], .redisCmd [.string "INCR", .string "b"]]).err =
      some (.other 1) ∧ (GoError.other 1).is (.other 2) = false := by
  decide

/-- Whatever the operations, the events and the backend, the call never returns a value
that `errors.Join` built: when a command fails, `Exec` already returns that command's
error, so the join loop only ever runs over commands that all succeeded. -/
theorem executeOperations_never_joins (timeout : Int) (env : Env) (operations : Operations) :
    (executeOperations timeout env operations).err.map GoError.isJoin ≠ some true := by
  rcases (executeOperations_cases timeout env operations).2 with
    ⟨d, -, herr⟩ | herr | ⟨n, herr⟩ | ⟨d, -, herr⟩ <;> rw [herr]
  · cases d <;> simp [CtxEvent.err, GoError.isJoin]
  · simp
  · simp [GoError.isJoin]
  · cases d <;> simp [CtxEvent.cause, GoError.isJoin]

/-- Operations that hold no Redis command are dropped without an error: whatever the
context, the events and the backend, the call returns nil, or the error of a context its
loop found done. -/
theorem executeOperations_drops_non_commands (timeout : Int) (env : Env)
    (operations : Operations) (hnone : ∀ o ∈ operations, o.asRedisCmd = none) :
    (executeOperations timeout env operations).err = none ∨
      ((executeOperations timeout env operations).exit = .ctxCheck ∧
        ∃ d : CtxEvent, (executeOperations timeout env operations).err = some d.err) := by
  have hq : operations.filterMap Operation.asRedisCmd = [] := List.filterMap_eq_nil_iff.2 hnone
  unfold executeOperations
  rcases enqueue_cases (Ctx.start (0 < timeout)) env.schedule [] operations with
    ⟨d, c, -, he⟩ | ⟨c, s, he⟩ <;> rw [he]
  · exact .inr ⟨rfl, d, rfl⟩
  · rw [List.nil_append, hq]
    exact .inl rfl

/-- A SQL statement handed to the Redis processor, with every command failing. -/
theorem executeOperations_drops_non_commands_statement :
    (∀ o ∈ [Operation.value (.string "INSERT")], o.asRedisCmd = none) ∧
      ((executeOperations 0 twoFailures [.value (.string "INSERT")]).err = none ∨
        ((executeOperations 0 twoFailures [.value (.string "INSERT")]).exit = .ctxCheck ∧
          ∃ d : CtxEvent, (executeOperations 0 twoFailures [.value (.string "INSERT")]).err = some d.err)) :=
  have hnone : ∀ o ∈ [Operation.value (.string "INSERT")], o.asRedisCmd = none := by
    simp [Operation.asRedisCmd]
  ⟨hnone, executeOperations_drops_non_commands 0 twoFailures _ hnone⟩

end BatchFlow.RedisBatchProcessor
