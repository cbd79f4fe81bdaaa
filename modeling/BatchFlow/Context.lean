import BatchFlow.Request

/-!
# Contexts as a processor call sees them

With a timeout, `ExecuteOperations` derives a child with `context.WithTimeoutCause`,
whose cause is the processor's own sentinel; without one it works under the caller's
context. Only what the code reads is kept: whether the context in use is done, and if
so which event made it done, which fixes `ctx.Err()` and `context.Cause(ctx)`. The
caller's context is a plain one, so its cause is its error. A child takes its parent's
error and cause when the parent is done first, and a done context never changes.

The code reads its context at a few points. A schedule lists the events that fire
before each read, so every order of the own deadline, the caller's cancellation or
deadline and the backend's answer is some schedule. A backend call answers at one read:
with an answer of its own, or by giving up on a done context, when it reports
`ctx.Err()`; for an expired context that is `context.DeadlineExceeded`. The backend's
own errors are errors the processor only passes on (`GoError.other`).
-/

namespace BatchFlow

inductive CtxEvent where
  /-- The timer of the processor's child context fires. -/
  | ownDeadline
  | callerCancel
  | callerDeadline
  deriving DecidableEq, Repr

namespace CtxEvent

/-- `ctx.Err()` of a context this event made done. -/
def err : CtxEvent → GoError
  | ownDeadline => .deadlineExceeded
  | callerCancel => .canceled
  | callerDeadline => .deadlineExceeded

/-- `context.Cause(ctx)`: the sentinel for the child's own timer, the caller's error
otherwise. -/
def cause : CtxEvent → GoError
  | ownDeadline => .executeBatchTimeout
  | callerCancel => .canceled
  | callerDeadline => .deadlineExceeded

@[simp] theorem cause_eq_executeBatchTimeout (e : CtxEvent) :
    e.cause = .executeBatchTimeout ↔ e = ownDeadline := by
  cases e <;> decide

/-- `ctx.Err()` is never the processor's sentinel. -/
theorem err_ne_executeBatchTimeout (e : CtxEvent) : e.err ≠ .executeBatchTimeout := by
  cases e <;> decide

end CtxEvent

/-- The context the processor works under: the child of `WithTimeoutCause` when `timed`,
the caller's otherwise; `doneBy` is the event that made it done. -/
structure Ctx where
  timed : Bool
  doneBy : Option CtxEvent
  own_timed : doneBy = some .ownDeadline → timed = true
  deriving DecidableEq

namespace Ctx

/-- A context nothing has cancelled yet. -/
def start (timed : Bool) : Ctx := ⟨timed, none, nofun⟩

def err (c : Ctx) : Option GoError := c.doneBy.map CtxEvent.err

def cause (c : Ctx) : Option GoError := c.doneBy.map CtxEvent.cause

/-- An event reaches a live context: the caller's end always, the own timer only on a
child. A done context stays as it is. -/
def fire (c : Ctx) (e : CtxEvent) : Ctx :=
  if h : c.doneBy = none ∧ (e = .ownDeadline → c.timed = true) then
    ⟨c.timed, some e, fun he => h.2 (Option.some_injective _ he)⟩
  else c

/-- The events that fire before each read of the context; past the end none do. -/
abbrev Schedule := List (List CtxEvent)

/-- The next read of the context: the events scheduled before it fire. -/
def advance (c : Ctx) : Schedule → Ctx × Schedule
  | [] => (c, [])
  | events :: rest => (events.foldl fire c, rest)

@[simp] theorem start_doneBy (timed : Bool) : (start timed).doneBy = none := rfl

@[simp] theorem start_timed (timed : Bool) : (start timed).timed = timed := rfl

theorem fire_doneBy_of_done {c : Ctx} {d : CtxEvent} (h : c.doneBy = some d) (e : CtxEvent) :
    (c.fire e).doneBy = some d := by
  simp [fire, h]

theorem foldl_fire_doneBy_of_done {c : Ctx} {d : CtxEvent} (h : c.doneBy = some d)
    (events : List CtxEvent) : (events.foldl fire c).doneBy = some d := by
  induction events generalizing c with
  | nil => exact h
  | cons e events ih => exact ih (fire_doneBy_of_done h e)

/-- A done context stays done by the same event at every later read. -/
theorem advance_doneBy_of_done {c : Ctx} {d : CtxEvent} (h : c.doneBy = some d)
    (schedule : Schedule) : (c.advance schedule).1.doneBy = some d := by
  cases schedule with
  | nil => exact h
  | cons events rest => exact foldl_fire_doneBy_of_done h events

/-- Events never turn the caller's context into a child, nor a child into the caller's. -/
@[simp] theorem fire_timed (c : Ctx) (e : CtxEvent) : (c.fire e).timed = c.timed := by
  unfold fire; split <;> rfl

@[simp] theorem foldl_fire_timed (c : Ctx) (events : List CtxEvent) :
    (events.foldl fire c).timed = c.timed := by
  induction events generalizing c with
  | nil => rfl
  | cons e events ih => simp [ih]

@[simp] theorem advance_timed (c : Ctx) (schedule : Schedule) :
    (c.advance schedule).1.timed = c.timed := by
  cases schedule <;> simp [advance]

theorem cause_eq_executeBatchTimeout (c : Ctx) :
    c.cause = some .executeBatchTimeout ↔ c.doneBy = some .ownDeadline := by
  cases h : c.doneBy <;> simp [cause, h]

end Ctx

/-- `if errors.Is(err, context.DeadlineExceeded) { if cause := context.Cause(ctx); cause
!= nil { return cause } }; return err`: the check both processors make on the error of
their backend call. -/
def attributeTimeout (c : Ctx) : Option GoError → Option GoError
  | some e => if e.is .deadlineExceeded then some (c.cause.getD e) else some e
  | none => none

/-- A backend that gave up on a context reports `ctx.Err()`; the check turns that into
the context's cause, whichever event ended it. -/
theorem attributeTimeout_err {c : Ctx} {d : CtxEvent} (h : c.doneBy = some d) :
    attributeTimeout c (some d.err) = some d.cause := by
  cases d <;> simp [attributeTimeout, Ctx.cause, h, CtxEvent.err, CtxEvent.cause, GoError.is]

@[simp] theorem attributeTimeout_none (c : Ctx) : attributeTimeout c none = none := rfl

/-- An error of the backend's own passes the check unchanged. -/
@[simp] theorem attributeTimeout_other (c : Ctx) (n : Nat) :
    attributeTimeout c (some (.other n)) = some (.other n) := by
  simp [attributeTimeout, GoError.is]

/-- A blocking call into a backend, given what the code sends (`Req`). At the read where
it returns, it completes with an answer of its own, or, only on a done context, gives
up (`none`). -/
structure Backend (Req Answer : Type) where
  answer : Req → Ctx → Option Answer
  gives_up_when_done : ∀ q c, answer q c = none → c.doneBy ≠ none

/-- A backend that completes with `a` whatever the context. -/
def Backend.completes {Req Answer : Type} (a : Req → Answer) : Backend Req Answer :=
  ⟨fun q _ => some (a q), fun _ _ h => nomatch h⟩

/-- Everything outside the processor during one call. -/
structure CallEnv (Req Answer : Type) where
  schedule : Ctx.Schedule
  backend : Backend Req Answer

/-- Which of the code's exits a call took: a return the code computes from its inputs
and the backend's own answer, the context check of Redis's enqueue loop, or the
backend call giving up on the context. Not a variable of the Go code: it says why the
call ended. -/
inductive Exit where
  | code
  | ctxCheck
  | backendGaveUp
  deriving DecidableEq, Repr

/-- How a processor call returned: its error, the exit it took and its context then. -/
structure CallEnd where
  err : Option GoError
  exit : Exit
  ctx : Ctx
  deriving DecidableEq

/-- The call ended because the processor's own deadline expired while the caller's
context was live: it left through a context exit, on a context its own timer ended. -/
def CallEnd.OwnTimeout (r : CallEnd) : Prop :=
  r.exit ≠ .code ∧ r.ctx.doneBy = some .ownDeadline

instance (r : CallEnd) : Decidable r.OwnTimeout :=
  inferInstanceAs (Decidable (_ ∧ _))

/-- The processor's timeout attribution: it returns its sentinel exactly when the call
ended on its own deadline. -/
def CallEnd.AttributesOwnTimeout (r : CallEnd) : Prop :=
  r.err = some .executeBatchTimeout ↔ r.OwnTimeout

instance (r : CallEnd) : Decidable r.AttributesOwnTimeout :=
  inferInstanceAs (Decidable (_ ↔ _))

theorem CallEnd.attributesOwnTimeout_of_code {r : CallEnd} (hexit : r.exit = .code)
    (herr : r.err ≠ some .executeBatchTimeout) : r.AttributesOwnTimeout :=
  iff_of_false herr fun h => h.1 hexit

/-- A context exit that returns the context's cause attributes. -/
theorem CallEnd.attributesOwnTimeout_of_cause {r : CallEnd} {d : CtxEvent}
    (hexit : r.exit ≠ .code) (hd : r.ctx.doneBy = some d) (herr : r.err = some d.cause) :
    r.AttributesOwnTimeout := by
  simp [AttributesOwnTimeout, OwnTimeout, hexit, hd, herr]

end BatchFlow
