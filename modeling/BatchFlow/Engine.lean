import BatchFlow.Flush
import Mathlib.Logic.Relation

/-!
# The engine: Submit, the closed latch and the flush loop

`NewBatchFlow` starts two goroutines: the pipeline's flush loop (`AsyncPerform`) and
one that waits for the lifecycle context and then sets `closed`. Callers run `Submit`
concurrently, each with its own context. The model is one state machine whose actions
are the atomic steps of all of these, taken in any order: a Submit call checks its
context, then `closed`, then the request, then blocks in the `select` between sending
on the buffer and its context being done, where Go picks either ready case.

The flush loop belongs to `go-pipeline`, which is not among the sources. It is
modelled from the spec: a FIFO channel of capacity `BufferSize`; a batch cut at
`FlushSize` requests or when the flush interval fires on a non-empty batch; and, once
the lifecycle context is done, a drain of the channel into a last flush, after which
the loop stops. A flush hands the batch to the flush function (`flushed`); what the
flush function then does is `flushFunc`. The channel is never closed.
-/

namespace BatchFlow

/-- The fields of `PipelineConfig` the engine reads; the flush interval is the `tick`
action. -/
structure PipelineConfig where
  bufferSize : Nat
  flushSize : Nat

/-- A buffered request, with the id of the Submit call that sent it. -/
structure Entry where
  id : Nat
  request : ValidRequest
  deriving DecidableEq

/-- Where a Submit call is: before `ctx.Err()`, before `closed.Load()`, before the
request checks, blocked in the `select`, or returned. -/
inductive SubmitPc where
  | checkCtx
  | checkClosed
  | validate
  | send (request : ValidRequest)
  | returned (err : Option GoError)

/-- One Submit call: its context (`none` while live), its argument and where it is. -/
structure Submitter where
  ctxErr : Option GoError
  request : Option Request
  pc : SubmitPc

/-- The call returned nil: its request was accepted. -/
def Submitter.accepted (sub : Submitter) : Bool :=
  match sub.pc with
  | .returned none => true
  | _ => false

/-- The state of a `BatchFlow` and of the Submit calls made on it. -/
structure Engine where
  /-- The error of the context given to `NewBatchFlow` (`none` while it is live). -/
  lifecycleErr : Option GoError
  /-- `batchFlow.closed`. -/
  closed : Bool
  /-- Modelled from the spec: go-pipeline's data channel, oldest request first. -/
  buffer : List Entry
  /-- Modelled from the spec: the batch go-pipeline's flush loop is building. -/
  batch : List Entry
  /-- Modelled from the spec: go-pipeline's flush loop has not stopped. -/
  running : Bool
  /-- Modelled from the spec: the batches the flush loop handed to the flush function. -/
  flushed : List (List Entry)
  /-- The Submit calls so far; a call's id is its index. -/
  submitters : List Submitter

/-- Submit call `id` has returned nil. -/
def Engine.accepted (s : Engine) (id : Nat) : Bool :=
  (s.submitters[id]?.map Submitter.accepted).getD false

/-- The ids of the requests handed to the flush function so far. -/
def Engine.flushedIds (s : Engine) : List Nat :=
  s.flushed.flatten.map Entry.id

/-- Right after `NewBatchFlow`: both goroutines started, nothing submitted. -/
def Engine.init : Engine :=
  ⟨none, false, [], [], true, [], []⟩

inductive Action where
  /-- A new Submit call, with its context and request. -/
  | submit (ctxErr : Option GoError) (request : Option Request)
  | cancelSubmit (id : Nat) (err : GoError)
  | cancelLifecycle (err : GoError)
  /-- `<-ctx.Done(); batchFlow.closed.Store(true)`. -/
  | latch
  /-- Submit `id` takes its next step; in the `select`, the send case. -/
  | step (id : Nat)
  /-- Submit `id` takes the `<-ctx.Done()` case of its `select`. -/
  | abort (id : Nat)
  /-- Modelled from the spec: the flush loop moves the channel's oldest request into its
  batch, and flushes the batch once it holds `FlushSize` requests. -/
  | receive
  /-- Modelled from the spec: the flush interval fires and a non-empty batch is flushed. -/
  | tick
  /-- Modelled from the spec: the lifecycle context is done; the flush loop flushes its
  batch together with the channel's contents, and stops. -/
  | drain

def Engine.setPc (s : Engine) (id : Nat) (sub : Submitter) (pc : SubmitPc) : Engine :=
  { s with submitters := s.submitters.set id { sub with pc := pc } }

/-- One step of Submit `id`, at `sub.pc`. -/
def submitStep (cfg : PipelineConfig) (s : Engine) (id : Nat) (sub : Submitter) :
    Option Engine :=
  match sub.pc with
  | .checkCtx =>
    some (s.setPc id sub (match sub.ctxErr with
      | some e => .returned (some e)
      | none => .checkClosed))
  | .checkClosed =>
    some (s.setPc id sub (if s.closed then .returned (some .canceled) else .validate))
  | .validate =>
    some (s.setPc id sub (match validateRequest sub.request with
      | .error e => .returned (some e)
      | .ok v => .send v))
  | .send v =>
    if s.buffer.length < cfg.bufferSize then
      some { s.setPc id sub (.returned none) with buffer := s.buffer ++ [⟨id, v⟩] }
    else none
  | .returned _ => none

/-- The flush loop hands `batch` to the flush function. -/
def Engine.flush (s : Engine) (batch : List Entry) : Engine :=
  { s with batch := [], flushed := s.flushed ++ [batch] }

/-- One atomic step of the system. `submit`, `cancelSubmit`, `step` and `abort` are the
Submit calls and their contexts, `cancelLifecycle` and `latch` the lifecycle context and
the goroutine that sets `closed`. Modelled from the spec: `receive`, `tick` and `drain`
are go-pipeline's flush loop, which is not among the sources. -/
def step (cfg : PipelineConfig) (s : Engine) : Action → Option Engine
  | .submit ctxErr request =>
    some { s with submitters := s.submitters ++ [⟨ctxErr, request, .checkCtx⟩] }
  | .cancelSubmit id err =>
    match s.submitters[id]? with
    | some sub =>
      if sub.ctxErr = none then
        some { s with submitters := s.submitters.set id { sub with ctxErr := some err } }
      else none
    | none => none
  | .cancelLifecycle err =>
    if s.lifecycleErr = none then some { s with lifecycleErr := some err } else none
  | .latch =>
    if s.lifecycleErr ≠ none ∧ s.closed = false then some { s with closed := true } else none
  | .step id =>
    match s.submitters[id]? with
    | some sub => submitStep cfg s id sub
    | none => none
  | .abort id =>
    match s.submitters[id]? with
    | some sub =>
      match sub.pc, sub.ctxErr with
      | .send _, some e => some (s.setPc id sub (.returned (some e)))
      | _, _ => none
    | none => none
  -- modelled from the spec: go-pipeline's flush loop
  | .receive =>
    match s.running, s.buffer with
    | true, e :: rest =>
      if cfg.flushSize ≤ (s.batch ++ [e]).length then
        some ({ s with buffer := rest }.flush (s.batch ++ [e]))
      else some { s with buffer := rest, batch := s.batch ++ [e] }
    | _, _ => none
  | .tick =>
    if s.running && !s.batch.isEmpty then some (s.flush s.batch) else none
  | .drain =>
    if s.running ∧ s.lifecycleErr ≠ none then
      let rest := s.batch ++ s.buffer
      let last := if rest.isEmpty then s else s.flush rest
      some { last with buffer := [], batch := [], running := false }
    else none

def Next (cfg : PipelineConfig) (s s' : Engine) : Prop :=
  ∃ a, step cfg s a = some s'

def Reachable (cfg : PipelineConfig) (s : Engine) : Prop :=
  Relation.ReflTransGen (Next cfg) Engine.init s

/-- Replay a list of actions. -/
def run (cfg : PipelineConfig) : Engine → List Action → Option Engine
  | s, [] => some s
  | s, a :: as => (step cfg s a).bind (run cfg · as)

theorem run_steps (cfg : PipelineConfig) :
    ∀ {s s' : Engine} (as : List Action), run cfg s as = some s' →
      Relation.ReflTransGen (Next cfg) s s'
  | _, _, [], h => by cases h; exact .refl
  | s, _, a :: as, h => by
    simp only [run] at h
    cases ha : step cfg s a with
    | none => simp [ha] at h
    | some t => exact .head ⟨a, ha⟩ (run_steps cfg as (by simpa [ha] using h))

/-- The moves of a Submit call that do not send: what each of its checks decides, and
the `<-ctx.Done()` case of the `select`. -/
inductive Advance (s : Engine) (sub : Submitter) : SubmitPc → Prop
  | ctxDone {e} : sub.pc = .checkCtx → sub.ctxErr = some e → Advance s sub (.returned (some e))
  | ctxLive : sub.pc = .checkCtx → sub.ctxErr = none → Advance s sub .checkClosed
  | isClosed : sub.pc = .checkClosed → s.closed = true →
      Advance s sub (.returned (some .canceled))
  | notClosed : sub.pc = .checkClosed → s.closed = false → Advance s sub .validate
  | invalid {e} : sub.pc = .validate → validateRequest sub.request = .error e →
      Advance s sub (.returned (some e))
  | valid {v} : sub.pc = .validate → validateRequest sub.request = .ok v →
      Advance s sub (.send v)
  | abort {v e} : sub.pc = .send v → sub.ctxErr = some e → Advance s sub (.returned (some e))

/-- What one step can do, one case per kind of effect. -/
inductive Transition (cfg : PipelineConfig) (s : Engine) : Engine → Prop
  | submit (sub : Submitter) : sub.pc = .checkCtx →
      Transition cfg s { s with submitters := s.submitters ++ [sub] }
  | cancelSubmit {id sub err} : s.submitters[id]? = some sub → sub.ctxErr = none →
      Transition cfg s { s with submitters := s.submitters.set id { sub with ctxErr := some err } }
  | cancelLifecycle (err : GoError) : Transition cfg s { s with lifecycleErr := some err }
  | latch : s.lifecycleErr ≠ none → Transition cfg s { s with closed := true }
  | advance {id sub pc} : s.submitters[id]? = some sub → Advance s sub pc →
      Transition cfg s (s.setPc id sub pc)
  | enqueue {id sub v} : s.submitters[id]? = some sub → sub.pc = .send v →
      Transition cfg s { s.setPc id sub (.returned none) with buffer := s.buffer ++ [⟨id, v⟩] }
  | receive {e rest} : s.running = true → s.buffer = e :: rest →
      Transition cfg s (if cfg.flushSize ≤ (s.batch ++ [e]).length
        then { s with buffer := rest }.flush (s.batch ++ [e])
        else { s with buffer := rest, batch := s.batch ++ [e] })
  | tick : s.running = true → Transition cfg s (s.flush s.batch)
  | drain : s.running = true → s.lifecycleErr ≠ none →
      Transition cfg s { (if (s.batch ++ s.buffer).isEmpty then s else s.flush (s.batch ++ s.buffer))
        with buffer := [], batch := [], running := false }

theorem submitStep_transition {cfg : PipelineConfig} {s s' : Engine} {id : Nat} {sub : Submitter}
    (hsub : s.submitters[id]? = some sub) (h : submitStep cfg s id sub = some s') :
    Transition cfg s s' := by
  unfold submitStep at h
  cases hpc : sub.pc with
  | checkCtx =>
    simp only [hpc, Option.some.injEq] at h
    subst h
    cases he : sub.ctxErr with
    | some e => exact .advance hsub (.ctxDone hpc he)
    | none => exact .advance hsub (.ctxLive hpc he)
  | checkClosed =>
    simp only [hpc, Option.some.injEq] at h
    subst h
    cases hc : s.closed with
    | true => exact .advance hsub (.isClosed hpc hc)
    | false => exact .advance hsub (.notClosed hpc hc)
  | validate =>
    simp only [hpc, Option.some.injEq] at h
    subst h
    cases hv : validateRequest sub.request with
    | error e => exact .advance hsub (.invalid hpc hv)
    | ok v => exact .advance hsub (.valid hpc hv)
  | send v =>
    simp only [hpc] at h
    split at h
    · cases h; exact .enqueue hsub hpc
    · cases h
  | returned => simp [hpc] at h

/-- Every step is one of the transitions. -/
theorem step_transition {cfg : PipelineConfig} {s s' : Engine} {a : Action}
    (h : step cfg s a = some s') : Transition cfg s s' := by
  cases a with
  | submit ctxErr request => cases h; exact .submit _ rfl
  | cancelSubmit id err =>
    simp only [step] at h
    split at h
    · split at h
      · rename_i hsub hnone
        cases h; exact .cancelSubmit hsub hnone
      · cases h
    · cases h
  | cancelLifecycle err =>
    obtain ⟨-, h⟩ := Option.ite_none_right_eq_some.1 h
    cases h; exact .cancelLifecycle err
  | latch =>
    obtain ⟨hl, h⟩ := Option.ite_none_right_eq_some.1 h
    cases h; exact .latch hl.1
  | step id =>
    simp only [step] at h
    split at h
    · exact submitStep_transition ‹_› h
    · cases h
  | abort id =>
    simp only [step] at h
    split at h
    · split at h
      · cases h; exact .advance ‹_› (.abort ‹_› ‹_›)
      · cases h
    · cases h
  | receive =>
    simp only [step] at h
    split at h
    · rename_i hr hb
      have ht : Transition cfg s _ := .receive hr hb
      split at h <;> rename_i hc <;> cases h
      · rw [if_pos hc] at ht; simpa [hr] using ht
      · rw [if_neg hc] at ht; simpa [hr] using ht
    · cases h
  | tick =>
    obtain ⟨ht, h⟩ := Option.ite_none_right_eq_some.1 h
    cases h; exact .tick (by simp_all)
  | drain =>
    obtain ⟨hd, h⟩ := Option.ite_none_right_eq_some.1 h
    cases h; exact .drain hd.1 hd.2

theorem Transition.stopped {cfg : PipelineConfig} {s s' : Engine} (h : Transition cfg s s')
    (hrun : s.running = false) : s'.running = false ∧ s'.flushed = s.flushed := by
  cases h with
  | receive hr | tick hr | drain hr => simp [hr] at hrun
  | _ => exact ⟨hrun, rfl⟩

/-- Once the flush loop has stopped, nothing is flushed again. -/
theorem flushed_stable_of_stopped {cfg : PipelineConfig} {s s' : Engine}
    (hss : Relation.ReflTransGen (Next cfg) s s') (hrun : s.running = false) :
    s'.running = false ∧ s'.flushed = s.flushed := by
  induction hss with
  | refl => exact ⟨hrun, rfl⟩
  | tail _ hstep ih =>
    obtain ⟨a, ha⟩ := hstep
    obtain ⟨hr, hf⟩ := (step_transition ha).stopped ih.1
    exact ⟨hr, hf.trans ih.2⟩

/-- The state a list of actions leads to from `Engine.init`, when each is enabled. -/
def replay (cfg : PipelineConfig) (as : List Action) : Engine :=
  (run cfg Engine.init as).getD Engine.init

theorem replay_reachable (cfg : PipelineConfig) (as : List Action)
    (h : (run cfg Engine.init as).isSome = true) : Reachable cfg (replay cfg as) := by
  obtain ⟨s, hs⟩ := Option.isSome_iff_exists.1 h
  simpa [replay, hs] using run_steps cfg as hs

/-- `BufferSize = 1`, `FlushSize = 1`. -/
def unitConfig : PipelineConfig := ⟨1, 1⟩

end BatchFlow
