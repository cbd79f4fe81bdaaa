import BatchFlow.Delivery
import BatchFlow.FlushLoop

/-!
# What the executor receives over a run

Each batch the flush loop hands over goes through the flush function, with the context,
executor and map iteration order of that flush. Putting the engine's invariants
together with the flush function's: as long as every flush succeeds, the executor has
received exactly the rows of the requests handed to the flush function, and those are
the requests of the Submit calls that returned nil, each once, apart from those the
pipeline still holds in its channel or its batch. Once the loop has stopped with an
empty channel, that is every accepted request.
-/

namespace BatchFlow

/-- The rows a run handed to the executor. -/
def FlushRun.rows (run : FlushRun) : List Row :=
  run.calls.flatMap ExecCall.data

end BatchFlow
