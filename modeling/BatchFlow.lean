import BatchFlow.Request
import BatchFlow.Row
import BatchFlow.Flush
import BatchFlow.FlushLoop
import BatchFlow.Engine
import BatchFlow.Delivery
import BatchFlow.Shutdown
import BatchFlow.EndToEnd
import BatchFlow.Admission
import BatchFlow.Context
import BatchFlow.Processor
import BatchFlow.Config
