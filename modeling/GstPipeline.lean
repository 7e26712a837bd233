import GstPipeline.Lib.Run
import GstPipeline.Lib.Trace
import GstPipeline.Lib.Threads
import GstPipeline.Lib.Int32
import GstPipeline.Lib.Vector
import GstPipeline.Lib.Decimal
import GstPipeline.Lib.Numeral
import GstPipeline.Lib.Truncate
import GstPipeline.Lib.Oscillator
import GstPipeline.Lib.Outline
import GstPipeline.Binder.Server
import GstPipeline.Binder.Threads
import GstPipeline.Binder.Alone
import GstPipeline.Binder.Locking
import GstPipeline.Binder.Activation
import GstPipeline.Binder.Scan
import GstPipeline.Binder.PortGrant
import GstPipeline.Binder.Record
import GstPipeline.Binder.Failure
import GstPipeline.Binder.Clock
import GstPipeline.Binder.InfoPointer
import GstPipeline.Binder.Progress
import GstPipeline.Binder.Atomic
import GstPipeline.Binder.Ledger
import GstPipeline.Binder.PortRange
import GstPipeline.Binder.Overlap
import GstPipeline.Rtp.Setup
import GstPipeline.Rtp.Endpoints
import GstPipeline.Rtp.Ports
import GstPipeline.Client.BindProtocol
import GstPipeline.Session.RefCount
import GstPipeline.Receive.Handlers
import GstPipeline.Receive.RtpBin
import GstPipeline.Receive.PtMap
import GstPipeline.Receive.Pads
import GstPipeline.Receive.Teardown
import GstPipeline.Bus.Signals
import GstPipeline.Tutorials.Feed
import GstPipeline.Tutorials.Samples
import GstPipeline.Tutorials.Buffering
import GstPipeline.Tutorials.Graph
import GstPipeline.Tutorials.Select
import GstPipeline.Tutorials.Rate
import GstPipeline.Tutorials.PadAdded
import GstPipeline.Tutorials.Seeking
import GstPipeline.Tutorials.StreamList
import GstPipeline.Tutorials.Slider
import GstPipeline.Tutorials.Discoverer
import GstPipeline.Tutorials.FeedThreads
