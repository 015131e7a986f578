import TenzroEdge.ModelSource.Cache
import TenzroEdge.ModelSource.Repeated
import TenzroEdge.WorkSettlement.Channels
import TenzroEdge.WorkSettlement.Retry
import TenzroEdge.Auth.Proof
import TenzroEdge.DpopRpc.Binding
import TenzroEdge.DpopRpc.Shared
import TenzroEdge.ReceiptSink.Anchored
import TenzroEdge.Storage.RoundTrip
import TenzroEdge.Discovery.Outages
import TenzroEdge.Attester.Evidence
import TenzroEdge.Broker.Timed
import TenzroEdge.Broker.Marketplace
import TenzroEdge.Broker.Replies
import TenzroEdge.Broker.Deadline
import TenzroEdge.Storage.Trust
import TenzroEdge.WorkSettlement.Amounts
import TenzroEdge.Discovery.Labels
import TenzroEdge.Discovery.Identity
import TenzroEdge.Config.FromEnv
import TenzroEdge.Broker.Concurrent
import TenzroEdge.Codec.JsonText
import TenzroEdge.Interaction.Copies
import TenzroEdge.Agents.Invoker
import TenzroEdge.Inference.Remote
import TenzroEdge.Config.Connect
import TenzroEdge.ReceiptSink.CrossCheck
import TenzroEdge.Interaction.Once
import TenzroEdge.Outage
import TenzroEdge.Storage.Lifetime
import TenzroEdge.Interaction.Stops
import TenzroEdge.FailSoft
import TenzroEdge.WorkSettlement.Audit
import TenzroEdge.Interaction.Monitor
import TenzroEdge.Discovery.Directory
import TenzroEdge.Interaction.Receiver
import TenzroEdge.DpopRpc.Repeats
import TenzroEdge.ReceiptSink.LoggedOnce
