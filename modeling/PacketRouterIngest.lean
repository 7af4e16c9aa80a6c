import PacketRouterIngest.Rust.Outcome
import PacketRouterIngest.Semantics.Runs
import PacketRouterIngest.Semantics.Pending
import PacketRouterIngest.Semantics.Lifecycles
import PacketRouterIngest.Semantics.Ledger
import PacketRouterIngest.Semantics.Sessions
import PacketRouterIngest.Text.Hex
import PacketRouterIngest.Text.JsonReader
import PacketRouterIngest.Text.JsonWriter
import PacketRouterIngest.Text.Utf8Lossy
import PacketRouterIngest.Serde.Derive
import PacketRouterIngest.Serde.Value
import PacketRouterIngest.Region
import PacketRouterIngest.Uplink.Gateway
import PacketRouterIngest.Uplink.Packet
import PacketRouterIngest.Uplink.Ingest
import PacketRouterIngest.HttpRoaming.UlToken
import PacketRouterIngest.HttpRoaming.Messages
import PacketRouterIngest.HttpRoaming.Deduplicator
import PacketRouterIngest.HttpRoaming.App
import PacketRouterIngest.HttpRoaming.Service
import PacketRouterIngest.HttpRoaming.Lifecycle
import PacketRouterIngest.HttpRoaming.Survival
import PacketRouterIngest.HttpRoaming.Generations
import PacketRouterIngest.HttpRoaming.Registration
import PacketRouterIngest.Gwmp.Packet
import PacketRouterIngest.Gwmp.App
import PacketRouterIngest.Gwmp.Forwarding
import PacketRouterIngest.HttpRoaming.Payload
import PacketRouterIngest.HttpRoaming.Downlink
import PacketRouterIngest.HttpRoaming.Dispatch
import PacketRouterIngest.HttpRoaming.RoundTrip
import PacketRouterIngest.HttpRoaming.Delivery
import PacketRouterIngest.HttpRoaming.Responses
import PacketRouterIngest.Semantics.Separation
import PacketRouterIngest.HttpRoaming.Independence
import PacketRouterIngest.Uplink.Protocol
import PacketRouterIngest.HttpRoaming.Windows
import PacketRouterIngest.Gwmp.Runtimes
import PacketRouterIngest.Gwmp.Listeners
import PacketRouterIngest.Gwmp.Routing
import PacketRouterIngest.Gwmp.Liveness
import PacketRouterIngest.Gwmp.Survival
import PacketRouterIngest.KnownGateways
import PacketRouterIngest.Text.Utf8Segments
import PacketRouterIngest.HttpRoaming.Digests
import PacketRouterIngest.HttpRoaming.DataRates
import PacketRouterIngest.HttpRoaming.Timing
import PacketRouterIngest.HttpRoaming.Backpressure
import PacketRouterIngest.HttpRoaming.Liveness
import PacketRouterIngest.Text.JsonDocument
import PacketRouterIngest.HttpRoaming.Bodies
import PacketRouterIngest.HttpRoaming.Exchange
import PacketRouterIngest.HttpRoaming.Provenance
