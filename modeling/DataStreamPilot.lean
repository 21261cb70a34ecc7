import DataStreamPilot.Library.RingBuffer
import DataStreamPilot.Library.Loop
import DataStreamPilot.Library.Machine
import DataStreamPilot.Library.FallibleMachine
import DataStreamPilot.Library.Sample
import DataStreamPilot.Library.BitCount
import DataStreamPilot.Library.ExactFloat
import DataStreamPilot.Library.Dictionary
import DataStreamPilot.Library.PythonText
import DataStreamPilot.Library.CText
import DataStreamPilot.Library.CharArray
import DataStreamPilot.Library.Json
import DataStreamPilot.Library.JsonProgress
import DataStreamPilot.Library.JsonText
import DataStreamPilot.Library.JsonNumber
import DataStreamPilot.Library.JsonPrefix
import DataStreamPilot.Library.DeltaCode
import DataStreamPilot.Library.DeltaCodeLoss
import DataStreamPilot.Construction.Node.Filter
import DataStreamPilot.Construction.Node.Report
import DataStreamPilot.Construction.Server.FilterOutliers
import DataStreamPilot.Construction.Server.RenderPost
import DataStreamPilot.Construction.Denoiser.FilterOutliers
import DataStreamPilot.Construction.Client.SetParity
import DataStreamPilot.Construction.Batching.DeltaEncoder
import DataStreamPilot.Construction.Coap.Endpoint
import DataStreamPilot.Construction.Coap.Command
import DataStreamPilot.Construction.Coap.Resource
import DataStreamPilot.Construction.Coap.Session
import DataStreamPilot.Construction.Batching.GcoapPost
import DataStreamPilot.Construction.Mqtt.Subscriptions
import DataStreamPilot.Construction.Client.Requests
import DataStreamPilot.Construction.Server.Site
import DataStreamPilot.Construction.Pipeline
import DataStreamPilot.Proof.Node.OutlierPass
import DataStreamPilot.Proof.Node.BreakdownPoint
import DataStreamPilot.Proof.Node.WindowRun
import DataStreamPilot.Proof.Node.ReportedRange
import DataStreamPilot.Proof.Node.EmptiedWindow
import DataStreamPilot.Proof.Node.CleanedStatistics
import DataStreamPilot.Proof.Node.LaterPass
import DataStreamPilot.Proof.Node.StepRecovery
import DataStreamPilot.Proof.Server.SiteData
import DataStreamPilot.Proof.Server.StoreRefinement
import DataStreamPilot.Proof.Server.ReadReport
import DataStreamPilot.Proof.Server.StoreInvariant
import DataStreamPilot.Proof.Server.CorruptedReports
import DataStreamPilot.Proof.Server.KeptReadings
import DataStreamPilot.Proof.Server.RejectedReading
import DataStreamPilot.Proof.Server.LatestReadings
import DataStreamPilot.Proof.Server.RecordedValue
import DataStreamPilot.Proof.Server.Placeholders
import DataStreamPilot.Proof.Denoiser.KeptReadings
import DataStreamPilot.Proof.FilterAgreement
import DataStreamPilot.Proof.Parity
import DataStreamPilot.Proof.ClientParity
import DataStreamPilot.Proof.ReportRoundTrip
import DataStreamPilot.Proof.NodeToServer
import DataStreamPilot.Proof.Batching.Receiver
import DataStreamPilot.Proof.Batching.DeltaStream
import DataStreamPilot.Proof.Mqtt.TopicTable
import DataStreamPilot.Proof.TruncatedReport
import DataStreamPilot.Proof.ForeignRequests
import DataStreamPilot.Proof.Server.Database
import DataStreamPilot.Proof.Server.FaultySensor
import DataStreamPilot.Proof.Coap.Transmission
import DataStreamPilot.Proof.Coap.Grammar
import DataStreamPilot.Proof.Coap.ProxySession
import DataStreamPilot.Proof.Coap.RefusedProxy
import DataStreamPilot.Proof.Coap.Blockwise
import DataStreamPilot.Proof.Coap.Counter
import DataStreamPilot.Proof.Pipeline.Traffic
import DataStreamPilot.Proof.Pipeline.Provenance
import DataStreamPilot.Proof.Pipeline.SiteIsolation
import DataStreamPilot.Proof.Pipeline.ReliableLink
import DataStreamPilot.Proof.Pipeline.Replies
import DataStreamPilot.Proof.Pipeline.LostPosts
