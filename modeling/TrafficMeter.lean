import TrafficMeter.Agent.Api
import TrafficMeter.Main
import TrafficMeter.Usage.Series
import TrafficMeter.Proofs.FrameReading
import TrafficMeter.Proofs.LogBytes
import TrafficMeter.Proofs.RingContents
import TrafficMeter.Proofs.LogRefinement
import TrafficMeter.Proofs.OutboxContents
import TrafficMeter.Proofs.DeliveryOrder
import TrafficMeter.Proofs.RestartReplay
import TrafficMeter.Proofs.ByteAccounting
import TrafficMeter.Proofs.WholeFrames
import TrafficMeter.Proofs.Reopening
import TrafficMeter.Proofs.CompactionCrash
import TrafficMeter.Proofs.EarlyAdditions
import TrafficMeter.Proofs.StationCourse
import TrafficMeter.Proofs.AgentLifecycle
import TrafficMeter.Proofs.FilterGrammar
import TrafficMeter.Proofs.CrashDelivery
import TrafficMeter.Proofs.AcknowledgementPairing
import TrafficMeter.Proofs.LoadedFrames
import TrafficMeter.Proofs.ReportWindows
import TrafficMeter.Proofs.SessionListing
import TrafficMeter.Proofs.NumeralReading
import TrafficMeter.Proofs.JsonReading
import TrafficMeter.Proofs.ReportCodec
import TrafficMeter.Proofs.SeriesRetention
import TrafficMeter.Proofs.FailedCompaction
import TrafficMeter.Proofs.RangeQueries
import TrafficMeter.Proofs.FailedStop
import TrafficMeter.Proofs.RingRefinement
import TrafficMeter.Proofs.BatchReading
import TrafficMeter.Proofs.CounterWindows
import TrafficMeter.Proofs.FramePositions
import TrafficMeter.Proofs.InterfaceDiscovery
import TrafficMeter.Proofs.BoundedMemory
import TrafficMeter.Proofs.FilterComposition
import TrafficMeter.Proofs.TornTail
import TrafficMeter.Proofs.FilterSpelling
import TrafficMeter.Proofs.SessionKeyTexts
import TrafficMeter.Proofs.HardwareAddressText
import TrafficMeter.Proofs.SaturatedTotals
