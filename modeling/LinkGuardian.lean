import LinkGuardian.Dataplane.RoundTrips
import LinkGuardian.Protocol.BlockingMode
import LinkGuardian.Protocol.AckTimeout
import LinkGuardian.Protocol.CatchUp
import LinkGuardian.Protocol.PfcHandshake
import LinkGuardian.Protocol.ModeSwitch
import LinkGuardian.Protocol.BufferRelease
import LinkGuardian.Protocol.BufferSafety
import LinkGuardian.Protocol.LeadingAckReports
import LinkGuardian.Protocol.FrameTransparency
import LinkGuardian.Protocol.EraComparison
import LinkGuardian.Protocol.BurstMarking
import LinkGuardian.Protocol.TailLoss
import LinkGuardian.Protocol.Delivery
import LinkGuardian.Protocol.Completion
import LinkGuardian.Protocol.EmulatedLosses
import LinkGuardian.Protocol.ProtectionCalls
import LinkGuardian.Corruptd.Upstream
import LinkGuardian.Corruptd.TopologyCache
import LinkGuardian.Corruptd.Protection
import LinkGuardian.Corruptd.LossWindow
import LinkGuardian.Corruptd.PublishDecision
import LinkGuardian.Simulator.Capacity
import LinkGuardian.Simulator.Lifecycle
import LinkGuardian.Simulator.Noninterference
import LinkGuardian.Simulator.TraceLinks
import LinkGuardian.Simulator.SymmetricClos
import LinkGuardian.Simulator.WhatIf
import LinkGuardian.Simulator.PerfTable
import LinkGuardian.Simulator.Tradeoff
import LinkGuardian.Simulator.WholeRun
import LinkGuardian.Simulator.Pipeline
import LinkGuardian.Simulator.ChangePoints
import LinkGuardian.Simulator.LossRates
import LinkGuardian.Dataplane.Sender.DcqcnTables
import LinkGuardian.Analysis.SackAccounting
import LinkGuardian.Analysis.SenderRun
import LinkGuardian.Analysis.Verdicts
