import PipelineCache.Engine.Schedule
import PipelineCache.Main
import PipelineCache.Proofs.Store
import PipelineCache.Proofs.Validation
import PipelineCache.Proofs.Traffic.Basic
import PipelineCache.Proofs.Traffic.Effect
import PipelineCache.Proofs.Traffic.Holders
import PipelineCache.Proofs.Traffic.Ownership
import PipelineCache.Proofs.Traffic.Combinations
import PipelineCache.Proofs.Traffic.Outcomes
import PipelineCache.Proofs.Traffic.Attempts
import PipelineCache.Proofs.Traffic.WriteOnce
import PipelineCache.Proofs.Traffic.Parents
import PipelineCache.Proofs.Traffic.Fleet
import PipelineCache.Proofs.File.Recovery
import PipelineCache.Proofs.File.Lives
import PipelineCache.Proofs.Writer.Step
import PipelineCache.Proofs.Writer.Appending
import PipelineCache.Proofs.Writer.Logging
import PipelineCache.Proofs.Writer.Deduplication
import PipelineCache.Proofs.Writer.Preparation
import PipelineCache.Proofs.Writer.Retention
import PipelineCache.Proofs.Lookup.Readiness
import PipelineCache.Proofs.Lookup.Resolution
import PipelineCache.Proofs.Lookup.Prewarm
import PipelineCache.Proofs.Lookup.Repetition
import PipelineCache.Proofs.Lookup.Step
import PipelineCache.Proofs.Queue.Crew
import PipelineCache.Proofs.Queue.Delivery
import PipelineCache.Proofs.Worker.Step
import PipelineCache.Proofs.Session.Basic
import PipelineCache.Proofs.Session.Overview
import PipelineCache.Proofs.Session.Pipelines
import PipelineCache.Proofs.Session.Sources
import PipelineCache.Proofs.Session.Holdings
import PipelineCache.Proofs.Session.Checks
import PipelineCache.Proofs.Session.Remembered
import PipelineCache.Proofs.Session.Optimizing
import PipelineCache.Proofs.Session.Warmth
import PipelineCache.Proofs.Session.Rest
import PipelineCache.Proofs.Session.Start
import PipelineCache.Proofs.Session.Files
import PipelineCache.Proofs.Session.Drawn
import PipelineCache.Proofs.Session.WarmStart
import PipelineCache.Proofs.Session.Recollection
import PipelineCache.Proofs.Runtime.Basic
import PipelineCache.Proofs.Runtime.Validity
import PipelineCache.Proofs.Runtime.Exchange
import PipelineCache.Proofs.Runtime.Indices
import PipelineCache.Proofs.Runtime.Workplace
import PipelineCache.Proofs.Runtime.Rebuilding
import PipelineCache.Proofs.StoredForm
import PipelineCache.Proofs.File.Reading
import PipelineCache.Proofs.File.Repair
import PipelineCache.Proofs.Traffic.Audit
import PipelineCache.Proofs.Traffic.Submissions
import PipelineCache.Proofs.Traffic.Counters
import PipelineCache.Proofs.Worker.Dispatch
import PipelineCache.Proofs.Worker.Fulfilment
import PipelineCache.Proofs.Runtime.Soundness
import PipelineCache.Proofs.Sequence.Alike
import PipelineCache.Proofs.Sequence.Erasure
import PipelineCache.Proofs.File.Interruption
import PipelineCache.Proofs.File.Inspection
import PipelineCache.Proofs.Layout
import PipelineCache.Proofs.Runtime.Requests
import PipelineCache.Proofs.Traffic.Guests
import PipelineCache.Proofs.Traffic.Meaning
import PipelineCache.Proofs.State.Tables
