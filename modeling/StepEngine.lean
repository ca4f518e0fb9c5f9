import StepEngine.Codec.Report
import StepEngine.Config.Codec
import StepEngine.Config.FileTree
import StepEngine.Engine.Context
import StepEngine.Json.Parser
import StepEngine.Pipeline.Prefixer
import StepEngine.Proofs.Slots
import StepEngine.Proofs.Table
import StepEngine.Proofs.Keys
import StepEngine.Proofs.Run
import StepEngine.Proofs.Ledger
import StepEngine.Proofs.Ledger.Step
import StepEngine.Proofs.Ledger.Coherence
import StepEngine.Proofs.Ledger.Deferred
import StepEngine.Proofs.Ledger.Wakes
import StepEngine.Proofs.Resumption
import StepEngine.Proofs.Frames
import StepEngine.Proofs.Activation
import StepEngine.Proofs.SlotCoherence
import StepEngine.Proofs.Progress
import StepEngine.Proofs.Ledger.Suspension
import StepEngine.Proofs.Suspension
import StepEngine.Proofs.Ledger.Turns
import StepEngine.Proofs.Queue
import StepEngine.Proofs.Deferral
import StepEngine.Proofs.Tokens
import StepEngine.Proofs.Exclusivity
import StepEngine.Proofs.Underway
import StepEngine.Proofs.Delivery
import StepEngine.Proofs.Tally
import StepEngine.Proofs.Announcement
import StepEngine.Proofs.Quiet
import StepEngine.Proofs.Course
import StepEngine.Proofs.Mirror
import StepEngine.Proofs.History
import StepEngine.Proofs.Receivers
import StepEngine.Proofs.Resolution
import StepEngine.Proofs.Passage
import StepEngine.Proofs.Passage.Handlings
import StepEngine.Proofs.Passage.Forwarding
import StepEngine.Proofs.Passage.Report
import StepEngine.Proofs.Accounting
import StepEngine.Proofs.Agreement
import StepEngine.Proofs.Refusal
import StepEngine.Proofs.Dict
import StepEngine.Proofs.Scopes
import StepEngine.Proofs.Merges
import StepEngine.Proofs.Balance
import StepEngine.Proofs.Bystanders
import StepEngine.Proofs.Bystanders.Register
import StepEngine.Proofs.Bystanders.State
import StepEngine.Proofs.Bystanders.Step
import StepEngine.Proofs.Bystanders.Session
import StepEngine.Proofs.Lifetime
import StepEngine.Proofs.Rejection
import StepEngine.Proofs.Overlay
import StepEngine.Proofs.Overlay.Equality
import StepEngine.Proofs.Overlay.Paths
import StepEngine.Proofs.Keyed
import StepEngine.Proofs.Environment
import StepEngine.Proofs.Subscriptions
import StepEngine.Proofs.Chain
import StepEngine.Proofs.Prefixing
import StepEngine.Proofs.Share
import StepEngine.Proofs.Share.Keys
import StepEngine.Proofs.Share.World
import StepEngine.Proofs.Share.Twins
import StepEngine.Proofs.Purge
import StepEngine.Proofs.Share.Slots
import StepEngine.Proofs.Isolation
import StepEngine.Proofs.Isolation.Scenes
import StepEngine.Proofs.Isolation.Onlookers
import StepEngine.Proofs.Isolation.Own
import StepEngine.Proofs.Isolation.Others
import StepEngine.Proofs.Isolation.Interleaving
import StepEngine.Proofs.Naming
import StepEngine.Proofs.RoundTrip
