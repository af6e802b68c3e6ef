import TemplateEngine.Engine.Basic
import TemplateEngine.Render.StockPlugins
import TemplateEngine.Sink.Outlet
import TemplateEngine.Value.Equality
import TemplateEngine.Engine.ActiveRender
import TemplateEngine.Proofs.Turn.Course
import TemplateEngine.Proofs.Completion
import TemplateEngine.Proofs.Reads
import TemplateEngine.Proofs.Frames
import TemplateEngine.Proofs.Slots
import TemplateEngine.Proofs.Reached
import TemplateEngine.Proofs.Run
import TemplateEngine.Proofs.Detach
import TemplateEngine.Proofs.Pacing
import TemplateEngine.Proofs.Backpressure
import TemplateEngine.Proofs.Pure
import TemplateEngine.Proofs.Later
import TemplateEngine.Proofs.Replay
import TemplateEngine.Proofs.Transparency
import TemplateEngine.Proofs.Inline.Substitution
import TemplateEngine.Proofs.Lockstep
import TemplateEngine.Proofs.Inline.SameMove
import TemplateEngine.Proofs.Inline.CallSite
import TemplateEngine.Proofs.CallGraph.Registry
import TemplateEngine.Proofs.CallGraph.Walk
import TemplateEngine.Proofs.CallGraph.Closure
import TemplateEngine.Proofs.CallGraph.Queries
import TemplateEngine.Proofs.Injected.Mentions
import TemplateEngine.Proofs.Injected.Twins
import TemplateEngine.Proofs.Injected.Noninterference
import TemplateEngine.Proofs.Escaped.Behaviour
import TemplateEngine.Proofs.Escaped.Atomic
import TemplateEngine.Proofs.Escaped.Nested
import TemplateEngine.Proofs.Handles.Chain
import TemplateEngine.Proofs.Handles.OneShot
import TemplateEngine.Proofs.Delegates.ByteOrder
import TemplateEngine.Proofs.Delegates.Additions
import TemplateEngine.Proofs.Delegates.Ambiguity
import TemplateEngine.Proofs.Delegates.Resolution
import TemplateEngine.Proofs.Staging
import TemplateEngine.Proofs.Errors.Prints
import TemplateEngine.Proofs.Errors.CallStack
import TemplateEngine.Proofs.Errors.Refusal
import TemplateEngine.Proofs.Errors.Moves
import TemplateEngine.Proofs.Errors.TurnMoves
import TemplateEngine.Proofs.Errors.WholeOutputs
import TemplateEngine.Proofs.Errors.Backtrace
import TemplateEngine.Proofs.Messages.Choices
import TemplateEngine.Proofs.Messages.WellFormed
import TemplateEngine.Proofs.Counterparts
import TemplateEngine.Proofs.Markup.Escaping
import TemplateEngine.Proofs.Completes
import TemplateEngine.Proofs.Markup.Guarded
import TemplateEngine.Proofs.Markup.Injection
import TemplateEngine.Proofs.Outcomes
import TemplateEngine.Proofs.Completed.Unfolding
import TemplateEngine.Proofs.Completed.Texts
import TemplateEngine.Proofs.Completed.Observations
import TemplateEngine.Proofs.Completed.Effects
import TemplateEngine.Proofs.Selections
import TemplateEngine.Proofs.Completed.Turns
import TemplateEngine.Proofs.Completed.Runs
import TemplateEngine.Proofs.Messages.CaseOrder
import TemplateEngine.Proofs.Messages.Lookups
import TemplateEngine.Proofs.PlainData
import TemplateEngine.Proofs.Progress.CallTree
import TemplateEngine.Proofs.Progress.Accounts
import TemplateEngine.Proofs.Progress.Remaining
import TemplateEngine.Proofs.Progress.Bound
import TemplateEngine.Proofs.Progress.Limits
import TemplateEngine.Proofs.Messages.PluralRules
import TemplateEngine.Proofs.Messages.PluralArithmetic
import TemplateEngine.Proofs.Markup.Entities
import TemplateEngine.Proofs.Delegates.Registrations
import TemplateEngine.Proofs.Equality.Equivalence
import TemplateEngine.Proofs.Equality.Records
import TemplateEngine.Proofs.Registries.Admission
import TemplateEngine.Proofs.Registries.Reordering
import TemplateEngine.Proofs.Completed.Filling
import TemplateEngine.Proofs.Completed.Nulls
import TemplateEngine.Proofs.Messages.Bundles
import TemplateEngine.Proofs.Messages.Locales
import TemplateEngine.Proofs.HostData
import TemplateEngine.Proofs.Messages.Labels
import TemplateEngine.Proofs.Options.JsonTexts
import TemplateEngine.Proofs.Options.RoundTrip
import TemplateEngine.Proofs.Options.Overlay
import TemplateEngine.Proofs.Callees.Calls
import TemplateEngine.Proofs.Callees.InFlight
