import FittingSchlongs.Foundation.SeparatedWords
import FittingSchlongs.Foundation.Occurrence
import FittingSchlongs.Foundation.Boundaries
import FittingSchlongs.Foundation.Codes
import FittingSchlongs.Foundation.Segments
import FittingSchlongs.Foundation.ListUpdates
import FittingSchlongs.Foundation.StoppableLoop
import FittingSchlongs.Foundation.Transition
import FittingSchlongs.Foundation.History
import FittingSchlongs.Foundation.Changes
import FittingSchlongs.Foundation.ByteMemory
import FittingSchlongs.Foundation.X64.Machine
import FittingSchlongs.Foundation.X64.StackSlots
import FittingSchlongs.Foundation.X64.Frame
import FittingSchlongs.Foundation.X64.Answers
import FittingSchlongs.Text.SearchText
import FittingSchlongs.Text.Tokens
import FittingSchlongs.Text.Normalisation
import FittingSchlongs.Text.Dictionary
import FittingSchlongs.Text.Matching
import FittingSchlongs.Text.Boundaries
import FittingSchlongs.Text.Utf8
import FittingSchlongs.Text.Fields
import FittingSchlongs.Armor.Forms
import FittingSchlongs.Armor.Classifier
import FittingSchlongs.Armor.Verdicts
import FittingSchlongs.Armor.FieldBoundaries
import FittingSchlongs.Armor.Fieldwise
import FittingSchlongs.Correction.CorrectionSet
import FittingSchlongs.Correction.Queries
import FittingSchlongs.Correction.WornMask
import FittingSchlongs.Correction.Appearance
import FittingSchlongs.Correction.Visitors
import FittingSchlongs.Correction.CoverItems
import FittingSchlongs.Keywords.Pass
import FittingSchlongs.Keywords.Managed
import FittingSchlongs.Keywords.Precedence
import FittingSchlongs.Keywords.Verdict
import FittingSchlongs.Keywords.Stability
import FittingSchlongs.Keywords.Passes
import FittingSchlongs.Keywords.Convergence
import FittingSchlongs.Keywords.Branches
import FittingSchlongs.Keywords.SettledVerdict
import FittingSchlongs.Keywords.Unmarked
import FittingSchlongs.Refresh.Queue
import FittingSchlongs.Refresh.Superseding
import FittingSchlongs.Refresh.Slots
import FittingSchlongs.Refresh.Driven
import FittingSchlongs.Refresh.Coalescing
import FittingSchlongs.Refresh.Concurrent
import FittingSchlongs.Refresh.Delivery
import FittingSchlongs.Refresh.Guard
import FittingSchlongs.Refresh.Wrapping
import FittingSchlongs.Hooks.Install
import FittingSchlongs.Hooks.AllOrNothing
import FittingSchlongs.Hooks.Stubs
import FittingSchlongs.Hooks.CallingConvention
import FittingSchlongs.Hooks.Queries
import FittingSchlongs.Hooks.HookedGame
import FittingSchlongs.Plugin.Machine
import FittingSchlongs.Plugin.Effects
import FittingSchlongs.Plugin.LoadBoundary
import FittingSchlongs.Plugin.Lifecycle
import FittingSchlongs.Plugin.EquipEvents
import FittingSchlongs.Plugin.Requests
import FittingSchlongs.Plugin.Schedules
import FittingSchlongs.Plugin.Session
import FittingSchlongs.Plugin.ArmorHistory
