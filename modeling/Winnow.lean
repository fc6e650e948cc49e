import Winnow.Main
import Winnow.Proofs.Ranking.FuzzyScore
import Winnow.Proofs.Engine.Order
import Winnow.Proofs.Query.Alignable
import Winnow.Proofs.Query.Compiling
import Winnow.Proofs.Query.Glob
import Winnow.Proofs.Query.Literal
import Winnow.Proofs.Query.Narrowing
import Winnow.Proofs.Query.Places
import Winnow.Proofs.Settings.Layering
import Winnow.Proofs.Style.Highlight
import Winnow.Proofs.Style.Rendering
import Winnow.Proofs.Picker.Selection
import Winnow.Proofs.Program.FixedString
import Winnow.Proofs.Engine.Failure
import Winnow.Proofs.Command.Quoting
import Winnow.Proofs.Candidates.Lines
import Winnow.Proofs.Settings.Reporting
import Winnow.Proofs.Settings.Prevailing
import Winnow.Proofs.Query.Composing
import Winnow.Proofs.Query.Subsequence
import Winnow.Proofs.Regex.Extent
import Winnow.Proofs.Style.Placement
import Winnow.Proofs.Regex.Preference
import Winnow.Proofs.Query.Choice
import Winnow.Proofs.Style.Blocks
import Winnow.Proofs.Style.Occurrences
import Winnow.Proofs.Query.Partition
import Winnow.Proofs.Style.Collapsing
import Winnow.Proofs.Style.Merging
import Winnow.Proofs.Style.Runs
import Winnow.Proofs.Style.Marking
import Winnow.Proofs.Picker.Window
import Winnow.Proofs.Settings.Paths
import Winnow.Proofs.Command.Expansion
import Winnow.Proofs.Command.Skeleton
import Winnow.Proofs.Ranking.EditDistance
import Winnow.Proofs.Style.Grammar
import Winnow.Proofs.Style.Channels
import Winnow.Proofs.Candidates.Writing
import Winnow.Proofs.Settings.Lookup
import Winnow.Proofs.Settings.Overriding
import Winnow.Proofs.Ranking.CellBounds
