import Polyglot.Project.ConfigReader
import Polyglot.Project.Output
import Polyglot.Project.Translations
import Polyglot.Proofs.Interchange.Rewrite
import Polyglot.Proofs.Interchange.Xlb
import Polyglot.Proofs.Localize.Calls
import Polyglot.Proofs.Localize.OwnTranslation
import Polyglot.Proofs.Localize.References
import Polyglot.Proofs.Source.TemplateText
import Polyglot.Source.Traversal
import Polyglot.Proofs.Message.Reordered
import Polyglot.Proofs.Localize.Rendered
import Polyglot.Proofs.Message.Resegmented
import Polyglot.Proofs.Localize.Settled
import Polyglot.Proofs.Localize.Recopied
import Polyglot.Proofs.Localize.Lookups
import Polyglot.Proofs.Localize.Forwarded
import Polyglot.Proofs.Localize.Untouched
import Polyglot.Proofs.Localize.Printed
import Polyglot.Proofs.Message.Validated
import Polyglot.Proofs.Message.Concatenated
import Polyglot.Proofs.Interchange.Faithful
import Polyglot.Proofs.Source.ReadBack
import Polyglot.Proofs.Scope.Exports
import Polyglot.Proofs.Scope.Lexical
import Polyglot.Proofs.Message.Compared
import Polyglot.Proofs.Localize.Parameters
import Polyglot.Proofs.Interchange.Shown
import Polyglot.Proofs.Interchange.Agnostic
import Polyglot.Proofs.Message.Hashed
import Polyglot.Proofs.Message.Merged
import Polyglot.Proofs.Source.Recorded
import Polyglot.Proofs.Project.OutputPaths
import Polyglot.Proofs.Source.Renamed
import Polyglot.Proofs.Localize.Limits
import Polyglot.Proofs.Project.LocalePaths
import Polyglot.Proofs.Locale.CodesModule
import Polyglot.Proofs.Source.Blocks
import Polyglot.Proofs.Source.SlotEnds
import Polyglot.Proofs.Source.Fragments
