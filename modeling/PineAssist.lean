import PineAssist.Unicode.CharacterClass
import PineAssist.Unicode.WordCharacter
import PineAssist.Text.Line
import PineAssist.Text.Measure
import PineAssist.Text.Lexeme
import PineAssist.Text.Identifier
import PineAssist.Script
import PineAssist.Catalog.Entry
import PineAssist.Catalog.Basic
import PineAssist.Catalog.Builtin
import PineAssist.Lint.Rule
import PineAssist.Lint.Version
import PineAssist.Lint.Parentheses
import PineAssist.Lint.Declaration
import PineAssist.Lint.ControlStatement
import PineAssist.Lint.Config
import PineAssist.Lint.Linter
import PineAssist.Editor.Cursor
import PineAssist.Editor.Completion
import PineAssist.Editor.Hover
import PineAssist.Editor.Outline
import PineAssist.Decimal.Shortest
import PineAssist.Text.Quoted
import PineAssist.Json.Basic
import PineAssist.Json.Reader
import PineAssist.Json.Writer
import PineAssist.Settings.Section
import PineAssist.Settings.Resolver
import PineAssist.Document.Store
import PineAssist.Server.Message
import PineAssist.Server.Basic
import PineAssist.Server.Session
import PineAssist.Server.Wire
import PineAssist.Proofs.Run
import PineAssist.Proofs.Settings.Inquiry
import PineAssist.Proofs.Server.Reaction
import PineAssist.Proofs.Server.Interleaving
import PineAssist.Proofs.Server.CachedSettings
import PineAssist.Proofs.Server.Publication
import PineAssist.Proofs.Server.Validation
import PineAssist.Proofs.Server.PushedSettings
import PineAssist.Proofs.Server.Reconfiguration
import PineAssist.Proofs.Server.Conversation
import PineAssist.Proofs.Server.CacheTransparency
import PineAssist.Proofs.Server.ValidationOrder
import PineAssist.Proofs.Lint.Findings
import PineAssist.Proofs.Lint.StandardRules
import PineAssist.Proofs.Lint.Configuration
import PineAssist.Proofs.Lint.Placement
import PineAssist.Proofs.Lint.Locality
import PineAssist.Proofs.Text.CodeUnits
import PineAssist.Proofs.Text.Offsets
import PineAssist.Proofs.Text.LineEndings
import PineAssist.Proofs.Editor.CursorPlacement
import PineAssist.Proofs.Script.DeclarationLine
import PineAssist.Proofs.Document.StoreHistory
import PineAssist.Proofs.Lint.BalancedLines
import PineAssist.Proofs.Lint.DeclaredTypes
import PineAssist.Proofs.Lint.ControlHeaders
import PineAssist.Proofs.Lint.VersionDirective
import PineAssist.Proofs.Text.Conversions
import PineAssist.Proofs.Editor.HoveredName
import PineAssist.Proofs.Editor.HoverRange
import PineAssist.Proofs.Editor.Proposals
import PineAssist.Proofs.Editor.OutlineLines
import PineAssist.Proofs.Editor.DefinedFunctions
import PineAssist.Proofs.Settings.SectionGrammar
import PineAssist.Proofs.Text.ByteLengths
import PineAssist.Proofs.Editor.ExactNumbers
