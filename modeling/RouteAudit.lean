import RouteAudit.Main
import RouteAudit.Proofs.Source.Token.Balanced
import RouteAudit.Proofs.Source.Token.Extent
import RouteAudit.Proofs.Source.Token.Spelling
import RouteAudit.Proofs.ActionTable
import RouteAudit.Proofs.Assoc
import RouteAudit.Proofs.Source.Declaration.Place
import RouteAudit.Proofs.Source.Expr.Place
import RouteAudit.Proofs.Source.Grammar.ClassFile
import RouteAudit.Proofs.Source.Grammar.Meaning
import RouteAudit.Proofs.Source.Grammar.Row
import RouteAudit.Proofs.Diagnostic
import RouteAudit.Proofs.Files.Clean
import RouteAudit.Proofs.LookupHistory
import RouteAudit.Proofs.Project.Obstacles
import RouteAudit.Proofs.Project.Check
import RouteAudit.Proofs.ClassSearch
import RouteAudit.Proofs.Hierarchy
import RouteAudit.Proofs.PublicMethods
import RouteAudit.Proofs.Source.Execution.Datum
import RouteAudit.Proofs.Source.Execution.Literal
import RouteAudit.Proofs.Source.Execution.Script
import RouteAudit.Proofs.StableAnswers
import RouteAudit.Proofs.Source.Token.Layout
import RouteAudit.Proofs.Source.Token.Span
import RouteAudit.Proofs.Source.Token.Separator
import RouteAudit.Proofs.Source.Grammar.Preamble
import RouteAudit.Proofs.Project.Directories
import RouteAudit.Proofs.CommandLine.Agreement
import RouteAudit.Proofs.Project.Precedence
import RouteAudit.Proofs.Project.Pruning
import RouteAudit.Proofs.Template.Extraction
import RouteAudit.Proofs.Source.Grammar.UseStatement
import RouteAudit.Proofs.Ancestry
import RouteAudit.Proofs.MemberOrder
import RouteAudit.Proofs.Route.Suggestion
import RouteAudit.Proofs.Route.Index
import RouteAudit.Proofs.Identifier
import RouteAudit.Proofs.Identifier.CamelCase
import RouteAudit.Proofs.Source.Token.Heredoc.Lines
import RouteAudit.Proofs.Source.Literal.OnePass
import RouteAudit.Proofs.Source.Literal.Quotation
import RouteAudit.Proofs.Template.ScanOrder
import RouteAudit.Proofs.Text.Numeral
import RouteAudit.Proofs.DeclaredClasses
import RouteAudit.Proofs.Source.Literal.Integer
import RouteAudit.Proofs.Project.Collection
import RouteAudit.Proofs.Report.Document
import RouteAudit.Proofs.Project.TextReport
import RouteAudit.Proofs.CommandLine.HandleOptions
import RouteAudit.Proofs.Source.Token.GroupEnd
import RouteAudit.Proofs.Source.Execution.Progress
