import EntityCompiler.Compilation
import EntityCompiler.Entity.Outline
import EntityCompiler.Value.Reading
import EntityCompiler.Proofs.Declared
import EntityCompiler.Proofs.Grant
import EntityCompiler.Proofs.Placement
import EntityCompiler.Proofs.PermissionReading
import EntityCompiler.Proofs.Keyed
import EntityCompiler.Proofs.LawfulEntity
import EntityCompiler.Proofs.LawfulScript
import EntityCompiler.Proofs.ClassNames
import EntityCompiler.Proofs.Comments
import EntityCompiler.Proofs.LawfulDeclaration
import EntityCompiler.Proofs.Totality
import EntityCompiler.Proofs.Indentation
import EntityCompiler.Proofs.Wording
import EntityCompiler.Proofs.Batch
import EntityCompiler.Proofs.Receivers
import EntityCompiler.Proofs.Replacement
import EntityCompiler.Proofs.Scopes
import EntityCompiler.Proofs.Wrapping
import EntityCompiler.Proofs.ScriptReading
import EntityCompiler.Proofs.MethodBodies
import EntityCompiler.Proofs.Failures
import EntityCompiler.Proofs.MemberNames
import EntityCompiler.Proofs.References
import EntityCompiler.Proofs.Readings
import EntityCompiler.Proofs.Joining
import EntityCompiler.Proofs.Agreement
import EntityCompiler.Proofs.StrayParts
import EntityCompiler.Proofs.Absence.Compilation
import EntityCompiler.Proofs.Removal
import EntityCompiler.Proofs.Reordering
import EntityCompiler.Proofs.Dump.Decimals
import EntityCompiler.Proofs.Dump.Numerals
import EntityCompiler.Proofs.Dump.Quotes
import EntityCompiler.Proofs.Dump.Margins
import EntityCompiler.Proofs.Dump.Layout
import EntityCompiler.Proofs.Dump.Outlines
import EntityCompiler.Proofs.Dump.NodeOutlines
import EntityCompiler.Proofs.Dump.Nodes
import EntityCompiler.Proofs.FiniteNumbers
import EntityCompiler.Proofs.Grouping
import EntityCompiler.Proofs.ValueLiterals
import EntityCompiler.Proofs.NameRuns
import EntityCompiler.Proofs.CommentReading
import EntityCompiler.Proofs.ConfigurationRows
import EntityCompiler.Proofs.PropertyAspects
import EntityCompiler.Proofs.LineByLine
import EntityCompiler.Proofs.ReportReading
import EntityCompiler.Proofs.VisibilityReading
import EntityCompiler.Proofs.Dump.TextBlocks
import EntityCompiler.Proofs.NestedProblems
