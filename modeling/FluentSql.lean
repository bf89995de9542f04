import FluentSql.Client.Instrumented
import FluentSql.Client.Scripted
import FluentSql.Json.Reader
import FluentSql.Query.Call
import FluentSql.Query.Filter
import FluentSql.Run.Read
import FluentSql.Run.Write
import FluentSql.Proofs.Number
import FluentSql.Proofs.Star
import FluentSql.Proofs.Statement
import FluentSql.Proofs.Token
import FluentSql.Proofs.WellFormed
import FluentSql.Proofs.Lexeme
import FluentSql.Proofs.Outline
import FluentSql.Proofs.Alike
import FluentSql.Proofs.Pieces
import FluentSql.Proofs.Substitution
import FluentSql.Proofs.ValueAlike
import FluentSql.Proofs.ClauseAlike
import FluentSql.Proofs.SelectAlike
import FluentSql.Proofs.Formula
import FluentSql.Proofs.Name
import FluentSql.Proofs.TermReading
import FluentSql.Proofs.ConditionReading
import FluentSql.Proofs.FormulaReading
import FluentSql.Proofs.LiteralReading
import FluentSql.Proofs.ByteOrder
import FluentSql.Proofs.Insertion
import FluentSql.Proofs.Counting
import FluentSql.Proofs.Rendered
import FluentSql.Proofs.Attachment
import FluentSql.Proofs.Batch
import FluentSql.Proofs.CallOrder
import FluentSql.Proofs.Surface
import FluentSql.Proofs.TableReference
import FluentSql.Proofs.Branches
import FluentSql.Proofs.Paging
import FluentSql.Proofs.Recording
import FluentSql.Proofs.Precheck
import FluentSql.Proofs.Grouping
import FluentSql.Proofs.Deletion
import FluentSql.Proofs.JsonReading
import FluentSql.Proofs.JsonLines
import FluentSql.Proofs.NameReading
import FluentSql.Proofs.NameList
import FluentSql.Proofs.Arithmetic
import FluentSql.Proofs.Pipeline
import FluentSql.Proofs.CountQuery
import FluentSql.Proofs.PageOrder
import FluentSql.Proofs.FilterFamily
import FluentSql.Proofs.InsertCalls
import FluentSql.Proofs.FirstRow
import FluentSql.Proofs.Ink
import FluentSql.Proofs.Unaliased
import FluentSql.Proofs.OuterAlias
import FluentSql.Proofs.AliasDrop
import FluentSql.Proofs.TableName
import FluentSql.Proofs.Linking
import FluentSql.Proofs.EmptyList
import FluentSql.Proofs.ClauseBody
import FluentSql.Proofs.Verbatim
import FluentSql.Proofs.Truncation
import FluentSql.Proofs.Sequence
import FluentSql.Proofs.Instrumentation
import FluentSql.Proofs.EscapedName
