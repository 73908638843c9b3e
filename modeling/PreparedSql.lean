import PreparedSql.Session.Schema
import PreparedSql.Statement.Execution
import PreparedSql.Proofs.Parameters.Types
import PreparedSql.Proofs.Parameters.Refusals
import PreparedSql.Proofs.Use.Coherence
import PreparedSql.Proofs.Use.Safety
import PreparedSql.Proofs.Use.Typing
import PreparedSql.Proofs.Use.Frames
import PreparedSql.Proofs.Use.Recovery
import PreparedSql.Proofs.Use.Blanks
import PreparedSql.Proofs.Reading.Conditions
import PreparedSql.Proofs.Reading.Precedence
import PreparedSql.Proofs.Reading.Definitions
import PreparedSql.Proofs.Reading.Statements
import PreparedSql.Proofs.Parameters.Grouping
import PreparedSql.Proofs.Schema.Registry
import PreparedSql.Proofs.Schema.Decisions
import PreparedSql.Proofs.Schema.Validation
import PreparedSql.Proofs.Schema.Subsets
import PreparedSql.Proofs.Schema.TagSets
import PreparedSql.Proofs.Rows.Receiving
import PreparedSql.Proofs.Schema.Changes
import PreparedSql.Proofs.Calendar.Saturation
