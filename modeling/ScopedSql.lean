import ScopedSql.Action.Run
import ScopedSql.Arguments
import ScopedSql.Config.Connect
import ScopedSql.Config.Environment
import ScopedSql.Config.File
import ScopedSql.Desk.Description
import ScopedSql.Desk.Perform
import ScopedSql.Format.Render
import ScopedSql.Proofs.Action.Admission
import ScopedSql.Proofs.Action.Form
import ScopedSql.Proofs.Config.Environment
import ScopedSql.Proofs.Config.File
import ScopedSql.Proofs.Desk.Accounts
import ScopedSql.Proofs.Desk.Agreement
import ScopedSql.Proofs.Desk.BadInput
import ScopedSql.Proofs.Desk.Conclusion
import ScopedSql.Proofs.Desk.Durability
import ScopedSql.Proofs.Desk.FailedBegin
import ScopedSql.Proofs.Desk.Kept
import ScopedSql.Proofs.Desk.Late
import ScopedSql.Proofs.Desk.OneEnding
import ScopedSql.Proofs.Desk.Override
import ScopedSql.Proofs.Desk.Pinned
import ScopedSql.Proofs.Desk.PinnedPool
import ScopedSql.Proofs.Desk.Redaction
import ScopedSql.Proofs.Desk.Shuffle
import ScopedSql.Proofs.Format.Agreement
import ScopedSql.Proofs.Format.Csv
import ScopedSql.Proofs.Format.Markdown
import ScopedSql.Proofs.ResultSet.Growth
import ScopedSql.Proofs.Sql.Keyword
import ScopedSql.Proofs.Sql.ReadBack
import ScopedSql.Proofs.Wire.Moments
import ScopedSql.Proofs.Wire.Numbers
import ScopedSql.Proofs.Wire.Tables
import ScopedSql.Scripted.Server
import ScopedSql.Wire.Server
