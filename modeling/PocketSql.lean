import PocketSql.Main
import PocketSql.Proofs.Engine.Quoted
import PocketSql.Proofs.Engine.Reopened
import PocketSql.Proofs.Execute.Cell
import PocketSql.Proofs.Execute.Confined
import PocketSql.Proofs.Execute.Pointer
import PocketSql.Proofs.Execute.Reachable
import PocketSql.Proofs.Query.Selected
import PocketSql.Proofs.Sql.Cleaning
import PocketSql.Proofs.Sql.Classified
import PocketSql.Proofs.Sql.Explained
import PocketSql.Proofs.Sql.PassedOver
import PocketSql.Proofs.Sql.AnyOrder
import PocketSql.Proofs.Sql.Defined
import PocketSql.Proofs.Sql.Lexeme
import PocketSql.Proofs.Sql.Written
import PocketSql.Proofs.Text.Blank
import PocketSql.Store.Observed
import PocketSql.Proofs.Engine.Saved
import PocketSql.Proofs.Execute.Failed
import PocketSql.Proofs.Engine.WrittenThrough
import PocketSql.Proofs.Engine.Indifferent
import PocketSql.Proofs.Store.Agreement
import PocketSql.Proofs.Execute.Ascending
import PocketSql.Proofs.Execute.Stored
import PocketSql.Proofs.Execute.Inserted
import PocketSql.Proofs.Execute.Updated
import PocketSql.Proofs.Execute.Deleted
import PocketSql.Proofs.Value.Compared
import PocketSql.Proofs.Execute.Commuting
import PocketSql.Proofs.Query.Reversed
import PocketSql.Proofs.Value.Coherent
import PocketSql.Proofs.Like
import PocketSql.Proofs.Engine.History
import PocketSql.Proofs.Engine.Logged
import PocketSql.Proofs.Engine.Batch
import PocketSql.Proofs.Engine.Switched
import PocketSql.Proofs.Value.Coerced
import PocketSql.Proofs.Sql.Labelled
import PocketSql.Proofs.Sql.Rejoined
import PocketSql.Proofs.Sql.Segmented
import PocketSql.Proofs.Shell.Together
