import ScopedSql.Format.Csv
import ScopedSql.Format.Markdown
import ScopedSql.Format.Name

namespace ScopedSql

/-!
# Results as text
-/

def ResultSet.render (set : ResultSet) : Format -> Except Error String
  | .csv => Csv.write set
  | .markdown => Markdown.write set

end ScopedSql
