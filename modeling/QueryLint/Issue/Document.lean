import QueryLint.Document
import QueryLint.Issue

/-!
# Issues as documents

How reports write issues. Every field has its key, and a field without text is written too, but for
`extInfo`.
-/

namespace QueryLint.Issue

/-- The document of an issue. -/
def toDocument (i : Issue) : Document :=
  .record ([
    ("id", .text i.id), ("dbPath", .text i.dbPath), ("table", .text i.table), ("sql", .text i.sql),
    ("type", .text i.type), ("createTime", .number i.createTime), ("desc", .text i.desc),
    ("detail", .text i.detail), ("advice", .text i.advice), ("level", .text i.level.name)]
    ++ (if i.extInfo.isEmpty then [] else [("extInfo", .text i.extInfo)]))

end QueryLint.Issue
