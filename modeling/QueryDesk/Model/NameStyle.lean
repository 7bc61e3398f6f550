/-
**The two spellings of field names in written records.**

* `NameStyle.pick` — the spelling of documents, or the one with underscores.
-/

namespace QueryDesk

/-- Which spelling of field names a record is written with. -/
inductive NameStyle where
  /-- The spelling of documents, such as `tableName`. -/
  | document
  /-- The spelling with underscores, such as `table_name`. -/
  | underscored
deriving DecidableEq, Repr

/-- The spelling of a name that a style asks for. -/
def NameStyle.pick (style : NameStyle) (document underscored : String) : String :=
  match style with
  | .document => document
  | .underscored => underscored

end QueryDesk
