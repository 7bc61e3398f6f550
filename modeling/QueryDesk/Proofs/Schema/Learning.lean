/-
**What a result set learns about its origin.**

The name of the table and the keys by which rows are matched are told by several sources: by the
caller, by what is known already, and by the statement with its schema. They count in this order,
and an empty text or list tells nothing.

* `preferred` — one thing that is told by these sources; `IsPreferred` — which of them counts, and
  `preferred_preferred` — asking the same sources again changes nothing.
* `Database.exists_of_table?` — a table that is found has the name it is asked
  for, whatever the case.
* `Table.HasKeys` — the keys that the columns of a table give, and `Table.hasKeys_compareKeys`.
* `ResultSet.learn_exact` — **a result set that learns**: what changes, what does not, and that
  learning the same again changes nothing.
-/

import QueryDesk.Schema.Merge

namespace QueryDesk

/-! ### One thing from several sources -/

section Preferred

variable {α : Type} (counts : α → Bool) (said derived known : Option α)

/-- What is said counts first, what is known next and what is derived last, as
far as they count at all. -/
def preferred : Option α :=
  (match known.filter counts with
  | some _ => said.filter counts
  | none => (said.filter counts).or (derived.filter counts)).or known

/-- Which source counts: what is said, or else what is known, or else what is derived. If there is
nothing at all, nothing changes. -/
structure IsPreferred (result : Option α) : Prop where
  of_said : ∀ value, said.filter counts = some value → result = some value
  of_known : said.filter counts = none → ∀ value, known.filter counts = some value →
    result = some value
  of_derived : said.filter counts = none → known.filter counts = none →
    ∀ value, derived.filter counts = some value → result = some value
  of_nothing : said.filter counts = none → known.filter counts = none →
    derived.filter counts = none → result = known

theorem isPreferred_preferred : IsPreferred counts said derived known
    (preferred counts said derived known) := by
  unfold preferred
  constructor
  · intro value present
    rw [present]
    cases known.filter counts <;> rfl
  · intro silent value present
    rw [silent, present]
    exact (Option.filter_eq_some_iff.1 present).1
  · intro silent unknown value present
    rw [silent, unknown, present]
    rfl
  · intro silent unknown underived
    rw [silent, unknown, underived]
    rfl

/-- **Asking the same sources again changes nothing.** -/
theorem preferred_preferred :
    preferred counts said derived (preferred counts said derived known) =
      preferred counts said derived known := by
  have once := isPreferred_preferred counts said derived known
  have twice := isPreferred_preferred counts said derived (preferred counts said derived known)
  -- what has been told once is known the second time
  have settled (silent : said.filter counts = none) {source : Option α} {value : α}
      (told : source.filter counts = some value)
      (same : preferred counts said derived known = some value) :
      preferred counts said derived (preferred counts said derived known) =
        preferred counts said derived known :=
    (twice.of_known silent value
      (Option.filter_eq_some_iff.2 ⟨same, (Option.filter_eq_some_iff.1 told).2⟩)).trans same.symm
  cases silent : said.filter counts with
  | some value => rw [twice.of_said value silent, once.of_said value silent]
  | none =>
    cases present : known.filter counts with
    | some value => exact settled silent present (once.of_known silent value present)
    | none =>
      cases found : derived.filter counts with
      | some value => exact settled silent found (once.of_derived silent present value found)
      | none => rw [once.of_nothing silent present found, once.of_nothing silent present found]

end Preferred

/-! ### The table of a statement -/

theorem Text.lower_ne_empty {text : String} (some_text : text ≠ "") : Text.lower text ≠ "" := by
  have letters (before after : List Char) (c : Char) : Text.lowerInContext before after c ≠ [] := by
    unfold Text.lowerInContext
    split
    · split <;> simp
    · split <;> simp
  intro empty
  have chars : Text.lowerAfter [] text.toList = [] := by
    simpa [Text.lower] using congrArg String.toList empty
  cases spelled : text.toList with
  | nil => exact some_text (String.toList_eq_nil_iff.1 spelled)
  | cons c rest =>
    rw [spelled, Text.lowerAfter, List.append_eq_nil_iff] at chars
    exact letters _ _ _ chars.1

/-- **A table that is found** has the name it is asked for, whatever the case. -/
theorem Database.exists_of_table? {database : Database} {word : Option String} {table : Table}
    (found : database.table? word = some table) :
    ∃ name, word = some name ∧ Text.lower table.name = Text.lower name ∧ table.name ≠ "" := by
  cases word with
  | none => cases found
  | some name =>
    unfold table? at found
    dsimp only at found
    split at found
    · cases found
    · rename_i some_name
      obtain ⟨schema, -, here⟩ := List.exists_of_findSome?_eq_some found
      unfold Schema.table? at here
      have same : Text.lower table.name = Text.lower name := by simpa using List.find?_some here
      refine ⟨name, rfl, same, fun empty => ?_⟩
      rw [empty] at same
      exact Text.lower_ne_empty (mt String.isEmpty_iff.2 some_name) same.symm

namespace Table

/-- The keys that columns give, in the order of the columns: one key over all columns of the primary
key if there are any, and then one for each unique column. -/
structure HasKeys (columns : List TableColumn) (keys : List CompareKey) : Prop where
  of_primary : (∃ column ∈ columns, column.inPrimaryKey = true) →
    keys = .composite .primary ((columns.filter TableColumn.inPrimaryKey).map TableColumn.name) ::
      (columns.filter TableColumn.isUnique).map (CompareKey.unique ·.name)
  of_no_primary : (∀ column ∈ columns, column.inPrimaryKey = false) →
    keys = (columns.filter TableColumn.isUnique).map (CompareKey.unique ·.name)

theorem primaryNames_eq_nil_iff (table : Table) :
    table.primaryNames = [] ↔ ∀ column ∈ table.columns, column.inPrimaryKey = false := by
  simp only [primaryNames, List.map_eq_nil_iff, List.filter_eq_nil_iff, Bool.not_eq_true]

/-- **The keys of a table** are those its columns give. -/
theorem hasKeys_compareKeys (table : Table) : HasKeys table.columns table.compareKeys where
  of_primary := by
    rintro ⟨column, inside, primary⟩
    have some_primary : table.primaryNames ≠ [] := fun none_primary =>
      absurd primary (by rw [(primaryNames_eq_nil_iff table).1 none_primary column inside]; simp)
    rw [compareKeys, if_neg (mt List.isEmpty_iff.1 some_primary)]
    rfl
  of_no_primary := by
    intro none_primary
    rw [compareKeys, if_pos (List.isEmpty_iff.2 ((primaryNames_eq_nil_iff table).2 none_primary))]
    rfl

end Table

/-- The table of a statement that a database knows. -/
def knownTable (info : Sql.StatementInfo) (database : Option Database) : Option Table :=
  database.bind fun known => known.table? info.table

/-- The name of a statement's table, as the database spells it if it knows the table. -/
def statedTable (info : Sql.StatementInfo) (database : Option Database) : Option String :=
  ((knownTable info database).map Table.name).or info.table

/-! ### The origin -/

attribute [ext] Provenance

namespace Provenance

variable (origin : Provenance) (info : Sql.StatementInfo) (hints : Option QueryHints)
  (connection : Option String) (database : Option Database)

/-- The name of the table is what the caller says, what is known, or the name of
the statement's table. -/
theorem tableName_learn :
    (origin.learn info hints connection (knownTable info database)).tableName =
      preferred (fun name => !name.isEmpty) (hints.bind QueryHints.tableName)
        (statedTable info database) origin.tableName := by
  unfold learn preferred presentText?
  dsimp only
  cases origin.tableName.filter fun name => !name.isEmpty <;> rfl

/-- The keys are what the caller says, what is known, or the keys of the statement's table. -/
theorem compareKeys_learn (table : Option Table) :
    (origin.learn info hints connection table).compareKeys =
      preferred (fun keys => !keys.isEmpty) (hints.bind QueryHints.compareKeys)
        (table.map Table.compareKeys) origin.compareKeys := by
  unfold learn preferred presentList?
  dsimp only
  cases origin.compareKeys.filter fun keys => !keys.isEmpty <;> rfl

/-- What is said of the rest does not depend on what is known. -/
theorem or_or_self {α : Type} (said known : Option α) :
    said.or (said.or known) = said.or known := by
  rw [← Option.or_assoc, Option.or_self]

/-- **Learning the same again changes nothing.** -/
theorem learn_learn :
    (origin.learn info hints connection (knownTable info database)).learn info hints connection
        (knownTable info database) =
      origin.learn info hints connection (knownTable info database) := by
  refine Provenance.ext rfl ?tableName ?comment rfl ?editable ?compareKeys rfl
  case tableName => rw [tableName_learn, tableName_learn, preferred_preferred]
  case comment => exact or_or_self _ _
  case editable => exact or_or_self _ _
  case compareKeys => rw [compareKeys_learn, compareKeys_learn, preferred_preferred]

end Provenance

namespace ResultSet

/-- What learning leaves as it is: the columns, the rows with the marks on their
cells, and the rules. -/
structure HasSameContents (before after : ResultSet) : Prop where
  keys : after.keys = before.keys
  rows : after.rows = before.rows
  rules : after.origin.tableRule = before.origin.tableRule

/-- **A result set that learns about its origin**, whatever its statement is taken for. Columns,
rows and marks stay. The name of the table and the keys are what the caller says, else what is
known, and only without either what the statement and the schema tell, where the schema spells the
name and gives one key over the primary columns, if there are any, and one for each unique column.
Learning the same again changes nothing. -/
theorem learn_exact (set : ResultSet) (info : Sql.StatementInfo) (request : QueryRequest)
    (connection : Option String) (database : Option Database) :
    HasSameContents set (set.learn info request connection database) ∧
      IsPreferred (fun name => !name.isEmpty) (request.hints.bind QueryHints.tableName)
        (statedTable info database) set.origin.tableName
        (set.learn info request connection database).origin.tableName ∧
      IsPreferred (fun keys => !keys.isEmpty) (request.hints.bind QueryHints.compareKeys)
        ((knownTable info database).map Table.compareKeys) set.origin.compareKeys
        (set.learn info request connection database).origin.compareKeys ∧
      (∀ table, knownTable info database = some table →
        statedTable info database = some table.name ∧
        (∃ name, info.table = some name ∧ Text.lower table.name = Text.lower name ∧
          table.name ≠ "") ∧
        Table.HasKeys table.columns table.compareKeys) ∧
      (set.learn info request connection database).learn info request connection database =
        set.learn info request connection database := by
  refine ⟨⟨rfl, rfl, rfl⟩, ?tableName, ?compareKeys, fun table known =>
    ⟨?stated, ?spelled, table.hasKeys_compareKeys⟩, ?again⟩
  case tableName =>
    have named := set.origin.tableName_learn info request.hints connection database
    exact named ▸ isPreferred_preferred _ _ _ _
  case compareKeys =>
    have keyed := set.origin.compareKeys_learn info request.hints connection
      (knownTable info database)
    exact keyed ▸ isPreferred_preferred _ _ _ _
  case stated =>
    rw [statedTable, known]
    rfl
  case spelled =>
    obtain ⟨_, -, found⟩ := Option.bind_eq_some_iff.1 known
    exact Database.exists_of_table? found
  case again =>
    have again := set.origin.learn_learn info request.hints connection database
    exact congrArg (fun origin => ResultSet.mk set.keys set.rows origin
      (some request.sql) request.conditions) again

end ResultSet

end QueryDesk
