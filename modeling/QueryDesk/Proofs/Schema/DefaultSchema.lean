/-
**The default schema of a database.**

A connection asks for a default schema by names, and the schema that bears the earliest of them
moves to the front of all schemas, where it is the only default one.

* `Database.Picks` — the schema that is asked for, with the schemas in front of it and behind it;
  `Database.schemas_resetDefault` — where it and the others are afterwards.
* `Database.IsArranged` — the schemas are the ones there were, the first of them is the
  only default one, and tables are looked up in their order; `IsArranged.resetDefault` —
  a connection more keeps that.
* `Database.resetAll_exact` — **any connections one after another.** An empty name asks for nothing:
  `Database.resetDefault_ignores_empty_name`.
-/

import QueryDesk.Proofs.Search
import QueryDesk.Schema.Basic

namespace QueryDesk

namespace Schema

/-- A schema that is no default one. -/
def unflagged (schema : Schema) : Schema := { schema with isDefault := false }

/-- A schema that is the default one. -/
def flagged (schema : Schema) : Schema := { schema with isDefault := true }

variable (schema : Schema)

@[simp] theorem name_unflagged : schema.unflagged.name = schema.name := rfl

@[simp] theorem name_flagged : schema.flagged.name = schema.name := rfl

@[simp] theorem isDefault_unflagged : schema.unflagged.isDefault = false := rfl

@[simp] theorem isDefault_flagged : schema.flagged.isDefault = true := rfl

@[simp] theorem unflagged_unflagged : schema.unflagged.unflagged = schema.unflagged := rfl

@[simp] theorem unflagged_flagged : schema.flagged.unflagged = schema.unflagged := rfl

@[simp] theorem flagged_unflagged : schema.unflagged.flagged = schema.flagged := rfl

@[simp] theorem flagged_flagged : schema.flagged.flagged = schema.flagged := rfl

end Schema

namespace Database

/-! ### Which schema is asked for -/

/-- The schema that names ask for, between the schemas in front of it and behind it: the first that
bears the earliest name which any of them bears, and the first of all when no name is borne. -/
inductive Picks (names : List String) (schemas : List Schema) :
    List Schema → Schema → List Schema → Prop
  | named {earlier later : List String} {before behind : List Schema} {chosen : Schema}
      (parts : schemas = before ++ chosen :: behind)
        (order : names = earlier ++ chosen.name :: later)
      (unborne : ∀ name ∈ earlier, ∀ schema ∈ schemas, schema.name ≠ name)
      (first : ∀ schema ∈ before, schema.name ≠ chosen.name) :
        Picks names schemas before chosen behind
  | foremost {chosen : Schema} {behind : List Schema} (parts : schemas = chosen :: behind)
      (unborne : ∀ name ∈ names, ∀ schema ∈ schemas, schema.name ≠ name) :
        Picks names schemas [] chosen behind

theorem findIdx?_name_eq_none_iff {schemas : List Schema} {name : String} :
    (schemas.findIdx? fun schema => schema.name == name) = none ↔
      ∀ schema ∈ schemas, schema.name ≠ name := by
  rw [List.findIdx?_eq_none_iff]
  exact forall₂_congr fun _ _ => beq_eq_false_iff_ne

namespace Picks

variable {names : List String} {connection : Connection} {schemas before behind : List Schema}
  {chosen : Schema}

theorem parts (picks : Picks names schemas before chosen behind) :
    schemas = before ++ chosen :: behind := by
  cases picks with
  | named parts => exact parts
  | foremost parts => exact parts

/-- The place of the schema that is asked for is the number of those in front of it. -/
theorem defaultPlace (picks : Picks (defaultNames connection) schemas before chosen behind) :
    Database.defaultPlace connection schemas = before.length := by
  unfold Database.defaultPlace
  cases picks with
  | named parts order unborne first =>
    have here : (schemas.findIdx? fun schema => schema.name == chosen.name) =
      some before.length := by
      rw [parts, List.findIdx?_append, findIdx?_name_eq_none_iff.2 first, List.findIdx?_cons]
      simp
    rw [order, List.findSome?_append, List.findSome?_cons, here,
      List.findSome?_eq_none_iff.2 fun name member =>
      findIdx?_name_eq_none_iff.2 (unborne name member)]
    rfl
  | foremost parts unborne =>
    rw [List.findSome?_eq_none_iff.2 fun name member =>
      findIdx?_name_eq_none_iff.2 (unborne name member)]
    rfl

/-- The schema that is asked for stays so once it is at the front, whatever the flags are. -/
theorem promoted (picks : Picks names schemas before chosen behind) :
    Picks names (chosen.flagged :: (before ++ behind).map Schema.unflagged) [] chosen.flagged
      ((before ++ behind).map Schema.unflagged) := by
  have same {name : String} (unborne : ∀ schema ∈ schemas, schema.name ≠ name) :
      ∀ schema ∈ chosen.flagged :: (before ++ behind).map Schema.unflagged, schema.name ≠ name := by
    rw [picks.parts] at unborne
    simpa [or_imp, forall_and, and_left_comm] using unborne
  cases picks with
  | named parts order unborne first =>
    exact .named rfl order (fun name member => same (unborne name member)) nofun
  | foremost parts unborne => exact .foremost rfl fun name member => same (unborne name member)

end Picks

/-- Among schemas one is asked for. -/
theorem exists_picks (names : List String) {schemas : List Schema} (some_schema : schemas ≠ []) :
    ∃ before chosen behind, Picks names schemas before chosen behind := by
  induction names with
  | nil =>
    obtain ⟨chosen, behind, rfl⟩ := List.exists_cons_of_ne_nil some_schema
    exact ⟨[], chosen, behind, .foremost rfl nofun⟩
  | cons name names ih =>
    cases found : schemas.find? fun schema => schema.name == name with
    | some chosen =>
      obtain ⟨bears, before, behind, parts, first⟩ := List.find?_eq_some_iff_append.1 found
      obtain rfl := beq_iff_eq.1 bears
      refine ⟨before, chosen, behind, .named parts (List.nil_append _).symm
        (List.forall_mem_nil _) ?_⟩
      exact fun schema inside => by simpa using first schema inside
    | none =>
      have unborne : ∀ schema ∈ schemas, schema.name ≠ name := by simpa using found
      obtain ⟨before, chosen, behind, picks⟩ := ih
      refine ⟨before, chosen, behind, ?_⟩
      cases picks with
      | named parts order others first =>
        exact .named parts (congrArg (name :: ·) order)
          (List.forall_mem_cons.2 ⟨unborne, others⟩) first
      | foremost parts others => exact .foremost parts (List.forall_mem_cons.2 ⟨unborne, others⟩)

/-! ### One connection -/

/-- The schema at a place is flagged and goes in front of the others. -/
theorem promote_append (before : List Schema) (chosen : Schema) (behind : List Schema) :
    promote before.length (before ++ chosen :: behind) =
      chosen.flagged :: (before ++ behind).map Schema.unflagged := by
  have plain : ((before ++ chosen :: behind).map fun schema => { schema with isDefault := false }) =
      before.map Schema.unflagged ++ chosen.unflagged :: behind.map Schema.unflagged :=
    List.map_append
  have place : before.length = (before.map Schema.unflagged).length := (List.length_map _).symm
  unfold promote
  simp only [plain]
  rw [place, List.getElem?_append_right (Nat.le_refl _), Nat.sub_self,
    List.eraseIdx_append_of_length_le
    (Nat.le_refl _), Nat.sub_self, List.map_append]
  rfl

/-- **One connection** brings the schema it asks for to the front and keeps the
others in their order. -/
theorem schemas_resetDefault {connection : Connection} {database : Database}
    {before behind : List Schema} {chosen : Schema}
    (picks : Picks (defaultNames connection) database.schemas before chosen behind) :
    (database.resetDefault connection).schemas =
      chosen.flagged :: (before ++ behind).map Schema.unflagged := by
  show promote (defaultPlace connection database.schemas) database.schemas = _
  rw [picks.defaultPlace, picks.parts, promote_append]

/-- Asking again changes nothing. -/
theorem resetDefault_resetDefault (connection : Connection) (database : Database) :
    (database.resetDefault connection).resetDefault connection =
      database.resetDefault connection := by
  by_cases empty : database.schemas = []
  · unfold resetDefault
    rw [empty]
    rfl
  · obtain ⟨before, chosen, behind, picks⟩ := exists_picks (defaultNames connection) empty
    have once := schemas_resetDefault picks
    have twice : ((database.resetDefault connection).resetDefault connection).schemas =
        (database.resetDefault connection).schemas := by
      rw [schemas_resetDefault (once ▸ picks.promoted), once, List.nil_append, List.map_map]
      rfl
    exact congrArg (Database.mk database.name) twice

/-! ### Any connections -/

/-- Connections one after another. -/
def resetAll (connections : List Connection) (database : Database) : Database :=
  connections.foldl (fun reached connection => reached.resetDefault connection) database

/-- A table is the first of some tables that bears a name, whatever the case. -/
def IsFirstNamed (name : String) (tables : List Table) (table : Table) : Prop :=
  ∃ before behind, tables = before ++ table :: behind ∧ Text.lower table.name = Text.lower name ∧
    ∀ earlier ∈ before, Text.lower earlier.name ≠ Text.lower name

/-- The tables of a database, in the order of its schemas. -/
def tables (database : Database) : List Table := database.schemas.flatMap Schema.tables

/-- How the schemas of a database stand once a default schema has been asked for, compared with what
they were: they are the same apart from their flags, and the first is the only default one. A
look-up finds the first table of a name, and finds nothing only when no schema has such a table. -/
structure IsArranged (original current : Database) : Prop where
  same : (current.schemas.map Schema.unflagged).Perm (original.schemas.map Schema.unflagged)
  default : original.schemas ≠ [] → ∃ first others, current.schemas = first :: others ∧
    first.isDefault = true ∧ ∀ schema ∈ others, schema.isDefault = false
  found : ∀ name table, name ≠ "" →
    (current.table? (some name) = some table ↔ IsFirstNamed name current.tables table)
  missed : ∀ name, name ≠ "" → (current.table? (some name) = none ↔
    ∀ schema ∈ current.schemas, ∀ table ∈ schema.tables, Text.lower table.name ≠ Text.lower name)

/-- With the default schema in front, schemas are searched in their order. -/
theorem searchOrder_of_default {database : Database} {first : Schema} {others : List Schema}
    (parts : database.schemas = first :: others) (default : first.isDefault = true) :
    database.searchOrder = database.schemas := by
  unfold searchOrder
  rw [parts, List.findIdx?_cons, if_pos default]
  rfl

/-- Tables are looked up in the order of their schemas, if that is the order of search. -/
theorem table?_of_searchOrder {database : Database}
    (order : database.searchOrder = database.schemas) {name : String} (some_name : name ≠ "") :
    database.table? (some name) =
      database.tables.find? fun table => Text.lower table.name == Text.lower name := by
  unfold table? tables
  rw [List.find?_flatMap, order]
  exact if_neg (mt String.isEmpty_iff.1 some_name)

/-- What is found is the first table of the name. -/
theorem find?_lower_eq_some_iff {name : String} {tables : List Table} {table : Table} :
    (tables.find? fun table => Text.lower table.name == Text.lower name) = some table ↔
      IsFirstNamed name tables table := by
  rw [List.find?_eq_some_iff_append, beq_iff_eq]
  constructor
  · rintro ⟨bears, before, behind, parts, earlier⟩
    exact ⟨before, behind, parts, bears, fun other inside => by simpa using earlier other inside⟩
  · rintro ⟨before, behind, parts, bears, earlier⟩
    exact ⟨bears, before, behind, parts, fun other inside => by simpa using earlier other inside⟩

/-- Schemas that are searched in their order, the first of them being the only
default one, are arranged. -/
theorem isArranged_of_order {original current : Database}
    (same : (current.schemas.map Schema.unflagged).Perm (original.schemas.map Schema.unflagged))
    (default : original.schemas ≠ [] → ∃ first others, current.schemas = first :: others ∧
      first.isDefault = true ∧ ∀ schema ∈ others, schema.isDefault = false) :
    IsArranged original current := by
  have order : current.searchOrder = current.schemas := by
    by_cases empty : original.schemas = []
    · rw [empty, List.map_nil, List.perm_nil, List.map_eq_nil_iff] at same
      unfold searchOrder
      rw [same]
      rfl
    · obtain ⟨first, others, parts, flag, -⟩ := default empty
      exact searchOrder_of_default parts flag
  refine ⟨same, default, fun name table some_name => ?_, fun name some_name => ?_⟩
  · rw [table?_of_searchOrder order some_name, find?_lower_eq_some_iff]
  · rw [table?_of_searchOrder order some_name, List.find?_eq_none]
    simp only [tables, List.mem_flatMap, beq_iff_eq]
    exact ⟨fun none schema inside table member => none table ⟨schema, inside, member⟩,
      fun none table ⟨schema, inside, member⟩ => none schema inside table member⟩

/-- What one connection arranges. -/
theorem isArranged_resetDefault (connection : Connection) (database : Database) :
    IsArranged database (database.resetDefault connection) := by
  by_cases empty : database.schemas = []
  · have still : (database.resetDefault connection).schemas = [] := by
      show promote _ database.schemas = []
      rw [empty]
      rfl
    exact isArranged_of_order (by rw [still, empty]) fun some_schema => absurd empty some_schema
  · obtain ⟨before, chosen, behind, picks⟩ := exists_picks (defaultNames connection) empty
    have parts := schemas_resetDefault picks
    refine isArranged_of_order ?_ fun _ => ⟨_, _, parts, rfl, List.forall_mem_map.2 fun _ _ => rfl⟩
    have plain : ((before ++ behind).map Schema.unflagged).map Schema.unflagged =
        (before ++ behind).map Schema.unflagged := List.map_map.trans rfl
    rw [parts, picks.parts, List.map_cons, plain, List.map_append, List.map_append]
    exact List.perm_middle.symm

/-- A connection more keeps schemas the same. -/
theorem IsArranged.trans {original reached current : Database} (first : IsArranged original reached)
    (second : IsArranged reached current) : IsArranged original current := by
  refine isArranged_of_order (second.same.trans first.same) fun some_schema =>
    second.default fun empty => ?_
  obtain ⟨chosen, others, parts, -⟩ := first.default some_schema
  cases parts.symm.trans empty

/-- What one connection does: the schema it asks for goes to the front of the others, which keep
their order, and asking again changes nothing. -/
structure IsAsked (connection : Connection) (before after : Database) : Prop where
  moved : before.schemas ≠ [] → ∃ front chosen behind,
    Picks (defaultNames connection) before.schemas front chosen behind ∧
      after.schemas = chosen.flagged :: (front ++ behind).map Schema.unflagged
  settled : after.resetDefault connection = after

/-- One connection does what it asks for. -/
theorem isAsked_resetDefault (connection : Connection) (database : Database) :
    IsAsked connection database (database.resetDefault connection) where
  moved some_schema := by
    obtain ⟨front, chosen, behind, picks⟩ := exists_picks (defaultNames connection) some_schema
    exact ⟨front, chosen, behind, picks, schemas_resetDefault picks⟩
  settled := resetDefault_resetDefault connection database

/-- **Connections one after another** leave the schemas as they are but for their order and the
default flag of the first, in whose order tables are looked up from then on; each brings the schema
it asks for to the front. -/
theorem resetAll_exact (database : Database) (connections : List Connection)
    (some_call : connections ≠ []) :
    IsArranged database (database.resetAll connections) ∧
      ∀ connection, IsAsked connection database (database.resetDefault connection) := by
  refine ⟨?_, fun connection => isAsked_resetDefault connection database⟩
  induction connections generalizing database with
  | nil => exact absurd rfl some_call
  | cons connection rest ih =>
    have once := isArranged_resetDefault connection database
    by_cases last : rest = []
    · rw [last]
      exact once
    · exact once.trans (ih (database.resetDefault connection) last)

/-! ### Two runs -/

/-- A connection to a database. -/
def connectionTo (name : String) : Connection := ⟨"work", some name, none, false, false⟩

/-- Schemas without tables, none of which is the default one. -/
def ofNames (names : List String) : Database := ⟨"work", names.map fun name => ⟨name, false, []⟩⟩

/-- Two schemas share a name: the first of them is asked for, and behind the second connection,
which asks for another one, it is the second of all. -/
theorem resetAll_exact_of_repeated_names :
    [connectionTo "b", connectionTo "c"] ≠ [] ∧
      IsArranged (ofNames ["a", "b", "public", "b"])
        ((ofNames ["a", "b", "public", "b"]).resetAll [connectionTo "b", connectionTo "c"]) ∧
      ((ofNames ["a", "b", "public", "b"]).resetAll [connectionTo "b", connectionTo "c"]).schemas =
        [⟨"public", true, []⟩, ⟨"b", false, []⟩, ⟨"a", false, []⟩, ⟨"b", false, []⟩] :=
  ⟨by decide, (resetAll_exact _ _ (by decide)).1, by decide⟩

/-- The names that a connection gives, the empty ones as well. -/
def givenNames (connection : Connection) : List String :=
  connection.database.toList ++ connection.user.toList ++ ["public"]

/-- **An empty name asks for nothing**, even where a schema bears it. -/
theorem resetDefault_ignores_empty_name :
    Picks (givenNames (connectionTo "")) (ofNames ["a", ""]).schemas
        [⟨"a", false, []⟩] ⟨"", false, []⟩ [] ∧
      ((ofNames ["a", ""]).resetDefault (connectionTo "")).schemas ≠
        [⟨"", true, []⟩, ⟨"a", false, []⟩] :=
  ⟨.named rfl (List.nil_append _).symm (List.forall_mem_nil _) (by decide), by decide⟩

end Database

end QueryDesk
