/-
**What is wrong with data that should have a fixed shape.**

* `IssueKind` — the kinds of trouble, each with the code it is reported under.
* `Issue` — a kind of trouble and the place where it sits, from the outermost part inwards.
* `Issue.before` — the order issues are reported in: by place, then by code.
-/

namespace QueryDesk

/-- A kind of trouble with a piece of data. -/
inductive IssueKind where
  | missing
  | extraForbidden
  | invalidKey
  | stringType
  | intType
  | intParsing
  | intParsingSize
  | intFromDouble
  | notFinite
  | atLeast
  | boolType
  | boolParsing
  | listType
  | dictType
  | modelType
  | attributesType
  | notOfEnum
  | notLiteral
  | tagInvalid
  | tagNotFound
  | assertion
deriving DecidableEq, Repr

/-- The code a kind of trouble is reported under. -/
def IssueKind.code : IssueKind → String
  | .missing => "missing"
  | .extraForbidden => "extra_forbidden"
  | .invalidKey => "invalid_key"
  | .stringType => "string_type"
  | .intType => "int_type"
  | .intParsing => "int_parsing"
  | .intParsingSize => "int_parsing_size"
  | .intFromDouble => "int_from_float"
  | .notFinite => "finite_number"
  | .atLeast => "greater_than_equal"
  | .boolType => "bool_type"
  | .boolParsing => "bool_parsing"
  | .listType => "list_type"
  | .dictType => "dict_type"
  | .modelType => "model_type"
  | .attributesType => "model_attributes_type"
  | .notOfEnum => "enum"
  | .notLiteral => "literal_error"
  | .tagInvalid => "union_tag_invalid"
  | .tagNotFound => "union_tag_not_found"
  | .assertion => "assertion_error"

/-- One piece of trouble and its place, from the outermost part of the data inwards. -/
structure Issue where
  place : List String
  kind : IssueKind
deriving DecidableEq, Repr

namespace Issue

/-- Trouble with the whole of the data at hand. -/
def here (kind : IssueKind) : Issue := ⟨[], kind⟩

/-- The same trouble seen from one part further out. -/
def under (part : String) (issue : Issue) : Issue := { issue with place := part :: issue.place }

/-- The place in one text. -/
def placeText (issue : Issue) : String := ".".intercalate issue.place

/-- The order issues are reported in. -/
def before (a b : Issue) : Bool :=
  decide (a.placeText < b.placeText) ||
    (a.placeText == b.placeText && !decide (b.kind.code < a.kind.code))

end Issue

/-- The summary line of several issues: their number and what the data should have been. -/
def issueSummary (count : Nat) (shape : String) : String :=
  toString count ++ " validation error" ++ (if count = 1 then "" else "s") ++ " for " ++ shape

end QueryDesk
