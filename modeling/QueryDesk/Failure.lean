/-
**Why an operation has no answer.**

* `FileFault` — why a file cannot be opened or read.
* `Failure` — the causes, each with what its message names.
* `Failure.message` — the message.
* `Failure.isReported` — whether the command line reports the failure and ends, or lets it pass.
-/

import QueryDesk.Value.Fault
import QueryDesk.Model.Issue
import QueryDesk.Json.Fault
import QueryDesk.Text.Quoted

namespace QueryDesk

/-- Why a text is no YAML document. -/
inductive YamlFault where
  /-- Characters that start no token. -/
  | scanner
  /-- Tokens in an order the grammar does not have. -/
  | parser
  /-- Nodes that cannot be put together, such as an unknown alias. -/
  | composer
  /-- A node whose value cannot be built. -/
  | constructor
  /-- A character that may not stand in a document. -/
  | reader
  /-- An escape whose number is beyond that of the last character. -/
  | noCharacter
  /-- An escape whose number is beyond the integers of a machine. -/
  | numberOverflow
deriving DecidableEq, Repr

/-- Why a file cannot be opened or read. -/
inductive FileFault where
  /-- The system refuses to open it; the number is that of its reason. -/
  | system (number : Nat) (reason : String)
  /-- Its path or its bytes are no text. -/
  | noText (problem : String)
deriving DecidableEq, Repr

namespace FileFault

/-- Nothing stands under the path. -/
def missing : FileFault := .system 2 "No such file or directory"

/-- The path leads through a file. -/
def notDirectory : FileFault := .system 20 "Not a directory"

/-- A folder stands under the path. -/
def isDirectory : FileFault := .system 21 "Is a directory"

/-- The path or one of its parts is too long. -/
def nameTooLong : FileFault := .system 36 "File name too long"

/-- The path has a part behind its end. -/
def nullInside : FileFault := .noText "embedded null byte"

/-- The message of a fault at a path. -/
def message (path : String) : FileFault → String
  | .system number reason =>
    "[Errno " ++ toString number ++ "] " ++ reason ++ ": " ++ Text.quoted path
  | .noText problem => problem

/-- Whether it is the system that refuses. -/
def isOfSystem : FileFault → Bool
  | .system .. => true
  | .noText _ => false

/-- Whether the command line reports a fault. Of the refusals of the system only that nothing stands
under the path is reported. -/
def isReported : FileFault → Bool
  | .system number _ => number == 2
  | .noText _ => true

end FileFault

/-- Why an operation has no answer. -/
inductive Failure where
  /-- Values that cannot be worked with as asked. -/
  | value (cause : Fault)
  /-- Parameters of a query that no value was given for. -/
  | missingBinds (names : List String)
  /-- An operator that SQL has no word for. -/
  | noSqlForm (operator : String)
  /-- Data that is no condition tree, with the number of things wrong with it. -/
  | malformedConditions (issues : Nat)
  /-- A rule with operators the engine does not know. -/
  | unknownOperators (rule : String) (operators : List String)
  /-- A file that holds no table rule. -/
  | invalidTableRule (path : String) (issues : Nat)
  /-- A file that holds no connection setting. -/
  | invalidConnection (path : String) (issues : Nat)
  /-- Data that does not have the shape it should have. -/
  | invalidData (shape : String) (issues : List Issue)
  /-- A definition file that is not there. -/
  | definitionNotFound (path : String)
  /-- A file that cannot be opened or read. -/
  | file (fault : FileFault) (path : String)
  /-- A file that should set up logging and is not there. -/
  | logConfigNotFound (path : String)
  /-- A file that should set up logging and is empty. -/
  | emptyLogConfig (path : String)
  /-- A file that does not say how logging is to be set up. -/
  | invalidLogConfig (problem : String)
  /-- Neighbouring characters that a code has no form for, with the place of the
  first in its piece. -/
  | unprintable (code reason : String) (characters : List Char) (place : Nat)
  /-- A value that is nested too deep to be reported. -/
  | tooDeep
  /-- A text that is no JSON document. -/
  | json (fault : JsonFault)
  /-- A number too long to be read, which has so many digits, or too long to be written. -/
  | tooManyDigits (count : Option Nat)
  /-- A text that is no YAML document. -/
  | yaml (fault : YamlFault)
  /-- A scalar of a document whose text is no value of its kind. -/
  | unreadableScalar (message : String)
  /-- A table without columns. -/
  | noColumns
  /-- A table text that cannot be cut into cells. -/
  | brokenTable (reason : String)
  /-- A table that has no such layout. -/
  | unsupportedLayout (path : String)
  /-- A file whose ending names no known format. -/
  | unsupportedFile
  /-- A report of a sort that does not exist. -/
  | unsupportedReport
  /-- A word that names no column type. -/
  | unknownColumnType (word : String)
  /-- A word that names no kind of mark. -/
  | unknownMark (word : String)
  /-- A position behind the end of a list or text. -/
  | outOfRange (kind : String)
  /-- A key that a table of names does not have. -/
  | unknownKey (key : String)
  /-- A value that cannot be gone through element by element. -/
  | notIterable (kind : String)
  /-- A value that nothing can be looked up in. -/
  | notContainer (kind : String)
  /-- A list or text that was asked for an entry by name. -/
  | notIndexedByName (message : String)
  /-- An element that is no pair of a name and a value. -/
  | notPair (place length : Nat)
  /-- A whole number outside the range of a column. -/
  | unsafeInteger
  /-- Two columns under one name. -/
  | ambiguousColumn
  /-- A value that cannot be written to a document. -/
  | unwritable (message : String)
deriving DecidableEq, Repr

namespace Failure

/-- A character by its number. -/
def characterNumber (c : Char) : String :=
  let code := Text.codePoint c
  if code < 0x100 then "\\x" ++ Text.hex 2 code
  else if code < 0x10000 then "\\u" ++ Text.hex 4 code
  else "\\U" ++ Text.hex 8 code

/-- Which characters cannot be printed, and where they stand. -/
def unprintableText (characters : List Char) (place : Nat) : String :=
  match characters with
  | [c] => "character '" ++ characterNumber c ++ "' in position " ++ toString place
  | several =>
    "characters in position " ++ toString place ++ "-" ++ toString (place + several.length - 1)

/-- The message of a failure; longer reports give their first line. -/
def message : Failure → String
  | .value cause => cause.message
  | .missingBinds names =>
    (if names.length = 1 then "Missing bind parameter [" else "Missing bind parameters [") ++
      ",".intercalate names ++ "]"
  | .noSqlForm operator => "Operator '" ++ operator ++ "' has no SQL form"
  | .malformedConditions issues =>
    "Invalid rule tree: every node must be exactly one of all/any group or fact leaf (" ++
      toString issues ++ " errors)"
  | .unknownOperators rule operators =>
    "Rule '" ++ rule ++ "' uses unknown operators: [" ++
      ", ".intercalate (operators.map Text.quoted) ++ "]"
  | .invalidTableRule path issues =>
    "Invalid table rule in " ++ path ++ ": " ++ issueSummary issues "TableRule"
  | .invalidConnection path issues =>
    "Invalid connection setting in " ++ path ++ ": " ++ issueSummary issues "ConnectionSetting"
  | .invalidData shape issues => issueSummary issues.length shape
  | .definitionNotFound path => "Definition file not found: " ++ path
  | .file fault path => fault.message path
  | .logConfigNotFound path => path ++ " doesn't exist"
  | .emptyLogConfig path => path ++ " is an empty file"
  | .invalidLogConfig problem => problem
  | .unprintable code reason characters place =>
    "'" ++ code ++ "' codec can't encode " ++ unprintableText characters place ++ ": " ++ reason
  | .tooDeep => "Circular reference detected (depth exceeded)"
  | .json problem => problem.message
  | .tooManyDigits count => digitLimit count
  | .yaml .noCharacter => "chr() arg not in range(0x110000)"
  | .yaml _ => ""
  | .unreadableScalar message => message
  | .noColumns => "No columns to parse from file"
  | .brokenTable reason => "Error tokenizing data. C error: " ++ reason
  | .unsupportedLayout path =>
    "Unsupported JSON layout in " ++ path ++ ": expected a result set or a list of records"
  | .unsupportedFile => "File type not implemented yet."
  | .unsupportedReport => "Output type not supported"
  | .unknownColumnType word => Text.quoted word ++ " is not a valid GeneralColumnType"
  | .unknownMark word => Text.quoted word ++ " is not a valid AnnotationType"
  | .outOfRange kind => kind ++ " index out of range"
  | .unknownKey key => Text.quoted key
  | .notIterable kind => "'" ++ kind ++ "' object is not iterable"
  | .notContainer kind => "argument of type '" ++ kind ++ "' is not iterable"
  | .notIndexedByName message => message
  | .notPair place length =>
    "dictionary update sequence element #" ++ toString place ++ " has length " ++
      toString length ++ "; 2 is required"
  | .unsafeInteger => "cannot safely cast non-equivalent float64 to int64"
  | .ambiguousColumn => "'DataFrame' object has no attribute 'dtype'"
  | .unwritable message => message

/-- Whether the command line reports a failure of a command and ends. Failures of the input are
reported, faults in working with values are not, unless a number cannot be written. -/
def isReported : Failure → Bool
  | .value .tooManyDigits => true
  | .value _ => false
  | .file fault _ => fault.isReported
  | .emptyLogConfig _ => false
  | .yaml fault => decide (fault = .noCharacter)
  | .outOfRange _ => false
  | .unknownKey _ => false
  | .notIterable _ => false
  | .notContainer _ => false
  | .notIndexedByName _ => false
  | .unsafeInteger => false
  | .ambiguousColumn => false
  | .unwritable _ => false
  | _ => true

end Failure

end QueryDesk
