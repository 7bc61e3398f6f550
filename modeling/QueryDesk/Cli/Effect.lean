/-
**What a command does to its surroundings.**

* `Effect` — a text that is printed, a file that is written, or a failure in
  place of what comes next.
* `carryOut` — carries effects out one after another, up to the first that fails.
-/

import QueryDesk.Cli.Folder
import QueryDesk.Cli.Charset

namespace QueryDesk.Cli

/-- Something a command does. -/
inductive Effect where
  /-- A text is printed. -/
  | print (piece : String)
  /-- A file is written in several pieces, in place of one that may be there. -/
  | write (path : String) (pieces : List String)
  /-- What comes next cannot be made. -/
  | stop (failure : Failure)
deriving DecidableEq, Repr

/-- What effects left behind. -/
structure Aftermath where
  printed : String
  folder : Folder
  failure : Option Failure
deriving Repr

/-- Prints in front of what is printed later. -/
def Aftermath.after (printed : String) (later : Aftermath) : Aftermath :=
  { later with printed := printed ++ later.printed }

/-- Carries effects out. Files are written in UTF-8: a piece with half a
character in it ends the file. -/
def carryOut (charset : Charset) (folder : Folder) : List Effect → Aftermath
  | [] => ⟨"", folder, none⟩
  | .print piece :: rest =>
    match charset.check piece with
    | .error failure => ⟨"", folder, some failure⟩
    | .ok () => (carryOut charset folder rest).after piece
  | .write path pieces :: rest =>
    let (content, stopped) := Charset.whole.encode pieces
    match folder.write path content, stopped with
    | .error failure, _ => ⟨"", folder, some failure⟩
    | .ok next, some failure => ⟨"", next, some failure⟩
    | .ok next, none => carryOut charset next rest
  | .stop failure :: _ => ⟨"", folder, some failure⟩

end QueryDesk.Cli
