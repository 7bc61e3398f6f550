/-
**Result sets under names.**

* `Workspace` — named sets; sets derived from one another have one origin, and what becomes known
  about the origin of one becomes known of all.
* `Workspace.set?`, `Workspace.replace`, `Workspace.derive` — look-up, change and derivation.
-/

import QueryDesk.ResultSet.Basic

namespace QueryDesk

/-- A named set, with the number of the origin it shares. -/
structure NamedSet where
  name : String
  origin : Nat
  set : ResultSet
deriving Repr

/-- Named sets. -/
abbrev Workspace := List NamedSet

namespace Workspace

/-- A workspace of sets with origins of their own. -/
def ofSets (sets : List (String × ResultSet)) : Workspace :=
  sets.zipIdx.map fun ((name, set), place) => ⟨name, place, set⟩

/-- The entry of a name. -/
def entry? (workspace : Workspace) (name : String) : Option NamedSet :=
  List.find? (fun entry => entry.name == name) workspace

/-- The set of a name. -/
def set? (workspace : Workspace) (name : String) : Option ResultSet :=
  (workspace.entry? name).map NamedSet.set

/-- The workspace with another set under a name; sets of the same origin learn about its origin. -/
def replace (workspace : Workspace) (name : String) (set : ResultSet) : Workspace :=
  match workspace.entry? name with
  | none => workspace
  | some changed =>
    List.map (fun entry =>
      if entry.name == name then { entry with set }
      else if entry.origin == changed.origin then
        { entry with set := { entry.set with origin := set.origin } }
      else entry) workspace

/-- The workspace with a set derived from the one of a name. -/
def derive (workspace : Workspace) (name into : String) (set : ResultSet) : Workspace :=
  match workspace.entry? name with
  | none => workspace
  | some source =>
    (List.filter (fun entry => entry.name != into) workspace) ++ [⟨into, source.origin, set⟩]

end Workspace

end QueryDesk
