/-
**Names without a value.**

* `missingNames` — what is noted when names are visited one after another; both styles note the same
  (`missing_scanNames`), whatever else they gather in between.
* `ListsMissing` — a list of the names without a value, each once, in the order they first appear.
  One visit keeps it (`ListsMissing.note`), so `missingNames` is such a list (`listsMissing`).
* `Template.bind_eq_error_iff` — binding fails exactly when a name is missing, and with all of them.
* `normalize_refuses_missing` — **a query is refused exactly for its names without a value**, in
  both styles with the same list of them, and never when no values are given at all.
-/

import Mathlib.Data.List.Basic
import QueryDesk.Proofs.Placeholder.Lines
import QueryDesk.Sql.Placeholder

namespace QueryDesk.Sql

/-- The names without a value, as they are noted one visit after another. -/
def missingNames (given : Option Binds) (names : List String) : List String :=
  names.foldl (fun noted name => noteMissing given name noted) []

/-- A list of the names that have no value, each of them once, in the order they first appear. -/
structure ListsMissing (given : Option Binds) (names missing : List String) : Prop where
  mem_iff : ∀ name, name ∈ missing ↔ name ∈ names ∧ isMissing given name = true
  once : missing.Nodup
  in_order : missing.Pairwise fun earlier later => names.idxOf earlier < names.idxOf later

variable {given : Option Binds}

/-! ### One visit after another -/

theorem noteMissing_of_found {name : String} (found : isMissing given name = false)
    (missing : List String) : noteMissing given name missing = missing := by
  unfold noteMissing
  rw [found]
  rfl

theorem noteMissing_of_noted {name : String} {missing : List String} (noted : name ∈ missing) :
    noteMissing given name missing = missing := by
  unfold noteMissing
  rw [List.contains_iff_mem.2 noted, Bool.not_true, Bool.and_false]
  rfl

theorem noteMissing_of_new {name : String} {missing : List String}
    (absent : isMissing given name = true)
    (new : name ∉ missing) : noteMissing given name missing = missing ++ [name] := by
  unfold noteMissing
  rw [absent, Bool.eq_false_iff.2 (mt List.contains_iff_mem.1 new)]
  rfl

namespace ListsMissing

variable {before missing : List String}

theorem mem_before (lists : ListsMissing given before missing) {name : String}
    (noted : name ∈ missing) :
    name ∈ before := ((lists.mem_iff name).1 noted).1

/-- What comes later changes nothing in the order of the names so far. -/
theorem in_order_append (lists : ListsMissing given before missing) (rest : List String) :
    missing.Pairwise fun earlier later =>
      (before ++ rest).idxOf earlier < (before ++ rest).idxOf later := by
  refine lists.in_order.imp_of_mem fun {earlier later} notedEarlier notedLater less => ?_
  rwa [List.idxOf_append_of_mem (lists.mem_before notedEarlier),
    List.idxOf_append_of_mem (lists.mem_before notedLater)]

/-- A list stays one when a name comes that is listed or has a value. -/
theorem pass (lists : ListsMissing given before missing) {name : String}
    (listed : isMissing given name = true → name ∈ missing) :
    ListsMissing given (before ++ [name]) missing := by
  refine ⟨fun other => ?_, lists.once, lists.in_order_append [name]⟩
  rw [lists.mem_iff, List.mem_append, List.mem_singleton]
  constructor
  · exact fun ⟨member, absent⟩ => ⟨.inl member, absent⟩
  · rintro ⟨member | rfl, absent⟩
    · exact ⟨member, absent⟩
    · exact (lists.mem_iff other).1 (listed absent)

/-- A name without a value that comes for the first time is listed behind the others. -/
theorem add (lists : ListsMissing given before missing) {name : String}
    (absent : isMissing given name = true) (new : name ∉ missing) :
    ListsMissing given (before ++ [name]) (missing ++ [name]) := by
  have unmet : name ∉ before := fun member => new ((lists.mem_iff name).2 ⟨member, absent⟩)
  constructor
  case mem_iff =>
    intro other
    rw [List.mem_append, List.mem_append, List.mem_singleton, lists.mem_iff]
    constructor
    · rintro (⟨member, missed⟩ | rfl)
      · exact ⟨.inl member, missed⟩
      · exact ⟨.inr rfl, absent⟩
    · rintro ⟨member | rfl, missed⟩
      · exact .inl ⟨member, missed⟩
      · exact .inr rfl
  case once =>
    refine List.nodup_append.2 ⟨lists.once, List.pairwise_singleton _ name, ?_⟩
    rintro other noted _ (member : _ ∈ [name]) rfl
    exact new (List.mem_singleton.1 member ▸ noted)
  case in_order =>
    refine List.pairwise_append.2 ⟨lists.in_order_append [name], List.pairwise_singleton _ name, ?_⟩
    intro other noted _ (member : _ ∈ [name])
    rw [List.mem_singleton.1 member, List.idxOf_append_of_mem (lists.mem_before noted),
      List.idxOf_append_of_notMem unmet]
    have within := List.idxOf_lt_length_of_mem (lists.mem_before noted)
    omega

/-- **One visit**: the name is listed if it has no value and is not listed yet. -/
theorem note (lists : ListsMissing given before missing) (name : String) :
    ListsMissing given (before ++ [name]) (noteMissing given name missing) := by
  cases absent : isMissing given name with
  | false =>
    rw [noteMissing_of_found absent]
    exact lists.pass fun missed => by rw [absent] at missed; cases missed
  | true =>
    by_cases noted : name ∈ missing
    · rw [noteMissing_of_noted noted]
      exact lists.pass fun _ => noted
    · rw [noteMissing_of_new absent noted]
      exact lists.add absent noted

/-- **All visits**: the induction is on the names still to come. -/
theorem foldl (lists : ListsMissing given before missing) (names : List String) :
    ListsMissing given (before ++ names)
      (names.foldl (fun noted name => noteMissing given name noted) missing) := by
  induction names generalizing before missing with
  | nil => rwa [List.append_nil]
  | cons name rest ih =>
    have tail := ih (lists.note name)
    rwa [List.append_assoc] at tail

end ListsMissing

theorem listsMissing (given : Option Binds) (names : List String) :
    ListsMissing given names (missingNames given names) := by
  have nothing : ListsMissing given [] [] := ⟨fun _ => by simp, List.nodup_nil, .nil⟩
  exact nothing.foldl names

example : missingNames (some [("b", .list [])]) ["c", "b", "a", "c"] = ["c", "a"] := by decide

theorem missingNames_eq_nil_iff (names : List String) :
    missingNames given names = [] ↔ ∀ name ∈ names, isMissing given name = false := by
  simp only [List.eq_nil_iff_forall_not_mem, (listsMissing given names).mem_iff, not_and,
    Bool.not_eq_true]

/-! ### Both styles -/

/-- What a scan notes, whatever else it gathers. -/
theorem missing_scanNames {State : Type} {visit : State → String → String × State}
    {missing : State → List String}
    (step : ∀ state name, missing (visit state name).2 = noteMissing given name (missing state))
    (names : List String) : ∀ state : State, missing (scanNames visit state names).2 =
      names.foldl (fun noted name => noteMissing given name noted) (missing state) := by
  induction names with
  | nil => exact fun _ => rfl
  | cons name rest ih =>
    intro state
    rw [List.foldl_cons, ← step]
    exact ih (visit state name).2

theorem missing_visit_simple (given : Option Binds) (scan : SimpleScan) (name : String) :
    (scan.visit given name).2.missing = noteMissing given name scan.missing := by
  unfold SimpleScan.visit
  cases given.bind (·.lookup name) <;> rfl

theorem missing_visit_positioned (given : Option Binds) (scan : PositionedScan) (name : String) :
    (scan.visit given name).2.missing = noteMissing given name scan.missing := by
  unfold PositionedScan.visit
  cases scan.layout.lookup name <;> rfl

/-- Nothing is noted in a scan whose names all have values. -/
theorem missing_scanNames_positioned {names : List String}
    (found : ∀ name ∈ names, isMissing given name = false) :
    (scanNames (PositionedScan.visit given) .start names).2.missing = [] :=
  (missing_scanNames (missing_visit_positioned given) names .start).trans
    ((missingNames_eq_nil_iff names).2 found)

namespace Template

theorem answer_eq_error_iff {template : Template} {texts missing : List String} {binds : List Value}
    {failure : Failure} :
    template.answer texts missing binds = .error failure ↔ missing ≠ [] ∧
      failure = .missingBinds missing := by
  cases missing with
  | nil => exact ⟨nofun, fun ⟨some_there, _⟩ => absurd rfl some_there⟩
  | cons name more =>
    exact ⟨fun failed => ⟨List.cons_ne_nil name more, (Except.error.inj failed).symm⟩,
      fun ⟨_, same⟩ => congrArg Except.error same.symm⟩

/-- **Binding fails exactly when a name is missing**, and with all names that are. -/
theorem bind_eq_error_iff {template : Template} {style : PlaceholderStyle} {failure : Failure} :
    template.bind style given = .error failure ↔
      missingNames given template.names ≠ [] ∧
        failure = .missingBinds (missingNames given template.names) := by
  cases style with
  | simple =>
    have noted := missing_scanNames (missing_visit_simple given) template.names .start
    show template.answer _ _ _ = _ ↔ _
    rw [answer_eq_error_iff, noted]
    rfl
  | positioned =>
    have noted := missing_scanNames (missing_visit_positioned given) template.names .start
    show template.answer _ _ _ = _ ↔ _
    rw [answer_eq_error_iff, noted]
    rfl

end Template

/-- **A query is refused exactly for its names without a value**, in either style. The failure lists
all of them, each once, in the order they first appear over the lines of the query, and it is the
same in both styles. Without any values a query is never refused. -/
theorem normalize_refuses_missing (query : String) :
    let names := (Template.ofLines (lines (stripComments query))).names
    (∀ given : Binds, ∃ missing, ListsMissing (some given) names missing ∧ ∀ style failure,
        normalize style (some given) query = .error failure ↔
          (∃ name ∈ names, given.lookup name = none) ∧ failure = .missingBinds missing) ∧
      ∀ style, ∃ bound, normalize style none query = .ok bound := by
  intro names
  unfold normalize
  rw [Template.ofQuery_eq_ofLines]
  constructor
  · intro given
    have some_missing : missingNames (some given) names ≠ [] ↔ ∃ name ∈ names,
      given.lookup name = none := by
      rw [Ne, missingNames_eq_nil_iff]
      simp only [isMissing, Option.isNone_eq_false_iff, not_forall, Option.not_isSome_iff_eq_none,
        exists_prop]
    refine ⟨missingNames (some given) names, listsMissing (some given) names,
      fun style failure => ?_⟩
    rw [Template.bind_eq_error_iff, ← some_missing]
  · intro style
    have none_missing : missingNames none names = [] :=
      (missingNames_eq_nil_iff names).2 fun _ _ => rfl
    cases outcome : (Template.ofLines (lines (stripComments query))).bind style none with
    | ok bound => exact ⟨bound, rfl⟩
    | error failure => exact absurd none_missing (Template.bind_eq_error_iff.1 outcome).1

end QueryDesk.Sql
