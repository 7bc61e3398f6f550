/-
**Quoted literals in a query, and the parameters in them.**

The comments of a query are found with regard to its literals, its parameters are not: a colon and a
name between quotes are cut out like any other.

* `Template.bind_missing` — a name without a value is always refused, in either style.
* `normalize_keeps_literals_iff` — a query is normalized as if its literals were closed
  to parameters exactly when no literal, read by itself, has one. A name in a literal
  that has no value is refused.
-/

import QueryDesk.Proofs.Placeholder.Agreement
import QueryDesk.Proofs.Placeholder.Distinct
import QueryDesk.Proofs.Placeholder.Quoting

namespace QueryDesk.Sql

/-! ### Names without values -/

/-- **A name without a value is refused**, in either style. -/
theorem Template.bind_missing {template : Template} {name : String} (named : name ∈ template.names)
    {given : Option Binds} (absent : isMissing given name = true) (style : PlaceholderStyle) :
    ∃ missing, template.bind style given = .error (.missingBinds missing) ∧ name ∈ missing := by
  have missed := ((listsMissing given template.names).mem_iff name).2 ⟨named, absent⟩
  exact ⟨missingNames given template.names,
    bind_eq_error_iff.2 ⟨List.ne_nil_of_mem missed, rfl⟩, missed⟩

/-! ### Literals and parameters -/

/-- Every name with a null for its value. -/
def nulls (names : List String) : Binds := names.map fun name => (name, .null)

theorem lookup_nulls {names : List String} {name : String} (member : name ∈ names) :
    (nulls names).lookup name = some .null := by
  induction names with
  | nil => cases member
  | cons first rest ih =>
    by_cases here : name = first
    · subst here
      exact List.lookup_cons_self
    · have later := ih ((List.mem_cons.1 member).resolve_left here)
      have differs : (name == first) = false := beq_eq_false_iff_ne.2 here
      unfold nulls at later ⊢
      rw [List.map_cons, List.lookup_cons, differs]
      exact later

/-- Nulls count the names of a template. -/
theorem Template.bind_nulls {template : Template} {names : List String}
    (given : ∀ name ∈ template.names, name ∈ names) : ∃ bound,
      template.bind .simple (some (nulls names)) = .ok bound ∧
        bound.binds.length = template.names.length := by
  have complete : ∀ name ∈ template.names, ((nulls names).lookup name).isSome := by
    intro name member
    rw [lookup_nulls (given name member)]
    rfl
  obtain ⟨positioned, simple, places, -, bound, agree⟩ :=
    bind_styles_agree (nulls names) template complete
  refine ⟨simple, bound, ?_⟩
  rw [agree.in_order, List.length_flatMap]
  have single : ∀ name ∈ template.names,
      (bindingOf (some (nulls names)) name).values.length = 1 := by
    intro name member
    rw [bindingOf_of_lookup (lookup_nulls (given name member))]
    rfl
  rw [List.map_congr_left single, List.map_const', List.sum_replicate_nat, Nat.mul_one]

/-- Two templates that bind alike, whatever is given, have as many names. -/
theorem Template.length_names_of_bind {template other : Template}
    (alike : ∀ style given, template.bind style given = other.bind style given) :
    template.names.length = other.names.length := by
  have same := alike .simple (some (nulls (template.names ++ other.names)))
  obtain ⟨bound, first, count⟩ := bind_nulls fun name member =>
    List.mem_append_left other.names member
  obtain ⟨boundOther, second, countOther⟩ := bind_nulls fun name member =>
    List.mem_append_right template.names member
  rw [first, second] at same
  obtain rfl := Except.ok.inj same
  exact count.symm.trans countOther

/-- **When quoted literals are closed to parameters**: a query is normalized with its literals as
they are and its parameters outside of them exactly when no literal, read by itself, has a
parameter. The name of one that has is required like any other. -/
theorem normalize_keeps_literals_iff (query : String) :
    ((∀ style given, normalize style given query =
        ((Quoting.ofQuery query).cut Template.ofText).bind style given) ↔
      (Quoting.ofQuery query).quotedNames = []) ∧
    ∀ name ∈ (Quoting.ofQuery query).quotedNames, ∀ style given, isMissing given name = true →
      ∃ missing, normalize style given query = .error (.missingBinds missing) ∧ name ∈ missing := by
  have whole := Quoting.ofQuery_eq_cut query
  have names := Quoting.names_cut_perm (Quoting.ofQuery query).literals (Quoting.ofQuery query).lead
  constructor
  · constructor
    · intro kept
      unfold normalize at kept
      -- bound to nulls, the two templates show how many names they have
      have lengths := Template.length_names_of_bind kept
      rw [whole, names.length_eq, List.length_append] at lengths
      refine List.eq_nil_of_length_eq_zero ?_
      exact Nat.left_eq_add.1 lengths.symm
    · intro unnamed style given
      unfold normalize
      rw [whole]
      exact congrArg (Template.bind style given) (Quoting.cut_of_unnamed _ _ unnamed)
  · intro name quoted style given absent
    have member : name ∈ (Template.ofQuery query).names := by
      rw [whole]
      exact names.mem_iff.2 (List.mem_append_right _ quoted)
    exact Template.bind_missing member absent style

/-- **A time format is taken for parameters**: the query asks for values of two
names in its literal. -/
theorem normalize_requires_quoted_names :
    let query := "select to_char(t, 'HH24:MI:SS') from log where id = :id"
    let given : Option Binds := some [("id", .int 7)]
    (Quoting.ofQuery query).literals.map (fun entry => String.ofList entry.1) = ["'HH24:MI:SS'"] ∧
      ((Quoting.ofQuery query).cut Template.ofText).bind .simple given =
        .ok ⟨"select to_char(t, 'HH24:MI:SS') from log where id = ?", [.int 7]⟩ ∧
      normalize .simple given query = .error (.missingBinds ["MI", "SS"]) ∧
      ¬ ∀ style given, normalize style given query =
        ((Quoting.ofQuery query).cut Template.ofText).bind style given := by
  intro query given
  have quoting : Quoting.ofQuery query = ⟨"select to_char(t, ".toList,
      [("'HH24:MI:SS'".toList, ") from log where id = :id".toList)]⟩ := by decide +kernel
  have kept : (Quoting.ofQuery query).cut Template.ofText =
      ⟨"select to_char(t, 'HH24:MI:SS') from log where id = ".toList, [("id".toList, [])]⟩ := by
    rw [quoting]
    decide +kernel
  have expected : ((Quoting.ofQuery query).cut Template.ofText).bind .simple given =
      .ok ⟨"select to_char(t, 'HH24:MI:SS') from log where id = ?", [.int 7]⟩ := by
    have text :
      String.ofList (Template.fill ⟨"select to_char(t, 'HH24:MI:SS') from log where id = ".toList,
        [("id".toList, [])]⟩ (["?"].map String.toList)) =
          "select to_char(t, 'HH24:MI:SS') from log where id = ?" := by decide +kernel
    rw [kept]
    exact congrArg (fun text => (Except.ok ⟨text, [.int 7]⟩ : Except Failure BoundQuery)) text
  have refused : normalize .simple given query = .error (.missingBinds ["MI", "SS"]) := by
    have missing : (scanNames (SimpleScan.visit given) .start ["MI", "SS", "id"]).2.missing =
        ["MI", "SS"] := by decide +kernel
    have names : (Template.ofQuery query).names = ["MI", "SS", "id"] := by decide +kernel
    show Template.answer _ _
      (scanNames (SimpleScan.visit given) .start (Template.ofQuery query).names).2.missing _ = _
    rw [names, missing]
    rfl
  refine ⟨by rw [quoting]; rfl, expected, refused, fun alike => ?_⟩
  have same := alike .simple given
  rw [refused, expected] at same
  cases same

end QueryDesk.Sql
