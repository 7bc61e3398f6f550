/-
**Where the values of a bound query come from.**

* `IsBound` — a value that is given under a name, an element of an array that is, or nothing.
* `SimpleScan.visit_isBound`, `PositionedScan.visit_isBound` — one visit binds such values only;
  `scanNames_keeps` — what every visit keeps, a scan keeps.
* `Template.isBound_of_bind` — **the values of a bound query are given values, their elements, or
  nothing**, and `Template.failure_of_bind` — a query is refused for missing values only.
-/

import QueryDesk.Proofs.Placeholder.Missing

namespace QueryDesk.Sql

/-- A value that a name is bound to: nothing, or one of those that the value
given for the name stands for. -/
def IsBound (given : Option Binds) (value : Value) : Prop :=
  value = .null ∨ ∃ name content, given.bind (·.lookup name) = some content ∧
    value ∈ (Binding.ofValue content).values

variable {given : Option Binds}

theorem isBound_bindingOf (name : String) :
    ∀ value ∈ (bindingOf given name).values, IsBound given value := by
  intro value inside
  unfold bindingOf at inside
  split at inside
  · rename_i content found
    exact .inr ⟨name, content, found, inside⟩
  · exact .inl (List.mem_singleton.1 inside)

/-- What every visit keeps, a scan keeps. -/
theorem scanNames_keeps {State : Type} (kept : State → Prop)
    {visit : State → String → String × State}
    (each : ∀ state name, kept state → kept (visit state name).2) (names : List String) :
    ∀ {state : State}, kept state → kept (scanNames visit state names).2 := by
  induction names with
  | nil => exact fun held => held
  | cons name rest ih => exact fun {state} held => ih (each state name held)

/-- The values that a scan has gathered are such values. -/
def SimpleScan.HoldsBound (given : Option Binds) (scan : SimpleScan) : Prop :=
  ∀ value ∈ scan.binds, IsBound given value

theorem SimpleScan.visit_isBound (scan : SimpleScan) (name : String)
    (before : scan.HoldsBound given) :
    (SimpleScan.visit given scan name).2.HoldsBound given := by
  unfold visit
  split
  · rename_i content found
    refine List.forall_mem_append.2 ⟨before, fun value inside => ?_⟩
    exact .inr ⟨name, content, found, inside⟩
  · exact before

/-- The blocks of a scan hold such values only. -/
def PositionedScan.HoldsBound (given : Option Binds) (scan : PositionedScan) : Prop :=
  ∀ entry ∈ scan.layout, ∀ value ∈ entry.2.binding.values, IsBound given value

theorem PositionedScan.visit_isBound (scan : PositionedScan) (name : String)
    (before : scan.HoldsBound given) :
    (PositionedScan.visit given scan name).2.HoldsBound given := by
  unfold visit
  split
  · exact before
  · exact List.forall_mem_append.2 ⟨before, List.forall_mem_singleton.2 (isBound_bindingOf name)⟩

theorem mem_putFrom {value : Value} (values : List Value) : ∀ {place : Nat} {slots : List Value},
    value ∈ Block.putFrom place values slots → value ∈ slots ∨ value ∈ values := by
  induction values with
  | nil => exact .inl
  | cons first rest ih =>
    intro place slots inside
    rw [Block.putFrom] at inside
    rcases ih inside with there | later
    · rcases List.mem_or_eq_of_mem_set there with before | rfl
      · exact .inl before
      · exact .inr List.mem_cons_self
    · exact .inr (List.mem_cons_of_mem first later)

theorem foldl_fill_isBound (blocks : List Block)
    (each : ∀ block ∈ blocks, ∀ value ∈ block.binding.values, IsBound given value) :
    ∀ {slots : List Value}, (∀ value ∈ slots, IsBound given value) →
      ∀ value ∈ blocks.foldl Block.fill slots, IsBound given value := by
  induction blocks with
  | nil => exact fun before => before
  | cons block rest ih =>
    intro slots before
    obtain ⟨here, others⟩ := List.forall_mem_cons.1 each
    exact ih others fun value inside => (mem_putFrom _ inside).elim (before value) (here value)

theorem PositionedScan.values_isBound {scan : PositionedScan} (held : scan.HoldsBound given) :
    ∀ value ∈ scan.values given, IsBound given value := by
  have blank : ∀ value ∈ List.replicate scan.position Value.null, IsBound given value :=
    fun value inside => .inl (List.eq_of_mem_replicate inside)
  unfold values
  split
  · exact blank
  · exact foldl_fill_isBound _ (List.forall_mem_map.2 held) blank

namespace Template

theorem answer_eq_ok {template : Template} {texts missing : List String} {binds : List Value}
    {bound : BoundQuery} (done : template.answer texts missing binds = .ok bound) :
    bound.binds = binds := by
  unfold answer at done
  split at done
  · rw [← Except.ok.inj done]
  · cases done

/-- **The values of a bound query** are given values, their elements, or nothing. -/
theorem isBound_of_bind {style : PlaceholderStyle} {template : Template} {bound : BoundQuery}
    (done : template.bind style given = .ok bound) :
    ∀ value ∈ bound.binds, IsBound given value := by
  cases style with
  | simple =>
    rw [answer_eq_ok done]
    exact scanNames_keeps (SimpleScan.HoldsBound given) SimpleScan.visit_isBound template.names
      (show SimpleScan.start.HoldsBound given from nofun)
  | positioned =>
    rw [answer_eq_ok done]
    refine PositionedScan.values_isBound ?_
    exact scanNames_keeps (PositionedScan.HoldsBound given) PositionedScan.visit_isBound
      template.names
      (show PositionedScan.start.HoldsBound given from nofun)

/-- A query is refused for missing values only. -/
theorem failure_of_bind {style : PlaceholderStyle} {template : Template} {failure : Failure}
    (failed : template.bind style given = .error failure) :
    ∃ names, failure = .missingBinds names :=
  ⟨missingNames given template.names, (bind_eq_error_iff.1 failed).2⟩

end Template

end QueryDesk.Sql
