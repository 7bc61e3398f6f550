/-
**What every comparison becomes in a bound query.**

The compiler chooses what it binds by the operator and the type of the column. The normalizer looks
at the value alone, and spreads out every list and tuple. The two agree on a comparison with a
single value unless the compiler hands on a list as it is.

* `Share`, `sharesFrom` — the placeholders that stand in the place of a value and what is bound
  there, one value after another. `countPlaceholders_of_share` — as many placeholders as values.
* `Writes.normalize` — a text that is written around parameters is normalized to the same text,
  written with the shares of the values.
* `Leaf.IsScalar`, `Leaf.HandsOn` — a comparison with a single value, and one whose
  value stays a list or tuple.
* `sharesOf`, `scalar_leaves_iff` — **a comparison with a single value has one
  placeholder and one bound value**, in both styles, exactly when it does not hand on a
  list or tuple of another length than one.
* `equal_spreads_list` — a text column that is compared with a list.
-/

import QueryDesk.Proofs.Placeholder.Enclosed
import QueryDesk.Proofs.Placeholder.Residue
import QueryDesk.Proofs.Value.Conversion

namespace QueryDesk

open Sql Text

namespace Sql

/-! ### Shares -/

/-- What a value becomes in a bound query: the placeholders in its place, and
the values bound there. -/
structure Share where
  text : String
  values : List Value

/-- The placeholders of a binding, behind the positions that are given away. -/
def shareText (style : PlaceholderStyle) (place : Nat) (binding : Binding) : String :=
  match style with
  | .simple => SimpleScan.text binding
  | .positioned => Block.numbered ((List.range binding.width).map (place + 1 + ·))

/-- The shares of values, one after another behind the positions that are given away. -/
def sharesFrom (style : PlaceholderStyle) : Nat → List Value → List Share
  | _, [] => []
  | place, value :: rest =>
    ⟨shareText style place (.ofValue value), (Binding.ofValue value).values⟩ ::
      sharesFrom style (place + (Binding.ofValue value).width) rest

section Shares

variable (style : PlaceholderStyle)

theorem length_sharesFrom (values : List Value) :
    ∀ place : Nat, (sharesFrom style place values).length = values.length := by
  induction values with
  | nil => exact fun _ => rfl
  | cons value rest ih =>
    intro place
    rw [sharesFrom, List.length_cons, List.length_cons, ih]

theorem sharesFrom_append (first second : List Value) : ∀ place : Nat,
    sharesFrom style place (first ++ second) =
      sharesFrom style place first ++ sharesFrom style (place + (spread first).length) second := by
  induction first with
  | nil => exact fun _ => rfl
  | cons value first ih =>
    intro place
    have widths : (spread (value :: first)).length =
        (Binding.ofValue value).width + (spread first).length := List.length_append
    rw [List.cons_append, sharesFrom, ih, sharesFrom, widths, List.cons_append, Nat.add_assoc]

/-- The share of a value behind others. -/
theorem getElem?_sharesFrom (place : Nat) (before : List Value) (value : Value)
    (behind : List Value) :
    (sharesFrom style place (before ++ value :: behind))[before.length]? =
      some ⟨shareText style (place + (spread before).length) (.ofValue value),
        (Binding.ofValue value).values⟩ := by
  have count := length_sharesFrom style before place
  rw [sharesFrom_append, sharesFrom, List.getElem?_append_right (Nat.le_of_eq count), count,
    Nat.sub_self]
  rfl

/-- The values of all shares are the values, lists and tuples spread out. -/
theorem values_sharesFrom (values : List Value) :
    ∀ place : Nat, (sharesFrom style place values).flatMap Share.values = spread values := by
  induction values with
  | nil => exact fun _ => rfl
  | cons value rest ih =>
    intro place
    exact congrArg ((Binding.ofValue value).values ++ ·) (ih _)

/-- The placeholders of all shares, as the two styles write them. -/
theorem texts_sharesFrom (values : List Value) : ∀ place : Nat,
    (sharesFrom style place values).map (fun share => share.text.toList) =
      match style with
      | .simple => values.map fun value => (SimpleScan.text (.ofValue value)).toList
      | .positioned =>
        (placesFrom place values).map fun numbers => (Block.numbered numbers).toList := by
  induction values with
  | nil => cases style <;> exact fun _ => rfl
  | cons value rest ih =>
    intro place
    cases style <;> exact congrArg (_ :: ·) (ih _)

theorem showsPlaceholders_shareText (place : Nat) (binding : Binding) :
    ShowsPlaceholders (shareText style place binding) := by
  cases style with
  | simple => exact .questions _
  | positioned => exact .numbered _

/-- **A share has as many placeholders as values.** -/
theorem countPlaceholders_of_share (place : Nat) (binding : Binding) :
    countPlaceholders style (shareText style place binding).toList = binding.values.length := by
  cases style with
  | simple => exact count_questions _
  | positioned =>
    have shown := @placeholders_append_numbered ((List.range binding.width).map (place + 1 + ·)) []
      (by rintro _ ⟨⟩)
    rw [List.append_nil] at shown
    show (placeholders (Block.numbered _).toList).length = _
    rw [shown, List.length_append, List.length_map, List.length_map, List.length_range]
    rfl

theorem forall_mem_sharesFrom {claim : Share → Prop}
    (each : ∀ place value,
      claim ⟨shareText style place (.ofValue value), (Binding.ofValue value).values⟩)
    (values : List Value) : ∀ place : Nat, ∀ share ∈ sharesFrom style place values,
      claim share := by
  induction values with
  | nil => exact fun _ => List.forall_mem_nil _
  | cons value rest ih => exact fun place => List.forall_mem_cons.2 ⟨each place value, ih _⟩

end Shares

/-- The text of the share of a parameter, where the first parameter has the given number. -/
def shareParam (shares : List Share) (position number : Int) : String :=
  ((shares[(number - position).toNat]?).map Share.text).getD ""

theorem shareParam_of_getElem? {shares : List Share} {place : Nat} {share : Share}
    (found : shares[place]? = some share) (position : Int) :
    shareParam shares position (position + place) = share.text := by
  have offset : (position + (place : Int) - position).toNat = place := by omega
  rw [shareParam, offset, found]
  rfl

theorem numbered_shareParam (shares : List Share) (position : Int) :
    numbered (fun number => (shareParam shares position number).toList) position shares.length =
      shares.map fun share => share.text.toList := by
  unfold numbered
  refine List.ext_getElem? fun place => ?_
  rw [List.getElem?_map, List.getElem?_map]
  by_cases inside : place < shares.length
  · have found := List.getElem?_eq_getElem inside
    rw [List.getElem?_range inside, found]
    exact congrArg (fun text : String => some text.toList) (shareParam_of_getElem? found position)
  · rw [List.getElem?_eq_none (by simpa using inside),
      List.getElem?_eq_none (by simpa using inside)]
    rfl

/-! ### Texts written around parameters, normalized -/

/-- **A text that is written around parameters is normalized to the same text, written with
shares**, but for line breaks. -/
theorem Writes.normalize {position : Int} {count : Nat} {text : (Int → String) → String}
    (writes : Writes position count text) (start : 0 ≤ position) {values : List Value}
    (lengths : values.length = count) (style : PlaceholderStyle) :
    normalize style (some (bindsFrom position values)) (text namedParam) =
      .ok ⟨String.ofList (unifyLineBreaks
        (text (shareParam (sharesFrom style 0 values) position)).toList), spread values⟩ := by
  obtain ⟨template, tidy, names, filled⟩ := writes
  have cut : Template.ofQuery (text namedParam) = template.unified :=
    Template.ofQuery_of_tidy tidy ((filled namedParam).trans (source_eq_fill_numbered names).symm)
  have named : template.unified.names = (bindsFrom position values).map Prod.fst := by
    rw [Template.names_unified, names, map_fst_bindsFrom, lengths]
  have distinct : ((bindsFrom position values).map Prod.fst).Nodup := by
    rw [map_fst_bindsFrom]
    exact nodup_bindNames _ start
  have slots : template.slots.length = count := by
    have counted := congrArg List.length names
    rwa [Template.names, List.length_map, length_bindNames] at counted
  -- the shares have no line breaks, so making line breaks equal does not touch them
  have shown : unifyLineBreaks (text (shareParam (sharesFrom style 0 values) position)).toList =
      template.unified.fill ((sharesFrom style 0 values).map fun share => share.text.toList) := by
    have spelled := numbered_shareParam (sharesFrom style 0 values) position
    rw [length_sharesFrom, lengths] at spelled
    rw [filled, spelled]
    refine Template.unifyLineBreaks_fill template.slots template.lead ?_ (List.forall_mem_map.2 ?_)
    · rw [List.length_map, length_sharesFrom, lengths, slots]
    · refine forall_mem_sharesFrom style (fun place value => ?_) values 0
      have shows := showsPlaceholders_shareText style place (.ofValue value)
      obtain ⟨c, first, -⟩ := shows.opens
      refine ⟨fun nothing => ?_, fun c inside => ?_⟩
      · rw [nothing] at first
        cases first
      · exact ⟨ne_of_test (shows.chars c inside) (by decide),
          ne_of_test (shows.chars c inside) (by decide)⟩
  obtain ⟨positioned, simple⟩ := Template.bind_distinct template.unified _ distinct named
  rw [map_snd_bindsFrom] at positioned simple
  unfold Sql.normalize
  rw [cut, shown, texts_sharesFrom]
  cases style with
  | simple => exact simple
  | positioned => exact positioned

end Sql

/-! ### Comparisons with a single value -/

namespace Leaf

/-- A comparison with a single value: no test for null, and no operator on lists. -/
def IsScalar (leaf : Leaf) : Prop :=
  Operator.takesNoValue leaf.operator = false ∧ Operator.takesList leaf.operator = false

/-- A comparison with a single value that hands on a list or tuple as it is: the operator makes no
pattern of it, and the column does not ask for a conversion. -/
def HandsOn (columns : ColumnTypes) (leaf : Leaf) (items : List Value) : Prop :=
  leaf.operator ≠ "startsWith" ∧ leaf.operator ≠ "endsWith" ∧
    (columns.typeOf leaf.fact).converts = false ∧ leaf.value.elements? = some items

variable {leaf : Leaf}

theorem IsScalar.ne_between (scalar : leaf.IsScalar) : leaf.operator ≠ "between" := fun same => by
  have list := scalar.2
  rw [same] at list
  cases list

theorem IsScalar.width (scalar : leaf.IsScalar) : leaf.width = 1 := by
  unfold Leaf.width arity
  rw [if_neg (by rw [scalar.1]; exact Bool.false_ne_true), if_neg scalar.ne_between]

theorem IsScalar.textWith (scalar : leaf.IsScalar) (param : Int → String) (quote : Bool)
    (position : Int) :
    leaf.textWith param quote position =
      quoteName quote leaf.fact ++ " " ++ leaf.sqlWord?.getD "" ++ " " ++ param position := by
  unfold Leaf.textWith tailWith
  rw [if_neg (by rw [scalar.1]; exact Bool.false_ne_true), if_neg scalar.ne_between,
    if_neg (by rw [scalar.2]; exact Bool.false_ne_true)]
  simp only [String.append_assoc]

/-- What a comparison with a single value binds. -/
theorem IsScalar.bound {columns : ColumnTypes} (scalar : leaf.IsScalar)
    (compiles : leaf.Compiles columns) :
    ∃ single, singleValue leaf.operator (columns.typeOf leaf.fact) leaf.value = .ok single ∧
      leaf.bound columns = [single] := by
  obtain ⟨-, values, found⟩ := compiles
  have binds := found
  unfold Leaf.bound? boundValues at binds
  rw [if_neg (by rw [scalar.1]; exact Bool.false_ne_true), if_neg scalar.ne_between,
    if_neg (by rw [scalar.2]; exact Bool.false_ne_true)] at binds
  obtain ⟨single, made, rfl⟩ := map_eq_ok_iff.1 binds
  exact ⟨single, made, bound_eq found⟩

/-- **The single value is a list or tuple exactly when the leaf hands one on.** -/
theorem elements?_singleValue {columns : ColumnTypes} {single : Value}
    (found : singleValue leaf.operator (columns.typeOf leaf.fact) leaf.value = .ok single)
    (items : List Value) :
    single.elements? = some items ↔ leaf.HandsOn columns items := by
  have pattern {make : String → String} (made : likePattern leaf.value make = .ok single) :
      single.elements? = none := by
    unfold likePattern at made
    split at made
    · cases made
      rfl
    · obtain ⟨text, -, rfl⟩ := map_eq_ok_iff.1 made
      rfl
  unfold singleValue at found
  unfold HandsOn
  by_cases starts : leaf.operator = "startsWith"
  · rw [if_pos starts] at found
    simp [starts, pattern found]
  · rw [if_neg starts] at found
    by_cases closes : leaf.operator = "endsWith"
    · rw [if_pos closes] at found
      simp [closes, pattern found]
    · rw [if_neg closes] at found
      rw [ColumnType.elements?_convert found]
      cases (columns.typeOf leaf.fact).converts <;> simp [starts, closes]

end Leaf

namespace Sql

theorem length_values_ofValue (value : Value) :
    (Binding.ofValue value).values.length = 1 ↔ ∀ items, value.elements? = some items →
      items.length = 1 := by
  unfold Binding.ofValue
  cases value.elements? <;> simp [Binding.values]

/-- Text without placeholders in front of others. -/
theorem countPlaceholders_append {style : PlaceholderStyle} {text : List Char}
    (quiet : ∀ c ∈ text, isInert c = true ∧ c ≠ '?') (rest : List Char) :
    countPlaceholders style (text ++ rest) = countPlaceholders style rest := by
  cases style with
  | simple =>
    show (text ++ rest).count '?' = _
    rw [List.count_append, List.count_eq_zero.2 fun member => (quiet '?' member).2 rfl,
      Nat.zero_add]
    rfl
  | positioned =>
    show (placeholders (text ++ rest)).length = _
    rw [placeholders_append_of_inert fun c member => (quiet c member).1]
    rfl

/-- What stands before the parameter of a leaf has no placeholder. -/
theorem quiet_before_param {leaf : Leaf}
    (quiet : ∀ c ∈ leaf.fact.toList, isInert c = true ∧ c ≠ '?') (quote : Bool) :
    ∀ c ∈ (quoteName quote leaf.fact ++ " " ++ leaf.sqlWord?.getD "" ++ " ").toList,
      isInert c = true ∧ c ≠ '?' := by
  have words : ∀ entry ∈ Operator.words, IsPlain entry.2.toList := by decide
  simp only [String.toList_append]
  refine List.forall_mem_append.2
    ⟨List.forall_mem_append.2 ⟨List.forall_mem_append.2 ⟨?_, ?_⟩, ?_⟩, ?_⟩
  · exact forall_mem_quoteName (by decide) quote quiet
  · exact List.forall_mem_singleton.2 (by decide)
  · exact forall_mem_sqlWord (fun entry member c inside =>
      (words entry member c inside).imp_right fun clean => ne_of_test clean (by decide)) leaf
  · exact List.forall_mem_singleton.2 (by decide)

/-- A leaf with a single value has the placeholders that stand in the place of its parameter. -/
theorem countPlaceholders_of_scalar {leaf : Leaf} (scalar : leaf.IsScalar)
    (quiet : ∀ c ∈ leaf.fact.toList, isInert c = true ∧ c ≠ '?') (style : PlaceholderStyle)
    (param : Int → String) (quote : Bool) (position : Int) :
    countPlaceholders style (leaf.textWith param quote position).toList =
      countPlaceholders style (param position).toList := by
  rw [scalar.textWith, String.toList_append,
    countPlaceholders_append (quiet_before_param quiet quote)]

/-- The shares of the values of a tree. -/
def sharesOf (style : PlaceholderStyle) (columns : ColumnTypes) (tree : ConditionTree) :
    List Share :=
  sharesFrom style 0 (boundOf columns tree.leaves)

/-- The share of a leaf with a single value. -/
theorem getElem?_sharesOf (style : PlaceholderStyle) {columns : ColumnTypes} {tree : ConditionTree}
    {before behind : List Leaf} {leaf : Leaf} {single : Value}
    (parts : tree.leaves = before ++ leaf :: behind)
    (compiles : ∀ earlier ∈ before, earlier.Compiles columns)
    (bound : leaf.bound columns = [single]) :
    (sharesOf style columns tree)[widthOf before]? =
      some ⟨shareText style (0 + (spread (boundOf columns before)).length) (.ofValue single),
        (Binding.ofValue single).values⟩ := by
  have values : boundOf columns tree.leaves =
    boundOf columns before ++ single :: boundOf columns behind := by
    rw [parts, boundOf_append]
    show _ ++ (leaf.bound columns ++ boundOf columns behind) = _
    rw [bound]
    rfl
  rw [sharesOf, values, ← length_boundOf compiles]
  exact getElem?_sharesFrom style 0 _ single _

section Tree

variable (columns : ColumnTypes) (quote : Bool)

/-- **When a comparison with a single value stays one.** The bound query is the text of the tree
with shares in the places of its parameters, and binds the values of the shares. A leaf that
compares with a single value has one share, and in its own text one placeholder and one bound value,
exactly when the compiler hands on no list or tuple of another length than one to the normalizer. -/
theorem scalar_leaves_iff {indent : String} (blanks : ∀ c ∈ indent.toList, isBlank c = true)
    {position : Int} (start : 0 ≤ position) (tree : ConditionTree)
    (compiles : ∀ leaf ∈ tree.leaves, leaf.Compiles columns)
    (quiet : ∀ leaf ∈ tree.leaves, ∀ c ∈ leaf.fact.toList, isInert c = true ∧ c ≠ '?')
    (style : PlaceholderStyle) :
    let shares := sharesOf style columns tree
    ∃ clause bound, compile columns quote indent position tree = .ok clause ∧
      normalize style (some clause.binds) clause.text = .ok bound ∧
      shares.length = widthOf tree.leaves ∧
      bound.query = String.ofList (unifyLineBreaks
        (treeTextWith (shareParam shares position) quote indent position tree).toList) ∧
      bound.binds = shares.flatMap Share.values ∧
      ∀ before leaf behind, tree.leaves = before ++ leaf :: behind → leaf.IsScalar →
        leaf.width = 1 ∧ ∃ share, shares[widthOf before]? = some share ∧
          (countPlaceholders style (leaf.textWith (shareParam shares position) quote
              (position + widthOf before)).toList = 1 ∧ share.values.length = 1 ↔
            ∀ items, leaf.HandsOn columns items → items.length = 1) := by
  intro shares
  have writes := writes_tree quote blanks start fun leaf member c inside =>
    (quiet leaf member c inside).1
  have lengths := length_boundOf compiles
  have normalized := writes.normalize start lengths style
  rw [← treeText_eq_treeTextWith] at normalized
  refine ⟨_, _, compile_eq columns quote indent position tree compiles, normalized, ?_, rfl,
    (values_sharesFrom style _ 0).symm, ?_⟩
  · exact (length_sharesFrom style _ 0).trans lengths
  · intro before leaf behind parts scalar
    rw [parts] at compiles
    obtain ⟨earlier, later⟩ := List.forall_mem_append.1 compiles
    obtain ⟨single, made, bound⟩ := scalar.bound (later leaf List.mem_cons_self)
    have found := getElem?_sharesOf style parts earlier bound
    have own : ∀ c ∈ leaf.fact.toList, isInert c = true ∧ c ≠ '?' :=
      quiet leaf (by rw [parts]; simp)
    have counted : countPlaceholders style (leaf.textWith (shareParam shares position) quote
        (position + widthOf before)).toList = (Binding.ofValue single).values.length := by
      rw [countPlaceholders_of_scalar scalar own, shareParam_of_getElem? found position]
      exact countPlaceholders_of_share style _ (.ofValue single)
    refine ⟨scalar.width, _, found, ?_⟩
    rw [counted, and_self, length_values_ofValue]
    exact forall_congr' fun items => imp_congr_left (Leaf.elements?_singleValue made items)

end Tree

/-- A list for a text column and one element in a tuple, next to a list for a column of numbers. -/
theorem scalar_leaves_iff_of_lists :
    let columns : ColumnTypes := [("age", .integer), ("tags", .json)]
    let tree : ConditionTree := ⟨.all, [.leaf ⟨"age", "equal", .list [.int 1, .int 2]⟩,
      .group .any [.leaf ⟨"age", "between", .list [.int 1, .int 2]⟩,
        .leaf ⟨"tags", "notEqual", .tuple [.text "a"]⟩, .leaf ⟨"name", "equal", .list []⟩]]⟩
    (∀ c ∈ standardIndent.toList, isBlank c = true) ∧ (0 : Int) ≤ 1 ∧
      (∀ leaf ∈ tree.leaves, leaf.Compiles columns) ∧
      (∀ leaf ∈ tree.leaves, ∀ c ∈ leaf.fact.toList, isInert c = true ∧ c ≠ '?') ∧
      let shares := sharesOf .positioned columns tree
      ∃ clause bound, compile columns false standardIndent 1 tree = .ok clause ∧
        normalize .positioned (some clause.binds) clause.text = .ok bound ∧
        shares.length = widthOf tree.leaves ∧
        bound.query = String.ofList (unifyLineBreaks
          (treeTextWith (shareParam shares 1) false standardIndent 1 tree).toList) ∧
        bound.binds = shares.flatMap Share.values ∧
        ∀ before leaf behind, tree.leaves = before ++ leaf :: behind → leaf.IsScalar →
          leaf.width = 1 ∧ ∃ share, shares[widthOf before]? = some share ∧
            (countPlaceholders .positioned (leaf.textWith (shareParam shares 1) false
                (1 + widthOf before)).toList = 1 ∧ share.values.length = 1 ↔
              ∀ items, leaf.HandsOn columns items → items.length = 1) := by
  intro columns tree
  have blanks : ∀ c ∈ standardIndent.toList, isBlank c = true := List.all_eq_true.1 (by decide)
  have compiles : ∀ leaf ∈ tree.leaves, leaf.Compiles columns := by
    refine List.forall_mem_cons.2 ⟨⟨rfl, [.null], ?_⟩, List.forall_mem_cons.2 ⟨⟨rfl, _, rfl⟩,
      List.forall_mem_cons.2 ⟨⟨rfl, _, rfl⟩, List.forall_mem_cons.2 ⟨⟨rfl, _, rfl⟩, ?_⟩⟩⟩⟩
    · rfl
    · exact List.forall_mem_nil _
  have plain : ∀ leaf ∈ tree.leaves, IsPlain leaf.fact.toList := by decide
  have quiet : ∀ leaf ∈ tree.leaves, ∀ c ∈ leaf.fact.toList, isInert c = true ∧ c ≠ '?' :=
    fun leaf member c inside => (plain leaf member c inside).imp_right fun clean =>
      ne_of_test clean (by decide)
  exact ⟨blanks, by decide, compiles, quiet,
    scalar_leaves_iff columns false blanks (by decide) tree compiles quiet .positioned⟩

/-- **A list for a text column is spread out**: the comparison has two placeholders and two values,
and for an empty list none. -/
theorem equal_spreads_list :
    let tree (items : List Value) : ConditionTree := ⟨.all, [.leaf ⟨"name", "equal", .list items⟩]⟩
    let query (style : PlaceholderStyle) (items : List Value) : Except Failure BoundQuery :=
      (compile [("name", .text)] false standardIndent 1 (tree items)).bind fun clause =>
        normalize style (some clause.binds) clause.text
    query .simple [.text "a", .text "b"] = .ok ⟨"  name = ?,?", [.text "a", .text "b"]⟩ ∧
      query .positioned [.text "a", .text "b"] = .ok ⟨"  name = $1,$2", [.text "a", .text "b"]⟩ ∧
      query .simple [] = .ok ⟨"  name =  null ", []⟩ ∧
      query .positioned [] = .ok ⟨"  name =  null ", []⟩ := by
  intro tree query
  have cut : Template.ofQuery "  name = :val1" = ⟨"  name = ".toList, [("val1".toList, [])]⟩ := by
    decide +kernel
  have bound (style : PlaceholderStyle) (items : List Value) :
      query style items = Template.bind style (some [("val1", .list items)])
        ⟨"  name = ".toList, [("val1".toList, [])]⟩ := by
    rw [← cut]
    rfl
  rw [bound, bound, bound, bound]
  exact ⟨rfl, rfl, rfl, rfl⟩

end Sql

end QueryDesk
