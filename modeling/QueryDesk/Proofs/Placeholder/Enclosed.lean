/-
**Queries around names in backticks, normalized.**

* `KeepsNames` — a bound query that is read back: the names stand between its backticks, and behind
  each name stand as many placeholders as values are bound there.
* `normalize_keeps_names` — a query framed around names is normalized so when it has no comment and
  no name has a parameter in it.
* `uncommented_of_keeps`, `unnamed_of_keeps` — and only then: there are fewer comment signs or
  colons between the backticks otherwise.
-/

import QueryDesk.Proofs.Clause.Chain
import QueryDesk.Proofs.Placeholder.Backticks

namespace QueryDesk.Sql

open Text

/-! ### What is read back -/

/-- The number of placeholders in a text. -/
def countPlaceholders (style : PlaceholderStyle) (text : List Char) : Nat :=
  match style with
  | .simple => text.count '?'
  | .positioned => (placeholders text).length

/-- Names, each with the values that are bound behind it. -/
abbrev NamedValues := List (String × List Value)

/-- All values, in order. -/
def NamedValues.values (entries : NamedValues) : List Value := entries.flatMap Prod.snd

/-- A bound query that keeps names: each stands between backticks, with the placeholders of its
values behind it and none in front of the first, and the values are bound in order. Numbered
placeholders are numbered from one on. -/
structure KeepsNames (style : PlaceholderStyle) (entries : NamedValues) (bound : BoundQuery) :
    Prop where
  names : backtickNames bound.query = entries.map Prod.fst
  counts : (textsAround bound.query).map (countPlaceholders style) =
    0 :: entries.map fun entry => (spread entry.2).length
  numbered : style = .positioned → (textsAround bound.query).flatMap placeholders =
    (List.range (spread entries.values).length).map fun place => placeholder (1 + place)
  binds : bound.binds = spread entries.values

/-! ### The parameters behind names -/

/-- Names with the parameters of their values, numbered one after another. -/
def numberedSlots : Int → NamedValues → List (String × List String)
  | _, [] => []
  | position, (name, values) :: rest =>
    (name, bindNames position values.length) :: numberedSlots (position + values.length) rest

/-- By induction on the entries: the slots bear their names. -/
theorem map_fst_numberedSlots (entries : NamedValues) :
    ∀ position : Int, (numberedSlots position entries).map Prod.fst = entries.map Prod.fst := by
  induction entries with
  | nil => exact fun _ => rfl
  | cons entry rest ih =>
    intro position
    exact congrArg (entry.1 :: ·) (ih _)

/-- By induction on the entries: the parameters of the slots are numbered through. -/
theorem flatMap_numberedSlots (entries : NamedValues) : ∀ position : Int,
    (numberedSlots position entries).flatMap Prod.snd =
      bindNames position entries.values.length := by
  induction entries with
  | nil => exact fun _ => rfl
  | cons entry rest ih =>
    intro position
    unfold NamedValues.values at ih ⊢
    rw [numberedSlots, List.flatMap_cons, ih, List.flatMap_cons, List.length_append, bindNames_add]

/-- The texts of placeholders in the simple style, name by name. -/
def simpleGroups (entries : NamedValues) : List (List (List Char)) :=
  entries.map fun entry => entry.2.map fun value => (SimpleScan.text (.ofValue value)).toList

/-- The positions of values, name by name. -/
def placeGroups : Nat → NamedValues → List (List (List Nat))
  | _, [] => []
  | position, (_, values) :: rest =>
    placesFrom position values :: placeGroups (position + (spread values).length) rest

theorem flatten_simpleGroups (entries : NamedValues) : (simpleGroups entries).flatten =
    entries.values.map fun value => (SimpleScan.text (.ofValue value)).toList := by
  unfold simpleGroups NamedValues.values
  rw [List.map_flatMap, List.flatMap_def]

/-- Values behind others have the places behind theirs. -/
theorem placesFrom_append (first second : List Value) : ∀ position : Nat,
    placesFrom position (first ++ second) =
      placesFrom position first ++ placesFrom (position + (spread first).length) second := by
  induction first with
  | nil => exact fun _ => rfl
  | cons value first ih =>
    intro position
    have widths : (spread (value :: first)).length =
        (Binding.ofValue value).width + (spread first).length := List.length_append
    rw [List.cons_append, placesFrom, ih, placesFrom, widths, List.cons_append, Nat.add_assoc]

theorem flatten_placeGroups (entries : NamedValues) : ∀ position : Nat,
    (placeGroups position entries).flatten = placesFrom position entries.values := by
  induction entries with
  | nil => exact fun _ => rfl
  | cons entry rest ih =>
    intro position
    unfold NamedValues.values at ih ⊢
    rw [placeGroups, List.flatten_cons, ih, List.flatMap_cons, placesFrom_append]

/-! ### Placeholders behind names -/

theorem count_questions (count : Nat) :
    (placeholderList (List.replicate count "?")).toList.count '?' = count := by
  unfold placeholderList
  cases count with
  | zero => decide
  | succ count =>
    rw [List.replicate_succ, List.isEmpty_cons, if_neg Bool.false_ne_true]
    induction count with
    | zero => decide
    | succ count ih =>
      rw [List.replicate_succ, String.intercalate_cons_cons, String.toList_append,
        String.toList_append, List.count_append, List.count_append, ih]
      have one : "?".toList.count '?' = 1 ∧ ",".toList.count '?' = 0 := by decide
      omega

/-- The characters of a filled template that its text has none of. -/
theorem Template.count_fill {c : Char} (template : Template) {texts : List (List Char)}
    (count : texts.length = template.slots.length) (apart : c ∉ template.source) :
    (template.fill texts).count c = texts.flatten.count c := by
  obtain ⟨lead, slots⟩ := template
  induction slots generalizing lead texts with
  | nil =>
    obtain rfl := List.length_eq_zero_iff.1 count
    rw [source_ofText] at apart
    show (lead ++ []).count c = 0
    rw [List.append_nil]
    exact List.count_eq_zero.2 apart
  | cons slot more ih =>
    obtain ⟨name, after⟩ := slot
    obtain ⟨text, texts, rfl⟩ := List.exists_cons_of_length_eq_add_one count
    rw [source_slot, List.mem_append, List.mem_cons, List.mem_append] at apart
    have behind := ih after (Nat.succ.inj count) fun member => apart (.inr (.inr (.inr member)))
    have none_there : lead.count c = 0 := List.count_eq_zero.2 fun member => apart (.inl member)
    rw [fill_slot, List.count_append, List.count_append, behind, none_there, Nat.zero_add,
      List.flatten_cons, List.count_append]

section Frames

variable {literals : List (List Char × List Char)} {entries : NamedValues}

/-- A text outside of names shows a question mark for each value. -/
theorem Outside.count_fill_simple {text : List Char} {names : List String}
    (outside : Outside text names) {values : List Value} (count : values.length = names.length) :
    ((Template.scan false text).fill
      (values.map fun value => (SimpleScan.text (.ofValue value)).toList)).count '?' =
        (spread values).length := by
  have apart : '?' ∉ (Template.scan false text).source := by
    rw [Template.source_scan]
    exact fun member => absurd (outside.clean '?' member) (by decide)
  have lengths : (values.map fun value => (SimpleScan.text (.ofValue value)).toList).length =
      (Template.scan false text).slots.length :=
    (List.length_map _).trans (count.trans outside.length_slots.symm)
  rw [Template.count_fill _ lengths apart, List.count_flatten, List.map_map, spread,
    List.length_flatMap]
  exact congrArg List.sum (List.map_congr_left fun value _ => count_questions _)

/-- Behind each name stand as many question marks as values. -/
theorem Frames.counts_simple (entries : NamedValues) :
    ∀ {position : Int} {literals : List (List Char × List Char)},
      Frames literals (numberedSlots position entries) →
        (List.zipWith (fun entry group => (Template.scan false entry.2).fill group) literals
          (simpleGroups entries)).map (List.count '?') =
            entries.map fun entry => (spread entry.2).length := by
  induction entries with
  | nil =>
    intro position literals frames
    cases frames
    rfl
  | cons entry rest ih =>
    intro position literals frames
    cases frames with
    | cons here frames =>
      have first := here.2.count_fill_simple (length_bindNames _ _).symm
      exact congr (congrArg List.cons first) (ih frames)

/-- Behind each name stand the placeholders of its positions. -/
theorem Frames.placeholders_positioned (entries : NamedValues) :
    ∀ {position : Int} {place : Nat} {literals : List (List Char × List Char)},
      Frames literals (numberedSlots position entries) →
        (List.zipWith (fun entry group => (Template.scan false entry.2).fill group) literals
          ((placeGroups place entries).map
            (List.map fun block => (Block.numbered block).toList))).map placeholders =
              (placeGroups place entries).map fun places => places.flatten.map placeholder := by
  induction entries with
  | nil =>
    intro position place literals frames
    cases frames
    rfl
  | cons entry rest ih =>
    intro position place literals frames
    cases frames with
    | @cons literal _ _ _ here frames =>
      have lengths : (placesFrom place entry.2).length =
          (Template.scan false literal.2).slots.length := by
        rw [length_placesFrom, here.2.length_slots, length_bindNames]
      have first := placeholders_fillNumbered _ _ _ here.2.scanned.1 lengths
      exact congr (congrArg List.cons first) (ih frames)

end Frames

/-- By induction on the entries: each slot has as many texts as parameters. -/
theorem sizes_simpleGroups (entries : NamedValues) : ∀ position : Int,
    List.Forall₂ (fun group slot => group.length = slot.2.length) (simpleGroups entries)
      (numberedSlots position entries) := by
  induction entries with
  | nil => exact fun _ => .nil
  | cons entry rest ih =>
    intro position
    exact .cons ((List.length_map _).trans (length_bindNames _ _).symm) (ih _)

/-- By induction on the entries: each slot has as many blocks as parameters. -/
theorem sizes_placeGroups (entries : NamedValues) : ∀ (position : Int) (place : Nat),
    List.Forall₂ (fun group slot => group.length = slot.2.length)
      ((placeGroups place entries).map (List.map fun block => (Block.numbered block).toList))
      (numberedSlots position entries) := by
  induction entries with
  | nil => exact fun _ _ => .nil
  | cons entry rest ih =>
    intro position place
    refine .cons ?_ (ih _ _)
    rw [List.length_map, length_placesFrom, length_bindNames]

/-! ### Queries framed around names -/

theorem stripCommentChars_eq_self {text : String} :
    stripCommentChars text.toList = text.toList ↔ stripComments text = text := by
  rw [stripComments, ← String.toList_inj, String.toList_ofList]

/-- A query framed around names without backticks and line feeds, the parameters of
their values behind them. -/
structure Encloses (query : String) (entries : NamedValues) : Prop where
  framed : Framed query.toList [] (numberedSlots 1 entries)
  closed : ∀ entry ∈ entries, '`' ∉ entry.1.toList ∧ '\n' ∉ entry.1.toList

/-- The parameters in names, each name read by itself. -/
def NamedValues.namesInside (entries : NamedValues) : List String :=
  entries.flatMap fun entry => (Template.scan false entry.1.toList).names

theorem names_backticked (name : List Char) :
    (Template.scan false (backticked name)).names = (Template.scan false name).names := by
  have single : Template.scan false ['`'] = Template.ofText ['`'] := by decide +kernel
  have split := @Template.scan_append_of_head ['`'] (by rintro _ ⟨⟩; decide) name
  rw [backticked, Template.scan_cons_of_ne (by decide), split, single]
  show ((Template.scan false name).append (Template.ofText ['`'])).names = _
  rw [Template.names_append]
  exact List.append_nil _

/-- By induction on the frames: the literals show the names of the entries. -/
theorem Frames.quotedNames_eq (entries : NamedValues) :
    ∀ {position : Int} {lead : List Char} {literals : List (List Char × List Char)},
      Frames literals (numberedSlots position entries) →
        Quoting.quotedNames ⟨lead, literals⟩ = entries.namesInside := by
  induction entries with
  | nil =>
    intro position lead literals frames
    cases frames
    rfl
  | cons entry rest ih =>
    intro position lead literals frames
    cases frames with
    | @cons literal _ literals _ here frames =>
      have behind := @ih _ lead literals frames
      unfold Quoting.quotedNames NamedValues.namesInside at behind ⊢
      rw [List.flatMap_cons, List.flatMap_cons, behind, here.1, names_backticked]

theorem unifyLineBreaks_of_not_feed {text : List Char} (plain : '\n' ∉ text) :
    unifyLineBreaks text = text := by
  fun_induction unifyLineBreaks text with
  | case1 text ih => exact absurd (List.mem_cons_of_mem _ List.mem_cons_self) plain
  | case2 c text other ih => rw [ih fun member => plain (List.mem_cons_of_mem c member)]
  | case3 => rfl

/-- The line breaks of a framed text are its own. -/
theorem Frames.unified_eq {literals : List (List Char × List Char)}
    {slots : List (String × List String)}
    (frames : Frames literals slots) (closed : ∀ slot ∈ slots, '\n' ∉ slot.1.toList)
    {lead : List Char} {names : List String} (outside : Outside lead names) :
    Quoting.unified ⟨lead, literals⟩ = ⟨lead, literals⟩ := by
  have plain : ∀ {text : List Char} {names : List String}, Outside text names →
      unifyLineBreaks text = text := by
    intro text names outside
    have whole := unifyLineBreaks_append_of_plain text [] fun c member =>
      ne_of_test (outside.clean c member) (by decide)
    rw [List.append_nil] at whole
    rw [whole, unifyLineBreaks, List.append_nil]
  have literalsEq : literals.map (fun entry => (unifyLineBreaks entry.1, unifyLineBreaks entry.2)) =
      literals := by
    induction frames with
    | nil => rfl
    | @cons entry slot _ _ here _ ih =>
      obtain ⟨closedHere, closedMore⟩ := List.forall_mem_cons.1 closed
      have named : unifyLineBreaks (backticked slot.1.toList) = backticked slot.1.toList := by
        unfold backticked
        rw [IsQuoted.unifyLineBreaks_between (by decide), unifyLineBreaks_of_not_feed closedHere,
          unifyLineBreaks]
      rw [List.map_cons, ih closedMore, here.1, plain here.2, named, ← here.1]
  unfold Quoting.unified
  rw [plain outside, literalsEq]

namespace Encloses

variable {query : String} {entries : NamedValues}

/-- No name of a slot has a backtick or a line feed. -/
theorem closed_slots (encloses : Encloses query entries) :
    ∀ slot ∈ numberedSlots 1 entries, '`' ∉ slot.1.toList ∧ '\n' ∉ slot.1.toList := by
  intro slot member
  have named := List.mem_map_of_mem (f := Prod.fst) member
  rw [map_fst_numberedSlots] at named
  obtain ⟨entry, inside, same⟩ := List.mem_map.1 named
  rw [← same]
  exact encloses.closed entry inside

/-- **A framed query without comments** is cut inside and outside of its names apart. -/
theorem cut (encloses : Encloses query entries) (whole : stripComments query = query) :
    ∃ lead literals, Outside lead [] ∧ Frames literals (numberedSlots 1 entries) ∧
      Template.ofQuery query = Quoting.cut (Template.scan false) ⟨lead, literals⟩ := by
  obtain ⟨lead, literals, text, outside, frames⟩ := encloses.framed.quoting
  refine ⟨lead, literals, outside, frames, ?_⟩
  have kept := stripCommentChars_eq_self.2 whole
  have unified :=
    frames.unified_eq (fun slot member => (encloses.closed_slots slot member).2) outside
  unfold Template.ofQuery
  rw [kept, ← text, Quoting.unifyLineBreaks_text frames.isSound, unified,
    Quoting.scan_text frames.isSound]

end Encloses

/-! ### Queries that keep their names -/

section Kept

variable {entries : NamedValues} {lead : List Char} {literals : List (List Char × List Char)}

/-- The names and the texts around them, read back from a filled text. -/
theorem Frames.read_back (frames : Frames literals (numberedSlots 1 entries))
    (closed : ∀ slot ∈ numberedSlots 1 entries, '`' ∉ slot.1.toList) (outside : Outside lead [])
    {groups : List (List (List Char))} (sizes : List.Forall₂
      (fun group slot => group.length = slot.2.length) groups (numberedSlots 1 entries))
    (shown : ∀ group ∈ groups, ArePlaceholders group) {query : String}
    (filled : query.toList = (Quoting.cut Template.ofText ⟨lead, literals⟩).fill groups.flatten) :
    backtickNames query = entries.map Prod.fst ∧
      textsAround query = (Template.scan false lead).fill [] ::
        List.zipWith (fun entry group => (Template.scan false entry.2).fill group) literals
          groups := by
  obtain ⟨odd, even⟩ := frames.parts_fill_cut closed sizes shown outside rfl (List.forall_mem_nil _)
  rw [List.nil_append, ← filled] at odd even
  refine ⟨?_, even⟩
  rw [backtickNames, odd, List.map_map, ← map_fst_numberedSlots entries 1]
  exact List.map_congr_left fun slot _ => String.ofList_toList

/-- A framed text keeps its names in the simple style. -/
theorem Frames.keepsNames_simple (frames : Frames literals (numberedSlots 1 entries))
    (closed : ∀ slot ∈ numberedSlots 1 entries, '`' ∉ slot.1.toList) (outside : Outside lead []) :
    KeepsNames .simple entries
      ⟨String.ofList ((Quoting.cut Template.ofText ⟨lead, literals⟩).fill
        (entries.values.map fun value => (SimpleScan.text (.ofValue value)).toList)),
        spread entries.values⟩ := by
  have shown : ∀ group ∈ simpleGroups entries, ArePlaceholders group := by
    intro group member
    obtain ⟨entry, -, rfl⟩ := List.mem_map.1 member
    intro text inside
    obtain ⟨value, -, rfl⟩ := List.mem_map.1 inside
    exact (ShowsPlaceholders.questions _).chars
  obtain ⟨names, around⟩ := frames.read_back closed outside (sizes_simpleGroups entries 1) shown
    (String.toList_ofList.trans (congrArg _ (flatten_simpleGroups entries).symm))
  refine ⟨names, ?_, nofun, rfl⟩
  rw [around]
  exact congr (congrArg List.cons (@Outside.count_fill_simple lead [] outside [] rfl))
    (Frames.counts_simple entries frames)

/-- By induction on the entries: each has as many places as values. -/
theorem length_flatten_placeGroups (entries : NamedValues) : ∀ place : Nat,
    (placeGroups place entries).map (fun places => places.flatten.length) =
      entries.map fun entry => (spread entry.2).length := by
  induction entries with
  | nil => exact fun _ => rfl
  | cons entry rest ih =>
    intro place
    rw [placeGroups, List.map_cons, ih, flatten_placesFrom, List.length_map, List.length_range,
      List.map_cons]

/-- A framed text keeps its names in the positioned style. -/
theorem Frames.keepsNames_positioned (frames : Frames literals (numberedSlots 1 entries))
    (closed : ∀ slot ∈ numberedSlots 1 entries, '`' ∉ slot.1.toList) (outside : Outside lead []) :
    KeepsNames .positioned entries
      ⟨String.ofList ((Quoting.cut Template.ofText ⟨lead, literals⟩).fillNumbered
        (placesFrom 0 entries.values)), spread entries.values⟩ := by
  have shown : ∀ group ∈ (placeGroups 0 entries).map
      (List.map fun block => (Block.numbered block).toList), ArePlaceholders group := by
    intro group member
    obtain ⟨places, -, rfl⟩ := List.mem_map.1 member
    intro text inside
    obtain ⟨block, -, rfl⟩ := List.mem_map.1 inside
    exact (ShowsPlaceholders.numbered block).chars
  have texts : (placesFrom 0 entries.values).map (fun block => (Block.numbered block).toList) =
      ((placeGroups 0 entries).map
        (List.map fun block => (Block.numbered block).toList)).flatten := by
    rw [← List.map_flatten, flatten_placeGroups]
  obtain ⟨names, around⟩ := frames.read_back closed outside (sizes_placeGroups entries 1 0) shown
    (String.toList_ofList.trans (congrArg _ texts))
  have before : placeholders ((Template.scan false lead).fill []) = [] :=
    placeholders_fillNumbered _ _ [] outside.scanned.1 outside.length_slots.symm
  have behind := @Frames.placeholders_positioned entries 1 0 literals frames
  unfold Template.fillNumbered
  refine ⟨names, ?_, fun _ => ?_, rfl⟩
  · have lengths := congrArg (List.map List.length) behind
    rw [List.map_map, List.map_map] at lengths
    rw [around, ← length_flatten_placeGroups entries 0]
    refine congr (congrArg List.cons (congrArg List.length before)) (lengths.trans ?_)
    exact List.map_congr_left fun places _ => List.length_map _
  · have flat : ((placeGroups 0 entries).map fun places => places.flatten.map placeholder).flatten =
        (placeGroups 0 entries).flatten.flatten.map placeholder := by
      rw [List.map_flatten, List.map_flatten, List.flatten_flatten, List.map_map]
      exact congrArg List.flatten (List.map_congr_left fun places _ => List.map_flatten)
    rw [around, List.flatMap_cons, before, List.nil_append, List.flatMap_def, behind, flat,
      flatten_placeGroups, flatten_placesFrom, List.map_map]
    refine List.map_congr_left fun place _ => ?_
    show placeholder (0 + 1 + place) = placeholder (1 + place)
    rw [Nat.zero_add]

end Kept

/-- **A framed query keeps its names** when it has no comment and no name has a parameter in it. -/
theorem normalize_keeps_names {query : String} {entries : NamedValues}
    (encloses : Encloses query entries)
    (whole : stripComments query = query) (unnamed : entries.namesInside = [])
    (style : PlaceholderStyle) :
    ∃ bound, normalize style (some (bindsFrom 1 entries.values)) query = .ok bound ∧
      KeepsNames style entries bound := by
  obtain ⟨lead, literals, outside, frames, cut⟩ := encloses.cut whole
  have closed : ∀ slot ∈ numberedSlots 1 entries, '`' ∉ slot.1.toList :=
    fun slot member => (encloses.closed_slots slot member).1
  rw [Quoting.cut_of_unnamed literals lead (frames.quotedNames_eq.trans unnamed)] at cut
  have names : (Template.ofQuery query).names = (bindsFrom 1 entries.values).map Prod.fst := by
    rw [cut, frames.names_cut outside, flatMap_numberedSlots, map_fst_bindsFrom]
    rfl
  have distinct : ((bindsFrom 1 entries.values).map Prod.fst).Nodup := by
    rw [map_fst_bindsFrom]
    exact nodup_bindNames _ (by decide)
  obtain ⟨positioned, simple⟩ := Template.bind_distinct _ _ distinct names
  rw [map_snd_bindsFrom, cut] at positioned simple
  unfold normalize
  rw [cut]
  cases style with
  | simple => exact ⟨_, simple, frames.keepsNames_simple closed outside⟩
  | positioned => exact ⟨_, positioned, frames.keepsNames_positioned closed outside⟩

section Needed

variable {query : String} {entries : NamedValues} {style : PlaceholderStyle} {given : Option Binds}
  {bound : BoundQuery}

theorem flatMap_toList_numberedSlots (entries : NamedValues) :
    (numberedSlots 1 entries).flatMap (fun slot => slot.1.toList) =
      (entries.map Prod.fst).flatMap String.toList := by
  rw [← map_fst_numberedSlots entries 1, List.flatMap_map]

/-- What is left of a query has as many characters of a class as the text it was
filled into, at most. -/
theorem countP_query_add_le {test : Char → Bool} (return_ : test '\r' = false)
    (apart : ∀ c : Char, isPlaceholderChar c = true → test c = false)
    (found : normalize style given query = .ok bound) :
    bound.query.toList.countP test + (Template.ofQuery query).slots.length * [':'].countP test ≤
      (stripCommentChars query.toList).countP test := by
  obtain ⟨texts, count, shown, filled⟩ := Template.bind_eq_fill found
  have characters : ArePlaceholders (texts.map String.toList) :=
    List.forall_mem_map.2 fun text member => (shown text member).chars
  have bounded := (Template.ofQuery query).countP_fill_add_le ((List.length_map _).trans count)
    (countP_eq_zero_of_placeholders characters apart)
  have source : (Template.ofQuery query).source =
    unifyLineBreaks (stripCommentChars query.toList) :=
    Template.source_scan _ _
  rwa [source, countP_unifyLineBreaks return_, ← filled] at bounded

/-- **A framed query that keeps its names has no comment**: one begins in a name, and without it
there are fewer comment signs than the names have. -/
theorem uncommented_of_keeps (encloses : Encloses query entries)
    (found : normalize style given query = .ok bound)
    (kept : backtickNames bound.query = entries.map Prod.fst) : stripComments query = query := by
  have signs := encloses.framed.countP_eq (by rfl) fun outside => outside.countP_sign
  have colon : [':'].countP isCommentSign = 0 := rfl
  have bounded := countP_query_add_le rfl (fun _ => not_sign_of_isPlaceholderChar) found
  have between := countP_le_of_backtickNames kept isCommentSign
  rw [flatMap_toList_numberedSlots, colon, Nat.mul_zero] at signs
  -- all signs of the query stand in names, and all names are read back: none can be gone
  rcases stripCommentChars_eq_or_lt query.toList with same | fewer
  · exact stripCommentChars_eq_self.1 same
  · omega

/-- **A framed query that keeps its names has no parameter in a name**: a placeholder
in its place has no colon. -/
theorem unnamed_of_keeps (encloses : Encloses query entries)
    (found : normalize style given query = .ok bound)
    (kept : backtickNames bound.query = entries.map Prod.fst) : entries.namesInside = [] := by
  have whole := uncommented_of_keeps encloses found kept
  have chars := stripCommentChars_eq_self.2 whole
  have apart : ∀ c : Char, isPlaceholderChar c = true → (c == ':') = false := fun c one =>
    beq_eq_false_iff_ne.2 (ne_of_test one (by decide))
  have colons := encloses.framed.countP_eq (by rfl) fun outside =>
    outside.countP_colon.trans (Nat.mul_one _).symm
  have colon : [':'].countP (· == ':') = 1 := rfl
  have bounded := countP_query_add_le rfl apart found
  have between := countP_le_of_backtickNames kept (· == ':')
  obtain ⟨lead, literals, outside, frames, cut⟩ := encloses.cut whole
  have names := (Quoting.names_cut_perm literals lead).length_eq
  rw [← cut, Template.names, List.length_map, List.length_append, frames.names_cut outside,
    frames.quotedNames_eq] at names
  -- each parameter in a name would cost a colon that the names still have
  rw [chars, colon] at bounded
  rw [flatMap_toList_numberedSlots, colon] at colons
  refine List.length_eq_zero_iff.1 ?_
  omega

end Needed

end QueryDesk.Sql
