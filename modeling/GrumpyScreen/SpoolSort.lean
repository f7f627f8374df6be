import GrumpyScreen.Lib.Ieee
import GrumpyScreen.Spoolman
import Mathlib.Data.String.Basic

/-! The orders the headers of the spool table ask for: the comparisons handed to the
sort, which of them a run of taps has chosen and the rows that are shown in it. -/

namespace GrumpyScreen

open Lib LvTable

variable {T : Type} [LvTable T]

/-- `std::sort` looks at the elements of its range only. -/
structure RangeSort (α : Type) extends StdSort α where
  orderedOn : ∀ less l, IsStrictWeakOrder {x // x ∈ l} (fun a b => less a b = true) →
    (sort less l).Pairwise fun a b => less b a = false

/-- A merge sort does no more. -/
def RangeSort.merge (α : Type) : RangeSort α where
  toStdSort := .merge α
  orderedOn less l weak := by
    have sorted := (StdSort.merge {x // x ∈ l}).ordered (fun a b => less a b) l.attach weak
    have same : ((StdSort.merge {x // x ∈ l}).sort (fun a b => less a b) l.attach).map
        Subtype.val = (StdSort.merge α).sort less l := by
      have mapped : (l.attach.mergeSort fun a b => !less b a).map Subtype.val =
          (l.attach.map Subtype.val).mergeSort fun a b => !less b a :=
        List.map_mergeSort fun a _ b _ => rfl
      rw [List.attach_map_subtype_val] at mapped
      exact mapped
    rw [← same, List.pairwise_map]
    exact sorted

/-- The columns whose header sorts. -/
inductive SortColumn where
  | id
  | name
  | mat
  | wt
  | len
deriving DecidableEq

namespace SortColumn

def ofCol : Nat → Option SortColumn
  | 0 => some .id
  | 1 => some .name
  | 2 => some .mat
  | 4 => some .wt
  | 5 => some .len
  | _ => none

def bit : SortColumn → UInt32
  | .id => SpoolmanPanel.sortedById
  | .name => SpoolmanPanel.sortedByName
  | .mat => SpoolmanPanel.sortedByMat
  | .wt => SpoolmanPanel.sortedByWt
  | .len => SpoolmanPanel.sortedByLen

/-- The comparison a column hands to the sort. -/
def less : SortColumn → Bool → Json → Json → Bool
  | .id => SpoolmanPanel.byKey spId
  | .name => SpoolmanPanel.byKey spoolName
  | .mat => SpoolmanPanel.byKey spoolMaterial
  | .wt => SpoolmanPanel.byKey fun el => spNum el ["remaining_weight"]
  | .len => SpoolmanPanel.byKey fun el => spNum el ["remaining_length"]

theorem headerTapped_eq (S : StdSort Json) (col : Nat) (p : SpoolmanPanel T) :
    p.headerTapped S col =
      match ofCol col with
      | some c => p.sortColumn S c.bit c.less
      | none => p := by
  match col with
  | 0 => rfl
  | 1 => rfl
  | 2 => rfl
  | 3 => rfl
  | 4 => rfl
  | 5 => rfl
  | n + 6 => rfl

end SortColumn

section Reads

/-- `sp_num` with the calls in it that throw on a node they are not for. -/
def readNum (j : Json) (ptr : List String) : Except JsonExn Float :=
  if (Json.resolve ptr j).isSome then do
    let v ← Json.checkedAt ptr j
    match v with
    | .int _ | .num _ => Json.getDouble v
    | _ => pure 0.0
  else pure 0.0

def readStr (j : Json) (ptr : List String) : Except JsonExn String :=
  if (Json.resolve ptr j).isSome then do
    let v ← Json.checkedAt ptr j
    if JsonLib.isString v then Json.getString v else pure ""
  else pure ""

def readSpoolId (j : Json) : Except JsonExn UInt32 :=
  if JsonLib.contains j "id" then do
    let v ← Json.checkedAt ["id"] j
    match v with
    | .int n => pure (if n > 0 then UInt32.ofInt n else 0)
    | _ => pure 0
  else pure 0

def readName (j : Json) : Except JsonExn String := do
  let vendor ← readStr j ["filament", "vendor", "name"]
  let filament ← readStr j ["filament", "name"]
  pure (vendor ++ " - " ++ filament)

/-- A comparison as it is run: both fields read, then compared. -/
def compareBy {K : Type} [LT K] [DecidableLT K] (read : Json → Except JsonExn K) (reversed : Bool)
    (a b : Json) : Except JsonExn Bool := do
  let x ← read a
  let y ← read b
  pure (if reversed then x > y else y > x)

def SortColumn.compare : SortColumn → Bool → Json → Json → Except JsonExn Bool
  | .id => compareBy readSpoolId
  | .name => compareBy readName
  | .mat => compareBy fun el => readStr el ["filament", "material"]
  | .wt => compareBy fun el => readNum el ["remaining_weight"]
  | .len => compareBy fun el => readNum el ["remaining_length"]

theorem readNum_eq (j : Json) (ptr : List String) : readNum j ptr = .ok (spNum j ptr) := by
  unfold readNum spNum
  cases there : Json.resolve ptr j with
  | none => rfl
  | some v =>
    rw [Json.checkedAt_resolve there]
    cases v <;> rfl

theorem readStr_eq (j : Json) (ptr : List String) : readStr j ptr = .ok (spStr j ptr) := by
  unfold readStr spStr
  cases there : Json.resolve ptr j with
  | none => rfl
  | some v =>
    rw [Json.checkedAt_resolve there]
    cases v <;> rfl

theorem readSpoolId_eq (j : Json) : readSpoolId j = .ok (spId j) := by
  cases j with
  | obj members =>
    show (if (members.lookup "id").isSome then _ else _) = _
    unfold spId
    simp only [Json.find, Json.checkedAt]
    cases members.lookup "id" with
    | none => rfl
    | some v => cases v <;> rfl
  | _ => rfl

theorem compareBy_eq {K : Type} [LT K] [DecidableLT K] {read : Json → Except JsonExn K}
    {key : Json → K} (reads : ∀ j, read j = .ok (key j)) (reversed : Bool) (a b : Json) :
    compareBy read reversed a b = .ok (SpoolmanPanel.byKey key reversed a b) := by
  unfold compareBy
  rw [reads, reads]
  rfl

theorem SortColumn.compare_eq (c : SortColumn) (reversed : Bool) (a b : Json) :
    c.compare reversed a b = .ok (c.less reversed a b) := by
  cases c with
  | id => exact compareBy_eq readSpoolId_eq reversed a b
  | name =>
    refine compareBy_eq (fun j => ?_) reversed a b
    unfold readName
    rw [readStr_eq, readStr_eq]
    rfl
  | mat => exact compareBy_eq (fun j => readStr_eq j _) reversed a b
  | wt => exact compareBy_eq (fun j => readNum_eq j _) reversed a b
  | len => exact compareBy_eq (fun j => readNum_eq j _) reversed a b

end Reads

section Weak

variable {β : Type*} (record : β → Json)

/-- Either way round, a comparison by a key is a strict weak order where the key's
order is a linear one. -/
theorem byKey_weak {K κ : Type} [LT K] [DecidableLT K] [LinearOrder κ] (key : Json → K)
    (place : K → κ)
    (placed : ∀ a b, key (record a) < key (record b) ↔
      place (key (record a)) < place (key (record b))) (reversed : Bool) :
    IsStrictWeakOrder β fun a b =>
      SpoolmanPanel.byKey key reversed (record a) (record b) = true := by
  cases reversed with
  | false =>
    apply weak_of_key fun a => place (key (record a))
    intro a b
    exact decide_eq_true_iff.trans (placed a b)
  | true =>
    apply weak_of_key fun a => OrderDual.toDual (place (key (record a)))
    intro a b
    exact decide_eq_true_iff.trans (placed b a)

theorem spNum_isNaN {j : Json} (parsed : j.Parsed) (ptr : List String) :
    (spNum j ptr).isNaN = false := by
  have zero : (0.0 : Float).isNaN = false := by decide +kernel
  unfold spNum
  cases there : Json.resolve ptr j with
  | none => exact zero
  | some v =>
    have read := parsed.resolve there
    cases read with
    | int i => exact Ieee.ofInt_isNaN i
    | num x number => exact number
    | _ => exact zero

theorem SortColumn.less_weak (parsed : ∀ a, (record a).Parsed) (c : SortColumn)
    (reversed : Bool) :
    IsStrictWeakOrder β fun a b => c.less reversed (record a) (record b) = true := by
  have number (ptr : List String) (a b : β) :=
    Ieee.lt_iff_place (spNum_isNaN (parsed a) ptr) (spNum_isNaN (parsed b) ptr)
  cases c with
  | id => exact byKey_weak record spId UInt32.toNat (fun a b => UInt32.lt_iff_toNat_lt) reversed
  | name => exact byKey_weak record spoolName String.toList (fun a b => String.lt_iff) reversed
  | mat => exact byKey_weak record spoolMaterial String.toList (fun a b => String.lt_iff) reversed
  | wt => exact byKey_weak record (fun el => spNum el _) Ieee.place (number _) reversed
  | len => exact byKey_weak record (fun el => spNum el _) Ieee.place (number _) reversed

end Weak

section Orders

/-- The order chosen last: a column and which way round. -/
structure SortOrder where
  column : SortColumn := .id
  descending : Bool := false

namespace SortOrder

/-- A second tap on a column turns its order round, a tap on another starts it ascending. -/
def tap (o : SortOrder) (c : SortColumn) : SortOrder :=
  if o.column = c then { o with descending := !o.descending } else { column := c }

/-- What an event makes of the order: the populations that follow a message or the
switch are by id. -/
def step (o : SortOrder) : SpoolEvent → SortOrder
  | .listReply d =>
    match reportedSpools d with
    | some (_ :: _) => {}
    | _ => o
  | .activeReply d =>
    match reportedActive SpoolmanPanel.resultPtr d with
    | some (some _) => {}
    | _ => o
  | .activeSet d =>
    match reportedActive SpoolmanPanel.paramsPtr d with
    | some (some _) => {}
    | _ => o
  | .archivedTapped => {}
  | .headerTapped col =>
    match SortColumn.ofCol col with
    | some c => o.tap c
    | none => o
  | .cellDrawn _ _ => o

def less (o : SortOrder) : Json → Json → Bool := o.column.less o.descending

/-- How `sorted_by` holds an order: the column's bit while it is ascending. -/
def flag (o : SortOrder) : UInt32 := if o.descending then 0 else o.column.bit

theorem flag_tap (o : SortOrder) (c : SortColumn) :
    (o.flag &&& c.bit != 0) = (o.tap c).descending ∧
      (o.flag ^^^ c.bit) &&& c.bit = (o.tap c).flag := by
  obtain ⟨column, descending⟩ := o
  cases descending <;> cases column <;> cases c <;> exact ⟨rfl, rfl⟩

theorem tap_column (o : SortOrder) (c : SortColumn) : (o.tap c).column = c := by
  unfold tap
  split
  · assumption
  · rfl

end SortOrder

/-- The rows of the table are the spools that pass the archive filter, each once and
each no less than those above it. -/
def ShowsSorted (less : Json → Json → Bool) (p : SpoolmanPanel T) : Prop :=
  ∃ rows : List Json,
    rows.Perm (listedSpools (!p.showArchived) p.spools.values) ∧
    rows.Pairwise (fun a b => less b a = false) ∧
    rowCnt p.table = rows.length + 1 ∧
    ∀ (i : Nat) (el : Json), rows[i]? = some el → ∀ col < 8,
      shown p.table (i + 1) col = spoolCell (spId el == p.activeId.toUInt32) el col

/-- The panel's flag holds the order chosen last, and the spools, where there are
any, are shown in it below the header, none of whose cells throws as it is drawn. -/
structure InOrder (p : SpoolmanPanel T) (o : SortOrder) : Prop where
  flag : p.sortedBy = o.flag
  headed : 0 < rowCnt p.table
  rows : p.spools.isEmpty = false → ShowsSorted o.less p
  painted : ∀ row col, Exec.Returns (SpoolmanPanel.cellDrawn row col) p

end Orders

section Events

def SpoolEvent.Parsed : SpoolEvent → Prop
  | .listReply d | .activeReply d | .activeSet d => d.Parsed
  | .archivedTapped | .headerTapped _ | .cellDrawn _ _ => True

/-- What reaches the panel, its messages as the parser makes them. -/
abbrev ParsedEvent := {event : SpoolEvent // event.Parsed}

/-- The widget has a header to tap. -/
def SpoolmanPanel.reached (p : SpoolmanPanel T) : SpoolEvent → Bool
  | .headerTapped _ => 0 < rowCnt p.table
  | _ => true

def SpoolmanPanel.take (S : RangeSort Json) (p : SpoolmanPanel T) (event : ParsedEvent) :
    SpoolmanPanel T :=
  if p.reached event.1 then p.step S.toStdSort event.1 else p

def SortOrder.take (o : SortOrder) (event : ParsedEvent) : SortOrder := o.step event.1

/-- Records the widget can count and whose colours can be looked up. -/
def listable (records : List Json) : Bool :=
  records.length + 1 < 2 ^ 16 && records.all paintable

/-- What an event leaves to be listed can be. -/
def leavesListable (p : SpoolmanPanel T) : SpoolEvent → Bool
  | .listReply d =>
    match reportedSpools d with
    | some records => listable (listedSpools (!p.showArchived) (Spools.collect records).values)
    | none => true
  | .archivedTapped => listable (listedSpools p.showArchived p.spools.values)
  | .activeReply _ | .activeSet _ | .headerTapped _ | .cellDrawn _ _ => true

end Events

section Painted

variable {p : SpoolmanPanel T}

theorem cellDrawn_returns (row col : Nat) :
    Exec.Returns (SpoolmanPanel.cellDrawn row col) p ↔
      ∀ el, p.drawnSpool row col = some el → paintable el = true := by
  unfold Exec.Returns SpoolmanPanel.cellDrawn
  rw [Exec.exec_bind_ok (Exec.exec_get p)]
  cases drawn : p.drawnSpool row col with
  | none => simp
  | some el =>
    simp only [Exec.exec_bind, Exec.exec_modify, Exec.exec_ofExcept, Json.touch_found,
      Option.some.injEq, forall_eq', paintable_iff]
    cases Json.lookup el colorPtr <;> simp

theorem drawnSpool_empty (empty : p.spools.isEmpty = true) (row col : Nat) :
    p.drawnSpool row col = none := by
  unfold SpoolmanPanel.drawnSpool
  split
  · cases (cell p.table row 0).value.toKey with
    | none => rfl
    | some id => exact Spools.isEmpty_iff.mp empty id
  · rfl

theorem drawnSpool_row {rows : List Json}
    (perm : rows.Perm (listedSpools (!p.showArchived) p.spools.values))
    (cells : ∀ (i : Nat) (el : Json), rows[i]? = some el → ∀ col < 8,
      shown p.table (i + 1) col = spoolCell (spId el == p.activeId.toUInt32) el col)
    {i : Nat} {el : Json} (found : rows[i]? = some el) : p.drawnSpool (i + 1) 3 = some el := by
  have told : (cell p.table (i + 1) 0).value = .text [.lit (toString (spId el).toNat)] := by
    have first := cells i el found 0 (by decide)
    rw [shown, if_neg (by simp)] at first
    exact Option.some.inj first
  have member := perm.mem_iff.mp (List.mem_of_getElem? found)
  rw [SpoolmanPanel.drawnSpool, if_pos (by simp), told, toKey_id]
  exact Spools.mem_values.mp (List.mem_of_mem_filter member)

theorem ShowsSorted.painted_iff [LawfulTable T] {less : Json → Json → Bool}
    (shows : ShowsSorted less p) :
    (∀ row col, Exec.Returns (SpoolmanPanel.cellDrawn row col) p) ↔
      (listedSpools (!p.showArchived) p.spools.values).all paintable = true := by
  obtain ⟨rows, perm, -, count, cells⟩ := shows
  simp only [cellDrawn_returns, List.all_eq_true]
  constructor
  · intro painted el member
    obtain ⟨i, found⟩ := List.getElem?_of_mem (perm.mem_iff.mpr member)
    exact painted (i + 1) 3 el (drawnSpool_row perm cells found)
  · intro each row col el drawn
    have place : row ≠ 0 ∧ col = 3 := by
      by_contra other
      rw [SpoolmanPanel.drawnSpool, if_neg other] at drawn
      cases drawn
    obtain ⟨i, rfl⟩ := Nat.exists_eq_succ_of_ne_zero place.1
    obtain rfl := place.2
    cases found : rows[i]? with
    | none =>
      have past : rowCnt p.table ≤ i + 1 := by
        have below := List.getElem?_eq_none_iff.mp found
        omega
      rw [SpoolmanPanel.drawnSpool, LawfulTable.cell_past _ _ _ past] at drawn
      cases drawn
    | some other =>
      have same := drawnSpool_row perm cells found
      obtain rfl := Option.some.inj (same.symm.trans drawn)
      exact each other (perm.mem_iff.mp (List.mem_of_getElem? found))

end Painted

section Populate

variable [LawfulTable T] (S : RangeSort Json) {p : SpoolmanPanel T} {o : SortOrder}

/-- What every panel is: its table in shape and its records from the parser. -/
structure Sourced (p : SpoolmanPanel T) : Prop where
  sound : Sound p
  parsed : ∀ e ∈ p.spools.values, e.Parsed

omit [LawfulTable T] in
theorem Sourced.same {q : SpoolmanPanel T} (sourced : Sourced p) (table : q.table = p.table)
    (spools : q.spools = p.spools) : Sourced q :=
  ⟨sourced.sound.same table, spools ▸ sourced.parsed⟩

theorem listable_iff {records : List Json} :
    listable records = true ↔ records.length + 1 < 2 ^ 16 ∧ records.all paintable = true := by
  rw [listable, Bool.and_eq_true, decide_eq_true_eq]

theorem listable_empty {spools : Spools} (empty : spools.isEmpty = true) (skipArchive : Bool) :
    listable (listedSpools skipArchive spools.values) = true := by
  have none : spools.values = [] := by
    unfold Spools.values
    rw [List.isEmpty_iff.mp empty]
    rfl
  rw [none]
  rfl

theorem InOrder.listable (held : InOrder p o) (counted : rowCnt p.table < 2 ^ 16) :
    listable (listedSpools (!p.showArchived) p.spools.values) = true := by
  cases empty : p.spools.isEmpty with
  | true => exact listable_empty empty _
  | false =>
    have shows := held.rows empty
    rw [listable_iff, ← shows.painted_iff]
    obtain ⟨rows, perm, -, count, -⟩ := shows
    refine ⟨?_, held.painted⟩
    rw [← perm.length_eq, ← count]
    exact counted

theorem populateSpools_inOrder (sourced : Sourced p) (headed : 0 < rowCnt p.table)
    (flag : p.sortedBy = o.flag) :
    InOrder (p.populateSpools (S.sort o.less p.spools.values)) o ↔
      GrumpyScreen.listable (listedSpools (!p.showArchived) p.spools.values) = true := by
  have perm := S.rearranges o.less p.spools.values
  have weak : IsStrictWeakOrder {x // x ∈ p.spools.values} fun a b => o.less a b = true :=
    o.column.less_weak Subtype.val (fun a => sourced.parsed a.1 a.2) o.descending
  have sorted := S.orderedOn o.less p.spools.values weak
  cases empty : p.spools.isEmpty with
  | true =>
    have same : p.populateSpools (S.sort o.less p.spools.values) = p := if_pos empty
    rw [same]
    refine iff_of_true ⟨flag, headed, fun some => ?_, fun row col => ?_⟩ (listable_empty empty _)
    · exact absurd (empty.symm.trans some) Bool.noConfusion
    · rw [cellDrawn_returns, drawnSpool_empty empty]
      exact fun el none => nomatch none
  | false =>
    have filled : p.populateSpools (S.sort o.less p.spools.values) =
        { p with table := fillTable p.activeId (!p.showArchived) (S.sort o.less p.spools.values)
                            p.table } := if_neg (by rw [empty]; exact Bool.false_ne_true)
    have listed := listedSpools_perm perm (!p.showArchived)
    have count := fillTable_rowCnt p.activeId (!p.showArchived) (S.sort o.less p.spools.values)
      p.table
    rw [filled]
    constructor
    · intro held
      apply held.listable
      rw [count]
      exact Nat.mod_lt _ (by decide)
    · intro able
      obtain ⟨room, painted⟩ := listable_iff.mp able
      rw [← listed.length_eq] at room
      rw [Nat.mod_eq_of_lt room] at count
      have shows : ShowsSorted o.less
          { p with table := fillTable p.activeId (!p.showArchived) (S.sort o.less p.spools.values)
                              p.table } := by
        refine ⟨_, listed, sorted.sublist List.filter_sublist, count, ?_⟩
        intro i el found col column
        exact fillTable_shown p.activeId _ _ sourced.sound.ruled room found column
      refine ⟨flag, by rw [count]; exact Nat.succ_pos _, fun _ => shows, ?_⟩
      exact shows.painted_iff.mpr painted

end Populate

section Drawn

/-- A record as it is once a cell of this spool was drawn. -/
def drawnFor (el e : Json) : Json := if spId e = spId el then touched e else e

variable (el e : Json)

theorem drawnFor_same {β : Type} (read : Json → β) (same : ∀ e, read (touched e) = read e) :
    read (drawnFor el e) = read e := by
  unfold drawnFor
  split
  · exact same e
  · rfl

theorem byKey_drawnFor {K : Type} [LT K] [DecidableLT K] {key : Json → K}
    (same : ∀ e, key (touched e) = key e) (reversed : Bool) (a b : Json) :
    SpoolmanPanel.byKey key reversed (drawnFor el a) (drawnFor el b) =
      SpoolmanPanel.byKey key reversed a b := by
  unfold SpoolmanPanel.byKey
  rw [drawnFor_same el a key same, drawnFor_same el b key same]

theorem less_drawnFor (o : SortOrder) (a b : Json) :
    o.less (drawnFor el a) (drawnFor el b) = o.less a b := by
  have number {name : String} (other : name ≠ "filament") (e : Json) := spNum_touched e other
  unfold SortOrder.less SortColumn.less
  cases o.column with
  | id => exact byKey_drawnFor el spId_touched o.descending a b
  | name => exact byKey_drawnFor el spoolName_touched o.descending a b
  | mat => exact byKey_drawnFor el spoolMaterial_touched o.descending a b
  | wt => exact byKey_drawnFor el (number (by decide)) o.descending a b
  | len => exact byKey_drawnFor el (number (by decide)) o.descending a b

theorem spoolCell_touched (isActive : Bool) (col : Nat) :
    spoolCell isActive (touched e) col = spoolCell isActive e col := by
  unfold spoolCell
  simp only [spId_touched, spoolName_touched, spoolMaterial_touched, isArchived_touched,
    spNum_touched e (show "remaining_weight" ≠ "filament" by decide),
    spNum_touched e (show "remaining_length" ≠ "filament" by decide)]

theorem listedSpools_drawnFor (skipArchive : Bool) (records : List Json) :
    listedSpools skipArchive (records.map (drawnFor el)) =
      (listedSpools skipArchive records).map (drawnFor el) := by
  unfold listedSpools
  rw [List.filter_map]
  congr 1
  apply List.filter_congr
  intro e _
  simp only [Function.comp_apply, drawnFor_same el e isArchived isArchived_touched]

variable {p : SpoolmanPanel T} {o : SortOrder} {el}

theorem values_drawn {s : Spools} (found : s.find (spId el) = some el) :
    (s.replace (touched el)).values.Perm (s.values.map (drawnFor el)) :=
  Spools.values_replace (spId_touched el) found

theorem sourced_drawn (row col : Nat) (sourced : Sourced p) :
    Sourced (Exec.final (SpoolmanPanel.cellDrawn row col) p) := by
  rw [cellDrawn_final]
  cases drawn : p.drawnSpool row col with
  | none => exact sourced
  | some el =>
    have found := drawnSpool_find drawn
    refine ⟨sourced.sound.same rfl, fun e member => ?_⟩
    obtain ⟨old, there, rfl⟩ := List.mem_map.mp ((values_drawn found).mem_iff.mp member)
    have parsed := sourced.parsed old there
    unfold drawnFor
    split
    · exact parsed.touch colorPtr
    · exact parsed

theorem ShowsSorted.drawn (shows : ShowsSorted o.less p)
    (found : p.spools.find (spId el) = some el) :
    ShowsSorted o.less { p with spools := p.spools.replace (touched el) } := by
  obtain ⟨rows, perm, sorted, count, cells⟩ := shows
  refine ⟨rows.map (drawnFor el), ?_, ?_, by rw [count, List.length_map], ?_⟩
  · have listed := listedSpools_perm (values_drawn found) (!p.showArchived)
    rw [listedSpools_drawnFor] at listed
    exact (perm.map (drawnFor el)).trans listed.symm
  · rw [List.pairwise_map]
    exact sorted.imp fun settled => (less_drawnFor el o _ _).trans settled
  · intro i e held col column
    rw [List.getElem?_map] at held
    obtain ⟨old, there, rfl⟩ := Option.map_eq_some_iff.mp held
    rw [drawnFor_same el old spId spId_touched,
      drawnFor_same el old (spoolCell _ · col) (spoolCell_touched · _ col)]
    exact cells i old there col column

theorem InOrder.drawn [LawfulTable T] (held : InOrder p o) (row col : Nat) :
    InOrder (Exec.final (SpoolmanPanel.cellDrawn row col) p) o := by
  rw [cellDrawn_final]
  cases drawn : p.drawnSpool row col with
  | none => exact held
  | some el =>
    have found := drawnSpool_find drawn
    have some : p.spools.isEmpty = false := by
      by_contra empty
      rw [Bool.not_eq_false] at empty
      rw [drawnSpool_empty empty] at drawn
      cases drawn
    have shows := held.rows some
    have after := shows.drawn found
    refine ⟨held.flag, held.headed, fun _ => after, after.painted_iff.mpr ?_⟩
    have painted := shows.painted_iff.mp held.painted
    rw [List.all_eq_true] at painted ⊢
    intro e member
    have listed := (listedSpools_perm (values_drawn found) (!p.showArchived)).mem_iff.mp member
    rw [listedSpools_drawnFor] at listed
    obtain ⟨old, there, rfl⟩ := List.mem_map.mp listed
    unfold drawnFor
    split
    · exact paintable_touched old (painted old there)
    · exact painted old there

end Drawn

section Steps

variable [LawfulTable T] (S : RangeSort Json) {p : SpoolmanPanel T} {o : SortOrder}

theorem collect_parsed {d : Json} (parsed : d.Parsed) {records : List Json}
    (reported : reportedSpools d = some records) :
    ∀ e ∈ (Spools.collect records).values, e.Parsed := by
  intro e member
  have found := Spools.mem_values.mp member
  rw [Spools.find_collect] at found
  have listed := List.mem_of_mem_filter (List.mem_of_find?_eq_some found)
  unfold reportedSpools at reported
  split at reported
  · cases reported
  · cases reported
  · rename_i node _ there
    cases reported
    exact (parsed.resolve there).elements e listed

theorem Sourced.populate (sourced : Sourced p) {sorted : List Json}
    (perm : sorted.Perm p.spools.values)
    (able : listable (listedSpools (!p.showArchived) p.spools.values) = true) :
    Sourced (p.populateSpools sorted) := by
  refine ⟨sound_populate perm (listable_iff.mp able).1 sourced.sound, ?_⟩
  have kept : (p.populateSpools sorted).spools = p.spools := by
    unfold SpoolmanPanel.populateSpools
    split <;> rfl
  rw [kept]
  exact sourced.parsed

theorem sourced_takeActiveId {ptr : List String}
    (plain : ∀ token ∈ ptr, Json.checkedIndex token = Json.arrayIndex token) (d : Json)
    (sourced : Sourced p) (held : InOrder p o) :
    Sourced (Exec.final (SpoolmanPanel.takeActiveId S.toStdSort ptr d) p) := by
  rw [takeActiveId_final _ plain]
  split
  · refine Sourced.populate ?_ (S.rearranges _ _) (held.listable sourced.sound.counted)
    exact sourced.same rfl rfl
  · exact sourced

theorem sourced_take (p : SpoolmanPanel T) (o : SortOrder) (event : ParsedEvent)
    (sourced : Sourced p) (held : InOrder p o) (able : leavesListable p event.1 = true) :
    Sourced (p.take S event) := by
  have listed := held.listable sourced.sound.counted
  unfold SpoolmanPanel.take
  split
  · obtain ⟨event, parsed⟩ := event
    cases event with
    | listReply d =>
      show Sourced (Exec.final (SpoolmanPanel.listReply S.toStdSort d) p)
      rw [listReply_final]
      simp only [leavesListable] at able
      cases reported : reportedSpools d with
      | none => exact sourced
      | some records =>
        simp only [reported] at able ⊢
        split
        · exact sourced
        · refine Sourced.populate ?_ (S.rearranges _ _) able
          exact ⟨sourced.sound.same rfl, collect_parsed parsed reported⟩
    | activeReply d => exact sourced_takeActiveId S plain_resultPtr d sourced held
    | activeSet d => exact sourced_takeActiveId S plain_paramsPtr d sourced held
    | archivedTapped =>
      refine Sourced.populate ?_ (S.rearranges _ _) ?_
      · exact sourced.same rfl rfl
      · show listable (listedSpools (!!p.showArchived) p.spools.values) = true
        rw [Bool.not_not]
        exact able
    | headerTapped col =>
      show Sourced (p.headerTapped S.toStdSort col)
      rcases headerTapped_cases S.toStdSort col p with
        ⟨-, same⟩ | ⟨-, sorted, sortedBy, perm, filled⟩
      · rw [same]
        exact sourced
      · rw [filled]
        refine Sourced.populate ?_ perm listed
        exact sourced.same rfl rfl
    | cellDrawn row col => exact sourced_drawn row col sourced
  · exact sourced

theorem populateById_inOrder (sourced : Sourced p) (headed : 0 < rowCnt p.table) :
    InOrder (p.populateById S.toStdSort) {} ↔
      listable (listedSpools (!p.showArchived) p.spools.values) = true := by
  have same : Sourced { p with sortedBy := SpoolmanPanel.sortedById } := sourced.same rfl rfl
  have byId : SpoolmanPanel.sortedById = SortOrder.flag {} := rfl
  have filled := populateSpools_inOrder S same headed byId
  exact filled

theorem takeActiveId_inOrder {ptr : List String}
    (plain : ∀ token ∈ ptr, Json.checkedIndex token = Json.arrayIndex token) (d : Json)
    (sourced : Sourced p) (held : InOrder p o) :
    InOrder (Exec.final (SpoolmanPanel.takeActiveId S.toStdSort ptr d) p)
      (match reportedActive ptr d with
        | some (some _) => {}
        | _ => o) := by
  rw [takeActiveId_final _ plain]
  rcases reportedActive ptr d with - | - | id
  · exact held
  · exact held
  · have renamed : Sourced { p with activeId := id.toInt32 } := sourced.same rfl rfl
    apply (populateById_inOrder S renamed held.headed).mpr
    exact held.listable sourced.sound.counted

/-- Each event leaves the spools in order exactly where those it leaves to be listed
can be. -/
theorem take_inOrder (p : SpoolmanPanel T) (o : SortOrder) (event : ParsedEvent)
    (sourced : Sourced p) (held : InOrder p o) :
    InOrder (p.take S event) (o.take event) ↔ leavesListable p event.1 = true := by
  have heard : p.reached event.1 = true := by
    obtain ⟨event, parsed⟩ := event
    cases event with
    | headerTapped col => exact decide_eq_true held.headed
    | _ => rfl
  have taken : p.take S event = p.step S.toStdSort event.1 := if_pos heard
  have listed := held.listable sourced.sound.counted
  rw [taken]
  obtain ⟨event, parsed⟩ := event
  cases event with
  | listReply d =>
    show InOrder (Exec.final (SpoolmanPanel.listReply S.toStdSort d) p) (o.step _) ↔ _
    rw [listReply_final]
    simp only [SortOrder.step, leavesListable]
    cases reported : reportedSpools d with
    | none => exact iff_of_true held rfl
    | some records =>
      cases records with
      | nil =>
        have none : Spools.empty.isEmpty = true := rfl
        exact iff_of_true held (listable_empty none _)
      | cons first rest =>
        have collected : Sourced { p with spools := Spools.collect (first :: rest) } :=
          ⟨sourced.sound.same rfl, collect_parsed parsed reported⟩
        exact populateById_inOrder S collected held.headed
  | activeReply d => exact iff_of_true (takeActiveId_inOrder S plain_resultPtr d sourced held) rfl
  | activeSet d => exact iff_of_true (takeActiveId_inOrder S plain_paramsPtr d sourced held) rfl
  | archivedTapped =>
    have switched : Sourced { p with showArchived := !p.showArchived } := sourced.same rfl rfl
    refine (populateById_inOrder S switched held.headed).trans ?_
    simp [leavesListable]
  | headerTapped col =>
    refine iff_of_true ?_ rfl
    show InOrder (p.headerTapped S.toStdSort col) (o.step (.headerTapped col))
    rw [SortColumn.headerTapped_eq, SortOrder.step]
    cases SortColumn.ofCol col with
    | none => exact held
    | some c =>
      obtain ⟨reversed, flipped⟩ := o.flag_tap c
      have flagged : Sourced { p with sortedBy := (o.tap c).flag } := sourced.same rfl rfl
      have shown := (populateSpools_inOrder S flagged held.headed (o := o.tap c) rfl).mpr listed
      simp only [SpoolmanPanel.sortColumn, held.flag, reversed, flipped]
      rw [SortOrder.less, o.tap_column] at shown
      exact shown
  | cellDrawn row col => exact iff_of_true (held.drawn row col) rfl

theorem sourced_start : Sourced ({} : SpoolmanPanel T) :=
  ⟨sound_start, fun _ member => nomatch member⟩

theorem inOrder_start : InOrder ({} : SpoolmanPanel T) {} where
  flag := rfl
  headed := by
    show 0 < rowCnt (create : T)
    rw [LawfulTable.rowCnt_create]
    exact Nat.one_pos
  rows := fun some => nomatch some
  painted row col := by
    rw [cellDrawn_returns, drawnSpool_empty rfl]
    exact fun el none => nomatch none

/-- The comparisons never throw and are strict weak orders, and in every run in which
what each event leaves to be listed can be counted and drawn, and only in those, the
spools are shown in the order chosen last throughout. -/
theorem spools_in_order_iff (S : RangeSort Json) :
    (∀ (c : SortColumn) (reversed : Bool),
      (∀ a b, c.compare reversed a b = .ok (c.less reversed a b)) ∧
      IsStrictWeakOrder {j : Json // j.Parsed} fun a b => c.less reversed a b = true) ∧
    ∀ events : List ParsedEvent,
      (∀ before, before <+: events →
        InOrder (run (SpoolmanPanel.take S) ({} : SpoolmanPanel T) before)
          (run SortOrder.take {} before)) ↔
      Along (SpoolmanPanel.take S) (fun p event => leavesListable p event.1 = true)
        ({} : SpoolmanPanel T) events := by
  constructor
  · intro c reversed
    exact ⟨c.compare_eq reversed, c.less_weak Subtype.val (fun a => a.2) reversed⟩
  · intro events
    exact related_iff_along (sourced_take S) (take_inOrder S) sourced_start inOrder_start events

/-- Two spools are listed, sorted by name, drawn and sorted the other way round. -/
def spoolsSorted : List ParsedEvent :=
  [⟨.listReply (.obj [("result", .arr [.obj [("id", .int 5)], .obj [("id", .int 6)]])]), by
      refine .obj _ (List.forall_mem_singleton.mpr (.arr _ (List.forall_mem_cons.mpr ⟨?_, ?_⟩)))
      · exact .obj _ (List.forall_mem_singleton.mpr (.int 5))
      · exact List.forall_mem_singleton.mpr (.obj _ (List.forall_mem_singleton.mpr (.int 6)))⟩,
    ⟨.archivedTapped, trivial⟩, ⟨.headerTapped 1, trivial⟩, ⟨.cellDrawn 1 3, trivial⟩,
    ⟨.headerTapped 1, trivial⟩]

theorem spools_in_order_sorted :
    Along (SpoolmanPanel.take (.merge Json)) (fun p event => leavesListable p event.1 = true)
        ({} : SpoolmanPanel Grid) spoolsSorted ∧
      ∀ before, before <+: spoolsSorted →
        InOrder (run (SpoolmanPanel.take (.merge Json)) ({} : SpoolmanPanel Grid) before)
          (run SortOrder.take {} before) := by
  have able : Along (SpoolmanPanel.take (.merge Json))
      (fun p event => leavesListable p event.1 = true) ({} : SpoolmanPanel Grid)
      spoolsSorted := by
    simp only [spoolsSorted, along_cons, along_nil, and_true]
    refine ⟨?_, ?_, ?_, ?_, ?_⟩ <;> decide +kernel
  exact ⟨able, ((spools_in_order_iff (.merge Json)).2 spoolsSorted).mpr able⟩

/-- A spool whose filament is a name and no object. -/
def namedFilament : Json :=
  .obj [("result", .arr [.obj [("id", .int 5), ("filament", .str "PLA")]])]

theorem namedFilament_parsed : namedFilament.Parsed := by
  refine .obj _ (List.forall_mem_singleton.mpr (.arr _ (List.forall_mem_singleton.mpr ?_)))
  exact .obj _ (List.forall_mem_cons.mpr ⟨.int 5, List.forall_mem_singleton.mpr (.str "PLA")⟩)

end Steps

section Many

theorem collect_length {records : List Json} (carry : ∀ e ∈ records, hasId e = true)
    (distinct : (records.map spId).Nodup) :
    (Spools.collect records).values.length = records.length := by
  have all : records.filter hasId = records := List.filter_eq_self.mpr carry
  have perm : ((Spools.collect records).values.map spId).Perm (records.map spId) := by
    apply (List.perm_ext_iff_of_nodup (Spools.collect records).values_ids distinct).mpr
    intro id
    rw [List.mem_map, List.mem_map]
    constructor
    · rintro ⟨e, member, own⟩
      have found := Spools.mem_values.mp member
      rw [Spools.find_collect, all] at found
      exact ⟨e, List.mem_of_find?_eq_some found, own⟩
    · rintro ⟨e, member, own⟩
      have some : (records.find? fun e => spId e = id).isSome = true :=
        List.find?_isSome.mpr ⟨e, member, decide_eq_true own⟩
      obtain ⟨kept, found⟩ := Option.isSome_iff_exists.mp some
      have same : spId kept = id := by simpa using List.find?_some found
      refine ⟨kept, Spools.mem_values.mpr ?_, same⟩
      rw [Spools.find_collect, all, same]
      exact found
  have counts := perm.length_eq
  rwa [List.length_map, List.length_map] at counts

def spoolOf (i : Nat) : Json := .obj [("id", .int (i + 1))]

/-- A reply with spools numbered from one on. -/
def manySpools (n : Nat) : Json := .obj [("result", .arr ((List.range n).map spoolOf))]

theorem spoolOf_id {i : Nat} (fits : i + 1 < 2 ^ 32) : (spId (spoolOf i)).toNat = i + 1 := by
  have read := spId_int (e := spoolOf i) (n := i + 1) rfl (by omega) (by omega)
  omega

theorem manySpools_parsed (n : Nat) : (manySpools n).Parsed := by
  refine .obj _ (List.forall_mem_singleton.mpr (.arr _ (List.forall_mem_map.mpr ?_)))
  intro i _
  exact .obj _ (List.forall_mem_singleton.mpr (.int _))

theorem manySpools_listed (skipArchive : Bool) {n : Nat} (fits : n < 2 ^ 32) :
    (listedSpools skipArchive (Spools.collect ((List.range n).map spoolOf)).values).length = n := by
  have carry : ∀ e ∈ (List.range n).map spoolOf, hasId e = true :=
    List.forall_mem_map.mpr fun i _ => rfl
  have distinct : (((List.range n).map spoolOf).map spId).Nodup := by
    rw [List.map_map]
    apply List.Nodup.map_on _ List.nodup_range
    intro i first j second same
    have left := spoolOf_id (i := i) (by have := List.mem_range.mp first; omega)
    have right := spoolOf_id (i := j) (by have := List.mem_range.mp second; omega)
    have level : spId (spoolOf i) = spId (spoolOf j) := same
    rw [level] at left
    omega
  have plain : ∀ e ∈ (Spools.collect ((List.range n).map spoolOf)).values,
      (!(skipArchive && isArchived e)) = true := by
    intro e member
    have found := Spools.mem_values.mp member
    rw [Spools.find_collect] at found
    obtain ⟨i, -, rfl⟩ :=
      List.mem_map.mp (List.mem_of_mem_filter (List.mem_of_find?_eq_some found))
    cases skipArchive <;> rfl
  unfold listedSpools
  rw [List.filter_eq_self.mpr plain, collect_length carry distinct, List.length_map,
    List.length_range]

theorem manySpools_shown [LawfulTable T] (S : RangeSort Json) {n : Nat} (fits : n < 2 ^ 32) :
    InOrder (run (SpoolmanPanel.take S) ({} : SpoolmanPanel T)
        [⟨.listReply (manySpools n), manySpools_parsed n⟩])
      (run SortOrder.take {} [⟨.listReply (manySpools n), manySpools_parsed n⟩]) ↔
      n + 1 < 2 ^ 16 := by
  rw [run_cons, run_nil, run_cons, run_nil, take_inOrder S {} {} _ sourced_start inOrder_start]
  have reported : reportedSpools (manySpools n) = some ((List.range n).map spoolOf) := rfl
  simp only [leavesListable, reported, listable_iff]
  rw [manySpools_listed _ fits]
  refine and_iff_left (List.all_eq_true.mpr fun e member => ?_)
  have found := Spools.mem_values.mp (List.mem_of_mem_filter member)
  rw [Spools.find_collect] at found
  obtain ⟨i, -, rfl⟩ :=
    List.mem_map.mp (List.mem_of_mem_filter (List.mem_of_find?_eq_some found))
  rfl

/-- The row of the named filament throws as it is drawn, and a list of as many spools as
leave the widget's count of the rows at zero is not shown. -/
theorem named_filament_throws :
    (¬ Exec.Returns (SpoolmanPanel.cellDrawn 1 3)
        (run (SpoolmanPanel.take (.merge Json)) ({} : SpoolmanPanel Grid)
          [⟨.listReply namedFilament, namedFilament_parsed⟩]) ∧
      ¬ InOrder
        (run (SpoolmanPanel.take (.merge Json)) ({} : SpoolmanPanel Grid)
          [⟨.listReply namedFilament, namedFilament_parsed⟩])
        (run SortOrder.take {} [⟨.listReply namedFilament, namedFilament_parsed⟩])) ∧
    ¬ InOrder
      (run (SpoolmanPanel.take (.merge Json)) ({} : SpoolmanPanel Grid)
        [⟨.listReply (manySpools 65535), manySpools_parsed 65535⟩])
      (run SortOrder.take {} [⟨.listReply (manySpools 65535), manySpools_parsed 65535⟩]) := by
  have thrown : ¬ Exec.Returns (SpoolmanPanel.cellDrawn 1 3)
      (run (SpoolmanPanel.take (.merge Json)) ({} : SpoolmanPanel Grid)
        [⟨.listReply namedFilament, namedFilament_parsed⟩]) := by
    rw [cellDrawn_returns, ← Option.all_eq_true]
    decide +kernel
  refine ⟨⟨thrown, fun shown => thrown (shown.painted 1 3)⟩, fun shown => ?_⟩
  have room := (manySpools_shown (.merge Json) (by omega)).mp shown
  omega

end Many

end GrumpyScreen
