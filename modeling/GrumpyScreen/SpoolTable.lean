import GrumpyScreen.Command
import GrumpyScreen.Lib.Doc
import Mathlib.Data.List.AList
import Mathlib.Data.List.TakeWhile
import Mathlib.Tactic.IntervalCases

/-! The spools Spoolman reports, keyed by their ids, and the table that lists
them: what a record is read as, the cells of its row and the loop that writes
the rows. -/

namespace GrumpyScreen

open Lib

section Records

/-- A number at a pointer; absent or of another type it is zero. -/
def spNum (j : Json) (ptr : List String) : Float :=
  match Json.resolve ptr j with
  | some (.int i) => Float.ofInt i
  | some (.num x) => x
  | _ => 0.0

def spStr (j : Json) (ptr : List String) : String :=
  match Json.resolve ptr j with
  | some (.str s) => s
  | _ => ""

/-- The id of a record; one that is no positive integer is zero. -/
def spId (j : Json) : UInt32 :=
  match Json.find j "id" with
  | some (.int n) => if n > 0 then UInt32.ofInt n else 0
  | _ => 0

/-- `e.contains("id") && e["id"].is_number()`. -/
def hasId (e : Json) : Bool :=
  match Json.find e "id" with
  | some (.int _) | some (.num _) => true
  | _ => false

def isArchived (el : Json) : Bool :=
  match Json.find el "archived" with
  | some (.bool b) => b
  | _ => false

def spoolName (el : Json) : String :=
  spStr el ["filament", "vendor", "name"] ++ " - " ++ spStr el ["filament", "name"]

def spoolMaterial (el : Json) : String := spStr el ["filament", "material"]

theorem ofInt_toNat {n : Int} (nonneg : 0 ≤ n) (fits : n < 2 ^ 32) :
    ((UInt32.ofInt n).toNat : Int) = n := by
  rw [UInt32.ofInt, UInt32.toNat_ofNat']
  omega

theorem spId_int {e : Json} {n : Int} (found : Json.find e "id" = some (.int n)) (positive : 0 < n)
    (fits : n < 2 ^ 32) : ((spId e).toNat : Int) = n := by
  have read : spId e = UInt32.ofInt n := by
    simp only [spId, found]
    exact if_pos positive
  rw [read]
  exact ofInt_toNat positive.le fits

end Records

section Colour

/-- Where a record has its colour. -/
def colorPtr : List String := ["filament", "color_hex"]

/-- A record whose colour was looked up with `operator[]`. -/
def touched (el : Json) : Json := (Json.touch colorPtr el).2

/-- A filament of another type than an object has no members to look up. -/
def paintable : Json → Bool
  | .null => true
  | .obj members =>
    match members.lookup "filament" with
    | none | some .null | some (.obj _) => true
    | _ => false
  | _ => false

variable (el : Json)

theorem paintable_iff : paintable el = true ↔ ∃ found, Json.lookup el colorPtr = .ok found := by
  have name : Json.arrayIndex "filament" = none := by decide
  have below : Json.arrayIndex "color_hex" = none := by decide
  cases el with
  | obj members =>
    simp only [paintable, colorPtr, Json.lookup, Json.child]
    cases members.lookup "filament" with
    | none => simp
    | some filament => cases filament <;> simp [below]
  | _ => simp [paintable, colorPtr, Json.lookup, Json.child, name]

theorem find_touched {name : String} (other : name ≠ "filament") :
    Json.find (touched el) name = Json.find el name := by
  have index : Json.arrayIndex "filament" = none := by decide
  cases el with
  | null => simp [touched, colorPtr, Json.touch, index, Json.find, Json.lookup_member, other]
  | obj members => simp [touched, colorPtr, Json.touch, Json.find, other]
  | arr items => simp [touched, colorPtr, Json.touch, index]
  | _ => rfl

theorem spNum_touched {name : String} (other : name ≠ "filament") :
    spNum (touched el) [name] = spNum el [name] := by
  have named : ∀ name ∈ ["filament"], Json.arrayIndex name = none :=
    List.forall_mem_singleton.mpr (by decide)
  have same := Json.resolve_touch [] ["color_hex"] [] named other el
  simp only [List.nil_append] at same
  rw [spNum, touched, colorPtr, same, spNum]

theorem spStr_touched {name : String} (below : List String) (other : name ≠ "color_hex") :
    spStr (touched el) ("filament" :: name :: below) = spStr el ("filament" :: name :: below) := by
  have named : ∀ name ∈ ["filament", "color_hex"], Json.arrayIndex name = none :=
    List.forall_mem_cons.mpr ⟨by decide, List.forall_mem_singleton.mpr (by decide)⟩
  have same := Json.resolve_touch ["filament"] [] below named other el
  simp only [List.cons_append, List.nil_append] at same
  rw [spStr, touched, colorPtr, same, spStr]

@[simp] theorem spId_touched : spId (touched el) = spId el := by
  rw [spId, find_touched el (by decide), spId]

@[simp] theorem isArchived_touched : isArchived (touched el) = isArchived el := by
  rw [isArchived, find_touched el (by decide), isArchived]

@[simp] theorem spoolName_touched : spoolName (touched el) = spoolName el := by
  rw [spoolName, spStr_touched el _ (by decide), spStr_touched el _ (by decide), spoolName]

@[simp] theorem spoolMaterial_touched : spoolMaterial (touched el) = spoolMaterial el :=
  spStr_touched el [] (by decide)

theorem paintable_touched (painted : paintable el = true) : paintable (touched el) = true := by
  rw [paintable_iff] at painted ⊢
  rw [touched, Json.lookup_touch]
  exact painted

end Colour

section Spools

/-- `std::map<uint32_t, json> spools`, every record under its own id. -/
structure Spools where
  map : AList fun _ : UInt32 => Json
  keyed : ∀ id e, map.lookup id = some e → spId e = id

namespace Spools

def empty : Spools := ⟨∅, fun _ _ found => nomatch found⟩

def find (s : Spools) (id : UInt32) : Option Json := s.map.lookup id

/-- `std::map::insert`: a key that is there keeps its record. -/
def insert (e : Json) (s : Spools) : Spools :=
  if spId e ∈ s.map then s
  else
    { map := s.map.insert (spId e) e
      keyed := by
        intro id other found
        by_cases same : id = spId e
        · rw [same, AList.lookup_insert] at found
          cases found
          exact same.symm
        · rw [AList.lookup_insert_ne same] at found
          exact s.keyed id other found }

/-- A record in the place of the one with its id. -/
def replace (e : Json) (s : Spools) : Spools where
  map := s.map.insert (spId e) e
  keyed := by
    intro id other found
    by_cases same : id = spId e
    · rw [same, AList.lookup_insert] at found
      cases found
      exact same.symm
    · rw [AList.lookup_insert_ne same] at found
      exact s.keyed id other found

/-- The records of a reply that carry an id. -/
def collect (reply : List Json) : Spools :=
  (reply.filter hasId).foldl (fun s e => s.insert e) empty

def isEmpty (s : Spools) : Bool := s.map.entries.isEmpty

/-- The records in the map, in an order of its own. -/
def values (s : Spools) : List Json := s.map.entries.map fun entry => entry.2

theorem find_insert (e : Json) (s : Spools) (id : UInt32) :
    (s.insert e).find id = (s.find id).or (if spId e = id then some e else none) := by
  unfold insert find
  by_cases held : spId e ∈ s.map
  · rw [if_pos held]
    by_cases same : spId e = id
    · obtain ⟨old, found⟩ := Option.isSome_iff_exists.mp (AList.lookup_isSome.mpr held)
      rw [← same, found]
      rfl
    · rw [if_neg same, Option.or_none]
  · rw [if_neg held]
    by_cases same : spId e = id
    · have missing : s.map.lookup id = none := same ▸ AList.lookup_eq_none.mpr held
      rw [missing, if_pos same, ← same]
      exact AList.lookup_insert s.map
    · rw [if_neg same, Option.or_none]
      exact AList.lookup_insert_ne (Ne.symm same)

theorem find_replace (e : Json) (s : Spools) (id : UInt32) :
    (s.replace e).find id = if id = spId e then some e else s.find id := by
  unfold replace find
  by_cases same : id = spId e
  · rw [same, if_pos rfl]
    exact AList.lookup_insert s.map
  · rw [if_neg same]
    exact AList.lookup_insert_ne same

theorem find_inserted (records : List Json) (s : Spools) (id : UInt32) :
    (records.foldl (fun s e => s.insert e) s).find id =
      (s.find id).or (records.find? fun e => spId e = id) := by
  induction records generalizing s with
  | nil => rw [List.foldl_nil, List.find?_nil, Option.or_none]
  | cons e rest ih =>
    rw [List.foldl_cons, ih, find_insert, Option.or_assoc, List.find?_cons]
    by_cases same : spId e = id
    · simp [same]
    · simp [same]

theorem find_collect (reply : List Json) (id : UInt32) :
    (collect reply).find id = (reply.filter hasId).find? fun e => spId e = id :=
  find_inserted (reply.filter hasId) empty id

theorem mem_values {s : Spools} {e : Json} : e ∈ s.values ↔ s.find (spId e) = some e := by
  constructor
  · intro member
    obtain ⟨⟨id, e⟩, entry, rfl⟩ := List.mem_map.mp member
    have found : s.map.lookup id = some e := AList.mem_lookup_iff.mpr entry
    have own := s.keyed id e found
    rw [own]
    exact found
  · intro found
    exact List.mem_map.mpr ⟨⟨spId e, e⟩, AList.mem_lookup_iff.mp found, rfl⟩

theorem values_ids (s : Spools) : (s.values.map spId).Nodup := by
  have own : s.values.map spId = s.map.keys := by
    unfold values AList.keys List.keys
    rw [List.map_map]
    apply List.map_congr_left
    rintro ⟨id, e⟩ entry
    exact s.keyed id e (AList.mem_lookup_iff.mpr entry)
  rw [own]
  exact s.map.keys_nodup

theorem values_replace {s : Spools} {el : Json} {change : Json → Json}
    (same : spId (change el) = spId el) (found : s.find (spId el) = some el) :
    (s.replace (change el)).values.Perm
      (s.values.map fun e => if spId e = spId el then change e else e) := by
  have own : ∀ e ∈ s.values, spId e = spId el → e = el := by
    intro e member equal
    have there := mem_values.mp member
    rw [equal, found] at there
    exact (Option.some.inj there).symm
  have ids : (s.values.map fun e => if spId e = spId el then change e else e).map spId =
      s.values.map spId := by
    rw [List.map_map]
    apply List.map_congr_left
    intro e member
    by_cases equal : spId e = spId el
    · simp [own e member equal, same]
    · simp [equal]
  have distinct := List.Nodup.of_map spId (ids ▸ s.values_ids)
  have replaced := List.Nodup.of_map spId (s.replace (change el)).values_ids
  apply (List.perm_ext_iff_of_nodup replaced distinct).mpr
  intro e
  rw [mem_values, find_replace, same, List.mem_map]
  constructor
  · intro there
    by_cases equal : spId e = spId el
    · rw [if_pos equal] at there
      cases there
      exact ⟨el, mem_values.mpr found, by simp⟩
    · rw [if_neg equal] at there
      exact ⟨e, mem_values.mpr there, if_neg equal⟩
  · rintro ⟨old, member, rfl⟩
    by_cases equal : spId old = spId el
    · rw [own old member equal]
      simp [same]
    · simp [equal, mem_values.mp member]

theorem isEmpty_iff {s : Spools} : s.isEmpty = true ↔ ∀ id, s.find id = none := by
  constructor
  · intro none id
    have entries : s.map.entries = [] := List.isEmpty_iff.mp none
    cases found : s.find id with
    | none => rfl
    | some e =>
      have entry := AList.mem_lookup_iff.mp found
      rw [entries] at entry
      cases entry
  · intro none
    apply List.isEmpty_iff.mpr
    apply List.eq_nil_iff_forall_not_mem.mpr
    rintro ⟨id, e⟩ entry
    have found : s.find id = some e := AList.mem_lookup_iff.mpr entry
    rw [none id] at found
    cases found

end Spools

end Spools

section Table

/-- What a cell is given: text or one of the symbols. -/
inductive CellValue where
  | text (pieces : Text)
  | upload
  | drive
  | play
deriving DecidableEq

/-- `std::stoul` of an id cell, cut to the type of the keys; it throws on a cell without
digits and on a number out of its range. -/
def CellValue.toKey : CellValue → Option UInt32
  | .text [.lit digits] =>
    let number := digits.toList.takeWhile Char.isDigit
    let value := Nat.ofDigitChars 10 number 0
    if number.isEmpty || 2 ^ 64 ≤ value then none else some (UInt32.ofNat value)
  | _ => none

theorem toKey_id (id : UInt32) : CellValue.toKey (.text [.lit (toString id.toNat)]) = some id := by
  have digits : (toString id.toNat).toList.takeWhile Char.isDigit = Nat.toDigits 10 id.toNat := by
    have spelled : (toString id.toNat).toList = Nat.toDigits 10 id.toNat := String.toList_ofList
    rw [spelled, List.takeWhile_eq_self_iff]
    exact fun c member => Nat.isDigit_of_mem_toDigits (by omega) (by omega) member
  have value : Nat.ofDigitChars 10 (Nat.toDigits 10 id.toNat) 0 = id.toNat :=
    Nat.ofDigitChars_ten_toDigits
  have some : Nat.toDigits 10 id.toNat ≠ [] := Nat.toDigits_ne_nil
  have fits := id.toNat_lt
  simp only [CellValue.toKey, digits, value]
  rw [if_neg (by simp [some]; omega), UInt32.ofNat_toNat]

structure Cell where
  value : CellValue := .text []
  mergeRight : Bool := false
deriving DecidableEq

/-- The operations the panel calls on its table; a row is handed over as sixteen bits. -/
class LvTable (T : Type) where
  create : T
  rowCnt : T → Nat
  cell : T → Nat → Nat → Cell
  setCellValue (row : UInt16) (col : Nat) (value : CellValue) : T → T
  addMergeRight (row : UInt16) (col : Nat) : T → T
  clearMergeRight (row : UInt16) (col : Nat) : T → T
  setRowCnt (rows : UInt16) : T → T

/-- The widget can count the rows up to this one. -/
abbrev Countable (row : UInt16) : Prop := row.toNat + 1 < 2 ^ 16

/-- A cell keeps its text and its flag until it is written or its row is cut off, what is
not there reads as blank, and a row that can be counted is written where it is meant. -/
class LawfulTable (T : Type) [LvTable T] : Prop where
  rowCnt_create : LvTable.rowCnt (LvTable.create : T) = 1
  cell_create (row col : Nat) : LvTable.cell (LvTable.create : T) row col = {}
  cell_past (t : T) (row col : Nat) : LvTable.rowCnt t ≤ row → LvTable.cell t row col = {}
  cell_setCellValue (row : UInt16) (col : Nat) (value : CellValue) (t : T) (r c : Nat) :
    Countable row → LvTable.cell (LvTable.setCellValue row col value t) r c =
      if r = row.toNat ∧ c = col then { LvTable.cell t r c with value } else LvTable.cell t r c
  cell_addMergeRight (row : UInt16) (col : Nat) (t : T) (r c : Nat) :
    Countable row → LvTable.cell (LvTable.addMergeRight row col t) r c =
      if r = row.toNat ∧ c = col then { LvTable.cell t r c with mergeRight := true }
      else LvTable.cell t r c
  cell_clearMergeRight (row : UInt16) (col : Nat) (t : T) (r c : Nat) :
    Countable row → LvTable.cell (LvTable.clearMergeRight row col t) r c =
      if r = row.toNat ∧ c = col then { LvTable.cell t r c with mergeRight := false }
      else LvTable.cell t r c
  rowCnt_setRowCnt (rows : UInt16) (t : T) :
    LvTable.rowCnt (LvTable.setRowCnt rows t) = rows.toNat
  cell_setRowCnt (rows : UInt16) (t : T) (row col : Nat) : row < rows.toNat →
    LvTable.cell (LvTable.setRowCnt rows t) row col = LvTable.cell t row col

/-- A table as its cells, blank below its rows. -/
structure Grid where
  cell : Nat → Nat → Cell := fun _ _ => {}
  rowCnt : UInt16 := 1
  past : ∀ row col, rowCnt.toNat ≤ row → cell row col = {} := by exact fun _ _ _ => rfl

namespace Grid

/-- Change one cell; the grid grows to hold it, and is lost where it cannot. -/
def update (row : UInt16) (col : Nat) (change : Cell → Cell) (t : Grid) : Grid :=
  if room : Countable row then
    { cell := fun r c => if r = row.toNat ∧ c = col then change (t.cell r c) else t.cell r c
      rowCnt := if t.rowCnt ≤ row then row + 1 else t.rowCnt
      past := by
        intro r c below
        have next : (row + 1).toNat = row.toNat + 1 := by
          rw [UInt16.toNat_add]
          exact Nat.mod_eq_of_lt room
        have rows : t.rowCnt.toNat ≤ r ∧ row.toNat < r := by
          split at below
          · next grows =>
            rw [UInt16.le_iff_toNat_le] at grows
            omega
          · next held =>
            rw [UInt16.le_iff_toNat_le] at held
            omega
        rw [if_neg (by omega)]
        exact t.past r c rows.1 }
  else {}

def setRowCnt (rows : UInt16) (t : Grid) : Grid where
  cell := fun r c => if r < rows.toNat then t.cell r c else {}
  rowCnt := rows
  past _ _ below := if_neg (Nat.not_lt_of_le below)

theorem update_cell {row : UInt16} (room : Countable row) (col : Nat) (change : Cell → Cell)
    (t : Grid) (r c : Nat) : (update row col change t).cell r c =
      if r = row.toNat ∧ c = col then change (t.cell r c) else t.cell r c := by
  rw [update, dif_pos room]

end Grid

instance : LvTable Grid where
  create := {}
  rowCnt t := t.rowCnt.toNat
  cell := Grid.cell
  setCellValue row col value := Grid.update row col fun cell => { cell with value }
  addMergeRight row col := Grid.update row col fun cell => { cell with mergeRight := true }
  clearMergeRight row col := Grid.update row col fun cell => { cell with mergeRight := false }
  setRowCnt := Grid.setRowCnt

instance : LawfulTable Grid where
  rowCnt_create := rfl
  cell_create _ _ := rfl
  cell_past t := t.past
  cell_setCellValue _ _ _ t r c room := Grid.update_cell room _ _ t r c
  cell_addMergeRight _ _ t r c room := Grid.update_cell room _ _ t r c
  cell_clearMergeRight _ _ t r c room := Grid.update_cell room _ _ t r c
  rowCnt_setRowCnt _ _ := rfl
  cell_setRowCnt _ _ _ _ inside := if_pos inside

namespace LvTable

variable {T : Type} [LvTable T]

/-- What is seen of a cell: nothing where its left neighbour is drawn over it. -/
def shown (t : T) (row col : Nat) : Option CellValue :=
  if 0 < col ∧ (cell t row (col - 1)).mergeRight then none else some (cell t row col).value

/-- Only the cell that tells the active spool is drawn over its neighbour. -/
def Ruled (t : T) : Prop := ∀ row col, (cell t row col).mergeRight = true → col = 6

theorem shown_congr {t other : T} {row : Nat} (same : ∀ c, cell t row c = cell other row c)
    (col : Nat) : shown t row col = shown other row col := by
  unfold shown
  rw [same, same]

section Writes

variable [LawfulTable T] {row : UInt16} (room : Countable row) (col : Nat) (t : T) (r c : Nat)

include room

theorem setCellValue_other (value : CellValue) (differs : r ≠ row.toNat) :
    cell (setCellValue row col value t) r c = cell t r c := by
  rw [LawfulTable.cell_setCellValue _ _ _ _ _ _ room, if_neg fun same => differs same.1]

theorem addMergeRight_other (differs : r ≠ row.toNat) :
    cell (addMergeRight row col t) r c = cell t r c := by
  rw [LawfulTable.cell_addMergeRight _ _ _ _ _ room, if_neg fun same => differs same.1]

theorem clearMergeRight_other (differs : r ≠ row.toNat) :
    cell (clearMergeRight row col t) r c = cell t r c := by
  rw [LawfulTable.cell_clearMergeRight _ _ _ _ _ room, if_neg fun same => differs same.1]

theorem setCellValue_value (value : CellValue) :
    (cell (setCellValue row col value t) r c).value =
      if r = row.toNat ∧ c = col then value else (cell t r c).value := by
  rw [LawfulTable.cell_setCellValue _ _ _ _ _ _ room]
  exact apply_ite Cell.value _ _ _

theorem setCellValue_mergeRight (value : CellValue) :
    (cell (setCellValue row col value t) r c).mergeRight = (cell t r c).mergeRight := by
  rw [LawfulTable.cell_setCellValue _ _ _ _ _ _ room]
  split <;> rfl

theorem addMergeRight_value :
    (cell (addMergeRight row col t) r c).value = (cell t r c).value := by
  rw [LawfulTable.cell_addMergeRight _ _ _ _ _ room]
  split <;> rfl

theorem addMergeRight_mergeRight :
    (cell (addMergeRight row col t) r c).mergeRight =
      if r = row.toNat ∧ c = col then true else (cell t r c).mergeRight := by
  rw [LawfulTable.cell_addMergeRight _ _ _ _ _ room]
  exact apply_ite Cell.mergeRight _ _ _

theorem clearMergeRight_value :
    (cell (clearMergeRight row col t) r c).value = (cell t r c).value := by
  rw [LawfulTable.cell_clearMergeRight _ _ _ _ _ room]
  split <;> rfl

theorem clearMergeRight_mergeRight :
    (cell (clearMergeRight row col t) r c).mergeRight =
      if r = row.toNat ∧ c = col then false else (cell t r c).mergeRight := by
  rw [LawfulTable.cell_clearMergeRight _ _ _ _ _ room]
  exact apply_ite Cell.mergeRight _ _ _

end Writes

end LvTable

open LvTable

/-- The cells of a record's row, written in the order of the source. -/
def writeRow {T : Type} [LvTable T] (isActive : Bool) (row : UInt16) (el : Json) (t : T) : T :=
  let t := setCellValue row 0 (.text [.lit (toString (spId el).toNat)]) t
  let t := setCellValue row 1 (.text [.lit (spoolName el)]) t
  let t := setCellValue row 2 (.text [.lit (spoolMaterial el)]) t
  let t := setCellValue row 3 (.text []) t
  let t := setCellValue row 4 (.text [.fixed 1 (spNum el ["remaining_weight"]), .lit " g"]) t
  let t := setCellValue row 5 (.text [.fixed 1 (spNum el ["remaining_length"] / 1000), .lit " m"]) t
  let t := clearMergeRight row 6 t
  let t :=
    if isArchived el then setCellValue row 7 .upload t
    -- the active spool cannot be archived
    else if !isActive then setCellValue row 7 .drive t
    else t
  if isActive then setCellValue row 6 (.text [.lit "(active)"]) (addMergeRight row 6 t)
  else if isArchived el then setCellValue row 6 (.text []) t
  else setCellValue row 6 .play t

/-- What a spool's row tells, column by column. -/
def spoolCell (isActive : Bool) (el : Json) : Nat → Option CellValue
  | 0 => some (.text [.lit (toString (spId el).toNat)])
  | 1 => some (.text [.lit (spoolName el)])
  | 2 => some (.text [.lit (spoolMaterial el)])
  | 3 => some (.text [])
  | 4 => some (.text [.fixed 1 (spNum el ["remaining_weight"]), .lit " g"])
  | 5 => some (.text [.fixed 1 (spNum el ["remaining_length"] / 1000), .lit " m"])
  | 6 =>
    if isActive then some (.text [.lit "(active)"])
    else if isArchived el then some (.text [])
    else some .play
  | _ => if isActive then none else if isArchived el then some .upload else some .drive

section Rows

variable {T : Type} [LvTable T] [LawfulTable T] (isActive : Bool) {row : UInt16}
  (room : Countable row) (el : Json) {t : T}

include room

theorem writeRow_other {r : Nat} (differs : r ≠ row.toNat) (c : Nat) :
    cell (writeRow isActive row el t) r c = cell t r c := by
  unfold writeRow
  cases isActive <;> cases isArchived el <;>
    simp [setCellValue_other room, addMergeRight_other room, clearMergeRight_other room, differs]

theorem writeRow_merge (c : Nat) :
    (cell (writeRow isActive row el t) row.toNat c).mergeRight =
      if c = 6 then isActive else (cell t row.toNat c).mergeRight := by
  unfold writeRow
  by_cases six : c = 6
  · cases isActive <;> cases isArchived el <;>
      simp [setCellValue_mergeRight room, addMergeRight_mergeRight room,
        clearMergeRight_mergeRight room, six]
  · cases isActive <;> cases isArchived el <;>
      simp [setCellValue_mergeRight room, addMergeRight_mergeRight room,
        clearMergeRight_mergeRight room, six]

theorem writeRow_ruled (ruled : Ruled t) : Ruled (writeRow isActive row el t) := by
  intro r c merged
  by_cases same : r = row.toNat
  · subst same
    rw [writeRow_merge isActive room] at merged
    by_cases six : c = 6
    · exact six
    · rw [if_neg six] at merged
      exact ruled row.toNat c merged
  · rw [writeRow_other isActive room el same] at merged
    exact ruled r c merged

theorem writeRow_value {col : Nat} (column : col < 8) (seen : isActive = true → col ≠ 7) :
    some (cell (writeRow isActive row el t) row.toNat col).value = spoolCell isActive el col := by
  unfold writeRow
  cases isActive with
  | true =>
    have columns : col < 7 := by
      have other := seen rfl
      omega
    cases archived : isArchived el <;> interval_cases col <;>
      simp [setCellValue_value room, addMergeRight_value room, clearMergeRight_value room, spoolCell]
  | false =>
    cases archived : isArchived el <;> interval_cases col <;>
      simp [setCellValue_value room, clearMergeRight_value room, spoolCell, archived]

theorem writeRow_shown (ruled : Ruled t) {col : Nat} (column : col < 8) :
    shown (writeRow isActive row el t) row.toNat col = spoolCell isActive el col := by
  unfold shown
  rw [writeRow_merge isActive room]
  by_cases last : col = 7
  · subst last
    cases isActive with
    | true => rfl
    | false =>
      rw [if_neg (by simp)]
      exact writeRow_value false room el column (by simp)
  · have uncovered : ¬ (0 < col ∧
        (if col - 1 = 6 then isActive else (cell t row.toNat (col - 1)).mergeRight) = true) := by
      rintro ⟨positive, merged⟩
      have other : col - 1 ≠ 6 := by omega
      rw [if_neg other] at merged
      exact other (ruled row.toNat (col - 1) merged)
    rw [if_neg uncovered]
    exact writeRow_value isActive room el column fun _ => last

end Rows

/-- The records' rows, the archived ones skipped where they are not to be shown,
and the row below the last. -/
def fillRows {T : Type} [LvTable T] (activeId : Int32) (skipArchive : Bool) :
    List Json → Nat → T → T × Nat
  | [], row, t => (t, row)
  | el :: rest, row, t =>
    if skipArchive && isArchived el then fillRows activeId skipArchive rest row t
    else
      fillRows activeId skipArchive rest (row + 1)
        (writeRow (spId el == activeId.toUInt32) (UInt16.ofNat row) el t)

def writeHeader {T : Type} [LvTable T] (t : T) : T :=
  let t := setCellValue 0 0 (.text [.lit "ID"]) t
  let t := setCellValue 0 1 (.text [.lit "Name"]) t
  let t := setCellValue 0 2 (.text [.lit "MAT"]) t
  let t := setCellValue 0 4 (.text [.lit "Remain\nWeight"]) t
  setCellValue 0 5 (.text [.lit "Remain\nLength"]) t

/-- The body of `populate_spools`. -/
def fillTable {T : Type} [LvTable T] (activeId : Int32) (skipArchive : Bool)
    (sortedSpools : List Json) (t : T) : T :=
  let (t, rows) := fillRows activeId skipArchive sortedSpools 1 (writeHeader t)
  setRowCnt (UInt16.ofNat rows) t

/-- The records that get a row. -/
def listedSpools (skipArchive : Bool) (sortedSpools : List Json) : List Json :=
  sortedSpools.filter fun el => !(skipArchive && isArchived el)

section Fill

theorem ofNat_row (row : Nat) (room : row + 1 < 2 ^ 16) :
    (UInt16.ofNat row).toNat = row ∧ Countable (UInt16.ofNat row) := by
  have same : (UInt16.ofNat row).toNat = row := by
    rw [UInt16.toNat_ofNat']
    exact Nat.mod_eq_of_lt (by omega)
  exact ⟨same, by rw [Countable, same]; exact room⟩

variable {T : Type} [LvTable T] (activeId : Int32) (skipArchive : Bool)

theorem listedSpools_cons (el : Json) (rest : List Json) :
    listedSpools skipArchive (el :: rest) =
      if skipArchive && isArchived el then listedSpools skipArchive rest
      else el :: listedSpools skipArchive rest := by
  unfold listedSpools
  rw [List.filter_cons]
  cases skipArchive && isArchived el <;> rfl

/-- The rows of these records, from a row on. -/
def writeRows (activeId : Int32) : List Json → Nat → T → T
  | [], _, t => t
  | el :: rest, row, t =>
    writeRows activeId rest (row + 1)
      (writeRow (spId el == activeId.toUInt32) (UInt16.ofNat row) el t)

/-- What is skipped leaves no trace. -/
theorem fillRows_eq (sorted : List Json) (row : Nat) (t : T) :
    fillRows activeId skipArchive sorted row t =
      (writeRows activeId (listedSpools skipArchive sorted) row t,
        row + (listedSpools skipArchive sorted).length) := by
  induction sorted generalizing row t with
  | nil => rfl
  | cons el rest ih =>
    rw [fillRows, listedSpools_cons]
    cases skipArchive && isArchived el with
    | true => exact ih row t
    | false =>
      refine (ih (row + 1) _).trans ?_
      rw [if_neg Bool.false_ne_true, List.length_cons, writeRows, Nat.add_right_comm, Nat.add_assoc]

theorem fillTable_eq (sorted : List Json) (t : T) :
    fillTable activeId skipArchive sorted t =
      setRowCnt (UInt16.ofNat ((listedSpools skipArchive sorted).length + 1))
        (writeRows activeId (listedSpools skipArchive sorted) 1 (writeHeader t)) := by
  rw [fillTable, fillRows_eq, Nat.add_comm]

variable [LawfulTable T] {rows : List Json}

theorem writeRows_ruled {row : Nat} (room : row + rows.length < 2 ^ 16) {t : T} (ruled : Ruled t) :
    Ruled (writeRows activeId rows row t) := by
  induction rows generalizing row t with
  | nil => exact ruled
  | cons el rest ih =>
    rw [List.length_cons] at room
    obtain ⟨-, countable⟩ := ofNat_row row (by omega)
    exact ih (by omega) (writeRow_ruled _ countable el ruled)

theorem writeRows_above {row : Nat} (room : row + rows.length < 2 ^ 16) {r : Nat} (above : r < row)
    (t : T) (c : Nat) : cell (writeRows activeId rows row t) r c = cell t r c := by
  induction rows generalizing row t with
  | nil => rfl
  | cons el rest ih =>
    rw [List.length_cons] at room
    obtain ⟨same, countable⟩ := ofNat_row row (by omega)
    have differs : r ≠ (UInt16.ofNat row).toNat := by omega
    refine (ih (by omega) (Nat.lt_succ_of_lt above) _).trans ?_
    exact writeRow_other _ countable el differs c

theorem writeRows_shown {row : Nat} (room : row + rows.length < 2 ^ 16) {t : T} (ruled : Ruled t)
    {i : Nat} {el : Json} (found : rows[i]? = some el) {col : Nat} (column : col < 8) :
    shown (writeRows activeId rows row t) (row + i) col =
      spoolCell (spId el == activeId.toUInt32) el col := by
  induction rows generalizing row t i with
  | nil => cases found
  | cons head rest ih =>
    rw [List.length_cons] at room
    obtain ⟨same, countable⟩ := ofNat_row row (by omega)
    cases i with
    | zero =>
      cases found
      have room : row + 1 + rest.length < 2 ^ 16 := by omega
      have kept := shown_congr (writeRows_above activeId room (Nat.lt_succ_self row)
        (writeRow (spId el == activeId.toUInt32) (UInt16.ofNat row) el t)) col
      have written := writeRow_shown (spId el == activeId.toUInt32) countable el ruled column
      rw [same] at written
      exact kept.trans written
    | succ i =>
      have next : row + (i + 1) = row + 1 + i := by omega
      rw [next]
      exact ih (by omega) (writeRow_ruled _ countable head ruled) found

theorem writeHeader_cell (t : T) (row c : Nat) :
    cell (writeHeader t) (row + 1) c = cell t (row + 1) c := by
  have countable : Countable 0 := by decide
  have below : row + 1 ≠ (0 : UInt16).toNat := Nat.succ_ne_zero row
  unfold writeHeader
  rw [setCellValue_other countable _ _ _ _ _ below, setCellValue_other countable _ _ _ _ _ below,
    setCellValue_other countable _ _ _ _ _ below, setCellValue_other countable _ _ _ _ _ below,
    setCellValue_other countable _ _ _ _ _ below]

theorem writeHeader_ruled {t : T} (ruled : Ruled t) : Ruled (writeHeader t) := by
  have countable : Countable 0 := by decide
  intro row col merged
  apply ruled row col
  simpa [writeHeader, setCellValue_mergeRight countable] using merged

theorem setRowCnt_ruled (rows : UInt16) {t : T} (ruled : Ruled t) : Ruled (setRowCnt rows t) := by
  intro row col merged
  by_cases inside : row < rows.toNat
  · rw [LawfulTable.cell_setRowCnt _ _ _ _ inside] at merged
    exact ruled row col merged
  · have past : rowCnt (setRowCnt rows t) ≤ row := by
      rw [LawfulTable.rowCnt_setRowCnt]
      exact Nat.le_of_not_lt inside
    rw [LawfulTable.cell_past _ _ _ past] at merged
    cases merged

theorem fillTable_ruled (sorted : List Json) {t : T} (ruled : Ruled t)
    (room : (listedSpools skipArchive sorted).length + 1 < 2 ^ 16) :
    Ruled (fillTable activeId skipArchive sorted t) := by
  rw [fillTable_eq]
  exact setRowCnt_ruled _ (writeRows_ruled activeId (by omega) (writeHeader_ruled ruled))

theorem fillTable_rowCnt (sorted : List Json) (t : T) :
    rowCnt (fillTable activeId skipArchive sorted t) =
      ((listedSpools skipArchive sorted).length + 1) % 2 ^ 16 := by
  rw [fillTable_eq, LawfulTable.rowCnt_setRowCnt, UInt16.toNat_ofNat']

theorem fillTable_cell (sorted : List Json) (t : T)
    (room : (listedSpools skipArchive sorted).length + 1 < 2 ^ 16) {row : Nat}
    (inside : row ≤ (listedSpools skipArchive sorted).length) (c : Nat) :
    cell (fillTable activeId skipArchive sorted t) row c =
      cell (writeRows activeId (listedSpools skipArchive sorted) 1 (writeHeader t)) row c := by
  rw [fillTable_eq]
  apply LawfulTable.cell_setRowCnt
  rw [UInt16.toNat_ofNat', Nat.mod_eq_of_lt (by omega)]
  omega

theorem fillTable_shown (sorted : List Json) {t : T} (ruled : Ruled t)
    (room : (listedSpools skipArchive sorted).length + 1 < 2 ^ 16) {i : Nat} {el : Json}
    (found : (listedSpools skipArchive sorted)[i]? = some el) {col : Nat} (column : col < 8) :
    shown (fillTable activeId skipArchive sorted t) (i + 1) col =
      spoolCell (spId el == activeId.toUInt32) el col := by
  have bound : i + 1 ≤ (listedSpools skipArchive sorted).length :=
    (List.getElem?_eq_some_iff.mp found).1
  have kept := shown_congr (fillTable_cell activeId skipArchive sorted t room bound) col
  rw [kept, Nat.add_comm i 1]
  exact writeRows_shown activeId (by omega) (writeHeader_ruled ruled) found column

end Fill

end Table

end GrumpyScreen
