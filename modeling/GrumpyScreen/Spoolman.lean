import GrumpyScreen.Lib.Run
import GrumpyScreen.Lib.Exec
import GrumpyScreen.SpoolTable
import Mathlib.Order.Defs.Unbundled

/-! The Spoolman panel along every run of list replies, active-spool replies and
notifications, taps on its table and drawings of its cells, against what Spoolman last
reported. -/

namespace GrumpyScreen

open Lib LvTable

/-- `std::sort`: the range rearranged, in order where the comparison orders it;
how it leaves equivalent elements is its own business. -/
structure StdSort (α : Type) where
  sort : (α → α → Bool) → List α → List α
  rearranges : ∀ less l, (sort less l).Perm l
  ordered : ∀ less l, IsStrictWeakOrder α (fun a b => less a b = true) →
    (sort less l).Pairwise fun a b => less b a = false

/-- A merge sort is one. -/
def StdSort.merge (α : Type) : StdSort α where
  sort less l := l.mergeSort fun a b => !less b a
  rearranges less l := List.mergeSort_perm l _
  ordered less l weak := by
    have sorted : (l.mergeSort fun a b => !less b a).Pairwise fun a b => (!less b a) = true := by
      apply List.pairwise_mergeSort
      · intro a b c
        simp only [Bool.not_eq_true', Bool.eq_false_iff]
        intro first second below
        have near : ¬ less a b = true := fun up => second (weak.trans c a b below up)
        have far : ¬ less b c = true := fun up => first (weak.trans b c a up below)
        exact (weak.incomp_trans a b c ⟨near, first⟩ ⟨far, second⟩).2 below
      · intro a b
        cases up : less b a with
        | false => rfl
        | true =>
          cases down : less a b with
          | false => rfl
          | true => exact (weak.irrefl a (weak.trans a b a down up)).elim
    exact sorted.imp fun settled => by simpa using settled

theorem weak_of_key {β κ : Type*} [LinearOrder κ] (key : β → κ) {less : β → β → Bool}
    (keyed : ∀ a b, less a b = true ↔ key a < key b) :
    IsStrictWeakOrder β fun a b => less a b = true := by
  simp only [keyed]
  refine { irrefl := fun a => lt_irrefl _, trans := fun a b c => lt_trans, incomp_trans := ?_ }
  intro a b c first second
  have level := le_antisymm (not_lt.mp first.2) (not_lt.mp first.1)
  rw [level]
  exact second

structure SpoolmanPanel (T : Type) [LvTable T] where
  activeId : Int32 := -1
  spools : Spools := .empty
  sortedBy : UInt32 := 1
  showArchived : Bool := false
  table : T := create

variable {T : Type} [LvTable T]

namespace SpoolmanPanel

def populateSpools (sortedSpools : List Json) (p : SpoolmanPanel T) : SpoolmanPanel T :=
  if p.spools.isEmpty then p
  else { p with table := fillTable p.activeId (!p.showArchived) sortedSpools p.table }

section Handlers

variable (S : StdSort Json)

def sortedById : UInt32 := 1
def sortedByName : UInt32 := 2
def sortedByMat : UInt32 := 4
def sortedByWt : UInt32 := 8
def sortedByLen : UInt32 := 16

/-- Every reply, and the switch, puts the rows back in the order of the ids. -/
def populateById (p : SpoolmanPanel T) : SpoolmanPanel T :=
  populateSpools (S.sort (fun a b => spId a < spId b) p.spools.values)
    { p with sortedBy := sortedById }

/-- The reply to the request for the spools. -/
def listReply (d : Json) : Exec JsonExn (SpoolmanPanel T) PUnit := do
  let s ← Exec.ofExcept (Json.lookup d ["result"])
  if JsonLib.isNull s || (Json.elements s).isEmpty then pure ⟨⟩
  else
    modify fun p => { p with spools := Spools.collect (Json.elements s) }
    modify (populateById S)

/-- The active id at a pointer of a message; null is taken for no message. -/
def takeActiveId (ptr : List String) (d : Json) : Exec JsonExn (SpoolmanPanel T) PUnit := do
  let v ← Exec.ofExcept (Json.lookup d ptr)
  if JsonLib.isNull v then pure ⟨⟩
  else
    let id ← Exec.ofExcept (Json.getInt v)
    modify fun p => { p with activeId := Int32.ofInt id }
    modify (populateById S)

def resultPtr : List String := ["result", "spool_id"]

def paramsPtr : List String := ["params", "0", "spool_id"]

/-- The reply to the request for the active spool. -/
def activeReply : Json → Exec JsonExn (SpoolmanPanel T) PUnit := takeActiveId S resultPtr

def handleActiveIdUpdate : Json → Exec JsonExn (SpoolmanPanel T) PUnit := takeActiveId S paramsPtr

def archivedTapped (p : SpoolmanPanel T) : SpoolmanPanel T :=
  populateById S { p with showArchived := !p.showArchived }

/-- The comparison of a column by its key, either way round. -/
def byKey {K : Type} [LT K] [DecidableLT K] (key : Json → K) (reversed : Bool) (a b : Json) :
    Bool := if reversed then key a > key b else key b > key a

def sortColumn (bit : UInt32) (less : Bool → Json → Json → Bool) (p : SpoolmanPanel T) :
    SpoolmanPanel T :=
  let reversed := p.sortedBy &&& bit != 0
  populateSpools (S.sort (less reversed) p.spools.values)
    { p with sortedBy := (p.sortedBy ^^^ bit) &&& bit }

/-- A tap on the header: the column's order, or nothing for the other columns. -/
def headerTapped (col : Nat) : SpoolmanPanel T → SpoolmanPanel T :=
  match col with
  | 0 => sortColumn S sortedById (byKey spId)
  | 1 => sortColumn S sortedByName (byKey spoolName)
  | 2 => sortColumn S sortedByMat (byKey spoolMaterial)
  | 4 => sortColumn S sortedByWt (byKey fun el => spNum el ["remaining_weight"])
  | 5 => sortColumn S sortedByLen (byKey fun el => spNum el ["remaining_length"])
  | _ => id

end Handlers

/-- The spool whose colour a cell is drawn in. -/
def drawnSpool (row col : Nat) (p : SpoolmanPanel T) : Option Json :=
  if row ≠ 0 ∧ col = 3 then (cell p.table row 0).value.toKey.bind p.spools.find else none

/-- A cell as it is drawn: the colour is looked up in the record that is kept. -/
def cellDrawn (row col : Nat) : Exec JsonExn (SpoolmanPanel T) PUnit := do
  let p ← get
  match p.drawnSpool row col with
  | none => pure ⟨⟩
  | some el =>
    let (found, kept) := Json.touch colorPtr el
    modify fun p => { p with spools := p.spools.replace kept }
    -- a colour that is none is caught, a filament that is none is not
    let _ ← Exec.ofExcept found
    pure ⟨⟩

end SpoolmanPanel

/-- What reaches the panel, in any order. -/
inductive SpoolEvent where
  | listReply (d : Json)
  | activeReply (d : Json)
  | activeSet (d : Json)
  | archivedTapped
  | headerTapped (col : Nat)
  | cellDrawn (row col : Nat)

def SpoolmanPanel.step (S : StdSort Json) (p : SpoolmanPanel T) : SpoolEvent → SpoolmanPanel T
  | .listReply d => Exec.final (listReply S d) p
  | .activeReply d => Exec.final (activeReply S d) p
  | .activeSet d => Exec.final (handleActiveIdUpdate S d) p
  | .archivedTapped => archivedTapped S p
  | .headerTapped col => headerTapped S col p
  | .cellDrawn row col => Exec.final (cellDrawn row col) p

section Reported

/-- What Spoolman last said: its spools by id, and the active one if there is one. -/
structure Report where
  spools : UInt32 → Option Json := fun _ => none
  active : Option UInt32 := none

/-- The records a list reply reports; one without a result reports nothing. -/
def reportedSpools (d : Json) : Option (List Json) :=
  match Json.resolve ["result"] d with
  | none | some .null => none
  | some s => some (Json.elements s)

/-- What a message reports at a pointer: nothing, that no spool is active, or the
id of the active one. -/
def reportedActive (ptr : List String) (d : Json) : Option (Option UInt32) :=
  match Json.resolve ptr d with
  | none => none
  | some v =>
    if JsonLib.isNull v then some none
    else
      match Json.getInt v with
      | .ok id => some (some (UInt32.ofInt id))
      | .error _ => none

def Report.tell (g : Report) : Option (Option UInt32) → Report
  | some active => { g with active }
  | none => g

def Report.step (g : Report) : SpoolEvent → Report
  | .listReply d =>
    match reportedSpools d with
    | some records =>
      { g with spools := fun id => (records.filter hasId).find? fun e => spId e = id }
    | none => g
  | .activeReply d => g.tell (reportedActive SpoolmanPanel.resultPtr d)
  | .activeSet d => g.tell (reportedActive SpoolmanPanel.paramsPtr d)
  | .archivedTapped | .headerTapped _ | .cellDrawn _ _ => g

/-- The spool the panel takes for active, if any. -/
def SpoolmanPanel.active (p : SpoolmanPanel T) : Option UInt32 :=
  if p.activeId = -1 then none else some p.activeId.toUInt32

/-- The table has one row for each spool reported that is to be shown, which tells
its record and whether it is the active one, and no other rows. -/
def Shows (t : T) (showArchived : Bool) (g : Report) : Prop :=
  ∃ ids : List UInt32, ids.Nodup ∧
    (∀ id, id ∈ ids ↔ ∃ e, g.spools id = some e ∧ (!showArchived && isArchived e) = false) ∧
    rowCnt t - 1 = ids.length ∧
    ∀ (i : Nat) (id : UInt32), ids[i]? = some id → ∃ e, g.spools id = some e ∧
      ∀ col < 8, shown t (i + 1) col = spoolCell (g.active == some id) e col

/-- The panel's map, its active id and its table are those last reported. -/
structure Agrees (p : SpoolmanPanel T) (g : Report) : Prop where
  spools : ∀ id, p.spools.find id = g.spools id
  active : p.active = g.active
  table : Shows p.table p.showArchived g

end Reported

section Shown

variable {s : Spools} {g : Report} {showArchived : Bool}

theorem listed_ids (s : Spools) (skipArchive : Bool) :
    ((listedSpools skipArchive s.values).map spId).Nodup := by
  apply List.Nodup.sublist _ s.values_ids
  exact List.filter_sublist.map spId

theorem mem_listed_ids {skipArchive : Bool} {id : UInt32} :
    id ∈ (listedSpools skipArchive s.values).map spId ↔
      ∃ e, s.find id = some e ∧ (skipArchive && isArchived e) = false := by
  constructor
  · intro member
    obtain ⟨e, kept, rfl⟩ := List.mem_map.mp member
    obtain ⟨value, shown⟩ := List.mem_filter.mp kept
    rw [Bool.not_eq_true'] at shown
    exact ⟨e, Spools.mem_values.mp value, shown⟩
  · rintro ⟨e, found, shown⟩
    have own : spId e = id := s.keyed id e found
    apply List.mem_map.mpr
    refine ⟨e, List.mem_filter.mpr ⟨?_, by simp [shown]⟩, own⟩
    apply Spools.mem_values.mpr
    rw [own]
    exact found

theorem Shows.rows {t : T} (shows : Shows t showArchived g)
    (same : ∀ id, s.find id = g.spools id) :
    rowCnt t - 1 = (listedSpools (!showArchived) s.values).length := by
  obtain ⟨ids, distinct, members, count, -⟩ := shows
  have perm : ids.Perm ((listedSpools (!showArchived) s.values).map spId) := by
    apply (List.perm_ext_iff_of_nodup distinct (listed_ids s _)).mpr
    intro id
    rw [members, mem_listed_ids]
    simp only [same]
  rw [count, perm.length_eq, List.length_map]

theorem shows_nothing {t : T} (none : ∀ id, g.spools id = none) :
    Shows t showArchived g ↔ rowCnt t - 1 = 0 := by
  constructor
  · rintro ⟨ids, -, members, count, -⟩
    have empty : ids = [] := by
      apply List.eq_nil_iff_forall_not_mem.mpr
      intro id member
      obtain ⟨e, found, -⟩ := (members id).mp member
      rw [none id] at found
      cases found
    rw [count, empty]
    rfl
  · intro count
    refine ⟨[], List.nodup_nil, fun id => ?_, count, fun i id found => nomatch found⟩
    simp [none]

section Fill

variable {p : SpoolmanPanel T} {sorted : List Json}

theorem listedSpools_perm {records : List Json} (perm : sorted.Perm records) (skipArchive : Bool) :
    (listedSpools skipArchive sorted).Perm (listedSpools skipArchive records) :=
  perm.filter _

end Fill

end Shown

section Steps

variable (S : StdSort Json)

theorem listReply_final (d : Json) (p : SpoolmanPanel T) :
    Exec.final (SpoolmanPanel.listReply S d) p =
      match reportedSpools d with
      | none => p
      | some records =>
        if records.isEmpty then p
        else SpoolmanPanel.populateById S { p with spools := Spools.collect records } := by
  have plain : ∀ token ∈ ["result"], Json.checkedIndex token = Json.arrayIndex token :=
    List.forall_mem_singleton.mpr (by decide)
  unfold SpoolmanPanel.listReply reportedSpools
  rw [Exec.final_ofExcept_bind]
  rcases Json.lookup_resolve plain d with found | ⟨missing, thrown, threw⟩
  · rw [found]
    cases Json.resolve ["result"] d with
    | none => rfl
    | some s =>
      cases s with
      | null => rfl
      | arr items => cases items <;> rfl
      | obj members => cases members <;> rfl
      | _ => rfl
  · rw [threw, missing]

theorem toInt32_ofInt (n : Int) : (UInt32.ofInt n).toInt32 = Int32.ofInt n := by
  apply Int32.toBitVec_inj.mp
  rw [Int32.toBitVec_ofInt, UInt32.toBitVec_toInt32, UInt32.ofInt, UInt32.toBitVec_ofNat']
  apply BitVec.eq_of_toNat_eq
  rw [BitVec.toNat_ofInt, BitVec.toNat_ofNat]
  omega

theorem takeActiveId_final {ptr : List String}
    (plain : ∀ token ∈ ptr, Json.checkedIndex token = Json.arrayIndex token) (d : Json)
    (p : SpoolmanPanel T) :
    Exec.final (SpoolmanPanel.takeActiveId S ptr d) p =
      match reportedActive ptr d with
      | some (some id) => SpoolmanPanel.populateById S { p with activeId := id.toInt32 }
      | _ => p := by
  unfold SpoolmanPanel.takeActiveId reportedActive
  rw [Exec.final_ofExcept_bind]
  rcases Json.lookup_resolve plain d with found | ⟨missing, thrown, threw⟩
  · rw [found]
    cases Json.resolve ptr d with
    | none => rfl
    | some v =>
      simp only [Option.getD_some, Exec.final_skip, Exec.final_ofExcept_bind]
      cases JsonLib.isNull v with
      | true => rfl
      | false =>
        cases Json.getInt v with
        | error thrown => rfl
        | ok id =>
          simp only [if_neg Bool.false_ne_true, toInt32_ofInt]
          rfl
  · rw [threw, missing]

theorem cellDrawn_final (row col : Nat) (p : SpoolmanPanel T) :
    Exec.final (SpoolmanPanel.cellDrawn row col) p =
      match p.drawnSpool row col with
      | none => p
      | some el => { p with spools := p.spools.replace (touched el) } := by
  unfold SpoolmanPanel.cellDrawn
  rw [Exec.final_get_bind]
  cases p.drawnSpool row col with
  | none => rfl
  | some el =>
    simp only [Exec.final, Exec.exec_bind, Exec.exec_modify, Exec.exec_ofExcept]
    cases (Json.touch colorPtr el).1 <;> rfl

theorem drawnSpool_find {p : SpoolmanPanel T} {row col : Nat} {el : Json}
    (drawn : p.drawnSpool row col = some el) : p.spools.find (spId el) = some el := by
  unfold SpoolmanPanel.drawnSpool at drawn
  split at drawn
  · obtain ⟨id, -, found⟩ := Option.bind_eq_some_iff.mp drawn
    rw [p.spools.keyed id el found]
    exact found
  · cases drawn

end Steps

section Runs

/-- The columns that sort the table. -/
def sortedColumns : List Nat := [0, 1, 2, 4, 5]

/-- What the table is in a run whose rows can be counted: its flags where they belong. -/
structure Sound (p : SpoolmanPanel T) : Prop where
  ruled : Ruled p.table
  counted : rowCnt p.table < 2 ^ 16

variable {S : StdSort Json} {p : SpoolmanPanel T} {g : Report}

theorem Sound.same {q : SpoolmanPanel T} (sound : Sound p) (table : q.table = p.table) :
    Sound q := ⟨table ▸ sound.ruled, table ▸ sound.counted⟩

theorem plain_resultPtr :
    ∀ token ∈ SpoolmanPanel.resultPtr, Json.checkedIndex token = Json.arrayIndex token :=
  List.forall_mem_cons.mpr ⟨by decide, List.forall_mem_singleton.mpr (by decide)⟩

theorem plain_paramsPtr :
    ∀ token ∈ SpoolmanPanel.paramsPtr, Json.checkedIndex token = Json.arrayIndex token :=
  List.forall_mem_cons.mpr ⟨by decide, List.forall_mem_cons.mpr
    ⟨by decide, List.forall_mem_singleton.mpr (by decide)⟩⟩

theorem headerTapped_cases (S : StdSort Json) (col : Nat) (p : SpoolmanPanel T) :
    sortedColumns.contains col = false ∧ p.headerTapped S col = p ∨
      sortedColumns.contains col = true ∧ ∃ sorted sortedBy,
        sorted.Perm p.spools.values ∧
          p.headerTapped S col = SpoolmanPanel.populateSpools sorted { p with sortedBy } := by
  match col with
  | 0 => exact Or.inr ⟨rfl, _, _, S.rearranges _ _, rfl⟩
  | 1 => exact Or.inr ⟨rfl, _, _, S.rearranges _ _, rfl⟩
  | 2 => exact Or.inr ⟨rfl, _, _, S.rearranges _ _, rfl⟩
  | 3 => exact Or.inl ⟨rfl, rfl⟩
  | 4 => exact Or.inr ⟨rfl, _, _, S.rearranges _ _, rfl⟩
  | 5 => exact Or.inr ⟨rfl, _, _, S.rearranges _ _, rfl⟩
  | n + 6 => exact Or.inl ⟨by simp [sortedColumns], rfl⟩

theorem Agrees.cleared (agrees : Agrees p g) (empty : p.spools.isEmpty = true) :
    rowCnt p.table - 1 = 0 :=
  (shows_nothing fun id => (agrees.spools id).symm.trans (Spools.isEmpty_iff.mp empty id)).mp
    agrees.table

theorem Agrees.room (agrees : Agrees p g) (sound : Sound p) :
    (listedSpools (!p.showArchived) p.spools.values).length + 1 < 2 ^ 16 := by
  have rows := agrees.table.rows agrees.spools
  have counted := sound.counted
  omega

variable [LawfulTable T]

theorem sound_populate {sorted : List Json} (perm : sorted.Perm p.spools.values)
    (room : (listedSpools (!p.showArchived) p.spools.values).length + 1 < 2 ^ 16)
    (sound : Sound p) : Sound (p.populateSpools sorted) := by
  unfold SpoolmanPanel.populateSpools
  cases p.spools.isEmpty with
  | true => exact sound
  | false =>
    rw [← (listedSpools_perm perm _).length_eq] at room
    refine ⟨fillTable_ruled p.activeId _ _ sound.ruled room, ?_⟩
    show rowCnt (fillTable p.activeId (!p.showArchived) sorted p.table) < 2 ^ 16
    rw [fillTable_rowCnt]
    exact Nat.mod_lt _ (by decide)

theorem sound_start : Sound ({} : SpoolmanPanel T) where
  ruled row col merged := by
    rw [LawfulTable.cell_create] at merged
    cases merged
  counted := by
    show rowCnt (create : T) < 2 ^ 16
    rw [LawfulTable.rowCnt_create]
    decide

end Runs

end GrumpyScreen
