import GrumpyScreen.CalLog
import GrumpyScreen.Spoolman

/-! The action cells of the spool table over any run of fillings, and what a tap on
them asks of Spoolman. -/

namespace GrumpyScreen

open Lib LvTable

variable {T : Type} [LvTable T]

/-- One filling of the table by `populate_spools`; with no spools there is none. -/
structure Population where
  spools : Spools
  activeId : Int32
  showArchived : Bool
  sorted : List Json
  rearranged : sorted.Perm spools.values
  filled : spools.isEmpty = false

namespace Population

variable (pop : Population)

/-- The panel that fills the table. -/
def panel (t : T) : SpoolmanPanel T :=
  { spools := pop.spools, activeId := pop.activeId, showArchived := pop.showArchived, table := t }

def fill (t : T) : T := ((pop.panel t).populateSpools pop.sorted).table

/-- The spools that get a row, first to last. -/
def listed : List Json := listedSpools (!pop.showArchived) pop.sorted

def isActive (el : Json) : Bool := spId el == pop.activeId.toUInt32

end Population

/-- What a tap on a row asks of Spoolman. -/
inductive SpoolRequest where
  | postSpoolId (id : Int)
  | patchArchived (spoolId : CellValue) (archived : Bool)
deriving DecidableEq

/-- `std::stoi` of an id cell; it throws on an id that is no int. -/
def CellValue.toId : CellValue → Option Int
  | .text [.lit digits] => stoi digits.toList
  | _ => none

/-- `handle_spoolman_action` on the rows below the header. -/
def tapped (row col : Nat) (t : T) : List SpoolRequest :=
  if row = 0 ∨ rowCnt t ≤ row then []
  else
    let spoolId := (cell t row 0).value
    match col, (cell t row col).value with
    | 6, .play => (spoolId.toId.map SpoolRequest.postSpoolId).toList
    | 7, .drive => [.patchArchived spoolId true]
    | 7, .upload => [.patchArchived spoolId false]
    | _, _ => []

/-- What the column that archives offers for a spool. -/
def archiveAction (isActive : Bool) (el : Json) : CellValue :=
  if isArchived el then .upload else if isActive then .text [] else .drive

/-- What the column that makes a spool active offers for it. -/
def useAction (isActive : Bool) (el : Json) : CellValue :=
  if isActive then .text [.lit "(active)"] else if isArchived el then .text [] else .play

/-- The action cells of each row are those of its own spool, and no tap on the
active spool's row archives it. -/
structure ActionsOwn (pop : Population) (t : T) : Prop where
  use : ∀ i el, pop.listed[i]? = some el →
    (cell t (i + 1) 6).value = useAction (pop.isActive el) el
  archive : ∀ i el, pop.listed[i]? = some el →
    (cell t (i + 1) 7).value = archiveAction (pop.isActive el) el
  spared : ∀ i el, pop.listed[i]? = some el → pop.isActive el = true →
    ∀ col spoolId, .patchArchived spoolId true ∉ tapped (i + 1) col t

/-- The widget can count the rows, and the active spool, unless it is archived, gets
one whose archive cell is blank. -/
structure FindsBlank (t : T) (pop : Population) : Prop where
  room : pop.listed.length + 1 < 2 ^ 16
  blank : ∀ i el, pop.listed[i]? = some el → pop.isActive el = true → isArchived el = false →
    (cell t (i + 1) 7).value = .text []

section Row

variable [LawfulTable T] (isActive : Bool) {row : UInt16} (room : Countable row) (el : Json)
  {t other : T}

include room

theorem writeRow_congr (same : ∀ c, cell t row.toNat c = cell other row.toNat c) (c : Nat) :
    cell (writeRow isActive row el t) row.toNat c =
      cell (writeRow isActive row el other) row.toNat c := by
  unfold writeRow
  cases isActive <;> cases isArchived el <;>
    simp [LawfulTable.cell_setCellValue _ _ _ _ _ _ room,
      LawfulTable.cell_addMergeRight _ _ _ _ _ room,
      LawfulTable.cell_clearMergeRight _ _ _ _ _ room, same]

theorem writeRow_use :
    (cell (writeRow isActive row el t) row.toNat 6).value = useAction isActive el := by
  unfold writeRow useAction
  cases isActive <;> cases isArchived el <;> simp [setCellValue_value room]

theorem writeRow_archive :
    (cell (writeRow isActive row el t) row.toNat 7).value =
      if isArchived el then .upload
      else if isActive then (cell t row.toNat 7).value
      else .drive := by
  unfold writeRow
  cases isActive <;> cases isArchived el <;>
    simp [setCellValue_value room, addMergeRight_value room, clearMergeRight_value room]

end Row

section Fill

variable [LawfulTable T] (activeId : Int32) (skipArchive : Bool)

theorem writeRows_written {rows : List Json} {row : Nat} (room : row + rows.length < 2 ^ 16)
    (t : T) {i : Nat} {el : Json} (found : rows[i]? = some el) (c : Nat) :
    cell (writeRows activeId rows row t) (row + i) c =
      cell (writeRow (spId el == activeId.toUInt32) (UInt16.ofNat (row + i)) el t) (row + i) c := by
  induction rows generalizing row t i with
  | nil => cases found
  | cons head rest ih =>
    rw [List.length_cons] at room
    obtain ⟨same, countable⟩ := ofNat_row row (by omega)
    have below : row + 1 + rest.length < 2 ^ 16 := by omega
    cases i with
    | zero =>
      cases found
      exact writeRows_above activeId below (Nat.lt_succ_self row) _ c
    | succ i =>
      have bound := (List.getElem?_eq_some_iff.mp found).1
      rw [List.length_cons] at bound
      obtain ⟨own, fits⟩ := ofNat_row (row + 1 + i) (by omega)
      have differs : row + 1 + i ≠ (UInt16.ofNat row).toNat := by omega
      have next : row + (i + 1) = row + 1 + i := by omega
      rw [next]
      refine (ih below _ found).trans ?_
      have kept := writeRow_congr (spId el == activeId.toUInt32) fits el (c := c)
        (fun c => own.symm ▸ writeRow_other (spId head == activeId.toUInt32) countable head
          (t := t) differs c)
      rwa [own] at kept

theorem fillTable_written (sorted : List Json) (t : T)
    (room : (listedSpools skipArchive sorted).length + 1 < 2 ^ 16) {i : Nat} {el : Json}
    (found : (listedSpools skipArchive sorted)[i]? = some el) (c : Nat) :
    cell (fillTable activeId skipArchive sorted t) (i + 1) c =
      cell (writeRow (spId el == activeId.toUInt32) (UInt16.ofNat (i + 1)) el t) (i + 1) c := by
  have bound : i + 1 ≤ (listedSpools skipArchive sorted).length :=
    (List.getElem?_eq_some_iff.mp found).1
  obtain ⟨same, countable⟩ := ofNat_row (i + 1) (by omega)
  rw [fillTable_cell activeId skipArchive sorted t room bound, Nat.add_comm i 1]
  refine (writeRows_written activeId (by omega) (writeHeader t) found c).trans ?_
  rw [Nat.add_comm 1 i]
  have kept := writeRow_congr (spId el == activeId.toUInt32) countable el (c := c)
    (fun c => same.symm ▸ writeHeader_cell t i c)
  rwa [same] at kept

end Fill

section Step

variable {pop : Population} {t : T}

theorem fill_eq (t : T) (pop : Population) :
    pop.fill t = fillTable pop.activeId (!pop.showArchived) pop.sorted t := by
  have some : (pop.panel t).spools.isEmpty = false := pop.filled
  rw [Population.fill, SpoolmanPanel.populateSpools, some]
  rfl

theorem listed_distinct (pop : Population) : (pop.listed.map spId).Nodup := by
  have distinct := (pop.rearranged.map spId).nodup_iff.mpr pop.spools.values_ids
  exact distinct.sublist (List.filter_sublist.map spId)

theorem active_of_blank {isActive : Bool} {el : Json}
    (blank : archiveAction isActive el = .text []) : isActive = true := by
  cases isActive with
  | true => rfl
  | false => cases archived : isArchived el <;> simp [archiveAction, archived] at blank

theorem drive_of_tapped {row col : Nat} {spoolId : CellValue}
    (sent : .patchArchived spoolId true ∈ tapped row col t) : (cell t row 7).value = .drive := by
  unfold tapped at sent
  split at sent
  · cases sent
  · simp only at sent
    split at sent
    · simp at sent
    · assumption
    · simp at sent
    · cases sent

variable [LawfulTable T]

theorem room_of_own (own : ActionsOwn pop (pop.fill t)) : pop.listed.length + 1 < 2 ^ 16 := by
  by_contra many
  have counted : rowCnt (pop.fill t) = (pop.listed.length + 1) % 2 ^ 16 := by
    rw [fill_eq]
    exact fillTable_rowCnt ..
  have marked : ∀ i, (inside : i < pop.listed.length) → pop.listed.length ≤ i + 2 →
      pop.isActive pop.listed[i] = true := by
    intro i inside last
    have cell := own.archive i pop.listed[i] (List.getElem?_eq_getElem inside)
    have past : rowCnt (pop.fill t) ≤ i + 1 := by omega
    rw [LawfulTable.cell_past _ _ _ past] at cell
    exact active_of_blank cell.symm
  have first := marked (pop.listed.length - 1) (by omega) (by omega)
  have second := marked (pop.listed.length - 2) (by omega) (by omega)
  have same := (eq_of_beq first).trans (eq_of_beq second).symm
  have distinct := List.pairwise_iff_getElem.mp (List.pairwise_map.mp (listed_distinct pop))
  exact distinct (pop.listed.length - 2) (pop.listed.length - 1) (by omega) (by omega) (by omega)
    same.symm

/-- One filling shows each spool's own actions exactly where the active one finds its
archive cell blank. -/
theorem fill_own_iff (t : T) (pop : Population) :
    ActionsOwn pop (pop.fill t) ↔ FindsBlank t pop := by
  have written (room : pop.listed.length + 1 < 2 ^ 16) {i : Nat} {el : Json}
      (found : pop.listed[i]? = some el) :
      (cell (pop.fill t) (i + 1) 6).value = useAction (pop.isActive el) el ∧
        (cell (pop.fill t) (i + 1) 7).value =
          if isArchived el then .upload
          else if pop.isActive el then (cell t (i + 1) 7).value
          else .drive := by
    have bound := (List.getElem?_eq_some_iff.mp found).1
    obtain ⟨same, countable⟩ := ofNat_row (i + 1) (by omega)
    have use := writeRow_use (pop.isActive el) countable el (t := t)
    have archive := writeRow_archive (pop.isActive el) countable el (t := t)
    rw [same] at use archive
    rw [fill_eq]
    constructor
    · exact (congrArg Cell.value (fillTable_written _ _ _ t room found 6)).trans use
    · exact (congrArg Cell.value (fillTable_written _ _ _ t room found 7)).trans archive
  constructor
  · intro own
    have room := room_of_own own
    refine ⟨room, fun i el found active plain => ?_⟩
    have cell := own.archive i el found
    rw [(written room found).2, active, plain] at cell
    simpa [archiveAction, plain] using cell
  · intro finds
    have archive : ∀ i el, pop.listed[i]? = some el →
        (cell (pop.fill t) (i + 1) 7).value = archiveAction (pop.isActive el) el := by
      intro i el found
      rw [(written finds.room found).2, archiveAction]
      cases plain : isArchived el with
      | true => rfl
      | false =>
        cases active : pop.isActive el with
        | true => simp [finds.blank i el found active plain]
        | false => rfl
    refine ⟨?_, archive, ?_⟩
    · intro i el found
      exact (written finds.room found).1
    · intro i el found active col spoolId sent
      have drive := (archive i el found).symm.trans (drive_of_tapped sent)
      cases archived : isArchived el <;> simp [archiveAction, active, archived] at drive

/-- In every run of fillings the rows show their own spools' actions after each of them
exactly where each finds the active spool's archive cell blank. -/
theorem actions_own_iff (populations : List Population) :
    (∀ before pop, before ++ [pop] <+: populations →
      ActionsOwn pop (run (fun t pop => pop.fill t) (create : T) (before ++ [pop]))) ↔
    Along (fun t pop => pop.fill t) FindsBlank (create : T) populations := by
  rw [along_iff_forall]
  constructor
  · intro own before pop isPrefix
    apply (fill_own_iff _ pop).mp
    have shown := own before pop isPrefix
    rwa [run_snoc] at shown
  · intro finds before pop isPrefix
    rw [run_snoc]
    exact (fill_own_iff _ pop).mpr (finds before pop isPrefix)

/-- A list of one spool that is not archived. -/
def oneSpool (activeId : Int32) : Population where
  spools := .collect [.obj [("id", .int 5)]]
  activeId := activeId
  showArchived := false
  sorted := [.obj [("id", .int 5)]]
  rearranged := .refl _
  filled := rfl

/-- A spool that is active from the start has its own actions, and has them again once it
is no longer. -/
theorem actions_own_put_back :
    Along (fun t pop => pop.fill t) FindsBlank (create : Grid)
        [oneSpool 5, oneSpool 5, oneSpool (-1)] ∧
      ∀ before pop, before ++ [pop] <+: [oneSpool 5, oneSpool 5, oneSpool (-1)] →
        ActionsOwn pop (run (fun t pop => pop.fill t) (create : Grid) (before ++ [pop])) := by
  have first (t : Grid) (activeId : Int32) (blank : (cell t 1 7).value = .text []) :
      FindsBlank t (oneSpool activeId) := by
    refine ⟨show 1 + 1 < 2 ^ 16 by decide, fun i el found active plain => ?_⟩
    cases i with
    | zero => exact blank
    | succ i => cases found
  have finds : Along (fun t pop => Population.fill pop t) FindsBlank (create : Grid)
      [oneSpool 5, oneSpool 5, oneSpool (-1)] := by
    simp only [along_cons, along_nil, and_true]
    exact ⟨first _ 5 rfl, first _ 5 (by decide), first _ (-1) (by decide)⟩
  exact ⟨finds, (actions_own_iff [oneSpool 5, oneSpool 5, oneSpool (-1)]).mpr finds⟩

/-- Made active later it keeps the symbol that archives it. -/
theorem active_spool_archived :
    ¬ ActionsOwn (oneSpool 5)
        (run (fun t pop => pop.fill t) (create : Grid) [oneSpool (-1), oneSpool 5]) ∧
      tapped 1 7 (run (fun t pop => pop.fill t) (create : Grid) [oneSpool (-1), oneSpool 5]) =
        [.patchArchived (.text [.lit "5"]) true] := by
  have sent : tapped 1 7 (run (fun t pop => Population.fill pop t) (create : Grid)
      [oneSpool (-1), oneSpool 5]) = [.patchArchived (.text [.lit "5"]) true] := by decide
  refine ⟨fun own => ?_, sent⟩
  apply own.spared 0 (.obj [("id", .int 5)]) rfl rfl 7 (.text [.lit "5"])
  rw [sent]
  exact List.mem_cons_self

end Step

end GrumpyScreen
