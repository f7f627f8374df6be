import GrumpyScreen.Confirm
import GrumpyScreen.Handlers

/-! The Files list over any order of rebuilds, late metadata and taps: the row a
metadata reply touches, the files the list shows and the one a confirmation prints. -/

namespace GrumpyScreen

open Lib Lib.Exec

section Rows

@[simp] theorem FileRow.applyMeta_row (thumbPath : Bytes) (zoom : Int) (detail : String)
    (row : FileRow) : (row.applyMeta thumbPath zoom detail).row = row.row := by
  simp only [FileRow.applyMeta]
  split <;> split <;> rfl

@[simp] theorem FileRow.applyMeta_path (thumbPath : Bytes) (zoom : Int) (detail : String)
    (row : FileRow) : (row.applyMeta thumbPath zoom detail).path = row.path := by
  simp only [FileRow.applyMeta]
  split <;> split <;> rfl

@[simp] theorem FileRow.applyMeta_index (thumbPath : Bytes) (zoom : Int) (detail : String)
    (row : FileRow) : (row.applyMeta thumbPath zoom detail).index = row.index := by
  simp only [FileRow.applyMeta]
  split <;> split <;> rfl

/-- At most one row is another, and that one shows the path. -/
def OnlyRowOf (path : String) (rows rows' : List FileRow) : Prop :=
  rows' = rows ∨ ∃ front row back thumbPath zoom detail,
    rows = front ++ row :: back ∧ row.path = path ∧
      rows' = front ++ row.applyMeta thumbPath zoom detail :: back

private theorem map_row {rows : List FileRow} {row : FileRow} (update : FileRow → FileRow)
    (distinct : (rows.map FileRow.row).Nodup) (live : row ∈ rows) :
    ∃ front back, rows = front ++ row :: back ∧
      (rows.map fun r => if r.row = row.row then update r else r) =
        front ++ update row :: back := by
  obtain ⟨front, back, rfl⟩ := List.append_of_mem live
  refine ⟨front, back, rfl, ?_⟩
  simp only [List.map_append, List.map_cons, List.nodup_append, List.nodup_cons] at distinct
  obtain ⟨-, ⟨unlikeBack, -⟩, apart⟩ := distinct
  have others : ∀ rest : List FileRow, (∀ r ∈ rest, r.row ≠ row.row) →
      (rest.map fun r => if r.row = row.row then update r else r) = rest := by
    intro rest apart
    have same : ∀ r ∈ rest, (if r.row = row.row then update r else r) = id r :=
      fun r member => if_neg (apart r member)
    exact (List.map_congr_left same).trans (List.map_id rest)
  rw [List.map_append, List.map_cons, if_pos rfl]
  congr 1
  · refine others front fun r member same => ?_
    exact apart r.row (List.mem_map_of_mem member) row.row (List.mem_cons_self ..) same
  · congr 1
    refine others back fun r member same => unlikeBack ?_
    exact same ▸ List.mem_map_of_mem member

end Rows

private theorem generation_eq_iff {built current : Nat} (earlier : built ≤ current) :
    UInt32.ofNat built = UInt32.ofNat current ↔ (current - built) % 4294967296 = 0 := by
  rw [← UInt32.toNat_inj, UInt32.toNat_ofNat', UInt32.toNat_ofNat']
  omega

section Listed

variable {L : Type → Type} [Layer L]

/-- What is true of the Files list between any two callbacks: the rows have numbers of
their own, the counter counts the lists, a request made for the current list has its
row on it, and a row's index finds the row's path. -/
structure Listed (p : Panel L) : Prop where
  gen : p.ui.filesGen = .ofNat p.ui.listsBuilt
  made : ∀ row ∈ p.ui.fileRows, row.row < p.ui.rowsMade
  distinct : (p.ui.fileRows.map FileRow.row).Nodup
  counted : ∀ m ∈ p.waits.fileMetas, m.gen = .ofNat m.built ∧ m.built ≤ p.ui.listsBuilt
  live : ∀ m ∈ p.waits.fileMetas, m.built = p.ui.listsBuilt →
    ∃ row ∈ p.ui.fileRows, row.row = m.row ∧ row.path = m.path
  named : ∀ row ∈ p.ui.fileRows, ∀ idx, row.index = some idx →
    p.ui.filesNames[idx]? = some row.path

/-- The list with the requests that wait for metadata. -/
def filesPart (p : Panel L) :
    (List String × UInt32 × List FileRow × Nat × Nat × List Nat) × List FileMeta :=
  (p.ui.files, p.waits.fileMetas)

variable {p : Panel L}

theorem Listed.of_same {q : Panel L} (listed : Listed p) (same : filesPart q = filesPart p) :
    Listed q := by
  simp only [filesPart, Controls.files, Prod.mk.injEq] at same
  obtain ⟨⟨names, gen, rows, made, built, -⟩, metas⟩ := same
  constructor
  · rw [gen, built]
    exact listed.gen
  · rw [rows, made]
    exact listed.made
  · rw [rows]
    exact listed.distinct
  · rw [metas, built]
    exact listed.counted
  · rw [metas, built, rows]
    exact listed.live
  · rw [rows, names]
    exact listed.named

theorem Listed.cleared (listed : Listed p) : Listed { p with ui := clearFiles p.ui } where
  gen := by
    have counted : p.ui.filesGen + 1 = .ofNat (p.ui.listsBuilt + 1) := by
      rw [listed.gen, UInt32.ofNat_add]
      rfl
    exact counted
  made _ member := nomatch member
  distinct := List.nodup_nil
  counted m waiting := by
    obtain ⟨gen, earlier⟩ := listed.counted m waiting
    exact ⟨gen, Nat.le_succ_of_le earlier⟩
  live m waiting current := by
    have earlier : m.built ≤ p.ui.listsBuilt := (listed.counted m waiting).2
    exact absurd current (Nat.ne_of_lt (Nat.lt_succ_of_le earlier))
  named _ member := nomatch member

theorem Listed.pushed (listed : Listed p) (path : String) :
    Listed { p with ui.filesNames := p.ui.filesNames ++ [path] } where
  gen := listed.gen
  made := listed.made
  distinct := listed.distinct
  counted := listed.counted
  live := listed.live
  named row member idx index := by
    have found := listed.named row member idx index
    exact (List.getElem?_append_left (List.getElem?_eq_some_iff.mp found).1).trans found

theorem Listed.added (listed : Listed p) (path : String) (detail : Text) (index : Option Nat)
    (names : ∀ idx, index = some idx → p.ui.filesNames[idx]? = some path) :
    Listed { p with ui := filesAddRow path detail index p.ui } where
  gen := listed.gen
  made row member := by
    rcases List.mem_append.mp member with earlier | new
    · exact Nat.lt_succ_of_lt (listed.made row earlier)
    · rw [List.mem_singleton.mp new]
      exact Nat.lt_succ_self _
  distinct := by
    have fresh : p.ui.rowsMade ∉ p.ui.fileRows.map FileRow.row := by
      intro member
      obtain ⟨row, earlier, same⟩ := List.mem_map.mp member
      exact absurd same (Nat.ne_of_lt (listed.made row earlier))
    simpa [filesAddRow, List.nodup_append, listed.distinct] using
      fun row member same => fresh (List.mem_map.mpr ⟨row, member, same⟩)
  counted := listed.counted
  live m waiting current := by
    obtain ⟨row, member, same⟩ := listed.live m waiting current
    exact ⟨row, List.mem_append_left _ member, same⟩
  named row member idx found := by
    rcases List.mem_append.mp member with earlier | new
    · exact listed.named row earlier idx found
    · rw [List.mem_singleton.mp new] at found ⊢
      exact names idx found

theorem Listed.asked (listed : Listed p) (m : FileMeta) (gen : m.gen = p.ui.filesGen)
    (built : m.built = p.ui.listsBuilt)
    (row : ∃ row ∈ p.ui.fileRows, row.row = m.row ∧ row.path = m.path) :
    Listed { p with waits := { p.waits with fileMetas := p.waits.fileMetas ++ [m] } } where
  gen := listed.gen
  made := listed.made
  distinct := listed.distinct
  counted other waiting := by
    rcases List.mem_append.mp waiting with earlier | new
    · exact listed.counted other earlier
    · rw [List.mem_singleton.mp new, gen, listed.gen, built]
      exact ⟨rfl, Nat.le_refl _⟩
  live other waiting current := by
    rcases List.mem_append.mp waiting with earlier | new
    · exact listed.live other earlier current
    · rw [List.mem_singleton.mp new]
      exact row
  named := listed.named

theorem Listed.answered (listed : Listed p) (i : Nat) :
    Listed { p with waits := { p.waits with fileMetas := p.waits.fileMetas.eraseIdx i } } where
  gen := listed.gen
  made := listed.made
  distinct := listed.distinct
  counted m waiting := listed.counted m (List.mem_of_mem_eraseIdx waiting)
  live m waiting := listed.live m (List.mem_of_mem_eraseIdx waiting)
  named := listed.named

theorem Listed.refreshed (listed : Listed p) (update : FileRow → FileRow) (strays : List Nat)
    (same : ∀ r, (update r).row = r.row ∧ (update r).path = r.path ∧ (update r).index = r.index) :
    Listed { p with ui := { p.ui with
      fileRows := p.ui.fileRows.map update, strayWrites := strays } } where
  gen := listed.gen
  made row member := by
    obtain ⟨old, before, rfl⟩ := List.mem_map.mp member
    exact (same old).1 ▸ listed.made old before
  distinct := by
    have numbers : (p.ui.fileRows.map update).map FileRow.row = p.ui.fileRows.map FileRow.row := by
      rw [List.map_map]
      exact List.map_congr_left fun r _ => (same r).1
    exact numbers ▸ listed.distinct
  counted := listed.counted
  live m waiting current := by
    obtain ⟨row, member, number, path⟩ := listed.live m waiting current
    obtain ⟨number', path', -⟩ := same row
    exact ⟨update row, List.mem_map_of_mem member, number'.trans number, path'.trans path⟩
  named row member idx index := by
    obtain ⟨old, before, rfl⟩ := List.mem_map.mp member
    obtain ⟨-, path, index'⟩ := same old
    rw [path]
    exact listed.named old before idx (index'.symm.trans index)

theorem Listed.applied (listed : Listed p) (row : Nat) (thumbPath : Bytes) (zoom : Int)
    (detail : String) :
    Listed { p with ui := filesApplyMeta row thumbPath zoom detail p.ui } := by
  unfold filesApplyMeta
  split
  · refine listed.refreshed (fun r => if r.row = row then r.applyMeta thumbPath zoom detail else r)
      p.ui.strayWrites fun r => ?_
    split
    · simp
    · exact ⟨rfl, rfl, rfl⟩
  · have kept := listed.refreshed id (p.ui.strayWrites ++ [row]) fun _ => ⟨rfl, rfl, rfl⟩
    rw [List.map_id] at kept
    exact kept

variable {J : Type} [JsonLib J]

theorem metadataReply_cases (captured : FileMeta) (s : State J) (j : J) (p : Panel L) :
    final (metadataReply captured s j) p = p ∨
      captured.gen = p.ui.filesGen ∧ ∃ thumbPath zoom detail,
        final (metadataReply captured s j) p =
          { p with ui := filesApplyMeta captured.row thumbPath zoom detail p.ui } := by
  unfold metadataReply
  rw [final_get_bind]
  by_cases stale : captured.gen ≠ p.ui.filesGen
  · rw [if_pos stale]
    exact Or.inl rfl
  rw [if_neg stale, final_ofExcept_bind]
  cases getThumbnail (widthDistance 0.17) s (bytes captured.path) j with
  | error thrown => exact Or.inl rfl
  | ok thumb =>
    cases metadataText j with
    | error thrown => exact Or.inl rfl
    | ok detail => exact Or.inr ⟨not_not.mp stale, _, _, _, rfl⟩

theorem listEntry_listed (gen : UInt32) (f : J) :
    Preserves (fun p : Panel L => Listed p ∧ p.ui.filesGen = gen) (listEntry gen f) := by
  refine Preserves.bind (Preserves.ofExcept _) fun path => ?_
  refine Preserves.ite (Preserves.pure _) ?_
  -- between the name and its row the name stands last
  let named : PUnit → Panel L → Prop := fun _ p =>
    (Listed p ∧ p.ui.filesGen = gen) ∧ p.ui.filesNames[p.ui.filesNames.length - 1]? = some path
  refine Triple.bind (Q := named) ?_ fun _ => ?_
  · intro p kept
    refine ⟨⟨kept.1.pushed path, kept.2⟩, ?_⟩
    simp
  refine Triple.bind (Q := fun _ => named ⟨⟩) ?_ fun size => ?_
  · exact Triple.ofExcept _ (fun _ kept => kept.1) fun _ _ _ kept => kept
  · rintro p ⟨⟨listed, current⟩, last⟩
    have rowed := listed.added path (sizeText size) (some (p.ui.filesNames.length - 1)) (by
      intro idx same
      cases same
      exact last)
    have asked := rowed.asked { gen, row := p.ui.rowsMade, path, built := p.ui.listsBuilt }
      current.symm rfl ⟨_, List.mem_append_right _ (List.mem_singleton_self _), rfl, rfl⟩
    exact ⟨asked.of_same rfl, current⟩

theorem filesReply_listed (j : J) : Preserves (Listed (L := L)) (filesReply j) := by
  refine Preserves.bind (Preserves.modify fun p listed => listed.cleared) fun _ => ?_
  refine Triple.bind Triple.get fun start => ?_
  let current : Panel L → Prop := fun p => Listed p ∧ p.ui.filesGen = start.ui.filesGen
  refine Triple.bind (Q := fun _ => current) ?_ fun res => ?_
  · refine Triple.ofExcept _ (fun p kept => kept.1) fun _ p _ kept => ?_
    exact ⟨kept.1, kept.2 ▸ rfl⟩
  refine Triple.bind (Q := fun _ => current) ?_ fun _ => ?_
  · have listing : Preserves current
        ((if JsonLib.isArray res then (JsonLib.elements res).take 40 else []).forM
          (listEntry start.ui.filesGen)) :=
      Preserves.forM fun f => listEntry_listed start.ui.filesGen f
    exact listing.weaken (fun _ kept => kept) (fun _ _ kept => kept) fun _ kept => kept.1
  · rintro p ⟨listed, -⟩
    show Listed { p with ui := showNoFiles p.ui }
    unfold showNoFiles
    split
    · exact listed.added _ _ none (by simp)
    · exact listed

end Listed

section Step

variable {L : Type → Type} [Layer L] {J : Type}

/-- The replies the Files list is made from. -/
def Event.isFiles : Event J → Bool
  | .filesReply _ | .metadataReply _ _ _ => true
  | _ => false

variable [LawfulLayer L] [JsonLib J]

private theorem step_files_other (p : Panel L) (event : Event J) (idle : event.isHandled = false)
    (other : event.isFiles = false) : filesPart (step p event) = filesPart p := by
  cases event with
  | filesReply j => cases other
  | metadataReply i s j => cases other
  | delta j => exact consume_view filesPart (fun _ _ _ _ => rfl) j p
  | staleTick between => exact checkStale_view filesPart (fun _ _ _ _ _ => rfl) between p
  | printStartReply j =>
    simp only [step, printStartReply]
    split
    · rfl
    · split
      · split <;> rfl
      · rfl
  | loopPass inactive => exact loopPass_view filesPart (fun _ _ _ => rfl) inactive p
  | actionDone _ | updateChecked _ _ _ | updateFinished _ _ | tick _ =>
    exact side_view filesPart (fun _ _ _ _ _ _ _ _ _ _ _ => rfl) p _ rfl
  | homeTap _ | subTap _ | fileRow _ | slider _ _ | estopTap | callogStop | confirmTap _
  | key _ => cases idle
  | _ => rfl

/-- The Files list is made from its replies alone. -/
theorem step_files (p : Panel L) (event : Event J) (other : event.isFiles = false) :
    filesPart (step p event) = filesPart p := by
  cases handled : event.isHandled with
  | true =>
    refine handled_preserves (fun q => filesPart q = filesPart p) handled ?_ (fun _ _ same => same)
      (fun _ _ same => same) rfl
    intro q effect member same
    have spared : q.ui.files = p.ui.files := congrArg Prod.fst same
    obtain ⟨written, asked⟩ := perform_files q effect fun ui writes =>
      (congrArg Prod.fst (effects_spares p event effect member ui writes)).trans spared.symm
    exact (Prod.ext written asked).trans same
  | false => exact step_files_other p event handled other

theorem step_listed (p : Panel L) (event : Event J) (listed : Listed p) :
    Listed (step p event) := by
  cases files : event.isFiles with
  | false => exact listed.of_same (step_files p event files)
  | true =>
    cases event with
    | filesReply j =>
      simp only [step]
      split
      · exact listed
      · exact (filesReply_listed j).final (listed.of_same rfl)
    | metadataReply i s j =>
      simp only [step]
      split
      · next captured _ =>
        have answered := listed.answered i
        rcases metadataReply_cases captured s j { p with
          waits := { p.waits with fileMetas := p.waits.fileMetas.eraseIdx i } } with
          same | ⟨-, thumbPath, zoom, detail, same⟩
        · rw [same]
          exact answered
        · rw [same]
          exact answered.applied captured.row thumbPath zoom detail
      · exact listed
    | _ => simp [Event.isFiles] at files

theorem initial_listed : Listed (Panel.initial : Panel L) where
  gen := rfl
  made := by simp [Panel.initial, FileRow.placeholders]
  distinct := by
    have numbers : (FileRow.placeholders.map FileRow.row).Nodup := by decide
    exact numbers
  counted _ waiting := nomatch waiting
  live _ waiting := nomatch waiting
  named := by simp [Panel.initial, FileRow.placeholders]

end Step

section Shown

variable {L : Type → Type} [Layer L] {J : Type} [JsonLib J]

/-- The entries of a list reply that are looked at. -/
def listEntries (j : J) : List J :=
  match JsonLib.lookup j ["result"] with
  | .ok res => if JsonLib.isArray res then (JsonLib.elements res).take 40 else []
  | .error _ => []

def entryPath (f : J) : String := (JsonLib.valueString f "path" "").toOption.getD ""

def listedPaths (j : J) : List String := ((listEntries j).map entryPath).filter (· ≠ "")

/-- The entries are objects whose path is a string and whose size is a number. -/
structure WellListed (j : J) : Prop where
  result : ∃ res, JsonLib.lookup j ["result"] = .ok res
  paths : ∀ f ∈ listEntries j, ∃ path, JsonLib.valueString f "path" "" = .ok path
  sizes : ∀ f ∈ listEntries j, ∃ size, JsonLib.valueDouble f "size" 0.0 = .ok size

/-- The rows of a list reply: its files in order, each under its index, or the message. -/
def listShows (j : J) : List (String × Option Nat) :=
  if listedPaths j = [] then [("No gcode files", none)]
  else (listedPaths j).zipIdx.map fun (path, i) => (path, some i)

/-- What each row shows and the index a tap on it finds. -/
def shownFiles (p : Panel L) : List (String × Option Nat) :=
  p.ui.fileRows.map fun row => (row.path, row.index)

/-- One entry that reads without a throw. -/
def entryAdded (gen : UInt32) (p : Panel L) (f : J) : Panel L :=
  if entryPath f = "" then p
  else addFile gen (entryPath f) ((JsonLib.valueDouble f "size" 0.0).toOption.getD 0.0)
    { p with ui.filesNames := p.ui.filesNames ++ [entryPath f] }

theorem exec_listEntry (gen : UInt32) {f : J} {path : String} {size : Float}
    (named : JsonLib.valueString f "path" "" = .ok path)
    (sized : JsonLib.valueDouble f "size" 0.0 = .ok size) (p : Panel L) :
    exec (listEntry gen f) p = (.ok ⟨⟩, entryAdded gen p f) := by
  have known : entryPath f = path := by simp [entryPath, named, Except.toOption]
  have read : exec (Exec.ofExcept (JsonLib.valueString f "path" "") : Exec JsonExn (Panel L) String) p
      = (.ok path, p) := by rw [exec_ofExcept, named]
  rw [listEntry, exec_bind_ok read, entryAdded, known]
  by_cases empty : path = ""
  · rw [if_pos empty, if_pos empty]
    rfl
  · rw [if_neg empty, if_neg empty, exec_bind_ok (exec_modify _ p), sized]
    rfl

theorem entries_shown (gen : UInt32) (entries : List J) (p : Panel L) :
    let q := entries.foldl (entryAdded gen) p
    let paths := (entries.map entryPath).filter (· ≠ "")
    q.ui.filesNames = p.ui.filesNames ++ paths ∧
      shownFiles q = shownFiles p ++
        (paths.zipIdx p.ui.filesNames.length).map fun (path, i) => (path, some i) := by
  intro q paths
  induction entries generalizing p with
  | nil => simp [q, paths]
  | cons f rest ih =>
    obtain ⟨names, rows⟩ := ih (entryAdded gen p f)
    by_cases empty : entryPath f = ""
    · have skipped : entryAdded gen p f = p := if_pos empty
      rw [skipped] at names rows
      simp only [q, paths, List.foldl_cons, List.map_cons, skipped]
      rw [List.filter_cons_of_neg (by simp [empty])]
      exact ⟨names, rows⟩
    · have namesThen : (entryAdded gen p f).ui.filesNames = p.ui.filesNames ++ [entryPath f] := by
        rw [entryAdded, if_neg empty]
        rfl
      have rowsThen : shownFiles (entryAdded gen p f) =
          shownFiles p ++ [(entryPath f, some p.ui.filesNames.length)] := by
        rw [entryAdded, if_neg empty]
        simp [shownFiles, addFile, filesAddRow, send]
      rw [namesThen, rowsThen] at rows
      rw [namesThen] at names
      simp only [q, paths, List.foldl_cons, List.map_cons]
      rw [List.filter_cons_of_pos (by simp [empty])]
      refine ⟨names.trans (by simp), rows.trans ?_⟩
      simp [List.zipIdx_cons]

theorem filesReply_shows (j : J) (listed : WellListed j) (p : Panel L) :
    shownFiles (final (filesReply j) p) = listShows j := by
  obtain ⟨res, found⟩ := listed.result
  let cleared : Panel L := { p with ui := clearFiles p.ui }
  let built : Panel L := (listEntries j).foldl (entryAdded cleared.ui.filesGen) cleared
  have entries : listEntries j =
      if JsonLib.isArray res then (JsonLib.elements res).take 40 else [] := by
    simp only [listEntries, found]
  have looped : exec ((listEntries j).forM (listEntry cleared.ui.filesGen)) cleared =
      (.ok ⟨⟩, built) := by
    refine exec_forM (fun f member q => ?_) cleared
    obtain ⟨path, named⟩ := listed.paths f member
    obtain ⟨size, sized⟩ := listed.sizes f member
    exact exec_listEntry cleared.ui.filesGen named sized q
  have read : exec (Exec.ofExcept (JsonLib.lookup j ["result"]) : Exec JsonExn (Panel L) J) cleared =
      (.ok res, cleared) := by rw [exec_ofExcept, found]
  have ran : final (filesReply j) p = { built with ui := showNoFiles built.ui } := by
    unfold final filesReply
    rw [exec_bind_ok (exec_modify _ p), exec_bind_ok (exec_get _), exec_bind_ok read]
    dsimp only
    rw [← entries, exec_bind_ok looped]
    rfl
  obtain ⟨names, rows⟩ := entries_shown cleared.ui.filesGen (listEntries j) cleared
  have named : built.ui.filesNames = listedPaths j := names
  have shown : shownFiles built =
      (listedPaths j).zipIdx.map fun (path, i) => (path, some i) := rows
  rw [ran, listShows]
  by_cases none : listedPaths j = []
  · rw [if_pos none]
    rw [none] at named shown
    have bare : built.ui.fileRows = [] := List.map_eq_nil_iff.mp shown
    simp [shownFiles, showNoFiles, filesAddRow, named, bare]
  · rw [if_neg none]
    have kept : showNoFiles built.ui = built.ui := by
      simp [showNoFiles, named, none]
    rw [kept]
    exact shown

end Shown

section Metadata

variable {L : Type → Type} [Layer L] [LawfulLayer L] {J : Type} [JsonLib J]

/-- No positive multiple of 2^32 lists came between the request and its reply. -/
def FileMeta.Unlapped (m : FileMeta) (p : Panel L) : Prop :=
  m.built = p.ui.listsBuilt ∨ (p.ui.listsBuilt - m.built) % 4294967296 ≠ 0

theorem metadataReply_live {p : Panel L} (listed : Listed p) {i : Nat} {m : FileMeta}
    (waits : p.waits.fileMetas[i]? = some m) (unlapped : m.Unlapped p) (s : State J) (j : J) :
    ∃ rows, OnlyRowOf m.path p.ui.fileRows rows ∧
      step p (.metadataReply i s j) = { p with
        ui := { p.ui with fileRows := rows }
        waits := { p.waits with fileMetas := p.waits.fileMetas.eraseIdx i } } := by
  let q : Panel L :=
    { p with waits := { p.waits with fileMetas := p.waits.fileMetas.eraseIdx i } }
  have taken : step p (.metadataReply i s j) = final (metadataReply m s j) q := by
    simp only [step, waits]
    rfl
  rw [taken]
  rcases metadataReply_cases m s j q with same | ⟨matched, thumbPath, zoom, detail, same⟩
  · exact ⟨p.ui.fileRows, Or.inl rfl, same⟩
  · have member : m ∈ p.waits.fileMetas := List.mem_of_getElem? waits
    obtain ⟨gen, earlier⟩ := listed.counted m member
    have current : m.built = p.ui.listsBuilt := by
      rcases unlapped with current | lapped
      · exact current
      · have counter : UInt32.ofNat m.built = UInt32.ofNat p.ui.listsBuilt :=
          gen.symm.trans (matched.trans listed.gen)
        exact absurd ((generation_eq_iff earlier).mp counter) lapped
    obtain ⟨row, live, number, path⟩ := listed.live m member current
    obtain ⟨front, back, split, updated⟩ :=
      map_row (FileRow.applyMeta thumbPath zoom detail) listed.distinct live
    refine ⟨_, Or.inr ⟨front, row, back, thumbPath, zoom, detail, split, path, rfl⟩, ?_⟩
    rw [same, ← updated, ← number]
    have found : (p.ui.fileRows.any fun r => decide (r.row = row.row)) = true :=
      List.any_eq_true.mpr ⟨row, live, decide_eq_true rfl⟩
    simp [q, filesApplyMeta, found]

/-- The list reply processed last. -/
def watchList (last : Option J) (p : Panel L) : Event J → Option J
  | .filesReply j => if p.waits.filesLists = 0 then last else some j
  | _ => last

/-- The list reply a run processed last. -/
def lastList (L : Type → Type) [Layer L] [LawfulLayer L] (events : List (Event J)) : Option J :=
  (run (observed watchList step) (none, (Panel.initial : Panel L)) events).1

theorem step_shows {last : Option J} {p : Panel L}
    (before : ∀ j, last = some j → WellListed j → shownFiles p = listShows j) (event : Event J) :
    ∀ j, watchList last p event = some j → WellListed j →
      shownFiles (step p event) = listShows j := by
  have rowsOf : ∀ {q : Panel L}, filesPart q = filesPart p → shownFiles q = shownFiles p := by
    intro q same
    simp only [filesPart, Controls.files, Prod.mk.injEq] at same
    rw [shownFiles, same.1.2.2.1]
    rfl
  intro j watched well
  cases files : event.isFiles with
  | false =>
    have unwatched : watchList last p event = last := by
      cases event with
      | filesReply j => simp [Event.isFiles] at files
      | _ => rfl
    rw [rowsOf (step_files p event files)]
    exact before j (unwatched.symm.trans watched) well
  | true =>
    cases event with
    | filesReply reply =>
      by_cases ignored : p.waits.filesLists = 0
      · simp only [watchList, if_pos ignored] at watched
        simp only [step, if_pos ignored]
        exact before j watched well
      · simp only [watchList, if_neg ignored, Option.some.injEq] at watched
        simp only [step, if_neg ignored]
        subst watched
        exact filesReply_shows reply well _
    | metadataReply i s reply =>
      have kept : shownFiles (step p (.metadataReply i s reply)) = shownFiles p := by
        simp only [step]
        split
        · next captured _ =>
          rcases metadataReply_cases captured s reply { p with
            waits := { p.waits with fileMetas := p.waits.fileMetas.eraseIdx i } } with
            same | ⟨-, thumbPath, zoom, detail, same⟩
          · rw [same]
            rfl
          · rw [same]
            simp only [shownFiles, filesApplyMeta]
            split
            · rw [List.map_map]
              refine List.map_congr_left fun r _ => ?_
              simp only [Function.comp_apply]
              split
              · simp
              · rfl
            · rfl
        · rfl
      rw [kept]
      exact before j watched well
    | _ => simp [Event.isFiles] at files

end Metadata

section Print

variable {L : Type → Type} [Layer L] {J : Type} [JsonLib J]

/-- The event neither answers the dialog nor opens another one. -/
def LeavesDialog (p : Panel L) (event : Event J) : Prop :=
  (∀ target, event ≠ .confirmTap target) ∧ opensOf (event.effects p) = none ∧
    refusesPrint p event = false

variable [LawfulLayer L]

/-- A dialog that is left alone keeps its action. -/
theorem step_leavesDialog {p : Panel L} {event : Event J} (leaves : LeavesDialog p event)
    (settled : Settled p.ov) :
    (step p event).ov.pending = p.ov.pending ∧ Settled (step p event).ov := by
  obtain ⟨unanswered, silent, accepted⟩ := leaves
  cases tap : event.isTap with
  | true =>
    obtain ⟨pending, kept⟩ := step_tap p event tap unanswered settled
    rw [silent, Option.none_or] at pending
    exact ⟨pending, kept⟩
  | false =>
    have same := step_same p event tap accepted
    exact ⟨same.1, same.settled settled⟩

theorem fileRow_prints {p : Panel L} {idx : Nat} {path : String}
    (named : p.ui.filesNames[idx]? = some path) {between : List (Event J)}
    (untouched : Along step LeavesDialog (step p (.fileRow idx : Event J)) between) :
    let q := run step (step p (.fileRow idx : Event J)) between
    q.ov.pending = some (.printFile path) ∧
      dispatched q (.confirmTap .confirm : Event J) = [.printStart path] := by
  intro q
  have tapped : step p (.fileRow idx : Event J) =
      { p with ov := confirm s!"Print {baseName path}?" (.printFile path) p.ov } := by
    simp [step, fileRowCb, named, performAll, perform]
  have opened : (step p (.fileRow idx : Event J)).ov.pending = some (.printFile path) ∧
      Settled (step p (.fileRow idx : Event J)).ov := by
    rw [tapped]
    exact ⟨rfl, confirm_settled _ _ _⟩
  have preserved : ∀ (r : Panel L) (event : Event J),
      r.ov.pending = some (.printFile path) ∧ Settled r.ov → LeavesDialog r event →
      (step r event).ov.pending = some (.printFile path) ∧ Settled (step r event).ov := by
    rintro r event ⟨pending, settled⟩ leaves
    obtain ⟨same, stays⟩ := step_leavesDialog leaves settled
    exact ⟨same.trans pending, stays⟩
  have kept : q.ov.pending = some (.printFile path) ∧ Settled q.ov :=
    untouched.invariant preserved opened
  refine ⟨kept.1, ?_⟩
  have sent : (step q (.confirmTap .confirm : Event J)).sent = q.sent ++ [.printStart path] := by
    have ran : (step q (.confirmTap .confirm : Event J)).sent = _ :=
      confirmTap_sent (J := J) q .confirm
    simpa [Event.effects, kept.1, runAction, commandsOf, Effect.commands] using ran
  rw [dispatched, sent, List.drop_left]

/-- After any events at all: a metadata reply moves nothing but a row of the current
list that shows its path, unless a positive multiple of 2^32 lists were built since the
request; the list shows the list reply processed last; and the confirmation a tap on a
row opens prints the file the row showed, whatever comes in while the dialog waits. -/
theorem files_list_current (events : List (Event J)) :
    let p : Panel L := after events
    (∀ i m s (j : J), p.waits.fileMetas[i]? = some m → m.Unlapped p →
      ∃ rows, OnlyRowOf m.path p.ui.fileRows rows ∧
        step p (.metadataReply i s j) = { p with
          ui := { p.ui with fileRows := rows }
          waits := { p.waits with fileMetas := p.waits.fileMetas.eraseIdx i } }) ∧
    (∀ j, lastList L events = some j → WellListed j → shownFiles p = listShows j) ∧
    ∀ row ∈ p.ui.fileRows, ∀ idx, row.index = some idx → ∀ between : List (Event J),
      Along step LeavesDialog (step p (.fileRow idx : Event J)) between →
      let q := run step (step p (.fileRow idx : Event J)) between
      q.ov.pending = some (.printFile row.path) ∧
        dispatched q (.confirmTap .confirm : Event J) = [.printStart row.path] := by
  intro p
  have listed : Listed p := run_invariant step_listed initial_listed events
  refine ⟨?_, ?_, ?_⟩
  · intro i m s j waits unlapped
    exact metadataReply_live listed waits unlapped s j
  · let current : Option J → Panel L → Prop := fun last p =>
      ∀ j, last = some j → WellListed j → shownFiles p = listShows j
    have preserved : ∀ last p (event : Event J), current last p →
        current (watchList last p event) (step p event) :=
      fun _ _ event before => step_shows before event
    have start : current none Panel.initial := by
      intro j processed
      cases processed
    exact run_invariant_observed preserved start events
  · intro row member idx index between untouched
    exact fileRow_prints (listed.named row member idx index) untouched

end Print

section Lists

/-- Two files, with an entry between them that has no path. -/
private def twoListed : Json :=
  .obj [("result", .arr [
    .obj [("path", .str "cube.gcode"), ("size", .int 2048)],
    .obj [("path", .str "")],
    .obj [("path", .str "parts/clip.gcode"), ("size", .int 100)]])]

private def oneListed : Json := .obj [("result", .arr [.obj [("path", .str "cube.gcode")]])]

private def noneListed : Json := .obj [("result", .arr [])]

private def filament : Json := .obj [("result", .obj [("filament_type", .str "PLA")])]

private theorem twoListed_well : WellListed twoListed where
  result := ⟨_, rfl⟩
  paths f member := by
    rcases List.mem_cons.mp member with rfl | member
    · exact ⟨_, rfl⟩
    rcases List.mem_cons.mp member with rfl | member
    · exact ⟨_, rfl⟩
    rcases List.mem_cons.mp member with rfl | member
    · exact ⟨_, rfl⟩
    · cases member
  sizes f member := by
    rcases List.mem_cons.mp member with rfl | member
    · exact ⟨_, rfl⟩
    rcases List.mem_cons.mp member with rfl | member
    · exact ⟨_, rfl⟩
    rcases List.mem_cons.mp member with rfl | member
    · exact ⟨_, rfl⟩
    · cases member

/-- The metadata of the second file arrives, and the first file is printed although an
empty list arrives while the dialog is open. -/
theorem files_list_current_two :
    let events : List (Event Json) := [.homeTap .files, .homeTap .files, .filesReply twoListed]
    let p : Panel ZStack := after events
    (∃ rows, OnlyRowOf "parts/clip.gcode" p.ui.fileRows rows ∧
      step p (.metadataReply 1 State.reset filament) = { p with
        ui := { p.ui with fileRows := rows }
        waits := { p.waits with fileMetas := p.waits.fileMetas.eraseIdx 1 } }) ∧
    shownFiles p = listShows twoListed ∧
    let q := run step (step p (.fileRow 0 : Event Json)) [.filesReply noneListed]
    q.ov.pending = some (.printFile "cube.gcode") ∧
      dispatched q (.confirmTap .confirm : Event Json) = [.printStart "cube.gcode"] := by
  intro events p
  obtain ⟨live, shown, prints⟩ := files_list_current (L := ZStack) events
  refine ⟨live 1 _ State.reset filament rfl (Or.inl rfl), shown twoListed rfl twoListed_well, ?_⟩
  refine prints _ (List.mem_cons_self ..) 0 rfl [.filesReply noneListed] ⟨?_, trivial⟩
  refine ⟨?_, rfl, rfl⟩
  intro target same
  cases same

/-- An empty list, asked for and answered. -/
private def emptied : List (Event Json) := [.homeTap .files, .filesReply noneListed]

/-- A list with one file, whose metadata is long in coming, and then empty lists. -/
private def relisted (rounds : Nat) : List (Event Json) :=
  [.homeTap .files, .homeTap .files, .filesReply oneListed, .filesReply noneListed] ++
    (List.replicate rounds emptied).flatten

private def cubeMeta : FileMeta := { gen := 1, row := 4, path := "cube.gcode", built := 1 }

/-- The request still waits, its row is gone and no row has its number again. -/
private structure Outlived (built : Nat) (p : Panel ZStack) : Prop where
  waits : p.waits.fileMetas = [cubeMeta]
  gen : p.ui.filesGen = .ofNat built
  later : ∀ row ∈ p.ui.fileRows, 4 < row.row
  made : 4 < p.ui.rowsMade
  strays : p.ui.strayWrites = []

private theorem outlived_emptied {built : Nat} {p : Panel ZStack} (outlived : Outlived built p) :
    Outlived (built + 1) (run step p emptied) := by
  have same : filesPart (step p (.homeTap .files : Event Json)) = filesPart p :=
    step_files p (.homeTap .files : Event Json) rfl
  have waiting : (step p (.homeTap .files : Event Json)).waits.filesLists ≠ 0 := Nat.succ_ne_zero _
  have ran : run step p emptied =
      step (step p (.homeTap .files : Event Json)) (.filesReply noneListed) := rfl
  rw [ran]
  generalize step p (.homeTap .files : Event Json) = asked at same waiting
  simp only [filesPart, Controls.files, Prod.mk.injEq] at same
  obtain ⟨⟨-, gen, -, made, -, strays⟩, metas⟩ := same
  have answered : step asked (.filesReply noneListed) = { asked with
      ui := showNoFiles (clearFiles asked.ui)
      waits := { asked.waits with filesLists := asked.waits.filesLists - 1 } } :=
    if_neg waiting
  rw [answered]
  constructor
  · exact metas.trans outlived.waits
  · have counted : asked.ui.filesGen + 1 = .ofNat (built + 1) := by
      rw [gen, outlived.gen, UInt32.ofNat_add]
      rfl
    exact counted
  · intro row member
    rw [List.mem_singleton.mp member]
    exact made ▸ outlived.made
  · exact Nat.lt_succ_of_lt (made ▸ outlived.made)
  · exact strays.trans outlived.strays

private theorem outlived_rounds (rounds : Nat) {built : Nat} {p : Panel ZStack}
    (outlived : Outlived built p) :
    Outlived (built + rounds) (run step p (List.replicate rounds emptied).flatten) := by
  induction rounds generalizing built p with
  | zero => exact outlived
  | succ rounds ih =>
    rw [List.replicate_succ, List.flatten_cons, run_append, Nat.add_comm rounds, ← Nat.add_assoc]
    exact ih (outlived_emptied outlived)

private theorem outlived_relisted (rounds : Nat) :
    Outlived (2 + rounds) (after (relisted rounds)) := by
  rw [after, relisted, run_append]
  refine outlived_rounds rounds ⟨rfl, rfl, ?_, by decide, rfl⟩
  intro row member
  rw [List.mem_singleton.mp member]
  decide

private theorem stray_of_outlived {built : Nat} {p : Panel ZStack} (outlived : Outlived built p)
    (lapped : UInt32.ofNat 1 = .ofNat built) :
    p.waits.fileMetas[0]? = some cubeMeta ∧ 4 ∉ p.ui.fileRows.map FileRow.row ∧
      (step p (.metadataReply 0 State.reset filament)).ui.strayWrites = [4] := by
  have waits : p.waits.fileMetas[0]? = some cubeMeta := by
    rw [outlived.waits]
    rfl
  have gone : 4 ∉ p.ui.fileRows.map FileRow.row := by
    intro member
    obtain ⟨row, live, number⟩ := List.mem_map.mp member
    exact absurd number (Nat.ne_of_gt (outlived.later row live))
  refine ⟨waits, gone, ?_⟩
  have matched : ¬ cubeMeta.gen ≠ p.ui.filesGen := by
    rw [outlived.gen, not_not]
    exact lapped
  have unlisted : (p.ui.fileRows.any fun r => decide (r.row = 4)) = false := by
    rw [List.any_eq_false]
    intro row live
    exact decide_eq_false (Nat.ne_of_gt (outlived.later row live)) ▸ Bool.false_ne_true
  have taken : step p (.metadataReply 0 State.reset filament) =
      final (metadataReply cubeMeta State.reset filament) { p with
        waits := { p.waits with fileMetas := p.waits.fileMetas.eraseIdx 0 } } := by
    simp only [step, waits]
  have ran : final (metadataReply cubeMeta State.reset filament) { p with
        waits := { p.waits with fileMetas := p.waits.fileMetas.eraseIdx 0 } } =
      { p with
        ui := filesApplyMeta 4 [] 0 "PLA" p.ui
        waits := { p.waits with fileMetas := p.waits.fileMetas.eraseIdx 0 } } := by
    unfold final metadataReply
    rw [exec_bind_ok (exec_get _), if_neg matched]
    rfl
  rw [taken, ran, filesApplyMeta, if_neg (by simp [unlisted])]
  simp [outlived.strays]

/-- After 2^32 more lists the counter is back where the request was made: the late
metadata is written to the row of the first list, which is gone. -/
theorem late_metadata_on_deleted_row :
    let p : Panel ZStack := after (relisted 4294967295)
    p.waits.fileMetas[0]? = some cubeMeta ∧ 4 ∉ p.ui.fileRows.map FileRow.row ∧
      (step p (.metadataReply 0 State.reset filament)).ui.strayWrites = [4] := by
  have lapped : UInt32.ofNat 1 = .ofNat (2 + 4294967295) :=
    (generation_eq_iff (Nat.le_add_left 1 _)).mpr rfl
  exact stray_of_outlived (outlived_relisted 4294967295) lapped

end Lists

end GrumpyScreen
