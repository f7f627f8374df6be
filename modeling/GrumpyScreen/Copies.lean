import GrumpyScreen.Replica
import GrumpyScreen.Seed
import GrumpyScreen.Subscribe

/-! The two copies of the printer's status, over runs of the link: the document that the
replica keeps for every panel, and the values the cockpit caches. -/

namespace GrumpyScreen

open Lib Lib.Exec

section Overlay

variable {α β : Type} {old new after : Option α}

/-- A field before a patch, in it and after it: the patch's where it has one, else the one
before, unless the patch took it away. -/
def Overlaid (old new after : Option α) : Prop :=
  ∀ value, after = some value → new = some value ∨ new = none ∧ old = some value

theorem Overlaid.bind (overlaid : Overlaid old new after) (f : α → Option β) :
    Overlaid (old.bind f) (new.bind f) (after.bind f) := by
  intro read found
  obtain ⟨value, there, taken⟩ := Option.bind_eq_some_iff.mp found
  rcases overlaid value there with told | ⟨silent, before⟩
  · exact .inl (Option.bind_eq_some_iff.mpr ⟨value, told, taken⟩)
  · exact .inr ⟨by rw [silent]; rfl, Option.bind_eq_some_iff.mpr ⟨value, before, taken⟩⟩

theorem Overlaid.map (overlaid : Overlaid old new after) (f : α → β) :
    Overlaid (old.map f) (new.map f) (after.map f) := by
  simp only [Option.map_eq_bind]
  exact overlaid.bind _

theorem Overlaid.agree (overlaid : Overlaid old new after) {cached : α}
    (agreed : old.getD cached = cached) : after.getD (new.getD cached) = new.getD cached := by
  cases found : after with
  | none => rfl
  | some value =>
    rcases overlaid value found with told | ⟨silent, before⟩
    · rw [told]
      rfl
    · rw [before] at agreed
      rw [silent]
      exact agreed

end Overlay

section Patches

variable {status doc : Json}

theorem null_iff (node : Json) : JsonLib.isNull node = true ↔ node = .null := by
  cases node <;> simp [JsonLib.isNull]

theorem statusField_some {decode : Json → Except JsonExn α} {path : List String} {value : α} :
    statusField status path decode = some value ↔
      ∃ node, Json.lookup status path = .ok node ∧ node ≠ .null ∧ decode node = .ok value := by
  have walked : JsonLib.lookup status path = Json.lookup status path := rfl
  rw [statusField, walked]
  cases Json.lookup status path with
  | error thrown => simp [decodeNode]
  | ok node =>
    by_cases null : node = .null
    · simp [decodeNode, null, (null_iff .null).mpr]
    · have present : ¬ JsonLib.isNull node = true := fun empty => null ((null_iff node).mp empty)
      cases read : decode node <;> simp [decodeNode, null, present, read, Except.toOption]

theorem statusField_patched {decode : Json → Except JsonExn α} {path : List String}
    (whole : ∀ members value, decode (.obj members) ≠ .ok value)
    (readable : Readable (JsonLib.lookup status path) decode) (doc : Json) :
    Overlaid (statusField doc path decode) (statusField status path decode)
      (statusField (Json.mergePatch doc status) path decode) := by
  intro value found
  obtain ⟨node, patched, present, read⟩ := statusField_some.mp found
  obtain ⟨given, told, readable⟩ := readable
  by_cases null : given = .null
  · subst null
    refine .inr ⟨?_, statusField_some.mpr ⟨node, ?_, present, read⟩⟩
    · rw [statusField, told]
      rfl
    · exact Json.lookup_mergePatch_silent told patched present
  · obtain ⟨own, decoded⟩ := readable.resolve_left fun empty => null ((null_iff given).mp empty)
    have kept : ∀ old, Json.mergePatch old given = given :=
      Json.mergePatch_whole fun members same => whole members own (same ▸ decoded)
    have same : given = node := by
      rcases Json.lookup_mergePatch_told told null doc with merged | ⟨old, merged⟩
      · exact Except.ok.inj (merged.symm.trans patched)
      · exact Except.ok.inj ((congrArg Except.ok (kept old)).symm.trans (merged.symm.trans patched))
    exact .inl (statusField_some.mpr ⟨given, told, null, same ▸ read⟩)

theorem positionAxes_some {items : List Json} :
    positionAxes status = some items ↔
      Json.lookup status ["toolhead", "position"] = .ok (.arr items) := by
  have walked : JsonLib.lookup status ["toolhead", "position"] =
      Json.lookup status ["toolhead", "position"] := rfl
  rw [positionAxes, walked]
  cases Json.lookup status ["toolhead", "position"] with
  | error thrown => simp
  | ok node => cases node <;> simp [JsonLib.isArray, JsonLib.elements, Json.elements]

theorem position_patched {given : Json}
    (told : Json.lookup status ["toolhead", "position"] = .ok given) (doc : Json) :
    Overlaid (positionAxes doc) (positionAxes status) (positionAxes (Json.mergePatch doc status)) := by
  intro items found
  have patched := positionAxes_some.mp found
  by_cases null : given = .null
  · subst null
    refine .inr ⟨?_, positionAxes_some.mpr ?_⟩
    · cases other : positionAxes status with
      | none => rfl
      | some items => cases told.symm.trans (positionAxes_some.mp other)
    · exact Json.lookup_mergePatch_silent told patched (by simp)
  · left
    rcases Json.lookup_mergePatch_told told null doc with merged | ⟨old, merged⟩
    · exact positionAxes_some.mpr (told.trans (merged.symm.trans patched))
    · have same : Json.mergePatch old given = .arr items :=
        Except.ok.inj (merged.symm.trans patched)
      cases given with
      | obj members => cases same
      | _ => exact positionAxes_some.mpr (told.trans (congrArg Except.ok same))

end Patches

section Step

variable {status doc : Json} {keys : List String}

theorem Cache.take_get (get : Cache → β) (field : Option α) (put : α → Cache → Cache) (c : Cache) :
    get (c.take field put) = (field.map fun value => get (put value c)).getD (get c) := by
  cases field <;> rfl

theorem Cache.merged_eq (c : Cache) (status : Json) :
    c.merged status =
      let number (path : List String) := statusField status path JsonLib.getDouble
      let count (path : List String) := statusField status path JsonLib.getInt
      { progress := (number ["virtual_sdcard", "progress"]).getD c.progress
        duration := (number ["print_stats", "print_duration"]).getD c.duration
        nozzle := ((number ["extruder", "temperature"]).map castInt).getD c.nozzle
        nozzleSet := ((number ["extruder", "target"]).map castInt).getD c.nozzleSet
        bed := ((number ["heater_bed", "temperature"]).map castInt).getD c.bed
        bedSet := ((number ["heater_bed", "target"]).map castInt).getD c.bedSet
        layer := (count ["print_stats", "info", "current_layer"]).getD c.layer
        layerTotal := (count ["print_stats", "info", "total_layer"]).getD c.layerTotal
        job := (statusField status ["print_stats", "filename"] JsonLib.getString).getD c.job
        homed := (homedAxes status).getD c.homed
        pos := ((positionAxes status).bind coordinates).getD c.pos } := by
  have kept : ∀ {α β : Type} (field : Option α) (x : β), (field.map fun _ => x).getD x = x := by
    intro α β field x
    cases field <;> rfl
  simp only [Cache.merged, Cache.toolhead, Cache.decoded, Cache.take_get Cache.progress,
    Cache.take_get Cache.duration, Cache.take_get Cache.nozzle, Cache.take_get Cache.nozzleSet,
    Cache.take_get Cache.bed, Cache.take_get Cache.bedSet, Cache.take_get Cache.layer,
    Cache.take_get Cache.layerTotal, Cache.take_get Cache.job, Cache.take_get Cache.homed,
    Cache.take_get Cache.pos, kept, Option.map_id_fun', id]

/-- What a message that carries `new` makes of a document, for every field the cockpit caches. -/
structure Renews (old new after : Json) : Prop where
  number : ∀ path ∈ numberFields, Overlaid (statusField old path JsonLib.getDouble)
    (statusField new path JsonLib.getDouble) (statusField after path JsonLib.getDouble)
  count : ∀ path ∈ layerFields, Overlaid (statusField old path JsonLib.getInt)
    (statusField new path JsonLib.getInt) (statusField after path JsonLib.getInt)
  text : ∀ path ∈ textFields, Overlaid (statusField old path JsonLib.getString)
    (statusField new path JsonLib.getString) (statusField after path JsonLib.getString)
  position : Overlaid (positionAxes old) (positionAxes new) (positionAxes after)

/-- A status object merged into a document; null is no patch. -/
def patched (doc status : Json) : Json :=
  match status with
  | .null => doc
  | _ => Json.mergePatch doc status

theorem statusField_null (path : List String) (decode : Json → Except JsonExn α) :
    statusField Json.null path decode = none := by
  have walked : JsonLib.lookup Json.null path = .ok .null := Json.lookup_null path
  rw [statusField, walked]
  rfl

theorem statusDoc_null : StatusDoc Json.null [] where
  number path _ := ⟨.null, Json.lookup_null path, .inl rfl⟩
  count path _ := ⟨.null, Json.lookup_null path, .inl rfl⟩
  text path _ := ⟨.null, Json.lookup_null path, .inl rfl⟩
  target := nofun
  value := nofun
  position := ⟨.null, rfl, nofun⟩
  mesh := ⟨.null, rfl, nofun⟩

theorem StatusDoc.fields (typed : StatusDoc status keys) : StatusDoc status [] where
  number := typed.number
  count := typed.count
  text := typed.text
  target := nofun
  value := nofun
  position := typed.position
  mesh := typed.mesh

theorem renews_patched (typed : StatusDoc status []) (doc : Json) :
    Renews doc status (patched doc status) := by
  obtain ⟨position, told, -⟩ := typed.position
  cases status with
  | null =>
    exact ⟨fun path _ _ found => .inr ⟨statusField_null path _, found⟩,
      fun path _ _ found => .inr ⟨statusField_null path _, found⟩,
      fun path _ _ found => .inr ⟨statusField_null path _, found⟩,
      fun _ found => .inr ⟨rfl, found⟩⟩
  | _ =>
    refine ⟨fun path member => ?_, fun path member => ?_, fun path member => ?_,
      position_patched told doc⟩
    · exact statusField_patched (fun _ _ read => by cases read) (typed.number path member) doc
    · exact statusField_patched (fun _ _ read => by cases read) (typed.count path member) doc
    · exact statusField_patched (fun _ _ read => by cases read) (typed.text path member) doc

theorem renews_snapshot (doc status : Json) : Renews doc status status :=
  ⟨fun _ _ _ found => .inl found, fun _ _ _ found => .inl found, fun _ _ _ found => .inl found,
    fun _ found => .inl found⟩

/-- Cached values that agree with the document agree with it again once both took a status
object in. -/
theorem Renews.merged {after : Json} (renews : Renews doc status after) {c : Cache}
    (agreed : c.merged doc = c) : (c.merged status).merged after = c.merged status := by
  have agreed := (c.merged_eq doc).symm.trans agreed
  have number := renews.number
  rw [(c.merged status).merged_eq, c.merged_eq status]
  simp only [Cache.mk.injEq]
  exact ⟨(number _ (by decide)).agree (congrArg Cache.progress agreed),
    (number _ (by decide)).agree (congrArg Cache.duration agreed),
    ((number _ (by decide)).map castInt).agree (congrArg Cache.nozzle agreed),
    ((number _ (by decide)).map castInt).agree (congrArg Cache.nozzleSet agreed),
    ((number _ (by decide)).map castInt).agree (congrArg Cache.bed agreed),
    ((number _ (by decide)).map castInt).agree (congrArg Cache.bedSet agreed),
    (renews.count _ (by decide)).agree (congrArg Cache.layer agreed),
    (renews.count _ (by decide)).agree (congrArg Cache.layerTotal agreed),
    (renews.text _ (by decide)).agree (congrArg Cache.job agreed),
    (renews.text _ (by decide)).agree (congrArg Cache.homed agreed),
    (renews.position.bind coordinates).agree (congrArg Cache.pos agreed)⟩

theorem Dash.reported_eq (d : Dash) (status : Json) :
    d.reported status =
      ((statusField status ["print_stats", "state"] JsonLib.getString).map fun state =>
        (decide (state = "printing"), decide (state = "paused"))).getD (d.printing, d.paused) := by
  rw [Dash.reported]
  cases statusField status ["print_stats", "state"] JsonLib.getString <;> rfl

/-- The cockpit holds what the document holds: merging the whole document in changes no cached
value, and the print state is the document's. -/
structure InStep (doc : Json) (d : Dash) : Prop where
  cached : d.cache.merged doc = d.cache
  state : d.reported doc = (d.printing, d.paused)

/-- The dashboard has taken a status object in. -/
structure Took (status : Json) (d d' : Dash) : Prop where
  cache : d'.cache = d.cache.merged status
  state : (d'.printing, d'.paused) = d.reported status

variable {d d' : Dash}

theorem inStep_null (d : Dash) : InStep .null d := ⟨rfl, rfl⟩

theorem InStep.took {after : Json} (inStep : InStep doc d) (renews : Renews doc status after)
    (took : Took status d d') : InStep after d' where
  cached := by
    rw [took.cache]
    exact renews.merged inStep.cached
  state := by
    have agreed := (d.reported_eq doc).symm.trans inStep.state
    have state := (renews.text ["print_stats", "state"] (by decide)).map fun state =>
      (decide (state = "printing"), decide (state = "paused"))
    rw [d'.reported_eq, took.state, d.reported_eq]
    exact state.agree agreed

end Step

section Reads

variable {J : Type} [JsonLib J] {j j' status : J} {base : List String}

theorem pointer_congr (carried : Carries j base status) (carried' : Carries j' base status)
    (path : List String) : pointer j base path = pointer j' base path := by
  rw [pointer, pointer, carried, carried']

theorem named_congr (carried : Carries j base status) (carried' : Carries j' base status)
    (name field : String) (decode : J → Except JsonExn α) (store : α → Dash → Dash) :
    named j base name field decode store = named j' base name field decode store := by
  simp only [named, cached, pointer_congr carried carried']

theorem init_congr (carried : Carries j resultStatus status)
    (carried' : Carries j' resultStatus status) : init j = init j' := by
  simp only [init, readSensors, readMesh, readCache, cacheField, cached,
    pointer_congr carried carried', named_congr carried carried']

theorem consumeHead_congr [LawfulJson J] {keys : List String} {members members' : List (String × J)}
    (typed : StatusDoc status keys) (carried : Carries (JsonLib.object members) params0 status)
    (carried' : Carries (JsonLib.object members') params0 status) :
    consumeHead (JsonLib.object members) = consumeHead (JsonLib.object members') := by
  obtain ⟨pstat, found, -⟩ := typed.text ["print_stats", "state"] (by decide)
  have checked := fun (members : List (String × J)) carried =>
    LawfulJson.value_of_lookup members (params0 ++ ["print_stats", "state"]) pstat carried
  simp only [consumeHead, readLegacy, readSensors, readCache, cacheField, cached, readToolhead,
    applyPrintState, flipOrUpdate, updateInPlace, readFans, readMesh,
    pointer_congr carried carried', named_congr carried carried', checked members ((carried _).trans found),
    checked members' ((carried' _).trans found)]

end Reads

section Handled

variable {status : Json} {d : Dash}

theorem consumed_took (mesh : MeshScreen) (d : Dash) : Took status d (d.consumed status mesh) := by
  have shown : (d.consumed status mesh).readouts.cache = d.cache.merged status ∧
      (d.consumed status mesh).readouts.core = d.coreNext status := by
    by_cases flips : d.flips status
    · rw [flipped_readouts status mesh d flips]
      exact ⟨rfl, rfl⟩
    · rw [stood_readouts status mesh d flips]
      exact ⟨rfl, rfl⟩
  refine ⟨shown.1, ?_⟩
  have core : (d.consumed status mesh).core = d.coreNext status := shown.2
  exact congrArg (fun core : Core => (core.printing, core.paused)) core

theorem consumeHead_took {members : List (String × Json)}
    (carried : Carries (Json.obj members) params0 status)
    (typed : StatusDoc status (d.sensors.map Prod.fst)) :
    Took status d (final (consumeHead (Json.obj members)) d) := by
  have told := statusNotify_carries status (Json.int 0)
  obtain ⟨sensors, legacy, mesh, ran⟩ := consumeHead_run (Json.int 0) d typed
  have same : consumeHead (Json.obj members) = consumeHead (statusNotify status (Json.int 0)) :=
    consumeHead_congr typed carried told
  rw [same, ran]
  let before : Dash := { clearStale d with sensors := sensors, legacyMotion := legacy }
  have took : Took status before (before.consumed status mesh) := consumed_took mesh before
  have stale : (clearStale d).cache = d.cache ∧ (clearStale d).core = d.core :=
    ⟨by unfold clearStale; split <;> rfl, clearStale_core d⟩
  refine ⟨took.cache.trans ?_, took.state.trans ?_⟩
  · exact congrArg (·.merged status) stale.1
  · rw [Dash.reported_eq, Dash.reported_eq]
    exact congrArg (fun core : Core => ((statusField status ["print_stats", "state"]
      JsonLib.getString).map fun state =>
        (decide (state = "printing"), decide (state = "paused"))).getD (core.printing, core.paused))
      stale.2

theorem init_took {j : Json} (carried : Carries j resultStatus status)
    (typed : StatusDoc status (d.sensors.map Prod.fst)) :
    ∃ d', exec (init j) d = (.ok ⟨⟩, d') ∧ Took status d d' := by
  obtain ⟨sensors, mesh, ran⟩ := init_run d typed
  rw [← init_congr carried (subscribeReply_carries status)] at ran
  exact ⟨_, ran, rfl, rfl⟩

end Handled

section Rows

variable {j status : Json}

/-- The pointers at which the rows are read. -/
def Rows.Reads (rows : Rows) (path : List String) : Prop :=
  (∃ sensor ∈ rows.sensors, ∃ field ∈ ["target", "temperature"],
      fieldPath sensor.1 field = .ok path) ∨
    (∃ fan ∈ rows.fans, ∃ field ∈ ["value", "speed"], fieldPath fan.1 field = .ok path) ∨
    ∃ led ∈ rows.leds, ∃ field ∈ ["value", "color_data"],
      fieldPath (ledName led.1) field = .ok path

/-- What the rows and the cockpit read. -/
def Rows.Others (rows : Rows) (path : List String) : Prop :=
  path ∈ cockpitFields ∨ rows.Reads path

/-- The fields of the fans and the leds are absent, null or of their type, and their names
make pointers apart from each other and from what else is read. -/
structure RowsDoc (status : Json) (rows : Rows) : Prop where
  value : ∀ fan ∈ rows.fans, ReadableField rows.Others status fan.1 "value" JsonLib.getDouble
  speed : ∀ fan ∈ rows.fans, ReadableField rows.Others status fan.1 "speed" JsonLib.getDouble
  brightness : ∀ led ∈ rows.leds,
    ReadableField rows.Others status (ledName led.1) "value" JsonLib.getDouble
  color : ∀ led ∈ rows.leds, ReadableField rows.Others status (ledName led.1) "color_data" whiteOf

theorem rowsDoc_empty (status : Json) : RowsDoc status {} := ⟨nofun, nofun, nofun, nofun⟩

theorem fieldRead_ok {decode : Json → Except JsonExn α} {path : List String}
    (carried : Carries j params0 status) (readable : Readable (JsonLib.lookup status path) decode) :
    fieldRead j path decode = .ok ⟨⟩ := by
  obtain ⟨node, found, decoded⟩ := readable
  rw [fieldRead, carried path, found, ok_bind]
  rcases decoded with null | ⟨value, read⟩
  · rw [if_pos null]
    rfl
  · split
    · rfl
    · rw [read]
      rfl

theorem namedRead_ok {decode : Json → Except JsonExn α} {name field : String}
    {others : List String → Prop} (carried : Carries j params0 status)
    (readable : ReadableField others status name field decode) :
    namedRead j name field decode = .ok ⟨⟩ := by
  obtain ⟨path, made, -, readable⟩ := readable
  rw [namedRead, made, ok_bind]
  exact fieldRead_ok carried readable

theorem Readable.count {node : Except JsonExn Json} (readable : Readable node JsonLib.getDouble) :
    Readable node (JsonLib.getInt : Json → Except JsonExn Int) := by
  obtain ⟨found, same, null | ⟨value, read⟩⟩ := readable
  · exact ⟨found, same, .inl null⟩
  · refine ⟨found, same, .inr ?_⟩
    cases found with
    | int i => exact ⟨_, rfl⟩
    | num x => exact ⟨_, rfl⟩
    | _ => cases read

theorem rows_consume_ok {keys : List String} {rows : Rows} (carried : Carries j params0 status)
    (typed : StatusDoc status keys) (doc : RowsDoc status rows) : rows.consume j = .ok ⟨⟩ := by
  have text (path) (member : path ∈ textFields) :
      fieldRead j path JsonLib.getString = .ok ⟨⟩ := fieldRead_ok carried (typed.text path member)
  have count (path) (member : path ∈ numberFields) :
      fieldRead j path JsonLib.getInt = .ok ⟨⟩ :=
    fieldRead_ok carried (typed.number path member).count
  have homing : HomingPanel.consume j = .ok ⟨⟩ := by
    rw [HomingPanel.consume, text _ (by decide), ok_bind, text _ (by decide)]
  have extruder : ExtruderPanel.consume j = .ok ⟨⟩ := by
    rw [ExtruderPanel.consume, count _ (by decide), ok_bind, count _ (by decide), ok_bind,
      text _ (by decide)]
  have fans : FanPanel.consume (rows.fans.map Prod.fst) j = .ok ⟨⟩ := by
    refine forM_returns fun name member => ?_
    obtain ⟨fan, listed, rfl⟩ := List.mem_map.mp member
    rw [namedRead_ok carried (doc.value fan listed), ok_bind,
      namedRead_ok carried (doc.speed fan listed)]
  have leds : LedPanel.consume (rows.leds.map fun led => ledName led.1) j = .ok ⟨⟩ := by
    refine forM_returns fun name member => ?_
    obtain ⟨led, listed, rfl⟩ := List.mem_map.mp member
    rw [namedRead_ok carried (doc.brightness led listed), ok_bind,
      namedRead_ok carried (doc.color led listed)]
  rw [Rows.consume, homing, ok_bind, fans, ok_bind, leds, ok_bind, extruder]

end Rows

section Replica

variable {key : String} {j : Json} {path : List String} {status : Json}

/-- What a message carries at a path; null where there is nothing. -/
def statusOf (base : List String) (j : Json) : Json := (Json.lookup j base).toOption.getD .null

theorem statusIn_patched (path : List String) (j doc : Json) :
    (statusIn path j).foldl Json.mergePatch doc = patched doc (statusOf path j) := by
  unfold statusIn statusOf
  cases Json.lookup j path with
  | error thrown => rfl
  | ok status => cases status <;> rfl

theorem statusOf_carried {base : List String} (carried : Carries j base status) :
    Json.lookup j base = .ok status ∧ statusOf base j = status := by
  have found : Json.lookup j base = .ok status :=
    (congrArg (Json.lookup j) (List.append_nil base)).symm.trans (carried [])
  exact ⟨found, by rw [statusOf, found]; rfl⟩

theorem setData_returns (found : Json.lookup j path = .ok status) (s : State Json) :
    exec (State.setData key j path) s = (.ok ⟨⟩, final (State.setData key j path) s) := by
  have walked : JsonLib.lookup j path = .ok status := found
  refine Prod.ext ?_ rfl
  simp only [State.setData, exec_bind, exec_ofExcept, walked]
  split <;> rfl

theorem consume_returns (found : Json.lookup j params0 = .ok status) (s : State Json) :
    exec (State.consume j) s = (.ok ⟨⟩, final (State.consume j) s) := by
  refine Prod.ext ?_ rfl
  unfold State.consume
  split
  · split
    · rfl
    · exact congrArg Prod.fst (setData_returns found s)
  · rfl

end Replica

namespace Boot

variable {L : Type → Type} [Layer L] {c : Config} {b : Boot L Json} {e : BootEvent Json}

/-- The document of the printer's status that the replica keeps. -/
abbrev document (b : Boot L Json) : Json := b.state.data "printer_state"

/-- The status that an event brings to both copies: a notification's, or that of the reply to
a subscription. -/
def brought (b : Boot L Json) : BootEvent Json → Json
  | .notify j => statusOf params0 j
  | .reply i j =>
    match b.pending[i]?.map Pending.request with
    | some (.subscribe _ _) => statusOf resultStatus j
    | _ => .null
  | _ => .null

section Document

variable {doc : Json}

theorem storing_document {key : String} (other : "printer_state" ≠ key) (j : Json)
    (path : List String) :
    Preserves (fun b : Boot L Json => b.document = doc) (onState (State.setData key j path)) := by
  rintro b rfl
  have kept := State.setData_final key "printer_state" j path b.state
  rw [if_neg other, final] at kept
  rw [onState, exec_zoom]
  rcases outcome : exec (State.setData key j path) b.state with ⟨result, reached⟩
  rw [outcome] at kept
  cases result with
  | ok value => exact kept
  | error thrown => exact kept

theorem objectsListed_document (c : Config) (origin : Pending) (epoch : UInt32) (j : Json) :
    Preserves (fun b : Boot L Json => b.document = doc) (objectsListed c origin epoch j) := by
  refine Preserves.bind (storing_document (by decide) j _) fun _ => ?_
  refine Preserves.bind (Preserves.modify fun _ same => same) fun _ => ?_
  refine Preserves.bind (Preserves.modify fun _ same => same) fun _ => ?_
  refine Preserves.bind (Preserves.modify fun _ same => same) fun _ => ?_
  refine Preserves.bind (Preserves.modify fun _ same => same) fun _ => ?_
  refine Preserves.bind (createRows_preserves c ?_) fun _ => ?_
  · rintro start b ⟨rows, sensors, rfl⟩ same
    exact same
  refine Preserves.bind (Preserves.ofExcept _) fun objs => Preserves.ite ?_ ?_
  · exact Preserves.modify fun _ same => same
  · refine Preserves.bind (Preserves.modify fun _ same => same) fun _ => ?_
    exact Preserves.modify fun _ same => same

theorem final_document {m : Exec JsonExn (State Json) PUnit} {rest : PUnit → Callback L Json PUnit}
    (kept : ∀ doc, Preserves (fun b : Boot L Json => b.document = doc) (rest ⟨⟩)) (b : Boot L Json) :
    (final (onState m >>= rest) b).document = (final m b.state).data "printer_state" := by
  rw [final, exec_bind, onState, exec_zoom, final]
  rcases exec m b.state with ⟨result, reached⟩
  cases result with
  | ok value => exact (kept _).final (s := { b with state := reached }) rfl
  | error thrown => rfl

variable [LawfulLayer L]

theorem subscribed_document (origin : Pending) (epoch : UInt32) (j : Json) (b : Boot L Json) :
    (final (subscribed origin epoch j) b).document = patched b.document (statusOf resultStatus j) := by
  have merged := State.setData_final "printer_state" "printer_state" j resultStatus b.state
  rw [if_pos rfl, statusIn_patched] at merged
  refine (final_document (fun doc => ?_) b).trans merged
  refine Preserves.bind (onDash_preserves _ fun _ _ same => same) fun _ => ?_
  refine Preserves.bind Preserves.get fun _ => ?_
  exact Preserves.ite (Preserves.pure _) (Preserves.modify fun _ same => same)

/-- The document takes in what is brought. -/
theorem step_document (c : Config) (b : Boot L Json) (other : e ≠ .connected) :
    (step c b e).document = patched b.document (b.brought e) := by
  cases e with
  | connected => exact absurd rfl other
  | disconnected => rfl
  | notify j =>
    have merged := State.consume_final j b.state
    rw [statusIn_patched] at merged
    refine (final_document (fun doc => ?_) b).trans merged
    refine Preserves.bind Preserves.get fun _ => Preserves.bind (Preserves.ofExcept _) fun _ => ?_
    exact Preserves.zoom fun _ _ same => same
  | panel e =>
    simp only [Boot.step]
    split <;> rfl
  | reply i j =>
    simp only [Boot.step, answered, brought]
    cases found : b.pending[i]? with
    | none => rfl
    | some origin =>
      simp only [callback, Option.map_some]
      cases request : origin.request with
      | objectsList epoch => exact (objectsListed_document c origin epoch j).final rfl
      | subscribe objects epoch => exact subscribed_document origin epoch j _
      | roots => exact (storing_document (by decide) j _).final rfl
      | printerInfo => exact (storing_document (by decide) j _).final rfl
      | serverInfo => exact (storing_document (by decide) j _).final rfl

end Document

section Cockpit

/-- The status that a message brings to both copies has Moonraker's types, in the fields of
the configured sensors, fans and leds too, and their names make pointers apart from what
else is read. -/
def WellTyped (b : Boot L Json) : BootEvent Json → Prop
  | .notify j => ∃ members status, j = .obj members ∧ Carries j params0 status ∧
      StatusDoc status (b.panel.dash.sensors.map Prod.fst) ∧ RowsDoc status b.rows
  | .reply i j => ∀ origin objects epoch, b.pending[i]? = some origin →
      origin.request = .subscribe objects epoch →
        ∃ status, Carries j resultStatus status ∧
          StatusDoc status (b.panel.dash.sensors.map Prod.fst)
  | _ => True

/-- What the document holds of the values the cockpit caches is what is cached, and the print
state is the document's. -/
def Agreed (b : Boot L Json) : Prop := InStep b.document b.panel.dash

/-- What the printer last told of its status: the last snapshot with all that was notified
since merged into it. -/
def told (last : Option Json) (b : Boot L Json) (e : BootEvent Json) : Option Json :=
  match e, b.brought e with
  | .reply _ _, .null => last
  | .reply _ _, snapshot => some snapshot
  | _, status => last.map (patched · status)

/-- The cockpit holds what the printer last told. -/
def Follows (last : Option Json) (b : Boot L Json) : Prop :=
  ∀ status, last = some status → InStep status b.panel.dash

variable [LawfulLayer L]

theorem panel_took (p : Panel L) (e : Event Json) (side : e.isLink = false) :
    Took .null p.dash (GrumpyScreen.step p e).dash := by
  by_cases status : e.isStatus = true
  · cases e with
    | staleTick between =>
      obtain ⟨cockpit, stale, same⟩ := checkReadout_dash p
      have moved : (GrumpyScreen.step p (.staleTick between : Event Json)).dash = _ :=
        (checkStale_dash p between).trans same
      rw [moved]
      exact ⟨rfl, rfl⟩
    | delta j => cases side
    | seed j => cases side
    | _ => cases status
  · obtain ⟨fans, hidden, busy, sensors, same, -⟩ := step_dash p e (Bool.not_eq_true _ ▸ status)
    rw [same]
    exact ⟨rfl, rfl⟩

theorem subscribed_took {status : Json} (origin : Pending) (epoch : UInt32) {j : Json}
    (carried : Carries j resultStatus status)
    (typed : StatusDoc status (b.panel.dash.sensors.map Prod.fst)) :
    Took status b.panel.dash (final (subscribed origin epoch j) b).panel.dash := by
  obtain ⟨d', ran, took⟩ := init_took carried typed
  let stored : Boot L Json :=
    { b with state := final (State.setData "printer_state" j resultStatus) b.state }
  have replica : exec (onState (State.setData "printer_state" j resultStatus)) b =
      (.ok ⟨⟩, stored) := by
    rw [onState, exec_zoom, setData_returns (statusOf_carried carried).1]
  have seeded : exec (onPanel (onDash (init j))) stored =
      (.ok ⟨⟩, { stored with panel := { b.panel with dash := d' } }) := by
    simp only [onPanel, onDash, exec_zoom, stored, ran]
  rw [final, subscribed, exec_bind_ok replica, exec_bind_ok seeded, exec_bind_ok (exec_get _)]
  split <;> exact took

theorem notified_took {members : List (String × Json)} {status : Json}
    (carried : Carries (Json.obj members) params0 status)
    (typed : StatusDoc status (b.panel.dash.sensors.map Prod.fst)) (rows : RowsDoc status b.rows) :
    Took status b.panel.dash (final (notified (Json.obj members)) b).panel.dash := by
  have replica : exec (onState (State.consume (Json.obj members))) b =
      (.ok ⟨⟩, { b with state := final (State.consume (Json.obj members)) b.state }) := by
    rw [onState, exec_zoom, consume_returns (statusOf_carried carried).1]
  have dash : (final (notified (Json.obj members)) b).panel.dash =
      final (consumeHead (Json.obj members)) b.panel.dash := by
    rw [final, notified, exec_bind_ok replica, exec_bind_ok (exec_get _),
      exec_bind_ok (by rw [exec_ofExcept, rows_consume_ok carried typed rows])]
    exact consume_dash b.panel (Json.obj members)
  rw [dash]
  exact consumeHead_took carried typed

/-- The cockpit takes in what is brought. -/
theorem step_took (c : Config) (typed : b.WellTyped e) :
    Took (b.brought e) b.panel.dash (step c b e).panel.dash ∧
      StatusDoc (b.brought e) [] := by
  have idle : Took .null b.panel.dash b.panel.dash := ⟨rfl, rfl⟩
  cases e with
  | connected => exact ⟨idle, statusDoc_null⟩
  | disconnected => exact ⟨⟨rfl, rfl⟩, statusDoc_null⟩
  | notify j =>
    obtain ⟨members, status, rfl, carried, doc, rows⟩ := typed
    rw [brought, (statusOf_carried carried).2]
    exact ⟨notified_took carried doc rows, doc.fields⟩
  | panel e =>
    refine ⟨?_, statusDoc_null⟩
    simp only [Boot.step]
    split
    · exact idle
    · next side => exact panel_took b.panel e (Bool.not_eq_true _ ▸ side)
  | reply i j =>
    simp only [Boot.step, answered, brought]
    cases found : b.pending[i]? with
    | none => exact ⟨idle, statusDoc_null⟩
    | some origin =>
      simp only [callback, Option.map_some]
      cases request : origin.request with
      | objectsList epoch =>
        refine ⟨?_, statusDoc_null⟩
        have kept : Preserves (fun b' : Boot L Json => Took .null b.panel.dash b'.panel.dash)
            (objectsListed c origin epoch j) := by
          refine objectsListed_preserves c (fun _ _ took => took) (fun _ _ _ took => took)
            (fun _ _ _ took => took) ?_
          rintro start b' ⟨rows, sensors, rfl⟩ took
          exact ⟨took.cache, took.state⟩
        exact kept.final idle
      | subscribe objects epoch =>
        obtain ⟨status, carried, doc⟩ := typed origin objects epoch found request
        simp only [(statusOf_carried carried).2]
        exact ⟨subscribed_took (b := { b with pending := b.pending.eraseIdx i }) origin epoch carried
          doc, doc.fields⟩
      | _ =>
        have kept : ∀ key path, Preserves
            (fun b' : Boot L Json => Took .null b.panel.dash b'.panel.dash)
            (onState (State.setData key j path)) := fun _ _ =>
          Preserves.zoom fun _ _ took => took
        exact ⟨(kept _ _).final idle, statusDoc_null⟩

theorem Agreed.step (agreed : b.Agreed) (c : Config) (typed : b.WellTyped e) :
    (step c b e).Agreed := by
  obtain ⟨took, doc⟩ := step_took c typed
  by_cases other : e = .connected
  · subst other
    exact inStep_null _
  · unfold Agreed
    rw [step_document c b other]
    exact InStep.took agreed (renews_patched doc _) took

/-- In every run of connects, drops, late replies, notifications and events of the panel whose
status messages have Moonraker's types, the two copies agree. -/
theorem copies_agree (c : Config) (events : List (BootEvent Json))
    (typed : Along (step c) WellTyped (initial : Boot L Json) events) :
    (after c events : Boot L Json).Agreed := by
  have start : (initial : Boot L Json).Agreed := inStep_null _
  exact typed.invariant (fun _ _ agreed typed => agreed.step c typed) start

theorem Follows.step {last : Option Json} (follows : Follows last b) (c : Config)
    (typed : b.WellTyped e) : Follows (told last b e) (step c b e) := by
  obtain ⟨took, doc⟩ := step_took c typed
  intro status found
  have merged : last.map (patched · (b.brought e)) = some status →
      InStep status (Boot.step c b e).panel.dash := by
    intro found
    obtain ⟨before, held, rfl⟩ := Option.map_eq_some_iff.mp found
    exact (follows before held).took (renews_patched doc before) took
  cases e with
  | reply i j =>
    cases brought : b.brought (.reply i j) with
    | null =>
      rw [brought] at merged
      simp only [told, brought] at found
      exact merged (by simpa [patched] using found)
    | _ =>
      rw [brought] at took
      simp only [told, brought] at found
      obtain rfl := Option.some.inj found
      exact (inStep_null _).took (renews_snapshot .null _) took
  | _ => exact merged found

/-- From the first snapshot on the cockpit holds what the printer last told, whatever drops,
connects, taps and replies of other kinds came between. -/
theorem cockpit_follows (c : Config) (events : List (BootEvent Json))
    (typed : Along (step c) WellTyped (initial : Boot L Json) events) :
    Follows (run (observed told (step c)) (none, (initial : Boot L Json)) events).1
      (after c events : Boot L Json) := by
  have start : Follows none (initial : Boot L Json) := fun _ absent => nomatch absent
  exact typed.invariant_observed (fun _ _ _ follows typed => follows.step c typed) start

end Cockpit

end Boot

section Witness

private def fanOnly : Json := .obj [("result", .obj [("objects", .arr [.str "fan"])])]

private def pausedStatus : Json :=
  .obj [("print_stats", .obj [("state", .str "paused")]), ("virtual_sdcard", .null)]

private theorem pausedStatus_doc : StatusDoc pausedStatus [] where
  number := by decide +kernel
  count := by decide +kernel
  text := by decide +kernel
  target := nofun
  value := nofun
  position := ⟨.null, rfl, nofun⟩
  mesh := ⟨.null, rfl, nofun⟩

private def pausedRun : List (BootEvent Json) :=
  [.connected, .reply 0 fanOnly, .reply 3 (subscribeReply printingSnapshot),
    .notify (statusNotify pausedStatus .null)]

private theorem pausedRun_typed :
    Along (Boot.step fun _ => none) Boot.WellTyped (Boot.initial : Boot ZStack Json) pausedRun := by
  refine ⟨trivial, ?_, ?_, ?_, trivial⟩
  · intro origin objects epoch found request
    obtain rfl : ⟨.objectsList 0, 0, 0⟩ = origin := Option.some.inj found
    cases request
  · intro origin objects epoch found request
    exact ⟨printingSnapshot, subscribeReply_carries _, printingSnapshot_doc⟩
  · exact ⟨_, pausedStatus, rfl, statusNotify_carries _ _, pausedStatus_doc, rowsDoc_empty _⟩

/-- A print that pauses, with a progress that is taken back. -/
theorem copies_agree_paused :
    (Boot.after (fun _ => none) pausedRun : Boot ZStack Json).Agreed :=
  Boot.copies_agree (fun _ => none) pausedRun pausedRun_typed

/-- What the cockpit holds after it. -/
theorem cockpit_follows_paused :
    Boot.Follows (some (patched printingSnapshot pausedStatus))
      (Boot.after (fun _ => none) pausedRun : Boot ZStack Json) :=
  Boot.cockpit_follows (fun _ => none) pausedRun pausedRun_typed

end Witness

end GrumpyScreen
