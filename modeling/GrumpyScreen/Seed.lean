import GrumpyScreen.CalOverlay

/-! The subscribe snapshot against a delta of the same status object: what each
of the two writers makes of it, and when they leave the same readouts. -/

namespace GrumpyScreen

open Lib Lib.Exec

section Documents

variable {J : Type} [JsonLib J]

/-- A field of a status object: nothing where it is absent or null. -/
def statusField (status : J) (path : List String) (decode : J → Except JsonExn α) : Option α :=
  decodeNode (JsonLib.lookup status path) decode

/-- A node that is absent, null or of the type it is decoded as. -/
def Readable (node : Except JsonExn J) (decode : J → Except JsonExn α) : Prop :=
  ∃ found, node = .ok found ∧ (JsonLib.isNull found = true ∨ ∃ value, decode found = .ok value)

instance (node : Except JsonExn J) (decode : J → Except JsonExn α) :
    Decidable (Readable node decode) :=
  match node with
  | .error _ => .isFalse fun readable => nomatch readable.choose_spec.1
  | .ok found =>
    if null : JsonLib.isNull found = true then .isTrue ⟨found, rfl, .inl null⟩
    else
      match decoded : decode found with
      | .ok value => .isTrue ⟨found, rfl, .inr ⟨value, decoded⟩⟩
      | .error _ => .isFalse fun readable => by
        obtain ⟨node, same, null' | ⟨value, other⟩⟩ := readable
        · cases same
          exact null null'
        · cases same
          cases decoded.symm.trans other

/-- The numbers of a status object. -/
def numberFields : List (List String) :=
  [["virtual_sdcard", "progress"], ["print_stats", "print_duration"],
   ["extruder", "temperature"], ["extruder", "target"],
   ["heater_bed", "temperature"], ["heater_bed", "target"]] ++
    [0, 1, 2, 3, 4].map fun i : Fin 5 => [fanObject i, "speed"]

def layerFields : List (List String) :=
  [["print_stats", "info", "current_layer"], ["print_stats", "info", "total_layer"]]

def textFields : List (List String) :=
  [["print_stats", "filename"], ["print_stats", "state"], ["idle_timeout", "state"],
   ["toolhead", "homed_axes"], ["display_status", "message"]]

/-- A bed mesh: a matrix of numbers and a profile name. -/
structure MeshDoc (bm : J) : Prop where
  cells : ∀ pm, JsonLib.find bm "probed_matrix" = some pm → JsonLib.isArray pm = true →
    ∀ row ∈ JsonLib.elements pm, ∀ cell ∈ JsonLib.elements row, ∃ z, JsonLib.getDouble cell = .ok z
  profile : ∀ pn, JsonLib.find bm "profile_name" = some pn → JsonLib.isString pn = true →
    ∃ name, JsonLib.getString pn = .ok name

/-- The fields of a status object that the cockpit reads. -/
def cockpitFields : List (List String) :=
  numberFields ++ layerFields ++ textFields ++ [["toolhead", "position"], ["bed_mesh"]]

/-- None of the other pointers ends on the way of this one, where `operator[]` puts a member
in what it walks through. -/
def Apart (others : List String → Prop) (path : List String) : Prop :=
  ∀ other, others other → other <+: path → other = path

/-- A field of an object, under its name as a pointer takes it, and apart from what else
is read. -/
def ReadableField (others : List String → Prop) (status : J) (key field : String)
    (decode : J → Except JsonExn α) : Prop :=
  ∃ path, fieldPath key field = .ok path ∧ Apart others path ∧
    Readable (JsonLib.lookup status path) decode

/-- The rows of the sensors are read apart from the cockpit. -/
def SensorsApart (keys : List String) : Prop :=
  ∀ key ∈ keys, ∀ field ∈ ["target", "temperature"], ∀ path,
    fieldPath key field = .ok path → Apart (· ∈ cockpitFields) path

/-- A status object as Moonraker documents it: every field the panel reads is
absent, null or of its type, and the sensors' names make pointers apart from these. -/
structure StatusDoc (status : J) (keys : List String) : Prop where
  number : ∀ path ∈ numberFields, Readable (JsonLib.lookup status path) JsonLib.getDouble
  count : ∀ path ∈ layerFields, Readable (JsonLib.lookup status path) JsonLib.getInt
  text : ∀ path ∈ textFields, Readable (JsonLib.lookup status path) JsonLib.getString
  target : ∀ key ∈ keys, ReadableField (· ∈ cockpitFields) status key "target" JsonLib.getInt
  value : ∀ key ∈ keys,
    ReadableField (· ∈ cockpitFields) status key "temperature" JsonLib.getInt
  position : ∃ node, JsonLib.lookup status ["toolhead", "position"] = .ok node ∧
    (JsonLib.isArray node = true →
      ∀ axis ∈ JsonLib.elements node, ∃ v, JsonLib.getDouble axis = .ok v)
  mesh : ∃ bm, JsonLib.lookup status ["bed_mesh"] = .ok bm ∧
    (JsonLib.isNull bm = false → MeshDoc bm)

/-- The message carries the status object under `base`. -/
def Carries (j : J) (base : List String) (status : J) : Prop :=
  ∀ path, JsonLib.lookup j (base ++ path) = JsonLib.lookup status path

variable [LawfulJson J]

theorem subscribeReply_carries (status : J) :
    Carries (subscribeReply status) resultStatus status := by
  intro path
  have outer := LawfulJson.lookup_object "result" (JsonLib.object [("status", status)]) []
    ("status" :: path)
  exact outer.trans (LawfulJson.lookup_object "status" status [] path)

theorem statusNotify_carries (status time : J) :
    Carries (statusNotify status time) params0 status := by
  intro path
  have outer := LawfulJson.lookup_object "params" (JsonLib.array [status, time]) [] ("0" :: path)
  exact outer.trans (LawfulJson.lookup_array status [time] path)

end Documents

section Reads

variable {J : Type} [JsonLib J] {j status : J} {base : List String}

theorem whenPresent_run {decode : J → Except JsonExn α} {store : α → Dash → Dash} {node : J}
    (readable : JsonLib.isNull node = true ∨ ∃ value, decode node = .ok value) (d : Dash) :
    exec (whenPresent node decode store) d =
      (.ok ⟨⟩, (decodeNode (.ok node) decode).elim d (store · d)) := by
  rw [whenPresent]
  by_cases null : JsonLib.isNull node = true
  · simp [decodeNode, null]
  · obtain ⟨value, decoded⟩ := readable.resolve_left null
    simp [decodeNode, null, decoded, exec_bind, Except.toOption]

theorem pointer_run (carried : Carries j base status) {path : List String} {node : J}
    (found : JsonLib.lookup status path = .ok node) (d : Dash) :
    exec (pointer j base path) d = (.ok node, d) := by
  rw [pointer, exec_ofExcept, carried, found]

/-- A readable field is stored where it is there. -/
theorem cached_run {decode : J → Except JsonExn α} {store : α → Dash → Dash} {path : List String}
    (carried : Carries j base status) (readable : Readable (JsonLib.lookup status path) decode)
    (d : Dash) :
    exec (cached j base path decode store) d =
      (.ok ⟨⟩, (statusField status path decode).elim d (store · d)) := by
  obtain ⟨node, found, readable⟩ := readable
  rw [cached, exec_bind_ok (pointer_run carried found d), statusField, found]
  exact whenPresent_run readable d

theorem cached_total {I : Dash → Prop} {decode : J → Except JsonExn α} {store : α → Dash → Dash}
    {path : List String} (carried : Carries j base status)
    (readable : Readable (JsonLib.lookup status path) decode)
    (stored : ∀ v d, I d → I (store v d)) :
    Triple I (cached j base path decode store) (fun _ => I) (fun _ => False) := by
  intro d holds
  rw [cached_run carried readable]
  cases statusField status path decode with
  | none => exact holds
  | some value => exact stored value d holds

theorem named_total {I : Dash → Prop} {store : Int → Dash → Dash} {key field : String}
    {others : List String → Prop}
    (carried : Carries j base status) (readable : ReadableField others status key field JsonLib.getInt)
    (stored : ∀ v d, I d → I (store v d)) :
    Triple I (named j base key field JsonLib.getInt store) (fun _ => I) (fun _ => False) := by
  obtain ⟨path, made, -, readable⟩ := readable
  intro d holds
  rw [named, exec_bind_ok (by rw [exec_ofExcept, made])]
  exact cached_total carried readable stored d holds

theorem readSensors_run (carried : Carries j base status) (d : Dash)
    (doc : StatusDoc status (d.sensors.map Prod.fst)) :
    ∃ sensors, exec (readSensors j base) d = (.ok ⟨⟩, { d with sensors := sensors }) := by
  let I : Dash → Prop := fun reached => ∃ sensors, reached = { d with sensors := sensors }
  have each : ∀ el ∈ d.sensors, Triple I (do
      named j base el.1 "target" JsonLib.getInt (updateTarget el.1)
      named j base el.1 "temperature" JsonLib.getInt (updateValue el.1))
      (fun _ => I) (fun _ => False) := by
    intro el member
    have key : el.1 ∈ d.sensors.map Prod.fst := List.mem_map_of_mem member
    refine Triple.bind (named_total carried (doc.target el.1 key) ?_) fun _ =>
      named_total carried (doc.value el.1 key) ?_
    · rintro v old ⟨sensors, rfl⟩
      exact ⟨_, rfl⟩
    · rintro v old ⟨sensors, rfl⟩
      exact ⟨_, rfl⟩
  have start : I d := ⟨d.sensors, rfl⟩
  obtain ⟨⟨⟩, reached, ran, sensors, rfl⟩ := (Triple.forM each).returned start
  exact ⟨sensors, (exec_bind_ok (exec_get d)).trans ran⟩

private theorem renderMatrix_total {I : Dash → Prop} {rows : List J} (cols : Nat)
    (kept : ∀ d mesh, I d → I { d with mesh := mesh })
    (cells : ∀ row ∈ rows, ∀ cell ∈ JsonLib.elements row, ∃ z, JsonLib.getDouble cell = .ok z) :
    Triple I (renderMatrix rows cols) (fun _ => I) (fun _ => False) := by
  have clear : Triple I (modify fun d => { d with mesh.z := [] } : Read PUnit)
      (fun _ => I) (fun _ => False) := fun d holds => kept d _ holds
  refine Triple.bind clear fun _ => Triple.bind (Triple.forM fun row member => ?_) fun _ => ?_
  · refine Triple.forM fun cell inRow => ?_
    obtain ⟨z, decoded⟩ := cells row member cell inRow
    refine Triple.bind (Triple.ofOk (Q := fun _ => I) decoded) fun z => ?_
    exact fun d holds => kept d _ holds
  · intro d holds
    show I (finishMesh rows.length cols d)
    simp only [finishMesh]
    split
    · exact kept d _ holds
    · exact holds

private theorem skip_total {I : Dash → Prop} :
    Triple I (pure ⟨⟩ : Read PUnit) (fun _ => I) (fun _ => False) := fun _ holds => holds

private theorem renderBedMesh_total {I : Dash → Prop} {bm : J} (mesh : MeshDoc bm)
    (kept : ∀ d mesh, I d → I { d with mesh := mesh }) :
    Triple I (renderBedMesh bm) (fun _ => I) (fun _ => False) := by
  have matrix : Triple I (renderProbedMatrix bm) (fun _ => I) (fun _ => False) := by
    unfold renderProbedMatrix
    split
    · next pm found =>
      refine Triple.ite (fun array => ?_) fun _ => skip_total
      split
      · exact Triple.ite (fun _ => renderMatrix_total _ kept (mesh.cells pm found array))
          fun _ => skip_total
      · exact skip_total
    · exact skip_total
  have profile : Triple I (renderProfile bm) (fun _ => I) (fun _ => False) := by
    unfold renderProfile
    split
    · next pn named =>
      refine Triple.ite (fun text => ?_) fun _ => skip_total
      obtain ⟨name, decoded⟩ := mesh.profile pn named text
      refine Triple.bind (Triple.ofOk (Q := fun _ => I) decoded) fun name => ?_
      exact fun old holds => kept old _ holds
    · exact skip_total
  exact Triple.bind matrix fun _ => profile

theorem readMesh_run (carried : Carries j base status) {keys : List String}
    (doc : StatusDoc status keys) (d : Dash) :
    ∃ mesh, exec (readMesh j base) d = (.ok ⟨⟩, { d with mesh := mesh }) := by
  obtain ⟨bm, found, described⟩ := doc.mesh
  rw [readMesh, exec_bind_ok (pointer_run carried found d)]
  cases present : JsonLib.isNull bm with
  | true => exact ⟨d.mesh, rfl⟩
  | false =>
    let I : Dash → Prop := fun reached => ∃ mesh, reached = { d with mesh := mesh }
    have kept : ∀ old mesh, I old → I { old with mesh := mesh } := by
      rintro old mesh ⟨before, rfl⟩
      exact ⟨mesh, rfl⟩
    have start : I d := ⟨d.mesh, rfl⟩
    obtain ⟨⟨⟩, reached, ran, mesh, rfl⟩ :=
      (renderBedMesh_total (described present) kept).returned start
    exact ⟨mesh, ran⟩

end Reads

section Merge

variable {J : Type} [JsonLib J] (status : J)

/-- A field taken over where it is present. -/
def Cache.take (field : Option α) (put : α → Cache → Cache) (c : Cache) : Cache :=
  field.elim c (put · c)

/-- The nine cached fields both writers read, in the source's order. -/
def Cache.decoded (c : Cache) : Cache :=
  let number (path : List String) := statusField status path JsonLib.getDouble
  let count (path : List String) := statusField status path JsonLib.getInt
  let c := c.take (number ["virtual_sdcard", "progress"]) fun v c => { c with progress := v }
  let c := c.take (number ["print_stats", "print_duration"]) fun v c => { c with duration := v }
  let c := c.take (number ["extruder", "temperature"]) fun v c => { c with nozzle := castInt v }
  let c := c.take (number ["extruder", "target"]) fun v c => { c with nozzleSet := castInt v }
  let c := c.take (number ["heater_bed", "temperature"]) fun v c => { c with bed := castInt v }
  let c := c.take (number ["heater_bed", "target"]) fun v c => { c with bedSet := castInt v }
  let c := c.take (count ["print_stats", "info", "current_layer"]) fun v c => { c with layer := v }
  let c := c.take (count ["print_stats", "info", "total_layer"])
    fun v c => { c with layerTotal := v }
  c.take (statusField status ["print_stats", "filename"] JsonLib.getString)
    fun v c => { c with job := v }

def homedAxes : Option String :=
  statusField status ["toolhead", "homed_axes"] JsonLib.getString

/-- The elements of the position, where it is an array. -/
def positionAxes : Option (List J) :=
  match JsonLib.lookup status ["toolhead", "position"] with
  | .ok node => if JsonLib.isArray node then some (JsonLib.elements node) else none
  | .error _ => none

/-- The three coordinates a position of at least three elements holds. -/
def coordinates : List J → Option (Float × Float × Float)
  | x :: y :: z :: _ =>
    match JsonLib.getDouble x, JsonLib.getDouble y, JsonLib.getDouble z with
    | .ok x, .ok y, .ok z => some (x, y, z)
    | _, _, _ => none
  | _ => none

def Cache.toolhead (c : Cache) : Cache :=
  { c with
    homed := (homedAxes status).getD c.homed
    pos := ((positionAxes status).bind coordinates).getD c.pos }

/-- The cached values once a status object has been merged in. -/
def Cache.merged (c : Cache) : Cache := (c.decoded status).toolhead status

/-- The print state a status object reports, or the panel's own. -/
def Dash.reported (d : Dash) : Bool × Bool :=
  (statusField status ["print_stats", "state"] JsonLib.getString).elim (d.printing, d.paused)
    fun state => (decide (state = "printing"), decide (state = "paused"))

def idleState : Option String := statusField status ["idle_timeout", "state"] JsonLib.getString

def displayMessage : Option String :=
  statusField status ["display_status", "message"] JsonLib.getString

/-- A delta reformats the Move readout only where it brings one of its fields. -/
def posReported : Bool := (homedAxes status).isSome || (positionAxes status).isSome

end Merge

section Runs

variable {J : Type} [JsonLib J] {j status : J} {base keys : List String}

theorem cacheField_run {decode : J → Except JsonExn α} {put : α → Cache → Cache}
    {path : List String} (carried : Carries j base status)
    (readable : Readable (JsonLib.lookup status path) decode) (d : Dash) :
    exec (cacheField j base path decode put) d =
      (.ok ⟨⟩, { d with cache := d.cache.take (statusField status path decode) put }) := by
  rw [cacheField, cached_run carried readable]
  cases statusField status path decode <;> rfl

theorem readCache_run (carried : Carries j base status) (doc : StatusDoc status keys) (d : Dash) :
    exec (readCache j base) d = (.ok ⟨⟩, { d with cache := d.cache.decoded status }) := by
  have number : ∀ path ∈ numberFields, ∀ (put : Float → Cache → Cache) (d : Dash),
      exec (cacheField j base path JsonLib.getDouble put) d = (.ok ⟨⟩,
        { d with cache := d.cache.take (statusField status path JsonLib.getDouble) put }) :=
    fun path member _ => cacheField_run carried (doc.number path member)
  have count : ∀ path ∈ layerFields, ∀ (put : Int → Cache → Cache) (d : Dash),
      exec (cacheField j base path JsonLib.getInt put) d = (.ok ⟨⟩,
        { d with cache := d.cache.take (statusField status path JsonLib.getInt) put }) :=
    fun path member _ => cacheField_run carried (doc.count path member)
  rw [readCache, exec_bind_ok (number _ (by decide) _ _), exec_bind_ok (number _ (by decide) _ _),
    exec_bind_ok (number _ (by decide) _ _), exec_bind_ok (number _ (by decide) _ _),
    exec_bind_ok (number _ (by decide) _ _), exec_bind_ok (number _ (by decide) _ _),
    exec_bind_ok (count _ (by decide) _ _), exec_bind_ok (count _ (by decide) _ _),
    cacheField_run carried (doc.text _ (by decide))]
  rfl

/-- The node of the position and what reading it stores. -/
theorem readPosition_run (doc : StatusDoc status keys) :
    ∃ node, JsonLib.lookup status ["toolhead", "position"] = .ok node ∧
      JsonLib.isArray node = (positionAxes status).isSome ∧
      ∀ d, exec (readPosition node) d = (.ok ⟨⟩, { d with
        cache := { d.cache with
          pos := ((positionAxes status).bind coordinates).getD d.cache.pos } }) := by
  obtain ⟨node, found, described⟩ := doc.position
  refine ⟨node, found, ?_, fun d => ?_⟩
  · simp only [positionAxes, found]
    cases JsonLib.isArray node <;> rfl
  simp only [positionAxes, found, readPosition]
  cases array : JsonLib.isArray node with
  | false => rfl
  | true =>
    have axes := described array
    simp only [if_true, Option.bind_some]
    split
    · next x y z rest listed =>
      rw [listed] at axes
      obtain ⟨vx, hx⟩ := axes x (by simp)
      obtain ⟨vy, hy⟩ := axes y (by simp)
      obtain ⟨vz, hz⟩ := axes z (by simp)
      simp [listed, coordinates, hx, hy, hz, storeAxis, exec_bind]
    · next short =>
      have none : coordinates (JsonLib.elements node) = .none := by
        unfold coordinates
        split
        · next listed => exact absurd listed (short _ _ _ _)
        · rfl
      rw [none]
      rfl

/-- The snapshot after its sensor rows and its mesh: the merged cache in the
layout of the reported print state, rebuilt from scratch. -/
def Dash.seeded (status : J) (d : Dash) : Dash :=
  settle { d with
    cache := d.cache.merged status
    printing := (d.reported status).1
    paused := (d.reported status).2 }

theorem init_run [LawfulJson J] (d : Dash) (doc : StatusDoc status (d.sensors.map Prod.fst)) :
    ∃ sensors mesh, exec (init (subscribeReply status)) d =
      (.ok ⟨⟩, Dash.seeded status { d with sensors := sensors, mesh := mesh }) := by
  have carried := subscribeReply_carries status
  obtain ⟨sensors, sensed⟩ := readSensors_run carried d doc
  obtain ⟨mesh, meshed⟩ := readMesh_run carried doc { d with sensors := sensors }
  obtain ⟨node, found, -, position⟩ := readPosition_run doc
  refine ⟨sensors, mesh, ?_⟩
  rw [init, exec_bind_ok sensed, exec_bind_ok meshed, exec_bind_ok (readCache_run carried doc _),
    exec_bind_ok (cacheField_run carried (doc.text _ (by decide)) _),
    exec_bind_ok (pointer_run carried found _), exec_bind_ok (position _),
    exec_bind_ok (cached_run carried (doc.text _ (by decide)) _), exec_bind_ok (exec_modify _ _)]
  unfold Dash.seeded Dash.reported Cache.merged Cache.toolhead homedAxes
  cases statusField status ["toolhead", "homed_axes"] JsonLib.getString with
  | none => cases statusField status ["print_stats", "state"] JsonLib.getString <;> rfl
  | some homed => cases statusField status ["print_stats", "state"] JsonLib.getString <;> rfl

/-- The dashboard of a delta when the print state comes to be applied. -/
def Dash.told (status : J) (d : Dash) : Dash :=
  { d with
    busy := (d.core.idle (idleState status)).busy
    calMsg := (d.core.idle (idleState status)).calMsg
    cache := d.cache.merged status
    posText :=
      if posReported status then GrumpyScreen.posText (d.cache.merged status) else d.posText }

/-- The speed a status object brings for a fan, in percent. -/
def fanSpeed (status : J) (i : Fin 5) : Option Int :=
  (statusField status [fanObject i, "speed"] JsonLib.getDouble).map percent

/-- The fan readouts of a delta. -/
def paintFans (status : J) (d : Dash) : Dash :=
  [0, 1, 2, 3, 4].foldl (fun d i => (fanSpeed status i).elim d (paintFan i · d)) d

/-- The labels of a delta that left the layout standing. -/
def Dash.repainted (status : J) (mesh : MeshScreen) (printing : Bool) (d : Dash) : Dash :=
  let d := { paintFans status (repaintTemps d) with mesh := mesh }
  if printing then paintRing d else d

/-- The print state is news to the panel. -/
def Dash.flips (status : J) (d : Dash) : Prop :=
  (d.reported status).1 ≠ d.printing ∨ (d.reported status).2 ≠ d.paused

instance (status : J) (d : Dash) : Decidable (d.flips status) := inferInstanceAs (Decidable (_ ∨ _))

def Dash.applied (status : J) (mesh : MeshScreen) (d : Dash) : Dash :=
  if d.flips status then flipLayout (d.reported status).1 (d.reported status).2 d
  else d.repainted status mesh (d.reported status).1

/-- What a delta leaves of a dashboard whose sensor rows and buttons it has seen to. -/
def Dash.consumed (status : J) (mesh : MeshScreen) (d : Dash) : Dash :=
  let applied := (d.told status).applied status mesh
  (displayMessage status).elim applied fun text => { applied with calMsg := text }

theorem readLegacy_run [LawfulJson J] (time : J) (d : Dash)
    (doc : StatusDoc status (d.sensors.map Prod.fst)) :
    ∃ sensors legacy pstat, JsonLib.lookup status ["print_stats", "state"] = .ok pstat ∧
      exec (readLegacy (statusNotify status time)) d =
        (.ok pstat, { d with sensors := sensors, legacyMotion := legacy }) := by
  have carried := statusNotify_carries status time
  obtain ⟨sensors, sensed⟩ := readSensors_run carried d doc
  obtain ⟨pstat, found, readable⟩ := doc.text ["print_stats", "state"] (by decide)
  have checked : JsonLib.value (statusNotify status time) (params0 ++ ["print_stats", "state"]) =
      .ok pstat := LawfulJson.value_of_lookup _ _ _ ((carried _).trans found)
  have read : ∀ d, exec (Exec.ofExcept (JsonLib.value (statusNotify status time)
      (params0 ++ ["print_stats", "state"])) : Read J) d = (.ok pstat, d) := by
    intro d
    rw [exec_ofExcept, checked]
  rw [readLegacy, exec_bind_ok sensed, exec_bind_ok (read _),
    exec_bind_ok (whenPresent_run readable _)]
  cases decodeNode (.ok pstat) JsonLib.getString with
  | none => exact ⟨sensors, d.legacyMotion, pstat, found, rfl⟩
  | some state => exact ⟨sensors, state ≠ "printing", pstat, found, rfl⟩

theorem readToolhead_run (carried : Carries j params0 status) (doc : StatusDoc status keys)
    (d : Dash) :
    exec (readToolhead j) d = (.ok ⟨⟩, { d with
      cache := d.cache.toolhead status
      posText := if posReported status then posText (d.cache.toolhead status) else d.posText }) := by
  obtain ⟨homed, homedFound, readable⟩ := doc.text ["toolhead", "homed_axes"] (by decide)
  obtain ⟨node, found, array, position⟩ := readPosition_run doc
  have axes : homedAxes status = decodeNode (.ok homed) JsonLib.getString := by
    rw [homedAxes, statusField, homedFound]
  have shown : (!JsonLib.isNull homed) = (homedAxes status).isSome := by
    rw [axes, decodeNode]
    cases null : JsonLib.isNull homed with
    | true => rfl
    | false =>
      obtain ⟨value, decoded⟩ := readable.resolve_left (Bool.eq_false_iff.mp null)
      rw [decoded]
      rfl
  rw [readToolhead, exec_bind_ok (pointer_run carried homedFound _),
    exec_bind_ok (whenPresent_run readable _), exec_bind_ok (pointer_run carried found _),
    exec_bind_ok (position _), shown, array, ← posReported]
  cases posReported status with
  | true => cases homed : homedAxes status <;> simp [← axes, homed, Cache.toolhead]
  | false => cases homed : homedAxes status <;> simp [← axes, homed, Cache.toolhead]

theorem readFans_run (carried : Carries j base status) (doc : StatusDoc status keys) (d : Dash) :
    exec (readFans j base) d = (.ok ⟨⟩, paintFans status d) := by
  refine exec_forM (fun i _ d => ?_) d
  have listed : [fanObject i, "speed"] ∈ numberFields := by
    revert i
    decide
  rw [cached_run carried (doc.number _ listed), fanSpeed]
  cases statusField status [fanObject i, "speed"] JsonLib.getDouble <;> rfl

theorem updateInPlace_run (carried : Carries j params0 status) (doc : StatusDoc status keys)
    (printing : Bool) (d : Dash) :
    ∃ mesh, exec (updateInPlace j printing) d = (.ok ⟨⟩, d.repainted status mesh printing) := by
  obtain ⟨mesh, meshed⟩ := readMesh_run carried doc (paintFans status (repaintTemps d))
  refine ⟨mesh, ?_⟩
  rw [updateInPlace, exec_bind_ok (exec_modify _ _), exec_bind_ok (readFans_run carried doc _),
    exec_bind_ok meshed]
  cases printing <;> rfl

theorem applyPrintState_run (carried : Carries j params0 status) (doc : StatusDoc status keys)
    {pstat : J} (found : JsonLib.lookup status ["print_stats", "state"] = .ok pstat) (d : Dash) :
    ∃ mesh, exec (applyPrintState j pstat) d =
      (.ok (d.reported status).1, d.applied status mesh) := by
  have read : exec (readPrintState pstat) d = (.ok (d.reported status), d) := by
    obtain ⟨node, same, readable⟩ := doc.text ["print_stats", "state"] (by decide)
    cases found.symm.trans same
    rw [readPrintState, Dash.reported, statusField, found, decodeNode]
    cases null : JsonLib.isNull pstat with
    | true => rfl
    | false =>
      obtain ⟨state, decoded⟩ := readable.resolve_left (Bool.eq_false_iff.mp null)
      rw [decoded]
      rfl
  obtain ⟨mesh, updated⟩ := updateInPlace_run carried doc (d.reported status).1 d
  refine ⟨mesh, ?_⟩
  rw [applyPrintState, exec_bind_ok read, exec_bind_ok (exec_get d), flipOrUpdate, Dash.applied]
  by_cases flips : (d.reported status).1 ≠ d.printing ∨ (d.reported status).2 ≠ d.paused
  · rw [if_pos flips, exec_bind_ok (exec_modify _ _), if_pos (show d.flips status from flips)]
    rfl
  · rw [if_neg flips, exec_bind_ok updated, if_neg (show ¬ d.flips status from flips)]
    rfl

/-- The reads of a delta between its sensor rows and its print state. -/
theorem told_run (carried : Carries j params0 status) (doc : StatusDoc status keys) (d : Dash)
    (rest : Read α) :
    exec (do
      readCache j params0
      cached j params0 ["idle_timeout", "state"] JsonLib.getString storeIdle
      readToolhead j
      rest) d = exec rest (d.told status) := by
  rw [exec_bind_ok (readCache_run carried doc d),
    exec_bind_ok (cached_run carried (doc.text _ (by decide)) _),
    exec_bind_ok (readToolhead_run carried doc _), Dash.told, idleState, Cache.merged]
  cases statusField status ["idle_timeout", "state"] JsonLib.getString with
  | none => rfl
  | some state => simp [storeIdle, Core.idle, Dash.core]

theorem consumeHead_run [LawfulJson J] (time : J) (d : Dash)
    (doc : StatusDoc status (d.sensors.map Prod.fst)) :
    ∃ sensors legacy mesh, final (consumeHead (statusNotify status time)) d =
      Dash.consumed status mesh
        { clearStale d with sensors := sensors, legacyMotion := legacy } := by
  have carried := statusNotify_carries status time
  have rows : (clearStale d).sensors = d.sensors := by
    unfold clearStale
    split <;> rfl
  obtain ⟨sensors, legacy, pstat, found, head⟩ :=
    readLegacy_run time (clearStale d) (rows.symm ▸ doc)
  obtain ⟨mesh, applied⟩ := applyPrintState_run carried doc found
    (Dash.told status { clearStale d with sensors := sensors, legacyMotion := legacy })
  refine ⟨sensors, legacy, mesh, ?_⟩
  rw [final, consumeHead, exec_bind_ok (exec_modify _ _), exec_bind_ok head,
    told_run carried doc, exec_bind_ok applied,
    exec_bind_ok (cached_run carried (doc.text _ (by decide)) _)]
  rfl

end Runs

section Readouts

def TempCard.texts (card : TempCard) : String × String := (card.value, card.target)

/-- The ring without its stale flag. -/
structure RingReadout where
  arc : Int
  pct : String
  layer : String
  eta : String

def Ring.readout (ring : Ring) : RingReadout := ⟨ring.arc, ring.pct, ring.layer, ring.eta⟩

/-- What the cockpit shows. -/
structure HomeReadout where
  pill : Pill
  nozzle : String × String
  bed : String × String
  ring : Option RingReadout

def Cockpit.readout (c : Cockpit) : HomeReadout :=
  ⟨c.pill, c.nozzle.texts, c.bed.texts, c.ring.map Ring.readout⟩

/-- One fan's label and slider, whether a finger holds it, and its render shadow. -/
structure FanView where
  label : String
  slider : Option Int
  held : Bool
  shadow : Int

def FanView.readout (v : FanView) : String × Option Int := (v.label, v.slider)

def Dash.fanView (d : Dash) (i : Fin 5) : FanView where
  label := d.fans.val i
  slider := if settable : i.val < 3 then some (d.fans.slider ⟨i, settable⟩) else none
  held := if settable : i.val < 3 then d.fans.held ⟨i, settable⟩ else false
  shadow := d.shadows.fan i

/-- The cached values and the readouts that the two writers of status share. -/
structure Readouts where
  cache : Cache
  core : Core
  home : HomeReadout
  temps : TempsScreen
  filTemp : String
  fans : Fin 5 → String × Option Int
  posText : String

def Dash.readouts (d : Dash) : Readouts where
  cache := d.cache
  core := d.core
  home := d.cockpit.readout
  temps := d.temps
  filTemp := d.filTemp
  fans i := (d.fanView i).readout
  posText := d.posText

end Readouts

section Fans

variable {J : Type} [JsonLib J]

def FanView.painted (v : FanView) (pct : Int) : FanView :=
  if pct = v.shadow then v
  else
    { v with
      label := s!"{pct}%"
      slider := if v.held then v.slider else v.slider.map fun _ => sliderRange pct
      shadow := pct }

/-- The fan already reads `pct`, or its render shadow keeps it from being painted. -/
def FanView.shows (v : FanView) (pct : Int) : Prop :=
  pct = v.shadow ∨ v.label = s!"{pct}%" ∧
    (v.held = true ∨ v.slider = none ∨ v.slider = some (sliderRange pct))

theorem FanView.painted_iff (v : FanView) (pct : Int) :
    (v.painted pct).readout = v.readout ↔ v.shows pct := by
  unfold FanView.painted FanView.shows FanView.readout
  by_cases shadowed : pct = v.shadow
  · simp [shadowed]
  · cases v.held with
    | true => simp [shadowed, eq_comm]
    | false => cases v.slider <;> simp [shadowed, eq_comm]

theorem paintFan_view (i k : Fin 5) (pct : Int) (d : Dash) :
    (paintFan i pct d).fanView k =
      if k = i then (d.fanView k).painted pct else d.fanView k := by
  by_cases shadowed : pct = d.shadows.fan i
  · rw [paintFan, if_pos shadowed]
    split
    · next same =>
      subst same
      exact (if_pos shadowed).symm
    · rfl
  rw [paintFan, if_neg shadowed]
  by_cases same : k = i
  · subst same
    have fresh : ¬ pct = (d.fanView k).shadow := shadowed
    rw [if_pos rfl, FanView.painted, if_neg fresh]
    by_cases settable : k.val < 3
    · cases held : d.fans.held ⟨k, settable⟩ <;> simp [Dash.fanView, settable, held]
    · simp [Dash.fanView, settable]
  · rw [if_neg same]
    by_cases settable : i.val < 3
    · have apart : ∀ slot : k.val < 3, (⟨k, slot⟩ : Fin 3) ≠ ⟨i, settable⟩ := by
        intro slot clash
        exact same (Fin.ext (Fin.mk.inj clash))
      cases held : d.fans.held ⟨i, settable⟩ <;>
        simp [Dash.fanView, settable, same, held, apart]
    · simp [Dash.fanView, settable, same]

theorem paintFan_frame (i : Fin 5) (pct : Int) (d : Dash) :
    ∃ fans fan, paintFan i pct d =
      { d with fans := fans, shadows := { d.shadows with fan := fan } } := by
  unfold paintFan
  split
  · exact ⟨d.fans, d.shadows.fan, rfl⟩
  · exact ⟨_, _, rfl⟩

theorem paintFans_frame (status : J) (d : Dash) :
    ∃ fans fan, paintFans status d =
      { d with fans := fans, shadows := { d.shadows with fan := fan } } := by
  unfold paintFans
  generalize ([0, 1, 2, 3, 4] : List (Fin 5)) = items
  induction items generalizing d with
  | nil => exact ⟨d.fans, d.shadows.fan, rfl⟩
  | cons i rest ih =>
    cases speed : fanSpeed status i with
    | none => simpa [speed] using ih d
    | some pct =>
      obtain ⟨fans, fan, same⟩ := paintFan_frame i pct d
      obtain ⟨fans', fan', later⟩ := ih (paintFan i pct d)
      refine ⟨fans', fan', ?_⟩
      rw [same] at later
      simpa [speed, same] using later

theorem paintFans_view (status : J) (d : Dash) (k : Fin 5) :
    (paintFans status d).fanView k =
      (fanSpeed status k).elim (d.fanView k) (d.fanView k).painted := by
  have every : k ∈ ([0, 1, 2, 3, 4] : List (Fin 5)) := by
    revert k
    decide
  have fold : ∀ (items : List (Fin 5)) (d : Dash), items.Nodup →
      (items.foldl (fun d i => (fanSpeed status i).elim d (paintFan i · d)) d).fanView k =
        if k ∈ items then (fanSpeed status k).elim (d.fanView k) (d.fanView k).painted
        else d.fanView k := by
    intro items
    induction items with
    | nil => exact fun _ _ => rfl
    | cons i rest ih =>
      intro d distinct
      obtain ⟨fresh, distinct⟩ := List.nodup_cons.mp distinct
      have later := ih ((fanSpeed status i).elim d (paintFan i · d)) distinct
      have first : ((fanSpeed status i).elim d (paintFan i · d)).fanView k =
          if k = i then (fanSpeed status k).elim (d.fanView k) (d.fanView k).painted
          else d.fanView k := by
        by_cases same : k = i
        · subst same
          cases fanSpeed status k <;> simp [paintFan_view]
        · cases fanSpeed status i <;> simp [paintFan_view, same]
      rw [List.foldl_cons, later, first]
      by_cases same : k = i
      · subst same
        simp [fresh]
      · simp [same]
  rw [paintFans, fold _ d (by decide), if_pos every]

end Fans

section Agreement

variable {J : Type} [JsonLib J]

/-- The cockpit a rebuild draws once `status` is merged in. -/
def Dash.rebuilt (status : J) (d : Dash) : Cockpit :=
  let cache := d.cache.merged status
  let held := (d.reported status).1 || (d.reported status).2
  buildHome held (d.reported status).2 cache
    (if held && cache.etaKnown then etaText cache.progress cache.duration else "")

/-- A temperature moved away from its render shadow. -/
def Shadows.moved (shadows : Shadows) (c : Cache) : Prop :=
  c.nozzle ≠ shadows.nozzle ∨ c.nozzleSet ≠ shadows.nozzleSet ∨
    c.bed ≠ shadows.bed ∨ c.bedSet ≠ shadows.bedSet

instance (shadows : Shadows) (c : Cache) : Decidable (shadows.moved c) :=
  inferInstanceAs (Decidable (_ ∨ _))

/-- The pill of a print state. -/
def pillOf (printing paused : Bool) : Pill :=
  if paused then .paused else if printing then .printing else .ready

/-- A card of the cockpit reads the temperature and its target. -/
def CardReads (texts : String × String) (value target : Int) : Prop :=
  texts = (s!"{value}", targetLabel "/ " target)

/-- The Temperature and the Filament screen read the cached temperatures. -/
structure ScreensRead (d : Dash) (c : Cache) : Prop where
  nozzle : d.temps.nzCur = s!"{c.nozzle}"
  nozzleSet : d.temps.nzTgt = targetLabel "set " c.nozzleSet
  bed : d.temps.bdCur = s!"{c.bed}"
  bedSet : d.temps.bdTgt = targetLabel "set " c.bedSet
  filTemp : d.filTemp = s!"{c.nozzle} / " ++ targetLabel "" c.nozzleSet

/-- The ring's labels are no longer than the buffers of a rebuild. -/
def Cache.Fits (c : Cache) : Prop := (percentText c).length < 8 ∧ (layerText c).length < 28

/-- The ring reads the cached job, cut to the buffers; a remaining time that is not known
is blank. -/
structure RingReadout.Reads (ring : RingReadout) (c : Cache) : Prop where
  arc : ring.arc = percent c.progress
  pct : ring.pct = snprintf 8 (percentText c)
  layer : ring.layer = snprintf 28 (layerText c)
  eta : ring.eta = if c.etaKnown then etaText c.progress c.duration else ""

/-- The layout stands and reads the merged values already, where a delta does not draw them
and a rebuild does, or the other way round. -/
structure Standing (status : J) (d : Dash) : Prop where
  pill : d.cockpit.readout.pill = pillOf d.printing d.paused
  cards : ¬ d.shadows.moved (d.cache.merged status) →
    CardReads d.cockpit.readout.nozzle (d.cache.merged status).nozzle
        (d.cache.merged status).nozzleSet ∧
      CardReads d.cockpit.readout.bed (d.cache.merged status).bed (d.cache.merged status).bedSet
  labels : d.shadows.moved (d.cache.merged status) → ScreensRead d (d.cache.merged status)
  fans : ∀ i pct, fanSpeed status i = some pct → (d.fanView i).shows pct
  printing : d.printing = true → (d.cache.merged status).Fits ∧
    ∃ shown, d.cockpit.readout.ring = some shown ∧
      ((d.cache.merged status).etaKnown = true ∨ shown.eta = "")
  paused : d.printing = false → d.paused = true →
    ∃ shown, d.cockpit.readout.ring = some shown ∧ shown.Reads (d.cache.merged status)
  idle : d.held = false → d.cockpit.readout.ring = none

/-- When the snapshot leaves what a delta of the same status object would: it
carries no news of the idle state, the display message or, in a standing
layout, of anything only a delta paints. -/
structure SeedAgrees (status : J) (d : Dash) : Prop where
  busy : ∀ state, idleState status = some state → decide (state = "Printing") = d.busy
  message : ∀ text, displayMessage status = some text → text = d.calMsg
  move : posReported status = true ∨ d.posText = posText (d.cache.merged status)
  standing : ¬ d.flips status → Standing status d

theorem core_agrees_iff (c : Core) (idle message : Option String) :
    ((c.busy = ((c.idle idle).message message).busy) ∧
        c.calMsg = ((c.idle idle).message message).calMsg) ↔
      (∀ state, idle = some state → decide (state = "Printing") = c.busy) ∧
        ∀ text, message = some text → text = c.calMsg := by
  cases idle with
  | none => cases message <;> simp [Core.idle, Core.message, eq_comm]
  | some state =>
    simp only [Option.some.injEq, forall_eq']
    cases message with
    | none =>
      simp only [Core.idle, Core.message]
      constructor
      · rintro ⟨busy, -⟩
        simp [busy]
      · rintro ⟨busy, -⟩
        simp [← busy]
    | some text =>
      simp only [Core.idle, Core.message, Option.some.injEq, forall_eq']
      exact and_congr eq_comm eq_comm

theorem seeded_readouts (status : J) (d : Dash) :
    (d.seeded status).readouts =
      { cache := d.cache.merged status
        core := ⟨(d.reported status).1, (d.reported status).2, d.busy, d.calMsg⟩
        home := (d.rebuilt status).readout
        temps := d.temps
        filTemp := d.filTemp
        fans := d.readouts.fans
        posText := posText (d.cache.merged status) } := rfl

/-- The core a delta leaves. -/
def Dash.coreNext (status : J) (d : Dash) : Core :=
  { (d.core.idle (idleState status)).message (displayMessage status) with
    printing := (d.reported status).1, paused := (d.reported status).2 }

theorem flipped_readouts (status : J) (mesh : MeshScreen) (d : Dash) (flips : d.flips status) :
    (d.consumed status mesh).readouts =
      { d.readouts with
        cache := d.cache.merged status
        core := d.coreNext status
        home := (d.rebuilt status).readout
        posText := (d.told status).posText } := by
  have flipped : (d.told status).applied status mesh =
      flipLayout (d.reported status).1 (d.reported status).2 (d.told status) := if_pos flips
  rw [Dash.consumed, flipped]
  unfold flipLayout Dash.coreNext
  simp only
  cases displayMessage status with
  | none => split <;> rfl
  | some text => split <;> rfl

/-- The ring's labels, painted in place. -/
def RingReadout.painted (cache : Cache) (ring : RingReadout) : RingReadout where
  arc := percent cache.progress
  pct := percentText cache
  layer := layerText cache
  eta := if cache.etaKnown then etaText cache.progress cache.duration else ring.eta

theorem paintRing_readouts (d : Dash) :
    (paintRing d).readouts =
      { d.readouts with home := { d.cockpit.readout with
          ring := d.cockpit.readout.ring.map (RingReadout.painted d.cache) } } := by
  unfold paintRing
  cases shown : d.cockpit.ring with
  | none => simp [Dash.readouts, Cockpit.readout, shown]
  | some ring =>
    cases known : d.cache.etaKnown <;>
      simp [Dash.readouts, Dash.core, Dash.fanView, Cockpit.readout, Ring.readout,
        RingReadout.painted, shown, known]

theorem repaintTemps_readouts (d : Dash) :
    (repaintTemps d).readouts =
      if d.shadows.moved d.cache then
        { d.readouts with
          home := { d.cockpit.readout with
            nozzle := (tempCard 280 d.cache.nozzle d.cache.nozzleSet).texts
            bed := (tempCard 280 d.cache.bed d.cache.bedSet).texts }
          temps := (paintTemps d).temps
          filTemp := (paintTemps d).filTemp }
      else d.readouts := by
  by_cases moved : d.shadows.moved d.cache
  · have repainted : repaintTemps d = paintTemps d := if_pos moved
    rw [repainted, if_pos moved]
    rfl
  · have left : repaintTemps d = d := if_neg moved
    rw [left, if_neg moved]

theorem paintFans_readouts (status : J) (d : Dash) :
    (paintFans status d).readouts =
      { d.readouts with fans := fun i =>
          ((fanSpeed status i).elim (d.fanView i) (d.fanView i).painted).readout } := by
  have others : (paintFans status d).readouts =
      { d.readouts with fans := (paintFans status d).readouts.fans } := by
    obtain ⟨fans, fan, painted⟩ := paintFans_frame status d
    rw [painted]
    rfl
  rw [others]
  simp only [Dash.readouts, paintFans_view]

theorem repainted_readouts (status : J) (mesh : MeshScreen) (printing : Bool) (d : Dash) :
    (d.repainted status mesh printing).readouts =
      let painted := (paintFans status (repaintTemps d)).readouts
      { painted with home := { painted.home with
          ring := if printing then painted.home.ring.map (RingReadout.painted painted.cache)
            else painted.home.ring } } := by
  cases printing with
  | false => rfl
  | true => exact paintRing_readouts { paintFans status (repaintTemps d) with mesh := mesh }

/-- What a delta that leaves the layout standing shows. -/
def Dash.stood (status : J) (d : Dash) : Readouts :=
  let cache := d.cache.merged status
  let moved := d.shadows.moved cache
  let shown := d.cockpit.readout
  { cache := cache
    core := d.coreNext status
    home :=
      { pill := shown.pill
        nozzle := if moved then (d.rebuilt status).readout.nozzle else shown.nozzle
        bed := if moved then (d.rebuilt status).readout.bed else shown.bed
        ring := if d.printing then shown.ring.map (RingReadout.painted cache) else shown.ring }
    temps := if moved then (paintTemps { d with cache := cache }).temps else d.temps
    filTemp := if moved then (paintTemps { d with cache := cache }).filTemp else d.filTemp
    fans := fun i => ((fanSpeed status i).elim (d.fanView i) (d.fanView i).painted).readout
    posText := (d.told status).posText }

theorem stood_readouts (status : J) (mesh : MeshScreen) (d : Dash) (stands : ¬ d.flips status) :
    (d.consumed status mesh).readouts = d.stood status := by
  have stood : (d.told status).applied status mesh =
      (d.told status).repainted status mesh (d.reported status).1 := if_neg stands
  simp only [Dash.flips, not_or, not_not] at stands
  have message : ∀ e : Dash,
      ((displayMessage status).elim e fun text => { e with calMsg := text }).readouts =
        { e.readouts with core := e.readouts.core.message (displayMessage status) } := by
    intro e
    cases displayMessage status <;> rfl
  have fanViews : (repaintTemps (d.told status)).fanView = d.fanView := by
    unfold repaintTemps
    split <;> rfl
  have temps := repaintTemps_readouts (d.told status)
  have fans := paintFans_readouts status (repaintTemps (d.told status))
  rw [fanViews, temps] at fans
  rw [Dash.consumed, stood, message, stands.1, repainted_readouts, fans, Dash.stood, Dash.coreNext,
    stands.1, stands.2]
  by_cases moved : d.shadows.moved (d.cache.merged status)
  · have told : (d.told status).shadows.moved (d.told status).cache := moved
    simp only [if_pos moved, if_pos told]
    cases displayMessage status <;> rfl
  · have told : ¬ (d.told status).shadows.moved (d.told status).cache := moved
    simp only [if_neg moved, if_neg told]
    cases displayMessage status <;> rfl

theorem coreNext_eq_iff (status : J) (d : Dash) :
    (⟨(d.reported status).1, (d.reported status).2, d.busy, d.calMsg⟩ : Core) = d.coreNext status ↔
      (∀ state, idleState status = some state → decide (state = "Printing") = d.busy) ∧
        ∀ text, displayMessage status = some text → text = d.calMsg := by
  refine Iff.trans ?_ (core_agrees_iff d.core _ _)
  simp [Dash.coreNext, Dash.core]

theorem told_posText_iff (status : J) (d : Dash) :
    posText (d.cache.merged status) = (d.told status).posText ↔
      posReported status = true ∨ d.posText = posText (d.cache.merged status) := by
  cases reported : posReported status with
  | true => simp [Dash.told, reported]
  | false => simp [Dash.told, reported, eq_comm]

theorem snprintf_whole {size : Nat} (text : String) :
    snprintf (size + 1) text = text ↔ text.length < size + 1 := by
  rw [Nat.lt_succ_iff, ← String.length_toList, ← List.take_eq_self_iff, snprintf]
  constructor
  · intro whole
    have cut := congrArg String.toList whole
    rwa [String.toList_ofList] at cut
  · intro whole
    rw [Nat.add_sub_cancel, whole, String.ofList_toList]

/-- The ring of a rebuild. -/
def RingReadout.rebuilt (c : Cache) : RingReadout where
  arc := percent c.progress
  pct := snprintf 8 (percentText c)
  layer := snprintf 28 (layerText c)
  eta := if c.etaKnown then etaText c.progress c.duration else ""

theorem RingReadout.reads_iff {ring : RingReadout} {c : Cache} :
    ring.Reads c ↔ RingReadout.rebuilt c = ring := by
  constructor
  · rintro ⟨arc, pct, layer, eta⟩
    rw [RingReadout.rebuilt, ← arc, ← pct, ← layer, ← eta]
  · rintro rfl
    exact ⟨rfl, rfl, rfl, rfl⟩

/-- In place a ring is painted as it is rebuilt where its labels fit and a remaining time
that is not known is blank. -/
theorem RingReadout.painted_iff {ring : RingReadout} {c : Cache} :
    RingReadout.rebuilt c = ring.painted c ↔ c.Fits ∧ (c.etaKnown = true ∨ ring.eta = "") := by
  have whole : c.Fits ↔ snprintf 8 (percentText c) = percentText c ∧
      snprintf 28 (layerText c) = layerText c :=
    and_congr (snprintf_whole _).symm (snprintf_whole _).symm
  rw [whole, and_assoc, RingReadout.rebuilt, RingReadout.painted, RingReadout.mk.injEq]
  cases known : c.etaKnown with
  | true => simp only [if_true, true_or, and_true, true_and]
  | false =>
    simp only [Bool.false_eq_true, if_false, false_or, true_and]
    rw [eq_comm (a := "")]

theorem rebuilt_ring (status : J) (d : Dash) (stands : ¬ d.flips status) :
    (d.rebuilt status).readout.ring =
      if d.held then some (RingReadout.rebuilt (d.cache.merged status)) else none := by
  simp only [Dash.flips, not_or, not_not] at stands
  unfold Dash.rebuilt
  rw [stands.1, stands.2]
  cases held : d.printing || d.paused with
  | true => simp [buildHome, Cockpit.readout, Ring.readout, Dash.held, held, RingReadout.rebuilt]
  | false => simp [buildHome, Cockpit.readout, Dash.held, held]

theorem buildHome_pill (printing paused : Bool) (c : Cache) (eta : String) :
    (buildHome (printing || paused) paused c eta).pill = pillOf printing paused := by
  cases paused with
  | true => rfl
  | false => cases printing <;> rfl

theorem ring_agrees_iff (status : J) (d : Dash) (stands : ¬ d.flips status) :
    (d.rebuilt status).readout.ring =
        (if d.printing then d.cockpit.readout.ring.map (RingReadout.painted (d.cache.merged status))
          else d.cockpit.readout.ring) ↔
      (d.printing = true → (d.cache.merged status).Fits ∧
        ∃ shown, d.cockpit.readout.ring = some shown ∧
          ((d.cache.merged status).etaKnown = true ∨ shown.eta = "")) ∧
      (d.printing = false → d.paused = true →
        ∃ shown, d.cockpit.readout.ring = some shown ∧ shown.Reads (d.cache.merged status)) ∧
      (d.held = false → d.cockpit.readout.ring = none) := by
  rw [rebuilt_ring status d stands]
  cases printing : d.printing with
  | true =>
    have held : d.held = true := by simp [Dash.held, printing]
    rw [if_pos held]
    generalize d.cache.merged status = c
    cases shown : d.cockpit.readout.ring with
    | none => simp [held]
    | some ring => simp [held, RingReadout.painted_iff]
  | false =>
    cases paused : d.paused with
    | true =>
      have held : d.held = true := by simp [Dash.held, paused]
      rw [if_pos held]
      generalize d.cache.merged status = c
      cases shown : d.cockpit.readout.ring with
      | none => simp [held]
      | some ring => simp [held, RingReadout.reads_iff]
    | false =>
      have held : d.held = false := by simp [Dash.held, printing, paused]
      generalize d.cache.merged status = c
      rw [held, if_neg Bool.false_ne_true, if_neg Bool.false_ne_true]
      simp only [Bool.false_eq_true, false_imp_iff, true_imp_iff, true_and]
      exact eq_comm

theorem screensRead_iff {d : Dash} {c : Cache} :
    ScreensRead d c ↔
      d.temps = (paintTemps { d with cache := c }).temps ∧
        d.filTemp = (paintTemps { d with cache := c }).filTemp := by
  constructor
  · rintro ⟨nozzle, nozzleSet, bed, bedSet, filTemp⟩
    refine ⟨?_, filTemp⟩
    cases temps : d.temps
    rw [temps] at nozzle nozzleSet bed bedSet
    cases nozzle
    cases nozzleSet
    cases bed
    cases bedSet
    rfl
  · rintro ⟨temps, filTemp⟩
    refine ⟨?_, ?_, ?_, ?_, filTemp⟩ <;> rw [temps] <;> rfl

theorem standing_iff (status : J) (d : Dash) (stands : ¬ d.flips status) :
    Standing status d ↔
      (d.rebuilt status).readout = (d.stood status).home ∧ d.temps = (d.stood status).temps ∧
        d.filTemp = (d.stood status).filTemp ∧ d.readouts.fans = (d.stood status).fans := by
  have rings := ring_agrees_iff status d stands
  have screens : ScreensRead d (d.cache.merged status) ↔ _ := screensRead_iff
  have pills : (d.rebuilt status).readout.pill = pillOf d.printing d.paused := by
    simp only [Dash.flips, not_or, not_not] at stands
    unfold Dash.rebuilt
    rw [stands.1, stands.2]
    exact buildHome_pill d.printing d.paused (d.cache.merged status) ""
  have fan : ∀ i, (d.fanView i).readout =
        ((fanSpeed status i).elim (d.fanView i) (d.fanView i).painted).readout ↔
      ∀ pct, fanSpeed status i = some pct → (d.fanView i).shows pct := by
    intro i
    cases fanSpeed status i with
    | none => simp
    | some pct => simpa [eq_comm] using FanView.painted_iff (d.fanView i) pct
  simp only [Dash.stood]
  constructor
  · intro standing
    have ring := rings.mpr ⟨standing.printing, standing.paused, standing.idle⟩
    have pill := pills.trans standing.pill.symm
    have fans := funext fun i => (fan i).mpr (standing.fans i)
    by_cases moved : d.shadows.moved (d.cache.merged status)
    · obtain ⟨temps, filTemp⟩ := screens.mp (standing.labels moved)
      simp only [if_pos moved]
      refine ⟨?_, temps, filTemp, fans⟩
      rw [← ring, ← pill]
    · obtain ⟨nozzle, bed⟩ := standing.cards moved
      simp only [if_neg moved, true_and]
      refine ⟨?_, fans⟩
      rw [← ring, ← pill, nozzle, bed]
      rfl
  · rintro ⟨home, temps, filTemp, fans⟩
    obtain ⟨pill, nozzle, bed, ring⟩ := HomeReadout.mk.inj home
    obtain ⟨printing, paused, idle⟩ := rings.mp ring
    refine ⟨pill.symm.trans pills, fun same => ?_, fun moved => ?_, fun i => ?_, printing, paused,
      idle⟩
    · rw [if_neg same] at nozzle bed
      exact ⟨nozzle.symm, bed.symm⟩
    · rw [if_pos moved] at temps filTemp
      exact screens.mpr ⟨temps, filTemp⟩
    · exact (fan i).mp (congrFun fans i)

theorem consumed_agrees_iff (status : J) (mesh : MeshScreen) (d : Dash) :
    (d.seeded status).readouts = (d.consumed status mesh).readouts ↔ SeedAgrees status d := by
  have core := coreNext_eq_iff status d
  have move := told_posText_iff status d
  rw [seeded_readouts]
  by_cases flips : d.flips status
  · rw [flipped_readouts status mesh d flips, Readouts.mk.injEq]
    constructor
    · rintro ⟨-, sameCore, -, -, -, -, samePos⟩
      obtain ⟨busy, message⟩ := core.mp sameCore
      exact ⟨busy, message, move.mp samePos, fun stands => absurd flips stands⟩
    · rintro ⟨busy, message, samePos, -⟩
      exact ⟨rfl, core.mpr ⟨busy, message⟩, rfl, rfl, rfl, rfl, move.mpr samePos⟩
  · have standing := standing_iff status d flips
    rw [stood_readouts status mesh d flips]
    constructor
    · intro same
      obtain ⟨busy, message⟩ := core.mp (congrArg Readouts.core same)
      refine ⟨busy, message, move.mp (congrArg Readouts.posText same), fun _ => standing.mpr ?_⟩
      have fans := congrArg Readouts.fans same
      exact ⟨congrArg Readouts.home same, congrArg Readouts.temps same,
        congrArg Readouts.filTemp same, fans⟩
    · rintro ⟨busy, message, samePos, stands⟩
      obtain ⟨home, temps, filTemp, fans⟩ := standing.mp (stands flips)
      rw [core.mpr ⟨busy, message⟩, move.mpr samePos, home, temps, filTemp, fans]
      rfl

/-- The stale flag, the sensor rows and the legacy buttons are no part of what the
writers have to agree on. -/
theorem seedAgrees_congr (status : J) (d : Dash) (sensors : List (String × Sensor))
    (legacy : Bool) :
    SeedAgrees status { clearStale d with sensors := sensors, legacyMotion := legacy } ↔
      SeedAgrees status d := by
  have home : (clearStale d).cockpit.readout = d.cockpit.readout := by
    cases ring : d.cockpit.ring <;> cases shown : d.staleShown <;>
      simp [clearStale, homeSetStale, Cockpit.readout, Ring.readout, ring, shown]
  have others : ∃ cockpit stale, clearStale d =
      { d with cockpit := cockpit, staleShown := stale } := by
    unfold clearStale
    split
    · exact ⟨_, _, rfl⟩
    · exact ⟨_, _, rfl⟩
  obtain ⟨cockpit, stale, same⟩ := others
  rw [same] at home ⊢
  constructor
  · rintro ⟨busy, message, move, standing⟩
    refine ⟨busy, message, move, fun stands => ?_⟩
    obtain ⟨pill, cards, labels, fans, printing, paused, idle⟩ := standing stands
    simp only [home] at pill cards printing paused idle
    refine ⟨pill, cards, fun moved => ?_, fans, printing, paused, idle⟩
    obtain ⟨nozzle, nozzleSet, bed, bedSet, filTemp⟩ := labels moved
    exact ⟨nozzle, nozzleSet, bed, bedSet, filTemp⟩
  · rintro ⟨busy, message, move, standing⟩
    refine ⟨busy, message, move, fun stands => ?_⟩
    obtain ⟨pill, cards, labels, fans, printing, paused, idle⟩ := standing stands
    simp only [← home] at pill cards printing paused idle
    refine ⟨pill, cards, fun moved => ?_, fans, printing, paused, idle⟩
    obtain ⟨nozzle, nozzleSet, bed, bedSet, filTemp⟩ := labels moved
    exact ⟨nozzle, nozzleSet, bed, bedSet, filTemp⟩

end Agreement

section Writers

variable {L : Type → Type} [Layer L] [LawfulLayer L] {J : Type} [JsonLib J]

/-- The snapshot leaves the values and readouts a delta of the same status object
leaves exactly when it carries no news only a delta takes in. -/
theorem seed_agrees [LawfulJson J] (p : Panel L) (status time : J)
    (doc : StatusDoc status (p.dash.sensors.map Prod.fst)) :
    (step p (.seed (subscribeReply status))).dash.readouts =
        (step p (.delta (statusNotify status time))).dash.readouts ↔
      SeedAgrees status p.dash := by
  obtain ⟨sensors, mesh, seeded⟩ := init_run p.dash doc
  obtain ⟨sensors', legacy, mesh', told⟩ := consumeHead_run time p.dash doc
  have seed : (step p (.seed (subscribeReply status))).dash.readouts =
      (Dash.seeded status { clearStale p.dash with
        sensors := sensors', legacyMotion := legacy }).readouts := by
    show (final (onDash (init (subscribeReply status))) p).dash.readouts = _
    rw [final, onDash, exec_zoom, seeded]
    unfold clearStale
    split <;> rfl
  have delta : (step p (.delta (statusNotify status time))).dash.readouts =
      (Dash.consumed status mesh' { clearStale p.dash with
        sensors := sensors', legacyMotion := legacy }).readouts := by
    show (final (consume (statusNotify status time)) p).dash.readouts = _
    rw [consume_dash, told]
  rw [seed, delta, consumed_agrees_iff]
  exact seedAgrees_congr status p.dash sensors' legacy

/-- The panel knows of no running operation and shows no overlay for one. -/
structure Quiet (p : Panel L) : Prop where
  busy : p.dash.busy = false
  untracked : p.track.calOverlay = false
  hidden : ¬ p.ov.layer.Shown .busy

theorem linkLost_quiet (p : Panel L) : Quiet (linkLost p) where
  busy := rfl
  untracked := rfl
  hidden := fun shown => (busyHide_down p.ov).hidden ((calLogHide_kept _).shown.mp shown)

theorem seed_quiet {p : Panel L} (quiet : Quiet p) (reply : J) :
    Quiet (step p (.seed reply)) := by
  have kept : Preserves (fun d : Dash => d.core.busy = false) (init reply) :=
    init_operation (fun busy _ => busy = false) reply
  exact ⟨kept.final quiet.busy, quiet.untracked, quiet.hidden⟩

theorem delta_quiet {p : Panel L} (quiet : Quiet p) (j : J)
    (silent : deltaText j ["idle_timeout", "state"] = none) :
    Quiet (step p (.delta j)) := by
  have kept : Preserves (fun d : Dash => d.core.busy = false) (consumeHead j) := by
    refine consumeHead_operation (fun busy _ => busy = false) j (fun _ _ state news => ?_)
      (fun _ _ _ _ idle => idle)
    rw [silent] at news
    contradiction
  have reached := kept.final quiet.busy
  show Quiet (final (consume j) p)
  unfold final at reached ⊢
  rcases consume_cases p j with ⟨d, printing, head, -, ran⟩ | ⟨d, thrown, head, ran⟩
  · rw [head] at reached
    rw [ran]
    have idle : d.busy = false := reached
    have inactive : calActive d.printing { p with dash := d } = false := by
      simp [calActive, idle]
    have overlay : calOverlayStage d.printing { p with dash := d } = { p with dash := d } := by
      simp [calOverlayStage, inactive, quiet.untracked]
    simp only [overlayStages, overlay]
    refine ⟨?_, (logbookStage_track _ _).1.trans quiet.untracked, fun shown => ?_⟩
    · rw [logbookStage_dash]
      exact idle
    · exact quiet.hidden ((logbookStage_kept d.printing { p with dash := d }).shown.mp shown)
  · rw [head] at reached
    rw [ran]
    exact ⟨reached, quiet.untracked, quiet.hidden⟩

/-- After a link loss a reconnect never re-shows the calibration overlay by itself:
it stays down until a delta brings the idle state. -/
theorem reconnect_waits_for_idle (p : Panel L) (reply : J) (deltas : List J)
    (silent : ∀ j ∈ deltas, deltaText j ["idle_timeout", "state"] = none) :
    Quiet (run step p (.linkLost :: .seed reply :: deltas.map .delta)) := by
  have seeded : Quiet (step (linkLost p) (.seed reply)) := seed_quiet (linkLost_quiet p) reply
  show Quiet (run step (step (linkLost p) (.seed reply)) (deltas.map .delta))
  generalize step (linkLost p) (.seed reply) = q at seeded
  induction deltas generalizing q with
  | nil => exact seeded
  | cons j rest ih =>
    have next := delta_quiet seeded j (silent j (List.mem_cons_self ..))
    exact ih (fun later member => silent later (List.mem_cons_of_mem j member)) _ next

end Writers

section Scenarios

/-- A print under way, as the subscribe reply describes it. -/
def printingSnapshot : Json :=
  .obj [("print_stats", .obj [("state", .str "printing"), ("filename", .str "bench.gcode")]),
    ("virtual_sdcard", .obj [("progress", .num 0.4)]), ("fan", .obj [("speed", .int 1)])]

theorem printingSnapshot_doc : StatusDoc printingSnapshot [] where
  number := by decide +kernel
  count := by decide +kernel
  text := by decide +kernel
  target := nofun
  value := nofun
  position := ⟨.null, rfl, nofun⟩
  mesh := ⟨.null, rfl, nofun⟩

/-- The first connect, to a machine that prints. -/
theorem seed_agrees_printing :
    (step (Panel.initial : Panel ZStack) (.seed (subscribeReply printingSnapshot))).dash.readouts =
        (step (Panel.initial : Panel ZStack)
          (.delta (statusNotify printingSnapshot (.int 0)))).dash.readouts ↔
      SeedAgrees printingSnapshot (Panel.initial : Panel ZStack).dash :=
  seed_agrees Panel.initial printingSnapshot (.int 0) printingSnapshot_doc

/-- A calibration under way, as the subscribe reply describes it. -/
def calibrationSnapshot : Json :=
  .obj [("idle_timeout", .obj [("state", .str "Printing")]),
    ("display_status", .obj [("message", .str "Calibrating Bed Mesh")])]

/-- A link loss in the middle of a calibration: the snapshot of the reconnect does
not bring the overlay back, while the same fields in a delta would. -/
theorem snapshot_forgets_calibration :
    let lost : Panel ZStack := after [.delta calibrationStarted, .linkLost]
    let seeded := step lost (.seed (subscribeReply calibrationSnapshot))
    let told := step lost (.delta (statusNotify calibrationSnapshot (.int 1)))
    let next : Event Json := .delta (statusNotify (.obj []) (.int 2))
    seeded.dash.readouts ≠ told.dash.readouts ∧
      ¬ (step seeded next).ov.layer.Shown .busy ∧ (step told next).ov.layer.Shown .busy := by
  refine ⟨fun same => ?_, by decide +kernel, by decide +kernel⟩
  have busy := congrArg (fun readouts : Readouts => readouts.core.busy) same
  revert busy
  decide +kernel

end Scenarios

end GrumpyScreen
