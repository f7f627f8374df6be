import GrumpyScreen.BootEpoch

/-! Whether an objects list leads to a subscription: the callback reads every
name of the list and every row of the configuration before it subscribes. -/

namespace GrumpyScreen

open Lib Lib.Exec

section Settings

/-- A setting that is absent or a boolean, as its reader expects it. -/
def Settings.BoolOr (key : String) (e : Settings) : Prop :=
  ∀ value, e.lookup (bytes key) = some value → ∃ b, value = .bool b

def Settings.TextOr (key : String) (e : Settings) : Prop :=
  ∀ value, e.lookup (bytes key) = some value → ∃ t, value = .text t

variable {e : Settings} {key : String}

theorem Settings.valueBool_ok (default : Bool) :
    (∃ b, e.valueBool key default = .ok b) ↔ e.BoolOr key := by
  unfold Settings.valueBool Settings.BoolOr
  cases e.lookup (bytes key) with
  | none => simp
  | some value => cases value <;> simp

theorem Settings.valueText_ok (default : Bytes) :
    (∃ t, e.valueText key default = .ok t) ↔ e.TextOr key := by
  unfold Settings.valueText Settings.TextOr
  cases e.lookup (bytes key) with
  | none => simp
  | some value => cases value <;> simp

theorem Settings.dump_ok : e.dump = .ok ⟨⟩ ↔ e.dumps = true := by
  unfold Settings.dump
  split
  · next yes => exact iff_of_true rfl yes
  · next no => exact iff_of_false (fun same => nomatch same) no

end Settings

section Except

theorem ok_bind (value : α) (next : α → Except ε β) :
    ((.ok value : Except ε α) >>= next) = next value := rfl

theorem bind_ok {m : Except ε α} {next : α → Except ε β} :
    (∃ result, m >>= next = .ok result) ↔ ∃ value, m = .ok value ∧ ∃ result, next value = .ok result := by
  cases m with
  | ok value => simp [bind, Except.bind]
  | error thrown => simp [bind, Except.bind]

theorem forM_ok {items : List ι} {check : ι → Except ε PUnit} :
    (∃ done, items.forM check = .ok done) ↔ ∀ item ∈ items, check item = .ok ⟨⟩ := by
  induction items with
  | nil => exact iff_of_true ⟨_, rfl⟩ (fun item member => nomatch member)
  | cons item rest ih =>
    refine Iff.trans bind_ok ?_
    rw [List.forall_mem_cons, ← ih]
    constructor
    · rintro ⟨done, first, later⟩
      exact ⟨first, later⟩
    · rintro ⟨first, later⟩
      exact ⟨⟨⟩, first, later⟩

theorem forM_returns {items : List ι} {check : ι → Except ε PUnit}
    (each : ∀ item ∈ items, check item = .ok ⟨⟩) : items.forM check = .ok ⟨⟩ := by
  obtain ⟨done, ran⟩ := forM_ok.mpr each
  exact ran

theorem mapM_ok {items : List ι} {read : ι → Except ε α}
    (each : ∀ item ∈ items, ∃ value, read item = .ok value) :
    items.mapM read = .ok (items.filterMap fun item => (read item).toOption) := by
  induction items with
  | nil => rfl
  | cons item rest ih =>
    obtain ⟨value, first⟩ := each item (List.mem_cons_self ..)
    have later := ih fun other member => each other (List.mem_cons_of_mem item member)
    simp [List.mapM_cons, first, later, bind, Except.bind, pure, Except.pure, Except.toOption]

theorem mapM_ok_each {items : List ι} {read : ι → Except ε α} {values : List α}
    (ran : items.mapM read = .ok values) : ∀ item ∈ items, ∃ value, read item = .ok value := by
  induction items generalizing values with
  | nil => exact fun item member => nomatch member
  | cons item rest ih =>
    rw [List.mapM_cons] at ran
    obtain ⟨value, first, result, ran⟩ := bind_ok.mp ⟨values, ran⟩
    obtain ⟨others, later, _⟩ := bind_ok.mp ⟨result, ran⟩
    exact List.forall_mem_cons.mpr ⟨⟨value, first⟩, ih later⟩

end Except

section Rows

theorem sensorRow_ok {key : String} {e : Settings} :
    (∃ row, sensorRow key e = .ok row) ↔ e.BoolOr "controllable" ∧ e.TextOr "display_name" := by
  rw [sensorRow, bind_ok, ← Settings.valueBool_ok false, ← Settings.valueText_ok (bytes key)]
  constructor
  · rintro ⟨controllable, first, named⟩
    obtain ⟨name, second, _⟩ := bind_ok.mp named
    exact ⟨⟨controllable, first⟩, name, second⟩
  · rintro ⟨⟨controllable, first⟩, name, second⟩
    exact ⟨controllable, first, bind_ok.mpr ⟨name, second, _, rfl⟩⟩

theorem fanRow_ok {fans : List (String × Settings)} {key : String} {e : Settings} :
    (∃ row, fanRow fans key e = .ok row) ↔
      (∀ fan ∈ fans, fan.2.dumps = true) ∧ e.dumps = true ∧ e.TextOr "display_name" := by
  have dumped : (∃ done, fans.forM (fun fan => fan.2.dump) = .ok done) ↔
      ∀ fan ∈ fans, fan.2.dumps = true :=
    forM_ok.trans (forall₂_congr fun _ _ => Settings.dump_ok)
  rw [fanRow, bind_ok, ← Settings.valueText_ok (bytes key), ← dumped, ← Settings.dump_ok]
  constructor
  · rintro ⟨done, all, rest⟩
    obtain ⟨⟨⟩, own, named⟩ := bind_ok.mp rest
    obtain ⟨name, found, _⟩ := bind_ok.mp named
    exact ⟨⟨done, all⟩, own, name, found⟩
  · rintro ⟨⟨done, all⟩, own, name, found⟩
    exact ⟨done, all, bind_ok.mpr ⟨⟨⟩, own, bind_ok.mpr ⟨name, found, _, rfl⟩⟩⟩

theorem ledKey_dumps {leds : List Settings} (dumps : ∀ led ∈ leds, led.dumps = true)
    {led : Settings} (member : led ∈ leds) : ledKey leds led = .ok led.id := by
  have all : leds.forM Settings.dump = .ok ⟨⟩ :=
    forM_returns fun led member => Settings.dump_ok.mpr (dumps led member)
  have own : led.dump = .ok ⟨⟩ := Settings.dump_ok.mpr (dumps led member)
  unfold ledKey
  cases led.id with
  | none => rw [own]; rfl
  | some key => rw [all, own]; rfl

theorem ledKey_ok {leds : List Settings} :
    (∀ led ∈ leds, ∃ key, ledKey leds led = .ok key) ↔ ∀ led ∈ leds, led.dumps = true := by
  constructor
  · intro keys led member
    obtain ⟨key, read⟩ := keys led member
    unfold ledKey at read
    split at read
    · obtain ⟨⟨⟩, own, _⟩ := bind_ok.mp ⟨key, read⟩
      exact Settings.dump_ok.mp own
    · obtain ⟨done, _, rest⟩ := bind_ok.mp ⟨key, read⟩
      obtain ⟨⟨⟩, own, _⟩ := bind_ok.mp rest
      exact Settings.dump_ok.mp own
  · exact fun dumps led member => ⟨led.id, ledKey_dumps dumps member⟩

/-- The rows the leds make, each under its id. -/
def ledTable (leds : List Settings) : List (Bytes × LedRow) :=
  leds.foldl (fun rows led => Boot.insertLed led led.id rows) []

end Rows

section Listing

variable {J : Type} [JsonDoc J] (c : Config) (names : List String) {s : State J}

/-- The rows configured for what the printer lists. -/
def sensorRows : List (String × Settings) :=
  display (c.getObjects (bytes "monitored_sensor"))
    (names.filter State.isExtruder ++ names.filter State.isHeater ++ names.filter State.isSensor)

def fanRows : List (String × Settings) :=
  display (c.getObjects (bytes "fan"))
    (names.filter State.isFan ++ names.filter State.isOutputPin)

def ledRows : List Settings :=
  displayLeds (c.getObjects (bytes "led"))
    (names.filter State.isLed ++ names.filter State.isOutputPin)

/-- The button shows an image: no single led without brightness, or one whose name makes a
pointer. -/
def Pictured (leds : List Settings) : Prop :=
  ∀ key, Boot.singleLed (ledTable leds) = some key → ∃ path, pointerPath (ledName key) = .ok path

/-- Every row configured for what the printer lists has settings of the types
its panel reads, the fans and leds are UTF-8 throughout, and the led button has an image. -/
structure Presentable : Prop where
  sensors : ∀ row ∈ sensorRows c names, row.2.BoolOr "controllable" ∧ row.2.TextOr "display_name"
  fans : ∀ row ∈ fanRows c names, row.2.dumps = true ∧ row.2.TextOr "display_name"
  leds : ∀ led ∈ ledRows c names, led.dumps = true
  button : Pictured (ledRows c names)

variable {c names}

theorem State.getDisplay_of_lists (lists : s.Lists names) :
    s.getDisplaySensors c = .ok (sensorRows c names) ∧
      s.getDisplayFans c = .ok (fanRows c names) ∧
      s.getDisplayLeds c = .ok (ledRows c names) := by
  refine ⟨?_, ?_, ?_⟩
  · simp [getDisplaySensors, getExtruders, getHeaters, getSensors, listed_of_lists lists,
      sensorRows, bind, Except.bind, pure, Except.pure]
  · simp [getDisplayFans, getFans, getOutputPins, listed_of_lists lists, fanRows, bind,
      Except.bind, pure, Except.pure]
  · simp [getDisplayLeds, getLeds, getOutputPins, listed_of_lists lists, ledRows, bind,
      Except.bind, pure, Except.pure]

end Listing

namespace Boot

variable {L : Type → Type} [Layer L] {J : Type} [JsonDoc J] {c : Config} {b : Boot L J}
  {origin : Pending} {epoch : UInt32} {d objs : J} {names : List String}

theorem mainButtonImage_ok {leds : List Settings} :
    (∃ done, mainButtonImage (singleLed (ledTable leds)) = .ok done) ↔ Pictured leds := by
  unfold Pictured
  cases singleLed (ledTable leds) with
  | none => simp [mainButtonImage, pure, Except.pure]
  | some key =>
    have made : (∃ done, mainButtonImage (some key) = .ok done) ↔
        ∃ path, pointerPath (ledName key) = .ok path := by
      refine Iff.trans bind_ok ?_
      simp [pure, Except.pure]
    rw [made]
    simp

omit [JsonDoc J] in
theorem createLeds_returns (leds : List Settings) (t : Boot L J) :
    Returns (createLeds leds) t ↔ (∀ led ∈ leds, led.dumps = true) ∧ Pictured leds := by
  refine (returns_bind_ok (exec_modify _ t)).trans ?_
  by_cases dumps : ∀ led ∈ leds, led.dumps = true
  · rw [and_iff_right dumps]
    have filled : ∀ (some : List Settings) (s : Boot L J),
        (some.foldl (fun s led => { s with rows.leds := insertLed led led.id s.rows.leds })
            s).rows.leds =
          some.foldl (fun rows led => insertLed led led.id rows) s.rows.leds := by
      intro some
      induction some with
      | nil => exact fun _ => rfl
      | cons led rest ih => exact fun s => ih _
    have stored (s : Boot L J) :
        exec (leds.forM fun led => do
            let key ← Exec.ofExcept (ledKey leds led)
            modify fun b => { b with rows.leds := insertLed led key b.rows.leds }) s =
          (.ok ⟨⟩, leds.foldl (fun s led =>
            { s with rows.leds := insertLed led led.id s.rows.leds }) s) := by
      refine exec_forM (fun led member s => ?_) s
      rw [exec_bind_ok (by rw [exec_ofExcept, ledKey_dumps dumps member])]
      rfl
    refine (returns_bind_ok (stored _)).trans ?_
    refine Iff.trans ?_ mainButtonImage_ok
    refine (returns_bind_ok (exec_modify _ _)).trans ((returns_bind_ok (exec_get _)).trans ?_)
    unfold Returns ledTable
    rw [exec_ofExcept, filled]
  · refine iff_of_false (fun returned => ?_) fun ok => dumps ok.1
    obtain ⟨done, reached, ran, -⟩ := returns_bind.mp returned
    exact dumps (ledKey_ok.mp (returns_forM.mp ⟨done, by rw [ran]⟩))

theorem createRows_returns (lists : b.state.Lists names) :
    Returns (createRows c) b ↔ Presentable c names := by
  obtain ⟨sensors, fans, leds⟩ := State.getDisplay_of_lists (c := c) lists
  have sensorsBuilt : ∀ t : Boot L J, Returns (createSensorRows (sensorRows c names)) t ↔
      ∀ row ∈ sensorRows c names, row.2.BoolOr "controllable" ∧ row.2.TextOr "display_name" := by
    intro t
    refine (returns_bind_ok (exec_modify _ t)).trans (returns_forM.trans ?_)
    exact forall₂_congr fun _ _ => sensorRow_ok
  have fansBuilt : ∀ t : Boot L J, Returns (createFans (fanRows c names)) t ↔
      ∀ row ∈ fanRows c names, row.2.dumps = true ∧ row.2.TextOr "display_name" := by
    intro t
    refine (returns_bind_ok (exec_modify _ t)).trans (returns_forM.trans ?_)
    constructor
    · intro rows row member
      exact (fanRow_ok.mp (rows row member)).2
    · intro rows row member
      exact fanRow_ok.mpr ⟨fun fan other => (rows fan other).1, rows row member⟩
  have rest : ∀ (done : PUnit) (t : Boot L J), Returns (do
      let fans ← Exec.ofExcept (b.state.getDisplayFans c)
      createFans fans
      let leds ← Exec.ofExcept (b.state.getDisplayLeds c)
      createLeds leds : Callback L J PUnit) t ↔
      (∀ row ∈ fanRows c names, row.2.dumps = true ∧ row.2.TextOr "display_name") ∧
        (∀ led ∈ ledRows c names, led.dumps = true) ∧ Pictured (ledRows c names) := by
    intro _ t
    rw [returns_bind_ok (by rw [exec_ofExcept, fans]), ← fansBuilt t]
    refine returns_seq fun _ t => ?_
    rw [returns_bind_ok (by rw [exec_ofExcept, leds])]
    exact createLeds_returns (ledRows c names) t
  unfold createRows
  rw [returns_bind_ok (exec_get b), returns_bind_ok (by rw [exec_ofExcept, sensors]),
    returns_seq rest, sensorsBuilt]
  constructor
  · rintro ⟨sensors, fans, leds, button⟩
    exact ⟨sensors, fans, leds, button⟩
  · rintro ⟨sensors, fans, leds, button⟩
    exact ⟨sensors, fans, leds, button⟩

theorem createRows_mistyped {objects : J} {thrown : JsonExn}
    (found : JsonLib.lookup (b.state.data "printer_objs") ["objects"] = .ok objects)
    (present : JsonLib.isNull objects = false)
    (read : (JsonLib.elements objects).mapM JsonLib.getString = .error thrown) :
    ¬ Returns (createRows c) b := by
  have listing : b.state.getDisplaySensors c = .error thrown := by
    simp [State.getDisplaySensors, State.getExtruders,
      State.listed_of_mistyped found present read, bind, Except.bind]
  unfold createRows
  rw [returns_bind_ok (exec_get b), returns_bind, listing]
  rintro ⟨value, reached, no, _⟩
  cases no

variable (c origin epoch d objs b) in
/-- The callback returns, and the last of its requests subscribes to exactly the
strings of the list that name no macro. -/
def Subscribes : Prop :=
  Returns (objectsListed c origin epoch d) b ∧ ∃ objects : List String,
    (final (objectsListed c origin epoch d) b).pending = b.pending ++
      [.roots, .printerInfo, .serverInfo, .subscribe (some objects) epoch].map
        (fun request => { origin with request := request }) ∧
    ∀ name, name ∈ objects ↔
      (∃ obj ∈ JsonLib.elements objs, JsonLib.getString obj = .ok name) ∧
        hasPrefix "gcode_macro " name = false

/-- The names on the list. -/
def objectNames (objs : J) : List String :=
  (JsonLib.elements objs).filterMap fun obj => (JsonLib.getString obj).toOption

variable [LawfulDoc J]

theorem mem_subObjects {name : String} :
    name ∈ subObjects objs ↔
      (∃ obj ∈ JsonLib.elements objs, JsonLib.getString obj = .ok name) ∧
        hasPrefix "gcode_macro " name = false := by
  have named : ∀ obj : J, subName obj = some name ↔
      JsonLib.getString obj = .ok name ∧ hasPrefix "gcode_macro " name = false := by
    intro obj
    unfold subName
    cases read : JsonLib.getString obj with
    | error thrown => simp [Except.toOption]
    | ok text =>
      have isText : JsonLib.isString obj = true := (LawfulDoc.isString_iff obj).mpr ⟨text, read⟩
      simp only [isText, if_true, Except.toOption, Option.filter_eq_some_iff, Option.some.injEq,
        Bool.not_eq_true', Except.ok.injEq]
  simp only [subObjects, List.mem_dedup, List.mem_filterMap, named]
  constructor
  · rintro ⟨obj, member, read, kept⟩
    exact ⟨⟨obj, member, read⟩, kept⟩
  · rintro ⟨⟨obj, member, read⟩, kept⟩
    exact ⟨obj, member, read, kept⟩

theorem stored_list (found : JsonLib.lookup d ["result", "objects"] = .ok objs)
    (array : JsonLib.isArray objs = true) :
    ∃ state : State J,
      exec (onState (State.setData "printer_objs" d ["result"])) b =
        (.ok ⟨⟩, { b with state := state }) ∧
      JsonLib.lookup (state.data "printer_objs") ["objects"] = .ok objs := by
  have walked := LawfulDoc.lookup_append d ["result"] ["objects"]
  rw [show ["result"] ++ ["objects"] = ["result", "objects"] from rfl, found] at walked
  cases outer : JsonLib.lookup d ["result"] with
  | error thrown =>
    rw [outer] at walked
    cases walked
  | ok result =>
    rw [outer] at walked
    have inner : JsonLib.lookup result ["objects"] = .ok objs := walked.symm
    have present : JsonLib.isNull result = false := by
      cases null : JsonLib.isNull result with
      | false => rfl
      | true =>
        have same : objs = result :=
          Except.ok.inj (inner.symm.trans (LawfulDoc.lookup_null result _ null))
        have filled := LawfulDoc.isNull_of_isArray objs array
        rw [same, null] at filled
        cases filled
    refine ⟨⟨Function.update b.state.data "printer_objs"
      (JsonDoc.mergePatch (b.state.data "printer_objs") result)⟩, ?_, ?_⟩
    · rw [onState, exec_zoom, State.setData, exec_bind, exec_ofExcept, outer]
      simp [present]
    · simp only [Function.update_self]
      exact LawfulDoc.lookup_mergePatch_array _ _ _ _ inner array

omit [LawfulDoc J] in
theorem subscribeObjects_run (found : JsonLib.lookup d ["result", "objects"] = .ok objs)
    (present : JsonLib.isNull objs = false) :
    exec (subscribeObjects origin epoch d) b =
      (.ok ⟨⟩, ask origin (.subscribe (subObjs objs) epoch)
        (setStage origin 78 "Subscribing to printer..." b)) := by
  rw [subscribeObjects, exec_bind, exec_ofExcept, found]
  simp [present, exec_bind]

variable (b origin) in
/-- The state the rows are built in: the list stored, three requests sent. -/
private def listStored (state : State J) : Boot L J :=
  ask origin .serverInfo (ask origin .printerInfo (ask origin .roots
    (setStage origin 55 "Loading printer state..." { b with state := state })))

omit [JsonDoc J] [LawfulDoc J] in
private theorem listStored_pending {state : State J} :
    (listStored b origin state).pending = b.pending ++
      [.roots, .printerInfo, .serverInfo].map fun request => { origin with request := request } := by
  simp [listStored, ask, setStage, bootSetProgress]

omit [LawfulDoc J] in
private theorem objectsListed_run {state : State J}
    (stored : exec (onState (State.setData "printer_objs" d ["result"])) b =
      (.ok ⟨⟩, { b with state := state })) :
    exec (objectsListed c origin epoch d) b =
      exec (createRows c >>= fun _ => subscribeObjects origin epoch d)
        (listStored b origin state) := by
  rw [objectsListed, exec_bind_ok stored]
  rfl

omit [JsonDoc J] [LawfulDoc J] in
private theorem Rebuilt.pending {start built : Boot L J} (kept : Rebuilt start built) :
    built.pending = start.pending := by
  obtain ⟨rows, sensors, rfl⟩ := kept
  rfl

omit [LawfulDoc J] in
private theorem sends_of_rows {state : State J}
    (found : JsonLib.lookup d ["result", "objects"] = .ok objs)
    (present : JsonLib.isNull objs = false)
    (ran : exec (objectsListed c origin epoch d) b =
      exec (createRows c >>= fun _ => subscribeObjects origin epoch d) (listStored b origin state))
    (built : Returns (createRows c) (listStored b origin state)) :
    Returns (objectsListed c origin epoch d) b ∧
      (final (objectsListed c origin epoch d) b).pending = b.pending ++
        [.roots, .printerInfo, .serverInfo, .subscribe (subObjs objs) epoch].map
          (fun request => { origin with request := request }) := by
  obtain ⟨done, returned⟩ := built
  have kept : Rebuilt (listStored b origin state) (final (createRows c) (listStored b origin state)) :=
    (createRows_rebuilds c).final ⟨_, _, rfl⟩
  have rows : exec (createRows c) (listStored b origin state) =
      (.ok done, final (createRows c) (listStored b origin state)) := Prod.ext returned rfl
  rw [exec_bind_ok rows, subscribeObjects_run found present] at ran
  have sent : (final (objectsListed c origin epoch d) b).pending =
      (final (createRows c) (listStored b origin state)).pending ++
        [{ origin with request := .subscribe (subObjs objs) epoch }] := by
    rw [final, ran]
    rfl
  refine ⟨⟨⟨⟩, by rw [ran]⟩, ?_⟩
  rw [sent, kept.pending, listStored_pending, List.append_assoc]
  rfl

theorem sends_of_presentable (c : Config) (b : Boot L J) (origin : Pending) (epoch : UInt32)
    (found : JsonLib.lookup d ["result", "objects"] = .ok objs)
    (array : JsonLib.isArray objs = true)
    (strings : ∀ obj ∈ JsonLib.elements objs, JsonLib.isString obj = true)
    (rows : Presentable c (objectNames objs)) :
    Returns (objectsListed c origin epoch d) b ∧
      (final (objectsListed c origin epoch d) b).pending = b.pending ++
        [.roots, .printerInfo, .serverInfo, .subscribe (subObjs objs) epoch].map
          (fun request => { origin with request := request }) := by
  have present : JsonLib.isNull objs = false := LawfulDoc.isNull_of_isArray objs array
  obtain ⟨state, stored, listed⟩ := stored_list (b := b) found array
  have lists : (listStored b origin state).state.Lists (objectNames objs) := by
    refine ⟨objs, listed, present, mapM_ok fun obj member => ?_⟩
    exact (LawfulDoc.isString_iff obj).mp (strings obj member)
  have built := (createRows_returns (c := c) lists).mpr rows
  exact sends_of_rows found present (objectsListed_run stored) built

theorem subObjs_some :
    (∃ objects, subObjs objs = some objects) ↔
      ∃ name ∈ objectNames objs, hasPrefix "gcode_macro " name = false := by
  have listed : (∃ name, name ∈ subObjects objs) ↔
      ∃ name ∈ objectNames objs, hasPrefix "gcode_macro " name = false := by
    refine exists_congr fun name => mem_subObjects.trans (and_congr_left fun _ => ?_)
    rw [objectNames, List.mem_filterMap]
    refine exists_congr fun obj => and_congr_right fun _ => ?_
    cases JsonLib.getString obj <;> simp [Except.toOption]
  rw [← listed, subObjs]
  cases subObjects objs with
  | nil => simp
  | cons name rest => simp

/-- With the configuration of a file that loads, an objects list leads to its
subscription exactly when all its entries are strings, one of them names no macro and the rows
configured for them are presentable; no entry is mistyped in its id. -/
theorem subscribes_iff_presentable {file : Bytes} (loaded : Config.load file = some c)
    (found : JsonLib.lookup d ["result", "objects"] = .ok objs)
    (array : JsonLib.isArray objs = true) :
    c.Named ∧ (Subscribes c b origin epoch d objs ↔
      (∀ obj ∈ JsonLib.elements objs, JsonLib.isString obj = true) ∧
        (∃ name ∈ objectNames objs, hasPrefix "gcode_macro " name = false) ∧
        Presentable c (objectNames objs)) := by
  refine ⟨Config.load_named loaded, ?_⟩
  have present : JsonLib.isNull objs = false := LawfulDoc.isNull_of_isArray objs array
  obtain ⟨state, stored, listed⟩ := stored_list (b := b) found array
  have ran : exec (objectsListed c origin epoch d) b = _ := objectsListed_run stored
  -- the callback returns only if the rows do
  have rows : Returns (objectsListed c origin epoch d) b →
      Returns (createRows c) (listStored b origin state) := by
    rintro ⟨done, returned⟩
    rw [ran] at returned
    obtain ⟨value, reached, built, _⟩ := returns_bind.mp ⟨done, returned⟩
    exact ⟨value, by rw [built]⟩
  by_cases strings : ∀ obj ∈ JsonLib.elements objs, JsonLib.isString obj = true
  · have lists : (listStored b origin state).state.Lists (objectNames objs) := by
      refine ⟨objs, listed, present, mapM_ok fun obj member => ?_⟩
      exact (LawfulDoc.isString_iff obj).mp (strings obj member)
    have built := createRows_returns (c := c) lists
    constructor
    · rintro ⟨returned, objects, sent, -⟩
      have own := rows returned
      have last := (sends_of_rows found present ran own).2.symm.trans sent
      have asked : subObjs objs = some objects := by
        simpa using List.append_cancel_left last
      exact ⟨strings, subObjs_some.mp ⟨objects, asked⟩, built.mp own⟩
    · rintro ⟨-, named, presentable⟩
      obtain ⟨returned, sent⟩ := sends_of_rows found present ran (built.mpr presentable)
      obtain ⟨objects, asked⟩ := subObjs_some.mpr named
      have own : subObjects objs = objects := by
        rw [subObjs] at asked
        split at asked
        · cases asked
        · exact Option.some.inj asked
      rw [asked] at sent
      exact ⟨returned, objects, sent, fun name => own ▸ mem_subObjects⟩
  · refine iff_of_false (fun subscribes => ?_) fun ok => strings ok.1
    cases read : (JsonLib.elements objs).mapM JsonLib.getString with
    | error thrown => exact createRows_mistyped listed present read (rows subscribes.1)
    | ok names =>
      refine strings fun obj member => (LawfulDoc.isString_iff obj).mpr ?_
      exact mapM_ok_each read obj member

end Boot

section Witness

private def stockFile : Bytes := bytes "[fan \"fan\"]\ndisplay_name: Toolhead\n"

private def numberedFile : Bytes := bytes "[monitored_sensor \"extruder\"]\ndisplay_name: 5\n"

private def tildeFile : Bytes := bytes "[led \"led a~b\"]\npwm: false\n"

private def listOf (names : List Json) : Json := .obj [("result", .obj [("objects", .arr names)])]

private def firstConnect : Pending := ⟨.objectsList 0, 0, 0⟩

private def settingsOf (file : Bytes) : Config := (Config.load file).getD fun _ => none

private theorem settingsOf_loaded {file : Bytes} (loads : (Config.load file).isSome = true) :
    Config.load file = some (settingsOf file) := by
  obtain ⟨c, loaded⟩ := Option.isSome_iff_exists.mp loads
  rw [settingsOf, loaded]
  rfl

private theorem not_subscribes {c : Config} {d objs : Json}
    (thrown : (exec (Boot.objectsListed c firstConnect 0 d)
      (Boot.initial : Boot ZStack Json)).1.isOk = false) :
    ¬ Boot.Subscribes c (Boot.initial : Boot ZStack Json) firstConnect 0 d objs := by
  rintro ⟨⟨value, returned⟩, _⟩
  rw [returned] at thrown
  cases thrown

theorem subscribes_iff_presentable_stock :
    Config.load stockFile = some (settingsOf stockFile) ∧
      (Config.Named (settingsOf stockFile) ∧
        (Boot.Subscribes (settingsOf stockFile) (Boot.initial : Boot ZStack Json) firstConnect 0
            (listOf [.str "fan", .str "gcode_macro PARK"])
            (.arr [.str "fan", .str "gcode_macro PARK"]) ↔
          (∀ obj ∈ JsonLib.elements (Json.arr [.str "fan", .str "gcode_macro PARK"]),
            JsonLib.isString obj = true) ∧
          (∃ name ∈ Boot.objectNames (Json.arr [.str "fan", .str "gcode_macro PARK"]),
            hasPrefix "gcode_macro " name = false) ∧
          Presentable (settingsOf stockFile)
            (Boot.objectNames (Json.arr [.str "fan", .str "gcode_macro PARK"])))) := by
  have loaded : Config.load stockFile = some (settingsOf stockFile) :=
    settingsOf_loaded (by decide +kernel)
  exact ⟨loaded, Boot.subscribes_iff_presentable loaded rfl rfl⟩

/-- A number in the objects list, or as the display name of a configured sensor, and the name
of the only led, where it makes no pointer, stop the callback before it subscribes. -/
theorem mistyped_stops_subscription :
    (Config.load [] = some (settingsOf []) ∧
      ¬ Boot.Subscribes (settingsOf []) (Boot.initial : Boot ZStack Json) firstConnect 0
        (listOf [.str "extruder", .int 5]) (.arr [.str "extruder", .int 5])) ∧
    (Config.load numberedFile = some (settingsOf numberedFile) ∧
      ¬ Boot.Subscribes (settingsOf numberedFile) (Boot.initial : Boot ZStack Json) firstConnect 0
        (listOf [.str "extruder"]) (.arr [.str "extruder"])) ∧
    (Config.load tildeFile = some (settingsOf tildeFile) ∧
      ¬ Boot.Subscribes (settingsOf tildeFile) (Boot.initial : Boot ZStack Json) firstConnect 0
        (listOf [.str "led a~b"]) (.arr [.str "led a~b"])) := by
  refine ⟨?_, ?_, ?_⟩
  · exact ⟨settingsOf_loaded rfl, not_subscribes (by decide +kernel)⟩
  · exact ⟨settingsOf_loaded (by decide +kernel), not_subscribes (by decide +kernel)⟩
  · exact ⟨settingsOf_loaded (by decide +kernel), not_subscribes (by decide +kernel)⟩

end Witness

end GrumpyScreen
