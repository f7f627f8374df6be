import GrumpyScreen.Lib.Run
import GrumpyScreen.State

/-! The replica of the printer's documents as the one document it is stored as,
with the insertions its accessors make, and the reads that make none. -/

namespace GrumpyScreen.Document

open Lib

/-- `json::clear`: a value keeps its type and loses its content. -/
def clear : Json → Json
  | .null => .null
  | .bool _ => .bool false
  | .int _ => .int 0
  | .num _ => .num 0
  | .str _ => .str ""
  | .arr _ => .arr []
  | .obj _ => .obj []

def reset : Exec JsonExn Json PUnit := modify clear

/-- `data[key].merge_patch(patch)`. -/
def mergeInto (key : String) (patch : Json) : Json → Except JsonExn Json
  | .null => .ok (.obj [(key, Json.mergePatch .null patch)])
  | .obj members =>
    let held := (members.lookup key).getD .null
    .ok (.obj (Json.setMember key (Json.mergePatch held patch) members))
  | _ => .error .typeError

def setData (key : String) (j : Json) (path : List String) : Exec JsonExn Json PUnit := do
  let patch ← Exec.ofExcept (Json.lookup j path)
  if JsonLib.isNull patch then pure ⟨⟩
  else
    let data ← get
    let merged ← Exec.ofExcept (mergeInto key patch data)
    set merged

/-- `State::consume`: a notification that carries parameters. -/
def consume (j : Json) : Exec JsonExn Json PUnit :=
  match Json.find j "params" with
  | some params =>
    if (Json.elements params).isEmpty then pure ⟨⟩ else setData "printer_state" j params0
  | none => pure ⟨⟩

/-- `State::get_data` of a pointer: the shared null stands for an absent node. -/
def getData (ptr : List String) : Exec JsonExn Json Json := do
  let data ← get
  pure ((Json.resolve ptr data).getD .null)

def objectsPath : List String := ["printer_objs", "objects"]

/-- The printer's objects of one kind, read through `operator[]`. -/
def listed (kind : String → Bool) : Exec JsonExn Json (List String) := do
  let objects ← (Json.touch objectsPath : Exec JsonExn Json Json)
  if JsonLib.isNull objects then pure []
  else
    let names ← Exec.ofExcept ((Json.elements objects).mapM Json.getString)
    pure (names.filter kind)

def getExtruders : Exec JsonExn Json (List String) := listed State.isExtruder

def getHeaters : Exec JsonExn Json (List String) := listed State.isHeater

def getSensors : Exec JsonExn Json (List String) := listed State.isSensor

def getFans : Exec JsonExn Json (List String) := listed State.isFan

def getLeds : Exec JsonExn Json (List String) := listed State.isLed

def getOutputPins : Exec JsonExn Json (List String) := listed State.isOutputPin

def getDisplaySensors (c : Config) : Exec JsonExn Json (List (String × Settings)) := do
  let extruders ← getExtruders
  let heaters ← getHeaters
  let sensors ← getSensors
  pure (display (c.getObjects (bytes "monitored_sensor")) (extruders ++ heaters ++ sensors))

def getDisplayFans (c : Config) : Exec JsonExn Json (List (String × Settings)) := do
  let fans ← getFans
  let outputPins ← getOutputPins
  pure (display (c.getObjects (bytes "fan")) (fans ++ outputPins))

def getDisplayLeds (c : Config) : Exec JsonExn Json (List Settings) := do
  let leds ← getLeds
  let outputPins ← getOutputPins
  pure (displayLeds (c.getObjects (bytes "led")) (leds ++ outputPins))

inductive Accessor where
  | getData (ptr : List String)
  | getExtruders
  | getHeaters
  | getSensors
  | getFans
  | getLeds
  | getOutputPins
  | getDisplaySensors (c : Config)
  | getDisplayFans (c : Config)
  | getDisplayLeds (c : Config)

/-- What the store holds once an accessor has returned or thrown. -/
def Accessor.after : Accessor → Json → Json
  | .getData ptr => Exec.final (Document.getData ptr)
  | .getExtruders => Exec.final Document.getExtruders
  | .getHeaters => Exec.final Document.getHeaters
  | .getSensors => Exec.final Document.getSensors
  | .getFans => Exec.final Document.getFans
  | .getLeds => Exec.final Document.getLeds
  | .getOutputPins => Exec.final Document.getOutputPins
  | .getDisplaySensors c => Exec.final (Document.getDisplaySensors c)
  | .getDisplayFans c => Exec.final (Document.getDisplayFans c)
  | .getDisplayLeds c => Exec.final (Document.getDisplayLeds c)

/-- What can be done to the store, in any order. -/
inductive Op where
  | reset
  | setData (key : String) (j : Json) (path : List String)
  | consume (j : Json)
  | read (accessor : Accessor)

def step (data : Json) : Op → Json
  | .reset => Exec.final reset data
  | .setData key j path => Exec.final (setData key j path) data
  | .consume j => Exec.final (consume j) data
  | .read accessor => accessor.after data

section Reads

theorem getData_final (ptr : List String) (data : Json) :
    Exec.final (getData ptr) data = data := rfl

/-- What a listing reads off the node it finds. -/
def namesOf (kind : String → Bool) (objects : Json) : Except JsonExn (List String) :=
  if JsonLib.isNull objects then pure []
  else do
    let names ← (Json.elements objects).mapM Json.getString
    pure (names.filter kind)

theorem listed_exec (kind : String → Bool) (data : Json) :
    Exec.exec (listed kind) data =
      ((Json.touch objectsPath data).1 >>= namesOf kind, (Json.touch objectsPath data).2) := by
  have walked : Exec.exec (Json.touch objectsPath : Exec JsonExn Json Json) data =
      Json.touch objectsPath data := rfl
  unfold listed namesOf
  rw [Exec.exec_bind, walked]
  rcases Json.touch objectsPath data with ⟨found, reached⟩
  cases found with
  | error thrown => rfl
  | ok objects =>
    show Exec.exec (if JsonLib.isNull objects then _ else _) reached =
      (if JsonLib.isNull objects then _ else _, reached)
    cases JsonLib.isNull objects with
    | true => rfl
    | false =>
      simp only [if_neg Bool.false_ne_true]
      rw [Exec.exec_bind, Exec.exec_ofExcept]
      cases (Json.elements objects).mapM Json.getString <;> rfl

theorem listed_final (kind : String → Bool) (data : Json) :
    Exec.final (listed kind) data = (Json.touch objectsPath data).2 :=
  congrArg Prod.snd (listed_exec kind data)

theorem listed_bind_final (kind : String → Bool) {rest : List String → Exec JsonExn Json α}
    (quiet : ∀ names data, Json.settled objectsPath data = true →
      Exec.final (rest names) data = data) (data : Json) :
    Exec.final (listed kind >>= rest) data = (Json.touch objectsPath data).2 := by
  have first := listed_final kind data
  unfold Exec.final at first ⊢
  rw [Exec.exec_bind]
  rcases outcome : Exec.exec (listed kind) data with ⟨result, reached⟩
  rw [outcome] at first
  cases result with
  | error thrown => exact first
  | ok names =>
    have settled : Json.settled objectsPath reached = true := by
      rw [show reached = _ from first]
      exact Json.settled_touch objectsPath data
    exact (quiet names reached settled).trans first

theorem listed_quiet (kind : String → Bool) {rest : List String → Exec JsonExn Json α}
    (quiet : ∀ names data, Json.settled objectsPath data = true →
      Exec.final (rest names) data = data) (data : Json)
    (settled : Json.settled objectsPath data = true) :
    Exec.final (listed kind >>= rest) data = data := by
  rw [listed_bind_final kind quiet]
  exact (Json.touch_eq_iff objectsPath data).mpr settled

theorem getDisplaySensors_final (c : Config) (data : Json) :
    Exec.final (getDisplaySensors c) data = (Json.touch objectsPath data).2 := by
  apply listed_bind_final
  intro extruders
  apply listed_quiet
  intro heaters
  apply listed_quiet
  intro sensors data settled
  rfl

theorem getDisplayFans_final (c : Config) (data : Json) :
    Exec.final (getDisplayFans c) data = (Json.touch objectsPath data).2 := by
  apply listed_bind_final
  intro fans
  apply listed_quiet
  intro outputPins data settled
  rfl

theorem getDisplayLeds_final (c : Config) (data : Json) :
    Exec.final (getDisplayLeds c) data = (Json.touch objectsPath data).2 := by
  apply listed_bind_final
  intro leds
  apply listed_quiet
  intro outputPins data settled
  rfl

end Reads

section Replica

/-- What the store holds of each key, a key never stored being null. -/
def replica (data : Json) : State Json := ⟨fun key => (data.members.lookup key).getD .null⟩

/-- The store is made from nothing by its own operations: null or an object. -/
def Stored (data : Json) : Prop := data = .null ∨ ∃ members, data = .obj members

theorem lookup_key (key : String) (path : List String) {data : Json} (stored : Stored data) :
    Json.lookup data (key :: path) = Json.lookup ((replica data).data key) path := by
  rcases stored with rfl | ⟨members, rfl⟩
  · rfl
  · rfl

theorem listed_replica (kind : String → Bool) {data : Json} (stored : Stored data) :
    (Exec.exec (listed kind) data).1 = (replica data).listed kind := by
  rw [listed_exec, Json.touch_found, objectsPath, lookup_key "printer_objs" ["objects"] stored]
  rfl

theorem reset_replica {data : Json} (stored : Stored data) :
    replica (Exec.final reset data) = State.reset := by
  rcases stored with rfl | ⟨members, rfl⟩
  · rfl
  · rfl

theorem mergeInto_stored (key : String) (patch : Json) {data : Json} (stored : Stored data) :
    ∃ members, mergeInto key patch data = .ok (.obj members) ∧
      ∀ other, members.lookup other =
        if other = key then some (Json.mergePatch ((replica data).data key) patch)
        else data.members.lookup other := by
  rcases stored with rfl | ⟨members, rfl⟩
  · exact ⟨_, rfl, fun other => Json.lookup_member key other _ []⟩
  · exact ⟨_, rfl, fun other => Json.lookup_setMember key other _ members⟩

/-- What a message leaves in the store: what its key held with the node merged in,
where there is a node. -/
theorem setData_final (key : String) (j : Json) (path : List String) (data : Json) :
    Exec.final (setData key j path) data =
      match Json.lookup j path with
      | .error _ => data
      | .ok patch =>
        if JsonLib.isNull patch then data
        else
          match mergeInto key patch data with
          | .ok merged => merged
          | .error _ => data := by
  unfold setData
  rw [Exec.final_ofExcept_bind]
  cases Json.lookup j path with
  | error thrown => rfl
  | ok patch =>
    simp only [Exec.final_skip, Exec.final_get_bind, Exec.final_ofExcept_bind]
    cases mergeInto key patch data <;> rfl

theorem setData_cases (key : String) (j : Json) (path : List String) {data : Json}
    (stored : Stored data) :
    Exec.final (setData key j path) data = data ∨
      ∃ patch members, mergeInto key patch data = .ok (.obj members) ∧
        Exec.final (setData key j path) data = .obj members := by
  rw [setData_final]
  cases Json.lookup j path with
  | error thrown => exact Or.inl rfl
  | ok patch =>
    obtain ⟨members, merged, -⟩ := mergeInto_stored key patch stored
    cases null : JsonLib.isNull patch with
    | true => exact Or.inl (by simp [null])
    | false => exact Or.inr ⟨patch, members, merged, by simp [null, merged]⟩

theorem setData_replica (key : String) (j : Json) (path : List String) {data : Json}
    (stored : Stored data) :
    replica (Exec.final (setData key j path) data) =
      Exec.final (State.setData key j path) (replica data) := by
  have read : JsonLib.lookup j path = Json.lookup j path := rfl
  rw [setData_final]
  unfold State.setData
  rw [Exec.final_ofExcept_bind, read]
  cases Json.lookup j path with
  | error thrown => rfl
  | ok patch =>
    simp only [Exec.final_skip]
    cases JsonLib.isNull patch with
    | true => rfl
    | false =>
      obtain ⟨members, merged, held⟩ := mergeInto_stored key patch stored
      simp only [merged, if_neg Bool.false_ne_true]
      show State.mk _ = State.mk (Function.update (replica data).data key _)
      apply congrArg State.mk
      funext other
      show (members.lookup other).getD .null = _
      rw [held other, Function.update_apply]
      by_cases same : other = key
      · rw [if_pos same, if_pos same]
        rfl
      · rw [if_neg same, if_neg same]
        rfl

end Replica

section Runs

/-- The printer's objects are in the store, or what is there in their place makes
the walk to them throw: the entry is there, is not null and, where it is an
object, names them. -/
def objectsHeld (data : Json) : Bool :=
  match data.members.lookup "printer_objs" with
  | none | some .null => false
  | some (.obj entry) => (entry.lookup "objects").isSome
  | some _ => true

theorem objects_token : Json.arrayIndex "objects" = none := by decide

theorem settled_objects {data : Json} (stored : Stored data) :
    Json.settled objectsPath data = objectsHeld data := by
  rcases stored with rfl | ⟨members, rfl⟩
  · rfl
  · unfold objectsHeld
    simp only [objectsPath, Json.settled, Json.members]
    cases members.lookup "printer_objs" with
    | none => rfl
    | some entry =>
      cases entry with
      | obj inner => cases held : inner.lookup "objects" <;> simp [Json.settled, held]
      | arr items => simp [Json.settled, objects_token]
      | _ => rfl

theorem stored_touch {data : Json} (stored : Stored data) :
    Stored (Json.touch objectsPath data).2 := by
  rcases stored with rfl | ⟨members, rfl⟩
  · exact Or.inr ⟨_, rfl⟩
  · exact Or.inr ⟨_, rfl⟩

/-- Every accessor but the pointer read walks to the objects, and no further. -/
theorem after_eq (accessor : Accessor) (data : Json) :
    accessor.after data =
      match accessor with
      | .getData _ => data
      | _ => (Json.touch objectsPath data).2 := by
  cases accessor with
  | getData ptr => exact getData_final ptr data
  | getExtruders => exact listed_final _ data
  | getHeaters => exact listed_final _ data
  | getSensors => exact listed_final _ data
  | getFans => exact listed_final _ data
  | getLeds => exact listed_final _ data
  | getOutputPins => exact listed_final _ data
  | getDisplaySensors c => exact getDisplaySensors_final c data
  | getDisplayFans c => exact getDisplayFans_final c data
  | getDisplayLeds c => exact getDisplayLeds_final c data

theorem stored_setData (key : String) (j : Json) (path : List String) {data : Json}
    (stored : Stored data) : Stored (Exec.final (setData key j path) data) := by
  rcases setData_cases key j path stored with same | ⟨patch, members, -, left⟩
  · exact same.symm ▸ stored
  · exact Or.inr ⟨members, left⟩

theorem consume_final (j data : Json) :
    step data (.consume j) = data ∨
      step data (.consume j) = Exec.final (setData "printer_state" j params0) data := by
  show Exec.final (consume j) data = data ∨ Exec.final (consume j) data = _
  unfold consume
  cases Json.find j "params" with
  | none => exact Or.inl rfl
  | some params =>
    cases empty : (Json.elements params).isEmpty with
    | true => exact Or.inl (by simp [empty, Exec.final])
    | false => exact Or.inr (by simp [empty])

theorem stored_step (data : Json) (op : Op) (stored : Stored data) : Stored (step data op) := by
  cases op with
  | reset =>
    rcases stored with rfl | ⟨members, rfl⟩
    · exact Or.inl rfl
    · exact Or.inr ⟨[], rfl⟩
  | setData key j path => exact stored_setData key j path stored
  | consume j =>
    rcases consume_final j data with same | merged
    · exact Eq.symm same ▸ stored
    · exact Eq.symm merged ▸ stored_setData _ j _ stored
  | read accessor =>
    show Stored (accessor.after data)
    rw [after_eq]
    cases accessor with
    | getData ptr => exact stored
    | _ => exact stored_touch stored

/-- What an accessor needs to find for reading without writing. -/
def readsOnly (data : Json) : Op → Bool
  | .read (.getData _) => true
  | .read _ => objectsHeld data
  | _ => true

theorem after_eq_iff (accessor : Accessor) {data : Json} (stored : Stored data) :
    accessor.after data = data ↔ readsOnly data (.read accessor) = true := by
  rw [after_eq]
  cases accessor with
  | getData ptr => exact iff_of_true rfl rfl
  | _ => exact (Json.touch_eq_iff objectsPath data).trans (by rw [settled_objects stored]; rfl)

theorem objectsHeld_congr {data other : Json}
    (same : data.members.lookup "printer_objs" = other.members.lookup "printer_objs") :
    objectsHeld data = objectsHeld other := by
  unfold objectsHeld
  rw [same]

theorem objectsHeld_of_reply {entry : List (String × Json)} {j objects data : Json}
    (reply : Json.lookup j ["result"] = .ok (.obj entry))
    (named : entry.lookup "objects" = some objects) (present : JsonLib.isNull objects = false)
    (stored : Stored data) :
    objectsHeld (step data (.setData "printer_objs" j ["result"])) = true := by
  obtain ⟨members, merged, held⟩ := mergeInto_stored "printer_objs" (.obj entry) stored
  have left : step data (.setData "printer_objs" j ["result"]) = .obj members := by
    show Exec.final (setData "printer_objs" j ["result"]) data = .obj members
    rw [setData_final, reply]
    simp [JsonLib.isNull, merged]
  have entered := held "printer_objs"
  rw [if_pos rfl] at entered
  have listed := Json.lookup_mergeMembers "objects"
    ((replica data).data "printer_objs").members entry
  rw [named] at listed
  rw [left]
  unfold objectsHeld
  simp only [show (Json.obj members).members = members from rfl, entered, Json.mergePatch]
  rw [listed]
  cases objects with
  | null => cases present
  | _ => rfl

/-- Only a reset and a message about the objects can take them out again. -/
theorem objectsHeld_step {data : Json} {op : Op} (stored : Stored data)
    (reset : op ≠ .reset) (other : ∀ j path, op ≠ .setData "printer_objs" j path)
    (held : objectsHeld data = true) : objectsHeld (step data op) = true := by
  have kept : ∀ key j path, key ≠ "printer_objs" →
      objectsHeld (Exec.final (setData key j path) data) = true := by
    intro key j path differs
    rcases setData_cases key j path stored with same | ⟨patch, members, merged, left⟩
    · exact same.symm ▸ held
    · obtain ⟨members', merged', found⟩ := mergeInto_stored key patch stored
      cases merged.symm.trans merged'
      have same : (Json.obj members).members.lookup "printer_objs" =
          data.members.lookup "printer_objs" := (found "printer_objs").trans (if_neg differs.symm)
      rw [left]
      exact (objectsHeld_congr same).trans held
  cases op with
  | reset => exact (reset rfl).elim
  | setData key j path =>
    exact kept key j path fun same => other j path (same ▸ rfl)
  | consume j =>
    rcases consume_final j data with same | merged
    · exact same.symm ▸ held
    · exact merged.symm ▸ kept "printer_state" j params0 (by decide)
  | read accessor =>
    show objectsHeld (accessor.after data) = true
    have same : accessor.after data = data := by
      apply (after_eq_iff accessor stored).mpr
      cases accessor <;> first | rfl | exact held
    rw [same]
    exact held

/-- From a reply that names the objects on, until the next reset or message about
them, every listing finds them. -/
theorem reads_after_reply {data : Json} (stored : Stored data) (held : objectsHeld data = true)
    {ops : List Op}
    (quiet : ∀ op ∈ ops, op ≠ .reset ∧ ∀ j path, op ≠ .setData "printer_objs" j path) :
    Along step (fun data op => readsOnly data op = true) data ops := by
  induction ops generalizing data with
  | nil => trivial
  | cons op rest ih =>
    have first := quiet op List.mem_cons_self
    have next := objectsHeld_step stored first.1 first.2 held
    refine ⟨?_, ih (stored_step data op stored) next fun later member => ?_⟩
    · cases op with
      | read accessor => cases accessor <;> first | rfl | exact held
      | _ => rfl
    · exact quiet later (List.mem_cons_of_mem op member)

/-- What an operation does to the replica, which no accessor is to change. -/
def replicaStep (s : State Json) : Op → State Json
  | .reset => State.reset
  | .setData key j path => Exec.final (State.setData key j path) s
  | .consume j => Exec.final (State.consume j) s
  | .read _ => s

theorem replica_step {data : Json} {op : Op} (stored : Stored data)
    (finds : readsOnly data op = true) : replica (step data op) = replicaStep (replica data) op := by
  cases op with
  | reset => exact reset_replica stored
  | setData key j path => exact setData_replica key j path stored
  | consume j =>
    show replica (Exec.final (consume j) data) = Exec.final (State.consume j) (replica data)
    have same : JsonLib.find j "params" = Json.find j "params" := rfl
    unfold consume State.consume
    rw [same]
    cases Json.find j "params" with
    | none => rfl
    | some params =>
      have items : JsonLib.elements params = Json.elements params := rfl
      simp only [items, Exec.final_skip]
      split
      · rfl
      · exact setData_replica "printer_state" j params0 stored
  | read accessor =>
    show replica (accessor.after data) = replica data
    rw [(after_eq_iff accessor stored).mpr finds]

theorem replica_run {data : Json} (stored : Stored data) {ops : List Op}
    (finds : Along step (fun data op => readsOnly data op = true) data ops) :
    replica (run step data ops) = run replicaStep (replica data) ops := by
  induction ops generalizing data with
  | nil => rfl
  | cons op rest ih =>
    have first := replica_step stored finds.1
    rw [run_cons, run_cons, ← first]
    exact ih (stored_step data op stored) finds.2

/-- In every run whose listings find the printer's objects the store holds under each key what
the replica holds, and lists what it lists; and from a reply that names the objects on, until
the next reset or message about them, the listings do. -/
theorem store_is_replica (ops : List Op)
    (finds : Along step (fun data op => readsOnly data op = true) .null ops) :
    let data := run step .null ops
    let s := run replicaStep State.reset ops
    replica data = s ∧ (∀ kind, (Exec.exec (listed kind) data).1 = s.listed kind) ∧
      ∀ j entry objects later, Json.lookup j ["result"] = .ok (.obj entry) →
        entry.lookup "objects" = some objects → JsonLib.isNull objects = false →
        (∀ op ∈ later, op ≠ .reset ∧ ∀ j path, op ≠ .setData "printer_objs" j path) →
          Along step (fun data op => readsOnly data op = true) .null
            (ops ++ .setData "printer_objs" j ["result"] :: later) := by
  intro data s
  have stored : Stored data := run_invariant stored_step (Or.inl rfl) ops
  have same : replica data = s := replica_run (Or.inl rfl) finds
  refine ⟨same, fun kind => ?_, ?_⟩
  · rw [listed_replica kind stored, same]
  · intro j entry objects later reply named present quiet
    have held := objectsHeld_of_reply reply named present stored
    refine (along_append _ _ _).mpr ⟨finds, rfl, ?_⟩
    exact reads_after_reply (stored_step _ _ stored) held quiet

/-- In the runs whose listings all find the printer's objects, and only in those,
every accessor leaves the store as it was. -/
theorem accessors_leave_store (ops : List Op) :
    (∀ before accessor, before ++ [.read accessor] <+: ops →
      accessor.after (run step .null before) = run step .null before) ↔
    Along step (fun data op => readsOnly data op = true) .null ops := by
  rw [along_iff_forall]
  have reached : ∀ before, Stored (run step .null before) := fun before =>
    run_invariant stored_step (Or.inl rfl) before
  constructor
  · intro kept before op isPrefix
    cases op with
    | read accessor =>
      exact (after_eq_iff accessor (reached before)).mp (kept before accessor isPrefix)
    | _ => rfl
  · intro each before accessor isPrefix
    exact (after_eq_iff accessor (reached before)).mpr (each before (.read accessor) isPrefix)

/-- The objects are listed, a status comes in and the fans are asked for. -/
def listedOps : List Op :=
  [.setData "printer_objs" (.obj [("result", .obj [("objects", .arr [.str "fan"])])]) ["result"],
    .consume (.obj [("params", .arr [.obj [("fan", .obj [("speed", .int 1)])], .int 0])]),
    .read .getFans]

theorem store_is_replica_fans :
    replica (run step .null listedOps) = run replicaStep State.reset listedOps :=
  (store_is_replica listedOps ⟨rfl, rfl, rfl, trivial⟩).1

/-- Asked for the extruders before any reply, the store is left with a null for
the objects it does not know. -/
theorem getExtruders_after_reset :
    ¬ ∀ (ops : List Op) (accessor : Accessor),
      accessor.after (run step .null ops) = run step .null ops := by
  intro kept
  have left : Accessor.getExtruders.after (run step .null [.reset]) =
      .obj [("printer_objs", .obj [("objects", .null)])] := rfl
  have grown := left.symm.trans (kept [.reset] .getExtruders)
  cases grown

end Runs

end GrumpyScreen.Document
