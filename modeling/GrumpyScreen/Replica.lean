import GrumpyScreen.Client
import GrumpyScreen.State

/-! One message for all consumers of status updates: the replica copies its part
out, the panels read through an `operator[]` that inserts what it misses. -/

namespace GrumpyScreen

open Lib

/-- A consumer of status updates: the replica or a panel. -/
inductive Consumer (C : Type) where
  | state
  | panel (p : C)
deriving DecidableEq, Repr

/-- What a call has in its hands: the replica, what the panels keep, and the
message all of them were given. -/
structure Shared (W J : Type) where
  state : State J
  world : W
  message : J

/-- The replica and the panels, and who is registered for updates. -/
structure Feed (P H C W J : Type) where
  client : Client P H (Consumer C)
  state : State J
  world : W

/-- The documents the replica keeps beside the printer's state. -/
inductive Kept where
  | printerObjs | roots | printerInfo | serverInfo
deriving DecidableEq, Repr

def Kept.key : Kept → String
  | .printerObjs => "printer_objs"
  | .roots => "roots"
  | .printerInfo => "printer_info"
  | .serverInfo => "server_info"

/-- What the replica and the panels are called for. -/
inductive FeedEvent (C W J : Type) where
  | reset
  | subscribed (data : J)
  | stored (kept : Kept) (j : J)
  | notify (j : J)
  | register (p : C)
  | unregister (p : C)
  | elsewhere (act : W → W)

namespace Feed

variable {P H C W J : Type} [JsonDoc J]

section Calls

-- what the panels do with a message they share, and the main panel's `init`
variable (panels : C → Exec JsonExn (W × J) PUnit) (init : Exec JsonExn (W × J) PUnit)

def onState (m : J → Exec JsonExn (State J) PUnit) : Exec JsonExn (Shared W J) PUnit := do
  let t ← get
  Exec.zoom Shared.state (fun s t => { t with state := s }) (m t.message)

def onPanels (m : Exec JsonExn (W × J) PUnit) : Exec JsonExn (Shared W J) PUnit :=
  Exec.zoom (fun t => (t.world, t.message)) (fun w t => { t with world := w.1, message := w.2 }) m

/-- `consume`, of any registered consumer. -/
def handTo : Consumer C → Exec JsonExn (Shared W J) PUnit
  | .state => onState State.consume
  | .panel p => onPanels (panels p)

/-- `notify_status_update`: the consumers in the order of their registration,
until one throws. -/
def handOut (consumers : List (Consumer C)) : Exec JsonExn (Shared W J) PUnit :=
  consumers.forM (handTo panels)

/-- The reply to the subscription, of this connection or of an earlier one. -/
def takeStatus : Exec JsonExn (Shared W J) PUnit := do
  onState fun data => State.setData "printer_state" data resultStatus
  onPanels init

/-- A call for a message, and what is left of the replica and the panels. -/
def call (m : Exec JsonExn (Shared W J) PUnit) (j : J) (f : Feed P H C W J) : Feed P H C W J :=
  let t := Exec.final m ⟨f.state, f.world, j⟩
  { f with state := t.state, world := t.world }

variable [DecidableEq C]

def step (f : Feed P H C W J) : FeedEvent C W J → Feed P H C W J
  | .reset => { f with state := State.reset }
  | .subscribed data => call (takeStatus init) data f
  | .stored kept j => call (onState fun j => State.setData kept.key j ["result"]) j f
  | .notify j => call (handOut panels f.client.notifyConsumers) j f
  | .register p => { f with client := f.client.registerNotifyUpdate (.panel p) }
  | .unregister p => { f with client := f.client.unregisterNotifyUpdate (.panel p) }
  | .elsewhere act => { f with world := act f.world }

/-- The replica is registered before any panel is built. -/
def initial (world : W) : Feed P H C W J :=
  ⟨Client.registerNotifyUpdate .state {}, State.reset, world⟩

end Calls

end Feed

section Received

/-- The status a document carries at a path: none where it is absent or null. -/
def statusIn (path : List String) (j : Json) : List Json :=
  match Json.lookup j path with
  | .ok .null => []
  | .ok status => [status]
  | .error _ => []

variable {C W : Type}

/-- The statuses received, as they came, since the last reset. -/
def receive (payloads : List Json) : FeedEvent C W Json → List Json
  | .reset => []
  | .subscribed data => payloads ++ statusIn resultStatus data
  | .notify j => payloads ++ statusIn params0 j
  | _ => payloads

def received (events : List (FeedEvent C W Json)) : List Json := events.foldl receive []

theorem State.setData_final (key other : String) (j : Json) (path : List String) (s : State Json) :
    (Exec.final (State.setData key j path) s).data other =
      if other = key then (statusIn path j).foldl Json.mergePatch (s.data key) else s.data other := by
  have walked : JsonLib.lookup j path = Json.lookup j path := rfl
  unfold State.setData statusIn
  rw [Exec.final_ofExcept_bind, walked]
  cases Json.lookup j path with
  | error thrown =>
    by_cases same : other = key
    · simp [same]
    · simp [same]
  | ok patch =>
    cases patch with
    | null =>
      by_cases same : other = key
      · simp [JsonLib.isNull, Exec.final, same]
      · simp [JsonLib.isNull, Exec.final, same]
    | _ =>
      by_cases same : other = key
      · subst same
        simp [JsonLib.isNull, Exec.final, JsonDoc.mergePatch]
      · simp [JsonLib.isNull, Exec.final, JsonDoc.mergePatch, same]

theorem statusIn_no_params {j : Json}
    (declined : ∀ params, Json.find j "params" = some params → Json.elements params = []) :
    statusIn params0 j = [] := by
  have zero : Json.arrayIndex "0" = some 0 := by decide
  have noIndex : Json.arrayIndex "params" = none := by decide
  cases j with
  | obj members =>
    cases carried : members.lookup "params" with
    | none => simp [statusIn, params0, Json.lookup, Json.child, carried]
    | some params =>
      have empty := declined params carried
      cases params with
      | null => simp [statusIn, params0, Json.lookup, Json.child, carried]
      | arr items =>
        have none : items = [] := empty
        simp [statusIn, params0, Json.lookup, Json.child, carried, none, zero]
      | obj inner =>
        have none : inner = [] := List.map_eq_nil_iff.mp empty
        simp [statusIn, params0, Json.lookup, Json.child, carried, none]
      | _ => cases empty
  | arr items => simp [statusIn, params0, Json.lookup, Json.child, noIndex]
  | _ => rfl

theorem State.consume_final (j : Json) (s : State Json) :
    (Exec.final (State.consume j) s).data "printer_state" =
      (statusIn params0 j).foldl Json.mergePatch (s.data "printer_state") := by
  have merged := State.setData_final "printer_state" "printer_state" j params0 s
  rw [if_pos rfl] at merged
  have found : JsonLib.find j "params" = Json.find j "params" := rfl
  unfold State.consume
  rw [found]
  cases carried : Json.find j "params" with
  | none =>
    have declined : statusIn params0 j = [] := by
      refine statusIn_no_params fun params found => ?_
      rw [carried] at found
      cases found
    rw [declined]
    rfl
  | some params =>
    by_cases empty : Json.elements params = []
    · have declined : statusIn params0 j = [] := by
        refine statusIn_no_params fun other found => ?_
        rw [carried] at found
        cases found
        exact empty
      have taken : (JsonLib.elements params).isEmpty = true := List.isEmpty_iff.mpr empty
      simp only [taken, if_true, declined]
      rfl
    · have taken : ¬ (JsonLib.elements params).isEmpty = true := fun no =>
        empty (List.isEmpty_iff.mp no)
      simp only [if_neg taken]
      exact merged

end Received

section Fans

variable {W : Type}

/-- A read that leaves the shared message with what it inserted. -/
def touchAt (path : List String) : Exec JsonExn (W × Json) Json := fun t =>
  let (found, left) := Json.touch path t.2
  (found, (t.1, left))

def updateFan (name field : String) : Exec JsonExn (List (String × Int) × Json) PUnit := do
  let path ← Exec.ofExcept (pointerPath name)
  let value ← touchAt (["params", "0"] ++ path ++ [field])
  if JsonLib.isNull value then pure ⟨⟩
  else do
    let percent ← Exec.ofExcept (JsonLib.getDouble value)
    modify fun t =>
      (t.1.map fun f => if f.1 = name then (name, castInt (percent * 100)) else f, t.2)

/-- `FanPanel::consume`, one of the panels: two reads for each fan it shows. -/
def fanConsume : Exec JsonExn (List (String × Int) × Json) PUnit := do
  let t ← get
  t.1.forM fun f => do
    updateFan f.1 "value"
    updateFan f.1 "speed"

end Fans

namespace Feed

variable {P H C W : Type}

/-- The replica is registered first and holds what was received. -/
structure Mirrors (payloads : List Json) (f : Feed P H C W Json) : Prop where
  first : ∃ panels, f.client.notifyConsumers = .state :: panels ∧ Consumer.state ∉ panels
  folded : f.state.data "printer_state" = payloads.foldl Json.mergePatch .null

variable (panels : C → Exec JsonExn (W × Json) PUnit) (init : Exec JsonExn (W × Json) PUnit)

theorem onPanels_keeps (m : Exec JsonExn (W × Json) PUnit) :
    Exec.Keeps (Shared.state : Shared W Json → State Json) (onPanels m) :=
  fun _ => Exec.Preserves.zoom fun _ _ same => same

theorem handOut_panels {consumers : List (Consumer C)} (others : Consumer.state ∉ consumers) :
    Exec.Keeps (Shared.state : Shared W Json → State Json) (handOut panels consumers) := by
  refine fun seen => Exec.Triple.forM fun consumer member => ?_
  cases consumer with
  | state => exact absurd member others
  | panel p => exact onPanels_keeps (panels p) seen

theorem onState_final (m : Json → Exec JsonExn (State Json) PUnit) (t : Shared W Json) :
    (Exec.final (onState m) t).state = Exec.final (m t.message) t.state := rfl

theorem handOut_final {others : List (Consumer C)} (noState : Consumer.state ∉ others)
    (t : Shared W Json) :
    (Exec.final (handOut panels (.state :: others)) t).state =
      Exec.final (State.consume t.message) t.state := by
  have rest : Exec.Keeps (Shared.state : Shared W Json → State Json) (handOut panels others) :=
    handOut_panels panels noState
  exact (Exec.Keeps.final_bind (fun _ => rest) t).trans (onState_final State.consume t)

theorem takeStatus_final (t : Shared W Json) :
    (Exec.final (takeStatus init) t).state =
      Exec.final (State.setData "printer_state" t.message resultStatus) t.state := by
  have rest : Exec.Keeps (Shared.state : Shared W Json → State Json) (onPanels init) :=
    onPanels_keeps init
  exact (Exec.Keeps.final_bind (fun _ => rest) t).trans (onState_final _ t)

variable {panels init} {payloads : List Json} {f : Feed P H C W Json}

theorem Mirrors.merged (mirrors : Mirrors payloads f) {more : List Json} {g : Feed P H C W Json}
    (client : g.client = f.client)
    (merged : g.state.data "printer_state" =
      more.foldl Json.mergePatch (f.state.data "printer_state")) :
    Mirrors (payloads ++ more) g where
  first := client ▸ mirrors.first
  folded := by rw [merged, mirrors.folded, List.foldl_append]

variable [DecidableEq C]

theorem Mirrors.initial (world : W) : Mirrors [] (Feed.initial world : Feed P H C W Json) where
  first := ⟨[], rfl, List.not_mem_nil⟩
  folded := rfl

theorem Mirrors.registered (mirrors : Mirrors payloads f) (p : C) :
    Mirrors payloads { f with client := f.client.registerNotifyUpdate (.panel p) } := by
  obtain ⟨⟨others, consumers, noState⟩, folded⟩ := mirrors
  refine ⟨?_, folded⟩
  simp only [Client.registerNotifyUpdate]
  split
  · exact ⟨others, consumers, noState⟩
  · refine ⟨others ++ [.panel p], by simp [consumers], ?_⟩
    simp [noState]

theorem Mirrors.unregistered (mirrors : Mirrors payloads f) (p : C) :
    Mirrors payloads { f with client := f.client.unregisterNotifyUpdate (.panel p) } := by
  obtain ⟨⟨others, consumers, noState⟩, folded⟩ := mirrors
  refine ⟨⟨others.filter (· ≠ .panel p), ?_, ?_⟩, folded⟩
  · simp [Client.unregisterNotifyUpdate, consumers]
  · exact fun member => noState (List.mem_filter.mp member).1

theorem Mirrors.step (mirrors : Mirrors payloads f) (e : FeedEvent C W Json) :
    Mirrors (receive payloads e) (Feed.step panels init f e) := by
  cases e with
  | reset => exact ⟨mirrors.first, rfl⟩
  | subscribed data =>
    refine mirrors.merged rfl ?_
    have stored := State.setData_final "printer_state" "printer_state" data resultStatus f.state
    rw [if_pos rfl] at stored
    rw [← stored, ← takeStatus_final init ⟨f.state, f.world, data⟩]
    rfl
  | stored kept j =>
    have other : "printer_state" ≠ kept.key := by cases kept <;> decide
    refine ⟨mirrors.first, Eq.trans ?_ mirrors.folded⟩
    have stored := State.setData_final kept.key "printer_state" j ["result"] f.state
    rwa [if_neg other] at stored
  | notify j =>
    obtain ⟨others, consumers, noState⟩ := mirrors.first
    refine mirrors.merged rfl ?_
    rw [← State.consume_final, ← handOut_final panels noState ⟨f.state, f.world, j⟩, ← consumers]
    rfl
  | register p => exact mirrors.registered p
  | unregister p => exact mirrors.unregistered p
  | elsewhere act => exact ⟨mirrors.first, mirrors.folded⟩

theorem received_mirrors (events : List (FeedEvent C W Json)) {payloads : List Json}
    {f : Feed P H C W Json} (mirrors : Mirrors payloads f) :
    Mirrors (events.foldl receive payloads) (run (Feed.step panels init) f events) := by
  induction events generalizing payloads f with
  | nil => exact mirrors
  | cons e rest ih => exact ih (mirrors.step e)

/-- Whatever the panels do to the messages they share and whoever of them throws,
the printer's state is the statuses received since the reset, merged in order. -/
theorem replica_folds (panels : C → Exec JsonExn (W × Json) PUnit)
    (init : Exec JsonExn (W × Json) PUnit) (world : W) (events : List (FeedEvent C W Json)) :
    let reached := run (Feed.step panels init) (Feed.initial world : Feed P H C W Json) events
    reached.state.data "printer_state" = (received events).foldl Json.mergePatch .null :=
  (received_mirrors events (Mirrors.initial world)).folded

section Order

/-- The replica holds a speed; the message is about the same fan, not its speed. -/
private def spinning : Shared (List (String × Int)) Json :=
  ⟨⟨fun _ => .obj [("fan", .obj [("speed", .int 1)])]⟩, [("fan", 0)],
    .obj [("params", .arr [.obj [("fan", .obj [("rpm", .int 90)])]])]⟩

/-- With the fan panel before the replica its nulls delete what they name. -/
example :
    (Exec.final (handOut (fun _ => fanConsume) [.state, .panel ()]) spinning).state.data
        "printer_state" = .obj [("fan", .obj [("speed", .int 1), ("rpm", .int 90)])] ∧
      (Exec.final (handOut (fun _ => fanConsume) [.panel (), .state]) spinning).state.data
        "printer_state" = .obj [("fan", .obj [("rpm", .int 90)])] :=
  ⟨rfl, rfl⟩

end Order

end Feed

end GrumpyScreen
