import GrumpyScreen.Seed
import GrumpyScreen.Subscribe

/-! How the handshake ends: while the link is up the boot screen waits for a reply of the
live connect, and two replies that can be read take it down. -/

namespace GrumpyScreen

open Lib Lib.Exec

namespace Boot

variable {L : Type → Type} [Layer L] {J : Type}

/-- A request whose reply the live connect waits for. -/
def Live (b : Boot L J) (p : Pending) : Prop := p.request.epoch = some b.connEpoch

/-- The boot screen over a link that is up waits for a live request. -/
def Attended (b : Boot L J) : Prop :=
  b.current.isSome = true → b.Waiting → ∃ p ∈ b.pending, b.Live p

/-- The same connect later on: it asks more, and the boot screen does not come back. -/
structure Onward (start b : Boot L J) : Prop where
  current : b.current = start.current
  epoch : b.connEpoch = start.connEpoch
  pending : start.pending ⊆ b.pending
  waiting : b.Waiting → start.Waiting

namespace Onward

variable {start b : Boot L J}

theorem refl (start : Boot L J) : Onward start start := ⟨rfl, rfl, List.Subset.refl _, id⟩

theorem asked (onward : Onward start b) (origin : Pending) (request : BootRequest) :
    Onward start (ask origin request b) where
  current := onward.current
  epoch := onward.epoch
  pending _ member := List.mem_append_left _ (onward.pending member)
  waiting := onward.waiting

theorem rebuilt {built : Boot L J} (onward : Onward start b) (same : Rebuilt b built) :
    Onward start built := by
  obtain ⟨rows, sensors, rfl⟩ := same
  exact ⟨onward.current, onward.epoch, onward.pending, onward.waiting⟩

theorem attended (onward : Onward start b)
    (live : b.Waiting → ∃ p ∈ start.pending, start.Live p) : Attended b := by
  intro _ waiting
  obtain ⟨p, member, own⟩ := live waiting
  exact ⟨p, onward.pending member, own.trans (congrArg some onward.epoch.symm)⟩

end Onward

theorem linkReady_uncovers [LawfulLayer L] (p : Panel L) : ¬ (linkReady p).scr.Shown .boot := by
  simp [linkReady, showHome]

section Callbacks

variable [JsonDoc J] {c : Config} {start b : Boot L J} {origin : Pending} {epoch : UInt32}

theorem objectsListed_onward (c : Config) (origin : Pending) (epoch : UInt32) (d : J) :
    Preserves (Onward start) (objectsListed c origin epoch d) := by
  refine objectsListed_preserves c ?_ ?_ ?_ ?_
  · exact fun b state onward => ⟨onward.current, onward.epoch, onward.pending, onward.waiting⟩
  · exact fun b pct stage onward => ⟨onward.current, onward.epoch, onward.pending, onward.waiting⟩
  · exact fun b request _ onward => onward.asked origin request
  · exact fun b built same onward => onward.rebuilt same

variable [LawfulLayer L]

theorem subscribed_onward (data : J) :
    Preserves (Onward start) (subscribed origin epoch data) := by
  refine subscribed_preserves data ?_ ?_ ?_
  · exact fun b state onward => ⟨onward.current, onward.epoch, onward.pending, onward.waiting⟩
  · exact fun b dash onward => ⟨onward.current, onward.epoch, onward.pending, onward.waiting⟩
  · intro b onward
    exact ⟨onward.current, onward.epoch, onward.pending,
      fun waiting => absurd waiting (linkReady_uncovers b.panel)⟩

theorem callback_onward (origin : Pending) (j : J) :
    Preserves (Onward start) (callback c origin j) := by
  unfold callback
  cases origin.request with
  | objectsList epoch => exact objectsListed_onward c origin epoch j
  | subscribe objects epoch => exact subscribed_onward j
  | _ =>
    refine Preserves.zoom ?_
    exact fun state b onward => ⟨onward.current, onward.epoch, onward.pending, onward.waiting⟩

end Callbacks

section Readable

variable [JsonDoc J]

/-- An objects list that can be subscribed to: strings, and a presentable row for each of
them that is configured. -/
def Listing (c : Config) (d : J) : Prop :=
  ∃ objs, JsonLib.lookup d ["result", "objects"] = .ok objs ∧ JsonLib.isArray objs = true ∧
    (∀ obj ∈ JsonLib.elements objs, JsonLib.isString obj = true) ∧
    Presentable c (objectNames objs)

/-- A snapshot that the dashboard can be seeded from, its sensors read apart from the rest. -/
def Snapshot (dash : Dash) (data : J) : Prop :=
  (∃ status, JsonLib.lookup data resultStatus = .ok status) ∧
    SensorsApart (dash.sensors.map Prod.fst) ∧ Returns (init data) dash

/-- A reply to the live connect is one to what it asked for. -/
def Readable (c : Config) (b : Boot L J) : BootEvent J → Prop
  | .reply i j => ∀ p, b.pending[i]? = some p → b.Live p →
      match p.request with
      | .objectsList _ => Listing c j
      | .subscribe _ _ => Snapshot b.panel.dash j
      | _ => True
  | _ => True

end Readable

section Steps

variable [LawfulLayer L] [JsonDoc J] {c : Config} {b : Boot L J} {origin : Pending}
  {epoch : UInt32}

theorem subscribed_uncovers (b : Boot L J) (origin : Pending) {data : J} (own : epoch = b.connEpoch)
    (snapshot : Snapshot b.panel.dash data) :
    ¬ (final (subscribed origin epoch data) b).Waiting := by
  obtain ⟨⟨status, found⟩, -, ⟨⟩, seeded⟩ := snapshot
  obtain ⟨state, stored⟩ : ∃ state : State J,
      exec (onState (State.setData "printer_state" data resultStatus)) b =
        (.ok ⟨⟩, { b with state := state }) := by
    simp only [onState, exec_zoom, State.setData, exec_bind, exec_ofExcept, found]
    cases JsonLib.isNull status with
    | true => exact ⟨b.state, rfl⟩
    | false => exact ⟨_, rfl⟩
  obtain ⟨dash, read⟩ : ∃ dash, exec (onPanel (onDash (init data))) { b with state := state } =
      (.ok ⟨⟩, { b with state := state, panel := { b.panel with dash := dash } }) :=
    ⟨(exec (init data) b.panel.dash).2, by simp only [onPanel, onDash, exec_zoom, seeded]⟩
  rw [subscribed, final, exec_bind_ok stored, exec_bind_ok read]
  simp only [exec_bind, exec_get, own, ne_eq, not_true, if_false, exec_modify]
  exact linkReady_uncovers { b.panel with dash := dash }

variable [LawfulDoc J]

omit [LawfulLayer L] in
theorem objectsListed_subscribes (b : Boot L J) (origin : Pending) (epoch : UInt32) {d : J}
    (listing : Listing c d) :
    ∃ p ∈ (final (objectsListed c origin epoch d) b).pending,
      ∃ objects, p.request = .subscribe objects epoch := by
  obtain ⟨objs, found, array, strings, rows⟩ := listing
  obtain ⟨-, sent⟩ := sends_of_presentable c b origin epoch found array strings rows
  rw [sent]
  exact ⟨{ origin with request := .subscribe (subObjs objs) epoch }, by simp, _, rfl⟩

/-- A reply the live connect waits for either takes the boot screen down or leaves a
live request behind. -/
theorem Attended.answered (attended : Attended b) {i : Nat} {j : J}
    (readable : Readable c b (.reply i j)) : Attended (answered c i j b) := by
  unfold Boot.answered
  cases found : b.pending[i]? with
  | none => exact attended
  | some origin =>
    have onward := (callback_onward (c := c) origin j).final
      (Onward.refl { b with pending := b.pending.eraseIdx i })
    intro up waiting
    obtain ⟨p, member, own⟩ := attended (onward.current ▸ up) (onward.waiting waiting)
    obtain ⟨k, place⟩ := List.mem_iff_getElem?.mp member
    by_cases same : k = i
    · subst same
      obtain rfl : origin = p := Option.some.inj (found.symm.trans place)
      have told := readable origin found own
      cases request : origin.request with
      | objectsList epoch =>
        rw [Live, request] at own
        rw [request] at told
        have live : epoch = b.connEpoch := Option.some.inj own
        obtain ⟨p, member, objects, subscribes⟩ := objectsListed_subscribes
          { b with pending := b.pending.eraseIdx k } origin epoch told
        simp only [callback, request] at onward ⊢
        refine ⟨p, member, ?_⟩
        rw [Live, subscribes, onward.epoch]
        exact congrArg some live
      | subscribe objects epoch =>
        rw [Live, request] at own
        rw [request] at told
        simp only [callback, request] at waiting
        exact absurd waiting (subscribed_uncovers _ _ (Option.some.inj own) told)
      | _ =>
        rw [Live, request] at own
        cases own
    · have kept : p ∈ b.pending.eraseIdx i :=
        List.mem_eraseIdx_iff_getElem?.mpr ⟨k, same, place⟩
      exact onward.attended (fun _ => ⟨p, kept, own⟩) up waiting

omit [LawfulDoc J] in
theorem Attended.notified (attended : Attended b) (j : J) :
    Attended (final (notified j) b) := by
  refine (notified_preserves j (fun b state attended => attended) ?_).final attended
  intro b panel kept attended up waiting
  exact attended up ((congrArg (Stack.Shown · ScrObj.boot) kept).mp waiting)

theorem Attended.step {e : BootEvent J}
    (attended : Attended b) (readable : Readable c b e) : Attended (step c b e) := by
  cases e with
  | connected =>
    intro _ _
    exact ⟨_, List.mem_append_right _ (List.mem_singleton_self _), rfl⟩
  | disconnected => exact fun up => nomatch up
  | reply i j => exact attended.answered readable
  | notify j => exact attended.notified j
  | panel e =>
    simp only [Boot.step]
    split
    · exact attended
    · next local' =>
      have shown : (GrumpyScreen.step b.panel e).scr.Shown .boot ↔ b.panel.scr.Shown .boot := by
        refine step_shown rfl b.panel e ⟨?_, ?_⟩
        · rintro rfl
          exact local' rfl
        · rintro rfl
          exact local' rfl
      exact fun up waiting => attended up (shown.mp waiting)

end Steps

section Runs

variable [LawfulLayer L] [JsonDoc J]

/-- The boot screen is down after so many more replies to the live connect, whatever
they say as long as they can be read. -/
def Within (c : Config) : Nat → Boot L J → Prop
  | 0, b => ¬ b.Waiting
  | n + 1, b => ¬ b.Waiting ∨ ∃ i p, b.pending[i]? = some p ∧ b.Live p ∧
      ∀ j, Readable c b (.reply i j) → Within c n (answered c i j b)

variable {c : Config} {b : Boot L J} {i : Nat} {p : Pending}

theorem Within.mono {n : Nat} (soon : Within c n b) : Within c (n + 1) b := by
  induction n generalizing b with
  | zero => exact Or.inl soon
  | succ n ih =>
    rcases soon with down | ⟨i, p, found, own, next⟩
    · exact Or.inl down
    · exact Or.inr ⟨i, p, found, own, fun j readable => ih (next j readable)⟩

theorem within_subscribed (found : b.pending[i]? = some p) (own : b.Live p) {objects : Option (List String)}
    {epoch : UInt32} (request : p.request = .subscribe objects epoch) : Within c 1 b := by
  refine Or.inr ⟨i, p, found, own, fun j readable => ?_⟩
  have told := readable p found own
  rw [request] at told
  rw [Live, request] at own
  have down := subscribed_uncovers { b with pending := b.pending.eraseIdx i } p
    (Option.some.inj own) told
  simpa only [Within, answered, found, callback, request] using down

variable [LawfulDoc J]

theorem within_listing (found : b.pending[i]? = some p)
    (own : b.Live p) {epoch : UInt32} (request : p.request = .objectsList epoch) :
    Within c 2 b := by
  refine Or.inr ⟨i, p, found, own, fun j readable => ?_⟩
  have told := readable p found own
  rw [request] at told
  rw [Live, request] at own
  have onward := (objectsListed_onward c p epoch j).final
    (Onward.refl { b with pending := b.pending.eraseIdx i })
  obtain ⟨q, member, objects, subscribes⟩ := objectsListed_subscribes
    { b with pending := b.pending.eraseIdx i } p epoch told
  obtain ⟨k, asked⟩ := List.mem_iff_getElem?.mp member
  have next : answered c i j b = final (objectsListed c p epoch j)
      { b with pending := b.pending.eraseIdx i } := by
    simp only [answered, found, callback, request]
  rw [next]
  refine within_subscribed asked ?_ subscribes
  rw [Live, subscribes, onward.epoch]
  exact own

omit [LawfulDoc J] in
theorem initial_attended : Attended (initial : Boot L J) := fun up => nomatch up

/-- Over a link that is up the boot screen never waits for nothing: in every run whose live
replies can be read, two more of them take it down, however connects, drops, late replies
and notifications came before. -/
theorem boot_gives_way {events : List (BootEvent J)}
    (readable : Along (step c) (Readable c) (initial : Boot L J) events) :
    (after c events : Boot L J).current.isSome = true → Within c 2 (after c events : Boot L J) := by
  intro up
  have attended : Attended (after c events : Boot L J) :=
    readable.invariant (fun b e attended readable => attended.step readable)
      initial_attended
  by_cases waiting : (after c events : Boot L J).Waiting
  · obtain ⟨p, member, own⟩ := attended up waiting
    obtain ⟨i, found⟩ := List.mem_iff_getElem?.mp member
    cases request : p.request with
    | objectsList epoch => exact within_listing found own request
    | subscribe objects epoch =>
      exact (within_subscribed found own request).mono
    | _ =>
      rw [Live, request] at own
      cases own
  · exact Or.inl waiting

end Runs

end Boot

section Witness

private def fanList : Json := .obj [("result", .obj [("objects", .arr [.str "fan"])])]

private theorem fanList_listing : Boot.Listing (fun _ => none) fanList := by
  refine ⟨.arr [.str "fan"], rfl, rfl, by decide, ?_, ?_, ?_, ?_⟩
  · simp [sensorRows, Config.getObjects, display, entryFor]
  · simp [fanRows, Config.getObjects, display, entryFor]
  · simp [ledRows, Config.getObjects, displayLeds]
  · simp [Pictured, ledTable, Boot.singleLed, ledRows, Config.getObjects, displayLeds]

/-- The link dropped before the first list came; the list of the second connect is there. -/
theorem boot_gives_way_second :
    let c : Config := fun _ => none
    let events : List (BootEvent Json) :=
      [.connected, .disconnected, .connected, .reply 1 fanList]
    Along (Boot.step c) (Boot.Readable c) (Boot.initial : Boot ZStack Json) events ∧
      ((Boot.after c events : Boot ZStack Json).current.isSome = true →
        Boot.Within c 2 (Boot.after c events : Boot ZStack Json)) := by
  intro c events
  have readable : Along (Boot.step c) (Boot.Readable c) (Boot.initial : Boot ZStack Json) events := by
    refine ⟨trivial, trivial, trivial, fun p found _ => ?_, trivial⟩
    obtain rfl : ⟨.objectsList 1, 1, 1⟩ = p := Option.some.inj found
    exact fanList_listing
  exact ⟨readable, Boot.boot_gives_way readable⟩

end Witness

end GrumpyScreen
