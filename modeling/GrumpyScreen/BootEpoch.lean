import GrumpyScreen.Boot
import GrumpyScreen.Screens

/-! The handshake against replies that outlive their connection: when the boot
screen may give way, and what a late reply can still change. -/

namespace GrumpyScreen

open Lib Lib.Exec

namespace Boot

variable {L : Type → Type} [Layer L] {J : Type}

section Rows

/-- The same but for the rows of the main panel. -/
def Rebuilt (start b : Boot L J) : Prop :=
  ∃ rows sensors, b = { start with
    rows := rows
    panel := { start.panel with dash := { start.panel.dash with sensors := sensors } } }

variable {start : Boot L J}

theorem createSensorRows_rebuilds (sensors : List (String × Settings)) :
    Preserves (Rebuilt start) (createSensorRows sensors) := by
  refine Preserves.bind (Preserves.modify ?_) fun _ => Preserves.forM fun sensor => ?_
  · rintro b ⟨rows, keys, rfl⟩
    exact ⟨_, _, rfl⟩
  · refine Preserves.bind (Preserves.ofExcept _) fun row => Preserves.modify ?_
    rintro b ⟨rows, keys, rfl⟩
    exact ⟨_, _, rfl⟩

theorem createFans_rebuilds (fans : List (String × Settings)) :
    Preserves (Rebuilt start) (createFans fans) := by
  refine Preserves.bind (Preserves.modify ?_) fun _ => Preserves.forM fun fan => ?_
  · rintro b ⟨rows, keys, rfl⟩
    exact ⟨_, _, rfl⟩
  · refine Preserves.bind (Preserves.ofExcept _) fun row => Preserves.modify ?_
    rintro b ⟨rows, keys, rfl⟩
    exact ⟨_, _, rfl⟩

theorem createLeds_rebuilds (leds : List Settings) :
    Preserves (Rebuilt start) (createLeds leds) := by
  refine Preserves.bind (Preserves.modify ?_) fun _ => ?_
  · rintro b ⟨rows, keys, rfl⟩
    exact ⟨_, _, rfl⟩
  refine Preserves.bind (Preserves.forM fun led => ?_) fun _ => ?_
  · refine Preserves.bind (Preserves.ofExcept _) fun key => Preserves.modify ?_
    rintro b ⟨rows, keys, rfl⟩
    exact ⟨_, _, rfl⟩
  refine Preserves.bind (Preserves.modify ?_) fun _ => ?_
  · rintro b ⟨rows, keys, rfl⟩
    exact ⟨_, _, rfl⟩
  exact Preserves.bind Preserves.get fun _ => Preserves.ofExcept _

variable [JsonDoc J]

theorem createRows_rebuilds (c : Config) : Preserves (Rebuilt start) (createRows c) := by
  refine Preserves.bind Preserves.get fun b => ?_
  refine Preserves.bind (Preserves.ofExcept _) fun sensors => ?_
  refine Preserves.bind (createSensorRows_rebuilds sensors) fun _ => ?_
  refine Preserves.bind (Preserves.ofExcept _) fun fans => ?_
  refine Preserves.bind (createFans_rebuilds fans) fun _ => ?_
  exact Preserves.bind (Preserves.ofExcept _) fun leds => createLeds_rebuilds leds

theorem createRows_preserves {I : Boot L J → Prop} (c : Config)
    (kept : ∀ start b, Rebuilt start b → I start → I b) : Preserves I (createRows c) := by
  intro start holds
  have rebuild : Preserves (Rebuilt start) (createRows c) := createRows_rebuilds c
  have rebuilt := rebuild start ⟨_, _, rfl⟩
  rcases outcome : exec (createRows c) start with ⟨result, reached⟩
  rw [outcome] at rebuilt
  cases result with
  | ok value => exact kept start reached rebuilt holds
  | error thrown => exact kept start reached rebuilt holds

/-- What an objects list leaves: the replica, the progress and the rows move,
and `origin` asks again. -/
theorem objectsListed_preserves {I : Boot L J → Prop} {origin : Pending} {epoch : UInt32} {d : J}
    (c : Config) (stored : ∀ b state, I b → I { b with state := state })
    (staged : ∀ b pct stage, I b → I (setStage origin pct stage b))
    (asked : ∀ b request, request.epoch.all (· = epoch) = true → I b → I (ask origin request b))
    (rebuilt : ∀ start b, Rebuilt start b → I start → I b) :
    Preserves I (objectsListed c origin epoch d) := by
  refine Preserves.bind (Preserves.zoom fun state b holds => stored b state holds) fun _ => ?_
  refine Preserves.bind (Preserves.modify fun b holds => staged b _ _ holds) fun _ => ?_
  refine Preserves.bind (Preserves.modify fun b holds => asked b _ rfl holds) fun _ => ?_
  refine Preserves.bind (Preserves.modify fun b holds => asked b _ rfl holds) fun _ => ?_
  refine Preserves.bind (Preserves.modify fun b holds => asked b _ rfl holds) fun _ => ?_
  refine Preserves.bind (createRows_preserves c rebuilt) fun _ => ?_
  refine Preserves.bind (Preserves.ofExcept _) fun objs => Preserves.ite ?_ ?_
  · exact Preserves.modify fun b holds => staged b _ _ holds
  · refine Preserves.bind (Preserves.modify fun b holds => staged b _ _ holds) fun _ => ?_
    exact Preserves.modify fun b holds => asked b _ (by simp [BootRequest.epoch]) holds

end Rows

section Epochs

/-- A request carries the epoch of the connect it descends from. -/
structure Dated (drops : Nat) (p : Pending) : Prop where
  past : p.drops ≤ drops
  epoch : ∀ epoch, p.request.epoch = some epoch → epoch.toNat = p.drops

/-- The boot screen is down only when `ready`, as long as the epochs do not wrap. -/
structure Epochs (ready : Bool) (b : Boot L J) : Prop where
  bound : b.drops < 4294967296
  epoch : b.connEpoch.toNat = b.drops
  pending : ∀ p ∈ b.pending, Dated b.drops p
  waiting : ready = false → b.Waiting

/-- The subscription of the live epoch has been answered since the link was last lost. -/
def watchReady (ready : Bool) (b : Boot L J) : BootEvent J → Bool
  | .disconnected => false
  | .reply i _ => ready || (b.pending[i]?).any fun p =>
      (p.request matches .subscribe _ _) && p.drops = b.drops
  | _ => ready

variable {ready : Bool} {b : Boot L J} {origin : Pending}

theorem Epochs.asked (epochs : Epochs ready b) (dated : Dated b.drops origin) (request : BootRequest)
    (own : ∀ epoch, request.epoch = some epoch → epoch.toNat = origin.drops) :
    Epochs ready (ask origin request b) where
  bound := epochs.bound
  epoch := epochs.epoch
  pending p member := by
    rcases List.mem_append.mp member with old | new
    · exact epochs.pending p old
    · rw [List.mem_singleton.mp new]
      exact ⟨dated.past, own⟩
  waiting := epochs.waiting

variable [JsonDoc J]

theorem Epochs.connected (epochs : Epochs ready b) : Epochs ready (connected b) := by
  have begun : Epochs ready
      (setStage (L := L) ⟨.objectsList b.connEpoch, b.conns, b.drops⟩ 22 "Connecting to Moonraker..."
        { b with state := State.reset, conns := b.conns + 1, current := some b.conns }) :=
    ⟨epochs.bound, epochs.epoch, epochs.pending, epochs.waiting⟩
  have live : ∀ epoch, (BootRequest.objectsList b.connEpoch).epoch = some epoch →
      epoch.toNat = b.drops := by
    rintro epoch ⟨rfl⟩
    exact epochs.epoch
  exact begun.asked ⟨le_refl _, live⟩ _ live

omit [JsonDoc J] in
theorem Epochs.disconnected [LawfulLayer L] (epochs : Epochs ready b) (few : b.drops + 1 < 4294967296) :
    Epochs false (disconnected b) where
  bound := few
  epoch := by
    have sum : (b.connEpoch + 1).toNat = (b.connEpoch.toNat + 1) % 4294967296 :=
      UInt32.toNat_add b.connEpoch 1
    have next : (b.connEpoch + 1).toNat = b.drops + 1 := by
      rw [sum, epochs.epoch, Nat.mod_eq_of_lt few]
    exact next
  pending p member := by
    obtain ⟨past, epoch⟩ := epochs.pending p member
    exact ⟨Nat.le_succ_of_le past, epoch⟩
  waiting _ := Stack.shown_raise.mpr (Or.inl rfl)

omit [JsonDoc J] in
theorem onDash_preserves {I : Boot L J → Prop} (m : Read PUnit)
    (kept : ∀ b dash, I b → I { b with panel := { b.panel with dash := dash } }) :
    Preserves I (onPanel (onDash m)) := by
  intro b holds
  simp only [onPanel, onDash, exec_zoom]
  rcases exec m b.panel.dash with ⟨result, reached⟩
  cases result with
  | ok value => exact kept b reached holds
  | error thrown => exact kept b reached holds

theorem Epochs.listed (c : Config) (d : J) {epoch : UInt32}
    (own : epoch.toNat = origin.drops) :
    Preserves (fun b : Boot L J => Epochs ready b ∧ Dated b.drops origin)
      (objectsListed c origin epoch d) := by
  refine objectsListed_preserves c ?_ ?_ ?_ ?_
  · rintro b state ⟨epochs, dated⟩
    exact ⟨⟨epochs.bound, epochs.epoch, epochs.pending, epochs.waiting⟩, dated⟩
  · rintro b pct stage ⟨epochs, dated⟩
    exact ⟨⟨epochs.bound, epochs.epoch, epochs.pending, epochs.waiting⟩, dated⟩
  · rintro b request same ⟨epochs, dated⟩
    refine ⟨epochs.asked dated request fun captured held => ?_, dated⟩
    have equal : captured = epoch := by simpa [held] using same
    exact equal ▸ own
  · rintro start b ⟨rows, sensors, rfl⟩ ⟨epochs, dated⟩
    exact ⟨⟨epochs.bound, epochs.epoch, epochs.pending, epochs.waiting⟩, dated⟩

variable [LawfulLayer L]

/-- What the replica and the dashboard do not enter survives a snapshot whose
epoch is over. -/
theorem subscribed_stale {I : Boot L J → Prop} {epoch : UInt32} (data : J)
    (stored : ∀ b state, I b → I { b with state := state })
    (seeded : ∀ b dash, I b → I { b with panel := { b.panel with dash := dash } })
    (superseded : ∀ b, I b → epoch ≠ b.connEpoch) : Preserves I (subscribed origin epoch data) := by
  refine Preserves.bind (Preserves.zoom fun state b holds => stored b state holds) fun _ => ?_
  refine Preserves.bind (onDash_preserves _ seeded) fun _ => ?_
  refine Triple.bind Triple.get fun seen => Triple.ite (fun _ => ?_) fun same => ?_
  · exact fun b holds => holds.1
  · rintro b ⟨holds, rfl⟩
    exact absurd (superseded seen holds) same

/-- What the replica, the dashboard and the end of the handshake do not enter
survives a snapshot. -/
theorem subscribed_preserves {I : Boot L J → Prop} {epoch : UInt32} (data : J)
    (stored : ∀ b state, I b → I { b with state := state })
    (seeded : ∀ b dash, I b → I { b with panel := { b.panel with dash := dash } })
    (ready : ∀ b, I b → I { setStage origin 100 "Ready" b with panel := linkReady b.panel }) :
    Preserves I (subscribed origin epoch data) := by
  refine Preserves.bind (Preserves.zoom fun state b holds => stored b state holds) fun _ => ?_
  refine Preserves.bind (onDash_preserves _ seeded) fun _ => Preserves.bind Preserves.get fun _ => ?_
  exact Preserves.ite (Preserves.pure _) (Preserves.modify ready)

theorem Epochs.seeded (data : J) {epoch : UInt32} :
    Preserves (Epochs true : Boot L J → Prop) (subscribed origin epoch data) := by
  refine subscribed_preserves data ?_ ?_ ?_
  · rintro b state ⟨bound, epoch, pending, waiting⟩
    exact ⟨bound, epoch, pending, waiting⟩
  · rintro b dash ⟨bound, epoch, pending, waiting⟩
    exact ⟨bound, epoch, pending, waiting⟩
  · rintro b ⟨bound, epoch, pending, _⟩
    exact ⟨bound, epoch, pending, fun no => nomatch no⟩

theorem Epochs.answered (epochs : Epochs ready b) (c : Config) (i : Nat) (j : J) :
    Epochs (watchReady ready b (.reply i j)) (answered c i j b) := by
  unfold Boot.answered
  cases found : b.pending[i]? with
  | none => simpa [watchReady, found] using epochs
  | some origin =>
    have dated : Dated b.drops origin := epochs.pending origin (List.mem_of_getElem? found)
    have taken : ∀ r, (r = false → ready = false) →
        Epochs r { b with pending := b.pending.eraseIdx i } := fun r implied =>
      ⟨epochs.bound, epochs.epoch,
        fun p member => epochs.pending p (List.mem_of_mem_eraseIdx member),
        fun no => epochs.waiting (implied no)⟩
    have stored : ∀ (key : String) (path : List String),
        Preserves (Epochs ready : Boot L J → Prop) (onState (State.setData key j path)) := by
      refine fun key path => Preserves.zoom ?_
      rintro state b ⟨bound, epoch, pending, waiting⟩
      exact ⟨bound, epoch, pending, waiting⟩
    have same : Epochs ready { b with pending := b.pending.eraseIdx i } := taken ready id
    simp only [watchReady, found, Option.any_some]
    cases request : origin.request with
    | objectsList epoch =>
      have own : epoch.toNat = origin.drops := dated.epoch epoch (by simp [request, BootRequest.epoch])
      simp only [callback, request]
      simpa using ((Epochs.listed c j own).final ⟨same, dated⟩).1
    | roots => simpa [callback, request] using (stored _ _).final same
    | printerInfo => simpa [callback, request] using (stored _ _).final same
    | serverInfo => simpa [callback, request] using (stored _ _).final same
    | subscribe objects epoch =>
      have own : epoch.toNat = origin.drops := dated.epoch epoch (by simp [request, BootRequest.epoch])
      simp only [callback, request]
      by_cases live : origin.drops = b.drops
      · simpa [live] using (Epochs.seeded j).final (taken true fun no => nomatch no)
      · have older : origin.drops < b.drops := lt_of_le_of_ne dated.past live
        have stale : Preserves (fun b : Boot L J => Epochs ready b ∧ origin.drops < b.drops)
            (subscribed origin epoch j) := by
          refine subscribed_stale j ?_ ?_ ?_
          · rintro b state ⟨⟨bound, epoch, pending, waiting⟩, less⟩
            exact ⟨⟨bound, epoch, pending, waiting⟩, less⟩
          · rintro b dash ⟨⟨bound, epoch, pending, waiting⟩, less⟩
            exact ⟨⟨bound, epoch, pending, waiting⟩, less⟩
          · rintro b ⟨epochs, less⟩ equal
            have dates : epoch.toNat = b.drops := equal ▸ epochs.epoch
            omega
        simpa [live] using (stale.final ⟨same, older⟩).1

variable {c : Config} {e : BootEvent J}

theorem notified_preserves {I : Boot L J → Prop} (j : J)
    (stored : ∀ b state, I b → I { b with state := state })
    (consumed : ∀ b panel, panel.scr = b.panel.scr → I b → I { b with panel := panel }) :
    Preserves I (notified j) := by
  refine Preserves.bind (Preserves.zoom fun state b holds => stored b state holds) fun _ => ?_
  refine Preserves.bind Preserves.get fun _ => Preserves.bind (Preserves.ofExcept _) fun _ => ?_
  intro b holds
  have kept : (exec (GrumpyScreen.consume j) b.panel).2.scr = b.panel.scr := consume_scr j b.panel
  simp only [onPanel, exec_zoom]
  rcases outcome : exec (GrumpyScreen.consume j) b.panel with ⟨result, reached⟩
  rw [outcome] at kept
  cases result with
  | ok value => exact consumed b reached kept holds
  | error thrown => exact consumed b reached kept holds

theorem Epochs.notified (epochs : Epochs ready b) (j : J) :
    Epochs ready (Exec.final (notified j) b) := by
  refine (notified_preserves j ?_ ?_).final epochs
  · rintro b state ⟨bound, epoch, pending, waiting⟩
    exact ⟨bound, epoch, pending, waiting⟩
  · rintro b panel kept ⟨bound, epoch, pending, waiting⟩
    exact ⟨bound, epoch, pending,
      fun no => (congrArg (Stack.Shown · ScrObj.boot) kept).mpr (waiting no)⟩

/-- The link is lost less often than the epoch counter wraps. -/
def FewDrops (b : Boot L J) : BootEvent J → Prop
  | .disconnected => b.drops + 1 < 4294967296
  | _ => True

theorem Epochs.step (epochs : Epochs ready b) (few : FewDrops b e) :
    Epochs (watchReady ready b e) (step c b e) := by
  cases e with
  | connected => exact epochs.connected
  | disconnected => exact epochs.disconnected few
  | reply i j => exact epochs.answered c i j
  | notify j => exact epochs.notified j
  | panel e =>
    simp only [Boot.step, watchReady]
    split
    · exact epochs
    · next local' =>
      have shown : (GrumpyScreen.step b.panel e).scr.Shown .boot ↔ b.panel.scr.Shown .boot := by
        refine step_shown rfl b.panel e ⟨?_, ?_⟩
        · rintro rfl
          exact local' rfl
        · rintro rfl
          exact local' rfl
      exact ⟨epochs.bound, epochs.epoch, epochs.pending, fun no => shown.mpr (epochs.waiting no)⟩

end Epochs

section Drops

variable [JsonDoc J] [LawfulLayer L] {c : Config} {b : Boot L J}

theorem callback_drops (c : Config) (origin : Pending) (j : J) :
    Keeps (fun b : Boot L J => b.drops) (callback c origin j) := by
  intro seen
  unfold callback
  cases origin.request with
  | objectsList epoch =>
    refine objectsListed_preserves c ?_ ?_ ?_ ?_
    · exact fun _ _ same => same
    · exact fun _ _ _ same => same
    · exact fun _ _ _ same => same
    · rintro start b ⟨rows, sensors, rfl⟩ same
      exact same
  | subscribe objects epoch =>
    refine subscribed_preserves j ?_ ?_ ?_
    · exact fun _ _ same => same
    · exact fun _ _ same => same
    · exact fun _ same => same
  | _ => exact Preserves.zoom fun _ _ same => same

theorem step_drops (e : BootEvent J) :
    (step c b e).drops = b.drops + if e.isDrop then 1 else 0 := by
  cases e with
  | reply i j =>
    simp only [step, answered, BootEvent.isDrop]
    split
    · rfl
    · exact (callback_drops c _ j).final _
  | notify j =>
    have kept : Keeps (fun b : Boot L J => b.drops) (notified j) := fun _ =>
      notified_preserves j (fun _ _ same => same) fun _ _ _ same => same
    exact kept.final b
  | panel e =>
    simp only [step, BootEvent.isDrop]
    split <;> rfl
  | _ => rfl

theorem few_along {events : List (BootEvent J)}
    (few : b.drops + events.countP BootEvent.isDrop < 4294967296) :
    Along (step c) FewDrops b events := by
  induction events generalizing b with
  | nil => trivial
  | cons e rest ih =>
    rw [List.countP_cons] at few
    refine ⟨?_, ih ?_⟩
    · cases e with
      | disconnected =>
        have first : b.drops + 1 ≤ b.drops + (rest.countP BootEvent.isDrop + 1) := by omega
        exact lt_of_le_of_lt first few
      | _ => trivial
    · rw [step_drops]
      omega

theorem initial_waiting : (initial : Boot L J).Waiting := by
  refine ⟨initialScreens.built .boot rfl, ?_⟩
  simp [initial, Panel.initial, initialScreens, Screen.all]

theorem initial_epochs : Epochs false (initial : Boot L J) where
  bound := Nat.zero_lt_succ _
  epoch := rfl
  pending _ member := nomatch member
  waiting _ := initial_waiting

end Drops

variable [JsonDoc J] [LawfulLayer L]

/-- Whenever the boot screen is down, the subscription of the live epoch has
been answered since the link was last lost; and a reply of an older epoch never
takes it down. -/
theorem boot_hidden_only_when_subscribed (c : Config) (events : List (BootEvent J))
    (few : events.countP BootEvent.isDrop < 4294967296) :
    let reached := run (observed watchReady (step c)) (false, (initial : Boot L J)) events
    (¬ reached.2.Waiting → reached.1 = true) ∧
      ∀ i j p, reached.2.pending[i]? = some p → p.drops ≠ reached.2.drops →
        reached.2.Waiting → (answered c i j reached.2).Waiting := by
  have along : Along (step c) FewDrops (initial : Boot L J) events :=
    few_along ((Nat.zero_add _).trans_lt few)
  have epochs : Epochs (run (observed watchReady (step c)) (false, (initial : Boot L J)) events).1
      (run (step c) initial events) :=
    along.invariant_observed (fun _ _ _ epochs few => epochs.step few) initial_epochs
  intro reached
  have same : reached.2 = run (step c) initial events := run_observed_snd _ events
  rw [← same] at epochs
  constructor
  · intro hidden
    cases ready : reached.1 with
    | true => rfl
    | false => exact absurd (epochs.waiting ready) hidden
  · intro i j p found older waiting
    have unready : Epochs false reached.2 :=
      ⟨epochs.bound, epochs.epoch, epochs.pending, fun _ => waiting⟩
    have late : watchReady false reached.2 (.reply i j) = false := by
      simp [watchReady, found, older]
    exact (unready.answered c i j).waiting late

end Boot

/-- A link that drops in the middle of the handshake and comes back: the second list and
the second subscription are answered. -/
def handshakeResumed : List (BootEvent Json) :=
  [.connected, .disconnected, .connected,
    .reply 1 (.obj [("result", .obj [("objects", .arr [.str "fan"])])]),
    .reply 4 (subscribeReply (.obj []))]

/-- The boot screen is down after it. -/
theorem boot_hidden_only_when_subscribed_dropped :
    handshakeResumed.countP BootEvent.isDrop < 4294967296 ∧
      let reached := run (observed Boot.watchReady (Boot.step fun _ => none))
        (false, (Boot.initial : Boot ZStack Json)) handshakeResumed
      ¬ reached.2.Waiting ∧ (¬ reached.2.Waiting → reached.1 = true) ∧
        ∀ i j p, reached.2.pending[i]? = some p → p.drops ≠ reached.2.drops →
          reached.2.Waiting → (Boot.answered (fun _ => none) i j reached.2).Waiting := by
  refine ⟨by decide, ?_, Boot.boot_hidden_only_when_subscribed _ _ (by decide)⟩
  unfold Boot.Waiting
  decide +kernel

end GrumpyScreen
