import GrumpyScreen.BootEpoch

/-! Replies of superseded connections: which of them change the boot screen, the
replica or the cached status, and that the others change nothing. -/

namespace GrumpyScreen

open Lib Lib.Exec

section Silent

variable {J : Type} [JsonDoc J] [LawfulDoc J] {j : J} {base : List String}

/-- The message carries nothing under `base`. -/
def Bare (j : J) (base : List String) : Prop :=
  ∀ node, JsonLib.lookup j base = .ok node → JsonLib.isNull node = true

theorem pointer_bare (bare : Bare j base) (path : List String) {P : Dash → Prop} :
    Triple P (pointer j base path) (fun node d => P d ∧ JsonLib.isNull node = true) P := by
  refine Triple.ofExcept _ (fun _ holds => holds) fun node d found holds => ⟨holds, ?_⟩
  rw [LawfulDoc.lookup_append] at found
  cases walked : JsonLib.lookup j base with
  | error thrown =>
    rw [walked] at found
    cases found
  | ok top =>
    have null : JsonLib.isNull top = true := bare top walked
    have below : JsonLib.lookup top path = .ok top := LawfulDoc.lookup_null top path null
    rw [walked] at found
    have same : top = node := Except.ok.inj (below.symm.trans found)
    exact same ▸ null

theorem cached_bare (bare : Bare j base) (path : List String) {decode : J → Except JsonExn α}
    {store : α → Dash → Dash} {I : Dash → Prop} :
    Preserves I (cached j base path decode store) := by
  refine Triple.bind (pointer_bare bare path) fun node => Triple.ite (fun _ => ?_) fun present => ?_
  · exact fun d holds => holds.1
  · exact fun d holds => absurd holds.2 present

theorem named_bare (bare : Bare j base) (name field : String) {decode : J → Except JsonExn α}
    {store : α → Dash → Dash} {I : Dash → Prop} :
    Preserves I (named j base name field decode store) :=
  Preserves.bind (Preserves.ofExcept _) fun path => cached_bare bare path

theorem readSensors_bare (bare : Bare j base) {I : Dash → Prop} :
    Preserves I (readSensors j base) :=
  Preserves.bind Preserves.get fun _ => Preserves.forM fun _ =>
    Preserves.bind (named_bare bare _ _) fun _ => named_bare bare _ _

theorem readMesh_bare (bare : Bare j base) {I : Dash → Prop} : Preserves I (readMesh j base) := by
  refine Triple.bind (pointer_bare bare ["bed_mesh"]) fun bm => Triple.ite (fun _ => ?_) fun present => ?_
  · exact fun d holds => holds.1
  · exact fun d holds => absurd holds.2 present

theorem readCache_bare (bare : Bare j base) {I : Dash → Prop} : Preserves I (readCache j base) := by
  refine Preserves.bind (cached_bare bare _) fun _ => ?_
  refine Preserves.bind (cached_bare bare _) fun _ => ?_
  refine Preserves.bind (cached_bare bare _) fun _ => ?_
  refine Preserves.bind (cached_bare bare _) fun _ => ?_
  refine Preserves.bind (cached_bare bare _) fun _ => ?_
  refine Preserves.bind (cached_bare bare _) fun _ => ?_
  refine Preserves.bind (cached_bare bare _) fun _ => ?_
  exact Preserves.bind (cached_bare bare _) fun _ => cached_bare bare _

theorem readPosition_bare (node : J) {I : Dash → Prop} :
    Triple (fun d => I d ∧ JsonLib.isNull node = true) (readPosition node) (fun _ => I) I := by
  refine Triple.ite (fun array => ?_) fun _ => ?_
  · rintro d ⟨_, null⟩
    have present : JsonLib.isNull node = false := LawfulDoc.isNull_of_isArray node array
    exact absurd null (by simp [present])
  · exact fun d holds => holds.1

theorem init_bare (bare : Bare j resultStatus) :
    Keeps (fun d : Dash => (d.cache, d.core)) (init j) := by
  intro seen
  refine Preserves.bind (readSensors_bare bare) fun _ => ?_
  refine Preserves.bind (readMesh_bare bare) fun _ => ?_
  refine Preserves.bind (readCache_bare bare) fun _ => ?_
  refine Preserves.bind (cached_bare bare _) fun _ => ?_
  refine Triple.bind (pointer_bare bare _) fun node => ?_
  refine Triple.bind (readPosition_bare node) fun _ => ?_
  refine Preserves.bind (cached_bare bare _) fun _ => ?_
  refine Preserves.bind (Preserves.modify fun d same => ?_) fun _ => Preserves.modify fun d same => same
  exact (Prod.ext rfl (rebuildHome_core d)).trans same

end Silent

namespace Boot

variable {L : Type → Type} [Layer L] {J : Type} [JsonDoc J]

/-- A request of a connection that is not the live one. -/
def Superseded (b : Boot L J) (p : Pending) : Prop := b.current ≠ some p.conn

/-- A reply that a superseded connection can still deliver without effect: not
an objects list, and one that carries no result; a subscription moreover from an
older epoch. -/
def Harmless (b : Boot L J) (j : J) : BootRequest → Prop
  | .objectsList _ => False
  | .roots | .printerInfo | .serverInfo => Bare j ["result"]
  | .subscribe _ epoch => Bare j resultStatus ∧ epoch ≠ b.connEpoch

/-- Every reply of a superseded connection that is delivered is harmless. -/
def LateHarmless (b : Boot L J) : BootEvent J → Prop
  | .reply i j => ∀ p, b.pending[i]? = some p → b.Superseded p → b.Harmless j p.request
  | _ => True

/-- What no superseded reply may change: the boot screen's progress and stage,
the replica and the cached status. -/
def guarded (b : Boot L J) : Int × String × State J × Cache × Core :=
  (b.pct, b.stage, b.state, b.panel.dash.cache, b.panel.dash.core)

/-- Between a disconnect and the next connect the boot screen shows the waiting
stage; during a handshake the progress was set by the live connection. -/
def OwnProgress (b : Boot L J) : Prop :=
  match b.current with
  | none => b.Waiting ∧ b.pct = 4 ∧ b.stage = "Waiting for Klipper to start..."
  | some conn => b.setBy = some conn

theorem setData_bare {key : String} {j : J} {path : List String} (bare : Bare j path)
    {I : Boot L J → Prop} : Preserves I (onState (State.setData key j path)) := by
  have kept : ∀ s : State J, exec (State.setData key j path) s =
      (exec (State.setData key j path) s |>.1, s) := by
    intro s
    rw [State.setData]
    cases found : JsonLib.lookup j path with
    | error thrown => rfl
    | ok patch =>
      have null : JsonLib.isNull patch = true := bare patch found
      simp [exec_bind, null]
  intro b holds
  rw [onState, exec_zoom, kept]
  rcases exec (State.setData key j path) b.state with ⟨result, reached⟩
  cases result with
  | ok value => exact holds
  | error thrown => exact holds

variable [LawfulDoc J] [LawfulLayer L] {b : Boot L J} {origin : Pending} {j : J}

theorem callback_harmless (c : Config) {I : Boot L J → Prop}
    (harmless : b.Harmless j origin.request) (epoch : ∀ b', I b' → b'.connEpoch = b.connEpoch)
    (seeded : ∀ b dash, dash.cache = b.panel.dash.cache → dash.core = b.panel.dash.core → I b →
      I { b with panel := { b.panel with dash := dash } }) :
    Preserves I (callback c origin j) := by
  unfold callback
  cases request : origin.request with
  | objectsList _ =>
    rw [request] at harmless
    exact harmless.elim
  | subscribe objects captured =>
    rw [request] at harmless
    obtain ⟨bare, older⟩ := harmless
    refine Preserves.bind (setData_bare bare) fun _ => Preserves.bind ?_ fun _ => ?_
    · intro b holds
      have kept := (init_bare bare).final b.panel.dash
      simp only [onPanel, onDash, exec_zoom]
      rcases outcome : exec (init j) b.panel.dash with ⟨result, dash⟩
      rw [final, outcome] at kept
      obtain ⟨cache, core⟩ := Prod.mk.inj kept
      cases result with
      | ok value => exact seeded b dash cache core holds
      | error thrown => exact seeded b dash cache core holds
    · refine Triple.bind Triple.get fun seen => Triple.ite (fun _ => ?_) fun same => ?_
      · exact fun b holds => holds.1
      · rintro b ⟨holds, rfl⟩
        exact absurd (epoch seen holds ▸ older) same
  | _ =>
    rw [request] at harmless
    exact setData_bare harmless

theorem answered_harmless (c : Config) {i : Nat} (found : b.pending[i]? = some origin)
    (harmless : b.Harmless j origin.request) : (answered c i j b).guarded = b.guarded := by
  simp only [answered, found]
  have kept : Preserves (fun b' : Boot L J => b'.connEpoch = b.connEpoch ∧ b'.guarded = b.guarded)
      (callback c origin j) := by
    refine callback_harmless c harmless (fun _ holds => holds.1) ?_
    rintro b' dash cache core ⟨epoch, same⟩
    refine ⟨epoch, Eq.trans ?_ same⟩
    simp [guarded, cache, core]
  exact (kept.final (s := { b with pending := b.pending.eraseIdx i }) ⟨rfl, rfl⟩).2

omit [LawfulDoc J] in
theorem callback_live (c : Config) :
    Preserves (fun b : Boot L J => b.current = some origin.conn ∧ b.setBy = some origin.conn)
      (callback c origin j) := by
  unfold callback
  cases origin.request with
  | objectsList epoch =>
    refine objectsListed_preserves c ?_ ?_ ?_ ?_
    · exact fun _ _ same => same
    · exact fun _ _ _ same => ⟨same.1, rfl⟩
    · exact fun _ _ _ same => same
    · rintro start b ⟨rows, sensors, rfl⟩ same
      exact same
  | subscribe objects epoch =>
    refine subscribed_preserves j ?_ ?_ ?_
    · exact fun _ _ same => same
    · exact fun _ _ same => same
    · exact fun _ same => ⟨same.1, rfl⟩
  | _ => exact Preserves.zoom fun _ _ same => same

theorem OwnProgress.answered (own : b.OwnProgress) (c : Config) (i : Nat)
    (late : LateHarmless b (.reply i j)) : (answered c i j b).OwnProgress := by
  unfold Boot.answered
  cases found : b.pending[i]? with
  | none => exact own
  | some origin =>
    have start : OwnProgress { b with pending := b.pending.eraseIdx i } := own
    by_cases live : b.current = some origin.conn
    · have by' : b.setBy = some origin.conn := by
        unfold OwnProgress at own
        rwa [live] at own
      have kept := (callback_live (j := j) c).final
        (s := { b with pending := b.pending.eraseIdx i }) ⟨live, by'⟩
      unfold OwnProgress
      rw [kept.1]
      exact kept.2
    · have harmless : b.Harmless j origin.request := late origin found live
      have kept : Preserves (fun b' : Boot L J => b'.connEpoch = b.connEpoch ∧ b'.OwnProgress)
          (callback c origin j) := by
        refine callback_harmless c harmless (fun _ holds => holds.1) ?_
        exact fun _ _ _ _ holds => holds
      exact (kept.final (s := { b with pending := b.pending.eraseIdx i }) ⟨rfl, start⟩).2

omit [JsonDoc J] [LawfulDoc J] [LawfulLayer L] in
theorem OwnProgress.panel (own : b.OwnProgress) {p : Panel L}
    (shown : p.scr.Shown .boot ↔ b.panel.scr.Shown .boot) :
    OwnProgress { b with panel := p } := by
  unfold OwnProgress at own ⊢
  simp only
  cases live : b.current with
  | some conn =>
    rw [live] at own
    exact own
  | none =>
    rw [live] at own
    exact ⟨shown.mpr own.1, own.2⟩

omit [LawfulDoc J] in
theorem OwnProgress.notified (own : b.OwnProgress) (j : J) :
    OwnProgress (Exec.final (notified j) b) := by
  refine (notified_preserves j (fun _ _ own => own) ?_).final own
  intro b panel kept own
  exact own.panel (iff_of_eq (congrArg (Stack.Shown · ScrObj.boot) kept))

theorem OwnProgress.step (own : b.OwnProgress) (c : Config) {e : BootEvent J}
    (late : LateHarmless b e) : (step c b e).OwnProgress := by
  cases e with
  | connected => rfl
  | disconnected => exact ⟨Stack.shown_raise.mpr (Or.inl rfl), rfl, rfl⟩
  | reply i j => exact own.answered c i late
  | notify j => exact own.notified j
  | panel e =>
    simp only [Boot.step]
    split
    · exact own
    · next local' =>
      refine own.panel (step_shown rfl b.panel e ⟨?_, ?_⟩)
      · rintro rfl
        exact local' rfl
      · rintro rfl
        exact local' rfl

/-- In a run whose late replies are harmless, none of them changes what is
guarded, and the progress on the boot screen is the waiting stage or the live
connection's own. -/
theorem late_replies_harmless (c : Config) (events : List (BootEvent J))
    (late : Along (step c) LateHarmless (initial : Boot L J) events) :
    (after c events : Boot L J).OwnProgress ∧
      ∀ before i j rest p, events = before ++ .reply i j :: rest →
        (after c before : Boot L J).pending[i]? = some p →
        (after c before : Boot L J).Superseded p →
        (after c (before ++ [.reply i j]) : Boot L J).guarded =
          (after c before : Boot L J).guarded := by
  constructor
  · have start : (initial : Boot L J).OwnProgress := ⟨initial_waiting, rfl, rfl⟩
    exact late.invariant (fun b e own late => own.step c late) start
  · rintro before i j rest p rfl found superseded
    obtain ⟨_, here, _⟩ := (along_append _ _ _).mp late
    have taken : (after c (before ++ [.reply i j]) : Boot L J) =
        answered c i j (after c before) := run_snoc _ _ _
    rw [taken]
    exact answered_harmless c found (here p found superseded)

end Boot

section Witness

private def noConfig : Config := fun _ => none

private def listReply : Json :=
  .obj [("result", .obj [("objects", .arr [.str "gcode_move"])])]

private def rootsError : Json := .obj [("error", .obj [])]

/-- A link that drops in the middle of the handshake, and an error that comes late. -/
theorem late_replies_harmless_error :
    Along (Boot.step noConfig) Boot.LateHarmless (Boot.initial : Boot ZStack Json)
        [.connected, .reply 0 listReply, .disconnected, .reply 0 rootsError] ∧
      (Boot.after noConfig [.connected, .reply 0 listReply, .disconnected, .reply 0 rootsError] :
        Boot ZStack Json).OwnProgress := by
  have late : Along (Boot.step noConfig) Boot.LateHarmless (Boot.initial : Boot ZStack Json)
      [.connected, .reply 0 listReply, .disconnected, .reply 0 rootsError] := by
    refine ⟨trivial, ?_, trivial, ?_, trivial⟩
    · intro p found superseded
      have first : some p = some ⟨.objectsList 0, 0, 0⟩ := found.symm.trans rfl
      cases first
      exact absurd rfl superseded
    · intro p found _
      have first : some p = some ⟨.roots, 0, 0⟩ := found.symm.trans rfl
      cases first
      rintro node ⟨rfl⟩
      rfl
  exact ⟨late, (Boot.late_replies_harmless noConfig _ late).1⟩

/-- An objects list that arrives after the link was lost moves the progress off
the waiting stage and is merged into the replica. -/
theorem late_list_moves_boot :
    let lost : Boot ZStack Json := Boot.after noConfig [.connected, .disconnected]
    let late : Boot ZStack Json :=
      Boot.after noConfig [.connected, .disconnected, .reply 0 listReply]
    lost.pending = [⟨.objectsList 0, 0, 0⟩] ∧ lost.current = none ∧
      (lost.pct, lost.stage) = (4, "Waiting for Klipper to start...") ∧
      (late.pct, late.stage) = (78, "Subscribing to printer...") ∧
      JsonLib.isNull (lost.state.data "printer_objs") = true ∧
      JsonLib.isNull (late.state.data "printer_objs") = false :=
  ⟨rfl, rfl, rfl, rfl, rfl, by decide +kernel⟩

end Witness

end GrumpyScreen
