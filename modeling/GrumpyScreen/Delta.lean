import GrumpyScreen.Status

/-! What one status message does to the dashboard: which invariants every read
keeps, and the busy flag, message and print state a delta leaves. -/

namespace GrumpyScreen

open Lib Lib.Exec

variable {J : Type} [JsonLib J]

/-- A property that survives the reads which only store: the sensor rows, the cached
values, the legacy buttons and the Move readout. -/
structure StoreBlind (I : Dash → Prop) : Prop where
  sensors : ∀ d sensors, I d → I { d with sensors := sensors }
  cache : ∀ d cache, I d → I { d with cache := cache }
  legacy : ∀ d enabled, I d → I { d with legacyMotion := enabled }
  pos : ∀ d text, I d → I { d with posText := text }

/-- A property that the readouts do not enter: it survives every read except
the idle state, the print state and the display message. -/
structure Blind (I : Dash → Prop) : Prop extends StoreBlind I where
  mesh : ∀ d mesh, I d → I { d with mesh := mesh }
  fans : ∀ d fans shadows, I d → I { d with fans := fans, shadows := shadows }
  temps : ∀ d, I d → I (repaintTemps d)
  ring : ∀ d, I d → I (paintRing d)

section Reads

variable {I : Dash → Prop} {decode : J → Except JsonExn α} {store : α → Dash → Dash}

theorem pointer_preserves (j : J) (base path : List String) :
    Preserves I (pointer j base path) := Preserves.ofExcept _

theorem whenPresent_preserves (node : J) (stored : ∀ v d, I d → I (store v d)) :
    Preserves I (whenPresent node decode store) :=
  Preserves.ite (Preserves.pure _)
    (Preserves.bind (Preserves.ofExcept _) fun value => Preserves.modify (stored value))

theorem cached_preserves (j : J) (base path : List String) (stored : ∀ v d, I d → I (store v d)) :
    Preserves I (cached j base path decode store) :=
  Preserves.bind (pointer_preserves j base path) fun node => whenPresent_preserves node stored

theorem named_preserves (j : J) (base : List String) (name field : String)
    (stored : ∀ v d, I d → I (store v d)) : Preserves I (named j base name field decode store) :=
  Preserves.bind (Preserves.ofExcept _) fun path => cached_preserves j base path stored

theorem readSensors_preserves (kept : ∀ d sensors, I d → I { d with sensors := sensors })
    (j : J) (base : List String) : Preserves I (readSensors j base) := by
  refine Preserves.bind Preserves.get fun d => Preserves.forM fun el => ?_
  refine Preserves.bind (named_preserves _ _ _ _ ?_) fun _ => named_preserves _ _ _ _ ?_
  · exact fun v d holds => kept d _ holds
  · exact fun v d holds => kept d _ holds

theorem cacheField_preserves (blind : StoreBlind I) {j : J} {base path : List String}
    {put : α → Cache → Cache} : Preserves I (cacheField j base path decode put) :=
  cached_preserves j base path fun _ d holds => blind.cache d _ holds

theorem readCache_preserves (blind : StoreBlind I) (j : J) (base : List String) :
    Preserves I (readCache j base) := by
  refine Preserves.bind (cacheField_preserves blind) fun _ => ?_
  refine Preserves.bind (cacheField_preserves blind) fun _ => ?_
  refine Preserves.bind (cacheField_preserves blind) fun _ => ?_
  refine Preserves.bind (cacheField_preserves blind) fun _ => ?_
  refine Preserves.bind (cacheField_preserves blind) fun _ => ?_
  refine Preserves.bind (cacheField_preserves blind) fun _ => ?_
  refine Preserves.bind (cacheField_preserves blind) fun _ => ?_
  refine Preserves.bind (cacheField_preserves blind) fun _ => ?_
  exact cacheField_preserves blind

theorem storeAxis_preserves (blind : StoreBlind I) {node : J} {put : Float → Cache → Cache} :
    Preserves I (storeAxis node put) :=
  Preserves.bind (Preserves.ofExcept _) fun _ =>
    Preserves.modify fun d holds => blind.cache d _ holds

theorem readPosition_preserves (blind : StoreBlind I) (node : J) :
    Preserves I (readPosition node) := by
  refine Preserves.ite ?_ (Preserves.pure _)
  split
  · refine Preserves.bind (storeAxis_preserves blind) fun _ => ?_
    exact Preserves.bind (storeAxis_preserves blind) fun _ => storeAxis_preserves blind
  · exact Preserves.pure _

private theorem finishMesh_blind (kept : ∀ d mesh, I d → I { d with mesh := mesh })
    (rows cols : Nat) (d : Dash) (holds : I d) :
    I (finishMesh rows cols d) := by
  unfold finishMesh
  simp only
  split
  · exact kept d _ holds
  · exact holds

theorem renderMatrix_preserves (kept : ∀ d mesh, I d → I { d with mesh := mesh })
    (rows : List J) (cols : Nat) :
    Preserves I (renderMatrix rows cols) := by
  refine Preserves.bind (Preserves.modify fun d holds => kept d _ holds) fun _ => ?_
  refine Preserves.bind (Preserves.forM fun row => Preserves.forM fun cell => ?_) fun _ => ?_
  · exact Preserves.bind (Preserves.ofExcept _) fun z =>
      Preserves.modify fun d holds => kept d _ holds
  · exact Preserves.modify fun d holds => finishMesh_blind kept _ _ d holds

theorem renderProbedMatrix_preserves (kept : ∀ d mesh, I d → I { d with mesh := mesh }) (bm : J) :
    Preserves I (renderProbedMatrix bm) := by
  unfold renderProbedMatrix
  split
  · refine Preserves.ite ?_ (Preserves.pure _)
    split
    · exact Preserves.ite (renderMatrix_preserves kept _ _) (Preserves.pure _)
    · exact Preserves.pure _
  · exact Preserves.pure _

theorem renderProfile_preserves (kept : ∀ d mesh, I d → I { d with mesh := mesh }) (bm : J) :
    Preserves I (renderProfile bm) := by
  unfold renderProfile
  split
  · refine Preserves.ite (Preserves.bind (Preserves.ofExcept _) fun name => ?_) (Preserves.pure _)
    exact Preserves.modify fun d holds => kept d _ holds
  · exact Preserves.pure _

theorem renderBedMesh_preserves (kept : ∀ d mesh, I d → I { d with mesh := mesh }) (bm : J) :
    Preserves I (renderBedMesh bm) :=
  Preserves.bind (renderProbedMatrix_preserves kept bm) fun _ => renderProfile_preserves kept bm

theorem readMesh_preserves (kept : ∀ d mesh, I d → I { d with mesh := mesh })
    (j : J) (base : List String) : Preserves I (readMesh j base) :=
  Preserves.bind (pointer_preserves j base _) fun bm =>
    Preserves.ite (Preserves.pure _) (renderBedMesh_preserves kept bm)

theorem paintFan_blind (blind : Blind I) (i : Fin 5) (pct : Int) (d : Dash)
    (holds : I d) : I (paintFan i pct d) := by
  unfold paintFan
  split
  · exact holds
  · exact blind.fans d _ _ holds

theorem readFans_preserves (blind : Blind I) (j : J) (base : List String) :
    Preserves I (readFans j base) :=
  Preserves.forM fun i => cached_preserves _ _ _ fun _ d holds => paintFan_blind blind i _ d holds

theorem readLegacy_preserves (blind : StoreBlind I) (j : J) : Preserves I (readLegacy j) := by
  refine Preserves.bind (readSensors_preserves blind.sensors j _) fun _ => ?_
  refine Preserves.bind (Preserves.ofExcept _) fun pstat => ?_
  refine Preserves.bind (whenPresent_preserves pstat ?_) fun _ => Preserves.pure _
  exact fun s d holds => blind.legacy d _ holds

theorem readToolhead_preserves (blind : StoreBlind I) (j : J) : Preserves I (readToolhead j) := by
  refine Preserves.bind (pointer_preserves j _ _) fun homed => ?_
  refine Preserves.bind (whenPresent_preserves homed ?_) fun _ => ?_
  · exact fun v d holds => blind.cache d _ holds
  refine Preserves.bind (pointer_preserves j _ _) fun position => ?_
  refine Preserves.bind (readPosition_preserves blind position) fun _ => ?_
  exact Preserves.ite (Preserves.modify fun d holds => blind.pos d _ holds) (Preserves.pure _)

theorem updateInPlace_preserves (blind : Blind I) (j : J) (printing : Bool) :
    Preserves I (updateInPlace j printing) := by
  refine Preserves.bind (Preserves.modify blind.temps) fun _ => ?_
  refine Preserves.bind (readFans_preserves blind j _) fun _ => ?_
  refine Preserves.bind (readMesh_preserves blind.mesh j _) fun _ => ?_
  exact Preserves.ite (Preserves.modify blind.ring) (Preserves.pure _)

end Reads

/-- The print state, the busy flag and the display message. -/
structure Core where
  printing : Bool
  paused : Bool
  busy : Bool
  calMsg : String
deriving DecidableEq, Repr

def Dash.core (d : Dash) : Core := ⟨d.printing, d.paused, d.busy, d.calMsg⟩

/-- What a read of a node yields: nothing where it is absent or null. -/
def decodeNode (node : Except JsonExn J) (decode : J → Except JsonExn α) : Option α :=
  match node with
  | .ok v => if JsonLib.isNull v then none else (decode v).toOption
  | .error _ => none

/-- A text field of a delta. -/
def deltaText (j : J) (path : List String) : Option String :=
  decodeNode (JsonLib.lookup j (params0 ++ path)) JsonLib.getString

/-- `print_stats/state`, which `consume` reads through the checked `value`. -/
def deltaState (j : J) : Option String :=
  decodeNode (JsonLib.value j (params0 ++ ["print_stats", "state"])) JsonLib.getString

/-- The busy flag and message once the idle state has been read. -/
def Core.idle (c : Core) : Option String → Core
  | none => c
  | some state =>
    { c with
      calMsg := if c.busy && state ≠ "Printing" then "" else c.calMsg
      busy := state = "Printing" }

def Core.printState (c : Core) : Option String → Core
  | none => c
  | some state => { c with printing := state = "printing", paused := state = "paused" }

def Core.message (c : Core) : Option String → Core
  | none => c
  | some text => { c with calMsg := text }

/-- What a delta makes of the print state, the busy flag and the message. -/
def Core.next (c : Core) (j : J) : Core :=
  ((c.idle (deltaText j ["idle_timeout", "state"])).printState (deltaState j)).message
    (deltaText j ["display_status", "message"])

theorem Core.next_busy (c : Core) (j : J) :
    (c.next j).busy =
      (deltaText j ["idle_timeout", "state"]).elim c.busy (fun state => state = "Printing") := by
  unfold Core.next
  cases deltaText j ["idle_timeout", "state"] <;> cases deltaState j <;>
    cases deltaText j ["display_status", "message"] <;> rfl

theorem Core.next_calMsg (c : Core) (j : J) :
    (c.next j).calMsg =
      (deltaText j ["display_status", "message"]).getD
        (c.idle (deltaText j ["idle_timeout", "state"])).calMsg := by
  unfold Core.next
  cases deltaState j <;> cases deltaText j ["display_status", "message"] <;> rfl

section Core

@[simp] theorem repaintTemps_core (d : Dash) : (repaintTemps d).core = d.core := by
  unfold repaintTemps
  split <;> rfl

@[simp] theorem paintRing_core (d : Dash) : (paintRing d).core = d.core := by
  unfold paintRing
  split <;> rfl

@[simp] theorem rebuildHome_core (d : Dash) : (rebuildHome d).core = d.core := rfl

@[simp] theorem clearStale_core (d : Dash) : (clearStale d).core = d.core := by
  unfold clearStale
  split <;> rfl

@[simp] theorem flipLayout_core (printing paused : Bool) (d : Dash) :
    (flipLayout printing paused d).core = { d.core with printing := printing, paused := paused } := by
  unfold flipLayout
  simp only
  split <;> rfl

theorem blind_kept (I : Core → Bool → Bool → (MoveButton → Bool) → Prop) :
    Blind (fun d => I d.core d.staleShown d.installHidden d.moveDisabled) where
  sensors _ _ holds := holds
  cache _ _ holds := holds
  legacy _ _ holds := holds
  pos _ _ holds := holds
  mesh _ _ holds := holds
  fans _ _ _ holds := holds
  temps d holds := by
    unfold repaintTemps
    split <;> exact holds
  ring d holds := by
    unfold paintRing
    split <;> exact holds

theorem blind_core (c : Core) : Blind (fun d => d.core = c) :=
  blind_kept fun core _ _ _ => core = c

/-- A present field is stored; an absent one, or one that does not decode, leaves
the dashboard alone. -/
theorem cached_triple {P : Dash → Prop} {decode : J → Except JsonExn α}
    {store : α → Dash → Dash} (j : J) (base path : List String) :
    Triple P (cached j base path decode store)
      (fun _ d => ∃ old, P old ∧
        d = (decodeNode (JsonLib.lookup j (base ++ path)) decode).elim old (store · old))
      P := by
  have walked : Triple P (pointer j base path)
      (fun node d => P d ∧ JsonLib.lookup j (base ++ path) = .ok node) P :=
    Triple.ofExcept _ (fun _ holds => holds) fun node d found holds => ⟨holds, found⟩
  refine Triple.bind walked fun node => Triple.ite (fun null => ?_) fun present => ?_
  · rintro d ⟨holds, found⟩
    exact ⟨d, holds, by simp [decodeNode, found, null]⟩
  have read : Triple (fun d => P d ∧ JsonLib.lookup j (base ++ path) = .ok node)
      (Exec.ofExcept (decode node))
      (fun value d => (P d ∧ JsonLib.lookup j (base ++ path) = .ok node) ∧
        decode node = .ok value) P :=
    Triple.ofExcept _ (fun _ holds => holds.1) fun value d decoded holds => ⟨holds, decoded⟩
  refine Triple.bind read fun value => ?_
  rintro d ⟨⟨holds, found⟩, decoded⟩
  exact ⟨d, holds, by simp [decodeNode, found, present, decoded, Except.toOption]⟩

theorem readLegacy_triple (c : Core) (j : J) :
    Triple (fun d => d.core = c) (readLegacy j)
      (fun pstat d => d.core = c ∧
        JsonLib.value j (params0 ++ ["print_stats", "state"]) = .ok pstat)
      (fun _ => True) := by
  refine Triple.bind (readSensors_preserves (blind_core c).sensors j params0).returns fun _ => ?_
  refine Triple.bind (Triple.ofExcept _ (fun _ _ => trivial)
    fun pstat d found same => And.intro same found) fun pstat => ?_
  have kept : Preserves (fun d : Dash => d.core = c ∧
      JsonLib.value j (params0 ++ ["print_stats", "state"]) = .ok pstat)
      (whenPresent pstat JsonLib.getString fun s d => { d with legacyMotion := s ≠ "printing" }) :=
    whenPresent_preserves pstat fun _ _ holds => holds
  exact Triple.bind kept.returns fun _ => fun _ holds => holds

theorem readPrintState_triple (c : Core) (pstat : J) :
    Triple (fun d => d.core = c) (readPrintState pstat)
      (fun state d => d.core = c ∧
        { c with printing := state.1, paused := state.2 } =
          c.printState (decodeNode (.ok pstat) JsonLib.getString))
      (fun _ => True) := by
  refine Triple.ite (fun null => ?_) fun present => ?_
  · refine Triple.bind Triple.get fun value => ?_
    rintro d ⟨rfl, rfl⟩
    exact ⟨rfl, by simp [decodeNode, null, Core.printState, Dash.core]⟩
  · have read : Triple (fun d : Dash => d.core = c) (Exec.ofExcept (JsonLib.getString pstat))
        (fun s d => d.core = c ∧ JsonLib.getString pstat = .ok s) (fun _ => True) :=
      Triple.ofExcept _ (fun _ _ => trivial) fun s d decoded same => ⟨same, decoded⟩
    refine Triple.bind read fun s => ?_
    rintro d ⟨same, decoded⟩
    exact ⟨same, by simp [decodeNode, present, decoded, Except.toOption, Core.printState]⟩

theorem flipOrUpdate_triple (c : Core) (j : J) (state : Bool × Bool) (d : Dash)
    (same : d.core = c) :
    Triple (fun d => d.core = c) (flipOrUpdate j state d)
      (fun _ d => d.core = { c with printing := state.1, paused := state.2 })
      (fun _ => True) := by
  refine Triple.ite (fun flipped => ?_) fun stayed => ?_
  · intro old same
    show (flipLayout state.1 state.2 old).core = _
    rw [flipLayout_core, same]
  · have unchanged : c = { c with printing := state.1, paused := state.2 } := by
      simp only [ne_eq, not_or, not_not] at stayed
      subst same
      simp [Dash.core, stayed.1, stayed.2]
    rw [← unchanged]
    exact (updateInPlace_preserves (blind_core c) j state.1).returns

theorem applyPrintState_triple (c : Core) (j pstat : J) :
    Triple (fun d => d.core = c) (applyPrintState j pstat)
      (fun printing d =>
        d.core = c.printState (decodeNode (.ok pstat) JsonLib.getString) ∧
          d.printing = printing)
      (fun _ => True) := by
  refine Triple.bind (readPrintState_triple c pstat) fun state => ?_
  refine Triple.bind Triple.get fun d => ?_
  rintro old ⟨⟨same, settled⟩, rfl⟩
  refine Triple.bind (flipOrUpdate_triple c j state d same) (fun _ => ?_) d same
  intro final reached
  exact ⟨reached.trans settled, congrArg Core.printing reached⟩

private theorem storeIdle_core (text : Option String) (d : Dash) :
    (text.elim d (storeIdle · d)).core = d.core.idle text := by
  cases text with
  | none => rfl
  | some state => simp [storeIdle, Core.idle, Dash.core]

private theorem storeMessage_core (text : Option String) (d : Dash) :
    (text.elim d fun v => { d with calMsg := v }).core = d.core.message text := by
  cases text <;> rfl

/-- Where the reads of a delta return, they leave the print state, the busy flag
and the message the delta calls for. -/
theorem consumeHead_triple (c : Core) (j : J) :
    Triple (fun d => d.core = c) (consumeHead j)
      (fun printing d => d.core = c.next j ∧ d.printing = printing) (fun _ => True) := by
  have stale : Preserves (fun d : Dash => d.core = c) (modify clearStale : Read PUnit) :=
    Preserves.modify fun d same => (clearStale_core d).trans same
  refine Triple.bind stale.returns fun _ => ?_
  refine Triple.bind (readLegacy_triple c j) fun pstat => ?_
  rintro start ⟨same, found⟩
  have state : decodeNode (.ok pstat) JsonLib.getString = deltaState j := by
    rw [deltaState, found]
  let idled := c.idle (deltaText j ["idle_timeout", "state"])
  refine Triple.bind (readCache_preserves (blind_core c).toStoreBlind j params0).returns (fun _ => ?_) start same
  refine Triple.bind (cached_triple j params0 _).returns fun _ => ?_
  have idle : ∀ d : Dash, (∃ old : Dash, old.core = c ∧
      d = (deltaText j ["idle_timeout", "state"]).elim old (storeIdle · old)) →
      d.core = idled := by
    rintro d ⟨old, rfl, rfl⟩
    exact storeIdle_core _ old
  refine Triple.weaken ?_ idle (fun _ _ post => post) (fun _ post => post)
  refine Triple.bind (readToolhead_preserves (blind_core idled).toStoreBlind j).returns fun _ => ?_
  refine Triple.bind (applyPrintState_triple idled j pstat) fun printing => ?_
  rw [state]
  refine Triple.bind (cached_triple j params0 _).returns fun _ => ?_
  rintro d ⟨old, ⟨reached, shown⟩, rfl⟩
  have message := storeMessage_core (deltaText j ["display_status", "message"]) old
  rw [reached] at message
  refine ⟨message, ?_⟩
  show (((deltaText j ["display_status", "message"]).elim old _ : Dash)).core.printing = printing
  rw [storeMessage_core, ← shown]
  cases deltaText j ["display_status", "message"] <;> rfl

end Core

section Consume

variable {L : Type → Type} [Layer L]

/-- A calibration announces its steps. -/
def Core.calibrating (c : Core) : Bool :=
  c.busy && !c.printing && hasPrefix "Calibrating" c.calMsg

theorem calActive_eq (p : Panel L) :
    calActive p.dash.printing p = (p.dash.core.calibrating && !p.track.promptShowing) := rfl

variable [LawfulLayer L]

@[simp] theorem calOverlayStage_dash (printing : Bool) (p : Panel L) :
    (calOverlayStage printing p).dash = p.dash := by
  unfold calOverlayStage
  split
  · split <;> rfl
  · split <;> rfl

@[simp] theorem logbookStage_dash (printing : Bool) (p : Panel L) :
    (logbookStage printing p).dash = p.dash := by
  unfold logbookStage
  split
  · split <;> rfl
  · split <;> rfl

/-- The two overlay stages, which see the print state the reads left. -/
def overlayStages (p : Panel L) : Panel L :=
  logbookStage p.dash.printing (calOverlayStage p.dash.printing p)

/-- A delta that returns runs the overlay stages on the new dashboard, and one
that throws stops with the dashboard partly written and nothing else moved. -/
theorem consume_cases (p : Panel L) (j : J) :
    (∃ d printing, exec (consumeHead j) p.dash = (.ok printing, d) ∧
      d.core = p.dash.core.next j ∧
      exec (consume j) p = (.ok ⟨⟩, overlayStages { p with dash := d })) ∨
    ∃ d thrown, exec (consumeHead j) p.dash = (.error thrown, d) ∧
      exec (consume j) p = (.error thrown, { p with dash := d }) := by
  rcases outcome : exec (consumeHead j) p.dash with ⟨result, d⟩
  cases result with
  | ok printing =>
    obtain ⟨core, shown⟩ := (consumeHead_triple p.dash.core j).ok rfl outcome
    refine Or.inl ⟨d, printing, rfl, core, ?_⟩
    rw [consume, exec_bind, onDash, exec_zoom, outcome]
    subst shown
    rfl
  | error thrown =>
    refine Or.inr ⟨d, thrown, rfl, ?_⟩
    rw [consume, exec_bind, onDash, exec_zoom, outcome]

theorem consume_dash (p : Panel L) (j : J) :
    (final (consume j) p).dash = final (consumeHead j) p.dash := by
  unfold final
  rcases consume_cases p j with ⟨d, printing, head, -, ran⟩ | ⟨d, thrown, head, ran⟩
  · rw [head, ran]
    simp [overlayStages]
  · rw [head, ran]

theorem consume_dash_preserves {I : Dash → Prop} (j : J) (kept : Preserves I (consumeHead j))
    (p : Panel L) (holds : I p.dash) : I (final (consume j) p).dash := by
  rw [consume_dash]
  exact kept.final holds

end Consume

section Dashboard

variable {I : Dash → Prop}

theorem carried_preserves {decode : J → Except JsonExn α} {store : α → Dash → Dash} (j : J)
    (base path : List String)
    (stored : ∀ d value, decodeNode (JsonLib.lookup j (base ++ path)) decode = some value →
      I d → I (store value d)) : Preserves I (cached j base path decode store) := by
  refine (cached_triple j base path).weaken (fun _ holds => holds) ?_ (fun _ holds => holds)
  rintro ⟨⟩ d ⟨old, holds, rfl⟩
  cases carried : decodeNode (JsonLib.lookup j (base ++ path)) decode with
  | none => exact holds
  | some value => exact stored old value carried holds

/-- The reads of a delta that come before any label, yielding the reported print state. -/
def readDelta (j : J) : Read (Bool × Bool) := do
  modify clearStale
  let pstat ← readLegacy j
  readCache j params0
  cached j params0 ["idle_timeout", "state"] JsonLib.getString storeIdle
  readToolhead j
  readPrintState pstat

theorem consumeHead_eq (j : J) :
    consumeHead j = (do
      let state ← readDelta j
      let d ← get
      flipOrUpdate j state d
      cached j params0 ["display_status", "message"] JsonLib.getString
        fun v d => { d with calMsg := v }
      pure state.1) := by
  simp only [consumeHead, readDelta, applyPrintState, bind_assoc, pure_bind]

theorem readDelta_preserves (j : J) (blind : StoreBlind I) (stale : ∀ d, I d → I (clearStale d))
    (idle : ∀ d state, deltaText j ["idle_timeout", "state"] = some state →
      I d → I (storeIdle state d)) : Preserves I (readDelta j) := by
  refine Preserves.bind (Preserves.modify stale) fun _ => ?_
  refine Preserves.bind (readLegacy_preserves blind j) fun pstat => ?_
  refine Preserves.bind (readCache_preserves blind j _) fun _ => ?_
  refine Preserves.bind (carried_preserves j _ _ idle) fun _ => ?_
  refine Preserves.bind (readToolhead_preserves blind j) fun _ => ?_
  exact Preserves.ite (Preserves.bind Preserves.get fun _ => Preserves.pure _)
    (Preserves.bind (Preserves.ofExcept _) fun _ => Preserves.pure _)

/-- A property survives a delta where it survives what the delta writes: its stored
fields, the flip, or in place the temperatures, the fans it carries, its mesh and the
ring, and last its message. -/
theorem consumeHead_writes (j : J) (stored : StoreBlind I) (stale : ∀ d, I d → I (clearStale d))
    (idle : ∀ d state, deltaText j ["idle_timeout", "state"] = some state →
      I d → I (storeIdle state d))
    (flip : ∀ d printing paused, I d → I (flipLayout printing paused d))
    (temps : ∀ d, I d → I (repaintTemps d))
    (fan : ∀ d i v, decodeNode (JsonLib.lookup j (params0 ++ [fanObject i, "speed"]))
      JsonLib.getDouble = some v → I d → I (paintFan i (percent v) d))
    (mesh : Preserves I (readMesh j params0)) (ring : ∀ d, I d → I (paintRing d))
    (message : ∀ d text, deltaText j ["display_status", "message"] = some text →
      I d → I { d with calMsg := text }) :
    Preserves I (consumeHead j) := by
  rw [consumeHead_eq]
  refine Preserves.bind (readDelta_preserves j stored stale idle) fun state => ?_
  refine Preserves.bind Preserves.get fun d => Preserves.bind ?_ fun _ => ?_
  · refine Preserves.ite (Preserves.modify fun d => flip d _ _) ?_
    refine Preserves.bind (Preserves.modify temps) fun _ => ?_
    refine Preserves.bind (Preserves.forM fun i => ?_) fun _ => Preserves.bind mesh fun _ => ?_
    · exact carried_preserves j _ _ fun d v carried holds => fan d i v carried holds
    · exact Preserves.ite (Preserves.modify ring) (Preserves.pure _)
  · exact Preserves.bind (carried_preserves j _ _ message) fun _ => Preserves.pure _

/-- A blind property that also survives the stale flag, the delta's idle state, the
flip and the delta's message survives the delta. -/
theorem consumeHead_preserves (j : J) (blind : Blind I) (stale : ∀ d, I d → I (clearStale d))
    (idle : ∀ d state, deltaText j ["idle_timeout", "state"] = some state →
      I d → I (storeIdle state d))
    (flip : ∀ d printing paused, I d → I (flipLayout printing paused d))
    (message : ∀ d text, deltaText j ["display_status", "message"] = some text →
      I d → I { d with calMsg := text }) :
    Preserves I (consumeHead j) :=
  consumeHead_writes j blind.toStoreBlind stale idle flip blind.temps
    (fun d i _ _ holds => paintFan_blind blind i _ d holds)
    (readMesh_preserves blind.mesh j params0) blind.ring message

/-- A delta that returns has read its fields, then flipped the layout or updated the
labels in place, and last stored its message. -/
theorem consumeHead_returned {j : J} {d reached : Dash} {printing : Bool}
    (ran : exec (consumeHead j) d = (.ok printing, reached)) :
    ∃ state stored shown, exec (readDelta j) d = (.ok state, stored) ∧
      exec (flipOrUpdate j state stored) stored = (.ok ⟨⟩, shown) ∧
      reached = (deltaText j ["display_status", "message"]).elim shown
        (fun v => { shown with calMsg := v }) ∧ printing = state.1 := by
  rw [consumeHead_eq] at ran
  obtain ⟨state, stored, reads, ran⟩ := exec_bind_returned ran
  rw [exec_bind_ok (exec_get stored)] at ran
  obtain ⟨⟨⟩, shown, labels, ran⟩ := exec_bind_returned ran
  obtain ⟨⟨⟩, told, message, ran⟩ := exec_bind_returned ran
  obtain ⟨old, rfl, rfl⟩ := (cached_triple (P := (· = shown)) j params0 _).ok rfl message
  cases ran
  exact ⟨state, stored, old, reads, labels, rfl, rfl⟩

theorem readDelta_state (j : J) : Keeps (fun d => (d.printing, d.paused)) (readDelta j) := by
  intro state
  apply readDelta_preserves j
  · exact { sensors := fun _ _ same => same, cache := fun _ _ same => same,
            legacy := fun _ _ same => same, pos := fun _ _ same => same }
  · intro d same
    unfold clearStale
    split <;> exact same
  · exact fun d state _ same => same

theorem consumeHead_inPlace {j : J} {d reached : Dash} {printing : Bool}
    (ran : exec (consumeHead j) d = (.ok printing, reached))
    (kept : (reached.printing, reached.paused) = (d.printing, d.paused)) :
    ∃ stored shown, exec (readDelta j) d = (.ok (d.printing, d.paused), stored) ∧
      exec (updateInPlace j d.printing) stored = (.ok ⟨⟩, shown) ∧
      reached = (deltaText j ["display_status", "message"]).elim shown
        (fun v => { shown with calMsg := v }) := by
  obtain ⟨state, stored, shown, reads, labels, same, -⟩ := consumeHead_returned ran
  have layout : (stored.printing, stored.paused) = (d.printing, d.paused) := by
    have stayed := (readDelta_state j).final d
    rwa [final, reads] at stayed
  have settled := (flipOrUpdate_triple stored.core j state stored rfl).ok rfl labels
  have told : (reached.printing, reached.paused) = (shown.printing, shown.paused) := by
    rw [same]
    cases deltaText j ["display_status", "message"] <;> rfl
  have state_eq : state = (d.printing, d.paused) := by
    rw [← kept, told]
    exact Prod.ext (congrArg Core.printing settled).symm (congrArg Core.paused settled).symm
  subst state_eq
  refine ⟨stored, shown, reads, ?_, same⟩
  obtain ⟨printing_eq, paused_eq⟩ := Prod.mk.inj layout
  rwa [flipOrUpdate, printing_eq, paused_eq, if_neg (by simp)] at labels

/-- The end of the snapshot: rebuild in the layout of the stored print state. -/
def settle (d : Dash) : Dash :=
  { rebuildHome d with posText := posText d.cache }

/-- `print_stats/state` of a snapshot. -/
def seedState (j : J) : Option String :=
  decodeNode (JsonLib.lookup j (resultStatus ++ ["print_stats", "state"])) JsonLib.getString

/-- A snapshot that is read through stores its print state and rebuilds the cockpit,
with nothing in between that can throw. -/
theorem init_triple (blind : StoreBlind I) (mesh : ∀ d mesh, I d → I { d with mesh := mesh })
    (j : J) :
    Triple I (init j)
      (fun _ d => ∃ old, I old ∧ d = settle ((seedState j).elim old (storePrintState · old))) I := by
  refine Triple.bind (readSensors_preserves blind.sensors j _) fun _ => ?_
  refine Triple.bind (readMesh_preserves mesh j _) fun _ => ?_
  refine Triple.bind (readCache_preserves blind j _) fun _ => ?_
  refine Triple.bind (cacheField_preserves blind) fun _ => ?_
  refine Triple.bind (pointer_preserves j _ _) fun position => ?_
  refine Triple.bind (readPosition_preserves blind position) fun _ => ?_
  refine Triple.bind (cached_triple j resultStatus _) fun _ => ?_
  rintro d ⟨old, holds, rfl⟩
  exact ⟨old, holds, rfl⟩

theorem init_preserves (blind : StoreBlind I) (mesh : ∀ d mesh, I d → I { d with mesh := mesh })
    (rebuilt : ∀ d state, I d → I (settle ((state : Option String).elim d (storePrintState · d))))
    (j : J) : Preserves I (init j) := by
  refine (init_triple blind mesh j).weaken (fun _ holds => holds) ?_ (fun _ holds => holds)
  rintro ⟨⟩ d ⟨old, holds, rfl⟩
  exact rebuilt old _ holds

end Dashboard

section Operation

theorem blind_operation (I : Bool → String → Prop) :
    Blind (fun d => I d.core.busy d.core.calMsg) :=
  blind_kept fun core _ _ _ => I core.busy core.calMsg

theorem consumeHead_operation (I : Bool → String → Prop) (j : J)
    (idle : ∀ busy text state, deltaText j ["idle_timeout", "state"] = some state → I busy text →
      I (state = "Printing") (if busy && state ≠ "Printing" then "" else text))
    (message : ∀ busy text told, deltaText j ["display_status", "message"] = some told →
      I busy text → I busy told) :
    Preserves (fun d => I d.core.busy d.core.calMsg) (consumeHead j) := by
  apply consumeHead_preserves j (blind_operation I)
  · intro d holds
    rw [clearStale_core]
    exact holds
  · intro d state told holds
    have stored := idle d.busy d.calMsg state told holds
    simpa [storeIdle, Dash.core] using stored
  · intro d printing paused holds
    rw [flipLayout_core]
    exact holds
  · exact fun d text told holds => message d.busy d.calMsg text told holds

theorem init_operation (I : Bool → String → Prop) (j : J) :
    Preserves (fun d => I d.core.busy d.core.calMsg) (init j) := by
  refine init_preserves (blind_operation I).toStoreBlind (blind_operation I).mesh
    (fun d state holds => ?_) j
  cases state <;> exact holds

end Operation

end GrumpyScreen
