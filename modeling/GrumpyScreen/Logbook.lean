import GrumpyScreen.Frame

/-! The narration logbook and the readout-stale flag, with the timer that raises
the alarm on both. -/

namespace GrumpyScreen

open Lib Lib.Exec

section Dash

/-- The "READOUT STALE" label can be read. -/
def Dash.staleVisible (d : Dash) : Bool :=
  d.cockpit.ring.any fun ring => !ring.staleHidden

/-- The ring stands in the printing layout only, and its label is hidden while the
flag is down. -/
structure Dash.Mounted (d : Dash) : Prop where
  ring : d.cockpit.ring.isSome = d.held
  hidden : d.staleShown = false → d.staleVisible = false

theorem paintTemps_mounted {d : Dash} (mounted : d.Mounted) : (paintTemps d).Mounted :=
  ⟨mounted.ring, mounted.hidden⟩

theorem blind_mounted : Blind Dash.Mounted where
  sensors _ _ mounted := ⟨mounted.ring, mounted.hidden⟩
  cache _ _ mounted := ⟨mounted.ring, mounted.hidden⟩
  legacy _ _ mounted := ⟨mounted.ring, mounted.hidden⟩
  pos _ _ mounted := ⟨mounted.ring, mounted.hidden⟩
  mesh _ _ mounted := ⟨mounted.ring, mounted.hidden⟩
  fans _ _ _ mounted := ⟨mounted.ring, mounted.hidden⟩
  temps d mounted := by
    unfold repaintTemps
    split
    · exact paintTemps_mounted mounted
    · exact mounted
  ring d mounted := by
    unfold paintRing
    cases ring : d.cockpit.ring with
    | none => exact mounted
    | some r =>
      have stands : true = d.held := by simpa [ring] using mounted.ring
      have label : d.staleShown = false → (!r.staleHidden) = false := by
        simpa [Dash.staleVisible, ring] using mounted.hidden
      refine ⟨stands, fun down => ?_⟩
      simpa [Dash.staleVisible] using label down

theorem rebuildHome_mounted (d : Dash) :
    (rebuildHome d).Mounted ∧ (rebuildHome d).staleVisible = false := by
  have label : (rebuildHome d).staleVisible = false := by
    cases held : d.held with
    | true => simp [Dash.staleVisible, rebuildHome, applyMoveGates, buildHome, held]
    | false => simp [Dash.staleVisible, rebuildHome, applyMoveGates, buildHome, held]
  have stands : (rebuildHome d).cockpit.ring.isSome = d.held := by
    cases held : d.held with
    | true => simp [rebuildHome, applyMoveGates, buildHome, held]
    | false => simp [rebuildHome, applyMoveGates, buildHome, held]
  exact ⟨⟨stands, fun _ => label⟩, label⟩

theorem homeSetStale_ring (age : Int) (d : Dash) :
    (homeSetStale age d).cockpit.ring.isSome = d.cockpit.ring.isSome := by
  simp [homeSetStale]

theorem homeSetStale_hide (d : Dash) : (homeSetStale (-1) d).staleVisible = false := by
  cases ring : d.cockpit.ring <;> simp [Dash.staleVisible, homeSetStale, ring]

theorem homeSetStale_show {age : Int} (old : 0 ≤ age) (d : Dash) :
    (homeSetStale age d).staleVisible = d.cockpit.ring.isSome := by
  have fresh : ¬ age < 0 := by omega
  cases ring : d.cockpit.ring <;> simp [Dash.staleVisible, homeSetStale, ring, fresh]

theorem clearStale_mounted {d : Dash} (mounted : d.Mounted) :
    (clearStale d).Mounted ∧ (clearStale d).staleShown = false := by
  unfold clearStale
  cases shown : d.staleShown with
  | true =>
    refine ⟨⟨?_, fun _ => homeSetStale_hide d⟩, rfl⟩
    exact (homeSetStale_ring (-1) d).trans mounted.ring
  | false => exact ⟨mounted, shown⟩

theorem clearStale_again (d : Dash) : clearStale (clearStale d) = clearStale d := by
  unfold clearStale
  cases shown : d.staleShown with
  | true => rfl
  | false => simp [shown]

theorem flipLayout_mounted (printing paused : Bool) (d : Dash) :
    (flipLayout printing paused d).Mounted ∧
      (flipLayout printing paused d).staleShown = d.staleShown := by
  have rebuilt := (rebuildHome_mounted { d with printing := printing, paused := paused }).1
  unfold flipLayout
  simp only
  split
  · exact ⟨⟨rebuilt.ring, rebuilt.hidden⟩, rfl⟩
  · exact ⟨rebuilt, rfl⟩

variable {J : Type} [JsonLib J]

theorem blind_staleShown (shown : Bool) : Blind (fun d => d.staleShown = shown) :=
  blind_kept fun _ stale _ _ => stale = shown

theorem consumeHead_fresh (j : J) : Preserves (fun d => d.staleShown = false) (consumeHead j) := by
  apply consumeHead_preserves j (blind_staleShown false)
  · intro d fresh
    simp [clearStale, fresh]
  · exact fun _ _ _ fresh => fresh
  · intro d printing paused fresh
    exact (flipLayout_mounted printing paused d).2.trans fresh
  · exact fun _ _ _ fresh => fresh

theorem consumeHead_mounted (j : J) : Preserves Dash.Mounted (consumeHead j) := by
  apply consumeHead_preserves j blind_mounted
  · exact fun d mounted => (clearStale_mounted mounted).1
  · exact fun d state _ mounted => ⟨mounted.ring, mounted.hidden⟩
  · exact fun d printing paused _ => (flipLayout_mounted printing paused d).1
  · exact fun d text _ mounted => ⟨mounted.ring, mounted.hidden⟩

theorem init_mounted (j : J) : Preserves Dash.Mounted (init j) := by
  apply init_preserves blind_mounted.toStoreBlind blind_mounted.mesh
  intro d state _
  have rebuilt := (rebuildHome_mounted (state.elim d (storePrintState · d))).1
  exact ⟨rebuilt.ring, rebuilt.hidden⟩

theorem consumeHead_cleared (j : J) (d : Dash) :
    exec (consumeHead j) d = exec (consumeHead j) (clearStale d) := by
  have first : ∀ d : Dash, exec (modify clearStale : Read PUnit) d = (.ok ⟨⟩, clearStale d) :=
    fun _ => rfl
  unfold consumeHead
  rw [exec_bind_ok (first d), exec_bind_ok (first (clearStale d)), clearStale_again]

theorem consumeHead_stale (j : J) {d : Dash} (mounted : d.Mounted) :
    (final (consumeHead j) d).Mounted ∧ (final (consumeHead j) d).staleVisible = false := by
  obtain ⟨cleared, fresh⟩ := clearStale_mounted mounted
  have after : final (consumeHead j) d = final (consumeHead j) (clearStale d) :=
    congrArg Prod.snd (consumeHead_cleared j d)
  rw [after]
  have kept := (consumeHead_mounted j).final cleared
  exact ⟨kept, kept.hidden ((consumeHead_fresh j).final fresh)⟩

end Dash

section Widget

variable {L : Type → Type} [Layer L]

/-- The logbook as it was: its contents and whether it is shown. -/
def CallogKept (before after : Overlays L) : Prop :=
  after.logbook = before.logbook ∧ (after.layer.Shown .callog ↔ before.layer.Shown .callog)

theorem CallogKept.refl (o : Overlays L) : CallogKept o o := ⟨rfl, Iff.rfl⟩

theorem CallogKept.trans {first second third : Overlays L} (earlier : CallogKept first second)
    (later : CallogKept second third) : CallogKept first third :=
  ⟨later.1.trans earlier.1, later.2.trans earlier.2⟩

/-- The parts of the tracking that concern the logbook. -/
def callogTracking (p : Panel L) : Bool × String × CalStep × Bool :=
  (p.track.callogShown, p.track.callogText, p.track.callogStep, p.track.callogFault)

/-- What the panel remembers of the logbook agrees with the widget: the flag with
its visibility, the step with the text, the alarm flag and the live line with the
contents. -/
structure Logged (p : Panel L) : Prop where
  flag : p.track.callogShown = true ↔ p.ov.layer.Shown .callog
  step : p.track.callogShown = true → p.track.callogStep = parseCalMsg p.track.callogText
  alarm : p.track.callogShown = true → p.ov.logbook.fault = p.track.callogFault
  view : p.track.callogShown = true → p.track.callogFault = false →
    p.ov.logbook = p.track.callogStep.view

theorem Logged.keep {p q : Panel L} (logged : Logged p) (kept : CallogKept p.ov q.ov)
    (tracking : callogTracking q = callogTracking p) : Logged q := by
  obtain ⟨flag, rest⟩ := Prod.mk.inj tracking
  obtain ⟨text, rest⟩ := Prod.mk.inj rest
  obtain ⟨step, fault⟩ := Prod.mk.inj rest
  refine ⟨?_, ?_, ?_, ?_⟩
  · rw [flag]
    exact logged.flag.trans kept.2.symm
  · rw [flag, step, text]
    exact logged.step
  · rw [flag, kept.1, fault]
    exact logged.alarm
  · rw [flag, kept.1, fault, step]
    exact logged.view

theorem ticks_callog (between : List Tick) (p : Panel L) :
    CallogKept p.ov (between.foldl tick p).ov ∧
      callogTracking (between.foldl tick p) = callogTracking p := by
  have clock : ∀ (q : Panel L) (t : Tick),
      ((tick q t).ov.logbook, (tick q t).ov.layer, callogTracking (tick q t)) =
        (q.ov.logbook, q.ov.layer, callogTracking q) := by
    intro q t
    cases t <;> rfl
  have waited := ticks_view (fun q : Panel L => (q.ov.logbook, q.ov.layer, callogTracking q))
    clock between p
  obtain ⟨logbook, rest⟩ := Prod.mk.inj waited
  obtain ⟨layer, tracking⟩ := Prod.mk.inj rest
  exact ⟨⟨logbook, by rw [layer]⟩, tracking⟩

/-- The readout check shows the stale label exactly on a live printing layout
that has waited ten seconds. -/
theorem checkReadout_mounted {p : Panel L} (mounted : p.dash.Mounted) :
    let q := checkReadout p
    q.dash.Mounted ∧ (q.dash.staleVisible = true ↔
      p.dash.cockpit.ring.isSome = true ∧ p.msSinceStatusUpdate ≥ staleAfterMs) := by
  intro q
  cases stale : p.readoutStale with
  | true =>
    have old : p.msSinceStatusUpdate ≥ staleAfterMs := by
      simp only [Panel.readoutStale, Bool.and_eq_true, decide_eq_true_eq] at stale
      exact stale.2
    have seconds : 0 ≤ p.msSinceStatusUpdate / 1000 := by
      unfold staleAfterMs at old
      omega
    have raised : q = _ := checkReadout_of_stale stale
    rw [raised]
    have label : Dash.staleVisible
        { homeSetStale (p.msSinceStatusUpdate / 1000) p.dash with staleShown := true } =
        p.dash.cockpit.ring.isSome := homeSetStale_show seconds p.dash
    refine ⟨⟨(homeSetStale_ring _ p.dash).trans mounted.ring, fun down => Bool.noConfusion down⟩, ?_⟩
    rw [label]
    exact ⟨fun ring => ⟨ring, old⟩, fun both => both.1⟩
  | false =>
    have young : p.dash.cockpit.ring.isSome = true → ¬ p.msSinceStatusUpdate ≥ staleAfterMs := by
      intro ring old
      rw [mounted.ring] at ring
      have live : (p.dash.printing || p.dash.paused || p.dash.busy) = true := by
        rw [show (p.dash.printing || p.dash.paused) = true from ring]
        rfl
      simp only [Panel.readoutStale, live, Bool.true_and, decide_eq_false_iff_not] at stale
      exact stale old
    have kept : q = _ := checkReadout_of_fresh stale
    have cleared : q.dash.Mounted ∧ q.dash.staleVisible = false := by
      rw [kept]
      by_cases shown : p.dash.staleShown = true
      · rw [if_pos shown]
        exact ⟨⟨(homeSetStale_ring _ p.dash).trans mounted.ring, fun _ => homeSetStale_hide p.dash⟩,
          homeSetStale_hide p.dash⟩
      · rw [if_neg shown]
        exact ⟨mounted, mounted.hidden (Bool.not_eq_true _ ▸ shown)⟩
    refine ⟨cleared.1, ?_⟩
    rw [cleared.2]
    exact ⟨fun up => Bool.noConfusion up, fun both => absurd both.2 (young both.1)⟩

variable [LawfulLayer L] (p : Panel L)

theorem perform_callog (effect : Effect) : CallogKept p.ov (perform p effect).ov := by
  refine ⟨perform_logbook p effect, ?_⟩
  rw [perform_layer]
  cases effect <;> simp

theorem performAll_callog (effects : List Effect) : CallogKept p.ov (performAll p effects).ov := by
  refine performAll_invariant p (fun q => CallogKept p.ov q.ov) ?_ (CallogKept.refl p.ov)
  intro q kept effect _
  exact kept.trans (perform_callog q effect)

theorem performAll_tracking (effects : List Effect) :
    callogTracking (performAll p effects) = callogTracking p := by
  rw [callogTracking, performAll_track]
  rfl

theorem calOverlayStage_callog (printing : Bool) :
    CallogKept p.ov (calOverlayStage printing p).ov ∧
      callogTracking (calOverlayStage printing p) = callogTracking p := by
  unfold calOverlayStage
  split
  · split
    · exact ⟨⟨rfl, by simp⟩, rfl⟩
    · exact ⟨CallogKept.refl p.ov, rfl⟩
  · split
    · exact ⟨⟨rfl, by simp⟩, rfl⟩
    · exact ⟨CallogKept.refl p.ov, rfl⟩

/-- The logbook stage of a delta brings the logbook up exactly during a run, with
the text of the current message. -/
theorem logbookStage_logged {p : Panel L} (logged : Logged p) (printing : Bool) :
    let q := logbookStage printing p
    Logged q ∧ (q.track.callogShown = calRun p.dash printing) ∧
      (q.track.callogShown = true → q.track.callogText = p.dash.calMsg) := by
  intro q
  by_cases on : calRun p.dash printing = true
  · by_cases fresh : (!p.track.callogShown || p.dash.calMsg ≠ p.track.callogText) = true
    · have shown : q = { p with
          ov := calLogShow (parseCalMsg p.dash.calMsg).view p.ov
          track := { p.track with
            callogStep := parseCalMsg p.dash.calMsg, callogShown := true,
            callogText := p.dash.calMsg, callogFault := false } } := by
        show logbookStage printing p = _
        rw [logbookStage, if_pos on, if_pos fresh]
      rw [shown, on]
      refine ⟨⟨?_, fun _ => rfl, ?_, fun _ _ => rfl⟩, rfl, fun _ => rfl⟩
      · simp
      · exact fun _ => CalStep.view_fault _
    · have same : q = p := by
        show logbookStage printing p = _
        rw [logbookStage, if_pos on, if_neg fresh]
      simp only [Bool.or_eq_true, Bool.not_eq_true', decide_eq_true_eq, not_or, Bool.not_eq_false,
        ne_eq, not_not] at fresh
      rw [same, on]
      exact ⟨logged, fresh.1, fun _ => fresh.2.symm⟩
  · have off : calRun p.dash printing = false := Bool.not_eq_true _ ▸ on
    cases flag : p.track.callogShown with
    | true =>
      have dropped : q = { p with
          ov := calLogHide p.ov
          track := { p.track with callogShown := false, callogText := "", callogFault := false } } := by
        show logbookStage printing p = _
        rw [logbookStage, if_neg on, if_pos flag]
      rw [dropped, off]
      refine ⟨⟨?_, ?_, ?_, ?_⟩, rfl, ?_⟩
      · simp
      · exact fun up => Bool.noConfusion up
      · exact fun up => Bool.noConfusion up
      · exact fun up => Bool.noConfusion up
      · exact fun up => Bool.noConfusion up
    | false =>
      have same : q = p := by
        show logbookStage printing p = _
        rw [logbookStage, if_neg on, if_neg (by simp [flag])]
      rw [same, off]
      exact ⟨logged, flag, fun up => absurd (flag.symm.trans up) (by simp)⟩

/-- The lost-contact check leaves the logbook with the alarm or the live line,
by the age of the last status message. -/
theorem checkContact_logged {p : Panel L} (logged : Logged p) :
    let q := checkContact p
    Logged q ∧ q.track.callogShown = p.track.callogShown ∧
      q.track.callogText = p.track.callogText ∧
      (p.track.callogShown = true → q.ov.logbook =
        if p.msSinceStatusUpdate ≥ staleAfterMs then
          p.track.callogStep.alarm p.msSinceStatusUpdate
        else p.track.callogStep.view) := by
  intro q
  by_cases up : p.track.callogShown = true
  · by_cases silent : p.msSinceStatusUpdate ≥ staleAfterMs
    · have raised : q = { p with
          ov := calLogShow (p.track.callogStep.alarm p.msSinceStatusUpdate) p.ov
          track := { p.track with callogFault := true } } := by
        show checkContact p = _
        simp only [checkContact, if_pos up, if_pos silent]
      rw [raised, if_pos silent]
      refine ⟨⟨?_, logged.step, ?_, ?_⟩, rfl, rfl, fun _ => rfl⟩
      · simp [up]
      · exact fun _ => CalStep.alarm_fault _ _
      · exact fun _ quiet => Bool.noConfusion quiet
    · by_cases fault : p.track.callogFault = true
      · have cleared : q = { p with
            ov := calLogShow p.track.callogStep.view p.ov
            track := { p.track with callogFault := false } } := by
          show checkContact p = _
          simp only [checkContact, if_pos up, if_neg silent, if_pos fault]
        rw [cleared, if_neg silent]
        refine ⟨⟨?_, logged.step, ?_, fun _ _ => rfl⟩, rfl, rfl, fun _ => rfl⟩
        · simp [up]
        · exact fun _ => CalStep.view_fault _
      · have same : q = p := by
          show checkContact p = _
          simp only [checkContact, if_pos up, if_neg silent, if_neg fault]
        rw [same, if_neg silent]
        exact ⟨logged, rfl, rfl, fun _ => logged.view up (Bool.not_eq_true _ ▸ fault)⟩
  · have same : q = p := by
      show checkContact p = _
      rw [checkContact, if_neg up]
    rw [same]
    exact ⟨logged, rfl, rfl, fun shown => absurd shown up⟩

end Widget

section Step

variable {L : Type → Type} [Layer L] [LawfulLayer L] {J : Type} [JsonLib J]

theorem consume_logged {p : Panel L} (logged : Logged p) (j : J) :
    Logged (step p (.delta j)) := by
  show Logged (final (consume j) p)
  unfold final
  rcases consume_cases p j with ⟨d, printing, -, -, ran⟩ | ⟨d, thrown, -, ran⟩
  · rw [ran]
    have start : Logged { p with dash := d } := logged.keep (CallogKept.refl p.ov) rfl
    obtain ⟨kept, tracking⟩ := calOverlayStage_callog { p with dash := d } d.printing
    exact (logbookStage_logged (start.keep kept tracking) d.printing).1
  · rw [ran]
    exact logged.keep (CallogKept.refl p.ov) rfl

theorem consume_logbook {p : Panel L} (logged : Logged p) (j : J)
    (returned : (exec (consume j) p).1 = .ok ⟨⟩) :
    let q := step p (.delta j)
    q.track.callogShown = calRun q.dash q.dash.printing ∧
      (q.track.callogShown = true → q.track.callogText = q.dash.calMsg) := by
  intro q
  rcases consume_cases p j with ⟨d, printing, -, -, ran⟩ | ⟨d, thrown, -, ran⟩
  · have reached : q = overlayStages { p with dash := d } := congrArg Prod.snd ran
    have start : Logged { p with dash := d } := logged.keep (CallogKept.refl p.ov) rfl
    obtain ⟨kept, tracking⟩ := calOverlayStage_callog { p with dash := d } d.printing
    obtain ⟨-, flag, text⟩ := logbookStage_logged (start.keep kept tracking) d.printing
    have dash : q.dash = d := by rw [reached]; simp [overlayStages]
    rw [dash, reached]
    rw [calOverlayStage_dash] at flag text
    exact ⟨flag, text⟩
  · rw [ran] at returned
    cases returned

theorem checkContact_age (p : Panel L) :
    (checkContact p).msSinceStatusUpdate = p.msSinceStatusUpdate := by
  have clock : (checkContact p).ov.clock = p.ov.clock ∧
      (checkContact p).lastStatus = p.lastStatus := by
    unfold checkContact
    split
    · simp only
      split
      · exact ⟨rfl, rfl⟩
      · split <;> exact ⟨rfl, rfl⟩
    · exact ⟨rfl, rfl⟩
  rw [Panel.msSinceStatusUpdate, clock.1, clock.2, Panel.msSinceStatusUpdate]

theorem checkStale_logged {p : Panel L} (logged : Logged p) (between : List Tick) :
    let q := checkStale between p
    Logged q ∧ (q.track.callogShown = true → q.ov.logbook =
      if q.msSinceStatusUpdate ≥ staleAfterMs then
        (parseCalMsg q.track.callogText).alarm q.msSinceStatusUpdate
      else (parseCalMsg q.track.callogText).view) := by
  intro q
  obtain ⟨ov, track⟩ := checkReadout_ov p
  obtain ⟨kept, tracking⟩ := ticks_callog between (checkReadout p)
  have readout : Logged (checkReadout p) :=
    logged.keep (by rw [ov]; exact CallogKept.refl p.ov) (by rw [callogTracking, track]; rfl)
  have waited : Logged (between.foldl tick (checkReadout p)) := readout.keep kept tracking
  obtain ⟨final, flag, text, contents⟩ := checkContact_logged waited
  refine ⟨final, ?_⟩
  intro up
  have before := flag.symm.trans up
  have age : q.msSinceStatusUpdate =
      (between.foldl tick (checkReadout p)).msSinceStatusUpdate := checkContact_age _
  have live : q.track.callogText = _ := text
  rw [age, live, ← waited.step before]
  exact contents before

/-- Neither the logbook nor what is remembered of it moves outside the deltas, the
staleness timer and a lost link. -/
theorem step_callog (p : Panel L) (event : Event J) (other : event.isStatus = false)
    (linked : event ≠ .linkLost) :
    CallogKept p.ov (step p event).ov ∧ callogTracking (step p event) = callogTracking p := by
  have same : CallogKept p.ov p.ov := CallogKept.refl p.ov
  have handled : ∀ effects, CallogKept p.ov (performAll p effects).ov ∧
      callogTracking (performAll p effects) = callogTracking p :=
    fun effects => ⟨performAll_callog p effects, performAll_tracking p effects⟩
  have dismissed : ∀ o : Overlays L, CallogKept o (dismissKeypad o) :=
    fun o => ⟨rfl, by simp [dismissKeypad]⟩
  have confirmed : ∀ (o : Overlays L) msg action, CallogKept o (confirm msg action o) :=
    fun o msg action => ⟨rfl, by simp [confirm]⟩
  cases event with
  | delta j => simp [Event.isStatus] at other
  | seed j => simp [Event.isStatus] at other
  | staleTick between => simp [Event.isStatus] at other
  | linkLost => exact absurd rfl linked
  | homeTap button => exact handled _
  | subTap button => exact handled _
  | fileRow idx => exact handled _
  | estopTap => exact handled _
  | callogStop => exact handled _
  | slider control value =>
    cases control with
    | fan i =>
      exact ⟨performAll_callog _ (fanSliderCb _ (.fan i) value), performAll_tracking _ _⟩
    | tuneSpeed => exact handled _
    | loadLength => exact handled _
  | confirmTap target =>
    obtain ⟨effects, -, ran⟩ := confirmTap_eq target p
    have hidden : CallogKept p.ov (hideConfirm p.ov) := ⟨rfl, by simp [hideConfirm]⟩
    have performed := performAll_callog { p with ov := hideConfirm p.ov } effects
    show CallogKept p.ov (confirmTap target p).ov ∧ callogTracking (confirmTap target p) = _
    rw [ran]
    exact ⟨hidden.trans performed, performAll_tracking { p with ov := hideConfirm p.ov } effects⟩
  | key key =>
    cases key with
    | char c => exact ⟨⟨rfl, Iff.rfl⟩, rfl⟩
    | backspace => exact ⟨⟨rfl, Iff.rfl⟩, rfl⟩
    | cancel => exact ⟨dismissed p.ov, rfl⟩
    | ok =>
      simp only [step, keypadInput]
      split
      · next value use _ _ =>
        have ran := performAll_callog p (runKeypad p value use)
        exact ⟨ran.trans (dismissed _), performAll_tracking p _⟩
      · exact ⟨dismissed p.ov, rfl⟩
  | noticeTap => exact ⟨⟨rfl, by simp [step, noticeTap]⟩, rfl⟩
  | keypadScrim => exact ⟨dismissed p.ov, rfl⟩
  | promptShow => exact ⟨⟨rfl, by simp [step, promptShow]⟩, rfl⟩
  | actionDone id =>
    simp only [step]
    split
    · exact ⟨⟨rfl, by simp [hideBusyOverlay]⟩, rfl⟩
    · exact ⟨same, rfl⟩
  | printStartReply j =>
    simp only [step]
    split
    · exact ⟨same, rfl⟩
    · unfold printStartReply
      split
      · split
        · exact ⟨confirmed p.ov _ _, rfl⟩
        · exact ⟨same, rfl⟩
      · exact ⟨same, rfl⟩
  | filesReply j =>
    have ov : (step p (.filesReply j)).ov = p.ov :=
      filesReply_view Panel.ov (fun _ _ _ _ => rfl) j p
    have track : callogTracking (step p (.filesReply j)) = callogTracking p :=
      filesReply_view callogTracking (fun _ _ _ _ => rfl) j p
    exact ⟨by rw [ov]; exact same, track⟩
  | estopKeepalive =>
    show CallogKept p.ov (estopKeepalive p.ov) ∧ _
    refine ⟨?_, rfl⟩
    unfold estopKeepalive
    split
    · exact same
    · split
      · exact same
      · exact ⟨rfl, by simp⟩
  | watchdog id =>
    refine ⟨?_, rfl⟩
    have contents : (fireWatchdog id p.ov).logbook = p.ov.logbook := by
      unfold fireWatchdog
      split <;> rfl
    refine ⟨contents, ?_⟩
    show (fireWatchdog id p.ov).layer.Shown .callog ↔ _
    rcases fireWatchdog_layer p.ov id with layer | layer
    · rw [layer]
    · rw [layer]
      simp
  | tick t => cases t <;> exact ⟨⟨rfl, Iff.rfl⟩, rfl⟩
  | updateChecked avail latest status =>
    simp only [step]
    split <;> exact ⟨same, rfl⟩
  | updateFinished rc refused =>
    simp only [step]
    split
    · exact ⟨same, rfl⟩
    · simp only [updateFinished]
      generalize (if rc = 0 then "" else refused) = named
      split
      · exact ⟨⟨rfl, by simp⟩, rfl⟩
      · exact ⟨⟨rfl, by simp [notice]⟩, rfl⟩
  | metadataReply i s j =>
    have ov : (step p (.metadataReply i s j)).ov = p.ov :=
      metadataReply_view Panel.ov (fun _ _ _ => rfl) i s j p
    have tracking : callogTracking (step p (.metadataReply i s j)) = callogTracking p :=
      metadataReply_view callogTracking (fun _ _ _ => rfl) i s j p
    rw [ov]
    exact ⟨same, tracking⟩
  | loopPass inactive =>
    have ov : (step p (.loopPass inactive : Event J)).ov = p.ov :=
      loopPass_view Panel.ov (fun _ _ _ => rfl) inactive p
    have tracking : callogTracking (step p (.loopPass inactive : Event J)) = callogTracking p :=
      loopPass_view callogTracking (fun _ _ _ => rfl) inactive p
    rw [ov]
    exact ⟨same, tracking⟩
  | _ => exact ⟨⟨rfl, Iff.rfl⟩, rfl⟩

theorem linkLost_logged (p : Panel L) : Logged (linkLost p) where
  flag := by simp [linkLost, resetOverlayState, hideBusyOverlay, promptReset]
  step up := Bool.noConfusion up
  alarm up := Bool.noConfusion up
  view up := Bool.noConfusion up

theorem step_logged (p : Panel L) (event : Event J) (logged : Logged p) :
    Logged (step p event) := by
  by_cases lost : event = .linkLost
  · subst lost
    exact linkLost_logged p
  cases status : event.isStatus with
  | false =>
    obtain ⟨kept, tracking⟩ := step_callog p event status lost
    exact logged.keep kept tracking
  | true =>
    cases event with
    | delta j => exact consume_logged logged j
    | seed j => exact logged.keep (CallogKept.refl p.ov) rfl
    | staleTick between => exact (checkStale_logged logged between).1
    | _ => simp [Event.isStatus] at status

theorem step_mounted (p : Panel L) (event : Event J) (mounted : p.dash.Mounted) :
    (step p event).dash.Mounted := by
  cases status : event.isStatus with
  | false =>
    obtain ⟨fans, hidden, busy, sensors, same, -⟩ := step_dash p event status
    rw [same]
    exact ⟨mounted.ring, mounted.hidden⟩
  | true =>
    cases event with
    | delta j => exact consume_dash_preserves j (consumeHead_mounted j) p mounted
    | seed j => exact (init_mounted j).final mounted
    | staleTick between =>
      have same : (step p (.staleTick between : Event J)).dash = _ := checkStale_dash p between
      rw [same]
      exact (checkReadout_mounted mounted).1
    | _ => simp [Event.isStatus] at status

theorem logged_initial : Logged (Panel.initial : Panel L) where
  flag := by
    constructor
    · exact fun up => Bool.noConfusion up
    · intro shown
      exact absurd ((TopLayer.shown_initial .callog).mp shown) (by decide)
  step up := Bool.noConfusion up
  alarm up := Bool.noConfusion up
  view up := Bool.noConfusion up

theorem mounted_initial : (Panel.initial : Panel L).dash.Mounted := ⟨rfl, fun _ => rfl⟩

/-- In every reachable state the logbook flag is the widget's visibility. A delta
hides the stale label and, where it returns, leaves the logbook up exactly during a
run, with the current message and, unless an alarm is latched, its live line. A
tick of the staleness timer leaves the logbook with the alarm exactly after ten
seconds without a status message, and the label visible exactly on a printing
layout that waited as long. -/
theorem logbook_agrees (events : List (Event J)) :
    let p : Panel L := after events
    (p.track.callogShown = true ↔ p.ov.layer.Shown .callog) ∧
    (∀ j : J,
      let q := step p (.delta j)
      q.dash.staleVisible = false ∧
      ((exec (consume j) p).1 = .ok ⟨⟩ →
        (q.ov.layer.Shown .callog ↔ calRun q.dash q.dash.printing = true) ∧
        (q.ov.layer.Shown .callog → q.track.callogText = q.dash.calMsg ∧
          (q.track.callogFault = false → q.ov.logbook = (parseCalMsg q.dash.calMsg).view)))) ∧
    ∀ between : List Tick,
      let q := step p (.staleTick between : Event J)
      (q.ov.layer.Shown .callog →
        (q.ov.logbook.fault = true ↔ q.msSinceStatusUpdate ≥ staleAfterMs) ∧
        q.ov.logbook =
          if q.msSinceStatusUpdate ≥ staleAfterMs then
            (parseCalMsg q.track.callogText).alarm q.msSinceStatusUpdate
          else (parseCalMsg q.track.callogText).view) ∧
      (q.dash.staleVisible = true ↔
        p.dash.cockpit.ring.isSome = true ∧ p.msSinceStatusUpdate ≥ staleAfterMs) := by
  intro p
  have logged : Logged p := run_invariant step_logged logged_initial events
  have mounted : p.dash.Mounted := run_invariant step_mounted mounted_initial events
  refine ⟨logged.flag, ?_, ?_⟩
  · intro j q
    have stale : q.dash.staleVisible = false := by
      have same : q.dash = final (consumeHead j) p.dash := consume_dash p j
      rw [same]
      exact (consumeHead_stale j mounted).2
    refine ⟨stale, ?_⟩
    intro returned
    have after : Logged q := step_logged p (.delta j) logged
    obtain ⟨flag, text⟩ := consume_logbook logged j returned
    refine ⟨?_, ?_⟩
    · rw [← after.flag, flag]
    · intro shown
      have up := after.flag.mpr shown
      have message : q.track.callogText = q.dash.calMsg := text up
      refine ⟨message, ?_⟩
      intro quiet
      rw [after.view up quiet, after.step up, message]
  · intro between q
    have after : Logged q := step_logged p (.staleTick between : Event J) logged
    obtain ⟨-, contents⟩ := checkStale_logged logged between
    refine ⟨?_, ?_⟩
    · intro shown
      have live : q.ov.logbook = _ := contents (after.flag.mpr shown)
      refine ⟨?_, live⟩
      rw [live]
      split
      · next silent => exact ⟨fun _ => silent, fun _ => CalStep.alarm_fault _ _⟩
      · next heard =>
        rw [CalStep.view_fault]
        exact ⟨fun fault => Bool.noConfusion fault, fun silent => absurd silent heard⟩
    · have same : q.dash = (checkReadout p).dash := checkStale_dash p between
      rw [same]
      exact (checkReadout_mounted mounted).2

end Step

/-- A Make-Pono run with its first step announced. -/
def makePonoStarted : Json :=
  statusNotify (.obj [("idle_timeout", .obj [("state", .str "Printing")]),
    ("display_status", .obj [("message", .str "Make Pono 1/40: heat the bed | probe")])]) (.int 0)

/-- A run that falls silent for eleven seconds, is checked and reports again. -/
theorem logbook_agrees_silence :
    let p : Panel ZStack := after [.tick .stamp, .delta makePonoStarted, .tick (.elapse 11000),
      .staleTick [], .tick .stamp, .delta makePonoStarted]
    (p.track.callogShown = true ↔ p.ov.layer.Shown .callog) ∧
    (∀ j : Json,
      let q := step p (.delta j)
      q.dash.staleVisible = false ∧
      ((exec (consume j) p).1 = .ok ⟨⟩ →
        (q.ov.layer.Shown .callog ↔ calRun q.dash q.dash.printing = true) ∧
        (q.ov.layer.Shown .callog → q.track.callogText = q.dash.calMsg ∧
          (q.track.callogFault = false → q.ov.logbook = (parseCalMsg q.dash.calMsg).view)))) ∧
    ∀ between : List Tick,
      let q := step p (.staleTick between : Event Json)
      (q.ov.layer.Shown .callog →
        (q.ov.logbook.fault = true ↔ q.msSinceStatusUpdate ≥ staleAfterMs) ∧
        q.ov.logbook =
          if q.msSinceStatusUpdate ≥ staleAfterMs then
            (parseCalMsg q.track.callogText).alarm q.msSinceStatusUpdate
          else (parseCalMsg q.track.callogText).view) ∧
      (q.dash.staleVisible = true ↔
        p.dash.cockpit.ring.isSome = true ∧ p.msSinceStatusUpdate ≥ staleAfterMs) :=
  logbook_agrees _

end GrumpyScreen
