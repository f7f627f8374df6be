import GrumpyScreen.Logbook
import GrumpyScreen.MoveGate
import GrumpyScreen.Seed

/-! The cockpit over a run of status messages: it stands in the layout of the print state,
and the ring follows a running print. -/

namespace GrumpyScreen

open Lib Lib.Exec

namespace Dash

/-- The pill is the one of the print state. -/
def Labelled (d : Dash) : Prop := d.cockpit.pill = pillOf d.printing d.paused

/-- What the ring shows of the cached job; the remaining time once it is known. A ring
that was just rebuilt has its labels cut to their buffers. -/
def RingCurrent (rebuilt : Bool) (d : Dash) : Prop :=
  ∀ ring, d.cockpit.ring = some ring →
    ring.arc = percent d.cache.progress ∧
      ring.pct = (if rebuilt then snprintf 8 (percentText d.cache) else percentText d.cache) ∧
      ring.layer = (if rebuilt then snprintf 28 (layerText d.cache) else layerText d.cache) ∧
      (d.cache.etaKnown = true → ring.eta = etaText d.cache.progress d.cache.duration)

end Dash

section Writes

theorem rebuildHome_labelled (d : Dash) : (rebuildHome d).Labelled :=
  buildHome_pill d.printing d.paused d.cache _

theorem rebuildHome_ring (d : Dash) : (rebuildHome d).RingCurrent true := by
  intro ring found
  simp only [rebuildHome, applyMoveGates, buildHome] at found
  split at found
  · next held =>
    obtain rfl := Option.some.inj found
    refine ⟨rfl, rfl, rfl, fun known => ?_⟩
    have known : d.cache.etaKnown = true := known
    simp [held, known, rebuildHome, applyMoveGates]
  · cases found

theorem flipLayout_labelled (printing paused : Bool) (d : Dash) :
    (flipLayout printing paused d).Labelled := by
  have labelled := rebuildHome_labelled { d with printing := printing, paused := paused }
  simp only [flipLayout]
  split <;> exact labelled

theorem flipLayout_ring (printing paused : Bool) (d : Dash) :
    (flipLayout printing paused d).RingCurrent true := by
  have current := rebuildHome_ring { d with printing := printing, paused := paused }
  simp only [flipLayout]
  split <;> exact current

theorem paintRing_current (d : Dash) : (paintRing d).RingCurrent false := by
  intro ring found
  unfold paintRing at found ⊢
  cases before : d.cockpit.ring with
  | none =>
    rw [before] at found
    exact absurd (before.symm.trans found) (by simp)
  | some old =>
    rw [before] at found
    obtain rfl := Option.some.inj found
    refine ⟨rfl, rfl, rfl, fun known => ?_⟩
    have known : d.cache.etaKnown = true := known
    simp [known]

end Writes

section Reads

variable {J : Type} [JsonLib J]

theorem blind_labelled : Blind Dash.Labelled where
  sensors _ _ labelled := labelled
  cache _ _ labelled := labelled
  legacy _ _ labelled := labelled
  pos _ _ labelled := labelled
  mesh _ _ labelled := labelled
  fans _ _ _ labelled := labelled
  temps d labelled := by
    unfold repaintTemps
    split <;> exact labelled
  ring d labelled := by
    unfold paintRing
    split <;> exact labelled

theorem consumeHead_labelled (j : J) : Preserves Dash.Labelled (consumeHead j) := by
  apply consumeHead_preserves j blind_labelled
  · intro d labelled
    unfold clearStale
    split <;> exact labelled
  · exact fun _ _ _ labelled => labelled
  · exact fun d printing paused _ => flipLayout_labelled printing paused d
  · exact fun _ _ _ labelled => labelled

theorem init_labelled (j : J) : Preserves Dash.Labelled (init j) := by
  apply init_preserves blind_labelled.toStoreBlind blind_labelled.mesh
  exact fun _ _ _ => rebuildHome_labelled _

theorem updateInPlace_ring (j : J) :
    Triple (fun _ => True) (updateInPlace j true) (fun _ d => d.RingCurrent false)
      (fun _ => True) := by
  have anything : ∀ {α : Type} (m : Read α),
      Triple (fun _ => True) m (fun _ _ => True) (fun _ => True) := by
    intro α m d _
    rcases exec m d with ⟨result, reached⟩
    cases result <;> trivial
  refine Triple.bind (anything _) fun _ => Triple.bind (anything _) fun _ => ?_
  exact Triple.bind (anything _) fun _ d _ => paintRing_current d

/-- A delta that returns with a print running has drawn the ring, by a rebuild where the
print state flipped. -/
theorem consumeHead_ring {j : J} {d reached : Dash} {printing : Bool}
    (ran : exec (consumeHead j) d = (.ok printing, reached)) (running : printing = true) :
    reached.RingCurrent
      (decide ((reached.printing, reached.paused) ≠ (d.printing, d.paused))) := by
  have message : ∀ (rebuilt : Bool) (shown : Dash), shown.RingCurrent rebuilt →
      ((deltaText j ["display_status", "message"]).elim shown
        fun v => { shown with calMsg := v }).RingCurrent rebuilt := by
    intro rebuilt shown drawn
    cases deltaText j ["display_status", "message"] <;> exact drawn
  have printed := ((consumeHead_triple d.core j).ok rfl ran).2
  by_cases kept : (reached.printing, reached.paused) = (d.printing, d.paused)
  · obtain ⟨stored, shown, -, labels, same⟩ := consumeHead_inPlace ran kept
    have started : d.printing = true :=
      (congrArg Prod.fst kept).symm.trans (printed.trans running)
    rw [started] at labels
    rw [decide_eq_false (not_not.mpr kept), same]
    exact message false shown ((updateInPlace_ring j).ok trivial labels)
  · obtain ⟨state, stored, shown, reads, labels, same, -⟩ := consumeHead_returned ran
    have layout : (stored.printing, stored.paused) = (d.printing, d.paused) := by
      have stayed := (readDelta_state j).final d
      rwa [final, reads] at stayed
    have settled := (flipOrUpdate_triple stored.core j state stored rfl).ok rfl labels
    have told : (reached.printing, reached.paused) = state := by
      have shows : (reached.printing, reached.paused) = (shown.printing, shown.paused) := by
        rw [same]
        cases deltaText j ["display_status", "message"] <;> rfl
      rw [shows]
      exact Prod.ext (congrArg Core.printing settled) (congrArg Core.paused settled)
    have flipped : state.1 ≠ stored.printing ∨ state.2 ≠ stored.paused := by
      rw [told, ← layout, Prod.ext_iff] at kept
      exact not_and_or.mp kept
    rw [flipOrUpdate, if_pos flipped, exec_modify] at labels
    obtain rfl := (Prod.mk.inj labels).2
    rw [decide_eq_true kept, same]
    exact message true _ (flipLayout_ring _ _ _)

end Reads

section Runs

variable {L : Type → Type} [Layer L] [LawfulLayer L] {J : Type} [JsonLib J]

theorem step_labelled (p : Panel L) (event : Event J) (labelled : p.dash.Labelled) :
    (step p event).dash.Labelled := by
  by_cases status : event.isStatus = true
  · cases event with
    | delta j => exact consume_dash_preserves j (consumeHead_labelled j) p labelled
    | seed j => exact (init_labelled j).final labelled
    | staleTick between =>
      have same : (step p (.staleTick between : Event J)).dash = (checkReadout p).dash :=
        checkStale_dash p between
      rw [same]
      cases stale : p.readoutStale with
      | true =>
        rw [checkReadout_of_stale stale]
        exact labelled
      | false =>
        rw [checkReadout_of_fresh stale]
        split <;> exact labelled
    | _ => simp [Event.isStatus] at status
  · obtain ⟨fans, hidden, busy, sensors, same, -⟩ :=
      step_dash p event (Bool.not_eq_true _ ▸ status)
    rw [same]
    exact labelled

theorem initial_labelled : (Panel.initial : Panel L).dash.Labelled := rfl

/-- In every run the pill, the ring and the Move buttons stand in the layout of the print
state, also where a message threw; and after a message that returns with a print running
the ring shows the cached progress, layers and remaining time, its labels cut to their
buffers if the message rebuilt it. -/
theorem cockpit_current (events : List (Event J)) :
    let p : Panel L := after events
    p.dash.Labelled ∧ p.dash.cockpit.ring.isSome = p.dash.held ∧ p.dash.Gated ∧
      ∀ j : J, Returns (consume j) p →
        let told := (step p (.delta j)).dash
        told.printing = true → told.RingCurrent
          (decide ((told.printing, told.paused) ≠ (p.dash.printing, p.dash.paused))) := by
  intro p
  have labelled : p.dash.Labelled := run_invariant step_labelled initial_labelled events
  have mounted : p.dash.Mounted := run_invariant step_mounted mounted_initial events
  refine ⟨labelled, mounted.ring, after_gated events, fun j returned => ?_⟩
  intro told running
  have head : told = final (consumeHead j) p.dash := consume_dash p j
  rcases consume_cases p j with ⟨d, printing, ran, -, -⟩ | ⟨d, thrown, -, ran⟩
  · have printed := ((consumeHead_triple p.dash.core j).ok rfl ran).2
    rw [head, final, ran] at running ⊢
    exact consumeHead_ring ran (printed.symm.trans running)
  · obtain ⟨value, returned⟩ := returned
    rw [ran] at returned
    cases returned

end Runs

private def layerDelta (current : Int) : Json :=
  statusNotify
    (.obj [("print_stats", .obj [("state", .str "printing"),
      ("info", .obj [("current_layer", .int current), ("total_layer", .int 2000000000)])])]) .null

/-- A print starts in a layer too long for its buffer, and the next message is drawn in
place. -/
theorem cockpit_current_printing :
    let idle : Panel ZStack := after ([] : List (Event Json))
    let p : Panel ZStack := after [.delta (layerDelta 2000000000)]
    (step idle (.delta (layerDelta 2000000000))).dash.RingCurrent true ∧
      p.dash.cockpit.ring.map Ring.layer = some "layer 2000000000 / 20000000" ∧
      (step p (.delta (layerDelta 2000000000))).dash.RingCurrent false := by
  intro idle p
  have first : Returns (consume (layerDelta 2000000000)) idle := ⟨⟨⟩, by decide +kernel⟩
  have second : Returns (consume (layerDelta 2000000000)) p := ⟨⟨⟩, by decide +kernel⟩
  have started : (step idle (.delta (layerDelta 2000000000))).dash.printing = true := by
    decide +kernel
  have running : (step p (.delta (layerDelta 2000000000))).dash.printing = true := by
    decide +kernel
  have flipped := (cockpit_current (L := ZStack) []).2.2.2 _ first started
  have kept := (cockpit_current (L := ZStack) [.delta (layerDelta 2000000000)]).2.2.2 _ second
    running
  refine ⟨?_, by decide +kernel, ?_⟩
  · exact flipped
  · exact kept

end GrumpyScreen
