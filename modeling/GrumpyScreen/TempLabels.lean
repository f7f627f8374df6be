import GrumpyScreen.Lib.Run
import GrumpyScreen.Lib.Shadow
import GrumpyScreen.Seed

/-! The temperature labels of the cockpit, the Temperature screen and the Filament
screen, which a delta repaints only when the cached values left their shadows. -/

namespace GrumpyScreen

open Lib Lib.Exec

/-- The four temperatures. -/
structure Temps where
  nozzle : Int
  nozzleSet : Int
  bed : Int
  bedSet : Int
deriving DecidableEq, Repr

def Cache.readTemps (c : Cache) : Temps := ⟨c.nozzle, c.nozzleSet, c.bed, c.bedSet⟩

def Shadows.readTemps (s : Shadows) : Temps := ⟨s.nozzle, s.nozzleSet, s.bed, s.bedSet⟩

/-- What the render shadows are reset to. -/
def Temps.unset : Temps := ⟨intMin, intMin, intMin, intMin⟩

/-- The texts of the labels on the three screens. -/
structure TempTexts where
  nozzle : String × String
  bed : String × String
  temps : TempsScreen
  filTemp : String

/-- The labels of the four temperatures. -/
def Temps.texts (t : Temps) : TempTexts where
  nozzle := (s!"{t.nozzle}", targetLabel "/ " t.nozzleSet)
  bed := (s!"{t.bed}", targetLabel "/ " t.bedSet)
  temps := {
    nzCur := s!"{t.nozzle}", nzTgt := targetLabel "set " t.nozzleSet
    bdCur := s!"{t.bed}", bdTgt := targetLabel "set " t.bedSet }
  filTemp := s!"{t.nozzle} / " ++ targetLabel "" t.nozzleSet

def Dash.tempTexts (d : Dash) : TempTexts :=
  ⟨d.cockpit.nozzle.texts, d.cockpit.bed.texts, d.temps, d.filTemp⟩

/-- The labels with their shadow. -/
def Dash.tempLabels (d : Dash) : Shadowed Temps TempTexts := ⟨d.shadows.readTemps, d.tempTexts⟩

theorem repaintTemps_labels (d : Dash) :
    (repaintTemps d).tempLabels = d.tempLabels.refresh Temps.texts d.cache.readTemps := by
  have moved : (d.cache.nozzle ≠ d.shadows.nozzle ∨ d.cache.nozzleSet ≠ d.shadows.nozzleSet ∨
      d.cache.bed ≠ d.shadows.bed ∨ d.cache.bedSet ≠ d.shadows.bedSet) ↔
      ¬ d.cache.readTemps = d.tempLabels.shadow := by
    simp only [Cache.readTemps, Dash.tempLabels, Shadows.readTemps, Temps.mk.injEq]
    tauto
  unfold repaintTemps Shadowed.refresh
  by_cases same : d.cache.readTemps = d.tempLabels.shadow
  · rw [if_neg (moved.not.mpr (not_not_intro same)), if_pos same]
  · rw [if_pos (moved.mpr same), if_neg same]
    rfl

theorem repaintTemps_cache (d : Dash) : (repaintTemps d).cache = d.cache := by
  unfold repaintTemps
  split <;> rfl

/-- The labels are drawn from their shadows, or due to be drawn. -/
def Dash.TempsHonest (d : Dash) : Prop := d.tempLabels.Honest Temps.texts .unset

theorem rebuildHome_honest (d : Dash) : (rebuildHome d).TempsHonest :=
  Shadowed.honest_reset _

section Reads

variable {J : Type} [JsonLib J]

theorem clearStale_labels (d : Dash) : (clearStale d).tempLabels = d.tempLabels := by
  unfold clearStale
  split <;> rfl

theorem paintFan_labels (i : Fin 5) (pct : Int) (d : Dash) :
    (paintFan i pct d).tempLabels = d.tempLabels ∧ (paintFan i pct d).cache = d.cache := by
  unfold paintFan
  split <;> exact ⟨rfl, rfl⟩

theorem paintRing_labels (d : Dash) :
    (paintRing d).tempLabels = d.tempLabels ∧ (paintRing d).cache = d.cache := by
  unfold paintRing
  split <;> exact ⟨rfl, rfl⟩

theorem repaintTemps_honest (d : Dash) (honest : d.TempsHonest) : (repaintTemps d).TempsHonest := by
  have drawn := Shadowed.Honest.refresh honest d.cache.readTemps
  rwa [← repaintTemps_labels] at drawn

theorem flipLayout_honest (d : Dash) (printing paused : Bool) :
    (flipLayout printing paused d).TempsHonest := by
  simp only [flipLayout]
  split <;> exact rebuildHome_honest _

theorem readDelta_labels (j : J) : Keeps Dash.tempLabels (readDelta j) := by
  intro labels
  apply readDelta_preserves j
  · exact { sensors := fun _ _ same => same, cache := fun _ _ same => same,
            legacy := fun _ _ same => same, pos := fun _ _ same => same }
  · exact fun d same => (clearStale_labels d).trans same
  · exact fun d state _ same => same

theorem updateInPlace_labels (j : J) (printing : Bool) (d : Dash) :
    (final (updateInPlace j printing) d).tempLabels =
        d.tempLabels.refresh Temps.texts d.cache.readTemps ∧
      (final (updateInPlace j printing) d).cache = d.cache := by
  let I : Dash → Prop := fun reached =>
    reached.tempLabels = d.tempLabels.refresh Temps.texts d.cache.readTemps ∧
      reached.cache = d.cache
  have painted : I (repaintTemps d) := ⟨repaintTemps_labels d, repaintTemps_cache d⟩
  have fan : ∀ i pct reached, I reached → I (paintFan i pct reached) := by
    rintro i pct reached ⟨labels, cache⟩
    obtain ⟨sameLabels, sameCache⟩ := paintFan_labels i pct reached
    exact ⟨sameLabels.trans labels, sameCache.trans cache⟩
  have ring : ∀ reached, I reached → I (paintRing reached) := by
    rintro reached ⟨labels, cache⟩
    obtain ⟨sameLabels, sameCache⟩ := paintRing_labels reached
    exact ⟨sameLabels.trans labels, sameCache.trans cache⟩
  have rest : Preserves I (do
      readFans j params0
      readMesh j params0
      if printing then modify paintRing else pure ⟨⟩) := by
    refine Preserves.bind (Preserves.forM fun i => ?_) fun _ => Preserves.bind ?_ fun _ => ?_
    · exact cached_preserves j _ _ fun v reached holds => fan i _ reached holds
    · exact readMesh_preserves (fun reached mesh holds => holds) j params0
    · exact Preserves.ite (Preserves.modify ring) (Preserves.pure _)
  exact rest.final painted

theorem consumeHead_honest (j : J) : Preserves Dash.TempsHonest (consumeHead j) := by
  have kept : ∀ {d e : Dash}, e.tempLabels = d.tempLabels → d.TempsHonest → e.TempsHonest := by
    intro d e same honest
    rwa [Dash.TempsHonest, same]
  apply consumeHead_writes j
  · exact { sensors := fun _ _ honest => honest, cache := fun _ _ honest => honest,
            legacy := fun _ _ honest => honest, pos := fun _ _ honest => honest }
  · exact fun d honest => kept (clearStale_labels d) honest
  · exact fun d state _ honest => honest
  · exact fun d printing paused _ => flipLayout_honest d printing paused
  · exact repaintTemps_honest
  · exact fun d i v _ honest => kept (paintFan_labels i _ d).1 honest
  · exact readMesh_preserves (fun d mesh honest => honest) j params0
  · exact fun d honest => kept (paintRing_labels d).1 honest
  · exact fun d text _ honest => honest

theorem init_honest (j : J) : Preserves Dash.TempsHonest (init j) := by
  have stored : StoreBlind Dash.TempsHonest := ⟨fun _ _ honest => honest, fun _ _ honest => honest,
    fun _ _ honest => honest, fun _ _ honest => honest⟩
  exact init_preserves stored (fun _ _ honest => honest) (fun d state _ => rebuildHome_honest _) j

/-- A delta that returns and keeps the layout redraws the labels where their shadow
says so. -/
theorem consumeHead_labels {j : J} {d reached : Dash} {printing : Bool}
    (ran : exec (consumeHead j) d = (.ok printing, reached))
    (kept : (reached.printing, reached.paused) = (d.printing, d.paused)) :
    reached.tempLabels = d.tempLabels.refresh Temps.texts reached.cache.readTemps := by
  obtain ⟨stored, shown, reads, labels, rfl⟩ := consumeHead_inPlace ran kept
  have before : stored.tempLabels = d.tempLabels := by
    have same := (readDelta_labels j).final d
    rwa [final, reads] at same
  obtain ⟨drawn, cache⟩ := updateInPlace_labels j d.printing stored
  rw [final, labels, before] at drawn
  rw [final, labels] at cache
  have settled : shown.tempLabels = d.tempLabels.refresh Temps.texts shown.cache.readTemps := by
    rw [drawn, cache]
  cases deltaText j ["display_status", "message"] with
  | none => exact settled
  | some text => exact settled

end Reads

/-- A call that writes the labels or what they are drawn from. -/
inductive StatusCall (J : Type) where
  | init (j : J)
  | consume (j : J)
  | rebuildHome

section Calls

variable {L : Type → Type} [Layer L] [LawfulLayer L] {J : Type} [JsonLib J]

def StatusCall.run (p : Panel L) : StatusCall J → Panel L
  | .init j => final (onDash (GrumpyScreen.init j)) p
  | .consume j => final (GrumpyScreen.consume j) p
  | .rebuildHome => { p with dash := GrumpyScreen.rebuildHome p.dash }

theorem StatusCall.run_honest (p : Panel L) (call : StatusCall J) (honest : p.dash.TempsHonest) :
    (call.run p).dash.TempsHonest := by
  cases call with
  | init j => exact (init_honest j).final honest
  | consume j => exact consume_dash_preserves j (consumeHead_honest j) p honest
  | rebuildHome => exact rebuildHome_honest p.dash

theorem calls_honest (calls : List (StatusCall J)) :
    (run StatusCall.run (Panel.initial : Panel L) calls).dash.TempsHonest :=
  run_invariant StatusCall.run_honest (Or.inl rfl) calls

/-- A delta that returns in the layout it found leaves the labels at the cached values,
except where these are what the shadows had been reset to. -/
theorem labels_current (L : Type → Type) [Layer L] [LawfulLayer L] (calls : List (StatusCall J))
    (j : J)
    (returned : Returns (consume j) (run StatusCall.run (Panel.initial : Panel L) calls)) :
    let p : Panel L := run StatusCall.run Panel.initial calls
    let q := StatusCall.run p (.consume j)
    (q.dash.printing, q.dash.paused) = (p.dash.printing, p.dash.paused) →
      ¬ (q.dash.cache.readTemps = .unset ∧ p.dash.shadows.readTemps = .unset) →
        q.dash.tempTexts = q.dash.cache.readTemps.texts := by
  intro p q kept apart
  obtain ⟨⟨⟩, returned⟩ := returned
  have head : q.dash = final (consumeHead j) p.dash := consume_dash p j
  rcases consume_cases p j with ⟨d, printing, ran, -, -⟩ | ⟨d, thrown, -, ran⟩
  · rw [final, ran] at head
    rw [head] at kept apart ⊢
    have drawn := consumeHead_labels ran kept
    have honest : p.dash.TempsHonest := calls_honest calls
    have shown := honest.refresh_shown apart
    rw [← drawn] at shown
    exact shown
  · rw [ran] at returned
    cases returned

end Calls

/-- A delta of the four temperatures. -/
def tempsDelta (nozzle nozzleSet bed bedSet : Float) : Json :=
  statusNotify
    (.obj [("extruder", .obj [("temperature", .num nozzle), ("target", .num nozzleSet)]),
      ("heater_bed", .obj [("temperature", .num bed), ("target", .num bedSet)])]) .null

/-- A snapshot of a heated printer, a job that starts and the temperatures once more. -/
def heatedCalls : List (StatusCall Json) :=
  [.init (subscribeReply (.obj
      [("extruder", .obj [("temperature", .num 215.0), ("target", .num 220.0)]),
        ("heater_bed", .obj [("temperature", .num 60.0), ("target", .num 60.0)])])),
    .consume jobStarted, .consume (tempsDelta 215.0 220.0 60.0 60.0)]

/-- The delta that follows repeats them, and its repaint is skipped. -/
theorem labels_current_heated :
    let p : Panel ZStack := run StatusCall.run Panel.initial heatedCalls
    let q := StatusCall.run p (.consume (tempsDelta 215.0 220.0 60.0 60.0))
    p.dash.printing = true ∧ p.dash.shadows.readTemps = q.dash.cache.readTemps ∧
      q.dash.tempTexts = q.dash.cache.readTemps.texts := by
  refine ⟨by decide +kernel, by decide +kernel, ?_⟩
  exact labels_current ZStack heatedCalls (tempsDelta 215.0 220.0 60.0 60.0)
    ⟨⟨⟩, by decide +kernel⟩ (by decide +kernel) (by decide +kernel)

/-- The first delta brings the four values that the shadows start from. -/
theorem labels_unset :
    ¬ ∀ (calls : List (StatusCall Json)) (j : Json),
      let p : Panel ZStack := run StatusCall.run Panel.initial calls
      let q := StatusCall.run p (.consume j)
      Returns (consume j) p →
        (q.dash.printing, q.dash.paused) = (p.dash.printing, p.dash.paused) →
          q.dash.tempTexts = q.dash.cache.readTemps.texts := by
  intro always
  let j := tempsDelta (-2147483648.0) (-2147483648.0) (-2147483648.0) (-2147483648.0)
  have same := always [] j ⟨⟨⟩, by decide +kernel⟩ (by decide +kernel)
  have shown := congrArg (fun texts : TempTexts => texts.temps.nzCur) same
  exact absurd shown (by decide +kernel)

end GrumpyScreen
