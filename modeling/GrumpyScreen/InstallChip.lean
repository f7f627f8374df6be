import GrumpyScreen.Handlers
import GrumpyScreen.Seed

/-! The Install chip of the System screen: offered for a version that is there to
be installed, and only while no job is loaded. -/

namespace GrumpyScreen

open Lib Lib.Exec

/-- `check_update` on its thread: what it makes of the update lane, the installed
version and the published version text. -/
def checkResult (lane current vt : String) : Bool × String × String :=
  let lane := if lane = "" then "nightly" else lane
  if lane = "nightly" ∨ lane = "stable" then
    let pfx := "pono-print-"
    let latest :=
      if hasPrefix pfx vt then
        String.ofList ((vt.toList.drop pfx.length).takeWhile (· ≠ ' '))
      else ""
    if latest = "" then (false, latest, s!"check failed ({lane})")
    else if latest = current then (false, latest, s!"up to date ({lane})")
    else (true, latest, latest ++ " available")
  else (false, "", "pinned: " ++ lane)

theorem checkResult_named (lane current vt : String) :
    (checkResult lane current vt).1 = true → (checkResult lane current vt).2.1 ≠ "" := by
  unfold checkResult
  simp only
  generalize (if lane = "" then "nightly" else lane) = lane
  generalize (if hasPrefix "pono-print-" vt then
    String.ofList ((vt.toList.drop "pono-print-".length).takeWhile (· ≠ ' ')) else "") = latest
  by_cases known : lane = "nightly" ∨ lane = "stable"
  · rw [if_pos known]
    by_cases named : latest = ""
    · rw [if_pos named]
      exact fun avail => Bool.noConfusion avail
    · rw [if_neg named]
      split
      · exact fun avail => Bool.noConfusion avail
      · exact fun _ => named
  · rw [if_neg known]
    exact fun avail => Bool.noConfusion avail

/-- The end of an update check brings what the check computed. -/
def Event.Checked : Event J → Prop
  | .updateChecked avail latest status =>
    ∃ lane current vt, (avail, latest, status) = checkResult lane current vt
  | _ => True

section Chip

variable {L : Type → Type} [Layer L]

/-- A visible chip stands for a version, and no job is loaded. -/
def ChipSound (p : Panel L) : Prop :=
  p.dash.installHidden = false →
    p.dash.printing = false ∧ p.dash.paused = false ∧ p.ui.updateAvail ≠ ""

def jobState (state : Option String) : Bool :=
  state = some "printing" || state = some "paused"

/-- A snapshot comes while the chip is hidden, is not read through, or reports no job. -/
def SeedSpares [JsonLib J] (p : Panel L) : Event J → Prop
  | .seed j =>
    p.dash.installHidden = true ∨ ¬ Returns (init j) p.dash ∨ jobState (seedState j) = false
  | _ => True

/-- What a step must be like to leave a sound chip sound. -/
def ChipAllowed [JsonLib J] (p : Panel L) (event : Event J) : Prop :=
  SeedSpares p event ∧
    match event with
    | .updateChecked avail latest _ =>
      p.ui.updateChecking = true → avail = true → p.dash.held = false → latest ≠ ""
    | _ => True

variable {p q : Panel L}

/-- The chip may have been hidden; nothing else about it moved. -/
structure ChipKept (p q : Panel L) : Prop where
  hidden : q.dash.installHidden = false → p.dash.installHidden = false
  printing : q.dash.printing = p.dash.printing
  paused : q.dash.paused = p.dash.paused
  avail : q.ui.updateAvail = p.ui.updateAvail

theorem ChipKept.refl (p : Panel L) : ChipKept p p := ⟨id, rfl, rfl, rfl⟩

theorem ChipKept.sound (kept : ChipKept p q) (sound : ChipSound p) : ChipSound q := by
  intro visible
  rw [kept.printing, kept.paused, kept.avail]
  exact sound (kept.hidden visible)

section Delta

variable {J : Type} [JsonLib J]

/-- What a delta leaves of a chip over no job. -/
def ChipAfter (hidden : Bool) (d : Dash) : Prop :=
  d.installHidden = false → hidden = false ∧ d.printing = false ∧ d.paused = false

theorem blind_chip (hidden : Bool) : Blind (ChipAfter hidden) :=
  blind_kept fun core _ chip _ =>
    chip = false → hidden = false ∧ core.printing = false ∧ core.paused = false

theorem flipLayout_chip {hidden : Bool} (printing paused : Bool) (d : Dash)
    (after : ChipAfter hidden d) : ChipAfter hidden (flipLayout printing paused d) := by
  unfold flipLayout
  simp only
  split
  · intro visible
    cases visible
  · next idle =>
    have state : printing = false ∧ paused = false := by
      simpa [Dash.held, rebuildHome, applyMoveGates] using idle
    exact fun visible => ⟨(after visible).1, state⟩

theorem consumeHead_chip (hidden : Bool) (j : J) :
    Preserves (ChipAfter hidden) (consumeHead j) := by
  apply consumeHead_preserves j (blind_chip hidden)
  · intro d holds
    unfold clearStale
    split <;> exact holds
  · exact fun d state _ holds => holds
  · exact fun d printing paused holds => flipLayout_chip printing paused d holds
  · exact fun d text _ holds => holds

variable [LawfulLayer L]

theorem delta_chip (p : Panel L) (j : J) (sound : ChipSound p) :
    ChipSound (step p (.delta j)) := by
  intro visible
  have start : ChipAfter p.dash.installHidden p.dash := fun visible =>
    ⟨visible, (sound visible).1, (sound visible).2.1⟩
  have after : ChipAfter p.dash.installHidden (step p (.delta j)).dash :=
    consume_dash_preserves j (consumeHead_chip _ j) p start
  obtain ⟨was, printing, paused⟩ := after visible
  have avail : (step p (.delta j)).ui = p.ui := consume_view Panel.ui (fun _ _ _ _ => rfl) j p
  rw [avail]
  exact ⟨printing, paused, (sound was).2.2⟩

end Delta

section Seed

variable {J : Type} [JsonLib J]

theorem blind_state (printing paused hidden : Bool) :
    Blind (fun d => d.printing = printing ∧ d.paused = paused ∧ d.installHidden = hidden) :=
  blind_kept fun core _ chip _ =>
    core.printing = printing ∧ core.paused = paused ∧ chip = hidden

theorem init_state (j : J) (d : Dash) :
    (final (init j) d).installHidden = d.installHidden ∧
      (Returns (init j) d → ((final (init j) d).printing, (final (init j) d).paused) =
        (seedState j).elim (d.printing, d.paused)
          fun state => (decide (state = "printing"), decide (state = "paused"))) ∧
      (¬ Returns (init j) d →
        ((final (init j) d).printing, (final (init j) d).paused) = (d.printing, d.paused)) := by
  have blind := blind_state d.printing d.paused d.installHidden
  have after := init_triple blind.toStoreBlind blind.mesh j d ⟨rfl, rfl, rfl⟩
  unfold final Returns
  rcases outcome : exec (init j) d with ⟨result, reached⟩
  rw [outcome] at after
  cases result with
  | ok value =>
    obtain ⟨old, ⟨printing, paused, hidden⟩, rfl⟩ := after
    refine ⟨?_, fun _ => ?_, fun thrown => absurd ⟨value, rfl⟩ thrown⟩
    · cases seedState j <;> exact hidden
    · cases seedState j with
      | none => exact Prod.ext printing paused
      | some state => rfl
  | error thrown =>
    obtain ⟨printing, paused, hidden⟩ := after
    refine ⟨hidden, ?_, fun _ => Prod.ext printing paused⟩
    rintro ⟨value, no⟩
    cases no

variable [LawfulLayer L]

theorem seed_chip (p : Panel L) (j : J) (sound : ChipSound p) :
    ChipSound (step p (.seed j)) ↔ SeedSpares p (.seed j) := by
  obtain ⟨hidden, read, thrown⟩ := init_state j p.dash
  have dash : (step p (.seed j)).dash = final (init j) p.dash := rfl
  have ui : (step p (.seed j)).ui = p.ui := rfl
  unfold ChipSound SeedSpares
  rw [dash, ui, hidden]
  cases visible : p.dash.installHidden with
  | true => simp
  | false =>
    obtain ⟨printing, paused, avail⟩ := sound visible
    rw [printing, paused] at read thrown
    by_cases returned : Returns (init j) p.dash
    · have told := read returned
      cases state : seedState j with
      | none =>
        rw [state] at told
        obtain ⟨newPrinting, newPaused⟩ := Prod.mk.inj told
        simp [state, newPrinting, newPaused, avail, jobState]
      | some text =>
        rw [state] at told
        obtain ⟨newPrinting, newPaused⟩ := Prod.mk.inj told
        simp [state, newPrinting, newPaused, returned, avail, jobState]
    · obtain ⟨newPrinting, newPaused⟩ := Prod.mk.inj (thrown returned)
      simp [newPrinting, newPaused, returned, avail]

end Seed

section Step

variable {J : Type} [JsonLib J] [LawfulLayer L]

theorem perform_chip (p q : Panel L) (effect : Effect) (kept : ChipKept p q)
    (spares : ∀ ui, effect.writes = some ui → ui.updateAvail = p.ui.updateAvail) :
    ChipKept p (perform q effect) := by
  cases effect with
  | controls ui => exact ⟨kept.hidden, kept.printing, kept.paused, spares ui rfl⟩
  | checkUpdate =>
    obtain ⟨_, _, _, shown, left⟩ := perform_checkUpdate q
    rw [left]
    exact ⟨fun visible => kept.hidden (shown visible), kept.printing, kept.paused, kept.avail⟩
  | _ => exact ⟨kept.hidden, kept.printing, kept.paused, kept.avail⟩

theorem handled_chip (p : Panel L) (event : Event J) (handled : event.isHandled = true) :
    ChipKept p (step p event) := by
  refine handled_preserves (ChipKept p) handled ?_ ?_ ?_ (ChipKept.refl p)
  · intro q effect member kept
    exact perform_chip p q effect kept fun ui writes =>
      congrArg Prod.snd (effects_spares p event effect member ui writes)
  · exact fun q ov kept => ⟨kept.hidden, kept.printing, kept.paused, kept.avail⟩
  · exact fun q fans kept => ⟨kept.hidden, kept.printing, kept.paused, kept.avail⟩

theorem staleTick_chip (p : Panel L) (between : List Tick) :
    ChipKept p (step p (.staleTick between : Event J)) := by
  obtain ⟨cockpit, stale, whole⟩ := staleTick_dash (J := J) p between
  have ui : (step p (.staleTick between : Event J)).ui = p.ui :=
    checkStale_view Panel.ui (fun _ _ _ _ _ => rfl) between p
  refine ⟨fun visible => ?_, by rw [whole], by rw [whole], by rw [ui]⟩
  rwa [whole] at visible

theorem updateFinished_chip (p : Panel L) (rc : Int) (refused : String) :
    ChipKept p (updateFinished rc refused p) := by
  have hides : (if rc = 0 then p.dash.installHidden else true) = false →
      p.dash.installHidden = false := by
    split
    · exact id
    · exact fun visible => Bool.noConfusion visible
  simp only [updateFinished]
  generalize (if rc = 0 then "" else refused) = named
  split
  · exact ⟨hides, rfl, rfl, rfl⟩
  · exact ⟨hides, rfl, rfl, rfl⟩

theorem filesReply_chip (p : Panel L) (j : J) : ChipKept p (step p (.filesReply j)) := by
  simp only [step]
  split
  · exact ChipKept.refl p
  · have kept : Preserves (ChipKept p) (filesReply j) := by
      apply filesReply_writes j
      · exact fun q kept => ⟨kept.hidden, kept.printing, kept.paused, kept.avail⟩
      · exact fun q _ kept => ⟨kept.hidden, kept.printing, kept.paused, kept.avail⟩
      · exact fun q _ _ _ kept => ⟨kept.hidden, kept.printing, kept.paused, kept.avail⟩
      · intro q kept
        refine ⟨kept.hidden, kept.printing, kept.paused, Eq.trans ?_ kept.avail⟩
        unfold showNoFiles
        split <;> rfl
    exact kept.final ⟨id, rfl, rfl, rfl⟩

theorem metadataReply_chip (p : Panel L) (i : Nat) (s : State J) (j : J) :
    ChipKept p (step p (.metadataReply i s j)) := by
  simp only [step]
  split
  · next captured _ =>
    have kept : Preserves (ChipKept p) (metadataReply captured s j) := by
      apply metadataReply_writes captured s j
      intro q row thumb zoom detail kept
      refine ⟨kept.hidden, kept.printing, kept.paused, Eq.trans ?_ kept.avail⟩
      unfold filesApplyMeta
      split <;> rfl
    exact kept.final ⟨id, rfl, rfl, rfl⟩
  · exact ChipKept.refl p

theorem updateChecked_chip (p : Panel L) (avail : Bool) (latest status : String)
    (sound : ChipSound p) :
    ChipSound (step p (.updateChecked avail latest status : Event J)) ↔
      ChipAllowed p (.updateChecked avail latest status : Event J) := by
  unfold ChipAllowed SeedSpares
  simp only [step, true_and]
  cases checking : p.ui.updateChecking with
  | false => simpa using sound
  | true =>
    cases avail with
    | false => simp [ChipSound, updateChecked]
    | true =>
      cases printing : p.dash.printing <;> cases paused : p.dash.paused <;>
        simp [ChipSound, updateChecked, Dash.held, printing, paused]

/-- A step leaves a sound chip sound exactly where the condition allows it. -/
theorem step_chip (p : Panel L) (event : Event J) (sound : ChipSound p) :
    ChipSound (step p event) ↔ ChipAllowed p event := by
  have kept : ChipKept p (step p event) → ChipAllowed p event →
      (ChipSound (step p event) ↔ ChipAllowed p event) := fun kept allowed =>
    iff_of_true (kept.sound sound) allowed
  cases handled : event.isHandled with
  | true =>
    apply kept (handled_chip p event handled)
    cases event <;> first | exact ⟨trivial, trivial⟩ | cases handled
  | false =>
    cases event with
    | homeTap _ | subTap _ | fileRow _ | slider _ _ | estopTap | callogStop | confirmTap _
    | key _ => cases handled
    | delta j => exact iff_of_true (delta_chip p j sound) ⟨trivial, trivial⟩
    | seed j => exact (seed_chip p j sound).trans (and_iff_left trivial).symm
    | updateChecked avail latest status => exact updateChecked_chip p avail latest status sound
    | staleTick between => exact kept (staleTick_chip p between) ⟨trivial, trivial⟩
    | filesReply j => exact kept (filesReply_chip p j) ⟨trivial, trivial⟩
    | metadataReply i s j => exact kept (metadataReply_chip p i s j) ⟨trivial, trivial⟩
    | updateFinished rc refused =>
      apply kept _ ⟨trivial, trivial⟩
      simp only [step]
      split
      · exact ChipKept.refl p
      · have finished := updateFinished_chip { p with
          waits := { p.waits with updateRuns := p.waits.updateRuns - 1 } } rc refused
        exact ⟨finished.hidden, finished.printing, finished.paused, finished.avail⟩
    | actionDone action =>
      apply kept _ ⟨trivial, trivial⟩
      simp only [step]
      split <;> exact ⟨id, rfl, rfl, rfl⟩
    | printStartReply j =>
      apply kept _ ⟨trivial, trivial⟩
      simp only [step]
      split
      · exact ChipKept.refl p
      · unfold printStartReply
        split
        · split <;> exact ⟨id, rfl, rfl, rfl⟩
        · exact ⟨id, rfl, rfl, rfl⟩
    | tick t => cases t <;> exact kept ⟨id, rfl, rfl, rfl⟩ ⟨trivial, trivial⟩
    | loopPass inactive =>
      apply kept _ ⟨trivial, trivial⟩
      simp only [step, loopPass]
      split
      · exact ⟨id, rfl, rfl, rfl⟩
      · split <;> exact ⟨id, rfl, rfl, rfl⟩
    | _ => exact kept ⟨id, rfl, rfl, rfl⟩ ⟨trivial, trivial⟩

end Step

section Runs

variable {J : Type} [JsonLib J]

/-- In a run whose update checks bring what they computed, every state is sound
exactly if no snapshot of a running or paused job is read while the chip is shown. -/
theorem chip_only_when_idle (L : Type → Type) [Layer L] [LawfulLayer L] (events : List (Event J))
    (checked : ∀ event ∈ events, event.Checked) :
    (∀ before, before <+: events → ChipSound (after before : Panel L)) ↔
      Along step SeedSpares (Panel.initial : Panel L) events := by
  have initial : ChipSound (Panel.initial : Panel L) := fun visible => nomatch visible
  have exactly : ∀ (p : Panel L) (event : Event J), True → ChipSound p →
      (ChipSound (step p event) ↔ ChipAllowed p event) := fun p event _ sound =>
    step_chip p event sound
  have runs := invariant_iff_along (fun _ _ _ => trivial) exactly
    trivial initial events
  refine runs.trans (along_congr (fun p event member => and_iff_left ?_) _)
  have brings := checked event member
  cases event with
  | updateChecked avail latest status =>
    obtain ⟨lane, current, vt, result⟩ := brings
    obtain ⟨rfl, rest⟩ := Prod.mk.inj result
    obtain ⟨rfl, -⟩ := Prod.mk.inj rest
    exact fun _ avail _ => checkResult_named lane current vt avail
  | _ => trivial

end Runs

end Chip

section Scenarios

/-- The System screen is opened and its update check finds a version. -/
def updateFound : List (Event Json) :=
  [.subTap (.system "signed"), .updateChecked true "0.0.2" "0.0.2 available"]

theorem updateFound_checked : ∀ event ∈ updateFound, event.Checked := by
  intro event member
  rcases List.mem_cons.mp member with rfl | rest
  · trivial
  · rw [List.mem_singleton.mp rest]
    exact ⟨"stable", "0.0.1", "pono-print-0.0.2 @ b0ebeff", by decide⟩

theorem chip_only_when_idle_found : ChipSound (after updateFound : Panel ZStack) :=
  (chip_only_when_idle ZStack updateFound updateFound_checked).mpr ⟨trivial, trivial, trivial⟩
    updateFound (List.prefix_refl _)

/-- The link comes back to a printer that prints, and the chip stays. -/
theorem chip_over_print :
    let p : Panel ZStack := after (updateFound ++ [.seed (subscribeReply printingSnapshot)])
    p.dash.installHidden = false ∧ p.dash.printing = true := by
  decide +kernel

end Scenarios

end GrumpyScreen
