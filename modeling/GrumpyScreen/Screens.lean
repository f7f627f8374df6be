import GrumpyScreen.Frame

/-! The active screen: which of its children a callback shows, hides or moves. -/

namespace GrumpyScreen

open Lib Lib.Exec

/-- The children that the navigation shows and hides: the cockpit and the
sub-screens. -/
def ScrObj.isPage : ScrObj → Bool
  | .home | .sub _ => true
  | _ => false

variable {L : Type → Type} [Layer L] [LawfulLayer L]

/-- The sub-screens all hidden, as the navigation begins. -/
def subsHidden (t : Stack L ScrObj) : Stack L ScrObj :=
  Screen.all.foldl (fun scr s => scr.conceal (.sub s)) t

private theorem concealed_shown {o : ScrObj} (fixed : o.isPage = false) (screens : List Screen)
    (t : Stack L ScrObj) :
    (screens.foldl (fun scr s => scr.conceal (.sub s)) t).Shown o ↔ t.Shown o := by
  induction screens generalizing t with
  | nil => rfl
  | cons s rest ih =>
    have other : o ≠ .sub s := fun same => by simp [same, ScrObj.isPage] at fixed
    rw [List.foldl_cons, ih, Stack.shown_conceal]
    simp [other]

theorem subsHidden_shown {o : ScrObj} (fixed : o.isPage = false) (t : Stack L ScrObj) :
    (subsHidden t).Shown o ↔ t.Shown o := concealed_shown fixed Screen.all t

theorem showPono_shown {o : ScrObj} (fixed : o.isPage = false) (screen : Screen) (p : Panel L) :
    (showPono screen p).scr.Shown o ↔ p.scr.Shown o := by
  have page : o ≠ .sub screen := fun same => by simp [same, ScrObj.isPage] at fixed
  have home : o ≠ .home := fun same => by simp [same, ScrObj.isPage] at fixed
  have raised : (showPono screen p).scr = ((subsHidden p.scr).conceal .home).raise (.sub screen) :=
    rfl
  rw [raised, Stack.shown_raise, Stack.shown_conceal, subsHidden_shown fixed]
  simp [page, home]

theorem backToHome_shown {o : ScrObj} (fixed : o.isPage = false) (p : Panel L) :
    (backToHome p).scr.Shown o ↔ p.scr.Shown o := by
  have home : o ≠ .home := fun same => by simp [same, ScrObj.isPage] at fixed
  have raised : (backToHome p).scr = (subsHidden p.scr).raise .home := rfl
  rw [raised, Stack.shown_raise, subsHidden_shown fixed]
  simp [home]

theorem perform_scr (p : Panel L) (effect : Effect) :
    (perform p effect).scr =
      match effect with
      | .screen screen => (showPono screen p).scr
      | .home => (backToHome p).scr
      | .wifi => p.scr.foreground .wifi
      | _ => p.scr := by
  cases effect with
  | checkUpdate =>
    obtain ⟨_, _, _, -, left⟩ := perform_checkUpdate p
    rw [left]
  | _ => rfl

theorem perform_shown {o : ScrObj} (fixed : o.isPage = false) (p : Panel L) (effect : Effect) :
    (perform p effect).scr.Shown o ↔ p.scr.Shown o := by
  rw [perform_scr]
  cases effect with
  | screen screen => exact showPono_shown fixed screen p
  | home => exact backToHome_shown fixed p
  | wifi => exact Stack.shown_foreground
  | _ => exact Iff.rfl

theorem performAll_shown {o : ScrObj} (fixed : o.isPage = false) (p : Panel L)
    (effects : List Effect) : (performAll p effects).scr.Shown o ↔ p.scr.Shown o := by
  induction effects generalizing p with
  | nil => rfl
  | cons effect rest ih => exact (ih (perform p effect)).trans (perform_shown fixed p effect)

section Writers

variable {J : Type} [JsonLib J]

theorem consume_scr (j : J) (p : Panel L) : (final (consume j) p).scr = p.scr :=
  consume_view Panel.scr (fun _ _ _ _ => rfl) j p

omit [JsonLib J] in
theorem checkStale_scr (between : List Tick) (p : Panel L) :
    (checkStale between p).scr = p.scr :=
  checkStale_view Panel.scr (fun _ _ _ _ _ => rfl) between p

end Writers

section Step

variable {J : Type} [JsonLib J] {o : ScrObj}

theorem confirmTap_shown (fixed : o.isPage = false) (target : ConfirmTarget) (p : Panel L) :
    (confirmTap target p).scr.Shown o ↔ p.scr.Shown o := by
  obtain ⟨effects, _, same⟩ := confirmTap_eq target p
  rw [same]
  exact performAll_shown fixed { p with ov := hideConfirm p.ov } effects

theorem keypadInput_shown (fixed : o.isPage = false) (key : Key) (p : Panel L) :
    (keypadInput p key).scr.Shown o ↔ p.scr.Shown o := by
  cases key with
  | ok =>
    simp only [keypadInput]
    split
    · exact performAll_shown fixed p _
    · rfl
  | _ => rfl

theorem sliderInput_shown (fixed : o.isPage = false) (slider : Slider) (value : Int)
    (p : Panel L) : (sliderInput slider value p).scr.Shown o ↔ p.scr.Shown o := by
  simp only [sliderInput]
  cases slider <;> exact performAll_shown fixed _ _

theorem printStartReply_shown (fixed : o.isPage = false) (j : J) (p : Panel L) :
    (printStartReply j p).scr.Shown o ↔ p.scr.Shown o := by
  unfold printStartReply
  split
  · split <;> rfl
  · exact backToHome_shown fixed p

/-- Nothing but the boot screen's own callbacks shows or hides a child that is
no page of the navigation. -/
theorem step_shown (fixed : o.isPage = false) (p : Panel L) (e : Event J)
    (off : e ≠ .linkLost ∧ e ≠ .linkReady) : (step p e).scr.Shown o ↔ p.scr.Shown o := by
  cases e with
  | homeTap button => exact performAll_shown fixed p _
  | subTap button => exact performAll_shown fixed p _
  | fileRow idx => exact performAll_shown fixed p _
  | slider slider value => exact sliderInput_shown fixed slider value p
  | estopTap => exact performAll_shown fixed p _
  | callogStop => exact performAll_shown fixed p _
  | confirmTap target => exact confirmTap_shown fixed target p
  | key key => exact keypadInput_shown fixed key p
  | wifiBack =>
    simp only [step]
    exact Stack.shown_background
  | delta j => exact iff_of_eq (congrArg (Stack.Shown · o) (consume_scr j p))
  | printStartReply j =>
    simp only [step]
    split
    · rfl
    · exact printStartReply_shown fixed j _
  | filesReply j => rw [filesReply_view Panel.scr (fun _ _ _ _ => rfl) j p]
  | promptShow =>
    simp only [step, promptShow]
    exact Stack.shown_foreground
  | promptEnd =>
    simp only [step, promptEnd]
    exact Stack.shown_background
  | linkLost => exact absurd rfl off.1
  | linkReady => exact absurd rfl off.2
  | staleTick between => exact iff_of_eq (congrArg (Stack.Shown · o) (checkStale_scr between p))
  | metadataReply i s j =>
    rw [metadataReply_view Panel.scr (fun _ _ _ => rfl) i s j p]
  | loopPass inactive =>
    simp only [step, loopPass]
    split
    · rw [Stack.shown_foreground]
    · split
      · rw [Stack.shown_background]
      · rfl
  | actionDone _ | updateChecked _ _ _ | updateFinished _ _ | tick _ =>
    apply iff_of_eq
    exact side_view (fun q => q.scr.Shown o) (fun _ _ _ _ _ _ _ _ _ _ _ => rfl) p _ rfl
  | _ => rfl

end Step

end GrumpyScreen
