import GrumpyScreen.Handlers
import GrumpyScreen.PromptCover

/-! What the glass shows below the overlays: over any run the legacy tabs stay covered, and
of the native pages one is at the front. -/

namespace GrumpyScreen

open Lib Lib.Exec

variable {L : Type → Type} [Layer L] [LawfulLayer L]

/-- Kept by whatever a callback does to the active screen, the display's sleep and the
prompt. -/
structure KeptByScreens (Inv : Stack L ScrObj → Bool → Bool → Prop) : Prop where
  screen : ∀ t asleep prompt page, Inv t asleep prompt →
    Inv (((subsHidden t).conceal .home).raise (.sub page)) asleep prompt
  home : ∀ t asleep prompt, Inv t asleep prompt → Inv ((subsHidden t).raise .home) asleep prompt
  wifi : ∀ t asleep prompt, Inv t asleep prompt → Inv (t.foreground .wifi) asleep prompt
  wifiBack : ∀ t asleep prompt, Inv t asleep prompt → Inv (t.background .wifi) asleep prompt
  promptUp : ∀ t asleep prompt, Inv t asleep prompt → Inv (t.foreground .prompt) asleep true
  promptDown : ∀ t asleep prompt, Inv t asleep prompt → Inv (t.background .prompt) asleep false
  lost : ∀ t asleep prompt, Inv t asleep prompt → Inv (t.raise .boot) asleep prompt
  ready : ∀ t asleep prompt, Inv t asleep prompt →
    Inv ((t.drop .boot).raise .home) asleep prompt
  sleep : ∀ t asleep prompt, Inv t asleep prompt → Inv (t.foreground .saver) true prompt
  wake : ∀ t asleep prompt, Inv t asleep prompt → Inv (t.background .saver) false prompt

theorem perform_asleep (p : Panel L) (effect : Effect) :
    (perform p effect).asleep = p.asleep := by
  cases effect with
  | checkUpdate =>
    obtain ⟨_, _, _, -, left⟩ := perform_checkUpdate p
    rw [left]
  | _ => rfl

section Step

variable {J : Type} [JsonLib J] {Inv : Stack L ScrObj → Bool → Bool → Prop}

theorem perform_screens (kept : KeptByScreens Inv) (p : Panel L) (effect : Effect)
    (holds : Inv p.scr p.asleep p.track.promptShowing) :
    Inv (perform p effect).scr (perform p effect).asleep (perform p effect).track.promptShowing := by
  rw [perform_scr, perform_asleep, perform_track]
  cases effect with
  | screen page => exact kept.screen _ _ _ page holds
  | home => exact kept.home _ _ _ holds
  | wifi => exact kept.wifi _ _ _ holds
  | _ => exact holds

/-- What each move on the active screen keeps, an event keeps. -/
theorem step_screens (kept : KeptByScreens Inv) (p : Panel L) (event : Event J)
    (holds : Inv p.scr p.asleep p.track.promptShowing) :
    Inv (step p event).scr (step p event).asleep (step p event).track.promptShowing := by
  have quiet : ∀ {q : Panel L}, q.scr = p.scr → q.asleep = p.asleep →
      q.track.promptShowing = p.track.promptShowing →
      Inv q.scr q.asleep q.track.promptShowing := by
    intro q scr asleep prompt
    rw [scr, asleep, prompt]
    exact holds
  cases handled : event.isHandled with
  | true =>
    exact handled_preserves (fun q => Inv q.scr q.asleep q.track.promptShowing) handled
      (fun q effect _ holds => perform_screens kept q effect holds) (fun _ _ holds => holds)
      (fun _ _ holds => holds) holds
  | false =>
    cases event with
    | wifiBack => exact kept.wifiBack _ _ _ holds
    | promptShow => exact kept.promptUp _ _ _ holds
    | promptEnd => exact kept.promptDown _ _ _ holds
    | linkLost => exact kept.lost _ _ _ (kept.promptDown _ _ _ holds)
    | linkReady => exact kept.ready _ _ _ holds
    | loopPass inactive =>
      simp only [step, loopPass]
      split
      · exact kept.sleep _ _ _ holds
      · split
        · exact kept.wake _ _ _ holds
        · exact holds
    | printStartReply j =>
      simp only [step, printStartReply]
      split
      · exact holds
      · split
        · split <;> exact holds
        · exact kept.home _ _ _ holds
    | delta j =>
      exact quiet (consume_scr j p) (consume_view Panel.asleep (fun _ _ _ _ => rfl) j p)
        (step_showing p (.delta j))
    | staleTick between =>
      exact quiet (checkStale_scr between p)
        (checkStale_view Panel.asleep (fun _ _ _ _ _ => rfl) between p)
        (step_showing p (.staleTick between : Event J))
    | filesReply j =>
      exact quiet (filesReply_view Panel.scr (fun _ _ _ _ => rfl) j p)
        (filesReply_view Panel.asleep (fun _ _ _ _ => rfl) j p) (step_showing p (.filesReply j))
    | metadataReply i s j =>
      exact quiet (metadataReply_view Panel.scr (fun _ _ _ => rfl) i s j p)
        (metadataReply_view Panel.asleep (fun _ _ _ => rfl) i s j p)
        (step_showing p (.metadataReply i s j))
    | actionDone _ | updateChecked _ _ _ | updateFinished _ _ | tick _ =>
      refine quiet ?_ ?_ (step_showing p _)
      · exact side_view Panel.scr (fun _ _ _ _ _ _ _ _ _ _ _ => rfl) p _ rfl
      · exact side_view Panel.asleep (fun _ _ _ _ _ _ _ _ _ _ _ => rfl) p _ rfl
    | homeTap _ | subTap _ | fileRow _ | slider _ _ | estopTap | callogStop | confirmTap _
    | key _ => cases handled
    | _ => exact holds

end Step

section Glass

theorem screen_mem_all (page : Screen) : page ∈ Screen.all := by
  cases page <;> decide

theorem subsHidden_sub (t : Stack L ScrObj) (page : Screen) :
    ¬ (subsHidden t).Shown (.sub page) := by
  have gone : ∀ (screens : List Screen) (t : Stack L ScrObj), page ∈ screens →
      ¬ (screens.foldl (fun scr s => scr.conceal (.sub s)) t).Shown (.sub page) := by
    intro screens
    induction screens using List.reverseRecOn with
    | nil => exact fun _ member => absurd member List.not_mem_nil
    | append_singleton screens s ih =>
      intro t member
      rw [List.foldl_append]
      simp only [List.foldl_cons, List.foldl_nil, Stack.shown_conceal]
      rintro ⟨other, shown⟩
      rcases List.mem_append.mp member with earlier | last
      · exact ih t earlier shown
      · exact other (congrArg ScrObj.sub (List.mem_singleton.mp last))
  exact gone Screen.all t (screen_mem_all page)

theorem subsHidden_above (t : Stack L ScrObj) (lower upper : ScrObj) :
    (subsHidden t).Above lower upper ↔ t.Above lower upper := by
  unfold subsHidden
  induction Screen.all generalizing t with
  | nil => exact Iff.rfl
  | cons s rest ih => exact (ih (t.conceal (.sub s))).trans Stack.above_conceal

/-- What the glass shows below the overlays: a native page or the boot screen lies over the
legacy tabs, at most one sub-screen is shown, the cockpit lies over it where both are, and
the screen saver and the prompt card lie under the tabs while they are not called for. -/
structure Glass (t : Stack L ScrObj) (asleep prompt : Bool) : Prop where
  covered : ∃ page, (page = .boot ∨ page.isPage = true) ∧ t.Shown page ∧ t.Above .tabview page
  single : ∀ s s', t.Shown (.sub s) → t.Shown (.sub s') → s = s'
  front : t.Shown .home → ∀ s, t.Shown (.sub s) → t.Above (.sub s) .home
  saver : asleep = false → t.Above .saver .tabview
  prompt : prompt = false → t.Above .prompt .tabview

omit [LawfulLayer L] in
theorem screen_child (t : Stack L ScrObj) (o : ScrObj) : o ∈ Layer.children t.raw := t.built o rfl

theorem covered_raise (t : Stack L ScrObj) {page : ScrObj}
    (native : page = .boot ∨ page.isPage = true) :
    ∃ page', (page' = .boot ∨ page'.isPage = true) ∧ (t.raise page).Shown page' ∧
      (t.raise page).Above .tabview page' := by
  have other : ScrObj.tabview ≠ page := by
    rintro rfl
    rcases native with same | paged
    · cases same
    · cases paged
  refine ⟨page, native, Stack.shown_raise.mpr (Or.inl rfl), (Stack.above_raise other).mpr ?_⟩
  exact Or.inr ⟨rfl, screen_child t .tabview⟩

omit [LawfulLayer L] in
/-- A move of a child that is no page, nor the tabs, to the front or to the back leaves the
pages as they were. -/
theorem Glass.moved {t u : Stack L ScrObj} {asleep prompt asleep' prompt' : Bool} {o : ScrObj}
    (glass : Glass t asleep prompt) (page : o.isPage = false) (boot : o ≠ .boot)
    (shown : ∀ other, u.Shown other ↔ t.Shown other)
    (above : ∀ lower upper, lower ≠ o → upper ≠ o → (u.Above lower upper ↔ t.Above lower upper))
    (tabs : o ≠ .tabview) (saver : asleep' = false → u.Above .saver .tabview)
    (card : prompt' = false → u.Above .prompt .tabview) : Glass u asleep' prompt' where
  covered := by
    obtain ⟨front, native, visible, higher⟩ := glass.covered
    have other : front ≠ o := by
      rintro rfl
      rcases native with same | paged
      · exact boot same
      · rw [page] at paged
        cases paged
    exact ⟨front, native, (shown front).mpr visible, (above _ _ tabs.symm other).mpr higher⟩
  single s s' first second := glass.single s s' ((shown _).mp first) ((shown _).mp second)
  front home s sub := by
    have sub' : ScrObj.sub s ≠ o := fun same => by rw [← same] at page; cases page
    have home' : ScrObj.home ≠ o := fun same => by rw [← same] at page; cases page
    exact (above _ _ sub' home').mpr (glass.front ((shown _).mp home) s ((shown _).mp sub))
  saver := saver
  prompt := card

variable {t : Stack L ScrObj} {asleep prompt : Bool}

theorem Glass.foregrounded (glass : Glass t asleep prompt) {o : ScrObj} (page : o.isPage = false)
    (boot : o ≠ .boot) (tabs : o ≠ .tabview) {asleep' prompt' : Bool}
    (saver : asleep' = false → asleep = false ∧ o ≠ .saver)
    (card : prompt' = false → prompt = false ∧ o ≠ .prompt) :
    Glass (t.foreground o) asleep' prompt' := by
  have kept : ∀ lower, lower ≠ o → t.Above lower .tabview → (t.foreground o).Above lower .tabview :=
    fun lower apart below => (Stack.above_foreground apart).mpr (Or.inl ⟨below, tabs.symm⟩)
  refine glass.moved page boot (fun _ => Stack.shown_foreground) (fun lower upper low up => ?_) tabs
    (fun awake => ?_) (fun down => ?_)
  · rw [Stack.above_foreground low]
    simp [up]
  · exact kept .saver (saver awake).2.symm (glass.saver (saver awake).1)
  · exact kept .prompt (card down).2.symm (glass.prompt (card down).1)

theorem Glass.backgrounded (glass : Glass t asleep prompt) {o : ScrObj} (page : o.isPage = false)
    (boot : o ≠ .boot) (tabs : o ≠ .tabview) {asleep' prompt' : Bool}
    (saver : asleep' = false → asleep = false ∨ o = .saver)
    (card : prompt' = false → prompt = false ∨ o = .prompt) :
    Glass (t.background o) asleep' prompt' := by
  have own : (t.background o).Above o .tabview :=
    Stack.above_background_self.mpr ⟨screen_child t .tabview, tabs.symm⟩
  have kept : ∀ lower, t.Above lower .tabview → (t.background o).Above lower .tabview := by
    intro lower below
    by_cases same : lower = o
    · exact same ▸ own
    · exact (Stack.above_background same).mpr ⟨below, tabs.symm⟩
  refine glass.moved page boot (fun _ => Stack.shown_background) (fun lower upper low up => ?_) tabs
    (fun awake => ?_) (fun down => ?_)
  · rw [Stack.above_background low]
    simp [up]
  · rcases saver awake with before | same
    · exact kept .saver (glass.saver before)
    · exact same ▸ own
  · rcases card down with before | same
    · exact kept .prompt (glass.prompt before)
    · exact same ▸ own

theorem under_raised {u : Stack L ScrObj} {lower page : ScrObj} (apart : lower ≠ page)
    (tabs : ScrObj.tabview ≠ page) (below : u.Above lower .tabview) :
    (u.raise page).Above lower .tabview :=
  (Stack.above_raise apart).mpr (Or.inl ⟨below, tabs⟩)

theorem glass_kept : KeptByScreens (Glass (L := L)) where
  screen t asleep prompt page glass := by
    have below : ∀ lower, t.Above lower .tabview →
        ((subsHidden t).conceal .home).Above lower .tabview := fun lower under =>
      Stack.above_conceal.mpr ((subsHidden_above t lower .tabview).mpr under)
    refine ⟨covered_raise _ (Or.inr rfl), fun s s' first second => ?_, fun home => ?_,
      fun awake => ?_, fun down => ?_⟩
    · simp [subsHidden_sub] at first second
      exact first.trans second.symm
    · simp at home
    · exact under_raised (by simp) (by simp) (below _ (glass.saver awake))
    · exact under_raised (by simp) (by simp) (below _ (glass.prompt down))
  home t asleep prompt glass := by
    have below : ∀ lower, t.Above lower .tabview → (subsHidden t).Above lower .tabview :=
      fun lower under => (subsHidden_above t lower .tabview).mpr under
    refine ⟨covered_raise _ (Or.inr rfl), fun s s' first _ => ?_, fun _ s sub => ?_,
      fun awake => ?_, fun down => ?_⟩
    · simp [subsHidden_sub] at first
    · simp [subsHidden_sub] at sub
    · exact under_raised (by simp) (by simp) (below _ (glass.saver awake))
    · exact under_raised (by simp) (by simp) (below _ (glass.prompt down))
  wifi t asleep prompt glass :=
    glass.foregrounded rfl (by simp) (by simp) (fun awake => ⟨awake, by simp⟩)
      (fun down => ⟨down, by simp⟩)
  wifiBack t asleep prompt glass := glass.backgrounded rfl (by simp) (by simp) Or.inl Or.inl
  promptUp t asleep prompt glass :=
    glass.foregrounded rfl (by simp) (by simp) (fun awake => ⟨awake, by simp⟩)
      (fun down => Bool.noConfusion down)
  promptDown t asleep prompt glass :=
    glass.backgrounded rfl (by simp) (by simp) Or.inl (fun _ => Or.inr rfl)
  lost t asleep prompt glass := by
    refine ⟨covered_raise _ (Or.inl rfl), fun s s' first second => ?_, fun home s sub => ?_,
      fun awake => ?_, fun down => ?_⟩
    · simp at first second
      exact glass.single s s' first second
    · simp at home sub
      exact (Stack.above_raise (by simp)).mpr (Or.inl ⟨glass.front home s sub, by simp⟩)
    · exact under_raised (by simp) (by simp) (glass.saver awake)
    · exact under_raised (by simp) (by simp) (glass.prompt down)
  ready t asleep prompt glass := by
    have below : ∀ lower, lower ≠ .boot → t.Above lower .tabview →
        (t.drop .boot).Above lower .tabview := fun lower apart under =>
      (Stack.above_drop apart).mpr ⟨under, by simp⟩
    refine ⟨covered_raise _ (Or.inr rfl), fun s s' first second => ?_, fun _ s _ => ?_,
      fun awake => ?_, fun down => ?_⟩
    · simp at first second
      exact glass.single s s' first second
    · exact (Stack.above_raise (by simp)).mpr (Or.inr ⟨rfl, screen_child _ _⟩)
    · exact under_raised (by simp) (by simp) (below _ (by simp) (glass.saver awake))
    · exact under_raised (by simp) (by simp) (below _ (by simp) (glass.prompt down))
  sleep t asleep prompt glass :=
    glass.foregrounded rfl (by simp) (by simp) (fun awake => Bool.noConfusion awake)
      (fun down => ⟨down, by simp⟩)
  wake t asleep prompt glass :=
    glass.backgrounded rfl (by simp) (by simp) (fun _ => Or.inr rfl) Or.inl

theorem initial_glass : Glass (Panel.initial : Panel L).scr false false := by
  have children : Layer.children (Panel.initial : Panel L).scr.raw =
      [.saver, .prompt, .wifi, .tabview, .boot, .home] ++ Screen.all.map .sub := by
    simp [Panel.initial, initialScreens, Screen.all]
  have above : ∀ lower upper, [lower, upper].Sublist
      ([.saver, .prompt, .wifi, .tabview, .boot, .home] ++ Screen.all.map .sub) →
      (Panel.initial : Panel L).scr.Above lower upper := by
    intro lower upper listed
    rw [Stack.Above, Layer.Above, children]
    exact listed
  have hidden : ∀ s, ¬ (Panel.initial : Panel L).scr.Shown (.sub s) := by
    intro s
    cases s <;> simp [Stack.Shown, Panel.initial, initialScreens, Screen.all]
  have boot : (Panel.initial : Panel L).scr.Shown .boot := by
    simp [Stack.Shown, Panel.initial, initialScreens, Screen.all]
  exact
    { covered := ⟨.boot, Or.inl rfl, boot, above _ _ (by decide)⟩
      single := fun s _ first _ => absurd first (hidden s)
      front := fun _ s sub => absurd sub (hidden s)
      saver := fun _ => above _ _ (by decide)
      prompt := fun _ => above _ _ (by decide) }

variable {J : Type} [JsonLib J]

/-- In every run, below the overlays: the legacy tabs are covered by a page or the boot screen;
of the sub-screens one at most is shown, and the cockpit over it where both are; and the
screen saver lies under the tabs unless the display sleeps, the prompt card unless a
prompt is up. -/
theorem glass_covered (events : List (Event J)) :
    let p : Panel L := after events
    Glass p.scr p.asleep p.track.promptShowing :=
  run_invariant (fun q : Panel L => step_screens glass_kept q) initial_glass events

/-- A sub-screen is open when the link drops and comes back. -/
theorem glass_covered_reconnected :
    let p : Panel ZStack := after ([.linkReady, .homeTap .fans, .linkLost, .linkReady] : List (Event Json))
    Glass p.scr p.asleep p.track.promptShowing :=
  glass_covered _

end Glass

end GrumpyScreen
