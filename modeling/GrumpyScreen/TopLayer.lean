import GrumpyScreen.Lib.Stack

/-! `lv_layer_top()`: the overlays that share it and their geometry on the
480x272 glass. -/

namespace GrumpyScreen

open Lib

/-- The children of the top layer. -/
inductive TopObj where
  | numScrim
  | numCard
  | confirmScrim
  | confirmCard
  | noticeScrim
  | noticeCard
  | estop
  | busy
  | callog
deriving DecidableEq, Repr

/-- Built with the panel; the busy overlay and the logbook wait for first use. -/
instance : Staged TopObj where
  eager
    | .busy | .callog => false
    | _ => true

structure Rect where
  x : Int
  y : Int
  w : Int
  h : Int
deriving DecidableEq, Repr

def Rect.overlaps (a b : Rect) : Bool :=
  a.x < b.x + b.w && b.x < a.x + a.w && a.y < b.y + b.h && b.y < a.y + a.h

def Rect.screen : Rect := ⟨0, 0, 480, 272⟩

/-- Where each overlay lies; the keypad card is centred. -/
def TopObj.rect : TopObj → Rect
  | .numScrim | .confirmScrim | .noticeScrim | .busy => .screen
  | .numCard => ⟨90, 11, 300, 250⟩
  | .confirmCard => ⟨70, 71, 340, 130⟩
  | .noticeCard => ⟨40, 26, 400, 220⟩
  | .estop => ⟨404, 10, 64, 26⟩
  | .callog => ⟨0, 202, 480, 70⟩

def TopObj.fullScreen (o : TopObj) : Bool := o.rect = .screen

abbrev TopLayer (L : Type → Type) [Layer L] := Stack L TopObj

namespace TopLayer

variable {L : Type → Type} [Layer L] [LawfulLayer L]

/-- The layer once the panel is built: keypad, confirm card, notice, E-STOP. -/
def initial : TopLayer L where
  raw :=
    let numpad : L TopObj := Layer.addHidden .numScrim (Layer.addHidden .numCard
      (Layer.create .numCard (Layer.create .numScrim Layer.bare)))
    let confirm := Layer.addHidden .confirmCard (Layer.create .confirmCard
      (Layer.addHidden .confirmScrim (Layer.create .confirmScrim
        (Layer.moveBackground .numCard numpad))))
    let notice := Layer.addHidden .noticeCard (Layer.create .noticeCard
      (Layer.addHidden .noticeScrim (Layer.create .noticeScrim confirm)))
    Layer.create .estop notice
  distinct := by simp [LawfulLayer.children_moveBackground]
  built o eager := by
    cases o <;> simp_all [LawfulLayer.children_moveBackground, Staged.eager]

theorem shown_initial (o : TopObj) : (initial : TopLayer L).Shown o ↔ o = .estop := by
  cases o <;> simp [Stack.Shown, initial, LawfulLayer.children_moveBackground]

end TopLayer

end GrumpyScreen
