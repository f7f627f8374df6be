import Mathlib.Data.List.Basic

/-! Lists of rows of one width, laid out row after row. -/

namespace GrumpyScreen.Lib

variable {α β : Type*} {cols : Nat} {rows : List (List α)}

/-- Every row has the width. -/
def Rectangular (cols : Nat) (rows : List (List α)) : Prop := ∀ row ∈ rows, row.length = cols

instance (cols : Nat) (rows : List (List α)) : Decidable (Rectangular cols rows) :=
  inferInstanceAs (Decidable (∀ row ∈ rows, row.length = cols))

end GrumpyScreen.Lib
