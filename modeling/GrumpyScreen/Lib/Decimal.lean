import Mathlib.Data.List.TakeWhile

/-! Numbers in decimal bytes, as `printf` writes them and `strtol` reads them. -/

namespace GrumpyScreen.Lib.Decimal

def isDigit (c : UInt8) : Bool := 48 ≤ c && c ≤ 57

def isSpace (c : UInt8) : Bool := c = 32 || (9 ≤ c && c ≤ 13)

/-- `%u`. -/
def decimal (n : Nat) : List UInt8 := (Nat.toDigits 10 n).map fun c => UInt8.ofNat c.toNat

/-- `%d`. -/
def signed : Int → List UInt8
  | .ofNat n => decimal n
  | .negSucc n => 45 :: decimal (n + 1)

/-- The value of a row of digits. -/
def value (digits : List UInt8) : Nat := digits.foldl (fun v c => 10 * v + (c.toNat - 48)) 0

/-- `strtol` to base ten, where the value does not overflow: blanks, a sign and at
least one digit; what follows is not looked at. -/
def strtol (s : List UInt8) : Option Int :=
  let s := s.dropWhile isSpace
  let digits := (if s.head? = some 45 || s.head? = some 43 then s.tail else s).takeWhile isDigit
  if digits = [] then none
  else some (if s.head? = some 45 then -(value digits : Int) else value digits)

/-- The number `strtol` reads, out of range or not, and what it leaves unread. -/
def scan (s : List UInt8) : Option (Int × List UInt8) :=
  let s := s.dropWhile isSpace
  let unsigned := if s.head? = some 45 || s.head? = some 43 then s.tail else s
  let digits := unsigned.takeWhile isDigit
  if digits = [] then none
  else some (if s.head? = some 45 then -(value digits : Int) else value digits,
    unsigned.dropWhile isDigit)

/-- `atoi`: zero where there is no number. -/
def atoi (s : List UInt8) : Int := (strtol s).getD 0

theorem digit_byte {c : Char} (digit : c.isDigit) :
    (UInt8.ofNat c.toNat).toNat = c.toNat ∧ isDigit (UInt8.ofNat c.toNat) := by
  have bounds : 48 ≤ c.toNat ∧ c.toNat ≤ 57 := Char.isDigit_iff_toNat.mp digit
  have same : (UInt8.ofNat c.toNat).toNat = c.toNat := by
    rw [UInt8.toNat_ofNat', Nat.mod_eq_of_lt (by omega)]
  refine ⟨same, ?_⟩
  simp only [isDigit, Bool.and_eq_true, decide_eq_true_eq, UInt8.le_iff_toNat_le, same]
  exact bounds

theorem decimal_digits (n : Nat) : ∀ c ∈ decimal n, isDigit c := by
  intro c member
  obtain ⟨digit, listed, rfl⟩ := List.mem_map.mp member
  exact (digit_byte (Nat.isDigit_of_mem_toDigits (by omega) (by omega) listed)).2

theorem decimal_ne_nil (n : Nat) : decimal n ≠ [] := by
  rw [decimal, Ne, List.map_eq_nil_iff]
  exact Nat.toDigits_ne_nil

theorem value_decimal (n : Nat) : value (decimal n) = n := by
  have read : ∀ (digits : List Char) (v : Nat), (∀ c ∈ digits, c.isDigit) →
      (digits.map fun c => UInt8.ofNat c.toNat).foldl (fun v c => 10 * v + (c.toNat - 48)) v =
        Nat.ofDigitChars 10 digits v := by
    intro digits
    induction digits with
    | nil => exact fun _ _ => rfl
    | cons c rest ih =>
      intro v digits
      obtain ⟨digit, later⟩ := List.forall_mem_cons.mp digits
      rw [List.map_cons, List.foldl_cons, (digit_byte digit).1]
      exact ih (10 * v + (c.toNat - 48)) later
  calc value (decimal n) = Nat.ofDigitChars 10 (Nat.toDigits 10 n) 0 :=
        read _ 0 fun c member => Nat.isDigit_of_mem_toDigits (by omega) (by omega) member
    _ = n := Nat.ofDigitChars_ten_toDigits

theorem signed_bytes (i : Int) : ∀ c ∈ signed i, c = 45 ∨ isDigit c := by
  cases i with
  | ofNat n => exact fun c member => Or.inr (decimal_digits n c member)
  | negSucc n =>
    refine List.forall_mem_cons.mpr ⟨Or.inl rfl, fun c member => ?_⟩
    exact Or.inr (decimal_digits (n + 1) c member)

theorem not_mem_signed {c : UInt8} (other : c ≠ 45 ∧ isDigit c = false) (i : Int) :
    c ∉ signed i := by
  intro member
  rcases signed_bytes i c member with minus | digit
  · exact other.1 minus
  · rw [other.2] at digit
    cases digit

section Read

variable {digits rest : List UInt8}

theorem not_space_of_digit {c : UInt8} (digit : isDigit c) : isSpace c = false := by
  simp only [isDigit, isSpace, Bool.and_eq_true, decide_eq_true_eq, UInt8.le_iff_toNat_le,
    Bool.or_eq_false_iff, Bool.and_eq_false_iff, decide_eq_false_iff_not, ← UInt8.toNat_inj] at digit ⊢
  have lower : 48 ≤ c.toNat := digit.1
  exact ⟨by simp; omega, Or.inr (by simp; omega)⟩

theorem takeWhile_digits (all : ∀ c ∈ digits, isDigit c) (stop : rest.takeWhile isDigit = []) :
    (digits ++ rest).takeWhile isDigit = digits := by
  rw [List.takeWhile_append_of_pos all, stop, List.append_nil]

theorem strtol_digits (all : ∀ c ∈ digits, isDigit c) (some : digits ≠ [])
    (stop : rest.takeWhile isDigit = []) : strtol (digits ++ rest) = .some (value digits) := by
  have read := takeWhile_digits all stop
  obtain ⟨d, others, rfl⟩ := List.exists_cons_of_ne_nil some
  have digit := all d List.mem_cons_self
  have unsigned : d ≠ 45 ∧ d ≠ 43 := by
    constructor <;> rintro rfl <;> exact absurd digit (by decide)
  have blanks : (d :: others ++ rest).dropWhile isSpace = d :: others ++ rest :=
    List.dropWhile_cons_of_neg (by simp [not_space_of_digit digit])
  have head : (d :: others ++ rest).head? = .some d := rfl
  simp only [strtol, blanks, head, Option.some.injEq, unsigned.1, unsigned.2, decide_false,
    Bool.or_self, Bool.false_eq_true, if_false, read, some]

theorem strtol_minus (all : ∀ c ∈ digits, isDigit c) (some : digits ≠ [])
    (stop : rest.takeWhile isDigit = []) :
    strtol (45 :: (digits ++ rest)) = .some (-value digits) := by
  have read := takeWhile_digits all stop
  have blanks : (45 :: (digits ++ rest)).dropWhile isSpace = 45 :: (digits ++ rest) := rfl
  simp [strtol, blanks, read, some]

theorem strtol_signed (i : Int) (stop : rest.takeWhile isDigit = []) :
    strtol (signed i ++ rest) = some i := by
  cases i with
  | ofNat n =>
    rw [signed, strtol_digits (decimal_digits n) (decimal_ne_nil n) stop, value_decimal]
    rfl
  | negSucc n =>
    rw [signed, List.cons_append, strtol_minus (decimal_digits _) (decimal_ne_nil _) stop, value_decimal]
    rfl

/-- A sign as `strtol` takes it. -/
def IsSign (sign : List UInt8) : Prop := sign = [] ∨ sign = [43] ∨ sign = [45]

/-- The value behind a sign. -/
def signedValue (sign digits : List UInt8) : Int :=
  if sign = [45] then -(value digits : Int) else value digits

theorem not_digit_of_space {c : UInt8} (space : isSpace c) : isDigit c = false := by
  cases digit : isDigit c with
  | false => rfl
  | true =>
    rw [not_space_of_digit digit] at space
    cases space

theorem takeWhile_spaces (spaces : ∀ c ∈ rest, isSpace c) : rest.takeWhile isDigit = [] := by
  cases rest with
  | nil => rfl
  | cons c others =>
    exact List.takeWhile_cons_of_neg (by simp [not_digit_of_space (spaces c List.mem_cons_self)])

theorem scan_spelled {before sign : List UInt8} (spaces : ∀ c ∈ before, isSpace c)
    (isSign : IsSign sign) (all : ∀ c ∈ digits, isDigit c) (some : digits ≠ [])
    (stop : rest.takeWhile isDigit = []) :
    scan (before ++ (sign ++ (digits ++ rest))) = .some (signedValue sign digits, rest) := by
  have read := takeWhile_digits all stop
  have left : (digits ++ rest).dropWhile isDigit = rest := by
    have parts := List.takeWhile_append_dropWhile (p := isDigit) (l := digits ++ rest)
    rw [read] at parts
    exact List.append_cancel_left parts
  obtain ⟨d, others, rfl⟩ := List.exists_cons_of_ne_nil some
  have digit := all d List.mem_cons_self
  have unsigned : d ≠ 45 ∧ d ≠ 43 := by
    constructor <;> rintro rfl <;> exact absurd digit (by decide)
  have text : isSpace d = false := not_space_of_digit digit
  have read' : (d :: (others ++ rest)).takeWhile isDigit = d :: others := read
  have left' : (d :: (others ++ rest)).dropWhile isDigit = rest := left
  rw [scan, List.dropWhile_append_of_pos spaces]
  rcases isSign with rfl | rfl | rfl
  · simp [text, unsigned.1, unsigned.2, read', left', signedValue]
  · simp [show isSpace 43 = false from rfl, read', left', signedValue]
  · simp [show isSpace 45 = false from rfl, read', left', signedValue]

theorem scan_some {s rest : List UInt8} {i : Int} (read : scan s = .some (i, rest)) :
    ∃ before sign digits, s = before ++ (sign ++ (digits ++ rest)) ∧ (∀ c ∈ before, isSpace c) ∧
      IsSign sign ∧ (∀ c ∈ digits, isDigit c) ∧ digits ≠ [] ∧ rest.takeWhile isDigit = [] ∧
      i = signedValue sign digits := by
  have spaces : ∀ c ∈ s.takeWhile isSpace, isSpace c := fun c member =>
    (List.mem_takeWhile_imp member)
  have whole : s.takeWhile isSpace ++ s.dropWhile isSpace = s := List.takeWhile_append_dropWhile
  have parts : ∀ sign unsigned : List UInt8, s.dropWhile isSpace = sign ++ unsigned → IsSign sign →
      unsigned.takeWhile isDigit ≠ [] → i = signedValue sign (unsigned.takeWhile isDigit) →
      rest = unsigned.dropWhile isDigit →
      ∃ before sign digits, s = before ++ (sign ++ (digits ++ rest)) ∧ (∀ c ∈ before, isSpace c) ∧
        IsSign sign ∧ (∀ c ∈ digits, isDigit c) ∧ digits ≠ [] ∧ rest.takeWhile isDigit = [] ∧
        i = signedValue sign digits := by
    intro sign unsigned split isSign some same left
    refine ⟨s.takeWhile isSpace, sign, unsigned.takeWhile isDigit, ?_, spaces, isSign,
      fun c member => List.mem_takeWhile_imp member, some, ?_, same⟩
    · rw [left, List.takeWhile_append_dropWhile, ← split, whole]
    · rw [left]
      cases behind : unsigned.dropWhile isDigit with
      | nil => rfl
      | cons c others =>
        have stops := List.head?_dropWhile_not isDigit unsigned
        rw [behind] at stops
        exact List.takeWhile_cons_of_neg (by simpa using stops)
  unfold scan at read
  simp only [Option.ite_none_left_eq_some, Option.some.injEq, Prod.mk.injEq] at read
  obtain ⟨found, same, left⟩ := read
  cases text : s.dropWhile isSpace with
  | nil =>
    rw [text] at found
    exact absurd rfl found
  | cons c others =>
    rw [text] at found same left
    by_cases minus : c = 45
    · subst minus
      exact parts [45] others text (Or.inr (Or.inr rfl)) found same.symm left.symm
    · by_cases plus : c = 43
      · subst plus
        exact parts [43] others text (Or.inr (Or.inl rfl)) found same.symm left.symm
      · simp only [List.head?_cons, Option.some.injEq, minus, plus, decide_false, Bool.or_self,
          Bool.false_eq_true, if_false] at found same left
        exact parts [] (c :: others) text (Or.inl rfl) found same.symm left.symm

end Read

end GrumpyScreen.Lib.Decimal
