import GrumpyScreen.Config
import GrumpyScreen.Lib.Decimal
import GrumpyScreen.Lib.Strip
import GrumpyScreen.Lib.Text

/-! The filter that keeps Klipper's temperature reports out of the console. What is
left of the trimmed line stands for the index into it. -/

namespace GrumpyScreen.TempFilter

open Lib Decimal

/-- `isalpha`, in the C locale. -/
def isAlpha (c : UInt8) : Bool := (65 ≤ c && c ≤ 90) || (97 ≤ c && c ≤ 122)

/-- Neither a blank nor a letter. -/
def isSeparator (c : UInt8) : Bool := !isSpace c && !isAlpha c

def isT (c : UInt8) : Bool := c = 84 || c = 116

def isB (c : UInt8) : Bool := c = 66 || c = 98

def isC (c : UInt8) : Bool := c = 67 || c = 99

def contains (s sub : Bytes) : Bool := (Text.search sub s).isSome

def dropSign : Bytes → Bytes
  | [] => []
  | c :: rest => if c = 45 || c = 43 then rest else c :: rest

/-- A sign, digits, a point and digits; one digit at least. -/
def parseNumber (s : Bytes) : Option Bytes :=
  let whole := (dropSign s).takeWhile isDigit
  match (dropSign s).dropWhile isDigit with
  | 46 :: fraction =>
    if whole = [] ∧ fraction.takeWhile isDigit = [] then none
    else some (fraction.dropWhile isDigit)
  | rest => if whole = [] then none else some rest

/-- A number, and another one behind a slash; the slash may stand alone. -/
def parseTempPair (s : Bytes) : Option Bytes :=
  match parseNumber s with
  | some (47 :: second) => some ((parseNumber second).getD second)
  | other => other

def dropDigit : Bytes → Bytes
  | [] => []
  | d :: rest => if isDigit d then rest else d :: rest

/-- One token off the front: what is left, and whether it was an extruder's. -/
def parseToken : Bytes → Option (Bytes × Bool)
  | [] => none
  | c :: rest =>
    if isT c then
      match dropDigit rest with
      | 58 :: pair => (parseTempPair pair).map fun left => (left, true)
      | _ => none
    else if isB c && rest.head? = some 58 then
      (parseTempPair rest.tail).map fun left => (left, false)
    else if isC c && rest.head? = some 58 then
      (parseTempPair rest.tail).map fun left => (left, false)
    else if c = 64 && rest.head? = some 58 then
      (parseNumber rest.tail).map fun left => (left, false)
    else if isB c && rest.head? = some 64 && rest.tail.head? = some 58 then
      (parseNumber rest.tail.tail).map fun left => (left, false)
    else none

/-- One round of the scan: it answers, or goes on with what is left. -/
inductive Round where
  | answer (saw : Bool)
  | next (rest : Bytes) (saw : Bool)

def scanRound (s : Bytes) (saw : Bool) : Round :=
  match s.dropWhile isSpace with
  | [] => .answer saw
  | c :: rest =>
    match parseToken (c :: rest) with
    | some (left, extruder) => .next left (saw || extruder)
    | none =>
      if isAlpha c then .answer false
      else
        let left := (c :: rest).dropWhile isSeparator
        if left = c :: rest then .answer false else .next left saw

section Tokens

/-- A number of the grammar. -/
def IsNumber (n : Bytes) : Prop :=
  ∃ sign whole point, n = sign ++ (whole ++ point) ∧ IsSign sign ∧ (∀ c ∈ whole, isDigit c) ∧
    (point = [] ∧ whole ≠ [] ∨ ∃ fraction, point = 46 :: fraction ∧
      (∀ c ∈ fraction, isDigit c) ∧ (whole ≠ [] ∨ fraction ≠ []))

def IsPair (pair : Bytes) : Prop :=
  IsNumber pair ∨ ∃ actual target, pair = actual ++ 47 :: target ∧ IsNumber actual ∧ IsNumber target

/-- The tokens of a report; the flag marks an extruder's. -/
inductive Token : Bytes → Bool → Prop
  | extruder {letter : UInt8} {digit pair : Bytes} (isLetter : isT letter)
      (isOptional : digit = [] ∨ ∃ d, isDigit d ∧ digit = [d]) (isPair : IsPair pair) :
      Token (letter :: (digit ++ 58 :: pair)) true
  | bed {letter : UInt8} {pair : Bytes} (isLetter : isB letter) (isPair : IsPair pair) :
      Token (letter :: 58 :: pair) false
  | chamber {letter : UInt8} {pair : Bytes} (isLetter : isC letter) (isPair : IsPair pair) :
      Token (letter :: 58 :: pair) false
  | power {number : Bytes} (isNumber : IsNumber number) : Token (64 :: 58 :: number) false
  | bedPower {letter : UInt8} {number : Bytes} (isLetter : isB letter)
      (isNumber : IsNumber number) : Token (letter :: 64 :: 58 :: number) false

/-- What a report is put together from. -/
inductive Piece : Bytes → Bool → Prop
  | blanks {run : Bytes} (spaces : ∀ c ∈ run, isSpace c) : Piece run false
  | token {text : Bytes} {extruder : Bool} (isToken : Token text extruder) : Piece text extruder
  | separators {run : Bytes} (separate : ∀ c ∈ run, isSeparator c) : Piece run false

/-- Pieces in a row; the flag says whether an extruder's token is among them. -/
inductive Pieces : Bytes → Bool → Prop
  | nil : Pieces [] false
  | cons {first rest : Bytes} {x y : Bool} (piece : Piece first x) (more : Pieces rest y) :
      Pieces (first ++ rest) (x || y)

theorem dropSign_split (s : Bytes) : ∃ sign, IsSign sign ∧ s = sign ++ dropSign s := by
  cases s with
  | nil => exact ⟨[], Or.inl rfl, rfl⟩
  | cons c rest =>
    by_cases signed : c = 45 ∨ c = 43
    · have dropped : dropSign (c :: rest) = rest := if_pos (by simpa using signed)
      rw [dropped]
      refine ⟨[c], ?_, rfl⟩
      rcases signed with rfl | rfl
      · exact Or.inr (Or.inr rfl)
      · exact Or.inr (Or.inl rfl)
    · have kept : dropSign (c :: rest) = c :: rest := if_neg (by simpa using signed)
      exact ⟨[], Or.inl rfl, kept.symm⟩

theorem digits_split (s : Bytes) : s = s.takeWhile isDigit ++ s.dropWhile isDigit :=
  List.takeWhile_append_dropWhile.symm

theorem digits_taken (s : Bytes) : ∀ c ∈ s.takeWhile isDigit, isDigit c :=
  fun _ member => List.mem_takeWhile_imp member

theorem parseNumber_some {s rest : Bytes} (read : parseNumber s = some rest) :
    ∃ number, IsNumber number ∧ s = number ++ rest := by
  obtain ⟨sign, isSign, signed⟩ := dropSign_split s
  have whole := digits_split (dropSign s)
  unfold parseNumber at read
  simp only at read
  split at read
  · rename_i fraction behind
    split at read
    · cases read
    · rename_i some
      cases read
      refine ⟨sign ++ ((dropSign s).takeWhile isDigit ++ 46 :: fraction.takeWhile isDigit),
        ⟨sign, _, _, rfl, isSign, digits_taken _, Or.inr ⟨_, rfl, digits_taken _, ?_⟩⟩, ?_⟩
      · exact not_and_or.mp some
      · rw [behind] at whole
        rw [List.append_assoc, List.append_assoc, List.cons_append, ← digits_split fraction,
          ← whole, ← signed]
  · split at read
    · cases read
    · rename_i some
      cases read
      refine ⟨sign ++ ((dropSign s).takeWhile isDigit ++ []),
        ⟨sign, _, _, rfl, isSign, digits_taken _, Or.inl ⟨rfl, some⟩⟩, ?_⟩
      rw [List.append_nil, List.append_assoc, ← whole, ← signed]

/-- A slash that stands alone is taken with the number before it. -/
def IsSlash (slash : Bytes) : Prop := slash = [] ∨ slash = [47]

theorem parseTempPair_some {s rest : Bytes} (read : parseTempPair s = some rest) :
    ∃ pair slash, IsPair pair ∧ IsSlash slash ∧ s = pair ++ (slash ++ rest) := by
  cases first : parseNumber s with
  | none => simp [parseTempPair, first] at read
  | some behind =>
    obtain ⟨actual, isNumber, rfl⟩ := parseNumber_some first
    by_cases slashed : ∃ second, behind = 47 :: second
    · obtain ⟨second, rfl⟩ := slashed
      simp only [parseTempPair, first, Option.some.injEq] at read
      cases target : parseNumber second with
      | none =>
        rw [target, Option.getD_none] at read
        subst read
        exact ⟨actual, [47], Or.inl isNumber, Or.inr rfl, rfl⟩
      | some left =>
        rw [target, Option.getD_some] at read
        subst read
        obtain ⟨number, isTarget, rfl⟩ := parseNumber_some target
        exact ⟨actual ++ 47 :: number, [], Or.inr ⟨actual, number, rfl, isNumber, isTarget⟩,
          Or.inl rfl, by simp⟩
    · have alone : parseTempPair (actual ++ behind) = some behind := by
        unfold parseTempPair
        rw [first]
        split
        · rename_i second same
          exact absurd ⟨second, Option.some.inj same⟩ slashed
        · rfl
      rw [alone] at read
      cases read
      exact ⟨actual, [], Or.inl isNumber, Or.inl rfl, rfl⟩

theorem cons_of_head? {b : UInt8} {s : Bytes} (head : s.head? = some b) : s = b :: s.tail := by
  cases s with
  | nil => cases head
  | cons c rest =>
    cases head
    rfl

theorem dropDigit_split (s : Bytes) :
    ∃ digit, (digit = [] ∨ ∃ d, isDigit d ∧ digit = [d]) ∧ s = digit ++ dropDigit s := by
  cases s with
  | nil => exact ⟨[], Or.inl rfl, rfl⟩
  | cons d rest =>
    by_cases isDigit : isDigit d
    · exact ⟨[d], Or.inr ⟨d, isDigit, rfl⟩, by simp [dropDigit, isDigit]⟩
    · exact ⟨[], Or.inl rfl, by simp [dropDigit, isDigit]⟩

theorem tempPair_read {s rest : Bytes} {kind extruder : Bool}
    (read : (parseTempPair s).map (fun left => (left, kind)) = some (rest, extruder)) :
    kind = extruder ∧ ∃ pair slash, IsPair pair ∧ IsSlash slash ∧ s = pair ++ (slash ++ rest) := by
  obtain ⟨left, found, same⟩ := Option.map_eq_some_iff.mp read
  cases same
  exact ⟨rfl, parseTempPair_some found⟩

theorem number_read {s rest : Bytes} {extruder : Bool}
    (read : (parseNumber s).map (fun left => (left, false)) = some (rest, extruder)) :
    false = extruder ∧ ∃ number, IsNumber number ∧ s = number ++ rest := by
  obtain ⟨left, found, same⟩ := Option.map_eq_some_iff.mp read
  cases same
  exact ⟨rfl, parseNumber_some found⟩

theorem parseToken_some {s rest : Bytes} {extruder : Bool}
    (read : parseToken s = some (rest, extruder)) :
    ∃ token slash, Token token extruder ∧ IsSlash slash ∧ s = token ++ (slash ++ rest) := by
  cases s with
  | nil => cases read
  | cons c others =>
    simp only [parseToken, Bool.and_eq_true, decide_eq_true_eq] at read
    split at read
    · rename_i isLetter
      obtain ⟨digit, isOptional, front⟩ := dropDigit_split others
      split at read
      · rename_i value colon
        obtain ⟨rfl, pair, slash, isPair, isSlash, rfl⟩ := tempPair_read read
        refine ⟨c :: (digit ++ 58 :: pair), slash, .extruder isLetter isOptional isPair, isSlash, ?_⟩
        rw [front, colon]
        simp
      · cases read
    split at read
    · rename_i bed
      obtain ⟨rfl, pair, slash, isPair, isSlash, value⟩ := tempPair_read read
      refine ⟨c :: 58 :: pair, slash, .bed bed.1 isPair, isSlash, ?_⟩
      rw [cons_of_head? bed.2, value]
      rfl
    split at read
    · rename_i chamber
      obtain ⟨rfl, pair, slash, isPair, isSlash, value⟩ := tempPair_read read
      refine ⟨c :: 58 :: pair, slash, .chamber chamber.1 isPair, isSlash, ?_⟩
      rw [cons_of_head? chamber.2, value]
      rfl
    split at read
    · rename_i power
      obtain ⟨rfl, number, isNumber, value⟩ := number_read read
      refine ⟨64 :: 58 :: number, [], .power isNumber, Or.inl rfl, ?_⟩
      rw [power.1, cons_of_head? power.2, value]
      rfl
    split at read
    · rename_i bedPower
      obtain ⟨rfl, number, isNumber, value⟩ := number_read read
      refine ⟨c :: 64 :: 58 :: number, [], .bedPower bedPower.1.1 isNumber, Or.inl rfl, ?_⟩
      rw [cons_of_head? bedPower.1.2, cons_of_head? bedPower.2, value]
      rfl
    · cases read

theorem not_alpha_of_digit {c : UInt8} (digit : isDigit c) : isAlpha c = false := by
  simp only [isDigit, Bool.and_eq_true, decide_eq_true_eq, UInt8.le_iff_toNat_le] at digit
  have bounds : 48 ≤ c.toNat ∧ c.toNat ≤ 57 := digit
  simp [isAlpha, UInt8.le_iff_toNat_le]
  omega

theorem not_alpha_of_space {c : UInt8} (space : isSpace c) : isAlpha c = false := by
  simp only [isSpace, Bool.or_eq_true, Bool.and_eq_true, decide_eq_true_eq,
    UInt8.le_iff_toNat_le, ← UInt8.toNat_inj] at space
  have bounds : c.toNat = 32 ∨ 9 ≤ c.toNat ∧ c.toNat ≤ 13 := space
  simp [isAlpha, UInt8.le_iff_toNat_le]
  omega

theorem not_alpha_of_separator {c : UInt8} (separator : isSeparator c) : isAlpha c = false := by
  simp only [isSeparator, Bool.and_eq_true, Bool.not_eq_true'] at separator
  exact separator.2

/-- No letter anywhere. -/
def Letterless (s : Bytes) : Prop := ∀ c ∈ s, isAlpha c = false

theorem Letterless.append {s t : Bytes} (first : Letterless s) (second : Letterless t) :
    Letterless (s ++ t) := List.forall_mem_append.mpr ⟨first, second⟩

theorem Letterless.cons {c : UInt8} {s : Bytes} (head : isAlpha c = false) (tail : Letterless s) :
    Letterless (c :: s) := List.forall_mem_cons.mpr ⟨head, tail⟩

theorem letterless_nil : Letterless [] := fun _ no => nomatch no

theorem IsSlash.letterless {slash : Bytes} (isSlash : IsSlash slash) : Letterless slash := by
  rcases isSlash with rfl | rfl
  · exact letterless_nil
  · exact letterless_nil.cons rfl

theorem IsNumber.letterless {number : Bytes} (isNumber : IsNumber number) :
    Letterless number := by
  obtain ⟨sign, whole, point, rfl, isSign, digits, rest⟩ := isNumber
  have digitsOnly : ∀ {s : Bytes}, (∀ c ∈ s, isDigit c) → Letterless s := fun digits c member =>
    not_alpha_of_digit (digits c member)
  have signs : Letterless sign := by
    rcases isSign with rfl | rfl | rfl
    · exact letterless_nil
    · exact letterless_nil.cons rfl
    · exact letterless_nil.cons rfl
  have behind : Letterless point := by
    rcases rest with ⟨rfl, -⟩ | ⟨fraction, rfl, fractional, -⟩
    · exact letterless_nil
    · exact (digitsOnly fractional).cons rfl
  exact signs.append ((digitsOnly digits).append behind)

theorem IsPair.letterless {pair : Bytes} (isPair : IsPair pair) : Letterless pair := by
  rcases isPair with number | ⟨actual, target, rfl, first, second⟩
  · exact number.letterless
  · exact first.letterless.append (second.letterless.cons rfl)

/-- A letter that begins a token. -/
def isTokenLetter (c : UInt8) : Bool := isT c || isB c || isC c

theorem Token.first {text : Bytes} {extruder : Bool} (isToken : Token text extruder) :
    ∃ c rest, text = c :: rest ∧ Letterless rest ∧ extruder = isT c ∧
      (isTokenLetter c ∨ isAlpha c = false) := by
  have notT : ∀ {c : UInt8}, isB c ∨ isC c → isT c = false := by
    intro c letter
    simp only [isB, isC, Bool.or_eq_true, decide_eq_true_eq] at letter
    rcases letter with (rfl | rfl) | (rfl | rfl) <;> rfl
  cases isToken with
  | @extruder letter digit pair isLetter isOptional isPair =>
    refine ⟨letter, digit ++ 58 :: pair, rfl, ?_, isLetter.symm, Or.inl (by simp [isTokenLetter, isLetter])⟩
    have digits : Letterless digit := by
      rcases isOptional with rfl | ⟨d, isDigit, rfl⟩
      · exact letterless_nil
      · exact letterless_nil.cons (not_alpha_of_digit isDigit)
    exact digits.append (isPair.letterless.cons rfl)
  | bed isLetter isPair =>
    exact ⟨_, _, rfl, isPair.letterless.cons rfl, (notT (Or.inl isLetter)).symm,
      Or.inl (by simp [isTokenLetter, isLetter])⟩
  | chamber isLetter isPair =>
    exact ⟨_, _, rfl, isPair.letterless.cons rfl, (notT (Or.inr isLetter)).symm,
      Or.inl (by simp [isTokenLetter, isLetter])⟩
  | power isNumber => exact ⟨_, _, rfl, isNumber.letterless.cons rfl, rfl, Or.inr rfl⟩
  | bedPower isLetter isNumber =>
    exact ⟨_, _, rfl, (isNumber.letterless.cons rfl).cons rfl, (notT (Or.inl isLetter)).symm,
      Or.inl (by simp [isTokenLetter, isLetter])⟩

theorem parseToken_taken {c : UInt8} {others rest : Bytes} {extruder : Bool}
    (read : parseToken (c :: others) = some (rest, extruder)) :
    ∃ taken, others = taken ++ rest ∧ Letterless taken ∧ extruder = isT c ∧
      (isTokenLetter c ∨ isAlpha c = false) := by
  obtain ⟨token, slash, isToken, isSlash, split⟩ := parseToken_some read
  obtain ⟨first, tail, rfl, letterless, mark, letter⟩ := isToken.first
  obtain ⟨rfl, behind⟩ := List.cons.inj split
  refine ⟨tail ++ slash, ?_, letterless.append isSlash.letterless, mark, letter⟩
  exact behind.trans (List.append_assoc tail slash rest).symm

end Tokens

section Scan

theorem dropWhile_suffix_lt {p : UInt8 → Bool} {c : UInt8} {rest : Bytes}
    (dropped : (c :: rest).dropWhile p ≠ c :: rest) :
    ((c :: rest).dropWhile p).length < (c :: rest).length := by
  have shorter := (List.dropWhile_suffix p (l := c :: rest)).length_le
  refine Nat.lt_of_le_of_ne shorter fun same => dropped ?_
  exact (List.dropWhile_suffix p).eq_of_length same

theorem scanRound_next {s rest : Bytes} {saw saw' : Bool}
    (went : scanRound s saw = .next rest saw') : rest <:+ s ∧ rest.length < s.length := by
  have blanks : s.dropWhile isSpace <:+ s := List.dropWhile_suffix _
  unfold scanRound at went
  split at went
  · cases went
  rename_i c others text
  rw [text] at blanks
  suffices inner : rest <:+ c :: others ∧ rest.length < (c :: others).length by
    exact ⟨inner.1.trans blanks, Nat.lt_of_lt_of_le inner.2 blanks.length_le⟩
  split at went
  · rename_i left extruder read
    cases went
    obtain ⟨taken, rfl, -⟩ := parseToken_taken read
    refine ⟨⟨c :: taken, by simp⟩, ?_⟩
    simp only [List.length_cons, List.length_append]
    omega
  · split at went
    · cases went
    · simp only at went
      split at went
      · cases went
      · rename_i moved
        cases went
        exact ⟨List.dropWhile_suffix _, dropWhile_suffix_lt moved⟩

/-- The scan, round by round. -/
def tokenScan (s : Bytes) (saw : Bool) : Bool :=
  match _went : scanRound s saw with
  | .answer saw => saw
  | .next rest saw => tokenScan rest saw
termination_by s.length
decreasing_by exact (scanRound_next _went).2

/-- The index into `line` at the head of every round. -/
def scanIndices (line s : Bytes) (saw : Bool) : List Nat :=
  (line.length - s.length) :: match _went : scanRound s saw with
    | .answer _ => []
    | .next rest saw => scanIndices line rest saw
termination_by s.length
decreasing_by exact (scanRound_next _went).2

theorem scanIndices_grow {line s : Bytes} (within : s <:+ line) (saw : Bool) :
    (scanIndices line s saw).Pairwise (· < ·) ∧
      ∀ i ∈ scanIndices line s saw, line.length - s.length ≤ i ∧ i ≤ line.length := by
  fun_induction scanIndices line s saw with
  | case1 s saw ih =>
    cases went : scanRound s saw with
    | answer saw' =>
      refine ⟨List.pairwise_singleton _ _, List.forall_mem_singleton.mpr ⟨Nat.le_refl _, ?_⟩⟩
      exact Nat.sub_le _ _
    | next rest saw' =>
      obtain ⟨left, less⟩ := scanRound_next went
      obtain ⟨ordered, bounded⟩ := ih rest saw' went (left.trans within)
      have fits := within.length_le
      simp only
      refine ⟨List.pairwise_cons.mpr ⟨fun i member => ?_, ordered⟩, List.forall_mem_cons.mpr ⟨?_, ?_⟩⟩
      · have above := (bounded i member).1
        omega
      · exact ⟨Nat.le_refl _, Nat.sub_le _ _⟩
      · intro i member
        have above := bounded i member
        omega

end Scan

section Report

/-- `ok` in either case at the front of the line. -/
def dropOk : Bytes → Bytes
  | o :: k :: rest =>
    if (o = 111 || o = 79) && (k = 107 || k = 75) then
      match rest with
      | [] => []
      | c :: others => if isSpace c then others else c :: others
    else o :: k :: rest
  | s => s

/-- The scan of a trimmed line, without the fast reject. -/
def scanLine (line : Bytes) : Bool := tokenScan (dropOk line) false

/-- None of the literals stands in the line. -/
def fastReject (line : Bytes) : Bool :=
  !contains line (bytes "T:") && !contains line (bytes "T0:") && !contains line (bytes "B:") &&
    !contains line (bytes "@:") && !contains line (bytes "B@:")

/-- `klipper_is_temp_report_buf`. -/
def isTempReportBuf (buf : Bytes) : Bool :=
  let line := Config.trim buf
  if line = [] then false
  else if fastReject line then false
  else scanLine line

/-- `klipper_is_temp_report`, up to the NUL. -/
def isTempReport (s : Bytes) : Bool := isTempReportBuf (s.takeWhile (· ≠ 0))

/-- `ConsolePanel::handle_macro_response`: the lines that are not hidden. -/
def consoleLines (params : List Bytes) : List Bytes :=
  (params.map (· ++ [10])).filter fun v => !isTempReport v

end Report

end GrumpyScreen.TempFilter
