import GrumpyScreen.CalLog
import GrumpyScreen.Lib.Strip
import GrumpyScreen.Lib.Text

/-! What `parse_cal_msg` takes from a step message: the fields of a message that is
written as intended, the messages whose count it takes from elsewhere, and the
progress bar drawn for a count. -/

namespace GrumpyScreen

open Lib

/-- The blanks that are trimmed off a step. -/
def isTrimmable (c : Char) : Bool := c = ' ' || c = '\t'

/-- No blank at either end. -/
structure Trimmed (text : List Char) : Prop where
  first : ∀ c, text.head? = some c → isTrimmable c = false
  last : ∀ c, text.getLast? = some c → isTrimmable c = false

theorem trimmed_iff (text : List Char) :
    Trimmed text ↔
      text.head?.all (!isTrimmable ·) = true ∧ text.getLast?.all (!isTrimmable ·) = true := by
  constructor
  · intro trimmed
    constructor
    · cases head : text.head? with
      | none => rfl
      | some c => simp [trimmed.first c head]
    · cases last : text.getLast? with
      | none => rfl
      | some c => simp [trimmed.last c last]
  · intro ⟨first, last⟩
    constructor
    · intro c head
      simpa [head] using first
    · intro c tail
      simpa [tail] using last

instance (text : List Char) : Decidable (Trimmed text) := decidable_of_iff' _ (trimmed_iff text)

/-- The number a row of digits spells. -/
def number (digits : List Char) : Nat := Nat.ofDigitChars 10 digits 0

/-- A row of at least one digit. -/
structure IsRow (digits : List Char) : Prop where
  digit : ∀ c ∈ digits, c.isDigit
  nonempty : digits ≠ []

/-- At its first slash the message has the rows `x` and `n`, in full. -/
structure CountAt (m x n : List Char) : Prop where
  left : IsRow x
  right : IsRow n
  place : ∃ before after, m = before ++ x ++ '/' :: (n ++ after) ∧ '/' ∉ before ++ x ∧
    (∀ c, before.getLast? = some c → ¬ c.isDigit) ∧ ∀ c, after.head? = some c → ¬ c.isDigit

/-- Somewhere in the text a slash stands between two rows of digits. -/
def CarriesCount (text : List Char) : Prop :=
  ∃ x n, IsRow x ∧ IsRow n ∧ x ++ '/' :: n <:+: text

/-- The part of a message before its first `:`. -/
def header (m : List Char) : List Char := m.takeWhile (· ≠ ':')

section Numbers

variable {digits before after : List Char}

theorem isRow_toDigits (n : Nat) : IsRow (Nat.toDigits 10 n) where
  digit _ member := Nat.isDigit_of_mem_toDigits (by omega) (by omega) member
  nonempty := Nat.toDigits_ne_nil

theorem IsRow.absent (row : IsRow digits) {c : Char} (other : c.isDigit = false) : c ∉ digits := by
  intro member
  simp [row.digit c member] at other

theorem stoi_eq (digits : List Char) :
    stoi digits = if number digits ≤ 2147483647 then some (number digits : Int) else none := rfl

theorem IsRow.read (row : IsRow digits) (stop : ∀ c, after.head? = some c → ¬ c.isDigit) :
    (digits ++ after).takeWhile Char.isDigit = digits := by
  rw [List.takeWhile_append_of_pos row.digit, Text.takeWhile_stop stop, List.append_nil]

theorem IsRow.readBack (row : IsRow digits) (stop : ∀ c, before.getLast? = some c → ¬ c.isDigit) :
    ((before ++ digits).reverse.takeWhile Char.isDigit).reverse = digits := by
  have backwards : IsRow digits.reverse :=
    ⟨fun c member => row.digit c (List.mem_reverse.mp member), by simpa using row.nonempty⟩
  rw [List.reverse_append, backwards.read (by simpa using stop), List.reverse_reverse]

end Numbers

section Count

variable {m x n : List Char}

theorem calCount_at (count : CountAt m x n) :
    calCount m =
      match stoi x with
      | none => (0, 0)
      | some done =>
        match stoi n with
        | none => (done, 0)
        | some total => (done, total) := by
  obtain ⟨before, after, rfl, absent, stopBack, stop⟩ := count.place
  have left : x.isEmpty = false := List.isEmpty_eq_false_iff.mpr count.left.nonempty
  have right : n.isEmpty = false := List.isEmpty_eq_false_iff.mpr count.right.nonempty
  rw [calCount, Text.takeWhile_upTo absent, Text.dropWhile_upTo absent, List.tail_cons,
    count.left.readBack stopBack, count.right.read stop, left, right]
  rfl

theorem calCount_no_slash (absent : '/' ∉ m) : calCount m = (0, 0) := by
  have nothing : m.dropWhile (· ≠ '/') = [] :=
    List.dropWhile_eq_nil_iff.mpr (Text.differs_of_absent absent)
  rw [calCount, nothing]
  exact if_pos (Bool.or_true _)

theorem calCount_cases (m : List Char) : calCount m = (0, 0) ∨ ∃ x n, CountAt m x n := by
  by_cases member : '/' ∈ m
  · obtain ⟨before, after, rfl, absent⟩ := Text.cut_at_first member
    by_cases empty : ((before.reverse.takeWhile Char.isDigit).reverse.isEmpty ||
        (after.takeWhile Char.isDigit).isEmpty) = true
    · left
      rw [calCount, Text.takeWhile_upTo absent, Text.dropWhile_upTo absent]
      exact if_pos empty
    · right
      obtain ⟨left, right⟩ : ¬ before.rtakeWhile Char.isDigit = [] ∧
          ¬ after.takeWhile Char.isDigit = [] := by
        simpa [List.isEmpty_iff, List.rtakeWhile] using empty
      have whole : before.rdropWhile Char.isDigit ++ before.rtakeWhile Char.isDigit = before :=
        List.rdropWhile_append_rtakeWhile ..
      have rest : after.takeWhile Char.isDigit ++ after.dropWhile Char.isDigit = after :=
        List.takeWhile_append_dropWhile
      refine ⟨before.rtakeWhile Char.isDigit, after.takeWhile Char.isDigit,
        ⟨fun _ => List.mem_rtakeWhile_imp, left⟩, ⟨fun _ => List.mem_takeWhile_imp, right⟩,
        before.rdropWhile Char.isDigit, after.dropWhile Char.isDigit, ?_, ?_,
        fun _ => Strip.getLast?_rdropWhile_text, fun _ => Strip.head?_dropWhile_text⟩
      · rw [whole, rest]
      · rw [whole]
        exact absent
  · left
    exact calCount_no_slash member

end Count

section Header

variable {m x n : List Char}

theorem CarriesCount.slash {text : List Char} (carries : CarriesCount text) : '/' ∈ text := by
  obtain ⟨x, n, -, -, inside⟩ := carries
  exact inside.subset (by simp)

theorem CountAt.header (count : CountAt m x n) (slash : '/' ∈ header m) :
    CarriesCount (header m) := by
  obtain ⟨before, after, rfl, absent, -, -⟩ := count.place
  have early : ':' ∉ before ++ x := by
    intro colon
    obtain ⟨first, later, whole, plain⟩ := Text.cut_at_first colon
    rw [GrumpyScreen.header, whole, List.append_assoc, List.cons_append,
      Text.takeWhile_upTo plain] at slash
    apply absent
    rw [whole]
    exact List.mem_append_left _ slash
  have digits : ':' ∉ n := count.right.absent rfl
  refine ⟨x, n, count.left, count.right, before, after.takeWhile (· ≠ ':'), ?_⟩
  rw [GrumpyScreen.header, List.takeWhile_append_of_pos (Text.differs_of_absent early),
    List.takeWhile_cons_of_pos (by decide),
    List.takeWhile_append_of_pos (Text.differs_of_absent digits)]
  simp

end Header

section Written

variable {before now next body : List Char}

theorem Trimmed.strip {text : List Char} (trimmed : Trimmed text) :
    strip isTrimmable text = text := by
  have front : text.dropWhile isTrimmable = text := by
    cases text with
    | nil => rfl
    | cons c rest =>
      have plain := trimmed.first c rfl
      exact List.dropWhile_cons_of_neg (by simp [plain])
  rw [Lib.strip, front, List.rdropWhile_eq_self_iff]
  intro nonempty
  have plain := trimmed.last _ (List.getLast?_eq_getLast_of_ne_nil nonempty)
  simp [plain]

theorem Trimmed.trim {text : List Char} (trimmed : Trimmed text) :
    trim (' ' :: (text ++ [' '])) = text ∧ GrumpyScreen.trim (' ' :: text) = text := by
  have blank : ∀ c ∈ [' '], isTrimmable c := List.forall_mem_singleton.mpr rfl
  constructor
  · exact (Strip.strip_padded (s := text) blank blank).trans trimmed.strip
  · exact (Strip.strip_front (s := text) blank).trans trimmed.strip

theorem calBody_bar (lead : ':' ∉ before) (step : '|' ∉ now) :
    calBody (before ++ ':' :: (now ++ '|' :: next)) =
      (String.ofList (trim now), String.ofList (trim next)) := by
  rw [calBody, if_pos (by simp), Text.dropWhile_upTo lead, List.tail_cons, if_pos (by simp),
    Text.takeWhile_upTo step, Text.dropWhile_upTo step, List.tail_cons]

theorem calBody_step (lead : ':' ∉ before) (step : '|' ∉ body) :
    calBody (before ++ ':' :: body) = (String.ofList (trim body), "") := by
  rw [calBody, if_pos (by simp), Text.dropWhile_upTo lead, List.tail_cons, if_neg step]

/-- The words a calibration message begins with. -/
def calPrefixes : List String := ["Make Pono", "Full Cal"]

theorem calPrefix_plain {lead : String} (known : lead ∈ calPrefixes) :
    '/' ∉ lead.toList ∧ ':' ∉ lead.toList := by
  rcases List.mem_pair.mp known with rfl | rfl <;> decide

/-- "<lead> x/n: now". -/
def stepMessage (lead : String) (x n : Nat) (now : String) : String := s!"{lead} {x}/{n}: {now}"

/-- A message up to the colon. -/
def calLead (lead : String) (x n : Nat) : List Char :=
  lead.toList ++ ' ' :: (Nat.toDigits 10 x ++ '/' :: Nat.toDigits 10 n)

theorem calLead_colon {lead : String} (known : lead ∈ calPrefixes) (x n : Nat) :
    ':' ∉ calLead lead x n := by
  have first : ':' ∉ Nat.toDigits 10 x := (isRow_toDigits x).absent rfl
  have second : ':' ∉ Nat.toDigits 10 n := (isRow_toDigits n).absent rfl
  simp [calLead, first, second, (calPrefix_plain known).2]

theorem stepMessage_toList (lead : String) (x n : Nat) (now : String) :
    (stepMessage lead x n now).toList = calLead lead x n ++ ':' :: ' ' :: now.toList := by
  simp [stepMessage, toString, calLead, Nat.toList_repr]

theorem calLead_count {lead : String} (known : lead ∈ calPrefixes) (x n : Nat)
    (rest : List Char) :
    CountAt (calLead lead x n ++ ':' :: rest) (Nat.toDigits 10 x) (Nat.toDigits 10 n) := by
  refine ⟨isRow_toDigits x, isRow_toDigits n, lead.toList ++ [' '], ':' :: rest, ?_, ?_, ?_, ?_⟩
  · simp [calLead]
  · have absent : '/' ∉ Nat.toDigits 10 x := (isRow_toDigits x).absent rfl
    simp [absent, (calPrefix_plain known).1]
  · intro c last
    obtain rfl : ' ' = c := by simpa using last
    decide
  · intro c first
    obtain rfl : ':' = c := by simpa using first
    decide

theorem stoi_toDigits {n : Nat} (fits : n ≤ 2147483647) :
    stoi (Nat.toDigits 10 n) = some (n : Int) := by
  rw [stoi_eq, number, Nat.ofDigitChars_ten_toDigits, if_pos fits]

/-- A message written as intended is read back field by field, whatever colons,
slashes and digits its steps have. -/
theorem written_message_read {lead : String} (known : lead ∈ calPrefixes) {x n : Nat}
    (xFits : x ≤ 2147483647) (nFits : n ≤ 2147483647) {now next : String}
    (step : '|' ∉ now.toList) (trimmed : Trimmed now.toList) (trimmedNext : Trimmed next.toList) :
    parseCalMsg (stepMessage lead x n now ++ " | " ++ next) =
        { now := now, next := next, done := x, total := n } ∧
      parseCalMsg (stepMessage lead x n now) =
        { now := now, next := "", done := x, total := n } := by
  have colon := calLead_colon known x n
  have count (rest : List Char) :
      calCount (calLead lead x n ++ ':' :: rest) = ((x : Int), (n : Int)) := by
    rw [calCount_at (calLead_count known x n rest), stoi_toDigits xFits, stoi_toDigits nFits]
  constructor
  · have spelled : (stepMessage lead x n now ++ " | " ++ next).toList =
        calLead lead x n ++
          ':' :: ((' ' :: (now.toList ++ [' '])) ++ '|' :: ' ' :: next.toList) := by
      simp [stepMessage_toList]
    have bare : '|' ∉ ' ' :: (now.toList ++ [' ']) := by simp [step]
    rw [parseCalMsg, spelled, count, calBody_bar colon bare, trimmed.trim.1, trimmedNext.trim.2,
      String.ofList_toList, String.ofList_toList]
  · have bare : '|' ∉ ' ' :: now.toList := by simp [step]
    rw [parseCalMsg, stepMessage_toList, count, calBody_step colon bare, trimmed.trim.2,
      String.ofList_toList]

theorem written_message_read_fractions :
    parseCalMsg (stepMessage "Make Pono" 5 40 "probe 3/4: bed" ++ " | " ++ "home | 7/8") =
        { now := "probe 3/4: bed", next := "home | 7/8", done := 5, total := 40 } ∧
      parseCalMsg (stepMessage "Make Pono" 5 40 "probe 3/4: bed") =
        { now := "probe 3/4: bed", next := "", done := 5, total := 40 } :=
  written_message_read (by decide) (by decide) (by decide) (by decide) (by decide) (by decide)

end Written

section Honest

/-- The count shown is the one of the prefix, and all or nothing. -/
structure CountHonest (m : String) : Prop where
  ofPrefix : ¬ CarriesCount (header m.toList) →
    (parseCalMsg m).done = 0 ∧ (parseCalMsg m).total = 0
  whole : ∀ x n, CountAt m.toList x n → 2147483647 < number x ∨ 2147483647 < number n →
    (parseCalMsg m).done = 0 ∧ (parseCalMsg m).total = 0

theorem parseCalMsg_zero {m : String} (none : calCount m.toList = (0, 0)) :
    (parseCalMsg m).done = 0 ∧ (parseCalMsg m).total = 0 := by
  rw [parseCalMsg, none]
  exact ⟨rfl, rfl⟩

theorem calCount_fits {m x n : List Char} (count : CountAt m x n) (left : number x ≤ 2147483647)
    (right : number n ≤ 2147483647) : calCount m = (↑(number x), ↑(number n)) := by
  rw [calCount_at count, stoi_eq, stoi_eq, if_pos left, if_pos right]

theorem calCount_half {m x n : List Char} (count : CountAt m x n) (left : number x ≤ 2147483647)
    (right : 2147483647 < number n) : calCount m = (↑(number x), 0) := by
  rw [calCount_at count, stoi_eq, stoi_eq, if_pos left, if_neg (Nat.not_le_of_lt right)]

theorem calCount_past {m x n : List Char} (count : CountAt m x n) (left : 2147483647 < number x) :
    calCount m = (0, 0) := by
  rw [calCount_at count, stoi_eq, if_neg (Nat.not_le_of_lt left)]

theorem calCount_nothing {m x n : List Char} (count : CountAt m x n) (zero : number x = 0)
    (rest : number n = 0 ∨ 2147483647 < number n) : calCount m = (0, 0) := by
  have fits : number x ≤ 2147483647 := zero ▸ Nat.zero_le _
  rcases rest with none | past
  · rw [calCount_fits count fits (none ▸ Nat.zero_le _), zero, none]
    rfl
  · rw [calCount_half count fits past, zero]
    rfl

/-- The count is honest unless the first slash with digits around it stands behind the
first colon or has a second number that does not fit, with something stored. -/
theorem count_honest_iff (m : String) :
    CountHonest m ↔ ∀ x n, CountAt m.toList x n →
      2147483647 < number x ∨ (number n ≤ 2147483647 ∧ '/' ∈ header m.toList) ∨
        (number x = 0 ∧ (number n = 0 ∨ 2147483647 < number n)) := by
  constructor
  · intro honest x n count
    by_cases left : 2147483647 < number x
    · exact Or.inl left
    · have done := Nat.le_of_not_lt left
      right
      by_cases right : 2147483647 < number n
      · right
        have stored := (honest.whole x n count (Or.inr right)).1
        rw [parseCalMsg, calCount_half count done right] at stored
        exact ⟨Int.ofNat_eq_zero.mp stored, Or.inr right⟩
      · have total := Nat.le_of_not_lt right
        by_cases slash : '/' ∈ header m.toList
        · exact Or.inl ⟨total, slash⟩
        · right
          have stored := honest.ofPrefix fun carries => slash carries.slash
          rw [parseCalMsg, calCount_fits count done total] at stored
          exact ⟨Int.ofNat_eq_zero.mp stored.1, Or.inl (Int.ofNat_eq_zero.mp stored.2)⟩
  · intro safe
    constructor
    · intro bare
      apply parseCalMsg_zero
      rcases calCount_cases m.toList with none | ⟨x, n, count⟩
      · exact none
      · rcases safe x n count with past | ⟨-, slash⟩ | ⟨zero, rest⟩
        · exact calCount_past count past
        · exact absurd (count.header slash) bare
        · exact calCount_nothing count zero rest
    · intro x n count past
      apply parseCalMsg_zero
      rcases safe x n count with left | ⟨total, -⟩ | ⟨zero, rest⟩
      · exact calCount_past count left
      · rcases past with left | right
        · exact calCount_past count left
        · exact absurd right (Nat.not_lt_of_le total)
      · exact calCount_nothing count zero rest

theorem step_fraction_counted :
    parseCalMsg "Make Pono: probe 3/4 points" =
        { now := "probe 3/4 points", next := "", done := 3, total := 4 } ∧
      ¬ CountHonest "Make Pono: probe 3/4 points" := by
  refine ⟨by decide, fun honest => ?_⟩
  have bare : '/' ∉ header "Make Pono: probe 3/4 points".toList := by decide
  have stored := (honest.ofPrefix fun carries => bare carries.slash).1
  revert stored
  decide

end Honest

section Bar

/-- The progress bar of the box; its texts and its colour do not matter. -/
def calBar (now next : String) (fault : Bool) (done total : Int) : Option (Option Int) :=
  (calLogView now next done total fault).bar

/-- The bar is hidden, or its width is computed, lies on the glass and is no less
than the one of any smaller count. -/
def BarSound (bar : Int → Int → Option (Option Int)) (done total : Int) : Prop :=
  bar done total = none ∨
    ∃ width, bar done total = some (some width) ∧ 0 ≤ width ∧ width ≤ 480 ∧
      ∀ fewer, 0 ≤ fewer → fewer ≤ done →
        ∃ narrower, bar fewer total = some (some narrower) ∧ narrower ≤ width

variable {done total : Int} (now next : String) (fault : Bool)

/-- The count the bar is drawn for. -/
def drawnCount (done total : Int) : Int := if done > total then total else done

theorem calBar_shown (counted : 0 ≤ done) (positive : 0 < total) :
    calBar now next fault done total = some (barWidth (drawnCount done total) total) := by
  rw [calBar, calLogView, if_pos positive]
  simp only [Int.not_lt.mpr counted, if_false]
  rfl

theorem drawnCount_within (counted : 0 ≤ done) (whole : 0 ≤ total) :
    0 ≤ drawnCount done total ∧ drawnCount done total ≤ total := by
  unfold drawnCount
  split <;> omega

theorem drawnCount_small :
    drawnCount done total ≤ 4473924 ↔ done ≤ 4473924 ∨ total ≤ 4473924 := by
  unfold drawnCount
  split <;> omega

theorem drawnCount_mono {fewer : Int} (less : fewer ≤ done) (total : Int) :
    drawnCount fewer total ≤ drawnCount done total := by
  unfold drawnCount
  split <;> split <;> omega

theorem barWidth_eq (counted : 0 ≤ done) (within : done ≤ total) (positive : 0 < total)
    (small : done ≤ 4473924) :
    barWidth done total = some (480 * done / total) ∧ 0 ≤ 480 * done / total ∧
      480 * done / total ≤ 480 := by
  have product : 480 * done ≤ 2147483647 := by omega
  have lower : 0 ≤ 480 * done / total := Int.ediv_nonneg (by omega) (Int.le_of_lt positive)
  have upper : 480 * done / total ≤ 480 := by
    apply Int.ediv_le_of_le_mul positive
    omega
  refine ⟨?_, lower, upper⟩
  rw [barWidth, if_pos product, Int.bmod_eq_of_le (by omega) (by omega)]

theorem barWidth_overflow (large : 4473924 < done) (total : Int) : barWidth done total = none := by
  rw [barWidth, if_neg (by omega)]

/-- The width is sound exactly up to the count whose product still fits an int. -/
theorem bar_sound_iff (counted : 0 ≤ done) (whole : 0 ≤ total) :
    BarSound (calBar now next fault) done total ↔ done ≤ 4473924 ∨ total ≤ 4473924 := by
  rw [← drawnCount_small]
  by_cases positive : 0 < total
  · constructor
    · intro sound
      by_contra large
      have shown := calBar_shown now next fault counted positive
      rw [barWidth_overflow (Int.not_le.mp large)] at shown
      rcases sound with hidden | ⟨width, drawn, -⟩
      · cases shown.symm.trans hidden
      · cases shown.symm.trans drawn
    · intro small
      obtain ⟨least, most⟩ := drawnCount_within counted whole
      obtain ⟨drawn, lower, upper⟩ := barWidth_eq least most positive small
      right
      refine ⟨_, (calBar_shown now next fault counted positive).trans (congrArg some drawn),
        lower, upper, ?_⟩
      intro fewer start less
      have order := drawnCount_mono less total
      obtain ⟨begins, ends⟩ := drawnCount_within start whole
      obtain ⟨narrower, -, -⟩ := barWidth_eq begins ends positive (Int.le_trans order small)
      refine ⟨_, (calBar_shown now next fault start positive).trans (congrArg some narrower), ?_⟩
      apply Int.ediv_le_ediv positive
      omega
  · have none : total = 0 := by omega
    subst none
    refine iff_of_true (Or.inl rfl) ?_
    exact Int.le_trans (drawnCount_within counted whole).2 (by decide)

theorem bar_sound_iff_five :
    BarSound (calBar "heat" "" false) 5 40 ↔ (5 : Int) ≤ 4473924 ∨ (40 : Int) ≤ 4473924 :=
  bar_sound_iff "heat" "" false (by decide) (by decide)

/-- A count a message can really have. -/
theorem large_count_overflows :
    (parseCalMsg "Make Pono 4473925/4473925: heat").view.bar = some none ∧
      ¬ BarSound (calBar "heat" "" false) 4473925 4473925 := by
  refine ⟨by decide, ?_⟩
  have computed : calBar "heat" "" false 4473925 4473925 = some none := by decide
  intro sound
  rcases sound with hidden | ⟨width, drawn, -⟩
  · cases computed.symm.trans hidden
  · cases computed.symm.trans drawn

end Bar

end GrumpyScreen
