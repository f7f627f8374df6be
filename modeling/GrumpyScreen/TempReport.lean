import GrumpyScreen.TempFilter

/-! The grammar of a temperature report: the scan accepts exactly its lines, and
the fast reject loses some of them. -/

namespace GrumpyScreen.TempFilter

open Lib Decimal

section Parsers

/-- A digit, or a point and a digit. -/
def StartsNumber (s : Bytes) : Prop :=
  (∃ d rest, s = d :: rest ∧ isDigit d) ∨ ∃ d rest, s = 46 :: d :: rest ∧ isDigit d

theorem takeWhile_digit_ne_nil {d : UInt8} {rest : Bytes} (digit : isDigit d) :
    (d :: rest).takeWhile isDigit ≠ [] := by
  rw [List.takeWhile_cons_of_pos digit]
  exact List.cons_ne_nil _ _

theorem parseNumber_isSome {s : Bytes} (starts : StartsNumber (dropSign s)) :
    (parseNumber s).isSome := by
  unfold parseNumber
  rcases starts with ⟨d, rest, whole, digit⟩ | ⟨d, rest, point, digit⟩
  · have some : (dropSign s).takeWhile isDigit ≠ [] := by
      rw [whole]
      exact takeWhile_digit_ne_nil digit
    simp only [some, false_and, if_false]
    split <;> rfl
  · have stop : (46 :: d :: rest).dropWhile isDigit = 46 :: d :: rest :=
      List.dropWhile_cons_of_neg (by decide)
    have some : (d :: rest).takeWhile isDigit ≠ [] := takeWhile_digit_ne_nil digit
    simp only [point, stop, some, and_false, if_false]
    rfl

theorem IsNumber.read {number : Bytes} (isNumber : IsNumber number) (rest : Bytes) :
    (parseNumber (number ++ rest)).isSome := by
  obtain ⟨sign, whole, point, rfl, isSign, digits, shape⟩ := isNumber
  have starts : StartsNumber (whole ++ (point ++ rest)) := by
    cases whole with
    | cons d others => exact Or.inl ⟨d, others ++ (point ++ rest), rfl, digits d List.mem_cons_self⟩
    | nil =>
      rcases shape with ⟨-, none⟩ | ⟨fraction, rfl, fractional, some⟩
      · exact absurd rfl none
      · obtain ⟨d, others, rfl⟩ := List.exists_cons_of_ne_nil (some.resolve_left fun no => no rfl)
        exact Or.inr ⟨d, others ++ rest, rfl, fractional d List.mem_cons_self⟩
  have unsigned : dropSign (whole ++ (point ++ rest)) = whole ++ (point ++ rest) := by
    have kept : ∀ {c : UInt8} {tail : Bytes}, isDigit c ∨ c = 46 → dropSign (c :: tail) = c :: tail := by
      intro c tail other
      refine if_neg fun signed => ?_
      simp only [Bool.or_eq_true, decide_eq_true_eq] at signed
      rcases signed with rfl | rfl <;> exact absurd other (by decide)
    rcases starts with ⟨d, tail, same, digit⟩ | ⟨d, tail, same, -⟩
    · rw [same]
      exact kept (Or.inl digit)
    · rw [same]
      exact kept (Or.inr rfl)
  apply parseNumber_isSome
  rw [List.append_assoc, List.append_assoc]
  rcases isSign with rfl | rfl | rfl
  · rw [List.nil_append, unsigned]
    exact starts
  · exact starts
  · exact starts

theorem IsPair.read {pair : Bytes} (isPair : IsPair pair) (rest : Bytes) :
    (parseTempPair (pair ++ rest)).isSome := by
  have first : (parseNumber (pair ++ rest)).isSome := by
    rcases isPair with number | ⟨actual, target, rfl, number, -⟩
    · exact number.read rest
    · rw [List.append_assoc]
      exact number.read _
  obtain ⟨left, read⟩ := Option.isSome_iff_exists.mp first
  unfold parseTempPair
  rw [read]
  split <;> rfl

theorem Token.read {text : Bytes} {extruder : Bool} (isToken : Token text extruder) (rest : Bytes) :
    (parseToken (text ++ rest)).isSome := by
  have bed : ∀ {c : UInt8}, isB c → isT c = false ∧ isC c = false := by
    intro c letter
    simp only [isB, Bool.or_eq_true, decide_eq_true_eq] at letter
    rcases letter with rfl | rfl <;> exact ⟨rfl, rfl⟩
  have chamber : ∀ {c : UInt8}, isC c → isT c = false ∧ isB c = false := by
    intro c letter
    simp only [isC, Bool.or_eq_true, decide_eq_true_eq] at letter
    rcases letter with rfl | rfl <;> exact ⟨rfl, rfl⟩
  cases isToken with
  | @extruder letter digit pair isLetter isOptional isPair =>
    have colon : dropDigit (digit ++ 58 :: (pair ++ rest)) = 58 :: (pair ++ rest) := by
      rcases isOptional with rfl | ⟨d, isDigit, rfl⟩
      · rfl
      · simp [dropDigit, isDigit]
    rw [List.cons_append, List.append_assoc, List.cons_append]
    simp only [parseToken, isLetter, if_true, colon, Option.isSome_map]
    exact isPair.read rest
  | bed isLetter isPair =>
    simp [parseToken, bed isLetter, isLetter, isPair.read rest]
  | chamber isLetter isPair =>
    simp [parseToken, chamber isLetter, isLetter, isPair.read rest]
  | power isNumber =>
    simp [parseToken, show isT 64 = false from rfl, show isB 64 = false from rfl,
      show isC 64 = false from rfl, isNumber.read rest]
  | bedPower isLetter isNumber =>
    simp [parseToken, bed isLetter, isLetter, isNumber.read rest]

end Parsers

section Scan

/-- A token begins at every letter. -/
def Clean : Bytes → Prop
  | [] => True
  | c :: rest => (isAlpha c → (parseToken (c :: rest)).isSome) ∧ Clean rest

def HasT (s : Bytes) : Prop := ∃ c ∈ s, isT c

theorem alpha_of_t {c : UInt8} (extruder : isT c) : isAlpha c := by
  simp only [isT, Bool.or_eq_true, decide_eq_true_eq] at extruder
  rcases extruder with rfl | rfl <;> rfl

theorem clean_append {run rest : Bytes} (letterless : Letterless run) :
    Clean (run ++ rest) ↔ Clean rest := by
  induction run with
  | nil => exact Iff.rfl
  | cons c others ih =>
    obtain ⟨head, tail⟩ := List.forall_mem_cons.mp letterless
    rw [List.cons_append, Clean, head]
    simp [ih tail]

theorem hasT_append {run rest : Bytes} (letterless : Letterless run) :
    HasT (run ++ rest) ↔ HasT rest := by
  have none : ¬ ∃ c ∈ run, isT c := by
    rintro ⟨c, member, extruder⟩
    have alpha := alpha_of_t extruder
    rw [letterless c member] at alpha
    cases alpha
  unfold HasT
  simp only [List.mem_append, or_and_right, exists_or]
  exact or_iff_right none

theorem hasT_cons {c : UInt8} {rest : Bytes} : HasT (c :: rest) ↔ isT c = true ∨ HasT rest := by
  simp [HasT]

theorem Clean.suffix {s rest : Bytes} (clean : Clean s) (suffix : rest <:+ s) : Clean rest := by
  obtain ⟨front, rfl⟩ := suffix
  induction front with
  | nil => exact clean
  | cons c others ih => exact ih clean.2

theorem letterless_blanks (s : Bytes) : Letterless (s.takeWhile isSpace) :=
  fun _ member => not_alpha_of_space (List.mem_takeWhile_imp member)

theorem letterless_separators (s : Bytes) : Letterless (s.takeWhile isSeparator) :=
  fun _ member => not_alpha_of_separator (List.mem_takeWhile_imp member)

theorem skip_blanks (s : Bytes) :
    (Clean s ↔ Clean (s.dropWhile isSpace)) ∧ (HasT s ↔ HasT (s.dropWhile isSpace)) := by
  have whole : s.takeWhile isSpace ++ s.dropWhile isSpace = s := List.takeWhile_append_dropWhile
  constructor
  · conv_lhs => rw [← whole]
    exact clean_append (letterless_blanks s)
  · conv_lhs => rw [← whole]
    exact hasT_append (letterless_blanks s)

theorem scanRound_answered {s : Bytes} {saw answer : Bool} (went : scanRound s saw = .answer answer) :
    answer = true ↔ Clean s ∧ (saw = true ∨ HasT s) := by
  obtain ⟨clean, hasT⟩ := skip_blanks s
  rw [clean, hasT]
  unfold scanRound at went
  split at went
  · rename_i empty
    cases went
    rw [empty]
    simp [Clean, HasT]
  rename_i c others text
  rw [text]
  split at went
  · cases went
  rename_i unread
  split at went
  · rename_i alpha
    cases went
    simp [Clean, alpha, unread]
  · rename_i other
    -- a byte that is neither blank nor letter is skipped, so the scan is never stuck
    have space : ¬ isSpace c := by
      have stops := List.head?_dropWhile_not isSpace s
      rw [text] at stops
      simpa using stops
    have separator : isSeparator c := by simp [isSeparator, space, other]
    simp only at went
    split at went
    · rename_i stuck
      rw [List.dropWhile_cons_of_pos separator] at stuck
      have shorter := (List.dropWhile_suffix isSeparator (l := others)).length_le
      rw [stuck, List.length_cons] at shorter
      omega
    · cases went

theorem scanRound_went {s rest : Bytes} {saw saw' : Bool} (went : scanRound s saw = .next rest saw') :
    (Clean s ↔ Clean rest) ∧ (saw = true ∨ HasT s ↔ saw' = true ∨ HasT rest) := by
  obtain ⟨clean, hasT⟩ := skip_blanks s
  rw [clean, hasT]
  unfold scanRound at went
  split at went
  · cases went
  rename_i c others text
  rw [text]
  split at went
  · rename_i left extruder read
    cases went
    obtain ⟨taken, rfl, letterless, mark, -⟩ := parseToken_taken read
    constructor
    · rw [Clean, read, clean_append letterless]
      simp
    · rw [hasT_cons, hasT_append letterless, mark, Bool.or_eq_true, or_assoc]
  · split at went
    · cases went
    · simp only at went
      split at went
      · cases went
      · cases went
        have whole : (c :: others).takeWhile isSeparator ++ (c :: others).dropWhile isSeparator =
          c :: others := List.takeWhile_append_dropWhile
        constructor
        · conv_lhs => rw [← whole]
          exact clean_append (letterless_separators _)
        · conv_lhs => rw [← whole]
          rw [hasT_append (letterless_separators _)]

/-- The scan answers yes where a token begins at every letter and one is an
extruder's. -/
theorem tokenScan_iff (s : Bytes) (saw : Bool) :
    tokenScan s saw = true ↔ Clean s ∧ (saw = true ∨ HasT s) := by
  fun_induction tokenScan s saw with
  | case1 s saw answer went => exact scanRound_answered went
  | case2 s saw rest saw' went ih =>
    obtain ⟨clean, seen⟩ := scanRound_went went
    rw [ih, clean, seen]

end Scan

section Grammar

theorem Piece.clean {first : Bytes} {x : Bool} (piece : Piece first x) (rest : Bytes) :
    (Clean (first ++ rest) ↔ Clean rest) ∧ (HasT (first ++ rest) ↔ x = true ∨ HasT rest) := by
  have silent : Letterless first → x = false →
      (Clean (first ++ rest) ↔ Clean rest) ∧ (HasT (first ++ rest) ↔ x = true ∨ HasT rest) := by
    rintro letterless rfl
    exact ⟨clean_append letterless, by simp [hasT_append letterless]⟩
  cases piece with
  | blanks spaces => exact silent (fun c member => not_alpha_of_space (spaces c member)) rfl
  | separators separate =>
    exact silent (fun c member => not_alpha_of_separator (separate c member)) rfl
  | token isToken =>
    have read := isToken.read rest
    obtain ⟨c, tail, rfl, letterless, mark, -⟩ := isToken.first
    constructor
    · rw [List.cons_append, Clean, clean_append letterless]
      exact and_iff_right fun _ => read
    · rw [List.cons_append, hasT_cons, hasT_append letterless, mark]

theorem Pieces.clean {s : Bytes} {x : Bool} (pieces : Pieces s x) :
    Clean s ∧ (HasT s ↔ x = true) := by
  induction pieces with
  | nil => exact ⟨trivial, by simp [HasT]⟩
  | @cons first rest x y piece more ih =>
    obtain ⟨clean, hasT⟩ := piece.clean rest
    exact ⟨clean.mpr ih.1, by rw [hasT, ih.2, Bool.or_eq_true]⟩

theorem Clean.pieces {s : Bytes} (clean : Clean s) : ∃ x, Pieces s x := by
  induction length : s.length using Nat.strong_induction_on generalizing s with
  | h n ih =>
    cases s with
    | nil => exact ⟨false, .nil⟩
    | cons c rest =>
      subst length
      by_cases alpha : isAlpha c
      · obtain ⟨⟨left, x⟩, read⟩ := Option.isSome_iff_exists.mp (clean.1 alpha)
        obtain ⟨taken, behind, -⟩ := parseToken_taken read
        obtain ⟨token, slash, isToken, isSlash, split⟩ := parseToken_some read
        have less : left.length < (c :: rest).length := by
          rw [behind, List.length_cons, List.length_append]
          omega
        have after : Clean left := clean.suffix ⟨c :: taken, by simp [behind]⟩
        obtain ⟨y, pieces⟩ := ih left.length less after rfl
        have separate : ∀ c ∈ slash, isSeparator c := by
          rcases isSlash with rfl | rfl
          · exact fun _ no => nomatch no
          · exact List.forall_mem_singleton.mpr rfl
        rw [split]
        exact ⟨_, .cons (.token isToken) (.cons (.separators separate) pieces)⟩
      · obtain ⟨y, pieces⟩ := ih rest.length (Nat.lt_succ_self _) clean.2 rfl
        have single : Piece [c] false := by
          by_cases space : isSpace c
          · exact .blanks (List.forall_mem_singleton.mpr space)
          · have separator : isSeparator c := by simp [isSeparator, space, alpha]
            exact .separators (List.forall_mem_singleton.mpr separator)
        exact ⟨_, .cons single pieces⟩

/-- `ok` in either case, or nothing. -/
def IsOk (ok : Bytes) : Prop :=
  ok = [] ∨ ∃ o k, (o = 111 ∨ o = 79) ∧ (k = 107 ∨ k = 75) ∧ ok = [o, k]

/-- A line of the token grammar: maybe an `ok`, then pieces with an extruder's token
among them. -/
def Report (line : Bytes) : Prop :=
  ∃ ok rest, line = ok ++ rest ∧ IsOk ok ∧ Pieces rest true

theorem dropOk_ok {o k : UInt8} (isOk : (o = 111 ∨ o = 79) ∧ (k = 107 ∨ k = 75)) (rest : Bytes) :
    ∃ blanks, (∀ c ∈ blanks, isSpace c) ∧ rest = blanks ++ dropOk (o :: k :: rest) := by
  cases rest with
  | nil =>
    have dropped : dropOk [o, k] = [] := if_pos (by simpa using isOk)
    exact ⟨[], (fun _ no => nomatch no), dropped.symm⟩
  | cons c others =>
    have dropped : dropOk (o :: k :: c :: others) =
        if isSpace c then others else c :: others := if_pos (by simpa using isOk)
    rw [dropped]
    by_cases space : isSpace c
    · rw [if_pos space]
      exact ⟨[c], List.forall_mem_singleton.mpr space, rfl⟩
    · rw [if_neg space]
      exact ⟨[], (fun _ no => nomatch no), rfl⟩

theorem dropOk_split (line : Bytes) : dropOk line = line ∨
    ∃ o k rest, line = o :: k :: rest ∧ (o = 111 ∨ o = 79) ∧ (k = 107 ∨ k = 75) := by
  match line with
  | [] => exact Or.inl rfl
  | [_] => exact Or.inl rfl
  | o :: k :: rest =>
    by_cases isOk : (o = 111 ∨ o = 79) ∧ (k = 107 ∨ k = 75)
    · exact Or.inr ⟨o, k, rest, rfl, isOk⟩
    · exact Or.inl (if_neg (by simpa using isOk))

theorem report_pieces {rest : Bytes} (clean : Clean rest) (hasT : HasT rest) : Pieces rest true := by
  obtain ⟨x, pieces⟩ := clean.pieces
  have seen : x = true := pieces.clean.2.mp hasT
  exact seen ▸ pieces

theorem not_clean_ok {o k : UInt8} {rest : Bytes}
    (isOk : (o = 111 ∨ o = 79) ∧ (k = 107 ∨ k = 75)) : ¬ Clean (o :: k :: rest) := by
  intro clean
  have alpha : isAlpha o ∧ isTokenLetter o = false := by
    rcases isOk.1 with rfl | rfl
    · exact ⟨rfl, rfl⟩
    · exact ⟨rfl, rfl⟩
  obtain ⟨⟨left, x⟩, read⟩ := Option.isSome_iff_exists.mp (clean.1 alpha.1)
  obtain ⟨taken, -, -, -, letter | other⟩ := parseToken_taken read
  · rw [alpha.2] at letter
    cases letter
  · rw [alpha.1] at other
    cases other

theorem scanLine_iff (line : Bytes) : scanLine line = true ↔ Report line := by
  have scanned : scanLine line = true ↔ Clean (dropOk line) ∧ HasT (dropOk line) := by
    rw [scanLine, tokenScan_iff]
    simp
  rw [scanned]
  constructor
  · rintro ⟨clean, hasT⟩
    rcases dropOk_split line with whole | ⟨o, k, rest, rfl, isOk⟩
    · rw [whole] at clean hasT
      exact ⟨[], line, rfl, Or.inl rfl, report_pieces clean hasT⟩
    · obtain ⟨blanks, spaces, split⟩ := dropOk_ok isOk rest
      have pieces : Pieces rest true := by
        rw [split]
        exact .cons (.blanks spaces) (report_pieces clean hasT)
      exact ⟨[o, k], rest, rfl, Or.inr ⟨o, k, isOk.1, isOk.2, rfl⟩, pieces⟩
  · rintro ⟨ok, rest, rfl, isOk, pieces⟩
    obtain ⟨clean, hasT⟩ := pieces.clean
    rcases isOk with rfl | ⟨o, k, isO, isK, rfl⟩
    · rcases dropOk_split rest with whole | ⟨o, k, others, rfl, isOk⟩
      · rw [List.nil_append, whole]
        exact ⟨clean, hasT.mpr rfl⟩
      · exact absurd clean (not_clean_ok isOk)
    · obtain ⟨blanks, spaces, split⟩ := dropOk_ok ⟨isO, isK⟩ rest
      have left : Letterless blanks := fun c member => not_alpha_of_space (spaces c member)
      rw [split, clean_append left] at clean
      rw [split, hasT_append left] at hasT
      exact ⟨clean, hasT.mpr rfl⟩

end Grammar

section Filter

/-- What the token scan says of a buffer by itself. -/
def scanAlone (buf : Bytes) : Bool :=
  let line := Config.trim buf
  if line = [] then false else scanLine line

/-- One of the literals of the fast reject stands in the line. -/
def Listed (line : Bytes) : Prop :=
  contains line (bytes "T:") ∨ contains line (bytes "T0:") ∨ contains line (bytes "B:") ∨
    contains line (bytes "@:") ∨ contains line (bytes "B@:")

theorem fastReject_iff (line : Bytes) : fastReject line = false ↔ Listed line := by
  simp only [fastReject, Listed, Bool.and_eq_false_iff, Bool.not_eq_false', or_assoc]

theorem not_report_nil : ¬ Report [] := by
  rw [← scanLine_iff, scanLine, tokenScan_iff]
  rintro ⟨-, no | ⟨c, no, -⟩⟩
  · cases no
  · cases no

theorem scanAlone_iff (buf : Bytes) : scanAlone buf = true ↔ Report (Config.trim buf) := by
  unfold scanAlone
  simp only
  split
  · rename_i empty
    rw [empty]
    exact iff_of_false Bool.false_ne_true not_report_nil
  · exact scanLine_iff _

theorem isTempReportBuf_iff (buf : Bytes) :
    isTempReportBuf buf = true ↔ Listed (Config.trim buf) ∧ Report (Config.trim buf) := by
  unfold isTempReportBuf
  simp only
  split
  · rename_i empty
    rw [empty]
    exact iff_of_false Bool.false_ne_true fun both => not_report_nil both.2
  · split
    · rename_i rejected
      refine iff_of_false Bool.false_ne_true fun both => ?_
      rw [(fastReject_iff _).mpr both.1] at rejected
      cases rejected
    · rename_i passed
      have listed := (fastReject_iff _).mp (Bool.not_eq_true _ ▸ passed)
      rw [scanLine_iff, and_iff_right listed]

/-- The fast reject is harmless except to a line of the grammar without its literals. -/
theorem fastReject_harmless (buf : Bytes) : isTempReportBuf buf = scanAlone buf ↔
    Listed (Config.trim buf) ∨ ¬ Report (Config.trim buf) := by
  rw [Bool.eq_iff_iff, isTempReportBuf_iff, scanAlone_iff]
  constructor
  · intro same
    by_cases report : Report (Config.trim buf)
    · exact Or.inl (same.mpr report).1
    · exact Or.inr report
  · rintro (listed | noReport)
    · exact and_iff_right listed
    · exact iff_of_false (fun both => noReport both.2) noReport

theorem isNumber_digits {whole : Bytes} (digits : whole.all isDigit) (some : whole ≠ []) :
    IsNumber whole :=
  ⟨[], whole, [], by simp, Or.inl rfl, List.all_eq_true.mp digits, Or.inl ⟨rfl, some⟩⟩

theorem report_token {text : Bytes} (isToken : Token text true) : Report text := by
  have pieces : Pieces (text ++ []) true := .cons (.token isToken) .nil
  rw [List.append_nil] at pieces
  exact ⟨[], text, rfl, Or.inl rfl, pieces⟩

/-- The second extruder's report is no report to the filter. -/
theorem fastReject_second : ¬ ∀ buf, isTempReportBuf buf = scanAlone buf := by
  intro same
  have number : IsNumber (bytes "200") := isNumber_digits (by decide) (by decide)
  have isToken : Token (bytes "T1:200") true :=
    @Token.extruder 84 [49] (bytes "200") rfl (Or.inr ⟨49, rfl, rfl⟩) (Or.inl number)
  have trimmed : Config.trim (bytes "T1:200") = bytes "T1:200" := by decide
  have scanned := same (bytes "T1:200")
  rw [Bool.eq_iff_iff, isTempReportBuf_iff, scanAlone_iff, trimmed] at scanned
  have passed := (fastReject_iff _).mpr (scanned.mpr (report_token isToken)).1
  exact absurd passed (by decide)

theorem Clean.letters {s : Bytes} (clean : Clean s) : ∀ c ∈ s, isAlpha c → isTokenLetter c := by
  induction s with
  | nil => exact fun _ no => nomatch no
  | cons first rest ih =>
    refine List.forall_mem_cons.mpr ⟨fun alpha => ?_, ih clean.2⟩
    obtain ⟨⟨left, x⟩, read⟩ := Option.isSome_iff_exists.mp (clean.1 alpha)
    obtain ⟨taken, -, -, -, letter | other⟩ := parseToken_taken read
    · exact letter
    · rw [alpha] at other
      cases other

/-- Beside an `ok` in front, the letters of a text all begin tokens. -/
def OnlyTokens (text : Bytes) : Prop :=
  ∃ blanks ok rest, text = blanks ++ (ok ++ rest) ∧ (∀ c ∈ blanks, isSpace c) ∧ IsOk ok ∧
    ∀ c ∈ rest, isAlpha c → isTokenLetter c

theorem trim_split (s : Bytes) : ∃ before after, s = before ++ (Config.trim s ++ after) ∧
    (∀ c ∈ before, isSpace c) ∧ ∀ c ∈ after, isSpace c := by
  have front : s.takeWhile isSpace ++ s.dropWhile isSpace = s := List.takeWhile_append_dropWhile
  have back : (s.dropWhile isSpace).reverse.takeWhile isSpace ++
      (s.dropWhile isSpace).reverse.dropWhile isSpace = (s.dropWhile isSpace).reverse :=
    List.takeWhile_append_dropWhile
  refine ⟨s.takeWhile isSpace, ((s.dropWhile isSpace).reverse.takeWhile isSpace).reverse, ?_,
    fun _ member => List.mem_takeWhile_imp member, fun _ member =>
      List.mem_takeWhile_imp (List.mem_reverse.mp member)⟩
  have whole : Config.trim s ++ ((s.dropWhile isSpace).reverse.takeWhile isSpace).reverse =
      s.dropWhile isSpace := by
    have turned := congrArg List.reverse back
    rw [List.reverse_append, List.reverse_reverse] at turned
    exact turned
  rw [whole, front]

theorem onlyTokens_of_report {s : Bytes} (report : Report (Config.trim s)) : ∃ blanks ok rest,
    s = blanks ++ (ok ++ rest) ∧ rest ≠ [] ∧ (∀ c ∈ blanks, isSpace c) ∧ IsOk ok ∧
      ∀ c ∈ rest, isAlpha c → isTokenLetter c := by
  obtain ⟨before, after, split, front, back⟩ := trim_split s
  obtain ⟨ok, rest, line, isOk, pieces⟩ := report
  obtain ⟨clean, hasT⟩ := pieces.clean
  refine ⟨before, ok, rest ++ after, ?_, ?_, front, isOk, ?_⟩
  · rw [line, List.append_assoc] at split
    exact split
  · obtain ⟨c, member, -⟩ := hasT.mpr rfl
    exact List.append_ne_nil_of_left_ne_nil (List.ne_nil_of_mem member) _
  · intro c member alpha
    rcases List.mem_append.mp member with own | blank
    · exact clean.letters c own alpha
    · rw [not_alpha_of_space (back c blank)] at alpha
      cases alpha

theorem onlyTokens_of_hidden {v : Bytes} (hidden : isTempReport (v ++ [10])) :
    OnlyTokens (v.takeWhile (· ≠ 0)) := by
  have report := ((isTempReportBuf_iff _).mp hidden).2
  obtain ⟨blanks, ok, rest, whole, some, spaces, isOk, letters⟩ := onlyTokens_of_report report
  rw [List.takeWhile_append] at whole
  split at whole
  · -- no NUL: the line end is the last byte of what is scanned
    have line : (([10] : Bytes).takeWhile (· ≠ 0)) = [10] := rfl
    rename_i bare
    rw [line, ← List.append_assoc] at whole
    have short := congrArg List.dropLast whole
    rw [List.dropLast_concat, List.dropLast_append_of_ne_nil some, List.append_assoc] at short
    refine ⟨blanks, ok, rest.dropLast, ?_, spaces, isOk, fun c member =>
      letters c (List.dropLast_subset rest member)⟩
    rw [(List.takeWhile_prefix _).eq_of_length bare]
    exact short
  · exact ⟨blanks, ok, rest, whole, spaces, isOk, letters⟩

theorem consoleLines_hidden {params : List Bytes} {v : Bytes} (member : v ∈ params)
    (hidden : v ++ [10] ∉ consoleLines params) : isTempReport (v ++ [10]) := by
  by_contra shown
  refine hidden (List.mem_filter.mpr ⟨List.mem_map_of_mem member, ?_⟩)
  simpa using shown

/-- The scan of any buffer ends within its trimmed line, what it accepts is a line of
the grammar, and no line that shows another letter is kept from the console. -/
theorem temp_report_grammar (buf : Bytes) :
    let line := Config.trim buf
    ((scanIndices line (dropOk line) false).Pairwise (· < ·) ∧
        ∀ i ∈ scanIndices line (dropOk line) false, i ≤ line.length) ∧
      (isTempReportBuf buf = true → Report line) ∧
      ∀ params, ∀ v ∈ params, v ++ [10] ∉ consoleLines params → OnlyTokens (v.takeWhile (· ≠ 0)) := by
  intro line
  have within : dropOk line <:+ line := by
    rcases dropOk_split line with whole | ⟨o, k, rest, split, isOk⟩
    · exact ⟨[], by rw [whole]; rfl⟩
    · obtain ⟨blanks, -, left⟩ := dropOk_ok isOk rest
      refine ⟨[o, k] ++ blanks, ?_⟩
      rw [split, List.append_assoc, ← left]
      rfl
  obtain ⟨ordered, bounded⟩ := scanIndices_grow within false
  exact ⟨⟨ordered, fun i member => (bounded i member).2⟩, fun accepted =>
    ((isTempReportBuf_iff buf).mp accepted).2, fun params v member hidden =>
      onlyTokens_of_hidden (consoleLines_hidden member hidden)⟩

/-- Behind a NUL the filter does not look. -/
theorem consoleLines_nul : ¬ ∀ params, ∀ v ∈ params, v ++ [10] ∉ consoleLines params →
    ∀ c ∈ v, isAlpha c → isTokenLetter c ∨ c ∈ bytes "okOK" := by
  intro harmless
  have number : IsNumber (bytes "0") := isNumber_digits (by decide) (by decide)
  have isToken : Token (bytes "T:0") true :=
    @Token.extruder 84 [] (bytes "0") rfl (Or.inl rfl) (Or.inl number)
  have hidden : isTempReport (bytes "T:0" ++ 0 :: bytes "Error" ++ [10]) = true := by
    have trimmed : Config.trim ((bytes "T:0" ++ 0 :: bytes "Error" ++ [10]).takeWhile (· ≠ 0)) =
        bytes "T:0" := by decide
    refine (isTempReportBuf_iff _).mpr ?_
    rw [trimmed]
    exact ⟨Or.inl (by decide), report_token isToken⟩
  have kept : bytes "T:0" ++ 0 :: bytes "Error" ++ [10] ∉
      consoleLines [bytes "T:0" ++ 0 :: bytes "Error"] := by
    intro shown
    have answered := (List.mem_filter.mp shown).2
    rw [hidden] at answered
    cases answered
  have letter := harmless _ _ (List.mem_singleton.mpr rfl) kept 69 (by decide) rfl
  exact absurd letter (by decide)

end Filter

end GrumpyScreen.TempFilter
