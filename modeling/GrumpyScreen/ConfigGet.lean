import GrumpyScreen.ConfigText
import GrumpyScreen.Lib.Decimal
import GrumpyScreen.Lib.Escape
import Mathlib.Algebra.Ring.Int.Defs

/-! What a typed getter finds under a key of a section, when what was written there
is a number or a quoted text. -/

namespace GrumpyScreen

namespace Config

open Lib

/-- An integral type other than `bool`. -/
structure IntegralType where
  bits : Nat
  signed : Bool
  positive : 0 < bits

namespace IntegralType

/-- The value is representable. -/
def Holds (T : IntegralType) (v : Int) : Prop :=
  if T.signed then -2 ^ (T.bits - 1) ≤ v ∧ v < 2 ^ (T.bits - 1) else 0 ≤ v ∧ v < 2 ^ T.bits

instance (T : IntegralType) (v : Int) : Decidable (T.Holds v) :=
  inferInstanceAs (Decidable (if T.signed = true then _ else _))

/-- `static_cast` from `long long`: the low bits. -/
def cast (T : IntegralType) (v : Int) : Int :=
  if T.signed then (v + 2 ^ (T.bits - 1)) % 2 ^ T.bits - 2 ^ (T.bits - 1) else v % 2 ^ T.bits

theorem cast_of_holds {T : IntegralType} {v : Int} (holds : T.Holds v) : T.cast v = v := by
  unfold Holds at holds
  unfold cast
  split at holds
  · rename_i signed
    have whole : (2 : Int) ^ T.bits = 2 * 2 ^ (T.bits - 1) := by
      conv_lhs => rw [← Nat.sub_add_cancel T.positive, Int.pow_succ]
      exact Int.mul_comm _ _
    rw [if_pos signed, Int.emod_eq_of_lt]
    · omega
    · omega
    · omega
  · rename_i unsigned
    rw [if_neg unsigned, Int.emod_eq_of_lt holds.1 holds.2]

/-- `std::uint32_t`. -/
def uint32 : IntegralType := ⟨32, false, by decide⟩

end IntegralType

section Getters

/-- The tokens of a JSON pointer. -/
def pointerTokens : Bytes → Option (List Bytes)
  | [] => some []
  | 47 :: rest => (rest.splitOn 47).mapM unescapeToken
  | _ => none

/-- The scalar a pointer to a key of a section leads to. -/
def valueAt (c : Config) (pointer : Bytes) : Option Setting :=
  match pointerTokens pointer with
  | some [name, key] =>
    match c name with
    | some (.settings e) => e.lookup key
    | _ => none
  | _ => none

/-- `get<std::string>`. -/
def getString (c : Config) (pointer default : Bytes) : Bytes :=
  match c.valueAt pointer with
  | some (.text t) => t
  | _ => default

/-- `get<T>` of an integral type. -/
def getInt (T : IntegralType) (c : Config) (pointer : Bytes) (default : Int) : Int :=
  match c.valueAt pointer with
  | some (.int i) => T.cast i
  | _ => default

/-- A name as a token of a pointer. -/
def escapeToken (s : Bytes) : Bytes :=
  s.flatMap fun c => if c = 126 then [126, 48] else if c = 47 then [126, 49] else [c]

/-- The pointer to a key of a section. -/
def pointerTo (name key : Bytes) : Bytes := 47 :: (escapeToken name ++ 47 :: escapeToken key)

theorem unescapeToken_escapeToken (s : Bytes) : unescapeToken (escapeToken s) = some s := by
  induction s with
  | nil => rfl
  | cons c rest ih =>
    rw [escapeToken, List.flatMap_cons]
    change unescapeToken (_ ++ escapeToken rest) = _
    by_cases tilde : c = 126
    · subst tilde
      simp [unescapeToken, ih]
    · by_cases slash : c = 47
      · subst slash
        simp [unescapeToken, ih]
      · rw [if_neg tilde, if_neg slash, List.singleton_append, unescapeToken, ih]
        · rfl
        all_goals simp [tilde]

theorem slash_not_mem_escapeToken (s : Bytes) : 47 ∉ escapeToken s := by
  intro member
  obtain ⟨c, -, inCode⟩ := List.mem_flatMap.mp member
  split at inCode
  · exact absurd inCode (by decide)
  · split at inCode
    · exact absurd inCode (by decide)
    · rename_i other
      exact other (List.mem_singleton.mp inCode).symm

theorem pointerTokens_pointerTo (name key : Bytes) :
    pointerTokens (pointerTo name key) = some [name, key] := by
  have parts : (escapeToken name ++ 47 :: escapeToken key).splitOn 47 =
      [escapeToken name, escapeToken key] := by
    rw [List.splitOn_append_cons_self_of_not_mem (slash_not_mem_escapeToken name),
      List.splitOn_eq_singleton (slash_not_mem_escapeToken key)]
  rw [pointerTo, pointerTokens, parts]
  simp [unescapeToken_escapeToken]

theorem valueAt_pointerTo (c : Config) (name key : Bytes) : c.valueAt (pointerTo name key) =
    match c name with
    | some (.settings e) => e.lookup key
    | _ => none := by
  rw [valueAt, pointerTokens_pointerTo]

theorem valueAt_loaded {file : Bytes} {c : Config} (loaded : load file = some c) {name key : Bytes}
    (given : lastOf key (sectionPairs name (blocksOf file)) ≠ none) :
    c.valueAt (pointerTo name key) = lastOf key (sectionPairs name (blocksOf file)) := by
  obtain ⟨-, rfl⟩ := (load_reading file c).mp loaded
  have some : sectionPairs name (blocksOf file) ≠ [] := by
    intro none
    rw [none] at given
    exact given rfl
  rw [valueAt_pointerTo, reading_settings some]
  simp [lookup_putAll]

end Getters

section Integers

/-- A decimal literal: maybe a sign, and digits. -/
def IsLiteral (lit : Bytes) (v : Int) : Prop :=
  ∃ sign digits, lit = sign ++ digits ∧ Decimal.IsSign sign ∧ digits ≠ [] ∧
    (∀ c ∈ digits, Decimal.isDigit c) ∧ v = Decimal.signedValue sign digits

def LongLong (v : Int) : Prop := -9223372036854775808 ≤ v ∧ v ≤ 9223372036854775807

theorem digits_value {digits : Bytes} (all : ∀ c ∈ digits, isDigit c) (n : Nat) :
    digits.foldl (fun (n : Int) c => 10 * n + ((c.toNat : Int) - 48)) n =
      (digits.foldl (fun v c => 10 * v + (c.toNat - 48)) n : Nat) := by
  induction digits generalizing n with
  | nil => rfl
  | cons c rest ih =>
    obtain ⟨digit, later⟩ := List.forall_mem_cons.mp all
    have lower : 48 ≤ c.toNat := by
      simp only [isDigit, Bool.and_eq_true, decide_eq_true_eq, UInt8.le_iff_toNat_le] at digit
      exact digit.1
    have step : 10 * (n : Int) + ((c.toNat : Int) - 48) = ((10 * n + (c.toNat - 48) : Nat) : Int) := by
      omega
    rw [List.foldl_cons, List.foldl_cons, step]
    exact ih later _

theorem IsLiteral.bytes {lit : Bytes} {v : Int} (literal : IsLiteral lit v) :
    ∀ c ∈ lit, c = 43 ∨ c = 45 ∨ isDigit c := by
  obtain ⟨sign, digits, rfl, isSign, -, all, -⟩ := literal
  intro c member
  rcases List.mem_append.mp member with inSign | digit
  · rcases isSign with rfl | rfl | rfl
    · cases inSign
    · exact Or.inl (List.mem_singleton.mp inSign)
    · exact Or.inr (Or.inl (List.mem_singleton.mp inSign))
  · exact Or.inr (Or.inr (all c digit))

theorem IsLiteral.text {lit : Bytes} {v : Int} (literal : IsLiteral lit v) :
    (lit.takeWhile (· ≠ 0)).dropWhile isSpace = lit := by
  have text : ∀ c ∈ lit, c ≠ 0 ∧ ¬ isSpace c := by
    intro c member
    rcases literal.bytes c member with rfl | rfl | digit
    · decide
    · decide
    · refine ⟨?_, ?_⟩
      · rintro rfl
        exact absurd digit (by decide)
      · exact Bool.eq_false_iff.mp (Decimal.not_space_of_digit digit)
  have whole : lit.takeWhile (· ≠ 0) = lit :=
    List.takeWhile_eq_self_iff.mpr fun c member => by simpa using (text c member).1
  rw [whole]
  cases lit with
  | nil => rfl
  | cons c rest => exact List.dropWhile_cons_of_neg (text c List.mem_cons_self).2

theorem parseInt_literal {lit : Bytes} {v : Int} (literal : IsLiteral lit v) (fits : LongLong v) :
    parseInt lit = some v := by
  have text := literal.text
  obtain ⟨sign, digits, rfl, isSign, some, all, rfl⟩ := literal
  have magnitude : digits.foldl (fun (n : Int) c => 10 * n + ((c.toNat : Int) - 48)) 0 =
      Decimal.value digits := digits_value all 0
  have listed : (digits.isEmpty || !digits.all isDigit) = false := by
    have every : digits.all isDigit = true := List.all_eq_true.mpr all
    simp [every, some]
  obtain ⟨d, others, spelled⟩ := List.exists_cons_of_ne_nil some
  have first : digits.head? = .some d := by rw [spelled, List.head?_cons]
  have unsigned : d ≠ 45 ∧ d ≠ 43 := by
    have digit := all d (by rw [spelled]; exact List.mem_cons_self)
    constructor <;> rintro rfl <;> exact absurd digit (by decide)
  have range : ∀ v : Int, LongLong v →
      (decide (-9223372036854775808 ≤ v) && decide (v ≤ 9223372036854775807)) = true := by
    intro v fits
    simpa [LongLong] using fits
  unfold parseInt
  rw [text]
  rcases isSign with rfl | rfl | rfl
  · have signed : Decimal.signedValue [] digits = Decimal.value digits := rfl
    rw [signed] at fits ⊢
    simp only [List.nil_append, first, Option.some.injEq, unsigned.1, unsigned.2, decide_false,
      Bool.or_self, Bool.false_eq_true, if_false, listed, magnitude, range _ fits, if_true]
  · have signed : Decimal.signedValue [43] digits = Decimal.value digits := rfl
    have plus : (43 : UInt8) ≠ 45 := by decide
    rw [signed] at fits ⊢
    simp only [List.singleton_append, List.head?_cons, List.tail_cons, Option.some.injEq, plus,
      decide_false, decide_true, Bool.or_true, Bool.false_eq_true, if_false, listed, magnitude,
      range _ fits, if_true]
  · have signed : Decimal.signedValue [45] digits = -(Decimal.value digits : Int) := rfl
    rw [signed] at fits ⊢
    simp only [List.singleton_append, List.head?_cons, List.tail_cons, decide_true, Bool.true_or,
      Bool.false_eq_true, if_false, listed, magnitude, range _ fits, if_true]

theorem parseBool_literal {lit : Bytes} {v : Int} (literal : IsLiteral lit v) :
    parseBool lit = none ↔ lit ≠ bytes "0" ∧ lit ≠ bytes "1" := by
  have lower : lit.map toLower = lit := by
    refine (List.map_congr_left fun c member => ?_).trans (List.map_id lit)
    rcases literal.bytes c member with rfl | rfl | digit
    · rfl
    · rfl
    · simp only [isDigit, Bool.and_eq_true, decide_eq_true_eq, UInt8.le_iff_toNat_le] at digit
      have upper : c.toNat ≤ 57 := digit.2
      refine if_neg ?_
      simp [UInt8.le_iff_toNat_le]
      omega
  -- a word with a letter is no literal
  have word : ∀ {w : Bytes}, (∃ c ∈ w, ¬ (c = 43 ∨ c = 45 ∨ isDigit c)) → lit ≠ w := by
    rintro w ⟨c, member, other⟩ rfl
    exact other (literal.bytes c member)
  have words : lit ≠ bytes "true" ∧ lit ≠ bytes "yes" ∧ lit ≠ bytes "on" ∧ lit ≠ bytes "false" ∧
      lit ≠ bytes "no" ∧ lit ≠ bytes "off" :=
    ⟨word ⟨116, by decide, by decide⟩, word ⟨121, by decide, by decide⟩,
      word ⟨111, by decide, by decide⟩, word ⟨102, by decide, by decide⟩,
      word ⟨110, by decide, by decide⟩, word ⟨111, by decide, by decide⟩⟩
  obtain ⟨noTrue, noYes, noOn, noFalse, noNo, noOff⟩ := words
  simp only [parseBool, lower, List.map_cons, List.map_nil, List.mem_cons, List.not_mem_nil, noTrue,
    noYes, noOn, noFalse, noNo, noOff, or_false, false_or]
  by_cases one : lit = bytes "1"
  · simp [one]
  · by_cases zero : lit = bytes "0"
    · have apart : bytes "0" ≠ bytes "1" := by decide
      simp [zero, apart]
    · simp [one, zero]

theorem typed_literal {lit : Bytes} {v : Int} (literal : IsLiteral lit v) (fits : LongLong v)
    (number : lit ≠ bytes "0" ∧ lit ≠ bytes "1") : typed lit = .int v := by
  rw [typed, (parseBool_literal literal).mpr number, parseInt_literal literal fits]

/-- Of the literals given to a key of a section, the getters of all integral types
miss exactly the two that are boolean words. -/
theorem getInt_literal {file : Bytes} {c : Config} {name key lit : Bytes} {v : Int}
    (loaded : load file = some c)
    (given : (sectionPairs name (blocksOf file)).reverse.lookup key = some lit)
    (literal : IsLiteral lit v) (fits : LongLong v) :
    (∀ T : IntegralType, T.Holds v → ∀ default, T.Holds default →
        c.getInt T (pointerTo name key) default = v) ↔
      lit ≠ bytes "0" ∧ lit ≠ bytes "1" := by
  have stored : c.valueAt (pointerTo name key) = some (typed lit) := by
    have last : lastOf key (sectionPairs name (blocksOf file)) = some (typed lit) := by
      rw [lastOf, given]
      rfl
    rw [← last]
    exact valueAt_loaded loaded (by rw [last]; exact Option.some_ne_none _)
  constructor
  · intro found
    -- a boolean is no number, so the default comes back
    have lost : ∀ b, typed lit = .bool b → ¬ IntegralType.uint32.Holds v := by
      intro b boolean holds
      have defaults : ∀ default, c.getInt .uint32 (pointerTo name key) default = default := by
        intro default
        rw [getInt, stored, boolean]
      have seven := found _ holds 7 (by decide)
      have nine := found _ holds 9 (by decide)
      rw [defaults] at seven nine
      omega
    have value : ∀ {i : Int}, parseInt lit = some i → v = i := by
      intro i read
      exact Option.some.inj ((parseInt_literal literal fits).symm.trans read)
    constructor
    · rintro rfl
      refine lost false (by decide) ?_
      rw [value (show parseInt (bytes "0") = some 0 by decide)]
      decide
    · rintro rfl
      refine lost true (by decide) ?_
      rw [value (show parseInt (bytes "1") = some 1 by decide)]
      decide
  · intro number T holds default _
    rw [getInt, stored, typed_literal literal fits number]
    exact T.cast_of_holds holds

/-- The rotation and the sleep time of the screen. -/
def screenFile : Bytes := bytes "[ui]\ndisplay_rotate: 1\ndisplay_sleep_sec: +600 # ten minutes\n"

private theorem isLiteral_one : IsLiteral (bytes "1") 1 :=
  ⟨[], bytes "1", rfl, Or.inl rfl, by decide, List.forall_mem_singleton.mpr rfl, rfl⟩

theorem getInt_literal_sleep : ∃ c, load screenFile = some c ∧
    c.getInt .uint32 (pointerTo (bytes "ui") (bytes "display_sleep_sec")) 0 = 600 := by
  have loads : (load screenFile).isSome := by decide
  obtain ⟨c, loaded⟩ := Option.isSome_iff_exists.mp loads
  have literal : IsLiteral (bytes "+600") 600 :=
    ⟨[43], bytes "600", rfl, Or.inr (Or.inl rfl), by decide,
      List.all_eq_true.mp (by decide : (bytes "600").all Decimal.isDigit = true), by decide⟩
  have fits : LongLong 600 := by
    unfold LongLong
    omega
  exact ⟨c, loaded, (getInt_literal loaded (by decide) literal fits).mpr (by decide) .uint32
    (by decide) 0 (by decide)⟩

/-- The rotation by one is lost. -/
theorem getInt_rotate : ¬ ∀ (file : Bytes) (c : Config) (name key lit : Bytes) (v : Int),
    load file = some c → (sectionPairs name (blocksOf file)).reverse.lookup key = some lit →
    IsLiteral lit v → LongLong v → ∀ T : IntegralType, T.Holds v →
    ∀ default, T.Holds default → c.getInt T (pointerTo name key) default = v := by
  intro always
  have loads : (load screenFile).isSome := by decide
  obtain ⟨c, loaded⟩ := Option.isSome_iff_exists.mp loads
  have fits : LongLong 1 := by
    unfold LongLong
    omega
  have rotated := always screenFile c (bytes "ui") (bytes "display_rotate") (bytes "1") 1 loaded
    (by decide) isLiteral_one fits .uint32 (by decide) 0 (by decide)
  have found : c.valueAt (pointerTo (bytes "ui") (bytes "display_rotate")) = some (.bool true) := by
    have last : lastOf (bytes "display_rotate") (sectionPairs (bytes "ui") (blocksOf screenFile)) =
        some (.bool true) := by decide
    rw [← last]
    exact valueAt_loaded loaded (by rw [last]; exact Option.some_ne_none _)
  rw [getInt, found] at rotated
  cases rotated

end Integers

section Quoted

variable {key s : Bytes} {quote : UInt8}

/-- `key: "s"`, with either quote. -/
def quotedLine (key : Bytes) (quote : UInt8) (s : Bytes) : Bytes :=
  key ++ 58 :: (32 :: quote :: (s ++ [quote]))

def IsQuote (quote : UInt8) : Prop := quote = 34 ∨ quote = 39

/-- A key of a setting: no comment, no delimiter and no blanks around it. -/
structure IsKey (key : Bytes) : Prop where
  word : ∀ c ∈ key, plain c ∧ ¬ isDelimiter c
  trimmed : trim key = key

theorem unquote_quoted (isQuote : IsQuote quote) : unquote (quote :: (s ++ [quote])) = s := by
  have last : (quote :: (s ++ [quote])).getLast? = some quote := by
    rw [← List.cons_append]
    exact List.getLast?_concat
  unfold unquote
  rw [last, List.head?_cons]
  rcases isQuote with rfl | rfl
  · simp
  · simp

theorem item_quoted (isKey : IsKey key) (isQuote : IsQuote quote) (bare : ∀ c ∈ s, plain c) :
    itemIn (Loader.content (quotedLine key quote s)) = some (.pair key s) := by
  have quotePlain : plain quote ∧ ¬ isSpace quote ∧ quote ≠ 93 := by
    rcases isQuote with rfl | rfl <;> decide
  have kept : (32 :: quote :: (s ++ [quote])).takeWhile plain = 32 :: quote :: (s ++ [quote]) := by
    apply List.takeWhile_eq_self_iff.mpr
    refine List.forall_mem_cons.mpr ⟨by decide, List.forall_mem_cons.mpr ⟨quotePlain.1, ?_⟩⟩
    exact List.forall_mem_append.mpr ⟨bare, List.forall_mem_singleton.mpr quotePlain.1⟩
  have trimmed : trim (32 :: quote :: (s ++ [quote])) = quote :: (s ++ [quote]) := by
    rw [trim_strip]
    have blank : strip isSpace ([32] ++ (quote :: (s ++ [quote]))) = strip isSpace (quote :: (s ++ [quote])) :=
      Strip.strip_front (List.forall_mem_singleton.mpr rfl)
    rw [List.singleton_append] at blank
    rw [blank, Strip.strip_cons quotePlain.2.1, List.rdropWhile_concat_neg _ _ _ quotePlain.2.1]
  have keyPlain : ∀ c ∈ key, plain c := fun c member => (isKey.word c member).1
  have setting : ¬ IsHeading (Loader.content (quotedLine key quote s)) := by
    rw [quotedLine, isHeading_pair (by decide) keyPlain, kept, trimmed]
    rintro ⟨-, closed⟩
    rw [← List.cons_append, List.getLast?_concat] at closed
    exact quotePlain.2.2 (Option.some.inj closed)
  rw [quotedLine, item_pair (by decide) isKey.word setting, kept, trimmed, unquote_quoted isQuote,
    isKey.trimmed]

theorem value_plain {text val : Bytes} (item : itemIn (Loader.content text) = some (.pair key val)) :
    ∀ c ∈ val, plain c := by
  have trimmed : ∀ (t : Bytes), ∀ c ∈ trim t, c ∈ t := by
    intro t c member
    rw [trim_strip] at member
    exact (List.dropWhile_suffix _).subset ((List.rdropWhile_prefix _ _).subset member)
  have unquoted : ∀ (t : Bytes), ∀ c ∈ unquote t, c ∈ t := by
    intro t c member
    unfold unquote at member
    split at member
    · exact List.mem_of_mem_tail (List.dropLast_subset _ member)
    · exact member
  have bare : ∀ c ∈ Loader.content text, plain c := by
    intro c member
    rw [content_strip, ← trim_strip] at member
    exact List.mem_takeWhile_imp (trimmed _ c member)
  unfold itemIn at item
  split at item
  · cases item
  split at item
  · cases item
  unfold pairOf at item
  split at item
  · cases item
  rename_i delimiter behind split
  obtain ⟨-, rfl⟩ := Item.pair.inj (Option.some.inj item)
  intro c member
  apply bare
  have inside : c ∈ delimiter :: behind := List.mem_cons_of_mem _ (trimmed _ c (unquoted _ c member))
  rw [← split] at inside
  exact (List.dropWhile_suffix _).subset inside

theorem mem_lead {its : List Item} {pair : Bytes × Bytes} (member : pair ∈ lead its) :
    .pair pair.1 pair.2 ∈ its := by
  induction its with
  | nil => cases member
  | cons item rest ih =>
    cases item with
    | heading h => cases member
    | pair key val =>
      rcases List.mem_cons.mp member with rfl | later
      · exact List.mem_cons_self
      · exact List.mem_cons_of_mem _ (ih later)

theorem mem_sectionPairs {its : List Item} {name : Bytes} {pair : Bytes × Bytes}
    (member : pair ∈ sectionPairs name (blocks its)) : .pair pair.1 pair.2 ∈ its := by
  induction its with
  | nil => cases member
  | cons item rest ih =>
    cases item with
    | pair key val => exact List.mem_cons_of_mem _ (ih member)
    | heading h =>
      rcases List.mem_append.mp member with first | later
      · apply List.mem_cons_of_mem
        apply mem_lead
        unfold Block.under at first
        cases h with
        | plain other =>
          simp only at first
          split at first
          · exact first
          · cases first
        | entry group id => cases first
      · exact List.mem_cons_of_mem _ (ih later)

theorem append_headless {its : List Item} (headless : blocks its = []) (more : List Item) :
    lead (its ++ more) = lead its ++ lead more ∧ blocks (its ++ more) = blocks more := by
  induction its with
  | nil => exact ⟨rfl, rfl⟩
  | cons item rest ih =>
    cases item with
    | pair key val =>
      obtain ⟨pairs, behind⟩ := ih headless
      exact ⟨congrArg ((key, val) :: ·) pairs, behind⟩
    | heading h => cases headless

theorem lead_headed {its more : List Item} (headed : blocks its ≠ []) :
    lead (its ++ more) = lead its := by
  induction its with
  | nil => exact absurd rfl headed
  | cons item rest ih =>
    cases item with
    | pair key val => exact congrArg ((key, val) :: ·) (ih headed)
    | heading h => rfl

theorem blocks_append {its more : List Item} {front : List Block} {h : Heading}
    {pairs : List (Bytes × Bytes)} (last : blocks its = front ++ [⟨h, pairs⟩]) :
    blocks (its ++ more) = front ++ ⟨h, pairs ++ lead more⟩ :: blocks more := by
  induction its generalizing front with
  | nil => simp [blocks] at last
  | cons item rest ih =>
    cases item with
    | pair key val => exact ih last
    | heading other =>
      rw [blocks] at last
      rw [List.cons_append, blocks]
      cases front with
      | nil =>
        obtain ⟨same, none⟩ := List.cons.inj last
        obtain ⟨rfl, rfl⟩ := Block.mk.inj same
        obtain ⟨leads, behind⟩ := append_headless none more
        rw [leads, behind]
        rfl
      | cons first others =>
        obtain ⟨rfl, later⟩ := List.cons.inj last
        have some : blocks rest ≠ [] := by
          rw [later]
          simp
        rw [lead_headed some, ih later]
        rfl

/-- The lines leave the section `name` open. -/
def Opens (lines : List Bytes) (name : Bytes) : Prop :=
  name ≠ [] ∧ ∃ pairs, (blocks (items lines)).getLast? = some ⟨.plain name, pairs⟩

/-- The lines do not give the key in the section, which is open before them. -/
def LeavesAlone (lines : List Bytes) (name key : Bytes) : Prop :=
  ∀ val, (key, val) ∉ lead (items lines) ++ sectionPairs name (blocks (items lines))

theorem lookup_none {pairs : List (Bytes × Bytes)} (absent : ∀ val, (key, val) ∉ pairs) :
    pairs.lookup key = none := by
  rw [List.lookup_eq_none_iff]
  rintro ⟨other, val⟩ member
  have differ : key ≠ other := by
    rintro rfl
    exact absent val member
  simpa using differ

theorem lastOf_given {before after : List Bytes} {line name val : Bytes} (opens : Opens before name)
    (said : itemIn (Loader.content line) = some (.pair key val))
    (alone : LeavesAlone after name key) :
    lastOf key (sectionPairs name (blocks (items (before ++ line :: after)))) = some (typed val) := by
  obtain ⟨named, pairs, last⟩ := opens
  obtain ⟨front, whole⟩ := List.getLast?_eq_some_iff.mp last
  have split : items (before ++ line :: after) = items before ++ .pair key val :: items after := by
    rw [items_append, items, items, List.filterMap_cons, said]
    rfl
  have own : Block.under name ⟨.plain name, pairs ++ lead (.pair key val :: items after)⟩ =
      pairs ++ (key, val) :: lead (items after) := by
    simp [Block.under, named, lead]
  have all : sectionPairs name (blocks (items (before ++ line :: after))) =
      sectionPairs name front ++ pairs ++ (key, val) ::
        (lead (items after) ++ sectionPairs name (blocks (items after))) := by
    rw [split, blocks_append whole, sectionPairs, List.flatMap_append, List.flatMap_cons, own]
    simp [sectionPairs, blocks]
  have none : (lead (items after) ++ sectionPairs name (blocks (items after))).reverse.lookup key =
      none := lookup_none fun other member => alone other (List.mem_reverse.mp member)
  rw [lastOf, all, List.reverse_append, List.reverse_cons, List.append_assoc, List.lookup_append, none]
  simp

theorem typed_text {val t : Bytes} (text : typed val = .text t) :
    val = t ∧ parseBool val = none ∧ parseInt val = none := by
  unfold typed at text
  split at text
  · cases text
  rename_i noBool
  split at text
  · cases text
  rename_i noInt
  exact ⟨Setting.text.inj text, noBool, noInt⟩

theorem getString_always {c : Config} {pointer : Bytes}
    (found : ∀ default, c.getString pointer default = s) : c.valueAt pointer = some (.text s) := by
  have lost : (∀ default, c.getString pointer default = default) → False := by
    intro defaults
    have first := (defaults []).symm.trans (found [])
    have second := (defaults [0]).symm.trans (found [0])
    rw [← first] at second
    cases second
  cases value : c.valueAt pointer with
  | none => exact (lost fun default => by rw [getString, value]).elim
  | some setting =>
    cases setting with
    | bool b => exact (lost fun default => by rw [getString, value]).elim
    | int i => exact (lost fun default => by rw [getString, value]).elim
    | text t =>
      have same := found []
      rw [getString, value] at same
      rw [← same]

theorem text_plain {file name : Bytes} {c : Config} (loaded : load file = some c)
    (held : c.valueAt (pointerTo name key) = some (.text s)) : ∀ b ∈ s, plain b := by
  obtain ⟨-, rfl⟩ := (load_reading file c).mp loaded
  rw [valueAt_pointerTo] at held
  unfold reading at held
  split at held
  · rename_i e settings
    split at settings
    · cases settings
      rw [lookup_putAll, List.lookup_nil, Option.or_none, lastOf, Option.map_eq_some_iff] at held
      obtain ⟨val, given, text⟩ := held
      obtain ⟨rfl, -⟩ := typed_text text
      have member : (key, val) ∈ sectionPairs name (blocksOf file) := by
        obtain ⟨front, behind, whole, -⟩ := List.lookup_eq_some_iff.mp given
        apply List.mem_reverse.mp
        rw [whole]
        simp
      obtain ⟨text, -, item⟩ := List.mem_filterMap.mp (mem_sectionPairs member)
      exact value_plain item
    · split at settings
      · cases settings
      · cases settings
  · cases held

/-- Quotes protect a text in the file exactly where it has no byte that begins a
comment and is neither a boolean word nor a number. -/
theorem getString_quoted {file name : Bytes} {c : Config} {before after : List Bytes}
    (loaded : load file = some c) (lines : file.splitOn 10 = before ++ quotedLine key quote s :: after)
    (isKey : IsKey key) (isQuote : IsQuote quote) (opens : Opens before name)
    (alone : LeavesAlone after name key) :
    (∀ default, c.getString (pointerTo name key) default = s) ↔
      (∀ b ∈ s, plain b) ∧ parseBool s = none ∧ parseInt s = none := by
  have stored : (∀ b ∈ s, plain b) → c.valueAt (pointerTo name key) = some (typed s) := by
    intro bare
    have last : lastOf key (sectionPairs name (blocksOf file)) = some (typed s) := by
      rw [blocksOf, lines]
      exact lastOf_given opens (item_quoted isKey isQuote bare) alone
    rw [← last]
    exact valueAt_loaded loaded (by rw [last]; exact Option.some_ne_none _)
  constructor
  · intro found
    have held := getString_always found
    have bare := text_plain loaded held
    rw [stored bare] at held
    exact ⟨bare, (typed_text (Option.some.inj held)).2⟩
  · rintro ⟨bare, noBool, noInt⟩ default
    have text : typed s = .text s := by rw [typed, noBool, noInt]
    rw [getString, stored bare, text]

def quotedFile : Bytes := bytes "[wifi]\nssid: \" a: b=c \"\ncolor: '#fff'\npin: \"0042\"\n"

theorem getString_quoted_ssid : ∃ c, load quotedFile = some c ∧
    ∀ default, c.getString (pointerTo (bytes "wifi") (bytes "ssid")) default = bytes " a: b=c " := by
  have loads : (load quotedFile).isSome := by decide
  obtain ⟨c, loaded⟩ := Option.isSome_iff_exists.mp loads
  have isKey : IsKey (bytes "ssid") := ⟨forall_mem_of_all (by decide), by decide⟩
  have opens : Opens [bytes "[wifi]"] (bytes "wifi") := ⟨by decide, [], by decide⟩
  have alone : LeavesAlone [bytes "color: '#fff'", bytes "pin: \"0042\"", []] (bytes "wifi")
      (bytes "ssid") := by
    have pairs : lead (items [bytes "color: '#fff'", bytes "pin: \"0042\"", []]) ++
        sectionPairs (bytes "wifi") (blocks (items [bytes "color: '#fff'", bytes "pin: \"0042\"", []])) =
        [(bytes "color", bytes "'"), (bytes "pin", bytes "0042")] := by decide
    intro val
    rw [pairs]
    simp only [List.mem_cons, Prod.mk.injEq, List.not_mem_nil, or_false, not_or, not_and]
    exact ⟨fun same => absurd same (by decide), fun same => absurd same (by decide)⟩
  refine ⟨c, loaded, (getString_quoted loaded (by decide) isKey (Or.inl rfl) opens alone).mpr ?_⟩
  exact ⟨forall_mem_of_all (by decide), by decide, by decide⟩

/-- A colour in quotes is cut at its mark. -/
theorem getString_color : ¬ ∀ (file name key s : Bytes) (c : Config) (before after : List Bytes)
    (quote : UInt8), load file = some c → file.splitOn 10 = before ++ quotedLine key quote s :: after →
    IsKey key → IsQuote quote → quote ∉ s → Opens before name → LeavesAlone after name key →
    ∀ default, c.getString (pointerTo name key) default = s := by
  intro always
  have loads : (load quotedFile).isSome := by decide
  obtain ⟨c, loaded⟩ := Option.isSome_iff_exists.mp loads
  have isKey : IsKey (bytes "color") := ⟨forall_mem_of_all (by decide), by decide⟩
  have opens : Opens [bytes "[wifi]", bytes "ssid: \" a: b=c \""] (bytes "wifi") :=
    ⟨by decide, [(bytes "ssid", bytes " a: b=c ")], by decide⟩
  have alone : LeavesAlone [bytes "pin: \"0042\"", []] (bytes "wifi") (bytes "color") := by
    have pairs : lead (items [bytes "pin: \"0042\"", []]) ++
        sectionPairs (bytes "wifi") (blocks (items [bytes "pin: \"0042\"", []])) =
        [(bytes "pin", bytes "0042")] := by decide
    intro val
    rw [pairs]
    simp only [List.mem_cons, Prod.mk.injEq, List.not_mem_nil, or_false, not_and]
    exact fun same => absurd same (by decide)
  have found := always quotedFile (bytes "wifi") (bytes "color") (bytes "#fff") c
    [bytes "[wifi]", bytes "ssid: \" a: b=c \""] [bytes "pin: \"0042\"", []] 39 loaded (by decide) isKey
    (Or.inr rfl) (by decide) opens alone
  have bare := text_plain loaded (getString_always found) 35 (by decide)
  exact absurd bare (by decide)

end Quoted

end Config

end GrumpyScreen
