import GrumpyScreen.Config
import GrumpyScreen.Lib.Escape

/-! The printable form of an SSID: what `printf_encode` makes of arbitrary bytes and
what `printf_decode` reads back. -/

namespace GrumpyScreen

open Lib

def hex2num (c : UInt8) : Option Nat :=
  if 48 ≤ c ∧ c ≤ 57 then some (c.toNat - 48)
  else if 97 ≤ c ∧ c ≤ 102 then some (c.toNat - 97 + 10)
  else if 65 ≤ c ∧ c ≤ 70 then some (c.toNat - 65 + 10)
  else none

/-- `%x` of a single digit. -/
def hexDigit (n : Nat) : UInt8 := UInt8.ofNat (if n < 10 then 48 + n else 87 + n)

/-- `%02x`. -/
def hexPair (b : UInt8) : Bytes := [hexDigit (b.toNat / 16), hexDigit (b.toNat % 16)]

def Printable (b : UInt8) : Prop := 32 ≤ b ∧ b ≤ 126

instance : DecidablePred Printable := fun _ => inferInstanceAs (Decidable (_ ∧ _))

/-- The bytes with a letter of their own behind a backslash. -/
def escapes : List (UInt8 × UInt8) :=
  [(34, 34), (92, 92), (27, 101), (10, 110), (13, 114), (9, 116)]

def escapeLetter (b : UInt8) : Option UInt8 := (escapes.find? fun pair => pair.1 = b).map Prod.snd

def escapedByte (letter : UInt8) : Option UInt8 :=
  (escapes.find? fun pair => pair.2 = letter).map Prod.fst

def printfCode (b : UInt8) : Bytes :=
  match escapeLetter b with
  | some letter => [92, letter]
  | none => if Printable b then [b] else 92 :: 120 :: hexPair b

/-- It stops where the longest code and the NUL might not fit. -/
def printfEncode : Nat → Bytes → Bytes
  | _, [] => []
  | room, b :: rest =>
    if room ≤ 4 then []
    else printfCode b ++ printfEncode (room - (printfCode b).length) rest

/-- `SSID_MAX_LEN`. -/
def ssidMaxLen : Nat := 32

def wpaSsidTxt (ssid : Bytes) : Bytes := printfEncode (ssidMaxLen * 4 + 1) ssid

def isOctal (c : UInt8) : Bool := 48 ≤ c && c ≤ 55

/-- One or two hexadecimal digits; without any nothing is written. -/
def readHex (s : Bytes) : Option UInt8 × Bytes :=
  match s.head?.bind hex2num with
  | none => (none, s)
  | some high =>
    match s.tail.head?.bind hex2num with
    | none => (some (UInt8.ofNat high), s.tail)
    | some low => (some (UInt8.ofNat (16 * high + low)), s.tail.tail)

/-- One to three octal digits. -/
def readOctal (s : Bytes) : Option UInt8 × Bytes :=
  let digits := (s.take 3).takeWhile isOctal
  (some (UInt8.ofNat (digits.foldl (fun val c => 8 * val + (c.toNat - 48)) 0)),
    s.drop digits.length)

/-- What is written for what stands behind a backslash, and where the reader goes on;
an unknown letter is left to stand for itself. -/
def readEscape : Bytes → Option UInt8 × Bytes
  | [] => (none, [])
  | letter :: after =>
    match escapedByte letter with
    | some b => (some b, after)
    | none =>
      if letter = 120 then readHex after
      else if isOctal letter then readOctal (letter :: after)
      else (none, letter :: after)

theorem readHex_length (s : Bytes) : (readHex s).2.length ≤ s.length := by
  unfold readHex
  split
  · exact Nat.le_refl _
  · split
    · simp
    · simp only [List.length_tail]
      omega

theorem readEscape_length (s : Bytes) : (readEscape s).2.length ≤ s.length := by
  cases s with
  | nil => exact Nat.le_refl _
  | cons letter after =>
    have hex := readHex_length after
    have octal : (readOctal (letter :: after)).2.length ≤ (letter :: after).length := by
      rw [readOctal, List.length_drop]
      exact Nat.sub_le _ _
    simp only [readEscape]
    split
    · exact Nat.le_succ _
    · split
      · exact Nat.le_succ_of_le hex
      · split
        · exact octal
        · exact Nat.le_refl _

def printfDecode (room : Nat) : Bytes → Bytes
  | [] => []
  | c :: rest =>
    if room ≤ 1 then []
    else if c = 92 then
      (readEscape rest).1.toList ++
        printfDecode (room - (readEscape rest).1.toList.length) (readEscape rest).2
    else c :: printfDecode (room - 1) rest
termination_by s => s.length
decreasing_by
  · exact Nat.lt_succ_of_le (readEscape_length rest)
  · exact Nat.lt_succ_self rest.length

example : wpaSsidTxt (bytes "caf" ++ [195, 169]) = bytes "caf\\xc3\\xa9" := by decide

section RoundTrip

/-- Escaped by `printf_encode`. -/
def printfEscaping : Escaping UInt8 where
  code := printfCode
  longer b := by
    unfold printfCode
    split
    · exact Or.inr (by simp)
    · split
      · exact Or.inl rfl
      · exact Or.inr (by simp)

theorem escapeLetter_none {b : UInt8} (none : escapeLetter b = none) : b ≠ 34 ∧ b ≠ 92 := by
  constructor <;> rintro rfl <;> exact absurd none (by decide)

theorem escapeLetter_some {b letter : UInt8} (some : escapeLetter b = some letter) :
    (b, letter) ∈ escapes := by
  obtain ⟨pair, found, rfl⟩ := Option.map_eq_some_iff.mp some
  have named : pair.1 = b := by simpa using List.find?_some found
  rw [← named]
  exact List.mem_of_find?_eq_some found

theorem printf_plain_iff (b : UInt8) :
    printfEscaping.Plain b ↔ Printable b ∧ b ≠ 34 ∧ b ≠ 92 := by
  show printfCode b = [b] ↔ _
  cases letter : escapeLetter b with
  | some c =>
    have named : ∀ pair ∈ escapes, ¬ (Printable pair.1 ∧ pair.1 ≠ 34 ∧ pair.1 ≠ 92) :=
      forall_mem_of_all (by decide)
    rw [printfCode, letter]
    exact iff_of_false (by simp) (named _ (escapeLetter_some letter))
  | none =>
    rw [printfCode, letter]
    by_cases printable : Printable b
    · exact iff_of_true (if_pos printable) ⟨printable, escapeLetter_none letter⟩
    · exact iff_of_false (by simp [printable, hexPair]) fun both => printable both.1

theorem printfCode_length (b : UInt8) : (printfCode b).length ≤ 4 := by
  unfold printfCode
  split
  · exact by simp
  · split
    · exact by simp
    · exact by simp [hexPair]

theorem printfEncode_eq (room : Nat) (s : Bytes) (fits : 4 * s.length < room) :
    printfEncode room s = printfEscaping.encode s := by
  induction s generalizing room with
  | nil => rfl
  | cons b rest ih =>
    have word := printfCode_length b
    rw [List.length_cons] at fits
    rw [printfEncode, if_neg (by omega), ih _ (by omega)]
    rfl

theorem wpaSsidTxt_eq {ssid : Bytes} (short : ssid.length ≤ ssidMaxLen) :
    wpaSsidTxt ssid = printfEscaping.encode ssid :=
  printfEncode_eq _ ssid (by omega)

theorem hexDigit_printable : ∀ n : Fin 16, Printable (hexDigit n) := by decide

theorem hex2num_hexDigit : ∀ n : Fin 16, hex2num (hexDigit n) = some n.val := by decide

theorem hexPair_printable (b : UInt8) : ∀ c ∈ hexPair b, Printable c := by
  have size := b.toNat_lt
  refine List.forall_mem_cons.mpr ⟨hexDigit_printable ⟨b.toNat / 16, by omega⟩, ?_⟩
  exact List.forall_mem_singleton.mpr (hexDigit_printable ⟨b.toNat % 16, by omega⟩)

theorem readHex_hexPair (b : UInt8) (rest : Bytes) :
    readHex (hexPair b ++ rest) = (some b, rest) := by
  have size := b.toNat_lt
  have high := hex2num_hexDigit ⟨b.toNat / 16, by omega⟩
  have low := hex2num_hexDigit ⟨b.toNat % 16, by omega⟩
  have whole : 16 * (b.toNat / 16) + b.toNat % 16 = b.toNat := Nat.div_add_mod b.toNat 16
  simp [readHex, hexPair, high, low, whole]

theorem printf_printable (s : Bytes) : ∀ c ∈ printfEscaping.encode s, Printable c := by
  apply Escaping.forall_mem_encode
  intro b _
  show ∀ c ∈ printfCode b, Printable c
  cases letter : escapeLetter b with
  | some l =>
    have named : ∀ pair ∈ escapes, Printable 92 ∧ Printable pair.2 :=
      forall_mem_of_all (by decide)
    obtain ⟨mark, printable⟩ := named _ (escapeLetter_some letter)
    rw [printfCode, letter]
    exact List.forall_mem_cons.mpr ⟨mark, List.forall_mem_singleton.mpr printable⟩
  | none =>
    rw [printfCode, letter]
    by_cases printable : Printable b
    · simp [printable]
    · have marks : Printable 92 ∧ Printable 120 := by decide
      simp only [printable, if_false, List.forall_mem_cons]
      exact ⟨marks.1, marks.2, hexPair_printable b⟩

theorem printfDecode_code (b : UInt8) (rest : Bytes) {room : Nat} (space : 1 < room) :
    printfDecode room (printfCode b ++ rest) = b :: printfDecode (room - 1) rest := by
  cases letter : escapeLetter b with
  | some l =>
    have named : ∀ pair ∈ escapes, escapedByte pair.2 = some pair.1 :=
      forall_mem_of_all (by decide)
    have read : escapedByte l = some b := named _ (escapeLetter_some letter)
    rw [printfCode, letter]
    simp [printfDecode, readEscape, read, Nat.not_le.mpr space]
  | none =>
    have other := escapeLetter_none letter
    rw [printfCode, letter]
    by_cases printable : Printable b
    · simp [printfDecode, printable, other.2, Nat.not_le.mpr space]
    · have read : readEscape (120 :: (hexPair b ++ rest)) = (some b, rest) := readHex_hexPair b rest
      simp [printfDecode, printable, read, Nat.not_le.mpr space]

theorem printfDecode_encode (s : Bytes) {room : Nat} (fits : s.length < room) :
    printfDecode room (printfEscaping.encode s) = s := by
  induction s generalizing room with
  | nil => simp [printfDecode]
  | cons b rest ih =>
    rw [List.length_cons] at fits
    have space : 1 < room := by omega
    have word := printfDecode_code b (printfEscaping.encode rest) space
    rw [ih (by omega)] at word
    exact word

end RoundTrip

end GrumpyScreen
