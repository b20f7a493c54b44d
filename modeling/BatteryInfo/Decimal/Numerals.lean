import Mathlib.Data.List.TakeWhile
import Mathlib.Tactic.Common

/-!
# Decimal numerals

Integers as text: `ofInt` writes one as `std::to_string` does, and `scanInt` reads one as
`fscanf` does for `%d`. What is written is read back (`scanInt_ofInt`), and a number is read
exactly from the texts that begin with one (`scanInt_eq_number_iff`).
-/

namespace Decimal

/-- The digits of an integer, after a minus sign if it is negative. -/
def ofInt (n : Int) : List Char :=
  if n < 0 then '-' :: Nat.toDigits 10 n.natAbs else Nat.toDigits 10 n.natAbs

/-- The number that some digits stand for. -/
abbrev ofDigits (digits : List Char) : Nat :=
  Nat.ofDigitChars 10 digits 0

/-- `isspace` in the C locale. -/
def isSpace (c : Char) : Bool :=
  c = ' ' ∨ c = '\t' ∨ c = '\n' ∨ c = '\x0b' ∨ c = '\x0c' ∨ c = '\r'

/-- What comes of reading an integer: the text ended before it, something else was found, or the
integer. -/
inductive Scanned where
  | eof
  | mismatch
  | number (n : Int)
deriving DecidableEq, Repr

/-- An optional sign: whether it is a minus, and the text after it. -/
def takeSign : List Char → Bool × List Char
  | '-' :: rest => (true, rest)
  | '+' :: rest => (false, rest)
  | rest => (false, rest)

/-- As many digits as there are, after the sign. -/
def scanDigits (negative : Bool) (text : List Char) : Scanned :=
  match text.takeWhile Char.isDigit with
  | [] => .mismatch
  | digits => .number (if negative then -(ofDigits digits : Int) else ofDigits digits)

/-- White space is skipped, then an optional sign and as many digits as there are are taken. -/
def scanInt (text : List Char) : Scanned :=
  match text.dropWhile isSpace with
  | [] => .eof
  | rest => scanDigits (takeSign rest).1 (takeSign rest).2

/-- White space, an optional sign and a digit. -/
def StartsWithInt (text : List Char) : Prop :=
  ∃ space sign digit rest, text = space ++ sign ++ digit :: rest ∧ (∀ c ∈ space, isSpace c) ∧
    (sign = [] ∨ sign = ['-'] ∨ sign = ['+']) ∧ digit.isDigit

theorem isDigit_of_mem_toDigits {n : Nat} {c : Char} (hc : c ∈ Nat.toDigits 10 n) : c.isDigit :=
  Nat.isDigit_of_mem_toDigits (by decide) (by decide) hc

theorem isSpace_of_isDigit {c : Char} (hc : c.isDigit) : ¬ isSpace c := by
  intro hspace
  simp only [isSpace, decide_eq_true_eq] at hspace
  rcases hspace with rfl | rfl | rfl | rfl | rfl | rfl <;> simp at hc

/-- What was taken is one sign at most. -/
theorem takeSign_append (text : List Char) :
    ∃ sign, text = sign ++ (takeSign text).2 ∧ (sign = [] ∨ sign = ['-'] ∨ sign = ['+']) := by
  unfold takeSign
  split
  · exact ⟨['-'], rfl, .inr (.inl rfl)⟩
  · exact ⟨['+'], rfl, .inr (.inr rfl)⟩
  · exact ⟨[], rfl, .inl rfl⟩

theorem takeSign_digit {digit : Char} {rest : List Char} (hdigit : digit.isDigit) :
    takeSign (digit :: rest) = (false, digit :: rest) := by
  unfold takeSign
  split
  · rename_i heq
    cases heq
    simp at hdigit
  · rename_i heq
    cases heq
    simp at hdigit
  · rfl

/-- The digits of a numeral are taken up to what is none. -/
theorem takeWhile_isDigit {digits rest : List Char} (hdigits : ∀ c ∈ digits, c.isDigit)
    (hrest : ∀ c ∈ rest.head?, ¬ c.isDigit) :
    (digits ++ rest).takeWhile Char.isDigit = digits := by
  have hstop : rest.takeWhile Char.isDigit = [] := by
    cases rest with
    | nil => rfl
    | cons c rest => simp [hrest c rfl]
  rw [List.takeWhile_append_of_pos hdigits, hstop, List.append_nil]

theorem scanDigits_append {negative : Bool} {digits rest : List Char} (hne : digits ≠ [])
    (hdigits : ∀ c ∈ digits, c.isDigit) (hrest : ∀ c ∈ rest.head?, ¬ c.isDigit) :
    scanDigits negative (digits ++ rest) =
      .number (if negative then -(ofDigits digits : Int) else ofDigits digits) := by
  unfold scanDigits
  rw [takeWhile_isDigit hdigits hrest]
  cases digits with
  | nil => exact absurd rfl hne
  | cons digit digits => rfl

/-- A number is read exactly if the first character is a digit. -/
theorem scanDigits_eq_number_iff {negative : Bool} {text : List Char} :
    (∃ n, scanDigits negative text = .number n) ↔ ∃ c ∈ text.head?, c.isDigit := by
  unfold scanDigits
  cases text with
  | nil => simp
  | cons c rest =>
      cases hc : c.isDigit with
      | true => simp [hc]
      | false => simp [hc]

/-- White space before a sign or a digit is skipped. -/
theorem scanInt_append {space rest : List Char} (hspace : ∀ c ∈ space, isSpace c)
    (hne : rest ≠ []) (hrest : ∀ c ∈ rest.head?, ¬ isSpace c) :
    scanInt (space ++ rest) = scanDigits (takeSign rest).1 (takeSign rest).2 := by
  have hdrop : (space ++ rest).dropWhile isSpace = rest := by
    rw [List.dropWhile_append_of_pos hspace]
    cases rest with
    | nil => rfl
    | cons c rest => simp [hrest c rfl]
  unfold scanInt
  rw [hdrop]
  cases rest with
  | nil => exact absurd rfl hne
  | cons c rest => rfl

/-- A number is read exactly from a text that begins with one. -/
theorem scanInt_eq_number_iff {text : List Char} :
    (∃ n, scanInt text = .number n) ↔ StartsWithInt text := by
  constructor
  · rintro ⟨n, hnumber⟩
    have hsplit : text.takeWhile isSpace ++ text.dropWhile isSpace = text :=
      List.takeWhile_append_dropWhile
    cases hrest : text.dropWhile isSpace with
    | nil => simp [scanInt, hrest] at hnumber
    | cons c rest =>
        have hdigits :
            scanDigits (takeSign (c :: rest)).1 (takeSign (c :: rest)).2 = .number n := by
          simpa only [scanInt, hrest] using hnumber
        obtain ⟨digit, hhead, hdigit⟩ := scanDigits_eq_number_iff.1 ⟨n, hdigits⟩
        obtain ⟨sign, htext, hsign⟩ := takeSign_append (c :: rest)
        obtain ⟨after, hafter⟩ := List.head?_eq_some_iff.1 hhead
        refine ⟨text.takeWhile isSpace, sign, digit, after, ?_, ?_, hsign, hdigit⟩
        · rw [List.append_assoc, ← hafter, ← htext, ← hrest, hsplit]
        · exact fun c hc => List.mem_takeWhile_imp hc
  · rintro ⟨space, sign, digit, rest, rfl, hspace, hsign, hdigit⟩
    rw [List.append_assoc]
    rcases hsign with rfl | rfl | rfl
    · rw [List.nil_append,
        scanInt_append hspace (by simp) (by simpa using isSpace_of_isDigit hdigit),
        takeSign_digit hdigit, scanDigits_eq_number_iff]
      exact ⟨digit, rfl, hdigit⟩
    · rw [scanInt_append hspace (by simp) (by simp; decide)]
      exact scanDigits_eq_number_iff.2 ⟨digit, rfl, hdigit⟩
    · rw [scanInt_append hspace (by simp) (by simp; decide)]
      exact scanDigits_eq_number_iff.2 ⟨digit, rfl, hdigit⟩

theorem scanInt_of_head {text : List Char} (hne : text ≠ [])
    (htext : ∀ c ∈ text.head?, ¬ isSpace c) :
    scanInt text = scanDigits (takeSign text).1 (takeSign text).2 :=
  scanInt_append (List.forall_mem_nil _) hne htext

/-- White space in front makes no difference. -/
theorem scanInt_space_append {space : List Char} (hspace : ∀ c ∈ space, isSpace c)
    (text : List Char) : scanInt (space ++ text) = scanInt text := by
  unfold scanInt
  rw [List.dropWhile_append_of_pos hspace]

/-- What is written is read back. -/
theorem scanInt_ofInt (n : Int) {rest : List Char} (hrest : ∀ c ∈ rest.head?, ¬ c.isDigit) :
    scanInt (ofInt n ++ rest) = .number n := by
  have hdigits : ∀ c ∈ Nat.toDigits 10 n.natAbs, c.isDigit := fun c hc => isDigit_of_mem_toDigits hc
  have hscan : ∀ negative, scanDigits negative (Nat.toDigits 10 n.natAbs ++ rest) = _ :=
    fun _ => scanDigits_append Nat.toDigits_ne_nil hdigits hrest
  unfold ofInt
  split
  · rename_i hneg
    have hfirst : scanInt ('-' :: Nat.toDigits 10 n.natAbs ++ rest) = _ :=
      scanInt_of_head (by simp) (by simp; decide)
    rw [hfirst]
    show scanDigits true (Nat.toDigits 10 n.natAbs ++ rest) = _
    rw [hscan, if_pos rfl, ofDigits, Nat.ofDigitChars_ten_toDigits]
    congr 1
    omega
  · rename_i hpos
    obtain ⟨digit, digits, hnumeral⟩ := List.exists_cons_of_ne_nil
      (Nat.toDigits_ne_nil (n := n.natAbs) (b := 10))
    have hdigit : digit.isDigit := hdigits digit (by simp [hnumeral])
    have hfirst : scanInt (digit :: digits ++ rest) = _ :=
      scanInt_of_head (by simp) (by simpa using isSpace_of_isDigit hdigit)
    rw [List.cons_append, takeSign_digit hdigit, ← List.cons_append, ← hnumeral] at hfirst
    rw [hfirst, hscan, if_neg (by simp), ofDigits, Nat.ofDigitChars_ten_toDigits]
    congr 1
    omega

theorem ofInt_injective : Function.Injective ofInt := by
  intro m n heq
  have hm : scanInt (ofInt m ++ []) = .number m := scanInt_ofInt m (by simp)
  have hn : scanInt (ofInt n ++ []) = .number n := scanInt_ofInt n (by simp)
  rw [heq, hn] at hm
  exact (Scanned.number.inj hm).symm

end Decimal
