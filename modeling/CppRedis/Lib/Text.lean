import Mathlib.Data.Nat.Digits.Defs

/-!
# Byte strings, lines and decimal numerals

Byte strings as lists, the first line of a byte string, and decimal numerals as
they are printed and read back:

* `findCrlf` finds the first CRLF; what follows the CRLF never moves it
  (`findCrlf_append`), and it is the end of the first line
  (`findCrlf_of_noCrlf`).
* `decimal n` is the numeral of `n`; reading its digits gives `n` back
  (`decimalValue_decimal`).
-/

namespace Text

/-- A byte. -/
abbrev Byte := UInt8

/-- A byte string. -/
abbrev Bytes := List Byte

/-- The bytes of an ASCII literal. -/
def ascii (s : String) : Bytes :=
  s.toList.map fun c => c.toNat.toUInt8

/-! ## Lines -/

def cr : Byte := 13

def lf : Byte := 10

def crlf : Bytes := [cr, lf]

/-- The index of the first CRLF, if there is one. -/
def findCrlf : Bytes → Option Nat
  | [] => none
  | c :: rest => if c = cr ∧ rest.head? = some lf then some 0 else (findCrlf rest).map (· + 1)

/-- A line: a byte string with no CRLF inside. It may end with a CR. -/
def NoCrlf (s : Bytes) : Prop :=
  findCrlf s = none

instance (s : Bytes) : Decidable (NoCrlf s) :=
  inferInstanceAs (Decidable (findCrlf s = none))

theorem findCrlf_append {x : Bytes} {n : Nat} (y : Bytes) (h : findCrlf x = some n) :
    findCrlf (x ++ y) = some n := by
  induction x generalizing n with
  | nil => simp [findCrlf] at h
  | cons c rest ih =>
    simp only [findCrlf, List.cons_append] at h ⊢
    split at h
    · next hc =>
      have hh : (rest ++ y).head? = some lf := by
        rw [List.head?_append, hc.2]
        rfl
      rw [if_pos ⟨hc.1, hh⟩]
      exact h
    · next hc =>
      obtain ⟨m, hm, rfl⟩ := Option.map_eq_some_iff.mp h
      have hne : rest ≠ [] := by
        rintro rfl
        simp [findCrlf] at hm
      have hh : (rest ++ y).head? = rest.head? := by
        cases rest with
        | nil => exact absurd rfl hne
        | cons _ _ => rfl
      rw [hh, if_neg hc, ih hm]
      rfl

theorem findCrlf_length {x : Bytes} {n : Nat} (h : findCrlf x = some n) : n + 2 ≤ x.length := by
  induction x generalizing n with
  | nil => simp [findCrlf] at h
  | cons c rest ih =>
    simp only [findCrlf] at h
    split at h
    · next hc =>
      cases h
      cases rest with
      | nil => simp at hc
      | cons _ _ => simp
    · obtain ⟨m, hm, rfl⟩ := Option.map_eq_some_iff.mp h
      have := ih hm
      simp only [List.length_cons]
      omega

/-- The first line of a byte string ends where its first CRLF starts. -/
theorem findCrlf_of_noCrlf {s : Bytes} (y : Bytes) (h : NoCrlf s) :
    findCrlf (s ++ crlf ++ y) = some s.length := by
  induction s with
  | nil => simp [findCrlf, crlf]
  | cons c rest ih =>
    simp only [NoCrlf, findCrlf] at h
    split at h
    · exact absurd h (by simp)
    · next hc =>
      have hrest : NoCrlf rest := by simpa [NoCrlf] using h
      have hh : ¬ (c = cr ∧ (rest ++ crlf ++ y).head? = some lf) := by
        rintro ⟨h1, h2⟩
        cases rest with
        | nil => exact absurd (Option.some.inj h2) (by decide)
        | cons d _ => exact hc ⟨h1, h2⟩
      simp only [List.cons_append, findCrlf]
      rw [if_neg hh, ih hrest]
      rfl

/-- No CR, no CRLF. -/
theorem noCrlf_of_not_mem {s : Bytes} (h : cr ∉ s) : NoCrlf s := by
  induction s with
  | nil => rfl
  | cons c rest ih =>
    simp only [List.mem_cons, not_or] at h
    have hc : ¬ (c = cr ∧ rest.head? = some lf) := fun hc => h.1 hc.1.symm
    simp only [NoCrlf, findCrlf]
    rw [if_neg hc]
    exact (congrArg _ (ih h.2)).trans rfl

/-! ## Decimal numerals -/

/-- The digit of a number below ten. -/
def digit (d : Nat) : Byte :=
  (48 + d).toUInt8

def isDigit (c : Byte) : Bool :=
  48 ≤ c && c ≤ 57

def digitValue (c : Byte) : Nat :=
  c.toNat - 48

/-- The number written in decimal, without leading zeros. -/
def decimal (n : Nat) : Bytes :=
  if n = 0 then [digit 0] else (Nat.digits 10 n).reverse.map digit

/-- The integer written in decimal, with a leading minus when it is negative. -/
def decimalInt (v : Int) : Bytes :=
  if v < 0 then 45 :: decimal v.natAbs else decimal v.natAbs

/-- The number that a string of digits denotes. -/
def decimalValue (s : Bytes) : Nat :=
  s.foldl (fun n c => n * 10 + digitValue c) 0

/-- The number that a nonempty string of digits denotes; no other string denotes one. -/
def readDecimal (s : Bytes) : Option Nat :=
  if s ≠ [] ∧ s.all isDigit then some (decimalValue s) else none

/-- The integer that a numeral with an optional minus denotes. -/
def readInt : Bytes → Option Int
  | [] => none
  | c :: s =>
    if c = 45 then (readDecimal s).map fun (n : Nat) => -(n : Int)
    else (readDecimal (c :: s)).map fun (n : Nat) => (n : Int)

/-- What follows the minus of a numeral, or all of it where there is none. -/
def unsigned : Bytes → Bytes
  | [] => []
  | c :: s => if c = 45 then s else c :: s

/-- The sign of a numeral. -/
def sign (s : Bytes) : Int :=
  if s.head? = some 45 then -1 else 1

/-- The digits of a numeral up to the first byte that is none. -/
def leadingDigits (s : Bytes) : Bytes :=
  (unsigned s).takeWhile isDigit

theorem isDigit_digit {d : Nat} (h : d < 10) : isDigit (digit d) = true := by
  decide +revert

theorem digitValue_digit {d : Nat} (h : d < 10) : digitValue (digit d) = d := by
  decide +revert

theorem decimal_of_lt {d : Nat} (h : d < 10) : decimal d = [digit d] := by
  decide +revert

/-- The numeral of a number of two digits or more is that of its tenth part and a last digit. -/
theorem decimal_of_ge {n : Nat} (h : 10 ≤ n) :
    decimal n = decimal (n / 10) ++ [digit (n % 10)] := by
  have h0 : n ≠ 0 := by omega
  have h1 : n / 10 ≠ 0 := by omega
  simp only [decimal, if_neg h0, if_neg h1]
  rw [Nat.digits_def' (by decide) (by omega)]
  simp

theorem decimal_ne_nil (n : Nat) : decimal n ≠ [] := by
  rcases Nat.lt_or_ge n 10 with h | h
  · simp [decimal_of_lt h]
  · simp [decimal_of_ge h]

theorem all_isDigit_decimal (n : Nat) : (decimal n).all isDigit = true := by
  induction n using Nat.strong_induction_on with
  | _ n ih =>
    rcases Nat.lt_or_ge n 10 with h | h
    · simp [decimal_of_lt h, isDigit_digit h]
    · rw [decimal_of_ge h, List.all_append, ih (n / 10) (by omega)]
      simp [isDigit_digit (Nat.mod_lt n (by decide))]

/-- Reading the digits of the numeral of `n` gives `n`. -/
theorem decimalValue_decimal (n : Nat) : decimalValue (decimal n) = n := by
  induction n using Nat.strong_induction_on with
  | _ n ih =>
    rcases Nat.lt_or_ge n 10 with h | h
    · simp [decimal_of_lt h, decimalValue, digitValue_digit h]
    · have hd := digitValue_digit (Nat.mod_lt n (show 0 < 10 by decide))
      have hq := ih (n / 10) (by omega)
      rw [decimal_of_ge h]
      simp only [decimalValue, List.foldl_append, List.foldl_cons, List.foldl_nil] at hq ⊢
      rw [hq, hd]
      omega

theorem readDecimal_decimal (n : Nat) : readDecimal (decimal n) = some n := by
  rw [readDecimal, if_pos ⟨decimal_ne_nil n, all_isDigit_decimal n⟩, decimalValue_decimal]

/-- A numeral is read as its sign times its digits. -/
theorem readInt_eq (s : Bytes) :
    readInt s = (readDecimal (unsigned s)).map fun (n : Nat) => sign s * n := by
  cases s with
  | nil => rfl
  | cons c s =>
    unfold readInt unsigned sign
    by_cases hc : c = 45
    · simp [hc]
    · simp [hc]

theorem le_foldl_digits (s : Bytes) (n : Nat) :
    n ≤ s.foldl (fun n c => n * 10 + digitValue c) n := by
  induction s generalizing n with
  | nil => exact Nat.le_refl n
  | cons c s ih =>
    have hstep := ih (n * 10 + digitValue c)
    rw [List.foldl_cons]
    omega

/-- Reading the numeral of `v` gives `v`. -/
theorem readInt_decimalInt (v : Int) : readInt (decimalInt v) = some v := by
  unfold decimalInt
  split
  · next h =>
    rw [readInt, if_pos rfl, readDecimal_decimal, Option.map_some, Option.some.injEq]
    omega
  · next h =>
    have hread := readDecimal_decimal v.natAbs
    have hall := all_isDigit_decimal v.natAbs
    cases hd : decimal v.natAbs with
    | nil => exact absurd hd (decimal_ne_nil _)
    | cons c s =>
      rw [hd] at hread hall
      have hc : c ≠ 45 := by
        rintro rfl
        rw [List.all_cons] at hall
        cases hall
      rw [readInt, if_neg hc, hread, Option.map_some, Option.some.injEq]
      omega

theorem not_mem_of_all_isDigit {s : Bytes} {c : Byte} (h : s.all isDigit = true)
    (hc : isDigit c = false) : c ∉ s := by
  intro hm
  have := List.all_eq_true.mp h c hm
  rw [hc] at this
  exact Bool.noConfusion this

theorem noCrlf_decimal (n : Nat) : NoCrlf (decimal n) :=
  noCrlf_of_not_mem (not_mem_of_all_isDigit (all_isDigit_decimal n) (by decide))

theorem noCrlf_decimalInt (v : Int) : NoCrlf (decimalInt v) := by
  refine noCrlf_of_not_mem ?_
  have hd := not_mem_of_all_isDigit (all_isDigit_decimal v.natAbs) (show isDigit cr = false by decide)
  unfold decimalInt
  split
  · simp only [List.mem_cons, not_or]
    exact ⟨by decide, hd⟩
  · exact hd

end Text
