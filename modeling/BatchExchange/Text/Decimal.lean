import BatchExchange.Text

/-!
# Decimal numerals

Lengths, statuses and line numbers are written in decimal without leading zeros.  Reading allows leading
zeros and one plus sign, and refuses what does not fit below a bound.
-/

namespace BatchExchange.Decimal

/-- The character of a digit below ten. -/
def digit (n : Nat) : Char := Char.ofNat (48 + n % 10)

def write (n : Nat) : Text :=
  if n < 10 then [digit n] else write (n / 10) ++ [digit n]

/-- The number that `digits` writes after `n` is read, if all of them are decimal digits. -/
def readDigits (n : Nat) : Text → Option Nat
  | [] => some n
  | c :: digits => if c.isDigit then readDigits (10 * n + (c.toNat - 48)) digits else none

/-- Reads at least one digit, after a plus sign or none, to a number below `bound`. -/
def read? (bound : Nat) (t : Text) : Option Nat :=
  let digits := (after? ['+'] t).getD t
  if digits = [] then none else (readDigits 0 digits).filter (· < bound)

theorem readDigits_append (n : Nat) (s t : Text) :
    readDigits n (s ++ t) = (readDigits n s).bind (readDigits · t) := by
  induction s generalizing n with
  | nil => rfl
  | cons c s ih => by_cases h : c.isDigit <;> simp [readDigits, h, ih]

theorem isDigit_digit (n : Nat) : (digit n).isDigit = true := by
  have h : n % 10 < 10 := Nat.mod_lt _ (by omega)
  unfold digit
  generalize n % 10 = d at h
  have : ∀ d < 10, (Char.ofNat (48 + d)).isDigit = true := by decide
  exact this d h

theorem toNat_digit (n : Nat) : (digit n).toNat - 48 = n % 10 := by
  have h : n % 10 < 10 := Nat.mod_lt _ (by omega)
  unfold digit
  generalize n % 10 = d at h
  have : ∀ d < 10, (Char.ofNat (48 + d)).toNat - 48 = d := by decide
  exact this d h

theorem write_ne_nil (n : Nat) : write n ≠ [] := by
  rw [write]; split <;> simp

theorem isDigit_of_mem_write {n : Nat} {c : Char} (h : c ∈ write n) : c.isDigit = true := by
  induction n using Nat.strongRecOn with
  | ind n ih =>
    rw [write] at h
    split at h
    · simp only [List.mem_singleton] at h
      exact h ▸ isDigit_digit n
    · rcases List.mem_append.1 h with h | h
      · exact ih (n / 10) (by omega) h
      · simp only [List.mem_singleton] at h
        exact h ▸ isDigit_digit n

/-- A number of so many digits is written with no more. -/
theorem length_write_le {d n : Nat} (h : n < Nat.pow 10 (d + 1)) : (write n).length ≤ d + 1 := by
  induction d generalizing n with
  | zero =>
    rw [write, if_pos h]
    exact Nat.le_refl 1
  | succ d ih =>
    have htimes : Nat.pow 10 (d + 1 + 1) = Nat.pow 10 (d + 1) * 10 := rfl
    rw [write]
    split
    · exact Nat.le_add_left 1 _
    · have hn : n / 10 < Nat.pow 10 (d + 1) := by omega
      rw [List.length_append]
      exact Nat.succ_le_succ (ih hn)

@[simp] theorem readDigits_write (n : Nat) : readDigits 0 (write n) = some n := by
  induction n using Nat.strongRecOn with
  | ind n ih =>
    rw [write]
    split
    · simp [readDigits, isDigit_digit, toNat_digit]; omega
    · rw [readDigits_append, ih _ (by omega)]
      simp [readDigits, isDigit_digit, toNat_digit]; omega

/-- What is written reads back, whatever bound it respects. -/
theorem read?_write {bound n : Nat} (h : n < bound) : read? bound (write n) = some n := by
  have hplus : after? ['+'] (write n) = none := by
    cases hw : after? ['+'] (write n) with
    | none => rfl
    | some rest =>
      rw [after?_eq_some_iff] at hw
      have := isDigit_of_mem_write (n := n) (c := '+') (by rw [hw]; simp)
      exact absurd this (by decide)
  simp [read?, hplus, write_ne_nil, Option.filter, h]

theorem isBlank_of_isDigit {c : Char} (h : c.isDigit) : Text.isBlank c = false := by
  simp only [Char.isDigit, Bool.and_eq_true, decide_eq_true_eq] at h
  have h1 : 48 ≤ c.toNat := h.1
  have h2 : c.toNat ≤ 57 := h.2
  simp only [Text.isBlank, Bool.or_eq_false_iff, Bool.and_eq_false_iff, decide_eq_false_iff_not,
    beq_eq_false_iff_ne]
  omega

/-- Numerals have no white space to trim. -/
theorem trim_write (n : Nat) : Text.trim (write n) = write n := by
  have hb : ∀ c ∈ write n, Text.isBlank c = false := fun c hc =>
    isBlank_of_isDigit (isDigit_of_mem_write hc)
  exact Text.trim_eq_self hb

end BatchExchange.Decimal
