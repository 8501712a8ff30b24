import BatchExchange.Text

/-!
# UTF-8

Encoding writes each character in its shortest form.  Decoding accepts every octet sequence: each maximal
subpart that begins no character gives one replacement character.  The decoder runs over the octets with
what the unfinished character still needs; decoding an encoded text gives the text back.
-/

namespace BatchExchange.Utf8

/-- The octets of a character. -/
def encodeChar (c : Char) : Bytes :=
  let n := c.toNat
  if n < 0x80 then [.ofNat n]
  else if n < 0x800 then [.ofNat (0xC0 + n / 0x40), .ofNat (0x80 + n % 0x40)]
  else if n < 0x10000 then
    [.ofNat (0xE0 + n / 0x1000), .ofNat (0x80 + n / 0x40 % 0x40), .ofNat (0x80 + n % 0x40)]
  else
    [.ofNat (0xF0 + n / 0x40000), .ofNat (0x80 + n / 0x1000 % 0x40),
      .ofNat (0x80 + n / 0x40 % 0x40), .ofNat (0x80 + n % 0x40)]

def encode (t : Text) : Bytes := t.flatMap encodeChar

/-- An unfinished character: its number so far, the least and greatest octet that may come next, and how
many more follow that one. -/
structure Pending where
  code : Nat
  lo : Nat
  hi : Nat
  more : Nat

/-- What stands for a subpart that is no character. -/
def replacement : Char := '\uFFFD'

/-- Reads the first octet of a character. -/
def start (b : Nat) : Text × Option Pending :=
  if b < 0x80 then ([Char.ofNat b], none)
  else if b < 0xC2 then ([replacement], none)
  else if b < 0xE0 then ([], some ⟨b - 0xC0, 0x80, 0xBF, 0⟩)
  else if b = 0xE0 then ([], some ⟨0, 0xA0, 0xBF, 1⟩)
  else if b = 0xED then ([], some ⟨0xD, 0x80, 0x9F, 1⟩)
  else if b < 0xF0 then ([], some ⟨b - 0xE0, 0x80, 0xBF, 1⟩)
  else if b = 0xF0 then ([], some ⟨0, 0x90, 0xBF, 2⟩)
  else if b < 0xF4 then ([], some ⟨b - 0xF0, 0x80, 0xBF, 2⟩)
  else if b = 0xF4 then ([], some ⟨4, 0x80, 0x8F, 2⟩)
  else ([replacement], none)

/-- Reads one octet: the characters it completes, and what is unfinished after it. -/
def step (pending : Option Pending) (b : Nat) : Text × Option Pending :=
  match pending with
  | none => start b
  | some p =>
    if p.lo ≤ b ∧ b ≤ p.hi then
      let code := 0x40 * p.code + (b - 0x80)
      match p.more with
      | 0 => ([Char.ofNat code], none)
      | more + 1 => ([], some ⟨code, 0x80, 0xBF, more⟩)
    else
      let (t, p) := start b
      (replacement :: t, p)

def decodeFrom (pending : Option Pending) : Bytes → Text
  | [] => if pending.isSome then [replacement] else []
  | b :: bytes => let (t, p) := step pending b.toNat; t ++ decodeFrom p bytes

/-- The text of `bytes`, with replacement characters where they are not UTF-8. -/
def decode (bytes : Bytes) : Text := decodeFrom none bytes

/-- The text of `bytes`, if they are UTF-8. -/
def decode? (bytes : Bytes) : Option Text :=
  let t := decode bytes
  if encode t = bytes then some t else none

@[simp] theorem encode_nil : encode [] = [] := rfl

@[simp] theorem encode_cons (c : Char) (t : Text) : encode (c :: t) = encodeChar c ++ encode t := rfl

@[simp] theorem encode_append (s t : Text) : encode (s ++ t) = encode s ++ encode t := by
  simp [encode]

private theorem toNat_octet {n : Nat} (h : n < 256) : (UInt8.ofNat n).toNat = n := by
  simp [UInt8.toNat_ofNat', Nat.mod_eq_of_lt h]

private theorem decodeFrom_cons {pending : Option Pending} {n : Nat} (h : n < 256) (rest : Bytes) :
    decodeFrom pending (.ofNat n :: rest) = (step pending n).1 ++ decodeFrom (step pending n).2 rest := by
  simp [decodeFrom, toNat_octet h]

private theorem step_last {code lo hi b : Nat} (h : lo ≤ b ∧ b ≤ hi) :
    step (some ⟨code, lo, hi, 0⟩) b = ([Char.ofNat (0x40 * code + (b - 0x80))], none) := by
  simp [step, h]

private theorem step_more {code lo hi more b : Nat} (h : lo ≤ b ∧ b ≤ hi) :
    step (some ⟨code, lo, hi, more + 1⟩) b
      = ([], some ⟨0x40 * code + (b - 0x80), 0x80, 0xBF, more⟩) := by
  simp [step, h]

theorem decodeFrom_encodeChar (c : Char) (rest : Bytes) :
    decodeFrom none (encodeChar c ++ rest) = c :: decodeFrom none rest := by
  have hv : c.toNat < 0xD800 ∨ (0xDFFF < c.toNat ∧ c.toNat < 0x110000) := c.valid
  have hc : Char.ofNat c.toNat = c := Char.ofNat_toNat c
  unfold encodeChar
  generalize c.toNat = n at hv hc
  simp only
  split
  · rename_i h
    simp only [List.cons_append, List.nil_append]
    rw [decodeFrom_cons (by omega)]
    simp [step, start, h, hc]
  split
  · rename_i h1 h2
    simp only [List.cons_append, List.nil_append]
    have hs : step none (0xC0 + n / 0x40) = ([], some ⟨n / 0x40, 0x80, 0xBF, 0⟩) := by
      simp only [step, start]
      rw [if_neg (by omega), if_neg (by omega), if_pos (by omega)]
      simp
    rw [decodeFrom_cons (by omega), hs, decodeFrom_cons (by omega), step_last (by omega)]
    have : 0x40 * (n / 0x40) + (0x80 + n % 0x40 - 0x80) = n := by omega
    rw [this, hc]
    rfl
  split
  · rename_i h1 h2 h3
    simp only [List.cons_append, List.nil_append]
    have hs : ∃ lo hi, step none (0xE0 + n / 0x1000) = ([], some ⟨n / 0x1000, lo, hi, 1⟩)
        ∧ lo ≤ 0x80 + n / 0x40 % 0x40 ∧ 0x80 + n / 0x40 % 0x40 ≤ hi := by
      simp only [step, start]
      rw [if_neg (by omega), if_neg (by omega), if_neg (by omega)]
      by_cases h0 : n / 0x1000 = 0
      · exact ⟨0xA0, 0xBF, by simp [h0], by omega, by omega⟩
      · rw [if_neg (by omega)]
        by_cases hd : n / 0x1000 = 0xD
        · exact ⟨0x80, 0x9F, by simp [hd], by omega, by omega⟩
        · rw [if_neg (by omega), if_pos (by omega)]
          exact ⟨0x80, 0xBF, by simp, by omega, by omega⟩
    obtain ⟨lo, hi, hs, hr⟩ := hs
    rw [decodeFrom_cons (by omega), hs, decodeFrom_cons (by omega), step_more hr,
      decodeFrom_cons (by omega), step_last (by omega)]
    have : 0x40 * (0x40 * (n / 0x1000) + (0x80 + n / 0x40 % 0x40 - 0x80)) + (0x80 + n % 0x40 - 0x80)
        = n := by omega
    rw [this, hc]
    rfl
  · rename_i h1 h2 h3
    simp only [List.cons_append, List.nil_append]
    have hs : ∃ lo hi, step none (0xF0 + n / 0x40000) = ([], some ⟨n / 0x40000, lo, hi, 2⟩)
        ∧ lo ≤ 0x80 + n / 0x1000 % 0x40 ∧ 0x80 + n / 0x1000 % 0x40 ≤ hi := by
      simp only [step, start]
      rw [if_neg (by omega), if_neg (by omega), if_neg (by omega), if_neg (by omega),
        if_neg (by omega), if_neg (by omega)]
      by_cases h0 : n / 0x40000 = 0
      · exact ⟨0x90, 0xBF, by simp [h0], by omega, by omega⟩
      · rw [if_neg (by omega)]
        by_cases h4 : n / 0x40000 = 4
        · exact ⟨0x80, 0x8F, by simp [h4], by omega, by omega⟩
        · rw [if_pos (by omega)]
          exact ⟨0x80, 0xBF, by simp, by omega, by omega⟩
    obtain ⟨lo, hi, hs, hr⟩ := hs
    rw [decodeFrom_cons (by omega), hs, decodeFrom_cons (by omega), step_more hr,
      decodeFrom_cons (by omega), step_more (by omega), decodeFrom_cons (by omega),
      step_last (by omega)]
    have : 0x40 * (0x40 * (0x40 * (n / 0x40000) + (0x80 + n / 0x1000 % 0x40 - 0x80))
        + (0x80 + n / 0x40 % 0x40 - 0x80)) + (0x80 + n % 0x40 - 0x80) = n := by omega
    rw [this, hc]
    rfl

theorem decode_encode_append (t : Text) (rest : Bytes) :
    decode (encode t ++ rest) = t ++ decode rest := by
  induction t with
  | nil => rfl
  | cons c t ih =>
    simp only [decode] at ih
    simp [decode, decodeFrom_encodeChar, ih]

@[simp] theorem decode_encode (t : Text) : decode (encode t) = t := by
  simpa [decode, decodeFrom] using decode_encode_append t []

theorem decode?_eq_some_iff {bytes : Bytes} {t : Text} : decode? bytes = some t ↔ bytes = encode t := by
  simp only [decode?]
  constructor
  · intro h
    split at h
    · rename_i he
      rw [← Option.some.inj h, he]
    · exact absurd h (by simp)
  · rintro rfl
    simp

end BatchExchange.Utf8
