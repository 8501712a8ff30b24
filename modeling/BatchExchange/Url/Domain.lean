import BatchExchange.Text.Utf8
import BatchExchange.Url.Domain.Direction
import BatchExchange.Url.Domain.Joiner
import BatchExchange.Url.Domain.Mapping
import BatchExchange.Url.Punycode

/-!
# Domains

Which octets name a domain.  It is taken to its plain form and cut at full stops into labels, and a label
in Punycode is decoded.  No label begins with a mark or holds a joiner out of place, and if anything in the
domain is written from right to left, the direction of every label is plain.

* `plain?_of_ascii`: the plain form of an ASCII domain without a label in Punycode.
-/

namespace BatchExchange.Url.Domain

open Text

/-- ASCII characters that no domain has. -/
def isSeparator (c : Char) : Bool :=
  c.toNat ≤ 0x20 || c.toNat = 0x7F || c ∈ "%#/:<>?@[\\]^|".toList

def isAscii (t : Text) : Bool := t.all (·.toNat < 0x80)

/-- The text that a label writes in Punycode.  It is in plain form already, and not in ASCII alone. -/
def decodedLabel? (code : Text) : Option Text := do
  if isAscii code && code.length ≤ 2000 && code.getLast?.any (· ≠ '-') then
    let label ← Punycode.decode? code
    if plainText? label = some label then some label else none
  else none

/-- Whether a label has its marks and joiners where they belong, and is not too long for Punycode. -/
def isWellFormed (label : Text) : Bool :=
  !label.head?.any isMark && joinersPlaced [] label && (isAscii label || label.length ≤ 1000)

/-- The label that a text without full stops is. -/
def label? (t : Text) : Option Text := do
  let label ← match after? "xn--".toList t with
    | some code => decodedLabel? code
    | none => some t
  if isWellFormed label then some label else none

/-- The labels of the domain that octets name, if they name one. -/
def labels? (octets : Bytes) : Option (List Text) := do
  let t ← plainText? (← Utf8.decode? octets)
  let labels ← (t.splitOn '.').mapM label?
  if labels.all (·.all (!isSeparator ·)) && (!labels.any hasRight || labels.all isDirected) then
    some labels
  else none

/-- The plain form of the domain that octets name. -/
def plain? (octets : Bytes) : Option Text := (labels? octets).map (['.'].intercalate ·)

/-! ## ASCII -/

theorem isSeparator_toLower {c : Char} (h : c.toNat < 128) :
    isSeparator c.toLower = isSeparator c :=
  ascii_cases (p := fun c => isSeparator c.toLower = isSeparator c) (by decide) h

theorem label?_of_ascii {t : Text} (h : ∀ c ∈ t, c.toNat < 128)
    (hx : after? "xn--".toList t = none) : label? t = some t := by
  have mark : t.head?.any isMark = false := by
    cases t with
    | nil => rfl
    | cons c t => exact isMark_of_lt (Nat.lt_trans (h c (by simp)) (by decide))
  have ascii : isAscii t = true := by simpa [isAscii] using h
  have formed : isWellFormed t = true := by
    simp [isWellFormed, mark, ascii, joinersPlaced_of_ascii [] h]
  rw [label?, hx]
  simp [formed]

theorem mapM_label?_of_ascii {labels : List Text} (h : ∀ l ∈ labels, ∀ c ∈ l, c.toNat < 128)
    (hx : ∀ l ∈ labels, after? "xn--".toList l = none) : labels.mapM label? = some labels := by
  induction labels with
  | nil => rfl
  | cons l labels ih =>
    simp [label?_of_ascii (h l (by simp)) (hx l (by simp)),
      ih (fun m hm => h m (by simp [hm])) fun m hm => hx m (by simp [hm])]

/-- The plain form of an ASCII domain without a label in Punycode is the domain in lower case. -/
theorem plain?_of_ascii {t : Text} (h : ∀ c ∈ t, c.toNat < 128 ∧ isSeparator c = false)
    (hx : ∀ l ∈ t.foldCase.splitOn '.', after? "xn--".toList l = none) :
    plain? (Utf8.encode t) = some t.foldCase := by
  have mem : ∀ l ∈ t.foldCase.splitOn '.', ∀ c ∈ l, c.toNat < 128 ∧ isSeparator c = false := by
    intro l hl c hc
    have join : ['.'].intercalate (t.foldCase.splitOn '.') = t.foldCase :=
      List.intercalate_splitOn '.'
    have hc : c ∈ t.foldCase := join ▸ mem_intercalate hl hc
    obtain ⟨d, hd, rfl⟩ := List.mem_map.1 hc
    exact ⟨toLower_lt (h d hd).1, by rw [isSeparator_toLower (h d hd).1, (h d hd).2]⟩
  have ascii : ∀ l ∈ t.foldCase.splitOn '.', ∀ c ∈ l, c.toNat < 128 := fun l hl c hc =>
    (mem l hl c hc).1
  have plain : (t.foldCase.splitOn '.').all (·.all (!isSeparator ·)) = true := by
    simpa using fun l hl c hc => (mem l hl c hc).2
  have left : (t.foldCase.splitOn '.').any hasRight = false := by
    simpa using fun l hl => hasRight_of_ascii (ascii l hl)
  rw [plain?, labels?, Utf8.decode?_eq_some_iff.2 rfl]
  simp only [Option.bind_eq_bind, Option.bind_some, plainText?_of_ascii fun c hc => (h c hc).1,
    mapM_label?_of_ascii ascii hx, plain, left, Option.map_some, Bool.not_false, Bool.true_or,
    Bool.and_self, if_true, List.intercalate_splitOn]

end BatchExchange.Url.Domain
