/-!
# Text and octets

Bodies are lists of octets, and everything read out of them is a list of characters.  Names compare
without regard to ASCII case, values are trimmed of white space as Unicode defines it.
-/

namespace BatchExchange

abbrev Text := List Char

abbrev Bytes := List UInt8

instance (t : Text) (l : List Text) : Decidable (t ∈ l) := inferInstance

/-- The part of `l` before its longest tail of members satisfying `p`. -/
def dropTail {α : Type} (p : α → Bool) (l : List α) : List α :=
  (l.reverse.dropWhile p).reverse

@[simp] theorem dropTail_nil {α : Type} (p : α → Bool) : dropTail p [] = [] := rfl

theorem dropTail_concat {α : Type} (p : α → Bool) (l : List α) (a : α) :
    dropTail p (l ++ [a]) = if p a then dropTail p l else l ++ [a] := by
  by_cases h : p a <;> simp [dropTail, h]

/-- What follows `lead` in `l`, when `l` begins with it. -/
def after? {α : Type} [DecidableEq α] : List α → List α → Option (List α)
  | [], l => some l
  | _ :: _, [] => none
  | a :: lead, b :: l => if a = b then after? lead l else none

theorem after?_eq_some_iff {α : Type} [DecidableEq α] {lead l rest : List α} :
    after? lead l = some rest ↔ l = lead ++ rest := by
  induction lead generalizing l with
  | nil => simp [after?]
  | cons a lead ih =>
    cases l with
    | nil => simp [after?]
    | cons b l => by_cases h : a = b <;> simp [after?, h, ih, eq_comm]

@[simp] theorem after?_append {α : Type} [DecidableEq α] (lead rest : List α) :
    after? lead (lead ++ rest) = some rest :=
  after?_eq_some_iff.2 rfl

/-- What precedes `tail` in `l`, when `l` ends with it. -/
def before? {α : Type} [DecidableEq α] (tail l : List α) : Option (List α) :=
  (after? tail.reverse l.reverse).map List.reverse

theorem before?_eq_some_iff {α : Type} [DecidableEq α] {tail l rest : List α} :
    before? tail l = some rest ↔ l = rest ++ tail := by
  simp only [before?, Option.map_eq_some_iff, after?_eq_some_iff]
  constructor
  · rintro ⟨m, hm, rfl⟩
    simpa using congrArg List.reverse hm
  · rintro rfl
    exact ⟨rest.reverse, by simp, by simp⟩

/-- Splits at the first `sep`, which belongs to neither side. -/
def cut? {α : Type} [DecidableEq α] (sep : α) : List α → Option (List α × List α)
  | [] => none
  | a :: l => if a = sep then some ([], l) else (cut? sep l).map fun (x, y) => (a :: x, y)

theorem cut?_eq_some_iff {α : Type} [DecidableEq α] {sep : α} {l x y : List α} :
    cut? sep l = some (x, y) ↔ l = x ++ sep :: y ∧ sep ∉ x := by
  induction l generalizing x with
  | nil => simp [cut?]
  | cons a l ih =>
    by_cases h : a = sep
    · subst h
      cases x with
      | nil => simp [cut?, eq_comm]
      | cons b x => simp +contextual [cut?]
    · cases x with
      | nil => simp [cut?, h]
      | cons b x =>
        simp only [cut?, h, ite_false, Option.map_eq_some_iff, Prod.exists, Prod.mk.injEq,
          List.cons.injEq, List.cons_append, List.mem_cons, not_or]
        constructor
        · rintro ⟨u, v, huv, ⟨rfl, rfl⟩, rfl⟩
          exact ⟨⟨rfl, (ih.1 huv).1⟩, fun e => h e.symm, (ih.1 huv).2⟩
        · rintro ⟨⟨rfl, hl⟩, -, hx⟩
          exact ⟨x, y, ih.2 ⟨hl, hx⟩, ⟨rfl, rfl⟩, rfl⟩

theorem cut?_eq_none_iff {α : Type} [DecidableEq α] {sep : α} {l : List α} :
    cut? sep l = none ↔ sep ∉ l := by
  induction l with
  | nil => simp [cut?]
  | cons a l ih =>
    by_cases h : a = sep
    · simp [cut?, h]
    · simp [cut?, h, ih, Ne.symm h]

theorem mem_intercalate {α : Type} {sep l : List α} {parts : List (List α)} (hl : l ∈ parts) {a : α}
    (ha : a ∈ l) : a ∈ sep.intercalate parts := by
  induction parts with
  | nil => cases hl
  | cons m parts ih =>
    cases parts with
    | nil => simpa [List.mem_singleton.1 hl] using ha
    | cons n parts =>
      rw [List.intercalate_cons_cons]
      rcases List.mem_cons.1 hl with rfl | hl
      · simp [ha]
      · simp [ih hl]

namespace Text

/-- What holds of the ASCII characters one by one holds of every ASCII character. -/
theorem ascii_cases {p : Char → Prop} (h : ∀ n < 128, p (Char.ofNat n)) {c : Char}
    (hc : c.toNat < 128) : p c := by
  simpa [Char.ofNat_toNat] using h c.toNat hc

theorem toLower_lt {c : Char} (h : c.toNat < 128) : c.toLower.toNat < 128 :=
  ascii_cases (p := fun c => c.toLower.toNat < 128) (by decide) h

/-- White space as Unicode defines it. -/
def isBlank (c : Char) : Bool :=
  let n := c.toNat
  (9 ≤ n && n ≤ 13) || n == 0x20 || n == 0x85 || n == 0xA0 || n == 0x1680
    || (0x2000 ≤ n && n ≤ 0x200A) || n == 0x2028 || n == 0x2029 || n == 0x202F || n == 0x205F
    || n == 0x3000

def trimStart (t : Text) : Text := t.dropWhile isBlank

def trimEnd (t : Text) : Text := dropTail isBlank t

def trim (t : Text) : Text := trimEnd (trimStart t)

theorem trim_eq_self {t : Text} (h : ∀ c ∈ t, isBlank c = false) : trim t = t := by
  have drop : ∀ s : Text, (∀ c ∈ s, isBlank c = false) → s.dropWhile isBlank = s := by
    intro s hs
    cases s with
    | nil => rfl
    | cons c s => simp [hs c (by simp)]
  rw [trim, trimStart, drop t h, trimEnd, dropTail, drop t.reverse (by simpa using h),
    List.reverse_reverse]

/-- The maximal runs of characters that are not white space. -/
def words (t : Text) : List Text := (t.splitOnP isBlank).filter (· ≠ [])

/-- Whether one of some ranges of code points has `n`. -/
def inRanges (ranges : List (Nat × Nat)) (n : Nat) : Bool :=
  ranges.any fun (first, last) => first ≤ n && n ≤ last

/-- ASCII letters in lower case, other characters as they are. -/
def foldCase (t : Text) : Text := t.map Char.toLower

/-- Equality without regard to ASCII case. -/
def same (s t : Text) : Bool := foldCase s == foldCase t

theorem same_iff {s t : Text} : same s t ↔ foldCase s = foldCase t := by simp [same]

@[simp] theorem same_self (t : Text) : same t t := by simp [same]

end Text

end BatchExchange
