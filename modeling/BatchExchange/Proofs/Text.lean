import BatchExchange.Text.Utf8
import Mathlib.Data.List.DropRight
import Mathlib.Data.List.Induction
import Mathlib.Data.List.TakeWhile

/-!
# Texts that are written and read back

Facts about trimming, about words and about encoded texts that the readers of lines rest on.

* `Text.trim_of_ends`: a text that neither begins nor ends with white space is its own trim.
* `Text.weight_trim`: what is no white space survives.
* `Text.words_of_spaced`: three words with single spaces between them are those three words.
* `Utf8.mem_of_mem_encode`: the octets below 0x80 of an encoded text are its ASCII characters.
* `Utf8.mem_of_mem_decode`: decoding makes no line ends.
* `Utf8.decode_append_space`: a space parts what is decoded.
-/

namespace BatchExchange

section DropTail

variable {α : Type} {p : α → Bool}

theorem dropTail_isPrefix (p : α → Bool) (l : List α) : dropTail p l <+: l := by
  rw [← List.reverse_suffix, dropTail, List.reverse_reverse]
  exact List.dropWhile_suffix p

/-- Nothing is dropped in front of a member that stays. -/
theorem dropTail_append {l : List α} {a : α} (ha : p a = false) (m : List α) :
    dropTail p (l ++ a :: m) = l ++ a :: dropTail p m := by
  have hl : (a :: l.reverse).dropWhile p = a :: l.reverse := by
    rw [List.dropWhile_cons, ha]
    rfl
  rw [dropTail, dropTail, show (l ++ a :: m).reverse = m.reverse ++ (a :: l.reverse) by simp,
    List.dropWhile_append]
  split
  · rename_i hm
    rw [hl, List.isEmpty_iff.1 hm]
    simp
  · simp

theorem dropTail_concat_of_not {l : List α} {a : α} (ha : p a = false) :
    dropTail p (l ++ [a]) = l ++ [a] := by
  rw [dropTail_concat, ha]
  rfl

theorem dropTail_dropTail (l : List α) : dropTail p (dropTail p l) = dropTail p l := by
  induction l using List.reverseRecOn with
  | nil => rfl
  | append_singleton l a ih =>
    rw [dropTail_concat]
    split
    · exact ih
    · rename_i ha
      rw [dropTail_concat, if_neg ha]

/-- Nothing is dropped where the last member stays. -/
theorem dropTail_of_getLast? {l : List α} (h : ∀ a ∈ l.getLast?, p a = false) : dropTail p l = l := by
  refine List.rdropWhile_eq_self_iff.2 fun hne hlast => ?_
  rw [h _ (List.getLast_mem_getLast? hne)] at hlast
  cases hlast

/-- What is kept does not end with what is dropped. -/
theorem getLast?_dropTail (l : List α) : ∀ a ∈ (dropTail p l).getLast?, p a = false := by
  intro a ha
  obtain ⟨hne, rfl⟩ := List.mem_getLast?_eq_getLast ha
  rw [← Bool.not_eq_true]
  exact List.rdropWhile_last_not p l hne

theorem dropTail_append_of_all (l : List α) {m : List α} (hm : ∀ a ∈ m, p a) :
    dropTail p (l ++ m) = dropTail p l := by
  induction m using List.reverseRecOn with
  | nil => rw [List.append_nil]
  | append_singleton m a ih =>
    simp only [List.mem_append, List.mem_singleton] at hm
    rw [← List.append_assoc, dropTail_concat, if_pos (hm a (.inr rfl)), ih fun b hb => hm b (.inl hb)]

/-- **What is left of a list** when its tail is dropped. -/
theorem dropTail_eq_iff {l kept : List α} :
    dropTail p l = kept ↔ (∀ a ∈ kept.getLast?, p a = false) ∧ ∃ tail, (∀ a ∈ tail, p a) ∧ l = kept ++ tail := by
  constructor
  · rintro rfl
    refine ⟨getLast?_dropTail l, l.reverse.takeWhile p |>.reverse, ?_, ?_⟩
    · intro a ha
      exact List.mem_takeWhile_imp (List.mem_reverse.1 ha)
    · rw [dropTail, ← List.reverse_append, List.takeWhile_append_dropWhile, List.reverse_reverse]
  · rintro ⟨hlast, tail, htail, rfl⟩
    rw [dropTail_append_of_all kept htail, dropTail_of_getLast? hlast]

theorem dropTail_append_replicate {a : α} (ha : p a) (l : List α) (n : Nat) :
    dropTail p (l ++ List.replicate n a) = dropTail p l := by
  apply dropTail_append_of_all
  intro b hb
  rwa [List.eq_of_mem_replicate hb]

/-- Only copies of `a` are dropped where nothing else may be. -/
theorem exists_dropTail_append_replicate [DecidableEq α] (a : α) (l : List α) :
    ∃ n, l = dropTail (· = a) l ++ List.replicate n a := by
  induction l using List.reverseRecOn with
  | nil => exact ⟨0, rfl⟩
  | append_singleton l b ih =>
    rw [dropTail_concat]
    split
    · rename_i hb
      obtain ⟨n, hn⟩ := ih
      refine ⟨n + 1, ?_⟩
      rw [List.replicate_succ', ← List.append_assoc, ← hn, of_decide_eq_true hb]
    · exact ⟨0, (List.append_nil _).symm⟩

end DropTail

section Span

variable {α : Type} {p : α → Bool} {l m : List α} (inside : ∀ a ∈ l, p a) (ends : ∀ a ∈ m.head?, p a = false)

include inside ends

/-- The longest front with a property is known by what it holds and what comes next. -/
theorem takeWhile_append_of_ends : (l ++ m).takeWhile p = l := by
  rw [List.takeWhile_append_of_pos inside]
  cases m with
  | nil => rw [List.takeWhile_nil, List.append_nil]
  | cons a m => rw [List.takeWhile_cons, ends a rfl, if_neg (by simp), List.append_nil]

theorem dropWhile_append_of_ends : (l ++ m).dropWhile p = m := by
  rw [List.dropWhile_append_of_pos inside]
  cases m with
  | nil => rfl
  | cons a m => rw [List.dropWhile_cons, ends a rfl, if_neg (by simp)]

end Span

/-- What ends the longest front with a property does not have it. -/
theorem not_of_mem_head?_dropWhile {α : Type} {p : α → Bool} {l : List α} :
    ∀ a ∈ (l.dropWhile p).head?, p a = false := by
  intro a ha
  have hnot := List.head?_dropWhile_not p l
  rwa [Option.mem_def.1 ha] at hnot

/-- **What is left of a list** when both its ends are dropped. -/
theorem dropTail_dropWhile_eq_iff {α : Type} {p : α → Bool} {l kept : List α} :
    dropTail p (l.dropWhile p) = kept ↔
      (∀ a ∈ kept.head?, p a = false) ∧ (∀ a ∈ kept.getLast?, p a = false) ∧
        ∃ front tail, (∀ a ∈ front, p a) ∧ (∀ a ∈ tail, p a) ∧ l = front ++ kept ++ tail := by
  constructor
  · rintro rfl
    obtain ⟨hlast, tail, htail, hdrop⟩ := dropTail_eq_iff.1 (rfl : dropTail p (l.dropWhile p) = _)
    refine ⟨?_, hlast, l.takeWhile p, tail, fun a ha => List.mem_takeWhile_imp ha, htail, ?_⟩
    · intro a ha
      refine not_of_mem_head?_dropWhile (l := l) a ?_
      rw [hdrop, List.head?_append, Option.mem_def.1 ha]
      rfl
    · rw [List.append_assoc, ← hdrop, List.takeWhile_append_dropWhile]
  · rintro ⟨hhead, hlast, front, tail, hfront, htail, rfl⟩
    have hkept : dropTail p ((kept ++ tail).dropWhile p) = kept := by
      cases kept with
      | nil => rw [List.nil_append, List.dropWhile_eq_nil_iff.2 htail, dropTail_nil]
      | cons a kept =>
        rw [List.cons_append, List.dropWhile_cons, hhead a rfl, if_neg (by simp), ← List.cons_append]
        exact dropTail_eq_iff.2 ⟨hlast, tail, htail, rfl⟩
    rw [List.append_assoc, List.dropWhile_append_of_pos hfront, hkept]

/-- A list that is long enough to begin with `lead`, and does not, does not do so with more behind it. -/
theorem after?_append_eq_none {α : Type} [DecidableEq α] {lead l : List α} (h : after? lead l = none)
    (hlength : lead.length ≤ l.length) (m : List α) : after? lead (l ++ m) = none := by
  induction lead generalizing l with
  | nil => cases h
  | cons a lead ih =>
    cases l with
    | nil => simp at hlength
    | cons b l =>
      rw [after?] at h
      rw [List.cons_append, after?]
      by_cases hab : a = b
      · rw [if_pos hab] at h ⊢
        exact ih h (Nat.le_of_succ_le_succ hlength)
      · rw [if_neg hab]

/-- What going through a list finds of each member. -/
theorem forall_mem_of_all {α : Type} {p : α → Prop} [DecidablePred p] {l : List α}
    (h : l.all fun a => decide (p a)) : ∀ a ∈ l, p a :=
  fun a ha => of_decide_eq_true (List.all_eq_true.1 h a ha)

namespace Text

theorem toNat_lt_of_isAlphanum {c : Char} (h : c.isAlphanum) : c.toNat < 128 := by
  have halnum : c.isAlphanum = ((decide (c.val ≥ 65 ∧ c.val ≤ 90)
      || decide (c.val ≥ 97) && decide (c.val ≤ 122)) || decide (c.val ≥ 48) && decide (c.val ≤ 57)) :=
    rfl
  rw [halnum] at h
  simp only [Bool.or_eq_true, Bool.and_eq_true, decide_eq_true_eq] at h
  have hv : c.toNat = c.val.toNat := rfl
  simp only [ge_iff_le, UInt32.le_iff_toNat_le, ← hv] at h
  change (65 ≤ c.toNat ∧ c.toNat ≤ 90 ∨ 97 ≤ c.toNat ∧ c.toNat ≤ 122) ∨
    48 ≤ c.toNat ∧ c.toNat ≤ 57 at h
  omega

/-- What holds of the letters and digits one by one holds of every letter and digit. -/
theorem alphanum_cases {p : Char → Prop}
    (h : ∀ n < 128, (Char.ofNat n).isAlphanum → p (Char.ofNat n)) {c : Char} (hc : c.isAlphanum) : p c :=
  ascii_cases (p := fun c => c.isAlphanum → p c) h (toNat_lt_of_isAlphanum hc) hc

theorem toLower_of_not_upper {c : Char} (h : ¬(65 ≤ c.toNat ∧ c.toNat ≤ 90)) : c.toLower = c := by
  refine dif_neg fun hupper => h ?_
  exact ⟨UInt32.le_iff_toNat_le.1 hupper.1, UInt32.le_iff_toNat_le.1 hupper.2⟩

theorem toLower_toLower (c : Char) : c.toLower.toLower = c.toLower := by
  by_cases hupper : 65 ≤ c.toNat ∧ c.toNat ≤ 90
  · exact ascii_cases (p := fun c => c.toLower.toLower = c.toLower) (by decide) (by omega)
  · rw [toLower_of_not_upper hupper, toLower_of_not_upper hupper]

theorem foldCase_foldCase (t : Text) : t.foldCase.foldCase = t.foldCase := by
  rw [foldCase, foldCase, List.map_map]
  exact List.map_congr_left fun c _ => toLower_toLower c

theorem trim_cons {c : Char} (hc : isBlank c) (t : Text) : trim (c :: t) = trim t := by
  rw [trim, trimStart, List.dropWhile_cons, if_pos hc, ← trimStart, ← trim]

theorem trim_subset (t : Text) : trim t ⊆ t :=
  fun _ hc => (List.dropWhile_sublist _).subset ((dropTail_isPrefix _ _).subset hc)

theorem trimEnd_trimEnd (t : Text) : trimEnd (trimEnd t) = trimEnd t := dropTail_dropTail t

theorem trim_of_ends {t : Text} (hhead : ∀ c ∈ t.head?, isBlank c = false)
    (hlast : ∀ c ∈ t.getLast?, isBlank c = false) : trim t = t := by
  have hstart : trimStart t = t := by
    cases t with
    | nil => rfl
    | cons c t => rw [trimStart, List.dropWhile_cons, hhead c rfl, if_neg (by simp)]
  rw [trim, hstart, trimEnd, dropTail_of_getLast? hlast]

/-- A text and the white space around it. -/
theorem trim_eq_iff {t kept : Text} :
    trim t = kept ↔
      (∀ c ∈ kept.head?, isBlank c = false) ∧ (∀ c ∈ kept.getLast?, isBlank c = false) ∧
        ∃ front tail, (∀ c ∈ front, isBlank c) ∧ (∀ c ∈ tail, isBlank c) ∧ t = front ++ kept ++ tail :=
  dropTail_dropWhile_eq_iff

theorem length_trim_le (t : Text) : (trim t).length ≤ t.length :=
  Nat.le_trans (dropTail_isPrefix _ _).length_le (List.dropWhile_sublist _).length_le

/-- Trimming in front ends at what is no white space. -/
theorem trimStart_append_cons {c : Char} (hc : isBlank c = false) (s t : Text) :
    trimStart (s ++ c :: t) = trimStart s ++ c :: t := by
  rw [trimStart, trimStart, List.dropWhile_append]
  split
  · rename_i hs
    rw [List.isEmpty_iff.1 hs, List.dropWhile_cons, hc]
    rfl
  · rfl

/-- White space is trimmed in front only, where something else stands last. -/
theorem trim_concat {c : Char} (hc : isBlank c = false) (t : Text) : trim (t ++ [c]) = trimStart t ++ [c] := by
  rw [trim, trimStart_append_cons hc, trimEnd, dropTail_concat_of_not hc]

theorem trim_cons_of_not {c : Char} (hc : isBlank c = false) (t : Text) : trim (c :: t) = c :: trimEnd t := by
  rw [trim, show trimStart (c :: t) = c :: t from trimStart_append_cons hc [] t]
  exact dropTail_append (l := []) hc t

/-- White space in front of a text is trimmed with that of the text. -/
theorem trim_append_of_trim_eq_nil {s : Text} (hs : trim s = []) (t : Text) : trim (s ++ t) = trim t := by
  induction s with
  | nil => rfl
  | cons c s ih =>
    cases hc : isBlank c with
    | true =>
      rw [trim_cons hc] at hs
      rw [List.cons_append, trim_cons hc, ih hs]
    | false =>
      rw [trim_cons_of_not hc] at hs
      cases hs

/-- What was trimmed begins with something else than white space. -/
theorem isBlank_head_of_trim {t : Text} (ht : trim t = t) : ∀ c ∈ t.head?, isBlank c = false := by
  cases t with
  | nil => simp
  | cons d t =>
    intro c hc
    obtain rfl : d = c := Option.some.inj hc
    by_contra hblank
    rw [Bool.not_eq_false] at hblank
    have hlength := length_trim_le t
    rw [← trim_cons hblank, ht, List.length_cons] at hlength
    omega

/-- A text that keeps its end ends with something else than white space. -/
theorem exists_eq_concat_of_trimEnd {t : Text} (ht : trimEnd t = t) (hne : t ≠ []) :
    ∃ s c, t = s ++ [c] ∧ isBlank c = false := by
  induction t using List.reverseRecOn with
  | nil => exact absurd rfl hne
  | append_singleton s c =>
    refine ⟨s, c, rfl, ?_⟩
    by_contra hblank
    rw [Bool.not_eq_false] at hblank
    rw [trimEnd, dropTail_concat, if_pos hblank] at ht
    have hlength := (dropTail_isPrefix isBlank s).length_le
    rw [ht, List.length_append, List.length_singleton] at hlength
    omega

theorem trim_trim (t : Text) : trim (trim t) = trim t := by
  induction t with
  | nil => rfl
  | cons c t ih =>
    cases hc : isBlank c with
    | true => rw [trim_cons hc, ih]
    | false => rw [trim_cons_of_not hc, trim_cons_of_not hc, trimEnd_trimEnd]

theorem trimEnd_of_trim {t : Text} (ht : trim t = t) : trimEnd t = t := by
  rw [← ht, trim, trimEnd_trimEnd]

/-- Only the front of a text is trimmed there, if it is not all of it. -/
theorem trimStart_append {s : Text} (hs : trim s ≠ []) (t : Text) :
    trimStart (s ++ t) = trimStart s ++ t := by
  have hstart : trimStart s ≠ [] := by
    intro hnil
    rw [trim, hnil] at hs
    exact hs rfl
  rw [trimStart, trimStart, List.dropWhile_append]
  split
  · rename_i h
    exact absurd (List.isEmpty_iff.1 h) hstart
  · rfl

/-- A text that keeps its end when its front is trimmed keeps it. -/
theorem trimEnd_of_trimStart {t : Text} (hne : trimStart t ≠ []) (ht : trim t = trimStart t) :
    trimEnd t = t := by
  obtain ⟨s, c, hs, hc⟩ := exists_eq_concat_of_trimEnd ht hne
  have hsplit : t.takeWhile isBlank ++ trimStart t = t := List.takeWhile_append_dropWhile
  rw [hs, ← List.append_assoc] at hsplit
  rw [← hsplit]
  exact dropTail_concat_of_not hc

/-- How many characters of a text are no white space. -/
def weight (t : Text) : Nat := t.countP fun c => !isBlank c

theorem weight_append (s t : Text) : weight (s ++ t) = weight s + weight t := List.countP_append

theorem weight_trimStart (t : Text) : weight (trimStart t) = weight t := by
  have hblank : weight (t.takeWhile isBlank) = 0 := by
    rw [weight, List.countP_eq_zero]
    intro c hc
    rw [List.mem_takeWhile_imp hc]
    decide
  calc
    weight (trimStart t) = weight (t.takeWhile isBlank) + weight (trimStart t) := by rw [hblank, Nat.zero_add]
    _ = weight (t.takeWhile isBlank ++ trimStart t) := (weight_append _ _).symm
    _ = weight t := congrArg weight List.takeWhile_append_dropWhile

theorem weight_reverse (t : Text) : weight t.reverse = weight t := List.countP_reverse

/-- Trimming takes white space only. -/
theorem weight_trim (t : Text) : weight (trim t) = weight t := by
  rw [trim, trimEnd, dropTail, weight_reverse, ← trimStart, weight_trimStart, weight_reverse, weight_trimStart]

theorem eq_nil_of_weight {t : Text} (ht : trim t = t) (hweight : weight t = 0) : t = [] := by
  cases t with
  | nil => rfl
  | cons c t =>
    have hc := isBlank_head_of_trim ht c rfl
    rw [weight, List.countP_eq_zero] at hweight
    have := hweight c List.mem_cons_self
    rw [hc] at this
    exact absurd rfl this

/-- Words with single spaces between them. -/
theorem words_of_spaced {s t u : Text} (hs : ∀ c ∈ s, isBlank c = false)
    (ht : ∀ c ∈ t, isBlank c = false) (hu : ∀ c ∈ u, isBlank c = false) (hs0 : s ≠ [])
    (ht0 : t ≠ []) (hu0 : u ≠ []) : words (s ++ ' ' :: (t ++ ' ' :: u)) = [s, t, u] := by
  have hsp : isBlank ' ' = true := by decide
  rw [words, List.splitOnP_append_cons_of_forall_mem hs ' ' hsp,
    List.splitOnP_append_cons_of_forall_mem ht ' ' hsp, List.splitOnP_eq_singleton hu]
  simp [hs0, ht0, hu0]

end Text

namespace Utf8

theorem toNat_ofNat {n : Nat} (h : n < 256) : (UInt8.ofNat n).toNat = n := by
  rw [UInt8.toNat_ofNat', Nat.mod_eq_of_lt h]

theorem encode_injective : Function.Injective encode := Function.LeftInverse.injective decode_encode

/-- A character beyond ASCII is written with octets beyond ASCII. -/
theorem mem_of_mem_encodeChar {c : Char} {b : UInt8} (hb : b.toNat < 0x80) (h : b ∈ encodeChar c) :
    Char.ofNat b.toNat = c := by
  have hv : c.toNat < 0xD800 ∨ (0xDFFF < c.toNat ∧ c.toNat < 0x110000) := c.valid
  have beyond : ∀ n, 0x80 ≤ n → n < 256 → b ≠ UInt8.ofNat n := by
    rintro n h1 h2 rfl
    rw [toNat_ofNat h2] at hb
    omega
  simp only [encodeChar] at h
  split at h
  · rename_i hc
    rw [List.mem_singleton.1 h, toNat_ofNat (by omega), Char.ofNat_toNat]
  · exfalso
    split at h
    · simp only [List.mem_cons, List.not_mem_nil, or_false] at h
      rcases h with h | h <;> exact beyond _ (by omega) (by omega) h
    · split at h
      · simp only [List.mem_cons, List.not_mem_nil, or_false] at h
        rcases h with h | h | h <;> exact beyond _ (by omega) (by omega) h
      · simp only [List.mem_cons, List.not_mem_nil, or_false] at h
        rcases h with h | h | h | h <;> exact beyond _ (by omega) (by omega) h

theorem mem_of_mem_encode {t : Text} {b : UInt8} (hb : b.toNat < 0x80) (h : b ∈ encode t) :
    Char.ofNat b.toNat ∈ t := by
  obtain ⟨c, hc, hbc⟩ := List.mem_flatMap.1 h
  exact mem_of_mem_encodeChar hb hbc ▸ hc

theorem encodeChar_ne_nil (c : Char) : encodeChar c ≠ [] := by
  simp only [encodeChar]
  split_ifs <;> simp

theorem encodeChar_of_lt {c : Char} (hc : c.toNat < 0x80) : encodeChar c = [.ofNat c.toNat] := by
  simp [encodeChar, hc]

theorem encode_concat {t : Text} {c : Char} (hc : c.toNat < 0x80) :
    encode (t ++ [c]) = encode t ++ [.ofNat c.toNat] := by
  rw [encode_append, encode_cons, encodeChar_of_lt hc]
  rfl

/-! ### Decoding -/

/-- Whatever octets come next, an unfinished character is none of the first sixteen. -/
def Pending.IsBeyond (p : Pending) : Prop := 0x80 ≤ p.lo ∧ 0x10 ≤ 0x40 * p.code + (p.lo - 0x80)

theorem toNat_ofNat_of_ne_zero {n : Nat} (h : (Char.ofNat n).toNat ≠ 0) : (Char.ofNat n).toNat = n := by
  rw [Char.ofNat] at h ⊢
  by_cases hv : n.isValidChar
  · rw [dif_pos hv]
    rfl
  · rw [dif_neg hv] at h
    exact absurd rfl h

theorem isBeyond_of_mem_start {b : Nat} {p : Pending} (hp : p ∈ (start b).2) : p.IsBeyond := by
  unfold start at hp
  rw [Pending.IsBeyond]
  split_ifs at hp <;>
    simp only [Option.mem_def, Option.some.injEq, reduceCtorEq] at hp <;> subst hp <;> dsimp only <;> omega

section First

variable {c : Char} (h0 : c.toNat ≠ 0) (h16 : c.toNat < 0x10)

include h0 h16

theorem toNat_of_mem_start {b : Nat} (h : c ∈ (start b).1) : c.toNat = b := by
  have hreplacement : c ∉ [replacement] := by
    rw [List.mem_singleton]
    rintro rfl
    exact absurd h16 (by decide)
  unfold start at h
  split_ifs at h with hascii
  · rw [List.mem_singleton] at h
    subst h
    exact toNat_ofNat_of_ne_zero h0
  all_goals first | exact absurd h hreplacement | cases h

/-- An octet keeps what is unfinished beyond them, and completes one of them only as itself. -/
theorem step_beyond {pending : Option Pending} (hp : ∀ p ∈ pending, p.IsBeyond) (b : Nat) :
    (∀ p ∈ (step pending b).2, p.IsBeyond) ∧ (c ∈ (step pending b).1 → c.toNat = b) := by
  cases pending with
  | none => exact ⟨fun _ => isBeyond_of_mem_start, toNat_of_mem_start h0 h16⟩
  | some p =>
    obtain ⟨code, lo, hi, more⟩ := p
    have hbeyond := hp _ rfl
    rw [Pending.IsBeyond] at hbeyond
    dsimp only at hbeyond
    rw [step]
    dsimp only
    split
    · rename_i hb
      cases more with
      | zero =>
        -- the last octet: the number is at least what `lo` would have made of it
        refine ⟨by simp, fun h => ?_⟩
        rw [List.mem_singleton] at h
        rw [h] at h0 h16
        rw [toNat_ofNat_of_ne_zero h0] at h16
        omega
      | succ more =>
        refine ⟨fun p hp => ?_, fun h => absurd h List.not_mem_nil⟩
        rw [Option.mem_some_iff] at hp
        subst hp
        rw [Pending.IsBeyond]
        dsimp only
        omega
    · refine ⟨fun _ => isBeyond_of_mem_start, fun h => ?_⟩
      rcases List.mem_cons.1 h with rfl | h
      · exact absurd h16 (by decide)
      · exact toNat_of_mem_start h0 h16 h

theorem mem_of_mem_decodeFrom {pending : Option Pending} (hp : ∀ p ∈ pending, p.IsBeyond)
    {bytes : Bytes} (h : c ∈ decodeFrom pending bytes) : UInt8.ofNat c.toNat ∈ bytes := by
  induction bytes generalizing pending with
  | nil =>
    rw [decodeFrom] at h
    split at h
    · rw [List.mem_singleton] at h
      subst h
      exact absurd h16 (by decide)
    · cases h
  | cons b bytes ih =>
    obtain ⟨hnext, hread⟩ := step_beyond h0 h16 hp b.toNat
    rw [decodeFrom, List.mem_append] at h
    rcases h with h | h
    · rw [hread h, UInt8.ofNat_toNat]
      exact List.mem_cons_self
    · exact List.mem_cons_of_mem b (ih hnext h)

/-- **Decoding makes no line ends**: each stands where its octet does. -/
theorem mem_of_mem_decode {bytes : Bytes} (h : c ∈ decode bytes) : UInt8.ofNat c.toNat ∈ bytes := by
  have hnone : ∀ p ∈ (none : Option Pending), p.IsBeyond := by simp
  exact mem_of_mem_decodeFrom h0 h16 hnone h

end First

/-- A space completes no character, so what is unfinished before it stays unfinished. -/
theorem decodeFrom_append_space {pending : Option Pending} (hp : ∀ p ∈ pending, p.IsBeyond) (s t : Bytes) :
    decodeFrom pending (s ++ 32 :: t) = decodeFrom pending s ++ ' ' :: decode t := by
  induction s generalizing pending with
  | nil =>
    rw [List.nil_append, decodeFrom, decodeFrom]
    cases pending with
    | none => rfl
    | some p =>
      have hlo : ¬(p.lo ≤ (32 : UInt8).toNat ∧ (32 : UInt8).toNat ≤ p.hi) := by
        intro h
        have hbeyond : 0x80 ≤ p.lo := (hp p rfl).1
        have hspace : (32 : UInt8).toNat = 32 := rfl
        omega
      rw [step, if_neg hlo]
      rfl
  | cons b s ih =>
    have hnext : ∀ p ∈ (step pending b.toNat).2, p.IsBeyond :=
      (step_beyond (c := '\t') (by decide) (by decide) hp b.toNat).1
    rw [List.cons_append, decodeFrom, decodeFrom]
    dsimp only
    rw [ih hnext, List.append_assoc]

/-- **A space parts what is decoded**, whatever octets stand around it. -/
theorem decode_append_space (s t : Bytes) : decode (s ++ 32 :: t) = decode s ++ ' ' :: decode t :=
  decodeFrom_append_space (by simp) s t

end Utf8

end BatchExchange
