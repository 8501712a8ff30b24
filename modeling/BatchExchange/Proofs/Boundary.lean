import BatchExchange.Boundary
import BatchExchange.MediaType
import BatchExchange.Proofs.Line

/-!
# What boundary tokens are made of

The characters of a token are ASCII, stay on one line, and are neither a quote nor a semicolon nor any white
space but the space.  So a delimiter line ends with an octet that is no padding, and a content type that
announces a token names just this token (`MediaType.boundary?_contentType`), unless the token begins with a
space.
-/

namespace BatchExchange

namespace Boundary

theorem toNat_lt_of_isTokenChar {c : Char} (h : isTokenChar c) : c.toNat < 128 := by
  simp only [isTokenChar, Bool.or_eq_true, decide_eq_true_eq] at h
  rcases h with h | h
  · exact Text.toNat_lt_of_isAlphanum h
  · have listed : ∀ d ∈ "'()+_,-./:=? ".toList, d.toNat < 128 :=
      forall_mem_of_all (by decide)
    exact listed c h

theorem eq_space_of_isBlank {c : Char} (h : isTokenChar c) (hb : Text.isBlank c) : c = ' ' := by
  have ascii : ∀ n < 128, isTokenChar (Char.ofNat n) → Text.isBlank (Char.ofNat n) →
      Char.ofNat n = ' ' := by decide
  exact Text.ascii_cases (p := fun c => isTokenChar c → Text.isBlank c → c = ' ') ascii
    (toNat_lt_of_isTokenChar h) h hb

/-- A tail of token characters without spaces makes a token of what is not too long. -/
theorem isValid_append {stem tail : Text} (hstem : stem.all isTokenChar)
    (htail : ∀ c ∈ tail, isTokenChar c ∧ c ≠ ' ') (hne : tail ≠ [])
    (hlength : stem.length + tail.length ≤ 70) : isValid (stem ++ tail) := by
  have hchars : tail.all isTokenChar := List.all_eq_true.2 fun c hc => (htail c hc).1
  have hlast : (stem ++ tail).getLast?.any (· ≠ ' ') := by
    cases tail using List.reverseRecOn with
    | nil => exact absurd rfl hne
    | append_singleton front c =>
      have hspace : c ≠ ' ' := (htail c (by simp)).2
      rw [← List.append_assoc, List.getLast?_concat]
      simpa using hspace
  rw [isValid, hlast, Bool.and_true, Bool.and_eq_true, decide_eq_true_eq, List.length_append,
    List.all_append, hstem, hchars]
  exact ⟨hlength, rfl⟩

section Valid

variable {b : Text} (hb : isValid b)

include hb

theorem isTokenChar_of_mem {c : Char} (hc : c ∈ b) : isTokenChar c := by
  simp only [isValid, Bool.and_eq_true, List.all_eq_true] at hb
  exact hb.1.2 c hc

theorem not_mem_of_not_isTokenChar {c : Char} (hc : isTokenChar c = false) : c ∉ b := by
  intro hm
  rw [isTokenChar_of_mem hb hm] at hc
  cases hc

/-- A token ends with a character that is no space. -/
theorem exists_eq_concat : ∃ t c, b = t ++ [c] ∧ isTokenChar c ∧ c ≠ ' ' := by
  have hlast : b.getLast?.any (· ≠ ' ') := by
    simp only [isValid, Bool.and_eq_true] at hb
    exact hb.2
  cases b using List.reverseRecOn with
  | nil => simp at hlast
  | append_singleton t c =>
    refine ⟨t, c, rfl, isTokenChar_of_mem hb (by simp), ?_⟩
    simpa using hlast

/-- A token ends with a character that is no white space. -/
theorem exists_eq_concat_visible : ∃ t c, b = t ++ [c] ∧ Text.isBlank c = false := by
  obtain ⟨t, c, ht, hc, hne⟩ := exists_eq_concat hb
  refine ⟨t, c, ht, ?_⟩
  rw [← Bool.not_eq_true]
  exact fun hblank => hne (eq_space_of_isBlank hc hblank)

theorem isOneLine : Line.IsOneLine b :=
  ⟨not_mem_of_not_isTokenChar hb (by decide), not_mem_of_not_isTokenChar hb (by decide)⟩

theorem trim_eq_self (hs : b.head? ≠ some ' ') : Text.trim b = b := by
  apply Text.trim_of_ends
  · intro c hc
    by_contra hblank
    have hm : c ∈ b := List.mem_of_mem_head? hc
    have : c = ' ' := eq_space_of_isBlank (isTokenChar_of_mem hb hm) (by simpa using hblank)
    exact hs (this ▸ hc)
  · intro c hc
    obtain ⟨t, d, rfl, hd⟩ := exists_eq_concat_visible hb
    rw [List.getLast?_concat, Option.mem_some_iff] at hc
    rwa [← hc]

theorem trim_ne_nil : Text.trim b ≠ [] := by
  obtain ⟨t, d, rfl, hd⟩ := exists_eq_concat_visible hb
  rw [Text.trim_concat hd]
  exact List.concat_ne_nil d _

/-- Trimming changes the tokens that begin with a space. -/
theorem trim_eq_self_iff : Text.trim b = b ↔ b.head? ≠ some ' ' := by
  refine ⟨?_, trim_eq_self hb⟩
  intro htrim hhead
  obtain ⟨t, rfl⟩ := List.head?_eq_some_iff.1 hhead
  rw [Text.trim_cons (by decide)] at htrim
  have hlength := Text.length_trim_le t
  rw [htrim] at hlength
  exact absurd hlength (by simp)

theorem isOneLine_contentType : Line.IsOneLine (contentType b) :=
  Line.IsOneLine.append (s := "multipart/mixed; boundary=".toList) (by decide) (isOneLine hb)

theorem trim_contentType : Text.trim (contentType b) = contentType b := by
  obtain ⟨t, d, ht, hd⟩ := exists_eq_concat_visible hb
  have append : ∀ s : Text, s ++ (t ++ [d]) = (s ++ t) ++ [d] :=
    fun s => (List.append_assoc s t [d]).symm
  have hlast : contentType b = ("multipart/mixed; boundary=".toList ++ t) ++ [d] := by
    rw [ht]
    exact append _
  have hhead : ∀ c ∈ (contentType b).head?, Text.isBlank c = false := by
    intro c hc
    obtain rfl : 'm' = c := Option.some.inj hc
    decide
  refine Text.trim_of_ends hhead ?_
  rw [hlast, List.getLast?_concat]
  intro c hc
  rwa [← Option.mem_some_iff.1 hc]

end Valid

end Boundary

namespace MediaType

theorem essence_contentType (b : Text) :
    essence (Boundary.contentType b) = "multipart/mixed".toList := by
  have hsplit : Boundary.contentType b = "multipart/mixed".toList ++ ';' :: (" boundary=".toList ++ b) :=
    rfl
  have htake : (Boundary.contentType b).takeWhile (· ≠ ';') = "multipart/mixed".toList := by
    rw [hsplit, List.takeWhile_append_of_pos (forall_mem_of_all (by decide))]
    simp
  rw [essence, htake]
  decide

theorem isMultipart_contentType (b : Text) : isMultipart (Boundary.contentType b) := by
  rw [isMultipart, essence_contentType]
  decide

theorem unquote_of_not_mem {value : Text} (h : '"' ∉ value) : unquote value = value := by
  have hnone : after? ['"'] value = none := by
    cases ha : after? ['"'] value with
    | none => rfl
    | some rest =>
      rw [after?_eq_some_iff] at ha
      exact absurd (by rw [ha]; simp) h
  rw [unquote, hnone]
  rfl

/-- A token is announced without the spaces that it begins with. -/
theorem boundary?_contentType_eq_trim {b : Text} (hb : Boundary.isValid b) :
    boundary? (Boundary.contentType b) = some (Text.trim b) := by
  have hparts : (Boundary.contentType b).splitOn ';'
      = ["multipart/mixed".toList, " boundary=".toList ++ b] := by
    have hsplit : Boundary.contentType b
        = "multipart/mixed".toList ++ ';' :: (" boundary=".toList ++ b) := rfl
    have hrest : ∀ c ∈ " boundary=".toList ++ b, (c == ';') = false := by
      intro c hc
      rcases List.mem_append.1 hc with hc | hc
      · have listed : ∀ c ∈ " boundary=".toList, (c == ';') = false :=
          forall_mem_of_all (by decide)
        exact listed c hc
      · have hsemi : ';' ∉ b := Boundary.not_mem_of_not_isTokenChar hb (by decide)
        simp only [beq_eq_false_iff_ne]
        rintro rfl
        exact hsemi hc
    have hfirst : ∀ c ∈ "multipart/mixed".toList, (c == ';') = false :=
      forall_mem_of_all (by decide)
    rw [List.splitOn, hsplit, List.splitOnP_append_cons_of_forall_mem hfirst ';' (by decide),
      List.splitOnP_eq_singleton hrest]
  have hcut : cut? '=' (" boundary=".toList ++ b) = some (" boundary".toList, b) :=
    cut?_eq_some_iff.2 ⟨rfl, by decide⟩
  have hname : Text.same (Text.trim " boundary".toList) "boundary".toList := by decide
  have hquote : '"' ∉ Text.trim b := fun hm =>
    Boundary.not_mem_of_not_isTokenChar hb (c := '"') (by decide) (Text.trim_subset b hm)
  rw [boundary?, if_pos (isMultipart_contentType b), hparts]
  simp only [List.tail_cons, List.findSome?_cons, boundaryOfParameter?, hcut, hname, if_true,
    unquote_of_not_mem hquote]
  simp [Option.filter, Boundary.trim_ne_nil hb]

/-- **The announced token is read back**, unless it begins with a space. -/
theorem boundary?_contentType {b : Text} (hb : Boundary.isValid b) (hs : b.head? ≠ some ' ') :
    boundary? (Boundary.contentType b) = some b := by
  rw [boundary?_contentType_eq_trim hb, Boundary.trim_eq_self hb hs]

end MediaType

end BatchExchange
