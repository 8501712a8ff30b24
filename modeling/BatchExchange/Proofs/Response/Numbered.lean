import BatchExchange.Proofs.Exchange
import BatchExchange.Proofs.Response.RoundTrip

/-!
# Batches under numbered boundaries

A source that counts draws valid boundaries, as long as its numbers are those of a machine.  The boundary of a
batch and those of its change sets have different stems, so none of them is a delimiter of the batch by
mistake, and only the bodies are left to look at.

* `Boundary.isValid_numbered`: stems with a number behind them.
* `Response.drawn`: the boundaries that are drawn for the change sets of a batch.
* `Response.Sendable`: a response that can be sent between some boundaries.
* `Response.partsFit_numbered`: parts that can be told from the delimiters around them.
* `Response.exists_readBatch_numbered`: they are read back.
-/

namespace BatchExchange

/-! ### Boundaries -/

namespace Boundary

theorem isTokenChar_of_isDigit {c : Char} (h : c.isDigit) : isTokenChar c := by
  rw [isTokenChar, Char.isAlphanum, h, Bool.or_true, Bool.true_or]

/-- Numerals are made of token characters that are no spaces. -/
theorem isTokenChar_of_mem_write {n : Nat} {c : Char} (hc : c ∈ Decimal.write n) :
    isTokenChar c ∧ c ≠ ' ' := by
  have hdigit : c.isDigit := Decimal.isDigit_of_mem_write hc
  refine ⟨isTokenChar_of_isDigit hdigit, ?_⟩
  rintro rfl
  exact absurd hdigit (by decide)

/-- **A short stem with a number behind it** is a boundary. -/
theorem isValid_numbered {stem : Text} (hstem : stem.all isTokenChar) (hlength : stem.length ≤ 50)
    {n : Nat} (hn : n < UInt64.size) : isValid (stem ++ Decimal.write n) := by
  have hwritten : (Decimal.write n).length ≤ 20 := by
    apply Decimal.length_write_le
    exact Nat.lt_of_lt_of_le hn (by decide)
  refine isValid_append hstem (fun c hc => isTokenChar_of_mem_write hc) (Decimal.write_ne_nil n) ?_
  omega

end Boundary

namespace Response

open Line (IsOneLine)
open Segment (Avoids)

section Source

variable {σ : Type} (source : BoundarySource σ) (stem : Text)

/-- The boundaries that are drawn for the change sets among some parts, when the parts are written. -/
def drawn : List (Part Response) → σ → List Text
  | [], _ => []
  | .single _ :: parts, s => drawn parts s
  | .changeSet _ :: parts, s => (source.draw stem s).1 :: drawn parts (source.draw stem s).2

end Source

/-- The stem of boundaries of batches, if none is configured. -/
def batchStem : Text := "batch_".toList

/-- The boundaries of batches and those of change sets begin differently. -/
theorem not_isPrefix_of_stems (s t : Text) :
    ¬Utf8.encode ("--".toList ++ (batchStem ++ s)) <+: Utf8.encode ("--".toList ++ (changeSetStem ++ t)) := by
  intro h
  have hbatch : Utf8.encode ("--".toList ++ (batchStem ++ s))
      = 45 :: 45 :: 98 :: Utf8.encode ("atch_".toList ++ s) := rfl
  have hset : Utf8.encode ("--".toList ++ (changeSetStem ++ t))
      = 45 :: 45 :: 99 :: Utf8.encode ("hangeset_".toList ++ t) := rfl
  rw [hbatch, hset, List.cons_prefix_cons, List.cons_prefix_cons, List.cons_prefix_cons] at h
  exact absurd h.2.2.1 (by decide)

/-! ### Responses -/

theorem Fits.of_subset {boundaries inner : List Text} {r : Response} (h : r.Fits boundaries)
    (hsub : inner ⊆ boundaries) : r.Fits inner :=
  ⟨h.headers, fun b hb => h.body b (hsub hb), h.length⟩

/-- A response that can be sent between boundaries: its headers can be written on a line each, its body has
no line that is a delimiter, and the length of its body can be stated. -/
structure Sendable (boundaries : List Text) (r : Response) : Prop where
  headers : ∀ f ∈ r.headers.fields, HeaderBlock.IsWritable f.name f.value
  body : ∀ b ∈ boundaries, Avoids b r.body
  length : r.body.length < ContentLength.bound

instance (boundaries : List Text) (r : Response) : Decidable (r.Sendable boundaries) :=
  decidable_of_iff
    ((∀ f ∈ r.headers.fields, HeaderBlock.IsWritable f.name f.value) ∧
      (∀ b ∈ boundaries, Avoids b r.body) ∧ r.body.length < ContentLength.bound)
    ⟨fun ⟨h1, h2, h3⟩ => ⟨h1, h2, h3⟩, fun ⟨h1, h2, h3⟩ => ⟨h1, h2, h3⟩⟩

/-- It still can when it is marked with a Content-ID. -/
theorem Sendable.fits_tag {boundaries : List Text} {r : Response} (h : r.Sendable boundaries)
    {id : Option Text} (hid : ∀ t, id = some t → IsOneLine t ∧ Text.trim t = t) :
    (r.tag id).Fits boundaries := by
  refine ⟨?_, ?_, ?_⟩
  · intro f hf
    cases id with
    | none => exact h.headers f hf
    | some t =>
      rcases Headers.mem_fields_set hf with hf | ⟨hname, hvalue⟩
      · exact h.headers f hf
      · obtain ⟨hone, htrim⟩ := hid t rfl
        rw [hname, hvalue]
        exact ⟨by decide, by decide, hone, htrim⟩
  · intro b hb
    rw [body_tag]
    exact (h.body b hb).crlf
  · rw [body_tag]
    exact h.length

/-! ### Batches -/

/-- The delimiters of a change set are none of a batch. -/
theorem avoids_numbered {s : Text} {n : Nat} (hn : n < UInt64.size) :
    Avoids (batchStem ++ s) (writeDelimiter (changeSetStem ++ Decimal.write n)) ∧
      Avoids (batchStem ++ s) (writeClose (changeSetStem ++ Decimal.write n)) := by
  have hvalid : Boundary.isValid (changeSetStem ++ Decimal.write n) :=
    Boundary.isValid_numbered (by decide) (by decide) hn
  have hone := Boundary.isOneLine hvalid
  refine ⟨?_, ?_⟩
  · exact Segment.avoids_writeLine_of_not_isPrefix (IsOneLine.append (by decide) hone)
      (not_isPrefix_of_stems s _)
  · refine Segment.avoids_writeLine_of_not_isPrefix
      ((IsOneLine.append (by decide) hone).append (by decide)) ?_
    rw [List.append_assoc, List.append_assoc]
    exact not_isPrefix_of_stems s _

/-- **Parts whose responses fit can be told from the delimiters around them.**  The induction is on the parts,
with the number of boundaries drawn so far. -/
theorem partsFit_numbered {s : Text} {parts : List (Part Response)} {n : Nat}
    (hn : n + (drawn .sequential changeSetStem parts n).length < UInt64.size)
    (h : ∀ part ∈ parts, ∀ r ∈ part.items,
      r.Fits ((batchStem ++ s) :: drawn .sequential changeSetStem parts n)) :
    PartsFit .sequential changeSetStem (batchStem ++ s) parts n := by
  induction parts generalizing n with
  | nil => trivial
  | cons part parts ih =>
    rw [List.forall_mem_cons] at h
    cases part with
    | single r =>
      have hfits : r.Fits [batchStem ++ s] := by
        refine (h.1 r (List.mem_singleton_self r)).of_subset ?_
        simp
      have hrest : PartsFit .sequential changeSetStem (batchStem ++ s) parts n := by
        apply ih
        · exact hn
        · exact h.2
      exact ⟨hfits, hrest⟩
    | changeSet rs =>
      rw [drawn, List.length_cons] at hn
      have hcount : n + 1 + (drawn .sequential changeSetStem parts (n + 1)).length < UInt64.size := by
        rwa [Nat.add_assoc, Nat.add_comm 1]
      have hnext : n + 1 < UInt64.size := Nat.lt_of_le_of_lt (Nat.le_add_right _ _) hcount
      have hvalid : Boundary.isValid (changeSetStem ++ Decimal.write (n + 1)) :=
        Boundary.isValid_numbered (by decide) (by decide) hnext
      have hhead : (changeSetStem ++ Decimal.write (n + 1)).head? ≠ some ' ' := by
        show some 'c' ≠ some ' '
        decide
      obtain ⟨hdelimiter, hclose⟩ := avoids_numbered (s := s) hnext
      have hmembers : ∀ r ∈ rs, r.Fits [batchStem ++ s, changeSetStem ++ Decimal.write (n + 1)] := by
        intro r hr
        -- the next number is the one that this change set draws
        refine (h.1 r hr).of_subset ?_
        simp [drawn, BoundarySource.sequential]
      have hrest : PartsFit .sequential changeSetStem (batchStem ++ s) parts (n + 1) := by
        apply ih hcount
        intro part hpart r hr
        refine (h.2 part hpart r hr).of_subset ?_
        rw [drawn]
        exact List.cons_subset_cons _ (List.subset_cons_self _ _)
      exact ⟨⟨hvalid, hhead, hdelimiter, hclose, hmembers⟩, hrest⟩

/-- **A batch under numbered boundaries is read back**, if its responses fit between them. -/
theorem exists_readBatch_numbered {parts : List (Part Response)} {n : Nat}
    (hn : n + 1 + (drawn .sequential changeSetStem parts (n + 1)).length < UInt64.size)
    (h : ∀ part ∈ parts, ∀ r ∈ part.items,
      r.Fits ((batchStem ++ Decimal.write (n + 1)) :: drawn .sequential changeSetStem parts (n + 1))) :
    ∃ parts', readBatch (batchStem ++ Decimal.write (n + 1))
        (writeBatch .sequential changeSetStem (batchStem ++ Decimal.write (n + 1)) parts (n + 1)).1
        = .ok parts' ∧
      List.Forall₂ (Part.Rel ReadAs) parts parts' := by
  have hvalid : Boundary.isValid (batchStem ++ Decimal.write (n + 1)) :=
    Boundary.isValid_numbered (by decide) (by decide) (Nat.lt_of_le_of_lt (Nat.le_add_right _ _) hn)
  exact exists_readBatch hvalid (partsFit_numbered hn h)

end Response

end BatchExchange
