import BatchExchange.Proofs.Request.Expansion

/-!
# The body without its references

A body that is text is split into pieces, and what stands for the pieces is put together in their order.  Nothing
that is put in is looked at again.

* `Request.body_expandBody`: the body piece by piece.
* `Request.body_expand`: the new body is made of what stands for the pieces; a body that is no text is kept.
-/

namespace BatchExchange.Request

open Reference
open Reference.Piece (Stands)

/-- Without a known reference each piece stands for itself, so the rule for bodies with one covers all. -/
theorem body_expandBody (table : ReferenceTable) {r : Request} {t : Text} (ht : r.body = Utf8.encode t) :
    (r.expandBody table).body = Utf8.encode ((pieces t).flatMap (Piece.expand table)) := by
  by_cases hknown : ∃ p ∈ pieces t, ∃ text, p.ResolvesTo table text
  · rw [expandBody_of_some (expandedBody?_eq_some_iff.2 ⟨t, pieces t, ht, isSplit_pieces t, hknown, rfl⟩)]
    rfl
  · have hkept : (pieces t).flatMap (Piece.expand table) = (pieces t).flatMap Piece.text := by
      refine List.flatMap_congr fun p hp => ?_
      symm
      exact Piece.stands_iff.1 (.kept fun text htext => hknown ⟨p, hp, text, htext⟩)
    have hnone : ¬r.BodyRefers table := by
      rintro ⟨t', ps, ht', hsplit, hrefers⟩
      obtain rfl : t' = t := Utf8.encode_injective (ht'.symm.trans ht)
      rw [isSplit_iff.1 hsplit] at hrefers
      exact hknown hrefers
    rw [expandBody_of_not_refers hnone, hkept, (isSplit_pieces t).flatMap_text, ht]

/-- **The new body is made of what stands for the pieces of the old one**, in their order.  A body that is no text
stays as it is. -/
theorem body_expand (table : ReferenceTable) (r : Request) :
    (∀ t, r.body = Utf8.encode t →
      (∃ ps texts, IsSplit t ps ∧ List.Forall₂ (Stands table) ps texts) ∧
      ∀ ps texts, IsSplit t ps → List.Forall₂ (Stands table) ps texts →
        (r.expand table).body = Utf8.encode texts.flatten) ∧
    ((∀ t, r.body ≠ Utf8.encode t) → (r.expand table).body = r.body) := by
  rw [expand_eq]
  constructor
  · intro t ht
    refine ⟨⟨pieces t, _, isSplit_pieces t, Piece.forall₂_stands_iff.2 rfl⟩, fun ps texts hsplit hstands => ?_⟩
    rw [body_expandBody table ht, Piece.forall₂_stands_iff.1 hstands, isSplit_iff.1 hsplit, List.flatMap_def]
  · intro hbinary
    have hnone : ¬r.BodyRefers table := by
      rintro ⟨t, ps, ht, -⟩
      exact hbinary t ht
    rw [expandBody_of_not_refers hnone]

/-- Tokens side by side, with locations that look like references, and periods that end a sentence or stand
alone. -/
theorem body_expand_adjacent :
    let table := (({} : ReferenceTable).record ['1'] "$12".toList).record "12".toList "/B".toList
    let t := "$$1$12..$123 $.".toList
    let r : Request := { Request.of .post [] "/A".toList with body := Utf8.encode t }
    let ps : List Piece := [.plain '$', .token ['1'], .token "12..".toList, .token "123".toList, .plain ' ',
      .token ['.']]
    let texts := ["$", "$12", "/B..", "$123", " ", "$."].map String.toList
    IsSplit t ps ∧ List.Forall₂ (Stands table) ps texts ∧
      (r.expand table).body = Utf8.encode "$$12/B..$123 $.".toList := by
  intro table t r ps texts
  have hsplit : IsSplit t ps := isSplit_iff.2 (by decide +kernel)
  have hstands : List.Forall₂ (Stands table) ps texts := Piece.forall₂_stands_iff.2 (by decide +kernel)
  exact ⟨hsplit, hstands, ((body_expand table r).1 t rfl).2 ps texts hsplit hstands⟩

end BatchExchange.Request
