import BatchExchange.Proofs.Line
import Mathlib.Data.List.Chain

/-!
# Octets and their lines determine each other

Reading loses nothing, but this alone does not say what the lines are: `\r\n` is one line, and a line that ends with
`\r` and an empty one behind it that ends with `\n` are together the same octets.  Reading takes every terminator
whole, and then nothing is left to choose.

* `Line.MayPrecede`: when a line may stand in front of another.
* `Line.AreRead`: lines as reading gives them.
* `Line.areRead_readAll`: the lines of a body are of this kind.
* `Line.readAll_join`: lines of this kind are the lines of the body that they are together.
* `Line.readAll_eq_iff`: so the lines of a body are the only lines of this kind that are together the body.
-/

namespace BatchExchange

namespace Line

/-- Whether `l` may stand in front of `next`: it has a terminator, and not the `\r` of a `\r\n`. -/
def MayPrecede (l next : Line) : Prop :=
  l.ending ≠ .missing ∧ ¬(l.ending = .cr ∧ next.content = [] ∧ next.ending = .lf)

instance (l next : Line) : Decidable (MayPrecede l next) := inferInstanceAs (Decidable (_ ∧ _))

/-- Lines as reading gives them: counted from one, with no terminator inside a line and no line of no octets, each
in front of one that may follow it. -/
structure AreRead (lines : List Line) : Prop where
  numbers : lines.map number = List.range' 1 lines.length
  contents : ∀ l ∈ lines, 10 ∉ l.content ∧ 13 ∉ l.content
  nonempty : ∀ l ∈ lines, l.ending = .missing → l.content ≠ []
  chain : lines.IsChain MayPrecede

instance (lines : List Line) : Decidable (AreRead lines) :=
  decidable_of_iff
    (lines.map number = List.range' 1 lines.length ∧ (∀ l ∈ lines, 10 ∉ l.content ∧ 13 ∉ l.content) ∧
      (∀ l ∈ lines, l.ending = .missing → l.content ≠ []) ∧ lines.IsChain MayPrecede)
    ⟨fun ⟨h1, h2, h3, h4⟩ => ⟨h1, h2, h3, h4⟩, fun h => ⟨h.numbers, h.contents, h.nonempty, h.chain⟩⟩

/-! ### What is read -/

theorem content_ne_nil_of_mem_split {bytes : Bytes} : ∀ p ∈ split bytes, p.2 = .missing → p.1 ≠ [] := by
  fun_induction split bytes with
  | case1 => simp
  | case2 s ih => exact List.forall_mem_cons.2 ⟨by simp, ih⟩
  | case3 s ih => exact List.forall_mem_cons.2 ⟨by simp, ih⟩
  | case4 s _ ih => exact List.forall_mem_cons.2 ⟨by simp, ih⟩
  | case5 b s => simp
  | case6 b s _ _ _ content ending lines hsplit ih =>
    rw [hsplit, List.forall_mem_cons] at ih
    exact List.forall_mem_cons.2 ⟨fun _ => List.cons_ne_nil b content, ih.2⟩

/-- Only a `\n` in the first place is read as an empty line that ends with `\n`. -/
theorem head?_eq_of_split {bytes : Bytes} :
    ∀ p ∈ (split bytes).head?, p.1 = [] → p.2 = .lf → bytes.head? = some 10 := by
  fun_cases split bytes <;> simp

/-- **No terminator but the last is missing, and none is torn.** -/
theorem isChain_split (bytes : Bytes) :
    (split bytes).IsChain fun p q => p.2 ≠ .missing ∧ ¬(p.2 = .cr ∧ q.1 = [] ∧ q.2 = .lf) := by
  fun_induction split bytes with
  | case1 => exact .nil
  | case2 s ih => exact List.isChain_cons.2 ⟨by simp, ih⟩
  | case3 s ih => exact List.isChain_cons.2 ⟨by simp, ih⟩
  | case4 s hne ih =>
    refine List.isChain_cons.2 ⟨fun q hq => ⟨by simp, ?_⟩, ih⟩
    rintro ⟨-, hcontent, hending⟩
    obtain ⟨rest, hs⟩ := List.head?_eq_some_iff.1 (head?_eq_of_split q hq hcontent hending)
    exact hne rest hs
  | case5 b s => exact .singleton _
  | case6 b s _ _ _ content ending lines hsplit ih =>
    rw [hsplit] at ih
    -- what may follow a line depends on how the line ends, which a longer content does not change
    rw [List.isChain_cons] at ih ⊢
    exact ih

/-- **The lines of a body are lines as reading gives them.** -/
theorem areRead_readAll (bytes : Bytes) : AreRead (readAll bytes) where
  numbers := map_number_numberFrom 1 _
  contents l hl := not_mem_of_mem_split l.raw (raw_mem_split hl)
  nonempty l hl := content_ne_nil_of_mem_split l.raw (raw_mem_split hl)
  chain := by
    have hchain := isChain_split bytes
    rw [← map_raw_readAll, List.isChain_map] at hchain
    exact hchain

/-! ### What is read back -/

/-- Octets of a line that begin with `\n` are those of an empty line that ends with it. -/
theorem eq_lf_of_head? {l : Line} (hcontent : 10 ∉ l.content) (hne : l.ending = .missing → l.content ≠ [])
    {rest : Bytes} (h : (l.octets ++ rest).head? = some 10) : l.content = [] ∧ l.ending = .lf := by
  obtain ⟨content, ending, number⟩ := l
  cases content with
  | nil =>
    refine ⟨rfl, ?_⟩
    cases ending with
    | lf => rfl
    | crlf => exact absurd (Option.some.inj h) (by decide)
    | cr => exact absurd (Option.some.inj h) (by decide)
    | missing => exact absurd rfl (hne rfl)
  | cons b content =>
    obtain rfl : b = 10 := Option.some.inj h
    exact absurd List.mem_cons_self hcontent

/-- **Lines that may stand behind each other are split apart again.** -/
theorem split_join {lines : List Line} (hcontents : ∀ l ∈ lines, 10 ∉ l.content ∧ 13 ∉ l.content)
    (hne : ∀ l ∈ lines, l.ending = .missing → l.content ≠ []) (hchain : lines.IsChain MayPrecede) :
    split (join lines) = lines.map raw := by
  induction lines with
  | nil => rfl
  | cons l lines ih =>
    rw [List.forall_mem_cons] at hcontents hne
    rw [List.isChain_cons] at hchain
    obtain ⟨⟨h10, h13⟩, hcontents⟩ := hcontents
    obtain ⟨hnext, hchain⟩ := hchain
    rw [List.map_cons, join_cons, octets, List.append_assoc]
    by_cases hended : l.ending = .missing
    -- behind such a line there is no other
    · have hlast : lines = [] := by
        cases lines with
        | nil => rfl
        | cons next lines => exact absurd hended (hnext next rfl).1
      subst hlast
      rw [hended, Ending.octets_missing, join_nil, List.append_nil, List.append_nil,
        split_unended h10 h13 (hne.1 hended), raw, hended, List.map_nil]
    · have hwhole : l.ending = .cr → (join lines).head? ≠ some 10 := by
        intro hcr hlf
        cases lines with
        | nil => cases hlf
        | cons next lines =>
          rw [List.forall_mem_cons] at hcontents hne
          exact (hnext next rfl).2 ⟨hcr, eq_lf_of_head? hcontents.1.1 hne.2.1 hlf⟩
      rw [split_ended h10 h13 l.ending hended hwhole, ih hcontents hne.2 hchain, raw]

theorem readAll_join {lines : List Line} (h : AreRead lines) : readAll (join lines) = lines := by
  rw [readAll, split_join h.contents h.nonempty h.chain, numberFrom_map_raw h.numbers]

/-- **Reading is a bijection**, from all bodies onto all lines of this kind, and joining the lines is its inverse. -/
theorem readAll_eq_iff {bytes : Bytes} {lines : List Line} :
    readAll bytes = lines ↔ AreRead lines ∧ join lines = bytes := by
  constructor
  · intro h
    rw [← h]
    exact ⟨areRead_readAll bytes, join_readAll bytes⟩
  · intro ⟨hlines, hjoin⟩
    rw [← hjoin]
    exact readAll_join hlines

/-- `\r`, `\r\n`, `\n` and a content without terminator behind each other. -/
example : readAll [13, 13, 10, 10, 97] =
    [⟨[], .cr, 1⟩, ⟨[], .crlf, 2⟩, ⟨[], .lf, 3⟩, ⟨[97], .missing, 4⟩] := by
  decide

/-- A torn `\r\n`. -/
example : ¬AreRead [⟨[], .cr, 1⟩, ⟨[], .lf, 2⟩] := by decide

end Line

end BatchExchange
