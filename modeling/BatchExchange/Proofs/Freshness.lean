import BatchExchange.Proofs.Service
import Mathlib.Data.List.Nodup

/-!
# Boundaries of a run

A service that writes batch after batch draws all boundaries from one source, with one stem for batches and one
for change sets.  A source that counts has a number of its own for each.  That keeps them apart, unless one stem
is the other with a number behind it: then some number goes on from the shorter stem as another one does from
the longer, and there is a run that writes one boundary twice.  The counter has 64 bits: the runs are those that draw
less than `2 ^ 64` boundaries, and the numbers those that such runs come to.

* `Decimal.eq_or_exists_of_append_write_eq`: when two numbered stems are one text.
* `Config.StemsApart`: stems that numbers do not bring together.
* `Service.writeAll`, `Service.drawnAll`: a run, and the boundaries that it draws.
* `Service.writeAll_dictated`: these are the boundaries that are written.
* `Service.drawnAll_numbering`: how they are numbered.
* `Service.boundaries_distinct_iff`: when none of them is drawn twice.
-/

namespace BatchExchange

/-! ### Numerals -/

namespace Decimal

theorem write_injective {m n : Nat} (h : write m = write n) : m = n := by
  have hread : readDigits 0 (write m) = readDigits 0 (write n) := congrArg _ h
  rwa [readDigits_write, readDigits_write, Option.some.injEq] at hread

/-- A digit behind a number above zero. -/
theorem write_append_digit {k d : Nat} (hk : 0 < k) (hd : d < 10) :
    write k ++ write d = write (10 * k + d) := by
  have hlast : digit (10 * k + d) = digit d := by
    rw [digit, digit, Nat.mul_add_mod]
  have hfront : (10 * k + d) / 10 = k := by omega
  have hlarge : ¬10 * k + d < 10 := by omega
  rw [write.eq_def (10 * k + d), if_neg hlarge, hfront, hlast, write.eq_def d, if_pos hd]

/-- Where a numeral begins, there is a numeral: it is the whole or one of its fronts, with less digits. -/
theorem exists_write_of_isPrefix {n : Nat} (hn : 0 < n) {t : Text} (ht : t ≠ []) (h : t <+: write n) :
    ∃ k, 0 < k ∧ t = write k ∧ (k = n ∨ 10 * k ≤ n) := by
  induction n using Nat.strongRecOn with
  | ind n ih =>
    by_cases hsmall : n < 10
    · have hwrite : write n = [] ++ [digit n] := by rw [write, if_pos hsmall]; rfl
      rw [hwrite, List.prefix_concat_iff, List.prefix_nil] at h
      exact ⟨n, hn, (h.resolve_right ht).trans hwrite.symm, .inl rfl⟩
    · have hwrite : write n = write (n / 10) ++ [digit n] := by rw [write, if_neg hsmall]
      rw [hwrite, List.prefix_concat_iff] at h
      rcases h with h | h
      · exact ⟨n, hn, h.trans hwrite.symm, .inl rfl⟩
      · have hpos : 0 < n / 10 := by omega
        obtain ⟨k, hk, rfl, hle⟩ := ih (n / 10) (by omega) hpos h
        exact ⟨k, hk, rfl, .inr (by omega)⟩

/-- What stands in front of a numeral in a numeral is empty or a numeral with less digits. -/
theorem eq_or_exists_of_write_eq {t : Text} {m n : Nat} (hm : 0 < m) (h : write m = t ++ write n) :
    m = n ∨ ∃ k, 0 < k ∧ 10 * k ≤ m ∧ t = write k := by
  by_cases ht : t = []
  · subst ht
    exact .inl (write_injective h)
  · obtain ⟨k, hk, rfl, rfl | hle⟩ := exists_write_of_isPrefix hm ht ⟨write n, h.symm⟩
    · exact absurd (List.self_eq_append_right.1 h) (write_ne_nil n)
    · exact .inr ⟨k, hk, hle, rfl⟩

/-- **Two numbered stems are one text** only if they have one number, or if one stem is the other with a number
behind it that has less digits than theirs. -/
theorem eq_or_exists_of_append_write_eq {s t : Text} {m n : Nat} (hm : 0 < m) (hn : 0 < n)
    (h : s ++ write m = t ++ write n) :
    m = n ∨ ∃ k, 0 < k ∧ 10 * k ≤ max m n ∧ (s = t ++ write k ∨ t = s ++ write k) := by
  rcases List.append_eq_append_iff.1 h with ⟨u, rfl, hu⟩ | ⟨u, rfl, hu⟩
  · refine (eq_or_exists_of_write_eq hm hu).imp_right ?_
    rintro ⟨k, hk, hle, rfl⟩
    exact ⟨k, hk, hle.trans (Nat.le_max_left m n), .inr rfl⟩
  · rcases eq_or_exists_of_write_eq hn hu with heq | ⟨k, hk, hle, rfl⟩
    · exact .inl heq.symm
    · exact .inr ⟨k, hk, hle.trans (Nat.le_max_right m n), .inl rfl⟩

end Decimal

/-! ### Stems -/

namespace Config

/-- Neither stem is the other one with a number behind it.  Boundaries are counted in 64 bits, and a number
matters here only if one with a digit more can be counted. -/
def StemsApart (config : Config) : Prop :=
  ∀ k, 0 < k → 10 * k < UInt64.size →
    config.responseStem ≠ config.changeSetStem ++ Decimal.write k ∧
      config.changeSetStem ≠ config.responseStem ++ Decimal.write k

/-- Stems that begin differently are apart. -/
theorem stemsApart_of_head? {config : Config} (hresponse : config.responseStem ≠ [])
    (hchangeSet : config.changeSetStem ≠ [])
    (h : config.responseStem.head? ≠ config.changeSetStem.head?) : config.StemsApart := by
  intro k _ _
  constructor
  · intro hstem
    rw [hstem, List.head?_append_of_ne_nil _ hchangeSet] at h
    exact h rfl
  · intro hstem
    rw [hstem, List.head?_append_of_ne_nil _ hresponse] at h
    exact h rfl

/-- Stems that nobody configured are apart. -/
theorem stemsApart_default : StemsApart {} :=
  stemsApart_of_head? (by decide) (by decide) (by decide)

/-- A stem that is configured, for batches or for change sets. -/
def HasStem (config : Config) (stem : Text) : Prop :=
  stem = config.responseStem ∨ stem = config.changeSetStem

theorem HasStem.ne_append_write {config : Config} {s t : Text} (hs : config.HasStem s)
    (ht : config.HasStem t) (hconfig : config.StemsApart) {k : Nat} (hk : 0 < k)
    (hsize : 10 * k < UInt64.size) : s ≠ t ++ Decimal.write k := by
  have hself : ∀ u : Text, u ≠ u ++ Decimal.write k := fun u h =>
    Decimal.write_ne_nil k (List.self_eq_append_right.1 h)
  rcases hs with rfl | rfl
  · rcases ht with rfl | rfl
    · exact hself _
    · exact (hconfig k hk hsize).1
  · rcases ht with rfl | rfl
    · exact (hconfig k hk hsize).2
    · exact hself _

end Config

/-! ### What a run writes -/

/-- Gives out texts one after the other, whatever the stem is. -/
def BoundarySource.dictated : BoundarySource (List Text) where
  draw stem texts := (texts.headD stem, texts.tail)

theorem BoundarySource.draw_dictated (stem t : Text) (texts : List Text) :
    dictated.draw stem (t :: texts) = (t, texts) :=
  rfl

/-- Parts are written with the boundaries that are drawn, in this order. -/
theorem Response.writeParts_dictated {β : Type} (source : BoundarySource β) (stem boundary : Text)
    (parts : List (Part Response)) (b : β) (more : List Text) :
    writeParts .dictated stem boundary parts (drawn source stem parts b ++ more)
      = ((writeParts source stem boundary parts b).1, more) := by
  induction parts generalizing b with
  | nil => rfl
  | cons part parts ih =>
    cases part with
    | single r =>
      rw [drawn, writeParts, writeParts]
      dsimp only [writePart]
      rw [ih]
    | changeSet rs =>
      rw [drawn, List.cons_append, writeParts, writeParts]
      dsimp only [writePart, BoundarySource.draw_dictated]
      rw [ih]

namespace Service

section Run

variable {σ β : Type} (service : Service σ β)

/-- Writes the outcomes of batches, one batch after the other. -/
def writeAll : List (List (Part Response)) → β → List (Text × Bytes) × β
  | [], b => ([], b)
  | outcomes :: batches, b =>
    let (first, b) := service.write outcomes b
    let (rest, b) := writeAll batches b
    (first :: rest, b)

/-- The boundaries that are drawn when the outcomes of batches are written. -/
def drawnAll : List (List (Part Response)) → β → List Text
  | [], _ => []
  | outcomes :: batches, b => service.drawn outcomes b ++ drawnAll batches (service.write outcomes b).2

/-- A service that takes its boundaries as they are dictated. -/
def dictating : Service σ (List Text) where
  processor := service.processor
  source := .dictated
  config := service.config
  parse := service.parse

theorem write_dictated (outcomes : List (Part Response)) (b : β) (more : List Text) :
    service.dictating.write outcomes (service.drawn outcomes b ++ more)
      = ((service.write outcomes b).1, more) := by
  rw [drawn, List.cons_append, write, write]
  dsimp only [dictating, BoundarySource.draw_dictated, Response.writeBatch]
  rw [Response.writeParts_dictated]

/-- **A run writes the boundaries that it draws**: dictated to it in this order, they give the same bodies, and
none of them is left. -/
theorem writeAll_dictated (batches : List (List (Part Response))) (b : β) :
    service.dictating.writeAll batches (service.drawnAll batches b)
      = ((service.writeAll batches b).1, []) := by
  induction batches generalizing b with
  | nil => rfl
  | cons outcomes batches ih =>
    rw [drawnAll, writeAll, writeAll, write_dictated]
    dsimp only
    rw [ih]

end Run

/-! ### Numbered boundaries -/

/-- Stems with numbers behind them, from `n + 1` on. -/
def numbering (n : Nat) (stems : List Text) : List Text :=
  stems.mapIdx fun i stem => stem ++ Decimal.write (n + i + 1)

theorem length_numbering (n : Nat) (stems : List Text) : (numbering n stems).length = stems.length :=
  List.length_mapIdx

theorem numbering_append (n : Nat) (s t : List Text) :
    numbering n (s ++ t) = numbering n s ++ numbering (n + s.length) t := by
  rw [numbering, numbering, numbering, List.mapIdx_append]
  congr 2
  funext i stem
  congr 2
  omega

theorem numbering_cons (n : Nat) (stem : Text) (stems : List Text) :
    numbering n (stem :: stems) = (stem ++ Decimal.write (n + 1)) :: numbering (n + 1) stems :=
  numbering_append n [stem] stems

theorem getElem?_numbering (n : Nat) (stems : List Text) (i : Nat) :
    (numbering n stems)[i]? = stems[i]?.map (· ++ Decimal.write (n + i + 1)) := by
  rw [numbering, List.getElem?_mapIdx]

/-- The stems of the boundaries of an answer: that of the batch, and one for each change set. -/
def stems (config : Config) (outcomes : List (Part Response)) : List Text :=
  config.responseStem :: (outcomes.filter Part.isChangeSet).map fun _ => config.changeSetStem

end Service

/-- The boundaries of change sets are numbered, and the source has counted them. -/
theorem Response.drawn_numbering (stem boundary : Text) (parts : List (Part Response)) (n : Nat) :
    let stems := (parts.filter Part.isChangeSet).map fun _ => stem
    drawn .sequential stem parts n = Service.numbering n stems ∧
      (writeParts .sequential stem boundary parts n).2 = n + stems.length := by
  induction parts generalizing n with
  | nil => exact ⟨rfl, rfl⟩
  | cons part parts ih =>
    cases part with
    | single r => exact ih n
    | changeSet rs =>
      obtain ⟨hdrawn, hcount⟩ := ih (n + 1)
      constructor
      · show (stem ++ Decimal.write (n + 1)) :: drawn .sequential stem parts (n + 1) = _
        rw [hdrawn, ← Service.numbering_cons]
        rfl
      · show (writeParts .sequential stem boundary parts (n + 1)).2 = _
        rw [hcount, Nat.add_assoc, Nat.add_comm 1]
        rfl

namespace Service

section Sequential

variable {σ : Type} (processor : Processor σ) (config : Config)

theorem drawn_numbering (outcomes : List (Part Response)) (n : Nat) :
    let service : Service σ Nat := { processor, source := .sequential, config }
    service.drawn outcomes n = numbering n (stems config outcomes) ∧
      (service.write outcomes n).2 = n + (stems config outcomes).length := by
  intro service
  obtain ⟨hdrawn, hcount⟩ := Response.drawn_numbering config.changeSetStem
    (config.responseStem ++ Decimal.write (n + 1)) outcomes (n + 1)
  constructor
  · rw [stems, numbering_cons, ← hdrawn]
    rfl
  · refine hcount.trans ?_
    rw [stems, List.length_cons]
    omega

/-- **The boundaries of a run are numbered in order**, whatever they are boundaries of. -/
theorem drawnAll_numbering (batches : List (List (Part Response))) (n : Nat) :
    let service : Service σ Nat := { processor, source := .sequential, config }
    service.drawnAll batches n = numbering n (batches.flatMap (stems config)) := by
  intro service
  induction batches generalizing n with
  | nil => rfl
  | cons outcomes batches ih =>
    obtain ⟨hdrawn, hcount⟩ := drawn_numbering processor config outcomes n
    rw [drawnAll, hdrawn, hcount, ih, List.flatMap_cons, numbering_append]

end Sequential

/-! ### Boundaries that are drawn twice -/

section Apart

variable {config : Config}

theorem hasStem_of_mem_stems {outcomes : List (Part Response)} {stem : Text}
    (h : stem ∈ stems config outcomes) : config.HasStem stem := by
  rcases List.mem_cons.1 h with h | h
  · exact .inl h
  · obtain ⟨-, -, rfl⟩ := List.mem_map.1 h
    exact .inr rfl

/-- **Numbers keep boundaries apart whose stems are**, as long as they fit into 64 bits. -/
theorem nodup_numbering (hconfig : config.StemsApart) {stems : List Text}
    (hstems : ∀ stem ∈ stems, config.HasStem stem) {n : Nat} (hsize : n + stems.length < UInt64.size) :
    (numbering n stems).Nodup := by
  rw [numbering, List.Nodup, List.pairwise_iff_getElem]
  intro i j hi hj hij heq
  rw [List.length_mapIdx] at hi hj
  rw [List.getElem_mapIdx, List.getElem_mapIdx] at heq
  have hfirst := hstems stems[i] (List.getElem_mem hi)
  have hsecond := hstems stems[j] (List.getElem_mem hj)
  rcases Decimal.eq_or_exists_of_append_write_eq (Nat.succ_pos _) (Nat.succ_pos _) heq with
    hnumber | ⟨k, hk, hle, hstem⟩
  · omega
  · have hfits : 10 * k < UInt64.size := by omega
    rcases hstem with hstem | hstem
    · exact hfirst.ne_append_write hsecond hconfig hk hfits hstem
    · exact hsecond.ne_append_write hfirst hconfig hk hfits hstem

end Apart

/-- Two places of a numbering with one text. -/
theorem not_nodup_numbering {stems : List Text} {s t : Text} {i j : Nat} (hi : stems[i]? = some s)
    (hj : stems[j]? = some t) (hij : i < j) {n : Nat}
    (h : s ++ Decimal.write (n + i + 1) = t ++ Decimal.write (n + j + 1)) : ¬(numbering n stems).Nodup := by
  intro hnodup
  have hlength : j < (numbering n stems).length := by
    rw [length_numbering]
    exact (List.getElem?_eq_some_iff.1 hj).1
  apply List.nodup_iff_getElem?_ne_getElem?.1 hnodup i j hij hlength
  rw [getElem?_numbering, getElem?_numbering, hi, hj, Option.map_some, Option.map_some, h]

section Sequential

variable {σ : Type} (processor : Processor σ) (config : Config)

/-- A number of 64 bits that ends in zero is followed by two more. -/
theorem add_lt_size {k d : Nat} (h : 10 * k < UInt64.size) (hd : d ≤ 2) : 10 * k + d < UInt64.size := by
  have hsize : UInt64.size = 18446744073709551616 := rfl
  omega

theorem stems_replicate (n : Nat) :
    stems config (List.replicate n (.changeSet []))
      = config.responseStem :: List.replicate n config.changeSetStem := by
  rw [stems, List.filter_replicate_of_pos rfl, List.map_replicate]

/-- A run that draws boundaries with two stems whose numbers make them one text. -/
theorem exists_reused {batches : List (List (Part Response))} {drawn : List Text}
    (hdrawn : batches.flatMap (stems config) = drawn) (hsize : drawn.length < UInt64.size) {s t : Text} {i j : Nat}
    (hi : drawn[i]? = some s) (hj : drawn[j]? = some t) (hij : i < j)
    (h : s ++ Decimal.write (i + 1) = t ++ Decimal.write (j + 1)) :
    let service : Service σ Nat := { processor, source := .sequential, config }
    ∃ batches, (service.drawnAll batches 0).length < UInt64.size ∧ ¬(service.drawnAll batches 0).Nodup := by
  intro service
  refine ⟨batches, ?_⟩
  rw [drawnAll_numbering, hdrawn, length_numbering]
  refine ⟨hsize, not_nodup_numbering hi hj hij ?_⟩
  rwa [Nat.zero_add, Nat.zero_add]

/-- The stem of batches is that of change sets with `k` behind it: the boundary of a batch with number 1 is that
of its change set with number `10 * k + 1`. -/
theorem exists_reused_of_responseStem {k : Nat} (hk : 0 < k) (hsize : 10 * k < UInt64.size)
    (h : config.responseStem = config.changeSetStem ++ Decimal.write k) :
    let service : Service σ Nat := { processor, source := .sequential, config }
    ∃ batches, (service.drawnAll batches 0).length < UInt64.size ∧ ¬(service.drawnAll batches 0).Nodup := by
  have hstems : [List.replicate (10 * k) (Part.changeSet [])].flatMap (stems config)
      = config.responseStem :: List.replicate (10 * k) config.changeSetStem := by
    rw [List.flatMap_singleton, stems_replicate]
  have hlength : (config.responseStem :: List.replicate (10 * k) config.changeSetStem).length < UInt64.size := by
    rw [List.length_cons, List.length_replicate]
    exact add_lt_size hsize (by decide)
  have hlast : (config.responseStem :: List.replicate (10 * k) config.changeSetStem)[10 * k]?
      = some config.changeSetStem := by
    rw [List.getElem?_cons, if_neg (by omega), List.getElem?_replicate, if_pos (by omega)]
  refine exists_reused processor config hstems hlength (i := 0) rfl hlast (by omega) ?_
  rw [h, List.append_assoc, Decimal.write_append_digit hk (by decide)]

/-- The stem of change sets is that of batches with `k` behind it: the boundary of a change set with number 2 is
that of the batch with number `10 * k + 2`. -/
theorem exists_reused_of_changeSetStem {k : Nat} (hk : 0 < k) (hsize : 10 * k < UInt64.size)
    (h : config.changeSetStem = config.responseStem ++ Decimal.write k) :
    let service : Service σ Nat := { processor, source := .sequential, config }
    ∃ batches, (service.drawnAll batches 0).length < UInt64.size ∧ ¬(service.drawnAll batches 0).Nodup := by
  have hstems : ([Part.changeSet []] :: List.replicate (10 * k) []).flatMap (stems config)
      = config.responseStem :: config.changeSetStem :: List.replicate (10 * k) config.responseStem := by
    have hempty : stems config [] = [config.responseStem] := rfl
    rw [List.flatMap_cons, List.flatMap_replicate, hempty, List.flatten_replicate_singleton]
    rfl
  have hlength : (config.responseStem :: config.changeSetStem
      :: List.replicate (10 * k) config.responseStem).length < UInt64.size := by
    rw [List.length_cons, List.length_cons, List.length_replicate]
    exact add_lt_size hsize (by decide)
  have hlast : (config.responseStem :: config.changeSetStem
      :: List.replicate (10 * k) config.responseStem)[10 * k + 1]? = some config.responseStem := by
    rw [List.getElem?_cons_succ, List.getElem?_cons, if_neg (by omega), List.getElem?_replicate,
      if_pos (by omega)]
  refine exists_reused processor config hstems hlength (i := 1) rfl hlast (by omega) ?_
  rw [h, List.append_assoc, Decimal.write_append_digit hk (by decide)]

/-- **When boundaries are not reused.**  A run writes the boundaries that it draws, in this order, and numbers them
with a counter of 64 bits.  In every run that draws less than `2 ^ 64` of them, be they of batches or of change sets,
all are different if neither stem is the other one with a number behind it that such a run comes to, and only then. -/
theorem boundaries_distinct_iff :
    let service : Service σ Nat := { processor, source := .sequential, config }
    (∀ batches, service.dictating.writeAll batches (service.drawnAll batches 0)
        = ((service.writeAll batches 0).1, [])) ∧
      ((∀ batches, (service.drawnAll batches 0).length < UInt64.size → (service.drawnAll batches 0).Nodup)
        ↔ config.StemsApart) := by
  intro service
  refine ⟨fun batches => service.writeAll_dictated batches 0, ?_, ?_⟩
  · intro hnodup k hk hsize
    constructor
    · intro h
      obtain ⟨batches, hlength, hreused⟩ := exists_reused_of_responseStem processor config hk hsize h
      exact hreused (hnodup batches hlength)
    · intro h
      obtain ⟨batches, hlength, hreused⟩ := exists_reused_of_changeSetStem processor config hk hsize h
      exact hreused (hnodup batches hlength)
  · intro hconfig batches hlength
    rw [drawnAll_numbering] at hlength ⊢
    rw [length_numbering] at hlength
    refine nodup_numbering hconfig (fun stem hstem => ?_) (by rwa [Nat.zero_add])
    obtain ⟨outcomes, -, hstem⟩ := List.mem_flatMap.1 hstem
    exact hasStem_of_mem_stems hstem

end Sequential

/-- Stems that make valid boundaries, and a batch of ten change sets: the first boundary, which is that of the
batch, is drawn again for the last change set. -/
theorem boundaries_reused :
    let config : Config := { responseStem := "b1".toList, changeSetStem := "b".toList }
    let service : Service Nat Nat :=
      { processor := { answer := fun _ s => ({ status := 204 }, s) }, source := .sequential, config }
    let drawn := service.drawnAll [List.replicate 10 (.changeSet [])] 0
    config.check = .ok () ∧ drawn.length = 11 ∧ drawn[0]? = some "b11".toList ∧
      drawn[10]? = some "b11".toList ∧ ¬drawn.Nodup := by
  decide +kernel

end Service

end BatchExchange
