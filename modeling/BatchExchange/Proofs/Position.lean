import BatchExchange.BodyPart
import BatchExchange.Proofs.Headers
import BatchExchange.Proofs.Partition
import Mathlib.Data.Nat.Basic
import Mathlib.Order.Interval.Set.Defs

/-!
# Where rejections point

A region is a set of line numbers.  When the lines of a part and the place that stands in for missing lines are
in a region, then so is all that is read from the part (the header blocks, their fields and the request lines),
and each rejection points into the region.  One statement says both of a reading, `Outcome.Within`, and readings
in steps are put together by `Outcome.Within.bind`.

* `Headers.PlacedIn`, `Operation.PlacedIn`, `Embedded.PlacedIn`, `BodyPart.PlacedIn`: what is read from a region.
* `HeaderBlock.read_within`, `Operation.read_within`, `Segment.ofLines_within`, `BodyPart.read_within`: reading
  stays within the region.
-/

namespace BatchExchange

/-- A rejection that points to a line of a region. -/
def Rejection.PointsInto (region : Set Nat) (r : Rejection) : Prop := ∃ n ∈ region, r.line = some n

/-! ### Readings in steps -/

namespace Outcome

variable {α β : Type} {region : Set Nat} {P : α → Prop} {Q : β → Prop}

/-- A reading that gives a value with `P`, or a rejection that points into a region. -/
def Within (region : Set Nat) (P : α → Prop) : Except Rejection α → Prop
  | .ok a => P a
  | .error r => r.PointsInto region

theorem within_at {cause : Cause} {n : Nat} (hn : n ∈ region) :
    Within region P (cause.at n : Except Rejection α) :=
  ⟨n, hn, rfl⟩

theorem Within.pointsInto {x : Except Rejection α} (h : Within region P x) {r : Rejection}
    (hr : x = .error r) : r.PointsInto region := by
  rw [hr] at h
  exact h

/-- **A reading in steps stays within a region** when each step does. -/
theorem Within.bind {x : Except Rejection α} {f : α → Except Rejection β} (h : Within region P x)
    (hf : ∀ a, P a → Within region Q (f a)) : Within region Q (x >>= f) := by
  cases x with
  | ok a => exact hf a h
  | error r => exact h

/-- A step that is taken on a condition only. -/
theorem within_ite_bind {c : Prop} [Decidable c] {x : Except Rejection Unit}
    {f : Unit → Except Rejection β} (hx : c → Within region (fun _ => True) x)
    (hf : Within region Q (f ())) : Within region Q (if c then x >>= f else f ()) := by
  split
  · rename_i hc
    exact (hx hc).bind fun _ _ => hf
  · exact hf

theorem within_mapM {f : α → Except Rejection β} {l : List α} (h : ∀ a ∈ l, Within region Q (f a)) :
    Within region (fun bs => ∀ b ∈ bs, Q b) (l.mapM f) := by
  induction l with
  | nil => exact fun _ hb => (nomatch hb)
  | cons a l ih =>
    rw [List.forall_mem_cons] at h
    rw [List.mapM_cons]
    refine h.1.bind fun b hb => (ih h.2).bind fun bs hbs => ?_
    exact List.forall_mem_cons.2 ⟨hb, hbs⟩

/-- An unplaced rejection takes the place that it is given. -/
theorem within_mapError {x : Except Rejection α} {n : Nat} (hx : ∀ r, x = .error r → r.line = none)
    (hn : n ∈ region) : Within region (fun _ => True) (x.mapError (Rejection.orAt n)) := by
  cases x with
  | ok a => trivial
  | error r =>
    refine ⟨n, hn, ?_⟩
    rw [Rejection.orAt, hx r rfl]
    rfl

end Outcome

open Outcome (Within within_at within_ite_bind within_mapM within_mapError)

variable {region : Set Nat}

/-! ### Lines and fields -/

namespace Line

/-- Lines are numbered in ascending order, without gaps. -/
theorem pairwise_numberFrom (n : Nat) (s : List (Bytes × Ending)) :
    (numberFrom n s).Pairwise (fun l m => l.number < m.number) ∧
      ∀ l ∈ numberFrom n s, n ≤ l.number ∧ l.number < n + (numberFrom n s).length := by
  have hnumbers := map_number_numberFrom n s
  constructor
  · rw [← List.pairwise_map, hnumbers]
    exact List.pairwise_lt_range' 1
  · intro l hl
    have hl := List.mem_map_of_mem (f := number) hl
    rw [hnumbers, List.mem_range'_1] at hl
    exact hl

theorem number_mem_of_mem_readAll {bytes : Bytes} {l : Line} (hl : l ∈ readAll bytes) :
    l.number ∈ Set.Icc 1 (readAll bytes).length := by
  have hbound := (pairwise_numberFrom 1 (split bytes)).2 l hl
  rw [← readAll] at hbound
  rw [Set.mem_Icc]
  omega

/-- Lines that stand between two others have numbers between theirs. -/
theorem number_mem_of_between {bytes : Bytes} {before inner after : List Line} {opening ending : Line}
    (h : readAll bytes = before ++ opening :: (inner ++ ending :: after)) :
    ∀ l ∈ inner, l.number ∈ Set.Ioo opening.number ending.number := by
  have hsorted := (pairwise_numberFrom 1 (split bytes)).1
  rw [← readAll, h, List.pairwise_append, List.pairwise_cons, List.pairwise_append] at hsorted
  obtain ⟨-, ⟨hopening, -, -, hending⟩, -⟩ := hsorted
  exact fun l hl =>
    ⟨hopening l (List.mem_append_left _ hl), hending l hl ending List.mem_cons_self⟩

variable {context : Nat} {lines : List Line}

theorem firstNumber_mem (hcontext : context ∈ region) (hlines : ∀ l ∈ lines, l.number ∈ region) :
    firstNumber context lines ∈ region := by
  cases lines with
  | nil => exact hcontext
  | cons l lines => exact hlines l List.mem_cons_self

theorem lastNumber_mem (hcontext : context ∈ region) (hlines : ∀ l ∈ lines, l.number ∈ region) :
    lastNumber context lines ∈ region := by
  rw [lastNumber]
  cases hlast : lines.getLast? with
  | none => exact hcontext
  | some l => exact hlines l (List.mem_of_getLast? hlast)

end Line

/-- A block that starts in a region and has all its fields there. -/
structure Headers.PlacedIn (region : Set Nat) (h : Headers) : Prop where
  start : h.line ∈ region
  fields : ∀ f ∈ h.fields, f.line ∈ region

namespace Headers.PlacedIn

theorem atLine {n : Nat} (hn : n ∈ region) : (Headers.atLine n).PlacedIn region :=
  ⟨hn, fun _ hf => (nomatch hf)⟩

theorem line_of_get? {h : Headers} (hh : h.PlacedIn region) {name : Text} {f : Field}
    (hf : h.get? name = some f) : f.line ∈ region :=
  hh.fields f (Headers.mem_of_get? hf)

theorem add {h : Headers} (hh : h.PlacedIn region) {n : Nat} (hn : n ∈ region) (name value : Text) :
    (h.add name value n).PlacedIn region := by
  refine ⟨hh.start, fun f hf => ?_⟩
  rcases Headers.mem_fields_alter hf with hf | rfl | ⟨g, hg, rfl⟩
  · exact hh.fields f hf
  · exact hn
  -- a field of that name stays where it is
  · exact hh.fields g hg

theorem put {h : Headers} (hh : h.PlacedIn region) {f : Field} (hf : f.line ∈ region) :
    (h.put f).PlacedIn region := by
  refine ⟨hh.start, fun g hg => ?_⟩
  rcases Headers.mem_fields_put hg with hg | rfl
  · exact hh.fields g hg
  · exact hf

theorem extendLast {h : Headers} (hh : h.PlacedIn region) (more : Text) :
    (h.extendLast more).PlacedIn region := by
  refine ⟨hh.start, fun f hf => ?_⟩
  rw [Headers.extendLast] at hf
  dsimp only at hf
  split at hf
  · cases hf
  · rename_i last hlast
    rw [List.mem_append, List.mem_singleton] at hf
    rcases hf with hf | rfl
    · exact hh.fields f (List.dropLast_subset _ hf)
    · have hline : (last.extend more).line = last.line := by
        rw [Field.extend]
        split <;> rfl
      rw [hline]
      exact hh.fields last (List.mem_of_getLast? hlast)

end Headers.PlacedIn

/-! ### Header blocks -/

namespace HeaderBlock

theorem placedIn_addLine? {h h' : Headers} {l : Line} (hh : h.PlacedIn region) (hl : l.number ∈ region)
    (hadd : addLine? h l = some h') : h'.PlacedIn region := by
  rw [addLine?] at hadd
  split_ifs at hadd
  · rw [Option.some.injEq] at hadd
    subst hadd
    exact hh.extendLast _
  · obtain ⟨⟨name, value⟩, -, rfl⟩ := Option.map_eq_some_iff.1 hadd
    exact hh.add hl name value

/-- A block read from a region, and lines of the region that are left behind it. -/
def ReadWithin (region : Set Nat) (p : Headers × List Line) : Prop :=
  p.1.PlacedIn region ∧ ∀ l ∈ p.2, l.number ∈ region

theorem readFrom_within {h : Headers} {last : Nat} {lines : List Line} (hh : h.PlacedIn region)
    (hlast : last ∈ region) (hlines : ∀ l ∈ lines, l.number ∈ region) (strict : Bool) :
    Within region (ReadWithin region) (readFrom strict h last lines) := by
  induction lines generalizing h last with
  | nil =>
    rw [readFrom]
    split
    · exact within_at hlast
    · exact ⟨hh, hlines⟩
  | cons l lines ih =>
    rw [List.forall_mem_cons] at hlines
    rw [readFrom]
    split
    · exact ⟨hh, hlines.2⟩
    split
    · exact within_at hlines.1
    cases hadd : addLine? h l with
    | some next => exact ih (placedIn_addLine? hh hlines.1 hadd) hlines.1 hlines.2
    | none =>
      dsimp only
      split
      · exact within_at hlines.1
      · exact ih hh hlines.1 hlines.2

/-- **Reading a header block stays within a region.** -/
theorem read_within {context : Nat} {lines : List Line} (hcontext : context ∈ region)
    (hlines : ∀ l ∈ lines, l.number ∈ region) (strict : Bool) :
    Within region (ReadWithin region) (read strict context lines) :=
  readFrom_within (.atLine (Line.firstNumber_mem hcontext hlines)) hcontext hlines strict

end HeaderBlock

/-! ### Operations -/

/-- An operation read from a region. -/
structure Operation.PlacedIn (region : Set Nat) (op : Operation) : Prop where
  requestLine : op.requestLine.number ∈ region
  headers : op.headers.PlacedIn region

theorem Operation.read_within {context : Nat} {lines : List Line} (hcontext : context ∈ region)
    (hlines : ∀ l ∈ lines, l.number ∈ region) (strict : Bool) :
    Within region (PlacedIn region) (read strict context lines) := by
  have hkept : ∀ l ∈ (if strict then lines else lines.dropWhile Line.isBlank), l.number ∈ region := by
    intro l hl
    split at hl
    · exact hlines l hl
    · exact hlines l ((List.dropWhile_sublist _).subset hl)
  rw [read]
  split
  · exact within_at hcontext
  · rename_i l rest hcase
    rw [hcase, List.forall_mem_cons] at hkept
    split
    · exact within_at hkept.1
    · exact (HeaderBlock.read_within hkept.1 hkept.2 strict).bind fun p hp => ⟨hkept.1, hp.1⟩

/-- An operation read from a region with the header block around it. -/
structure Embedded.PlacedIn (region : Set Nat) (e : Embedded) : Prop where
  mime : e.mime.PlacedIn region
  operation : e.operation.PlacedIn region

namespace Embedded

theorem readAfter_within {mime : Headers} {rest : List Line} (hmime : mime.PlacedIn region)
    (hrest : ∀ l ∈ rest, l.number ∈ region) (strict : Bool) :
    Within region (PlacedIn region) (readAfter strict mime rest) :=
  (Operation.read_within hmime.start hrest strict).bind fun _ hop => ⟨hmime, hop⟩

theorem read_within {context : Nat} {lines : List Line} (hcontext : context ∈ region)
    (hlines : ∀ l ∈ lines, l.number ∈ region) (strict : Bool) :
    Within region (PlacedIn region) (read strict context lines) :=
  (HeaderBlock.read_within hcontext hlines strict).bind fun _ hp => readAfter_within hp.1 hp.2 strict

end Embedded

/-! ### Segments and parts -/

/-- **Cutting stays within a region**: the segments are made of the lines that are cut. -/
theorem Segment.ofLines_within {context : Nat} {lines : List Line} (hcontext : context ∈ region)
    (hlines : ∀ l ∈ lines, l.number ∈ region) (boundary : Text) :
    Within region (fun segments => ∀ segment ∈ segments, ∀ l ∈ segment, l.number ∈ region)
      (ofLines boundary context lines) := by
  cases hcut : ofLines boundary context lines with
  | ok segments =>
    intro segment hs l hl
    obtain ⟨m, hm, -, hnumber⟩ := exists_of_mem_ofLines hcut hs hl
    rw [hnumber]
    exact hlines m hm
  | error r =>
    rw [ofLines] at hcut
    split_ifs at hcut
    · exact (within_at (P := fun _ => True) (Line.lastNumber_mem hcontext hlines)).pointsInto hcut
    · exact (within_at (P := fun _ => True) hcontext).pointsInto hcut

/-- A part read from a region. -/
def BodyPart.PlacedIn (region : Set Nat) : BodyPart → Prop
  | .single e => e.PlacedIn region
  | .changeSet mime _ es => mime.PlacedIn region ∧ ∀ e ∈ es, e.PlacedIn region

/-- A token that is refused has no line of its own. -/
theorem Boundary.line_of_check {boundary : Text} {r : Rejection} (h : check boundary = .error r) :
    r.line = none := by
  rw [check] at h
  split at h
  · cases h
  · cases h
    rfl

namespace BodyPart

theorem readMembers_within {context : Nat} {lines : List Line} (hcontext : context ∈ region)
    (hlines : ∀ l ∈ lines, l.number ∈ region) (strict : Bool) (boundary : Text) :
    Within region (fun es => ∀ e ∈ es, e.PlacedIn region) (readMembers strict boundary context lines) := by
  refine (Segment.ofLines_within hcontext hlines boundary).bind fun segments hsegments => ?_
  split
  · exact within_at hcontext
  · refine within_mapM fun segment hs => ?_
    have hplaced := hsegments segment hs
    exact Embedded.read_within (Line.firstNumber_mem hcontext hplaced) hplaced strict

/-- **Reading a part stays within a region.** -/
theorem read_within {context : Nat} {lines : List Line} (hcontext : context ∈ region)
    (hlines : ∀ l ∈ lines, l.number ∈ region) (strict : Bool) :
    Within region (PlacedIn region) (read strict context lines) := by
  refine (HeaderBlock.read_within hcontext hlines strict).bind fun p ⟨hmime, hrest⟩ => ?_
  dsimp only
  split
  · exact (Embedded.readAfter_within hmime hrest strict).bind fun _ he => he
  · rename_i f htype
    have hline : f.line ∈ region := hmime.line_of_get? (Option.filter_eq_some_iff.1 htype).1
    split
    · exact within_at hline
    · rename_i boundary _
      refine (within_mapError (fun _ => Boundary.line_of_check) hline).bind fun _ _ => ?_
      refine (readMembers_within hmime.start hrest strict boundary).bind fun es hes => ?_
      exact ⟨hmime, hes⟩

end BodyPart

end BatchExchange
