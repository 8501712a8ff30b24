import BatchExchange.HeaderName
import BatchExchange.Outer.Answer
import BatchExchange.Proofs.Text
import Mathlib.Data.Finset.Card
import Mathlib.Data.List.Find

/-!
# Headers of the outer response

The headers that an answer is given are kept by their exact spelling, in the order of the spellings, while
looking them up and sending them disregards case.  So a name in two spellings stays two headers: the spelling that
is first in the order is the one looked up, whichever was given last, and both are sent.  And the length of the body
is sent behind whatever length was given.

* `Answer.Ordered`: entries in the strict order of their keys, as `Answer.insert` keeps them.
* `Answer.given?`: the value that the last of some calls gives to a name.
* `Answer.mem_headers_iff`: what an answer holds after any calls.
* `Answer.headers_by_spelling`: what is looked up, what is sent, and when no name is sent twice.
-/

namespace BatchExchange.Outer

/-- The values that go on the wire under a name, in whatever case. -/
def WireResponse.values (r : WireResponse) (name : Text) : List Text :=
  (r.headers.filter fun h => Text.same h.1 name).map Prod.snd

/-- No name is sent twice, and the one content length is that of the body. -/
structure WireResponse.IsClean (r : WireResponse) : Prop where
  once : ∀ name, (r.values name).length ≤ 1
  contentLength : r.values HeaderName.contentLength = [Decimal.write r.body.length]

namespace Answer

/-! ### Entries in order -/

/-- Entries in the strict order of their keys. -/
def Ordered (entries : List (Text × Text)) : Prop := entries.Pairwise fun h h' => h.1 < h'.1

theorem lt_of_not_lt {s t : Text} (h : ¬s < t) (hne : s ≠ t) : t < s := by
  by_contra hlt
  exact hne (List.le_antisymm (List.not_lt.1 hlt) (List.not_lt.1 h))

section Entries

variable {entries : List (Text × Text)} (hordered : Ordered entries)

include hordered

theorem Ordered.nodup_keys : (entries.map Prod.fst).Nodup := by
  rw [List.Nodup, List.pairwise_map]
  refine hordered.imp ?_
  intro h h' hlt heq
  rw [heq] at hlt
  exact List.lt_irrefl _ hlt

/-- **An entry takes the place of the one with its key**, and changes no other. -/
theorem mem_insert_iff {key value : Text} {h : Text × Text} :
    h ∈ insert key value entries ↔ h = (key, value) ∨ h ∈ entries ∧ h.1 ≠ key := by
  induction entries with
  | nil => simp [insert]
  | cons e entries ih =>
    obtain ⟨k, v⟩ := e
    obtain ⟨hfirst, hrest⟩ := List.pairwise_cons.1 hordered
    have hbehind : ∀ h ∈ entries, h.1 ≠ k := fun h hh heq => List.lt_irrefl k (heq ▸ hfirst h hh)
    rw [insert]
    split_ifs with heq hlt
    · subst heq
      rw [List.mem_cons, List.mem_cons]
      constructor
      · exact fun hh => hh.imp_right fun hh => ⟨.inr hh, hbehind h hh⟩
      · rintro (hh | ⟨rfl | hh, hne⟩)
        · exact .inl hh
        · exact absurd rfl hne
        · exact .inr hh
    · rw [List.mem_cons]
      refine or_congr_right ⟨fun hh => ⟨hh, ?_⟩, And.left⟩
      rintro rfl
      rcases List.mem_cons.1 hh with rfl | hh
      · exact heq rfl
      · exact List.lt_irrefl _ (List.lt_trans hlt (hfirst h hh))
    · rw [List.mem_cons, ih hrest, List.mem_cons]
      constructor
      · rintro (rfl | hh | ⟨hh, hne⟩)
        · exact .inr ⟨.inl rfl, Ne.symm heq⟩
        · exact .inl hh
        · exact .inr ⟨.inr hh, hne⟩
      · rintro (hh | ⟨hh | hh, hne⟩)
        · exact .inr (.inl hh)
        · exact .inl hh
        · exact .inr (.inr ⟨hh, hne⟩)

theorem ordered_insert (key value : Text) : Ordered (insert key value entries) := by
  induction entries with
  | nil => exact List.pairwise_singleton _ _
  | cons e entries ih =>
    obtain ⟨k, v⟩ := e
    obtain ⟨hfirst, hrest⟩ := List.pairwise_cons.1 hordered
    rw [insert]
    split_ifs with heq hlt
    · subst heq
      exact List.pairwise_cons.2 ⟨hfirst, hrest⟩
    · refine List.pairwise_cons.2 ⟨?_, hordered⟩
      intro h hh
      rcases List.mem_cons.1 hh with rfl | hh
      · exact hlt
      · exact List.lt_trans hlt (hfirst h hh)
    · refine List.pairwise_cons.2 ⟨?_, ih hrest⟩
      intro h hh
      rcases (mem_insert_iff hrest).1 hh with rfl | ⟨hh, -⟩
      · exact lt_of_not_lt hlt heq
      · exact hfirst h hh

/-- The first entry with a property is the one whose key is first. -/
theorem find?_eq_some_iff {p : Text × Text → Bool} {h : Text × Text} :
    entries.find? p = some h ↔ h ∈ entries ∧ p h ∧ ∀ h' ∈ entries, p h' → ¬h'.1 < h.1 := by
  rw [List.find?_eq_some_iff_append]
  constructor
  · rintro ⟨hp, before, after, rfl, hbefore⟩
    refine ⟨by simp, hp, ?_⟩
    intro h' hh' hp' hlt
    rcases List.mem_append.1 hh' with hh' | hh'
    · have hnot := hbefore h' hh'
      rw [hp'] at hnot
      cases hnot
    · rcases List.mem_cons.1 hh' with rfl | hh'
      · exact List.lt_irrefl _ hlt
      · have hafter := (List.pairwise_cons.1 (List.pairwise_append.1 hordered).2.1).1 h' hh'
        exact List.lt_asymm hlt hafter
  · rintro ⟨hh, hp, hfirst⟩
    obtain ⟨before, after, rfl⟩ := List.append_of_mem hh
    refine ⟨hp, before, after, rfl, fun h' hh' => ?_⟩
    rw [Bool.not_eq_true', ← Bool.not_eq_true]
    intro hp'
    exact hfirst h' (List.mem_append_left _ hh') hp'
      ((List.pairwise_append.1 hordered).2.2 h' hh' h List.mem_cons_self)

end Entries

/-! ### Calls -/

/-- The answer after headers were given to it, one after the other. -/
def withHeaders (a : Answer) (calls : List (Text × Text)) : Answer :=
  calls.foldl (fun a call => a.withHeader call.1 call.2) a

theorem withHeaders_concat (a : Answer) (calls : List (Text × Text)) (call : Text × Text) :
    a.withHeaders (calls ++ [call]) = (a.withHeaders calls).withHeader call.1 call.2 := by
  rw [withHeaders, List.foldl_append]
  rfl

theorem status_withHeaders (a : Answer) (calls : List (Text × Text)) : (a.withHeaders calls).status = a.status := by
  induction calls using List.reverseRecOn with
  | nil => rfl
  | append_singleton calls call ih => rw [withHeaders_concat, withHeader, ih]

theorem body_withHeaders (a : Answer) (calls : List (Text × Text)) : (a.withHeaders calls).body = a.body := by
  induction calls using List.reverseRecOn with
  | nil => rfl
  | append_singleton calls call ih => rw [withHeaders_concat, withHeader, ih]

/-- The value that the last call with such a name gives. -/
def given? (p : Text → Bool) (calls : List (Text × Text)) : Option Text :=
  (calls.reverse.find? fun call => p call.1).map Prod.snd

theorem given?_concat (p : Text → Bool) (calls : List (Text × Text)) (call : Text × Text) :
    given? p (calls ++ [call]) = if p call.1 then some call.2 else given? p calls := by
  rw [given?, List.reverse_append, List.reverse_singleton, List.singleton_append, List.find?_cons]
  cases p call.1 <;> rfl

theorem given?_eq_none_iff {p : Text → Bool} {calls : List (Text × Text)} :
    given? p calls = none ↔ ∀ call ∈ calls, p call.1 = false := by
  rw [given?, Option.map_eq_none_iff, List.find?_eq_none]
  simp only [List.mem_reverse, Bool.not_eq_true]

theorem given?_congr {p q : Text → Bool} {calls : List (Text × Text)} (h : ∀ call ∈ calls, p call.1 = q call.1) :
    given? p calls = given? q calls := by
  rw [given?, given?, List.find?_congr fun call hcall => h call (List.mem_reverse.1 hcall)]

theorem exists_of_given? {p : Text → Bool} {calls : List (Text × Text)} {value : Text}
    (h : given? p calls = some value) : ∃ call ∈ calls, p call.1 ∧ call.2 = value := by
  obtain ⟨call, hcall, rfl⟩ := Option.map_eq_some_iff.1 h
  have hp := List.find?_some hcall
  exact ⟨call, List.mem_reverse.1 (List.mem_of_find?_eq_some hcall), hp, rfl⟩

section Calls

variable {a : Answer} (ha : a.headers = []) (calls : List (Text × Text))

include ha

theorem ordered_headers : Ordered (a.withHeaders calls).headers := by
  induction calls using List.reverseRecOn with
  | nil =>
    rw [withHeaders, List.foldl_nil, ha]
    exact .nil
  | append_singleton calls call ih =>
    rw [withHeaders_concat]
    exact ordered_insert ih call.1 call.2

/-- **An answer holds what the last call in each spelling gave.** -/
theorem mem_headers_iff {name value : Text} :
    (name, value) ∈ (a.withHeaders calls).headers ↔ given? (· = name) calls = some value := by
  induction calls using List.reverseRecOn with
  | nil =>
    rw [withHeaders, List.foldl_nil, ha]
    exact ⟨fun h => (nomatch h), fun h => (nomatch h)⟩
  | append_singleton calls call ih =>
    rw [withHeaders_concat, given?_concat]
    refine (mem_insert_iff (ordered_headers ha calls)).trans ?_
    rw [ih, Prod.mk.injEq]
    by_cases hname : call.1 = name
    · rw [if_pos (decide_eq_true hname), Option.some.injEq]
      exact ⟨fun h => (h.resolve_right fun hne => hne.2 hname.symm).2.symm, fun h => .inl ⟨hname.symm, h.symm⟩⟩
    · rw [if_neg (by simp [hname])]
      exact ⟨fun h => (h.resolve_left fun heq => hname heq.1.symm).1, fun h => .inr ⟨h, Ne.symm hname⟩⟩

theorem mem_keys_iff {name : Text} :
    name ∈ (a.withHeaders calls).headers.map Prod.fst ↔ name ∈ calls.map Prod.fst := by
  rw [List.mem_map, List.mem_map]
  constructor
  · rintro ⟨⟨name, value⟩, hh, rfl⟩
    obtain ⟨call, hcall, hname, -⟩ := exists_of_given? ((mem_headers_iff ha calls).1 hh)
    exact ⟨call, hcall, of_decide_eq_true hname⟩
  · rintro ⟨call, hcall, rfl⟩
    cases hgiven : given? (· = call.1) calls with
    | none => exact absurd (given?_eq_none_iff.1 hgiven call hcall) (by simp)
    | some value => exact ⟨(call.1, value), (mem_headers_iff ha calls).2 hgiven, rfl⟩

end Calls

/-! ### Looking up -/

/-- All calls with a name, in whatever case, spell it alike. -/
def SpeltAlike (calls : List (Text × Text)) (name : Text) : Prop :=
  ∀ call ∈ calls, ∀ call' ∈ calls, Text.same call.1 name → Text.same call'.1 name → call.1 = call'.1

instance (calls : List (Text × Text)) (name : Text) : Decidable (SpeltAlike calls name) :=
  inferInstanceAs (Decidable (∀ call ∈ calls, _))

section Lookup

variable {a : Answer} (ha : a.headers = []) (calls : List (Text × Text))

include ha

theorem header?_eq_some_iff {name value : Text} :
    (a.withHeaders calls).header? name = some value ↔
      ∃ spelling, Text.same spelling name ∧ given? (· = spelling) calls = some value ∧
        ∀ call ∈ calls, Text.same call.1 name → ¬call.1 < spelling := by
  have hordered := ordered_headers ha calls
  rw [header?, Option.map_eq_some_iff]
  constructor
  · rintro ⟨⟨spelling, value⟩, hfind, rfl⟩
    obtain ⟨hmem, hsame, hfirst⟩ := (find?_eq_some_iff hordered).1 hfind
    refine ⟨spelling, hsame, (mem_headers_iff ha calls).1 hmem, fun call hcall hname => ?_⟩
    obtain ⟨h, hh, heq⟩ := List.mem_map.1 ((mem_keys_iff ha calls).2 (List.mem_map_of_mem hcall))
    rw [← heq] at hname ⊢
    exact hfirst h hh hname
  · rintro ⟨spelling, hsame, hgiven, hfirst⟩
    refine ⟨(spelling, value), (find?_eq_some_iff hordered).2 ⟨(mem_headers_iff ha calls).2 hgiven, hsame, ?_⟩, rfl⟩
    intro h hh hname
    obtain ⟨call, hcall, heq⟩ := List.mem_map.1 ((mem_keys_iff ha calls).1 (List.mem_map_of_mem hh))
    rw [← heq] at hname ⊢
    exact hfirst call hcall hname

theorem header?_eq_none_iff {name : Text} :
    (a.withHeaders calls).header? name = none ↔ given? (Text.same · name) calls = none := by
  rw [header?, Option.map_eq_none_iff, List.find?_eq_none, given?_eq_none_iff]
  constructor
  · intro h call hcall
    obtain ⟨entry, hentry, heq⟩ := List.mem_map.1 ((mem_keys_iff ha calls).2 (List.mem_map_of_mem hcall))
    rw [← heq, ← Bool.not_eq_true]
    exact h entry hentry
  · intro h entry hentry hname
    obtain ⟨call, hcall, heq⟩ := List.mem_map.1 ((mem_keys_iff ha calls).1 (List.mem_map_of_mem hentry))
    rw [← heq, h call hcall] at hname
    cases hname

/-- A name that is spelt alike has the value that was given last. -/
theorem header?_of_speltAlike {name : Text} (halike : SpeltAlike calls name) :
    (a.withHeaders calls).header? name = given? (Text.same · name) calls := by
  cases hgiven : given? (Text.same · name) calls with
  | none => exact (header?_eq_none_iff ha calls).2 hgiven
  | some value =>
    obtain ⟨call, hcall, hname, -⟩ := exists_of_given? hgiven
    have hspelling : ∀ call' ∈ calls, Text.same call'.1 name = decide (call'.1 = call.1) := by
      intro call' hcall'
      rw [Bool.eq_iff_iff, decide_eq_true_eq]
      exact ⟨fun hname' => halike call' hcall' call hcall hname' hname, fun heq => heq ▸ hname⟩
    refine (header?_eq_some_iff ha calls).2 ⟨call.1, hname, ?_, fun call' hcall' hname' => ?_⟩
    · exact (given?_congr hspelling).symm.trans hgiven
    · rw [halike call' hcall' call hcall hname' hname]
      exact List.lt_irrefl _

end Lookup

/-! ### Sending -/

/-- The spellings in which a name was given. -/
def spellings (calls : List (Text × Text)) (name : Text) : Finset Text :=
  (calls.map Prod.fst).toFinset.filter fun spelling => Text.same spelling name

theorem mem_spellings_iff {calls : List (Text × Text)} {name spelling : Text} :
    spelling ∈ spellings calls name ↔ (∃ call ∈ calls, call.1 = spelling) ∧ Text.same spelling name := by
  rw [spellings, Finset.mem_filter, List.mem_toFinset, List.mem_map]

theorem spellings_congr {calls : List (Text × Text)} {name name' : Text} (h : Text.same name name') :
    spellings calls name' = spellings calls name := by
  ext spelling
  rw [mem_spellings_iff, mem_spellings_iff, Text.same_iff, Text.same_iff, Text.same_iff.1 h]

theorem card_spellings_le_one_iff {calls : List (Text × Text)} {name : Text} :
    (spellings calls name).card ≤ 1 ↔ SpeltAlike calls name := by
  rw [Finset.card_le_one]
  constructor
  · intro h call hcall call' hcall' hname hname'
    exact h _ (mem_spellings_iff.2 ⟨⟨call, hcall, rfl⟩, hname⟩) _ (mem_spellings_iff.2 ⟨⟨call', hcall', rfl⟩, hname'⟩)
  · intro h s hs t ht
    obtain ⟨⟨call, hcall, rfl⟩, hname⟩ := mem_spellings_iff.1 hs
    obtain ⟨⟨call', hcall', rfl⟩, hname'⟩ := mem_spellings_iff.1 ht
    exact h call hcall call' hcall' hname hname'

/-- All calls give what can go on the wire. -/
def Sendable (calls : List (Text × Text)) : Prop := ∀ call ∈ calls, isWireName call.1 ∧ isWireValue call.2

instance (calls : List (Text × Text)) : Decidable (Sendable calls) :=
  inferInstanceAs (Decidable (∀ call ∈ calls, _))

section Wire

variable {a : Answer} (ha : a.headers = []) {calls : List (Text × Text)} (hcalls : Sendable calls)

include ha hcalls

theorem faulty?_withHeaders : (a.withHeaders calls).faulty? = none := by
  rw [faulty?, Option.map_eq_none_iff, List.find?_eq_none]
  rintro ⟨name, value⟩ hh
  obtain ⟨call, hcall, hname, rfl⟩ := exists_of_given? ((mem_headers_iff ha calls).1 hh)
  obtain rfl := of_decide_eq_true hname
  obtain ⟨hname, hvalue⟩ := hcalls call hcall
  simp [hname, hvalue]

theorem build_withHeaders :
    (a.withHeaders calls).build =
      { status := if 100 ≤ a.status ∧ a.status ≤ 999 then a.status else 500
        headers := (a.withHeaders calls).headers.map (fun h => (Text.foldCase h.1, h.2))
          ++ [("content-length".toList, Decimal.write a.body.length)]
        body := a.body } := by
  rw [build, faulty?_withHeaders ha hcalls, status_withHeaders, body_withHeaders]

/-- The values of a name on the wire: those in each of its spellings, and the length of the body behind them. -/
theorem values_build (name : Text) :
    (a.withHeaders calls).build.values name
      = ((a.withHeaders calls).headers.filter fun h => Text.same h.1 name).map Prod.snd
        ++ if Text.same HeaderName.contentLength name then [Decimal.write a.body.length] else [] := by
  have hspelt : (fun h : Text × Text => Text.same h.1 name) ∘ (fun h : Text × Text => (Text.foldCase h.1, h.2))
      = fun h : Text × Text => Text.same h.1 name := by
    funext h
    rw [Function.comp_apply, Text.same, Text.same, Text.foldCase_foldCase]
  have hlower : Text.same "content-length".toList name = Text.same HeaderName.contentLength name := by
    rw [Text.same, Text.same, show Text.foldCase "content-length".toList = HeaderName.contentLength.foldCase by decide]
  rw [build_withHeaders ha hcalls, WireResponse.values, List.filter_append, List.map_append, List.filter_map,
    List.map_map, hspelt, List.filter_singleton, hlower]
  refine congrArg₂ _ rfl ?_
  cases Text.same HeaderName.contentLength name <;> rfl

/-- **A name is sent as often as it has spellings**, and the content length once more. -/
theorem length_values_build (name : Text) :
    ((a.withHeaders calls).build.values name).length
      = (spellings calls name).card + if Text.same HeaderName.contentLength name then 1 else 0 := by
  have hkeys : (((a.withHeaders calls).headers.map Prod.fst).filter fun spelling => Text.same spelling name).toFinset
      = spellings calls name := by
    ext spelling
    rw [List.mem_toFinset, List.mem_filter, mem_keys_iff ha, mem_spellings_iff, List.mem_map]
  rw [values_build ha hcalls, List.length_append, List.length_map, ← hkeys,
    List.toFinset_card_of_nodup ((ordered_headers ha calls).nodup_keys.filter _), List.filter_map, List.length_map]
  refine congrArg₂ _ rfl ?_
  cases Text.same HeaderName.contentLength name <;> rfl

/-- No name is sent twice when each is spelt alike and no length is given. -/
theorem isClean_build_iff :
    (a.withHeaders calls).build.IsClean ↔
      (∀ name, SpeltAlike calls name) ∧ given? (Text.same · HeaderName.contentLength) calls = none := by
  have hbody : (a.withHeaders calls).build.body = a.body := by rw [build_withHeaders ha hcalls]
  have hlength := values_build ha hcalls HeaderName.contentLength
  rw [if_pos (Text.same_self _)] at hlength
  constructor
  · intro h
    have hcard : ∀ name, (spellings calls name).card + (if Text.same HeaderName.contentLength name then 1 else 0) ≤ 1 := by
      intro name
      rw [← length_values_build ha hcalls]
      exact h.once _
    refine ⟨fun name => card_spellings_le_one_iff.1 (Nat.le_of_add_right_le (hcard name)), ?_⟩
    rw [given?_eq_none_iff]
    intro call hcall
    by_contra hname
    rw [Bool.not_eq_false] at hname
    have hmem : call.1 ∈ spellings calls HeaderName.contentLength := mem_spellings_iff.2 ⟨⟨call, hcall, rfl⟩, hname⟩
    have hpos := Finset.card_pos.2 ⟨_, hmem⟩
    have hone := hcard HeaderName.contentLength
    rw [if_pos (Text.same_self _)] at hone
    omega
  · rintro ⟨halike, hnone⟩
    have hempty : spellings calls HeaderName.contentLength = ∅ := by
      refine Finset.eq_empty_of_forall_notMem fun spelling hspelling => ?_
      obtain ⟨⟨call, hcall, rfl⟩, hname⟩ := mem_spellings_iff.1 hspelling
      rw [given?_eq_none_iff.1 hnone call hcall] at hname
      cases hname
    constructor
    · intro name
      rw [length_values_build ha hcalls]
      split_ifs with hname
      · rw [spellings_congr hname, hempty]
        rfl
      · exact card_spellings_le_one_iff.2 (halike name)
    · have hone := length_values_build ha hcalls HeaderName.contentLength
      rw [hempty, if_pos (Text.same_self _), hlength, List.length_append, List.length_singleton] at hone
      rw [hbody, hlength, List.eq_nil_of_length_eq_zero (Nat.add_right_cancel hone), List.nil_append]

end Wire

/-- **Headers go by their spelling.**  Of the spellings in which a name was given the first in order is looked up,
with the value that the last call in this spelling gave; where all calls spell the name alike, that is the value
given last.  On the wire a name stands as often as it has spellings, and the length of the body once more behind
any length that was given; so no name is sent twice exactly if every name is spelt alike and no length is given. -/
theorem headers_by_spelling (status : UInt16) (body : Bytes) (calls : List (Text × Text)) :
    let a := ({ status, body } : Answer).withHeaders calls
    (∀ name value, a.header? name = some value ↔
      ∃ spelling, Text.same spelling name ∧ given? (· = spelling) calls = some value ∧
        ∀ call ∈ calls, Text.same call.1 name → ¬call.1 < spelling) ∧
    (∀ name, a.header? name = none ↔ given? (Text.same · name) calls = none) ∧
    (∀ name, SpeltAlike calls name → a.header? name = given? (Text.same · name) calls) ∧
    (Sendable calls →
      a.build.body = body ∧
      (∀ name, (a.build.values name).length
        = (spellings calls name).card + if Text.same HeaderName.contentLength name then 1 else 0) ∧
      (a.build.values HeaderName.contentLength).getLast? = some (Decimal.write body.length) ∧
      (a.build.IsClean ↔
        (∀ name, SpeltAlike calls name) ∧ given? (Text.same · HeaderName.contentLength) calls = none)) := by
  intro a
  refine ⟨fun _ _ => header?_eq_some_iff rfl calls, fun _ => header?_eq_none_iff rfl calls,
    fun _ => header?_of_speltAlike rfl calls, fun hcalls => ⟨?_, length_values_build rfl hcalls, ?_,
      isClean_build_iff rfl hcalls⟩⟩
  · rw [build_withHeaders rfl hcalls]
  · rw [values_build rfl hcalls, if_pos (Text.same_self _), List.getLast?_concat]

/-- A name in two spellings, of which the first in order was given first and last. -/
theorem headers_by_spelling_twice :
    let calls : List (Text × Text) :=
      [("X-Id", "1"), ("x-id", "2"), ("Accept", "a"), ("X-Id", "3")].map fun call => (call.1.toList, call.2.toList)
    let a := ({ status := 202 } : Answer).withHeaders calls
    Sendable calls ∧ a.header? "x-ID".toList = some "3".toList ∧ a.header? "accept".toList = some "a".toList ∧
      (a.build.values "x-id".toList).length = 2 ∧ ¬a.build.IsClean := by
  intro calls a
  obtain ⟨hlookup, -, halike, hsend⟩ := headers_by_spelling 202 [] calls
  have hcalls : Sendable calls := by decide
  obtain ⟨-, hlength, -, hclean⟩ := hsend hcalls
  refine ⟨hcalls, ?_, ?_, ?_, ?_⟩
  · exact (hlookup _ _).2 ⟨"X-Id".toList, by decide, by decide, by decide⟩
  · rw [halike _ (by decide)]
    decide
  · rw [hlength]
    decide
  · rw [hclean]
    intro h
    exact absurd (h.1 "x-id".toList) (by decide)

/-- The value that was given last is not the one looked up, both are sent, and so are two lengths. -/
theorem headers_contradict :
    let calls : List (Text × Text) :=
      [("X-Id", "1"), ("x-id", "2"), ("Content-Length", "7")].map fun call => (call.1.toList, call.2.toList)
    let a := ({ body := Utf8.encode "abc".toList } : Answer).withHeaders calls
    Sendable calls ∧
      given? (Text.same · "x-id".toList) calls = some "2".toList ∧ a.header? "x-id".toList = some "1".toList ∧
      a.build.values "x-id".toList = ["1".toList, "2".toList] ∧
      a.build.values HeaderName.contentLength = ["7".toList, "3".toList] := by
  decide +kernel

end Answer

end BatchExchange.Outer
