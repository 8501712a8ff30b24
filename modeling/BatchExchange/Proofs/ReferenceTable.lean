import BatchExchange.Proofs.ChangeSet
import BatchExchange.Proofs.Parts

/-!
# What a table of references holds

The table of a change set under way is known by the exchanges so far: under a Content-ID it holds the location
of the first exchange that had this Content-ID, was not refused and had a location.  What it holds stays, and
nothing from outside of the change set comes in.

* `Exchange.LocatedAt`, `Exchange.Records`: the location of an exchange, and what it records.
* `ReferenceTable.get?_learn`: what a table learns from an exchange.
* `Session.get?_table_after`: what it has learnt from some exchanges.
* `Session.table_of_earlier_members`: what a member sees.
-/

namespace BatchExchange

namespace Exchange

/-- Where the resource of an exchange is: a created one where its response says, by its location or else by
the identifier of its entity, and any other at the path that the processor was given. -/
inductive LocatedAt (x : Exchange) : Text → Prop
  | location {t : Text} (hpost : x.request.method = .post)
      (h : x.response.headers.value? HeaderName.location = some t) : LocatedAt x t
  | entity {t : Text} (hpost : x.request.method = .post)
      (hnone : x.response.headers.value? HeaderName.location = none)
      (h : x.response.headers.value? HeaderName.entityId = some t) : LocatedAt x t
  | path (hother : x.request.method ≠ .post) (hpath : x.request.path ≠ []) :
      LocatedAt x x.request.path

/-- What an exchange records: a location under its Content-ID, if it was not refused. -/
structure Records (x : Exchange) (id location : Text) : Prop where
  named : x.request.contentId? = some id
  accepted : x.response.status.toNat < 400
  located : x.LocatedAt location

theorem location?_eq_some_iff {x : Exchange} {t : Text} :
    ReferenceTable.location? x.request x.response = some t ↔ x.LocatedAt t := by
  rw [ReferenceTable.location?]
  constructor
  · intro h
    split at h
    · rename_i hpost
      rw [Option.or_eq_some_iff] at h
      rcases h with h | ⟨hnone, h⟩
      · exact .location hpost h
      · exact .entity hpost hnone h
    · rename_i hother
      split at h
      · cases h
      · rename_i hpath
        cases h
        exact .path hother hpath
  · intro h
    cases h with
    | location hpost h => rw [if_pos hpost, h, Option.some_or]
    | entity hpost hnone h => rw [if_pos hpost, hnone, h, Option.none_or]
    | path hother hpath => rw [if_neg hother, if_neg hpath]

/-- The location that an exchange records under a Content-ID. -/
def recorded? (id : Text) (x : Exchange) : Option Text :=
  if 400 ≤ x.response.status ∨ x.request.contentId? ≠ some id then none
  else ReferenceTable.location? x.request x.response

theorem recorded?_eq_some_iff {x : Exchange} {id location : Text} :
    x.recorded? id = some location ↔ x.Records id location := by
  have hstatus : x.response.status.toNat < 400 ↔ ¬400 ≤ x.response.status := by
    rw [UInt16.le_iff_toNat_le, Nat.not_le]
    rfl
  rw [recorded?]
  constructor
  · intro h
    split at h
    · cases h
    · rename_i hc
      rw [not_or, ← hstatus, Classical.not_not] at hc
      exact ⟨hc.2, hc.1, location?_eq_some_iff.1 h⟩
  · intro h
    have hc : ¬(400 ≤ x.response.status ∨ x.request.contentId? ≠ some id) := by
      rw [not_or, ← hstatus, Classical.not_not]
      exact ⟨h.accepted, h.named⟩
    rw [if_neg hc, location?_eq_some_iff]
    exact h.located

theorem recorded?_eq_none_iff {x : Exchange} {id : Text} :
    x.recorded? id = none ↔ ∀ location, ¬x.Records id location := by
  rw [Option.eq_none_iff_forall_not_mem]
  simp only [Option.mem_def, recorded?_eq_some_iff]

end Exchange

namespace ReferenceTable

theorem get?_eq_none_iff {table : ReferenceTable} {id : Text} :
    table.get? id = none ↔ id ∉ table.entries.map Prod.fst := by
  rw [get?, List.lookup_eq_none_iff, List.mem_map]
  simp only [bne_iff_ne, ne_eq, not_exists, not_and]
  exact ⟨fun h p hp e => h p hp e.symm, fun h p hp e => h p hp e.symm⟩

/-- **The first location recorded under a Content-ID stays.** -/
theorem get?_record (table : ReferenceTable) (id location other : Text) :
    (table.record id location).get? other
      = (table.get? other).or (if id = other then some location else none) := by
  rw [record]
  split
  · rename_i hmem
    by_cases hid : id = other
    · subst hid
      have hsome : table.get? id ≠ none := fun h => get?_eq_none_iff.1 h hmem
      obtain ⟨first, hfirst⟩ := Option.ne_none_iff_exists'.1 hsome
      rw [hfirst, Option.some_or]
    · rw [if_neg hid, Option.or_none]
  · show (table.entries ++ [(id, location)]).lookup other = _
    rw [List.lookup_append, ← get?, List.lookup_cons, List.lookup_nil]
    by_cases hid : id = other
    · simp [hid]
    · have hother : (other == id) = false := by rw [beq_eq_false_iff_ne]; exact Ne.symm hid
      rw [hother, if_neg hid]

/-- **What a table learns from an exchange**, unless it holds something already. -/
theorem get?_learn (table : ReferenceTable) (x : Exchange) (id : Text) :
    (table.learn x.request x.response).get? id = (table.get? id).or (x.recorded? id) := by
  rw [learn, Exchange.recorded?]
  by_cases hrefused : 400 ≤ x.response.status
  · rw [if_pos hrefused, if_pos (.inl hrefused), Option.or_none]
  · rw [if_neg hrefused]
    cases hid : x.request.contentId? with
    | none =>
      have hother : (none : Option Text) ≠ some id := nofun
      rw [if_pos (.inr hother), Option.or_none]
    | some own =>
      cases hlocation : location? x.request x.response with
      | none =>
        dsimp only
        rw [ite_self, Option.or_none]
      | some location =>
        dsimp only
        rw [get?_record]
        by_cases hown : own = id
        · subst hown
          simp [hrefused]
        · simp [hown]

end ReferenceTable

section Answer

variable {σ : Type} (answer : Request → σ → Response × σ)

namespace Session

/-- **What a table has learnt** when some members have been answered: for each Content-ID, what the first of
their exchanges recorded that recorded anything under it. -/
theorem get?_table_after (rs : List Request) (s : Session σ) (id : Text) :
    (after answer rs s).table.get? id
      = (s.table.get? id).or ((exchanges answer rs s).findSome? (Exchange.recorded? id)) := by
  induction rs generalizing s with
  | nil => rw [exchanges_nil, List.findSome?_nil, Option.or_none, after_nil]
  | cons r rs ih =>
    have hlearn : (handle answer r s).2.table
        = s.table.learn (exchange answer r s).request (exchange answer r s).response := rfl
    rw [after_cons, ih, hlearn, ReferenceTable.get?_learn, exchanges_cons, Option.or_assoc]
    congr 1
    rw [List.findSome?_cons]
    cases (exchange answer r s).recorded? id with
    | none => rw [Option.none_or]
    | some location => rw [Option.some_or]

/-- A table that began empty, by what the exchanges so far recorded. -/
theorem get?_table_eq_some_iff (rs : List Request) (s : σ) {id location : Text} :
    (after answer rs { state := s }).table.get? id = some location ↔
      ∃ before x after, exchanges answer rs { state := s } = before ++ x :: after ∧
        x.Records id location ∧ ∀ y ∈ before, ∀ l, ¬y.Records id l := by
  have hempty : ({} : ReferenceTable).get? id = none := rfl
  rw [get?_table_after, hempty, Option.none_or, List.findSome?_eq_some_iff]
  simp only [Exchange.recorded?_eq_some_iff, Exchange.recorded?_eq_none_iff]

/-- **A location that is recorded stays**, whatever members come. -/
theorem get?_table_after_of_some {s : Session σ} {id location : Text}
    (h : s.table.get? id = some location) (later : List Request) :
    (after answer later s).table.get? id = some location := by
  rw [get?_table_after, h, Option.some_or]

end Session

/-- Where a request comes from that reaches a processor while parts are handled: it is a part on its own, or
a member of a change set that sees what the members in front of it recorded. -/
inductive ComesFrom (parts : List (Part Request)) : Request → Prop
  | single {r : Request} (h : .single r ∈ parts) : ComesFrom parts r
  | member {earlier later : List Request} {r : Request} (s : σ)
      (h : .changeSet (earlier ++ r :: later) ∈ parts) :
      ComesFrom parts (r.expand (Session.after answer earlier { state := s }).table)

/-- What is exchanged over a part comes from it. -/
theorem Processor.part_exchanging {parts : List (Part Request)} {q : Part Request} (hq : q ∈ parts) (s : σ)
    (log : List Exchange) :
    ∃ kept, ({ answer := exchanging answer } : Processor (σ × List Exchange)).part q (s, log)
        = ((({ answer } : Processor σ).part q s).1, (({ answer } : Processor σ).part q s).2, log ++ kept) ∧
      ∀ x ∈ kept, ComesFrom answer parts x.request := by
  cases q with
  | single r => exact ⟨[⟨r, (answer r s).1⟩], rfl, List.forall_mem_singleton.2 (.single hq)⟩
  | changeSet rs =>
    obtain ⟨done, out, hcut, hplain, hkept⟩ := part_changeSet_cut answer rs s log
    refine ⟨Session.exchanges answer done { state := s }, by rw [hkept, hplain], fun x hx => ?_⟩
    obtain ⟨earlier, r, later, rfl, rfl⟩ := hcut.exists_of_mem answer hx
    exact .member s hq

/-- **References stay within their change set** while parts are handled. -/
theorem Processor.comesFrom_of_mem_parts (continueOnError : Bool) (parts : List (Part Request)) (s : σ) :
    ∀ x ∈ (({ answer := exchanging answer } : Processor (σ × List Exchange)).parts continueOnError
      parts (s, [])).2.2, ComesFrom answer parts x.request := by
  obtain ⟨kept, hrun, hfrom⟩ := parts_keeping { answer } { answer := exchanging answer }
    (fun _ hq => part_exchanging answer hq) s []
  rw [hrun]
  exact hfrom

/-- **A member sees what the members in front of it recorded, and nothing else.**  Under a Content-ID it is
the location of the first of them that had this Content-ID, was answered with a status below 400 and had a
location; it is kept from then on.  The processor is given the member with these locations in place of its
references.  What other parts of a batch record is not seen. -/
theorem Session.table_of_earlier_members :
    (∀ (s : σ) (earlier : List Request) (r : Request),
      let session := after (exchanging answer) earlier { state := (s, []) }
      let exchanges := session.state.2
      exchanges.map (fun x => x.request.contentId?) = earlier.map Request.contentId? ∧
        (handle (exchanging answer) r session).2.state.2
          = exchanges ++ [⟨r.expand session.table,
              (answer (r.expand session.table) session.state.1).1⟩] ∧
        (∀ id location, session.table.get? id = some location ↔
          ∃ before x after, exchanges = before ++ x :: after ∧ x.Records id location ∧
            ∀ y ∈ before, ∀ other, ¬y.Records id other) ∧
        ∀ later id location, session.table.get? id = some location →
          (after (exchanging answer) later session).table.get? id = some location) ∧
      ∀ (continueOnError : Bool) (parts : List (Part Request)) (s : σ),
        ∀ x ∈ (({ answer := exchanging answer } : Processor (σ × List Exchange)).parts continueOnError
          parts (s, [])).2.2, ComesFrom answer parts x.request := by
  refine ⟨fun s earlier r => ?_, Processor.comesFrom_of_mem_parts answer⟩
  intro session exchanges
  have hsession : session = (after answer earlier { state := s }).withLog
      (Session.exchanges answer earlier { state := s }) := after_withLog answer earlier { state := s } []
  have hexchanges : exchanges = Session.exchanges answer earlier { state := s } :=
    congrArg (fun session => session.state.2) hsession
  refine ⟨?_, ?_, ?_, ?_⟩
  · rw [hexchanges, contentIds_exchanges]
  · rw [hsession, hexchanges, exchanging, handle_withLog]
    rfl
  · intro id location
    rw [hsession, hexchanges]
    exact get?_table_eq_some_iff answer earlier s
  · intro later id location
    exact fun h => get?_table_after_of_some (exchanging answer) h later

end Answer

/-- Of two members with one Content-ID the first is created at `/Items(0)`, and this is where the second, which
refers to it, goes. -/
theorem Session.table_of_earlier_members_created :
    let answer : Request → Nat → Response × Nat := fun _ n =>
      ({ status := 201
         headers := .ofList [(HeaderName.location, "/Items(".toList ++ Decimal.write n ++ ")".toList)] },
        n + 1)
    let member (path : String) : Request :=
      { Request.of .post [] path.toList with headers := .ofList [(HeaderName.contentId, ['1'])] }
    let session := after (exchanging answer) [member "/Items", member "/$1/Parts"] { state := (0, []) }
    let exchanges := session.state.2
    exchanges.map (fun x => x.request.path) = ["/Items".toList, "/Items(0)/Parts".toList] ∧
      session.table.get? ['1'] = some "/Items(0)".toList ∧
      ∃ before x after, exchanges = before ++ x :: after ∧ x.Records ['1'] "/Items(0)".toList ∧
        ∀ y ∈ before, ∀ other, ¬y.Records ['1'] other := by
  intro answer member session exchanges
  have hpaths : exchanges.map (fun x => x.request.path) = ["/Items".toList, "/Items(0)/Parts".toList] := by
    decide +kernel
  have hfirst : session.table.get? ['1'] = some "/Items(0)".toList := by decide +kernel
  have hseen := ((table_of_earlier_members answer).1 0 [member "/Items", member "/$1/Parts"]
    (member "/$1")).2.2.1 ['1'] "/Items(0)".toList
  exact ⟨hpaths, hfirst, hseen.1 hfirst⟩

end BatchExchange
