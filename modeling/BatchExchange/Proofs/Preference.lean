import BatchExchange.Outer.Envelope
import BatchExchange.Proofs.Text

/-!
# Preferences over many lines

`Prefer` may be sent on any number of lines, each with any number of preferences.  What the lines say about
continuing after an error depends on the preferences alone, one after the other: the last one that says anything
decides, and those that say nothing might as well be missing.

* `Preference.Says`: what one preference says, by its form; `Preference.read?_eq_some_iff` reads it so.
* `Preference.Silent`: a preference of another name, or one with a value that is neither `true` nor `false`.
* `Preference.ofValues_eq_some_iff`: the last preference that says something decides.
* `Preference.ofValues_compositional`: lines taken together, lines taken apart, and silent preferences left out.
* `Outer.Envelope.continueOnError_append`, `Outer.Envelope.continueOnError_comma`: the same of header lines.
-/

namespace BatchExchange.Preference

/-- The value that asks for it, or against it. -/
def word (go : Bool) : Text := if go then "true".toList else "false".toList

/-- A preference that asks to go on after an error, or not to: the name alone, or the name and a value, in any
case, with any white space around them, any quotes around the value and any parameters behind a semicolon. -/
inductive Says : Text → Bool → Prop
  | alone {before name after params : Text} (hbefore : ∀ c ∈ before, Text.isBlank c)
      (hname : Text.same name continueOnError) (hafter : ∀ c ∈ after, Text.isBlank c)
      (hparams : ∀ c ∈ params.head?, c = ';') : Says (before ++ name ++ after ++ params) true
  | valued {before name behind front opening value closing after params : Text} {go : Bool}
      (hbefore : ∀ c ∈ before, Text.isBlank c) (hname : Text.same name continueOnError)
      (hbehind : ∀ c ∈ behind, Text.isBlank c) (hfront : ∀ c ∈ front, Text.isBlank c)
      (hopening : ∀ c ∈ opening, c = '"') (hvalue : Text.same value (word go))
      (hclosing : ∀ c ∈ closing, c = '"') (hafter : ∀ c ∈ after, Text.isBlank c)
      (hparams : ∀ c ∈ params.head?, c = ';') :
      Says (before ++ name ++ behind ++ '=' :: (front ++ (opening ++ value ++ closing) ++ after) ++ params) go

/-- A preference that says nothing about continuing. -/
def Silent (preference : Text) : Prop := ∀ go, ¬Says preference go

/-! ### Words -/

/-- What parts the pieces of a preference: white space, semicolons, equals signs and quotes. -/
def isMark (c : Char) : Bool := Text.isBlank c || c = ';' || c = '=' || c = '"'

theorem toLower_of_isMark {c : Char} (h : isMark c) : c.toLower = c := by
  apply Text.toLower_of_not_upper
  rintro ⟨hlow, hhigh⟩
  have hc : c.toNat < 128 := by omega
  exact absurd h (Text.ascii_cases (p := fun c => 65 ≤ c.toNat → c.toNat ≤ 90 → ¬isMark c) (by decide) hc hlow hhigh)

/-- A word has no marks in any spelling. -/
theorem not_isMark_of_same {s t : Text} (h : Text.same s t) (ht : ∀ c ∈ t.foldCase, isMark c = false) :
    ∀ c ∈ s, isMark c = false := by
  intro c hc
  have hmem : c.toLower ∈ t.foldCase := by
    rw [← Text.same_iff.1 h]
    exact List.mem_map_of_mem hc
  by_contra hmark
  rw [Bool.not_eq_false] at hmark
  rw [toLower_of_isMark hmark] at hmem
  rw [ht c hmem] at hmark
  cases hmark

theorem not_isMark_of_name {name : Text} (h : Text.same name continueOnError) : ∀ c ∈ name, isMark c = false :=
  not_isMark_of_same h (forall_mem_of_all (by decide))

theorem not_isMark_of_word {value : Text} {go : Bool} (h : Text.same value (word go)) :
    ∀ c ∈ value, isMark c = false := by
  refine not_isMark_of_same h (forall_mem_of_all ?_)
  cases go <;> decide

theorem ne_nil_of_same {s t : Text} (h : Text.same s t) (ht : t ≠ []) : s ≠ [] := by
  rintro rfl
  rw [Text.same_iff] at h
  exact ht (List.map_eq_nil_iff.1 h.symm)

/-! ### One preference -/

/-- What a preference says once its parameters and the white space around it are gone. -/
def readBare? (t : Text) : Option Bool :=
  match cut? '=' t with
  | none => if Text.same t continueOnError then some true else none
  | some (name, value) =>
    if Text.same (Text.trim name) continueOnError then
      let value := withoutQuotes (Text.trim value)
      if Text.same value (word true) then some true
      else if Text.same value (word false) then some false
      else none
    else none

theorem read?_eq (preference : Text) :
    read? preference = readBare? (Text.trim (preference.takeWhile (· ≠ ';'))) := by
  rw [read?, readBare?]
  cases cut? '=' (Text.trim (preference.takeWhile (· ≠ ';'))) <;> rfl

/-- The parameters of a preference do not matter. -/
theorem read?_append {t params : Text} (ht : ';' ∉ t) (hparams : ∀ c ∈ params.head?, c = ';') :
    read? (t ++ params) = readBare? (Text.trim t) := by
  rw [read?_eq, takeWhile_append_of_ends]
  · intro c hc
    rw [decide_eq_true_eq]
    rintro rfl
    exact ht hc
  · intro c hc
    rw [hparams c hc]
    rfl

theorem word_injective {value : Text} {go go' : Bool} (h : Text.same value (word go))
    (h' : Text.same value (word go')) : go = go' := by
  rw [Text.same_iff] at h h'
  rw [h] at h'
  revert h'
  cases go <;> cases go' <;> decide

theorem readBare?_valued {name value : Text} {go : Bool} (hcut : '=' ∉ name)
    (hname : Text.same (Text.trim name) continueOnError)
    (hvalue : Text.same (withoutQuotes (Text.trim value)) (word go)) :
    readBare? (name ++ '=' :: value) = some go := by
  rw [readBare?, cut?_eq_some_iff.2 ⟨rfl, hcut⟩]
  dsimp only
  rw [if_pos hname]
  cases go with
  | true => rw [if_pos hvalue]
  | false =>
    have hnot : ¬Text.same (withoutQuotes (Text.trim value)) (word true) := by
      intro htrue
      cases word_injective htrue hvalue
    rw [if_neg hnot, if_pos hvalue]

theorem readBare?_eq_some {t : Text} {go : Bool} (h : readBare? t = some go) :
    (Text.same t continueOnError ∧ go = true) ∨
      ∃ name value, t = name ++ '=' :: value ∧ Text.same (Text.trim name) continueOnError ∧
        Text.same (withoutQuotes (Text.trim value)) (word go) := by
  rw [readBare?] at h
  cases hcut : cut? '=' t with
  | none =>
    rw [hcut] at h
    dsimp only at h
    split_ifs at h with hname
    exact .inl ⟨hname, (Option.some.inj h).symm⟩
  | some pair =>
    obtain ⟨name, value⟩ := pair
    rw [hcut] at h
    dsimp only at h
    split_ifs at h with hname htrue hfalse
    · cases h
      exact .inr ⟨name, value, (cut?_eq_some_iff.1 hcut).1, hname, htrue⟩
    · cases h
      exact .inr ⟨name, value, (cut?_eq_some_iff.1 hcut).1, hname, hfalse⟩

/-! ### What a preference says -/

theorem isMark_of_isBlank {c : Char} (h : Text.isBlank c) : isMark c := by
  rw [isMark, h]
  rfl

theorem isBlank_eq_false {c : Char} (h : isMark c = false) : Text.isBlank c = false := by
  rw [← Bool.not_eq_true]
  intro hblank
  rw [isMark_of_isBlank hblank] at h
  cases h

theorem not_mem_of_not_isMark {t : Text} (h : ∀ c ∈ t, isMark c = false) {c : Char} (hc : isMark c) : c ∉ t := by
  intro hmem
  rw [h c hmem] at hc
  cases hc

theorem not_mem_of_isBlank {t : Text} (h : ∀ c ∈ t, Text.isBlank c) {c : Char} (hc : Text.isBlank c = false) :
    c ∉ t := by
  intro hmem
  rw [h c hmem] at hc
  cases hc

/-- White space around a text that has none at its ends is all that is trimmed. -/
theorem trim_padded {front kept tail : Text} (hfront : ∀ c ∈ front, Text.isBlank c)
    (hkept : ∀ c ∈ kept, Text.isBlank c = false) (htail : ∀ c ∈ tail, Text.isBlank c) :
    Text.trim (front ++ kept ++ tail) = kept :=
  Text.trim_eq_iff.2 ⟨fun c hc => hkept c (List.mem_of_mem_head? hc),
    fun c hc => hkept c (List.mem_of_mem_getLast? hc), front, tail, hfront, htail, rfl⟩

/-- Quotes around a text that has none are all that is taken off. -/
theorem withoutQuotes_quoted {opening value closing : Text} (hopening : ∀ c ∈ opening, c = '"')
    (hvalue : ∀ c ∈ value, isMark c = false) (hclosing : ∀ c ∈ closing, c = '"') :
    withoutQuotes (opening ++ value ++ closing) = value := by
  have hnot : ∀ c ∈ value, decide (c = '"') = false := by
    intro c hc
    rw [decide_eq_false_iff_not]
    rintro rfl
    exact absurd hc (not_mem_of_not_isMark hvalue (by decide))
  refine dropTail_dropWhile_eq_iff.2 ⟨fun c hc => hnot c (List.mem_of_mem_head? hc),
    fun c hc => hnot c (List.mem_of_mem_getLast? hc), opening, closing, ?_, ?_, rfl⟩
  · exact fun c hc => decide_eq_true (hopening c hc)
  · exact fun c hc => decide_eq_true (hclosing c hc)

theorem read?_of_alone {before name after params : Text} (hbefore : ∀ c ∈ before, Text.isBlank c)
    (hname : Text.same name continueOnError) (hafter : ∀ c ∈ after, Text.isBlank c)
    (hparams : ∀ c ∈ params.head?, c = ';') : read? (before ++ name ++ after ++ params) = some true := by
  have hmarks := not_isMark_of_name hname
  have hsemicolon : ';' ∉ before ++ name ++ after := by
    simp only [List.mem_append, not_or]
    exact ⟨⟨not_mem_of_isBlank hbefore (by decide), not_mem_of_not_isMark hmarks (by decide)⟩,
      not_mem_of_isBlank hafter (by decide)⟩
  have hcut : cut? '=' name = none := cut?_eq_none_iff.2 (not_mem_of_not_isMark hmarks (by decide))
  rw [read?_append hsemicolon hparams, trim_padded hbefore (fun c hc => isBlank_eq_false (hmarks c hc)) hafter,
    readBare?, hcut]
  exact if_pos hname

theorem read?_of_valued {before name behind front value after params : Text} {go : Bool}
    (hbefore : ∀ c ∈ before, Text.isBlank c) (hname : Text.same name continueOnError)
    (hbehind : ∀ c ∈ behind, Text.isBlank c) (hfront : ∀ c ∈ front, Text.isBlank c) (hne : value ≠ [])
    (hplain : ∀ c ∈ value, c ≠ ';' ∧ Text.isBlank c = false)
    (hvalue : Text.same (withoutQuotes value) (word go)) (hafter : ∀ c ∈ after, Text.isBlank c)
    (hparams : ∀ c ∈ params.head?, c = ';') :
    read? (before ++ name ++ behind ++ '=' :: (front ++ value ++ after) ++ params) = some go := by
  have hmarks := not_isMark_of_name hname
  have hsemicolon : ';' ∉ before ++ name ++ behind ++ '=' :: (front ++ value ++ after) := by
    simp only [List.mem_append, List.mem_cons]
    rintro (((h | h) | h) | h | (h | h) | h)
    · exact not_mem_of_isBlank hbefore (by decide) h
    · exact not_mem_of_not_isMark hmarks (by decide) h
    · exact not_mem_of_isBlank hbehind (by decide) h
    · cases h
    · exact not_mem_of_isBlank hfront (by decide) h
    · exact (hplain _ h).1 rfl
    · exact not_mem_of_isBlank hafter (by decide) h
  have hcut : '=' ∉ name ++ behind := by
    rw [List.mem_append, not_or]
    exact ⟨not_mem_of_not_isMark hmarks (by decide), not_mem_of_isBlank hbehind (by decide)⟩
  have hkept : Text.trim (before ++ name ++ behind ++ '=' :: (front ++ value ++ after))
      = name ++ behind ++ '=' :: (front ++ value) := by
    refine Text.trim_eq_iff.2 ⟨?_, ?_, before, after, hbefore, hafter, by simp⟩
    · intro c hc
      rw [List.append_assoc, List.head?_append_of_ne_nil _ (ne_nil_of_same hname (by decide))] at hc
      exact isBlank_eq_false (hmarks c (List.mem_of_mem_head? hc))
    · intro c hc
      rw [← List.cons_append, ← List.append_assoc, List.getLast?_append_of_ne_nil _ hne] at hc
      exact (hplain c (List.mem_of_mem_getLast? hc)).2
  have hnameTrim : Text.trim (name ++ behind) = name := by
    rw [← List.nil_append name]
    exact trim_padded (by simp) (fun c hc => isBlank_eq_false (hmarks c hc)) hbehind
  have hvalueTrim : Text.trim (front ++ value) = value := by
    rw [← List.append_nil (front ++ value)]
    exact trim_padded hfront (fun c hc => (hplain c hc).2) (by simp)
  rw [read?_append hsemicolon hparams, hkept]
  refine readBare?_valued hcut ?_ ?_
  · rwa [hnameTrim]
  · rwa [hvalueTrim]

theorem read?_of_says {preference : Text} {go : Bool} (h : Says preference go) : read? preference = some go := by
  cases h with
  | alone hbefore hname hafter hparams => exact read?_of_alone hbefore hname hafter hparams
  | @valued _ _ _ _ opening value closing _ _ _ hbefore hname hbehind hfront hopening hvalue hclosing hafter hparams =>
    have hmarks := not_isMark_of_word hvalue
    have hne : value ≠ [] := ne_nil_of_same hvalue (by cases go <;> decide)
    have hplain : ∀ c ∈ opening ++ value ++ closing, c ≠ ';' ∧ Text.isBlank c = false := by
      intro c hc
      simp only [List.mem_append] at hc
      rcases hc with (hc | hc) | hc
      · rw [hopening c hc]
        decide
      · refine ⟨?_, isBlank_eq_false (hmarks c hc)⟩
        rintro rfl
        exact not_mem_of_not_isMark hmarks (by decide) hc
      · rw [hclosing c hc]
        decide
    refine read?_of_valued hbefore hname hbehind hfront (by simp [hne]) hplain ?_ hafter hparams
    rwa [withoutQuotes_quoted hopening hmarks hclosing]

/-- **A preference is read by its form.** -/
theorem read?_eq_some_iff {preference : Text} {go : Bool} : read? preference = some go ↔ Says preference go := by
  refine ⟨fun h => ?_, read?_of_says⟩
  obtain ⟨-, -, before, after, hbefore, hafter, hhead⟩ :=
    Text.trim_eq_iff.1 (rfl : Text.trim (preference.takeWhile (· ≠ ';')) = _)
  have hparams : ∀ c ∈ (preference.dropWhile (· ≠ ';')).head?, c = ';' := by
    intro c hc
    simpa using not_of_mem_head?_dropWhile c hc
  have hsplit : preference = preference.takeWhile (· ≠ ';') ++ preference.dropWhile (· ≠ ';') :=
    List.takeWhile_append_dropWhile.symm
  rw [read?_eq] at h
  rw [hsplit, hhead]
  rcases readBare?_eq_some h with ⟨hname, rfl⟩ | ⟨name, value, htrim, hname, hvalue⟩
  · exact .alone hbefore hname hafter hparams
  · obtain ⟨-, -, before', behind, hbefore', hbehind, hname'⟩ := Text.trim_eq_iff.1 (rfl : Text.trim name = _)
    obtain ⟨-, -, front, after', hfront, hafter', hvalue'⟩ := Text.trim_eq_iff.1 (rfl : Text.trim value = _)
    obtain ⟨-, -, opening, closing, hopening, hclosing, hquoted⟩ :=
      dropTail_dropWhile_eq_iff.1 (rfl : withoutQuotes (Text.trim value) = _)
    have hform : before ++ (name ++ '=' :: value) ++ after
        = before ++ before' ++ Text.trim name ++ behind ++ '=' :: (front ++ Text.trim value ++ (after' ++ after)) := by
      calc before ++ (name ++ '=' :: value) ++ after
          = before ++ (before' ++ Text.trim name ++ behind ++ '=' :: (front ++ Text.trim value ++ after')) ++ after := by
            rw [← hname', ← hvalue']
        _ = _ := by simp
    rw [htrim, hform, hquoted]
    exact .valued (List.forall_mem_append.2 ⟨hbefore, hbefore'⟩) hname hbehind hfront
      (fun c hc => of_decide_eq_true (hopening c hc)) hvalue
      (fun c hc => of_decide_eq_true (hclosing c hc)) (List.forall_mem_append.2 ⟨hafter', hafter⟩) hparams

example : read? " OData.Continue-On-Error = \"FALSE\" ; q=1".toList = some false := by decide

example : read? "odata.continue-on-error=maybe".toList = none := by decide

/-! ### All preferences -/

theorem silent_iff {preference : Text} : Silent preference ↔ read? preference = none := by
  rw [Option.eq_none_iff_forall_ne_some]
  exact forall_congr' fun go => not_congr read?_eq_some_iff.symm

/-- The preferences of some values, one after the other. -/
def listed (values : List Text) : List Text := values.flatMap (·.splitOn ',')

theorem listed_append (xs ys : List Text) : listed (xs ++ ys) = listed xs ++ listed ys := List.flatMap_append

/-- A comma parts preferences as the end of a value does. -/
theorem listed_comma (a b : Text) (values : List Text) :
    listed ((a ++ ',' :: b) :: values) = listed (a :: b :: values) := by
  simp only [listed, List.flatMap_cons, List.splitOn_append_cons_self, List.append_assoc]

theorem listed_intercalate {values : List Text} (h : values ≠ []) :
    listed [[','].intercalate values] = listed values := by
  induction values with
  | nil => exact absurd rfl h
  | cons a values ih =>
    cases values with
    | nil => rw [List.intercalate_singleton]
    | cons b values =>
      rw [List.intercalate_cons_cons, List.append_assoc, List.singleton_append, listed_comma,
        ← List.singleton_append, listed_append, ih (by simp), ← listed_append, List.singleton_append]

theorem ofValues_eq (values : List Text) : ofValues values = (listed values).reverse.findSome? read? :=
  List.getLast?_filterMap

/-- **The last preference that says something decides.** -/
theorem ofValues_eq_some_iff {values : List Text} {go : Bool} :
    ofValues values = some go ↔
      ∃ before p after, listed values = before ++ p :: after ∧ Says p go ∧ ∀ q ∈ after, Silent q := by
  rw [ofValues_eq, List.findSome?_eq_some_iff]
  constructor
  · rintro ⟨after, p, before, hlisted, hp, hafter⟩
    refine ⟨before.reverse, p, after.reverse, ?_, read?_eq_some_iff.1 hp, ?_⟩
    · rw [List.reverse_eq_iff] at hlisted
      rw [hlisted]
      simp
    · exact fun q hq => silent_iff.2 (hafter q (List.mem_reverse.1 hq))
  · rintro ⟨before, p, after, hlisted, hp, hafter⟩
    refine ⟨after.reverse, p, before.reverse, ?_, read?_eq_some_iff.2 hp, ?_⟩
    · rw [hlisted]
      simp
    · exact fun q hq => silent_iff.1 (hafter q (List.mem_reverse.1 hq))

theorem ofValues_eq_none_iff {values : List Text} :
    ofValues values = none ↔ ∀ q ∈ listed values, Silent q := by
  rw [ofValues_eq, List.findSome?_eq_none_iff]
  simp only [List.mem_reverse, silent_iff]

theorem ofValues_append (xs ys : List Text) : ofValues (xs ++ ys) = (ofValues ys).or (ofValues xs) := by
  rw [ofValues_eq, listed_append, List.reverse_append, List.findSome?_append, ← ofValues_eq, ← ofValues_eq]

theorem ofValues_comma (a b : Text) (values : List Text) :
    ofValues ((a ++ ',' :: b) :: values) = ofValues (a :: b :: values) := by
  rw [ofValues_eq, listed_comma, ← ofValues_eq]

/-- **How preferences are spread over lines does not matter.**  Lines taken together say what the later ones say,
or else what the earlier ones say; a line may be taken apart at a comma, in any place, and all lines may be joined
by commas.  The last preference that asks to go on, or not to, decides, and one that says nothing about it neither
decides nor keeps another one from deciding. -/
theorem ofValues_compositional :
    (∀ xs ys, ofValues (xs ++ ys) = (ofValues ys).or (ofValues xs)) ∧
    (∀ xs a b ys, ofValues (xs ++ (a ++ ',' :: b) :: ys) = ofValues (xs ++ a :: b :: ys)) ∧
    (∀ values, ofValues [[','].intercalate values] = ofValues values) ∧
    (∀ values go, ofValues values = some go ↔
      ∃ before p after, listed values = before ++ p :: after ∧ Says p go ∧ ∀ q ∈ after, Silent q) ∧
    (∀ values, ofValues values = none ↔ ∀ q ∈ listed values, Silent q) ∧
    ∀ xs ys zs, (∀ q ∈ listed ys, Silent q) → ofValues (xs ++ ys ++ zs) = ofValues (xs ++ zs) := by
  refine ⟨ofValues_append, ?_, ?_, fun _ _ => ofValues_eq_some_iff, fun _ => ofValues_eq_none_iff, ?_⟩
  · intro xs a b ys
    rw [ofValues_append, ofValues_comma, ← ofValues_append]
  · intro values
    cases values with
    | nil => rfl
    | cons a values => rw [ofValues_eq, listed_intercalate (by simp), ← ofValues_eq]
  · intro xs ys zs hsilent
    rw [ofValues_append, ofValues_append xs ys, ofValues_eq_none_iff.2 hsilent, Option.none_or, ofValues_append]

/-- Lines of which the middle one holds a malformed value, another preference and nothing at all. -/
theorem ofValues_compositional_malformed :
    let first : Text := "respond-async, odata.continue-on-error".toList
    let middle : Text := "odata.continue-on-error=maybe; q=1,return=minimal,,".toList
    let last : Text := "odata.maxpagesize=10".toList
    (∀ q ∈ listed [middle], Silent q) ∧ ofValues ([first] ++ [middle] ++ [last]) = ofValues ([first] ++ [last]) ∧
      ofValues ([first] ++ [last]) = some true := by
  intro first middle last
  have hsilent : ∀ q ∈ listed [middle], Silent q := by
    simp only [silent_iff]
    decide +kernel
  exact ⟨hsilent, ofValues_compositional.2.2.2.2.2 _ _ _ hsilent, by decide +kernel⟩

end BatchExchange.Preference

/-! ### Header lines -/

namespace BatchExchange.Outer.Envelope

theorem values_append (hs ks : List (Text × Bytes)) (name : Text) :
    values (hs ++ ks) name = values hs name ++ values ks name := by
  rw [values, List.filter_append, List.map_append]
  rfl

theorem values_cons (other : Text) (value : Bytes) (hs : List (Text × Bytes)) (name : Text) :
    values ((other, value) :: hs) name = if Text.same other name then value :: values hs name else values hs name := by
  rw [values, List.filter_cons]
  split <;> rfl

theorem visible?_comma {a b : Bytes} {s t : Text} (ha : visible? a = some s) (hb : visible? b = some t) :
    visible? (a ++ 44 :: b) = some (s ++ ',' :: t) := by
  rw [visible?] at ha hb ⊢
  split_ifs at ha hb with hall hall'
  cases ha
  cases hb
  have hvisible : (a ++ 44 :: b).all fun o => (32 ≤ o && o < 127) || o == 9 := by
    rw [List.all_append, List.all_cons, hall, hall']
    rfl
  rw [if_pos hvisible, List.map_append, List.map_cons]
  rfl

/-- Later header lines decide, or else the earlier ones do. -/
theorem continueOnError_append (hs ks : List (Text × Bytes)) :
    (ofHeaders (hs ++ ks)).continueOnError = (ofHeaders ks).continueOnError.or (ofHeaders hs).continueOnError := by
  show Preference.ofValues _ = (Preference.ofValues _).or (Preference.ofValues _)
  rw [values_append, List.filterMap_append, Preference.ofValues_append]

/-- **A header line may be taken apart at a comma**, if both of its parts are visible. -/
theorem continueOnError_comma {a b : Bytes} (ha : (visible? a).isSome) (hb : (visible? b).isSome) (name : Text)
    (hs ks : List (Text × Bytes)) :
    (ofHeaders (hs ++ (name, a ++ 44 :: b) :: ks)).continueOnError
      = (ofHeaders (hs ++ (name, a) :: (name, b) :: ks)).continueOnError := by
  obtain ⟨s, hs'⟩ := Option.isSome_iff_exists.1 ha
  obtain ⟨t, ht⟩ := Option.isSome_iff_exists.1 hb
  have hlines : (ofHeaders [(name, a ++ 44 :: b)]).continueOnError
      = (ofHeaders [(name, a), (name, b)]).continueOnError := by
    show Preference.ofValues _ = Preference.ofValues _
    simp only [values_cons]
    split
    · rw [List.filterMap_cons_some (visible?_comma hs' ht), List.filterMap_cons_some hs', List.filterMap_cons_some ht]
      exact Preference.ofValues_comma s t []
    · rfl
  rw [continueOnError_append, ← List.singleton_append, continueOnError_append, hlines, ← continueOnError_append,
    ← continueOnError_append]
  rfl

end BatchExchange.Outer.Envelope
