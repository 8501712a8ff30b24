import BatchExchange.Proofs.HeaderBlock

/-!
# What stands in a part

Behind the header block of a part stands either a message, which has a start line, a header block and a body
of its own, or a change set, which has delimiters of its own.  Requests and responses are written alike.

* `Message.avoids_write`, `Nested.avoids_write`: what is written has no delimiter of the boundaries around it.
* `Message.read_write`: the header blocks, the start line and the body of a message are found again.
* `Nested.read_write`: so are the header block and the members of a change set.
-/

namespace BatchExchange

open Line (raw split IsWhole IsOneLine)
open Response (crlf writeLine writeDelimiter writeClose)
open Segment (Avoids frame trimEnding)

/-- A message and the headers of the part around it. -/
structure Message where
  part : List (Text × Text)
  start : Text
  headers : List (Text × Text)
  body : Bytes

namespace Message

def write (m : Message) : Bytes :=
  HeaderBlock.write m.part ++ (crlf ++ (writeLine m.start ++ (HeaderBlock.write m.headers
    ++ (crlf ++ (m.body ++ crlf)))))

/-- A message whose lines can be told from the delimiters around it. -/
structure Fits (boundaries : List Text) (m : Message) : Prop where
  part : ∀ p ∈ m.part, HeaderBlock.IsWritable p.1 p.2
  oneLine : IsOneLine m.start
  hyphens : after? "--".toList m.start = none
  headers : ∀ p ∈ m.headers, HeaderBlock.IsWritable p.1 p.2
  body : ∀ b ∈ boundaries, Avoids b (m.body ++ crlf)

theorem isWhole_write (m : Message) : IsWhole m.write := by
  rw [write]
  simp only [← List.append_assoc]
  exact Line.isWhole_crlf _

section Fits

variable {boundaries : List Text} {m : Message} (h : m.Fits boundaries)

include h

theorem split_write :
    split m.write = m.part.map (fun p => (Utf8.encode (HeaderBlock.lineOf p), .crlf))
      ++ ([], .crlf) :: (Utf8.encode m.start, .crlf)
      :: (m.headers.map (fun p => (Utf8.encode (HeaderBlock.lineOf p), .crlf))
        ++ ([], .crlf) :: split (m.body ++ crlf)) := by
  have blank : ∀ rest, split (crlf ++ rest) = ([], .crlf) :: split rest := fun _ => rfl
  rw [write, HeaderBlock.split_write h.part, blank, Line.split_writeLine h.oneLine,
    HeaderBlock.split_write h.headers, blank]

/-- No line of a message is a delimiter that its body avoids. -/
theorem avoids_write {b : Text} (hb : b ∈ boundaries) : Avoids b m.write := by
  have blank : Avoids b crlf := Segment.avoids_writeLine (t := []) (by decide) (by decide)
  rw [write]
  refine (HeaderBlock.avoids_write h.part b).append (HeaderBlock.isWhole_write h.part) ?_
  refine blank.append (Line.isWhole_crlf []) ?_
  refine (Segment.avoids_writeLine h.oneLine h.hyphens).append (Line.isWhole_writeLine _) ?_
  refine (HeaderBlock.avoids_write h.headers b).append (HeaderBlock.isWhole_write h.headers) ?_
  exact blank.append (Line.isWhole_crlf []) (h.body b hb)

/-- **A written message is found again**: the header block of its part, its start line, its own header block
and the lines of its body. -/
theorem read_write {lines : List Line} (hl : lines.map raw = split m.write) (strict : Bool)
    (context : Nat) :
    ∃ mime start rest,
      HeaderBlock.read strict context (trimEnding lines) = .ok (mime, start :: rest) ∧
      mime.unplaced = Headers.ofList m.part ∧ start.raw = (Utf8.encode m.start, .crlf) ∧
      ∃ headers body, HeaderBlock.read strict start.number rest = .ok (headers, trimEnding body) ∧
        headers.unplaced = Headers.ofList m.headers ∧ body.map raw = split (m.body ++ crlf) := by
  rw [split_write h] at hl
  obtain ⟨part, behind, rfl, hpart, hbehind⟩ := List.map_eq_append_iff.1 hl
  obtain ⟨blank, message, rfl, hblank, hmessage⟩ := List.map_eq_cons_iff.1 hbehind
  obtain ⟨start, more, rfl, hstart, hmore⟩ := List.map_eq_cons_iff.1 hmessage
  obtain ⟨own, last, rfl, hown, hlast⟩ := List.map_eq_append_iff.1 hmore
  obtain ⟨blank', body, rfl, hblank', hbody⟩ := List.map_eq_cons_iff.1 hlast
  have hne : body ≠ [] := by
    rintro rfl
    obtain ⟨content, hend⟩ := Line.getLast?_split_crlf m.body
    rw [← hbody] at hend
    cases hend
  have htrim : trimEnding (part ++ blank :: start :: (own ++ blank' :: body))
      = part ++ blank :: (start :: (own ++ blank' :: trimEnding body)) := by
    have := Segment.trimEnding_append (s := part ++ blank :: start :: (own ++ [blank'])) hne
    simpa using this
  obtain ⟨mime, hmime, hm⟩ := HeaderBlock.read_written h.part hpart (congrArg Prod.fst hblank) strict
    context (start :: (own ++ blank' :: trimEnding body))
  obtain ⟨headers, hheaders, hh⟩ := HeaderBlock.read_written h.headers hown
    (congrArg Prod.fst hblank') strict start.number (trimEnding body)
  exact ⟨mime, start, own ++ blank' :: trimEnding body, by rw [htrim, hmime], hm, hstart, headers, body,
    hheaders, hh, hbody⟩

end Fits

end Message

/-- A change set and the headers of the part around it. -/
structure Nested where
  part : List (Text × Text)
  boundary : Text
  members : List Bytes

namespace Nested

def write (n : Nested) : Bytes :=
  HeaderBlock.write n.part ++ (crlf ++ (frame n.boundary n.members ++ crlf))

/-- A change set whose lines can be told from the delimiters around it and between its members. -/
structure Fits (outer : Text) (n : Nested) : Prop where
  part : ∀ p ∈ n.part, HeaderBlock.IsWritable p.1 p.2
  valid : Boundary.isValid n.boundary
  delimiter : Avoids outer (writeDelimiter n.boundary)
  close : Avoids outer (writeClose n.boundary)
  members : ∀ s ∈ n.members, IsWhole s ∧ Avoids n.boundary s ∧ Avoids outer s

theorem isWhole_write (n : Nested) : IsWhole n.write := by
  rw [write]
  simp only [← List.append_assoc]
  exact Line.isWhole_crlf _

section Fits

variable {outer : Text} {n : Nested} (h : n.Fits outer)

include h

theorem avoids_write : Avoids outer n.write := by
  have blank : Avoids outer crlf := Segment.avoids_writeLine (t := []) (by decide) (by decide)
  obtain ⟨hwhole, hmembers⟩ := Segment.avoids_flatMap (f := fun s => writeDelimiter n.boundary ++ s)
    (fun s hs => (Line.isWhole_writeLine _).append (h.members s hs).1)
    (fun s hs => h.delimiter.append (Line.isWhole_writeLine _) (h.members s hs).2.2)
  rw [write, frame, List.append_assoc]
  refine (HeaderBlock.avoids_write h.part outer).append (HeaderBlock.isWhole_write h.part) ?_
  refine blank.append (Line.isWhole_crlf []) ?_
  exact hmembers.append hwhole h.close

/-- **A written change set is found again**: the header block of its part and its members. -/
theorem read_write {lines : List Line} (hl : lines.map raw = split n.write) (strict : Bool)
    (context : Nat) :
    ∃ mime rest, HeaderBlock.read strict context (trimEnding lines) = .ok (mime, rest) ∧
      mime.unplaced = Headers.ofList n.part ∧
      ∃ framed : List (List Line),
        Segment.ofLines n.boundary mime.line rest = .ok (framed.map trimEnding) ∧
        List.Forall₂ (fun ls s => ls.map raw = split s) framed n.members := by
  have blank : ∀ rest, split (crlf ++ rest) = ([], .crlf) :: split rest := fun _ => rfl
  rw [write, HeaderBlock.split_write h.part, blank] at hl
  obtain ⟨part, behind, rfl, hpart, hbehind⟩ := List.map_eq_append_iff.1 hl
  obtain ⟨empty, inner, rfl, hempty, hinner⟩ := List.map_eq_cons_iff.1 hbehind
  have hne : inner ≠ [] := by
    rintro rfl
    obtain ⟨content, hlast⟩ := Line.getLast?_split_crlf (frame n.boundary n.members)
    rw [← hinner] at hlast
    cases hlast
  have htrim : trimEnding (part ++ empty :: inner) = part ++ empty :: trimEnding inner := by
    have := Segment.trimEnding_append (s := part ++ [empty]) hne
    simpa using this
  obtain ⟨mime, hread, hm⟩ := HeaderBlock.read_written h.part hpart (congrArg Prod.fst hempty) strict
    context (trimEnding inner)
  have hlines : inner.map raw = split ([] ++ frame n.boundary n.members ++ crlf) := by
    rw [hinner, List.nil_append]
  obtain ⟨hclosed, framed, hcut, hframed⟩ := Segment.ofLines_frame h.valid Line.isWhole_nil
    (Segment.avoids_nil n.boundary) (fun s hs => ⟨(h.members s hs).1, (h.members s hs).2.1⟩)
    Line.head?_crlf hlines mime.line
  exact ⟨mime, trimEnding inner, by rw [htrim, hread], hm, framed,
    by rw [Segment.ofLines_trimEnding hclosed, hcut], hframed⟩

end Fits

end Nested

end BatchExchange
