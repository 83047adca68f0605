-- Lines of a bounded length, read from a stream of bytes that comes in chunks.
-- A call may be given up while it waits for a chunk. Neither the chunks nor
-- the calls that were given up change the lines that the calls return.
import Lumi.Rust

namespace lumi_stream

/-! ## The reader -/

inductive LineError where
  /-- `frame reader is closed` -/
  | Closed
  /-- `truncated frame` -/
  | Truncated
  /-- `frame exceeds byte limit` -/
  | TooLong
deriving DecidableEq

abbrev Line := Except LineError (Option (List UInt8))

structure BoundedLineReader where
  /-- What `fill_buf` still has to give, one chunk after the other. -/
  chunks : List (List UInt8)
  pending : List UInt8
  failed : Bool

def newline (bytes : List UInt8) : Option Nat := bytes.findIdx? (· == 10)

namespace BoundedLineReader

def new (chunks : List (List UInt8)) : BoundedLineReader := ⟨chunks, [], false⟩

/-- The loop of `next_line`, which is given up at the await that comes after so many. At the end of
the input `fill_buf` gives nothing. -/
def turns (maximum : Nat) : Nat → BoundedLineReader → BoundedLineReader × Option Line
  | 0, self => (self, none)
  | patience + 1, self =>
    match self.chunks with
    | [] =>
      if self.pending = [] then (self, some (.ok none))
      else ({ self with failed := true }, some (.error .Truncated))
    | available :: chunks =>
      let length := (newline available).getD available.length
      if self.pending.length + length > maximum then
        ({ self with failed := true }, some (.error .TooLong))
      else
        let line := self.pending ++ available.take length
        match newline available with
        | none => turns maximum patience { self with chunks, pending := line }
        | some _ =>
          -- A chunk that is consumed to its end is gone.
          let left := available.drop (length + 1)
          ({ self with chunks := if left = [] then chunks else left :: chunks, pending := [] },
            some (.ok (some line)))

variable (self : BoundedLineReader) (maximum : Nat)

def next_line (patience : Nat) : BoundedLineReader × Option Line :=
  if self.failed then (self, some (.error .Closed)) else turns maximum patience self

/-- Calls one after the other, and what those have returned that were not given up. -/
def calls (self : BoundedLineReader) (maximum : Nat) : List Nat → BoundedLineReader × List Line
  | [] => (self, [])
  | patience :: later =>
    let (self, line) := self.next_line maximum patience
    let (self, lines) := self.calls maximum later
    (self, line.toList ++ lines)

end BoundedLineReader

/-! ## The lines of a stream -/

/-- What a call makes of a stream, and the stream that it leaves. After an error there is none. -/
def frame (maximum : Nat) : Option (List UInt8) → Line × Option (List UInt8)
  | none => (.error .Closed, none)
  | some stream =>
    let length := (newline stream).getD stream.length
    if length > maximum then (.error .TooLong, none)
    else
      match newline stream with
      | some _ => (.ok (some (stream.take length)), some (stream.drop (length + 1)))
      | none => if stream = [] then (.ok none, some []) else (.error .Truncated, none)

/-- What so many calls return. -/
def frames (maximum : Nat) : Nat → Option (List UInt8) → List Line
  | 0, _ => []
  | calls + 1, rest => (frame maximum rest).1 :: frames maximum calls (frame maximum rest).2

/-! ## The reader reads the lines -/

/-- The reader has still to read the rest: what it has begun with, then the chunks. -/
structure Reads (maximum : Nat) (reader : BoundedLineReader) (rest : Option (List UInt8)) :
    Prop where
  short : reader.pending.length ≤ maximum
  begun : newline reader.pending = none
  filled : ∀ chunk ∈ reader.chunks, chunk ≠ []
  rest : rest = if reader.failed then none else some (reader.pending ++ reader.chunks.flatten)

/-- What comes of a call: it is given up after so many chunks, or it returns the next line. -/
inductive Answers (maximum : Nat) (reader : BoundedLineReader) (rest : Option (List UInt8))
    (waited : Nat) : BoundedLineReader × Option Line → Prop
  | waits {next} : Reads maximum next rest →
    next.chunks.length + waited ≤ reader.chunks.length →
    Answers maximum reader rest waited (next, none)
  | returns {next line left} : frame maximum rest = (line, left) → Reads maximum next left →
    next.chunks.length ≤ reader.chunks.length →
    Answers maximum reader rest waited (next, some line)

variable {reader : BoundedLineReader} {maximum : Nat} {stream : List UInt8}
  {rest : Option (List UInt8)}

theorem newline_append (bytes later : List UInt8) :
    newline (bytes ++ later) = (newline bytes).or ((newline later).map (· + bytes.length)) :=
  List.findIdx?_append

/-- A line that is too long is too long whatever comes behind it. -/
theorem frame_of_long {begun : List UInt8} (h : newline begun = none)
    (hlong : begun.length > maximum) (later : List UInt8) :
    frame maximum (some (begun ++ later)) = (.error .TooLong, none) := by
  rw [frame, newline_append, h, Option.none_or]
  apply if_pos
  cases newline later <;> simp <;> omega

theorem Reads.turns (patience : Nat) (h : Reads maximum reader (some stream)) :
    Answers maximum reader (some stream) patience
      (BoundedLineReader.turns maximum patience reader) := by
  induction patience generalizing reader with
  | zero => exact .waits h (Nat.le_refl _)
  | succ patience ih =>
  obtain ⟨chunks, pending, failed⟩ := reader
  obtain ⟨hshort, hbegun, hfilled, hrest⟩ := h
  cases failed with
  | true => cases hrest
  | false =>
  obtain rfl := Option.some.inj hrest
  dsimp only at hshort hbegun hfilled ih ⊢
  have hfailed : Reads maximum ⟨chunks, pending, true⟩ none := ⟨hshort, hbegun, hfilled, rfl⟩
  unfold BoundedLineReader.turns
  cases chunks with
  | nil =>
    have hframe : frame maximum (some (pending ++ [])) =
        if pending = [] then (.ok none, some []) else (.error .Truncated, none) := by
      simp [frame, hbegun, Nat.not_lt.mpr hshort]
    dsimp only
    split_ifs at hframe ⊢ with hempty
    · subst hempty
      exact .returns hframe ⟨hshort, hbegun, hfilled, rfl⟩ (Nat.le_refl _)
    · exact .returns hframe hfailed (Nat.le_refl _)
  | cons available chunks =>
    have hlater := (List.forall_mem_cons.mp hfilled).2
    rw [List.flatten_cons]
    cases hnewline : newline available with
    | none =>
      have hnone : newline (pending ++ available) = none := by
        rw [newline_append, hbegun, hnewline]
        rfl
      rw [List.flatten_cons, ← List.append_assoc] at ih
      rw [← List.append_assoc]
      simp only [hnewline, Option.getD_none, List.take_length]
      split_ifs with hlong
      · exact .returns (frame_of_long hnone (by simpa using hlong) _) hfailed (Nat.le_refl _)
      generalize hturns : BoundedLineReader.turns maximum patience _ = last
      cases hturns ▸ ih ⟨by simpa using hlong, hnone, hlater, rfl⟩ with
      | waits hreads hleft => exact .waits hreads (Nat.succ_le_succ hleft)
      | returns hframe hreads hleft => exact .returns hframe hreads (Nat.le_succ_of_le hleft)
    | some index =>
      have hindex : index < available.length := (List.findIdx?_eq_some_iff_getElem.mp hnewline).1
      have hframe : frame maximum (some (pending ++ (available ++ chunks.flatten))) =
          if pending.length + index > maximum then (.error .TooLong, none)
          else (.ok (some (pending ++ available.take index)),
            some (available.drop (index + 1) ++ chunks.flatten)) := by
        simp [frame, newline_append, hbegun, hnewline, Nat.add_comm index pending.length,
          Nat.add_assoc, List.take_length_add_append, List.drop_length_add_append,
          List.take_append_of_le_length hindex.le, List.drop_append_of_le_length hindex]
      simp only [hnewline, Option.getD_some]
      split_ifs at hframe ⊢ with hlong hleft
      · exact .returns hframe hfailed (Nat.le_refl _)
      · exact .returns hframe ⟨Nat.zero_le _, rfl, hlater, by simp [hleft]⟩ (Nat.le_succ _)
      · exact .returns hframe
          ⟨Nat.zero_le _, rfl, List.forall_mem_cons.mpr ⟨hleft, hlater⟩, rfl⟩ (Nat.le_refl _)

theorem Reads.next_line (patience : Nat) (h : Reads maximum reader rest) :
    Answers maximum reader rest patience (reader.next_line maximum patience) := by
  have hrest := h.rest
  unfold BoundedLineReader.next_line
  split_ifs at hrest ⊢
  · subst hrest
    exact .returns rfl h (Nat.le_refl _)
  · subst hrest
    exact h.turns patience

theorem Reads.calls (patiences : List Nat) (h : Reads maximum reader rest) :
    let (reader', lines) := reader.calls maximum patiences
    lines = frames maximum lines.length rest ∧ reader'.pending.length ≤ maximum ∧
      ((∀ patience ∈ patiences, reader.chunks.length < patience) →
        lines.length = patiences.length) := by
  induction patiences generalizing reader rest with
  | nil => exact ⟨rfl, h.short, fun _ => rfl⟩
  | cons patience later ih =>
    unfold BoundedLineReader.calls
    generalize hnext : reader.next_line maximum patience = next
    cases hnext ▸ h.next_line patience with
    | waits hreads hleft =>
      obtain ⟨hlines, hpending, -⟩ := ih hreads
      refine ⟨hlines, hpending, fun hall => ?_⟩
      have := hall patience List.mem_cons_self
      omega
    | returns hframe hreads hleft =>
      obtain ⟨hlines, hpending, hreturn⟩ := ih hreads
      refine ⟨?_, hpending, fun hall => ?_⟩
      · rw [Option.toList_some, List.singleton_append, List.length_cons, frames, hframe]
        exact congrArg _ hlines
      refine congrArg (· + 1) (hreturn fun patience hlater => ?_)
      exact Nat.lt_of_le_of_lt hleft (hall patience (List.mem_cons_of_mem _ hlater))

/-- The lines that the calls return are those of the stream, whatever its chunks and whichever
calls are given up. Never is more than the maximum pending, and a call that waits for all the
chunks returns. -/
theorem lines_are_those_of_the_stream (maximum : Nat) (chunks : List (List UInt8))
    (h : ∀ chunk ∈ chunks, chunk ≠ []) (patiences : List Nat) :
    match (BoundedLineReader.new chunks).calls maximum patiences with
    | (reader, lines) =>
      lines = frames maximum lines.length (some chunks.flatten) ∧
        reader.pending.length ≤ maximum ∧
        ((∀ patience ∈ patiences, chunks.length < patience) → lines.length = patiences.length) :=
  Reads.calls patiences ⟨Nat.zero_le _, rfl, h, rfl⟩

/-- A line in two chunks, with a call given up between them, and then a tail that does not end. -/
theorem a_line_in_two_chunks :
    ((BoundedLineReader.new [[7], [8, 10, 9]]).calls 2 [1, 3, 3, 3]).2.length = 3 ∧
      ((BoundedLineReader.new [[7], [8, 10, 9]]).calls 2 [1, 3, 3, 3]).2 =
        frames 2 3 (some [7, 8, 10, 9]) ∧
      frames 2 3 (some [7, 8, 10, 9]) =
        [.ok (some [7, 8]), .error .Truncated, .error .Closed] :=
  ⟨rfl, (lines_are_those_of_the_stream 2 [[7], [8, 10, 9]] (by decide) [1, 3, 3, 3]).1, rfl⟩

end lumi_stream
