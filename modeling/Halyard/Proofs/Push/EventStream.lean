/-
# Chunks of an event stream

The bytes of a stream arrive in chunks that end anywhere: inside a line, inside
a character, between a carriage return and its line feed. The reader carries
the unfinished line and the draft of an event from one chunk to the next, so
the chunks make no difference (`feed_append`, `feedEach_eq_feed`).

What the reader makes of the bytes is said without it: cut at the line feeds,
all pieces but the last are lines, of which each loses one carriage return and
is decoded as a whole, and the last piece is the unfinished line
(`feed_eq_readPieces`).

Key definitions: `EventStream.after`, `EventStream.feedEach`,
`EventStream.lineOf`, `EventStream.readPieces`.
Key theorems: `EventStream.feed_append`, `EventStream.feed_eq_readPieces`,
`EventStream.events_of_chunks`.
-/
import Halyard.Push.EventStream

namespace Halyard.Push.EventStream

open Text

/-- The byte that ends a line. -/
abbrev lineFeed : UInt8 := 0x0A

/-- The stream after its first bytes. -/
def after (bytes : List UInt8) : EventStream :=
  (start.feed bytes).1

/-- Takes in chunks one after the other, with the events that each completes. -/
def feedEach (s : EventStream) : List (List UInt8) → EventStream × List (List Event)
  | [] => (s, [])
  | chunk :: chunks =>
    let (s, events) := s.feed chunk
    let (s, later) := s.feedEach chunks
    (s, events :: later)

/-- The characters of a line: its bytes without the carriage return that may end it. -/
def lineOf (bytes : List UInt8) : List Char :=
  Utf8.decodeLossy (if bytes.getLast? = some 0x0D then bytes.dropLast else bytes)

/-- Takes in the pieces between line feeds. The last piece is a line that is not finished. -/
def readPieces (d : Draft) : List (List UInt8) → EventStream × List Event
  | [] => (⟨[], d⟩, [])
  | [rest] => (⟨rest.reverse, d⟩, [])
  | line :: pieces =>
    let (d, event) := d.readLine (lineOf line)
    let (s, events) := readPieces d pieces
    (s, event.toList ++ events)

/-! ### Chunks -/

theorem feed_append (s : EventStream) (a b : List UInt8) :
    s.feed (a ++ b) =
      (((s.feed a).1.feed b).1, (s.feed a).2 ++ ((s.feed a).1.feed b).2) := by
  induction a generalizing s with
  | nil => rfl
  | cons x a ih => simp only [List.cons_append, feed, ih, List.append_assoc]

theorem feedEach_eq_feed (s : EventStream) (chunks : List (List UInt8)) :
    ((s.feedEach chunks).1, (s.feedEach chunks).2.flatten) = s.feed chunks.flatten := by
  induction chunks generalizing s with
  | nil => rfl
  | cons chunk chunks ih =>
    have h := ih (s.feed chunk).1
    simp only [feedEach, List.flatten_cons, feed_append, ← h]

/-! ### Lines -/

/-- Of the bytes of a line, which are kept latest first, the first one may be the carriage
return before the line feed. -/
theorem lineText_reverse (bytes : List UInt8) : lineText bytes.reverse = lineOf bytes := by
  rcases List.eq_nil_or_concat bytes with rfl | ⟨front, last, rfl⟩
  · rfl
  rw [List.concat_eq_append, List.reverse_concat, lineOf, List.getLast?_concat,
    List.dropLast_concat]
  by_cases h : last = 0x0D
  · subst h
    rw [if_pos rfl, lineText, List.reverse_reverse]
  · rw [if_neg fun hc => h (Option.some.inj hc), lineText, List.reverse_cons,
      List.reverse_reverse]
    intro rest hc
    exact h (List.cons.inj hc).1

theorem readPieces_cons (d : Draft) (line : List UInt8) {pieces : List (List UInt8)}
    (h : pieces ≠ []) :
    readPieces d (line :: pieces) =
      ((readPieces (d.readLine (lineOf line)).1 pieces).1,
        (d.readLine (lineOf line)).2.toList ++
          (readPieces (d.readLine (lineOf line)).1 pieces).2) := by
  cases pieces with
  | nil => exact absurd rfl h
  | cons piece pieces => rfl

theorem splitOn_of_not_mem {bytes : List UInt8} (h : lineFeed ∉ bytes) :
    bytes.splitOn lineFeed = [bytes] :=
  List.splitOnP_eq_singleton fun _ hx => beq_eq_false_iff_ne.mpr fun he => h (he ▸ hx)

/-- **The reader cuts at the line feeds.** It takes in the lines, and keeps what follows the
last line feed. -/
theorem feed_eq_readPieces (d : Draft) (bytes : List UInt8) :
    ∀ {line : List UInt8}, lineFeed ∉ line →
      feed ⟨line.reverse, d⟩ bytes = readPieces d ((line ++ bytes).splitOn lineFeed) := by
  induction bytes generalizing d with
  | nil =>
    intro line h
    rw [List.append_nil, splitOn_of_not_mem h]
    rfl
  | cons b bytes ih =>
    intro line h
    by_cases hb : b = lineFeed
    · subst hb
      have hrest := @ih (d.readLine (lineOf line)).1 [] List.not_mem_nil
      rw [List.splitOn_append_cons_self_of_not_mem h,
        readPieces_cons d line (List.splitOn_ne_nil _ _)]
      rw [List.nil_append] at hrest
      rw [← hrest, feed, step, if_pos rfl, lineText_reverse]
      rfl
    · have hline : lineFeed ∉ line ++ [b] := by
        rw [List.mem_append, List.mem_singleton]
        rintro (hl | hl)
        · exact h hl
        · exact hb hl.symm
      have hrest := ih d hline
      rw [List.reverse_concat, List.append_assoc, List.singleton_append] at hrest
      rw [feed, step, if_neg hb, ← hrest]
      rfl

/-- The unfinished line of a stream that was read from its beginning holds no line feed. -/
theorem lineFeed_not_mem_line {s : EventStream} (h : lineFeed ∉ s.line) :
    ∀ bytes : List UInt8, lineFeed ∉ (s.feed bytes).1.line
  | [] => h
  | b :: bytes => by
    have hstep : lineFeed ∉ (s.step b).1.line := by
      unfold step
      by_cases hb : b = lineFeed
      · rw [if_pos hb]
        exact List.not_mem_nil
      · rw [if_neg hb, List.mem_cons]
        rintro (hl | hl)
        · exact hb hl.symm
        · exact h hl
    exact lineFeed_not_mem_line hstep bytes

/-- **How the bytes of a stream are cut into chunks makes no difference.** After whatever was
read before, chunks lead to the same stream and complete the same events as all of their bytes
at once; and these are the events of the lines that the bytes make with the unfinished line
before them. -/
theorem events_of_chunks (before : List UInt8) (chunks : List (List UInt8)) :
    (((after before).feedEach chunks).1, ((after before).feedEach chunks).2.flatten) =
        (after before).feed chunks.flatten ∧
      (after before).feed chunks.flatten = readPieces (after before).draft
        (((after before).line.reverse ++ chunks.flatten).splitOn lineFeed) := by
  have hline : lineFeed ∉ (after before).line.reverse := by
    rw [List.mem_reverse]
    exact lineFeed_not_mem_line (s := start) List.not_mem_nil before
  refine ⟨feedEach_eq_feed (after before) chunks, ?_⟩
  have h := feed_eq_readPieces (after before).draft chunks.flatten hline
  rw [List.reverse_reverse] at h
  exact h

/-- A character, and the end of a line, arrive in two parts each. -/
example :
    start.feedEach [[0x64, 0x61, 0x74, 0x61, 0x3A, 0xC3], [0xA9, 0x0D], [0x0A, 0x0A]] =
      (start, [[], [], [⟨none, none, "é"⟩]]) := by
  decide +kernel

end Halyard.Push.EventStream
