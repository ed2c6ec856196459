/-
# Written events are read back

A writer of event streams has choices: a space after the colon or none, a bare
name for an empty value, either ending for each line, comments and fields of
unknown names wherever it likes. `EventStream.Writes` relates the entries of a
stream, which are its fields and its blank lines, to all lines that a writer
may make of them.

None of the choices reaches the reader. A line is read as a whole and by its
text (`EventStream.feed_line`), each spelling of an entry is read as that entry
(`Draft.readLine_spelled`), and a line that is to be ignored leaves the draft as
it is (`Draft.readLine_ignored`). So what the lines complete is what their
entries complete (`EventStream.feed_writes`), and the entries of an event,
whose data is cut at the line feeds, complete that event and leave an empty
draft (`Event.readEntries_entries`).

Key definitions: `Entry`, `Event.entries`, `Event.Plain`, `Entry.Spelled`,
`Draft.Ignored`, `EventStream.Writes`.
Key theorems: `EventStream.feed_writes`, `Event.readEntries_entries`,
`EventStream.written_events_read_back`.
-/
import Halyard.Proofs.Push.EventStream
import Halyard.Proofs.Text.Utf8

namespace Halyard.Push

open Text

/-- The fields of an event. -/
inductive Field where
  | id
  | name
  | data
deriving DecidableEq

/-- What a field is called in a stream. -/
def Field.label : Field → List Char
  | .id => ['i', 'd']
  | .name => ['e', 'v', 'e', 'n', 't']
  | .data => ['d', 'a', 't', 'a']

/-- What a stream says: a field with its value, or that the event is complete. -/
inductive Entry where
  | field (field : Field) (value : List Char)
  | blank

/-- The entries of an event: its id and its type where it has them, and one field for each line
of its data. -/
def Event.entries (e : Event) : List Entry :=
  (e.id.map fun id => Entry.field .id id.toList).toList ++
    (e.name.map fun name => Entry.field .name name.toList).toList ++
    (e.data.toList.splitOn '\n').map (Entry.field .data) ++ [.blank]

/-- A value fits on a line, and a line feed may follow it: it is not cut, and no carriage return
of its own is taken for the end of the line. -/
structure PlainValue (value : List Char) : Prop where
  unbroken : '\n' ∉ value
  unreturned : value.getLast? ≠ some '\r'

/-- An event that can be written line by line. -/
structure Event.Plain (e : Event) : Prop where
  id : ∀ id ∈ e.id, PlainValue id.toList
  name : ∀ name ∈ e.name, PlainValue name.toList
  data : ∀ line ∈ e.data.toList.splitOn '\n', line.getLast? ≠ some '\r'

/-- The value of an entry is plain. -/
def Entry.Plain : Entry → Prop
  | .field _ value => PlainValue value
  | .blank => True

/-- The texts of a line for an entry. The space after the colon is left out only where the value
does not begin with one, and the colon where there is no value. -/
inductive Entry.Spelled : Entry → List Char → Prop
  | blank : Spelled .blank []
  | spaced (f : Field) (value : List Char) :
      Spelled (.field f value) (f.label ++ ':' :: ' ' :: value)
  | tight (f : Field) {value : List Char} (h : value.head? ≠ some ' ') :
      Spelled (.field f value) (f.label ++ ':' :: value)
  | bare (f : Field) : Spelled (.field f []) f.label

/-! ### Plain values -/

theorem PlainValue.append {a b : List Char} (ha : PlainValue a) (hb : PlainValue b) :
    PlainValue (a ++ b) where
  unbroken := by
    rw [List.mem_append, not_or]
    exact ⟨ha.unbroken, hb.unbroken⟩
  unreturned := by
    have hlast := hb.unreturned
    rw [List.getLast?_append]
    cases h : b.getLast? with
    | none => exact ha.unreturned
    | some c =>
      rw [h] at hlast
      exact hlast

theorem not_mem_of_mem_splitOn {α : Type} [DecidableEq α] {a : α} {piece : List α} :
    ∀ {text : List α}, piece ∈ text.splitOn a → a ∉ piece := by
  intro text h
  by_cases ha : a ∈ text
  · obtain ⟨front, rest, rfl, hfront⟩ := List.eq_append_cons_of_mem ha
    rw [List.splitOn_append_cons_self_of_not_mem hfront, List.mem_cons] at h
    rcases h with rfl | h
    · exact hfront
    · exact not_mem_of_mem_splitOn h
  · have hwhole : text.splitOn a = [text] :=
      List.splitOnP_eq_singleton fun _ hx => beq_eq_false_iff_ne.mpr fun he => ha (he ▸ hx)
    rw [hwhole, List.mem_singleton] at h
    exact h ▸ ha
  termination_by text => text.length

theorem Event.Plain.entries {e : Event} (h : e.Plain) : ∀ entry ∈ e.entries, entry.Plain := by
  intro entry hentry
  simp only [Event.entries, List.mem_append, Option.mem_toList, Option.map_eq_some_iff,
    List.mem_map, List.mem_singleton] at hentry
  rcases hentry with ((⟨id, hid, rfl⟩ | ⟨name, hname, rfl⟩) | ⟨line, hline, rfl⟩) | rfl
  · exact h.id id hid
  · exact h.name name hname
  · exact ⟨not_mem_of_mem_splitOn hline, h.data line hline⟩
  · exact trivial

/-! ### Reading entries -/

namespace Draft

variable {d : Draft}

/-- Takes in an entry, with the event it completes. -/
def readEntry (d : Draft) : Entry → Draft × Option Event
  | .field f value => (d.addField (String.ofList f.label) (String.ofList value), none)
  | .blank => (empty, d.event?)

/-- Takes in entries one after the other. -/
def readEntries (d : Draft) : List Entry → Draft × List Event
  | [] => (d, [])
  | entry :: entries =>
    let (d, event) := d.readEntry entry
    let (d, events) := d.readEntries entries
    (d, event.toList ++ events)

theorem readEntries_append (d : Draft) (a b : List Entry) :
    d.readEntries (a ++ b) =
      (((d.readEntries a).1.readEntries b).1,
        (d.readEntries a).2 ++ ((d.readEntries a).1.readEntries b).2) := by
  induction a generalizing d with
  | nil => rfl
  | cons entry a ih => simp only [List.cons_append, readEntries, ih, List.append_assoc]

theorem readLine_named {name : List Char} (hname : name ≠ []) (hcolon : ':' ∉ name)
    (rest : List Char) (hrest : ∀ c, rest.head? = some c → c = ':') (d : Draft) :
    d.readLine (name ++ rest) =
      (d.addField (String.ofList name) (String.ofList (fieldValue (rest.drop 1))), none) := by
  have hkeep : ∀ c ∈ name, (c != ':') = true := by
    intro c hc
    rw [bne_iff_ne]
    rintro rfl
    exact hcolon hc
  have hstop : rest.takeWhile (· != ':') = [] ∧ rest.dropWhile (· != ':') = rest := by
    cases rest with
    | nil => exact ⟨rfl, rfl⟩
    | cons c rest =>
      obtain rfl := hrest c rfl
      exact ⟨rfl, rfl⟩
  have htake : (name ++ rest).takeWhile (· != ':') = name := by
    rw [List.takeWhile_append_of_pos hkeep, hstop.1, List.append_nil]
  have hdrop : (name ++ rest).dropWhile (· != ':') = rest := by
    rw [List.dropWhile_append_of_pos hkeep, hstop.2]
  obtain ⟨c, name, rfl⟩ := List.exists_cons_of_ne_nil hname
  have hc : c ≠ ':' := fun h => hcolon (h ▸ List.mem_cons_self)
  rw [List.cons_append] at htake hdrop ⊢
  unfold readLine
  split
  · next h => cases h
  · next h => exact absurd (List.cons.inj h).1 hc
  · rw [htake, hdrop]

theorem label_ne_nil (f : Field) : f.label ≠ [] := by
  cases f <;> decide

theorem colon_not_mem_label (f : Field) : ':' ∉ f.label := by
  cases f <;> decide

/-- **Every spelling of an entry is read as that entry.** -/
theorem readLine_spelled {entry : Entry} {text : List Char} (h : entry.Spelled text) (d : Draft) :
    d.readLine text = d.readEntry entry := by
  cases h with
  | blank => rfl
  | spaced f value =>
    exact readLine_named (label_ne_nil f) (colon_not_mem_label f) (':' :: ' ' :: value)
      (by simp) d
  | @tight f value hvalue =>
    have hkept : fieldValue value = value := by
      unfold fieldValue
      split
      · exact absurd rfl hvalue
      · rfl
    have hread := readLine_named (label_ne_nil f) (colon_not_mem_label f) (':' :: value)
      (by simp) d
    rw [hread, List.drop_succ_cons, List.drop_zero, hkept]
    rfl
  | bare f =>
    have hread := readLine_named (label_ne_nil f) (colon_not_mem_label f) [] (by simp) d
    rw [List.append_nil] at hread
    exact hread

/-- A field of this name has no meaning. -/
structure Unknown (name : List Char) : Prop where
  ne_nil : name ≠ []
  colon : ':' ∉ name
  label : ∀ f : Field, name ≠ f.label

/-- The texts of the lines that say nothing: comments, and fields of unknown names. -/
inductive Ignored : List Char → Prop
  | comment (rest : List Char) : Ignored (':' :: rest)
  | bare {name : List Char} (h : Unknown name) : Ignored name
  | field {name : List Char} (h : Unknown name) (value : List Char) :
      Ignored (name ++ ':' :: value)

theorem addField_unknown {name : List Char} (h : Unknown name) (d : Draft) (value : String) :
    d.addField (String.ofList name) value = d := by
  have hid : String.ofList name ≠ "id" := fun he => h.label .id (String.ofList_injective he)
  have hname : String.ofList name ≠ "event" := fun he => h.label .name (String.ofList_injective he)
  have hdata : String.ofList name ≠ "data" := fun he => h.label .data (String.ofList_injective he)
  rw [addField, if_neg hid, if_neg hname, if_neg hdata]

/-- A line that is to be ignored leaves the draft as it is and completes nothing. -/
theorem readLine_ignored {text : List Char} (h : Ignored text) (d : Draft) :
    d.readLine text = (d, none) := by
  cases h with
  | comment rest => rfl
  | bare h =>
    have hread := readLine_named h.ne_nil h.colon [] (by simp) d
    rw [List.append_nil, addField_unknown h] at hread
    exact hread
  | field h value =>
    have hread := readLine_named h.ne_nil h.colon (':' :: value) (by simp) d
    rw [addField_unknown h] at hread
    exact hread

/-! ### The entries of an event -/

theorem readEntries_data (d : Draft) (lines : List (List Char)) :
    d.readEntries (lines.map (Entry.field .data)) =
      ({ d with data := d.data ++ lines.map String.ofList }, []) := by
  induction lines generalizing d with
  | nil => simp [readEntries]
  | cons line lines ih =>
    have hadd : d.addField (String.ofList Field.data.label) (String.ofList line) =
        { d with data := d.data ++ [String.ofList line] } := rfl
    rw [List.map_cons, readEntries, readEntry, hadd]
    simp only [ih, List.map_cons, List.append_assoc, List.singleton_append]
    rfl

end Draft

theorem intercalate_lines (text : String) :
    String.intercalate "\n" ((text.toList.splitOn '\n').map String.ofList) = text := by
  have htexts : ((text.toList.splitOn '\n').map String.ofList).map String.toList =
      text.toList.splitOn '\n' := by
    rw [List.map_map]
    exact List.map_id'' (fun _ => String.toList_ofList) _
  rw [← String.toList_inj, String.toList_intercalate, htexts]
  exact List.intercalate_splitOn '\n'

/-- **The entries of an event are read as that event.** They leave an empty draft to whatever
follows them. -/
theorem Event.readEntries_entries (e : Event) :
    Draft.empty.readEntries e.entries = (.empty, [e]) := by
  have hhead : Draft.empty.readEntries
      ((e.id.map fun id => Entry.field .id id.toList).toList ++
        (e.name.map fun name => Entry.field .name name.toList).toList) =
      (⟨e.id, e.name, []⟩, []) := by
    obtain ⟨id, name, data⟩ := e
    cases id <;> cases name <;>
      simp [Draft.readEntries, Draft.readEntry, Draft.addField, Field.label, Draft.empty]
  have hdata : (e.data.toList.splitOn '\n').map String.ofList ≠ [] := by
    rw [ne_eq, List.map_eq_nil_iff]
    exact List.splitOn_ne_nil _ _
  have hblank : Draft.readEntries ⟨e.id, e.name, (e.data.toList.splitOn '\n').map String.ofList⟩
      [.blank] = (.empty, [e]) := by
    have hcompleted : Draft.event? ⟨e.id, e.name,
        (e.data.toList.splitOn '\n').map String.ofList⟩ = some e := by
      rw [Draft.event?, if_neg (by rwa [List.isEmpty_iff]), intercalate_lines]
    simp only [Draft.readEntries, Draft.readEntry, hcompleted]
    rfl
  rw [Event.entries, Draft.readEntries_append, Draft.readEntries_append, hhead,
    Draft.readEntries_data, List.nil_append, hblank]
  rfl

/-- **The entries of events are read as these events.** -/
theorem Draft.readEntries_flatMap_entries (events : List Event) :
    empty.readEntries (events.flatMap Event.entries) = (empty, events) := by
  induction events with
  | nil => rfl
  | cons e events ih =>
    rw [List.flatMap_cons, readEntries_append, e.readEntries_entries]
    simp only [ih, List.singleton_append]

namespace EventStream

/-! ### Lines -/

/-- How a line ends: with a line feed, or with a carriage return before it. -/
inductive LineEnd where
  | feed
  | returnFeed

/-- The bytes of a line end. -/
def LineEnd.bytes : LineEnd → List UInt8
  | .feed => [lineFeed]
  | .returnFeed => [0x0D, lineFeed]

/-- A line of a stream. -/
structure Line where
  content : List UInt8
  ending : LineEnd

namespace Line

/-- A line as it is sent. -/
def bytes (l : Line) : List UInt8 :=
  l.content ++ l.ending.bytes

/-- What a line says. -/
def text (l : Line) : List Char :=
  Utf8.decodeLossy l.content

/-- The line ends where it says: not before, and not with a carriage return of its content. -/
structure Sound (l : Line) : Prop where
  unbroken : lineFeed ∉ l.content
  unreturned : l.ending = .feed → l.content.getLast? ≠ some 0x0D

end Line

/-- **A line is read as a whole and by its text.** Its ending makes no difference. -/
theorem feed_line {l : Line} (h : l.Sound) (d : Draft) (rest : List UInt8) :
    feed ⟨[], d⟩ (l.bytes ++ rest) =
      ((feed ⟨[], (d.readLine l.text).1⟩ rest).1,
        (d.readLine l.text).2.toList ++ (feed ⟨[], (d.readLine l.text).1⟩ rest).2) := by
  -- the bytes before the line feed
  obtain ⟨raw, hbytes, hraw, htext⟩ : ∃ raw, l.bytes = raw ++ [lineFeed] ∧ lineFeed ∉ raw ∧
      lineOf raw = l.text := by
    obtain ⟨content, ending⟩ := l
    cases ending with
    | feed =>
      exact ⟨content, rfl, h.unbroken, by rw [lineOf, if_neg (h.unreturned rfl)]; rfl⟩
    | returnFeed =>
      refine ⟨content ++ [0x0D], by rw [List.append_assoc]; rfl, ?_, ?_⟩
      · rw [List.mem_append, List.mem_singleton]
        rintro (hmem | hmem)
        · exact h.unbroken hmem
        · cases hmem
      · rw [lineOf, List.getLast?_concat, if_pos rfl, List.dropLast_concat]
        rfl
  have hfeed : ∀ (d : Draft) (bytes : List UInt8),
      feed ⟨[], d⟩ bytes = readPieces d (bytes.splitOn lineFeed) :=
    fun d bytes => @feed_eq_readPieces d bytes [] List.not_mem_nil
  rw [hfeed, hfeed, hbytes, List.append_assoc, List.singleton_append,
    List.splitOn_append_cons_self_of_not_mem hraw,
    readPieces_cons d raw (List.splitOn_ne_nil _ _), htext]

/-- The lines that may be written for entries: each entry in one of its spellings, and any lines
that are to be ignored before, between and after them. -/
inductive Writes : List Entry → List Line → Prop
  | nothing : Writes [] []
  | ignored {entries : List Entry} {lines : List Line} (l : Line) (hsound : l.Sound)
      (h : Draft.Ignored l.text) (hrest : Writes entries lines) : Writes entries (l :: lines)
  | entry {entry : Entry} {entries : List Entry} {lines : List Line} {text : List Char}
      (ending : LineEnd) (h : entry.Spelled text) (hrest : Writes entries lines) :
      Writes (entry :: entries) (⟨Utf8.encode text, ending⟩ :: lines)

theorem plain_spelled {entry : Entry} {text : List Char} (hplain : entry.Plain)
    (h : entry.Spelled text) : PlainValue text := by
  have hlabel : ∀ f : Field, PlainValue f.label := by
    intro f
    cases f <;> exact ⟨by decide, by decide⟩
  have hcolon : PlainValue [':'] := ⟨by decide, by decide⟩
  have hspace : PlainValue [' '] := ⟨by decide, by decide⟩
  cases h with
  | blank => exact ⟨List.not_mem_nil, by decide⟩
  | spaced f value => exact (hlabel f).append (hcolon.append (hspace.append hplain))
  | tight f => exact (hlabel f).append (hcolon.append hplain)
  | bare f => exact hlabel f

theorem sound_encode {text : List Char} (h : PlainValue text) (ending : LineEnd) :
    Line.Sound ⟨Utf8.encode text, ending⟩ where
  unbroken hmem := h.unbroken (Utf8.mem_of_ascii_mem_encode (by decide) hmem)
  unreturned _ hlast := h.unreturned (Utf8.getLast?_of_ascii_encode (by decide) hlast)

/-- **Lines are read as the entries they were written for.** -/
theorem feed_writes {entries : List Entry} {lines : List Line} (h : Writes entries lines)
    (hplain : ∀ entry ∈ entries, entry.Plain) (d : Draft) :
    feed ⟨[], d⟩ (lines.flatMap Line.bytes) =
      (⟨[], (d.readEntries entries).1⟩, (d.readEntries entries).2) := by
  induction h generalizing d with
  | nothing => rfl
  | ignored l hsound h _ ih =>
    rw [List.flatMap_cons, feed_line hsound, Draft.readLine_ignored h, ih hplain]
    rfl
  | @entry entry entries lines text ending h _ ih =>
    obtain ⟨hentry, hentries⟩ := List.forall_mem_cons.mp hplain
    have hsound := sound_encode (plain_spelled hentry h) ending
    have htext : Line.text ⟨Utf8.encode text, ending⟩ = text := Utf8.decodeLossy_encode text
    rw [List.flatMap_cons, feed_line hsound, htext, Draft.readLine_spelled h, ih hentries]
    rfl

/-- **Written events are read back.** Whatever the endings of the lines, the spellings of the
fields, the lines to be ignored and the chunks in which all of it arrives, the reader completes the
events that were written, and nothing of them stays behind. -/
theorem written_events_read_back {events : List Event} {lines : List Line}
    {chunks : List (List UInt8)} (hplain : ∀ e ∈ events, e.Plain)
    (hwrites : Writes (events.flatMap Event.entries) lines)
    (hchunks : chunks.flatten = lines.flatMap Line.bytes) :
    (start.feedEach chunks).1 = start ∧ (start.feedEach chunks).2.flatten = events := by
  have hentries : ∀ entry ∈ events.flatMap Event.entries, entry.Plain := by
    intro entry hentry
    obtain ⟨e, he, hmem⟩ := List.mem_flatMap.mp hentry
    exact (hplain e he).entries entry hmem
  have hread := feed_writes hwrites hentries .empty
  rw [Draft.readEntries_flatMap_entries, ← hchunks] at hread
  have hall := (feedEach_eq_feed start chunks).trans hread
  exact ⟨congrArg Prod.fst hall, congrArg Prod.snd hall⟩

/-- Two events with every kind of entry, written with comments, unknown fields and both endings,
and read byte by byte. -/
theorem two_events_read_back :
    let events : List Event := [⟨some "7", none, " é\n"⟩, ⟨none, some "error", ":"⟩]
    let lines : List Line :=
      [⟨[0x3A, 0xFF], .feed⟩, ⟨Utf8.encode ['i', 'd', ':', '7'], .returnFeed⟩,
        ⟨Utf8.encode ['d', 'a', 't', 'a', ':', ' ', ' ', 'é'], .feed⟩,
        ⟨Utf8.encode ['d', 'a', 't', 'a'], .feed⟩,
        ⟨Utf8.encode ['i', ':', '8'], .returnFeed⟩, ⟨Utf8.encode [], .returnFeed⟩,
        ⟨Utf8.encode ['e', 'v', 'e', 'n', 't', ':', ' ', 'e', 'r', 'r', 'o', 'r'], .feed⟩,
        ⟨Utf8.encode ['d', 'a', 't', 'a', ':', ':'], .feed⟩, ⟨Utf8.encode [], .feed⟩]
    let chunks := (lines.flatMap Line.bytes).map fun b => [b]
    (∀ e ∈ events, e.Plain) ∧ Writes (events.flatMap Event.entries) lines ∧
      chunks.flatten = lines.flatMap Line.bytes ∧
      (start.feedEach chunks).1 = start ∧ (start.feedEach chunks).2.flatten = events := by
  intro events lines chunks
  have hplain : ∀ e ∈ events, e.Plain := by
    intro e he
    simp only [events, List.mem_cons, List.not_mem_nil, or_false] at he
    rcases he with rfl | rfl
    · have hid : PlainValue "7".toList := ⟨by decide, by decide⟩
      exact ⟨fun _ h => Option.some.inj h ▸ hid, nofun, by decide⟩
    · have hname : PlainValue "error".toList := ⟨by decide, by decide⟩
      exact ⟨nofun, fun _ h => Option.some.inj h ▸ hname, by decide⟩
  have hcomment : Line.Sound ⟨[0x3A, 0xFF], .feed⟩ := ⟨by decide, fun _ => by decide⟩
  have hunknown : Line.Sound ⟨Utf8.encode ['i', ':', '8'], .returnFeed⟩ := ⟨by decide, nofun⟩
  have hname : Draft.Unknown ['i'] := ⟨by decide, by decide, fun f => by cases f <;> decide⟩
  have hwrites : Writes (events.flatMap Event.entries) lines :=
    .ignored _ hcomment (.comment _) <| .entry .returnFeed (.tight .id (by decide)) <|
      .entry .feed (.spaced .data _) <| .entry .feed (.bare .data) <|
      .ignored _ hunknown (.field hname ['8']) <| .entry .returnFeed .blank <|
      .entry .feed (.spaced .name _) <| .entry .feed (.tight .data (by decide)) <|
      .entry .feed .blank .nothing
  have hchunks : chunks.flatten = lines.flatMap Line.bytes := by
    rw [← List.flatMap_def, List.flatMap_singleton']
  exact ⟨hplain, hwrites, hchunks, written_events_read_back hplain hwrites hchunks⟩

end EventStream

end Halyard.Push
