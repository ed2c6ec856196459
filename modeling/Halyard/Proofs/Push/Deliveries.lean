/-
# What a connection delivers

A connection that is left alone, whose server sends a body in chunks and then
closes it, comes to its end and hands over what the body as a whole says: the
notifications of the events that can be read, through the first error
(`Connection.undisturbed_run`). How the body is cut makes no difference, and
neither do the events that cannot be read: an event ends where the next one
begins afresh (`EventStream.step_completes`), so their bytes can be taken out
(`EventStream.feed_sift`).

The proof follows what a connection will have handed over when it ends, and how
it will end, if nothing but the rest of the body comes
(`Connection.prospect`). Each thing that the connection meets hands over the
first of it and leaves the rest (`Connection.prospect_room`,
`Connection.prospect_chunk`). Where an error is reported in the middle of a
chunk, what follows in the chunk is read and thrown away, and what follows in
the body is never read; neither counts (`throughError_append_of_some`).

A connection that is disturbed hands over less, but it too begins with the news
that it was accepted (`Connection.connected_first`).

Key definitions: `throughError`, `EventStream.yields`, `EventStream.sift`,
`Connection.prospect`, `Connection.Undisturbed`.
Key theorems: `deliveries_eq`, `EventStream.yields_append`,
`EventStream.feed_sift`, `Connection.connected_first`,
`Connection.undisturbed_run`, `Connection.exists_undisturbed`,
`Connection.malformed_costs_nothing`.
-/
import Halyard.Proofs.Push.EventStream
import Halyard.Proofs.Push.Handover

namespace Halyard.Push

open Text

/-- The error that a notification reports. -/
def Notification.error? : Notification → Option StreamError
  | .error e => some e
  | _ => none

/-- How a connection ends after an error of its stream. -/
def StreamError.ending (e : StreamError) : ConnectionOutcome :=
  e.outcome (e.message ++ " (code " ++ toString e.code ++ ")")

/-- How a connection ends whose stream was closed. -/
def closedByServer : ConnectionOutcome := .retryable "stream closed by the server"

/-- The first error among notifications. -/
def firstError? (ns : List Notification) : Option StreamError :=
  ns.findSome? Notification.error?

/-- Notifications up to and including the first error. -/
def throughError : List Notification → List Notification
  | [] => []
  | n :: ns => if n.error?.isSome then [n] else n :: throughError ns

/-- What is handed over, and how it ends after that if not with what comes later. -/
def handOver (es : List StreamEvent) (ending : Option ConnectionOutcome)
    (later : List StreamEvent × ConnectionOutcome) : List StreamEvent × ConnectionOutcome :=
  match ending with
  | some o => (es, o)
  | none => (es ++ later.1, later.2)

/-! ### The first error -/

section

variable {a b : List Notification} {e : StreamError}

theorem throughError_append_of_none (h : firstError? a = none) :
    throughError (a ++ b) = a ++ throughError b := by
  induction a with
  | nil => rfl
  | cons n a ih =>
    rw [firstError?, List.findSome?_cons] at h
    cases hn : n.error? with
    | none =>
      rw [hn] at h
      rw [List.cons_append, throughError, hn, ih h]
      rfl
    | some e =>
      rw [hn] at h
      cases h

theorem throughError_of_none (h : firstError? a = none) : throughError a = a := by
  have happend := throughError_append_of_none (b := []) h
  rw [List.append_nil] at happend
  exact happend.trans (List.append_nil a)

theorem throughError_append_of_some (h : firstError? a = some e) :
    throughError (a ++ b) = throughError a := by
  induction a with
  | nil => cases h
  | cons n a ih =>
    rw [firstError?, List.findSome?_cons] at h
    rw [List.cons_append, throughError, throughError]
    cases hn : n.error? with
    | none =>
      rw [hn] at h
      rw [ih h]
    | some e => rfl

end

theorem ending?_eq (n : Notification) : n.ending? = n.error?.map StreamError.ending := by
  cases n <;> rfl

/-- **The deliveries of some events** are their notifications through the first error, which
decides the end. -/
theorem deliveries_eq (events : List Event) :
    (deliveries events).1 = throughError (events.filterMap Notification.ofEvent?) ∧
      (deliveries events).2.2 =
        (firstError? (events.filterMap Notification.ofEvent?)).map StreamError.ending := by
  induction events with
  | nil => exact ⟨rfl, rfl⟩
  | cons event events ih =>
    rw [deliveries, List.filterMap_cons]
    cases hevent : Notification.ofEvent? event with
    | none => exact ih
    | some n =>
      simp only [ending?_eq, throughError, firstError?, List.findSome?_cons]
      cases n.error? with
      | none => exact ⟨congrArg (n :: ·) ih.1, ih.2⟩
      | some e => exact ⟨rfl, rfl⟩

theorem Draft.readLine_completes {d : Draft} {line : List Char} {e : Event}
    (h : (d.readLine line).2 = some e) : (d.readLine line).1 = .empty := by
  match line with
  | [] => rfl
  | c :: line =>
    unfold Draft.readLine at h
    split at h
    · next hline => cases hline
    · cases h
    · cases h

namespace EventStream

variable {s : EventStream}

/-- The notifications that bytes complete. -/
def notifications (s : EventStream) (bytes : List UInt8) : List Notification :=
  (s.feed bytes).2.filterMap Notification.ofEvent?

/-- What is handed over of a stream, and how its connection ends, if it is closed after
some bytes. -/
def yields (s : EventStream) (bytes : List UInt8) : List StreamEvent × ConnectionOutcome :=
  ((throughError (s.notifications bytes)).map .notification,
    ((firstError? (s.notifications bytes)).map StreamError.ending).getD closedByServer)

theorem notifications_append (s : EventStream) (a b : List UInt8) :
    s.notifications (a ++ b) = s.notifications a ++ (s.feed a).1.notifications b := by
  rw [notifications, feed_append, List.filterMap_append]
  rfl

/-- **What a stream yields, chunk by chunk.** The deliveries of a chunk come first, and what
follows the chunk counts unless one of them was an error. -/
theorem yields_append (s : EventStream) (a b : List UInt8) :
    s.yields (a ++ b) =
      handOver ((deliveries (s.feed a).2).1.map .notification) (deliveries (s.feed a).2).2.2
        ((s.feed a).1.yields b) := by
  have hfound : firstError? (s.notifications (a ++ b)) =
      (firstError? (s.notifications a)).or (firstError? ((s.feed a).1.notifications b)) := by
    rw [notifications_append]
    exact List.findSome?_append
  obtain ⟨hsent, hending⟩ := deliveries_eq (s.feed a).2
  rw [hsent, hending, ← notifications, yields, hfound, notifications_append]
  cases herror : firstError? (s.notifications a) with
  | none =>
    rw [throughError_append_of_none herror, throughError_of_none herror, List.map_append]
    rfl
  | some e =>
    rw [throughError_append_of_some herror]
    rfl

/-! ### Events that are taken out -/

/-- The bytes of a stream without those of the events that are not kept. `frame` holds what was
read of the event that is unfinished, latest first. -/
def sift (keep : Event → Bool) (s : EventStream) (frame : List UInt8) : List UInt8 → List UInt8
  | [] => frame.reverse
  | b :: bytes =>
    match s.step b with
    | (s, none) => sift keep s (b :: frame) bytes
    | (s, some e) => (if keep e then (b :: frame).reverse else []) ++ sift keep s [] bytes

/-- After an event a stream is as it was at its beginning. -/
theorem step_completes {b : UInt8} {e : Event} (h : (s.step b).2 = some e) :
    (s.step b).1 = start := by
  unfold step at h ⊢
  by_cases hb : b = lineFeed
  · rw [if_pos hb] at h ⊢
    exact congrArg (EventStream.mk []) (Draft.readLine_completes h)
  · rw [if_neg hb] at h
    cases h

theorem feed_concat (s : EventStream) (bytes : List UInt8) (b : UInt8) :
    s.feed (bytes ++ [b]) =
      (((s.feed bytes).1.step b).1, (s.feed bytes).2 ++ ((s.feed bytes).1.step b).2.toList) := by
  rw [feed_append]
  simp only [feed, List.append_nil]

/-- **Events can be taken out.** The others are completed as before, and what is unfinished
stays. -/
theorem feed_sift (keep : Event → Bool) (bytes : List UInt8) :
    ∀ {s : EventStream} {frame : List UInt8}, start.feed frame.reverse = (s, []) →
      start.feed (sift keep s frame bytes) = ((s.feed bytes).1, (s.feed bytes).2.filter keep) := by
  induction bytes with
  | nil => exact fun h => h
  | cons b bytes ih =>
    intro s frame h
    have hframe : start.feed (b :: frame).reverse = ((s.step b).1, (s.step b).2.toList) := by
      rw [List.reverse_cons, feed_concat, h]
      rfl
    rw [sift, feed]
    cases hstep : s.step b with
    | mk s' event =>
      rw [hstep] at hframe
      cases event with
      | none => exact ih hframe
      | some e =>
        -- the event is complete, so the rest is read from a fresh start
        have hfresh : s' = start := by
          have hcompletes := step_completes (s := s) (b := b) (e := e) (by rw [hstep])
          rw [hstep] at hcompletes
          exact hcompletes
        subst hfresh
        have hbegin : start.feed ([] : List UInt8).reverse = (start, []) := rfl
        have hrest := ih hbegin
        dsimp only [Option.toList_some, List.singleton_append]
        cases hkeep : keep e with
        | true =>
          rw [if_pos rfl, feed_append, hframe, List.filter_cons_of_pos hkeep, hrest]
          rfl
        | false =>
          rw [if_neg Bool.false_ne_true, List.nil_append, hrest,
            List.filter_cons_of_neg (by rw [hkeep]; exact Bool.false_ne_true)]

/-- The bytes of a stream without its malformed events. -/
def withoutMalformed (bytes : List UInt8) : List UInt8 :=
  sift (fun e => (Notification.ofEvent? e).isSome) start [] bytes

theorem notifications_withoutMalformed (bytes : List UInt8) :
    start.notifications (withoutMalformed bytes) = start.notifications bytes := by
  have hbegin : start.feed ([] : List UInt8).reverse = (start, []) := rfl
  have hsift := feed_sift (fun e => (Notification.ofEvent? e).isSome) bytes hbegin
  rw [notifications, withoutMalformed, hsift, List.filterMap_filter, notifications]
  congr 1
  funext e
  cases Notification.ofEvent? e <;> rfl

theorem yields_withoutMalformed (bytes : List UInt8) :
    start.yields (withoutMalformed bytes) = start.yields bytes := by
  rw [yields, notifications_withoutMalformed, yields]

end EventStream

namespace Connection

variable {keepalive : Nat} {c : Connection} {chunks : List (List UInt8)} {inputs : List Input}

/-- What a connection will have handed over when it ends, and how it will end, if it is
accepted, nothing but these bytes comes of the body, and the receiver takes everything. -/
def prospect (c : Connection) (bytes : List UInt8) : List StreamEvent × ConnectionOutcome :=
  match c.phase with
  | .opening => handOver [.connected] none (c.stream.yields bytes)
  | .reading => c.stream.yields bytes
  | .handing e rest ending => handOver (e :: rest) ending (c.stream.yields bytes)
  | .ended o => ([], o)

/-- What a connection meets that is left alone: it is accepted, there is room for whatever it
hands over, the chunks arrive as it reads, and after the last one the server closes the stream. It
is neither stopped nor abandoned, and nothing fails or is late. -/
inductive Undisturbed (keepalive : Nat) : Connection → List (List UInt8) → List Input → Prop
  | accepts {c : Connection} {chunks : List (List UInt8)} {inputs : List Input} {status : Nat}
      {body : String} (hphase : c.phase = .opening) (hstatus : Http.Status.isSuccess status = true)
      (hrest : Undisturbed keepalive (c.step keepalive (.response status body)).1 chunks inputs) :
      Undisturbed keepalive c chunks (.response status body :: inputs)
  | hands {c : Connection} {chunks : List (List UInt8)} {inputs : List Input} {e : StreamEvent}
      {rest : List StreamEvent} {ending : Option ConnectionOutcome}
      (hphase : c.phase = .handing e rest ending)
      (hrest : Undisturbed keepalive (c.step keepalive .room).1 chunks inputs) :
      Undisturbed keepalive c chunks (.room :: inputs)
  | reads {c : Connection} {chunks : List (List UInt8)} {inputs : List Input}
      {bytes : List UInt8} (hphase : c.phase = .reading)
      (hrest : Undisturbed keepalive (c.step keepalive (.chunk bytes)).1 chunks inputs) :
      Undisturbed keepalive c (bytes :: chunks) (.chunk bytes :: inputs)
  | closes {c : Connection} (hphase : c.phase = .reading) :
      Undisturbed keepalive c [] [.closed]
  | ends {c : Connection} {chunks : List (List UInt8)} {o : ConnectionOutcome}
      (hphase : c.phase = .ended o) : Undisturbed keepalive c chunks []

/-! ### One input at a time -/

theorem step_response {status : Nat} (h : c.phase = .opening)
    (hstatus : Http.Status.isSuccess status = true) (body : String) :
    c.step keepalive (.response status body) = (⟨c.stream, .handing .connected [] none⟩, none) := by
  unfold step
  rw [h]
  dsimp only [respond]
  rw [if_pos hstatus]

theorem step_chunk (h : c.phase = .reading) (bytes : List UInt8) :
    c.step keepalive (.chunk bytes) = (c.receive bytes, none) := by
  unfold step
  rw [h]

theorem step_closed (h : c.phase = .reading) :
    c.step keepalive .closed = (c.finish closedByServer, none) := by
  unfold step
  rw [h]
  rfl

theorem prospect_handingOver (s : EventStream) (es : List StreamEvent)
    (ending : Option ConnectionOutcome) (bytes : List UInt8) :
    prospect ⟨s, .handingOver es ending⟩ bytes = handOver es ending (s.yields bytes) := by
  cases es with
  | nil => cases ending <;> rfl
  | cons e es => rfl

theorem prospect_response {status : Nat} (h : c.phase = .opening)
    (hstatus : Http.Status.isSuccess status = true) (body : String) (bytes : List UInt8) :
    (c.step keepalive (.response status body)).1.prospect bytes = c.prospect bytes := by
  rw [step_response h hstatus, prospect, prospect, h]

theorem prospect_room {e : StreamEvent} {rest : List StreamEvent}
    {ending : Option ConnectionOutcome} (h : c.phase = .handing e rest ending)
    (bytes : List UInt8) :
    c.prospect bytes =
      (e :: ((c.step keepalive .room).1.prospect bytes).1,
        ((c.step keepalive .room).1.prospect bytes).2) := by
  rw [step_room_handing h, prospect_handingOver, prospect, h]
  cases ending <;> rfl

theorem prospect_chunk (h : c.phase = .reading) (bytes later : List UInt8) :
    (c.step keepalive (.chunk bytes)).1.prospect later = c.prospect (bytes ++ later) := by
  rw [step_chunk h, receive, prospect_handingOver, ← EventStream.yields_append, prospect, h]

/-! ### The first thing that is handed over -/

/-- What is handed over next, if anything is, is that the connection was accepted. -/
def Phase.Greets : Phase → Prop
  | .opening | .ended _ => True
  | .reading => False
  | .handing e _ _ => e = .connected

theorem greets_step (h : c.phase.Greets) (i : Input) :
    (c.step keepalive i).2 = some .connected ∨
      (c.step keepalive i).2 = none ∧ (c.step keepalive i).1.phase.Greets := by
  obtain ⟨stream, phase⟩ := c
  cases phase with
  | reading => exact h.elim
  | ended o => exact .inr ⟨rfl, trivial⟩
  | opening =>
    cases i with
    | response status body =>
      refine .inr ⟨rfl, ?_⟩
      show (respond ⟨stream, .opening⟩ status body).phase.Greets
      unfold respond
      split
      · rfl
      · trivial
    | _ => exact .inr ⟨rfl, trivial⟩
  | handing e rest ending =>
    cases i with
    | room => exact .inl (congrArg some h)
    | abandoned => exact .inr ⟨rfl, trivial⟩
    | _ => exact .inr ⟨rfl, h⟩

theorem head_run_of_greets (inputs : List Input) :
    ∀ {c : Connection}, c.phase.Greets →
      ∀ e ∈ (c.run keepalive inputs).2.head?, e = .connected := by
  induction inputs with
  | nil => exact fun _ e he => nomatch he
  | cons i inputs ih =>
    intro c h e he
    simp only [run] at he
    rcases @greets_step keepalive c h i with hfirst | ⟨hsilent, hnext⟩
    · rw [hfirst] at he
      exact (Option.some.inj he).symm
    · rw [hsilent] at he
      exact ih hnext e he

/-- **Whatever a connection meets, it hands over first that it was accepted.** -/
theorem connected_first (keepalive : Nat) (inputs : List Input) :
    ∀ e ∈ (start.run keepalive inputs).2.head?, e = .connected :=
  head_run_of_greets inputs trivial

/-! ### Whole connections -/

/-- **A connection that is left alone does what was to be expected of it.** -/
theorem undisturbed_run (h : Undisturbed keepalive c chunks inputs) :
    (c.run keepalive inputs).2 = (c.prospect chunks.flatten).1 ∧
      (c.run keepalive inputs).1.outcome? = some (c.prospect chunks.flatten).2 := by
  induction h with
  | @accepts c chunks inputs status body hphase hstatus _ ih =>
    have hsilent : (c.step keepalive (.response status body)).2 = none := by
      rw [step_response hphase hstatus]
    rw [prospect_response hphase hstatus] at ih
    simp only [run, hsilent]
    exact ih
  | @hands c chunks inputs e rest ending hphase _ ih =>
    have hemits : (c.step keepalive .room).2 = some e := by rw [step_room_handing hphase]
    rw [prospect_room hphase]
    simp only [run, hemits]
    exact ⟨congrArg (e :: ·) ih.1, ih.2⟩
  | @reads c chunks inputs bytes hphase _ ih =>
    have hsilent : (c.step keepalive (.chunk bytes)).2 = none := by rw [step_chunk hphase]
    rw [prospect_chunk hphase, ← List.flatten_cons] at ih
    simp only [run, hsilent]
    exact ih
  | closes hphase =>
    simp only [run, step_closed hphase, prospect, hphase]
    exact ⟨rfl, rfl⟩
  | ends hphase =>
    rw [prospect, hphase, run, outcome?, hphase]
    exact ⟨rfl, rfl⟩

/-- What is to be handed over is handed over before anything else is looked at. -/
theorem undisturbed_handingOver {s : EventStream} {ending : Option ConnectionOutcome}
    (h : Undisturbed keepalive ⟨s, .handingOver [] ending⟩ chunks inputs) :
    ∀ es : List StreamEvent,
      Undisturbed keepalive ⟨s, .handingOver es ending⟩ chunks
        (List.replicate es.length .room ++ inputs)
  | [] => h
  | e :: es => by
    have hphase : (⟨s, .handingOver (e :: es) ending⟩ : Connection).phase =
        .handing e es ending := rfl
    refine .hands hphase ?_
    rw [step_room_handing hphase]
    exact undisturbed_handingOver h es

theorem exists_undisturbed_reading (keepalive : Nat) (chunks : List (List UInt8)) :
    ∀ s : EventStream, ∃ inputs, Undisturbed keepalive ⟨s, .reading⟩ chunks inputs := by
  induction chunks with
  | nil => exact fun s => ⟨[.closed], .closes rfl⟩
  | cons bytes chunks ih =>
    intro s
    obtain ⟨inputs, hrest⟩ : ∃ inputs, Undisturbed keepalive
        ⟨(s.feed bytes).1, .handingOver [] (deliveries (s.feed bytes).2).2.2⟩ chunks inputs := by
      cases (deliveries (s.feed bytes).2).2.2 with
      | none => exact ih (s.feed bytes).1
      | some o => exact ⟨[], .ends (o := o) rfl⟩
    have hhanded := undisturbed_handingOver hrest
      ((deliveries (s.feed bytes).2).1.map .notification)
    exact ⟨_, .reads rfl hhanded⟩

/-- **A connection that is accepted and left alone comes to its end.** -/
theorem exists_undisturbed {status : Nat} (hstatus : Http.Status.isSuccess status = true)
    (body : String) (keepalive : Nat) (chunks : List (List UInt8)) :
    ∃ inputs, Undisturbed keepalive start chunks (.response status body :: inputs) := by
  obtain ⟨inputs, hreading⟩ := exists_undisturbed_reading keepalive chunks .start
  have hconnected : Undisturbed keepalive (start.step keepalive (.response status body)).1 chunks
      (.room :: inputs) := by
    rw [step_response rfl hstatus]
    exact .hands rfl hreading
  exact ⟨.room :: inputs, .accepts rfl hstatus hconnected⟩

/-- **One bad event never costs another.** A connection that is accepted and left alone comes to
its end. On the way it hands over that it was accepted and then the notifications of the events
that can be read, in their order and through the first error, whatever the bytes and their chunks
are. That error decides how it ends, and without one it ends because the server closed the stream.
If the malformed events are taken out of the body, all of this stays the same. -/
theorem malformed_costs_nothing {status : Nat} (hstatus : Http.Status.isSuccess status = true)
    (body : String) (keepalive : Nat) (chunks : List (List UInt8)) :
    (∃ inputs, Undisturbed keepalive start chunks (.response status body :: inputs)) ∧
      (∀ inputs, Undisturbed keepalive start chunks (.response status body :: inputs) →
        (start.run keepalive (.response status body :: inputs)).2 =
            .connected ::
              (throughError (EventStream.start.notifications chunks.flatten)).map .notification ∧
          (start.run keepalive (.response status body :: inputs)).1.outcome? =
            some (((firstError? (EventStream.start.notifications chunks.flatten)).map
              StreamError.ending).getD closedByServer)) ∧
      ∀ sifted inputs inputs', sifted.flatten = EventStream.withoutMalformed chunks.flatten →
        Undisturbed keepalive start chunks (.response status body :: inputs) →
        Undisturbed keepalive start sifted (.response status body :: inputs') →
        (start.run keepalive (.response status body :: inputs')).2 =
            (start.run keepalive (.response status body :: inputs)).2 ∧
          (start.run keepalive (.response status body :: inputs')).1.outcome? =
            (start.run keepalive (.response status body :: inputs)).1.outcome? := by
  refine ⟨exists_undisturbed hstatus body keepalive chunks,
    fun inputs h => undisturbed_run h, fun sifted inputs inputs' hsifted h h' => ?_⟩
  have hsame : start.prospect sifted.flatten = start.prospect chunks.flatten := by
    rw [hsifted]
    exact congrArg (handOver [.connected] none) (EventStream.yields_withoutMalformed _)
  obtain ⟨hsent, hended⟩ := undisturbed_run h
  obtain ⟨hsent', hended'⟩ := undisturbed_run h'
  rw [hsent, hended, hsent', hended', hsame]
  exact ⟨rfl, rfl⟩

theorem eq_error_of_error? {n : Notification} {e : StreamError} (h : n.error? = some e) :
    n = .error e := by
  cases n with
  | error e' => exact congrArg Notification.error (Option.some.inj h)
  | _ => cases h

/-- A malformed event is dropped and an error reported, in two chunks that cut the error in
the middle of a line. What follows it in the second chunk does not count. -/
theorem error_after_malformed_event :
    let chunks := [Utf8.ofString "data: x\n\nevent: error\nda",
      Utf8.ofString "ta: \x7b\"code\":40142\x7d\n\nevent: error\ndata: \x7b\"code\":40000\x7d\n\n"]
    Http.Status.isSuccess 200 = true ∧ ∃ inputs,
      Undisturbed 70 start chunks (.response 200 "" :: inputs) ∧
        (start.run 70 (.response 200 "" :: inputs)).2 =
          [.connected, .notification (.error ⟨"", 40142, 0⟩)] ∧
        (start.run 70 (.response 200 "" :: inputs)).1.outcome? =
          some (.retryable " (code 40142)") := by
  intro chunks
  have hstatus : Http.Status.isSuccess 200 = true := by decide
  obtain ⟨⟨inputs, h⟩, hrun, -⟩ := malformed_costs_nothing hstatus "" 70 chunks
  obtain ⟨hsent, hended⟩ := hrun inputs h
  have herrors : (throughError (EventStream.start.notifications chunks.flatten)).map
      Notification.error? = [some ⟨"", 40142, 0⟩] := by
    decide +kernel
  have hending : ((firstError? (EventStream.start.notifications chunks.flatten)).map
      StreamError.ending).getD closedByServer = .retryable " (code 40142)" := by
    decide +kernel
  obtain ⟨n, hn, herror⟩ := List.map_eq_singleton_iff.mp herrors
  rw [hn, eq_error_of_error? herror] at hsent
  rw [hending] at hended
  exact ⟨hstatus, inputs, h, hsent, hended⟩

end Connection

end Halyard.Push
