/-
# Reports of publishers may come in any order

Each channel reports its publishers with the time of the report, and a report that
is older than the last one of its channel does not count. While the table fills up
the status is moved by whatever changes on the way, and whether publishers are taken
to be there depends on reports that were overtaken since. Nothing of that is left in
the end: after any messages of a session the table holds the newest report of each
channel, the stream is paused if the last control message says so, and the status is
the one that these two call for (`Availability.Standing.tell`). Reports may therefore
come in any order and more than once, before, between and after the control messages,
as long as these keep their order.

Reports of one channel have to differ in their times. Of two that do not, the one
that came last would stay.

Key definitions: `Availability.Report`, `Availability.Delivers`,
`Availability.Newest`, `Availability.Settled`, `Availability.Standing`.
Key theorems: `Availability.Standing.tell`, `Availability.Settled.unique`,
`Availability.reports_in_any_order`.
-/
import Mathlib.Data.List.Pairwise
import Halyard.Proofs.Push.Sessions

namespace Halyard.Push

namespace Availability

/-! ### Messages of a session -/

/-- A channel with what it reported. -/
abbrev Report := String × Occupancy

/-- The report that an input is. -/
def Input.report? : Input → Option Report
  | .occupancy channel publishers timestamp => some (channel, ⟨publishers, timestamp⟩)
  | _ => none

/-- The control message that an input is. -/
def Input.control? : Input → Option Control
  | .control c => some c
  | _ => none

/-- Takes in several inputs. -/
def hear (a : Availability) (inputs : List Input) : Availability :=
  inputs.foldl (fun a i => (a.tell i).1) a

/-- Whether some messages are the given reports, each at least once and in any order, among the
given control messages in their order. -/
structure Delivers (reports : List Report) (controls : List Control) (inputs : List Input) :
    Prop where
  messages : ∀ i ∈ inputs, i.isMessage = true
  reports : ∀ r, r ∈ inputs.filterMap Input.report? ↔ r ∈ reports
  controls : inputs.filterMap Input.control? = controls

/-- Whether no two reports of a channel were made at the same time. -/
def Dated (reports : List Report) : Prop :=
  reports.Pairwise fun r q => r.1 = q.1 → r.2.timestamp ≠ q.2.timestamp

/-- Whether a channel reported this, and nothing later. -/
def Newest (reports : List Report) (channel : String) (o : Occupancy) : Prop :=
  (channel, o) ∈ reports ∧ ∀ q ∈ reports, q.1 = channel → q.2.timestamp ≤ o.timestamp

/-- How the availability of push stands after some reports and control messages of a session,
whatever their order was. -/
structure Settled (reports : List Report) (controls : List Control) (a : Availability) : Prop where
  channels : ∀ channel o, a.channels.get? channel = some o ↔ Newest reports channel o
  publishers : a.publishersAvailable = true ↔
    reports = [] ∨ ∃ channel o, Newest reports channel o ∧ 0 < o.publishers
  paused : a.pausedByControl = true ↔ controls.getLast? = some .paused
  current : a.current = some a.calledFor

/-- How it stands while they come in: each channel is listed with something that it reported
and that no other report of it is later than. -/
structure Standing (heard : List Report) (controls : List Control) (a : Availability) : Prop where
  reported : ∀ {channel o}, a.channels.get? channel = some o → (channel, o) ∈ heard
  newest : ∀ r ∈ heard, ∃ o, a.channels.get? r.1 = some o ∧ r.2.timestamp ≤ o.timestamp
  publishers : a.publishersAvailable = true ↔ heard = [] ∨ a.SomePublishers
  paused : a.pausedByControl = (controls.getLast? == some .paused)
  current : a.current = some a.calledFor

variable {a b : Availability} {heard reports : List Report} {controls : List Control}
  {inputs : List Input}

/-! ### One message -/

theorem outdated_eq_false_iff {channel : String} {timestamp : Int} :
    a.outdated channel timestamp = false ↔
      ∀ o, a.channels.get? channel = some o → o.timestamp ≤ timestamp := by
  unfold outdated
  cases a.channels.get? channel with
  | none => simp
  | some last => simp

namespace Standing

theorem on (h : Standing heard controls a) : a.isOff = false := by
  rw [isOff, h.current]
  rcases calledFor_cases (a := a) with hready | hpaused
  · rw [hready]
    rfl
  · rw [hpaused]
    rfl

theorem tell_overtaken (h : Standing heard controls a) {channel : String} {publishers : Nat}
    {timestamp : Int} (hold : a.outdated channel timestamp = true) :
    Standing (heard ++ [(channel, ⟨publishers, timestamp⟩)]) controls a := by
  obtain ⟨last, hlast, hlater⟩ :
      ∃ o, a.channels.get? channel = some o ∧ timestamp < o.timestamp := by
    by_contra hnone
    refine absurd (outdated_eq_false_iff.mpr fun o ho => ?_) (ne_false_of_eq_true hold)
    exact Int.not_lt.mp fun hlt => hnone ⟨o, ho, hlt⟩
  have hheard : heard ≠ [] := List.ne_nil_of_mem (h.reported hlast)
  refine ⟨fun ho => List.mem_append_left _ (h.reported ho), fun r hr => ?_, ?_, h.paused, h.current⟩
  · rcases List.mem_append.mp hr with hr | hr
    · exact h.newest r hr
    · obtain rfl := List.mem_singleton.mp hr
      exact ⟨last, hlast, Int.le_of_lt hlater⟩
  · rw [h.publishers]
    simp [hheard]

/-- A report that counts takes its channel's place in the table. -/
theorem tell_counting (h : Standing heard controls a) {channel : String} {publishers : Nat}
    {timestamp : Int} (hnew : a.outdated channel timestamp = false) :
    Standing (heard ++ [(channel, ⟨publishers, timestamp⟩)]) controls
      (a.tell (.occupancy channel publishers timestamp)).1 := by
  have htell : a.tell (.occupancy channel publishers timestamp) = _ :=
    occupancy_eq h.on hnew publishers
  have hnotEarlier := outdated_eq_false_iff.mp hnew
  have hget : ∀ n, (a.withReport channel publishers timestamp).channels.get? n =
      if n = channel then some ⟨publishers, timestamp⟩ else a.channels.get? n :=
    fun n => Dict.get?_insert _ _ _ _
  rw [htell]
  refine ⟨fun {n o} ho => ?_, fun r hr => ?_, ?_, h.paused, current_passage h.current⟩
  · have ho' := (hget n).symm.trans ho
    by_cases hn : n = channel
    · rw [if_pos hn, Option.some.injEq] at ho'
      rw [hn, ← ho']
      exact List.mem_append_right _ (List.mem_singleton_self _)
    · rw [if_neg hn] at ho'
      exact List.mem_append_left _ (h.reported ho')
  · have hlist : ∀ o, (if r.1 = channel then some ⟨publishers, timestamp⟩
        else a.channels.get? r.1) = some o →
        (a.withReport channel publishers timestamp).channels.get? r.1 = some o :=
      fun o ho => (hget r.1).trans ho
    by_cases hn : r.1 = channel
    · refine ⟨_, hlist _ (if_pos hn), ?_⟩
      rcases List.mem_append.mp hr with hr | hr
      · obtain ⟨o, ho, hle⟩ := h.newest r hr
        exact Int.le_trans hle (hnotEarlier o (hn ▸ ho))
      · obtain rfl := List.mem_singleton.mp hr
        exact Int.le_refl _
    · rcases List.mem_append.mp hr with hr | hr
      · obtain ⟨o, ho, hle⟩ := h.newest r hr
        exact ⟨o, hlist o ((if_neg hn).trans ho), hle⟩
      · obtain rfl := List.mem_singleton.mp hr
        exact absurd rfl hn
  · have hsome := anyPublishers_iff (a := a.withReport channel publishers timestamp)
    have hheard : heard ++ [(channel, ⟨publishers, timestamp⟩)] ≠ [] :=
      List.append_ne_nil_of_right_ne_nil _ (List.cons_ne_nil _ _)
    exact hsome.trans (or_iff_right hheard).symm

theorem tell_control (h : Standing heard controls a) {c : Control} (hc : c ≠ .disabled) :
    Standing heard (controls ++ [c]) (a.tell (.control c)).1 := by
  have htell : a.tell (.control c) = _ := control_eq h.on hc
  rw [htell]
  refine ⟨h.reported, h.newest, h.publishers, ?_, current_passage h.current⟩
  rw [List.getLast?_concat]
  rfl

/-- **A message adds to what was heard, and the table and the status follow.** -/
theorem tell (h : Standing heard controls a) {i : Input} (hi : i.isMessage = true)
    (hc : i.control? ≠ some .disabled) :
    Standing (heard ++ i.report?.toList) (controls ++ i.control?.toList) (a.tell i).1 := by
  cases i with
  | occupancy channel publishers timestamp =>
    rw [show controls ++ (Input.occupancy channel publishers timestamp).control?.toList = controls
      from List.append_nil _]
    cases hnew : a.outdated channel timestamp with
    | false => exact h.tell_counting hnew
    | true =>
      rw [tell_outdated hnew]
      exact h.tell_overtaken hnew
  | control c =>
    rw [show heard ++ (Input.control c).report?.toList = heard from List.append_nil _]
    exact h.tell_control fun hd => hc (congrArg some hd)
  | connected => cases hi
  | failed => cases hi

theorem hear : ∀ {inputs : List Input} {a : Availability} {heard : List Report}
    {controls : List Control}, Standing heard controls a →
    (∀ i ∈ inputs, i.isMessage = true ∧ i.control? ≠ some .disabled) →
    Standing (heard ++ inputs.filterMap Input.report?) (controls ++ inputs.filterMap Input.control?)
      (a.hear inputs)
  | [], a, heard, controls, h, _ => by
    rw [List.filterMap_nil, List.filterMap_nil, List.append_nil, List.append_nil]
    exact h
  | i :: inputs, a, heard, controls, h, hall => by
    obtain ⟨hi, hc⟩ := hall i List.mem_cons_self
    have hrest := (h.tell hi hc).hear fun j hj => hall j (List.mem_cons_of_mem _ hj)
    have hcons : ∀ {α : Type} (f : Input → Option α),
        (i :: inputs).filterMap f = (f i).toList ++ inputs.filterMap f := by
      intro α f
      rw [List.filterMap_cons]
      cases f i <;> rfl
    rw [hcons, hcons, ← List.append_assoc, ← List.append_assoc]
    exact hrest

end Standing

theorem standing_connected (hon : a.isOff = false) : Standing [] [] a.connected.1 := by
  have hconnected : a.connected.1 = ⟨Dict.empty, true, false, some .ready⟩ :=
    congrArg Prod.fst (tell_connected hon)
  rw [hconnected]
  exact ⟨fun ho => (by cases ho), fun r hr => (by cases hr), iff_of_true rfl (.inl rfl), rfl, rfl⟩

theorem hear_of_off (hoff : a.isOff = true) : ∀ inputs : List Input, a.hear inputs = a
  | [] => rfl
  | i :: inputs => by
    rw [hear, List.foldl_cons, tell_of_off hoff]
    exact hear_of_off hoff inputs

/-! ### All of them -/

theorem Dated.eq (h : Dated reports) {r q : Report} (hr : r ∈ reports) (hq : q ∈ reports)
    (hchannel : r.1 = q.1) (htime : r.2.timestamp = q.2.timestamp) : r = q := by
  by_contra hne
  have hsymm : Std.Symm fun r q : Report => r.1 = q.1 → r.2.timestamp ≠ q.2.timestamp :=
    ⟨fun r q h hc => (h hc.symm).symm⟩
  exact h.forall hr hq hne hchannel htime

/-- Once all reports were heard, in whatever order, the newest of each channel are listed. -/
theorem Standing.settled (h : Standing heard controls a) (hdated : Dated reports)
    (hmem : ∀ r, r ∈ heard ↔ r ∈ reports) : Settled reports controls a := by
  have hnewest : ∀ channel o, a.channels.get? channel = some o ↔ Newest reports channel o := by
    intro channel o
    constructor
    · intro ho
      refine ⟨(hmem _).mp (h.reported ho), fun q hq hchannel => ?_⟩
      obtain ⟨o', ho', hle⟩ := h.newest q ((hmem q).mpr hq)
      rw [hchannel, ho, Option.some.injEq] at ho'
      exact ho' ▸ hle
    · rintro ⟨hin, hlast⟩
      obtain ⟨o', ho', hle⟩ := h.newest _ ((hmem _).mpr hin)
      have hin' : (channel, o') ∈ reports := (hmem _).mp (h.reported ho')
      have htime : o'.timestamp = o.timestamp := Int.le_antisymm (hlast _ hin' rfl) hle
      have hsame : (channel, o') = (channel, o) := hdated.eq hin' hin rfl htime
      exact ho'.trans (congrArg some (Prod.mk.inj hsame).2)
  have hempty : heard = [] ↔ reports = [] := by
    rw [List.eq_nil_iff_forall_not_mem, List.eq_nil_iff_forall_not_mem]
    exact forall_congr' fun r => not_congr (hmem r)
  refine ⟨hnewest, ?_, ?_, h.current⟩
  · rw [h.publishers, hempty]
    unfold SomePublishers
    simp only [hnewest]
  · rw [h.paused, beq_iff_eq]

/-- What reports and control messages leave is determined by them. -/
theorem Settled.unique (ha : Settled reports controls a) (hb : Settled reports controls b) :
    a = b := by
  have hchannels : a.channels = b.channels := by
    refine Dict.ext_get? fun channel => Option.ext fun o => ?_
    exact (ha.channels channel o).trans (hb.channels channel o).symm
  have hpublishers : a.publishersAvailable = b.publishersAvailable :=
    Bool.eq_iff_iff.mpr (ha.publishers.trans hb.publishers.symm)
  have hpaused : a.pausedByControl = b.pausedByControl :=
    Bool.eq_iff_iff.mpr (ha.paused.trans hb.paused.symm)
  have hcalled : a.calledFor = b.calledFor := by
    rw [calledFor, calledFor, hpublishers, hpaused]
  have hcurrent : a.current = b.current := by
    rw [ha.current, hb.current, hcalled]
  cases a
  cases b
  rw [mk.injEq]
  exact ⟨hchannels, hpublishers, hpaused, hcurrent⟩

theorem settled_hear (hon : a.isOff = false) (hdated : Dated reports)
    (hcontrols : .disabled ∉ controls) (h : Delivers reports controls inputs) :
    Settled reports controls (a.connected.1.hear inputs) := by
  have hall : ∀ i ∈ inputs, i.isMessage = true ∧ i.control? ≠ some .disabled := by
    refine fun i hi => ⟨h.messages i hi, fun hd => hcontrols ?_⟩
    rw [← h.controls]
    exact List.mem_filterMap.mpr ⟨i, hi, hd⟩
  have hstanding := (standing_connected hon).hear hall
  rw [h.controls] at hstanding
  exact hstanding.settled hdated h.reports

/-- **Reports of publishers may come in any order.** Two ways to deliver the same reports, each
at least once, among the same control messages, that pause or resume the stream, leave a session
in the same state: the same table, the same view of publishers and of the pause, and the same
status. Unless push is off, the table lists the newest report of each channel, publishers are
taken to be there if nothing was reported or some newest report has them, the stream is paused if
the last control message says so, and the status is the one that is called for. -/
theorem reports_in_any_order (a : Availability) (hdated : Dated reports)
    (hcontrols : .disabled ∉ controls) {inputs others : List Input}
    (h : Delivers reports controls inputs) (h' : Delivers reports controls others) :
    a.connected.1.hear inputs = a.connected.1.hear others ∧
      (a.isOff = false → Settled reports controls (a.connected.1.hear inputs)) := by
  cases hoff : a.isOff with
  | false =>
    have hsettled := settled_hear hoff hdated hcontrols h
    have hsettled' := settled_hear hoff hdated hcontrols h'
    exact ⟨hsettled.unique hsettled', fun _ => hsettled⟩
  | true =>
    have hconnected : a.connected.1 = a := congrArg Prod.fst (tell_of_off hoff .connected)
    rw [hconnected, hear_of_off hoff, hear_of_off hoff]
    exact ⟨rfl, fun hon => Bool.noConfusion hon⟩

/-- Two channels: publishers leave the first and come back, the second has none. -/
def comingAndGoing : List Report :=
  [("control_pri", ⟨0, 1⟩), ("control_sec", ⟨0, 2⟩), ("control_pri", ⟨3, 5⟩)]

/-- The reports in their order, while the stream is paused and resumed. -/
def inOrder : List Input :=
  [.occupancy "control_pri" 0 1, .control .paused, .occupancy "control_sec" 0 2,
    .control .resumed, .occupancy "control_pri" 3 5]

/-- The last report comes first, the one before it late, and two of them come again. -/
def outOfOrder : List Input :=
  [.occupancy "control_pri" 3 5, .occupancy "control_sec" 0 2, .control .paused,
    .occupancy "control_pri" 0 1, .occupancy "control_pri" 3 5, .control .resumed,
    .occupancy "control_sec" 0 2]

/-- Push is ready after either. -/
theorem comingAndGoing_settles :
    Dated comingAndGoing ∧ Delivers comingAndGoing [.paused, .resumed] inOrder ∧
      Delivers comingAndGoing [.paused, .resumed] outOfOrder ∧
      initial.connected.1.hear inOrder = initial.connected.1.hear outOfOrder ∧
      (initial.connected.1.hear outOfOrder).current = some .ready ∧
      (initial.isOff = false →
        Settled comingAndGoing [.paused, .resumed] (initial.connected.1.hear inOrder)) := by
  have hdated : Dated comingAndGoing := by
    unfold Dated
    decide
  have hin : Delivers comingAndGoing [.paused, .resumed] inOrder :=
    ⟨by decide, fun r => by rfl, rfl⟩
  have hout : Delivers comingAndGoing [.paused, .resumed] outOfOrder := by
    refine ⟨by decide, fun r => ?_, rfl⟩
    simp only [outOfOrder, comingAndGoing, Input.report?, List.filterMap_cons, List.filterMap_nil,
      List.mem_cons, List.not_mem_nil]
    grind
  have hsame := reports_in_any_order initial hdated (by decide) hin hout
  exact ⟨hdated, hin, hout, hsame.1, rfl, hsame.2⟩

end Availability

end Halyard.Push
