/-
# Concurrent fetches of one segment

Any number of workers may fetch the same segment. Each reads the watermark when
it makes its request, and takes in the answer whenever it gets its turn; until
then others may have moved the watermark. Whatever the order of turns, the
members of the segment are those that the backend has at the watermark
(`World.segment_matches_roster`).

The invariant (`Roster.Tracks`) says of an answer under way what the answer
alone can say: it is the difference between two change numbers, and it does not
begin past the watermark. That it was computed for the present watermark is
checked when the answer is taken in.

Key definitions: `Roster.Honest`, `Roster.Fits`, `Roster.Tracks`.
Key theorems: `Roster.Tracks.stepWork`, `Roster.Tracks.turn`,
`World.segment_matches_roster`.
-/
import Halyard.Proofs.Store.Delivery
import Halyard.Proofs.Store.Segments
import Halyard.Proofs.Virtual.Run

namespace Halyard

open Push Virtual

/-! ### What leaves the segments alone -/

theorem Stores.segments_applyChanges (filter : Names) (s : Stores) (c : RuleChanges) :
    (s.applyChanges filter c).1.segments = s.segments := by
  rcases Stores.applyChanges_cases filter s c with
    ⟨e, -, h⟩ | ⟨s₁, names, e, h₁, -, h⟩ | ⟨s₁, names, s₂, names', h₁, h₂, h⟩
  · rw [h]
  · obtain ⟨-, -, -, rfl, -⟩ := Stores.applyRuleSegments_eq_ok_iff.mp h₁
    rw [h]
    rfl
  · obtain ⟨-, -, -, rfl, -⟩ := Stores.applyRuleSegments_eq_ok_iff.mp h₁
    obtain ⟨-, -, -, rfl, -⟩ := Stores.applyFlags_eq_ok_iff.mp h₂
    rw [h]
    rfl

theorem RuleFetch.segments_receive (filter : Names) (f : RuleFetch) (s : Stores)
    (a : Except FetchError RuleChanges) : (f.receive filter s a).1.segments = s.segments := by
  cases a with
  | error e => rfl
  | ok c =>
    have hc := Stores.segments_applyChanges filter s c
    rcases RuleFetch.receive_cases filter f s c with
      ⟨t, names, ht, h | h⟩ | ⟨t, e, ht, h | h⟩ <;> rw [ht] at hc <;> rw [h] <;> exact hc

theorem Replica.segments_dispatch (filter : Names) (busy : Bool) (r : Replica) (n : Notification) :
    (r.dispatch filter busy n).1.stores.segments = r.stores.segments := by
  have hd := r.dispatched filter busy n
  revert hd
  generalize (r.dispatch filter busy n).1 = r'
  intro hd
  cases hd with
  | same _ hs _ => rw [hs]
  | flag _ hp => rcases Stores.applyPushedFlag_cases hp with ⟨rfl, -⟩ | ⟨-, -, -, rfl, -⟩ <;> rfl
  | ruleSegment _ hp =>
    rcases Stores.applyPushedSegment_cases hp with ⟨rfl, -⟩ | ⟨-, rfl, -⟩ <;> rfl
  | kill _ _ => rfl

namespace Roster

variable {β : Type} {f : World.Interject Empty β} {w w' : World Empty β} {c : Core Empty}
  {M : Roster} {name : String} {base s t : SegmentStore}

/-- Whether a reply answers with the difference between the change number that is asked about
and another. -/
def Honest (M : Roster) (r : SegmentReply Empty) : Prop :=
  ∀ since d, r.answer since = .ok d → d.since = since ∧ M.Explains d

/-- Whether the answer that a fetch waits for may be taken in at some time: it is the
difference between two change numbers and does not begin past the watermark. -/
def Fits (M : Roster) (name : String) (s : SegmentStore) (call : SegmentCall Empty) : Prop :=
  call.name = name → ∀ a d, call.pending = some a → a.answer = .ok d →
    M.Explains d ∧ d.since ≤ s.watermark name ∧ (s.segments.get? name = none → d.since = unsynced)

/-- Whether the fetch that work has under way, if any, waits for an answer that fits. -/
def WorkFits (M : Roster) (name : String) (s : SegmentStore) (work : Work Empty) : Prop :=
  ∀ call, work.segmentCall? = some call → M.Fits name s call

/-- What holds of a segment in every world that plays lead to: its members are those at its
watermark, which is not behind the one in `base`, and all answers to come fit. -/
structure Tracks (M : Roster) (name : String) (base : SegmentStore) (c : Core Empty) : Prop where
  members : M.Matches name c.stores.segments
  later : base.Precedes name c.stores.segments
  replies : ∀ r ∈ (c.replies.get? name).getD [], M.Honest r
  calls : ∀ s work, c.work s = some work → M.WorkFits name c.stores.segments work

theorem Fits.mono {call : SegmentCall Empty} (h : M.Fits name s call) (hst : s.Precedes name t) :
    M.Fits name t call := by
  intro hn a d hp ha
  obtain ⟨hd, hle, hnone⟩ := h hn a d hp ha
  exact ⟨hd, Int.le_trans hle hst.1, fun ht => hnone (hst.2 ht)⟩

theorem fits_of_pending {call : SegmentCall Empty} (h : call.pending = none) :
    M.Fits name s call := by
  intro _ a d hp _
  rw [h] at hp
  cases hp

/-! ### Steps -/

namespace Tracks

theorem seat (h : M.Tracks name base c) {i : Seat} {x : Option (Work Empty)}
    (hw : ∀ work, x = some work → M.WorkFits name c.stores.segments work) :
    M.Tracks name base (c.seat i x) where
  members := h.members
  later := h.later
  replies := h.replies
  calls := by
    intro j work hj
    change (if j = i then x else c.work j) = some work at hj
    split at hj
    · exact hw work hj
    · exact h.calls j work hj

theorem withStores (h : M.Tracks name base c) {x : Stores} (hx : x.segments = c.stores.segments) :
    M.Tracks name base { c with stores := x } where
  members := by rw [hx]; exact h.members
  later := by rw [hx]; exact h.later
  replies := h.replies
  calls := by rw [hx]; exact h.calls

theorem withRegistry (h : M.Tracks name base c) (r : Registry) :
    M.Tracks name base { c with registry := r } :=
  ⟨h.members, h.later, h.replies, h.calls⟩

/-- Other replies to come for a segment, none of them new for the one that is followed. -/
theorem withReplies (h : M.Tracks name base c) {m : String} {rest : List (SegmentReply Empty)}
    (hrest : m = name → ∀ r ∈ rest, r ∈ (c.replies.get? name).getD []) :
    M.Tracks name base { c with replies := c.replies.insert m rest } where
  members := h.members
  later := h.later
  replies := by
    intro r hr
    rw [Dict.get?_insert] at hr
    by_cases hn : name = m
    · rw [if_pos hn, Option.getD_some] at hr
      exact h.replies r (hrest hn.symm r hr)
    · rw [if_neg hn] at hr
      exact h.replies r hr
  calls := h.calls

/-- A request reads the watermark, so what it is answered does not begin past it. -/
theorem requestSegment (h : M.Tracks name base w.core) {m : String} {options : FetchOptions}
    {a : Pending Empty SegmentChanges} (hreq : w.requestSegment m options = (w', a)) :
    M.Tracks name base w'.core ∧ w'.core.stores = w.core.stores ∧
      (m = name → ∀ d, a.answer = .ok d → M.Explains d ∧
        d.since = w.core.stores.segments.watermark name) := by
  rcases World.requestSegment_cases hreq with ⟨-, hcore, ha⟩ | ⟨r, rest, hr, hcore, ha⟩
  · rw [hcore]
    refine ⟨h, rfl, ?_⟩
    rintro rfl d hd
    rw [ha, Except.ok.injEq] at hd
    subst hd
    exact ⟨explains_nothingNew, rfl⟩
  · rw [hcore]
    have hget : m = name → (w.core.replies.get? name).getD [] = r :: rest := by
      rintro rfl
      exact hr
    refine ⟨h.withReplies fun hm q hq => ?_, rfl, ?_⟩
    · rw [hget hm]
      exact List.mem_cons_of_mem _ hq
    · rintro rfl d hd
      have hhonest : M.Honest r := h.replies r (by
        rw [hget rfl]
        exact List.mem_cons_self)
      rw [ha] at hd
      obtain ⟨hsince, hexp⟩ := hhonest _ d hd
      exact ⟨hexp, hsince⟩

/-- An answer that fits may be taken in, whoever else moved the watermark meanwhile. -/
theorem receive (h : M.Tracks name base c) (fetch : SegmentFetch) {m : String}
    {a : Except FetchError SegmentChanges} (ha : m = name → ∀ d, a = .ok d → M.Explains d) :
    M.Tracks name base { c with
      stores := { c.stores with segments := (fetch.receive m c.stores.segments a).1 } } := by
  obtain ⟨hmatches, hlater⟩ := matches_receive (f := fetch) h.members ha
  refine ⟨hmatches, h.later.trans hlater, h.replies, ?_⟩
  intro i work hi call hc
  exact (h.calls i work hi call hc).mono hlater

/-- A fetch takes its steps whoever else moves the watermark meanwhile. -/
theorem stepSegment (h : M.Tracks name base w.core) {call : SegmentCall Empty}
    (hcall : M.Fits name w.core.stores.segments call)
    {x : SegmentCall Empty ⊕ Except SyncError Unit} (hs : w.stepSegment f call = some (w', x)) :
    M.Tracks name base w'.core ∧
      ∀ call', x = .inl call' → M.Fits name w'.core.stores.segments call' := by
  rcases World.stepSegment_cases hs with
    ⟨-, a, hreq, rfl⟩ | ⟨a, s, keys, reception, hp, -, hr, hcore, rfl⟩
  · obtain ⟨ht, hstores, ha⟩ := h.requestSegment hreq
    refine ⟨ht, ?_⟩
    rintro call' ⟨⟩ hn a' d ⟨⟩ hd
    obtain ⟨hexp, hsince⟩ := ha hn d hd
    rw [hstores, hsince]
    exact ⟨hexp, Int.le_refl _, SegmentStore.watermark_of_get?_eq_none⟩
  · have ht := h.receive call.fetch fun hn d hd => (hcall hn a d hp hd).1
    have hst : (call.fetch.receive call.name w.core.stores.segments a.answer).1 = s :=
      congrArg Prod.fst hr
    rw [hst] at ht
    rw [hcore]
    refine ⟨ht, ?_⟩
    intro call' hx
    rcases reception with fetch | r
    · cases hx
      exact fits_of_pending rfl
    · cases hx

theorem stepRules (h : M.Tracks name base w.core) {call : RuleCall Empty}
    {x : RuleCall Empty ⊕ Except SyncError Names} (hs : w.stepRules f call = some (w', x)) :
    M.Tracks name base w'.core := by
  rcases World.stepRules_cases hs with ⟨-, hcore, -⟩ | ⟨a, s, reception, -, -, hr, hcore, -⟩
  · rw [hcore]
    exact h
  · rw [hcore]
    refine h.withStores ?_
    have hseg := RuleFetch.segments_receive w.filter call.fetch w.replica.stores a.answer
    rw [hr] at hseg
    exact hseg

/-- Work goes on: what it waits for fits before its next step and after it. -/
theorem stepWork (h : M.Tracks name base w.core) {work : Work Empty}
    (hw : M.WorkFits name w.core.stores.segments work)
    {x : Work Empty ⊕ Except SyncError Names} (hs : w.stepWork f work = some (w', x)) :
    M.Tracks name base w'.core ∧
      ∀ work', x = .inl work' → M.WorkFits name w'.core.stores.segments work' := by
  cases World.workStep_of_stepWork hs with
  | settled => exact ⟨h, fun work' hx => by cases hx⟩
  | rules hr =>
    refine ⟨h.stepRules hr, ?_⟩
    rintro work' ⟨⟩ c hc
    cases hc
  | rulesOver hr => exact ⟨h.stepRules hr, fun work' hx => by cases hx⟩
  | segment hr =>
    obtain ⟨ht, hc⟩ := h.stepSegment (hw _ rfl) hr
    refine ⟨ht, ?_⟩
    rintro work' ⟨⟩ c hc'
    cases hc'
    exact hc _ rfl
  | segmentOver hr => exact ⟨(h.stepSegment (hw _ rfl) hr).1, fun work' hx => by cases hx⟩
  | pursueRules hp =>
    rcases World.stepRulePursuit_cases hp with
      ⟨-, hcore, call, -, rfl⟩ | ⟨call, call', -, hr, rfl⟩ | ⟨call, r, -, hr, rfl⟩
    · rw [hcore]
      refine ⟨h, ?_⟩
      rintro work' ⟨⟩ c hc
      cases hc
    · refine ⟨h.stepRules hr, ?_⟩
      rintro work' ⟨⟩ c hc
      cases hc
    · refine ⟨h.stepRules hr, ?_⟩
      rintro work' ⟨⟩ c hc
      exact fits_of_pending (World.segmentCall?_moveRules _ _ c hc)
  | @pursueSegment p _ _ hp =>
    rcases World.stepSegmentPursuit_cases hp with
      ⟨-, hcore, call, hnone, rfl⟩ | ⟨call, call', hcall, hr, rfl⟩ | ⟨call, r, hcall, hr, rfl⟩
    · rw [hcore]
      refine ⟨h, ?_⟩
      rintro work' ⟨⟩ c hc
      cases hc
      exact fits_of_pending hnone
    · obtain ⟨ht, hc⟩ := h.stepSegment (hw call hcall) hr
      refine ⟨ht, ?_⟩
      rintro work' ⟨⟩ c hc'
      cases hc'
      exact hc call' rfl
    · refine ⟨(h.stepSegment (hw call hcall) hr).1, ?_⟩
      rintro work' ⟨⟩ c hc
      rw [(World.onSegment_moveSegment p _).2] at hc
      cases hc

theorem turn (h : M.Tracks name base w.core) {i : Seat} (ht : World.Turn f w i c) :
    M.Tracks name base c := by
  cases ht with
  | drops _ => exact h.seat fun work hw => by cases hw
  | begins _ _ hnone _ =>
    refine h.seat ?_
    rintro work ⟨⟩ call hcall
    exact fits_of_pending (hnone call hcall)
  | goesOn hw hs =>
    obtain ⟨h₁, hwork⟩ := h.stepWork (h.calls i _ hw) hs
    refine h₁.seat ?_
    rintro work ⟨⟩
    exact hwork _ rfl
  | @ends work w₁ r hw hs =>
    have h₁ := (h.stepWork (h.calls i _ hw) hs).1.seat (i := i) (x := none)
      fun work hw => by cases hw
    cases r with
    | error e => cases i <;> exact h₁
    | ok names =>
      cases i with
      | poll => exact h₁.withRegistry _
      | rules => exact h₁.withRegistry _
      | _ => exact h₁

theorem dispatch (h : M.Tracks name base w.core) (n : Notification) :
    M.Tracks name base (w.dispatch n).core := by
  rw [World.core_dispatch]
  exact (h.withStores (Replica.segments_dispatch w.filter w.rulesBusy w.replica n)).withRegistry _

theorem play (h : M.Tracks name base w.core) (ms : List Virtual.Move) :
    M.Tracks name base (w.play f ms).core :=
  World.play_induction (fun _ n h => h.dispatch n) (fun _ _ _ ht h => h.turn ht) ms h

end Tracks

theorem tracks_of_rest (hnew : w.replica.stores.segments.segments.get? name = none)
    (hrest : ∀ i, w.workAt i = none)
    (hreplies : ∀ r ∈ (w.segmentReplies.get? name).getD [], M.Honest r) :
    M.Tracks name w.replica.stores.segments w.core where
  members := matches_of_get?_eq_none hnew
  later := .refl
  replies := hreplies
  calls := by
    intro i work hi
    rw [show w.core.work i = none from hrest i] at hi
    cases hi

end Roster

/-- **Concurrent fetches never corrupt a segment.** Whatever the order in which workers ask,
are answered and take in what they were answered: the members are those of the roster at the
watermark, the watermark never goes back, and an answer that was computed for another
watermark changes nothing. -/
theorem Virtual.World.segment_matches_roster {β : Type} {f : World.Interject Empty β}
    {w : World Empty β} {M : Roster} {name : String}
    (hnew : w.replica.stores.segments.segments.get? name = none)
    (hrest : ∀ i, w.workAt i = none)
    (hreplies : ∀ r ∈ (w.segmentReplies.get? name).getD [], M.Honest r)
    (ms ms' : List Virtual.Move) :
    let s := (w.play f ms).replica.stores.segments
    (∀ k, k ∈ (s.get name).members ↔ k ∈ M.members (s.watermark name)) ∧
    s.watermark name ≤ ((w.play f ms).play f ms').replica.stores.segments.watermark name ∧
    (∀ i work call a d, (w.play f ms).workAt i = some work → work.segmentCall? = some call →
      call.name = name → call.pending = some a → a.answer = .ok d →
      d.since ≠ s.watermark name → (call.fetch.receive name s a.answer).1 = s) := by
  intro s
  have h : M.Tracks name w.replica.stores.segments (w.play f ms).core :=
    (Roster.tracks_of_rest hnew hrest hreplies).play ms
  refine ⟨h.members, ?_, ?_⟩
  · have hlater : M.Tracks name s ((w.play f ms).play f ms').core :=
      Roster.Tracks.play { h with later := .refl } ms'
    exact hlater.later.1
  · intro i work call a d hi hcall hn hp ha hne
    obtain ⟨-, -, hnone⟩ := h.calls i work hi call hcall hn a d hp ha
    rw [ha]
    refine SegmentStore.receive_of_superseded hne fun hget => hne ?_
    rw [hnone hget, SegmentStore.watermark_of_get?_eq_none hget]

/-- Ann is in at 5, and from 9 on Bob is in her place. -/
def Roster.annThenBob : Roster where
  members n := { k | (5 ≤ n ∧ n < 9 ∧ k = "ann") ∨ (9 ≤ n ∧ k = "bob") }
  members_unsynced := by
    ext k
    simp [unsynced]

/-- The reply that somebody is in a segment at a change number, to who asks for the first
time. -/
def firstReply (delay : Nat) (till : ChangeNumber) (key : String) : SegmentReply Empty where
  delay := delay
  during := []
  answer since :=
    if since = unsynced then .ok ⟨"staff", unsynced, till, [key], []⟩ else .error .transport

/-- Two workers, and replies of which the first takes longer. -/
def slowAndFast : World Empty Empty :=
  { World.initial Names.empty ⟨0, 0, 0⟩ with
    workers := [.idle, .idle]
    segmentReplies := Dict.ofList [("staff", [firstReply 10 5 "ann", firstReply 0 9 "bob"])] }

/-- Both workers ask, and the one that asked later is answered first. -/
def overtakingMoves : List Virtual.Move :=
  [.job ⟨"staff", none, none⟩, .job ⟨"staff", none, none⟩,
    .turn true (.worker 0), .turn false (.worker 0),
    .turn true (.worker 1), .turn false (.worker 1), .turn true (.worker 1), .wait 10]

theorem workAt_slowAndFast (i : Seat) : slowAndFast.workAt i = none := by
  cases i with
  | worker i =>
    rcases i with - | - | i
    · rfl
    · rfl
    · rfl
  | _ => rfl

theorem honest_firstReply {M : Roster} {delay : Nat} {till : ChangeNumber} {key : String}
    (h : M.Explains ⟨"staff", unsynced, till, [key], []⟩) :
    M.Honest (firstReply delay till key) := by
  intro since d hd
  unfold firstReply at hd
  simp only at hd
  split at hd
  · rename_i hsince
    cases hd
    exact ⟨hsince.symm, h⟩
  · cases hd

theorem honest_slowAndFast : ∀ r ∈ (slowAndFast.segmentReplies.get? "staff").getD [],
    Roster.annThenBob.Honest r := by
  have hl : (slowAndFast.segmentReplies.get? "staff").getD [] =
      [firstReply 10 5 "ann", firstReply 0 9 "bob"] := rfl
  intro r hr
  rw [hl, List.mem_cons, List.mem_singleton] at hr
  rcases hr with rfl | rfl
  · refine honest_firstReply ⟨by decide, fun k => ?_, fun k => ?_⟩ <;>
      simp [Roster.annThenBob, unsynced]
  · refine honest_firstReply ⟨by decide, fun k => ?_, fun k => ?_⟩ <;>
      simp [Roster.annThenBob, unsynced]

/-- The answer for 5 comes when the segment is at 9, and leaves it so. -/
theorem slow_answer_changes_nothing :
    let w := slowAndFast.play nofun overtakingMoves
    let s := w.replica.stores.segments
    (∀ k, k ∈ (s.get "staff").members ↔ k ∈ Roster.annThenBob.members 9) ∧
    ∃ call a, w.workAt (.worker 0) = some (.segment call) ∧ call.pending = some a ∧
      a.answer = .ok ⟨"staff", unsynced, 5, ["ann"], []⟩ ∧
      (call.fetch.receive "staff" s a.answer).1 = s := by
  have h := World.segment_matches_roster (f := nofun) rfl workAt_slowAndFast honest_slowAndFast
    overtakingMoves []
  refine ⟨h.1, ⟨"staff", .poll, .start, some ⟨10, [], .ok ⟨"staff", unsynced, 5, ["ann"], []⟩⟩⟩,
    ⟨10, [], .ok ⟨"staff", unsynced, 5, ["ann"], []⟩⟩, rfl, rfl, rfl, ?_⟩
  exact h.2.2 (.worker 0) _ _ _ _ rfl rfl rfl rfl rfl (by decide)

end Halyard
