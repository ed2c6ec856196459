/-
# The gates of readiness are sound

That segments are ready tells that every segment which was registered before flags
became ready has been fetched. The polls of flags, the sweeps, the workers of the
pool and whoever else registers segments may take their steps in any order, and jobs
may fail; a gate that is open stays open (`Staged.readiness_sound`).

It is the order of two reads that makes a sweep trustworthy. It opens the gate only
if flags were ready before it listed the registry, so it has a ticket for every name
that was registered by then (`SweepStage.Covers`). From the time it is issued a
ticket stands for one name: only a fetch of that segment which ends well can leave
a good outcome under it (`Desk.StandsFor`).

Key definitions: `Desk.Numbered`, `Desk.StandsFor`, `Staged.Ordered`, `Staged.Trusted`,
`Staged.Fetched`.
Key theorems: `Staged.standsFor_step`, `Staged.Ordered.step`, `Staged.Trusted.step`,
`Staged.readiness_sound`.
-/
import Halyard.Proofs.Virtual.Steps

namespace Halyard.Virtual

variable {β : Type} {f : World.Interject Empty β} {n : String} {t : Nat} {P Q : Prop}

/-! ### Fetches that end well -/

/-- Whether a turn of a worker brings a fetch of a segment to a good end. -/
def World.Synchronizes (f : Interject Empty β) (woken : Bool) (i : Nat) (w : World Empty β)
    (n : String) : Prop :=
  (woken && w.aborted) = false ∧ (woken && w.shutdown) = false ∧
    ∃ job call v, w.workers[i]? = some (.busy job (.segment call)) ∧ call.name = n ∧
      w.stepSegment f call = some (v, .inr (.ok ()))

namespace Staged

variable {x y : Staged β} {m : Move}

/-- Whether a move brings a fetch of a segment to a good end. -/
def Fetches (f : World.Interject Empty β) (x : Staged β) : Move → String → Prop
  | .turn woken (.worker i), n => x.world.Synchronizes f woken i n
  | _, _ => False

/-- Whether a fetch of a segment comes to a good end during some moves. -/
def Fetched (f : World.Interject Empty β) : Staged β → List Move → String → Prop
  | _, [], _ => False
  | x, m :: ms, n => x.Fetches f m n ∨ Fetched f (x.move f m) ms n

theorem segment_of_fetches (h : x.Fetches f m n) :
    (x.move f m).world.replica.stores.segments.segments.get? n ≠ none := by
  cases m with
  | turn woken a =>
    cases a with
    | worker i =>
      obtain ⟨habort, hshut, job, call, v, hi, rfl, hs⟩ := h
      have hturn : x.turn f woken (.worker i) =
          some { x with world := (v.resolve job (.ok ())).setWorker i .idle } := by
        show (x.world.actWorker f woken i).map _ = _
        unfold World.actWorker
        simp only [hi, habort, hshut, Bool.false_eq_true, if_false, World.stepWork, hs,
          Option.map_some, Except.map]
      rw [move, hturn]
      show (v.resolve job (.ok ())).replica.stores.segments.segments.get? call.name ≠ none
      have hsegments : (v.resolve job (.ok ())).replica.stores.segments =
          v.replica.stores.segments := by
        unfold World.resolve
        split <;> rfl
      rw [hsegments]
      rcases World.stepSegment_cases hs with
        ⟨-, a, -, hx⟩ | ⟨a, s, keys, reception, -, -, hr, hcore, hx⟩
      · cases hx
      · rcases reception with fetch | r
        · cases hx
        · cases hx
          have hstores : v.replica.stores.segments = s :=
            congrArg (fun c : Core Empty => c.stores.segments) hcore
          rw [hstores]
          exact SegmentStore.get?_ne_none_of_receive_ok hr
    | _ => exact h.elim
  | _ => exact h.elim

theorem segment_of_fetched : ∀ (ms : List Move) {x : Staged β}, x.Fetched f ms n →
    (x.play f ms).world.replica.stores.segments.segments.get? n ≠ none
  | [], _, h => h.elim
  | m :: ms, x, h => by
    rcases h with h | h
    · intro hnone
      exact segment_of_fetches h (((precedes_play ms (x.move f m)).segments n).2 hnone)
    · exact segment_of_fetched ms h

end Staged

/-! ### Tickets -/

/-- Whether all tickets at a desk were given out. -/
def Desk.Numbered (d : Desk) : Prop :=
  d.Books (fun j => ∀ t, j.ticket = some t → t < d.nextTicket)
    (fun j _ => ∀ t, j.ticket = some t → t < d.nextTicket) fun o => o.1 < d.nextTicket

/-- Whether a ticket stands for a segment: the job with the ticket is a fetch of the segment,
and if its outcome is good, then `P` holds. -/
structure Desk.StandsFor (P : Prop) (n : String) (t : Nat) (d : Desk) : Prop where
  given : t < d.nextTicket
  books : d.Books (fun j => j.ticket = some t → j.name = n ∧ j.till = none)
    (fun j work => j.ticket = some t → ∃ call, work = .segment call ∧ call.name = n)
    fun o => o = (t, .ok ()) → P

namespace Staged

variable {x y : Staged β} {m : Move}

theorem numbered_step (hs : Step f x m y) (h : x.world.desk.Numbered) :
    y.world.desk.Numbered := by
  have hle := hs.precedes.nextTicket
  have hmono : x.world.desk.Books (fun j => ∀ t, j.ticket = some t → t < y.world.desk.nextTicket)
      (fun j _ => ∀ t, j.ticket = some t → t < y.world.desk.nextTicket)
      fun o => o.1 < y.world.desk.nextTicket :=
    h.mono (fun j hj t ht => Nat.lt_of_lt_of_le (hj t ht) hle)
      (fun j _ hj t ht => Nat.lt_of_lt_of_le (hj t ht) hle) fun o ho => Nat.lt_of_lt_of_le ho hle
  refine hs.books hmono (fun _ hj => hj) (fun _ _ _ _ hj _ => hj) (fun j _ t hj ht => hj t ht)
    (fun _ _ j _ _ _ t _ _ _ _ hj _ ht => hj t ht) ?_ ?_
  · intro j hj t ht
    cases hj.symm.trans ht
  · rintro name hnext t ⟨⟩
    exact hnext ▸ Nat.lt_succ_self _

/-- A fetch of a segment stays one until it ends. -/
theorem segment_of_stepWork {w w₁ : World Empty β} {call : SegmentCall Empty} {work : Work Empty}
    (h : w.stepWork f (.segment call) = some (w₁, .inl work)) :
    ∃ call', work = .segment call' ∧ call'.name = call.name := by
  cases World.workStep_of_stepWork h with
  | segment hs =>
    refine ⟨_, rfl, ?_⟩
    rcases World.stepSegment_cases hs with ⟨-, a, -, hx⟩ | ⟨a, s, keys, reception, -, -, -, -, hx⟩
    · cases hx
      rfl
    · rcases reception with fetch | r
      · cases hx
        rfl
      · cases hx

/-- **A ticket goes on to stand for its segment.** A good outcome is left under it only by a
fetch of the segment that ends well. -/
theorem standsFor_step (hs : Step f x m y) (h : x.world.desk.StandsFor P n t) :
    y.world.desk.StandsFor (P ∨ x.Fetches f m n) n t := by
  have hbooks : x.world.desk.Books (fun j => j.ticket = some t → j.name = n ∧ j.till = none)
      (fun j work => j.ticket = some t → ∃ call, work = .segment call ∧ call.name = n)
      fun o => o = (t, .ok ()) → P ∨ x.Fetches f m n :=
    h.books.mono (fun _ hj => hj) (fun _ _ hj => hj) fun _ ho he => .inl (ho he)
  refine ⟨Nat.lt_of_lt_of_le h.given hs.precedes.nextTicket,
    hs.books hbooks ?start ?step ?cancel ?ended ?new ?hand⟩
  case start =>
    intro j hj ht
    obtain ⟨hname, htill⟩ := hj ht
    refine ⟨World.startSegment j.name .poll, ?_, hname⟩
    unfold World.startJob
    rw [htill]
  case step =>
    intro j work w₁ work' hj hw ht
    obtain ⟨call, rfl, hname⟩ := hj ht
    obtain ⟨call', hcall', hname'⟩ := segment_of_stepWork hw
    exact ⟨call', hcall', hname'.trans hname⟩
  case cancel =>
    intro j work t' _ _ he
    cases he
  case ended =>
    intro woken i j work w₁ r t' hm habort hshut hi hj hw ht he
    obtain ⟨rfl, hok⟩ := Prod.mk.inj he
    obtain ⟨call, rfl, hname⟩ := hj ht
    cases World.workStep_of_stepWork hw with
    | @segmentOver _ _ r' hsegment =>
      cases r' with
      | error e => cases hok
      | ok u =>
        right
        rw [hm]
        exact ⟨habort, hshut, j, call, w₁, hi, hname, hsegment⟩
  case new =>
    intro j hj ht
    cases hj.symm.trans ht
  case hand =>
    rintro name - ⟨⟩
    exact absurd h.given (Nat.lt_irrefl _)

theorem standsFor_enqueueAwaited {w : World Empty β} (h : w.desk.Numbered) :
    (w.enqueueAwaited n).1.desk.StandsFor P n w.desk.nextTicket := by
  rw [World.desk_enqueueAwaited]
  refine ⟨Nat.lt_succ_self _, ⟨?_, ?_, ?_⟩⟩
  · intro j hj ht
    rcases List.mem_append.mp hj with hj | hj
    · exact absurd (h.jobs j hj _ ht) (Nat.lt_irrefl _)
    · split at hj
      · rw [List.mem_singleton.mp hj]
        exact ⟨rfl, rfl⟩
      · cases hj
  · intro j work hj ht
    exact absurd (h.workers j work hj _ ht) (Nat.lt_irrefl _)
  · rintro o ho rfl
    exact absurd (h.outcomes _ ho) (Nat.lt_irrefl _)

end Staged

/-! ### Sweeps -/

namespace SweepStage

variable {body : Option (Bool × List Nat)} {R S : Nat → Prop} {s : SweepStage}

/-- Whether a sweep is under way that found flags ready. `body` is what a sweep waits for. -/
def Trusts (body : Option (Bool × List Nat)) : SweepStage → Prop
  | .waiting => ∃ tickets, body = some (true, tickets)
  | .looked flagsReady => flagsReady = true
  | .handing flagsReady _ _ => flagsReady = true
  | .succeeded => True

/-- Whether a sweep that found flags ready, if one is under way, covers a segment: it will hand
out the name or has a ticket that stands for it (`R`), or else the segment was fetched (`P`). -/
def Covers (R : Nat → Prop) (P : Prop) (n : String) (body : Option (Bool × List Nat)) :
    SweepStage → Prop
  | .waiting => ∀ tickets, body = some (true, tickets) → ∃ t ∈ tickets, R t
  | .looked _ => True
  | .handing flagsReady rest tickets => flagsReady = true → n ∈ rest ∨ ∃ t ∈ tickets, R t
  | .succeeded => P

theorem Covers.mono (h : s.Covers R P n body) (hR : ∀ t, R t → S t) (hP : P → Q) :
    s.Covers S Q n body := by
  have htickets : ∀ {tickets : List Nat}, (∃ t ∈ tickets, R t) → ∃ t ∈ tickets, S t := by
    rintro tickets ⟨t, ht, hr⟩
    exact ⟨t, ht, hR t hr⟩
  cases s with
  | waiting => exact fun tickets hb => htickets (h tickets hb)
  | looked flagsReady => trivial
  | handing flagsReady rest tickets => exact fun hf => (h hf).imp id htickets
  | succeeded => exact hP h

theorem covers_of_not_trusts (h : ¬ s.Trusts body) : s.Covers R P n body := by
  cases s with
  | waiting => exact fun tickets hb => absurd ⟨tickets, hb⟩ h
  | looked flagsReady => trivial
  | handing flagsReady rest tickets => exact fun hf => absurd hf h
  | succeeded => exact absurd trivial h

end SweepStage

namespace Staged

variable {x y : Staged β} {m : Move}

/-- What holds of every staged world that an engine gets into: a sweep that found flags ready is
right, and segments are ready only if flags are. -/
structure Ordered (x : Staged β) : Prop where
  numbered : x.world.desk.Numbered
  trusts : x.sweep.Trusts x.world.desk.sweep → x.world.desk.ready.flags = true
  ready : x.world.desk.ready.segments = true → x.world.desk.ready.flags = true

/-- After a move segments are ready only if flags were before it. -/
theorem Ordered.flags_of_segments (h : x.Ordered) (hs : Step f x m y)
    (hy : y.world.desk.ready.segments = true) : x.world.desk.ready.flags = true := by
  rcases hs.gate with hg | hx
  · exact h.ready (hg ▸ hy)
  · exact h.trusts (hx ▸ trivial)

theorem Ordered.step (h : x.Ordered) (hs : Step f x m y) : y.Ordered := by
  have hflags := hs.precedes.flags
  refine ⟨numbered_step hs h.numbered, ?_, fun hy => hflags (h.flags_of_segments hs hy)⟩
  cases hs with
  | grows hd hsweep =>
    rw [hsweep, hd.sweep]
    exact fun ht => hflags (h.trusts ht)
  | works ht hsweep =>
    rw [hsweep, ht.sweep]
    exact fun ht => hflags (h.trusts ht)
  | opensFlags hd hsweep =>
    rw [hd]
    exact fun _ => rfl
  | looks _ hd hsweep =>
    rw [hsweep, hd]
    exact id
  | lists hx hd hsweep =>
    rw [hsweep]
    exact fun ht => hflags (h.trusts (hx ▸ ht))
  | hands hx hw hsweep =>
    rw [hsweep]
    exact fun ht => hflags (h.trusts (hx ▸ ht))
  | awaits hx hd hbody hsweep =>
    rw [hsweep, hd]
    rintro ⟨tickets, hb⟩
    obtain ⟨rfl, -⟩ := Prod.mk.inj (hbody _ hb)
    exact h.trusts (hx ▸ rfl)
  | ends _ hd hsweep =>
    rw [hsweep, hd]
    rintro ⟨tickets, hb⟩
    cases hb
  | @succeeds _ _ tickets hx hbody _ hd _ =>
    rw [hd]
    exact fun _ => h.trusts (hx ▸ ⟨tickets, hbody⟩)
  | opensSegments _ hd hsweep =>
    rw [hsweep, hd]
    rintro ⟨tickets, hb⟩
    cases hb

theorem Ordered.play : ∀ (ms : List Move) {x : Staged β}, x.Ordered → (x.play f ms).Ordered
  | [], _, h => h
  | m :: ms, x, h => Ordered.play ms (h.step (step_move f x m))

/-- What holds of a segment from when it is registered, while flags are not ready: a sweep that
found flags ready covers it, and segments are ready only if it was fetched (`P`). -/
structure Trusted (P : Prop) (n : String) (x : Staged β) : Prop where
  ordered : x.Ordered
  registered : x.world.desk.registry.contains n = true
  sweep : x.sweep.Covers (fun t => x.world.desk.StandsFor P n t) P n x.world.desk.sweep
  ready : x.world.desk.ready.segments = true → P

/-- Before flags are ready no sweep is trusted. -/
theorem trusted_of_closed (h : x.Ordered) (hn : x.world.desk.registry.contains n = true)
    (hflags : x.world.desk.ready.flags = false) : x.Trusted False n := by
  have hclosed : ¬ x.world.desk.ready.flags = true := Bool.eq_false_iff.mp hflags
  exact ⟨h, hn, SweepStage.covers_of_not_trusts fun ht => hclosed (h.trusts ht),
    fun hs => hclosed (h.ready hs)⟩

theorem Trusted.step (h : x.Trusted P n) (hs : Step f x m y) :
    y.Trusted (P ∨ x.Fetches f m n) n := by
  have hstands := fun t => standsFor_step (f := f) (P := P) (n := n) (t := t) hs
  refine ⟨h.ordered.step hs, hs.precedes.registry n h.registered, ?sweep, ?ready⟩
  case ready =>
    intro hy
    rcases hs.gate with hg | hx
    · exact .inl (h.ready (hg ▸ hy))
    · have hcovers := h.sweep
      rw [hx] at hcovers
      exact .inl hcovers
  case sweep =>
    have hkept := h.sweep.mono hstands (Or.inl : P → P ∨ x.Fetches f m n)
    cases hs with
    | grows hd hsweep =>
      rw [hsweep, hd.sweep]
      exact hkept
    | works ht hsweep =>
      rw [hsweep, ht.sweep]
      exact hkept
    | opensFlags hd hsweep =>
      have hsame : y.world.desk.sweep = x.world.desk.sweep := by rw [hd]
      rw [hsweep, hsame]
      exact hkept
    | looks _ _ hsweep =>
      rw [hsweep]
      trivial
    | lists _ _ hsweep =>
      rw [hsweep]
      exact fun _ => .inl (List.contains_iff_mem.mp h.registered)
    | hands hx hw hsweep =>
      rw [hsweep]
      rw [hx] at hkept
      intro hf
      rcases hkept hf with hmem | ⟨t, ht, hr⟩
      · rcases List.mem_cons.mp hmem with rfl | hmem
        · refine .inr ⟨_, List.mem_append_right _ List.mem_cons_self, ?_⟩
          rw [hw]
          exact standsFor_enqueueAwaited h.ordered.numbered
        · exact .inl hmem
      · exact .inr ⟨t, List.mem_append_left _ ht, hr⟩
    | awaits hx hd hbody hsweep =>
      rw [hsweep]
      rw [hx] at hkept
      intro tickets hb
      have hsame := hbody (true, tickets) (by rw [← hb, hd])
      obtain ⟨rfl, rfl⟩ := Prod.mk.inj hsame
      exact (hkept rfl).resolve_left List.not_mem_nil
    | ends _ hd hsweep =>
      rw [hsweep, hd]
      intro tickets hb
      cases hb
    | succeeds hx hbody hok _ hsweep =>
      have hcovers := h.sweep
      rw [hx] at hcovers
      obtain ⟨t, ht, hr⟩ := hcovers _ hbody
      rw [hsweep]
      exact .inl (hr.books.outcomes _ (hok t ht) rfl)
    | opensSegments _ hd hsweep =>
      rw [hsweep, hd]
      intro tickets hb
      cases hb

theorem Trusted.weaken (h : x.Trusted P n) (hPQ : P → Q) : x.Trusted Q n where
  ordered := h.ordered
  registered := h.registered
  sweep := h.sweep.mono (fun _ ht => ⟨ht.given, ht.books.mono (fun _ hj => hj) (fun _ _ hj => hj)
    fun _ ho he => hPQ (ho he)⟩) hPQ
  ready hs := hPQ (h.ready hs)

theorem Trusted.play : ∀ (ms : List Move) {x : Staged β} {P : Prop}, x.Trusted P n →
    (x.play f ms).Trusted (P ∨ x.Fetched f ms n) n
  | [], _, _, h => h.weaken .inl
  | m :: ms, x, P, h => by
    refine (Trusted.play ms (h.step (step_move f x m))).weaken ?_
    rintro ((hp | hm) | hms)
    · exact .inl hp
    · exact .inr (.inl hm)
    · exact .inr (.inr hms)

/-! ### Readiness -/

/-- An engine before its first poll comes back: nothing is ready, and no sweep is under way. -/
structure Starts (x : Staged β) : Prop where
  closed : x.world.replica.readiness = .closed
  sweep : x.sweep = .waiting
  resting : x.world.desk.sweep = none
  numbered : x.world.desk.Numbered

theorem Starts.ordered (h : x.Starts) : x.Ordered where
  numbered := h.numbered
  trusts := by
    rw [h.sweep, h.resting]
    rintro ⟨tickets, hb⟩
    cases hb
  ready hs := by
    rw [show x.world.desk.ready = .closed from h.closed] at hs
    cases hs

/-- **The gates of readiness are sound.** Whatever the order of the steps, and whichever jobs
fail: a gate that is open stays open; after a move segments are ready only if flags were ready
before it; and once segments are ready, every segment that was registered while flags were not
has been fetched to a good end since, and answers whether a key belongs to it. -/
theorem readiness_sound (h : x.Starts) (ms : List Move) :
    let y := x.play f ms
    (∀ r ms', y.world.replica.readiness.ready r = true →
      (y.play f ms').world.replica.readiness.ready r = true) ∧
    (∀ m, (y.move f m).world.replica.readiness.segments = true →
      y.world.replica.readiness.flags = true) ∧
    ∀ n ms', y.world.replica.registry.contains n = true →
      y.world.replica.readiness.flags = false →
      (y.play f ms').world.replica.readiness.segments = true →
      y.Fetched f ms' n ∧
        ∀ key, ((y.play f ms').world.replica.stores.segments.contains? n key).isSome = true := by
  intro y
  have hy : y.Ordered := h.ordered.play ms
  refine ⟨?_, fun m => hy.flags_of_segments (step_move f y m), ?_⟩
  · intro r ms' hr
    have hlater := precedes_play (f := f) ms' y
    cases r with
    | flags => exact hlater.flags hr
    | segments => exact hlater.gate hr
  · intro n ms' hn hflags hready
    have htrusted := (trusted_of_closed hy hn hflags).play (f := f) ms'
    have hfetched : y.Fetched f ms' n := (htrusted.ready hready).resolve_left id
    refine ⟨hfetched, fun key => ?_⟩
    have hsegment := segment_of_fetched ms' hfetched
    unfold SegmentStore.contains?
    rw [Option.isSome_map]
    exact Option.isSome_iff_ne_none.mpr hsegment

/-! ### The first sweep of an engine -/

/-- An engine with one worker. The first answer brings a flag that refers to a segment. -/
def oneFlag : World Empty Empty :=
  { World.initial Names.empty ⟨0, 0, 0⟩ with
    workers := [.idle]
    polling := some ⟨⟨.start 10, none⟩, ⟨.start 10, none⟩, ⟨⟨10, 10⟩, 10⟩, none⟩
    ruleReplies := [⟨0, [], fun _ _ => .ok (.ofFlags unsynced 10 [.asking "a" ["staff"] 10])⟩] }

/-- The poll comes back, and the segment is registered. -/
def discoveringMoves : List Move :=
  List.replicate 6 (.turn false .flagsTask)

/-- Flags become ready, and a sweep begins; the worker does the two jobs for the segment; the
sweep ends. -/
def sweepingMoves : List Move :=
  .turn false .flagsTask :: List.replicate 4 (.turn false .segmentsTask) ++
    List.replicate 6 (.turn false (.worker 0)) ++ List.replicate 2 (.turn false .segmentsTask)

theorem starts_oneFlag : (of oneFlag).Starts where
  closed := rfl
  sweep := rfl
  resting := rfl
  numbered := by
    refine ⟨?_, ?_, ?_⟩
    · intro j hj
      cases hj
    · intro j work hj
      cases List.mem_singleton.mp hj
    · intro o ho
      cases ho

/-- The segment that the flag refers to is fetched before segments are ready. -/
theorem staff_fetched_by_first_sweep :
    ((of oneFlag).play nofun discoveringMoves).Fetched nofun sweepingMoves "staff" ∧
      ∀ key, ((((of oneFlag).play nofun discoveringMoves).play nofun
        sweepingMoves).world.replica.stores.segments.contains? "staff" key).isSome = true :=
  (readiness_sound starts_oneFlag discoveringMoves).2.2 "staff" sweepingMoves rfl rfl rfl

end Staged

end Halyard.Virtual
