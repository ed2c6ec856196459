/-
# What the stores of rules are offered

Synchronisation offers four kinds of things to a store of rules: deltas,
definitions on their own, definitions that came with an announcement, and kills.
Each of them says where the watermark is to go, and each is accepted or turned
down by a rule of its own. Here the four are brought under one law: an offer that
is turned down leaves the stores as they are, and one that is accepted fits the
watermark and takes it where the offer aims (`Stores.offer_cases`). So watermarks
only move forward, and where one stands after a run of offers can be told from
the answers alone, without a look at the store (`Stores.watermark_offers`).

Key definitions: `Offer`, `Answer`, `Aim`, `Stores.offer`, `Stores.offers`,
`lastLeft`.
Key theorems: `RuleStore.offer_cases`, `Stores.offer_cases`,
`Stores.watermark_offers`, `Stores.watermarks_only_advance`.
-/
import Halyard.Proofs.Store.Delivery

namespace Halyard

/-! ### Offers and answers -/

/-- What a store of rules may be offered: a delta, a definition on its own, or one that was
computed against `previous`. -/
inductive RuleStore.Offer (α : Type) where
  | delta (d : Delta α)
  | entity (r : α) (keep : Bool)
  | pushed (r : α) (previous : Option ChangeNumber) (keep : Bool)

/-- What the stores may be offered: something for one of them, a definition that came with an
announcement, while a fetch of rules is under way or not, and a kill. -/
inductive Offer where
  | flags (o : RuleStore.Offer Flag)
  | ruleSegments (o : RuleStore.Offer RuleBasedSegment)
  | announcedFlag (filter : Names) (busy : Bool) (f : Flag) (previous : Option ChangeNumber)
  | announcedSegment (busy : Bool) (r : RuleBasedSegment) (previous : Option ChangeNumber)
  | kill (name treatment : String) (n : ChangeNumber)

/-- What an offer is answered. -/
inductive Answer where
  | delta (r : Except SyncError DeltaOutcome)
  | entity (r : Except SyncError EntityOutcome)
  | pushed (r : Except SyncError PushOutcome)
  | kill (r : Except SyncError Bool)

/-- Whether an answer turns the offer down: it names an error, calls the definition stale or
leaves it to a fetch, or tells that nothing was killed. -/
def Answer.declines : Answer → Bool
  | .delta (.ok _) | .entity (.ok .applied) | .pushed (.ok (.applied _)) | .kill (.ok true) => false
  | _ => true

/-- What is there after an attempt, and what it is answered. A refusal leaves what was there. -/
def attempt {σ β : Type} (s : σ) : Except SyncError (σ × β) → σ × Except SyncError β
  | .ok (t, b) => (t, .ok b)
  | .error e => (s, .error e)

/-- Offers something to a store. -/
def RuleStore.offer {α : Type} [Rule α] (s : RuleStore α) : RuleStore.Offer α → RuleStore α × Answer
  | .delta d => (attempt s (s.applyDelta d)).map id .delta
  | .entity r keep => (attempt s (s.applyEntity r keep)).map id .entity
  | .pushed r previous keep => (attempt s (s.applyPushed r previous keep)).map id .pushed

namespace Stores

/-- Offers something to the stores. -/
def offer (s : Stores) : Offer → Stores × Answer
  | .flags o => (s.flags.offer o).map (fun t => { s with flags := t }) id
  | .ruleSegments o => (s.ruleSegments.offer o).map (fun t => { s with ruleSegments := t }) id
  | .announcedFlag filter busy f previous =>
    (attempt s (s.applyPushedFlag filter busy f previous)).map id .pushed
  | .announcedSegment busy r previous =>
    (attempt s (s.applyPushedSegment busy r previous)).map id .pushed
  | .kill name treatment n =>
    (attempt s.flags (s.flags.kill name treatment n)).map (fun t => { s with flags := t }) .kill

/-- The stores after some offers. -/
def offers (s : Stores) (os : List Offer) : Stores :=
  os.foldl (fun s o => (s.offer o).1) s

/-- Some offers, each with its answer. -/
def exchanges : Stores → List Offer → List (Offer × Answer)
  | _, [] => []
  | s, o :: os => (o, (s.offer o).2) :: exchanges (s.offer o).1 os

end Stores

/-! ### Where an offer aims -/

/-- What an offer asks of the watermark: to go from one change number to another, to go to that
of a definition, or to stay. -/
inductive Aim where
  | range (since till : ChangeNumber)
  | version (n : ChangeNumber)
  | stay
deriving DecidableEq

namespace Aim

variable {a : Aim} {w : ChangeNumber}

/-- Whether a store at watermark `w` may follow. -/
def Fits (w : ChangeNumber) : Aim → Prop
  | .range since till => since = w ∧ since ≤ till
  | .version n => w < n
  | .stay => True

/-- Where a store at watermark `w` is led. -/
def target (w : ChangeNumber) : Aim → ChangeNumber
  | .range _ till => till
  | .version n => n
  | .stay => w

theorem Fits.le_target (h : a.Fits w) : w ≤ a.target w := by
  cases a with
  | range since till => exact h.1 ▸ h.2
  | version n => exact Int.le_of_lt h
  | stay => exact Int.le_refl w

end Aim

/-- Where something offered to a store aims. -/
def RuleStore.Offer.aim {α : Type} [Rule α] : RuleStore.Offer α → Aim
  | .delta d => .range d.since d.till
  | .entity r _ | .pushed r _ _ => .version (Rule.changeNumber r)

namespace Offer

/-- The store that an offer is for. -/
def kind : Offer → RuleKind
  | .flags _ | .announcedFlag .. | .kill .. => .flags
  | .ruleSegments _ | .announcedSegment .. => .ruleSegments

/-- Where an offer aims. A kill takes effect ahead of the watermark and leaves it. -/
def aim : Offer → Aim
  | .flags o => o.aim
  | .ruleSegments o => o.aim
  | .announcedFlag _ _ f _ => .version f.changeNumber
  | .announcedSegment _ r _ => .version r.changeNumber
  | .kill .. => .stay

end Offer

/-- Where the last accepted offer for a store left it, if it was at `start` before: told from the
offers and their answers alone. -/
def lastLeft (k : RuleKind) (start : ChangeNumber) (log : List (Offer × Answer)) : ChangeNumber :=
  log.foldl (fun w e => if e.1.kind = k ∧ e.2.declines = false then e.1.aim.target w else w) start

/-! ### One offer -/

theorem Answer.declines_pushed {o : PushOutcome} (h : ∀ names, o ≠ .applied names) :
    (Answer.pushed (.ok o)).declines = true := by
  cases o with
  | applied names => exact absurd rfl (h names)
  | stale => rfl
  | needsFetch => rfl

/-- An attempt declines and leaves what was there, or what holds of its results holds. -/
theorem attempt_cases {σ β : Type} {s : σ} {x : Except SyncError (σ × β)}
    (tell : Except SyncError β → Answer) {Q : σ → Prop}
    (herror : ∀ e, (tell (.error e)).declines = true)
    (hok : ∀ t b, x = .ok (t, b) → ((tell (.ok b)).declines = true ∧ t = s) ∨
      ((tell (.ok b)).declines = false ∧ Q t)) :
    ((tell (attempt s x).2).declines = true ∧ (attempt s x).1 = s) ∨
      ((tell (attempt s x).2).declines = false ∧ Q (attempt s x).1) := by
  cases x with
  | error e => exact .inl ⟨herror e, rfl⟩
  | ok y => exact hok y.1 y.2 rfl

/-- Something offered to a store is turned down and changes nothing, or it fits the watermark and
takes it where it aims. -/
theorem RuleStore.offer_cases {α : Type} [Rule α] (s : RuleStore α) (o : RuleStore.Offer α) :
    ((s.offer o).2.declines = true ∧ (s.offer o).1 = s) ∨
    ((s.offer o).2.declines = false ∧ o.aim.Fits s.watermark ∧
      (s.offer o).1.watermark = o.aim.target s.watermark) := by
  cases o with
  | delta d =>
    refine attempt_cases .delta (Q := fun t : RuleStore α =>
      (Aim.range d.since d.till).Fits s.watermark ∧ t.watermark = d.till)
      (fun _ => rfl) fun t o h => ?_
    obtain ⟨-, hsince, htill, rfl, -⟩ := applyDelta_eq_ok_iff.mp h
    exact .inr ⟨rfl, ⟨hsince, htill⟩, rfl⟩
  | entity r keep =>
    refine attempt_cases .entity (Q := fun t : RuleStore α =>
      s.watermark < Rule.changeNumber r ∧ t.watermark = Rule.changeNumber r)
      (fun _ => rfl) fun t o h => ?_
    rcases applyEntity_cases h with ⟨rfl, rfl⟩ | ⟨hnewer, rfl, rfl⟩
    · exact .inl ⟨rfl, rfl⟩
    · exact .inr ⟨rfl, hnewer, rfl⟩
  | pushed r previous keep =>
    refine attempt_cases .pushed (Q := fun t : RuleStore α =>
      s.watermark < Rule.changeNumber r ∧ t.watermark = Rule.changeNumber r)
      (fun _ => rfl) fun t o h => ?_
    rcases applyPushed_cases (fun _ => keep) h with ⟨rfl, ho⟩ | ⟨-, hnewer, -, rfl, rfl⟩
    · exact .inl ⟨Answer.declines_pushed ho, rfl⟩
    · exact .inr ⟨rfl, hnewer, rfl⟩

namespace Stores

/-- **An offer that is turned down leaves the stores as they are; one that is accepted fits the
watermark of its store and takes it where it aims.** The watermark of the other store stays. -/
theorem offer_cases (s : Stores) (o : Offer) :
    ((s.offer o).2.declines = true ∧ (s.offer o).1 = s) ∨
    ((s.offer o).2.declines = false ∧ o.aim.Fits (s.watermark o.kind) ∧
      ∀ k, (s.offer o).1.watermark k =
        if o.kind = k then o.aim.target (s.watermark k) else s.watermark k) := by
  cases o with
  | flags o =>
    rcases s.flags.offer_cases o with ⟨hno, hsame⟩ | ⟨hyes, hfits, hw⟩
    · exact .inl ⟨hno, congrArg (fun t => { s with flags := t }) hsame⟩
    · refine .inr ⟨hyes, hfits, fun k => ?_⟩
      cases k with
      | flags => exact hw
      | ruleSegments => rfl
  | ruleSegments o =>
    rcases s.ruleSegments.offer_cases o with ⟨hno, hsame⟩ | ⟨hyes, hfits, hw⟩
    · exact .inl ⟨hno, congrArg (fun t => { s with ruleSegments := t }) hsame⟩
    · refine .inr ⟨hyes, hfits, fun k => ?_⟩
      cases k with
      | flags => rfl
      | ruleSegments => exact hw
  | announcedFlag filter busy f previous =>
    refine attempt_cases .pushed (Q := fun t : Stores =>
      s.flags.watermark < f.changeNumber ∧
      ∀ k, t.watermark k = if .flags = k then f.changeNumber else s.watermark k)
      (fun _ => rfl) fun t o h => ?_
    rcases applyPushedFlag_cases h with ⟨rfl, ho⟩ | ⟨hnewer, -, -, rfl, rfl⟩
    · exact .inl ⟨Answer.declines_pushed ho, rfl⟩
    · refine .inr ⟨rfl, hnewer, fun k => ?_⟩
      cases k <;> rfl
  | announcedSegment busy r previous =>
    refine attempt_cases .pushed (Q := fun t : Stores =>
      s.ruleSegments.watermark < r.changeNumber ∧
      ∀ k, t.watermark k = if .ruleSegments = k then r.changeNumber else s.watermark k)
      (fun _ => rfl) fun t o h => ?_
    rcases applyPushedSegment_cases h with ⟨rfl, ho⟩ | ⟨hnewer, rfl, rfl⟩
    · exact .inl ⟨Answer.declines_pushed ho, rfl⟩
    · refine .inr ⟨rfl, hnewer, fun k => ?_⟩
      cases k <;> rfl
  | kill name treatment n =>
    have hkill := attempt_cases (s := s.flags) (x := s.flags.kill name treatment n) .kill
      (Q := fun t : RuleStore Flag => t.watermark = s.flags.watermark)
      (fun _ => rfl) fun t b h => by
        rcases RuleStore.kill_cases h with ⟨rfl, rfl⟩ | ⟨f, -, -, rfl, rfl⟩
        · exact .inl ⟨rfl, rfl⟩
        · exact .inr ⟨rfl, RuleStore.watermark_insert _⟩
    rcases hkill with ⟨hno, hsame⟩ | ⟨hyes, hw⟩
    · exact .inl ⟨hno, congrArg (fun t => { s with flags := t }) hsame⟩
    · refine .inr ⟨hyes, trivial, fun k => ?_⟩
      cases k with
      | flags => exact hw
      | ruleSegments => rfl

theorem watermark_le_offer (s : Stores) (o : Offer) (k : RuleKind) :
    s.watermark k ≤ (s.offer o).1.watermark k := by
  rcases s.offer_cases o with ⟨-, hsame⟩ | ⟨-, hfits, hw⟩
  · exact Int.le_of_eq (by rw [hsame])
  · rw [hw k]
    by_cases hk : o.kind = k
    · rw [if_pos hk]
      exact Aim.Fits.le_target (hk ▸ hfits)
    · exact Int.le_of_eq (if_neg hk).symm

theorem watermark_offer (s : Stores) (o : Offer) (k : RuleKind) :
    (s.offer o).1.watermark k =
      if o.kind = k ∧ (s.offer o).2.declines = false then o.aim.target (s.watermark k)
      else s.watermark k := by
  rcases s.offer_cases o with ⟨hno, hsame⟩ | ⟨hyes, -, hw⟩
  · rw [hsame, if_neg fun h => Bool.noConfusion (hno.symm.trans h.2)]
  · rw [hw k]
    simp only [hyes, and_true]

/-! ### Runs of offers -/

theorem watermark_le_offers (k : RuleKind) : ∀ (os : List Offer) (s : Stores),
    s.watermark k ≤ (s.offers os).watermark k
  | [], _ => Int.le_refl _
  | o :: os, s =>
    Int.le_trans (s.watermark_le_offer o k) (watermark_le_offers k os (s.offer o).1)

/-- **The watermark after a run is where the last accepted offer left it.** -/
theorem watermark_offers (k : RuleKind) : ∀ (os : List Offer) (s : Stores),
    (s.offers os).watermark k = lastLeft k (s.watermark k) (s.exchanges os)
  | [], _ => rfl
  | o :: os, s => by
    have hstep : lastLeft k (s.watermark k) (s.exchanges (o :: os)) =
        lastLeft k ((s.offer o).1.watermark k) ((s.offer o).1.exchanges os) := by
      rw [watermark_offer]
      rfl
    rw [hstep, ← watermark_offers k os (s.offer o).1]
    rfl

/-- **Watermarks only move forward, and what is turned down changes nothing.** After any run of
offers, whatever comes next: no watermark goes back. A delta that is accepted begins where the
last accepted offer left its store, and the store is left where the delta ends. A definition that
is accepted is newer than its store, which is left at its change number. A kill moves no
watermark. An offer that is turned down leaves the stores as they are. -/
theorem watermarks_only_advance (s : Stores) (os : List Offer) (next : Offer) :
    let before := s.offers os
    let after := (before.offer next).1
    let accepted := (before.offer next).2.declines = false
    let left := lastLeft next.kind (s.watermark next.kind) (s.exchanges os)
    (∀ k, s.watermark k ≤ before.watermark k ∧ before.watermark k ≤ after.watermark k) ∧
    (accepted → ∀ since till, next.aim = .range since till →
      since = left ∧ after.watermark next.kind = till) ∧
    (accepted → ∀ n, next.aim = .version n →
      before.watermark next.kind < n ∧ after.watermark next.kind = n) ∧
    (next.aim = .stay → ∀ k, after.watermark k = before.watermark k) ∧
    (¬ accepted → after = before) := by
  intro before after accepted left
  have hleft : before.watermark next.kind = left := watermark_offers next.kind os s
  have hforward : ∀ k, s.watermark k ≤ before.watermark k ∧
      before.watermark k ≤ after.watermark k :=
    fun k => ⟨watermark_le_offers k os s, before.watermark_le_offer next k⟩
  rcases before.offer_cases next with ⟨hno, hsame⟩ | ⟨hyes, hfits, hw⟩
  · have hdeclined : ¬ accepted := fun h => Bool.noConfusion (hno.symm.trans h)
    have hkept : ∀ k, after.watermark k = before.watermark k :=
      fun k => congrArg (watermark · k) hsame
    exact ⟨hforward, fun h => absurd h hdeclined, fun h => absurd h hdeclined, fun _ => hkept,
      fun _ => hsame⟩
  · have htarget : after.watermark next.kind = next.aim.target (before.watermark next.kind) :=
      (hw next.kind).trans (if_pos rfl)
    refine ⟨hforward, fun _ since till haim => ?_, fun _ n haim => ?_, fun haim k => ?_,
      fun h => absurd hyes h⟩
    · rw [haim] at hfits htarget
      exact ⟨hfits.1.trans hleft, htarget⟩
    · rw [haim] at hfits htarget
      exact ⟨hfits, htarget⟩
    · have hstay : after.watermark k =
          if next.kind = k then before.watermark k else before.watermark k := by
        rw [hw k, haim]
        rfl
      rw [hstay, ite_self]

/-- A delta to 10, a kill at 20, then a delta that begins at 10, a definition computed against 10,
and a delta that begins at 20: the kill moved no watermark, so the last of them is turned down. -/
theorem watermarks_advance_past_kill :
    let os : List Offer := [.flags (.delta ⟨unsynced, 10, [.asking "a" [] 10], []⟩),
      .kill "a" "off" 20]
    let before := empty.offers os
    let after := fun next => (before.offer next).1
    10 = lastLeft .flags unsynced (empty.exchanges os) ∧
    (after (.flags (.delta ⟨10, 40, [], []⟩))).flags.watermark = 40 ∧
    (after (.announcedFlag Names.empty false (.asking "a" [] 30) (some 10))).flags.watermark = 30 ∧
    after (.flags (.delta ⟨20, 40, [], []⟩)) = before := by
  intro os before after
  obtain ⟨-, hdelta, -⟩ := watermarks_only_advance empty os (.flags (.delta ⟨10, 40, [], []⟩))
  obtain ⟨-, -, hversion, -⟩ := watermarks_only_advance empty os
    (.announcedFlag Names.empty false (.asking "a" [] 30) (some 10))
  obtain ⟨-, -, -, -, hdeclined⟩ :=
    watermarks_only_advance empty os (.flags (.delta ⟨20, 40, [], []⟩))
  obtain ⟨hsince, htill⟩ := hdelta (by decide) 10 40 rfl
  exact ⟨hsince, htill, (hversion (by decide) 30 rfl).2, hdeclined (by decide)⟩

end Stores

end Halyard
