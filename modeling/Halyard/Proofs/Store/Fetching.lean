/-
# A fetch ends, whatever it is answered

A fetch asks for what comes after the watermarks until an answer has nothing
after it. It is the answer that says so, and a backend may answer anything, for
ever. Still the fetch ends: an answer that is applied and has something after it
raises a watermark, an answer that does not begin at the watermarks is asked for
again only a few times, and any other one is the last. Change numbers have 64
bits, so the watermarks can rise only so often (`FetchLoop.room`).

Fetches of rules and of segments are the same loop with other watermarks: two of
them, of which one may rise although the other page of the answer is refused, or
a single one. What one answer may do is said once (`FetchLoop.Turn`), and what
any number of them do follows from it by induction.

Key definitions: `FetchLoop`, `FetchLoop.after`, `FetchLoop.Turn`,
`FetchLoop.Ends`, `RuleFetch.loop`, `SegmentFetch.loop`.
Key theorems: `FetchLoop.Lawful.ends`, `RuleFetch.lawful_loop`,
`SegmentFetch.lawful_loop`, `fetches_end_caught_up`.
-/
import Mathlib.Algebra.BigOperators.Group.Finset.Basic
import Mathlib.Algebra.Order.BigOperators.Group.Finset
import Mathlib.Data.Nat.Count
import Halyard.Proofs.Json.Records
import Halyard.Proofs.Store.Pages
import Halyard.Proofs.Store.Segments

namespace Halyard

/-- The largest change number. -/
def maxChangeNumber : ChangeNumber := Nat.pow 2 63 - 1

/-- A fetch that is under way (`φ`) takes in answers (`γ`) about stores (`σ`) with some
watermarks (`ι`), until it ends with a result (`α`). -/
structure FetchLoop (φ σ γ α ι : Type) where
  /-- The fetch before its first request. -/
  start : φ
  /-- How often an answer was asked for again. -/
  gaps : φ → Nat
  receive : φ → σ → Except FetchError γ → σ × Reception φ α
  watermark : σ → ι → ChangeNumber
  since : γ → ι → ChangeNumber
  till : γ → ι → ChangeNumber
  /-- The watermark at which the stores refuse an answer and where the answer begins, if it
  is for a gap that they refuse it. -/
  gap? : σ → γ → Option (ChangeNumber × ChangeNumber)

namespace FetchLoop

variable {φ σ γ α ι : Type}

/-- The stores and the fetch after so many answers. When it is over it takes in no more. -/
def after (L : FetchLoop φ σ γ α ι) (s : σ) (answers : Nat → Except FetchError γ) :
    Nat → σ × Reception φ α
  | 0 => (s, .again L.start)
  | n + 1 =>
    match L.after s answers n with
    | (t, .again f) => L.receive f t (answers n)
    | (t, .over r) => (t, .over r)

/-- Whether a fetch that goes on is given an answer that the stores refuse for a gap. -/
def meetsGap (L : FetchLoop φ σ γ α ι) : σ × Reception φ α → Except FetchError γ → Bool
  | (t, .again _), .ok c => (L.gap? t c).isSome
  | _, _ => false

/-- How many of the first `n` answers were refused for a gap. -/
def gapsMet (L : FetchLoop φ σ γ α ι) (s : σ) (answers : Nat → Except FetchError γ) (n : Nat) :
    Nat :=
  Nat.count (fun i => L.meetsGap (L.after s answers i) (answers i) = true) n

/-- How far the watermarks can rise. -/
def room [Fintype ι] (L : FetchLoop φ σ γ α ι) (s : σ) : Nat :=
  ∑ k, (maxChangeNumber - L.watermark s k).toNat

/-- What one answer may do to a fetch. -/
inductive Turn (L : FetchLoop φ σ γ α ι) (f : φ) (s : σ) :
    Except FetchError γ → σ × Reception φ α → Prop
  /-- There was no answer, which ends the fetch. -/
  | failed {e : FetchError} {t : σ} : Turn L f s (.error e) (t, .over (.error e.toSync))
  /-- A gap, of which there have been few: the answer is asked for again. -/
  | refetch {c : γ} {x : ChangeNumber × ChangeNumber} {t : σ} {g : φ} :
      L.gap? s c = some x → L.gaps f < maxRefetches → L.gaps g = L.gaps f + 1 →
      Turn L f s (.ok c) (t, .again g)
  /-- A gap, of which there have been too many. -/
  | gap {c : γ} {x : ChangeNumber × ChangeNumber} {t : σ} :
      L.gap? s c = some x → maxRefetches ≤ L.gaps f →
      Turn L f s (.ok c) (t, .over (.error (.gap x.1 x.2)))
  /-- The stores refuse the answer for another reason. -/
  | refused {c : γ} {t : σ} {e : SyncError} :
      L.gap? s c = none → (∀ x y, e ≠ .gap x y) → Turn L f s (.ok c) (t, .over (.error e))
  /-- The answer has nothing after it. -/
  | current {c : γ} {t : σ} {a : α} :
      L.gap? s c = none →
      (∀ k, L.till c k = L.since c k ∧ L.since c k = L.watermark t k) →
      Turn L f s (.ok c) (t, .over (.ok a))
  /-- The answer leads further. -/
  | advance {c : γ} {t : σ} {g : φ} :
      L.gap? s c = none → (∀ k, L.watermark t k = L.till c k) →
      (∃ k, L.watermark s k < L.watermark t k) → L.gaps g = L.gaps f →
      Turn L f s (.ok c) (t, .again g)

/-- A loop whose answers do nothing else, and lower no watermark. -/
structure Lawful (L : FetchLoop φ σ γ α ι) : Prop where
  gaps_start : L.gaps L.start = 0
  turn : ∀ f s a, L.Turn f s a (L.receive f s a)
  rises : ∀ f s a k, L.watermark s k ≤ L.watermark (L.receive f s a).1 k

/-- What is said of a fetch that begins at `s` and is given one answer after another. -/
structure Ends [Fintype ι] (L : FetchLoop φ σ γ α ι) (s : σ)
    (answers : Nat → Except FetchError γ) : Prop where
  /-- It ends. -/
  ended : ∃ r, (L.after s answers (L.room s + maxRefetches + 1)).2 = .over r
  /-- No watermark falls. -/
  rises : ∀ n k,
    L.watermark (L.after s answers n).1 k ≤ L.watermark (L.after s answers (n + 1)).1 k
  /-- Each answer ends it, is one of a few that are asked for again, or raises a watermark. -/
  progress : ∀ n f, (L.after s answers n).2 = .again f →
    (∃ r, (L.after s answers (n + 1)).2 = .over r) ∨
    (L.meetsGap (L.after s answers n) (answers n) = true ∧
      L.gapsMet s answers (n + 1) ≤ maxRefetches) ∨
    ∃ k, L.watermark (L.after s answers n).1 k < L.watermark (L.after s answers (n + 1)).1 k
  /-- If it ends well, its last answer began and ended where all watermarks are then. -/
  current : ∀ m a, (L.after s answers m).2 = .over (.ok a) →
    ∃ n < m, ∃ f c, (L.after s answers n).2 = .again f ∧ answers n = .ok c ∧
      L.after s answers (n + 1) = L.after s answers m ∧
      ∀ k, L.till c k = L.since c k ∧ L.since c k = L.watermark (L.after s answers m).1 k
  /-- One gap more than are asked for again ends it, and nothing else ends it like that. -/
  gap : ∀ n, L.gapsMet s answers n = maxRefetches + 1 ↔
    ∃ x y, (L.after s answers n).2 = .over (.error (.gap x y))

variable {L : FetchLoop φ σ γ α ι} {s t : σ} {answers : Nat → Except FetchError γ} {n : Nat}

/-! ### Room -/

theorem toNat_sub_le {m n : Int} (h : m ≤ n) :
    (maxChangeNumber - n).toNat ≤ (maxChangeNumber - m).toNat := by
  omega

theorem toNat_sub_lt {m n : Int} (h : m < n) (hn : n ≤ maxChangeNumber) :
    (maxChangeNumber - n).toNat < (maxChangeNumber - m).toNat := by
  have hn' : n ≤ (maxChangeNumber : Int) := hn
  omega

theorem room_le [Fintype ι] (h : ∀ k, L.watermark s k ≤ L.watermark t k) :
    L.room t ≤ L.room s :=
  Finset.sum_le_sum fun k _ => toNat_sub_le (h k)

theorem room_lt [Fintype ι] (h : ∀ k, L.watermark s k ≤ L.watermark t k)
    (hmax : ∀ k, L.watermark t k ≤ maxChangeNumber)
    (hraised : ∃ k, L.watermark s k < L.watermark t k) : L.room t < L.room s := by
  obtain ⟨k, hk⟩ := hraised
  exact Finset.sum_lt_sum (fun k _ => toNat_sub_le (h k))
    ⟨k, Finset.mem_univ k, toNat_sub_lt hk (hmax k)⟩

/-! ### One answer more -/

theorem after_succ_of_again {f : φ} (h : L.after s answers n = (t, .again f)) :
    L.after s answers (n + 1) = L.receive f t (answers n) := by
  rw [after, h]

theorem after_succ_of_over {r : Except SyncError α} (h : L.after s answers n = (t, .over r)) :
    L.after s answers (n + 1) = (t, .over r) := by
  rw [after, h]

theorem gapsMet_succ_of_gap {x : σ × Reception φ α} {a : Except FetchError γ}
    (h : L.after s answers n = x) (ha : answers n = a) (hgap : L.meetsGap x a = true) :
    L.gapsMet s answers (n + 1) = L.gapsMet s answers n + 1 := by
  rw [gapsMet, Nat.count_succ, h, ha, if_pos hgap]
  rfl

theorem gapsMet_succ_of_fits {x : σ × Reception φ α} {a : Except FetchError γ}
    (h : L.after s answers n = x) (ha : answers n = a) (hgap : L.meetsGap x a = false) :
    L.gapsMet s answers (n + 1) = L.gapsMet s answers n := by
  rw [gapsMet, Nat.count_succ, h, ha, if_neg (ne_true_of_eq_false hgap)]
  rfl

theorem meetsGap_of_some {f : φ} {c : γ} {x : ChangeNumber × ChangeNumber}
    (h : L.gap? t c = some x) : L.meetsGap (t, .again f) (.ok c) = true := by
  simp [meetsGap, h]

theorem meetsGap_of_none {f : φ} {c : γ} (h : L.gap? t c = none) :
    L.meetsGap (t, .again f) (.ok c) = false := by
  simp [meetsGap, h]

/-- What holds of a fetch after any number of answers: while it goes on, it counts the gaps,
and every answer was a gap or took some room; when it is over, the gaps say how it ended. -/
def Standing [Fintype ι] (L : FetchLoop φ σ γ α ι) (s : σ)
    (answers : Nat → Except FetchError γ) (n : Nat) : σ × Reception φ α → Prop
  | (t, .again f) =>
    L.gaps f = L.gapsMet s answers n ∧ L.gaps f ≤ maxRefetches ∧
      n + L.room t ≤ L.room s + L.gaps f
  | (_, .over r) =>
    (L.gapsMet s answers n ≤ maxRefetches ∧ ∀ x y, r ≠ .error (.gap x y)) ∨
      L.gapsMet s answers n = maxRefetches + 1 ∧ ∃ x y, r = .error (.gap x y)

theorem toSync_ne_gap (e : FetchError) (x y : ChangeNumber) : e.toSync ≠ .gap x y := by
  cases e with
  | status code retryable =>
    cases retryable with
    | true => simp [FetchError.toSync]
    | false =>
      unfold FetchError.toSync
      dsimp only
      split <;> simp
  | _ => simp [FetchError.toSync]

namespace Lawful

/-- Whether a fetch goes on or is over, its watermarks are no lower after one answer more. -/
theorem watermark_le_after_succ (hL : L.Lawful) (s : σ) (answers : Nat → Except FetchError γ)
    (n : Nat) (k : ι) :
    L.watermark (L.after s answers n).1 k ≤ L.watermark (L.after s answers (n + 1)).1 k := by
  rcases h : L.after s answers n with ⟨t, f | r⟩
  · rw [after_succ_of_again h]
    exact hL.rises f t (answers n) k
  · rw [after_succ_of_over h]

/-- A fetch that ended well had a last answer, which had nothing after it. -/
theorem current (hL : L.Lawful) (s : σ) (answers : Nat → Except FetchError γ) :
    ∀ m a, (L.after s answers m).2 = .over (.ok a) →
      ∃ n < m, ∃ f c, (L.after s answers n).2 = .again f ∧ answers n = .ok c ∧
        L.after s answers (n + 1) = L.after s answers m ∧
        ∀ k, L.till c k = L.since c k ∧ L.since c k = L.watermark (L.after s answers m).1 k := by
  intro m
  induction m with
  | zero => intro a h; cases h
  | succ m ih =>
    intro a hover
    rcases h : L.after s answers m with ⟨t, f | r⟩
    · have hturn := hL.turn f t (answers m)
      rw [← after_succ_of_again h] at hturn
      refine ⟨m, Nat.lt_succ_self m, f, ?_⟩
      rw [h]
      generalize L.after s answers (m + 1) = x at hover hturn
      generalize ha : answers m = b at hturn
      cases hturn with
      | current _ hcurrent => exact ⟨_, rfl, rfl, rfl, hcurrent⟩
      | failed => cases hover
      | refetch => cases hover
      | gap => cases hover
      | refused => cases hover
      | advance => cases hover
    · -- nothing was taken in since the last answer
      have hsame : L.after s answers (m + 1) = L.after s answers m := by
        rw [after_succ_of_over h, h]
      rw [hsame] at hover ⊢
      obtain ⟨n, hn, rest⟩ := ih a hover
      exact ⟨n, Nat.lt_succ_of_lt hn, rest⟩

variable [Fintype ι]

/-- The induction over answers. What the next one may do is the turn of the loop. -/
theorem standing (hL : L.Lawful) (s : σ)
    (hmax : ∀ i c, answers i = .ok c → ∀ k, L.till c k ≤ maxChangeNumber) :
    ∀ n, L.Standing s answers n (L.after s answers n) := by
  intro n
  induction n with
  | zero =>
    have hgaps := hL.gaps_start
    refine ⟨?_, ?_, ?_⟩
    · rw [hgaps, gapsMet, Nat.count_zero]
    · omega
    · rw [hgaps, Nat.zero_add, Nat.add_zero]
  | succ n ih =>
    rcases h : L.after s answers n with ⟨t, f | r⟩ <;> rw [h] at ih
    · obtain ⟨hcounts, hfew, hspent⟩ := ih
      have hrises := hL.rises f t (answers n)
      have hturn := hL.turn f t (answers n)
      rw [after_succ_of_again h]
      generalize L.receive f t (answers n) = x at hrises hturn
      generalize ha : answers n = a at hturn
      cases hturn with
      | failed =>
        have hcount := gapsMet_succ_of_fits h ha rfl
        exact .inl ⟨by omega, fun x y he => toSync_ne_gap _ x y (Except.error.inj he)⟩
      | @refetch c x u g hgap hless hg =>
        have hcount := gapsMet_succ_of_gap h ha (meetsGap_of_some hgap)
        have hroom : L.room u ≤ L.room t := room_le hrises
        exact ⟨by omega, by omega, by omega⟩
      | gap hgap hmany =>
        have hcount := gapsMet_succ_of_gap h ha (meetsGap_of_some hgap)
        exact .inr ⟨by omega, _, _, rfl⟩
      | refused hgap hother =>
        have hcount := gapsMet_succ_of_fits h ha (meetsGap_of_none hgap)
        exact .inl ⟨by omega, fun x y he => hother x y (Except.error.inj he)⟩
      | current hgap _ =>
        have hcount := gapsMet_succ_of_fits h ha (meetsGap_of_none hgap)
        exact .inl ⟨by omega, fun x y he => by cases he⟩
      | @advance c u g hgap htill hraised hg =>
        have hcount := gapsMet_succ_of_fits h ha (meetsGap_of_none hgap)
        have hroom : L.room u < L.room t :=
          room_lt hrises (fun k => htill k ▸ hmax n _ ha k) hraised
        exact ⟨by omega, by omega, by omega⟩
    · have hcount := gapsMet_succ_of_fits h rfl rfl
      rw [after_succ_of_over h]
      simpa only [Standing, hcount] using ih

/-- **A lawful loop ends,** and says of its end what it says here. -/
theorem ends (hL : L.Lawful) (s : σ)
    (hmax : ∀ i c, answers i = .ok c → ∀ k, L.till c k ≤ maxChangeNumber) :
    L.Ends s answers := by
  have hstanding := hL.standing s hmax
  refine ⟨?_, hL.watermark_le_after_succ s answers, fun n f hagain => ?_,
    hL.current s answers, fun n => ?_⟩
  · -- there is no room for so many answers
    have hlast := hstanding (L.room s + maxRefetches + 1)
    rcases h : L.after s answers (L.room s + maxRefetches + 1) with ⟨t, f | r⟩
    · rw [h] at hlast
      obtain ⟨-, hfew, hspent⟩ := hlast
      omega
    · exact ⟨r, rfl⟩
  · have hnext := hstanding (n + 1)
    rcases h : L.after s answers n with ⟨t, r⟩
    rw [h] at hagain
    cases hagain
    have hturn := hL.turn f t (answers n)
    rw [← after_succ_of_again h] at hturn
    generalize L.after s answers (n + 1) = x at hnext hturn ⊢
    generalize answers n = a at hturn ⊢
    cases hturn with
    | failed => exact .inl ⟨_, rfl⟩
    | gap => exact .inl ⟨_, rfl⟩
    | refused => exact .inl ⟨_, rfl⟩
    | current => exact .inl ⟨_, rfl⟩
    | refetch hgap _ _ =>
      obtain ⟨hcounts, hfew, -⟩ := hnext
      exact .inr (.inl ⟨meetsGap_of_some hgap, hcounts ▸ hfew⟩)
    | advance _ _ hraised _ => exact .inr (.inr hraised)
  · have hn := hstanding n
    rcases h : L.after s answers n with ⟨t, f | r⟩ <;> rw [h] at hn
    · obtain ⟨hcounts, hfew, -⟩ := hn
      constructor
      · intro hmany
        omega
      · rintro ⟨x, y, hgap⟩
        cases hgap
    · rcases hn with ⟨hfew, hother⟩ | ⟨hmany, x, y, rfl⟩
      · constructor
        · intro hmany
          omega
        · rintro ⟨x, y, hgap⟩
          cases hgap
          exact absurd rfl (hother x y)
      · exact ⟨fun _ => ⟨x, y, rfl⟩, fun _ => hmany⟩

end Lawful

end FetchLoop

/-- Where the stores are and where an answer begins, if it was refused for a gap. -/
def gapOf? {α : Type} : Except SyncError α → Option (ChangeNumber × ChangeNumber)
  | .error (.gap expected got) => some (expected, got)
  | _ => none

/-! ### Fetches of rules -/

instance : Fintype RuleKind := ⟨{.flags, .ruleSegments}, fun k => by cases k <;> decide⟩

namespace RuleChanges

/-- Where the pages of an answer begin. -/
def since (c : RuleChanges) : RuleKind → ChangeNumber
  | .flags => c.flags.since
  | .ruleSegments => c.segments.since

/-- Where the pages of an answer end. -/
def till (c : RuleChanges) : RuleKind → ChangeNumber
  | .flags => c.flags.till
  | .ruleSegments => c.segments.till

end RuleChanges

theorem RuleFetch.caughtUp_iff {c : RuleChanges} :
    RuleFetch.caughtUp c = true ↔ ∀ k, c.till k = c.since k := by
  rw [caughtUp, Bool.and_eq_true, beq_iff_eq, beq_iff_eq]
  constructor
  · rintro ⟨hflags, hsegments⟩ k
    cases k with
    | flags => exact hflags
    | ruleSegments => exact hsegments
  · intro h
    exact ⟨h .flags, h .ruleSegments⟩

namespace Stores

variable {filter : Names} {s t : Stores} {names : Names} {c : RuleChanges}

/-- An answer that is applied begins at the watermarks, and the stores are then where it ends. -/
theorem watermark_of_applyChanges_ok (h : s.applyChanges filter c = (t, .ok names)) :
    ∀ k, c.since k = s.watermark k ∧ c.since k ≤ c.till k ∧ t.watermark k = c.till k := by
  rcases applyChanges_cases filter s c with ⟨e, -, h'⟩ | ⟨s₁, n₁, e, -, -, h'⟩ |
    ⟨s₁, n₁, s₂, n₂, h₁, h₂, h'⟩
  · cases h'.symm.trans h
  · cases h'.symm.trans h
  · cases h'.symm.trans h
    obtain ⟨-, hsince₁, hle₁, rfl, -⟩ := applyRuleSegments_eq_ok_iff.mp h₁
    obtain ⟨-, hsince₂, hle₂, rfl, -⟩ := applyFlags_eq_ok_iff.mp h₂
    intro k
    cases k with
    | flags => exact ⟨hsince₂, hle₂, rfl⟩
    | ruleSegments => exact ⟨hsince₁, hle₁, rfl⟩

theorem watermark_le_applyChanges (filter : Names) (s : Stores) (c : RuleChanges) (k : RuleKind) :
    s.watermark k ≤ (s.applyChanges filter c).1.watermark k := by
  rcases applyChanges_cases filter s c with ⟨e, -, h⟩ | ⟨s₁, n₁, e, h₁, -, h⟩ |
    ⟨s₁, n₁, s₂, n₂, -, -, h⟩
  · rw [h]
  · rw [h]
    obtain ⟨-, hsince, hle, rfl, -⟩ := applyRuleSegments_eq_ok_iff.mp h₁
    cases k with
    | flags => exact Int.le_refl _
    | ruleSegments => exact hsince.symm.trans_le hle
  · obtain ⟨hsince, hle, htill⟩ := watermark_of_applyChanges_ok h k
    rw [h, htill, ← hsince]
    exact hle

end Stores

namespace RuleFetch

/-- A fetch of rules as a loop. -/
def loop (filter : Names) : FetchLoop RuleFetch Stores RuleChanges Names RuleKind where
  start := .start
  gaps := RuleFetch.gaps
  receive := RuleFetch.receive filter
  watermark := Stores.watermark
  since := RuleChanges.since
  till := RuleChanges.till
  gap? s c := gapOf? (s.applyChanges filter c).2

theorem receive_fst (filter : Names) (f : RuleFetch) (s : Stores) (c : RuleChanges) :
    (f.receive filter s (.ok c)).1 = (s.applyChanges filter c).1 := by
  rcases receive_cases filter f s c with ⟨t, names, h, h' | h'⟩ | ⟨t, e, h, h' | h'⟩
  · rw [h', h]
  · rw [h', h]
  · rw [h', h]
  · rw [h', h]

theorem turn (filter : Names) (f : RuleFetch) (s : Stores) (c : RuleChanges) :
    (loop filter).Turn f s (.ok c) (f.receive filter s (.ok c)) := by
  have hgap? : (loop filter).gap? s c = gapOf? (s.applyChanges filter c).2 := rfl
  rw [receive]
  rcases h : s.applyChanges filter c with ⟨t, r⟩
  rw [h] at hgap?
  cases r with
  | ok names =>
    have hmarks := Stores.watermark_of_applyChanges_ok h
    dsimp only
    by_cases hc : caughtUp c = true
    · rw [if_pos hc]
      refine .current hgap? fun k => ⟨caughtUp_iff.mp hc k, ?_⟩
      exact (caughtUp_iff.mp hc k).symm.trans (hmarks k).2.2.symm
    · rw [if_neg hc]
      refine .advance hgap? (fun k => (hmarks k).2.2) ?_ rfl
      by_contra hflat
      refine hc (caughtUp_iff.mpr fun k => ?_)
      obtain ⟨hsince, hle, htill⟩ := hmarks k
      have hnot : ¬ s.watermark k < t.watermark k := fun hlt => hflat ⟨k, hlt⟩
      rw [← hsince, htill] at hnot
      exact Int.le_antisymm (Int.not_lt.mp hnot) hle
  | error e =>
    cases e with
    | gap expected got =>
      dsimp only
      by_cases hfew : f.gaps < maxRefetches
      · rw [if_pos hfew]
        exact .refetch hgap? hfew rfl
      · rw [if_neg hfew]
        exact .gap hgap? (Nat.not_lt.mp hfew)
    | _ => exact .refused hgap? fun x y => by simp

theorem lawful_loop (filter : Names) : (loop filter).Lawful where
  gaps_start := rfl
  turn f s a :=
    match a with
    | .error _ => .failed
    | .ok c => turn filter f s c
  rises f s a k := by
    cases a with
    | error e => exact Int.le_refl _
    | ok c =>
      have hle := Stores.watermark_le_applyChanges filter s c k
      rw [← receive_fst filter f s c] at hle
      exact hle

end RuleFetch

/-! ### Fetches of a segment -/

namespace SegmentFetch

/-- A fetch of a segment as a loop. -/
def loop (name : String) : FetchLoop SegmentFetch SegmentStore SegmentChanges Unit Unit where
  start := .start
  gaps := SegmentFetch.gaps
  receive f s a := ((f.receive name s a).1, (f.receive name s a).2.2)
  watermark s _ := s.watermark name
  since c _ := c.since
  till c _ := c.till
  gap? s c := gapOf? (s.applyDelta { c with name := name }).2

theorem turn (name : String) (f : SegmentFetch) (s : SegmentStore) (c : SegmentChanges) :
    (loop name).Turn f s (.ok c) ((loop name).receive f s (.ok c)) := by
  have hgap? : (loop name).gap? s c = gapOf? (s.applyDelta { c with name := name }).2 := rfl
  show (loop name).Turn f s (.ok c)
    ((f.receive name s (.ok c)).1, (f.receive name s (.ok c)).2.2)
  rw [receive]
  dsimp only
  rcases SegmentStore.applyDelta_outcomes s { c with name := name } with
    ⟨-, h⟩ | ⟨-, h⟩ | ⟨-, text, h⟩ | ⟨hsince, hle, h⟩
  · rw [h] at hgap? ⊢
    exact .refused hgap? fun x y => by simp
  · rw [h] at hgap? ⊢
    dsimp only
    by_cases hfew : f.gaps < maxRefetches
    · rw [if_pos hfew]
      exact .refetch hgap? hfew rfl
    · rw [if_neg hfew]
      exact .gap hgap? (Nat.not_lt.mp hfew)
  · rw [h] at hgap? ⊢
    exact .refused hgap? fun x y => by simp
  · have hmark : ((s.set name (s.get name)).set name
        (SegmentStore.Segment.advance (s.get name) { c with name := name })).watermark name =
          c.till := by
      rw [SegmentStore.watermark, SegmentStore.get_set, if_pos rfl]
      rfl
    rw [h] at hgap? ⊢
    dsimp only
    by_cases hend : c.till = c.since
    · rw [if_pos hend]
      exact .current hgap? fun _ => ⟨hend, hend.symm.trans hmark.symm⟩
    · rw [if_neg hend]
      refine .advance hgap? (fun _ => hmark) ⟨(), ?_⟩ rfl
      have hlt : c.since < c.till := lt_of_le_of_ne hle (Ne.symm hend)
      calc s.watermark name = c.since := hsince.symm
        _ < c.till := hlt
        _ = _ := hmark.symm

theorem lawful_loop (name : String) : (loop name).Lawful where
  gaps_start := rfl
  turn f s a :=
    match a with
    | .error _ => .failed
    | .ok c => turn name f s c
  rises f _ a _ := (SegmentStore.precedes_receive f name a).1

theorem get?_after_of_ne {name m : String} (hm : m ≠ name) (s : SegmentStore)
    (answers : Nat → Except FetchError SegmentChanges) :
    ∀ n, ((loop name).after s answers n).1.segments.get? m = s.segments.get? m := by
  intro n
  induction n with
  | zero => rfl
  | succ n ih =>
    rcases h : (loop name).after s answers n with ⟨t, f | r⟩ <;> rw [h] at ih
    · rw [FetchLoop.after_succ_of_again h]
      exact (SegmentStore.get?_receive_of_ne hm f (answers n)).trans ih
    · rw [FetchLoop.after_succ_of_over h]
      exact ih

end SegmentFetch

/-! ### What can be read is in range

The readers of answers take integers of 64 bits for change numbers, so whatever can be read
from a body is an answer as it is assumed below. -/

namespace Json

theorem Slot.le_maxChangeNumber {slot : Slot} {n : ChangeNumber}
    (h : slot.required? (Value.signed? 64) = some n) : n ≤ maxChangeNumber := by
  obtain ⟨v, hv⟩ := of_required? h
  exact (Value.of_intIn? hv).2

end Json

theorem RulePage.till_le_of_ofJson? {α : Type} {read : Json.Value → Option α} {v : Json.Value}
    {p : RulePage α} (h : RulePage.ofJson? read v = some p) : p.till ≤ maxChangeNumber := by
  unfold ofJson? at h
  simp only [Option.bind_eq_bind, Option.bind_eq_some_iff] at h
  obtain ⟨slots, -, h⟩ := h
  split at h
  · simp only [Option.bind_eq_some_iff] at h
    obtain ⟨since, -, till, htill, data, -, h⟩ := h
    cases h
    exact Json.Slot.le_maxChangeNumber htill
  · cases h

theorem RuleChanges.till_le_of_ofJson? {v : Json.Value} {c : RuleChanges}
    (h : RuleChanges.ofJson? v = some c) (k : RuleKind) : c.till k ≤ maxChangeNumber := by
  unfold ofJson? at h
  simp only [Option.bind_eq_bind, Option.bind_eq_some_iff] at h
  obtain ⟨slots, -, h⟩ := h
  split at h
  · simp only [Option.bind_eq_some_iff] at h
    obtain ⟨flags, hflags, segments, hsegments, h⟩ := h
    cases h
    cases k with
    | flags =>
      obtain ⟨w, hw⟩ := Json.Slot.of_required? hflags
      exact RulePage.till_le_of_ofJson? hw
    | ruleSegments =>
      obtain ⟨w, hw⟩ := Json.Slot.of_required? hsegments
      exact RulePage.till_le_of_ofJson? hw
  · cases h

theorem SegmentChanges.till_le_of_ofJson? {v : Json.Value} {c : SegmentChanges}
    (h : SegmentChanges.ofJson? v = some c) : c.till ≤ maxChangeNumber := by
  unfold ofJson? at h
  simp only [Option.bind_eq_bind, Option.bind_eq_some_iff] at h
  obtain ⟨slots, -, h⟩ := h
  split at h
  · simp only [Option.bind_eq_some_iff] at h
    obtain ⟨name, -, since, -, till, htill, added, -, removed, -, h⟩ := h
    cases h
    exact Json.Slot.le_maxChangeNumber htill
  · cases h

/-! ### All fetches -/

/-- **Fetches end caught up, whatever they are answered.** Whatever the stores were and
whatever the backend answers, a fetch of rules and a fetch of a segment end (`FetchLoop.Ends`);
and a fetch of a segment leaves all others, whatever segment the answers are for. -/
theorem fetches_end_caught_up :
    (∀ (filter : Names) (s : Stores) (answers : Nat → Except FetchError RuleChanges),
      (∀ i c, answers i = .ok c → ∀ k, c.till k ≤ maxChangeNumber) →
      (RuleFetch.loop filter).Ends s answers) ∧
    ∀ (name : String) (s : SegmentStore) (answers : Nat → Except FetchError SegmentChanges),
      (∀ i c, answers i = .ok c → c.till ≤ maxChangeNumber) →
      (SegmentFetch.loop name).Ends s answers ∧
        ∀ n m, m ≠ name →
          ((SegmentFetch.loop name).after s answers n).1.segments.get? m = s.segments.get? m := by
  constructor
  · intro filter s answers hmax
    exact (RuleFetch.lawful_loop filter).ends s hmax
  · intro name s answers hmax
    refine ⟨(SegmentFetch.lawful_loop name).ends s fun i c hi _ => hmax i c hi, ?_⟩
    intro n m hm
    exact SegmentFetch.get?_after_of_ne hm s answers n

/-- A backend whose flags never begin where the stores are. -/
def elsewhere (_ : Nat) : Except FetchError RuleChanges :=
  .ok ⟨⟨7, 9, []⟩, ⟨unsynced, unsynced, []⟩⟩

/-- A backend that has one more change of a segment each time, as long as there are numbers
for them, and calls the segment by another name. -/
def climbing (i : Nat) : Except FetchError SegmentChanges :=
  .ok ⟨"other", min (i - 1 : Int) maxChangeNumber, min (i : Int) maxChangeNumber, ["k"], []⟩

/-- A backend that is elsewhere is asked four times; one that climbs is asked until there are
no more change numbers. -/
theorem fetches_end_elsewhere_and_climbing :
    ((∀ i c, elsewhere i = .ok c → ∀ k, c.till k ≤ maxChangeNumber) ∧
      (RuleFetch.loop Names.empty).Ends Stores.empty elsewhere ∧
      ((RuleFetch.loop Names.empty).after Stores.empty elsewhere 4).2 =
        .over (.error (.gap unsynced 7))) ∧
    (∀ i c, climbing i = .ok c → c.till ≤ maxChangeNumber) ∧
      (SegmentFetch.loop "staff").Ends SegmentStore.empty climbing ∧
      ∀ n, ((SegmentFetch.loop "staff").after SegmentStore.empty climbing n).1.segments.get? "other"
        = SegmentStore.empty.segments.get? "other" := by
  have helsewhere : ∀ i c, elsewhere i = .ok c → ∀ k, c.till k ≤ maxChangeNumber := by
    intro i c hc k
    cases hc
    cases k <;> decide
  have hclimbing : ∀ i c, climbing i = .ok c → c.till ≤ maxChangeNumber := by
    intro i c hc
    cases hc
    exact min_le_right _ _
  have hrules := fetches_end_caught_up.1 Names.empty Stores.empty elsewhere helsewhere
  have hsegment := fetches_end_caught_up.2 "staff" SegmentStore.empty climbing hclimbing
  exact ⟨⟨helsewhere, hrules, rfl⟩, hclimbing, hsegment.1, fun n => hsegment.2 n "other" (by decide)⟩

end Halyard
