/-
# Who belongs to a segment after a run of deltas

Deltas for any segments are offered to a store that was empty, and some of them are
refused. Which are accepted is told by the answers; the log of those that are tells
everything about the store (`SegmentStore.Reflects`). A key belongs to a segment if
the last accepted delta that mentions it says so, a segment is at the change number
where the last accepted delta for it ends, and from there the next one has to go on.
An accepted delta lengthens the log by one and a refused one leaves both the log and
what the store says of members and watermarks, so the invariant is carried from
offer to offer (`SegmentStore.Reflects.applyDelta`). Of the keys in a delta only the
set matters (`SegmentStore.applyDelta_rearranged`).

Key definitions: `SegmentChanges.lastMention`, `SegmentChanges.lastTill`,
`SegmentChanges.Rearranges`, `SegmentStore.offers`, `SegmentStore.accepted`,
`SegmentStore.Reflects`.
Key theorems: `SegmentStore.Reflects.applyDelta`,
`SegmentStore.applyDelta_rearranged`, `SegmentStore.membership_by_last_mention`.
-/
import Mathlib.Data.Set.Card
import Halyard.Proofs.Store.Refusals

namespace Halyard

theorem Names.encard_eq_size (s : Names) : {n | n ∈ s}.encard = s.size := by
  have hdistinct : s.toList.Nodup :=
    List.pairwise_map.mpr (s.ascending.imp fun h => String.ne_of_lt h)
  have hset : {n | n ∈ s} = (s.toList.toFinset : Set String) := by
    ext n
    simp only [Set.mem_ofPred_eq, List.coe_toFinset, Names.mem_toList]
  rw [hset, Set.encard_coe_eq_coe_finsetCard, List.toFinset_card_of_nodup hdistinct]
  exact congrArg Nat.cast (List.length_map _)

/-! ### What a log of deltas says -/

namespace SegmentChanges

variable {c d : SegmentChanges} {name key : String} {log : List SegmentChanges}

/-- Whether a delta tells that a key joined or left a segment. -/
def Mentions (c : SegmentChanges) (name key : String) : Prop :=
  c.name = name ∧ (key ∈ c.added ∨ key ∈ c.removed)

instance : Decidable (c.Mentions name key) := inferInstanceAs (Decidable (_ ∧ _))

/-- The last of some deltas that mentions a key of a segment. -/
def lastMention (name key : String) (log : List SegmentChanges) : Option SegmentChanges :=
  (log.filter fun c => c.Mentions name key).getLast?

/-- The change number where the last of some deltas for a segment ends. -/
def lastTill (name : String) (log : List SegmentChanges) : ChangeNumber :=
  ((log.filter fun c => c.name = name).getLast?.map till).getD unsynced

/-- Whether two deltas differ at most in the order of keys and in how often they occur. -/
structure Rearranges (c d : SegmentChanges) : Prop where
  name : c.name = d.name
  since : c.since = d.since
  till : c.till = d.till
  added : ∀ key, key ∈ c.added ↔ key ∈ d.added
  removed : ∀ key, key ∈ c.removed ↔ key ∈ d.removed

theorem lastMention_concat : lastMention name key (log ++ [c]) =
    if c.Mentions name key then some c else lastMention name key log := by
  unfold lastMention
  rw [List.filter_append]
  by_cases h : c.Mentions name key
  · rw [if_pos h, List.filter_cons_of_pos (by simpa using h), List.filter_nil,
      List.getLast?_concat]
  · rw [if_neg h, List.filter_cons_of_neg (by simpa using h), List.filter_nil, List.append_nil]

theorem lastTill_concat :
    lastTill name (log ++ [c]) = if c.name = name then c.till else lastTill name log := by
  unfold lastTill
  rw [List.filter_append]
  by_cases h : c.name = name
  · rw [if_pos h, List.filter_cons_of_pos (by simpa using h), List.filter_nil,
      List.getLast?_concat]
    rfl
  · rw [if_neg h, List.filter_cons_of_neg (by simpa using h), List.filter_nil, List.append_nil]

end SegmentChanges

namespace SegmentStore

open SegmentChanges

variable {s : SegmentStore} {c d : SegmentChanges} {name key : String}
  {log cs ds : List SegmentChanges}

/-! ### Runs -/

/-- The store after some deltas were offered, one after another. -/
def offers (s : SegmentStore) (cs : List SegmentChanges) : SegmentStore :=
  cs.foldl (fun s c => (s.applyDelta c).1) s

/-- Those of some deltas that the store accepts when they are offered one after another. -/
def accepted : SegmentStore → List SegmentChanges → List SegmentChanges
  | _, [] => []
  | s, c :: cs => (if (s.applyDelta c).2.isOk then [c] else []) ++ accepted (s.applyDelta c).1 cs

/-- Whether a store says of members and watermarks what a log of deltas does. -/
structure Reflects (s : SegmentStore) (log : List SegmentChanges) : Prop where
  writable : s.frozen = false
  watermark : ∀ name, s.watermark name = lastTill name log
  member : ∀ name key, key ∈ (s.get name).members ↔
    ∃ c, lastMention name key log = some c ∧ key ∈ c.added

theorem reflects_empty : Reflects empty [] where
  writable := rfl
  watermark _ := rfl
  member name key := by
    refine iff_of_false Names.not_mem_empty ?_
    rintro ⟨c, hc, -⟩
    cases hc

/-- Making room for a segment tells nothing new of members and watermarks. -/
theorem Reflects.set_get (h : s.Reflects log) (name : String) :
    (s.set name (s.get name)).Reflects log where
  writable := h.writable
  watermark m := by
    rw [SegmentStore.watermark, get_set_get]
    exact h.watermark m
  member m key := by
    rw [get_set_get]
    exact h.member m key

/-- **An accepted delta decides about the keys that it mentions.** -/
theorem Reflects.advance (h : s.Reflects log) (c : SegmentChanges) :
    (s.set c.name (Segment.advance (s.get c.name) c)).Reflects (log ++ [c]) where
  writable := h.writable
  watermark m := by
    rw [SegmentStore.watermark, get_set, lastTill_concat]
    by_cases hm : m = c.name
    · rw [if_pos hm, if_pos hm.symm]
      rfl
    · rw [if_neg hm, if_neg (Ne.symm hm)]
      exact h.watermark m
  member m key := by
    rw [get_set, lastMention_concat]
    by_cases hm : m = c.name
    · subst hm
      rw [if_pos rfl, mem_members_advance]
      by_cases hkey : key ∈ c.added ∨ key ∈ c.removed
      · have hmentions : c.Mentions c.name key := ⟨rfl, hkey⟩
        simp only [if_pos hmentions, Option.some.injEq, exists_eq_left']
        tauto
      · have hsilent : ¬ c.Mentions c.name key := fun hc => hkey hc.2
        rw [if_neg hsilent, ← h.member]
        tauto
    · have hsilent : ¬ c.Mentions m key := fun hc => hm hc.1.symm
      rw [if_neg hm, if_neg hsilent]
      exact h.member m key

theorem isOk_applyDelta_iff (hf : s.frozen = false) :
    (s.applyDelta c).2.isOk = true ↔ c.since = s.watermark c.name ∧ c.since ≤ c.till := by
  rcases applyDelta_outcomes s c with ⟨hf', -⟩ | ⟨hgap, h⟩ | ⟨hback, text, h⟩ | ⟨hsince, htill, h⟩
  · exact absurd (hf.symm.trans hf') Bool.false_ne_true
  · rw [h]
    exact iff_of_false Bool.false_ne_true fun hc => hgap hc.1
  · rw [h]
    exact iff_of_false Bool.false_ne_true fun hc => absurd hback (Int.not_lt.mpr hc.2)
  · rw [h]
    exact iff_of_true rfl ⟨hsince, htill⟩

/-- One offer: an accepted delta is logged, and a refused one changes nothing that the log tells. -/
theorem Reflects.applyDelta (h : s.Reflects log) (c : SegmentChanges) :
    (s.applyDelta c).1.Reflects (log ++ if (s.applyDelta c).2.isOk then [c] else []) := by
  have hrefused : (s.set c.name (s.get c.name)).Reflects (log ++ []) := by
    rw [List.append_nil]
    exact h.set_get c.name
  rcases applyDelta_outcomes s c with ⟨hf, -⟩ | ⟨-, h'⟩ | ⟨-, text, h'⟩ | ⟨-, -, h'⟩
  · exact absurd (h.writable.symm.trans hf) Bool.false_ne_true
  · rw [h']
    exact hrefused
  · rw [h']
    exact hrefused
  · rw [h']
    have hadvanced := (h.set_get c.name).advance c
    rw [get_set_get] at hadvanced
    exact hadvanced

/-- All offers: the store says what the accepted ones do. -/
theorem Reflects.offers (h : s.Reflects log) :
    (s.offers cs).Reflects (log ++ s.accepted cs) := by
  induction cs generalizing s log with
  | nil =>
    rw [accepted, List.append_nil]
    exact h
  | cons c cs ih =>
    rw [accepted, ← List.append_assoc]
    exact ih (h.applyDelta c)

/-! ### What is read -/

theorem contains?_eq_true_iff : s.contains? name key = some true ↔ key ∈ (s.get name).members := by
  unfold contains? get
  cases s.segments.get? name with
  | none => exact iff_of_false nofun Names.not_mem_empty
  | some seg => exact Option.some_inj

theorem encard_contains (s : SegmentStore) (name : String) :
    {key | s.contains? name key = some true}.encard = s.memberCount name := by
  simp only [contains?_eq_true_iff]
  exact Names.encard_eq_size _

/-! ### Order and repetition -/

theorem effective_rearranged (h : c.Rearranges d) : effective c = effective d := by
  have hempty : ∀ {xs ys : List String}, (∀ key, key ∈ xs ↔ key ∈ ys) → xs.isEmpty = ys.isEmpty :=
    fun {xs ys} hkeys => Bool.eq_iff_iff.mpr <| by
      simp only [List.isEmpty_iff, List.eq_nil_iff_forall_not_mem, hkeys]
  rw [effective, effective, h.since, h.till, hempty h.added, hempty h.removed]

theorem advance_rearranged (h : c.Rearranges d) (seg : Segment) :
    Segment.advance seg c = Segment.advance seg d := by
  have hmembers : (Segment.advance seg c).members = (Segment.advance seg d).members :=
    Names.ext fun key => by rw [mem_members_advance, mem_members_advance, h.added, h.removed]
  have hwatermark : (Segment.advance seg c).watermark = (Segment.advance seg d).watermark := h.till
  cases hc : Segment.advance seg c
  cases hd : Segment.advance seg d
  rw [hc, hd] at hmembers hwatermark
  rw [Segment.mk.injEq]
  exact ⟨hmembers, hwatermark⟩

/-- **Of the keys in a delta only the set matters,** for the store and for the answer. -/
theorem applyDelta_rearranged (h : c.Rearranges d) : s.applyDelta c = s.applyDelta d := by
  unfold applyDelta
  simp only [advance_rearranged h, effective_rearranged h, h.name, h.since, h.till]

theorem offers_rearranged (h : List.Forall₂ Rearranges cs ds) : s.offers cs = s.offers ds := by
  induction h generalizing s with
  | nil => rfl
  | cons hc _ ih =>
    unfold offers at ih ⊢
    rw [List.foldl_cons, List.foldl_cons, applyDelta_rearranged hc]
    exact ih

/-! ### Runs from an empty store -/

/-- **Membership is decided by the last accepted mention.** After any run of deltas for any
segments, from an empty store: a key belongs to a segment exactly if some accepted delta for the
segment mentions it and the last one that does lists it as added; the segment has as many members
as there are such keys; its watermark is where the last accepted delta for it ends; and the next
delta is accepted exactly if it begins there and does not lead back. The order of the keys that are
added, and of those that are removed, makes no difference, nor does it how often they occur. -/
theorem membership_by_last_mention (cs : List SegmentChanges) :
    let t := empty.offers cs
    let log := empty.accepted cs
    (∀ name key, t.contains? name key = some true ↔
      ∃ c, lastMention name key log = some c ∧ key ∈ c.added) ∧
    (∀ name, {key | ∃ c, lastMention name key log = some c ∧ key ∈ c.added}.encard =
      t.memberCount name) ∧
    (∀ name, t.watermark name = lastTill name log) ∧
    (∀ c, (t.applyDelta c).2.isOk = true ↔ c.since = lastTill c.name log ∧ c.since ≤ c.till) ∧
    ∀ ds, List.Forall₂ Rearranges cs ds → empty.offers ds = t := by
  intro t log
  have h : t.Reflects log := reflects_empty.offers
  have hmember : ∀ name key, t.contains? name key = some true ↔
      ∃ c, lastMention name key log = some c ∧ key ∈ c.added :=
    fun name key => contains?_eq_true_iff.trans (h.member name key)
  refine ⟨hmember, fun name => ?_, h.watermark, fun c => ?_, fun ds hds => (offers_rearranged hds).symm⟩
  · simp only [← hmember]
    exact t.encard_contains name
  · rw [isOk_applyDelta_iff h.writable, h.watermark]

/-- Deltas for two segments: the second leaves a gap, and the last leads back. -/
def mixedRun : List SegmentChanges :=
  [⟨"staff", unsynced, 10, ["ann", "bob"], ["bob"]⟩, ⟨"staff", 12, 20, [], ["ann"]⟩,
    ⟨"beta", unsynced, 4, ["cyd"], []⟩, ⟨"staff", 10, 15, ["cyd"], ["ann", "dan"]⟩,
    ⟨"staff", 15, 14, ["ann"], []⟩]

/-- The same deltas with keys in another order and repeated. -/
def mixedRunRearranged : List SegmentChanges :=
  [⟨"staff", unsynced, 10, ["bob", "ann", "bob"], ["bob"]⟩, ⟨"staff", 12, 20, [], ["ann", "ann"]⟩,
    ⟨"beta", unsynced, 4, ["cyd", "cyd"], []⟩, ⟨"staff", 10, 15, ["cyd"], ["dan", "ann", "dan"]⟩,
    ⟨"staff", 15, 14, ["ann"], []⟩]

/-- "ann" has left the staff, for the last mention that would bring her back was refused. -/
theorem mixedRun_by_last_mention :
    let t := empty.offers mixedRun
    t.contains? "staff" "ann" ≠ some true ∧ t.contains? "staff" "bob" = some true ∧
      t.watermark "staff" = 15 ∧ (t.applyDelta ⟨"staff", 15, 15, [], []⟩).2.isOk = true ∧
      List.Forall₂ Rearranges mixedRun mixedRunRearranged ∧
      empty.offers mixedRunRearranged = t := by
  intro t
  obtain ⟨hmember, -, hwatermark, hnext, hrearranged⟩ := membership_by_last_mention mixedRun
  have hsame : List.Forall₂ Rearranges mixedRun mixedRunRearranged := by
    refine .cons ?_ (.cons ?_ (.cons ?_ (.cons ?_ (.cons ?_ .nil)))) <;>
      exact ⟨rfl, rfl, rfl, by simp [or_comm], by simp [or_comm]⟩
  refine ⟨fun h => ?_, ?_, hwatermark "staff", ?_, hsame, hrearranged _ hsame⟩
  · obtain ⟨c, hc, hadded⟩ := (hmember "staff" "ann").mp h
    obtain rfl : ⟨"staff", 10, 15, ["cyd"], ["ann", "dan"]⟩ = c := Option.some.inj hc
    exact absurd hadded (by decide)
  · exact (hmember "staff" "bob").mpr ⟨_, rfl, by decide⟩
  · exact (hnext _).mpr ⟨rfl, by decide⟩

end SegmentStore

end Halyard
