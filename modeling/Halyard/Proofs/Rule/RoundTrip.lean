/-
# Rules survive being written and read

A rule that is written as JSON and read again is the rule that it was: each of its
records gives back every field, down to the fields of matchers that nobody interprets
(`Flag.ofJson?_toJson`, `RuleBasedSegment.ofJson?_toJson`). Two things are asked of
the rule. Its numbers are of the sizes that their fields have, and no matcher keeps a
field of its own under a name that matchers interpret. Both hold of whatever was read
in the first place (`Flag.sized_of_ofJson?`, `Flag.apart_of_ofJson?` and the like), so
what was read once can be written and read again without a loss.

Key definitions: `Matcher.Apart`, `Flag.Sized`, `Flag.Apart`,
`RuleBasedSegment.Sized`, `RuleBasedSegment.Apart`.
Key theorems: `Matcher.ofJson?_toJson`, `Condition.ofJson?_toJson`,
`Flag.ofJson?_toJson`, `RuleBasedSegment.ofJson?_toJson`, `rules_survive_json`.
-/
import Halyard.Proofs.Json.Records

namespace Halyard

open Json

/-! ### Texts that may be missing -/

theorem optionalDefault?_string (o : Option String) :
    (Slot.given (optionJson .string o)).optionalDefault? Value.string? = some o :=
  Slot.optionalDefault?_optionJson (fun _ => rfl) fun _ _ => rfl

/-! ### Matchers -/

namespace Partition

variable {p : Partition}

theorem ofJson?_toJson (h : Value.FitsUnsigned 32 p.size) : ofJson? p.toJson = some p := by
  have hnames : ["treatment", "size"].Nodup := by decide
  have hslots : p.toJson.record? [["treatment"], ["size"]] =
      some [.given (.string p.treatment), .given (natJson p.size)] :=
    Value.record?_fields hnames
  have hsize : Value.unsigned? 32 (natJson p.size) = some p.size := Value.unsigned?_natJson h
  unfold ofJson?
  refine bind_of_read hslots ?_
  exact bind_of_read rfl <| bind_of_read hsize rfl

theorem sized_of_ofJson? {v : Value} (h : ofJson? v = some p) :
    Value.FitsUnsigned 32 p.size := by
  unfold ofJson? at h
  obtain ⟨slots, -, h⟩ := Option.bind_eq_some_iff.mp h
  split at h
  · obtain ⟨treatment, -, h⟩ := Option.bind_eq_some_iff.mp h
    obtain ⟨size, hsize, h⟩ := Option.bind_eq_some_iff.mp h
    obtain rfl := Option.some.inj h
    obtain ⟨u, hu⟩ := Slot.of_required? hsize
    exact Value.of_unsigned? hu
  · cases h

end Partition

namespace Matcher

variable {m : Matcher}

/-- Whether the fields that a matcher does not interpret have other names than those it does. -/
def Apart (m : Matcher) : Prop :=
  ∀ name ∈ knownFields, m.extra.get? name = none

theorem Apart.not_mem (h : m.Apart) {e : String × Datum} (he : e ∈ m.extra.entries) :
    e.1 ∉ knownFields := by
  intro hknown
  have hstored : m.extra.get? e.1 = some e.2 := (m.extra.get?_eq_some_iff e.1 e.2).mpr he
  rw [h e.1 hknown] at hstored
  cases hstored

theorem segmentOfJson?_object (s : String) :
    segmentOfJson? (.object [("segmentName", .string s)]) = some s := by
  have hslots : (Value.object [("segmentName", .string s)]).record? [["segmentName"]] =
      some [.given (.string s)] := Value.record?_fields (by decide : ["segmentName"].Nodup)
  unfold segmentOfJson?
  rw [hslots]
  rfl

/-- **A matcher gives back what it interprets and what it does not.** -/
theorem ofJson?_toJson (h : m.Apart) : ofJson? m.toJson = some m := by
  have hnames : knownFields.Nodup := by decide
  let segment := optionJson (fun s => .object [("segmentName", .string s)]) m.segment
  let known : List (String × Value) := [("matcherType", .string m.kind),
    ("negate", .bool m.negate), ("userDefinedSegmentMatcherData", segment)]
  let rest := m.extra.entries.map fun e => (e.1, e.2.value)
  have hrest : ∀ f ∈ rest, f.1 ∉ knownFields := by
    intro f hf
    obtain ⟨e, he, rfl⟩ := List.mem_map.mp hf
    exact h.not_mem he
  have hslots : m.toJson.fieldSlots? (knownFields.map fun f => [f]) =
      some [.given (.string m.kind), .given (.bool m.negate), .given segment] :=
    Value.fieldSlots?_append known hnames hrest
  have hknown : known.filter (fun f => !knownFields.contains f.1) = [] := rfl
  have hothers : (known ++ rest).filter (fun f => !knownFields.contains f.1) = rest := by
    rw [List.filter_append, hknown, List.nil_append]
    exact List.filter_eq_self.mpr fun f hf => by simpa using hrest f hf
  have hextra : ((known ++ rest).filter fun f => !knownFields.contains f.1).mapM
      (fun f => (Datum.ofValue? f.2).map (f.1, ·)) = some m.extra.entries := by
    rw [hothers]
    refine mapM_map_eq_some (fun e : String × Datum => (e.1, e.2.value))
      (fun f => (Datum.ofValue? f.2).map (f.1, ·)) fun e _ => ?_
    rw [Datum.ofValue?_value]
    rfl
  have hsegment : (Slot.given segment).optionalDefault? segmentOfJson? = some m.segment :=
    Slot.optionalDefault?_optionJson (fun _ => rfl) fun s _ => segmentOfJson?_object s
  unfold ofJson?
  refine bind_of_read hslots ?_
  exact bind_of_read hextra <| bind_of_read rfl <| bind_of_read rfl <|
    bind_of_read hsegment <| congrArg (fun d => some { m with extra := d }) m.extra.ofList_entries

/-- A matcher that was read keeps its own fields apart. -/
theorem apart_of_ofJson? {v : Value} (h : ofJson? v = some m) : m.Apart := by
  unfold ofJson? at h
  cases v with
  | object fields =>
    obtain ⟨slots, -, h⟩ := Option.bind_eq_some_iff.mp h
    split at h
    · obtain ⟨extra, hextra, h⟩ := Option.bind_eq_some_iff.mp h
      obtain ⟨kind, -, h⟩ := Option.bind_eq_some_iff.mp h
      obtain ⟨negate, -, h⟩ := Option.bind_eq_some_iff.mp h
      obtain ⟨segment, -, h⟩ := Option.bind_eq_some_iff.mp h
      obtain rfl := Option.some.inj h
      intro name hname
      refine Dict.get?_ofList_eq_none fun e he heq => ?_
      obtain ⟨f, hf, hread⟩ := exists_of_mem_mapM hextra he
      obtain ⟨d, -, rfl⟩ := Option.map_eq_some_iff.mp hread
      have hother := (List.mem_filter.mp hf).2
      rw [show f.1 = name from heq] at hother
      simp [hname] at hother
    · cases h
  | _ => cases h

end Matcher

namespace MatcherGroup

variable {g : MatcherGroup}

theorem ofJson?_toJson (h : ∀ m ∈ g.matchers, m.Apart) : ofJson? g.toJson = some g := by
  have hnames : ["combiner", "matchers"].Nodup := by decide
  have hslots : g.toJson.record? [["combiner"], ["matchers"]] =
      some [.given (optionJson .string g.combiner),
        .given (.array (g.matchers.map Matcher.toJson))] :=
    Value.record?_fields hnames
  have hmatchers : Value.list? Matcher.ofJson? (.array (g.matchers.map Matcher.toJson)) =
      some g.matchers := Value.list?_map fun m hm => Matcher.ofJson?_toJson (h m hm)
  unfold ofJson?
  refine bind_of_read hslots ?_
  exact bind_of_read (optionalDefault?_string g.combiner) <| bind_of_read hmatchers rfl

theorem apart_of_ofJson? {v : Value} (h : ofJson? v = some g) : ∀ m ∈ g.matchers, m.Apart := by
  unfold ofJson? at h
  obtain ⟨slots, -, h⟩ := Option.bind_eq_some_iff.mp h
  split at h
  · obtain ⟨combiner, -, h⟩ := Option.bind_eq_some_iff.mp h
    obtain ⟨matchers, hmatchers, h⟩ := Option.bind_eq_some_iff.mp h
    obtain rfl := Option.some.inj h
    intro m hm
    obtain ⟨u, hu⟩ := Value.of_mem_withDefault? hmatchers hm
    exact Matcher.apart_of_ofJson? hu
  · cases h

end MatcherGroup

/-! ### Conditions -/

namespace Condition

variable {c : Condition}

/-- Whether the sizes of a condition's partitions fit. -/
def Sized (c : Condition) : Prop :=
  ∀ p ∈ c.partitions, Value.FitsUnsigned 32 p.size

/-- Whether the matchers of a condition keep their own fields apart. -/
def Apart (c : Condition) : Prop :=
  ∀ m ∈ c.group.matchers, m.Apart

theorem ofJson?_toJson (hsized : c.Sized) (hapart : c.Apart) : ofJson? c.toJson = some c := by
  have hnames : ["conditionType", "matcherGroup", "partitions", "label"].Nodup := by decide
  have hslots : c.toJson.record?
      [["conditionType"], ["matcherGroup"], ["partitions"], ["label"]] =
      some [.given (optionJson .string c.kind), .given c.group.toJson,
        .given (.array (c.partitions.map Partition.toJson)),
        .given (optionJson .string c.label)] :=
    Value.record?_fields hnames
  have hgroup : MatcherGroup.ofJson? c.group.toJson = some c.group :=
    MatcherGroup.ofJson?_toJson hapart
  have hpartitions : Value.list? Partition.ofJson? (.array (c.partitions.map Partition.toJson)) =
      some c.partitions := Value.list?_map fun p hp => Partition.ofJson?_toJson (hsized p hp)
  unfold ofJson?
  refine bind_of_read hslots ?_
  exact bind_of_read (optionalDefault?_string c.kind) <| bind_of_read hgroup <|
    bind_of_read hpartitions <| bind_of_read (optionalDefault?_string c.label) rfl

theorem of_ofJson? {v : Value} (h : ofJson? v = some c) : c.Sized ∧ c.Apart := by
  unfold ofJson? at h
  obtain ⟨slots, -, h⟩ := Option.bind_eq_some_iff.mp h
  split at h
  · obtain ⟨kind, -, h⟩ := Option.bind_eq_some_iff.mp h
    obtain ⟨group, hgroup, h⟩ := Option.bind_eq_some_iff.mp h
    obtain ⟨partitions, hpartitions, h⟩ := Option.bind_eq_some_iff.mp h
    obtain ⟨label, -, h⟩ := Option.bind_eq_some_iff.mp h
    obtain rfl := Option.some.inj h
    constructor
    · intro p hp
      obtain ⟨u, hu⟩ := Value.of_mem_withDefault? hpartitions hp
      exact Partition.sized_of_ofJson? hu
    · obtain ⟨u, hu⟩ := Slot.of_required? hgroup
      exact MatcherGroup.apart_of_ofJson? hu
  · cases h

theorem list?_toJson {cs : List Condition} (hsized : ∀ c ∈ cs, c.Sized)
    (hapart : ∀ c ∈ cs, c.Apart) :
    Value.list? ofJson? (.array (cs.map toJson)) = some cs :=
  Value.list?_map fun c hc => ofJson?_toJson (hsized c hc) (hapart c hc)

end Condition

theorem Status.ofJson?_toJson (s : Status) : ofJson? s.toJson = some s := by
  cases s <;> rfl

/-! ### Flags -/

theorem Prerequisite.ofJson?_toJson (p : Prerequisite) : ofJson? p.toJson = some p := by
  have hnames : ["n", "ts"].Nodup := by decide
  have hslots : p.toJson.record? [["n"], ["ts"]] =
      some [.given (.string p.flag), .given (stringsJson p.treatments)] :=
    Value.record?_fields hnames
  unfold ofJson?
  refine bind_of_read hslots ?_
  exact bind_of_read rfl <| bind_of_read (Value.list?_stringsJson p.treatments) rfl

namespace Flag

variable {f : Flag}

/-- Whether the numbers of a flag are of the sizes that their fields have. -/
structure Sized (f : Flag) : Prop where
  changeNumber : Value.FitsSigned 64 f.changeNumber
  trafficAllocation : ∀ n, f.trafficAllocation = some n → Value.FitsUnsigned 32 n
  trafficAllocationSeed : ∀ i, f.trafficAllocationSeed = some i → Value.FitsSigned 64 i
  seed : ∀ i, f.seed = some i → Value.FitsSigned 64 i
  algo : ∀ i, f.algo = some i → Value.FitsSigned 32 i
  conditions : ∀ c ∈ f.conditions, c.Sized

/-- Whether the matchers of a flag keep their own fields apart. -/
def Apart (f : Flag) : Prop :=
  ∀ c ∈ f.conditions, c.Apart

/-- **A flag is read back as it was written.** -/
theorem ofJson?_toJson (hsized : f.Sized) (hapart : f.Apart) : ofJson? f.toJson = some f := by
  have hnames : ["name", "trafficTypeName", "changeNumber", "status", "killed",
      "defaultTreatment", "trafficAllocation", "trafficAllocationSeed", "seed", "algo",
      "conditions", "configurations", "sets", "prerequisites", "impressionsDisabled"].Nodup := by
    decide
  have hslots : f.toJson.record? fieldNames = some [.given (.string f.name),
      .given (optionJson .string f.trafficType), .given (.int f.changeNumber),
      .given f.status.toJson, .given (.bool f.killed), .given (.string f.defaultTreatment),
      .given (optionJson natJson f.trafficAllocation),
      .given (optionJson .int f.trafficAllocationSeed), .given (optionJson .int f.seed),
      .given (optionJson .int f.algo), .given (.array (f.conditions.map Condition.toJson)),
      .given (optionJson (fun d => .object (d.map .string).entries) f.configurations),
      .given (optionJson (fun s => stringsJson s.toList) f.sets),
      .given (optionJson (fun ps => .array (ps.map Prerequisite.toJson)) f.prerequisites),
      .given (.bool f.impressionsDisabled)] :=
    Value.record?_fields hnames
  have hchange : Value.signed? 64 (.int f.changeNumber) = some f.changeNumber :=
    Value.signed?_int hsized.changeNumber
  have hallocation : (Slot.given (optionJson natJson f.trafficAllocation)).optionalDefault?
      (Value.unsigned? 32) = some f.trafficAllocation :=
    Slot.optionalDefault?_optionJson (fun _ => rfl) fun n hn =>
      Value.unsigned?_natJson (hsized.trafficAllocation n hn)
  have hallocationSeed : (Slot.given (optionJson .int f.trafficAllocationSeed)).optionalDefault?
      (Value.signed? 64) = some f.trafficAllocationSeed :=
    Slot.optionalDefault?_optionJson (fun _ => rfl) fun i hi =>
      Value.signed?_int (hsized.trafficAllocationSeed i hi)
  have hseed : (Slot.given (optionJson .int f.seed)).optionalDefault? (Value.signed? 64) =
      some f.seed :=
    Slot.optionalDefault?_optionJson (fun _ => rfl) fun i hi =>
      Value.signed?_int (hsized.seed i hi)
  have halgo : (Slot.given (optionJson .int f.algo)).optionalDefault? (Value.signed? 32) =
      some f.algo :=
    Slot.optionalDefault?_optionJson (fun _ => rfl) fun i hi =>
      Value.signed?_int (hsized.algo i hi)
  have hconditions : Value.list? Condition.ofJson?
      (.array (f.conditions.map Condition.toJson)) = some f.conditions :=
    Condition.list?_toJson hsized.conditions hapart
  have hconfigurations :
      (Slot.given (optionJson (fun d => .object (d.map .string).entries)
        f.configurations)).optionalDefault? (Value.dictionary? Value.string?) =
      some (f.configurations.map Dict.entries) :=
    Slot.optionalDefault?_map (fun _ => rfl) fun _ _ => Value.dictionary?_map fun _ => rfl
  have hsets : (Slot.given (optionJson (fun s => stringsJson s.toList) f.sets)).optionalDefault?
      Names.ofJson? = some f.sets :=
    Slot.optionalDefault?_optionJson (fun _ => rfl) fun s _ => Names.ofJson?_stringsJson s
  have hprerequisites :
      (Slot.given (optionJson (fun ps => .array (ps.map Prerequisite.toJson))
        f.prerequisites)).optionalDefault? (Value.list? Prerequisite.ofJson?) =
      some f.prerequisites :=
    Slot.optionalDefault?_optionJson (fun _ => rfl) fun _ _ =>
      Value.list?_map fun p _ => p.ofJson?_toJson
  have hdict : (f.configurations.map Dict.entries).map Dict.ofList = f.configurations := by
    rw [Option.map_map]
    exact (congrArg (Option.map · f.configurations) (funext Dict.ofList_entries)).trans
      Option.map_id'
  unfold ofJson?
  refine bind_of_read hslots ?_
  exact bind_of_read rfl <| bind_of_read (optionalDefault?_string f.trafficType) <|
    bind_of_read hchange <| bind_of_read f.status.ofJson?_toJson <| bind_of_read rfl <|
    bind_of_read rfl <| bind_of_read hallocation <| bind_of_read hallocationSeed <|
    bind_of_read hseed <| bind_of_read halgo <| bind_of_read hconditions <|
    bind_of_read hconfigurations <| bind_of_read hsets <| bind_of_read hprerequisites <|
    bind_of_read rfl <| congrArg (fun d => some { f with configurations := d }) hdict

theorem of_ofJson? {v : Value} (h : ofJson? v = some f) : f.Sized ∧ f.Apart := by
  unfold ofJson? at h
  obtain ⟨slots, -, h⟩ := Option.bind_eq_some_iff.mp h
  split at h
  · obtain ⟨name, -, h⟩ := Option.bind_eq_some_iff.mp h
    obtain ⟨trafficType, -, h⟩ := Option.bind_eq_some_iff.mp h
    obtain ⟨changeNumber, hchange, h⟩ := Option.bind_eq_some_iff.mp h
    obtain ⟨status, -, h⟩ := Option.bind_eq_some_iff.mp h
    obtain ⟨killed, -, h⟩ := Option.bind_eq_some_iff.mp h
    obtain ⟨defaultTreatment, -, h⟩ := Option.bind_eq_some_iff.mp h
    obtain ⟨allocation, hallocation, h⟩ := Option.bind_eq_some_iff.mp h
    obtain ⟨allocationSeed, hallocationSeed, h⟩ := Option.bind_eq_some_iff.mp h
    obtain ⟨seed, hseed, h⟩ := Option.bind_eq_some_iff.mp h
    obtain ⟨algo, halgo, h⟩ := Option.bind_eq_some_iff.mp h
    obtain ⟨conditions, hconditions, h⟩ := Option.bind_eq_some_iff.mp h
    obtain ⟨configurations, -, h⟩ := Option.bind_eq_some_iff.mp h
    obtain ⟨sets, -, h⟩ := Option.bind_eq_some_iff.mp h
    obtain ⟨prerequisites, -, h⟩ := Option.bind_eq_some_iff.mp h
    obtain ⟨impressionsDisabled, -, h⟩ := Option.bind_eq_some_iff.mp h
    obtain rfl := Option.some.inj h
    have hread : ∀ c ∈ conditions, c.Sized ∧ c.Apart := by
      intro c hc
      obtain ⟨u, hu⟩ := Value.of_mem_withDefault? hconditions hc
      exact Condition.of_ofJson? hu
    refine ⟨⟨?_, ?_, ?_, ?_, ?_, fun c hc => (hread c hc).1⟩, fun c hc => (hread c hc).2⟩
    · obtain ⟨u, hu⟩ := Slot.of_required? hchange
      exact Value.of_signed? hu
    · rintro n rfl
      obtain ⟨u, hu⟩ := Slot.of_optionalDefault? hallocation
      exact Value.of_unsigned? hu
    · rintro i rfl
      obtain ⟨u, hu⟩ := Slot.of_optionalDefault? hallocationSeed
      exact Value.of_signed? hu
    · rintro i rfl
      obtain ⟨u, hu⟩ := Slot.of_optionalDefault? hseed
      exact Value.of_signed? hu
    · rintro i rfl
      obtain ⟨u, hu⟩ := Slot.of_optionalDefault? halgo
      exact Value.of_signed? hu
  · cases h

end Flag

/-! ### Rule-based segments -/

theorem ExcludedKind.ofJson?_toJson (k : ExcludedKind) : ofJson? k.toJson = some k := by
  cases k <;> rfl

theorem ExcludedSegment.ofJson?_toJson (e : ExcludedSegment) : ofJson? e.toJson = some e := by
  have hnames : ["name", "type"].Nodup := by decide
  have hslots : e.toJson.record? [["name"], ["type"]] =
      some [.given (.string e.name), .given e.kind.toJson] :=
    Value.record?_fields hnames
  unfold ofJson?
  refine bind_of_read hslots ?_
  exact bind_of_read rfl <| bind_of_read e.kind.ofJson?_toJson rfl

theorem Excluded.ofJson?_toJson (e : Excluded) : ofJson? e.toJson = some e := by
  have hnames : ["keys", "segments"].Nodup := by decide
  have hslots : e.toJson.record? [["keys"], ["segments"]] =
      some [.given (optionJson stringsJson e.keys),
        .given (optionJson (fun ss => .array (ss.map ExcludedSegment.toJson)) e.segments)] :=
    Value.record?_fields hnames
  have hkeys : (Slot.given (optionJson stringsJson e.keys)).optionalDefault?
      (Value.list? Value.string?) = some e.keys :=
    Slot.optionalDefault?_optionJson (fun _ => rfl) fun ks _ => Value.list?_stringsJson ks
  have hsegments :
      (Slot.given (optionJson (fun ss => .array (ss.map ExcludedSegment.toJson))
        e.segments)).optionalDefault? (Value.list? ExcludedSegment.ofJson?) = some e.segments :=
    Slot.optionalDefault?_optionJson (fun _ => rfl) fun _ _ =>
      Value.list?_map fun s _ => s.ofJson?_toJson
  unfold ofJson?
  refine bind_of_read hslots ?_
  exact bind_of_read hkeys <| bind_of_read hsegments rfl

namespace RuleBasedSegment

variable {g : RuleBasedSegment}

/-- Whether the numbers of a rule-based segment are of the sizes that their fields have. -/
structure Sized (g : RuleBasedSegment) : Prop where
  changeNumber : Value.FitsSigned 64 g.changeNumber
  conditions : ∀ c ∈ g.conditions, c.Sized

/-- Whether the matchers of a rule-based segment keep their own fields apart. -/
def Apart (g : RuleBasedSegment) : Prop :=
  ∀ c ∈ g.conditions, c.Apart

/-- **A rule-based segment is read back as it was written.** -/
theorem ofJson?_toJson (hsized : g.Sized) (hapart : g.Apart) : ofJson? g.toJson = some g := by
  have hnames : ["name", "trafficTypeName", "changeNumber", "status", "excluded",
      "conditions"].Nodup := by decide
  have hslots : g.toJson.record? fieldNames = some [.given (.string g.name),
      .given (optionJson .string g.trafficType), .given (.int g.changeNumber),
      .given g.status.toJson, .given g.excluded.toJson,
      .given (.array (g.conditions.map Condition.toJson))] :=
    Value.record?_fields hnames
  have hchange : Value.signed? 64 (.int g.changeNumber) = some g.changeNumber :=
    Value.signed?_int hsized.changeNumber
  have hconditions : Value.list? Condition.ofJson?
      (.array (g.conditions.map Condition.toJson)) = some g.conditions :=
    Condition.list?_toJson hsized.conditions hapart
  unfold ofJson?
  refine bind_of_read hslots ?_
  exact bind_of_read rfl <| bind_of_read (optionalDefault?_string g.trafficType) <|
    bind_of_read hchange <| bind_of_read g.status.ofJson?_toJson <|
    bind_of_read g.excluded.ofJson?_toJson <| bind_of_read hconditions rfl

theorem of_ofJson? {v : Value} (h : ofJson? v = some g) : g.Sized ∧ g.Apart := by
  unfold ofJson? at h
  obtain ⟨slots, -, h⟩ := Option.bind_eq_some_iff.mp h
  split at h
  · obtain ⟨name, -, h⟩ := Option.bind_eq_some_iff.mp h
    obtain ⟨trafficType, -, h⟩ := Option.bind_eq_some_iff.mp h
    obtain ⟨changeNumber, hchange, h⟩ := Option.bind_eq_some_iff.mp h
    obtain ⟨status, -, h⟩ := Option.bind_eq_some_iff.mp h
    obtain ⟨excluded, -, h⟩ := Option.bind_eq_some_iff.mp h
    obtain ⟨conditions, hconditions, h⟩ := Option.bind_eq_some_iff.mp h
    obtain rfl := Option.some.inj h
    have hread : ∀ c ∈ conditions, c.Sized ∧ c.Apart := by
      intro c hc
      obtain ⟨u, hu⟩ := Value.of_mem_withDefault? hconditions hc
      exact Condition.of_ofJson? hu
    obtain ⟨u, hu⟩ := Slot.of_required? hchange
    exact ⟨⟨Value.of_signed? hu, fun c hc => (hread c hc).1⟩, fun c hc => (hread c hc).2⟩
  · cases h

end RuleBasedSegment

/-! ### Both kinds of rules -/

/-- **Rules survive being written and read.** A flag or a rule-based segment whose numbers fit and
whose matchers keep their own fields apart is read back as it was written; a flag that was read
and one that was read from what it writes refer to the same segments and belong to the same
flag sets, and the like for rule-based segments. Whatever was read at all, by itself or as part
of a rule, is of that kind. -/
theorem rules_survive_json :
    (∀ f : Flag, f.Sized → f.Apart → Flag.ofJson? f.toJson = some f ∧
      ∀ f', Flag.ofJson? f.toJson = some f' →
        Rule.segmentNames f' = Rule.segmentNames f ∧
        f'.ruleBasedSegmentNames = f.ruleBasedSegmentNames ∧
        ∀ filter, f'.matchesSets filter = f.matchesSets filter) ∧
    (∀ g : RuleBasedSegment, g.Sized → g.Apart → RuleBasedSegment.ofJson? g.toJson = some g ∧
      ∀ g', RuleBasedSegment.ofJson? g.toJson = some g' →
        Rule.segmentNames g' = Rule.segmentNames g) ∧
    (∀ (v : Value) (m : Matcher), Matcher.ofJson? v = some m → m.Apart) ∧
    (∀ (v : Value) (f : Flag), Flag.ofJson? v = some f → f.Sized ∧ f.Apart) ∧
    (∀ (v : Value) (g : RuleBasedSegment), RuleBasedSegment.ofJson? v = some g →
      g.Sized ∧ g.Apart) := by
  refine ⟨fun f hsized hapart => ?_, fun g hsized hapart => ?_,
    fun _ _ h => Matcher.apart_of_ofJson? h, fun _ _ h => Flag.of_ofJson? h,
    fun _ _ h => RuleBasedSegment.of_ofJson? h⟩
  · have hback : Flag.ofJson? f.toJson = some f := Flag.ofJson?_toJson hsized hapart
    refine ⟨hback, fun f' hf' => ?_⟩
    obtain rfl : f = f' := Option.some.inj (hback.symm.trans hf')
    exact ⟨rfl, rfl, fun _ => rfl⟩
  · have hback : RuleBasedSegment.ofJson? g.toJson = some g :=
      RuleBasedSegment.ofJson?_toJson hsized hapart
    refine ⟨hback, fun g' hg' => ?_⟩
    obtain rfl : g = g' := Option.some.inj (hback.symm.trans hg')
    rfl

/-- A flag with something in every field, whose matcher has a field that nobody interprets, and a
rule-based segment that excludes segments of every kind. -/
theorem survives_with_unknown_fields :
    let matcher : Matcher :=
      ⟨inSegmentKind, true, some "staff", Dict.ofList [("depth", ⟨.int 3, rfl⟩)]⟩
    let condition : Condition :=
      ⟨some "ROLLOUT", ⟨some "AND", [matcher]⟩, [⟨"on", 100⟩], some "all"⟩
    let f : Flag := ⟨"a", some "user", 10, .archived, true, "off", some 100, some (-5), some 7,
      some 2, [condition], some (Dict.ofList [("on", "blue")]), some (Names.ofList ["x", "y"]),
      some [⟨"b", ["on", "off"]⟩], true⟩
    let g : RuleBasedSegment := ⟨"r", none, 10, .active, ⟨some ["k"],
      some [⟨"s", .standard⟩, ⟨"t", .ruleBased⟩, ⟨"u", .unknown⟩]⟩, [condition]⟩
    Flag.ofJson? f.toJson = some f ∧ RuleBasedSegment.ofJson? g.toJson = some g := by
  intro matcher condition f g
  obtain ⟨hflags, hsegments, -⟩ := rules_survive_json
  have hapart : condition.Apart := by
    unfold Condition.Apart Matcher.Apart
    decide
  have hsized : condition.Sized := by
    unfold Condition.Sized
    decide
  have hone : ∀ {P : Condition → Prop}, P condition → ∀ c ∈ [condition], P c := by
    intro P h c hc
    exact List.mem_singleton.mp hc ▸ h
  have hf : f.Sized := {
    changeNumber := by decide
    trafficAllocation := fun n hn => Option.some.inj hn ▸ by decide
    trafficAllocationSeed := fun i hi => Option.some.inj hi ▸ by decide
    seed := fun i hi => Option.some.inj hi ▸ by decide
    algo := fun i hi => Option.some.inj hi ▸ by decide
    conditions := hone hsized }
  have hg : g.Sized := ⟨by decide, hone hsized⟩
  exact ⟨(hflags f hf (hone hapart)).1, (hsegments g hg (hone hapart)).1⟩

end Halyard
