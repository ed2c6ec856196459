/-
# The flag-set filter

A filter names flag sets in raw spellings. It is read into the set of their normal
forms if each of these has the shape `^[a-z0-9][_a-z0-9]{0,49}$`, and is refused by
the first entry of which that is not so. The shape is stated here as a regular
expression over characters, while the test runs over the bytes of UTF-8. The two
agree because a byte below 0x80 stands for itself and every other character has
bytes from 0x80 on only.

Everything else is read off the normal form: spellings that differ in white
space around them or in the case of ASCII letters have one normal form, and a
name of the shape is its own.

Key definitions: `FlagSet.pattern`, `FlagSet.Respelled`.
Key theorems: `FlagSet.valid_encode_iff`, `FlagSet.filter_eq_ok_iff`,
`FlagSet.filter_eq_error_iff`, `FlagSet.normal_of_respelled`,
`FlagSet.normal_of_matches`, `Config.filter_in_normal_form`.
-/
import Mathlib.Computability.RegularExpressions
import Halyard.Client
import Halyard.Http.Api
import Halyard.Proofs.Names
import Halyard.Proofs.Text.Lowercase
import Halyard.Proofs.Text.Utf8

namespace Halyard

namespace FlagSet

open Text

/-! ### The shape of a name -/

/-- One of the characters. -/
def oneOf (cs : List Char) : RegularExpression Char :=
  cs.foldr (fun c r => .char c + r) 0

/-- The expression up to `n` times. -/
def atMost (r : RegularExpression Char) : Nat → RegularExpression Char
  | 0 => 1
  | n + 1 => 1 + r * atMost r n

/-- What a name may begin with: a small letter or a digit. -/
def initials : List Char :=
  "abcdefghijklmnopqrstuvwxyz0123456789".toList

/-- What may follow: an underscore as well. -/
def letters : List Char :=
  '_' :: initials

/-- The names: `[a-z0-9][_a-z0-9]{0,49}`. -/
def pattern : RegularExpression Char :=
  oneOf initials * atMost (oneOf letters) 49

variable {cs w : List Char}

theorem mem_oneOf : ∀ {cs : List Char}, w ∈ (oneOf cs).matches' ↔ ∃ c ∈ cs, w = [c]
  | [] => ⟨fun h => absurd h (Language.notMem_zero w), fun ⟨_, hc, _⟩ => nomatch hc⟩
  | c :: cs => by
    have hcons : oneOf (c :: cs) = .char c + oneOf cs := rfl
    have hchar : w ∈ (RegularExpression.char c).matches' ↔ w = [c] := Iff.rfl
    rw [hcons, RegularExpression.matches'_add, Language.mem_add, hchar, mem_oneOf,
      List.exists_mem_cons_iff]

theorem mem_atMost : ∀ {n : Nat} {w : List Char},
    w ∈ (atMost (oneOf cs) n).matches' ↔ w.length ≤ n ∧ ∀ c ∈ w, c ∈ cs
  | 0, w => by
    rw [atMost, RegularExpression.matches'_epsilon, Language.mem_one, Nat.le_zero,
      List.length_eq_zero_iff]
    exact ⟨fun h => ⟨h, h ▸ nofun⟩, And.left⟩
  | n + 1, w => by
    rw [atMost, RegularExpression.matches'_add, Language.mem_add,
      RegularExpression.matches'_epsilon, Language.mem_one, RegularExpression.matches'_mul,
      Language.mem_mul]
    constructor
    · rintro (rfl | ⟨front, hfront, rest, hrest, rfl⟩)
      · exact ⟨Nat.zero_le _, nofun⟩
      · obtain ⟨c, hc, rfl⟩ := mem_oneOf.mp hfront
        obtain ⟨hlength, hall⟩ := mem_atMost.mp hrest
        exact ⟨Nat.succ_le_succ hlength, List.forall_mem_cons.mpr ⟨hc, hall⟩⟩
    · rintro ⟨hlength, hall⟩
      cases w with
      | nil => exact .inl rfl
      | cons c rest =>
        obtain ⟨hc, hrest⟩ := List.forall_mem_cons.mp hall
        refine .inr ⟨[c], mem_oneOf.mpr ⟨c, hc, rfl⟩, rest, mem_atMost.mpr ⟨?_, hrest⟩, rfl⟩
        exact Nat.le_of_succ_le_succ hlength

theorem mem_pattern : w ∈ pattern.matches' ↔
    ∃ c rest, w = c :: rest ∧ c ∈ initials ∧ rest.length ≤ 49 ∧ ∀ d ∈ rest, d ∈ letters := by
  rw [pattern, RegularExpression.matches'_mul, Language.mem_mul]
  constructor
  · rintro ⟨front, hfront, rest, hrest, rfl⟩
    obtain ⟨c, hc, rfl⟩ := mem_oneOf.mp hfront
    exact ⟨c, rest, rfl, hc, mem_atMost.mp hrest⟩
  · rintro ⟨c, rest, rfl, hc, hrest⟩
    exact ⟨[c], mem_oneOf.mpr ⟨c, hc, rfl⟩, rest, mem_atMost.mpr hrest, rfl⟩

theorem letter_of_matches (h : w ∈ pattern.matches') : ∀ c ∈ w, c ∈ letters := by
  obtain ⟨c, rest, rfl, hc, -, hrest⟩ := mem_pattern.mp h
  exact List.forall_mem_cons.mpr ⟨List.mem_cons_of_mem _ hc, hrest⟩

theorem letter_plain : ∀ c ∈ letters, c.toNat < 0x80 ∧ isBlank c = false ∧ c.toLower = c := by
  have hall : (letters.all fun c =>
      decide (c.toNat < 0x80 ∧ isBlank c = false ∧ c.toLower = c)) = true := by decide
  exact fun c hc => of_decide_eq_true (List.all_eq_true.mp hall c hc)

/-! ### The test of the bytes -/

theorem startsName_iff (h : c.toNat < 0x80) :
    startsName (UInt8.ofNat c.toNat) = true ↔ c ∈ initials :=
  @of_ascii c (fun c => startsName (UInt8.ofNat c.toNat) = true ↔ c ∈ initials)
    (by decide +kernel) h

theorem continuesName_iff (h : c.toNat < 0x80) :
    (startsName (UInt8.ofNat c.toNat) || decide (UInt8.ofNat c.toNat = 0x5F)) = true ↔
      c ∈ letters :=
  @of_ascii c (fun c => (startsName (UInt8.ofNat c.toNat) ||
    decide (UInt8.ofNat c.toNat = 0x5F)) = true ↔ c ∈ letters) (by decide +kernel) h

theorem ascii_of_startsName {b : UInt8} (h : startsName b = true) : b.toNat < 0x80 := by
  revert h
  simp only [startsName, Bool.or_eq_true, Bool.and_eq_true, decide_eq_true_eq,
    UInt8.le_iff_toNat_le]
  rintro (⟨-, h⟩ | ⟨-, h⟩)
  · exact Nat.lt_of_le_of_lt h (by decide)
  · exact Nat.lt_of_le_of_lt h (by decide)

theorem ascii_of_valid {bytes : List UInt8} (h : valid bytes = true) :
    ∀ b ∈ bytes, b.toNat < 0x80 := by
  cases bytes with
  | nil => nofun
  | cons b rest =>
    simp only [valid, Bool.and_eq_true, List.all_eq_true, Bool.or_eq_true,
      decide_eq_true_eq] at h
    obtain ⟨⟨hb, -⟩, hrest⟩ := h
    refine List.forall_mem_cons.mpr ⟨ascii_of_startsName hb, fun d hd => ?_⟩
    rcases hrest d hd with hd | rfl
    · exact ascii_of_startsName hd
    · decide

theorem valid_map_iff (h : ∀ c ∈ w, c.toNat < 0x80) :
    valid (w.map fun c => UInt8.ofNat c.toNat) = true ↔ w ∈ pattern.matches' := by
  rw [mem_pattern]
  cases w with
  | nil => exact ⟨nofun, fun ⟨_, _, h, _⟩ => nomatch h⟩
  | cons c rest =>
    obtain ⟨hc, hrest⟩ := List.forall_mem_cons.mp h
    have hlength : (rest.map fun c => UInt8.ofNat c.toNat).length < maxLength ↔
        rest.length ≤ 49 := by
      rw [List.length_map, maxLength, Nat.lt_succ_iff]
    rw [List.map_cons, valid, Bool.and_eq_true, Bool.and_eq_true, decide_eq_true_eq, hlength,
      startsName_iff hc, List.all_eq_true, List.forall_mem_map, and_assoc]
    constructor
    · rintro ⟨hstart, hshort, hall⟩
      exact ⟨c, rest, rfl, hstart, hshort, fun d hd =>
        (continuesName_iff (hrest d hd)).mp (hall d hd)⟩
    · rintro ⟨_, _, heq, hstart, hshort, hall⟩
      obtain ⟨rfl, rfl⟩ := List.cons.inj heq
      exact ⟨hstart, hshort, fun d hd => (continuesName_iff (hrest d hd)).mpr (hall d hd)⟩

/-- **The test of the bytes is the test of the shape.** -/
theorem valid_encode_iff : valid (Utf8.encode w) = true ↔ w ∈ pattern.matches' := by
  constructor
  · intro h
    have hascii := Utf8.ascii_of_ascii_encode (ascii_of_valid h)
    rwa [Utf8.encode_of_ascii hascii, valid_map_iff hascii] at h
  · intro h
    have hascii : ∀ c ∈ w, c.toNat < 0x80 := fun c hc =>
      (letter_plain c (letter_of_matches h c hc)).1
    rwa [Utf8.encode_of_ascii hascii, valid_map_iff hascii]

/-! ### Normal forms -/

/-- Two spellings that differ in the white space around them and in the case of ASCII letters. -/
def Respelled (r r' : String) : Prop :=
  ∃ before core after before' core' after',
    r.toList = before ++ core ++ after ∧ r'.toList = before' ++ core' ++ after' ∧
      (∀ c ∈ before ++ after ++ before' ++ after', isBlank c = true) ∧
      core.map Char.toLower = core'.map Char.toLower

/-- **Spellings of one name have one normal form.** -/
theorem normal_of_respelled {r r' : String} (h : Respelled r r') : normal r = normal r' := by
  obtain ⟨before, core, after, before', core', after', hr, hr', hblank, hcase⟩ := h
  simp only [List.forall_mem_append] at hblank
  obtain ⟨⟨⟨hbefore, hafter⟩, hbefore'⟩, hafter'⟩ := hblank
  calc normal r = lowercase (trim core) := by rw [normal, hr, trim_append_append hbefore hafter]
    _ = lowercase ((trim core).map Char.toLower) := (lowercase_map_toLower _).symm
    _ = lowercase ((trim core').map Char.toLower) := by
      rw [← trim_map_toLower, hcase, trim_map_toLower]
    _ = lowercase (trim core') := lowercase_map_toLower _
    _ = normal r' := by rw [normal, hr', trim_append_append hbefore' hafter']

theorem normal_of_matches {n : String} (h : n.toList ∈ pattern.matches') :
    normal n = n.toList := by
  have hplain := fun c hc => letter_plain c (letter_of_matches h c hc)
  rw [normal, trim_of_not_blank fun c hc => (hplain c hc).2.1,
    lowercase_of_ascii fun c hc => (hplain c hc).1]
  exact (List.map_congr_left fun c hc => (hplain c hc).2.2).trans (List.map_id _)

/-! ### Filters -/

theorem mapM_eq_find? {α β : Type} {p : α → Bool} {g : α → β} : ∀ l : List α,
    (l.mapM fun a => if p a = true then Except.ok (g a) else Except.error a) =
      ((l.find? fun a => !p a).map Except.error).getD (.ok (l.map g))
  | [] => rfl
  | a :: l => by
    have ih := mapM_eq_find? (p := p) (g := g) l
    rw [List.mapM_cons, ih, List.find?_cons]
    cases ha : p a with
    | false => rfl
    | true =>
      rw [if_pos rfl, Bool.not_true]
      cases l.find? fun a => !p a with
      | none => rfl
      | some e => rfl

variable {raw raw' : List String} {names : Names} {r n : String}

theorem mem_normals : n ∈ Names.ofList (raw.map fun r => String.ofList (normal r)) ↔
    ∃ r ∈ raw, n.toList = normal r := by
  rw [Names.mem_ofList, List.mem_map]
  exact exists_congr fun r => and_congr_right fun _ =>
    ⟨fun h => h ▸ String.toList_ofList, fun h => h ▸ String.ofList_toList⟩

/-- **A filter that is accepted spells names only, and stands for their normal forms.** -/
theorem filter_eq_ok_iff : filter raw = .ok names ↔
    (∀ r ∈ raw, normal r ∈ pattern.matches') ∧
      ∀ n, n ∈ names ↔ ∃ r ∈ raw, n.toList = normal r := by
  have hall : (raw.find? fun r => !valid (Utf8.encode (normal r))) = none ↔
      ∀ r ∈ raw, normal r ∈ pattern.matches' := by
    simp [valid_encode_iff]
  rw [filter, mapM_eq_find?, ← hall]
  cases raw.find? fun r => !valid (Utf8.encode (normal r)) with
  | some r => exact ⟨nofun, nofun⟩
  | none =>
    constructor
    · rintro ⟨⟩
      exact ⟨rfl, fun n => mem_normals⟩
    · rintro ⟨-, h⟩
      exact congrArg Except.ok (Names.ext fun n => mem_normals.trans (h n).symm)

example : filter [" Backend ", "backend", "frontend"] =
    .ok (Names.ofList ["backend", "frontend"]) := rfl

theorem exists_filter_iff :
    (∃ names, filter raw = .ok names) ↔ ∀ r ∈ raw, normal r ∈ pattern.matches' :=
  ⟨fun ⟨_, h⟩ => (filter_eq_ok_iff.mp h).1, fun h =>
    ⟨_, filter_eq_ok_iff.mpr ⟨h, fun _ => mem_normals⟩⟩⟩

/-- **A filter is refused by its first entry that does not spell a name.** -/
theorem filter_eq_error_iff : filter raw = .error r ↔
    ∃ before after, raw = before ++ r :: after ∧
      (∀ s ∈ before, normal s ∈ pattern.matches') ∧ normal r ∉ pattern.matches' := by
  have hfirst : (raw.find? fun r => !valid (Utf8.encode (normal r))) = some r ↔
      ∃ before after, raw = before ++ r :: after ∧
        (∀ s ∈ before, normal s ∈ pattern.matches') ∧ normal r ∉ pattern.matches' := by
    simp only [List.find?_eq_some_iff_append, Bool.not_eq_true', Bool.not_not, ← valid_encode_iff,
      Bool.not_eq_true]
    constructor
    · rintro ⟨hr, before, after, heq, hbefore⟩
      exact ⟨before, after, heq, hbefore, hr⟩
    · rintro ⟨before, after, heq, hbefore, hr⟩
      exact ⟨hr, before, after, heq, hbefore⟩
  rw [filter, mapM_eq_find?, ← hfirst]
  cases raw.find? fun r => !valid (Utf8.encode (normal r)) with
  | none => exact ⟨nofun, nofun⟩
  | some s => exact ⟨fun h => congrArg some (Except.error.inj h), fun h => by cases h; rfl⟩

/-- Filters with the same spellings but for order, repetition, white space around them and the
case of ASCII letters. -/
def Restated (raw raw' : List String) : Prop :=
  (∀ r ∈ raw, ∃ r' ∈ raw', Respelled r r') ∧ ∀ r' ∈ raw', ∃ r ∈ raw, Respelled r r'

/-- An accepted filter is accepted however it is restated, and stands for the same names. -/
theorem filter_of_restated (h : Restated raw raw') (hok : filter raw = .ok names) :
    filter raw' = .ok names := by
  obtain ⟨hall, hmem⟩ := filter_eq_ok_iff.mp hok
  refine filter_eq_ok_iff.mpr ⟨fun r' hr' => ?_, fun n => (hmem n).trans ?_⟩
  · obtain ⟨r, hr, hsame⟩ := h.2 r' hr'
    rw [← normal_of_respelled hsame]
    exact hall r hr
  · constructor
    · rintro ⟨r, hr, hn⟩
      obtain ⟨r', hr', hsame⟩ := h.1 r hr
      exact ⟨r', hr', hn.trans (normal_of_respelled hsame)⟩
    · rintro ⟨r', hr', hn⟩
      obtain ⟨r, hr, hsame⟩ := h.2 r' hr'
      exact ⟨r, hr, hn.trans (normal_of_respelled hsame).symm⟩

theorem matches_of_mem (hok : filter raw = .ok names) (hn : n ∈ names) :
    n.toList ∈ pattern.matches' := by
  obtain ⟨hall, hmem⟩ := filter_eq_ok_iff.mp hok
  obtain ⟨r, hr, heq⟩ := (hmem n).mp hn
  rw [heq]
  exact hall r hr

theorem filter_toList (hok : filter raw = .ok names) : filter names.toList = .ok names := by
  have hown : ∀ n ∈ names, normal n = n.toList := fun n hn =>
    normal_of_matches (matches_of_mem hok hn)
  refine filter_eq_ok_iff.mpr ⟨fun n hn => ?_, fun n => ⟨fun hn => ?_, ?_⟩⟩
  · have hn := Names.mem_toList.mp hn
    rw [hown n hn]
    exact matches_of_mem hok hn
  · exact ⟨n, Names.mem_toList.mpr hn, (hown n hn).symm⟩
  · rintro ⟨m, hm, heq⟩
    have hm := Names.mem_toList.mp hm
    rw [hown m hm] at heq
    exact String.toList_inj.mp heq ▸ hm

end FlagSet

/-! ### Configurations -/

namespace Config

open FlagSet

variable {c : Config} {names : Names} {e : ValidationError}

theorem flagSetNames_eq_ok_iff :
    c.flagSetNames = .ok names ↔ FlagSet.filter c.flagSets = .ok names := by
  unfold flagSetNames
  cases FlagSet.filter c.flagSets with
  | error r => exact ⟨nofun, nofun⟩
  | ok s => exact ⟨fun h => congrArg _ (Except.ok.inj h), fun h => congrArg _ (Except.ok.inj h)⟩

theorem flagSetNames_eq_error_iff :
    c.flagSetNames = .error e ↔ ∃ r, FlagSet.filter c.flagSets = .error r ∧
      e = .invalidFlagSet r := by
  unfold flagSetNames
  cases FlagSet.filter c.flagSets with
  | ok s => exact ⟨nofun, fun ⟨_, h, _⟩ => nomatch h⟩
  | error r =>
    constructor
    · rintro ⟨⟩
      exact ⟨r, rfl, rfl⟩
    · rintro ⟨_, ⟨⟩, rfl⟩
      rfl

/-- The endpoints ask for the sets that the configuration names. -/
theorem ofConfig_flagSets (h : c.flagSetNames = .ok names) :
    ∃ a, Http.Api.ofConfig c = .ok a ∧ a.flagSets = names := by
  rw [Http.Api.ofConfig, h]
  exact ⟨_, rfl, rfl⟩

/-- So does a client that is made from it. -/
theorem check_eq_ok_iff : c.check = .ok names ↔
    c.validate = .ok () ∧ c.flagSetNames = .ok names := by
  unfold check
  cases c.validate with
  | error e => exact ⟨nofun, fun h => nomatch h.1⟩
  | ok u =>
    cases c.flagSetNames with
    | error e => exact ⟨nofun, fun h => nomatch h.2⟩
    | ok s =>
      exact ⟨fun h => ⟨rfl, congrArg _ (Except.ok.inj h)⟩, fun h => congrArg _ (Except.ok.inj h.2)⟩

/-- **The flag-set filter has a normal form.** A configuration's filter is accepted if and only if
each entry, trimmed and in small letters, has the shape of a name, and else refused by its first
entry of which that is not so. Accepted, it stands for exactly those names. It does so however it
is restated; each name is valid as it stands, and the names given back as the filter stand for
themselves. The endpoints and the client, which each read the filter, come to the same sets. -/
theorem filter_in_normal_form (c : Config) :
    ((∃ names, c.flagSetNames = .ok names) ↔
      ∀ r ∈ c.flagSets, FlagSet.normal r ∈ FlagSet.pattern.matches') ∧
    (∀ e, c.flagSetNames = .error e ↔
      ∃ before r after, c.flagSets = before ++ r :: after ∧
        (∀ s ∈ before, FlagSet.normal s ∈ FlagSet.pattern.matches') ∧
        FlagSet.normal r ∉ FlagSet.pattern.matches' ∧ e = .invalidFlagSet r) ∧
    ∀ names, c.flagSetNames = .ok names →
      (∀ n, n ∈ names ↔ ∃ r ∈ c.flagSets, n.toList = FlagSet.normal r) ∧
      (∀ raw, FlagSet.Restated c.flagSets raw →
        { c with flagSets := raw }.flagSetNames = .ok names) ∧
      (∀ n ∈ names, n.toList ∈ FlagSet.pattern.matches' ∧ FlagSet.normal n = n.toList) ∧
      { c with flagSets := names.toList }.flagSetNames = .ok names ∧
      (∃ a, Http.Api.ofConfig c = .ok a ∧ a.flagSets = names) ∧
      ∀ sets, c.check = .ok sets ↔ c.validate = .ok () ∧ sets = names := by
  refine ⟨?_, fun e => ?_, fun names hok => ?_⟩
  · simp only [flagSetNames_eq_ok_iff, exists_filter_iff]
  · rw [flagSetNames_eq_error_iff]
    constructor
    · rintro ⟨r, hr, rfl⟩
      obtain ⟨before, after, heq, hbefore, hbad⟩ := filter_eq_error_iff.mp hr
      exact ⟨before, r, after, heq, hbefore, hbad, rfl⟩
    · rintro ⟨before, r, after, heq, hbefore, hbad, rfl⟩
      exact ⟨r, filter_eq_error_iff.mpr ⟨before, after, heq, hbefore, hbad⟩, rfl⟩
  · have hread : FlagSet.filter c.flagSets = .ok names := flagSetNames_eq_ok_iff.mp hok
    have hmatches := fun n (hn : n ∈ names) => matches_of_mem hread hn
    refine ⟨(filter_eq_ok_iff.mp hread).2, fun raw hraw => ?_,
      fun n hn => ⟨hmatches n hn, normal_of_matches (hmatches n hn)⟩, ?_,
      ofConfig_flagSets hok, fun sets => ?_⟩
    · exact flagSetNames_eq_ok_iff.mpr (filter_of_restated hraw hread)
    · exact flagSetNames_eq_ok_iff.mpr (filter_toList hread)
    · rw [check_eq_ok_iff, hok, Except.ok.injEq]
      exact and_congr_right fun _ => eq_comm

end Config

end Halyard
