/-
# An announcement and the definition it carries

An announcement of a changed rule may carry the new definition. What can be
wrong with the definition is found after the message has been read: the code
names no compression, the text is no base64, the bytes do not expand, or what
they say is no such entity. Each of these leaves the announcement without a
definition and touches nothing else of it (`SpelledUpdate.toUpdate_plain`).

The message itself is read before, and its numbers are read into bounded
fields. So the announcement is lost as a whole exactly if one of its optional
numbers does not fit (`SpelledUpdate.ofJson?_payload`): the number of the
version before into 64 bits, the code into 8.

`RuleKind` stands for what is announced, so that both kinds of announcements
are one case. The fields may come in any order, and the numerals may have any
number of digits.

Key definitions: `Carries`, `SpelledUpdate`, `SpelledUpdate.fields`,
`SpelledUpdate.Fits`.
Key theorems: `UpdatePayload.definition?_eq_some_iff`,
`SpelledUpdate.ofJson?_payload`, `SpelledUpdate.survives_iff`.
-/
import Halyard.Proofs.Json.Spelling
import Halyard.Proofs.Store.Pages
import Halyard.Push.Notification

namespace Halyard

namespace RuleKind

/-- What is announced. -/
def Entity : RuleKind → Type
  | .flags => Flag
  | .ruleSegments => RuleBasedSegment

/-- The tag of the announcement. -/
def tag : RuleKind → String
  | .flags => "SPLIT_UPDATE"
  | .ruleSegments => "RB_SEGMENT_UPDATE"

/-- Reads what is announced. -/
def read : (k : RuleKind) → Json.Value → Option k.Entity
  | .flags => Flag.ofJson?
  | .ruleSegments => RuleBasedSegment.ofJson?

/-- The announcement as a notification. -/
def announce : (k : RuleKind) → Push.RuleUpdate k.Entity → Push.Notification
  | .flags => .flagUpdate
  | .ruleSegments => .segmentRuleUpdate

end RuleKind

namespace Push

open Json

/-! ### The definition in a text -/

/-- The code that stands for a compression. -/
def Compression.code : Compression → Nat
  | .plain => 0
  | .gzip => 1
  | .zlib => 2

theorem Compression.ofCode_eq_ok_iff {code : Nat} {c : Compression} :
    Compression.ofCode code = .ok c ↔ code = c.code := by
  constructor
  · intro h
    unfold ofCode at h
    split at h
    all_goals
      cases h
      try rfl
  · rintro rfl
    cases c <;> rfl

/-- The text is base64 of bytes that expand, under the compression of the code, to a document
that says `x`. -/
def Carries (k : RuleKind) (code : Int) (text : String) (x : k.Entity) : Prop :=
  ∃ c : Compression, code = c.code ∧
    ∃ raw, Bytes.Base64.decodePadded? Bytes.Base64.standard (Text.trim text.toList) = some raw ∧
      ∃ bytes, c.expand? raw = some bytes ∧ ∃ v, Value.parse? bytes = some v ∧ k.read v = some x

theorem Compression.code_injective {c c' : Compression} (h : c.code = c'.code) : c = c' := by
  cases c <;> cases c' <;> first | rfl | cases h

theorem toOption_decodePayload (c : Compression) (text : String) :
    (decodePayload c.code text).toOption =
      (Bytes.Base64.decodePadded? Bytes.Base64.standard (Text.trim text.toList)).bind
        c.expand? := by
  unfold decodePayload
  rw [Compression.ofCode_eq_ok_iff.mpr rfl]
  cases Bytes.Base64.decodePadded? Bytes.Base64.standard (Text.trim text.toList) with
  | none => rfl
  | some raw =>
    simp only [Option.bind_some, bind, Except.bind]
    cases c.expand? raw <;> rfl

theorem toOption_decodePayload_of_unknown {code : Nat} (h : ∀ c : Compression, code ≠ c.code)
    (text : String) : (decodePayload code text).toOption = none := by
  unfold decodePayload
  cases hcode : Compression.ofCode code with
  | error e => rfl
  | ok c => exact absurd (Compression.ofCode_eq_ok_iff.mp hcode) (h c)

namespace UpdatePayload

variable {k : RuleKind} {p : UpdatePayload} {x : k.Entity}

/-- **The definition of a text is what it carries, through all five layers.** -/
theorem definition?_eq_some_iff {code : Nat} {text : String} :
    definition? k.read code text = some x ↔ Carries k code text x := by
  unfold definition? Carries
  by_cases hknown : ∃ c : Compression, code = c.code
  · obtain ⟨c, rfl⟩ := hknown
    have hunique : ∀ c' : Compression, (c.code : Int) = c'.code ↔ c' = c := by
      intro c'
      constructor
      · intro h
        exact (Compression.code_injective (by omega)).symm
      · rintro rfl
        rfl
    simp only [hunique, exists_eq_left, toOption_decodePayload, Option.bind_eq_bind,
      Option.bind_assoc, Option.bind_eq_some_iff]
  · have hcode : ∀ c : Compression, code ≠ c.code := fun c h => hknown ⟨c, h⟩
    rw [toOption_decodePayload_of_unknown hcode]
    constructor
    · intro h
      cases h
    · rintro ⟨c, hc, -⟩
      exact absurd (by omega) (hcode c)

/-- An update has the definition that its text carries, and else none. -/
theorem toUpdate_toOption :
    (p.toUpdate k.read).inlined.toOption = some x ↔
      ∃ text ∈ p.data, Carries k (p.code.getD 0) text x := by
  unfold toUpdate
  cases p.data with
  | none =>
    constructor
    · intro h
      cases h
    · rintro ⟨text, h, -⟩
      cases h
  | some text =>
    simp only [Option.mem_def, Option.some.injEq, exists_eq_left', ← definition?_eq_some_iff]
    cases definition? k.read (p.code.getD 0) text <;> rfl

end UpdatePayload

/-! ### Announcements as they are written -/

deriving instance DecidableEq for Envelope

/-- An announcement as a message writes it, with numerals of any size. -/
structure SpelledUpdate where
  changeNumber : Numeral
  previous : Option Numeral
  code : Option Numeral
  data : Option String

namespace SpelledUpdate

variable {k : RuleKind} {a : SpelledUpdate}

/-- The field of a name, if there is something to write. -/
def field (name : String) (v : Option Value) : List (String × Value) :=
  (v.map fun v => (name, v)).toList

/-- The fields beside the tag. -/
def payload (a : SpelledUpdate) : List (String × Value) :=
  ("changeNumber", a.changeNumber.found) ::
    (field "pcn" (a.previous.map Numeral.found) ++ field "c" (a.code.map Numeral.found) ++
      field "d" (a.data.map Value.string))

/-- All fields of the announcement. -/
def fields (k : RuleKind) (a : SpelledUpdate) : List (String × Value) :=
  ("type", .string k.tag) :: a.payload

/-- The numbers are integers. -/
structure Whole (a : SpelledUpdate) : Prop where
  changeNumber : a.changeNumber.Whole
  previous : ∀ n ∈ a.previous, n.Whole
  code : ∀ n ∈ a.code, n.Whole

/-- The optional numbers fit into their fields. -/
structure Fits (a : SpelledUpdate) : Prop where
  previous : ∀ n ∈ a.previous, n.Long
  code : ∀ n ∈ a.code, n.Byte

instance : Decidable a.Fits :=
  decidable_of_iff ((∀ n ∈ a.previous, n.Long) ∧ ∀ n ∈ a.code, n.Byte)
    ⟨fun h => ⟨h.1, h.2⟩, fun h => ⟨h.previous, h.code⟩⟩

/-- What is read of an announcement before its definition is decoded. -/
def plain (a : SpelledUpdate) : UpdatePayload :=
  ⟨a.changeNumber.integer, a.previous.map Numeral.integer,
    a.code.map fun n => n.integer.toNat, a.data⟩

/-! ### Reading an announcement -/

theorem mem_field {β : Type} {write : β → Value} {name : String} {o : Option β}
    {f : String × Value} : f ∈ field name (o.map write) ↔ ∃ b ∈ o, f = (name, write b) := by
  cases o <;> simp [field]

theorem mem_payload {f : String × Value} :
    f ∈ a.payload ↔ f = ("changeNumber", a.changeNumber.found) ∨
      (∃ n ∈ a.previous, f = ("pcn", n.found)) ∨ (∃ n ∈ a.code, f = ("c", n.found)) ∨
      ∃ text ∈ a.data, f = ("d", .string text) := by
  simp only [payload, List.mem_cons, List.mem_append, mem_field, or_assoc]

theorem fieldSlots?_payload (a : SpelledUpdate) :
    Value.fieldSlots? [["changeNumber"], ["pcn"], ["c"], ["d"]] (.object a.payload) =
      some [.given a.changeNumber.found, .ofOption (a.previous.map Numeral.found),
        .ofOption (a.code.map Numeral.found), .ofOption (a.data.map Value.string)] := by
  obtain ⟨changeNumber, previous, code, data⟩ := a
  cases previous <;> cases code <;> cases data <;> rfl

/-- **The payload is read exactly if its numbers fit.** -/
theorem ofJson?_payload (hwhole : a.Whole) (hnumber : a.changeNumber.Long)
    {fields : List (String × Value)} (hfields : fields.Perm a.payload) :
    UpdatePayload.ofJson? (.object fields) = if a.Fits then some a.plain else none := by
  have hslots : Value.record? [["changeNumber"], ["pcn"], ["c"], ["d"]] (.object fields) = _ :=
    (Value.fieldSlots?_perm hfields _).trans a.fieldSlots?_payload
  have hchange : (Slot.given a.changeNumber.found).required? (Value.signed? 64) =
      some a.changeNumber.integer :=
    (Value.signed?_found hwhole.changeNumber).trans (if_pos hnumber)
  have hprevious := Slot.optionalDefault?_ofOption (fun _ => Numeral.isNull_found)
    fun n hn => Value.signed?_found (hwhole.previous n hn)
  have hcode := Slot.optionalDefault?_ofOption (fun _ => Numeral.isNull_found)
    fun n hn => Value.unsigned?_found (hwhole.code n hn)
  have hdata : (Slot.ofOption (a.data.map Value.string)).optionalDefault? Value.string? =
      some a.data := by
    cases a.data <;> rfl
  unfold UpdatePayload.ofJson?
  rw [hslots]
  simp only [Option.bind_eq_bind, Option.bind_some, hchange, hprevious, hcode, hdata]
  by_cases hp : ∀ n ∈ a.previous, n.Long
  · by_cases hc : ∀ n ∈ a.code, n.Byte
    · rw [if_pos hp, if_pos hc, if_pos ⟨hp, hc⟩]
      rfl
    · rw [if_pos hp, if_neg hc, if_neg fun h : a.Fits => hc h.code]
      rfl
  · rw [if_neg hp, if_neg fun h : a.Fits => hp h.previous]
    rfl

theorem fieldSlots?_metrics (a : SpelledUpdate) :
    Value.fieldSlots? [["metrics"]] (.object (a.fields k)) = some [.absent] := by
  obtain ⟨changeNumber, previous, code, data⟩ := a
  cases previous <;> cases code <;> cases data <;> rfl

theorem occupancy?_fields {fields : List (String × Value)} (hfields : fields.Perm (a.fields k)) :
    occupancy? (.object fields) = none := by
  unfold occupancy?
  rw [Value.fieldSlots?_perm hfields, fieldSlots?_metrics]
  rfl

/-- The tag is found wherever it stands, and the payload is what is left. -/
theorem splitTag?_fields {fields : List (String × Value)} (hfields : fields.Perm (a.fields k)) :
    ∃ rest, splitTag? (.object fields) = some (k.tag, .object rest) ∧ rest.Perm a.payload := by
  have hname : ∀ f ∈ a.payload, f.1 ≠ "type" := by
    intro f hf
    rcases mem_payload.mp hf with rfl | ⟨n, -, rfl⟩ | ⟨n, -, rfl⟩ | ⟨text, -, rfl⟩
    all_goals simp
  have htag : (a.fields k).filter (fun f => f.1 = "type") = [("type", .string k.tag)] := by
    rw [SpelledUpdate.fields, List.filter_cons_of_pos (by simp),
      List.filter_eq_nil_iff.mpr fun f hf => by simpa using hname f hf]
  have hrest : (a.fields k).filter (fun f => f.1 ≠ "type") = a.payload := by
    rw [SpelledUpdate.fields, List.filter_cons_of_neg (by simp),
      List.filter_eq_self.mpr fun f hf => by simpa using hname f hf]
  have hfound := hfields.filter fun f => f.1 = "type"
  have hleft := hfields.filter fun f => f.1 ≠ "type"
  rw [htag] at hfound
  rw [hrest] at hleft
  refine ⟨_, ?_, hleft⟩
  simp only [splitTag?, List.perm_singleton.mp hfound]
  cases k <;> rfl

theorem ofTagged?_tag (channel : String) (v : Value) :
    Notification.ofTagged? channel k.tag v =
      (UpdatePayload.ofJson? v).map fun p => k.announce (p.toUpdate k.read) := by
  cases k with
  | flags => exact (if_pos rfl).trans (Option.map_eq_bind ..).symm
  | ruleSegments =>
    exact (if_neg (by decide)).trans ((if_pos rfl).trans (Option.map_eq_bind ..).symm)

theorem ofMessage?_fields (hwhole : a.Whole) (hnumber : a.changeNumber.Long)
    {fields : List (String × Value)} (hfields : fields.Perm (a.fields k)) (channel : String)
    (timestamp : Int) :
    Notification.ofMessage? channel timestamp (.object fields) =
      if a.Fits then some (k.announce (a.plain.toUpdate k.read)) else none := by
  obtain ⟨rest, htag, hrest⟩ := splitTag?_fields hfields
  unfold Notification.ofMessage?
  rw [occupancy?_fields hfields, htag]
  change Notification.ofTagged? channel k.tag (.object rest) = _
  rw [ofTagged?_tag, ofJson?_payload hwhole hnumber hrest, apply_ite (Option.map _)]
  rfl

theorem readable_of_fits (hwhole : a.Whole) (hnumber : a.changeNumber.Long) (hfits : a.Fits) :
    Value.readableFields (a.fields k) = true := by
  have hlong : ∀ {n : Numeral}, n.Whole → n.Long → n.found.readable = true := fun hn h =>
    Numeral.readable_found_of_kept hn (h.kept (by decide) (by decide))
  have hbyte : ∀ {n : Numeral}, n.Whole → n.Byte → n.found.readable = true := fun hn h =>
    Numeral.readable_found_of_kept hn (h.kept (by decide) (by decide))
  rw [Value.readableFields_eq_all, List.all_eq_true]
  intro f hf
  rcases List.mem_cons.mp hf with rfl | hf
  · rfl
  · rcases mem_payload.mp hf with rfl | ⟨n, hn, rfl⟩ | ⟨n, hn, rfl⟩ | ⟨text, -, rfl⟩
    · exact hlong hwhole.changeNumber hnumber
    · exact hlong (hwhole.previous n hn) (hfits.previous n hn)
    · exact hbyte (hwhole.code n hn) (hfits.code n hn)
    · rfl

/-- What is announced is what was written, and the definition is the one that the text carries. -/
theorem toUpdate_plain (hfits : a.Fits) (x : k.Entity) :
    (a.plain.toUpdate k.read).inlined.toOption = some x ↔
      ∃ text ∈ a.data, Carries k ((a.code.map Numeral.integer).getD 0) text x := by
  have hcode : ((a.plain.code.getD 0 : Nat) : Int) = (a.code.map Numeral.integer).getD 0 := by
    obtain ⟨changeNumber, previous, code, data⟩ := a
    cases code with
    | none => rfl
    | some n => exact Int.toNat_of_nonneg (hfits.code n rfl).2.1
  rw [UpdatePayload.toUpdate_toOption, hcode]
  rfl

/-- **An announcement survives whatever its definition is, and only a number that does not fit
loses it.** -/
theorem survives_iff {e : Event} {envelope : Envelope} {fields : List (String × Value)}
    (hkind : e.kind ≠ "error")
    (henvelope : (Value.parseString? e.data).bind Envelope.ofJson? = some envelope)
    (hinner : Value.parseString? envelope.data = some (.object fields))
    (hfields : fields.Perm (a.fields k)) (hwhole : a.Whole) (hnumber : a.changeNumber.Long) :
    (a.Fits → ∃ u : RuleUpdate k.Entity, Notification.ofEvent? e = some (k.announce u) ∧
      u.changeNumber = a.changeNumber.integer ∧ u.previous = a.previous.map Numeral.integer ∧
      ∀ x, u.inlined.toOption = some x ↔
        ∃ text ∈ a.data, Carries k ((a.code.map Numeral.integer).getD 0) text x) ∧
    (¬ a.Fits → Notification.ofEvent? e = none) := by
  have hmessage := ofMessage?_fields hwhole hnumber hfields (channelName envelope.channel)
    envelope.timestamp
  have hevent : Notification.ofEvent? e = (Value.whole? (.object fields)).bind
      (Notification.ofMessage? (channelName envelope.channel) envelope.timestamp) := by
    obtain ⟨outer, houter, henv⟩ := Option.bind_eq_some_iff.mp henvelope
    unfold Notification.ofEvent?
    rw [houter]
    change (if e.kind = "error" then _ else (Envelope.ofJson? outer).bind _) = _
    rw [if_neg hkind, henv, Option.bind_some, hinner]
    rfl
  rw [hevent]
  constructor
  · intro hfits
    have hreadable : Value.whole? (.object fields) = some (.object fields) :=
      if_pos ((Value.readableFields_perm hfields).trans (readable_of_fits hwhole hnumber hfits))
    refine ⟨a.plain.toUpdate k.read, ?_, rfl, rfl, toUpdate_plain hfits⟩
    rw [hreadable, Option.bind_some, hmessage, if_pos hfits]
  · intro hfits
    rw [if_neg hfits] at hmessage
    -- a number that is no value at all is found out earlier
    by_cases hreadable : (Value.object fields).readable = true
    · rw [Value.whole?, if_pos hreadable, Option.bind_some, hmessage]
    · rw [Value.whole?, if_neg hreadable, Option.bind_none]

/-! ### A code that no compression has -/

/-- A change of flags from 10 to 11, with a text under a code. -/
def toEleven (code : List Nat) : SpelledUpdate :=
  ⟨⟨false, [1, 1], none, none⟩, some ⟨false, [1, 0], none, none⟩, some ⟨false, code, none, none⟩,
    some "e30="⟩

/-- Its frame, given the code as it is written. -/
def toElevenFrame (code : String) : Envelope :=
  ⟨"splits", "\x7b\"type\":\"SPLIT_UPDATE\",\"changeNumber\":11,\"pcn\":10,\"c\":" ++ code ++
    ",\"d\":\"e30=\"\x7d", 0⟩

/-- Its event, given the code as it is written. -/
def toElevenEvent (code : String) : Event :=
  ⟨none, none, "\x7b\"channel\":\"splits\",\"data\":\"\x7b\\\"type\\\":\\\"SPLIT_UPDATE\\\"," ++
    "\\\"changeNumber\\\":11,\\\"pcn\\\":10,\\\"c\\\":" ++ code ++
    ",\\\"d\\\":\\\"e30=\\\"\x7d\"\x7d"⟩

theorem toEleven_whole (code : List Nat) : (toEleven code).Whole where
  changeNumber := ⟨rfl, rfl⟩
  previous := by
    rintro n ⟨⟩
    exact ⟨rfl, rfl⟩
  code := by
    rintro n ⟨⟩
    exact ⟨rfl, rfl⟩

/-- Under the code 7 the announcement survives, and only the definition is dropped. -/
theorem unknown_code_survives :
    ∃ u : RuleUpdate Flag, Notification.ofEvent? (toElevenEvent "7") = some (.flagUpdate u) ∧
      u.changeNumber = 11 ∧ u.previous = some 10 ∧ u.inlined.toOption = none := by
  have h := @survives_iff .flags (toEleven [7]) (toElevenEvent "7") (toElevenFrame "7")
    ((toEleven [7]).fields .flags) (by decide)
    (by decide +kernel) (by with_unfolding_all rfl) (.refl _) (toEleven_whole _) (by decide)
  obtain ⟨u, hevent, hnumber, hprevious, hdefinition⟩ := h.1 (by decide)
  refine ⟨u, hevent, hnumber, hprevious, Option.eq_none_iff_forall_ne_some.mpr fun x hx => ?_⟩
  obtain ⟨text, -, c, hc, -⟩ := (hdefinition x).mp hx
  cases c <;> exact absurd hc (by decide)

/-- Under the code 256, which is as unknown, there is no announcement at all. -/
theorem wide_code_loses_announcement :
    (Value.parseString? (toElevenEvent "256").data).bind Envelope.ofJson? =
        some (toElevenFrame "256") ∧
      Value.parseString? (toElevenFrame "256").data =
        some (.object ((toEleven [2, 5, 6]).fields .flags)) ∧
      (toEleven [2, 5, 6]).Whole ∧ (toEleven [2, 5, 6]).changeNumber.Long ∧
      ¬ ∃ u : RuleUpdate Flag,
        Notification.ofEvent? (toElevenEvent "256") = some (.flagUpdate u) := by
  have hnone : Notification.ofEvent? (toElevenEvent "256") = none :=
    Option.isNone_iff_eq_none.mp (by decide +kernel)
  refine ⟨by decide +kernel, by with_unfolding_all rfl, toEleven_whole _, by decide, ?_⟩
  rintro ⟨u, hu⟩
  rw [hnone] at hu
  cases hu

end SpelledUpdate

end Push

end Halyard
