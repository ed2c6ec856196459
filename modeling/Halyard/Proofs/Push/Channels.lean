/-
# Channels and their names

A channel is subscribed to under its name, with the occupancy prefix in front if
its publishers are to be reported. The prefix is put on where a token is read and
where an explicit list takes the place of its channels; it is taken off where that
list is compared with the token and where a message comes in. Each of these puts on
or takes off one prefix, so a channel keeps its name on the way.

The wire may leave the prefix away. A message then comes in under the name, and
that is looked at as if it were a channel; nothing is lost if the name has no prefix
of its own. The names that a JWT grants have none. An explicit list may have a
channel with the prefix twice, and such a channel goes by two names, one for each
way to write it.

Key definitions: `Prefixed`, `Token.capability?`, `Token.Resubscribed`,
`Event.Frames`, `Envelope.Reaches`, `Tracked`.
Key theorems: `Token.withChannels_resubscribed`, `Notification.about_ofMessage?`,
`Availability.tell_elsewhere`, `tracked`, `Token.channels_keep_their_names`.
-/
import Mathlib.Data.List.Forall2
import Halyard.Proofs.Push.Occupancy

namespace Halyard.Push

open Json Bytes

variable {channel name subscribed : String}

/-! ### The prefix -/

theorem take_toList_iff {front text : String} :
    text.toList.take front.length = front.toList ↔ ∃ rest, text = front ++ rest := by
  rw [← String.length_toList]
  constructor
  · intro h
    refine ⟨String.ofList (text.toList.drop front.toList.length), String.toList_inj.mp ?_⟩
    rw [String.toList_append, String.toList_ofList]
    nth_rewrite 1 [← h]
    exact (List.take_append_drop _ _).symm
  · rintro ⟨rest, rfl⟩
    rw [String.toList_append]
    exact List.take_left' rfl

/-- Whether a channel begins with the occupancy prefix. -/
def Prefixed (channel : String) : Prop :=
  ∃ name, channel = occupancyPrefix ++ name

instance : DecidablePred Prefixed := fun _ =>
  decidable_of_iff _ take_toList_iff

theorem withoutPrefix?_append (name : String) :
    withoutPrefix? (occupancyPrefix ++ name) = some name := by
  have htake : (occupancyPrefix ++ name).toList.take occupancyPrefix.length =
      occupancyPrefix.toList := take_toList_iff.mpr ⟨name, rfl⟩
  rw [withoutPrefix?, if_pos htake, String.toList_append, List.drop_left' String.length_toList,
    String.ofList_toList]

theorem withoutPrefix?_of_not_prefixed (h : ¬ Prefixed channel) :
    withoutPrefix? channel = none :=
  if_neg fun htake => h (take_toList_iff.mp htake)

@[simp] theorem channelName_append (name : String) :
    channelName (occupancyPrefix ++ name) = name := by
  rw [channelName, withoutPrefix?_append, Option.getD_some]

theorem channelName_of_not_prefixed (h : ¬ Prefixed channel) : channelName channel = channel := by
  rw [channelName, withoutPrefix?_of_not_prefixed h, Option.getD_none]

namespace Token

/-! ### The channels of a token -/

/-- The capability map of a JWT: the channels that it grants, each with its permissions. -/
def capability? (jwt : String) : Option (List (String × List String)) := do
  let payload ← payloadPart? jwt
  let bytes ← Base64.decodeUnpadded? Base64.urlSafe (payload.reverse.dropWhile (· = '=')).reverse
  let claims ← (Value.parse? bytes).bind Claims.ofJson?
  claims.channels?

variable {jwt : String} {delay : Option Nat} {t : Token}
  {grants : List (String × List String)}

theorem channels_of_ofJwt (ht : ofJwt jwt delay = .ok t) (hg : capability? jwt = some grants) :
    t.channels = grants.map fun g => subscription g.1 g.2 := by
  unfold capability? at hg
  simp only [Option.bind_eq_bind, Option.bind_eq_some_iff] at hg
  obtain ⟨payload, hpayload, bytes, hbytes, claims, hclaims, hgrants⟩ := hg
  have hclaims : (Value.parse? bytes).bind Claims.ofJson? = some claims :=
    Option.bind_eq_some_iff.mpr hclaims
  unfold ofJwt at ht
  simp only [hpayload, hbytes, hclaims, hgrants] at ht
  obtain rfl := Except.ok.inj ht
  rfl

/-- Whether the grants let a channel report its publishers. -/
def ReportsPublishers (grants : List (String × List String)) (name : String) : Prop :=
  ∃ permissions, (name, permissions) ∈ grants ∧ publishersPermission ∈ permissions

/-- The channels of the token that have the prefix are those that may report publishers, as long
as no name has a prefix of its own. -/
theorem mem_reporting_iff (hplain : ∀ g ∈ grants, ¬ Prefixed g.1) :
    name ∈ (grants.map fun g => subscription g.1 g.2).filterMap withoutPrefix? ↔
      ReportsPublishers grants name := by
  rw [List.filterMap_map, List.mem_filterMap]
  constructor
  · rintro ⟨⟨granted, permissions⟩, hmem, hname⟩
    by_cases hreports : permissions.contains publishersPermission = true
    · simp only [Function.comp, subscription, if_pos hreports, withoutPrefix?_append,
        Option.some.injEq] at hname
      exact ⟨permissions, hname ▸ hmem, List.contains_iff_mem.mp hreports⟩
    · simp only [Function.comp, subscription, if_neg hreports,
        withoutPrefix?_of_not_prefixed (hplain _ hmem)] at hname
      cases hname
  · rintro ⟨permissions, hmem, hreports⟩
    refine ⟨(name, permissions), hmem, ?_⟩
    simp only [Function.comp, subscription, if_pos (List.contains_iff_mem.mpr hreports),
      withoutPrefix?_append]

theorem channelName_subscription (h : ¬ Prefixed name) (permissions : List String) :
    channelName (subscription name permissions) = name := by
  unfold subscription
  split
  · exact channelName_append name
  · exact channelName_of_not_prefixed h

theorem isControlName_iff : isControlName name = true ↔ ∃ rest, name = "control_" ++ rest := by
  rw [isControlName, decide_eq_true_eq, ← take_toList_iff]
  rfl

/-- Whether an explicit channel is to carry the prefix: it may report publishers, is a control
channel, or carries the prefix already. -/
def Reporting (grants : List (String × List String)) (channel : String) : Prop :=
  ReportsPublishers grants (channelName channel) ∨
    (∃ rest, channelName channel = "control_" ++ rest) ∨ Prefixed channel

/-- What becomes of a channel of an explicit list. -/
structure Resubscribed (grants : List (String × List String)) (channel subscribed : String) :
    Prop where
  name : channelName subscribed = channelName channel
  prefixed : Reporting grants channel → Prefixed subscribed
  unchanged : ¬ Reporting grants channel → subscribed = channel

/-- **An explicit list replaces the channels one by one, and each keeps its name.** -/
theorem withChannels_resubscribed (ht : ofJwt jwt delay = .ok t)
    (hg : capability? jwt = some grants) (hplain : ∀ g ∈ grants, ¬ Prefixed g.1)
    (explicit : List String) :
    List.Forall₂ (Resubscribed grants) explicit (t.withChannels explicit).channels := by
  refine List.forall₂_map_right_iff.mpr (List.forall₂_same.mpr fun channel _ => ?_)
  dsimp only
  rw [channels_of_ofJwt ht hg]
  have hasked : (((grants.map fun g => subscription g.1 g.2).filterMap withoutPrefix?).contains
        (channelName channel) || isControlName (channelName channel)) = true ↔
      ReportsPublishers grants (channelName channel) ∨
        ∃ rest, channelName channel = "control_" ++ rest := by
    rw [Bool.or_eq_true, List.contains_iff_mem, mem_reporting_iff hplain, isControlName_iff]
  split
  · next h =>
    have hreporting : Reporting grants channel := (hasked.mp h).elim .inl fun hc => .inr (.inl hc)
    exact ⟨channelName_append _, fun _ => ⟨_, rfl⟩, fun hnot => absurd hreporting hnot⟩
  · next h =>
    refine ⟨rfl, fun hreporting => ?_, fun _ => rfl⟩
    rcases hreporting with hr | hc | hprefixed
    · exact absurd (hasked.mpr (.inl hr)) h
    · exact absurd (hasked.mpr (.inr hc)) h
    · exact hprefixed

end Token

/-! ### Messages -/

/-- Whether an event is the frame of a message. -/
def Event.Frames (e : Event) (envelope : Envelope) : Prop :=
  e.kind ≠ "error" ∧ (Value.parseString? e.data).bind Envelope.ofJson? = some envelope

/-- Whether a frame is of a channel that is subscribed to: the wire writes it as it is, or with the
prefix, or without, if no prefix is left on it then. -/
def Envelope.Reaches (envelope : Envelope) (subscribed : String) : Prop :=
  envelope.channel = subscribed ∨
    envelope.channel = occupancyPrefix ++ channelName subscribed ∨
    envelope.channel = channelName subscribed ∧ ¬ Prefixed (channelName subscribed)

theorem Envelope.Reaches.channelName_eq {envelope : Envelope} (h : envelope.Reaches subscribed) :
    channelName envelope.channel = channelName subscribed := by
  rcases h with h | h | ⟨h, hplain⟩
  · rw [h]
  · rw [h, channelName_append]
  · rw [h, channelName_of_not_prefixed hplain]

namespace Notification

/-- The channel that a notification is about. -/
def channel? : Notification → Option String
  | .control channel _ => some channel
  | .occupancy channel _ _ => some channel
  | _ => none

theorem ofEvent?_of_frames {e : Event} {envelope : Envelope} (h : e.Frames envelope) :
    ofEvent? e = ((Value.parseString? envelope.data).bind Value.whole?).bind
      (ofMessage? (channelName envelope.channel) envelope.timestamp) := by
  obtain ⟨hkind, henvelope⟩ := h
  obtain ⟨outer, houter, henv⟩ := Option.bind_eq_some_iff.mp henvelope
  unfold ofEvent?
  rw [houter, Option.bind_assoc]
  change (if e.kind = "error" then _ else (Envelope.ofJson? outer).bind _) = _
  rw [if_neg hkind, henv]
  rfl

/-- Whether a reading that succeeds is about no other channel. -/
def About (name : String) (reading : Option Notification) : Prop :=
  ∀ n ∈ reading, ∀ c ∈ n.channel?, c = name

theorem about_none : About name none := by
  intro n hn
  cases hn

theorem about_some {n : Notification} (h : ∀ c ∈ n.channel?, c = name) : About name (some n) := by
  rintro _ ⟨⟩
  exact h

theorem about_bind {α : Type} {x : Option α} {next : α → Option Notification}
    (h : ∀ a, About name (next a)) : About name (x.bind next) := by
  intro n hn
  obtain ⟨a, -, ha⟩ := Option.bind_eq_some_iff.mp hn
  exact h a n ha

theorem about_ofTagged? (tag : String) (v : Value) : About name (ofTagged? name tag v) := by
  unfold ofTagged?
  split
  · exact about_bind fun _ => about_some nofun
  split
  · exact about_bind fun _ => about_some nofun
  split
  · refine about_bind fun slots => ?_
    split
    · exact about_bind fun _ => about_bind fun _ => about_bind fun _ => about_some nofun
    · exact about_none
  split
  · refine about_bind fun slots => ?_
    split
    · exact about_bind fun _ => about_bind fun _ => about_some nofun
    · exact about_none
  · refine about_bind fun slots => ?_
    split
    · exact about_bind fun _ => about_some fun c hc => (Option.some.inj hc).symm
    · exact about_none

/-- **A message is about the channel that it came in on.** -/
theorem about_ofMessage? (timestamp : Int) (v : Value) :
    About name (ofMessage? name timestamp v) := by
  unfold ofMessage?
  cases occupancy? v with
  | some publishers => exact about_some fun c hc => (Option.some.inj hc).symm
  | none => exact about_bind fun _ => about_ofTagged? _ _

end Notification

/-! ### What is known of a channel -/

namespace Availability

variable {a : Availability} {i : Input}

theorem tell_elsewhere (hmessage : i.isMessage = true) (habout : ∀ r ∈ i.report?, r.1 = name)
    {other : String} (hother : other ≠ name) :
    (a.tell i).1.channels.get? other = a.channels.get? other := by
  cases hoff : a.isOff with
  | true => rw [tell_of_off hoff]
  | false =>
    cases i with
    | connected => cases hmessage
    | failed => cases hmessage
    | control c =>
      by_cases hc : c = .disabled
      · rw [hc, tell_disabled hoff]
        rfl
      · rw [tell, control_eq hoff hc]
        rfl
    | occupancy channel publishers timestamp =>
      obtain rfl : channel = name := habout _ rfl
      cases hold : a.outdated channel timestamp with
      | true => rw [tell_outdated hold]
      | false =>
        rw [tell, occupancy_eq hoff hold]
        exact (Dict.get?_insert _ _ _ _).trans (if_neg hother)

theorem hear_elsewhere {other : String} (hother : other ≠ name) :
    ∀ {inputs : List Input} {a : Availability},
      (∀ i ∈ inputs, i.isMessage = true ∧ ∀ r ∈ i.report?, r.1 = name) →
      (a.hear inputs).channels.get? other = a.channels.get? other
  | [], _, _ => rfl
  | i :: inputs, a, h => by
    obtain ⟨hi, hinputs⟩ := List.forall_mem_cons.mp h
    have ih : ((a.tell i).1.hear inputs).channels.get? other =
        (a.tell i).1.channels.get? other := hear_elsewhere hother hinputs
    exact ih.trans (tell_elsewhere hi.1 hi.2 hother)

end Availability

/-- What an event tells the availability of push. -/
def Event.told? (e : Event) : Option Availability.Input :=
  (Notification.ofEvent? e).bind Manager.message?

/-- Whether the messages of a subscribed channel are all about its name, whichever way the wire
writes it. -/
structure Tracked (subscribed : String) : Prop where
  /-- They name no other channel. -/
  named : ∀ {e : Event} {envelope : Envelope}, e.Frames envelope → envelope.Reaches subscribed →
    ∀ n, Notification.ofEvent? e = some n → ∀ c ∈ n.channel?, c = channelName subscribed
  /-- A report of publishers is read as one of the channel. -/
  reported : ∀ {e : Event} {envelope : Envelope} {v : Value} {publishers : Nat},
    e.Frames envelope → envelope.Reaches subscribed →
    (Value.parseString? envelope.data).bind Value.whole? = some v →
    occupancy? v = some publishers →
    Notification.ofEvent? e =
      some (.occupancy (channelName subscribed) publishers envelope.timestamp)
  /-- A message is the same with the prefix and without. -/
  same : ∀ {e e' : Event} {envelope envelope' : Envelope},
    e.Frames envelope → envelope.Reaches subscribed →
    e'.Frames envelope' → envelope'.Reaches subscribed →
    envelope.data = envelope'.data → envelope.timestamp = envelope'.timestamp →
    Notification.ofEvent? e = Notification.ofEvent? e'
  /-- However many of them come, they are heard under that name only. -/
  alone : ∀ {events : List Event},
    (∀ e ∈ events, ∃ envelope, e.Frames envelope ∧ envelope.Reaches subscribed) →
    ∀ (a : Availability) (other : String), other ≠ channelName subscribed →
      (a.hear (events.filterMap Event.told?)).channels.get? other = a.channels.get? other

theorem told_of_named {e : Event}
    (h : ∀ n, Notification.ofEvent? e = some n → ∀ c ∈ n.channel?, c = name)
    {i : Availability.Input} (hi : e.told? = some i) :
    i.isMessage = true ∧ ∀ r ∈ i.report?, r.1 = name := by
  obtain ⟨n, hn, hmessage⟩ := Option.bind_eq_some_iff.mp hi
  cases n with
  | control c k =>
    obtain rfl := Option.some.inj hmessage
    exact ⟨rfl, nofun⟩
  | occupancy c publishers timestamp =>
    obtain rfl := Option.some.inj hmessage
    refine ⟨rfl, ?_⟩
    rintro r ⟨⟩
    exact h _ hn c rfl
  | _ => cases hmessage

/-- **Whichever way the wire writes a channel, it is known under one name.** -/
theorem tracked (subscribed : String) : Tracked subscribed := by
  have hread : ∀ {e : Event} {envelope : Envelope}, e.Frames envelope →
      envelope.Reaches subscribed → Notification.ofEvent? e =
        ((Value.parseString? envelope.data).bind Value.whole?).bind
          (Notification.ofMessage? (channelName subscribed) envelope.timestamp) := by
    intro e envelope hframes hreaches
    rw [Notification.ofEvent?_of_frames hframes, hreaches.channelName_eq]
  have hnamed : ∀ {e : Event} {envelope : Envelope}, e.Frames envelope →
      envelope.Reaches subscribed →
      ∀ n, Notification.ofEvent? e = some n → ∀ c ∈ n.channel?, c = channelName subscribed := by
    intro e envelope hframes hreaches n hn
    rw [hread hframes hreaches] at hn
    exact Notification.about_bind (fun v => Notification.about_ofMessage? _ v) n hn
  refine ⟨hnamed, ?_, ?_, ?_⟩
  · intro e envelope v publishers hframes hreaches hv hpublishers
    rw [hread hframes hreaches, hv, Option.bind_some, Notification.ofMessage?, hpublishers]
  · intro e e' envelope envelope' hframes hreaches hframes' hreaches' hdata htime
    rw [hread hframes hreaches, hread hframes' hreaches', hdata, htime]
  · intro events hevents a other hother
    refine Availability.hear_elsewhere hother fun i hi => ?_
    obtain ⟨e, he, htold⟩ := List.mem_filterMap.mp hi
    obtain ⟨envelope, hframes, hreaches⟩ := hevents e he
    exact told_of_named (hnamed hframes hreaches) htold

namespace Token

variable {jwt : String} {delay : Option Nat} {t : Token} {grants : List (String × List String)}

/-- **Explicit channels keep their names and their prefix.** Take a token from a JWT that grants
channels without a prefix of their own, and an explicit list. The list is taken over one by one;
each channel keeps its name, carries the prefix if it may report publishers, is a control channel
or carried it before, and is as it was otherwise. Messages of whatever is subscribed to are about
its name, with the prefix on the wire and, if no prefix is left on the name, without; which is so
of every channel of the JWT. -/
theorem channels_keep_their_names (ht : ofJwt jwt delay = .ok t)
    (hg : capability? jwt = some grants) (hplain : ∀ g ∈ grants, ¬ Prefixed g.1)
    (explicit : List String) :
    List.Forall₂ (Resubscribed grants) explicit (t.withChannels explicit).channels ∧
      (∀ subscribed ∈ t.channels, ¬ Prefixed (channelName subscribed)) ∧
      ∀ subscribed ∈ t.channels ++ (t.withChannels explicit).channels, Tracked subscribed := by
  refine ⟨withChannels_resubscribed ht hg hplain explicit, fun subscribed hs => ?_,
    fun subscribed _ => tracked subscribed⟩
  rw [channels_of_ofJwt ht hg] at hs
  obtain ⟨g, hmem, rfl⟩ := List.mem_map.mp hs
  rw [channelName_subscription (hplain g hmem)]
  exact hplain g hmem

/-! ### A token and its channels -/

/-- A JWT that grants a channel whose publishers are reported, and one whose are not. -/
def granting : String :=
  "h.eyJ4LWFibHktY2FwYWJpbGl0eSI6IntcInByaVwiOltcImNoYW5uZWwtbWV0YWRhdGE6cHVibGlzaGVyc1wiXSxc" ++
    "ImZsYWdzXCI6W119In0.s"

/-- What it grants. -/
def granted : List (String × List String) :=
  [("flags", []), ("pri", [publishersPermission])]

/-- Its token. -/
def ofGranting : Token where
  pushEnabled := true
  jwt := granting
  channels := ["flags", occupancyPrefix ++ "pri"]
  issuedAt := none
  expiresAt := none
  connectDelay := none

theorem granting_read :
    ofJwt granting none = .ok ofGranting ∧ capability? granting = some granted := by
  have hread : (ofJwt granting none).toOption = some ofGranting := by decide +kernel
  refine ⟨?_, by decide +kernel⟩
  cases h : ofJwt granting none with
  | error e => rw [h] at hread; cases hread
  | ok t => rw [h] at hread; exact congrArg Except.ok (Option.some.inj hread)

/-- The message that a channel has two publishers. -/
def twoPublishers : String :=
  "\x7b\"metrics\":\x7b\"publishers\":2\x7d\x7d"

/-- Its frame. -/
def reportFrame (channel : String) : Envelope :=
  ⟨channel, twoPublishers, 0⟩

/-- The event with this frame. -/
def reportOn (channel : String) : Event :=
  ⟨none, none, "\x7b\"channel\":\"" ++ channel ++
    "\",\"data\":\"\x7b\\\"metrics\\\":\x7b\\\"publishers\\\":2\x7d\x7d\"\x7d"⟩

theorem ofEvent?_reportOn {channel : String}
    (h : (reportOn channel).Frames (reportFrame channel)) :
    Notification.ofEvent? (reportOn channel) = some (.occupancy (channelName channel) 2 0) := by
  have hvalue : (Value.parseString? twoPublishers).bind Value.whole? =
      some (.object [("metrics", .object [("publishers", .int 2)])]) := by with_unfolding_all rfl
  exact (tracked channel).reported h (.inl rfl) hvalue rfl

theorem frames_once :
    (reportOn (occupancyPrefix ++ "control_pri")).Frames
      (reportFrame (occupancyPrefix ++ "control_pri")) :=
  ⟨by decide, by with_unfolding_all rfl⟩

/-- The granted channel and a control channel get the prefix, and the third stays. A report of the
control channel is the same with the prefix and without. -/
theorem granted_channels_keep_their_names :
    ofJwt granting none = .ok ofGranting ∧ capability? granting = some granted ∧
      (∀ g ∈ granted, ¬ Prefixed g.1) ∧
      (ofGranting.withChannels ["flags", "pri", "control_pri"]).channels =
        ["flags", occupancyPrefix ++ "pri", occupancyPrefix ++ "control_pri"] ∧
      List.Forall₂ (Resubscribed granted) ["flags", "pri", "control_pri"]
        (ofGranting.withChannels ["flags", "pri", "control_pri"]).channels ∧
      Notification.ofEvent? (reportOn (occupancyPrefix ++ "control_pri")) =
        some (.occupancy "control_pri" 2 0) ∧
      Notification.ofEvent? (reportOn "control_pri") = some (.occupancy "control_pri" 2 0) := by
  have hplain : ∀ g ∈ granted, ¬ Prefixed g.1 := by decide
  have hchannels : (ofGranting.withChannels ["flags", "pri", "control_pri"]).channels =
      ["flags", occupancyPrefix ++ "pri", occupancyPrefix ++ "control_pri"] := by decide +kernel
  obtain ⟨hlist, -, htracked⟩ := channels_keep_their_names granting_read.1 granting_read.2 hplain
    ["flags", "pri", "control_pri"]
  have hcontrol : Tracked (occupancyPrefix ++ "control_pri") :=
    htracked _ (List.mem_append_right _ (by rw [hchannels]; simp))
  have hbare : (reportOn "control_pri").Frames (reportFrame "control_pri") :=
    ⟨by decide, by with_unfolding_all rfl⟩
  have hreaches : (reportFrame "control_pri").Reaches (occupancyPrefix ++ "control_pri") := by
    refine .inr (.inr ⟨(channelName_append _).symm, ?_⟩)
    rw [channelName_append]
    decide
  have hread := ofEvent?_reportOn frames_once
  rw [channelName_append] at hread
  exact ⟨granting_read.1, granting_read.2, hplain, hchannels, hlist, hread,
    (hcontrol.same hbare hreaches frames_once (.inl rfl) rfl rfl).trans hread⟩

/-- A control channel with the prefix twice. -/
def twicePrefixed : String :=
  occupancyPrefix ++ (occupancyPrefix ++ "control_pri")

set_option maxRecDepth 1000 in
/-- A channel with the prefix twice stays as it is. One report of it is heard under two names, for
without the first prefix the wire's channel is taken for another one. -/
theorem twice_prefixed_has_two_names :
    ofJwt granting none = .ok ofGranting ∧ capability? granting = some granted ∧
      (∀ g ∈ granted, ¬ Prefixed g.1) ∧
      (ofGranting.withChannels [twicePrefixed]).channels = [twicePrefixed] ∧
      (reportOn twicePrefixed).Frames (reportFrame twicePrefixed) ∧
      (reportOn (channelName twicePrefixed)).Frames (reportFrame (channelName twicePrefixed)) ∧
      Notification.ofEvent? (reportOn twicePrefixed) =
        some (.occupancy (channelName twicePrefixed) 2 0) ∧
      Notification.ofEvent? (reportOn (channelName twicePrefixed)) =
        some (.occupancy "control_pri" 2 0) ∧
      (Availability.initial.connected.1.hear
        ([reportOn twicePrefixed, reportOn (channelName twicePrefixed)].filterMap
          Event.told?)).channels.keys = [channelName twicePrefixed, "control_pri"] ∧
      channelName twicePrefixed ≠ "control_pri" := by
  have hframes : (reportOn twicePrefixed).Frames (reportFrame twicePrefixed) :=
    ⟨by decide, by with_unfolding_all rfl⟩
  have hname : channelName twicePrefixed = occupancyPrefix ++ "control_pri" := channelName_append _
  have hframes' : (reportOn (channelName twicePrefixed)).Frames
      (reportFrame (channelName twicePrefixed)) := by
    rw [hname]
    exact frames_once
  have hread := ofEvent?_reportOn hframes
  have hread' := ofEvent?_reportOn hframes'
  rw [show channelName (channelName twicePrefixed) = "control_pri" by
    rw [hname, channelName_append]] at hread'
  refine ⟨granting_read.1, granting_read.2, by decide, by decide +kernel, hframes, hframes', hread,
    hread', ?_, by decide +kernel⟩
  simp only [List.filterMap_cons, List.filterMap_nil, Event.told?, hread, hread', Option.bind_some,
    Manager.message?]
  decide +kernel

end Token

end Halyard.Push
