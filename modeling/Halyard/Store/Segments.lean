/-
# The store of segments

The keys of each segment and the watermark of each segment. A segment appears
when something is first offered for it, also if the offer is then refused.

Key definitions: `Segment`, `SegmentStore`, `SegmentStore.contains?`,
`SegmentStore.applyDelta`.
-/
import Halyard.Changes
import Halyard.Fetch.Error

namespace Halyard

/-- The keys of a segment, complete up to the watermark. -/
structure Segment where
  members : Names
  watermark : ChangeNumber

/-- Segments by name. -/
structure SegmentStore where
  segments : Dict Segment
  frozen : Bool

namespace SegmentStore

/-- The store without segments. -/
def empty : SegmentStore := ⟨Dict.empty, false⟩

instance : Inhabited SegmentStore := ⟨empty⟩

/-- A segment that was never fetched. -/
def unknown : Segment := ⟨Names.empty, unsynced⟩

/-- The segment of the given name, or an unknown one. -/
def get (s : SegmentStore) (name : String) : Segment :=
  (s.segments.get? name).getD unknown

/-- Whether `key` belongs to the segment; `none` if nothing was ever offered for it. -/
def contains? (s : SegmentStore) (name key : String) : Option Bool :=
  (s.segments.get? name).map fun seg => seg.members.contains key

/-- The watermark of a segment. -/
def watermark (s : SegmentStore) (name : String) : ChangeNumber :=
  (s.get name).watermark

/-- The number of keys in a segment. -/
def memberCount (s : SegmentStore) (name : String) : Nat :=
  (s.get name).members.size

/-- Sets the content of a segment. -/
def set (s : SegmentStore) (name : String) (seg : Segment) : SegmentStore :=
  { s with segments := s.segments.insert name seg }

/-- Refuses a write to a frozen store. -/
def writable (s : SegmentStore) : Except SyncError Unit :=
  if s.frozen then .error .frozen else .ok ()

/-- Moves the watermark of a segment. -/
def setWatermark (s : SegmentStore) (name : String) (n : ChangeNumber) :
    Except SyncError SegmentStore := do
  s.writable
  return s.set name { s.get name with watermark := n }

/-- Refuses every write from now on. -/
def freeze (s : SegmentStore) : SegmentStore :=
  { s with frozen := true }

/-- The segment after the keys of a delta left and joined. A key that does both is in. -/
def Segment.advance (seg : Segment) (c : SegmentChanges) : Segment where
  members := c.added.foldl Names.add (c.removed.foldl Dict.erase seg.members)
  watermark := c.till

/-- Whether applying the changes may alter anything. -/
def effective (c : SegmentChanges) : Bool :=
  c.till != c.since || !c.added.isEmpty || !c.removed.isEmpty

/-- Applies a delta and tells whether it may have altered anything. It has to start
at the segment's watermark and must not lead back. -/
def applyDelta (s : SegmentStore) (c : SegmentChanges) : SegmentStore × Except SyncError Bool :=
  if s.frozen then (s, .error .frozen)
  else
    let seg := s.get c.name
    let s := s.set c.name seg
    if c.since ≠ seg.watermark then (s, .error (.gap seg.watermark c.since))
    else if c.till < c.since then
      (s, .error (.malformedPayload ("segment " ++ c.name ++ ": till " ++ toString c.till ++
        " is behind since " ++ toString c.since)))
    else (s.set c.name (Segment.advance seg c), .ok (effective c))

end SegmentStore

end Halyard
