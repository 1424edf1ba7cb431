import AlertLedger.Alert.Evidence

/-!
# The plan of a pass

A batch of detections is laid against the records in scope, key by key. What happens to a key
depends on three things only: the detection for it (`detection?`, all its alerts of the batch
joined into the first), the record that stands for it (`standing?`, the first with the key), and
whether joining the two changes anything.

* detected, no record: the detection is new;
* detected, and the record changes: the record is updated;
* detected, and it does not: the key is unchanged;
* a record, not detected: the record is stale.

Records with a key that an earlier record has already are superseded, and stale as well. Alerts
that report an attempted enforcement stand apart: each is new, whatever else has its key.
-/

namespace AlertLedger

/-- What a pass is going to do. -/
structure Plan where
  /-- Attempted alerts in the order of the batch, then new detections by key. -/
  new : List Alert
  /-- Records to be written over, by key. -/
  updated : List Alert
  /-- Records that are no longer detected by key, then superseded ones in the order given. -/
  stale : List Alert
  /-- Keys of records that are detected and stay as they are. -/
  unchanged : List Key
  deriving DecidableEq

namespace Plan

/-! ## 1. One key -/

/-- The alerts of a batch that report an attempted enforcement. -/
def attempted (batch : List Alert) : List Alert := batch.filter (·.status = .attempted)

/-- The alerts of a batch that report a finding. -/
def findings (batch : List Alert) : List Alert := batch.filter (·.status ≠ .attempted)

/-- The alerts with a key. -/
def withKey (k : Key) (as : List Alert) : List Alert := as.filter (·.key = k)

/-- Alerts of one key as one: each later alert is joined into the first. -/
def foldDetections : List Alert → Option Alert
  | [] => none
  | a :: rest => some (rest.foldl (fun kept later => later.absorb kept) a)

/-- The detection for a key in a batch. -/
def detection? (batch : List Alert) (k : Key) : Option Alert :=
  foldDetections (withKey k (findings batch))

/-- The record that stands for a key. -/
def standing? (records : List Alert) (k : Key) : Option Alert := records.find? (·.key = k)

theorem key_foldl_absorb (as : List Alert) (a : Alert) :
    (as.foldl (fun kept later => later.absorb kept) a).key = a.key := by
  induction as generalizing a with
  | nil => rfl
  | cons b bs ih => simp [ih]

theorem key_of_detection? {batch : List Alert} {k : Key} {a : Alert}
    (h : detection? batch k = some a) : a.key = k := by
  unfold detection? at h
  cases hw : withKey k (findings batch) with
  | nil => simp [hw, foldDetections] at h
  | cons b bs =>
    have hb : b ∈ withKey k (findings batch) := by simp [hw]
    rw [hw] at h
    simp only [foldDetections, Option.some.injEq] at h
    rw [← h, key_foldl_absorb]
    simpa [withKey] using (List.mem_filter.1 hb).2

/-! ## 2. All keys -/

/-- The keys of alerts, ascending. -/
def keys (as : List Alert) : List Key := Ascending.ofList (as.map (·.key))

/-- The records of a key that was seen before, in the order given. -/
def repeatedAfter (seen : List Key) : List Alert → List Alert
  | [] => []
  | a :: rest =>
    if a.key ∈ seen then a :: repeatedAfter seen rest else repeatedAfter (a.key :: seen) rest

/-- The records that come after an earlier record of their key. -/
def superseded (records : List Alert) : List Alert := repeatedAfter [] records

/-- What becomes of one detected key. -/
inductive Fate where
  | new (a : Alert)
  | updated (a : Alert)
  | unchanged
  deriving DecidableEq

/-- The fate of a detection beside the record that stands for its key, if there is one. -/
def Fate.of (detected : Alert) : Option Alert → Fate
  | none => .new detected
  | some stored =>
    match Alert.succeed stored detected with
    | none => .unchanged
    | some a => .updated a

/-- The fate of a key, if the batch has a detection for it. -/
def fate? (batch records : List Alert) (k : Key) : Option Fate :=
  (detection? batch k).map fun a => Fate.of a (standing? records k)

/-- The new alert of a key. -/
def new? (batch records : List Alert) (k : Key) : Option Alert :=
  match fate? batch records k with
  | some (.new a) => some a
  | _ => none

/-- The record of a key to be written over. -/
def updated? (batch records : List Alert) (k : Key) : Option Alert :=
  match fate? batch records k with
  | some (.updated a) => some a
  | _ => none

/-- Whether a key is detected and its record stays as it is. -/
def isUnchanged (batch records : List Alert) (k : Key) : Bool :=
  fate? batch records k = some .unchanged

/-- The record of a key that is no longer detected. -/
def stale? (batch records : List Alert) (k : Key) : Option Alert :=
  match detection? batch k with
  | none => standing? records k
  | some _ => none

/-- The plan for a batch beside the records in scope. -/
def of (batch records : List Alert) : Plan :=
  let detected := keys (findings batch)
  { new := attempted batch ++ detected.filterMap (new? batch records)
    updated := detected.filterMap (updated? batch records)
    stale := (keys records).filterMap (stale? batch records) ++ superseded records
    unchanged := detected.filter (isUnchanged batch records) }

/-- Whether a plan leaves the records as they are. -/
def isNoop (p : Plan) : Bool := p.new = [] && p.updated = [] && p.stale = []

end Plan

end AlertLedger
