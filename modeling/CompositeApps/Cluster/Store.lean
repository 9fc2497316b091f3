import CompositeApps.Cluster.Call
import CompositeApps.Cluster.Cascade
import CompositeApps.Failure

/-!
A cluster as its API server keeps it: objects, and a counter from which every write takes a new
version. A write based on an old version is refused, an object with finalizers outlives its
deletion until they are gone, and objects go with their owner. A call that is refused changes
nothing; what a write stores is read back for its answer, which fails if that cannot be read.
-/

namespace CompositeApps

structure Cluster where
  objects : Objects := ∅
  /-- The last version that was given out. -/
  version : Nat := 0
  deriving DecidableEq, Inhabited

namespace ObjectMeta

/-- A write may go ahead if it is based on the stored version or on none. -/
def checkVersion (stored incoming : ObjectMeta) : Except StoreError Unit :=
  match incoming.resourceVersion with
  | none => .ok ()
  | some v =>
    if stored.resourceVersion = some v then .ok ()
    else .error (.conflict
      ("resourceVersion " ++ v ++ " is stale (current " ++ stored.resourceVersion.getD "" ++ ")"))

/-- An object that is being deleted goes once nobody holds it any more. -/
def isReleased (m : ObjectMeta) : Bool :=
  m.isTerminating && m.finalizerList.isEmpty

end ObjectMeta

namespace Cluster

def versionText (n : Nat) : String :=
  toString n

def uidText (n : Nat) : String :=
  "uid-" ++ toString n

/-- The time at which the deletion of an object with finalizers is said to have begun: the first
second of 2026. -/
def deletionTime : Timestamp := ⟨1767225600⟩

def get? (c : Cluster) (key : ObjectKey) : Option Resource :=
  c.objects[key]?

def put (c : Cluster) (r : Resource) : Cluster :=
  ⟨c.objects.insert r.key r, c.version + 1⟩

def stamped (version : Nat) (r : Resource) : Resource :=
  r.mapMetadata fun m => { m with resourceVersion := some (versionText version) }

def get (c : Cluster) (key : ObjectKey) : Reply :=
  .ofStored (c.get? key)

def expectRead (purpose : String) (r : Resource) : Aborting Resource :=
  r.reread.mapError fun e =>
    ⟨purpose ++ ": Error(" ++ Text.quoted e.message ++ ", line: 0, column: 0)"⟩

def object (c : Cluster) (key : ObjectKey) : Aborting (Option Resource) :=
  (c.get? key).mapM (expectRead "deserialize stored object")

/-- Stores an object whatever is there already; an object without a uid gets one. -/
def seed (c : Cluster) (r : Resource) : Aborting Resource × Cluster :=
  let n := c.version + 1
  let stored := (stamped n r).mapMetadata fun m => { m with uid := some (m.uid.getD (uidText n)) }
  (expectRead "deserialize seed" stored, c.put stored)

def create (c : Cluster) (r : Resource) : Except StoreError Resource × Cluster :=
  if r.key ∈ c.objects then
    (.error (.api 409 (r.kind.name ++ " " ++ r.key.name ++ " already exists")), c)
  else
    let n := c.version + 1
    let stored := (stamped n r).mapMetadata fun m => { m with uid := some (uidText n) }
    (stored.readBack, c.put stored)

/-- What a replace makes of a stored object. Its uid, times and status stay. -/
def replacement (stored incoming : Resource) (version : Nat) : Resource :=
  (incoming.withStatusOf stored).mapMetadata fun m =>
    { m with
      uid := stored.metadata.uid
      creationTimestamp := stored.metadata.creationTimestamp
      deletionTimestamp := stored.metadata.deletionTimestamp
      resourceVersion := some (versionText version) }

/-- Replaces an object; if that lets go of an object that is being deleted, it is removed. -/
def replace (c : Cluster) (r : Resource) : Except StoreError Resource × Cluster :=
  match c.objects[r.key]? with
  | none => (.error .notFound, c)
  | some stored =>
    match stored.metadata.checkVersion r.metadata with
    | .error e => (.error e, c)
    | .ok () =>
      let next := replacement stored r (c.version + 1)
      let written := c.put next
      (next.readBack,
        if next.metadata.isReleased then
          { written with objects := written.objects.remove r.key }
        else written)

def replaceStatus (c : Cluster) (r : Resource) : Except StoreError Resource × Cluster :=
  match c.objects[r.key]? with
  | none => (.error .notFound, c)
  | some stored =>
    match stored.metadata.checkVersion r.metadata with
    | .error e => (.error e, c)
    | .ok () =>
      let next := stamped (c.version + 1) (stored.withStatusOf r)
      (next.readBack, c.put next)

def delete (c : Cluster) (key : ObjectKey) : Cluster :=
  match c.objects[key]? with
  | none => c
  | some stored =>
    if stored.metadata.finalizerList.isEmpty then { c with objects := c.objects.remove key }
    else c.put ((stamped (c.version + 1) stored).mapMetadata fun m =>
      { m with deletionTimestamp := some deletionTime })

def perform (c : Cluster) : Call → Reply × Cluster
  | .get key => (c.get key, c)
  | .create r => (some <$> (c.create r).1, (c.create r).2)
  | .replace r => (some <$> (c.replace r).1, (c.replace r).2)
  | .replaceStatus r => (some <$> (c.replaceStatus r).1, (c.replaceStatus r).2)
  | .delete key => (.ok none, c.delete key)

def count (c : Cluster) (kind : Kind) : Nat :=
  (c.objects.keys.filter (·.kind = kind)).length

end Cluster

end CompositeApps
