import PageLayers.Store.Call
import PageLayers.Version.Basic

/-! Publishing: the artifact is stored first, then recorded, and the pointer moves last, so that a
failure on the way leaves every pointer where it was. -/

namespace PageLayers

inductive PublishError where
  | checksumMismatch (key : LayerKey) (recorded computed : String)
  | versionRegression (key : LayerKey) (live publishing : String)
  | invalidVersion (text : String) (cause : VersionError)
  | store (cause : StoreError)
  deriving DecidableEq

def PublishError.message : PublishError → String
  | checksumMismatch key recorded computed =>
    s!"Checksum mismatch for {key.text}: recorded {recorded}, computed {computed}"
  | versionRegression key live publishing =>
    s!"Version regression for {key.text}: live {live}, publishing {publishing}"
  | invalidVersion text cause => s!"Invalid version `{text}`: {cause.message}"
  | store cause => s!"Store error: {cause.message}"

/-- A publish of what is live already leaves all unchanged. -/
inductive PublishOutcome where
  | published
  | unchanged
  deriving DecidableEq

/-- The entry that is live now, and the id of the one that was live before. -/
structure Receipt where
  outcome : PublishOutcome
  entry : ManifestEntry
  previous : Option String
  deriving DecidableEq

def PublishOutcome.text : PublishOutcome → String
  | published => "published"
  | unchanged => "unchanged"

def Receipt.toJson (r : Receipt) : Json :=
  .obj [("entry", r.entry.toJson), ("outcome", .str r.outcome.text),
    ("previous", (r.previous.map Json.str).getD .null)]

/-- Publishing as a program on a store. -/
abbrev Publishing := ExceptT PublishError StoreProgram

namespace Publishing

def perform (c : StoreCall) : Publishing c.Result := c.perform .store

def version (text : String) : Except PublishError Version :=
  (Version.parse text).mapError (.invalidVersion text)

/-- A version that comes before the live one is refused. -/
def checkVersion (key : LayerKey) (live publishing : String) : Except PublishError Unit := do
  let liveVersion ← version live
  let newVersion ← version publishing
  if newVersion.lessThan liveVersion then throw (.versionRegression key live publishing)

/-- The live entry of a key, if it has one. -/
def liveEntry (key : LayerKey) : Publishing (Option ManifestEntry) := do
  let pointers : Pointers ← perform .loadPointers
  match pointers.get? key with
  | none => return none
  | some id =>
    let manifest : Manifest ← perform .loadManifest
    return manifest.get? id

/-- Stores an artifact unless it is there. -/
def store (a : Artifact) : Publishing Unit := do
  let stored : Bool ← perform (.contains a.checksum)
  if !stored then perform (.put a)

/-- The entry that records an artifact under its key, made where the manifest has none. -/
def record (manifest : Manifest) (a : Artifact) (id : String) (now : Timestamp) :
    Publishing ManifestEntry :=
  match manifest.find? a.layerKey a.checksum with
  | some e => return e
  | none => do
    let e := ManifestEntry.ofArtifact a id now
    perform (.append e)
    return e

/-- Stores and records an artifact and makes its entry the live one. -/
def goLive (manifest : Manifest) (previous : Option String) (a : Artifact) (id : String)
    (now : Timestamp) : Publishing Receipt := do
  store a
  let e ← record manifest a id now
  let _ : Option String ← perform (.swap a.layerKey e.id)
  return ⟨.published, e, previous⟩

/-- Publishes an artifact; `id` is that of the entry if a new one is made. -/
def publish (a : Artifact) (id : String) (now : Timestamp) : Publishing Receipt := do
  let computed := a.page.checksum
  if computed ≠ a.checksum then throw (.checksumMismatch a.layerKey a.checksum computed)
  let manifest : Manifest ← perform .loadManifest
  let pointers : Pointers ← perform .loadPointers
  let previous := pointers.get? a.layerKey
  match previous.bind manifest.get? with
  | none => goLive manifest previous a id now
  | some live =>
    let stored : Bool ←
      if live.checksum = a.checksum then perform (.contains a.checksum) else pure false
    if stored then return ⟨.unchanged, live, previous⟩
    else do
      checkVersion a.layerKey live.contentVersion a.contentVersion
      goLive manifest previous a id now

end Publishing

end PageLayers
