import PageLayers.CommandLine.Invocation
import PageLayers.Document.Directory
import PageLayers.Engine.Basic
import PageLayers.Render.Format
import PageLayers.Store.Directory
import PageLayers.Store.Publish

/-! Running the commands on files. -/

namespace PageLayers.CommandLine

/-- What a run prints and the code it ends with. -/
structure Output where
  exitCode : Nat
  text : String
  deriving DecidableEq

/-- A run that fails: the document or the request is at fault, or something else is. -/
inductive Failure where
  | rejected (shown : Json)
  | other (message : String)

namespace Output

/-- Results are printed on many lines. -/
def result (exitCode : Nat) (j : Json) : Output := ⟨exitCode, j.lines ++ "\n"⟩

def success (fields : List (String × Json)) : Output :=
  result 0 (Json.ofFields (("success", .bool true) :: fields))

/-- Failures are printed on one line. -/
def ofFailure : Failure → Output
  | .rejected shown => ⟨2, shown.text ++ "\n"⟩
  | .other message =>
    ⟨1, (Json.obj [("error", .str message), ("success", .bool false)]).text ++ "\n"⟩

end Output

namespace Failure

def ofReports (reports : List Diagnostic) : Failure :=
  rejected (.obj [("errors", .arr (reports.map Diagnostic.toJson)), ("valid", .bool false)])

def ofBatch (e : BatchError) : Failure :=
  rejected (.obj [("errors", .arr (e.reports.map Diagnostic.toJson)), ("path", .str e.path),
    ("valid", .bool false)])

def ofRegistry : RegistryError → Failure
  | .layerNotFound moduleName route =>
    rejected (.obj [("error", .str (RegistryError.layerNotFound moduleName route).message)])
  | e => other e.message

def ofEngine : EngineError → Failure
  | .registry e => ofRegistry e
  | .resolve e => rejected (.obj [("error", .str e.message)])

end Failure

/-- What a run takes from outside: the settings, the time, and ids that are not in use yet. -/
structure Surroundings where
  config : EngineConfig
  now : Timestamp
  freshId : Nat → String

/-- What a run asks for: files, that a store is there, and calls of a store. -/
inductive Request where
  | file (c : FileCall)
  | start (store : DirectoryStore)
  | store (store : DirectoryStore) (c : StoreCall)

namespace Request

def Reply : Request → Type
  | file c => c.Result
  | start _ => Except StoreError Unit
  | store _ c => Except StoreError c.Result

/-- Stores are kept in files. -/
def answer : (r : Request) → FileProgram r.Reply
  | file c => Program.ask (I := fileInterface) c
  | start s => s.start.run
  | store s c => s.answer c

end Request

def requestInterface : Interface := ⟨Request, Request.Reply⟩

abbrev Run := ExceptT Failure (Program requestInterface)

variable {α ε : Type}

def ask (r : Request) : Program requestInterface r.Reply := Program.ask (I := requestInterface) r

def onFiles (wrap : ε → Failure) (p : ExceptT ε FileProgram α) : Run α :=
  ExceptT.adapt wrap (ExceptT.mk (p.run.run fun c => ask (.file c)))

def check (wrap : ε → Failure) (r : Except ε α) : Run α := ExceptT.mk (pure (r.mapError wrap))

def loadDocument (path : String) : Run Node :=
  onFiles (fun e => .other e.message) (Document.load path)

def pageOf (n : Node) : Run Page := check .ofReports (Page.ofDocument n)

def onStore (wrap : ε → Failure) (store : DirectoryStore) (p : ExceptT ε StoreProgram α) : Run α :=
  ExceptT.adapt wrap (ExceptT.mk (p.run.run fun c => ask (.store store c)))

/-- The store of a run, that of the settings where none is named. -/
def openStore (s : Surroundings) (named : Option String) : Run DirectoryStore := do
  let store : DirectoryStore := ⟨named.getD s.config.storeRoot⟩
  ExceptT.adapt (fun e : StoreError => .other e.message) (ExceptT.mk (ask (.start store)))
  return store

/-- The page that is live under a key. -/
def livePage (key : LayerKey) : ExceptT StoreError StoreProgram (Option Page) := do
  let pointers : Pointers ← StoreCall.perform id .loadPointers
  let manifest : Manifest ← StoreCall.perform id .loadManifest
  match (pointers.get? key).bind manifest.get? with
  | none => return none
  | some e =>
    let a : Artifact ← StoreCall.perform id (.get e.artifactRef)
    return some a.page

/-- The blueprint that an overlay is compiled against: the one that is named, else the live one of
the store. -/
def basePage (args : DocumentArgs) (p : Page) (store : Option DirectoryStore) :
    Run (Option Page) := do
  if p.kind = .blueprint then return none
  match args.base, store with
  | some path, _ => return some (← pageOf (← loadDocument path))
  | none, none => return none
  | none, some store =>
    onStore (fun e => .other e.message) store (livePage (.blueprint p.moduleName p.route))

def validate (args : DocumentArgs) : Run Output := do
  let p ← pageOf (← loadDocument args.document)
  let base ← basePage args p none
  let v := p.validate (CompileContext.mk base [] none).rules
  return .result (if v.valid then 0 else 2) v.toJson

def compile (s : Surroundings) (args : DocumentArgs) : Run Output := do
  let p ← pageOf (← loadDocument args.document)
  let base ← basePage args p none
  let a ← check .ofReports (Artifact.compilePage p ⟨base, [], none⟩ s.now)
  return .success [("artifact", a.toJson)]

def publishFailure (e : PublishError) : Failure := .other e.message

def publish (s : Surroundings) (args : DocumentArgs) (named : Option String) : Run Output := do
  let store ← openStore s named
  let p ← pageOf (← loadDocument args.document)
  let base ← basePage args p store
  let prior ← onStore publishFailure store (Publishing.liveEntry p.layerKey)
  let ctx : CompileContext := ⟨base, [], prior.map ManifestEntry.release⟩
  let a ← check .ofReports (Artifact.compilePage p ctx s.now)
  let receipt ← onStore publishFailure store (Publishing.publish a (s.freshId 0) s.now)
  return .success [("receipt", receipt.toJson)]

def compiledJson (a : Artifact) : Json :=
  .obj [("checksum", .str a.checksum), ("layerKey", a.layerKey.toJson)]

def build (s : Surroundings) (dir : String) (named : Option String) : Run Output := do
  let documents ← onFiles (fun e => .other e.message) (Document.loadAll dir)
  let artifacts ← check .ofBatch (Artifact.compileSet documents s.now)
  match named with
  | none => return .success [("compiled", .arr (artifacts.map compiledJson))]
  | some _ => do
    let store ← openStore s named
    let receipts ← artifacts.zipIdx.mapM fun (a, i) =>
      onStore publishFailure store (Publishing.publish a (s.freshId i) s.now)
    return .success [("receipts", .arr (receipts.map Receipt.toJson))]

def layers (s : Surroundings) (args : RequestArgs) : Run Output := do
  let store ← openStore s args.store
  let snapshot ← onStore .ofRegistry store Snapshot.empty.refresh
  let found ← check .ofRegistry (snapshot.layersFor args.context)
  return .result 0 (.obj [("generation", .ofNat found.generation),
    ("layers", .arr (found.all.map fun l => l.entry.toJson))])

def openEngine (s : Surroundings) (named : Option String) : Run PageEngine := do
  let store ← openStore s named
  onStore .ofRegistry store (PageEngine.load s.config)

def resolve (s : Surroundings) (args : RequestArgs) : Run Output := do
  let engine ← openEngine s args.store
  let r ← check .ofEngine (engine.snapshot.resolve args.context)
  return .result 0 (.obj [("degraded", .bool r.degraded), ("generation", .ofNat r.generation),
    ("resolved", r.page.toJson)])

/-- Only static data can be rendered from the command line. -/
def render (s : Surroundings) (args : RequestArgs) (entitlements : OrderedSet String) :
    Run Output := do
  let engine ← openEngine s args.store
  let ask (source : DataSource) : Id Reply :=
    source.askWith fun request => (request.offlineReply : Id Reply)
  let viewer : Viewer := ⟨args.context.roles, entitlements⟩
  let model ← check .ofEngine (engine.render (m := Id) ask args.context viewer).1
  return .result 0 model.toJson

def run (s : Surroundings) : Command → Run Output
  | .validate args => validate args
  | .compile args => compile s args
  | .publish args store => publish s args store
  | .build dir store => build s dir store
  | .layers args => layers s args
  | .resolve args => resolve s args
  | .render args entitlements => render s args entitlements

/-- The settings of a file, or the default ones where it is missing or malformed. -/
def loadConfig (path : String) : FileProgram EngineConfig := do
  let text : Option String ← Program.ask (I := fileInterface) (.read path)
  return (text.bind EngineConfig.ofText?).getD .default

/-- Does what a command line asks for. -/
def execute (args : List String) (now : Timestamp) (freshId : Nat → String) : FileProgram Output :=
  match read args with
  | .misuse => return ⟨2, ""⟩
  | .print text => return ⟨0, text⟩
  | .run i => do
    let config ← loadConfig i.config
    let result : Except Failure Output ←
      (run ⟨config, now, freshId⟩ i.command).run.run Request.answer
    return match result with
      | .ok output => output
      | .error e => .ofFailure e

end PageLayers.CommandLine
