import PageLayers.Engine.Basic
import PageLayers.Store.Backend

/-! An engine at work on a store, with a clock by which it refreshes itself. -/

namespace PageLayers

/-- Refreshes in equal steps of time; `next` is when the next is due. -/
structure Polling where
  every : Nat
  next : Nat
  deriving DecidableEq

structure Host where
  store : LayerStore
  engine : Option PageEngine
  now : Nat
  polling : Option Polling

namespace Host

def ofStore (store : LayerStore) : Host := ⟨store, none, 0, none⟩

/-- Runs a program on the store. -/
def run {ε α : Type} (h : Host) (p : ExceptT ε StoreProgram α) : Except ε α × Host :=
  let (r, store) := h.store.run p
  (r, { h with store })

/-- Starts an engine on what is published now; it does not refresh itself yet. -/
def openEngine (h : Host) (config : EngineConfig) : Except RegistryError Unit × Host :=
  match h.run (PageEngine.load config) with
  | (.ok e, h) => (.ok (), { h with engine := some e, polling := none })
  | (.error cause, h) => (.error cause, h)

/-- Gives an engine the next snapshot; a snapshot that cannot be loaded changes nothing. -/
def refresh (h : Host) (e : PageEngine) : Except RegistryError Snapshot × Host :=
  match h.run e.snapshot.refresh with
  | (.ok snapshot, h) => (.ok snapshot, { h with engine := some { e with snapshot } })
  | (.error cause, h) => (.error cause, h)

/-- Starts to refresh at the interval of the settings; whether there is one. -/
def startPolling (h : Host) (e : PageEngine) : Bool × Host :=
  match e.config.refreshMs? with
  | some every => (true, { h with polling := some ⟨every, h.now + every⟩ })
  | none => (false, h)

def stopPolling (h : Host) : Host := { h with polling := none }

/-- The refresh that is due up to a point in time, if one is. -/
def due? (h : Host) (time : Nat) : Option (Polling × PageEngine) :=
  match h.polling, h.engine with
  | some p, some e => if p.next ≤ time then some (p, e) else none
  | _, _ => none

/-- Goes on to a point in time; no more refreshes are due on the way than the fuel allows for. -/
def advance (time : Nat) : Nat → Host → Host
  | 0, h => { h with now := time }
  | fuel + 1, h =>
    match h.due? time with
    | some (p, e) =>
      let h := (h.refresh e).2
      advance time fuel { h with polling := some { p with next := p.next + p.every } }
    | none => { h with now := time }

/-- Lets some time pass. Refreshes lie at least one unit of time apart. -/
def pass (h : Host) (duration : Nat) : Host := advance (h.now + duration) (duration + 1) h

end Host

end PageLayers
