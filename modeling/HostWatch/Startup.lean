import HostWatch.Config.Client
import HostWatch.Counter.Store
import HostWatch.Decision.Handler
import HostWatch.Prober
import HostWatch.Report.Lines

/-!
# From the start to the end of the process

The process opens the store of the shared configuration, listens for requests to it,
connects its own collaborators, seeds the threshold, subscribes the engine to the
bus and then reads reports, until it is told to stop. The first step that fails ends
it. What is outside of it, the files, the addresses and the network, is a parameter.
-/

namespace HostWatch

open Http

/-- Why the process did not get to reading reports. -/
inductive StartupError where
  /-- The shared configuration failed. -/
  | config (cause : ConfigError)
  /-- The counters failed. -/
  | counters (cause : CounterError)
  /-- Probes cannot be made as they are set. -/
  | prober
  /-- The bus refused the subscription. -/
  | events (cause : EventError)
  /-- Nothing can listen at the address of the service. -/
  | listening
  deriving DecidableEq, Repr

/-- The text of a failure, where it is this program's own. -/
def StartupError.message? : StartupError → Option String
  | .config cause => cause.message?.map ("config store: " ++ ·)
  | .counters cause => cause.message?.map ("counter cache: " ++ ·)
  | .events cause => cause.message?.map ("event bus: " ++ ·)
  | .prober => none
  | .listening => none

/-- What is outside of the process. -/
structure Surroundings where
  /-- The files, by their paths. -/
  files : String → SnapshotFile
  /-- Whether something can listen at an address. -/
  canListen : String → Bool
  /-- The network, behind which the store is served. -/
  network : Network ConfigStore
  /-- The present. -/
  now : Nat

/-- Open the store of the shared configuration. -/
def openConfigStore (files : String → SnapshotFile) (s : Settings) :
    Except ConfigError ConfigStore :=
  ConfigStore.openAt (s.configApi.persistencePath.map files)

/-- What the engine works with. -/
structure Capabilities where
  /-- The client of the shared configuration. -/
  client : ConfigClient
  /-- The prober. -/
  prober : Prober
  /-- The counters. -/
  counters : CounterStore
  deriving DecidableEq

/-- Connect the client, make the prober and open the counters, in this order. -/
def Capabilities.build (files : String → SnapshotFile) (now : Nat) (s : Settings) :
    Except StartupError Capabilities :=
  match ConfigClient.connect s.configApi.url with
  | .error e => .error (.config e)
  | .ok client =>
    match Prober.ofSettings? s.prober with
    | none => .error .prober
    | some prober =>
      match CounterStore.openAt now s.cache.name (s.cache.persistencePath.map files) with
      | .error e => .error (.counters e)
      | .ok counters => .ok { client, prober, counters }

/-! ### Running -/

/-- What changes while the process runs. -/
structure Holdings where
  /-- The store of the shared configuration. -/
  store : ConfigStore
  /-- The counters. -/
  counters : CounterStore
  deriving DecidableEq, Repr

namespace Holdings

/-- Ask the store for something. -/
def onStore {α : Type} (ask : ConfigStore → α × ConfigStore) (h : Holdings) : α × Holdings :=
  let (a, store) := ask h.store
  (a, { h with store })

/-- Ask the counters for something. -/
def onCounters {α : Type} (ask : CounterStore → α × CounterStore) (h : Holdings) : α × Holdings :=
  let (a, counters) := ask h.counters
  (a, { h with counters })

end Holdings

/-- The collaborators of the engine. -/
def Capabilities.collaborators (e : Surroundings) (c : Capabilities) : Collaborators Holdings :=
  let config := c.client.access e.network
  let counters := CounterStore.access e.now
  { config :=
      { get := fun key => Holdings.onStore (config.get key)
        set := fun key value => Holdings.onStore (config.set key value) }
    counters :=
      { get := fun host => Holdings.onCounters (counters.get host)
        set := fun host count life => Holdings.onCounters (counters.set host count life) }
    probe := fun origin => Holdings.onStore (c.prober.probe e.network origin) }

/-- How the process ended. -/
structure Ending where
  /-- Whether it got to reading reports. -/
  result : Except StartupError Unit
  /-- The file of the shared configuration. -/
  storeFile : Option SnapshotFile
  /-- The file of the counters. -/
  counterFile : Option SnapshotFile
  /-- What was measured. -/
  metrics : Metrics := []

/-- Read reports, and let some time pass before the process is told to stop. -/
def watch (e : Surroundings) (s : Settings) (c : Capabilities) (input : Bytes) (ms : Nat)
    (store : ConfigStore) : Except EventError (Timeline (World Holdings)) := do
  let idle : Timeline (World Holdings) :=
    { bus := { policy := .ofSettings s.events, concurrency := s.events.concurrency.toNat }
      state := ⟨⟨store, c.counters⟩, []⟩ }
  let subscribed ← idle.subscribe s.events.topic s.events.queue "engine"
  let publish (r : Report) (l : Timeline (World Holdings)) := l.publish s.events.topic r.encode
  let (_, published) := Report.ingest publish none input subscribed
  let handlers := Engine.handlers s.engine.promotionGuard (c.collaborators e)
  return (published.advance handlers ms).shutdown.advance handlers 0

/-- Run the process on an input, and end it after some time. -/
def run (e : Surroundings) (s : Settings) (input : Bytes) (ms : Nat) : Ending :=
  let storeFile := s.configApi.persistencePath.map e.files
  let counterFile := s.cache.persistencePath.map e.files
  let failed (error : StartupError) (storeFile : Option SnapshotFile) : Ending :=
    { result := .error error, storeFile, counterFile }
  match openConfigStore e.files s with
  | .error cause => failed (.config cause) storeFile
  | .ok store =>
    if !e.canListen s.configApi.bindAddress then failed .listening storeFile
    else
      match Capabilities.build e.files e.now s with
      | .error error => failed error storeFile
      | .ok c =>
        match (c.client.access e.network).seed s.defaults.blacklistThreshold store with
        | (.error cause, store) => failed (.config cause) store.file
        | (.ok _, store) =>
          match watch e s c input ms store with
          | .error cause => failed (.events cause) store.file
          | .ok l =>
            { result := .ok ()
              storeFile := l.state.state.store.file
              counterFile := l.state.state.counters.file
              metrics := l.allMetrics }

end HostWatch
