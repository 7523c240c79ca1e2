import ThinClient.Pool.Worker
import ThinClient.Rehearsal.Network
import ThinClient.Rehearsal.Session

/-!
# Pools in a scripted network

A run makes a pool and takes steps on it: callers, who are known by names, ask for connections,
use them and give them back, queries run on the pool itself, and connections are opened beside it.
After each step the worker of the pool does all it can before the step is told about: what it gave,
what the server got, which connections ended, what was reported, and which of the connections in
use are broken.
-/

namespace ThinClient.Rehearsal

/-! ## What is asked for -/

/-- A step of a run. -/
inductive PoolStep where
  /-- Asks for a connection, which the caller will hold or wait for. -/
  | acquire (caller : String)
  /-- Looks whether a caller who waits has a connection now. -/
  | look (caller : String)
  /-- Gives up waiting. -/
  | cancel (caller : String)
  /-- Gives a connection back. -/
  | release (caller : String)
  /-- Takes a step of a session on the connection that a caller holds. -/
  | use (caller : String) (action : Action)
  /-- Runs a query on a connection of the pool. -/
  | query (query : Except EncodeError Query) (fetch : Fetch) (shape : RowShape)
  /-- Opens a connection beside the pool, lets the server release something, defers another such
  close and closes the connection. -/
  | direct (config : Except Error Config) (resource : Int64)

/-! ## What is answered -/

/-- What a step gives. -/
inductive PoolOutcome where
  | acquired
  | pending
  /-- Whether there was something to give up or to give back. -/
  | found (found : Bool)
  | notWaiting
  | notHeld
  | result (result : Result)
  /-- What went wrong with the close, whether the connection was broken then, and what went wrong
  with the close of the connection. -/
  | direct (release : Option Error) (isBroken : Bool) (close : Option Error)

/-- What a server got. -/
inductive Sighting where
  /-- A handshake, without its length. -/
  | handshake (body : Bytes)
  | request (request : Request)

/-- What a step did. -/
structure PoolReport where
  outcome : PoolOutcome
  /-- What the server got, with the number of the connection. -/
  sent : List (Nat × Sighting)
  /-- How many connections the server has accepted. -/
  accepted : Nat
  /-- The connections that ended, on either side. -/
  ended : List Nat
  log : List LogEntry
  /-- The callers whose connections are broken. -/
  broken : List String

/-! ## The state of a run -/

/-- A pool in a network, with its callers. -/
structure PoolScene where
  network : Network
  /-- How the pool opens connections. -/
  config : Config
  pool : Pool Error Lease
  /-- How many connections were opened beside the pool. -/
  directs : Nat := 0
  journal : Journal := {}
  /-- The servers at the other ends of all connections so far, by number. -/
  servers : List ScriptedPeer := []
  /-- The connections that ended on the side of the client. -/
  dropped : List Nat := []
  /-- The tickets of those who wait, and of those who hold a connection. -/
  waiting : List (String × Nat) := []
  held : List (String × Nat) := []

namespace PoolScene

/-- A network with a pool that has not opened anything. -/
def start (network : Network) (config : PoolConfig) : PoolScene where
  network
  config := config.connection
  pool := { limit := config.limit }

/-- The scene with what is known of the server of a connection. -/
def seen (s : PoolScene) (lease : Lease) : PoolScene :=
  { s with servers := s.servers.set lease.number lease.server }

/-- The scene with the server of one more accepted connection. -/
def accepted (s : PoolScene) (dial : Dial) : PoolScene :=
  match dial.server with
  | none => s
  | some server =>
    let dropped := match dial.result with
      | some (.error _) => [s.servers.length]
      | _ => []
    { s with servers := s.servers ++ [server], dropped := s.dropped ++ dropped }

/-- The scene after something that the worker of the pool told. -/
def noticed (s : PoolScene) : Notice Error Lease → PoolScene
  | .connectFailed e => { s with journal := s.journal.add (.connectFailed e) }
  | .discarded lease =>
    { s with
      journal := lease.connection.dropped s.journal, dropped := s.dropped ++ [lease.number] }.seen
      lease

/-- How the attempt of the pool with this number goes, where the first one has the number 1. -/
def dial (s : PoolScene) (attempt : Nat) : Dial :=
  s.network.dial s.config (s.directs + attempt - 1)

/-- The scene after the worker has done all it can. -/
def settled (s : PoolScene) : PoolScene :=
  let pool := s.pool.wake.poll fun attempt => (s.dial attempt).result
  let attempts := (List.range' (s.pool.attempts + 1) (pool.attempts - s.pool.attempts)).map s.dial
  let s := attempts.foldl accepted { s with pool := { pool with notices := [] } }
  let s := pool.notices.foldl noticed s
  (pool.idle ++ pool.tickets.filterMap (·.connection?)).foldl seen s

/-- Whether a connection has ended. -/
def hasEnded (s : PoolScene) (number : Nat) : Bool :=
  s.dropped.contains number || (s.servers[number]?).any (·.hasEnded)

/-- The connection that a caller holds, with the ticket. -/
def heldBy (s : PoolScene) (caller : String) : Option (Nat × Lease) := do
  let n ← s.held.lookup caller
  match s.pool.ticket n with
  | .holding lease => some (n, lease)
  | _ => none

/-- The scene without what a caller waited for or held. -/
def forget (s : PoolScene) (caller : String) : PoolScene :=
  { s with
    waiting := s.waiting.filter (·.1 ≠ caller), held := s.held.filter (·.1 ≠ caller) }

/-- Asks for a connection and lets the worker do what it can. -/
def ask (s : PoolScene) : Nat × PoolScene :=
  let (n, pool) := s.pool.enter
  (n, { s with pool := (pool.inquire n).2 }.settled)

/-- Looks what has come of a ticket. -/
def look (s : PoolScene) (n : Nat) : Inquiry Error Lease × PoolScene :=
  let (found, pool) := s.pool.inquire n
  (found, { s with pool })

/-- Gives a ticket up and lets the worker do what it can. -/
def giveUp (s : PoolScene) (n : Nat) : PoolScene :=
  { s with pool := s.pool.cancel n }.settled

/-- Gives a connection back and lets the worker do what it can. -/
def giveBack (s : PoolScene) (n : Nat) : PoolScene :=
  { s with pool := s.pool.giveBack n }.settled

/-- Takes a step of a session on a connection that is held at a ticket. -/
def perform (s : PoolScene) (n : Nat) (lease : Lease) (action : Action) : Result × PoolScene :=
  let client := patient ⟨lease.connection, s.journal⟩ defaultPatience
  let (result, _, after) := action.perform client
  let lease := { lease with connection := after.connection }
  (result, { s with pool := s.pool.use n fun _ => lease, journal := after.journal }.settled)

end PoolScene

/-! ## Steps -/

/-- Asks for a connection under the name of a caller. What the name stood for before is dropped. -/
def acquireAs (s : PoolScene) (caller : String) : PoolOutcome × PoolScene :=
  let (n, s) := s.ask
  match s.look n with
  | (.refused e, s) => (.result (.single (.failed e)), s)
  | (.granted _, s) =>
    let s := (s.held.lookup caller).elim s s.giveBack
    (.acquired, { s with held := s.held.filter (·.1 ≠ caller) ++ [(caller, n)] })
  | (.pending, s) =>
    let s := (s.waiting.lookup caller).elim s s.giveUp
    (.pending, { s with waiting := s.waiting.filter (·.1 ≠ caller) ++ [(caller, n)] })

/-- Looks whether a caller who waits has a connection now. -/
def lookAs (s : PoolScene) (caller : String) : PoolOutcome × PoolScene :=
  match s.waiting.lookup caller with
  | none => (.notWaiting, s)
  | some n =>
    match s.look n with
    | (.pending, s) => (.pending, s)
    | (.refused e, s) =>
      (.result (.single (.failed e)),
        { s with waiting := s.waiting.filter (·.1 ≠ caller) })
    | (.granted _, s) =>
      let s := (s.held.lookup caller).elim s s.giveBack
      (.acquired, { s.forget caller with
        held := s.held.filter (·.1 ≠ caller) ++ [(caller, n)] })

/-- Runs a query on a connection of the pool. -/
def queryPool (s : PoolScene) (action : Action) : Result × PoolScene :=
  let (n, s) := s.ask
  match s.look n with
  | (.refused e, s) => (.single (.failed e), s)
  | (.pending, s) => (.single .cancelled, s.giveUp n)
  | (.granted lease, s) =>
    let (result, s) := s.perform n lease action
    (result, s.giveBack n)

/-- The error of a call, if it failed; nothing at all if it was given up. -/
def failure? {α : Type} : EStateM.Result (Stop Error) (Client ScriptedPeer) α →
    Option (Option Error)
  | .ok .. => some none
  | .error (.failed e) _ => some (some e)
  | .error .cancelled _ => none

/-- The client after a call. -/
def clientAfter {α : Type} : EStateM.Result (Stop Error) (Client ScriptedPeer) α →
    Client ScriptedPeer
  | .ok _ client | .error _ client => client

/-- Lets the server release something, defers another such close and closes the connection. -/
def useDirectly (resource : Int64) (client : Client ScriptedPeer) :
    PoolOutcome × Client ScriptedPeer :=
  let released := Connection.closeResource resource client
  match failure? released with
  | none => (.result (.single .cancelled), clientAfter released)
  | some release =>
    let client := clientAfter (Connection.deferClose resource (clientAfter released))
    let closed := Connection.close client
    match failure? closed with
    | none => (.result (.single .cancelled), clientAfter closed)
    | some close => (.direct release client.connection.isBroken close, clientAfter closed)

/-- Opens a connection beside the pool and uses it. -/
def openDirectly (s : PoolScene) (config : Config) (resource : Int64) :
    PoolOutcome × PoolScene :=
  let number := s.servers.length
  let dial := s.network.dial config number
  let s := { s.accepted dial with directs := s.directs + 1 }
  match dial.result with
  | some (.error e) => (.result (.single (.failed e)), s)
  | none => (.result (.single .cancelled), { s with dropped := s.dropped ++ [number] })
  | some (.ok lease) =>
    let (outcome, client) := useDirectly resource ⟨lease.connection, s.journal⟩
    let s := s.seen ⟨number, client.connection⟩
    (outcome, { s with
      journal := client.connection.dropped client.journal, dropped := s.dropped ++ [number] })

/-- Takes a step. -/
def PoolStep.perform (s : PoolScene) : PoolStep → PoolOutcome × PoolScene
  | acquire caller => acquireAs s caller
  | look caller => lookAs s caller
  | cancel caller =>
    match s.waiting.lookup caller with
    | none => (.found false, s)
    | some n =>
      (.found true, { s with waiting := s.waiting.filter (·.1 ≠ caller) }.giveUp n)
  | release caller =>
    match s.held.lookup caller with
    | none => (.found false, s)
    | some n => (.found true, { s with held := s.held.filter (·.1 ≠ caller) }.giveBack n)
  | use caller action =>
    match s.heldBy caller with
    | none => (.notHeld, s)
    | some (n, lease) =>
      let (result, s) := s.perform n lease action
      (.result result, s)
  | query (.error e) _ _ => (.result (.single (.failed e)), s)
  | query (.ok q) fetch shape =>
    let (result, s) := queryPool s (.query (.ok q) fetch shape)
    (.result result, s)
  | direct (.error e) _ => (.result (.single (.failed e)), s)
  | direct (.ok config) resource => openDirectly s config resource

/-- What a server got between two moments. -/
def sightings (before : Option ScriptedPeer) (after : ScriptedPeer) : List Sighting :=
  let handshake :=
    match before.bind (·.handshake), after.handshake with
    | none, some frame => [Sighting.handshake (frame.drop Frame.lengthWidth)]
    | _, _ => []
  let known := (before.map (·.requests.length)).getD 0
  handshake ++ (after.requests.drop known).map .request

/-- Tells about what happened between two moments. -/
def PoolReport.between (before after : PoolScene) (outcome : PoolOutcome) : PoolReport where
  outcome
  sent := after.servers.zipIdx.flatMap fun (server, n) =>
    (sightings before.servers[n]? server).map (n, ·)
  accepted := after.servers.length
  ended := (List.range after.servers.length).filter fun n =>
    after.hasEnded n && !before.hasEnded n
  log := after.journal.entries.drop before.journal.entries.length
  broken := ((after.held.map (·.1)).filter fun caller =>
    (after.heldBy caller).any (·.2.connection.isBroken)).mergeSort

/-- Takes steps one after the other and tells about them. -/
def runPoolSteps (s : PoolScene) : List PoolStep → List PoolReport
  | [] => []
  | step :: rest =>
    let (outcome, after) := step.perform s
    .between s after outcome :: runPoolSteps after rest

/-- How a pool is made: one made eagerly opens a connection first. -/
def makePool (s : PoolScene) (isEager : Bool) : Outcome × PoolScene :=
  if isEager then
    let (n, s) := s.ask
    match s.look n with
    | (.refused e, s) => (.failed e, s)
    | (.pending, s) => (.cancelled, s)
    | (.granted _, s) => (.ok .nothing, s.giveBack n)
  else (.ok .nothing, s)

/-- Makes a pool and takes steps on it. Nothing follows if there is no pool. -/
def runPool (network : Network) (config : Except Error PoolConfig) (isEager : Bool)
    (steps : List PoolStep) : List PoolReport :=
  match config with
  | .error e => [⟨.result (.single (.failed e)), [], 0, [], [], []⟩]
  | .ok config =>
    let start := PoolScene.start network config
    let (outcome, s) := makePool start isEager
    let making := PoolReport.between start s (.result (.single outcome))
    match outcome with
    | .ok _ => making :: runPoolSteps s steps
    | _ => [making]

end ThinClient.Rehearsal
