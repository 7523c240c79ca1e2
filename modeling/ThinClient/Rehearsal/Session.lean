import ThinClient.Query.Basic
import ThinClient.Rehearsal.Peer

/-!
# Sessions against a scripted server

A session opens one connection and takes steps on it: single requests, whole queries, or the use of
one cursor row by row. Each step tells what it gave, what the server got during it, what was
reported, and in which state it left the connection. A step is given up after a time of its own.
-/

namespace ThinClient.Rehearsal

/-! ## What is asked for -/

/-- A piece of the payload of a request. A value that cannot be built is a failure to put it. -/
inductive Put where
  | byte (value : UInt8)
  | bool (value : Bool)
  | short (value : Int16)
  | int (value : Int32)
  | long (value : Int64)
  | text (value : Option String)
  | value (value : Except EncodeError WireValue)

/-- The request with a piece at the end of its payload. -/
def Put.apply (request : Request) : Put → Except EncodeError Request
  | byte v => return request.putWord v
  | bool v => return request.putBool v
  | short v => return request.putWord v
  | int v => return request.putWord v
  | long v => return request.putWord v
  | text v => request.putText v
  | value v => do request.putValue (← v)

/-- What a row is read as. -/
inductive RowShape where
  | row
  | values
  | ignored
  | tuple (types : List ColumnType)

/-- What a row was read as. -/
inductive RowData where
  | row (row : Row)
  | values (values : List WireValue)
  | ignored

/-- Reads a row. -/
def RowShape.read (row : Row) : RowShape → Except DecodeError RowData
  | .row => .ok (.row row)
  | values => .ok (.values row.values)
  | ignored => .ok .ignored
  | tuple types => (row.decode types).map fun cells => .values (Cells.write types cells)

/-- How the rows of a query are fetched. -/
inductive Fetch where
  | all
  | one
  | first?

/-- A question about a row. -/
inductive RowQuestion where
  | get (column : ColumnRef)
  | tryGet (column : ColumnRef) (type : ColumnType)
  | decode (shape : RowShape)
  | size
  | values
  | describe

/-- A step on a cursor. -/
inductive CursorAction where
  | next (questions : Option (List RowQuestion))
  | close
  | describe
  | drop
  | fetch (fetch : Fetch) (shape : RowShape)

/-- A step on a cursor and how many milliseconds the caller waits for it. -/
structure CursorStep where
  action : CursorAction
  patience : Nat := defaultPatience

/-- A step of a session. A query whose arguments cannot be built fails before it starts. -/
inductive Action where
  | request (op : Operation) (puts : List Put)
  | nextId
  | deferClose (resource : Int64)
  | closePending
  | closeResource (resource : Int64)
  | close
  | drop
  | query (query : Except EncodeError Query) (fetch : Fetch) (shape : RowShape)
  | cursor (query : Except EncodeError Query) (steps : List CursorStep)

/-- A step of a session and how many milliseconds the caller waits for it. -/
structure Step where
  action : Action
  patience : Nat := defaultPatience

/-! ## What is answered -/

/-- The answer to a question about a row. -/
inductive RowAnswer where
  | value (value : WireValue)
  | row (data : RowData)
  | size (count : Nat)
  | values (values : List WireValue)
  | text (text : String)
  | failed (error : DecodeError)

/-- What a step gives. -/
inductive Datum where
  | nothing
  | absent
  | id (id : Int64)
  | response (response : Response)
  | row (data : RowData)
  | rows (rows : List RowData)
  | opened (id : Int64) (names : List String)
  | answered (row : Row) (answers : List RowAnswer)
  | text (text : String)

/-- How a step ends. -/
inductive Outcome where
  | ok (datum : Datum)
  | failed (error : Error)
  | cancelled
  | noConnection
  | noCursor

/-- What a step on a cursor did. -/
structure CursorReport where
  outcome : Outcome
  state : Option CursorState
  sent : List Request
  log : List LogEntry

/-- How a step of a session ends: with one outcome, or with one for each step on a cursor. -/
inductive Result where
  | single (outcome : Outcome)
  | nested (reports : List CursorReport)

/-- What a step of a session did. -/
structure Report where
  result : Result
  sent : List Request
  log : List LogEntry
  leaked : Nat
  phase : Option Phase
  pendingClose : List Int64

/-! ## Questions about rows -/

/-- A value, or why there is none. -/
def RowAnswer.ofExcept {α : Type} (ok : α → RowAnswer) : Except DecodeError α → RowAnswer
  | .ok a => ok a
  | .error e => .failed e

/-- Answers a question about a row. -/
def RowQuestion.answer (row : Row) : RowQuestion → RowAnswer
  | get column => .ofExcept .value (row.get column)
  | tryGet column type => .ofExcept (fun a => .value (type.write a)) (row.tryGet column type)
  | decode shape => .ofExcept .row (shape.read row)
  | size => .size row.values.length
  | values => .values row.values
  | describe => .text row.describe

/-! ## Calls -/

/-- How many turns a caller waits for a row: more than a script can make a cursor take. -/
def manyTurns : Nat := 1 <<< 62

/-- Fetches rows of a cursor, which is used up. -/
def Fetch.run (cursor : Cursor) (shape : RowShape) : Fetch → Call ScriptedPeer Datum
  | all => do
    return .rows (← Cursor.consume (Cursor.fetchAll shape.read manyTurns) cursor)
  | one => do
    return .row (← Cursor.consume (Cursor.fetchOne shape.read manyTurns) cursor)
  | first? => do
    match ← Cursor.consume (Cursor.fetchFirst? shape.read manyTurns) cursor with
    | some data => return .row data
    | none => return .absent

/-- How a call ends, and the client after it. -/
def settle : EStateM.Result (Stop Error) (Client ScriptedPeer) Datum →
    Outcome × Client ScriptedPeer
  | .ok datum client => (.ok datum, client)
  | .error (.failed e) client => (.failed e, client)
  | .error .cancelled client => (.cancelled, client)

/-- The client while its caller waits for so many milliseconds. -/
def patient (client : Client ScriptedPeer) (milliseconds : Nat) : Client ScriptedPeer :=
  let c := client.connection
  client.withConnection
    { c with stream := { c.stream with peer := c.stream.peer.patientFor milliseconds } }

/-- The server of a client. -/
def serverOf (client : Client ScriptedPeer) : ScriptedPeer :=
  client.connection.stream.peer

/-- Starts a request, puts its payload together and sends it. -/
def sendRequest (op : Operation) (puts : List Put) : Call ScriptedPeer Datum := do
  let request ← Connection.beginRequest op
  match puts.foldlM Put.apply request with
  | .error e => fail e
  | .ok request => return .response (← Connection.sendAndReceive request)

/-! ## Steps on a cursor -/

/-- A cursor, if there is one, with its client. -/
abbrev Desk := Option Cursor × Client ScriptedPeer

/-- What a row gives, with the answers to questions about it if there are any. -/
def rowDatum (questions : Option (List RowQuestion)) (row : Row) : Datum :=
  match questions with
  | some qs => .answered row (qs.map (·.answer row))
  | none => .row (.row row)

/-- Takes a step on a cursor. -/
def CursorAction.run (cursor : Cursor) (client : Client ScriptedPeer) :
    CursorAction → Outcome × Desk
  | next questions =>
    match Cursor.nextRow manyTurns ⟨cursor, client⟩ with
    | .ok (some row) s => (.ok (rowDatum questions row), some s.cursor, s.client)
    | .ok none s => (.ok .absent, some s.cursor, s.client)
    | .error (.failed e) s => (.failed e, some s.cursor, s.client)
    | .error .cancelled s => (.cancelled, some s.cursor, s.client)
  | close =>
    match Cursor.close ⟨cursor, client⟩ with
    | .ok () s => (.ok .nothing, some s.cursor, s.client)
    | .error (.failed e) s => (.failed e, some s.cursor, s.client)
    | .error .cancelled s => (.cancelled, some s.cursor, s.client)
  | describe => (.ok (.text cursor.describe), some cursor, client)
  | drop => (.ok .nothing, none, cursor.drop client)
  | fetch how shape =>
    let (outcome, client) := settle (how.run cursor shape client)
    (outcome, none, client)

/-- What was sent and reported between two moments of a client. -/
def during (before after : Client ScriptedPeer) : List Request × List LogEntry :=
  ((serverOf after).requests.drop (serverOf before).requests.length,
    after.journal.entries.drop before.journal.entries.length)

/-- Takes a step on a cursor, if there is one, and tells about it. -/
def CursorStep.run (step : CursorStep) : Desk → CursorReport × Desk
  | (none, client) => (⟨.noCursor, none, [], []⟩, none, client)
  | (some cursor, client) =>
    let client := patient client step.patience
    let (outcome, cursor, after) := step.action.run cursor client
    let (sent, log) := during client after
    (⟨outcome, cursor.map (·.state), sent, log⟩, cursor, after)

/-- Takes steps on a cursor one after the other. -/
def runCursorSteps (desk : Desk) : List CursorStep → List CursorReport × Desk
  | [] => ([], desk)
  | step :: rest =>
    let (report, desk) := step.run desk
    let (reports, desk) := runCursorSteps desk rest
    (report :: reports, desk)

/-- Opens a cursor for a query, if there is one. -/
def openDesk (query : Except EncodeError Query) (client : Client ScriptedPeer) : Outcome × Desk :=
  match query with
  | .error e => (.failed e, none, client)
  | .ok query =>
    match query.openCursor client with
    | .ok cursor after => (.ok (.opened cursor.id cursor.columns.names), some cursor, after)
    | .error (.failed e) after => (.failed e, none, after)
    | .error .cancelled after => (.cancelled, none, after)

/-- Opens a cursor, takes steps on it and drops it. The reports start with the opening; the second
client is the one before the cursor is dropped. -/
def useCursor (query : Except EncodeError Query) (steps : List CursorStep)
    (client : Client ScriptedPeer) :
    List CursorReport × Client ScriptedPeer × Client ScriptedPeer :=
  let (outcome, desk) := openDesk query client
  let (sent, log) := during client desk.2
  let opening : CursorReport := ⟨outcome, desk.1.map (·.state), sent, log⟩
  let (reports, desk) := runCursorSteps desk steps
  let last :=
    match desk.1 with
    | some cursor => cursor.drop desk.2
    | none => desk.2
  (opening :: reports, desk.2, last)

/-! ## Steps of a session -/

/-- A connection, or what is left of it: its server and the journal. -/
inductive Stage where
  | connected (client : Client ScriptedPeer)
  | ended (server : ScriptedPeer) (journal : Journal)

namespace Stage

/-- The server of a session. -/
def server : Stage → ScriptedPeer
  | connected client => serverOf client
  | ended server _ => server

/-- The journal of a session. -/
def journal : Stage → Journal
  | connected client => client.journal
  | ended _ journal => journal

/-- The session after its connection is dropped. -/
def dropped : Stage → Stage
  | connected client => .ended (serverOf client) (client.connection.dropped client.journal)
  | ended server journal => .ended server journal

end Stage

/-- Takes a step that leaves the connection there, and gives the client from which on what the step
sent and reported counts as its own. -/
def Action.perform (client : Client ScriptedPeer) :
    Action → Result × Client ScriptedPeer × Client ScriptedPeer
  | cursor q steps =>
    let (reports, before, after) := useCursor q steps client
    (.nested reports, before, after)
  | action =>
    let call : Call ScriptedPeer Datum :=
      match action with
      | .request op puts => sendRequest op puts
      | .nextId => return .id (← Connection.nextId)
      | .deferClose resource => do
        Connection.deferClose resource
        return .nothing
      | .closePending => do
        Connection.closePending
        return .nothing
      | .closeResource resource => do
        Connection.closeResource resource
        return .nothing
      | .close => do
        Connection.close
        return .nothing
      | .query (.ok q) fetch shape => do fetch.run (← q.openCursor) shape
      | .query (.error e) _ _ => fail e
      | .drop | .cursor .. => return .nothing
    let (outcome, after) := settle (call client)
    (.single outcome, client, after)

/-- Whether a step uses the connection up. -/
def Action.isLast : Action → Bool
  | close | drop => true
  | _ => false

/-- Takes a step of a session and tells about it. -/
def Step.run (step : Step) : Stage → Report × Stage
  | .ended server journal =>
    (⟨.single .noConnection, [], [], 0, none, []⟩, .ended server journal)
  | .connected client =>
    let client := patient client step.patience
    let (result, before, after) := step.action.perform client
    let stage := if step.action.isLast then (Stage.connected after).dropped else .connected after
    let log := stage.journal.entries.drop before.journal.entries.length
    let sent := stage.server.requests.drop (serverOf before).requests.length
    let leaked := stage.journal.leakedCursors - client.journal.leakedCursors
    let (phase, pendingClose) :=
      match stage with
      | .connected client => (some client.connection.phase, client.connection.pendingClose)
      | .ended .. => (none, [])
    (⟨result, sent, log, leaked, phase, pendingClose⟩, stage)

/-- Takes steps one after the other. -/
def runSteps (stage : Stage) : List Step → List Report × Stage
  | [] => ([], stage)
  | step :: rest =>
    let (report, stage) := step.run stage
    let (reports, stage) := runSteps stage rest
    (report :: reports, stage)

/-- What a session did: its connecting, its steps, and what was reported when its connection was
dropped at the end. -/
structure SessionReport where
  connect : Outcome
  handshake : Option Bytes
  steps : List Report
  endLog : List LogEntry
  shutdowns : Nat

/-- Opens a connection and takes steps on it. -/
def runSession (server : ScriptedPeer) (patience : Nat) (config : Config) (ids : Option IdSource)
    (steps : List Step) : SessionReport :=
  let (connect, stage) : Outcome × Stage :=
    match Connection.establish config { peer := server.patientFor patience } with
    | .ok c _ => (.ok .nothing, .connected { connection := { c with ids := ids.getD c.ids } })
    | .error (.failed e) s => (.failed e, .ended s.peer {})
    | .error .cancelled s => (.cancelled, .ended s.peer {})
  let handshake := stage.server.handshake
  let (reports, stage) := runSteps stage steps
  let last := stage.dropped
  { connect, handshake, steps := reports
    endLog := last.journal.entries.drop stage.journal.entries.length
    shutdowns := last.server.shutdowns }

end ThinClient.Rehearsal
