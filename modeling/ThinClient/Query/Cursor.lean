import ThinClient.Connection
import ThinClient.Row

/-!
# Cursors

A query opens a cursor on the server, and its rows come in pages: the number of rows, the values of
the rows, and an octet that says whether the server has more. A server releases the cursor of which
it has sent the last page; until then the client has to close it. A cursor therefore closes itself
after every failure but a failure of the connection, and when it is dropped while open its close is
deferred.

* `Cursor.advance` is one turn: it gives a row, sees the end, or fetches the next page.
* `Cursor.nextRow`, `Cursor.fetchAll` and `Cursor.fetchFirst?` take turns; `Cursor.fetchOne` wants
  a row.
* `Cursor.close` lets the server release the cursor, `Cursor.drop` defers this.

A server can send empty pages for ever, so a caller says how many turns it waits for a row before
it gives the call up.
-/

namespace ThinClient

/-- Where a cursor is in its life. -/
inductive CursorState where
  /-- The server has opened it, and no page is there yet. -/
  | created
  /-- A page is there whose rows and last octet have not been taken yet. -/
  | hasBufferedRows
  | fetchingNextPage
  /-- The server has sent its last page and released it. -/
  | exhausted
  | closed
  deriving DecidableEq

namespace CursorState

/-- The name of a state in messages. -/
def name : CursorState → String
  | created => "Created"
  | hasBufferedRows => "HasBufferedRows"
  | fetchingNextPage => "FetchingNextPage"
  | exhausted => "Exhausted"
  | closed => "Closed"

/-- Whether nothing more can come from a cursor. -/
def isFinal : CursorState → Bool
  | exhausted | closed => true
  | _ => false

end CursorState

/-- The columns of a result: how many there are, and their names if the query asked for them. -/
structure Columns where
  names : List String
  width : Nat
  deriving DecidableEq

/-- A cursor that is open on a server. -/
structure Cursor where
  id : Int64
  /-- The operation that asks for the next page. -/
  pageOp : Operation
  columns : Columns
  /-- What has not been taken of the page. -/
  page : Bytes := []
  /-- How many rows of the page have not been taken. -/
  remaining : Nat := 0
  state : CursorState := .created

/-- A cursor with the client it uses. -/
structure OpenCursor (σ : Type) where
  cursor : Cursor
  client : Client σ

/-- Calls that use a cursor. -/
abbrev CursorCall (σ : Type) := EStateM (Stop Error) (OpenCursor σ)

namespace Cursor

/-- Whether the page that is there is the last one, so that the server has released the cursor. -/
def isReleased (c : Cursor) : Bool :=
  c.state = .hasBufferedRows && c.page.getLast? = some 0

/-- The cursor in messages. -/
def describe (c : Cursor) : String :=
  "Cursor \x7b id: " ++ toString c.id.toInt ++ ", state: " ++ c.state.name ++ ", remaining: " ++
    toString c.remaining ++ ", .. \x7d"

/-- The cursor with a page, if the page can hold as many rows as it says: each value of a row has at
least one octet. -/
def load (c : Cursor) (page : Bytes) : Except DecodeError Cursor :=
  match Reader.length page with
  | .error e _ => .error e
  | .ok rows rest =>
    let least := rows * c.columns.width
    if rest.length < least then .error (.truncated least rest.length)
    else .ok { c with page := rest, remaining := rows, state := .hasBufferedRows }

/-- The cursor after it is dropped, as far as its client sees it: an open cursor is counted and
reported, and its close is deferred. -/
def drop {σ : Type} (c : Cursor) (client : Client σ) : Client σ :=
  if c.state.isFinal || c.isReleased then client
  else
    { connection :=
        { client.connection with pendingClose := client.connection.pendingClose ++ [c.id] }
      journal :=
        { client.journal.add (.cursorDropped c.id) with
          leakedCursors := client.journal.leakedCursors + 1 } }

variable {σ : Type} [Peer σ]

/-- A call of the client of a cursor. -/
def onClient {α : Type} (call : Call σ α) : CursorCall σ α := fun s =>
  match call s.client with
  | .ok a client => .ok a { s with client }
  | .error stop client => .error stop { s with client }

/-- Changes the cursor. -/
def update (change : Cursor → Cursor) : CursorCall σ Unit :=
  modify fun s => { s with cursor := change s.cursor }

/-- Lets the server release the cursor, unless it has done so. -/
def close : CursorCall σ Unit := do
  let c := (← get).cursor
  if c.state.isFinal then return ()
  update ({ · with
    page := [], remaining := 0, state := if c.isReleased then .exhausted else .closed })
  unless c.isReleased do
    onClient (Connection.closeResource c.id)

/-- Closes the cursor; a failure to do so is reported. -/
def closeQuietly : CursorCall σ Unit := fun s =>
  match close s with
  | .error (.failed e) s =>
    .ok () { s with client :=
      { s.client with journal := s.client.journal.add (.cursorCloseFailed s.cursor.id e) } }
  | result => result

/-- Fails with an error, after the cursor is closed. With its connection a cursor is lost anyway. -/
def abort {α : Type} (error : Error) : CursorCall σ α := do
  if error.isConnectionError then update ({ · with state := .closed }) else closeQuietly
  throw (.failed error)

/-- Takes a page into the cursor. -/
def loadPage (page : Bytes) : CursorCall σ Unit := do
  match (← get).cursor.load page with
  | .ok cursor => update fun _ => cursor
  | .error e => abort e

/-- A call of the client of a cursor, after whose failure the cursor is closed. -/
def orAbort {α : Type} (call : Call σ α) : CursorCall σ α := fun s =>
  match onClient call s with
  | .error (.failed e) s => abort e s
  | result => result

/-- Asks for the next page. -/
def fetchPage : CursorCall σ Unit := do
  update ({ · with state := .fetchingNextPage })
  let c := (← get).cursor
  let request ← onClient (Connection.beginRequest c.pageOp)
  let response ← orAbort (Connection.sendAndReceive (request.putWord c.id))
  loadPage response.payload

/-- Takes a row from the page. -/
def decodeRow : CursorCall σ Row := do
  let c := (← get).cursor
  match Reader.replicate c.columns.width WireValue.decode c.page with
  | .ok values page =>
    update ({ · with page, remaining := c.remaining - 1 })
    return ⟨c.columns.names, values⟩
  | .error e page =>
    update ({ · with page })
    abort e

/-- What a turn of a cursor gives. -/
inductive Turn where
  | row (row : Row)
  | finished
  /-- The next page is there now. -/
  | fetched

/-- One turn of a cursor. -/
def advance : CursorCall σ Turn := do
  let c := (← get).cursor
  match c.state with
  | .exhausted | .closed => return .finished
  | .created | .fetchingNextPage =>
    fetchPage
    return .fetched
  | .hasBufferedRows =>
    if 0 < c.remaining then return .row (← decodeRow)
    match c.page with
    | [] => abort (DecodeError.truncated 1 0)
    | more :: rest =>
      if more = 0 then
        update ({ · with page := [], state := .exhausted })
        return .finished
      update ({ · with page := rest })
      fetchPage
      return .fetched

/-- The next row, if there is one. -/
def nextRow : (turns : Nat) → CursorCall σ (Option Row)
  | 0 => throw .cancelled
  | turns + 1 => do
    match ← advance with
    | .row row => return some row
    | .finished => return none
    | .fetched => nextRow turns

/-- A row as what the caller reads it as; the cursor is closed if it cannot be read so. -/
def convert {α : Type} (read : Row → Except DecodeError α) (row : Row) : CursorCall σ α :=
  match read row with
  | .ok a => return a
  | .error e => abort e

/-- All rows that are left. -/
def fetchAll {α : Type} (read : Row → Except DecodeError α) :
    (turns : Nat) → CursorCall σ (List α)
  | 0 => throw .cancelled
  | turns + 1 => do
    match ← advance with
    | .row row =>
      let a ← convert read row
      return a :: (← fetchAll read turns)
    | .finished => return []
    | .fetched => fetchAll read turns

/-- The next row, if there is one, after which the cursor is closed. -/
def fetchFirst? {α : Type} (read : Row → Except DecodeError α) (turns : Nat) :
    CursorCall σ (Option α) := do
  match ← nextRow turns with
  | none => return none
  | some row =>
    let a ← convert read row
    closeQuietly
    return some a

/-- The next row, after which the cursor is closed. -/
def fetchOne {α : Type} (read : Row → Except DecodeError α) (turns : Nat) : CursorCall σ α := do
  match ← fetchFirst? read turns with
  | some a => return a
  | none => throw (.failed { kind := .rowNotFound })

/-- A call that uses a cursor up: however it ends, the cursor is dropped. -/
def consume {α : Type} (call : CursorCall σ α) (cursor : Cursor) : Call σ α := fun client =>
  match call ⟨cursor, client⟩ with
  | .ok a s => .ok a (s.cursor.drop s.client)
  | .error stop s => .error stop (s.cursor.drop s.client)

/-- Takes over a cursor that the server has just opened, with its columns and its first page. -/
def takeOver (id : Int64) (pageOp : Operation) (columns : Except DecodeError Columns)
    (page : Bytes) : Call σ Cursor := fun client =>
  let start : Cursor := { id, pageOp, columns := ⟨[], 0⟩ }
  let call : CursorCall σ Cursor := do
    match columns with
    | .error e => abort e
    | .ok columns =>
      update ({ · with columns })
      loadPage page
      return (← get).cursor
  match call ⟨start, client⟩ with
  | .ok cursor s => .ok cursor s.client
  | .error stop s => .error stop (s.cursor.drop s.client)

end Cursor

end ThinClient
