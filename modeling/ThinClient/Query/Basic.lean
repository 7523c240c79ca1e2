import ThinClient.Query.Cursor

/-!
# Queries

There are three ways to ask for rows: a statement that selects columns, a condition on the entries
of a cache, and all entries of a cache. Each is written as a payload of its own layout, and the
server answers each with the id of a cursor, for a statement the columns, and the first page.

* `Query.payload` is the layout.
* `Query.openCursor` sends a query, `Query.fetchAll`, `Query.fetchFirst?` and `Query.fetchOne` also
  fetch its rows.
-/

namespace ThinClient

/-- What kind of statement a query allows. -/
inductive StatementType where
  | any
  | select
  | update
  deriving DecidableEq

/-- The octet for a kind of statement. -/
def StatementType.code : StatementType → UInt8
  | any => 0
  | select => 1
  | update => 2

/-- A statement whose columns are asked for. -/
structure SqlFieldsQuery where
  sql : String
  args : List WireValue := []
  cache : Option String := none
  schema : Option String := none
  pageSize : Option Int32 := none
  maxRows : Int32 := -1
  statementType : StatementType := .any
  distributedJoins : Bool := false
  isLocal : Bool := false
  replicatedOnly : Bool := false
  enforceJoinOrder : Bool := false
  collocated : Bool := false
  isLazy : Bool := false
  /-- Nanoseconds the server may take. -/
  timeout : Option Nat := none
  includeFieldNames : Bool := true

/-- A condition on the entries of a cache that are asked for. -/
structure SqlQuery where
  cache : String
  table : String
  sql : String
  args : List WireValue := []
  distributedJoins : Bool := false
  isLocal : Bool := false
  replicatedOnly : Bool := false
  pageSize : Option Int32 := none
  /-- Nanoseconds the server may take. -/
  timeout : Option Nat := none

/-- A cache all of whose entries are asked for. -/
structure ScanQuery where
  cache : String
  pageSize : Option Int32 := none
  /-- The only partition that is looked at. -/
  partition : Option Int32 := none
  isLocal : Bool := false

/-- A query. -/
inductive Query where
  | sqlFields (query : SqlFieldsQuery)
  | sql (query : SqlQuery)
  | scan (query : ScanQuery)

/-- A time in nanoseconds as milliseconds on the wire, where 0 sets no limit. Times that are too
long become the longest one. -/
def timeoutMillis (nanoseconds : Option Nat) : Int64 :=
  match nanoseconds with
  | none => 0
  | some n => Int64.ofNat (min (n / 1000000) Int64.maxValue.toNatClampNeg)

/-- The octets of the arguments of a query: how many there are, and each with its type code. -/
def encodeArgs (args : List WireValue) : Except EncodeError Bytes := do
  let count ← encodeLength "query arguments" args.length
  return count ++ (← args.mapM WireValue.encode).flatten

namespace SqlFieldsQuery

/-- The payload of a request; `pageSize` holds unless the query says otherwise. -/
def payload (q : SqlFieldsQuery) (pageSize : Int32) : Except EncodeError Bytes := do
  let cache : Int32 := (q.cache.map cacheId).getD 0
  let schema ← encodeNullableText q.schema
  let sql ← encodeNullableText (some q.sql)
  let args ← encodeArgs q.args
  return Word.encode cache ++ [0] ++ schema ++ Word.encode (q.pageSize.getD pageSize) ++
    Word.encode q.maxRows ++ sql ++ args ++ [q.statementType.code] ++
    encodeBool q.distributedJoins ++ encodeBool q.isLocal ++ encodeBool q.replicatedOnly ++
    encodeBool q.enforceJoinOrder ++ encodeBool q.collocated ++ encodeBool q.isLazy ++
    Word.encode (timeoutMillis q.timeout) ++ encodeBool q.includeFieldNames

/-- Takes the columns from the answer to a query. -/
def readColumns (withNames : Bool) : Reader Columns := do
  let width ← Reader.length
  if withNames then
    let names ← Reader.replicate width WireValue.readNullableText
    return ⟨names.map (·.getD ""), width⟩
  else return ⟨[], width⟩

end SqlFieldsQuery

/-- The payload of a request; `pageSize` holds unless the query says otherwise. -/
def SqlQuery.payload (q : SqlQuery) (pageSize : Int32) : Except EncodeError Bytes := do
  let table ← encodeNullableText (some q.table)
  let sql ← encodeNullableText (some q.sql)
  let args ← encodeArgs q.args
  return Word.encode (cacheId q.cache) ++ [0] ++ table ++ sql ++ args ++
    encodeBool q.distributedJoins ++ encodeBool q.isLocal ++ encodeBool q.replicatedOnly ++
    Word.encode (q.pageSize.getD pageSize) ++ Word.encode (timeoutMillis q.timeout)

/-- The payload of a request; `pageSize` holds unless the query says otherwise. -/
def ScanQuery.payload (q : ScanQuery) (pageSize : Int32) : Except EncodeError Bytes := do
  let filter ← encodeNullableText none
  return Word.encode (cacheId q.cache) ++ [0] ++ filter ++
    Word.encode (q.pageSize.getD pageSize) ++ Word.encode (q.partition.getD (-1)) ++
    encodeBool q.isLocal

namespace Query

/-- The payload of a request; `pageSize` holds unless the query says otherwise. -/
def payload (q : Query) (pageSize : Int32) : Except EncodeError Bytes :=
  match q with
  | sqlFields q => q.payload pageSize
  | sql q => q.payload pageSize
  | scan q => q.payload pageSize

/-- The operation that opens a cursor. -/
def openOp : Query → Operation
  | sqlFields _ => .querySqlFields
  | sql _ => .querySql
  | scan _ => .queryScan

/-- The operation that asks for the next page of the cursor. -/
def pageOp : Query → Operation
  | sqlFields _ => .querySqlFieldsPage
  | sql _ => .querySqlPage
  | scan _ => .queryScanPage

/-- The columns of entries of a cache. -/
def entryColumns : Columns :=
  ⟨["_KEY", "_VAL"], 2⟩

/-- Takes the columns from what follows the id of the cursor. -/
def readColumns : Query → Reader Columns
  | sqlFields q => SqlFieldsQuery.readColumns q.includeFieldNames
  | _ => return entryColumns

variable {σ : Type} [Peer σ]

/-- Sends a query and takes over the cursor that the server opens for it. -/
def openCursor (q : Query) : Call σ Cursor := do
  let request ← Connection.beginRequest q.openOp
  match q.payload (← get).connection.config.pageSize with
  | .error e => fail e
  | .ok payload =>
    let response ← Connection.sendAndReceive (request.append payload)
    match Reader.word Int64 response.payload with
    | .error e _ => fail e
    | .ok id rest =>
      match q.readColumns rest with
      | .ok columns page => Cursor.takeOver id q.pageOp (.ok columns) page
      | .error e page => Cursor.takeOver id q.pageOp (.error e) page

/-- Sends a query and fetches all its rows. -/
def fetchAll {α : Type} (q : Query) (read : Row → Except DecodeError α) (turns : Nat) :
    Call σ (List α) := do
  Cursor.consume (Cursor.fetchAll read turns) (← q.openCursor)

/-- Sends a query and fetches its first row, if there is one. -/
def fetchFirst? {α : Type} (q : Query) (read : Row → Except DecodeError α) (turns : Nat) :
    Call σ (Option α) := do
  Cursor.consume (Cursor.fetchFirst? read turns) (← q.openCursor)

/-- Sends a query and fetches its first row. -/
def fetchOne {α : Type} (q : Query) (read : Row → Except DecodeError α) (turns : Nat) :
    Call σ α := do
  Cursor.consume (Cursor.fetchOne read turns) (← q.openCursor)

end Query

end ThinClient
