import ThinClient.Proofs.Query.Calls
import ThinClient.Proofs.Value.RoundTrip

/-!
# Layouts of queries

What a server finds in the payload of a query, if it takes the payload apart as the protocol
documents it for the operation: one member after the other, with nothing in front of a member to
say which one it is.

* `SqlFieldsRequest`, `SqlRequest` and `ScanRequest` are the members in their order, each with its
  reader, and `QueryRequest.read` chooses by the operation.
* `Query.meant` is what a query asks for in these terms; times are there in milliseconds.
* `Query.read_payload`: **every query that can be written is read as what it means**, to the last
  octet.
-/

namespace ThinClient

open Reader WireValue

/-! ## Members -/

/-- Takes so many tagged values as are counted in front of them. -/
def readArgs : Reader (List WireValue) := do
  replicate (← length) decode

/-- Takes a kind of statement. -/
def readStatementType : Reader StatementType := do
  let code ← word UInt8
  if code = 0 then return .any
  else if code = 1 then return .select
  else if code = 2 then return .update
  else throw (.malformed (.other "unknown statement type"))

/-- A time limit in whole milliseconds, of which the longest has 63 bits; 0 sets no limit. -/
def limitMillis : (nanoseconds : Option Nat) → Int
  | none => 0
  | some n => min (n / 1000000) 9223372036854775807

theorem StatementType.takes (t : StatementType) : Takes readStatementType [t.code] t := by
  refine (takes_octet t.code).bind_nil ?_
  cases t <;> exact .pure _

theorem timeoutMillis_takes (t : Option Nat) :
    Takes (Int64.toInt <$> word Int64) (Word.encode (timeoutMillis t)) (limitMillis t) := by
  have hmillis : (timeoutMillis t).toInt = limitMillis t := by
    cases t with
    | none => rfl
    | some n =>
      have hgreatest : Int64.maxValue.toNatClampNeg = 9223372036854775807 := rfl
      rw [timeoutMillis, limitMillis, hgreatest, Int64.toInt_ofNat_of_lt (by omega)]
      omega
  exact hmillis ▸ (takes_word (timeoutMillis t)).map Int64.toInt

theorem mapM_encode_takes {args : List WireValue} {parts : List Bytes}
    (h : args.mapM WireValue.encode = .ok parts) :
    Takes (replicate args.length decode) parts.flatten args := by
  induction args generalizing parts with
  | nil =>
    cases h
    exact .pure []
  | cons v args ih =>
    rw [List.mapM_cons] at h
    obtain ⟨part, hpart, h⟩ := Except.bind_eq_ok h
    obtain ⟨others, hothers, h⟩ := Except.bind_eq_ok h
    cases h
    exact (encode_takes hpart).bind ((ih hothers).map (v :: ·))

theorem encodeArgs_takes {args : List WireValue} {p : Bytes} (h : encodeArgs args = .ok p) :
    Takes readArgs p args := by
  obtain ⟨count, hcount, h⟩ := Except.bind_eq_ok h
  obtain ⟨parts, hparts, h⟩ := Except.bind_eq_ok h
  cases h
  exact (takes_length hcount).bind (mapM_encode_takes hparts)

/-! ## Layouts -/

/-- What is in the payload of a statement, in its order. -/
structure SqlFieldsRequest where
  cache : Int32
  flags : UInt8
  schema : Option String
  pageSize : Int32
  maxRows : Int32
  sql : Option String
  args : List WireValue
  statementType : StatementType
  distributedJoins : Bool
  isLocal : Bool
  replicatedOnly : Bool
  enforceJoinOrder : Bool
  collocated : Bool
  isLazy : Bool
  /-- Milliseconds; 0 sets no limit. -/
  timeout : Int
  includeFieldNames : Bool

/-- What is in the payload of a condition on entries, in its order. -/
structure SqlRequest where
  cache : Int32
  flags : UInt8
  table : Option String
  sql : Option String
  args : List WireValue
  distributedJoins : Bool
  isLocal : Bool
  replicatedOnly : Bool
  pageSize : Int32
  /-- Milliseconds; 0 sets no limit. -/
  timeout : Int

/-- What is in the payload of a scan, in its order. -/
structure ScanRequest where
  cache : Int32
  flags : UInt8
  /-- A filter would be an object. -/
  filter : WireValue
  pageSize : Int32
  /-- All partitions if negative. -/
  partition : Int32
  isLocal : Bool

/-- Takes the members of a statement. -/
def SqlFieldsRequest.read : Reader SqlFieldsRequest := do
  let cache ← word Int32
  let flags ← word UInt8
  let schema ← readNullableText
  let pageSize ← word Int32
  let maxRows ← word Int32
  let sql ← readNullableText
  let args ← readArgs
  let statementType ← readStatementType
  let distributedJoins ← readBool
  let isLocal ← readBool
  let replicatedOnly ← readBool
  let enforceJoinOrder ← readBool
  let collocated ← readBool
  let isLazy ← readBool
  let timeout ← Int64.toInt <$> word Int64
  let includeFieldNames ← readBool
  return {
    cache, flags, schema, pageSize, maxRows, sql, args, statementType, distributedJoins, isLocal
    replicatedOnly, enforceJoinOrder, collocated, isLazy, timeout, includeFieldNames }

/-- Takes the members of a condition on entries. -/
def SqlRequest.read : Reader SqlRequest := do
  let cache ← word Int32
  let flags ← word UInt8
  let table ← readNullableText
  let sql ← readNullableText
  let args ← readArgs
  let distributedJoins ← readBool
  let isLocal ← readBool
  let replicatedOnly ← readBool
  let pageSize ← word Int32
  let timeout ← Int64.toInt <$> word Int64
  return {
    cache, flags, table, sql, args, distributedJoins, isLocal, replicatedOnly, pageSize, timeout }

/-- Takes the members of a scan. -/
def ScanRequest.read : Reader ScanRequest := do
  let cache ← word Int32
  let flags ← word UInt8
  let filter ← decode
  let pageSize ← word Int32
  let partition ← word Int32
  let isLocal ← readBool
  return { cache, flags, filter, pageSize, partition, isLocal }

/-- What a server is asked by a query. -/
inductive QueryRequest where
  | sqlFields (request : SqlFieldsRequest)
  | sql (request : SqlRequest)
  | scan (request : ScanRequest)

/-- Takes the members of a query; the operation says which ones they are. -/
def QueryRequest.read (op : Operation) : Reader QueryRequest :=
  if op = .querySqlFields then sqlFields <$> SqlFieldsRequest.read
  else if op = .querySql then sql <$> SqlRequest.read
  else scan <$> ScanRequest.read

/-! ## What queries mean -/

/-- What a statement asks for; `pageSize` holds unless it says otherwise. -/
def SqlFieldsQuery.meant (q : SqlFieldsQuery) (pageSize : Int32) : SqlFieldsRequest where
  cache := (q.cache.map cacheId).getD 0
  flags := 0
  schema := q.schema
  pageSize := q.pageSize.getD pageSize
  maxRows := q.maxRows
  sql := q.sql
  args := q.args
  statementType := q.statementType
  distributedJoins := q.distributedJoins
  isLocal := q.isLocal
  replicatedOnly := q.replicatedOnly
  enforceJoinOrder := q.enforceJoinOrder
  collocated := q.collocated
  isLazy := q.isLazy
  timeout := limitMillis q.timeout
  includeFieldNames := q.includeFieldNames

/-- What a condition on entries asks for; `pageSize` holds unless it says otherwise. -/
def SqlQuery.meant (q : SqlQuery) (pageSize : Int32) : SqlRequest where
  cache := cacheId q.cache
  flags := 0
  table := q.table
  sql := q.sql
  args := q.args
  distributedJoins := q.distributedJoins
  isLocal := q.isLocal
  replicatedOnly := q.replicatedOnly
  pageSize := q.pageSize.getD pageSize
  timeout := limitMillis q.timeout

/-- What a scan asks for; `pageSize` holds unless it says otherwise. -/
def ScanQuery.meant (q : ScanQuery) (pageSize : Int32) : ScanRequest where
  cache := cacheId q.cache
  flags := 0
  filter := .null
  pageSize := q.pageSize.getD pageSize
  partition := q.partition.getD (-1)
  isLocal := q.isLocal

/-- What a query asks for; `pageSize` holds unless it says otherwise. -/
def Query.meant (q : Query) (pageSize : Int32) : QueryRequest :=
  match q with
  | sqlFields q => .sqlFields (q.meant pageSize)
  | sql q => .sql (q.meant pageSize)
  | scan q => .scan (q.meant pageSize)

section Payload

variable {pageSize : Int32} {payload : Bytes}

theorem SqlFieldsQuery.payload_takes {q : SqlFieldsQuery} (h : q.payload pageSize = .ok payload) :
    Takes SqlFieldsRequest.read payload (q.meant pageSize) := by
  obtain ⟨schema, hschema, h⟩ := Except.bind_eq_ok h
  obtain ⟨sql, hsql, h⟩ := Except.bind_eq_ok h
  obtain ⟨args, hargs, h⟩ := Except.bind_eq_ok h
  cases h
  simp only [List.append_assoc]
  refine (takes_word _).bind <| (takes_octet 0).bind <| (encodeNullableText_takes hschema).bind <|
    (takes_word _).bind <| (takes_word _).bind <| (encodeNullableText_takes hsql).bind <|
    (encodeArgs_takes hargs).bind <| q.statementType.takes.bind ?_
  refine (encodeBool_takes _).bind <| (encodeBool_takes _).bind <| (encodeBool_takes _).bind <|
    (encodeBool_takes _).bind <| (encodeBool_takes _).bind <| (encodeBool_takes _).bind <|
    (timeoutMillis_takes _).bind <| (encodeBool_takes _).bind_nil ?_
  exact .pure _

theorem SqlQuery.payload_takes {q : SqlQuery} (h : q.payload pageSize = .ok payload) :
    Takes SqlRequest.read payload (q.meant pageSize) := by
  obtain ⟨table, htable, h⟩ := Except.bind_eq_ok h
  obtain ⟨sql, hsql, h⟩ := Except.bind_eq_ok h
  obtain ⟨args, hargs, h⟩ := Except.bind_eq_ok h
  cases h
  simp only [List.append_assoc]
  refine (takes_word _).bind <| (takes_octet 0).bind <| (encodeNullableText_takes htable).bind <|
    (encodeNullableText_takes hsql).bind <| (encodeArgs_takes hargs).bind ?_
  refine (encodeBool_takes _).bind <| (encodeBool_takes _).bind <| (encodeBool_takes _).bind <|
    (takes_word _).bind <| (timeoutMillis_takes _).bind_nil ?_
  exact .pure _

/-- Nothing in a scan is too long to be written. -/
theorem ScanQuery.exists_payload (q : ScanQuery) (pageSize : Int32) :
    ∃ payload, q.payload pageSize = .ok payload := ⟨_, rfl⟩

theorem ScanQuery.payload_takes {q : ScanQuery} (h : q.payload pageSize = .ok payload) :
    Takes ScanRequest.read payload (q.meant pageSize) := by
  obtain ⟨filter, hfilter, h⟩ := Except.bind_eq_ok h
  cases h
  have hnull : WireValue.null.encode = .ok filter := hfilter
  simp only [List.append_assoc]
  refine (takes_word _).bind <| (takes_octet 0).bind <| (encode_takes hnull).bind <|
    (takes_word _).bind <| (takes_word _).bind <| (encodeBool_takes _).bind_nil ?_
  exact .pure _

theorem Query.payload_takes {q : Query} (h : q.payload pageSize = .ok payload) :
    Takes (QueryRequest.read q.openOp) payload (q.meant pageSize) := by
  cases q with
  | sqlFields q => exact (SqlFieldsQuery.payload_takes h).map QueryRequest.sqlFields
  | sql q => exact (SqlQuery.payload_takes h).map QueryRequest.sql
  | scan q => exact (ScanQuery.payload_takes h).map QueryRequest.scan

/-- **Every query that can be written is read as what it means**, by the layout of the operation of
its request and to the last octet of the payload. The page size is the one of the connection if the
query does not set it. -/
theorem Query.read_payload {σ : Type} (q : Query) (client : Client σ)
    (h : q.payload client.connection.config.pageSize = .ok payload) :
    let request := q.openRequest client payload
    QueryRequest.read request.op request.payload =
      .ok (q.meant client.connection.config.pageSize) [] := by
  intro request
  exact (payload_takes h).exactly

/-- A statement with arguments, limits and two of the six truth values. -/
def selection : Query :=
  .sqlFields {
    sql := "é"
    args := [.null, .stringArray [none], .int 7]
    schema := some ""
    maxRows := 5
    statementType := .select
    isLocal := true
    isLazy := true
    timeout := some 1999999 }

/-- A condition with a page size of its own. -/
def condition : Query :=
  .sql {
    cache := "Größe"
    table := "T"
    sql := "x = ?"
    args := [.bool true]
    replicatedOnly := true
    pageSize := some 3 }

/-- A client whose connection wants pages of 1024 rows. -/
def anyone : Client Unit :=
  ⟨{ stream := { peer := () }, config := .default }, {}⟩

theorem Query.read_payload_kinds :
    (∃ payload, selection.payload 1024 = .ok payload ∧
      QueryRequest.read .querySqlFields payload =
        .ok (.sqlFields {
          cache := 0, flags := 0, schema := some "", pageSize := 1024, maxRows := 5
          sql := some "é", args := [.null, .stringArray [none], .int 7], statementType := .select
          distributedJoins := false, isLocal := true, replicatedOnly := false
          enforceJoinOrder := false, collocated := false, isLazy := true, timeout := 1
          includeFieldNames := true }) []) ∧
      (∃ payload, condition.payload 1024 = .ok payload ∧
        QueryRequest.read .querySql payload =
          .ok (.sql {
            cache := cacheId "Größe", flags := 0, table := some "T", sql := some "x = ?"
            args := [.bool true], distributedJoins := false, isLocal := false
            replicatedOnly := true, pageSize := 3, timeout := 0 }) []) ∧
      ∀ cache partition, ∃ payload,
        (Query.scan { cache, partition, isLocal := true }).payload 1024 = .ok payload ∧
        QueryRequest.read .queryScan payload =
          .ok (.scan {
            cache := cacheId cache, flags := 0, filter := .null, pageSize := 1024
            partition := partition.getD (-1), isLocal := true }) [] := by
  obtain ⟨fields, hfields⟩ : ∃ payload, selection.payload 1024 = .ok payload := ⟨_, rfl⟩
  obtain ⟨sql, hsql⟩ : ∃ payload, condition.payload 1024 = .ok payload := ⟨_, rfl⟩
  refine ⟨⟨fields, hfields, read_payload selection anyone hfields⟩,
    ⟨sql, hsql, read_payload condition anyone hsql⟩, fun cache partition => ?_⟩
  let scan : ScanQuery := { cache, partition, isLocal := true }
  obtain ⟨payload, hpayload⟩ := scan.exists_payload 1024
  exact ⟨payload, hpayload, read_payload (.scan scan) anyone hpayload⟩

end Payload

end ThinClient
