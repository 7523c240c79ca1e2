/-!
# Operations

A request says by a 16-bit code what it asks for. Any code can be sent; messages name the ones
listed here.
-/

namespace ThinClient

/-- What a request asks for. -/
structure Operation where
  code : Int16
  deriving DecidableEq, Repr

namespace Operation

/-- Releases something the server holds for the client. -/
def resourceClose : Operation := ⟨0⟩

/-- Opens a cursor over the entries of a cache. -/
def queryScan : Operation := ⟨2000⟩

/-- Asks for the next page of such a cursor. -/
def queryScanPage : Operation := ⟨2001⟩

/-- Opens a cursor over the entries that a condition selects. -/
def querySql : Operation := ⟨2002⟩

/-- Asks for the next page of such a cursor. -/
def querySqlPage : Operation := ⟨2003⟩

/-- Opens a cursor over the columns that a statement selects. -/
def querySqlFields : Operation := ⟨2004⟩

/-- Asks for the next page of such a cursor. -/
def querySqlFieldsPage : Operation := ⟨2005⟩

/-- The name of an operation in messages. -/
def name (op : Operation) : String :=
  if op = resourceClose then "OP_RESOURCE_CLOSE"
  else if op = queryScan then "OP_QUERY_SCAN"
  else if op = queryScanPage then "OP_QUERY_SCAN_CURSOR_GET_PAGE"
  else if op = querySql then "OP_QUERY_SQL"
  else if op = querySqlPage then "OP_QUERY_SQL_CURSOR_GET_PAGE"
  else if op = querySqlFields then "OP_QUERY_SQL_FIELDS"
  else if op = querySqlFieldsPage then "OP_QUERY_SQL_FIELDS_CURSOR_GET_PAGE"
  else "OP_UNKNOWN"

end Operation

end ThinClient
