import GraphGateway.Json.Basic

/-!
# Requests and responses

A client sends a `Request` and gets a `Response`; the gateway sends the
same request to a backend and hands the backend's response back. Variables,
data and extensions belong to the client and the backend, and are carried
as they are.
-/

namespace GraphGateway

/-- **A request**: a query with its variables, and the name of the
operation to run where the query has several. -/
structure Request where
  /-- The text of the query. -/
  query : String
  /-- The values of the query's variables. -/
  variableValues : Option Json
  /-- The operation to run. -/
  operationName : Option String
  deriving Repr

/-- A request that is only a query. -/
def Request.ofQuery (query : String) : Request :=
  { query, variableValues := none, operationName := none }

/-- A place in a query. -/
structure Location where
  /-- The line. -/
  line : UInt32
  /-- The column. -/
  column : UInt32
  deriving DecidableEq, Repr

/-- **An error that a response reports.** -/
structure ResponseError where
  /-- What went wrong. -/
  message : String
  /-- Where in the query. -/
  locations : List Location
  /-- Where in the data. -/
  path : List Json
  /-- What else the backend says about it. -/
  extensions : Option (List (String × Json))
  deriving Repr

/-- An error that is only a message. -/
def ResponseError.ofMessage (message : String) : ResponseError :=
  { message, locations := [], path := [], extensions := none }

/-- **A response**: data, errors, or both. -/
structure Response where
  /-- The result of the query. -/
  data : Option Json
  /-- What went wrong. -/
  errors : List ResponseError
  /-- What else the backend says. -/
  extensions : Option (List (String × Json))
  deriving Repr

/-- The response with one error and no data. -/
def Response.ofError (message : String) : Response :=
  { data := none, errors := [.ofMessage message], extensions := none }

end GraphGateway
