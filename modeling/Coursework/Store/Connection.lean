import Coursework.Json.Basic

/-! # Connections to the database

How the database of an address is opened: a file or memory is shared between threads, a server
keeps a pool of connections.

* **`Connection.options`** are the options for an address.

A program that runs the service opens its database with them. The service itself works on a store
that is open, so nothing is proved of them. -/

namespace Coursework.Connection

/-- The addresses of a database in memory. -/
def inMemory : List Text := ["sqlite://", "sqlite:///:memory:"]

/-- The options for an address. -/
def options (address : Text) : List (Text × Json) :=
  if address.startsWith "sqlite" then
    ("connect_args", .object [("check_same_thread", .bool false)]) ::
      if inMemory.contains address then [("poolclass", .text "StaticPool")] else []
  else
    [("pool_pre_ping", .bool true), ("pool_size", .int 5), ("max_overflow", .int 10)]

end Coursework.Connection
