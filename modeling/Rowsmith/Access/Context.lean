/-
# Contexts

A context is passed along with a request and may carry one connection. The types a connection can
have are given by a family: a type of codes, and the type of connections that each code stands for.
-/

import Rowsmith.Access.Error

namespace Rowsmith

/-- A context that may carry a connection of one of the types of a family. -/
structure Context {Code : Type} (Connection : Code → Type) where
  connection : Option (Sigma Connection)

namespace Context

variable {Code : Type} {Connection : Code → Type}

/-- The context without a connection. -/
def empty : Context Connection :=
  ⟨none⟩

/-- The context with `c` in the place of what it carried. -/
def attach (_ : Context Connection) {code : Code} (c : Connection code) : Context Connection :=
  ⟨some ⟨code, c⟩⟩

/-- Whether the context carries a connection. -/
def hasConnection (cx : Context Connection) : Bool :=
  cx.connection.isSome

/-- The connection that the context carries, of the type that `code` stands for; `typeName` names
the types in messages. -/
def get [DecidableEq Code] (typeName : Code → String) (cx : Context Connection) (code : Code) :
    Except AccessError (Connection code) :=
  match cx.connection with
  | none => .error .noConnection
  | some ⟨found, c⟩ =>
    if h : found = code then .ok (h ▸ c) else .error (.wrongConnection (typeName code))

end Context

end Rowsmith
