/-!
# Pools

A pool lends connections to callers and opens no more of them than its limit. The connections that
nobody holds belong to a worker, which also keeps the callers that wait, in the order in which it
heard of them. Callers and worker run at the same time: a caller sends messages, a request for a
connection or a connection that it gives back, and the worker answers a request at the ticket of
the caller, once.

A `Pool` is the state of all of this at one moment, and this module has what callers do to it. Each
such step touches one ticket and at most adds a message, and any of them can come between two steps
of the worker.

* `Pool.enter` gives a new ticket, `Pool.inquire` asks at it or looks what has come of it.
* `Pool.cancel` gives a ticket up, `Pool.giveBack` ends the use of a connection. A connection that
  has been answered to a ticket that is given up goes back as well.
-/

namespace ThinClient

/-- Connections that can become useless. -/
class Breakable (κ : Type) where
  /-- Whether the connection cannot be used any more. -/
  isBroken : κ → Bool

/-- Where a caller's wish for a connection is in its life. -/
inductive Ticket (ε κ : Type) where
  /-- The worker has not been asked yet. -/
  | fresh
  | waiting
  /-- The worker has answered, and the caller has not looked yet. -/
  | answered (answer : Except ε κ)
  | holding (connection : κ)
  /-- Given up, refused, or used up. -/
  | closed

/-- What callers send to the worker. -/
inductive Message (κ : Type) where
  | acquire (ticket : Nat)
  | release (connection : κ)

/-- A connection that is being opened. -/
inductive Attempt (ε κ : Type) where
  /-- Nobody has looked at it, so nothing has happened yet. -/
  | planned
  /-- It goes on by itself, and the worker is woken at its end. -/
  | underWay
  | finished (result : Except ε κ)

/-- What the worker does next. -/
inductive Activity (κ : Type) where
  | readMessages
  | checkAttempt
  | serveQueue
  /-- It has taken a ticket and a connection and is about to answer the one with the other. -/
  | offer (ticket : Nat) (connection : κ)
  | rest

/-- What the worker tells about connections that nobody gets. -/
inductive Notice (ε κ : Type) where
  | connectFailed (error : ε)
  | discarded (connection : κ)

/-- A pool of connections at one moment. -/
structure Pool (ε κ : Type) where
  /-- How many connections may be open. -/
  limit : Nat
  /-- How many connections are open, lent or not. -/
  actives : Nat := 0
  /-- The connections that nobody holds, the last one given back first. -/
  idle : List κ := []
  /-- The tickets that wait, the oldest first. -/
  queue : List Nat := []
  /-- The messages that the worker has not read, the oldest first. -/
  inbox : List (Message κ) := []
  attempt : Option (Attempt ε κ) := none
  activity : Activity κ := .rest
  tickets : List (Ticket ε κ) := []
  /-- How many attempts to open a connection there have been. -/
  attempts : Nat := 0
  notices : List (Notice ε κ) := []

/-- What a caller finds who asks at a ticket. -/
inductive Inquiry (ε κ : Type) where
  | granted (connection : κ)
  | refused (error : ε)
  | pending

namespace Ticket

variable {ε κ : Type}

/-- Whether the worker can still answer to it. -/
def isWaiting : Ticket ε κ → Bool
  | waiting => true
  | _ => false

/-- The ticket with the answer of the worker, which is lost if the ticket does not wait for it. -/
def answer (a : Except ε κ) : Ticket ε κ → Ticket ε κ
  | waiting => answered a
  | t => t

/-- The connection that belongs to a ticket. -/
def connection? : Ticket ε κ → Option κ
  | answered (.ok c) | holding c => some c
  | _ => none

end Ticket

namespace Pool

variable {ε κ : Type}

/-- A ticket by its number; those that have never been given count as closed. -/
def ticket (p : Pool ε κ) (n : Nat) : Ticket ε κ :=
  p.tickets.getD n .closed

/-- The pool with another state of a ticket. -/
def setTicket (p : Pool ε κ) (n : Nat) (t : Ticket ε κ) : Pool ε κ :=
  { p with tickets := p.tickets.set n t }

/-- The pool with a message more. -/
def send (p : Pool ε κ) (m : Message κ) : Pool ε κ :=
  { p with inbox := p.inbox ++ [m] }

/-- The number of a new ticket, and the pool with it. -/
def enter (p : Pool ε κ) : Nat × Pool ε κ :=
  (p.tickets.length, { p with tickets := p.tickets ++ [.fresh] })

/-- Asks the worker the first time, and looks for its answer from then on. -/
def inquire (p : Pool ε κ) (n : Nat) : Inquiry ε κ × Pool ε κ :=
  match p.ticket n with
  | .fresh => (.pending, (p.setTicket n .waiting).send (.acquire n))
  | .answered (.ok c) => (.granted c, p.setTicket n (.holding c))
  | .answered (.error e) => (.refused e, p.setTicket n .closed)
  | .waiting | .holding _ | .closed => (.pending, p)

/-- Gives up a ticket that is not held yet. -/
def cancel (p : Pool ε κ) (n : Nat) : Pool ε κ :=
  match p.ticket n with
  | .answered (.ok c) => (p.setTicket n .closed).send (.release c)
  | .fresh | .waiting | .answered (.error _) => p.setTicket n .closed
  | .holding _ | .closed => p

/-- Changes the connection that is held at a ticket. -/
def use (p : Pool ε κ) (n : Nat) (change : κ → κ) : Pool ε κ :=
  match p.ticket n with
  | .holding c => p.setTicket n (.holding (change c))
  | _ => p

/-- Gives the connection back that is held at a ticket. -/
def giveBack (p : Pool ε κ) (n : Nat) : Pool ε κ :=
  match p.ticket n with
  | .holding c => (p.setTicket n .closed).send (.release c)
  | _ => p

/-- Ends the opening of a connection. -/
def conclude (p : Pool ε κ) (result : Except ε κ) : Pool ε κ :=
  match p.attempt with
  | some .planned | some .underWay => { p with attempt := some (.finished result) }
  | _ => p

/-- Wakes the worker. -/
def wake (p : Pool ε κ) : Pool ε κ :=
  match p.activity with
  | .rest => { p with activity := .readMessages }
  | _ => p

end Pool

end ThinClient
