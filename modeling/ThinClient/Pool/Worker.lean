import ThinClient.Pool.Basic

/-!
# The worker of a pool

The worker rests until it is woken. It then reads all messages, looks at the connection that is
being opened, and serves the waiting tickets with the connections that nobody holds. If a ticket is
left for which there is none, and the limit allows it, the worker starts to open a connection and
begins again with the messages. Tickets that were given up are passed over.

* `Pool.work` is one step of the worker, between two of which callers can do anything.
* `Pool.poll` is all that the worker does until it rests, if callers do nothing meanwhile. It ends,
  since every attempt to open a connection is for a ticket that waits, and an attempt that is over
  takes a ticket from the queue.
-/

namespace ThinClient.Pool

variable {ε κ : Type}

/-- The pool with the worker's answer to a ticket. -/
def answer (p : Pool ε κ) (n : Nat) (a : Except ε κ) : Pool ε κ :=
  p.setTicket n ((p.ticket n).answer a)

/-- The pool with one more thing told. -/
def tell (p : Pool ε κ) (notice : Notice ε κ) : Pool ε κ :=
  { p with notices := p.notices ++ [notice] }

/-- Takes a connection back, and lets go of it if it is broken. -/
def takeBack [Breakable κ] (p : Pool ε κ) (c : κ) : Pool ε κ :=
  if Breakable.isBroken c then { p with actives := p.actives - 1 }.tell (.discarded c)
  else { p with idle := c :: p.idle }

/-- Reads a message. -/
def read [Breakable κ] (p : Pool ε κ) : Message κ → Pool ε κ
  | .acquire n => { p with queue := p.queue ++ [n] }
  | .release c => p.takeBack c

/-- Answers the oldest ticket of the queue with a failure. -/
def refuseFirst (p : Pool ε κ) (e : ε) : Pool ε κ :=
  match p.queue with
  | [] => p
  | n :: queue => { p with queue }.answer n (.error e)

/-- Looks at the connection that is being opened. -/
def checkAttempt (p : Pool ε κ) : Pool ε κ :=
  match p.attempt with
  | none => p
  | some .planned | some .underWay => { p with attempt := some .underWay }
  | some (.finished (.ok c)) =>
    { p with attempt := none, actives := p.actives + 1, idle := c :: p.idle }
  | some (.finished (.error e)) =>
    ({ p with attempt := none }.tell (.connectFailed e)).refuseFirst e

/-- Takes the oldest ticket of the queue and finds a connection for it. -/
def serveQueue (p : Pool ε κ) : Pool ε κ :=
  match p.queue with
  | [] => { p with activity := .rest }
  | n :: queue =>
    if (p.ticket n).isWaiting then
      match p.idle with
      | c :: idle => { p with queue, idle, activity := .offer n c }
      | [] =>
        if p.attempt.isNone ∧ p.actives < p.limit then
          { p with attempt := some .planned, attempts := p.attempts + 1, activity := .readMessages }
        else { p with activity := .rest }
    else { p with queue }

/-- Answers a ticket with a connection, which stays with the worker if the ticket was given up. -/
def offer (p : Pool ε κ) (n : Nat) (c : κ) : Pool ε κ :=
  if (p.ticket n).isWaiting then p.answer n (.ok c) else { p with idle := c :: p.idle }

/-- One step of the worker. -/
def work [Breakable κ] (p : Pool ε κ) : Pool ε κ :=
  match p.activity with
  | .readMessages =>
    match p.inbox with
    | m :: inbox => { p with inbox }.read m
    | [] => { p with activity := .checkAttempt }
  | .checkAttempt => { p with activity := .serveQueue }.checkAttempt
  | .serveQueue => p.serveQueue
  | .offer n c => { p with activity := .serveQueue }.offer n c
  | .rest => p

/-- The pool after the opening of a connection has begun, which can end at once. -/
def begin (dial : Nat → Option (Except ε κ)) (p : Pool ε κ) : Pool ε κ :=
  match p.activity, p.attempt with
  | .checkAttempt, some .planned =>
    match dial p.attempts with
    | some result => p.conclude result
    | none => p
  | _, _ => p

/-- The tickets and messages that the worker has before it. -/
def burden (p : Pool ε κ) : Nat :=
  p.queue.length + p.inbox.length

/-- How far the worker is from its rest, as long as its burden stays the same. -/
def distance (p : Pool ε κ) : Nat :=
  match p.activity with
  | .readMessages => if p.attempt.isSome then 3 + p.inbox.length else 6 + 2 * p.inbox.length
  | .checkAttempt => if p.attempt.isSome then 2 else 5 + p.inbox.length
  | .serveQueue => if p.attempt.isSome ∨ p.idle ≠ [] ∨ p.queue = [] then 1 else 4 + p.inbox.length
  | .offer .. => 5 + p.inbox.length
  | .rest => 0

/-- Whether the worker rests. -/
def isResting (p : Pool ε κ) : Bool :=
  match p.activity with
  | .rest => true
  | _ => false

theorem answer_burden (p : Pool ε κ) (n : Nat) (a : Except ε κ) :
    (p.answer n a).burden = p.burden := rfl

theorem takeBack_burden [Breakable κ] (p : Pool ε κ) (c : κ) :
    (p.takeBack c).burden = p.burden := by
  unfold takeBack
  split <;> rfl

/-- A step of the worker lessens its burden, or brings it nearer to its rest. -/
theorem work_burden_distance [Breakable κ] (p : Pool ε κ) (hp : p.isResting = false) :
    p.work.burden < p.burden ∨ p.work.burden = p.burden ∧ p.work.distance < p.distance := by
  obtain ⟨limit, actives, idle, queue, inbox, attempt, activity, tickets, attempts, notices⟩ := p
  cases activity with
  | rest => simp [isResting] at hp
  | readMessages =>
    cases inbox with
    | nil =>
      refine .inr ⟨rfl, ?_⟩
      cases attempt <;> simp [work, distance]
    | cons m inbox =>
      cases m with
      | acquire n =>
        refine .inr ⟨by simp [work, read, burden]; omega, ?_⟩
        cases attempt <;> simp [work, read, distance]
      | release c =>
        refine .inl ?_
        simp only [work, read, takeBack_burden]
        simp [burden]
  | checkAttempt =>
    cases attempt with
    | none =>
      refine .inr ⟨rfl, ?_⟩
      simp only [work, checkAttempt, distance, Option.isSome_none, Bool.false_eq_true, if_false]
      split <;> omega
    | some attempt =>
      cases attempt with
      | planned | underWay => exact .inr ⟨rfl, by simp [work, checkAttempt, distance]⟩
      | finished result =>
        cases result with
        | ok c => exact .inr ⟨rfl, by simp [work, checkAttempt, distance]⟩
        | error e =>
          cases queue with
          | nil => exact .inr ⟨rfl, by simp [work, checkAttempt, tell, refuseFirst, distance]⟩
          | cons n queue =>
            refine .inl ?_
            simp only [work, checkAttempt, tell, refuseFirst, answer_burden]
            simp [burden]
  | serveQueue =>
    cases queue with
    | nil => exact .inr ⟨rfl, by simp [work, serveQueue, distance]⟩
    | cons n queue =>
      simp only [work, serveQueue]
      split
      · cases idle with
        | cons c idle => exact .inl (by simp [burden])
        | nil =>
          dsimp only
          split
          · rename_i hstart
            simp only [Option.isNone_iff_eq_none] at hstart
            exact .inr ⟨rfl, by simp [distance, hstart.1]⟩
          · refine .inr ⟨rfl, ?_⟩
            simp only [distance]
            split <;> omega
      · exact .inl (by simp [burden])
  | offer n c =>
    simp only [work, offer]
    have hserve (q : Pool ε κ) (hq : q.activity = .serveQueue) (hin : q.inbox = inbox) :
        q.distance < 5 + inbox.length := by
      simp only [distance, hq, hin]
      split <;> omega
    split <;> exact .inr ⟨rfl, hserve _ rfl rfl⟩

theorem begin_burden (dial : Nat → Option (Except ε κ)) (p : Pool ε κ) :
    (p.begin dial).burden = p.burden := by
  unfold begin conclude
  repeat' split
  all_goals rfl

theorem begin_distance (dial : Nat → Option (Except ε κ)) (p : Pool ε κ) :
    (p.begin dial).distance = p.distance := by
  unfold begin conclude
  repeat' split
  all_goals simp_all [distance]

theorem begin_isResting (dial : Nat → Option (Except ε κ)) (p : Pool ε κ) :
    (p.begin dial).isResting = p.isResting := by
  unfold begin conclude
  repeat' split
  all_goals rfl

/-- All that the worker does until it rests, where the opening of a connection ends at once if
`dial` says how, for the number of the attempt. -/
def poll [Breakable κ] (dial : Nat → Option (Except ε κ)) (p : Pool ε κ) : Pool ε κ :=
  if _hp : p.isResting then p else poll dial (p.begin dial).work
termination_by (p.burden, p.distance)
decreasing_by
  have := work_burden_distance (p.begin dial) (by simpa [begin_isResting] using _hp)
  rw [begin_burden, begin_distance] at this
  rcases this with hburden | ⟨hburden, hdistance⟩
  · exact .left _ _ hburden
  · rw [hburden]
    exact .right _ hdistance

end ThinClient.Pool
