import ThinClient.Proofs.Pool.Events
import ThinClient.Rehearsal.Network

/-!
# How many connections are open

The worker keeps a count of the open connections, by which it decides whether it may open another.
It adds one where an attempt ends with a connection, and takes one off where it lets go of a broken
connection; connections come and go between the idle ones, tickets and messages without it.

* `Accounted` is what holds at all times: the count is the number of connections that are open, and
  leaves room for the one that is being opened.
* `step_accounted` is that every event keeps it, by what `step_change` says of the event.
* `run_actives`: **the count is right at every moment of every run**, it stays within the limit
  together with the attempt, and it is not zero where the worker takes one off.
-/

namespace ThinClient.Pool

variable {ε κ : Type} [Breakable κ] {p q : Pool ε κ}

/-- The worker's count is that of the open connections, and there is room for an attempt. -/
structure Accounted (p : Pool ε κ) : Prop where
  actives_eq : p.actives = p.everywhere.length
  actives_add_connecting_le : p.actives + p.connecting ≤ p.limit

/-- A change keeps the account, where the limit stays. -/
theorem Change.accounted (h : Change p q) (hlimit : q.limit = p.limit) (hp : p.Accounted) :
    q.Accounted := by
  obtain ⟨hactives, hroom⟩ := hp
  cases h with
  | moved hopen hsame hconnecting =>
    refine ⟨?_, by omega⟩
    rw [hsame, hactives, hopen.length_eq]
  | used c c' others hbefore hafter hsame hconnecting =>
    refine ⟨?_, by omega⟩
    rw [hsame, hactives, hbefore.length_eq, hafter.length_eq]
    rfl
  | begun hless hnone hopen hsame =>
    have hone := connecting_le_one q
    refine ⟨?_, by omega⟩
    rw [hsame, hactives, hopen.length_eq]
  | opened c hattempt hnone hopen hmore =>
    have hone : p.connecting = 1 := by simp [connecting, hattempt]
    have hzero : q.connecting = 0 := by simp [connecting, hnone]
    have hlength := hopen.length_eq
    rw [List.length_cons] at hlength
    exact ⟨by omega, by omega⟩
  | discarded c hbroken hopen hless hconnecting =>
    have hlength := hopen.length_eq
    rw [List.length_cons] at hlength
    exact ⟨by omega, by omega⟩

/-! ## The limit -/

theorem work_limit (p : Pool ε κ) : p.work.limit = p.limit := by
  unfold work read takeBack checkAttempt refuseFirst serveQueue offer
  repeat' split
  all_goals rfl

theorem step_limit (p : Pool ε κ) (e : Event ε κ) : (p.step e).limit = p.limit := by
  rcases e.isCallers_or with he | ⟨result, rfl⟩ | rfl | rfl
  · obtain ⟨tickets, inbox, hstep⟩ := p.step_of_isCallers he
    rw [hstep]
  · simp only [step, conclude]
    split <;> rfl
  · simp only [step, wake]
    split <;> rfl
  · exact work_limit p

theorem step_accounted (p : Pool ε κ) (e : Event ε κ) (hp : p.Accounted) : (p.step e).Accounted :=
  (step_change p e).accounted (step_limit p e) hp

/-! ## Runs -/

theorem run_limit (limit : Nat) (events : List (Event ε κ)) :
    (({ limit } : Pool ε κ).run events).limit = limit :=
  run_induction (P := fun p => p.limit = limit) (fun p e hp => (step_limit p e).trans hp) rfl events

omit [Breakable κ] in
theorem start_accounted (limit : Nat) : ({ limit } : Pool ε κ).Accounted :=
  ⟨rfl, by simp [connecting]⟩

theorem run_accounted (limit : Nat) (events : List (Event ε κ)) :
    (({ limit } : Pool ε κ).run events).Accounted :=
  run_induction step_accounted (start_accounted limit) events

/-- **The worker's count is right at every moment of every run.** It is the number of connections
that are idle, in the hand of the worker or outside it; with the attempt it stays within the limit;
and it counts one at least where the worker reads that a broken connection was given back. -/
theorem run_actives (limit : Nat) (events : List (Event ε κ)) :
    let p := ({ limit } : Pool ε κ).run events
    p.actives = p.idle.length + p.inHand.length + p.outside.length ∧
      ((∀ n c, p.activity ≠ .offer n c) → p.actives = p.idle.length + p.outside.length) ∧
      p.actives + p.connecting ≤ limit ∧
      ∀ c inbox, p.activity = .readMessages → p.inbox = .release c :: inbox →
        Breakable.isBroken c = true → 0 < p.actives ∧ p.work.actives = p.actives - 1 := by
  intro p
  have hp : p.Accounted := run_accounted limit events
  have hlimit : p.limit = limit := run_limit limit events
  clear_value p
  have hcount : p.actives = p.idle.length + p.inHand.length + p.outside.length := by
    simpa [everywhere, Nat.add_assoc] using hp.actives_eq
  refine ⟨hcount, ?_, hlimit ▸ hp.actives_add_connecting_le, ?_⟩
  · intro hoffer
    simpa [inHand_eq_nil hoffer] using hcount
  · intro c inbox hactivity hinbox hbroken
    have hopen := (everywhere_of_inbox hinbox).length_eq
    rw [List.length_cons, ← hp.actives_eq] at hopen
    refine ⟨by omega, ?_⟩
    simp [work, hactivity, hinbox, read, takeBack, hbroken, tell]

/-- A connection that an exchange has broken. -/
def wreck : Rehearsal.Lease :=
  ⟨0, { stream := { peer := {} }, config := .default, phase := .broken }⟩

/-- One caller gets the only connection, breaks it and gives it back, and the worker wakes up. -/
def wreckReturned : Pool Error Rehearsal.Lease :=
  Pool.run { limit := 1 } [.enter, .inquire 0, .wake, .work, .work, .work, .work, .work, .work,
    .work, .conclude (.ok { wreck with connection.phase := .ready }), .wake, .work, .work, .work,
    .work, .work, .inquire 0, .use 0 fun _ => wreck, .giveBack 0, .wake]

theorem run_actives_wreckReturned :
    0 < wreckReturned.actives ∧ wreckReturned.work.actives = wreckReturned.actives - 1 :=
  (run_actives 1 _).2.2.2 wreck [] rfl rfl rfl

end ThinClient.Pool
