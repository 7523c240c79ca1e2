import ThinClient.Proofs.Pool.Order

/-!
# Failures that nobody hears of

When a connection cannot be opened, the worker answers the first ticket of its queue with the
failure. The worker passes over tickets that were given up when it serves its queue, but not here,
so it matters whether the first ticket can have been given up.

* `foremost` are the tickets that can be the first one of the queue when an attempt fails.
  `step_foremost` says that a ticket comes among them only while it waits.
* `GivenUpSince` is a ticket of a run that was given up under the attempt that is still there, and
  `run_foremost` that the foremost tickets wait or were given up so.
* `run_refused`: **where an attempt fails, the oldest ticket that waits is answered with the failure
  unless the first ticket of the queue was given up under this very attempt**. Then the failure is
  lost, and the oldest ticket goes on waiting.
-/

namespace ThinClient.Pool

variable {ε κ : Type} {p q : Pool ε κ} {e : Event ε κ} {n : Nat} {more : List Nat}

/-! ## The tickets that come first -/

/-- The tickets that can be the first one of the queue when the worker looks at its attempt the next
time. In the midst of its queue it still passes over tickets, so only those count then of which it
has not heard. -/
def foremost (p : Pool ε κ) : List Nat :=
  match p.activity with
  | .readMessages => (p.queue ++ p.requested).take 1
  | .checkAttempt | .rest => p.queue.take 1 ++ p.requested
  | .serveQueue | .offer .. => p.requested

theorem foremost_of_reading (h : p.activity = .readMessages) :
    p.foremost = (p.queue ++ p.requested).take 1 := by
  simp only [foremost, h]

theorem foremost_of_idling (h : p.activity = .checkAttempt ∨ p.activity = .rest) :
    p.foremost = p.queue.take 1 ++ p.requested := by
  rcases h with h | h <;> simp only [foremost, h]

theorem foremost_of_serving (h : p.activity = .serveQueue ∨ ∃ n c, p.activity = .offer n c) :
    p.foremost = p.requested := by
  rcases h with h | ⟨n, c, h⟩ <;> simp only [foremost, h]

theorem activity_cases (p : Pool ε κ) :
    p.activity = .readMessages ∨ (p.activity = .checkAttempt ∨ p.activity = .rest) ∨
      p.activity = .serveQueue ∨ ∃ n c, p.activity = .offer n c := by
  cases p.activity <;> simp

theorem mem_of_foremost (h : n ∈ p.foremost) : n ∈ p.queue ++ p.requested := by
  rcases activity_cases p with hp | hp | hp
  · rw [foremost_of_reading hp] at h
    exact List.mem_of_mem_take h
  · rw [foremost_of_idling hp] at h
    exact List.mem_append.mpr ((List.mem_append.mp h).imp_left List.mem_of_mem_take)
  · rw [foremost_of_serving hp] at h
    exact List.mem_append_right _ h

theorem mem_take_one_append {l : List Nat} (h : n ∈ (l ++ more).take 1) :
    n ∈ l.take 1 ∨ n ∈ more := by
  cases l with
  | nil => exact .inr (List.mem_of_mem_take h)
  | cons first l => exact .inl h

/-- While the worker does nothing, only tickets that ask in new messages can come among the
foremost. -/
theorem foremost_of_requested (hactivity : q.activity = p.activity) (hqueue : q.queue = p.queue)
    (hrequested : q.requested = p.requested ++ more) (h : n ∈ q.foremost) :
    n ∈ p.foremost ∨ n ∈ more := by
  rcases activity_cases p with hp | hp | hp
  · rw [foremost_of_reading (hactivity ▸ hp), hqueue, hrequested, ← List.append_assoc] at h
    rw [foremost_of_reading hp]
    exact mem_take_one_append h
  · rw [foremost_of_idling (hactivity ▸ hp), hqueue, hrequested, ← List.append_assoc] at h
    rw [foremost_of_idling hp]
    exact List.mem_append.mp h
  · rw [foremost_of_serving (hactivity ▸ hp), hrequested] at h
    rw [foremost_of_serving hp]
    exact List.mem_append.mp h

theorem foremost_of_wake (h : n ∈ p.wake.foremost) : n ∈ p.foremost := by
  unfold wake at h
  split at h
  next hrest =>
    rw [foremost_of_reading rfl] at h
    rw [foremost_of_idling (.inr hrest)]
    exact List.mem_append.mpr (mem_take_one_append h)
  next => exact h

theorem conclude_attempt_isSome (p : Pool ε κ) (result : Except ε κ) :
    (p.conclude result).attempt.isSome = p.attempt.isSome := by
  unfold conclude
  split
  next h => simp [h]
  next h => simp [h]
  next => rfl

theorem conclude_foremost (p : Pool ε κ) (result : Except ε κ) :
    (p.conclude result).foremost = p.foremost := by
  obtain ⟨attempt, hconclude⟩ := p.exists_conclude_eq result
  rw [hconclude]
  rfl

/-- The worker comes from its queue to rest with nothing before it or a ticket that waits, begins an
attempt for a ticket that waits, or goes on with its queue. -/
theorem foremost_of_serveQueue (hp : p.activity = .serveQueue) (h : n ∈ p.serveQueue.foremost) :
    p.serveQueue.ticket n = .waiting ∨ p.serveQueue.attempt = p.attempt ∧ n ∈ p.foremost := by
  rw [foremost_of_serving (.inl hp)]
  revert h
  unfold serveQueue
  split
  next hqueue =>
    rw [foremost_of_idling (.inr rfl)]
    dsimp only
    rw [hqueue]
    exact fun h => .inr ⟨rfl, h⟩
  next m queue hqueue =>
    split
    next hwaiting =>
      rw [Ticket.isWaiting_iff] at hwaiting
      split
      next c idle _ =>
        rw [foremost_of_serving (.inr ⟨m, c, rfl⟩)]
        exact fun h => .inr ⟨rfl, h⟩
      next =>
        split
        next =>
          rw [foremost_of_reading rfl]
          dsimp only
          rw [hqueue]
          intro h
          rw [List.mem_singleton.mp h]
          exact .inl hwaiting
        next =>
          rw [foremost_of_idling (.inr rfl)]
          dsimp only
          rw [hqueue]
          intro h
          rcases List.mem_cons.mp h with rfl | h
          · exact .inl hwaiting
          · exact .inr ⟨rfl, h⟩
    next =>
      have hrest : { p with queue }.foremost = p.requested := foremost_of_serving (.inl hp)
      rw [hrest]
      exact fun h => .inr ⟨rfl, h⟩

/-- The oldest ticket of the queue that waits. -/
def oldest? (p : Pool ε κ) : Option Nat :=
  p.queue.find? fun n => (p.ticket n).isWaiting

theorem oldest?_of_waiting {rest : List Nat} (hqueue : p.queue = n :: rest)
    (hwaiting : p.ticket n = .waiting) : p.oldest? = some n := by
  rw [oldest?, hqueue]
  exact List.find?_cons_of_pos (Ticket.isWaiting_iff.mpr hwaiting)

theorem mem_of_oldest? {m : Nat} {rest : List Nat} (hqueue : p.queue = n :: rest)
    (hfirst : p.ticket n ≠ .waiting) (h : p.oldest? = some m) :
    m ∈ rest ∧ p.ticket m = .waiting := by
  have hnot : ¬ (p.ticket n).isWaiting := fun h => hfirst (Ticket.isWaiting_iff.mp h)
  rw [oldest?, hqueue, List.find?_cons_of_neg (p := fun n => (p.ticket n).isWaiting) hnot] at h
  have hwaiting := List.find?_some (p := fun n => (p.ticket n).isWaiting) h
  exact ⟨List.mem_of_find?_eq_some h, Ticket.isWaiting_iff.mp hwaiting⟩

variable [Breakable κ]

theorem foremost_of_isCallers (he : e.isCallers = true) (h : n ∈ (p.step e).foremost) :
    (p.step e).ticket n = .waiting ∨ n ∈ p.foremost := by
  have hhears : p.hears e = [] := by cases e <;> first | rfl | cases he
  obtain ⟨tickets, inbox, hstep⟩ := p.step_of_isCallers he
  have hactivity : (p.step e).activity = p.activity := by rw [hstep]
  have hqueue : (p.step e).queue = p.queue := by rw [hstep]
  have hrequested := step_requested p e
  rw [hhears, List.nil_append] at hrequested
  rcases hrequested with hsame | ⟨m, -, hwaiting, hmore⟩
  · rw [← List.append_nil p.requested] at hsame
    exact .inr ((foremost_of_requested hactivity hqueue hsame h).resolve_right List.not_mem_nil)
  · rcases foremost_of_requested hactivity hqueue hmore h with hold | hnew
    · exact .inr hold
    · rw [List.mem_singleton.mp hnew]
      exact .inl hwaiting

/-- A message that is read changes nothing, since what the worker has heard of and what it has yet
to hear of stay one list. -/
theorem foremost_of_read (hp : p.activity = .readMessages) (h : n ∈ p.work.foremost) :
    n ∈ p.foremost := by
  rw [foremost_of_reading hp]
  cases hinbox : p.inbox with
  | nil =>
    have hwork : p.work = { p with activity := .checkAttempt } := by simp only [work, hp, hinbox]
    have hnone : p.requested = [] := by simp [requested, hinbox]
    have hrequested : p.work.requested = [] := by rw [hwork]; exact hnone
    have hqueue : p.work.queue = p.queue := by rw [hwork]
    rw [foremost_of_idling (.inl (by rw [hwork])), hrequested, hqueue, List.append_nil] at h
    rwa [hnone, List.append_nil]
  | cons m inbox =>
    have hwork : p.work = { p with inbox }.read m := by simp only [work, hp, hinbox]
    have hrequested := read_requested hinbox
    have hread : ({ p with inbox }.read m).activity = .readMessages ∧
        ({ p with inbox }.read m).queue = p.queue ++ m.ticket?.toList := by
      cases m with
      | acquire n => exact ⟨hp, rfl⟩
      | release c => exact ⟨by simpa [read] using hp, by simp [read, Message.ticket?]⟩
    rw [hwork, foremost_of_reading hread.1, hread.2, List.append_assoc, hrequested] at h
    exact h

theorem foremost_of_work (hattempt : p.work.attempt.isSome) (h : n ∈ p.work.foremost) :
    p.work.ticket n = .waiting ∨ p.attempt.isSome ∧ n ∈ p.foremost := by
  have hrequested := work_requested p
  cases hp : p.activity with
  | readMessages =>
    have hsame : p.work.attempt = p.attempt := by
      cases hinbox : p.inbox with
      | nil => simp [work, hp, hinbox]
      | cons m inbox => cases m <;> simp [work, hp, hinbox, read]
    exact .inr ⟨hsame ▸ hattempt, foremost_of_read hp h⟩
  | checkAttempt =>
    rw [hears_eq_nil (by simp [hp]), List.nil_append] at hrequested
    rw [foremost_of_idling (.inl hp), ← hrequested]
    rw [work_of_checkAttempt hp] at hattempt h ⊢
    rw [foremost_of_serving (.inl (by simp))] at h
    rcases checkAttempt_attempt { p with activity := .serveQueue } with hnone | ⟨hsome, -, -⟩
    · simp [hnone] at hattempt
    · exact .inr ⟨hsome, List.mem_append_right _ h⟩
  | serveQueue =>
    rw [work_of_serveQueue hp] at hattempt h ⊢
    rcases foremost_of_serveQueue hp h with hwaiting | ⟨hsame, hold⟩
    · exact .inl hwaiting
    · exact .inr ⟨hsame ▸ hattempt, hold⟩
  | offer m c =>
    rw [hears_eq_nil (by simp [hp]), List.nil_append] at hrequested
    rw [foremost_of_serving (.inr ⟨m, c, hp⟩), ← hrequested]
    rw [work_of_offer hp] at hattempt h ⊢
    rw [foremost_of_serving (.inl (by simp))] at h
    rw [offer_attempt] at hattempt
    exact .inr ⟨hattempt, h⟩
  | rest =>
    rw [work_of_rest hp] at hattempt h
    exact .inr ⟨hattempt, h⟩

/-- **A ticket comes among the foremost only while it waits**, and under an attempt that has just
begun they are all new. -/
theorem step_foremost (hattempt : (p.step e).attempt.isSome) (h : n ∈ (p.step e).foremost) :
    (p.step e).ticket n = .waiting ∨ p.attempt.isSome ∧ n ∈ p.foremost := by
  rcases e.isCallers_or with he | ⟨result, rfl⟩ | rfl | rfl
  · obtain ⟨tickets, inbox, hstep⟩ := p.step_of_isCallers he
    rw [hstep] at hattempt
    exact (foremost_of_isCallers he h).imp_right fun hold => ⟨hattempt, hold⟩
  · have hsome : (p.conclude result).attempt.isSome := hattempt
    have hold : n ∈ (p.conclude result).foremost := h
    rw [conclude_attempt_isSome] at hsome
    rw [conclude_foremost] at hold
    exact .inr ⟨hsome, hold⟩
  · have hsame : p.wake.attempt = p.attempt := by
      unfold wake
      split <;> rfl
    exact .inr ⟨hsame ▸ hattempt, foremost_of_wake h⟩
  · exact foremost_of_work hattempt h

/-! ## Runs -/

/-- Whether a ticket that waited was given up in a run under the attempt that is still there. -/
def GivenUpSince (p : Pool ε κ) (events : List (Event ε κ)) (n : Nat) : Prop :=
  ∃ earlier later, events = earlier ++ .cancel n :: later ∧
    (p.run earlier).ticket n = .waiting ∧
    ∀ since, since <+: .cancel n :: later → (p.run (earlier ++ since)).attempt.isSome

variable {events : List (Event ε κ)}

theorem GivenUpSince.append_singleton (h : p.GivenUpSince events n)
    (he : (p.run (events ++ [e])).attempt.isSome) : p.GivenUpSince (events ++ [e]) n := by
  obtain ⟨earlier, later, rfl, hwaiting, hsince⟩ := h
  refine ⟨earlier, later ++ [e], by simp, hwaiting, fun since hprefix => ?_⟩
  rw [← List.cons_append] at hprefix
  rcases List.prefix_concat_iff.mp hprefix with rfl | hprefix
  · simpa using he
  · exact hsince since hprefix

theorem givenUpSince_of_cancel (hwaiting : (p.run events).ticket n = .waiting)
    (hbefore : (p.run events).attempt.isSome)
    (hafter : (p.run (events ++ [.cancel n])).attempt.isSome) :
    p.GivenUpSince (events ++ [.cancel n]) n := by
  refine ⟨events, [], rfl, hwaiting, fun since hprefix => ?_⟩
  rcases List.prefix_cons_iff.mp hprefix with rfl | ⟨rest, rfl, hrest⟩
  · rw [List.append_nil]
    exact hbefore
  · rw [List.prefix_nil.mp hrest]
    exact hafter

/-- Under an attempt the foremost tickets wait, or were given up under this attempt. -/
theorem run_foremost (limit : Nat) (events : List (Event ε κ))
    (hattempt : (Pool.run { limit } events).attempt.isSome)
    (hn : n ∈ (Pool.run { limit } events).foremost) :
    (Pool.run { limit } events).ticket n = .waiting ∨
      Pool.GivenUpSince { limit } events n := by
  induction events using List.reverseRecOn with
  | nil => simp at hattempt
  | append_singleton events e ih =>
    have hrun := run_append_singleton ({ limit } : Pool ε κ) events e
    rw [hrun] at hn
    rcases step_foremost (hrun ▸ hattempt) hn with hwaiting | ⟨hbefore, hold⟩
    · rw [hrun]
      exact .inl hwaiting
    rcases ih hbefore hold with hwaiting | hgone
    · have hopen : (Pool.run { limit } events).ticket n ≠ .closed := by simp [hwaiting]
      have hturn := step_turn (Pool.run { limit } events) e (lt_of_ticket_ne_closed hopen)
      rw [hwaiting, ← hrun] at hturn
      rcases hturn.of_waiting with hstill | rfl | ⟨-, a, hanswered⟩
      · exact .inl hstill
      · exact .inr (givenUpSince_of_cancel hwaiting hbefore hattempt)
      · -- The worker has no ticket before it that it has answered.
        have hasked : n ∈ (Pool.run { limit } (events ++ [e])).asked := by
          rw [hrun, asked, List.append_assoc]
          exact List.mem_append_right _ (mem_of_foremost hn)
        have hunanswered := ((run_tended limit (events ++ [e])).unanswered n hasked).2
        simp [hanswered] at hunanswered
    · exact .inr (hgone.append_singleton hattempt)

/-- The worker answers the first ticket of its queue with the failure, whether it waits or not. -/
theorem work_of_failed {error : ε} {rest : List Nat} (hactivity : p.activity = .checkAttempt)
    (hattempt : p.attempt = some (.finished (.error error))) (hqueue : p.queue = n :: rest) :
    p.work.queue = rest ∧ p.work.tickets = (p.answer n (.error error)).tickets := by
  rw [work_of_checkAttempt hactivity]
  simp only [checkAttempt, hattempt, refuseFirst, tell, hqueue]
  exact ⟨rfl, rfl⟩

/-- A first ticket that waits gets the failure, and nobody else does. -/
theorem ticket_of_refused {error : ε} {rest : List Nat} (hactivity : p.activity = .checkAttempt)
    (hattempt : p.attempt = some (.finished (.error error))) (hqueue : p.queue = n :: rest)
    (hwaiting : p.ticket n = .waiting) (m : Nat) :
    p.work.ticket m = if m = n then .answered (.error error) else p.ticket m := by
  have htickets := (work_of_failed hactivity hattempt hqueue).2
  have hopen : p.ticket n ≠ .closed := by simp [hwaiting]
  rw [ticket_of_set htickets (lt_of_ticket_ne_closed hopen), hwaiting]
  rfl

/-- With a first ticket that does not wait the failure is lost. -/
theorem tickets_of_lost {error : ε} {rest : List Nat} (hactivity : p.activity = .checkAttempt)
    (hattempt : p.attempt = some (.finished (.error error))) (hqueue : p.queue = n :: rest)
    (hfirst : p.ticket n ≠ .waiting) : p.work.tickets = p.tickets := by
  rw [(work_of_failed hactivity hattempt hqueue).2, answer, Ticket.answer_of_ne_waiting hfirst,
    setTicket_self]

/-- **Where an attempt fails while a ticket waits in the queue, the oldest one of these is answered
with the failure, and every other ticket stays as it is, unless the first ticket of the queue was
given up under this very attempt.** Then that one is taken from the queue, no ticket is answered,
and the oldest ticket goes on waiting in the queue. -/
theorem run_refused (limit : Nat) (events : List (Event ε κ)) (error : ε) (oldest : Nat)
    (hactivity : (Pool.run { limit } events).activity = .checkAttempt)
    (hattempt : (Pool.run { limit } events).attempt = some (.finished (.error error)))
    (holdest : (Pool.run { limit } events).oldest? = some oldest) :
    ∃ first rest, (Pool.run { limit } events).queue = first :: rest ∧
      (Pool.run { limit } (events ++ [.work])).queue = rest ∧
      ((first = oldest ∧
          (Pool.run { limit } (events ++ [.work])).ticket oldest = .answered (.error error) ∧
          ∀ n, n ≠ oldest → (Pool.run { limit } (events ++ [.work])).ticket n =
            (Pool.run { limit } events).ticket n) ∨
        Pool.GivenUpSince { limit } events first ∧ oldest ∈ rest ∧
          (Pool.run { limit } events).ticket oldest = .waiting ∧
          (Pool.run { limit } (events ++ [.work])).tickets =
            (Pool.run { limit } events).tickets) := by
  have hforemost := fun n => run_foremost (n := n) limit events (by simp [hattempt])
  rw [run_append_singleton]
  generalize Pool.run { limit } events = p at *
  cases hqueue : p.queue with
  | nil => simp [oldest?, hqueue] at holdest
  | cons first rest =>
    refine ⟨first, rest, rfl, (work_of_failed hactivity hattempt hqueue).1, ?_⟩
    by_cases hfirst : p.ticket first = .waiting
    · left
      rw [oldest?_of_waiting hqueue hfirst] at holdest
      cases holdest
      have hticket := ticket_of_refused hactivity hattempt hqueue hfirst
      exact ⟨rfl, (hticket oldest).trans (if_pos rfl), fun n hn => (hticket n).trans (if_neg hn)⟩
    · right
      obtain ⟨hmem, hwaiting⟩ := mem_of_oldest? hqueue hfirst holdest
      have hgone := hforemost first (by simp [foremost_of_idling (.inl hactivity), hqueue])
      exact ⟨hgone.resolve_left hfirst, hmem, hwaiting,
        tickets_of_lost hactivity hattempt hqueue hfirst⟩

/-- Two callers ask, and an attempt is under way for the first one. -/
def twoAsk : List (Event Error Rehearsal.Lease) :=
  .flatten [[.enter, .enter, .inquire 0, .inquire 1, .wake], .replicate 8 .work]

/-- The other end hangs up before the handshake is over. -/
def hangUp : Error :=
  TransportError.io .unexpectedEof

/-- An attempt fails so, and the worker is about to see that. -/
def hangsUp : List (Event Error Rehearsal.Lease) :=
  [.conclude (.error hangUp), .wake, .work]

/-- Both callers wait when it fails. -/
def hangsUpOnBoth : List (Event Error Rehearsal.Lease) :=
  twoAsk ++ hangsUp

/-- The first caller has not given up, and gets the failure. -/
theorem run_refused_twoAsk :
    (Pool.run { limit := 1 } (hangsUpOnBoth ++ [.work])).ticket 0 = .answered (.error hangUp) := by
  have hactivity : (Pool.run { limit := 1 } hangsUpOnBoth).activity = .checkAttempt := by cbv
  have hattempt : (Pool.run { limit := 1 } hangsUpOnBoth).attempt =
      some (.finished (.error hangUp)) := by cbv
  have holdest : (Pool.run { limit := 1 } hangsUpOnBoth).oldest? = some 0 := by cbv
  have hqueue : (Pool.run { limit := 1 } hangsUpOnBoth).queue = [0, 1] := by cbv
  obtain ⟨first, rest, hsplit, -, hrefused⟩ :=
    run_refused 1 hangsUpOnBoth _ 0 hactivity hattempt holdest
  rw [hqueue] at hsplit
  cases hsplit
  rcases hrefused with ⟨-, hanswered, -⟩ | ⟨-, hmem, -⟩
  · exact hanswered
  · simp at hmem

/-- The first caller has given up when it fails. -/
def hangsUpOnSecond : List (Event Error Rehearsal.Lease) :=
  twoAsk ++ .cancel 0 :: hangsUp

/-- The attempt has failed, the second caller waits before and after the worker sees that, and
nobody gets the failure. -/
theorem refusal_lost :
    (Pool.run { limit := 1 } hangsUpOnSecond).attempt = some (.finished (.error hangUp)) ∧
      (Pool.run { limit := 1 } hangsUpOnSecond).oldest? = some 1 ∧
      (Pool.run { limit := 1 } (hangsUpOnSecond ++ [.work])).attempt = none ∧
      (Pool.run { limit := 1 } (hangsUpOnSecond ++ [.work])).tickets = [.closed, .waiting] := by
  refine ⟨?_, ?_, ?_, ?_⟩ <;> cbv

end ThinClient.Pool
