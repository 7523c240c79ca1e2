import Mathlib
import ThinClient.Proofs.Pool.Accounting

/-!
# Tickets that wait

A ticket waits from when its caller has asked until the worker answers or the caller gives it up.
Until then the worker has its number: in a message, in the queue, or in hand.

* `asked` are the tickets that the worker has before it, in the order in which it comes to them, and
  `Course` is what an event does to them. `Tended` is what holds of them at all times: none is there
  twice, none has been answered, and none that waits is missing.
* `Served` is that the worker does not rest while it could do something for a ticket of its queue.
* `Attended` says of a run that the worker has looked at its attempt before it came to rest, and
  found it under way.
* `run_waiting`: **no ticket waits in vain**. Where the worker rests and a ticket of its queue
  waits, no connection is idle, and one is being opened or there are as many as there may be.
-/

namespace ThinClient

/-- The ticket for which a message asks. -/
def Message.ticket? {κ : Type} : Message κ → Option Nat
  | acquire n => some n
  | release _ => none

namespace Pool

variable {ε κ : Type} {p q : Pool ε κ} {n : Nat}

/-! ## Tickets that the worker has before it -/

/-- The ticket that the worker is about to answer. -/
def offered (p : Pool ε κ) : List Nat :=
  match p.activity with
  | .offer n _ => [n]
  | _ => []

/-- The tickets that ask in messages that the worker has not read. -/
def requested (p : Pool ε κ) : List Nat :=
  p.inbox.filterMap Message.ticket?

/-- The tickets that the worker has before it, in the order in which it comes to them. -/
def asked (p : Pool ε κ) : List Nat :=
  p.offered ++ p.queue ++ p.requested

/-- What an event does to the tickets and to those that the worker has before it. -/
inductive Course (p q : Pool ε κ) : Prop where
  /-- A caller comes. -/
  | enters (htickets : q.tickets = p.tickets ++ [.fresh]) (hasked : q.asked = p.asked)
  /-- A caller asks for the first time. -/
  | asks (n : Nat) (hn : p.ticket n = .fresh)
      (htickets : q.tickets = (p.setTicket n .waiting).tickets)
      (hasked : q.asked = p.asked ++ [n])
  /-- A caller gives its ticket up, or goes on with one that has been answered. -/
  | leaves (n : Nat) (t : Ticket ε κ) (hn : p.ticket n ≠ .closed) (ht : t ≠ .waiting)
      (hwaiting : p.ticket n = .waiting → t = .closed)
      (htickets : q.tickets = (p.setTicket n t).tickets) (hasked : q.asked = p.asked)
  /-- The worker is done with a ticket. -/
  | settles (n : Nat) (t : Ticket ε κ) (ht : t ≠ .waiting)
      (hclosed : p.ticket n = .closed → t = .closed)
      (htickets : q.tickets = (p.setTicket n t).tickets) (hasked : p.asked = n :: q.asked)
  | same (htickets : q.tickets = p.tickets) (hasked : q.asked = p.asked)

/-- What holds of the tickets that the worker has before it. -/
structure Tended (p : Pool ε κ) : Prop where
  nodup : p.asked.Nodup
  unanswered : ∀ n ∈ p.asked, n < p.tickets.length ∧ (p.ticket n = .waiting ∨ p.ticket n = .closed)
  mem_of_waiting : ∀ n, p.ticket n = .waiting → n ∈ p.asked

theorem ticket_congr (h : q.tickets = p.tickets) (n : Nat) : q.ticket n = p.ticket n := by
  rw [ticket, ticket, h]

theorem ticket_of_enters (h : q.tickets = p.tickets ++ [.fresh]) (n : Nat) :
    q.ticket n = if n = p.tickets.length then .fresh else p.ticket n := by
  unfold ticket
  rw [h]
  split
  next hn => simp [hn]
  next hn =>
    rcases Nat.lt_or_gt_of_ne hn with hlt | hgt
    · exact List.getD_append _ _ _ _ hlt
    · have hle : (p.tickets ++ [Ticket.fresh]).length ≤ n := by simp; omega
      rw [List.getD_eq_default _ _ hle, List.getD_eq_default _ _ (Nat.le_of_lt hgt)]

theorem ticket_setTicket (p : Pool ε κ) (n m : Nat) (t : Ticket ε κ) :
    (p.setTicket n t).ticket m = if m = n ∧ n < p.tickets.length then t else p.ticket m := by
  unfold ticket setTicket
  simp only [List.getD_eq_getElem?_getD, List.getElem?_set]
  split
  next h =>
    subst h
    split
    next hlt => simp [hlt]
    next hlt => simp [hlt]
  next h => simp [Ne.symm h]

theorem ticket_of_set {t : Ticket ε κ} (h : q.tickets = (p.setTicket n t).tickets)
    (hlt : n < p.tickets.length) (m : Nat) : q.ticket m = if m = n then t else p.ticket m := by
  rw [ticket_congr h, ticket_setTicket]
  simp [hlt]

theorem length_of_set {t : Ticket ε κ} (h : q.tickets = (p.setTicket n t).tickets) :
    q.tickets.length = p.tickets.length := by
  rw [h]
  exact List.length_set

/-- A ticket that is closed stays so. -/
theorem Course.ticket_closed (h : Course p q) (hlt : n < p.tickets.length)
    (hn : p.ticket n = .closed) : q.ticket n = .closed := by
  have hset {m : Nat} {t : Ticket ε κ} (htickets : q.tickets = (p.setTicket m t).tickets)
      (hm : p.ticket m = .closed → t = .closed) : q.ticket n = .closed := by
    rw [ticket_congr htickets, ticket_setTicket]
    split
    next h => exact hm (h.1 ▸ hn)
    next => exact hn
  cases h with
  | enters htickets =>
    rw [ticket_of_enters htickets, if_neg (by omega)]
    exact hn
  | asks m hm htickets => exact hset htickets (by simp [hm])
  | leaves m t hm _ _ htickets => exact hset htickets fun hclosed => absurd hclosed hm
  | settles m t _ hclosed htickets => exact hset htickets hclosed
  | same htickets => rw [ticket_congr htickets, hn]

theorem Course.tended (h : Course p q) (hp : p.Tended) : q.Tended := by
  obtain ⟨hnodup, hunanswered, hwaiting⟩ := hp
  cases h with
  | enters htickets hasked =>
    refine ⟨hasked ▸ hnodup, fun n hn => ?_, fun n hn => ?_⟩
    · obtain ⟨hlt, hticket⟩ := hunanswered n (hasked ▸ hn)
      rw [ticket_of_enters htickets, if_neg (by omega), htickets, List.length_append]
      exact ⟨by omega, hticket⟩
    · rw [ticket_of_enters htickets] at hn
      split at hn
      next => cases hn
      next => exact hasked ▸ hwaiting n hn
  | asks n hn htickets hasked =>
    have hlt : n < p.tickets.length := lt_of_ticket_ne_closed (by simp [hn])
    have hnew : n ∉ p.asked := by
      intro hmem
      rcases (hunanswered n hmem).2 with h | h <;> simp [hn] at h
    have hticket := ticket_of_set htickets hlt
    refine ⟨?_, fun m hm => ?_, fun m hm => ?_⟩
    · rw [hasked, ← List.concat_eq_append]
      exact hnodup.concat hnew
    · rw [length_of_set htickets, hticket]
      rw [hasked, List.mem_append, List.mem_singleton] at hm
      rcases hm with hm | rfl
      · rw [if_neg fun (h : m = n) => hnew (h ▸ hm)]
        exact hunanswered m hm
      · exact ⟨hlt, .inl (if_pos rfl)⟩
    · rw [hticket] at hm
      rw [hasked, List.mem_append, List.mem_singleton]
      split at hm
      next h => exact .inr h
      next => exact .inl (hwaiting m hm)
  | leaves n t hn ht hsettled htickets hasked =>
    have hlt : n < p.tickets.length := lt_of_ticket_ne_closed hn
    have hticket := ticket_of_set htickets hlt
    refine ⟨hasked ▸ hnodup, fun m hm => ?_, fun m hm => ?_⟩
    · obtain ⟨hmlt, hm⟩ := hunanswered m (hasked ▸ hm)
      rw [length_of_set htickets, hticket]
      refine ⟨hmlt, ?_⟩
      split
      next h => exact .inr (hsettled ((h ▸ hm).resolve_right hn))
      next => exact hm
    · rw [hticket] at hm
      split at hm
      next => exact absurd hm ht
      next => exact hasked ▸ hwaiting m hm
  | settles n t ht hclosed htickets hasked =>
    rw [hasked] at hnodup hunanswered hwaiting
    obtain ⟨hgone, hrest⟩ := List.nodup_cons.mp hnodup
    have hlt := (hunanswered n List.mem_cons_self).1
    have hticket := ticket_of_set htickets hlt
    refine ⟨hrest, fun m hm => ?_, fun m hm => ?_⟩
    · rw [length_of_set htickets, hticket, if_neg fun (h : m = n) => hgone (h ▸ hm)]
      exact hunanswered m (List.mem_cons_of_mem n hm)
    · rw [hticket] at hm
      split at hm
      next => exact absurd hm ht
      next h => exact List.mem_of_ne_of_mem h (hwaiting m hm)
  | same htickets hasked =>
    refine ⟨hasked ▸ hnodup, fun n hn => ?_, fun n hn => ?_⟩
    · rw [ticket_congr htickets, htickets]
      exact hunanswered n (hasked ▸ hn)
    · rw [ticket_congr htickets] at hn
      exact hasked ▸ hwaiting n hn

/-! ## What events do to tickets -/

theorem offered_eq_nil (h : ∀ n c, p.activity ≠ .offer n c) : p.offered = [] := by
  unfold offered
  split
  next n c hactivity => exact absurd hactivity (h n c)
  next => rfl

theorem asked_of_not_offer (h : ∀ n c, p.activity ≠ .offer n c) :
    p.asked = p.queue ++ p.requested := by
  rw [asked, offered_eq_nil h, List.nil_append]

theorem send_acquire_asked (p : Pool ε κ) (n : Nat) :
    (p.send (.acquire n)).asked = p.asked ++ [n] := by
  have hrequested : (p.send (.acquire n)).requested = p.requested ++ [n] := by
    simp [send, requested, Message.ticket?]
  rw [asked, hrequested, ← List.append_assoc]
  rfl

theorem send_release_asked (p : Pool ε κ) (c : κ) : (p.send (.release c)).asked = p.asked := by
  have hrequested : (p.send (.release c)).requested = p.requested := by
    simp [send, requested, Message.ticket?]
  rw [asked, hrequested]
  rfl

theorem inquire_course (p : Pool ε κ) (n : Nat) : Course p (p.inquire n).2 := by
  unfold inquire
  split
  next hn => exact .asks n hn rfl (send_acquire_asked _ n)
  next c hn => exact .leaves n (.holding c) (by simp [hn]) (by simp) (by simp [hn]) rfl rfl
  next e hn => exact .leaves n .closed (by simp [hn]) (by simp) (by simp) rfl rfl
  all_goals exact .same rfl rfl

theorem cancel_course (p : Pool ε κ) (n : Nat) : Course p (p.cancel n) := by
  unfold cancel
  split
  next c hn =>
    exact .leaves n .closed (by simp [hn]) (by simp) (by simp) rfl (send_release_asked _ c)
  next hn => exact .leaves n .closed (by simp [hn]) (by simp) (by simp) rfl rfl
  next hn => exact .leaves n .closed (by simp [hn]) (by simp) (by simp) rfl rfl
  next e hn => exact .leaves n .closed (by simp [hn]) (by simp) (by simp) rfl rfl
  all_goals exact .same rfl rfl

theorem use_course (p : Pool ε κ) (n : Nat) (change : κ → κ) : Course p (p.use n change) := by
  unfold use
  split
  next c hn => exact .leaves n (.holding (change c)) (by simp [hn]) (by simp) (by simp [hn]) rfl rfl
  next => exact .same rfl rfl

theorem giveBack_course (p : Pool ε κ) (n : Nat) : Course p (p.giveBack n) := by
  unfold giveBack
  split
  next c hn =>
    exact .leaves n .closed (by simp [hn]) (by simp) (by simp) rfl (send_release_asked _ c)
  next => exact .same rfl rfl

theorem conclude_course (p : Pool ε κ) (result : Except ε κ) : Course p (p.conclude result) := by
  unfold conclude
  split <;> exact .same rfl rfl

/-- What the worker does next does not matter, as long as it is not an offer. -/
theorem asked_congr (hp : ∀ n c, p.activity ≠ .offer n c) (hq : ∀ n c, q.activity ≠ .offer n c)
    (hqueue : q.queue = p.queue) (hinbox : q.inbox = p.inbox) : q.asked = p.asked := by
  rw [asked_of_not_offer hq, asked_of_not_offer hp, requested, requested, hqueue, hinbox]

theorem asked_of_queue (hp : ∀ n c, p.activity ≠ .offer n c) (hq : ∀ n c, q.activity ≠ .offer n c)
    (hqueue : p.queue = n :: q.queue) (hinbox : q.inbox = p.inbox) : p.asked = n :: q.asked := by
  rw [asked_of_not_offer hq, asked_of_not_offer hp, requested, requested, hqueue, hinbox,
    List.cons_append]

theorem wake_course (p : Pool ε κ) : Course p p.wake := by
  unfold wake
  split
  next hactivity => exact .same rfl (asked_congr (by simp [hactivity]) (by simp) rfl rfl)
  next => exact .same rfl rfl

theorem Course.of_eq {r : Pool ε κ} (h : Course r q) (htickets : r.tickets = p.tickets)
    (hasked : r.asked = p.asked) : Course p q := by
  have hticket := ticket_congr htickets
  have hset (n : Nat) (t : Ticket ε κ) :
      (r.setTicket n t).tickets = (p.setTicket n t).tickets :=
    congrArg (·.set n t) htickets
  cases h with
  | enters hq hsame => exact .enters (htickets ▸ hq) (hsame.trans hasked)
  | asks n hn hq hmore => exact .asks n (hticket n ▸ hn) (hq.trans (hset n _)) (hasked ▸ hmore)
  | leaves n t hn ht hwaiting hq hsame =>
    rw [hticket] at hn hwaiting
    exact .leaves n t hn ht hwaiting (hq.trans (hset n t)) (hsame.trans hasked)
  | settles n t ht hclosed hq hless =>
    rw [hticket] at hclosed
    exact .settles n t ht hclosed (hq.trans (hset n t)) (hasked.symm.trans hless)
  | same hq hsame => exact .same (hq.trans htickets) (hsame.trans hasked)

/-- The worker is done with a ticket that it has answered. -/
theorem course_of_answered {a : Except ε κ} (htickets : q.tickets = (p.answer n a).tickets)
    (hasked : p.asked = n :: q.asked) : Course p q := by
  refine .settles n ((p.ticket n).answer a) ?_ ?_ htickets hasked
  · cases p.ticket n <;> simp [Ticket.answer]
  · intro hclosed
    rw [hclosed]
    rfl

/-- The worker is done with a ticket that does not wait. -/
theorem course_of_not_waiting (hn : ¬ (p.ticket n).isWaiting) (htickets : q.tickets = p.tickets)
    (hasked : p.asked = n :: q.asked) : Course p q := by
  refine .settles n (p.ticket n) ?_ id ?_ hasked
  · intro hwaiting
    exact hn (Ticket.isWaiting_iff.mpr hwaiting)
  · rw [setTicket_self, htickets]

theorem refuseFirst_course (hp : ∀ n c, p.activity ≠ .offer n c) (e : ε) :
    Course p (p.refuseFirst e) := by
  unfold refuseFirst
  split
  next => exact .same rfl rfl
  next n queue hqueue =>
    exact course_of_answered (n := n) (a := .error e) rfl (asked_of_queue hp hp hqueue rfl)

theorem checkAttempt_course (hp : ∀ n c, p.activity ≠ .offer n c) : Course p p.checkAttempt := by
  unfold checkAttempt
  split
  case h_5 e _ =>
    have hrefuse :=
      refuseFirst_course (p := { p with attempt := none }.tell (.connectFailed e)) hp e
    exact hrefuse.of_eq rfl (asked_congr hp hp rfl rfl)
  all_goals exact .same rfl (asked_congr hp hp rfl rfl)

theorem serveQueue_course (hp : ∀ n c, p.activity ≠ .offer n c) : Course p p.serveQueue := by
  unfold serveQueue
  split
  next => exact .same rfl (asked_congr hp (by simp) rfl rfl)
  next n queue hqueue =>
    split
    next =>
      split
      next c idle _ =>
        refine .same rfl ?_
        rw [asked_of_not_offer hp, hqueue]
        rfl
      next =>
        split
        · exact .same rfl (asked_congr hp (by simp) rfl rfl)
        · exact .same rfl (asked_congr hp (by simp) rfl rfl)
    next hn => exact course_of_not_waiting hn rfl (asked_of_queue hp hp hqueue rfl)

theorem offer_course {c : κ} (hp : p.activity = .offer n c) :
    Course p ({ p with activity := .serveQueue }.offer n c) := by
  have hasked {q : Pool ε κ} (hactivity : q.activity = .serveQueue) (hqueue : q.queue = p.queue)
      (hinbox : q.inbox = p.inbox) : p.asked = n :: q.asked := by
    rw [asked_of_not_offer (p := q) (by simp [hactivity]), asked, offered, hp, requested, requested,
      hqueue, hinbox]
    rfl
  unfold offer
  split
  next => exact course_of_answered (a := .ok c) rfl (hasked rfl rfl rfl)
  next hn => exact course_of_not_waiting hn rfl (hasked rfl rfl rfl)

theorem read_course [Breakable κ] {m : Message κ} {inbox : List (Message κ)}
    (hp : p.activity = .readMessages) (hinbox : p.inbox = m :: inbox) :
    Course p ({ p with inbox }.read m) := by
  have hasked : p.asked = p.queue ++ (m.ticket?.toList ++ inbox.filterMap Message.ticket?) := by
    rw [asked_of_not_offer (by simp [hp]), requested, hinbox, List.filterMap_cons]
    cases m <;> rfl
  cases m with
  | acquire n =>
    refine .same rfl ?_
    rw [hasked, asked_of_not_offer (by simp [read, hp])]
    exact List.append_assoc _ _ _
  | release c =>
    simp only [read, takeBack]
    split
    all_goals
      refine .same rfl ?_
      rw [hasked, asked_of_not_offer (by simp [tell, hp])]
      rfl

theorem work_course [Breakable κ] (p : Pool ε κ) : Course p p.work := by
  unfold work
  split
  next hactivity =>
    split
    next m inbox hinbox => exact read_course hactivity hinbox
    next => exact .same rfl (asked_congr (by simp [hactivity]) (by simp) rfl rfl)
  next hactivity =>
    have hcheck := checkAttempt_course (p := { p with activity := .serveQueue }) (by simp)
    exact hcheck.of_eq rfl (asked_congr (by simp [hactivity]) (by simp) rfl rfl)
  next hactivity => exact serveQueue_course (by simp [hactivity])
  next n c hactivity => exact offer_course hactivity
  next => exact .same rfl rfl

theorem step_course [Breakable κ] (p : Pool ε κ) (e : Event ε κ) : Course p (p.step e) := by
  cases e with
  | enter => exact .enters rfl rfl
  | inquire n => exact inquire_course p n
  | cancel n => exact cancel_course p n
  | use n change => exact use_course p n change
  | giveBack n => exact giveBack_course p n
  | conclude result => exact conclude_course p result
  | wake => exact wake_course p
  | work => exact work_course p

/-! ## The worker at rest -/

/-- Whether the worker rests only if it can do nothing for the tickets of its queue. -/
def Served (p : Pool ε κ) : Prop :=
  p.activity = .rest → ∀ n ∈ p.queue, p.ticket n = .waiting →
    p.idle = [] ∧ (p.attempt.isSome ∨ p.limit ≤ p.actives)

theorem served_of_activity (h : p.activity ≠ .rest) : p.Served :=
  fun hrest => absurd hrest h

/-- The worker comes to rest with an empty queue, or at a ticket for which it can do nothing. -/
theorem serveQueue_served (hp : p.activity = .serveQueue) : p.serveQueue.Served := by
  unfold serveQueue
  split
  next hqueue =>
    intro _ n hn
    rw [hqueue] at hn
    cases hn
  next n queue _ =>
    split
    next =>
      split
      next => exact served_of_activity (by simp)
      next hidle =>
        split
        next => exact served_of_activity (by simp)
        next hstart =>
          intro _ _ _ _
          refine ⟨hidle, ?_⟩
          by_cases hnone : p.attempt.isNone
          · exact .inr (Nat.le_of_not_lt fun hroom => hstart ⟨hnone, hroom⟩)
          · exact .inl (by simpa [Option.isSome_iff_ne_none] using hnone)
    next => exact served_of_activity (by simp [hp])

theorem conclude_served (hp : p.Served) (result : Except ε κ) : (p.conclude result).Served := by
  unfold conclude
  split
  next => exact fun hrest n hn hwaiting => ⟨(hp hrest n hn hwaiting).1, .inl rfl⟩
  next => exact fun hrest n hn hwaiting => ⟨(hp hrest n hn hwaiting).1, .inl rfl⟩
  next => exact hp

theorem wake_served (p : Pool ε κ) : p.wake.Served := by
  apply served_of_activity
  unfold wake
  split
  next => simp
  next h => exact h

variable [Breakable κ]

/-- After a message the worker reads the next one, or looks at its attempt. -/
theorem work_activity_of_readMessages (h : p.activity = .readMessages) :
    p.work.activity = .readMessages ∨ p.work.activity = .checkAttempt := by
  simp only [work, h]
  split
  next m inbox _ =>
    cases m with
    | acquire n => exact .inl rfl
    | release c => exact .inl (takeBack_activity _ c)
  next => exact .inr rfl

/-- Nobody but the worker goes on with what it does; it can only be woken. -/
theorem step_activity {e : Event ε κ} (he : e ≠ .work) :
    (p.step e).activity = p.activity ∨
      p.activity = .rest ∧ (p.step e).activity = .readMessages := by
  rcases e.isCallers_or with hcallers | ⟨result, rfl⟩ | rfl | rfl
  · obtain ⟨tickets, inbox, hstep⟩ := p.step_of_isCallers hcallers
    exact .inl (by rw [hstep])
  · simp only [step, conclude]
    split <;> exact .inl rfl
  · simp only [step, wake]
    split
    next h => exact .inr ⟨h, rfl⟩
    next => exact .inl rfl
  · exact absurd rfl he

theorem work_served (hp : p.Served) : p.work.Served := by
  cases hactivity : p.activity with
  | readMessages =>
    apply served_of_activity
    rcases work_activity_of_readMessages hactivity with h | h <;> simp [h]
  | checkAttempt =>
    apply served_of_activity
    simp [work_of_checkAttempt hactivity]
  | serveQueue =>
    rw [work_of_serveQueue hactivity]
    exact serveQueue_served hactivity
  | offer n c =>
    apply served_of_activity
    simp [work_of_offer hactivity]
  | rest =>
    rwa [work_of_rest hactivity]

theorem step_served (hserved : p.Served) (htended : p.Tended) (e : Event ε κ) :
    (p.step e).Served := by
  rcases e.isCallers_or with he | ⟨result, rfl⟩ | rfl | rfl
  · -- What waits in the queue after the event waited before it, since no closed ticket opens again.
    have hwaiting {n : Nat} (hn : n ∈ p.queue) (h : (p.step e).ticket n = .waiting) :
        p.ticket n = .waiting := by
      obtain ⟨hlt, hticket⟩ := htended.unanswered n (by simp [asked, hn])
      refine hticket.resolve_right fun hclosed => ?_
      rw [(step_course p e).ticket_closed hlt hclosed] at h
      cases h
    obtain ⟨tickets, inbox, hstep⟩ := p.step_of_isCallers he
    rw [hstep] at hwaiting ⊢
    exact fun hrest n hn h => hserved hrest n hn (hwaiting hn h)
  · exact conclude_served hserved result
  · exact wake_served p
  · exact work_served hserved

/-- Whether the worker has looked at its attempt in a run, found it under way, and has not begun
again with the messages since. -/
def Attended (p : Pool ε κ) (events : List (Event ε κ)) : Prop :=
  ∃ earlier later, events = earlier ++ .work :: later ∧
    (p.run earlier).activity = .checkAttempt ∧
    (p.run (earlier ++ [.work])).attempt = some .underWay ∧
    ∀ since, since <+: later → (p.run (earlier ++ .work :: since)).activity ≠ .readMessages

theorem Attended.append_singleton {events : List (Event ε κ)} {e : Event ε κ}
    (h : p.Attended events) (he : (p.run (events ++ [e])).activity ≠ .readMessages) :
    p.Attended (events ++ [e]) := by
  obtain ⟨earlier, later, rfl, hchecks, hfound, hsince⟩ := h
  refine ⟨earlier, later ++ [e], by simp, hchecks, hfound, fun since hprefix => ?_⟩
  rcases List.prefix_concat_iff.mp hprefix with rfl | hprefix
  · simpa using he
  · exact hsince since hprefix

/-- What is left of an attempt has been there before. -/
theorem isSome_of_step {e : Event ε κ} (hcheck : p.activity ≠ .checkAttempt)
    (hq : (p.step e).activity ≠ .readMessages) (h : (p.step e).attempt.isSome) :
    p.attempt.isSome := by
  rcases e.isCallers_or with he | ⟨result, rfl⟩ | rfl | rfl
  · obtain ⟨tickets, inbox, hstep⟩ := p.step_of_isCallers he
    rwa [hstep] at h
  · simp only [step, conclude] at h
    split at h
    next hattempt => simp [hattempt]
    next hattempt => simp [hattempt]
    next => exact h
  · simp only [step, wake] at h
    split at h <;> exact h
  · rcases work_attempt hcheck with hsame | ⟨-, -, hagain⟩
    · exact hsame ▸ h
    · exact absurd hagain hq

/-- A worker that has gone past its attempt and left it has found it under way. -/
theorem run_attended {events : List (Event ε κ)} (hp : p.attempt = none)
    (hmessages : (p.run events).activity ≠ .readMessages)
    (hcheck : (p.run events).activity ≠ .checkAttempt) (h : (p.run events).attempt.isSome) :
    p.Attended events := by
  induction events using List.reverseRecOn with
  | nil => simp [hp] at h
  | append_singleton events e ih =>
    have hrun : p.run (events ++ [e]) = (p.run events).step e := run_append p events [e]
    rw [hrun] at hmessages hcheck h
    -- Where the worker was reading messages or about to look at its attempt, only its own step can
    -- have taken it past that.
    have hpast {a : Activity κ} (ha : (p.run events).activity = a) (hrest : a ≠ .rest)
        (hmoved : ((p.run events).step e).activity ≠ a) : e = .work := by
      by_contra he
      rcases step_activity he with hsame | ⟨hwas, -⟩
      · exact hmoved (hsame.trans ha)
      · exact hrest (ha.symm.trans hwas)
    by_cases hread : (p.run events).activity = .readMessages
    · obtain rfl := hpast hread (by simp) hmessages
      rcases work_activity_of_readMessages hread with hsame | hnext
      · exact absurd hsame hmessages
      · exact absurd hnext hcheck
    by_cases hlook : (p.run events).activity = .checkAttempt
    · obtain rfl := hpast hlook (by simp) hcheck
      refine ⟨events, [], rfl, hlook, ?_, fun since hprefix => ?_⟩
      · rw [hrun]
        change (p.run events).work.attempt.isSome at h
        change (p.run events).work.attempt = _
        rw [work_of_checkAttempt hlook] at h ⊢
        have hafter := checkAttempt_attempt { p.run events with activity := .serveQueue }
        rcases hafter with hover | ⟨-, -, hon⟩
        · rw [hover] at h
          cases h
        · exact hon
      · rw [List.prefix_nil.mp hprefix, hrun]
        exact hmessages
    · have hattended := ih hread hlook (isSome_of_step hlook hmessages h)
      exact hattended.append_singleton (hrun ▸ hmessages)

/-! ## Runs -/

theorem poll_activity (dial : Nat → Option (Except ε κ)) (p : Pool ε κ) :
    (p.poll dial).activity = .rest := by
  induction p using poll.induct dial with
  | case1 p hp =>
    rw [poll, dif_pos hp]
    exact isResting_iff.mp hp
  | case2 p hp ih =>
    rw [poll, dif_neg hp]
    exact ih

omit [Breakable κ] in
theorem start_tended (limit : Nat) : ({ limit } : Pool ε κ).Tended :=
  ⟨.nil, by simp [asked, offered, requested], by simp [ticket]⟩

theorem run_tended (limit : Nat) (events : List (Event ε κ)) :
    (({ limit } : Pool ε κ).run events).Tended :=
  run_induction (fun p e hp => (step_course p e).tended hp) (start_tended limit) events

theorem run_served (limit : Nat) (events : List (Event ε κ)) :
    (({ limit } : Pool ε κ).run events).Served := by
  have hstart : ({ limit } : Pool ε κ).Served := fun _ n hn => absurd hn List.not_mem_nil
  exact (run_induction (P := fun p => p.Served ∧ p.Tended)
    (fun p e hp => ⟨step_served hp.1 hp.2 e, (step_course p e).tended hp.2⟩)
    ⟨hstart, start_tended limit⟩ events).1

/-- **No ticket waits in vain.** The worker comes to rest from every state, if it is left alone.
Where it rests, in whatever order callers, attempts and the worker have come there, a ticket that
waits is in its queue or asks in a message that it has not read. If one of its queue has not been
given up, then no connection is idle, and there are as many as the limit allows, or one is being
opened: the worker has looked at this attempt, found it under way, and gone to rest since. -/
theorem run_waiting (limit : Nat) (events : List (Event ε κ)) :
    let start : Pool ε κ := { limit }
    let p := start.run events
    (∀ dial, ∃ more, p.poll dial = p.run more ∧ (p.poll dial).activity = .rest) ∧
      (p.activity = .rest →
        (∀ n, p.ticket n = .waiting → n ∈ p.queue ∨ .acquire n ∈ p.inbox) ∧
          ∀ n ∈ p.queue, p.ticket n ≠ .closed →
            p.idle = [] ∧ (p.attempt.isSome ∧ start.Attended events ∨ p.actives = limit)) := by
  intro start p
  have htended : p.Tended := run_tended limit events
  have hserved : p.Served := run_served limit events
  refine ⟨fun dial => ?_, fun hrest => ⟨fun n hn => ?_, fun n hn hopen => ?_⟩⟩
  · obtain ⟨more, hmore⟩ := exists_run_eq_poll dial p
    exact ⟨more, hmore, poll_activity dial p⟩
  · have hmem := htended.mem_of_waiting n hn
    rw [asked_of_not_offer (by simp [hrest]), List.mem_append] at hmem
    refine hmem.imp_right fun hrequested => ?_
    obtain ⟨m, hm, hticket⟩ := List.mem_filterMap.mp hrequested
    cases m with
    | acquire n' => exact Option.some.inj hticket ▸ hm
    | release c => cases hticket
  · have hwaiting := (htended.unanswered n (by simp [asked, hn])).2.resolve_right hopen
    obtain ⟨hidle, hbusy⟩ := hserved hrest n hn hwaiting
    refine ⟨hidle, ?_⟩
    rcases hbusy with hattempt | hfull
    · have hpast {a : Activity κ} (ha : a ≠ .rest) : p.activity ≠ a := hrest ▸ ha.symm
      exact .inl ⟨hattempt, run_attended rfl (hpast (by simp)) (hpast (by simp)) hattempt⟩
    · have hroom : p.actives + p.connecting ≤ p.limit :=
        (run_accounted limit events).actives_add_connecting_le
      have hlimit : p.limit = limit := run_limit limit events
      exact .inr (by omega)

/-- One caller holds a connection. Of two others who ask, the first one gives up while the worker
has both in its queue. -/
def oneGivesUp : List (Event Error Rehearsal.Lease) :=
  .flatten [[.enter, .inquire 0, .wake], .replicate 7 .work,
    [.conclude (.ok { wreck with connection.phase := .ready }), .wake], .replicate 5 .work,
    [.inquire 0, .enter, .enter, .inquire 1, .inquire 2, .wake], .replicate 4 .work,
    [.cancel 1], .replicate 5 .work]

/-- The pool after that, with room for a second connection. -/
def oneHasGivenUp : Pool Error Rehearsal.Lease :=
  Pool.run { limit := 2 } oneGivesUp

theorem run_waiting_oneGivesUp :
    oneHasGivenUp.activity = .rest ∧ 2 ∈ oneHasGivenUp.queue ∧ oneHasGivenUp.ticket 2 ≠ .closed ∧
      oneHasGivenUp.actives = 1 ∧ oneHasGivenUp.idle = [] ∧
      Pool.Attended { limit := 2 } oneGivesUp := by
  have hrest : oneHasGivenUp.activity = .rest := by cbv
  have hqueue : 2 ∈ oneHasGivenUp.queue := by
    have : oneHasGivenUp.queue = [2] := by cbv
    simp [this]
  have hticket : oneHasGivenUp.ticket 2 = .waiting := by cbv
  have hactives : oneHasGivenUp.actives = 1 := by cbv
  have hopen : oneHasGivenUp.ticket 2 ≠ .closed := by simp [hticket]
  obtain ⟨hidle, hbusy⟩ := ((run_waiting 2 oneGivesUp).2 hrest).2 2 hqueue hopen
  refine ⟨hrest, hqueue, hopen, hactives, hidle, ?_⟩
  rcases hbusy with ⟨-, hattended⟩ | hfull
  · exact hattended
  · have hone : oneHasGivenUp.actives = 2 := hfull
    rw [hactives] at hone
    cases hone

end Pool

end ThinClient
