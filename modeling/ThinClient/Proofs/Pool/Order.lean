import Mathlib
import ThinClient.Proofs.Pool.Waiting

/-!
# The order in which tickets are served

The worker hears of a ticket when it reads the message that asks for it, and puts it at the end of
its queue. Connections come back, are opened or fail to be opened at any time, and callers give up
at any time, also the one whose ticket the worker has in hand.

* `Turn` is what an event can make of a ticket, from the first question to the end.
* `received` are the tickets that the worker has heard of in a run, and `granted` those that it has
  answered with a connection, both in the order in which this happened.
* `Ended` says of a ticket that it has waited in a run until the worker answered or its caller gave
  it up.
* `Orderly` is what holds after every run: whatever the worker has heard of and has no longer before
  it came before whatever it still has before it.
* `run_granted`: **tickets are served in the order in which the worker heard of them**. Where one is
  answered with a connection, all of which the worker heard before have ended.
-/

namespace ThinClient.Pool

open scoped List

variable {ε κ : Type} {p q : Pool ε κ} {e : Event ε κ} {n : Nat}

/-! ## The life of a ticket -/

/-- What an event can make of ticket `n`. -/
inductive Turn (n : Nat) : Event ε κ → Ticket ε κ → Ticket ε κ → Prop where
  | stays (e : Event ε κ) (t : Ticket ε κ) : Turn n e t t
  | asks : Turn n (.inquire n) .fresh .waiting
  | takes (c : κ) : Turn n (.inquire n) (.answered (.ok c)) (.holding c)
  | learns (error : ε) : Turn n (.inquire n) (.answered (.error error)) .closed
  | givesUp (t : Ticket ε κ) (ht : ∀ c, t ≠ .holding c) : Turn n (.cancel n) t .closed
  | uses (c : κ) (change : κ → κ) : Turn n (.use n change) (.holding c) (.holding (change c))
  | givesBack (c : κ) : Turn n (.giveBack n) (.holding c) .closed
  | isAnswered (answer : Except ε κ) : Turn n .work .waiting (.answered answer)

namespace Turn

variable {t t' : Ticket ε κ}

/-- A ticket that has been asked at is never fresh again. -/
theorem ne_fresh (h : Turn n e t t') (ht : t ≠ .fresh) : t' ≠ .fresh := by
  cases h with
  | stays => exact ht
  | _ => simp

theorem ne_waiting (h : Turn n e t t') (hfresh : t ≠ .fresh) (ht : t ≠ .waiting) :
    t' ≠ .waiting := by
  cases h with
  | stays => exact ht
  | asks => exact absurd rfl hfresh
  | _ => simp

/-- A ticket waits until it is given up or answered. -/
theorem of_waiting (h : Turn n e .waiting t') :
    t' = .waiting ∨ e = .cancel n ∨ e = .work ∧ ∃ a, t' = .answered a := by
  cases h with
  | stays => exact .inl rfl
  | givesUp => exact .inr (.inl rfl)
  | isAnswered a => exact .inr (.inr ⟨rfl, a, rfl⟩)

end Turn

theorem turn_of_same (h : q.tickets = p.tickets) : Turn n e (p.ticket n) (q.ticket n) := by
  rw [ticket_congr h]
  exact .stays _ _

theorem turn_of_set {m : Nat} {t : Ticket ε κ} (h : q.tickets = (p.setTicket m t).tickets)
    (ht : Turn m e (p.ticket m) t) : Turn n e (p.ticket n) (q.ticket n) := by
  rw [ticket_congr h, ticket_setTicket]
  split
  next hm => exact hm.1 ▸ ht
  next => exact .stays _ _

theorem inquire_turn (p : Pool ε κ) (m : Nat) :
    Turn n (.inquire m) (p.ticket n) ((p.inquire m).2.ticket n) := by
  unfold inquire
  split
  next hm => exact turn_of_set rfl (hm ▸ .asks)
  next c hm => exact turn_of_set rfl (hm ▸ .takes c)
  next error hm => exact turn_of_set rfl (hm ▸ .learns error)
  all_goals exact turn_of_same rfl

theorem cancel_turn (p : Pool ε κ) (m : Nat) :
    Turn n (.cancel m) (p.ticket n) ((p.cancel m).ticket n) := by
  unfold cancel
  split
  next c hm => exact turn_of_set rfl (.givesUp _ (by simp [hm]))
  next hm => exact turn_of_set rfl (.givesUp _ (by simp [hm]))
  next hm => exact turn_of_set rfl (.givesUp _ (by simp [hm]))
  next error hm => exact turn_of_set rfl (.givesUp _ (by simp [hm]))
  all_goals exact turn_of_same rfl

theorem use_turn (p : Pool ε κ) (m : Nat) (change : κ → κ) :
    Turn n (.use m change) (p.ticket n) ((p.use m change).ticket n) := by
  unfold use
  split
  next c hm => exact turn_of_set rfl (hm ▸ .uses c change)
  next => exact turn_of_same rfl

theorem giveBack_turn (p : Pool ε κ) (m : Nat) :
    Turn n (.giveBack m) (p.ticket n) ((p.giveBack m).ticket n) := by
  unfold giveBack
  split
  next c hm => exact turn_of_set rfl (hm ▸ .givesBack c)
  next => exact turn_of_same rfl

variable [Breakable κ]

/-- The worker touches one ticket at most, to answer it, and answers with a connection the ticket
alone that it has in hand. -/
theorem work_tickets (p : Pool ε κ) :
    p.work.tickets = p.tickets ∨ ∃ m a, p.work.tickets = (p.answer m a).tickets ∧
      ∀ c, a = .ok c → p.activity = .offer m c := by
  unfold work
  split
  next =>
    split
    next m inbox _ =>
      cases m with
      | acquire n => exact .inl rfl
      | release c =>
        simp only [read, takeBack]
        split <;> exact .inl rfl
    next => exact .inl rfl
  next =>
    unfold checkAttempt
    split
    case h_5 error _ =>
      unfold refuseFirst
      split
      next => exact .inl rfl
      next m queue _ => exact .inr ⟨m, .error error, rfl, by simp⟩
    all_goals exact .inl rfl
  next =>
    unfold serveQueue
    repeat' split
    all_goals exact .inl rfl
  next m c hactivity =>
    unfold offer
    split
    next => exact .inr ⟨m, .ok c, rfl, fun c' hc => Except.ok.inj hc ▸ hactivity⟩
    next => exact .inl rfl
  next => exact .inl rfl

theorem work_turn (p : Pool ε κ) : Turn n .work (p.ticket n) (p.work.ticket n) := by
  rcases work_tickets p with hsame | ⟨m, a, hanswer, -⟩
  · exact turn_of_same hsame
  · refine turn_of_set hanswer ?_
    cases p.ticket m with
    | waiting => exact .isAnswered a
    | _ => exact .stays _ _

/-- What becomes of a ticket is one of the turns of its life. -/
theorem step_turn (p : Pool ε κ) (e : Event ε κ) (hn : n < p.tickets.length) :
    Turn n e (p.ticket n) ((p.step e).ticket n) := by
  cases e with
  | enter =>
    have hticket := ticket_of_enters (p := p) (q := p.step .enter) rfl n
    rw [if_neg (Nat.ne_of_lt hn)] at hticket
    rw [hticket]
    exact .stays _ _
  | inquire m => exact inquire_turn p m
  | cancel m => exact cancel_turn p m
  | use m change => exact use_turn p m change
  | giveBack m => exact giveBack_turn p m
  | conclude result =>
    obtain ⟨attempt, hconclude⟩ := p.exists_conclude_eq result
    exact turn_of_same (by rw [step, hconclude])
  | wake =>
    apply turn_of_same
    simp only [step, wake]
    split <;> rfl
  | work => exact work_turn p

theorem step_tickets_length (p : Pool ε κ) (e : Event ε κ) :
    p.tickets.length ≤ (p.step e).tickets.length := by
  cases step_course p e with
  | enters htickets => simp [htickets]
  | asks n _ htickets => exact Nat.le_of_eq (length_of_set htickets).symm
  | leaves n t _ _ _ htickets => exact Nat.le_of_eq (length_of_set htickets).symm
  | settles n t _ _ htickets => exact Nat.le_of_eq (length_of_set htickets).symm
  | same htickets => rw [htickets]

/-! ## What the worker hears and grants -/

/-- The ticket that asks in the message that the worker reads with an event. -/
def hears (p : Pool ε κ) : Event ε κ → List Nat
  | .work =>
    match p.activity, p.inbox with
    | .readMessages, m :: _ => m.ticket?.toList
    | _, _ => []
  | _ => []

/-- The ticket that the worker answers with a connection by an event. -/
def grants (p : Pool ε κ) : Event ε κ → List Nat
  | .work =>
    match p.activity with
    | .offer n _ => if (p.ticket n).isWaiting then [n] else []
    | _ => []
  | _ => []

/-- The tickets that the events of a run concern in some way, one after the other. -/
def along (what : Pool ε κ → Event ε κ → List Nat) (p : Pool ε κ) : List (Event ε κ) → List Nat
  | [] => []
  | e :: events => what p e ++ (p.step e).along what events

/-- The tickets of which the worker hears in a run. -/
def received (p : Pool ε κ) (events : List (Event ε κ)) : List Nat :=
  p.along hears events

/-- The tickets that the worker answers with a connection in a run. -/
def granted (p : Pool ε κ) (events : List (Event ε κ)) : List Nat :=
  p.along grants events

/-- The tickets of which the worker has heard and that it has still before it, the one in hand
first. -/
def inTurn (p : Pool ε κ) : List Nat :=
  p.offered ++ p.queue

theorem along_append_singleton (what : Pool ε κ → Event ε κ → List Nat) (p : Pool ε κ)
    (events : List (Event ε κ)) (e : Event ε κ) :
    p.along what (events ++ [e]) = p.along what events ++ what (p.run events) e := by
  induction events generalizing p with
  | nil => simp [along]
  | cons first events ih => simp [along, ih]

/-- Who is given a connection has been in the worker's hand. -/
theorem grants_of_answered {c : κ} (hn : p.ticket n = .waiting)
    (hgranted : (p.step e).ticket n = .answered (.ok c)) :
    p.activity = .offer n c ∧ p.grants e = [n] := by
  have hlt := lt_of_ticket_ne_closed (p := p) (n := n) (by simp [hn])
  have hturn := step_turn p e hlt
  rw [hn, hgranted] at hturn
  cases hturn with
  | isAnswered =>
    have hactivity : p.activity = .offer n c := by
      rcases work_tickets p with hsame | ⟨m, a, hanswer, hoffer⟩
      · rw [step, ticket_congr hsame, hn] at hgranted
        cases hgranted
      · rw [step, ticket_congr hanswer, answer, ticket_setTicket] at hgranted
        split at hgranted
        next hm =>
          obtain ⟨rfl, -⟩ := hm
          rw [hn] at hgranted
          exact hoffer c (Ticket.answered.inj hgranted)
        next =>
          rw [hn] at hgranted
          cases hgranted
    exact ⟨hactivity, by simp [grants, hactivity, hn, Ticket.isWaiting]⟩

omit [Breakable κ] in
theorem hears_eq_nil (h : p.activity ≠ .readMessages) : p.hears e = [] := by
  unfold hears
  split
  next =>
    split
    next hactivity _ => exact absurd hactivity h
    next => rfl
  next => rfl

omit [Breakable κ] in
theorem requested_congr (h : q.inbox = p.inbox) : q.requested = p.requested := by
  rw [requested, requested, h]

omit [Breakable κ] in
theorem send_requested (p : Pool ε κ) (m : Message κ) :
    (p.send m).requested = p.requested ++ m.ticket?.toList := by
  cases m <;> simp [send, requested, Message.ticket?]

theorem read_requested {m : Message κ} {inbox : List (Message κ)} (h : p.inbox = m :: inbox) :
    m.ticket?.toList ++ ({ p with inbox }.read m).requested = p.requested := by
  have hread : ({ p with inbox }.read m).inbox = inbox := by
    cases m with
    | acquire n => rfl
    | release c => exact takeBack_inbox _ c
  rw [requested, requested, hread, h, List.filterMap_cons]
  cases m <;> rfl

/-- The worker hears of no ticket that has not asked. -/
theorem work_requested (p : Pool ε κ) : p.hears .work ++ p.work.requested = p.requested := by
  cases hactivity : p.activity with
  | readMessages =>
    cases hinbox : p.inbox with
    | nil => simp [hears, work, requested, hactivity, hinbox]
    | cons m inbox =>
      have hread := read_requested hinbox
      simpa [hears, work, hactivity, hinbox] using hread
  | checkAttempt =>
    rw [hears_eq_nil (by simp [hactivity]), work_of_checkAttempt hactivity]
    exact requested_congr (by simp)
  | serveQueue =>
    rw [hears_eq_nil (by simp [hactivity]), work_of_serveQueue hactivity]
    exact requested_congr (by simp)
  | offer n c =>
    rw [hears_eq_nil (by simp [hactivity]), work_of_offer hactivity]
    exact requested_congr (by simp)
  | rest =>
    rw [hears_eq_nil (by simp [hactivity]), work_of_rest hactivity]
    rfl

/-- A ticket that the worker is to hear of has been asked at for the first time. -/
theorem step_requested (p : Pool ε κ) (e : Event ε κ) :
    p.hears e ++ (p.step e).requested = p.requested ∨
      ∃ n, p.ticket n = .fresh ∧ (p.step e).ticket n = .waiting ∧
        p.hears e ++ (p.step e).requested = p.requested ++ [n] := by
  have hreleases (n : Nat) (c : κ) :
      ((p.setTicket n .closed).send (.release c)).requested = p.requested := by
    rw [send_requested]
    exact List.append_nil _
  cases e with
  | enter => exact .inl rfl
  | inquire n =>
    simp only [step, inquire]
    split
    next hn =>
      refine .inr ⟨n, hn, setTicket_ticket (by simp [hn]) .waiting, ?_⟩
      exact send_requested (p.setTicket n .waiting) (.acquire n)
    all_goals exact .inl rfl
  | cancel n =>
    simp only [step, cancel]
    split
    next c _ => exact .inl (hreleases n c)
    all_goals exact .inl rfl
  | use n change =>
    simp only [step, use]
    split <;> exact .inl rfl
  | giveBack n =>
    simp only [step, giveBack]
    split
    next c _ => exact .inl (hreleases n c)
    next => exact .inl rfl
  | conclude result =>
    obtain ⟨attempt, hconclude⟩ := p.exists_conclude_eq result
    rw [step, hconclude]
    exact .inl rfl
  | wake =>
    simp only [step, wake]
    split <;> exact .inl rfl
  | work => exact .inl (work_requested p)

/-! ## What the worker does with them -/

/-- What an event does to the tickets that the worker has still before it. -/
inductive Service (p : Pool ε κ) (e : Event ε κ) : Prop where
  /-- If the worker hears of one, it becomes the last one. -/
  | goesOn (hinTurn : (p.step e).inTurn = p.inTurn ++ p.hears e) (hgrants : p.grants e = [])
  /-- The worker is done with the first one. -/
  | dismisses (n : Nat) (hinTurn : p.inTurn = n :: (p.step e).inTurn) (hhears : p.hears e = [])
      (hgrants : p.grants e <+ [n]) (hn : (p.step e).ticket n ≠ .waiting)

omit [Breakable κ] in
theorem inTurn_of_not_offer (h : ∀ n c, p.activity ≠ .offer n c) : p.inTurn = p.queue := by
  rw [inTurn, offered_eq_nil h, List.nil_append]

omit [Breakable κ] in
theorem answer_ticket_ne_waiting (p : Pool ε κ) (n : Nat) (a : Except ε κ) :
    (p.answer n a).ticket n ≠ .waiting := by
  by_cases hclosed : p.ticket n = .closed
  · rw [answer, Ticket.answer_of_ne_waiting (by simp [hclosed]), setTicket_self, hclosed]
    simp
  · rw [answer, setTicket_ticket hclosed]
    cases p.ticket n <;> simp [Ticket.answer]

omit [Breakable κ] in
theorem grants_eq_nil (h : ∀ n c, p.activity ≠ .offer n c) : p.grants e = [] := by
  unfold grants
  split
  next =>
    split
    next n c hactivity => exact absurd hactivity (h n c)
    next => rfl
  next => rfl

/-- Whatever is not a step of the worker leaves what it has before it. -/
theorem step_service_of_ne_work (p : Pool ε κ) (he : e ≠ .work) : Service p e := by
  have hhears : p.hears e = [] := by cases e <;> first | rfl | exact absurd rfl he
  have hgrants : p.grants e = [] := by cases e <;> first | rfl | exact absurd rfl he
  refine .goesOn ?_ hgrants
  rw [hhears, List.append_nil]
  rcases e.isCallers_or with hcallers | ⟨result, rfl⟩ | rfl | rfl
  · obtain ⟨tickets, inbox, hstep⟩ := p.step_of_isCallers hcallers
    rw [hstep]
    rfl
  · obtain ⟨attempt, hconclude⟩ := p.exists_conclude_eq result
    rw [step, hconclude]
    rfl
  · simp only [step, wake]
    split
    next hactivity =>
      rw [inTurn_of_not_offer (by simp), inTurn_of_not_offer (by simp [hactivity])]
    next => rfl
  · exact absurd rfl he

theorem work_service_of_readMessages (hp : p.activity = .readMessages) : Service p .work := by
  refine .goesOn ?_ (grants_eq_nil (by simp [hp]))
  rw [inTurn_of_not_offer (p := p) (by simp [hp]), step]
  cases hinbox : p.inbox with
  | nil =>
    have hwork : p.work = { p with activity := .checkAttempt } := by simp only [work, hp, hinbox]
    have hhears : p.hears .work = [] := by simp only [hears, hp, hinbox]
    rw [hwork, hhears, List.append_nil, inTurn_of_not_offer (by simp)]
  | cons m inbox =>
    have hwork : p.work = { p with inbox }.read m := by simp only [work, hp, hinbox]
    have hhears : p.hears .work = m.ticket?.toList := by simp only [hears, hp, hinbox]
    rw [hwork, hhears]
    cases m with
    | acquire n => exact inTurn_of_not_offer (by simp [read, hp])
    | release c =>
      rw [inTurn_of_not_offer (by simp [read, hp])]
      simp [read, Message.ticket?]

omit [Breakable κ] in
theorem checkAttempt_queue (p : Pool ε κ) :
    p.checkAttempt.queue = p.queue ∨
      ∃ n, p.queue = n :: p.checkAttempt.queue ∧ p.checkAttempt.ticket n ≠ .waiting := by
  unfold checkAttempt
  split
  case h_5 error _ =>
    unfold refuseFirst
    split
    next => exact .inl rfl
    next n queue hqueue =>
      exact .inr ⟨n, hqueue, answer_ticket_ne_waiting _ n (.error error)⟩
  all_goals exact .inl rfl

omit [Breakable κ] in
theorem serveQueue_inTurn (hp : ∀ n c, p.activity ≠ .offer n c) :
    p.serveQueue.inTurn = p.inTurn ∨
      ∃ n, p.inTurn = n :: p.serveQueue.inTurn ∧ p.serveQueue.ticket n ≠ .waiting := by
  rw [inTurn_of_not_offer hp]
  unfold serveQueue
  split
  next => exact .inl (inTurn_of_not_offer (by simp))
  next n queue hqueue =>
    split
    next =>
      refine .inl ?_
      split
      next => exact hqueue.symm
      next =>
        split
        · exact inTurn_of_not_offer (by simp)
        · exact inTurn_of_not_offer (by simp)
    next hn =>
      refine .inr ⟨n, ?_, fun hwaiting => hn (Ticket.isWaiting_iff.mpr hwaiting)⟩
      have hrest : { p with queue }.inTurn = queue := inTurn_of_not_offer hp
      rw [hrest, hqueue]

/-- A step of the worker without a connection in hand. -/
theorem service_of_inTurn (hread : p.activity ≠ .readMessages)
    (hoffer : ∀ n c, p.activity ≠ .offer n c)
    (h : p.work.inTurn = p.inTurn ∨
      ∃ n, p.inTurn = n :: p.work.inTurn ∧ p.work.ticket n ≠ .waiting) : Service p .work := by
  have hhears : p.hears .work = [] := hears_eq_nil hread
  have hgrants : p.grants .work = [] := grants_eq_nil hoffer
  rcases h with hsame | ⟨n, hdone, hn⟩
  · exact .goesOn (by rw [hhears, List.append_nil]; exact hsame) hgrants
  · exact .dismisses n hdone hhears (by simp [hgrants]) hn

theorem work_service_of_offer {c : κ} (hp : p.activity = .offer n c) : Service p .work := by
  have hinTurn : p.inTurn = n :: p.queue := by simp [inTurn, offered, hp]
  have hhears : p.hears .work = [] := hears_eq_nil (by simp [hp])
  have hwork : p.step .work = { p with activity := .serveQueue }.offer n c := work_of_offer hp
  have hqueue : (p.step .work).inTurn = p.queue := by
    rw [hwork, inTurn_of_not_offer (by simp)]
    unfold offer
    split <;> rfl
  refine .dismisses n (hqueue ▸ hinTurn) hhears ?_ ?_
  · simp only [grants, hp]
    split <;> simp
  · rw [hwork, offer]
    split
    next => exact answer_ticket_ne_waiting _ n (.ok c)
    next hn => exact fun hwaiting => hn (Ticket.isWaiting_iff.mpr hwaiting)

theorem step_service (p : Pool ε κ) (e : Event ε κ) : Service p e := by
  by_cases he : e = .work
  · subst he
    cases hp : p.activity with
    | readMessages => exact work_service_of_readMessages hp
    | checkAttempt =>
      apply service_of_inTurn (by simp [hp]) (by simp [hp])
      rw [work_of_checkAttempt hp, inTurn_of_not_offer (by simp),
        inTurn_of_not_offer (p := p) (by simp [hp])]
      exact checkAttempt_queue { p with activity := .serveQueue }
    | serveQueue =>
      apply service_of_inTurn (by simp [hp]) (by simp [hp])
      rw [work_of_serveQueue hp]
      exact serveQueue_inTurn (by simp [hp])
    | offer n c => exact work_service_of_offer hp
    | rest =>
      apply service_of_inTurn (by simp [hp]) (by simp [hp])
      exact .inl (by rw [work_of_rest hp])
  · exact step_service_of_ne_work p he

/-! ## Runs -/

/-- Whether a ticket has waited in a run until the worker answered or its caller gave it up. -/
def Ended (p : Pool ε κ) (events : List (Event ε κ)) (n : Nat) : Prop :=
  ∃ earlier e, earlier ++ [e] <+: events ∧ (p.run earlier).ticket n = .waiting ∧
    (e = .cancel n ∨ e = .work ∧ ∃ a, (p.run (earlier ++ [e])).ticket n = .answered a)

theorem Ended.append {events : List (Event ε κ)} (h : p.Ended events n)
    (later : List (Event ε κ)) : p.Ended (events ++ later) n := by
  obtain ⟨earlier, e, hprefix, hended⟩ := h
  exact ⟨earlier, e, hprefix.trans (List.prefix_append events later), hended⟩

/-- The tickets that have asked in a run: the worker has heard of them, or their messages are not
read. -/
def asking (p : Pool ε κ) (events : List (Event ε κ)) : List Nat :=
  p.received events ++ (p.run events).requested

/-- What holds after every run of the tickets that have asked in it. -/
structure Orderly (p : Pool ε κ) (events : List (Event ε κ)) : Prop where
  nodup : (p.asking events).Nodup
  begun : ∀ n ∈ p.asking events,
    n < (p.run events).tickets.length ∧ (p.run events).ticket n ≠ .fresh
  waits_or_ended : ∀ n ∈ p.asking events,
    (p.run events).ticket n = .waiting ∨ p.Ended events n
  /-- What the worker is done with came before what it has still before it. -/
  exists_done : ∃ done, p.received events = done ++ (p.run events).inTurn ∧
    p.granted events <+ done ∧ ∀ n ∈ done, (p.run events).ticket n ≠ .waiting

theorem run_append_singleton (p : Pool ε κ) (events : List (Event ε κ)) (e : Event ε κ) :
    p.run (events ++ [e]) = (p.run events).step e :=
  run_append p events [e]

/-- A ticket that asks is new among those that have asked. -/
theorem asking_append_singleton (p : Pool ε κ) (events : List (Event ε κ)) (e : Event ε κ) :
    p.asking (events ++ [e]) = p.asking events ∨
      ∃ n, (p.run events).ticket n = .fresh ∧ (p.run (events ++ [e])).ticket n = .waiting ∧
        p.asking (events ++ [e]) = p.asking events ++ [n] := by
  simp only [asking, received, along_append_singleton, run_append_singleton, List.append_assoc]
  rcases step_requested (p.run events) e with hsame | ⟨n, hfresh, hwaiting, hnew⟩
  · exact .inl (by rw [hsame])
  · exact .inr ⟨n, hfresh, hwaiting, by rw [hnew]⟩

/-- A ticket that waits goes on waiting or ends. -/
theorem waits_or_ended_append_singleton {events : List (Event ε κ)}
    (hn : (p.run events).ticket n = .waiting) (e : Event ε κ) :
    (p.run (events ++ [e])).ticket n = .waiting ∨ p.Ended (events ++ [e]) n := by
  have hopen : (p.run events).ticket n ≠ .closed := by simp [hn]
  have hturn := step_turn (p.run events) e (lt_of_ticket_ne_closed hopen)
  rw [hn, ← run_append_singleton] at hturn
  refine hturn.of_waiting.imp_right fun hends => ⟨events, e, List.prefix_refl _, hn, ?_⟩
  exact hends

namespace Orderly

variable {events : List (Event ε κ)}

/-- A ticket that has asked goes on. -/
theorem of_mem_asking (h : p.Orderly events) (e : Event ε κ) (hn : n ∈ p.asking events) :
    (n < (p.run (events ++ [e])).tickets.length ∧ (p.run (events ++ [e])).ticket n ≠ .fresh) ∧
      ((p.run (events ++ [e])).ticket n = .waiting ∨ p.Ended (events ++ [e]) n) := by
  have hrun := run_append_singleton p events e
  obtain ⟨hlt, hfresh⟩ := h.begun n hn
  refine ⟨⟨?_, ?_⟩, ?_⟩
  · rw [hrun]
    exact Nat.lt_of_lt_of_le hlt (step_tickets_length _ e)
  · rw [hrun]
    exact (step_turn _ e hlt).ne_fresh hfresh
  · rcases h.waits_or_ended n hn with hwaiting | hended
    · exact waits_or_ended_append_singleton hwaiting e
    · exact .inr (hended.append [e])

/-- A ticket that asks with the last event is another one, and waits. -/
theorem asking_append (h : p.Orderly events) (e : Event ε κ) :
    (p.asking (events ++ [e])).Nodup ∧ ∀ n ∈ p.asking (events ++ [e]),
      n ∈ p.asking events ∨ (p.run (events ++ [e])).ticket n = .waiting := by
  rcases asking_append_singleton p events e with hsame | ⟨n, hfresh, hwaiting, hnew⟩
  · rw [hsame]
    exact ⟨h.nodup, fun n hn => .inl hn⟩
  · rw [hnew]
    refine ⟨?_, fun m hm => ?_⟩
    · rw [← List.concat_eq_append]
      exact h.nodup.concat fun hn => (h.begun n hn).2 hfresh
    · rw [List.mem_append, List.mem_singleton] at hm
      rcases hm with hm | rfl
      · exact .inl hm
      · exact .inr hwaiting

/-- The worker goes on, or is done with the first one before it. -/
theorem exists_done_append (h : p.Orderly events) (e : Event ε κ) :
    ∃ done, p.received (events ++ [e]) = done ++ (p.run (events ++ [e])).inTurn ∧
      p.granted (events ++ [e]) <+ done ∧
      ∀ n ∈ done, (p.run (events ++ [e])).ticket n ≠ .waiting := by
  obtain ⟨done, hreceived, hgranted, hdone⟩ := h.exists_done
  have hrun := run_append_singleton p events e
  have hleft (n : Nat) (hn : n ∈ done) : (p.run (events ++ [e])).ticket n ≠ .waiting := by
    obtain ⟨hlt, hfresh⟩ := h.begun n (by simp [asking, hreceived, hn])
    rw [hrun]
    exact (step_turn _ e hlt).ne_waiting hfresh (hdone n hn)
  simp only [received, granted, along_append_singleton] at hreceived hgranted ⊢
  rw [hreceived]
  cases step_service (p.run events) e with
  | goesOn hinTurn hgrants =>
    refine ⟨done, ?_, by simpa [hgrants] using hgranted, hleft⟩
    rw [hrun, hinTurn, List.append_assoc]
  | dismisses n hinTurn hhears hgrants hn =>
    refine ⟨done ++ [n], ?_, hgranted.append hgrants, fun m hm => ?_⟩
    · rw [hrun, hinTurn, hhears]
      simp
    · rw [List.mem_append, List.mem_singleton] at hm
      rcases hm with hm | rfl
      · exact hleft m hm
      · rwa [hrun]

theorem append_singleton (h : p.Orderly events) (e : Event ε κ) : p.Orderly (events ++ [e]) := by
  obtain ⟨hnodup, hmem⟩ := h.asking_append e
  refine ⟨hnodup, fun n hn => ?_, fun n hn => ?_, h.exists_done_append e⟩
  · rcases hmem n hn with hold | hwaiting
    · exact (h.of_mem_asking e hold).1
    · exact ⟨lt_of_ticket_ne_closed (by simp [hwaiting]), by simp [hwaiting]⟩
  · rcases hmem n hn with hold | hwaiting
    · exact (h.of_mem_asking e hold).2
    · exact .inl hwaiting

end Orderly

theorem run_orderly (limit : Nat) (events : List (Event ε κ)) :
    Orderly { limit } events := by
  induction events using List.reverseRecOn with
  | nil => exact ⟨.nil, by simp [asking, received, along, requested],
      by simp [asking, received, along, requested], [], rfl, .slnil, by simp⟩
  | append_singleton events e ih => exact ih.append_singleton e

/-- **Tickets are served in the order in which the worker heard of them.** In every run of callers,
attempts and the worker, the worker hears of no ticket twice, and it answers with connections in the
order in which it heard. Where it answers a ticket with a connection, the worker has heard of that
ticket, and every ticket of which it heard before has waited and been answered, with a connection or
a failure, or been given up. -/
theorem run_granted (limit : Nat) (events : List (Event ε κ)) :
    let start : Pool ε κ := { limit }
    (start.received events).Nodup ∧ start.granted events <+ start.received events ∧
      ∀ e n c, (start.run events).ticket n = .waiting →
        (start.run (events ++ [e])).ticket n = .answered (.ok c) →
          start.granted (events ++ [e]) = start.granted events ++ [n] ∧
            ∃ before after, start.received events = before ++ n :: after ∧
              ∀ m ∈ before, start.Ended events m := by
  intro start
  obtain ⟨hnodup, -, hwaits, done, hreceived, hgranted, hdone⟩ := run_orderly limit events
  refine ⟨hnodup.of_append_left, ?_, fun e n c hn hanswered => ?_⟩
  · rw [hreceived]
    exact hgranted.trans (List.sublist_append_left _ _)
  · rw [run_append_singleton] at hanswered
    obtain ⟨hactivity, hgrants⟩ := grants_of_answered hn hanswered
    have hinTurn : (start.run events).inTurn = n :: (start.run events).queue := by
      simp [inTurn, offered, hactivity]
    refine ⟨?_, done, (start.run events).queue, hinTurn ▸ hreceived, fun m hm => ?_⟩
    · rw [granted, along_append_singleton, hgrants]
      rfl
    · exact (hwaits m (by simp [asking, hreceived, hm])).resolve_left (hdone m hm)

/-- The connection comes back that the first of three callers holds, the second one having given
up, and the worker takes it in hand for the third. -/
def secondPassedOver : List (Event Error Rehearsal.Lease) :=
  oneGivesUp ++ [.giveBack 0, .wake] ++ .replicate 4 .work

theorem run_granted_secondPassedOver :
    Pool.received { limit := 2 } secondPassedOver = [0, 1, 2] ∧
      Pool.granted { limit := 2 } (secondPassedOver ++ [.work]) = [0, 2] ∧
      Pool.Ended { limit := 2 } secondPassedOver 0 ∧
      Pool.Ended { limit := 2 } secondPassedOver 1 := by
  have hreceived : Pool.received { limit := 2 } secondPassedOver = [0, 1, 2] := by cbv
  have hgranted : Pool.granted { limit := 2 } secondPassedOver = [0] := by cbv
  have hwaiting : (Pool.run { limit := 2 } secondPassedOver).ticket 2 = .waiting := by cbv
  have hanswered : (Pool.run { limit := 2 } (secondPassedOver ++ [.work])).ticket 2 =
      .answered (.ok { wreck with connection.phase := .ready }) := by cbv
  obtain ⟨-, -, hserved⟩ := run_granted 2 secondPassedOver
  obtain ⟨hmore, before, after, hsplit, hended⟩ := hserved .work 2 _ hwaiting hanswered
  rw [hgranted] at hmore
  have hbefore : before = [0, 1] := by
    rw [hreceived] at hsplit
    rcases before with _ | ⟨a, _ | ⟨b, _ | ⟨c, before⟩⟩⟩ <;> simp_all
  subst hbefore
  exact ⟨hreceived, hmore, hended 0 (by simp), hended 1 (by simp)⟩

end ThinClient.Pool
