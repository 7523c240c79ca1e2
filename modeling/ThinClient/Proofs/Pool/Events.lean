import ThinClient.Pool.Worker

/-!
# What happens to a pool

Callers, connections that are being opened and the worker take their steps in any order, so a run of
a pool is any list of events.

* `Pool.step` is what one event does, `Pool.run` what a list of events does from a pool on.
* `exists_run_eq_poll`: what the worker does until it rests is a run of that kind.
* `Pool.everywhere` are the connections that are open: idle ones, the one that the worker is about
  to answer with, those at tickets, and those that were given back and not read.
* `step_of_isCallers`: callers touch tickets and the inbox only.
* `work_everywhere` says which connections a step of the worker adds to those that are open, and
  which it lets go.
* `step_change` says for every event what it does to them and to the count that the worker keeps.
-/

namespace ThinClient

/-- The connection that a message gives back. -/
def Message.connection? {κ : Type} : Message κ → Option κ
  | acquire _ => none
  | release c => some c

theorem Ticket.isWaiting_iff {ε κ : Type} {t : Ticket ε κ} :
    t.isWaiting = true ↔ t = .waiting := by
  cases t <;> simp [isWaiting]

/-- An answer is lost on a ticket that does not wait for it. -/
theorem Ticket.answer_of_ne_waiting {ε κ : Type} {t : Ticket ε κ} (h : t ≠ .waiting)
    (a : Except ε κ) : t.answer a = t := by
  cases t <;> first | rfl | exact absurd rfl h

namespace Pool

open List (Perm)
open scoped List

variable {ε κ : Type}

theorem isResting_iff {p : Pool ε κ} : p.isResting = true ↔ p.activity = .rest := by
  cases h : p.activity <;> simp [isResting, h]

/-! ## Events -/

/-- Something that happens to a pool. -/
inductive Event (ε κ : Type) where
  | enter
  | inquire (ticket : Nat)
  | cancel (ticket : Nat)
  | use (ticket : Nat) (change : κ → κ)
  | giveBack (ticket : Nat)
  /-- The opening of a connection ends. -/
  | conclude (result : Except ε κ)
  | wake
  /-- The worker takes a step. -/
  | work

/-- Whether callers do it. -/
def Event.isCallers : Event ε κ → Bool
  | .enter | .inquire _ | .cancel _ | .use .. | .giveBack _ => true
  | .conclude _ | .wake | .work => false

theorem Event.isCallers_or (e : Event ε κ) :
    e.isCallers = true ∨ (∃ result, e = .conclude result) ∨ e = .wake ∨ e = .work := by
  cases e <;> simp [isCallers]

/-- What one event does. -/
def step [Breakable κ] (p : Pool ε κ) : Event ε κ → Pool ε κ
  | .enter => p.enter.2
  | .inquire n => (p.inquire n).2
  | .cancel n => p.cancel n
  | .use n change => p.use n change
  | .giveBack n => p.giveBack n
  | .conclude result => p.conclude result
  | .wake => p.wake
  | .work => p.work

/-- Callers touch nothing but tickets and the inbox. -/
theorem step_of_isCallers [Breakable κ] (p : Pool ε κ) {e : Event ε κ} (he : e.isCallers = true) :
    ∃ tickets inbox, p.step e = { p with tickets, inbox } := by
  cases e with
  | enter => exact ⟨_, _, rfl⟩
  | inquire n =>
    simp only [step, inquire]
    split <;> exact ⟨_, _, rfl⟩
  | cancel n =>
    simp only [step, cancel]
    split <;> exact ⟨_, _, rfl⟩
  | use n change =>
    simp only [step, use]
    split <;> exact ⟨_, _, rfl⟩
  | giveBack n =>
    simp only [step, giveBack]
    split <;> exact ⟨_, _, rfl⟩
  | conclude result => cases he
  | wake => cases he
  | work => cases he

theorem exists_conclude_eq (p : Pool ε κ) (result : Except ε κ) :
    ∃ attempt, p.conclude result = { p with attempt } := by
  unfold conclude
  split <;> exact ⟨_, rfl⟩

/-- What events do one after the other. -/
def run [Breakable κ] (p : Pool ε κ) (events : List (Event ε κ)) : Pool ε κ :=
  events.foldl step p

@[simp] theorem run_nil [Breakable κ] (p : Pool ε κ) : p.run [] = p := rfl

@[simp] theorem run_cons [Breakable κ] (p : Pool ε κ) (e : Event ε κ) (events : List (Event ε κ)) :
    p.run (e :: events) = (p.step e).run events := rfl

theorem run_append [Breakable κ] (p : Pool ε κ) (first second : List (Event ε κ)) :
    p.run (first ++ second) = (p.run first).run second :=
  List.foldl_append

/-- What holds at the start and outlasts every event holds after every run. -/
theorem run_induction [Breakable κ] {P : Pool ε κ → Prop} (hstep : ∀ p e, P p → P (p.step e))
    {p : Pool ε κ} (hp : P p) (events : List (Event ε κ)) : P (p.run events) := by
  induction events generalizing p with
  | nil => exact hp
  | cons e events ih => exact ih (hstep p e hp)

theorem begin_cases (dial : Nat → Option (Except ε κ)) (p : Pool ε κ) :
    p.begin dial = p ∨ ∃ result, p.begin dial = p.conclude result := by
  unfold begin
  split
  · split
    · exact .inr ⟨_, rfl⟩
    · exact .inl rfl
  · exact .inl rfl

theorem exists_run_eq_begin [Breakable κ] (dial : Nat → Option (Except ε κ)) (p : Pool ε κ) :
    ∃ events, p.begin dial = p.run events := by
  rcases begin_cases dial p with hsame | ⟨result, hresult⟩
  · exact ⟨[], hsame⟩
  · exact ⟨[.conclude result], hresult⟩

/-- What the worker does until it rests is a run. -/
theorem exists_run_eq_poll [Breakable κ] (dial : Nat → Option (Except ε κ)) (p : Pool ε κ) :
    ∃ events, p.poll dial = p.run events := by
  induction p using poll.induct dial with
  | case1 p hp =>
    rw [poll, dif_pos hp]
    exact ⟨[], rfl⟩
  | case2 p hp ih =>
    obtain ⟨later, hlater⟩ := ih
    obtain ⟨first, hfirst⟩ := exists_run_eq_begin dial p
    refine ⟨first ++ .work :: later, ?_⟩
    rw [poll, dif_neg hp, hlater, run_append, ← hfirst]
    rfl

/-! ## Connections -/

/-- The connections at tickets, answered or held. -/
def held (p : Pool ε κ) : List κ :=
  p.tickets.filterMap Ticket.connection?

/-- The connections that were given back and that the worker has not read. -/
def returned (p : Pool ε κ) : List κ :=
  p.inbox.filterMap Message.connection?

/-- The connections outside the worker. -/
def outside (p : Pool ε κ) : List κ :=
  p.held ++ p.returned

/-- The connection that the worker is about to answer a ticket with. -/
def inHand (p : Pool ε κ) : List κ :=
  match p.activity with
  | .offer _ c => [c]
  | _ => []

theorem inHand_eq_nil {p : Pool ε κ} (h : ∀ n c, p.activity ≠ .offer n c) : p.inHand = [] := by
  unfold inHand
  split
  next n c hactivity => exact absurd hactivity (h n c)
  next => rfl

/-- All open connections. -/
def everywhere (p : Pool ε κ) : List κ :=
  p.idle ++ p.inHand ++ p.outside

/-- How many connections are being opened. -/
def connecting (p : Pool ε κ) : Nat :=
  if p.attempt.isSome then 1 else 0

theorem connecting_le_one (p : Pool ε κ) : p.connecting ≤ 1 := by
  unfold connecting
  split <;> omega

@[simp] theorem send_held (p : Pool ε κ) (m : Message κ) : (p.send m).held = p.held := rfl

@[simp] theorem send_returned (p : Pool ε κ) (m : Message κ) :
    (p.send m).returned = p.returned ++ m.connection?.toList := by
  cases m <;> simp [send, returned, Message.connection?]

theorem lt_of_ticket_ne_closed {p : Pool ε κ} {n : Nat} (hn : p.ticket n ≠ .closed) :
    n < p.tickets.length := by
  apply Nat.lt_of_not_le
  intro hle
  exact hn (by simp [ticket, hle])

/-- A ticket that is not closed is one of the list, and setting it touches no other. -/
theorem exists_tickets_eq {p : Pool ε κ} {n : Nat} (hn : p.ticket n ≠ .closed) :
    ∃ before after, p.tickets = before ++ p.ticket n :: after ∧
      ∀ t, (p.setTicket n t).tickets = before ++ t :: after := by
  have hlt := lt_of_ticket_ne_closed hn
  refine ⟨p.tickets.take n, p.tickets.drop (n + 1), ?_, fun t => ?_⟩
  · have hget : p.ticket n = p.tickets[n] := by simp [ticket, hlt]
    rw [hget, List.getElem_cons_drop, List.take_append_drop]
  · simp only [setTicket]
    rw [List.set_eq_take_append_cons_drop, if_pos hlt]

theorem setTicket_ticket {p : Pool ε κ} {n : Nat} (hn : p.ticket n ≠ .closed) (t : Ticket ε κ) :
    (p.setTicket n t).ticket n = t := by
  have hlt := lt_of_ticket_ne_closed hn
  simp [ticket, setTicket, hlt]

theorem setTicket_setTicket (p : Pool ε κ) (n : Nat) (t t' : Ticket ε κ) :
    (p.setTicket n t).setTicket n t' = p.setTicket n t' := by
  simp [setTicket]

theorem setTicket_self (p : Pool ε κ) (n : Nat) : p.setTicket n (p.ticket n) = p := by
  have h : p.tickets.set n (p.ticket n) = p.tickets := by
    rcases Nat.lt_or_ge n p.tickets.length with hlt | hge
    · simp [ticket, hlt]
    · exact List.set_eq_of_length_le hge
  rw [setTicket, h]

/-- A ticket's connection leaves with its state, and the connection of the next state comes. -/
theorem setTicket_held {p : Pool ε κ} {n : Nat} (hn : p.ticket n ≠ .closed) (t : Ticket ε κ) :
    (t.connection?.toList ++ p.held).Perm
      ((p.ticket n).connection?.toList ++ (p.setTicket n t).held) := by
  obtain ⟨before, after, hp, hset⟩ := exists_tickets_eq hn
  have hmiddle (t : Ticket ε κ) : ((before ++ t :: after).filterMap Ticket.connection?).Perm
      (t.connection?.toList ++ (before ++ after).filterMap Ticket.connection?) := by
    rw [List.filterMap_append, List.filterMap_append, List.filterMap_cons]
    cases t.connection? with
    | none => exact .refl _
    | some c => exact List.perm_middle
  simp only [held, hset t]
  rw [hp]
  calc t.connection?.toList ++ (before ++ p.ticket n :: after).filterMap Ticket.connection?
      ~ t.connection?.toList ++ ((p.ticket n).connection?.toList ++
          (before ++ after).filterMap Ticket.connection?) := (hmiddle _).append_left _
    _ ~ (p.ticket n).connection?.toList ++ (t.connection?.toList ++
          (before ++ after).filterMap Ticket.connection?) := by
        rw [← List.append_assoc, ← List.append_assoc]
        exact List.perm_append_comm.append_right _
    _ ~ (p.ticket n).connection?.toList ++
          (before ++ t :: after).filterMap Ticket.connection? := (hmiddle t).symm.append_left _

theorem setTicket_held_same {p : Pool ε κ} {n : Nat} {t : Ticket ε κ} (hn : p.ticket n ≠ .closed)
    (ht : t.connection? = (p.ticket n).connection?) : (p.setTicket n t).held ~ p.held := by
  have h := setTicket_held hn t
  rw [ht, List.perm_append_left_iff] at h
  exact h.symm

theorem setTicket_held_loses {p : Pool ε κ} {n : Nat} {t : Ticket ε κ} {c : κ}
    (hn : (p.ticket n).connection? = some c) (ht : t.connection? = none) :
    p.held ~ c :: (p.setTicket n t).held := by
  have h := setTicket_held (p := p) (n := n) 
    (by rintro hclosed; simp [hclosed, Ticket.connection?] at hn) t
  simpa [hn, ht] using h

theorem setTicket_held_gains {p : Pool ε κ} {n : Nat} {t : Ticket ε κ} {c : κ}
    (hopen : p.ticket n ≠ .closed) (hn : (p.ticket n).connection? = none)
    (ht : t.connection? = some c) : (p.setTicket n t).held ~ c :: p.held := by
  have h := setTicket_held hopen t
  simpa [hn, ht] using h.symm

/-! ## What events do to connections -/

/-- What an event does to the open connections, to the count that the worker keeps, and to the
connection that is being opened. -/
inductive Change [Breakable κ] (p q : Pool ε κ) : Prop where
  /-- Connections change their places at most. -/
  | moved (hopen : q.everywhere ~ p.everywhere) (hactives : q.actives = p.actives)
      (hconnecting : q.connecting ≤ p.connecting)
  /-- Somebody who holds a connection changes it. -/
  | used (c c' : κ) (others : List κ) (hbefore : p.everywhere ~ c :: others)
      (hafter : q.everywhere ~ c' :: others) (hactives : q.actives = p.actives)
      (hconnecting : q.connecting = p.connecting)
  /-- An attempt to open a connection begins. -/
  | begun (hroom : p.actives < p.limit) (hp : p.connecting = 0)
      (hopen : q.everywhere ~ p.everywhere) (hactives : q.actives = p.actives)
  /-- An attempt ends with a connection. -/
  | opened (c : κ) (hp : p.attempt = some (.finished (.ok c))) (hq : q.attempt = none)
      (hopen : q.everywhere ~ c :: p.everywhere) (hactives : q.actives = p.actives + 1)
  /-- The worker lets go of a broken connection that was given back. -/
  | discarded (c : κ) (hbroken : Breakable.isBroken c = true)
      (hopen : p.everywhere ~ c :: q.everywhere) (hactives : q.actives = p.actives - 1)
      (hconnecting : q.connecting = p.connecting)

theorem everywhere_congr {p q : Pool ε κ} (hidle : q.idle = p.idle) (hhand : q.inHand = p.inHand)
    (houtside : q.outside = p.outside) : q.everywhere = p.everywhere := by
  rw [everywhere, everywhere, hidle, hhand, houtside]

/-- Where the idle connections and the one in the worker's hand stay, only the others count. -/
theorem everywhere_perm_of_outside {p q : Pool ε κ} (hidle : q.idle = p.idle)
    (hactivity : q.activity = p.activity) (h : q.outside ~ p.outside) :
    q.everywhere ~ p.everywhere := by
  simp only [everywhere, inHand, hidle, hactivity]
  exact h.append_left _

theorem setTicket_everywhere {p : Pool ε κ} {n : Nat} {t : Ticket ε κ}
    (hn : p.ticket n ≠ .closed) (ht : t.connection? = (p.ticket n).connection?) :
    (p.setTicket n t).everywhere ~ p.everywhere :=
  everywhere_perm_of_outside rfl rfl ((setTicket_held_same hn ht).append_right _)

theorem setTicket_everywhere_loses {p : Pool ε κ} {n : Nat} {t : Ticket ε κ} {c : κ}
    (hn : (p.ticket n).connection? = some c) (ht : t.connection? = none) :
    p.everywhere ~ c :: (p.setTicket n t).everywhere := by
  have hheld := setTicket_held_loses hn ht
  calc p.everywhere
      ~ p.idle ++ p.inHand ++ (c :: (p.setTicket n t).outside) :=
        (hheld.append_right p.returned).append_left _
    _ ~ c :: (p.setTicket n t).everywhere := List.perm_middle

theorem send_release_everywhere (p : Pool ε κ) (c : κ) :
    (p.send (.release c)).everywhere ~ c :: p.everywhere := by
  have h : (p.send (.release c)).everywhere = p.everywhere ++ [c] := by
    simp only [everywhere, outside, send_held, send_returned, Message.connection?,
      Option.toList_some, ← List.append_assoc]
    rfl
  rw [h]
  exact List.perm_append_singleton _ _

/-- A connection that leaves its ticket for the inbox stays open. -/
theorem release_everywhere {p : Pool ε κ} {n : Nat} {c : κ}
    (hn : (p.ticket n).connection? = some c) :
    ((p.setTicket n .closed).send (.release c)).everywhere ~ p.everywhere :=
  (send_release_everywhere _ c).trans (setTicket_everywhere_loses hn rfl).symm

theorem send_acquire_everywhere (p : Pool ε κ) (n : Nat) :
    (p.send (.acquire n)).everywhere = p.everywhere := by
  have h := send_returned p (.acquire n)
  rw [Message.connection?, Option.toList_none, List.append_nil] at h
  simp only [everywhere, outside, h]
  rfl

theorem enter_everywhere (p : Pool ε κ) : p.enter.2.everywhere = p.everywhere := by
  simp [everywhere, inHand, outside, held, returned, enter, Ticket.connection?]

theorem inquire_everywhere (p : Pool ε κ) (n : Nat) :
    (p.inquire n).2.everywhere ~ p.everywhere := by
  unfold inquire
  split
  next hn =>
    rw [send_acquire_everywhere]
    exact setTicket_everywhere (by simp [hn]) (by rw [hn]; rfl)
  next c hn => exact setTicket_everywhere (by simp [hn]) (by rw [hn]; rfl)
  next e hn => exact setTicket_everywhere (by simp [hn]) (by rw [hn]; rfl)
  all_goals exact .refl _

theorem cancel_everywhere (p : Pool ε κ) (n : Nat) : (p.cancel n).everywhere ~ p.everywhere := by
  unfold cancel
  split
  next c hn => exact release_everywhere (by rw [hn]; rfl)
  next hn => exact setTicket_everywhere (by simp [hn]) (by rw [hn]; rfl)
  next hn => exact setTicket_everywhere (by simp [hn]) (by rw [hn]; rfl)
  next e hn => exact setTicket_everywhere (by simp [hn]) (by rw [hn]; rfl)
  all_goals exact .refl _

theorem giveBack_everywhere (p : Pool ε κ) (n : Nat) :
    (p.giveBack n).everywhere ~ p.everywhere := by
  unfold giveBack
  split
  next c hn => exact release_everywhere (by rw [hn]; rfl)
  next => exact .refl _

theorem use_of_not_holding {p : Pool ε κ} {n : Nat} (hn : ∀ c, p.ticket n ≠ .holding c)
    (change : κ → κ) : p.use n change = p := by
  unfold use
  split
  next c hholding => exact absurd hholding (hn c)
  next => rfl

/-- Somebody who holds a connection puts another one in its place, which is the same one changed. -/
theorem use_everywhere {p : Pool ε κ} {n : Nat} {c : κ} (hn : p.ticket n = .holding c)
    (change : κ → κ) : ∃ others, p.everywhere ~ c :: others ∧
      (p.use n change).everywhere ~ change c :: others := by
  have hopen : p.ticket n ≠ .closed := by simp [hn]
  have hheld : ((p.setTicket n (.holding (change c))).ticket n).connection? = some (change c) := by
    rw [setTicket_ticket hopen]
    rfl
  have hbefore := setTicket_everywhere_loses (t := .closed) (c := c) (by rw [hn]; rfl) rfl
  have hafter := setTicket_everywhere_loses (t := .closed) hheld rfl
  rw [setTicket_setTicket] at hafter
  refine ⟨_, hbefore, ?_⟩
  simp only [use, hn]
  exact hafter

/-- Callers leave the count and the attempt of the worker alone. -/
theorem change_of_isCallers [Breakable κ] {p : Pool ε κ} {e : Event ε κ} (he : e.isCallers = true)
    (hopen : (p.step e).everywhere ~ p.everywhere) : Change p (p.step e) := by
  obtain ⟨tickets, inbox, hstep⟩ := p.step_of_isCallers he
  rw [hstep] at hopen ⊢
  exact .moved hopen rfl (Nat.le_refl _)

theorem use_change [Breakable κ] (p : Pool ε κ) (n : Nat) (change : κ → κ) :
    Change p (p.use n change) := by
  by_cases h : ∃ c, p.ticket n = .holding c
  · obtain ⟨c, hn⟩ := h
    obtain ⟨others, hbefore, hafter⟩ := use_everywhere hn change
    refine .used c (change c) others hbefore hafter ?_ ?_
    all_goals
      simp only [use, hn]
      rfl
  · rw [use_of_not_holding fun c hn => h ⟨c, hn⟩]
    exact .moved (.refl _) rfl (Nat.le_refl _)

theorem conclude_everywhere (p : Pool ε κ) (result : Except ε κ) :
    (p.conclude result).everywhere = p.everywhere := by
  obtain ⟨attempt, hconclude⟩ := p.exists_conclude_eq result
  rw [hconclude]
  rfl

theorem conclude_change [Breakable κ] (p : Pool ε κ) (result : Except ε κ) :
    Change p (p.conclude result) := by
  unfold conclude
  split
  next h => exact .moved (.refl _) rfl (by simp [connecting, h])
  next h => exact .moved (.refl _) rfl (by simp [connecting, h])
  next => exact .moved (.refl _) rfl (Nat.le_refl _)

theorem wake_everywhere (p : Pool ε κ) : p.wake.everywhere = p.everywhere := by
  unfold wake
  split
  next hactivity =>
    have hhand : p.inHand = [] := by simp [inHand, hactivity]
    exact everywhere_congr rfl hhand.symm rfl
  next => rfl

theorem wake_change [Breakable κ] (p : Pool ε κ) : Change p p.wake := by
  refine .moved (.of_eq (wake_everywhere p)) ?_ (Nat.le_of_eq ?_)
  all_goals
    unfold wake
    split <;> rfl

/-! ## What the parts of the worker leave alone -/

section Frame

variable (p : Pool ε κ) (n : Nat) (c : κ) (e : ε)

@[simp] theorem takeBack_inbox [Breakable κ] : (p.takeBack c).inbox = p.inbox := by
  unfold takeBack
  split <;> rfl

@[simp] theorem takeBack_queue [Breakable κ] : (p.takeBack c).queue = p.queue := by
  unfold takeBack
  split <;> rfl

@[simp] theorem takeBack_attempt [Breakable κ] : (p.takeBack c).attempt = p.attempt := by
  unfold takeBack
  split <;> rfl

@[simp] theorem takeBack_activity [Breakable κ] : (p.takeBack c).activity = p.activity := by
  unfold takeBack
  split <;> rfl

@[simp] theorem refuseFirst_inbox : (p.refuseFirst e).inbox = p.inbox := by
  unfold refuseFirst
  split <;> rfl

@[simp] theorem refuseFirst_actives : (p.refuseFirst e).actives = p.actives := by
  unfold refuseFirst
  split <;> rfl

@[simp] theorem refuseFirst_attempt : (p.refuseFirst e).attempt = p.attempt := by
  unfold refuseFirst
  split <;> rfl

@[simp] theorem refuseFirst_activity : (p.refuseFirst e).activity = p.activity := by
  unfold refuseFirst
  split <;> rfl

@[simp] theorem refuseFirst_notices : (p.refuseFirst e).notices = p.notices := by
  unfold refuseFirst
  split <;> rfl

@[simp] theorem checkAttempt_inbox : p.checkAttempt.inbox = p.inbox := by
  unfold checkAttempt
  split <;> simp [tell]

@[simp] theorem checkAttempt_activity : p.checkAttempt.activity = p.activity := by
  unfold checkAttempt
  split <;> simp [tell]

@[simp] theorem serveQueue_inbox : p.serveQueue.inbox = p.inbox := by
  unfold serveQueue
  repeat' split
  all_goals rfl

@[simp] theorem serveQueue_actives : p.serveQueue.actives = p.actives := by
  unfold serveQueue
  repeat' split
  all_goals rfl

@[simp] theorem offer_inbox : (p.offer n c).inbox = p.inbox := by
  unfold offer
  split <;> rfl

@[simp] theorem offer_attempt : (p.offer n c).attempt = p.attempt := by
  unfold offer
  split <;> rfl

@[simp] theorem offer_activity : (p.offer n c).activity = p.activity := by
  unfold offer
  split <;> rfl

end Frame

/-! ## What the worker does to connections -/

/-- A connection given back is open until its message is read. -/
theorem everywhere_of_inbox {p : Pool ε κ} {c : κ} {inbox : List (Message κ)}
    (h : p.inbox = .release c :: inbox) : p.everywhere ~ c :: { p with inbox }.everywhere := by
  have hreturned : p.returned = c :: { p with inbox }.returned := by
    simp [returned, h, Message.connection?]
  rw [everywhere, outside, hreturned]
  calc p.idle ++ p.inHand ++ (p.held ++ c :: { p with inbox }.returned)
      ~ p.idle ++ p.inHand ++ c :: { p with inbox }.outside := List.perm_middle.append_left _
    _ ~ c :: { p with inbox }.everywhere := List.perm_middle

/-- A request for a connection is read without touching any. -/
theorem everywhere_of_acquire [Breakable κ] {p : Pool ε κ} {n : Nat} {inbox : List (Message κ)}
    (h : p.inbox = .acquire n :: inbox) :
    ({ p with inbox }.read (.acquire n)).everywhere = p.everywhere := by
  have hreturned : { p with inbox }.returned = p.returned := by
    rw [returned, returned, h, List.filterMap_cons]
    rfl
  exact everywhere_congr rfl rfl (congrArg (p.held ++ ·) hreturned)

/-- What is taken back stays open, unless it is broken. -/
theorem takeBack_everywhere [Breakable κ] {p : Pool ε κ} {c : κ} {inbox : List (Message κ)}
    (h : p.inbox = .release c :: inbox) :
    (({ p with inbox }.takeBack c).everywhere ++ if Breakable.isBroken c then [c] else []) ~
      p.everywhere := by
  refine .trans ?_ (everywhere_of_inbox h).symm
  unfold takeBack
  split
  next => exact List.perm_append_singleton _ _
  next => exact .of_eq (List.append_nil _)

theorem takeBack_change [Breakable κ] {p : Pool ε κ} {c : κ} {inbox : List (Message κ)}
    (h : p.inbox = .release c :: inbox) : Change p ({ p with inbox }.takeBack c) := by
  have hopen := takeBack_everywhere h
  by_cases hbroken : Breakable.isBroken c
  · rw [if_pos hbroken] at hopen
    refine .discarded c hbroken (hopen.symm.trans (List.perm_append_singleton _ _)) ?_ ?_
    all_goals
      rw [takeBack, if_pos hbroken]
      rfl
  · rw [if_neg hbroken, List.append_nil] at hopen
    have hkept : { p with inbox }.takeBack c = { p with inbox, idle := c :: p.idle } :=
      if_neg hbroken
    rw [hkept] at hopen ⊢
    exact .moved hopen rfl (Nat.le_refl _)

theorem answer_ok_everywhere {p : Pool ε κ} {n : Nat} {c : κ} (hn : p.ticket n = .waiting) :
    (p.answer n (.ok c)).everywhere ~ c :: p.everywhere := by
  have hheld : (p.answer n (.ok c)).held ~ c :: p.held :=
    setTicket_held_gains (by simp [hn]) (by rw [hn]; rfl) (by rw [hn]; rfl)
  calc (p.answer n (.ok c)).everywhere
      ~ p.idle ++ p.inHand ++ (c :: p.outside) := (hheld.append_right p.returned).append_left _
    _ ~ c :: p.everywhere := List.perm_middle

theorem answer_error_everywhere (p : Pool ε κ) (n : Nat) (e : ε) :
    (p.answer n (.error e)).everywhere ~ p.everywhere := by
  by_cases hn : p.ticket n = .waiting
  · exact setTicket_everywhere (by simp [hn]) (by rw [hn]; rfl)
  · rw [answer, Ticket.answer_of_ne_waiting hn, setTicket_self]

theorem refuseFirst_everywhere (p : Pool ε κ) (e : ε) :
    (p.refuseFirst e).everywhere ~ p.everywhere := by
  unfold refuseFirst
  split
  · exact .refl _
  · exact answer_error_everywhere _ _ e

/-- The connection with which the attempt has ended. -/
def arrived (p : Pool ε κ) : List κ :=
  match p.attempt with
  | some (.finished (.ok c)) => [c]
  | _ => []

theorem arrived_eq (p : Pool ε κ) :
    p.arrived = [] ∨ ∃ c, p.attempt = some (.finished (.ok c)) ∧ p.arrived = [c] := by
  unfold arrived
  split
  next c h => exact .inr ⟨c, h, rfl⟩
  next => exact .inl rfl

/-- The worker looks at its attempt: the connection with which it has ended is open from now on. -/
theorem checkAttempt_everywhere (p : Pool ε κ) :
    p.checkAttempt.everywhere ~ p.arrived ++ p.everywhere := by
  unfold checkAttempt arrived
  split
  next h => simp only [h]; exact .refl _
  next h => simp only [h]; exact .refl _
  next h => simp only [h]; exact .refl _
  next c h => simp only [h]; exact .refl _
  next e h => simp only [h]; exact refuseFirst_everywhere _ e

theorem checkAttempt_actives (p : Pool ε κ) :
    p.checkAttempt.actives = p.actives + p.arrived.length := by
  unfold checkAttempt arrived
  split
  next h => simp [h]
  next h => simp [h]
  next h => simp [h]
  next c h => simp [h]
  next e h => simp [h, refuseFirst_actives, tell]

/-- What is left of an attempt that the worker has looked at goes on. -/
theorem checkAttempt_attempt (p : Pool ε κ) :
    p.checkAttempt.attempt = none ∨
      p.attempt.isSome ∧ p.arrived = [] ∧ p.checkAttempt.attempt = some .underWay := by
  unfold checkAttempt arrived
  split
  next h => exact .inl h
  next h => exact .inr (by simp [h])
  next h => exact .inr (by simp [h])
  next => exact .inl rfl
  next e _ => exact .inl (refuseFirst_attempt _ e)

theorem checkAttempt_change [Breakable κ] {p : Pool ε κ} (hp : p.inHand = []) :
    Change p { p with activity := .serveQueue }.checkAttempt := by
  have hmoved : { p with activity := .serveQueue }.everywhere = p.everywhere :=
    everywhere_congr rfl hp.symm rfl
  have hopen := checkAttempt_everywhere { p with activity := .serveQueue }
  have hactives := checkAttempt_actives { p with activity := .serveQueue }
  have hafter := checkAttempt_attempt { p with activity := .serveQueue }
  rw [hmoved] at hopen
  rcases arrived_eq { p with activity := .serveQueue } with hnone | ⟨c, hattempt, hsome⟩
  · rw [hnone] at hopen hactives
    refine .moved hopen hactives ?_
    rcases hafter with hover | ⟨hbefore, -, -⟩
    · simp [connecting, hover]
    · have hone : p.connecting = 1 := if_pos hbefore
      have := connecting_le_one { p with activity := .serveQueue }.checkAttempt
      omega
  · rw [hsome] at hopen hactives hafter
    refine .opened c hattempt ?_ hopen hactives
    rcases hafter with hover | ⟨-, hnil, -⟩
    · exact hover
    · cases hnil

/-- Taking the first connection in hand that is idle moves it only. -/
theorem serveQueue_everywhere {p : Pool ε κ} (hp : p.inHand = []) :
    p.serveQueue.everywhere ~ p.everywhere := by
  have hmoved {q : Pool ε κ} (hidle : q.idle = p.idle) (hhand : q.inHand = [])
      (houtside : q.outside = p.outside) : q.everywhere ~ p.everywhere :=
    .of_eq (everywhere_congr hidle (hhand.trans hp.symm) houtside)
  unfold serveQueue
  split
  next => exact hmoved rfl rfl rfl
  next n queue hqueue =>
    split
    next =>
      split
      next c idle hidle =>
        have hbefore : p.everywhere = c :: (idle ++ p.outside) := by
          simp [everywhere, hidle, hp]
        rw [hbefore]
        exact (List.perm_append_singleton c idle).append_right p.outside
      next =>
        split
        · exact hmoved rfl rfl rfl
        · exact hmoved rfl rfl rfl
    next => exact .refl _

/-- An attempt begins only where there is none and the limit leaves room, and the worker then begins
again with the messages. -/
theorem serveQueue_attempt (p : Pool ε κ) :
    p.serveQueue.attempt = p.attempt ∨
      p.attempt = none ∧ p.actives < p.limit ∧ p.serveQueue.attempt = some .planned ∧
        p.serveQueue.activity = .readMessages := by
  unfold serveQueue
  repeat' split
  any_goals exact .inl rfl
  next h => exact .inr ⟨Option.isNone_iff_eq_none.mp h.1, h.2, rfl, rfl⟩

theorem serveQueue_change [Breakable κ] {p : Pool ε κ} (hp : p.inHand = []) :
    Change p p.serveQueue := by
  have hopen := serveQueue_everywhere hp
  rcases serveQueue_attempt p with hsame | ⟨hnone, hroom, -, -⟩
  · exact .moved hopen (serveQueue_actives p) (by simp [connecting, hsame])
  · exact .begun hroom (by simp [connecting, hnone]) hopen (serveQueue_actives p)

theorem offer_everywhere {p : Pool ε κ} {n : Nat} {c : κ} (hactivity : p.activity = .offer n c) :
    ({ p with activity := .serveQueue }.offer n c).everywhere ~ p.everywhere := by
  have hbefore : p.everywhere ~ c :: { p with activity := .serveQueue }.everywhere := by
    simp only [everywhere, inHand, hactivity, List.append_nil]
    exact (List.perm_append_singleton c p.idle).append_right _
  refine .trans ?_ hbefore.symm
  unfold offer
  split
  next hn => exact answer_ok_everywhere (Ticket.isWaiting_iff.mp hn)
  next => exact .refl _

theorem offer_change [Breakable κ] {p : Pool ε κ} {n : Nat} {c : κ}
    (hactivity : p.activity = .offer n c) :
    Change p ({ p with activity := .serveQueue }.offer n c) := by
  refine .moved (offer_everywhere hactivity) ?_ (Nat.le_of_eq ?_)
  all_goals
    unfold offer
    split <;> rfl

section Work

variable [Breakable κ] {p : Pool ε κ}

theorem work_of_checkAttempt (h : p.activity = .checkAttempt) :
    p.work = { p with activity := .serveQueue }.checkAttempt := by
  simp only [work, h]

theorem work_of_serveQueue (h : p.activity = .serveQueue) : p.work = p.serveQueue := by
  simp only [work, h]

theorem work_of_offer {n : Nat} {c : κ} (h : p.activity = .offer n c) :
    p.work = { p with activity := .serveQueue }.offer n c := by
  simp only [work, h]

theorem work_of_rest (h : p.activity = .rest) : p.work = p := by
  simp only [work, h]

end Work

/-- The connections that the worker's next step adds. -/
def comes (p : Pool ε κ) : List κ :=
  match p.activity with
  | .checkAttempt => p.arrived
  | _ => []

/-- The connections that the worker's next step lets go. -/
def leaves [Breakable κ] (p : Pool ε κ) : List κ :=
  match p.activity, p.inbox with
  | .readMessages, .release c :: _ => if Breakable.isBroken c then [c] else []
  | _, _ => []

theorem comes_eq_nil {p : Pool ε κ} (h : p.activity ≠ .checkAttempt) : p.comes = [] := by
  unfold comes
  split
  next hactivity => exact absurd hactivity h
  next => rfl

theorem leaves_eq_nil [Breakable κ] {p : Pool ε κ} (h : p.activity ≠ .readMessages) :
    p.leaves = [] := by
  unfold leaves
  split
  next hactivity _ => exact absurd hactivity h
  next => rfl

/-- Where the worker's next step moves connections at most, none comes and none goes. -/
theorem moved_everywhere [Breakable κ] {p q : Pool ε κ} (hcomes : p.comes = [])
    (hleaves : p.leaves = []) (h : q.everywhere ~ p.everywhere) :
    q.everywhere ++ p.leaves ~ p.comes ++ p.everywhere := by
  rwa [hcomes, hleaves, List.append_nil, List.nil_append]

/-- Connections come from the attempt alone, and none goes but a broken one. -/
theorem work_everywhere [Breakable κ] (p : Pool ε κ) :
    p.work.everywhere ++ p.leaves ~ p.comes ++ p.everywhere := by
  unfold work
  split
  next hactivity =>
    have hhand : p.inHand = [] := by simp [inHand, hactivity]
    have hcomes : p.comes = [] := comes_eq_nil (by simp [hactivity])
    split
    next m inbox hinbox =>
      cases m with
      | acquire n =>
        have hleaves : p.leaves = [] := by simp [leaves, hactivity, hinbox]
        exact moved_everywhere hcomes hleaves (.of_eq (everywhere_of_acquire hinbox))
      | release c =>
        have hleaves : p.leaves = if Breakable.isBroken c then [c] else [] := by
          simp [leaves, hactivity, hinbox]
        rw [hcomes, hleaves]
        exact takeBack_everywhere hinbox
    next hinbox =>
      have hleaves : p.leaves = [] := by simp [leaves, hactivity, hinbox]
      exact moved_everywhere hcomes hleaves (.of_eq (everywhere_congr rfl hhand.symm rfl))
  next hactivity =>
    have hhand : p.inHand = [] := by simp [inHand, hactivity]
    have hmoved : { p with activity := .serveQueue }.everywhere = p.everywhere :=
      everywhere_congr rfl hhand.symm rfl
    have hcomes : p.comes = p.arrived := by simp [comes, hactivity]
    have hcheck := checkAttempt_everywhere { p with activity := .serveQueue }
    rw [hmoved] at hcheck
    rw [hcomes, leaves_eq_nil (by simp [hactivity]), List.append_nil]
    exact hcheck
  next hactivity =>
    exact moved_everywhere (comes_eq_nil (by simp [hactivity]))
      (leaves_eq_nil (by simp [hactivity])) (serveQueue_everywhere (by simp [inHand, hactivity]))
  next n c hactivity =>
    exact moved_everywhere (comes_eq_nil (by simp [hactivity]))
      (leaves_eq_nil (by simp [hactivity])) (offer_everywhere hactivity)
  next hactivity =>
    exact moved_everywhere (comes_eq_nil (by simp [hactivity]))
      (leaves_eq_nil (by simp [hactivity])) (.refl _)

/-- Where the worker does not look at its attempt, it leaves it alone or begins one. -/
theorem work_attempt [Breakable κ] {p : Pool ε κ} (h : p.activity ≠ .checkAttempt) :
    p.work.attempt = p.attempt ∨
      p.attempt = none ∧ p.work.attempt = some .planned ∧ p.work.activity = .readMessages := by
  unfold work
  split
  next =>
    split
    next m inbox _ =>
      cases m with
      | acquire n => exact .inl rfl
      | release c => exact .inl (takeBack_attempt _ c)
    next => exact .inl rfl
  next hactivity => exact absurd hactivity h
  next =>
    rcases serveQueue_attempt p with hsame | ⟨hnone, -, hplanned, hagain⟩
    · exact .inl hsame
    · exact .inr ⟨hnone, hplanned, hagain⟩
  next n c _ => exact .inl (offer_attempt _ n c)
  next => exact .inl rfl

theorem work_change [Breakable κ] (p : Pool ε κ) : Change p p.work := by
  unfold work
  split
  next hactivity =>
    have hhand : p.inHand = [] := by simp [inHand, hactivity]
    split
    next m inbox hinbox =>
      cases m with
      | acquire n => exact .moved (.of_eq (everywhere_of_acquire hinbox)) rfl (Nat.le_refl _)
      | release c => exact takeBack_change hinbox
    next => exact .moved (.of_eq (everywhere_congr rfl hhand.symm rfl)) rfl (Nat.le_refl _)
  next hactivity => exact checkAttempt_change (by simp [inHand, hactivity])
  next hactivity => exact serveQueue_change (by simp [inHand, hactivity])
  next n c hactivity => exact offer_change hactivity
  next hactivity => exact .moved (.refl _) rfl (Nat.le_refl _)

theorem step_change [Breakable κ] (p : Pool ε κ) (e : Event ε κ) : Change p (p.step e) := by
  cases e with
  | enter => exact change_of_isCallers rfl (.of_eq (enter_everywhere p))
  | inquire n => exact change_of_isCallers rfl (inquire_everywhere p n)
  | cancel n => exact change_of_isCallers rfl (cancel_everywhere p n)
  | use n change => exact use_change p n change
  | giveBack n => exact change_of_isCallers rfl (giveBack_everywhere p n)
  | conclude result => exact conclude_change p result
  | wake => exact wake_change p
  | work => exact work_change p

end Pool

end ThinClient
