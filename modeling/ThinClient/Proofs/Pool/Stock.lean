import Mathlib.Data.List.Induction
import Mathlib.Tactic.Tauto
import ThinClient.Proofs.Pool.Events

/-!
# What callers get, and what they give back

A connection that is not broken when it is opened stays so until a caller holds it, since nobody
else changes it. So a connection that the worker finds broken was given back broken.

* `stock` are the connections that no caller has held since they were opened or taken back, and
  `run_stock` says that none of them is broken.
* `released` are the connections that have come back to the worker, `GivenBack` says that one was
  given back as it is, and `run_givenBack` that all broken ones among them were.
-/

namespace ThinClient

variable {ε κ : Type}

/-- The connection of an answer that nobody has read. -/
def Ticket.unread? : Ticket ε κ → Option κ
  | answered (.ok c) => some c
  | _ => none

/-- The connection that a notice says was let go. -/
def Notice.discarded? : Notice ε κ → Option κ
  | connectFailed _ => none
  | discarded c => some c

namespace Pool

open scoped List

variable {p : Pool ε κ} {c : κ}

/-- The connections in answers that nobody has read. -/
def unread (p : Pool ε κ) : List κ :=
  p.tickets.filterMap Ticket.unread?

/-- The connections that the worker has let go. -/
def discarded (p : Pool ε κ) : List κ :=
  p.notices.filterMap Notice.discarded?

/-! ## Connections that arrive -/

/-- The connection with which an event ends an attempt, at a time when there is one. -/
def Event.concluded? : Event ε κ → Option κ
  | .conclude (.ok c) => some c
  | _ => none

theorem arrived_congr {q : Pool ε κ} (h : q.attempt = p.attempt) : q.arrived = p.arrived := by
  rw [arrived, arrived, h]

theorem arrived_of_attempt {a : Option (Attempt ε κ)} (h : p.attempt = a)
    (ha : ∀ c, a ≠ some (.finished (.ok c))) : p.arrived = [] := by
  rcases arrived_eq p with hnone | ⟨c, hattempt, -⟩
  · exact hnone
  · exact absurd (h.symm.trans hattempt) (ha c)

theorem conclude_arrived (p : Pool ε κ) (result : Except ε κ) :
    (p.conclude result).arrived <+
      p.arrived ++ (Event.conclude result).concluded?.toList := by
  have hended : { p with attempt := some (.finished result) }.arrived =
      (Event.conclude result : Event ε κ).concluded?.toList := by
    cases result <;> rfl
  unfold conclude
  split
  next =>
    rw [hended]
    exact List.sublist_append_right _ _
  next =>
    rw [hended]
    exact List.sublist_append_right _ _
  next => exact List.sublist_append_left _ _

theorem wake_arrived (p : Pool ε κ) : p.wake.arrived = p.arrived := by
  unfold wake
  split <;> rfl

/-! ## Connections that no caller has held -/

/-- The connections that no caller has held since they were opened or taken back. -/
def stock (p : Pool ε κ) : List κ :=
  p.idle ++ p.inHand ++ p.arrived ++ p.unread

theorem mem_stock : c ∈ p.stock ↔ c ∈ p.idle ∨ c ∈ p.inHand ∨ c ∈ p.arrived ∨ c ∈ p.unread := by
  simp [stock]

theorem unread_of_ticket {n : Nat} (h : p.ticket n = .answered (.ok c)) : c ∈ p.unread := by
  obtain ⟨before, after, htickets, -⟩ := exists_tickets_eq (p := p) (n := n) (by simp [h])
  rw [unread, htickets, h]
  simp [Ticket.unread?]

theorem unread_of_setTicket {n : Nat} {t : Ticket ε κ} (h : c ∈ (p.setTicket n t).unread) :
    t.unread? = some c ∨ c ∈ p.unread := by
  obtain ⟨t', ht', hc⟩ := List.mem_filterMap.mp h
  rcases List.mem_or_eq_of_mem_set ht' with hold | rfl
  · exact .inr (List.mem_filterMap.mpr ⟨t', hold, hc⟩)
  · exact .inl hc

theorem unread_of_answer {n : Nat} {a : Except ε κ} (h : c ∈ (p.answer n a).unread) :
    a = .ok c ∨ c ∈ p.unread := by
  by_cases hn : p.ticket n = .waiting
  · have hanswer : (p.ticket n).answer a = .answered a := by
      rw [hn]
      rfl
    rw [answer, hanswer] at h
    rcases unread_of_setTicket h with hnew | hold
    · cases a with
      | ok c' => exact .inl (congrArg _ (Option.some.inj hnew))
      | error e => cases hnew
    · exact .inr hold
  · have hanswer : (p.ticket n).answer a = p.ticket n := by
      unfold Ticket.answer
      split
      next h => exact absurd h hn
      next => rfl
    rw [answer, hanswer, setTicket_self] at h
    exact .inr h

theorem stock_of_answer {n : Nat} {a : Except ε κ} (h : c ∈ (p.answer n a).stock) :
    a = .ok c ∨ c ∈ p.stock := by
  rw [mem_stock] at h ⊢
  rcases h with hidle | hhand | harrived | hunread
  · exact .inr (.inl hidle)
  · exact .inr (.inr (.inl hhand))
  · exact .inr (.inr (.inr (.inl harrived)))
  · exact (unread_of_answer hunread).imp_right fun hold => .inr (.inr (.inr hold))

/-- Callers take unread answers away only. -/
theorem unread_of_isCallers [Breakable κ] {e : Event ε κ} (he : e.isCallers = true)
    (h : c ∈ (p.step e).unread) : c ∈ p.unread := by
  have hset {n : Nat} {t : Ticket ε κ} (ht : t.unread? = none) (h : c ∈ (p.setTicket n t).unread) :
      c ∈ p.unread :=
    (unread_of_setTicket h).resolve_left (by simp [ht])
  cases e with
  | enter => simpa [step, enter, unread, Ticket.unread?] using h
  | inquire n =>
    simp only [step, inquire] at h
    split at h
    all_goals first | exact h | exact hset rfl h
  | cancel n =>
    simp only [step, cancel] at h
    split at h
    all_goals first | exact h | exact hset rfl h
  | use n change =>
    simp only [step, use] at h
    split at h
    all_goals first | exact h | exact hset rfl h
  | giveBack n =>
    simp only [step, giveBack] at h
    split at h
    all_goals first | exact h | exact hset rfl h
  | conclude result => cases he
  | wake => cases he
  | work => cases he

theorem stock_of_conclude {result : Except ε κ} (h : c ∈ (p.conclude result).stock) :
    c ∈ p.stock ∨ (Event.conclude result : Event ε κ).concluded? = some c := by
  have harrived := (conclude_arrived p result).subset
  obtain ⟨attempt, hconclude⟩ := p.exists_conclude_eq result
  rw [hconclude] at h harrived
  rw [mem_stock] at h ⊢
  rcases h with hidle | hhand | hcome | hunread
  · exact .inl (.inl hidle)
  · exact .inl (.inr (.inl hhand))
  · rcases List.mem_append.mp (harrived hcome) with hold | hnew
    · exact .inl (.inr (.inr (.inl hold)))
    · exact .inr (Option.mem_toList.mp hnew)
  · exact .inl (.inr (.inr (.inr hunread)))

theorem wake_stock (p : Pool ε κ) : p.wake.stock = p.stock := by
  unfold wake
  split
  next hactivity =>
    have hhand : p.inHand = [] := by simp [inHand, hactivity]
    rw [stock, stock, hhand]
    rfl
  next => rfl

theorem stock_of_takeBack [Breakable κ] {c' : κ} (h : c ∈ (p.takeBack c').stock) :
    c ∈ p.stock ∨ Breakable.isBroken c = false := by
  unfold takeBack at h
  split at h
  next => exact .inl h
  next hbroken =>
    rcases List.mem_cons.mp h with rfl | hold
    · exact .inr (Bool.not_eq_true _ ▸ hbroken)
    · exact .inl hold

theorem stock_of_refuseFirst {e : ε} (h : c ∈ (p.refuseFirst e).stock) : c ∈ p.stock := by
  unfold refuseFirst at h
  split at h
  next => exact h
  next => exact (stock_of_answer h).resolve_left (by simp)

theorem stock_of_checkAttempt (h : c ∈ p.checkAttempt.stock) : c ∈ p.stock := by
  have hended {q : Pool ε κ} (hq : c ∈ q.stock) (hidle : q.idle = p.idle)
      (hhand : q.inHand = p.inHand) (harrived : q.arrived = []) (hunread : q.unread = p.unread) :
      c ∈ p.stock := by
    rw [mem_stock, hidle, hhand, harrived, hunread] at hq
    rw [mem_stock]
    exact hq.imp_right fun hq => hq.imp_right fun hq => .inr (hq.resolve_left List.not_mem_nil)
  unfold checkAttempt at h
  split at h
  next => exact h
  next => exact hended h rfl rfl rfl rfl
  next => exact hended h rfl rfl rfl rfl
  next c' hattempt =>
    have hcome : p.arrived = [c'] := by simp [arrived, hattempt]
    change c ∈ c' :: p.idle ++ p.inHand ++ [] ++ p.unread at h
    rw [stock, hcome]
    simp only [List.mem_append, List.mem_cons] at h ⊢
    tauto
  next => exact hended (stock_of_refuseFirst h) rfl rfl rfl (by simp [tell, unread])

theorem stock_of_serveQueue (hp : p.inHand = []) (h : c ∈ p.serveQueue.stock) : c ∈ p.stock := by
  have hrest {q : Pool ε κ} (hq : c ∈ q.stock) (hidle : q.idle = p.idle) (hhand : q.inHand = [])
      (harrived : q.arrived = p.arrived) (hunread : q.unread = p.unread) : c ∈ p.stock := by
    rwa [stock, hidle, hhand, harrived, hunread, ← hp] at hq
  unfold serveQueue at h
  split at h
  next => exact hrest h rfl rfl rfl rfl
  next n queue _ =>
    split at h
    next =>
      split at h
      next c' idle hidle =>
        change c ∈ idle ++ [c'] ++ p.arrived ++ p.unread at h
        rw [stock, hidle, hp]
        simp only [List.mem_append, List.mem_cons] at h ⊢
        tauto
      next =>
        split at h
        next hstart =>
          have hnone : p.attempt = none := Option.isNone_iff_eq_none.mp hstart.1
          exact hrest h rfl rfl (by simp [arrived, hnone]) rfl
        next => exact hrest h rfl rfl rfl rfl
    next => exact h

theorem stock_of_offer {n : Nat} {c' : κ} (hp : p.activity = .offer n c')
    (h : c ∈ ({ p with activity := .serveQueue }.offer n c').stock) : c ∈ p.stock := by
  have hhand : p.inHand = [c'] := by simp [inHand, hp]
  have hrest (hrest : c ∈ p.idle ++ [] ++ p.arrived ++ p.unread) : c ∈ p.stock := by
    rw [stock, hhand]
    simp only [List.mem_append, List.mem_cons] at hrest ⊢
    tauto
  have hsame : c' ∈ p.stock := by simp [stock, hhand]
  unfold offer at h
  split at h
  next =>
    rcases stock_of_answer h with hnew | hold
    · cases hnew
      exact hsame
    · exact hrest hold
  next =>
    rcases List.mem_cons.mp h with rfl | hold
    · exact hsame
    · exact hrest hold

section Run

variable [Breakable κ]

/-- What the worker adds to the stock is not broken. -/
theorem stock_of_work (h : c ∈ p.work.stock) : c ∈ p.stock ∨ Breakable.isBroken c = false := by
  have hturn {a : Activity κ} (hp : p.inHand = []) (ha : { p with activity := a }.inHand = []) :
      { p with activity := a }.stock = p.stock := by
    rw [stock, stock, ha, hp]
    rfl
  unfold work at h
  split at h
  next hactivity =>
    have hhand : p.inHand = [] := by simp [inHand, hactivity]
    split at h
    next m inbox _ =>
      cases m with
      | acquire n => exact .inl h
      | release c' => exact stock_of_takeBack (p := { p with inbox }) h
    next => exact .inl (hturn (a := .checkAttempt) hhand rfl ▸ h)
  next hactivity =>
    have hhand : p.inHand = [] := by simp [inHand, hactivity]
    exact .inl (hturn (a := .serveQueue) hhand rfl ▸ stock_of_checkAttempt h)
  next hactivity => exact .inl (stock_of_serveQueue (by simp [inHand, hactivity]) h)
  next hactivity => exact .inl (stock_of_offer hactivity h)
  next => exact .inl h

theorem stock_of_step {e : Event ε κ} (h : c ∈ (p.step e).stock) :
    c ∈ p.stock ∨ e.concluded? = some c ∨ Breakable.isBroken c = false := by
  rcases e.isCallers_or with he | ⟨result, rfl⟩ | rfl | rfl
  · have hunread : c ∈ (p.step e).unread → c ∈ p.unread := unread_of_isCallers he
    obtain ⟨tickets, inbox, hstep⟩ := p.step_of_isCallers he
    rw [mem_stock, hstep] at h
    rw [hstep] at hunread
    rw [mem_stock]
    exact .inl (h.imp_right fun h => h.imp_right fun h => h.imp_right hunread)
  · exact (stock_of_conclude h).imp_right .inl
  · exact .inl (wake_stock p ▸ h)
  · exact (stock_of_work h).imp_right .inr

/-- Where connections are not broken when they are opened, none of the stock ever is. -/
theorem run_stock {events : List (Event ε κ)} (hp : ∀ c ∈ p.stock, Breakable.isBroken c = false)
    (h : ∀ c ∈ events.filterMap Event.concluded?, Breakable.isBroken c = false) :
    ∀ c ∈ (p.run events).stock, Breakable.isBroken c = false := by
  induction events generalizing p with
  | nil => exact hp
  | cons e events ih =>
    have hconcluded {c : κ} {e' : Event ε κ} (he : e' ∈ e :: events) (hc : e'.concluded? = some c) :
        Breakable.isBroken c = false :=
      h c (List.mem_filterMap.mpr ⟨e', he, hc⟩)
    refine ih (fun c hc => ?_) fun c hc => ?_
    · rcases stock_of_step hc with hold | hnew | hgood
      · exact hp c hold
      · exact hconcluded List.mem_cons_self hnew
      · exact hgood
    · obtain ⟨e', he, hc⟩ := List.mem_filterMap.mp hc
      exact hconcluded (List.mem_cons_of_mem e he) hc

end Run

/-! ## Connections that come back -/

/-- The connections that have come back to the worker, whether it has let them go or will. -/
def released (p : Pool ε κ) : List κ :=
  p.returned ++ p.discarded

theorem mem_released : c ∈ p.released ↔ c ∈ p.returned ∨ c ∈ p.discarded :=
  List.mem_append

theorem returned_of_send {m : Message κ} (h : c ∈ (p.send m).returned) :
    c ∈ p.returned ∨ m = .release c := by
  rw [send_returned, List.mem_append] at h
  refine h.imp_right fun hnew => ?_
  cases m with
  | acquire n => cases hnew
  | release c' => exact congrArg _ (List.mem_singleton.mp hnew).symm

theorem checkAttempt_discarded (p : Pool ε κ) : p.checkAttempt.discarded = p.discarded := by
  unfold checkAttempt
  split
  case h_5 e _ =>
    rw [discarded, refuseFirst_notices]
    simp [tell, discarded, Notice.discarded?]
  all_goals rfl

variable [Breakable κ]

/-- The connections that the worker lets go with an event. -/
def lost (p : Pool ε κ) : Event ε κ → List κ
  | .work => p.leaves
  | _ => []

theorem lost_of_isCallers (p : Pool ε κ) {e : Event ε κ} (he : e.isCallers = true) :
    p.lost e = [] := by
  cases e <;> first | rfl | cases he

theorem takeBack_discarded (p : Pool ε κ) (c : κ) :
    (p.takeBack c).discarded = p.discarded ++ if Breakable.isBroken c then [c] else [] := by
  unfold takeBack
  split
  next => simp [tell, discarded, Notice.discarded?]
  next => simp [discarded]

theorem work_discarded (p : Pool ε κ) : p.work.discarded = p.discarded ++ p.leaves := by
  have hkept (h : p.activity ≠ .readMessages) : p.discarded ++ p.leaves = p.discarded := by
    rw [leaves_eq_nil h, List.append_nil]
  unfold work
  split
  next hactivity =>
    split
    next m inbox hinbox =>
      cases m with
      | acquire n => simp [leaves, hactivity, hinbox, read, discarded]
      | release c =>
        simp only [leaves, hactivity, hinbox]
        exact takeBack_discarded _ c
    next hinbox => simp [leaves, hactivity, hinbox, discarded]
  next hactivity =>
    rw [hkept (by simp [hactivity])]
    exact checkAttempt_discarded _
  next hactivity =>
    rw [hkept (by simp [hactivity])]
    unfold serveQueue
    repeat' split
    all_goals rfl
  next n c hactivity =>
    rw [hkept (by simp [hactivity])]
    unfold offer
    split <;> rfl
  next hactivity => rw [hkept (by simp [hactivity])]

theorem step_discarded (p : Pool ε κ) (e : Event ε κ) :
    (p.step e).discarded = p.discarded ++ p.lost e := by
  rcases e.isCallers_or with he | ⟨result, rfl⟩ | rfl | rfl
  · obtain ⟨tickets, inbox, hstep⟩ := p.step_of_isCallers he
    rw [hstep, lost_of_isCallers p he, List.append_nil]
    rfl
  · simp only [step, conclude, lost, List.append_nil]
    split <;> rfl
  · simp only [step, wake, lost, List.append_nil]
    split <;> rfl
  · exact work_discarded p

/-- The worker reads messages in order. -/
theorem work_inbox (p : Pool ε κ) : p.work.inbox <:+ p.inbox := by
  unfold work
  split
  next =>
    split
    next m inbox hinbox =>
      rw [hinbox]
      cases m with
      | acquire n => exact List.suffix_cons _ _
      | release c =>
        rw [read, takeBack_inbox]
        exact List.suffix_cons _ _
    next => exact List.suffix_refl _
  next => simp [checkAttempt_inbox]
  next => simp [serveQueue_inbox]
  next => simp [offer_inbox]
  next => exact List.suffix_refl _

theorem returned_of_work (h : c ∈ p.work.returned) : c ∈ p.returned :=
  ((work_inbox p).sublist.filterMap _).subset h

/-- What the worker lets go was given back broken. -/
theorem mem_leaves (h : c ∈ p.leaves) : c ∈ p.returned ∧ Breakable.isBroken c = true := by
  unfold leaves at h
  split at h
  next c' inbox _ hinbox =>
    split at h
    next hbroken =>
      obtain rfl := List.mem_singleton.mp h
      exact ⟨by simp [returned, hinbox, Message.connection?], hbroken⟩
    next => cases h
  next => cases h

theorem released_of_work (h : c ∈ p.work.released) : c ∈ p.released := by
  rw [mem_released, work_discarded, List.mem_append] at h
  rw [mem_released]
  rcases h with hreturned | hold | hnew
  · exact .inl (returned_of_work hreturned)
  · exact .inr hold
  · exact .inl (mem_leaves hnew).1

/-- Callers give back what they held, or have not read. -/
theorem returned_of_isCallers {e : Event ε κ} (he : e.isCallers = true)
    (h : c ∈ (p.step e).returned) :
    c ∈ p.returned ∨ c ∈ p.unread ∨ ∃ n, e = .giveBack n ∧ p.ticket n = .holding c := by
  cases e with
  | enter => exact .inl h
  | inquire n =>
    simp only [step, inquire] at h
    split at h
    next => exact .inl ((returned_of_send h).resolve_right (by simp))
    all_goals exact .inl h
  | cancel n =>
    simp only [step, cancel] at h
    split at h
    next c' hn =>
      rcases returned_of_send h with hold | hnew
      · exact .inl hold
      · cases hnew
        exact .inr (.inl (unread_of_ticket hn))
    all_goals exact .inl h
  | use n change =>
    simp only [step, use] at h
    split at h
    all_goals exact .inl h
  | giveBack n =>
    simp only [step, giveBack] at h
    split at h
    next c' hn =>
      rcases returned_of_send h with hold | hnew
      · exact .inl hold
      · cases hnew
        exact .inr (.inr ⟨n, rfl, hn⟩)
    next => exact .inl h
  | conclude result => cases he
  | wake => cases he
  | work => cases he

theorem released_of_step {e : Event ε κ} (h : c ∈ (p.step e).released) :
    c ∈ p.released ∨ c ∈ p.unread ∨ ∃ n, e = .giveBack n ∧ p.ticket n = .holding c := by
  rcases e.isCallers_or with he | ⟨result, rfl⟩ | rfl | rfl
  · rw [mem_released, step_discarded, lost_of_isCallers p he, List.append_nil] at h
    rw [mem_released]
    rcases h with hreturned | hdiscarded
    · exact (returned_of_isCallers he hreturned).imp_left .inl
    · exact .inl (.inr hdiscarded)
  · simp only [step, conclude] at h
    split at h <;> exact .inl h
  · simp only [step, wake] at h
    split at h <;> exact .inl h
  · exact .inl (released_of_work h)

theorem run_discarded {events : List (Event ε κ)}
    (hp : ∀ c ∈ p.discarded, Breakable.isBroken c = true) :
    ∀ c ∈ (p.run events).discarded, Breakable.isBroken c = true := by
  refine run_induction (P := fun p => ∀ c ∈ p.discarded, Breakable.isBroken c = true) ?_ hp events
  intro p e hp c hc
  rw [step_discarded, List.mem_append] at hc
  rcases hc with hold | hnew
  · exact hp c hold
  · cases e with
    | work => exact (mem_leaves hnew).2
    | _ => cases hnew

/-- Whether a connection was given back, as it is, by a caller who held it. -/
def GivenBack (p : Pool ε κ) (events : List (Event ε κ)) (c : κ) : Prop :=
  ∃ n earlier later, events = earlier ++ .giveBack n :: later ∧
    (p.run earlier).ticket n = .holding c

theorem GivenBack.append {events : List (Event ε κ)} (h : p.GivenBack events c)
    (more : List (Event ε κ)) : p.GivenBack (events ++ more) c := by
  obtain ⟨n, earlier, later, rfl, hheld⟩ := h
  exact ⟨n, earlier, later ++ more, by simp, hheld⟩

/-- What has come back broken was given back broken. -/
theorem run_givenBack {events : List (Event ε κ)} (hp : p.released = [])
    (hstock : ∀ c ∈ p.stock, Breakable.isBroken c = false)
    (h : ∀ c ∈ events.filterMap Event.concluded?, Breakable.isBroken c = false)
    (hc : c ∈ (p.run events).released) (hbroken : Breakable.isBroken c = true) :
    p.GivenBack events c := by
  induction events using List.reverseRecOn with
  | nil =>
    rw [run_nil, hp] at hc
    cases hc
  | append_singleton events e ih =>
    rw [List.filterMap_append] at h
    have hearlier (c : κ) (hc : c ∈ events.filterMap Event.concluded?) :
        Breakable.isBroken c = false :=
      h c (List.mem_append_left _ hc)
    rw [run_append] at hc
    rcases released_of_step hc with hold | hunread | ⟨n, rfl, hheld⟩
    · exact (ih hearlier hold).append [e]
    · have hgood := run_stock hstock hearlier c (by simp [stock, hunread])
      rw [hgood] at hbroken
      cases hbroken
    · exact ⟨n, events, [], rfl, hheld⟩

end Pool

end ThinClient
