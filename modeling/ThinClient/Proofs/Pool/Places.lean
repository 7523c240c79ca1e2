import Mathlib
import ThinClient.Proofs.Connection.Calls
import ThinClient.Proofs.Pool.Stock
import ThinClient.Rehearsal.Peer

/-!
# Where the connections of a pool are

Every connection that the worker has opened is somewhere: idle, in the hand of the worker, in an
answer that nobody has read, in the hands of a caller, in a message that the worker has not read, or
discarded. A caller can change a connection that it holds, so connections are known by names that
such a change leaves as they are.

* `opened` are the connections that the worker opens in a run, in order. `opened_sublist`: they are
  connections with which attempts end, each once.
* `run_names`: a run moves names from place to place, and adds those of the connections it opens.
* `run_places`: **every connection ever opened is in one place**, in whatever order things happen;
  what is discarded was given back broken, and what callers get is ready.
-/

namespace ThinClient

variable {ε κ : Type}

/-- The connection in the hands of a caller. -/
def Ticket.lent? : Ticket ε κ → Option κ
  | holding c => some c
  | _ => none

namespace Pool

open List (Perm)
open scoped List

variable {p : Pool ε κ} {c : κ}

/-! ## Places -/

/-- The connections in the hands of callers. -/
def lent (p : Pool ε κ) : List κ :=
  p.tickets.filterMap Ticket.lent?

/-- Where a connection of a pool can be. -/
inductive Place where
  | idle
  | inHand
  | unread
  | lent
  | returned
  | discarded

/-- All places. -/
def Place.all : List Place :=
  [.idle, .inHand, .unread, .lent, .returned, .discarded]

/-- The connections in a place. -/
def inPlace (p : Pool ε κ) : Place → List κ
  | .idle => p.idle
  | .inHand => p.inHand
  | .unread => p.unread
  | .lent => p.lent
  | .returned => p.returned
  | .discarded => p.discarded

/-- A connection at a ticket is unread or lent. -/
theorem held_perm (p : Pool ε κ) : p.held ~ p.unread ++ p.lent := by
  unfold held unread lent
  induction p.tickets with
  | nil => exact .refl _
  | cons t tickets ih =>
    rcases t with _ | _ | (e | c) | c | _
    case answered.ok => exact ih.cons c
    case holding => exact (ih.cons c).trans List.perm_middle.symm
    all_goals exact ih

/-- The places are those of the open connections and of the discarded ones. -/
theorem inPlace_perm (p : Pool ε κ) :
    Place.all.flatMap p.inPlace ~ p.everywhere ++ p.discarded := by
  have hplaces : Place.all.flatMap p.inPlace =
      p.idle ++ p.inHand ++ (p.unread ++ p.lent ++ p.returned) ++ p.discarded := by
    simp [Place.all, inPlace]
  rw [hplaces]
  exact (((held_perm p).symm.append_right p.returned).append_left _).append_right _

theorem Place.mem_all (place : Place) : place ∈ all := by
  cases place <;> simp [all]

/-- Where the names in all places differ, each is in one of them. -/
theorem existsUnique_inPlace {ι : Type} {name : κ → ι}
    (h : ((Place.all.flatMap p.inPlace).map name).Nodup) {i : ι}
    (hi : i ∈ (Place.all.flatMap p.inPlace).map name) :
    ∃! place, i ∈ (p.inPlace place).map name := by
  rw [List.map_flatMap] at h hi
  obtain ⟨place, -, hplace⟩ := List.mem_flatMap.mp hi
  have hsymm : Std.Symm (Function.onFun List.Disjoint fun place => (p.inPlace place).map name) :=
    ⟨fun _ _ hapart => List.Disjoint.symm hapart⟩
  refine ⟨place, hplace, fun other hother => ?_⟩
  by_contra hne
  exact (List.nodup_flatMap.mp h).2.forall other.mem_all place.mem_all hne hother hplace

/-! ## Connections that are opened -/

/-- The connections that the worker opens with an event. -/
def gained (p : Pool ε κ) : Event ε κ → List κ
  | .work => p.comes
  | _ => []

theorem gained_of_isCallers (p : Pool ε κ) {e : Event ε κ} (he : e.isCallers = true) :
    p.gained e = [] := by
  cases e <;> first | rfl | cases he

variable [Breakable κ]

/-- The connections that the worker opens in a run, in order. -/
def opened (p : Pool ε κ) : List (Event ε κ) → List κ
  | [] => []
  | e :: events => p.gained e ++ (p.step e).opened events

/-- A connection that has come and that the worker takes has not come any more. -/
theorem work_arrived (p : Pool ε κ) : p.comes ++ p.work.arrived <+ p.arrived := by
  by_cases hactivity : p.activity = .checkAttempt
  · have hcomes : p.comes = p.arrived := by simp [comes, hactivity]
    have hleft : p.work.arrived = [] := by
      rw [work_of_checkAttempt hactivity]
      rcases checkAttempt_attempt { p with activity := .serveQueue } with hover | ⟨-, -, hon⟩
      · exact arrived_of_attempt hover (by simp)
      · exact arrived_of_attempt hon (by simp)
    rw [hcomes, hleft, List.append_nil]
  · rw [comes_eq_nil hactivity, List.nil_append]
    rcases work_attempt hactivity with hsame | ⟨-, hplanned, -⟩
    · rw [arrived_congr hsame]
    · rw [arrived_of_attempt hplanned (by simp)]
      exact List.nil_sublist _

theorem step_arrived (p : Pool ε κ) (e : Event ε κ) :
    p.gained e ++ (p.step e).arrived <+ p.arrived ++ e.concluded?.toList := by
  rcases e.isCallers_or with he | ⟨result, rfl⟩ | rfl | rfl
  · obtain ⟨tickets, inbox, hstep⟩ := p.step_of_isCallers he
    rw [hstep, gained_of_isCallers p he]
    exact List.sublist_append_left _ _
  · exact conclude_arrived p result
  · exact wake_arrived p ▸ List.sublist_append_left _ _
  · exact (work_arrived p).trans (List.sublist_append_left _ _)

/-- What is opened are connections with which attempts end, in order, each once. -/
theorem opened_sublist (p : Pool ε κ) (events : List (Event ε κ)) :
    p.opened events ++ (p.run events).arrived <+
      p.arrived ++ events.filterMap Event.concluded? := by
  induction events generalizing p with
  | nil => simp [opened]
  | cons e events ih =>
    have hconcluded : (e :: events).filterMap Event.concluded? =
        e.concluded?.toList ++ events.filterMap Event.concluded? := by
      cases h : e.concluded? <;> simp [h]
    rw [opened, run_cons, hconcluded, List.append_assoc, ← List.append_assoc p.arrived]
    calc p.gained e ++ ((p.step e).opened events ++ ((p.step e).run events).arrived)
        <+ p.gained e ++ ((p.step e).arrived ++ events.filterMap Event.concluded?) :=
          (ih (p.step e)).append_left _
      _ = p.gained e ++ (p.step e).arrived ++ events.filterMap Event.concluded? :=
          (List.append_assoc _ _ _).symm
      _ <+ p.arrived ++ e.concluded?.toList ++ events.filterMap Event.concluded? :=
          (step_arrived p e).append_right _

/-! ## Names -/

variable {ι : Type} {name : κ → ι}

/-- Whether an event leaves the name of every connection as it is. -/
def Event.KeepsNames (name : κ → ι) : Event ε κ → Prop
  | .use _ change => ∀ c, name (change c) = name c
  | _ => True

omit [Breakable κ] in
/-- A change of a connection that leaves its name moves no name. -/
theorem use_names {change : κ → κ} (p : Pool ε κ) (n : Nat) (h : ∀ c, name (change c) = name c) :
    (p.use n change).everywhere.map name ~ p.everywhere.map name := by
  by_cases hn : ∃ c, p.ticket n = .holding c
  · obtain ⟨c, hn⟩ := hn
    obtain ⟨others, hbefore, hafter⟩ := use_everywhere hn change
    calc (p.use n change).everywhere.map name
        ~ (change c :: others).map name := hafter.map name
      _ = (c :: others).map name := by rw [List.map_cons, List.map_cons, h]
      _ ~ p.everywhere.map name := (hbefore.map name).symm
  · rw [use_of_not_holding fun c hc => hn ⟨c, hc⟩]

/-- An event other than a use moves connections, adds those that are opened, and lets broken ones
go. -/
theorem step_everywhere {e : Event ε κ} (p : Pool ε κ) (huse : ∀ n change, e ≠ .use n change) :
    (p.step e).everywhere ++ p.lost e ~ p.gained e ++ p.everywhere := by
  have hmoved {q : Pool ε κ} (h : q.everywhere ~ p.everywhere) :
      q.everywhere ++ [] ~ [] ++ p.everywhere := by
    rwa [List.append_nil, List.nil_append]
  cases e with
  | enter => exact hmoved (.of_eq (enter_everywhere p))
  | inquire n => exact hmoved (inquire_everywhere p n)
  | cancel n => exact hmoved (cancel_everywhere p n)
  | use n change => exact absurd rfl (huse n change)
  | giveBack n => exact hmoved (giveBack_everywhere p n)
  | conclude result => exact hmoved (.of_eq (conclude_everywhere p result))
  | wake => exact hmoved (.of_eq (wake_everywhere p))
  | work => exact work_everywhere p

theorem step_everywhere_names {e : Event ε κ} (p : Pool ε κ) (he : e.KeepsNames name) :
    ((p.step e).everywhere ++ p.lost e).map name ~ (p.gained e ++ p.everywhere).map name := by
  by_cases huse : ∃ n change, e = .use n change
  · obtain ⟨n, change, rfl⟩ := huse
    have hlost : p.lost (.use n change) = [] := rfl
    have hgained : p.gained (.use n change) = [] := rfl
    rw [hlost, hgained, List.append_nil, List.nil_append]
    exact use_names p n he
  · exact (step_everywhere p fun n change h => huse ⟨n, change, h⟩).map name

/-- An event moves names from place to place, and adds those of the connections it opens. -/
theorem step_names {e : Event ε κ} (p : Pool ε κ) (he : e.KeepsNames name) :
    ((p.step e).everywhere ++ (p.step e).discarded).map name ~
      (p.gained e ++ (p.everywhere ++ p.discarded)).map name := by
  have hmiddle : p.discarded ++ p.lost e ~ p.lost e ++ p.discarded := List.perm_append_comm
  calc ((p.step e).everywhere ++ (p.step e).discarded).map name
      = ((p.step e).everywhere ++ (p.discarded ++ p.lost e)).map name := by rw [step_discarded]
    _ ~ ((p.step e).everywhere ++ p.lost e ++ p.discarded).map name := by
        rw [List.append_assoc]
        exact (hmiddle.append_left _).map name
    _ ~ (p.gained e ++ p.everywhere ++ p.discarded).map name := by
        simpa only [List.map_append] using (step_everywhere_names p he).append_right _
    _ = (p.gained e ++ (p.everywhere ++ p.discarded)).map name := by rw [List.append_assoc]

/-- A run moves names from place to place, and adds those of the connections it opens. -/
theorem run_names {events : List (Event ε κ)} (p : Pool ε κ)
    (h : ∀ e ∈ events, e.KeepsNames name) :
    ((p.run events).everywhere ++ (p.run events).discarded).map name ~
      (p.opened events ++ (p.everywhere ++ p.discarded)).map name := by
  induction events generalizing p with
  | nil => exact .refl _
  | cons e events ih =>
    obtain ⟨he, hlater⟩ := List.forall_mem_cons.mp h
    calc ((p.run (e :: events)).everywhere ++ (p.run (e :: events)).discarded).map name
        ~ ((p.step e).opened events ++
            ((p.step e).everywhere ++ (p.step e).discarded)).map name := ih (p.step e) hlater
      _ ~ ((p.step e).opened events ++ (p.gained e ++ (p.everywhere ++ p.discarded))).map name := by
          simpa only [List.map_append] using (step_names p he).append_left _
      _ ~ (p.opened (e :: events) ++ (p.everywhere ++ p.discarded)).map name := by
          rw [opened, ← List.append_assoc]
          exact (List.perm_append_comm.append_right _).map name

end Pool

/-! ## Pools of connections to a server -/

variable {σ : Type}

/-- A connection with a number by which it is known. -/
structure Tracked (σ : Type) where
  number : Nat
  connection : Connection σ

instance : Breakable (Tracked σ) where
  isBroken c := c.connection.isBroken

theorem Tracked.isBroken_eq_false_iff {c : Tracked σ} :
    Breakable.isBroken c = false ↔ c.connection.phase = .ready := by
  change decide (c.connection.phase ≠ .ready) = false ↔ _
  simp

/-- A connection is ready when it is opened. -/
theorem Connection.establish_phase [Peer σ] {config : Config} {stream after : Stream σ}
    {c : Connection σ} (h : establish config stream = .ok c after) : c.phase = .ready := by
  unfold establish at h
  rw [bind_apply] at h
  split at h
  next =>
    cases h
    rfl
  next => cases h

namespace Pool

open scoped List

variable [Peer σ]

/-- Runs in which attempts end as the opening of a connection does, connections have numbers of
their own, and callers leave the number of a connection as it is. -/
structure Lawful (config : Config) (events : List (Event Error (Tracked σ))) : Prop where
  established : ∀ c ∈ events.filterMap Event.concluded?, ∃ stream after,
    Connection.establish config stream = .ok c.connection after
  numbers_nodup : ((events.filterMap Event.concluded?).map Tracked.number).Nodup
  keepsNumbers : ∀ e ∈ events, e.KeepsNames Tracked.number

variable {config : Config} {events : List (Event Error (Tracked σ))}

theorem Lawful.isBroken_eq_false (h : Lawful config events) :
    ∀ c ∈ events.filterMap Event.concluded?, Breakable.isBroken c = false := by
  intro c hc
  obtain ⟨stream, after, hestablish⟩ := h.established c hc
  exact Tracked.isBroken_eq_false_iff.mpr (Connection.establish_phase hestablish)

/-- **Every connection that the worker has opened is in one place**, after whatever callers,
attempts and the worker have done in whatever order: idle, in an answer that nobody has read, in the
hands of one caller, in a message that the worker has not read, or discarded, if it is not in the
hand of the worker, which is about to answer with it. It is discarded only if it was given back
broken. All connections that are idle or answered are ready, and so is one that a caller gets. -/
theorem run_places (limit : Nat) (h : Lawful config events) :
    let start : Pool Error (Tracked σ) := { limit }
    let p := start.run events
    (∀ c ∈ start.opened events, ∃! place, c.number ∈ (p.inPlace place).map Tracked.number) ∧
      (Place.all.flatMap p.inPlace).map Tracked.number ~
        (start.opened events).map Tracked.number ∧
      ((start.opened events).map Tracked.number).Nodup ∧
      ((∀ n c, p.activity ≠ .offer n c) → p.inHand = []) ∧
      (∀ c ∈ p.discarded, c.connection.isBroken = true ∧ start.GivenBack events c) ∧
      (∀ c, c ∈ p.idle ∨ c ∈ p.inHand ∨ c ∈ p.unread → c.connection.phase = .ready) ∧
      ∀ n c, (p.inquire n).1 = .granted c → c.connection.phase = .ready := by
  intro start p
  have hnames : (Place.all.flatMap p.inPlace).map Tracked.number ~
      (start.opened events).map Tracked.number := by
    have hrun := run_names start h.keepsNumbers
    have hnone : start.everywhere ++ start.discarded = [] := rfl
    rw [hnone, List.append_nil] at hrun
    exact ((inPlace_perm p).map _).trans hrun
  have hnodup : ((start.opened events).map Tracked.number).Nodup := by
    have hsublist := opened_sublist start events
    exact h.numbers_nodup.sublist (((List.sublist_append_left _ _).trans hsublist).map _)
  have hstock (c : Tracked σ) (hc : c ∈ p.stock) : c.connection.phase = .ready :=
    Tracked.isBroken_eq_false_iff.mp
      (run_stock (by simp [start, stock, arrived, inHand, unread]) h.isBroken_eq_false c hc)
  refine ⟨fun c hc => ?_, hnames, hnodup, ?_, fun c hc => ?_, fun c hc => ?_, fun n c hc => ?_⟩
  · exact existsUnique_inPlace (hnames.nodup_iff.mpr hnodup)
      (hnames.mem_iff.mpr (List.mem_map_of_mem hc))
  · exact inHand_eq_nil
  · have hbroken : Breakable.isBroken c = true :=
      run_discarded (by simp [start, discarded]) c hc
    exact ⟨hbroken, run_givenBack rfl (by simp [start, stock, arrived, inHand, unread])
      h.isBroken_eq_false (mem_released.mpr (.inr hc)) hbroken⟩
  · exact hstock c (mem_stock.mpr (by tauto))
  · refine hstock c (mem_stock.mpr (.inr (.inr (.inr ?_))))
    unfold inquire at hc
    split at hc
    case h_2 c' hn =>
      cases hc
      exact unread_of_ticket hn
    all_goals cases hc

/-- A connection as it is opened to a server that follows no script. -/
def pristine : Connection Rehearsal.ScriptedPeer :=
  match Connection.establish .default { peer := ({} : Rehearsal.ScriptedPeer) } with
  | .ok c _ => c
  | .error _ stream => { stream, config := .default }

/-- One caller breaks the only connection and gives it back; another one gives its ticket up after
the worker has answered it with the next connection. -/
def replaced : List (Event Error (Tracked Rehearsal.ScriptedPeer)) :=
  .flatten [[.enter, .inquire 0, .wake], .replicate 7 .work,
    [.conclude (.ok ⟨0, pristine⟩), .wake], .replicate 5 .work,
    [.inquire 0, .use 0 fun c => { c with connection.phase := .broken }, .giveBack 0],
    [.enter, .inquire 1, .wake], .replicate 8 .work,
    [.conclude (.ok ⟨1, pristine⟩), .wake], .replicate 5 .work, [.cancel 1]]

theorem replaced_lawful : Lawful .default replaced where
  established := by
    have hconcluded : replaced.filterMap Event.concluded? = [⟨0, pristine⟩, ⟨1, pristine⟩] := rfl
    have hpristine : Connection.establish .default { peer := ({} : Rehearsal.ScriptedPeer) } =
        .ok pristine pristine.stream := by cbv
    rw [hconcluded]
    simp only [List.forall_mem_cons, List.not_mem_nil, false_implies, implies_true, and_true]
    exact ⟨⟨_, _, hpristine⟩, ⟨_, _, hpristine⟩⟩
  numbers_nodup := by
    change [0, 1].Nodup
    decide
  keepsNumbers := by simp [replaced, Event.KeepsNames]

/-- The pool after that, with a limit of one connection. -/
def hasReplaced : Pool Error (Tracked Rehearsal.ScriptedPeer) :=
  Pool.run { limit := 1 } replaced

theorem run_places_replaced :
    Lawful .default replaced ∧
      Place.all.map (fun place => (hasReplaced.inPlace place).map Tracked.number) =
        [[], [], [], [], [1], [0]] ∧
      ∀ c ∈ hasReplaced.discarded,
        c.connection.isBroken = true ∧ Pool.GivenBack { limit := 1 } replaced c :=
  ⟨replaced_lawful, by cbv, (run_places 1 replaced_lawful).2.2.2.2.1⟩

end Pool

end ThinClient
