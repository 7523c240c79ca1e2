import Mathlib
import ThinClient.Proofs.Pool.Refusals

/-!
# A poll of the worker comes to its end

Once woken, the worker goes on until it rests. It begins again each time it has begun to open a
connection, and meanwhile messages come, tickets that it has in hand are given up, and attempts end
well or badly, perhaps at once. Neither its queue nor the idle connections nor the count of the open
ones get fewer with each of its steps.

* `openings` are the attempts that the worker can still begin for the tickets of its queue. There is
  one less than tickets if an attempt is there or a connection is idle, since either is for the
  first ticket.
* `remaining` bounds the steps that are left until the worker rests, as long as no message comes. It
  puts together the openings, the queue, the inbox and the part of its work that it is at.
* `Stride` is all that a step of the worker does to these, and `work_stride` that it does nothing
  else. So attempts are paid for by openings (`run_prospect`), and steps by what remains
  (`run_remaining`).
* `poll_ends`: **a poll ends, however callers and attempts interfere, if only finitely many messages
  come meanwhile. It begins no more attempts than there were tickets in the queue and requests that
  it has read.** The same holds at each moment of the poll, so also if the worker stops early since
  all who could ask are gone.
-/

namespace ThinClient.Pool

variable {ε κ : Type} {p q : Pool ε κ} {e : Event ε κ} {events : List (Event ε κ)}

/-! ## What is left to do -/

/-- Whether a connection is there, or is being opened, that the first ticket can get. -/
def isProvided (p : Pool ε κ) : Bool :=
  p.attempt.isSome || !p.idle.isEmpty

/-- How many attempts can still be begun for the tickets of the queue. -/
def openings (p : Pool ε κ) : Nat :=
  if p.isProvided then p.queue.length - 1 else p.queue.length

/-- The attempts that have been begun and those that can be. -/
def prospect (p : Pool ε κ) : Nat :=
  p.attempts + p.openings

/-- How many steps lie before the rest of the worker if there is nothing to do. -/
def stage (p : Pool ε κ) : Nat :=
  match p.activity with
  | .readMessages => 3
  | .checkAttempt | .offer .. => 2
  | .serveQueue => 1
  | .rest => 0

/-- A bound for the steps until the worker rests. A ticket takes two steps, and an attempt for it
three more, after which the worker begins again. -/
def remaining (p : Pool ε κ) : Nat :=
  p.stage + 2 * p.queue.length + 3 * p.openings + 6 * p.inbox.length

theorem openings_le_length (p : Pool ε κ) : p.openings ≤ p.queue.length := by
  unfold openings
  split <;> omega

theorem openings_le_of_shorter (h : q.queue.length < p.queue.length) : q.openings ≤ p.openings := by
  have hq := openings_le_length q
  have hp : p.queue.length - 1 ≤ p.openings := by
    unfold openings
    split <;> omega
  omega

theorem openings_le_of_provided (hqueue : q.queue.length ≤ p.queue.length)
    (h : p.isProvided → q.isProvided) : q.openings ≤ p.openings := by
  by_cases hp : p.isProvided
  · rw [openings, openings, if_pos hp, if_pos (h hp)]
    omega
  · have hopenings : p.openings = p.queue.length := if_neg hp
    rw [hopenings]
    exact (openings_le_length q).trans hqueue

/-! ## The steps of the worker -/

/-- What a step of the worker, if it does not rest, does to what is left to do. -/
inductive Stride (p q : Pool ε κ) : Prop where
  /-- It hears of a ticket. -/
  | hears (hheard : (p.hears .work).length = 1) (hstage : q.stage = p.stage)
      (hqueue : q.queue.length = p.queue.length + 1) (hopenings : q.openings ≤ p.openings + 1)
      (hinbox : q.inbox.length + 1 = p.inbox.length) (hattempts : q.attempts = p.attempts)
  /-- It takes a connection back. -/
  | takesBack (hstage : q.stage = p.stage) (hqueue : q.queue.length = p.queue.length)
      (hopenings : q.openings ≤ p.openings) (hinbox : q.inbox.length + 1 = p.inbox.length)
      (hattempts : q.attempts = p.attempts)
  /-- It goes on to the next part of its work. -/
  | proceeds (hstage : q.stage < p.stage) (hqueue : q.queue.length ≤ p.queue.length)
      (hopenings : q.openings ≤ p.openings) (hinbox : q.inbox.length = p.inbox.length)
      (hattempts : q.attempts = p.attempts)
  /-- It takes a ticket from the queue. -/
  | takesTicket (hstage : q.stage ≤ p.stage + 1) (hqueue : q.queue.length + 1 = p.queue.length)
      (hopenings : q.openings ≤ p.openings) (hinbox : q.inbox.length = p.inbox.length)
      (hattempts : q.attempts = p.attempts)
  /-- It begins to open a connection, and begins again. -/
  | begins (hstage : q.stage = p.stage + 2) (hqueue : q.queue.length = p.queue.length)
      (hopenings : q.openings + 1 = p.openings) (hinbox : q.inbox.length = p.inbox.length)
      (hattempts : q.attempts = p.attempts + 1)

theorem checkAttempt_attempts (p : Pool ε κ) : p.checkAttempt.attempts = p.attempts := by
  unfold checkAttempt refuseFirst
  repeat' split
  all_goals rfl

/-- A connection that has been opened is for the ticket for which the attempt was, and a failure is
the end of a ticket. -/
theorem checkAttempt_openings (p : Pool ε κ) : p.checkAttempt.openings ≤ p.openings := by
  unfold checkAttempt
  split
  next => exact Nat.le_refl _
  next => exact openings_le_of_provided (Nat.le_refl _) fun _ => rfl
  next => exact openings_le_of_provided (Nat.le_refl _) fun _ => rfl
  next => exact openings_le_of_provided (Nat.le_refl _) fun _ => rfl
  next error _ =>
    unfold refuseFirst
    split
    next hqueue =>
      have hempty : p.queue = [] := hqueue
      refine (openings_le_length _).trans ?_
      simp [tell, hempty]
    next n queue hqueue =>
      have hfirst : p.queue = n :: queue := hqueue
      exact openings_le_of_shorter (by simp [answer, setTicket, hfirst])

theorem checkAttempt_stride (hp : p.activity = .checkAttempt) :
    Stride p { p with activity := .serveQueue }.checkAttempt := by
  refine .proceeds ?_ ?_ (checkAttempt_openings _) ?_ (checkAttempt_attempts _)
  · simp [stage, hp]
  · rcases checkAttempt_queue { p with activity := .serveQueue } with hsame | ⟨n, hpopped, -⟩
    · rw [hsame]
    · have hlength : p.queue.length = _ + 1 := congrArg List.length hpopped
      omega
  · rw [checkAttempt_inbox]

theorem serveQueue_stride (hp : p.activity = .serveQueue) : Stride p p.serveQueue := by
  unfold serveQueue
  split
  next => exact .proceeds (by simp [stage, hp]) (Nat.le_refl _) (Nat.le_refl _) rfl rfl
  next n queue hqueue =>
    have hshorter : queue.length + 1 = p.queue.length := by simp [hqueue]
    split
    next =>
      split
      next c idle hidle =>
        refine .takesTicket ?_ hshorter (openings_le_of_shorter ?_) rfl rfl
        · simp [stage, hp]
        · exact Nat.lt_of_succ_le (Nat.le_of_eq hshorter)
      next hidle =>
        split
        next hstart =>
          -- Nothing was there for the first ticket, and now an attempt is.
          have hnone : p.isProvided = false := by simpa [isProvided, hidle] using hstart.1
          refine .begins (by simp [stage, hp]) rfl ?_ rfl rfl
          rw [openings, openings, hnone]
          simp [isProvided, hqueue]
        next => exact .proceeds (by simp [stage, hp]) (Nat.le_refl _) (Nat.le_refl _) rfl rfl
    next =>
      refine .takesTicket (Nat.le_succ _) hshorter (openings_le_of_shorter ?_) rfl rfl
      exact Nat.lt_of_succ_le (Nat.le_of_eq hshorter)

/-- A connection that is not taken is idle again. -/
theorem offer_stride {n : Nat} {c : κ} (hp : p.activity = .offer n c) :
    Stride p ({ p with activity := .serveQueue }.offer n c) := by
  unfold offer
  split
  next =>
    refine .proceeds ?_ (Nat.le_refl _) (Nat.le_refl _) rfl rfl
    simp [stage, hp, answer, setTicket]
  next =>
    refine .proceeds (by simp [stage, hp]) (Nat.le_refl _) ?_ rfl rfl
    exact openings_le_of_provided (Nat.le_refl _) fun _ => by simp [isProvided]

variable [Breakable κ]

theorem takeBack_openings (p : Pool ε κ) (c : κ) : (p.takeBack c).openings ≤ p.openings := by
  refine openings_le_of_provided (by simp) fun h => ?_
  unfold takeBack
  split
  · exact h
  · simp [isProvided]

theorem read_stride (hp : p.activity = .readMessages) : Stride p p.work := by
  cases hinbox : p.inbox with
  | nil =>
    have hwork : p.work = { p with activity := .checkAttempt } := by simp only [work, hp, hinbox]
    rw [hwork]
    exact .proceeds (by simp [stage, hp]) (Nat.le_refl _) (Nat.le_refl _) rfl rfl
  | cons m inbox =>
    have hwork : p.work = { p with inbox }.read m := by simp only [work, hp, hinbox]
    rw [hwork]
    cases m with
    | acquire n =>
      refine .hears (by simp [hears, hp, hinbox, Message.ticket?]) rfl ?_ ?_ (by simp [read, hinbox])
        rfl
      · simp [read]
      · unfold openings isProvided
        simp only [read, List.length_append, List.length_singleton]
        split <;> omega
    | release c =>
      refine .takesBack ?_ (by simp [read]) (takeBack_openings _ c) (by simp [read, hinbox]) ?_
      · simp [stage, read]
      · simp only [read, takeBack]
        split <;> rfl

theorem work_stride (hp : p.isResting = false) : Stride p p.work := by
  cases hactivity : p.activity with
  | readMessages => exact read_stride hactivity
  | checkAttempt =>
    rw [work_of_checkAttempt hactivity]
    exact checkAttempt_stride hactivity
  | serveQueue =>
    rw [work_of_serveQueue hactivity]
    exact serveQueue_stride hactivity
  | offer n c =>
    rw [work_of_offer hactivity]
    exact offer_stride hactivity
  | rest => simp [isResting, hactivity] at hp

/-! ## Events -/

/-- Whether it is a step of the worker. -/
def Event.isWork : Event ε κ → Bool
  | .work => true
  | _ => false

/-- How many steps the worker takes. -/
def works (events : List (Event ε κ)) : Nat :=
  events.countP Event.isWork

/-- Whatever is no step of the worker leaves its queue and the means for it alone. -/
theorem frame_of_not_work (p : Pool ε κ) (he : e ≠ .work) :
    (p.step e).queue = p.queue ∧ (p.step e).attempts = p.attempts ∧
      (p.step e).isProvided = p.isProvided := by
  rcases e.isCallers_or with hcallers | ⟨result, rfl⟩ | rfl | rfl
  · obtain ⟨tickets, inbox, hstep⟩ := p.step_of_isCallers hcallers
    rw [hstep]
    exact ⟨rfl, rfl, rfl⟩
  · have hsome := conclude_attempt_isSome p result
    obtain ⟨attempt, hconclude⟩ := p.exists_conclude_eq result
    rw [hconclude] at hsome
    rw [step, hconclude]
    refine ⟨rfl, rfl, ?_⟩
    rw [isProvided, isProvided, hsome]
  · simp only [step, wake]
    split <;> exact ⟨rfl, rfl, rfl⟩
  · exact absurd rfl he

theorem openings_of_not_work (p : Pool ε κ) (he : e ≠ .work) :
    (p.step e).openings = p.openings := by
  obtain ⟨hqueue, -, hprovided⟩ := frame_of_not_work p he
  rw [openings, openings, hqueue, hprovided]

theorem stage_of_not_work (hp : p.isResting = false) (he : e ≠ .work) :
    (p.step e).stage = p.stage := by
  rcases step_activity (p := p) he with hsame | ⟨hrest, -⟩
  · rw [stage, stage, hsame]
  · rw [isResting_iff.mpr hrest] at hp
    cases hp

/-- An attempt is paid for by an opening, and openings come with tickets that the worker hears of. -/
theorem step_prospect (p : Pool ε κ) (e : Event ε κ) :
    (p.step e).prospect ≤ p.prospect + (p.hears e).length := by
  unfold prospect
  by_cases he : e = .work
  · subst he
    rw [step]
    cases hp : p.isResting with
    | true =>
      rw [work_of_rest (isResting_iff.mp hp)]
      omega
    | false => cases work_stride hp <;> omega
  · rw [openings_of_not_work p he, (frame_of_not_work p he).2.1]
    omega

/-- A step of the worker lessens what remains, and only messages add to it. -/
theorem step_remaining (hp : p.isResting = false) (e : Event ε κ) :
    (p.step e).remaining + works [e] ≤
      p.remaining + 6 * ((p.step e).inbox.length - p.inbox.length) := by
  unfold remaining
  by_cases he : e = .work
  · subst he
    have hone : works [(.work : Event ε κ)] = 1 := rfl
    rw [hone, step]
    cases work_stride hp <;> omega
  · have hnone : works [e] = 0 := by
      cases e with
      | work => exact absurd rfl he
      | _ => rfl
    rw [hnone, stage_of_not_work hp he, openings_of_not_work p he, (frame_of_not_work p he).1]
    omega

/-! ## Runs -/

/-- How many messages come in a run. -/
def sent (p : Pool ε κ) : List (Event ε κ) → Nat
  | [] => 0
  | e :: events => ((p.step e).inbox.length - p.inbox.length) + (p.step e).sent events

/-- Whether the worker rests before none of the events, so that they lie within one poll. -/
def staysAwake (p : Pool ε κ) : List (Event ε κ) → Bool
  | [] => true
  | e :: events => !p.isResting && (p.step e).staysAwake events

theorem staysAwake_append_singleton (p : Pool ε κ) (events : List (Event ε κ)) (e : Event ε κ) :
    p.staysAwake (events ++ [e]) = (p.staysAwake events && !(p.run events).isResting) := by
  induction events generalizing p with
  | nil => simp [staysAwake]
  | cons first events ih => simp [staysAwake, ih, Bool.and_assoc]

/-- In any run attempts are paid for by openings. -/
theorem run_prospect (p : Pool ε κ) (events : List (Event ε κ)) :
    (p.run events).prospect ≤ p.prospect + (p.received events).length := by
  induction events generalizing p with
  | nil => exact Nat.le_refl _
  | cons e events ih =>
    have hstep := step_prospect p e
    have hrest := ih (p.step e)
    simp only [run_cons, received, along, List.length_append] at hrest ⊢
    omega

/-- Within a poll steps are paid for by what remains. -/
theorem run_remaining (h : p.staysAwake events) :
    (p.run events).remaining + works events ≤ p.remaining + 6 * p.sent events := by
  induction events generalizing p with
  | nil => exact Nat.le_refl _
  | cons e events ih =>
    simp only [staysAwake, Bool.and_eq_true, Bool.not_eq_true'] at h
    have hstep := step_remaining h.1 e
    have hrest := ih h.2
    have hworks : works ([e] ++ events) = works [e] + works events := List.countP_append
    rw [List.singleton_append] at hworks
    rw [hworks, run_cons, sent]
    omega

omit [Breakable κ] in
theorem works_replicate_work (n : Nat) :
    works (.replicate n .work : List (Event ε κ)) = n := by
  rw [works, List.countP_replicate]
  rfl

/-- The first events of a schedule. -/
def beginning (schedule : Nat → Event ε κ) (k : Nat) : List (Event ε κ) :=
  (List.range k).map schedule

omit [Breakable κ] in
theorem beginning_succ (schedule : Nat → Event ε κ) (k : Nat) :
    beginning schedule (k + 1) = beginning schedule k ++ [schedule k] := by
  simp [beginning, List.range_succ]

/-- A worker that takes one step after the other comes to rest, if not too many messages come. -/
theorem exists_isResting {schedule : Nat → Event ε κ} {messages : Nat}
    (hworks : ∀ n, ∃ k, n ≤ works (beginning schedule k))
    (hmessages : ∀ k, p.staysAwake (beginning schedule k) →
      p.sent (beginning schedule k) ≤ messages) :
    ∃ k, p.staysAwake (beginning schedule k) ∧ (p.run (beginning schedule k)).isResting := by
  by_contra hnever
  have hawake (k : Nat) : p.staysAwake (beginning schedule k) := by
    induction k with
    | zero => rfl
    | succ k ih =>
      rw [beginning_succ, staysAwake_append_singleton, ih]
      simpa using fun hrest => hnever ⟨k, ih, hrest⟩
  obtain ⟨k, hk⟩ := hworks (p.remaining + 6 * messages + 1)
  have hsteps := run_remaining (hawake k)
  have hsent := hmessages k (hawake k)
  omega

/-! ## A poll that is left alone -/

theorem begin_prospect (dial : Nat → Option (Except ε κ)) (p : Pool ε κ) :
    (p.begin dial).prospect ≤ p.prospect ∧ (p.begin dial).requested = p.requested := by
  rcases begin_cases dial p with hsame | ⟨result, hresult⟩
  · rw [hsame]
    exact ⟨Nat.le_refl _, rfl⟩
  · have hprospect : (p.conclude result).prospect ≤ p.prospect := step_prospect p (.conclude result)
    obtain ⟨attempt, hconclude⟩ := p.exists_conclude_eq result
    rw [hresult]
    refine ⟨hprospect, ?_⟩
    rw [hconclude]
    rfl

theorem work_inbox_length_le (p : Pool ε κ) : p.work.inbox.length ≤ p.inbox.length := by
  cases hp : p.isResting with
  | true => rw [work_of_rest (isResting_iff.mp hp)]
  | false => cases work_stride hp <;> omega

/-- The worker itself sends no messages. -/
theorem sent_replicate_work (p : Pool ε κ) (n : Nat) : p.sent (.replicate n .work) = 0 := by
  induction n generalizing p with
  | zero => rfl
  | succ n ih =>
    have hinbox : (p.step .work).inbox.length ≤ p.inbox.length := work_inbox_length_le p
    rw [List.replicate_succ, sent, ih]
    omega

/-- If nobody interferes, the worker hears of the tickets that ask in its inbox and of no others. -/
theorem poll_prospect (dial : Nat → Option (Except ε κ)) (p : Pool ε κ) :
    (p.poll dial).prospect ≤ p.prospect + p.requested.length := by
  induction p using poll.induct dial with
  | case1 p hp =>
    rw [poll, dif_pos hp]
    omega
  | case2 p hp ih =>
    obtain ⟨hbegin, hrequested⟩ := begin_prospect dial p
    have hstep : (p.begin dial).work.prospect ≤ _ := step_prospect (p.begin dial) .work
    have hheard := congrArg List.length (work_requested (p.begin dial))
    rw [List.length_append, hrequested] at hheard
    rw [poll, dif_neg hp]
    omega

/-- **A poll of the worker ends.** Whatever callers do meanwhile and however attempts end, the worker
takes no more steps than its queue and the messages that are there or come account for, so it comes
to rest if only finitely many come. At each moment of the poll it has begun no more attempts than
there were tickets in the queue and requests that it has read in this poll. -/
theorem poll_ends (hp : p.activity = .readMessages) :
    (∀ events, p.staysAwake events →
      works events ≤ 3 + 5 * p.queue.length + 6 * (p.inbox.length + p.sent events) ∧
      (p.run events).attempts ≤ p.attempts + p.queue.length + (p.received events).length) ∧
    (∀ schedule messages, (∀ n, ∃ k, n ≤ works (beginning schedule k)) →
      (∀ k, p.staysAwake (beginning schedule k) → p.sent (beginning schedule k) ≤ messages) →
      ∃ k, p.staysAwake (beginning schedule k) ∧ (p.run (beginning schedule k)).isResting) ∧
    ∀ dial, (p.poll dial).isResting ∧
      (p.poll dial).attempts ≤ p.attempts + p.queue.length + p.requested.length := by
  have hopenings := openings_le_length p
  have hprospect : p.prospect ≤ p.attempts + p.queue.length := by
    unfold prospect
    omega
  have hremaining : p.remaining ≤ 3 + 5 * p.queue.length + 6 * p.inbox.length := by
    have hstage : p.stage = 3 := by simp only [stage, hp]
    unfold remaining
    omega
  have hattempts (q : Pool ε κ) : q.attempts ≤ q.prospect := Nat.le_add_right _ _
  refine ⟨fun events hawake => ⟨?_, ?_⟩, fun schedule messages => exists_isResting,
    fun dial => ⟨isResting_iff.mpr (poll_activity dial p), ?_⟩⟩
  · have hsteps := run_remaining hawake
    omega
  · calc (p.run events).attempts ≤ (p.run events).prospect := hattempts _
      _ ≤ p.prospect + (p.received events).length := run_prospect p events
      _ ≤ p.attempts + p.queue.length + (p.received events).length := by omega
  · calc (p.poll dial).attempts ≤ (p.poll dial).prospect := hattempts _
      _ ≤ p.prospect + p.requested.length := poll_prospect dial p
      _ ≤ p.attempts + p.queue.length + p.requested.length := by omega

/-- Two tickets are in the queue, and a third caller has asked. -/
def threeWait : Pool Error Rehearsal.Lease :=
  { limit := 1, queue := [0, 1], inbox := [.acquire 2], activity := .readMessages,
    tickets := [.waiting, .waiting, .waiting] }

/-- The first attempt fails and the second one succeeds, both at once. The ticket that is about to
get the connection is given up, so the next one gets it. -/
def failsThenOpens : List (Event Error Rehearsal.Lease) :=
  .flatten [.replicate 4 .work, [.conclude (.error hangUp)], .replicate 4 .work,
    [.conclude (.ok { wreck with connection.phase := .ready })], .replicate 2 .work, [.cancel 1],
    .replicate 4 .work]

/-- The worker comes to rest in this way, and also if it is left alone with an attempt that does not
end. -/
theorem poll_ends_threeWait :
    threeWait.staysAwake failsThenOpens ∧ (threeWait.run failsThenOpens).isResting ∧
      works failsThenOpens = 14 ∧ (threeWait.run failsThenOpens).attempts = 2 ∧
      (threeWait.run failsThenOpens).attempts ≤ 0 + 2 + 1 ∧
      ∃ k, (threeWait.run (.replicate k .work)).isResting := by
  have hactivity : threeWait.activity = .readMessages := rfl
  have hawake : threeWait.staysAwake failsThenOpens := by cbv
  have hheard : threeWait.received failsThenOpens = [2] := by cbv
  have halone (k : Nat) : beginning (fun _ => Event.work) k =
      List.replicate k (.work : Event Error Rehearsal.Lease) := by
    rw [beginning, List.map_const', List.length_range]
  obtain ⟨hbounds, hends, -⟩ := poll_ends hactivity
  have hattempts := (hbounds failsThenOpens hawake).2
  rw [hheard] at hattempts
  obtain ⟨k, -, hrest⟩ := hends (fun _ => .work) 0
    (fun n => ⟨n, by rw [halone, works_replicate_work]⟩)
    (fun k _ => by rw [halone, sent_replicate_work])
  exact ⟨hawake, by cbv, by cbv, by cbv, hattempts, k, halone k ▸ hrest⟩

end ThinClient.Pool
