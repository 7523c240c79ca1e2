import ThinClient.Proofs.Server.Line

/-!
# Ledgers of servers

What a server has opened and released, as a client makes it.

* `Ledger.Sound` says that nothing was asked to be released twice, or without being held.
* `Ledger.Sound.close`, `Ledger.Sound.opened` and `Ledger.Sound.paged` are the steps that keep it.
* `closeResource_asked` is a close over a line, as a request.
* `closeResource_line`, `closeEach_line` and `closePending_line` are what closes come to over a
  line: whatever the server says to them, it is asked to release each thing once.
-/

namespace ThinClient

namespace Ledger

variable {l : Ledger} {id : Int64} {ids : List Int64} {holding : Holding} {more : UInt8}

/-- Every release was asked for once, and while the server held what was to be released; and the
pages of every cursor can be asked for. -/
structure Sound (l : Ledger) : Prop where
  ids_nodup : l.ids.Nodup
  given_of_held : ∀ id ∈ l.ids, id ∈ l.given
  given_of_closed : ∀ id ∈ l.closed, id ∈ l.given
  not_held_of_closed : ∀ id ∈ l.closed, id ∉ l.ids
  closed_nodup : l.closed.Nodup
  strays_eq : l.strays = []
  pageOp_mem : ∀ holding ∈ l.held, holding.pageOp ∈ Operation.paging

theorem mem_ids_release {id' : Int64} : id' ∈ (l.release id).ids ↔ id' ∈ l.ids ∧ id' ≠ id := by
  simp only [ids, release, List.mem_map, List.mem_filter, decide_eq_true_eq]
  constructor
  · rintro ⟨holding, ⟨hmem, hne⟩, rfl⟩
    exact ⟨⟨holding, hmem, rfl⟩, hne⟩
  · rintro ⟨⟨holding, hmem, rfl⟩, hne⟩
    exact ⟨holding, ⟨hmem, hne⟩, rfl⟩

theorem ids_release_sublist (l : Ledger) (id : Int64) : (l.release id).ids.Sublist l.ids :=
  List.filter_sublist.map _

/-- Letting go of a cursor keeps a ledger sound, whether it was held or not. -/
theorem Sound.release (h : l.Sound) (id : Int64) : (l.release id).Sound where
  ids_nodup := (ids_release_sublist l id).nodup h.ids_nodup
  given_of_held id' hmem := h.given_of_held id' (mem_ids_release.mp hmem).1
  given_of_closed := h.given_of_closed
  not_held_of_closed id' hmem hheld := h.not_held_of_closed id' hmem (mem_ids_release.mp hheld).1
  closed_nodup := h.closed_nodup
  strays_eq := h.strays_eq
  pageOp_mem holding hmem := h.pageOp_mem holding (List.mem_filter.mp hmem).1

/-- A ledger stays sound if the server is asked to release what it holds. -/
theorem Sound.close (h : l.Sound) (hid : id ∈ l.ids) : (l.close id).Sound where
  ids_nodup := (h.release id).ids_nodup
  given_of_held := (h.release id).given_of_held
  given_of_closed id' hmem := by
    rcases List.mem_append.mp hmem with hold | hnew
    · exact h.given_of_closed id' hold
    · rw [List.mem_singleton.mp hnew]
      exact h.given_of_held id hid
  not_held_of_closed id' hmem hheld := by
    obtain ⟨hbefore, hne⟩ := mem_ids_release.mp hheld
    rcases List.mem_append.mp hmem with hold | hnew
    · exact h.not_held_of_closed id' hold hbefore
    · exact hne (List.mem_singleton.mp hnew)
  closed_nodup := by
    refine List.nodup_append.mpr ⟨h.closed_nodup, by simp, ?_⟩
    rintro id' hold id'' hnew rfl
    rw [List.mem_singleton.mp hnew] at hold
    exact h.not_held_of_closed id hold hid
  strays_eq := by simp [Ledger.close, hid, h.strays_eq]
  pageOp_mem := (h.release id).pageOp_mem

/-- A ledger stays sound if a cursor gets an id that was never given. -/
theorem Sound.opened (h : l.Sound) (hfresh : holding.id ∉ l.given)
    (hop : holding.pageOp ∈ Operation.paging) : (l.opened holding more).Sound := by
  have hnew : holding.id ∉ l.ids := fun hmem => hfresh (h.given_of_held _ hmem)
  have hsub : (l.opened holding more).ids.Sublist (l.ids ++ [holding.id]) := by
    unfold Ledger.opened ids
    split <;> simp
  constructor
  · exact hsub.nodup (List.nodup_append.mpr ⟨h.ids_nodup, by simp, by
      rintro id hold id' hnew' rfl
      rw [List.mem_singleton.mp hnew'] at hold
      exact hnew hold⟩)
  · intro id hmem
    rcases List.mem_append.mp (hsub.subset hmem) with hold | hnew
    · exact List.mem_append_left _ (h.given_of_held id hold)
    · exact List.mem_append_right _ hnew
  · exact fun id hmem => List.mem_append_left _ (h.given_of_closed id hmem)
  · intro id hmem hheld
    rcases List.mem_append.mp (hsub.subset hheld) with hold | hnew
    · exact h.not_held_of_closed id hmem hold
    · rw [List.mem_singleton.mp hnew] at hmem
      exact hfresh (h.given_of_closed _ hmem)
  · exact h.closed_nodup
  · exact h.strays_eq
  · intro other hmem
    have hcases : other ∈ l.held ∨ other = holding := by
      unfold Ledger.opened at hmem
      dsimp only at hmem
      split at hmem
      · exact .inl hmem
      · simpa using hmem
    rcases hcases with hold | rfl
    · exact h.pageOp_mem other hold
    · exact hop

theorem Sound.paged (h : l.Sound) : (l.paged id more).Sound := by
  unfold Ledger.paged
  split
  · exact h.release id
  · exact h

theorem close_held (l : Ledger) (id : Int64) :
    (l.close id).held = l.held.filter (·.id ≠ id) := rfl

theorem record_close {round : Round} (h : round.request.op = .resourceClose) :
    l.record round = l.close round.request.target := by
  rw [record, if_pos h]

theorem record_opened {request : Request} {columns : Bytes} {first : Page}
    (h : request.op ≠ .resourceClose) :
    l.record ⟨request, .opened id columns first⟩ =
      l.opened ⟨id, pageOp request.op, first.width⟩ first.more := by
  rw [record, if_neg h]

theorem record_page {request : Request} {next : Page} (h : request.op ≠ .resourceClose) :
    l.record ⟨request, .page next⟩ = l.paged request.target next.more := by
  rw [record, if_neg h]

theorem record_of_isRefusal {round : Round} (h : round.request.op ≠ .resourceClose)
    (hrefusal : round.answer.IsRefusal) : l.record round = l := by
  obtain ⟨status, text, -, hanswer⟩ := hrefusal
  rw [record, if_neg h, hanswer]

/-- A ledger after releases that were asked for one after the other. -/
theorem Sound.closes (h : l.Sound) (hids : ∀ id ∈ ids, id ∈ l.ids) (hnodup : ids.Nodup) :
    (ids.foldl Ledger.close l).Sound ∧
      (ids.foldl Ledger.close l).held = l.held.filter (·.id ∉ ids) := by
  induction ids generalizing l with
  | nil => exact ⟨h, (List.filter_eq_self.mpr (by simp)).symm⟩
  | cons id ids ih =>
    obtain ⟨hnotin, hrest⟩ := List.nodup_cons.mp hnodup
    have hclose := h.close (hids id (by simp))
    have hlater (id' : Int64) (hmem : id' ∈ ids) : id' ∈ (l.close id).ids := by
      refine mem_ids_release.mpr ⟨hids id' (by simp [hmem]), ?_⟩
      rintro rfl
      exact hnotin hmem
    obtain ⟨hsound, hheld⟩ := ih hclose hlater hrest
    refine ⟨hsound, ?_⟩
    rw [List.foldl_cons, hheld, close_held, List.filter_filter]
    congr 1
    funext holding
    simp [Bool.and_comm]

/-- Nothing is held after all that was held was asked to be released. -/
theorem Sound.closes_all (h : l.Sound) (hids : l.ids.Perm ids) :
    (ids.foldl Ledger.close l).Sound ∧ (ids.foldl Ledger.close l).held = [] := by
  obtain ⟨hsound, hheld⟩ :=
    h.closes (fun id hmem => hids.mem_iff.mpr hmem) (hids.nodup_iff.mp h.ids_nodup)
  refine ⟨hsound, ?_⟩
  rw [hheld, List.filter_eq_nil_iff]
  intro holding hmem
  have hid : holding.id ∈ ids := hids.mem_iff.mp (List.mem_map_of_mem hmem)
  simp [hid]

end Ledger

/-! ## Closes over a line -/

namespace Connection

variable {server : Server} {client before after : Client (Line server)} {request : Request}

/-- The ledger of the server at the other end. -/
def ledger (client : Client (Line server)) : Ledger :=
  .ofPast (past client)

theorem Asked.ledger_eq (h : Asked request before after) :
    ledger after = (ledger before).record ⟨request, server.answer (past before) request⟩ := by
  rw [ledger, h.past_eq, Ledger.ofPast_snoc]
  rfl

/-- The payload of a request is the id of what it is about. -/
theorem target_putWord (op : Operation) (id resource : Int64) :
    (Request.putWord ⟨op, id, []⟩ resource).target = resource := by
  have hwidth : (Word.encode resource).length = 8 := Word.length_encode resource
  have htake : (Word.encode resource).take 8 = Word.encode resource := by
    rw [← hwidth, List.take_length]
  simp [Request.target, Request.putWord, Request.append, htake]

theorem frame_putWord (op : Operation) (id resource : Int64) :
    ∃ octets, (Request.putWord ⟨op, id, []⟩ resource).frame = .ok octets := by
  have hwidth : (Word.encode resource).length = 8 := Word.length_encode resource
  have hlength : encodeLength "request" (Request.headerLength +
      (Request.putWord ⟨op, id, []⟩ resource).payload.length) = .ok (LittleEndian.encode 4 18) := by
    simp [Request.putWord, Request.append, hwidth, Request.headerLength, encodeLength,
      greatestCount]
  exact ⟨_, by rw [Request.frame, hlength]; rfl⟩

/-- The server has been asked to release something, and nothing else. -/
structure Closed (ids : List Int64) (before after : Client (Line server)) : Prop where
  serving : Serving after
  ledger_eq : ledger after = ids.foldl Ledger.close (ledger before)
  pendingClose_eq : after.connection.pendingClose = before.connection.pendingClose

/-- A close is asked for once; it is done, or the server refuses it. -/
theorem closeResource_asked (hclient : Serving client) (resource : Int64) :
    ∃ after, Asked (closeRequest client resource) (tookId client) after ∧
      (closeResource resource client = .ok () after ∨
        ∃ e : Error, e.isConnectionError = false ∧
          closeResource resource client = .error (.failed e) after) := by
  have htook : Serving (tookId client) := ⟨hclient.ready, hclient.quiet⟩
  obtain ⟨octets, hframe⟩ : ∃ octets, (closeRequest client resource).frame = .ok octets :=
    frame_putWord .resourceClose client.connection.ids.next.1 resource
  obtain ⟨after, hasked, hdone, hrefused⟩ := roundTrip_line htook hframe
  refine ⟨after, hasked, ?_⟩
  rw [closeResource_eq, map_apply]
  rcases server.answer_close (past (tookId client)) (closeRequest client resource) rfl with
    hrefusal | ⟨payload, hpayload⟩
  · obtain ⟨e, he, hcall⟩ := hrefused hrefusal
    exact .inr ⟨e, he, by rw [hcall]⟩
  · exact .inl (by rw [hdone (by rw [hpayload]; rfl)])

theorem closeResource_line (hclient : Serving client) (resource : Int64) :
    ∃ after, Closed [resource] client after ∧
      (closeResource resource client = .ok () after ∨
        ∃ e : Error, e.isConnectionError = false ∧
          closeResource resource client = .error (.failed e) after) := by
  obtain ⟨after, hasked, hcall⟩ := closeResource_asked hclient resource
  have hledger : ledger after = (ledger client).close resource := by
    rw [hasked.ledger_eq, Ledger.record_close rfl]
    exact congrArg (ledger client).close (target_putWord _ _ resource)
  exact ⟨after, ⟨hasked.serving, hledger, hasked.pendingClose_eq⟩, hcall⟩

theorem closeEach_line (hclient : Serving client) (ids : List Int64) :
    ∃ after, Closed ids client after ∧ closeEach ids client = .ok () after := by
  induction ids generalizing client with
  | nil => exact ⟨client, ⟨hclient, rfl, rfl⟩, rfl⟩
  | cons id ids ih =>
    obtain ⟨after, hclosed, hcall⟩ := closeResource_line hclient id
    rcases hcall with hcall | ⟨e, he, hcall⟩
    · obtain ⟨last, hlast, hrest⟩ := ih hclosed.serving
      rw [closeEach_of_ok hcall]
      refine ⟨last, ⟨hlast.serving, ?_, hlast.pendingClose_eq.trans hclosed.pendingClose_eq⟩, hrest⟩
      rw [hlast.ledger_eq, hclosed.ledger_eq]
      rfl
    · -- the failure is reported, which the server does not see
      rw [closeEach_of_failed hcall, he]
      have hserving : Serving { after with journal := after.journal.add (.closeFailed id e) } :=
        ⟨hclosed.serving.ready, hclosed.serving.quiet⟩
      obtain ⟨last, hlast, hrest⟩ := ih hserving
      refine ⟨last, ⟨hlast.serving, ?_, hlast.pendingClose_eq.trans hclosed.pendingClose_eq⟩, hrest⟩
      rw [hlast.ledger_eq, List.foldl_cons]
      congr 1
      exact hclosed.ledger_eq

/-- The deferred closes are sent, and none of them stays deferred. -/
theorem closePending_line (hclient : Serving client) :
    ∃ after, closePending client = .ok () after ∧ Serving after ∧
      ledger after = client.connection.pendingClose.foldl Ledger.close (ledger client) ∧
      after.connection.pendingClose = [] := by
  have htook : Serving (tookPending client) := ⟨hclient.ready, hclient.quiet⟩
  obtain ⟨after, hclosed, hcall⟩ := closeEach_line htook client.connection.pendingClose
  exact ⟨after, hcall, hclosed.serving, hclosed.ledger_eq, hclosed.pendingClose_eq⟩

end Connection

end ThinClient
