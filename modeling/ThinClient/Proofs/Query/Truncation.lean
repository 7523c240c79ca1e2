import ThinClient.Proofs.Query.Calls
import ThinClient.Proofs.Server.Answers
import ThinClient.Rehearsal.Peer

/-!
# Pages that are cut off

A cursor learns from the last octet of its page whether the server has released it. A page that is
cut off has no such octet, and the cursor goes by whatever octet is the last one.

* `Cursor.CutOff` is a cursor whose page lacks its end. It is one from the start (`CutOff.of_load`)
  and with every row that it gives (`CutOff.of_decodeRow`), and `CutOff.advance` says that it gives
  rows until it fails: it never sees the end and never asks for another page.
* `OpenCursor.Ends` is how a cursor ends, with one close or with none, which `close_ends`,
  `abort_ends` and `Cursor.drop` make depend on what is left of the page.
* `cutOff_ends`: **a cursor whose page was cut off is closed exactly once, unless what is left of
  its page ends in the octet 0**, and then it is not closed at all, although nobody has said that
  the server has released it.
-/

namespace ThinClient

open Reader Connection

variable {σ : Type}

/-- The cursor after a call, however it ends. -/
def OpenCursor.after {α : Type} (s : OpenCursor σ) (call : CursorCall σ α) : OpenCursor σ :=
  match call s with
  | .ok _ s | .error _ s => s

namespace OpenCursor

variable {α : Type} {s after : OpenCursor σ} {call : CursorCall σ α}

theorem after_of_ok {a : α} (h : call s = .ok a after) : s.after call = after := by
  rw [OpenCursor.after, h]

theorem after_of_error {stop : Stop Error} (h : call s = .error stop after) :
    s.after call = after := by
  rw [OpenCursor.after, h]

/-- How a cursor ends of whose page this is left: one that takes the page for the last one is only
marked, every other one is closed once. -/
def Ends [Peer σ] (left : Bytes) (s after : OpenCursor σ) : Prop :=
  if left.getLast? = some 0 then
    after.client = s.client ∧ after.cursor.state = .exhausted
  else
    after.client.connection = (s.client.after (closeResource s.cursor.id)).connection ∧
      after.cursor.state = .closed

/-- A cursor that has ended sends nothing any more, and nothing is deferred for it. -/
theorem Ends.quiet [Peer σ] {left : Bytes} (h : Ends left s after) :
    Cursor.close after = .ok () after ∧ after.cursor.drop after.client = after.client := by
  have hfinal : after.cursor.state.isFinal = true := by
    unfold Ends at h
    split at h
    · rw [h.2]
      rfl
    · rw [h.2]
      rfl
  exact ⟨Cursor.close_of_final hfinal, Cursor.drop_of_final hfinal⟩

end OpenCursor

namespace Cursor

open OpenCursor

/-! ## How cursors end -/

section Ends

variable [Peer σ] {s : OpenCursor σ}

theorem isReleased_iff {c : Cursor} (h : c.state = .hasBufferedRows) :
    c.isReleased = true ↔ c.page.getLast? = some 0 := by
  simp [isReleased, h]

/-- The cursor after a close that is needed, however that goes. -/
theorem close_open (h : s.cursor.state = .hasBufferedRows)
    (hlast : ¬ s.cursor.page.getLast? = some 0) :
    close s = onClient (closeResource s.cursor.id) { s with
      cursor := { s.cursor with page := [], remaining := 0, state := .closed } } := by
  have hopen : s.cursor.state.isFinal = false := by rw [h]; rfl
  exact close_of_open hopen (Bool.eq_false_iff.mpr fun hr => hlast ((isReleased_iff h).mp hr))

theorem close_released (h : s.cursor.state = .hasBufferedRows)
    (hlast : s.cursor.page.getLast? = some 0) :
    close s = .ok () { s with
      cursor := { s.cursor with page := [], remaining := 0, state := .exhausted } } := by
  have hopen : s.cursor.state.isFinal = false := by rw [h]; rfl
  exact close_of_released hopen ((isReleased_iff h).mpr hlast)

theorem close_ends (h : s.cursor.state = .hasBufferedRows) :
    Ends s.cursor.page s (s.after close) := by
  unfold Ends
  split
  next hlast =>
    rw [after_of_ok (close_released h hlast)]
    exact ⟨rfl, rfl⟩
  next hlast =>
    unfold OpenCursor.after
    rw [close_open h hlast, onClient, Client.after]
    dsimp only
    cases closeResource s.cursor.id s.client <;> exact ⟨rfl, rfl⟩

/-- A failure that is not one of the connection ends the cursor. -/
theorem abort_ends {α : Type} {e : Error} (h : s.cursor.state = .hasBufferedRows)
    (he : e.isConnectionError = false) :
    ∃ stop after, abort (α := α) e s = .error stop after ∧ Ends s.cursor.page s after := by
  unfold Ends
  split
  next hlast =>
    have hclose := close_released h hlast
    exact ⟨_, _, abort_of_closed he (closeQuietly_of_ok hclose), rfl, rfl⟩
  next hlast =>
    have hclose := close_open h hlast
    rw [onClient] at hclose
    dsimp only at hclose
    cases hclosed : closeResource s.cursor.id s.client with
    | ok _ client =>
      rw [hclosed] at hclose
      refine ⟨_, _, abort_of_closed he (closeQuietly_of_ok hclose), ?_, rfl⟩
      rw [Client.after_of_ok hclosed]
    | error stop client =>
      rw [hclosed] at hclose
      cases stop with
      | failed e' =>
        refine ⟨_, _, abort_of_closed he (closeQuietly_of_failed hclose), ?_, rfl⟩
        rw [Client.after_of_error hclosed]
      | cancelled =>
        refine ⟨_, _, abort_of_cancelled he (closeQuietly_of_cancelled hclose), ?_, rfl⟩
        rw [Client.after_of_error hclosed]

end Ends

/-! ## Cursors whose page was cut off -/

/-- The page of the cursor lacks its end: with some more octets it would be the rows that it is said
to have, and an octet that says whether there are more. -/
def CutOff (c : Cursor) : Prop :=
  c.state = .hasBufferedRows ∧ ∃ rows more missing,
    (∀ row ∈ rows, row.length = c.columns.width) ∧ c.remaining = rows.length ∧ missing ≠ [] ∧
      c.page ++ missing = Page.rowOctets rows ++ [more]

/-- Nothing has happened to the cursor but that octets were taken from its page. -/
structure Follows (s after : OpenCursor σ) : Prop where
  client_eq : after.client = s.client
  id_eq : after.cursor.id = s.cursor.id
  suffix : after.cursor.page <:+ s.cursor.page

theorem Follows.trans {s middle after : OpenCursor σ} (h : Follows s middle)
    (h' : Follows middle after) : Follows s after where
  client_eq := h'.client_eq.trans h.client_eq
  id_eq := h'.id_eq.trans h.id_eq
  suffix := h'.suffix.trans h.suffix

/-- What is left of the page when the next turn fails. -/
def leftover (c : Cursor) : Bytes :=
  if 0 < c.remaining then Reader.left (Reader.replicate c.columns.width WireValue.decode c.page)
  else c.page

theorem leftover_suffix (c : Cursor) : c.leftover <:+ c.page := by
  unfold leftover
  split
  · exact Forward.replicate _ WireValue.decode_forward c.page
  · exact List.suffix_rfl

namespace CutOff

/-- A strict prefix of a page gives such a cursor, if it is taken for a page at all. -/
theorem of_load {c cursor : Cursor} {page : Page} {p missing : Bytes}
    (hwidth : page.width = c.columns.width) (hp : p ++ missing = page.octets)
    (hmissing : missing ≠ []) (h : c.load p = .ok cursor) :
    cursor.CutOff ∧ cursor.id = c.id ∧ cursor.page <:+ p := by
  unfold load at h
  cases hlength : Reader.length p with
  | error e rest =>
    rw [hlength] at h
    cases h
  | ok count rest =>
    rw [hlength] at h
    dsimp only at h
    split at h
    next => cases h
    next =>
      cases h
      obtain ⟨front, rfl, rfl, hle⟩ := Yields.length _ _ _ hlength
      have hwords : (LittleEndian.encode 4 count).length =
          (LittleEndian.encode 4 page.rows.length).length := by
        rw [LittleEndian.length_encode, LittleEndian.length_encode]
      rw [Page.octets, List.append_assoc] at hp
      obtain ⟨hcount, hrest⟩ := List.append_inj hp hwords
      refine ⟨⟨rfl, page.rows, page.more, missing, ?_, ?_, hmissing, hrest⟩, rfl,
        List.suffix_append _ _⟩
      · exact fun row hrow => (page.length_of_mem row hrow).trans hwidth
      · have hread := (takes_count hle).exactly
        rw [hcount, (takes_count page.length_le).exactly] at hread
        cases hread
        rfl

variable [Peer σ] {s after : OpenCursor σ}

/-- A row that is read off the page is one of those that it is said to have. -/
theorem of_decodeRow {row : Row} (h : s.cursor.CutOff) (hrows : 0 < s.cursor.remaining)
    (hread : decodeRow s = .ok row after) :
    after.cursor.CutOff ∧ Follows s after := by
  obtain ⟨hstate, rows, more, missing, hwidth, hremaining, hmissing, hpage⟩ := h
  cases hvalues : Reader.replicate s.cursor.columns.width WireValue.decode s.cursor.page with
  | error e left =>
    have hleft : ({ s.cursor with page := left } : Cursor).state = .hasBufferedRows := hstate
    obtain ⟨stop, failed, habort, -⟩ := abort_ends (α := Row) (e := e)
      (s := { s with cursor := { s.cursor with page := left } }) hleft rfl
    rw [decodeRow_of_error hvalues, habort] at hread
    cases hread
  | ok values left =>
    rw [decodeRow_of_ok hvalues] at hread
    cases hread
    obtain ⟨first, rest, rfl⟩ : ∃ first rest, rows = first :: rest := by
      refine List.exists_cons_of_ne_nil fun hnil => ?_
      rw [hnil, List.length_nil] at hremaining
      omega
    -- With the missing octets behind them, the same values are read, so the row ends there where
    -- the page has its first row end.
    have hmore := Extends.replicate _ WireValue.decode_extends _ _ _ hvalues missing
    have hrow : StaysIn (Reader.replicate first.length WireValue.decode)
        (first.flatMap TaggedValue.octets) := .replicate fun value _ => value.staysIn
    rw [hpage, Page.rowOctets, List.flatMap_cons, List.append_assoc,
      ← hwidth first (List.mem_cons_self ..)] at hmore
    rcases hrow (Page.rowOctets rest ++ [more]) with ⟨others, hok⟩ | ⟨e, gone, herror⟩
    · refine ⟨⟨hstate, rest, more, missing, ?_, ?_, hmissing, ?_⟩, rfl, rfl, ?_⟩
      · exact fun row hrow => hwidth row (List.mem_cons_of_mem _ hrow)
      · rw [hremaining]
        rfl
      · injection hmore.symm.trans hok
      · exact (Forward.replicate _ WireValue.decode_forward).suffix hvalues
    · cases hmore.symm.trans herror

/-- **A turn of such a cursor gives a row, or it ends the cursor.** -/
theorem advance (h : s.cursor.CutOff) :
    (∃ row after, Cursor.advance s = .ok (.row row) after ∧ after.cursor.CutOff ∧
        Follows s after) ∨
      ∃ stop after, Cursor.advance s = .error stop after ∧ Ends s.cursor.leftover s after := by
  have hcut := h
  obtain ⟨hstate, rows, more, missing, -, hremaining, hmissing, hpage⟩ := hcut
  by_cases hrows : 0 < s.cursor.remaining
  · rw [advance_of_rows hstate hrows, map_apply, leftover, if_pos hrows]
    cases hvalues : Reader.replicate s.cursor.columns.width WireValue.decode s.cursor.page with
    | ok values left =>
      have hrow := decodeRow_of_ok hvalues
      rw [hrow]
      exact .inl ⟨_, _, rfl, h.of_decodeRow hrows hrow⟩
    | error e left =>
      obtain ⟨stop, after, habort, hends⟩ := abort_ends (α := Row) (e := e)
        (s := { s with cursor := { s.cursor with page := left } }) hstate rfl
      rw [decodeRow_of_error hvalues, habort]
      exact .inr ⟨stop, after, rfl, hends⟩
  · have hnone : rows = [] := List.length_eq_zero_iff.mp (by omega)
    have hempty : s.cursor.page = [] := by
      rw [hnone] at hpage
      have hlength := congrArg List.length hpage
      have hpos := List.length_pos_iff.mpr hmissing
      rw [List.length_append] at hlength
      exact List.length_eq_zero_iff.mp (by simp [Page.rowOctets] at hlength; omega)
    rw [leftover, if_neg hrows, advance_of_empty hstate (by omega) hempty]
    exact .inr (abort_ends hstate rfl)

theorem nextRow (turns : Nat) (h : s.cursor.CutOff) :
    (∃ row after, Cursor.nextRow (turns + 1) s = .ok (some row) after ∧ after.cursor.CutOff ∧
        Follows s after) ∨
      ∃ stop after, Cursor.nextRow (turns + 1) s = .error stop after ∧
        Ends s.cursor.leftover s after := by
  rw [Cursor.nextRow, bind_apply]
  rcases h.advance with ⟨row, after, hturn, hafter⟩ | ⟨stop, after, hturn, hends⟩
  · rw [hturn]
    exact .inl ⟨row, after, rfl, hafter⟩
  · rw [hturn]
    exact .inr ⟨stop, after, rfl, hends⟩

end CutOff

/-- Some rows have been read from a cursor, one after the other. -/
inductive RowsRead [Peer σ] (start : OpenCursor σ) : OpenCursor σ → Prop
  | none : RowsRead start start
  | snoc {s after : OpenCursor σ} {turns : Nat} {row : Row} :
    RowsRead start s → nextRow turns s = .ok (some row) after → RowsRead start after

theorem RowsRead.cutOff [Peer σ] {start s : OpenCursor σ} (hread : RowsRead start s)
    (h : start.cursor.CutOff) : s.cursor.CutOff ∧ Follows start s := by
  induction hread with
  | none => exact ⟨h, rfl, rfl, List.suffix_rfl⟩
  | @snoc s after turns row _ hrow ih =>
    obtain ⟨hcut, hfollows⟩ := ih
    cases turns with
    | zero => cases hrow
    | succ turns =>
      rcases hcut.nextRow turns with ⟨row', after', hrow', hcut', hnext⟩ | ⟨stop, after', herror, -⟩
      · rw [hrow'] at hrow
        cases hrow
        exact ⟨hcut', hfollows.trans hnext⟩
      · rw [herror] at hrow
        cases hrow

theorem getLast?_of_suffix {p q : Bytes} {b : UInt8} (h : q <:+ p) (hlast : q.getLast? = some b) :
    p.getLast? = some b := by
  obtain ⟨front, rfl⟩ := h
  rw [List.getLast?_append, hlast, Option.some_or]

/-- **A cursor whose page was cut off is closed exactly once, unless what is left of the page ends
in the octet 0**, whatever rows have been read before. It gives rows until a turn fails; the failed
turn, a close and a drop issue one close, which is the last thing that the cursor does. But if what
is left ends in 0, no close is issued at all, although nobody has said that the server has released
the cursor. A page whose last octet is another one is never mistaken so. -/
theorem cutOff_ends [Peer σ] {c start : Cursor} {client : Client σ} {page : Page}
    {p missing : Bytes} {s : OpenCursor σ} (hwidth : page.width = c.columns.width)
    (hp : p ++ missing = page.octets) (hmissing : missing ≠ []) (hload : c.load p = .ok start)
    (hread : RowsRead ⟨start, client⟩ s) :
    s.client = client ∧ s.cursor.id = c.id ∧
      (∀ turns, (∃ row after, nextRow (turns + 1) s = .ok (some row) after) ∨
        ∃ stop after, nextRow (turns + 1) s = .error stop after ∧
          Ends s.cursor.leftover s after ∧
          close after = .ok () after ∧ after.cursor.drop after.client = after.client) ∧
      (Ends s.cursor.page s (s.after close) ∧ close (s.after close) = .ok () (s.after close) ∧
        (s.after close).cursor.drop (s.after close).client = (s.after close).client) ∧
      (s.cursor.drop client).connection.pendingClose =
        client.connection.pendingClose ++
          (if s.cursor.page.getLast? = some 0 then [] else [c.id]) ∧
      (p.getLast? ≠ some 0 →
        s.cursor.leftover.getLast? ≠ some 0 ∧ s.cursor.page.getLast? ≠ some 0) := by
  obtain ⟨hstart, hid, hsuffix⟩ := CutOff.of_load hwidth hp hmissing hload
  obtain ⟨hcut, hfollows⟩ := hread.cutOff hstart
  have hends := close_ends hcut.1
  refine ⟨hfollows.client_eq, hfollows.id_eq.trans hid, fun turns => ?_, ⟨hends, hends.quiet⟩, ?_,
    fun hlast => ?_⟩
  · rcases hcut.nextRow turns with ⟨row, after, hrow, -⟩ | ⟨stop, after, hfailed, hended⟩
    · exact .inl ⟨row, after, hrow⟩
    · exact .inr ⟨stop, after, hfailed, hended, hended.quiet⟩
  · have hopen : s.cursor.state.isFinal = false := by rw [hcut.1]; rfl
    have hreleased := isReleased_iff hcut.1
    unfold drop
    rw [hopen, Bool.false_or]
    by_cases hlast : s.cursor.page.getLast? = some 0
    · rw [if_pos hlast, if_pos (hreleased.mpr hlast), List.append_nil]
    · rw [if_neg hlast, if_neg fun h => hlast (hreleased.mp h), ← hid, ← hfollows.id_eq]
  · have hpage := hfollows.suffix.trans hsuffix
    have hleftover := (leftover_suffix s.cursor).trans hpage
    exact ⟨fun h => hlast (getLast?_of_suffix hleftover h),
      fun h => hlast (getLast?_of_suffix hpage h)⟩

/-- A cursor over one column that a server has just opened. -/
def narrow : Cursor :=
  { id := 7, pageOp := .querySqlFieldsPage, columns := ⟨["ID"], 1⟩ }

/-- A client of a server that says yes to one close. -/
def obliging : Client Rehearsal.ScriptedPeer :=
  ⟨{ stream := { peer :=
      { handshake := some [], replies := [{ reply := .response [] 0 0 }] } },
     config := .default }, {}⟩

/-- A page of two rows, and there are more. -/
def twoRows : Page where
  width := 1
  rows := [[.ofEncode (.byte 3) [1, 3] rfl], [.ofEncode (.long 5) [4, 5, 0, 0, 0, 0, 0, 0, 0] rfl]]
  length_of_mem := by simp
  length_le := by decide
  more := 1

/-- A cursor with what is left of `twoRows` if it is cut off before the first 0 of its second
row. -/
def twoRowsStart : Cursor :=
  { narrow with page := [1, 3, 4, 5], remaining := 2, state := .hasBufferedRows }

/-- The same cursor after its first row. -/
def twoRowsNext : Cursor :=
  { narrow with page := [4, 5], remaining := 1, state := .hasBufferedRows }

theorem cutOff_ends_twoRows :
    nextRow 1 ⟨twoRowsStart, obliging⟩ = .ok (some ⟨["ID"], [.byte 3]⟩) ⟨twoRowsNext, obliging⟩ ∧
      ∃ stop after, nextRow 1 ⟨twoRowsNext, obliging⟩ = .error stop after ∧
        after.client.connection = (obliging.after (closeResource 7)).connection ∧
        after.cursor.state = .closed := by
  have hrow : nextRow 1 ⟨twoRowsStart, obliging⟩ =
      .ok (some ⟨["ID"], [.byte 3]⟩) ⟨twoRowsNext, obliging⟩ := rfl
  have hload : narrow.load [2, 0, 0, 0, 1, 3, 4, 5] = .ok twoRowsStart := rfl
  have hwidth : twoRows.width = narrow.columns.width := rfl
  have hp : [2, 0, 0, 0, 1, 3, 4, 5] ++ [0, 0, 0, 0, 0, 0, 0, 1] = twoRows.octets := rfl
  obtain ⟨-, -, hturn, -, -, hlast⟩ :=
    cutOff_ends hwidth hp (by decide) hload (.snoc .none hrow)
  obtain ⟨hleftover, -⟩ := hlast (by decide)
  refine ⟨hrow, ?_⟩
  have hclosed : (OpenCursor.after ⟨twoRowsNext, obliging⟩ (nextRow 1)).cursor.state = .closed := by
    cbv
  rcases hturn 0 with ⟨row, after, hrow'⟩ | ⟨stop, after, hfailed, hends, -⟩
  · have hcut := (RowsRead.none.snoc hrow |>.snoc hrow').cutOff
      (CutOff.of_load hwidth hp (by decide) hload).1
    rw [after_of_ok hrow', hcut.1.1] at hclosed
    cases hclosed
  · rw [Ends, if_neg hleftover] at hends
    exact ⟨stop, after, hfailed, hends⟩

/-- A page of one row, and there are more. -/
def oneRow : Page where
  width := 1
  rows := [[.ofEncode (.long 0) [4, 0, 0, 0, 0, 0, 0, 0, 0] rfl]]
  length_of_mem := by simp
  length_le := by decide
  more := 1

/-- Cut off within its only value, the page is taken for the last one: the failure, a close and a
drop all leave the cursor to the server. -/
theorem cutOff_unclosed :
    [1, 0, 0, 0, 4, 0, 0, 0] ++ [0, 0, 0, 0, 0, 1] = oneRow.octets ∧
      ∃ start stop after, narrow.load [1, 0, 0, 0, 4, 0, 0, 0] = .ok start ∧
        nextRow 1 ⟨start, obliging⟩ = .error stop after ∧
        after.client.connection ≠ (obliging.after (closeResource 7)).connection ∧
        (OpenCursor.after ⟨start, obliging⟩ close).client.connection ≠
          (obliging.after (closeResource 7)).connection ∧
        (start.drop obliging).connection.pendingClose ≠
          obliging.connection.pendingClose ++ [7] := by
  have hids : obliging.connection ≠ (obliging.after (closeResource 7)).connection := by
    intro h
    have htaken : (obliging.after (closeResource 7)).connection.ids.taken = 1 := by cbv
    rw [← h] at htaken
    cases htaken
  refine ⟨rfl, { narrow with page := [4, 0, 0, 0], remaining := 1, state := .hasBufferedRows },
    .failed (DecodeError.truncated 8 3), ⟨{ narrow with state := .exhausted }, obliging⟩, rfl, ?_,
    hids, hids, by decide⟩
  rfl

end Cursor

end ThinClient
