import ThinClient.Proofs.Value.Nesting

/-!
# Values say where they end

The octets of a value hold all that is needed to find their end, so neither what follows them nor
how many of them have arrived can be mistaken for anything else.

* `readBody_asksForMore`: each check that could refuse a beginning of a body comes after the octets
  that it is about have been counted. In particular the content of a record is looked at when all of
  it is there.
* `decode_delimits`: **octets that are a value are that value whatever follows them, and no
  beginning of them is a value or is refused for anything but its length**.
-/

namespace ThinClient.WireValue

open Reader

theorem readBody_asksForMore (value : Reader WireValue) (code : TypeCode) :
    AsksForMore (readBody value code) := by
  by_cases hcode : code = .complex
  · subst hcode
    refine AsksForMore.map _ ?_
    rw [readRecord_eq]
    exact (AsksForMore.of_direct readRecordHeader_direct).bind fun header => .within _ _
  · exact .of_direct (readBody_direct value hcode)

theorem decode_asksForMore : AsksForMore decode := by
  rw [decode_eq]
  refine (AsksForMore.of_direct readTypeCode_direct).bind fun code => ?_
  rw [decodeBody_eq]
  exact readBody_asksForMore _ code

/-- **Values say where they end.** Octets that are a value, written plainly or not, are that value
whatever follows them, which is left; and whoever has only a beginning of them finds no value and
nothing wrong, but that it takes more octets than there are. -/
theorem decode_delimits {p : Bytes} {v : WireValue} (h : decode p = .ok v []) :
    (∀ rest, decode (p ++ rest) = .ok v rest) ∧
      ∀ q, q <+: p → q ≠ p → ∃ requested available left,
        decode q = .error (.truncated requested available) left ∧ available < requested :=
  ⟨decode_takes h, fun _ hq hne => decode_asksForMore.ranOut h hq hne⟩

/-- An object in an object, before texts one of which is missing. -/
def flaggedRecord : WireValue :=
  .complex ⟨"R", [("q", .complex ⟨"Q", [("b", .bool true)]⟩), ("t", .stringArray [some "é", none])]⟩

/-- Octets of `flaggedRecord` in which the inner object has unusual flags and a truth value of 7. -/
def flaggedRecordOctets : Bytes :=
  [103, 1, 3, 0, 114, 0, 0, 0, 234, 13, 2, 4, 96, 0, 0, 0, 9, 1, 0, 0, 0, 82, 2, 0, 0, 0, 113, 0,
    0, 0, 9, 1, 0, 0, 0, 113, 103, 1, 5, 1, 113, 0, 0, 0, 87, 142, 211, 205, 37, 0, 0, 0, 9, 1, 0,
    0, 0, 81, 1, 0, 0, 0, 98, 0, 0, 0, 9, 1, 0, 0, 0, 98, 8, 7, 116, 0, 0, 0, 9, 1, 0, 0, 0, 116,
    20, 2, 0, 0, 0, 9, 2, 0, 0, 0, 195, 169, 101]

set_option maxRecDepth 4000 in
theorem decode_delimits_flaggedRecord :
    decode flaggedRecordOctets = .ok flaggedRecord [] ∧
      decode (flaggedRecordOctets ++ [7, 7]) = .ok flaggedRecord [7, 7] ∧
      ∃ requested available left,
        decode (flaggedRecordOctets.take 60) = .error (.truncated requested available) left ∧
          available < requested := by
  have hread : decode flaggedRecordOctets = .ok flaggedRecord [] := rfl
  obtain ⟨htakes, hbeginnings⟩ := decode_delimits hread
  exact ⟨hread, htakes [7, 7],
    hbeginnings (flaggedRecordOctets.take 60) (List.take_prefix 60 _) (by decide)⟩

end ThinClient.WireValue
