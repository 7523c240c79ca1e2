import ThinClient.Text.Split

/-!
# Texts that are split come apart as they were joined

* `Split.atFirst_eq_some_iff`: what stands before the first separator has none.
* `Split.atFirst_getD`: the same with an empty second part if there is no separator.
* `Split.atLast_append`: what stands behind the last separator has none.
* `Split.all_intercalate`: pieces without separators come back from between separators.
* `Split.trimEnd_append_replicate`: exactly what has been added at the end is taken off.
-/

namespace ThinClient.Split

variable {separator : Char} {cs before after : List Char}

/-! ## One separator -/

/-- A text is split at the separator in front of which there is none. -/
theorem atFirst_append (after : List Char) (h : separator ∉ before) :
    atFirst separator (before ++ separator :: after) = some (before, after) := by
  induction before with
  | nil => exact if_pos rfl
  | cons c rest ih =>
    rw [List.mem_cons, not_or] at h
    rw [List.cons_append, atFirst, if_neg (Ne.symm h.1), ih h.2]
    rfl

theorem atFirst_eq_some_iff :
    atFirst separator cs = some (before, after) ↔
      cs = before ++ separator :: after ∧ separator ∉ before := by
  constructor
  · intro h
    induction cs generalizing before with
    | nil => cases h
    | cons c rest ih =>
      rw [atFirst] at h
      split at h
      next hc =>
        cases h
        exact ⟨by rw [hc]; rfl, List.not_mem_nil⟩
      next hc =>
        obtain ⟨⟨found, behind⟩, hfound, heq⟩ := Option.map_eq_some_iff.mp h
        cases heq
        obtain ⟨rfl, hnot⟩ := ih hfound
        exact ⟨rfl, List.not_mem_cons_of_ne_of_not_mem (Ne.symm hc) hnot⟩
  · rintro ⟨rfl, h⟩
    exact atFirst_append after h

/-- Before and behind the first separator, or the whole and nothing. -/
theorem atFirst_getD (cs : List Char) :
    (atFirst separator cs).getD (cs, []) =
      (cs.takeWhile (· ≠ separator), (cs.dropWhile (· ≠ separator)).drop 1) := by
  induction cs with
  | nil => rfl
  | cons c rest ih =>
    by_cases hc : c = separator
    · simp [atFirst, hc]
    · have hrest : (atFirst separator (c :: rest)).getD (c :: rest, []) =
          (c :: ((atFirst separator rest).getD (rest, [])).1,
            ((atFirst separator rest).getD (rest, [])).2) := by
        rw [atFirst, if_neg hc]
        cases atFirst separator rest <;> rfl
      rw [hrest, ih]
      simp [hc]

theorem atLast_eq_none (h : separator ∉ cs) : atLast separator cs = none := by
  induction cs with
  | nil => rfl
  | cons c rest ih =>
    rw [List.mem_cons, not_or] at h
    rw [atLast, ih h.2]
    exact if_neg (Ne.symm h.1)

/-- A text is split at the separator behind which there is none. -/
theorem atLast_append (before : List Char) (h : separator ∉ after) :
    atLast separator (before ++ separator :: after) = some (before, after) := by
  induction before with
  | nil =>
    rw [List.nil_append, atLast, atLast_eq_none h]
    exact if_pos rfl
  | cons c rest ih => rw [List.cons_append, atLast, ih]

/-! ## All separators -/

theorem all_of_not_mem (h : separator ∉ cs) : all separator cs = [cs] := by
  induction cs with
  | nil => rfl
  | cons c rest ih =>
    rw [List.mem_cons, not_or] at h
    rw [all, if_neg (Ne.symm h.1), ih h.2]

theorem all_append (after : List Char) (h : separator ∉ before) :
    all separator (before ++ separator :: after) = before :: all separator after := by
  induction before with
  | nil => exact if_pos rfl
  | cons c rest ih =>
    rw [List.mem_cons, not_or] at h
    rw [List.cons_append, all, if_neg (Ne.symm h.1), ih h.2]

/-- Pieces without separators come back from between separators; no piece at all comes back as an
empty one. -/
theorem all_intercalate {pieces : List (List Char)} (h : ∀ piece ∈ pieces, separator ∉ piece) :
    all separator ([separator].intercalate pieces) = if pieces = [] then [[]] else pieces := by
  induction pieces with
  | nil => rfl
  | cons piece rest ih =>
    obtain ⟨hpiece, hrest⟩ := List.forall_mem_cons.mp h
    cases rest with
    | nil => rw [List.intercalate_singleton, all_of_not_mem hpiece, if_neg (by simp)]
    | cons next others =>
      rw [List.intercalate_cons_cons, List.append_assoc, List.singleton_append,
        all_append _ hpiece, ih hrest, if_neg (by simp), if_neg (by simp)]

/-! ## The end of a text -/

/-- Exactly what has been added at the end is taken off. -/
theorem trimEnd_append_replicate {unwanted : Char} (n : Nat) (h : cs.getLast? ≠ some unwanted) :
    trimEnd unwanted (cs ++ List.replicate n unwanted) = cs := by
  have hkept : cs.reverse.dropWhile (· = unwanted) = cs.reverse := by
    rw [← List.head?_reverse] at h
    cases hback : cs.reverse with
    | nil => rfl
    | cons last others =>
      rw [hback, List.head?_cons] at h
      exact List.dropWhile_cons_of_neg (by simpa using h)
  rw [trimEnd, List.reverse_append, List.reverse_replicate, List.dropWhile_append_of_pos (by simp),
    hkept, List.reverse_reverse]

end ThinClient.Split
