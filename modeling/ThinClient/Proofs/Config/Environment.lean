import ThinClient.Config
import ThinClient.Proofs.Reading
import ThinClient.Proofs.Splitting

/-!
# Configurations from addresses and from the environment

A configuration comes about in two ways. An address is refused as a whole if one of its parts
cannot be used; the environment gives a configuration in any case, and a variable that cannot be
read leaves what was there before.

* `Config.IsSound` is what an address is held to: a host, and pages that have room for a row.
* `ofAuthority_eq_ok_iff` and `withItem_pageSize_eq_ok_iff`: which hosts, ports and page sizes an
  address accepts. `parse_isSound`: it accepts nothing unsound.
* `Config.checked` is the environment read as strictly as an address: `checked_isSound`.
* `Environment.IsHarmless` says that no variable can be read and would be refused in an address.
* `fromEnvironment_eq_checked_iff`: **the environment gives what an address would have let through
  exactly if it is harmless**, and a sound configuration in no other case.
-/

namespace ThinClient

namespace Config

/-! ## What an address accepts -/

/-- A configuration with a host and with pages that have room for a row. -/
structure IsSound (config : Config) : Prop where
  host_ne : config.host ≠ ""
  pageSize_pos : 0 < config.pageSize

/-- The host that a text names, if any. -/
def hostOf (text : String) : Option String :=
  if text.isEmpty then none else some text

/-- The port in a text. -/
def portOf (text : String) : Option UInt16 :=
  Decimal.readUInt16 text.toList

/-- The page size in a text, which has to be positive. -/
def pageSizeOf (text : String) : Option Int32 :=
  (Decimal.readInt32 text.toList).filter fun size => 0 < size

variable {config sound : Config}

theorem isSound_default : default.IsSound :=
  ⟨by decide, by decide⟩

theorem host_ne_of_hostOf {text host : String} (h : hostOf text = some host) : host ≠ "" := by
  unfold hostOf at h
  split at h
  · cases h
  · cases h
    rwa [String.isEmpty_iff] at *

theorem pageSize_pos_of_pageSizeOf {text : String} {size : Int32}
    (h : pageSizeOf text = some size) : 0 < size := by
  have hpos := (Option.filter_eq_some_iff.mp h).2
  exact of_decide_eq_true hpos

/-- A host and a port make an address if both can be used. -/
theorem ofAuthority_eq_ok_iff (host : String) {port : String} (h : ':' ∉ port.toList) :
    ofAuthority (host.toList ++ ':' :: port.toList) = .ok config ↔
      ∃ named number, hostOf host = some named ∧ portOf port = some number ∧
        config = { default with host := named, port := number } := by
  unfold ofAuthority hostOf portOf
  rw [Split.atLast_append _ h]
  dsimp only
  cases Decimal.readUInt16 port.toList with
  | none =>
    constructor
    · intro hok
      cases hok
    · rintro ⟨_, _, -, hnone, -⟩
      cases hnone
  | some number =>
    rw [String.ofList_toList]
    cases hempty : host.isEmpty with
    | true =>
      constructor
      · intro hok
        simp [bind, Except.bind, hempty] at hok
      · rintro ⟨_, _, hnone, -⟩
        cases hnone
    | false =>
      simp [bind, Except.bind, hempty, eq_comm]

/-- A page size makes an item of an address if it can be used. -/
theorem withItem_pageSize_eq_ok_iff (base : Config) (text : String) :
    base.withItem ("page_size".toList ++ '=' :: text.toList) = .ok config ↔
      ∃ size, pageSizeOf text = some size ∧ config = { base with pageSize := size } := by
  unfold withItem pageSizeOf
  rw [Split.atFirst_append _ (by decide)]
  dsimp only [Option.getD_some]
  rw [if_neg (by decide), if_pos rfl]
  cases Decimal.readInt32 text.toList with
  | none => simp
  | some size =>
    by_cases hpos : 0 < size
    · simp [Option.filter, hpos, eq_comm]
    · simp [Option.filter, hpos]

/-! ## All that an address gives is sound -/

theorem ofAuthority_isSound {authority : List Char} (h : ofAuthority authority = .ok config) :
    config.IsSound := by
  simp only [ofAuthority, bind, Except.bind] at h
  repeat' split at h
  all_goals cases h
  all_goals
    refine ⟨fun hempty => ?_, isSound_default.pageSize_pos⟩
    exact absurd (String.isEmpty_iff.mpr hempty) ‹_›

/-- An item keeps the host, and it can only bring a positive page size. -/
theorem IsSound.withItem {item : List Char} (hsound : sound.IsSound)
    (h : sound.withItem item = .ok config) : config.IsSound := by
  unfold Config.withItem at h
  dsimp only at h
  repeat' split at h
  all_goals cases h
  · exact ⟨hsound.host_ne, hsound.pageSize_pos⟩
  · exact ⟨hsound.host_ne, ‹_›⟩
  · exact ⟨hsound.host_ne, hsound.pageSize_pos⟩

theorem IsSound.withItems {items : List (List Char)} (hsound : sound.IsSound)
    (h : sound.withItems items = .ok config) : config.IsSound := by
  induction items generalizing sound with
  | nil =>
    cases h
    exact hsound
  | cons item rest ih =>
    rw [Config.withItems] at h
    split at h
    · exact ih hsound h
    · obtain ⟨next, hitem, hrest⟩ := Except.bind_eq_ok h
      exact ih (hsound.withItem hitem) hrest

/-- What is read from an address is sound. -/
theorem parse_isSound {url : String} (h : parse url = .ok config) : config.IsSound := by
  unfold parse at h
  split at h
  · cases h
  · split at h
    · cases h
    · obtain ⟨found, hauthority, hitems⟩ := Except.bind_eq_ok h
      exact (ofAuthority_isSound hauthority).withItems hitems

/-! ## The environment -/

/-- The configuration of the address in the environment, or the default. -/
def ofUrl (env : Environment) : Config :=
  (env.url.bind fun url => (parse url).toOption).getD .default

/-- The environment read as strictly as an address: what an address would refuse leaves what was
there before. -/
def checked (env : Environment) : Config :=
  { ofUrl env with
    host := (env.host.bind hostOf).getD (ofUrl env).host
    port := (env.port.bind portOf).getD (ofUrl env).port
    pageSize := (env.pageSize.bind pageSizeOf).getD (ofUrl env).pageSize }

theorem ofUrl_isSound (env : Environment) : (ofUrl env).IsSound := by
  unfold ofUrl
  cases h : env.url.bind fun url => (parse url).toOption with
  | none => exact isSound_default
  | some config =>
    obtain ⟨url, -, hread⟩ := Option.bind_eq_some_iff.mp h
    cases hparse : parse url with
    | error e =>
      rw [hparse] at hread
      cases hread
    | ok found =>
      rw [hparse] at hread
      cases hread
      exact parse_isSound hparse

end Config

/-- No variable of an environment has a value that can be read and that an address would refuse. -/
structure Environment.IsHarmless (env : Environment) : Prop where
  host_ne : env.host ≠ some ""
  pageSize_pos : ∀ text ∈ env.pageSize, ∀ size ∈ Decimal.readInt32 text.toList, 0 < size

namespace Config

variable {env : Environment}

/-! ### The host -/

theorem checked_host_ne (env : Environment) : (checked env).host ≠ "" := by
  show (env.host.bind hostOf).getD (ofUrl env).host ≠ ""
  cases h : env.host.bind hostOf with
  | none => exact (ofUrl_isSound env).host_ne
  | some host =>
    obtain ⟨text, -, hread⟩ := Option.bind_eq_some_iff.mp h
    exact host_ne_of_hostOf hread

theorem hostOf_of_ne {text : String} (h : text ≠ "") : hostOf text = some text := by
  unfold hostOf
  rw [if_neg]
  simpa using h

/-- The environment names no host only by an empty text. -/
theorem fromEnvironment_host_ne_iff : (fromEnvironment env).host ≠ "" ↔ env.host ≠ some "" := by
  show env.host.getD (ofUrl env).host ≠ "" ↔ _
  cases env.host with
  | none => simp [(ofUrl_isSound env).host_ne]
  | some host => simp

theorem fromEnvironment_host_eq (h : env.host ≠ some "") :
    (fromEnvironment env).host = (checked env).host := by
  show env.host.getD (ofUrl env).host = (env.host.bind hostOf).getD (ofUrl env).host
  cases hhost : env.host with
  | none => rfl
  | some host =>
    have hne : host ≠ "" := by
      rintro rfl
      exact h hhost
    rw [Option.bind_some, hostOf_of_ne hne]

/-! ### The page size -/

theorem checked_pageSize_pos (env : Environment) : 0 < (checked env).pageSize := by
  show 0 < (env.pageSize.bind pageSizeOf).getD (ofUrl env).pageSize
  cases h : env.pageSize.bind pageSizeOf with
  | none => exact (ofUrl_isSound env).pageSize_pos
  | some size =>
    obtain ⟨text, -, hread⟩ := Option.bind_eq_some_iff.mp h
    exact pageSize_pos_of_pageSizeOf hread

/-- The page size of the environment is not positive only if a text says so. -/
theorem fromEnvironment_pageSize_pos_iff : 0 < (fromEnvironment env).pageSize ↔
    ∀ text ∈ env.pageSize, ∀ size ∈ Decimal.readInt32 text.toList, 0 < size := by
  show 0 < (env.pageSize.bind fun text => Decimal.readInt32 text.toList).getD
    (ofUrl env).pageSize ↔ _
  cases env.pageSize with
  | none => simp [(ofUrl_isSound env).pageSize_pos]
  | some text =>
    rw [Option.bind_some]
    cases hread : Decimal.readInt32 text.toList with
    | none => simp [hread, (ofUrl_isSound env).pageSize_pos]
    | some size => simp [hread]

theorem fromEnvironment_pageSize_eq
    (h : ∀ text ∈ env.pageSize, ∀ size ∈ Decimal.readInt32 text.toList, 0 < size) :
    (fromEnvironment env).pageSize = (checked env).pageSize := by
  show (env.pageSize.bind fun text => Decimal.readInt32 text.toList).getD (ofUrl env).pageSize =
    (env.pageSize.bind pageSizeOf).getD (ofUrl env).pageSize
  cases hpage : env.pageSize with
  | none => rfl
  | some text =>
    rw [Option.bind_some, Option.bind_some]
    unfold pageSizeOf
    cases hread : Decimal.readInt32 text.toList with
    | none => rfl
    | some size =>
      have hpos : 0 < size := h text hpage size hread
      rw [Option.filter_some, if_pos (decide_eq_true hpos)]

/-! ### All together -/

theorem checked_isSound (env : Environment) : (checked env).IsSound :=
  ⟨checked_host_ne env, checked_pageSize_pos env⟩

theorem fromEnvironment_isSound_iff : (fromEnvironment env).IsSound ↔ env.IsHarmless := by
  constructor
  · rintro ⟨hhost, hpage⟩
    exact ⟨fromEnvironment_host_ne_iff.mp hhost, fromEnvironment_pageSize_pos_iff.mp hpage⟩
  · rintro ⟨hhost, hpage⟩
    exact ⟨fromEnvironment_host_ne_iff.mpr hhost, fromEnvironment_pageSize_pos_iff.mpr hpage⟩

/-- The host and the page size are all in which the two can differ. -/
theorem fromEnvironment_eq (env : Environment) : fromEnvironment env =
    { checked env with
      host := (fromEnvironment env).host
      pageSize := (fromEnvironment env).pageSize } :=
  rfl

/-- **What the environment gives is what an address would let through of it** if no variable can be
read and would be refused in an address, and in no other case; in every other case it has no host or
pages without room for a row. The address in the environment alone, and the environment read as
strictly as an address, always give a host and such pages. -/
theorem fromEnvironment_eq_checked_iff (env : Environment) :
    (ofUrl env).IsSound ∧ (checked env).IsSound ∧
      (fromEnvironment env = checked env ↔ env.IsHarmless) ∧
      ((fromEnvironment env).IsSound ↔ env.IsHarmless) := by
  refine ⟨ofUrl_isSound env, checked_isSound env, ⟨fun heq => ?_, fun h => ?_⟩,
    fromEnvironment_isSound_iff⟩
  · rw [← fromEnvironment_isSound_iff, heq]
    exact checked_isSound env
  · rw [fromEnvironment_eq, fromEnvironment_host_eq h.host_ne,
      fromEnvironment_pageSize_eq h.pageSize_pos]

/-- A host without a letter and a page of less than no rows are taken from the environment, though
an address with either is refused. -/
theorem fromEnvironment_unsound :
    fromEnvironment { host := some "", pageSize := some "-5" } =
        { default with host := "", pageSize := -5 } ∧
      ¬ (fromEnvironment { host := some "", pageSize := some "-5" }).IsSound ∧
      checked { host := some "", pageSize := some "-5" } = default ∧
      parse "ignite://:10800" = .error .hostMissing ∧
      parse "ignite://127.0.0.1?page_size=-5" = .error .invalidPageSize := by
  refine ⟨by decide +kernel, fun h => h.host_ne rfl, by decide +kernel, rfl, rfl⟩

end Config

end ThinClient
