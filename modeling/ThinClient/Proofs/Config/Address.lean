import Mathlib.Data.List.Induction
import Mathlib.Tactic.MkIffOfInductiveProp
import ThinClient.Proofs.Config.Environment
import ThinClient.Proofs.Numerals

/-!
# What an address says

An address names a host with its port and then says more in items, which are joined by `&`. Slashes
may stand behind the port. A host is anything without a question mark, so it may have colons and
slashes of its own; what is behind the question mark may have any of the other separators.

* `Config.address` writes an address. `Config.parse_address_eq`: its parts are found again, and its
  items are taken from left to right.
* `AddressItem` is what an item can say, `AddressItem.text` how it is written.
  `Config.withItems_text`: of several items with one key the last one holds.
* `Config.IsRefused` are the items that no address may have: another key, a value that is no numeral
  of its type, pages without room for a row. `Config.withItems_error_iff`: one of them is enough.
* `Config.parse_address` puts this together.
-/

namespace ThinClient

/-- What an item of an address says, if anything. -/
inductive AddressItem where
  | blank
  | version (version : Version)
  | pageSize (size : Int32) (pos : 0 < size)
  /-- The time limit, in milliseconds. -/
  | timeout (ms : UInt64)

namespace AddressItem

/-- The item of an address. -/
def text : AddressItem → String
  | blank => ""
  | version v => "version=" ++ v.text
  | pageSize size _ => "page_size=" ++ toString size.toInt
  | timeout ms => "timeout_ms=" ++ toString ms.toNat

/-- The configuration with an item taken into account. -/
def apply (config : Config) : AddressItem → Config
  | .blank => config
  | .version v => { config with version := v }
  | .pageSize size _ => { config with pageSize := size }
  | .timeout ms => { config with timeout := some ms.toNat }

/-- The version that an item asks for. -/
def version? : AddressItem → Option Version
  | version v => some v
  | _ => none

/-- The page size that an item asks for. -/
def pageSize? : AddressItem → Option Int32
  | pageSize size _ => some size
  | _ => none

/-- The time limit that an item sets. -/
def timeout? : AddressItem → Option UInt64
  | timeout ms => some ms
  | _ => none

/-- The last of the values that some items have. -/
def last? {α : Type} (value? : AddressItem → Option α) (items : List AddressItem) : Option α :=
  (items.filterMap value?).getLast?

theorem last?_concat {α : Type} (value? : AddressItem → Option α) (items : List AddressItem)
    (item : AddressItem) :
    last? value? (items ++ [item]) = (value? item).or (last? value? items) := by
  unfold last?
  rw [List.filterMap_append]
  cases h : value? item with
  | none => rw [List.filterMap_cons_none h, List.filterMap_nil, List.append_nil, Option.none_or]
  | some a =>
    rw [List.filterMap_cons_some h, List.filterMap_nil, List.getLast?_concat, Option.some_or]

/-- The last item with a key holds, and without one what was there before. -/
theorem foldl_apply (config : Config) (items : List AddressItem) :
    items.foldl apply config = { config with
      version := (last? version? items).getD config.version
      pageSize := (last? pageSize? items).getD config.pageSize
      timeout := ((last? timeout? items).map UInt64.toNat).or config.timeout } := by
  induction items using List.reverseRecOn with
  | nil => rfl
  | append_singleton items item ih =>
    rw [List.foldl_append, ih, last?_concat, last?_concat, last?_concat]
    cases item <;> rfl

/-- An item that is written has no separator in it. -/
theorem not_mem_text (item : AddressItem) : '&' ∉ item.text.toList := by
  have hnot : ¬ (('&' : Char).isDigit ∨ '&' = '+' ∨ '&' = '-') := by decide
  cases item with
  | blank => exact List.not_mem_nil
  | version v =>
    obtain ⟨major, minor, patch, htext, hmajor, hminor, hpatch⟩ := v.isText_text
    rw [text, String.toList_append, htext]
    simp [hmajor.not_mem hnot, hminor.not_mem hnot, hpatch.not_mem hnot]
  | pageSize size pos =>
    have hsize := (Decimal.isSigned_toString size.toInt).not_mem hnot
    rw [text, String.toList_append, List.mem_append, not_or]
    exact ⟨by decide, hsize⟩
  | timeout ms =>
    have hms := (Decimal.IsSigned.plain (Decimal.isDigits_toString ms.toNat)).not_mem hnot
    rw [text, String.toList_append, List.mem_append, not_or]
    exact ⟨by decide, hms⟩

end AddressItem

namespace Config

/-- Writes an address. -/
def address (host : String) (port : UInt16) (slashes : Nat) (items : List String) : String :=
  "ignite://" ++ host ++ ":" ++ toString port.toNat ++ String.ofList (List.replicate slashes '/') ++
    "?" ++ "&".intercalate items

/-! ## Items -/

/-- What stands before the first `=` of an item, or all of it. -/
def keyOf (item : List Char) : List Char :=
  item.takeWhile (· ≠ '=')

/-- What stands behind the first `=` of an item, if there is one. -/
def valueOf (item : List Char) : List Char :=
  (item.dropWhile (· ≠ '=')).drop 1

/-- The keys of items. -/
def keys : List (List Char) :=
  ["version".toList, "page_size".toList, "timeout_ms".toList]

/-- An item that no address may have. -/
@[mk_iff]
inductive IsRefused (item : List Char) : Prop
  | key (hne : item ≠ []) (hkey : keyOf item ∉ keys)
  | version (hkey : keyOf item = "version".toList) (h : ∀ v, ¬ Version.IsText (valueOf item) v)
  | pageSize (hkey : keyOf item = "page_size".toList)
    (h : ∀ size : Int32, Decimal.IsSigned (valueOf item) size.toInt → ¬ 0 < size)
  | timeout (hkey : keyOf item = "timeout_ms".toList)
    (h : ∀ ms : UInt64, ¬ Decimal.IsUnsigned (valueOf item) ms.toNat)

variable {config : Config} {item : List Char}

theorem withItem_eq (config : Config) (item : List Char) : config.withItem item =
    if keyOf item = "version".toList then
      match Version.read? (valueOf item) with
      | some version => .ok { config with version }
      | none => .error .invalidVersion
    else if keyOf item = "page_size".toList then
      match Decimal.readInt32 (valueOf item) with
      | some size =>
        if 0 < size then .ok { config with pageSize := size } else .error .invalidPageSize
      | none => .error .invalidPageSize
    else if keyOf item = "timeout_ms".toList then
      match Decimal.readNat64 (valueOf item) with
      | some ms => .ok { config with timeout := some ms }
      | none => .error .invalidTimeout
    else .error (.unknownParameter (String.ofList (keyOf item))) := by
  rw [withItem, Split.atFirst_getD]
  rfl

theorem keyOf_append (key value : List Char) (h : '=' ∉ key) :
    keyOf (key ++ '=' :: value) = key ∧ valueOf (key ++ '=' :: value) = value := by
  have hsplit := @Split.atFirst_getD '=' (key ++ '=' :: value)
  rw [Split.atFirst_append value h, Option.getD_some, Prod.mk.injEq] at hsplit
  exact ⟨hsplit.1.symm, hsplit.2.symm⟩

/-- What an item says is taken into account. -/
theorem withItem_text (config : Config) {item : AddressItem} (h : item ≠ .blank) :
    config.withItem item.text.toList = .ok (item.apply config) := by
  cases item with
  | blank => exact absurd rfl h
  | version v =>
    have htext : (AddressItem.version v).text.toList =
        "version".toList ++ '=' :: v.text.toList := String.toList_append
    have hread := Version.read?_eq_some_iff.mpr v.isText_text
    obtain ⟨hkey, hvalue⟩ := keyOf_append "version".toList v.text.toList (by decide)
    rw [htext, withItem_eq, hkey, hvalue, hread, if_pos rfl]
    rfl
  | pageSize size pos =>
    have htext : (AddressItem.pageSize size pos).text.toList =
        "page_size".toList ++ '=' :: (toString size.toInt).toList := String.toList_append
    have hread := Decimal.readInt32_eq_some_iff.mpr (Decimal.isSigned_toString size.toInt)
    obtain ⟨hkey, hvalue⟩ :=
      keyOf_append "page_size".toList (toString size.toInt).toList (by decide)
    rw [htext, withItem_eq, hkey, hvalue, hread, if_neg (by decide), if_pos rfl]
    exact if_pos pos
  | timeout ms =>
    have htext : (AddressItem.timeout ms).text.toList =
        "timeout_ms".toList ++ '=' :: (toString ms.toNat).toList := String.toList_append
    have hread := Decimal.readNat64_eq_some_iff.mpr
      ⟨.plain (Decimal.isDigits_toString ms.toNat), ms.toNat_lt⟩
    obtain ⟨hkey, hvalue⟩ :=
      keyOf_append "timeout_ms".toList (toString ms.toNat).toList (by decide)
    rw [htext, withItem_eq, hkey, hvalue, hread, if_neg (by decide), if_neg (by decide), if_pos rfl]
    rfl

/-- **Of several items with one key the last one holds.** -/
theorem withItems_text (config : Config) (items : List AddressItem) :
    config.withItems (items.map fun item => item.text.toList) =
      .ok (items.foldl AddressItem.apply config) := by
  induction items generalizing config with
  | nil => rfl
  | cons item items ih =>
    by_cases hblank : item = .blank
    · subst hblank
      exact ih config
    · have hread := withItem_text config hblank
      have hne : item.text.toList ≠ [] := by
        intro hnil
        rw [hnil] at hread
        cases hread
      rw [List.map_cons, withItems, if_neg (by simpa using hne), hread]
      exact ih _

/-! ## Refusals -/

/-- An item is refused by whatever configuration it comes to. -/
theorem withItem_error_iff (config : Config) (hne : item ≠ []) :
    (∃ e, config.withItem item = .error e) ↔ IsRefused item := by
  rw [withItem_eq, isRefused_iff]
  split
  next hkey =>
    simp only [← Version.read?_eq_some_iff, hkey]
    cases Version.read? (valueOf item) <;> simp [keys]
  next hversion =>
  split
  next hkey =>
    simp only [← Decimal.readInt32_eq_some_iff, hkey]
    cases Decimal.readInt32 (valueOf item) with
    | none => simp [keys]
    | some size =>
      by_cases hpos : 0 < size
      · simp [keys, hpos]
      · simp [keys, hpos, Int32.not_lt.mp hpos]
  next hpage =>
  split
  next hkey =>
    simp only [← Decimal.readNat64_eq_none_iff, hkey]
    cases Decimal.readNat64 (valueOf item) <;> simp [keys]
  next htimeout =>
    have hother : keyOf item ∉ keys := by
      simp only [keys, List.mem_cons, List.not_mem_nil, or_false, not_or]
      exact ⟨hversion, hpage, htimeout⟩
    exact ⟨fun _ => .inl ⟨hne, hother⟩, fun _ => ⟨_, rfl⟩⟩

theorem not_isRefused_nil : ¬ IsRefused [] := by
  rw [isRefused_iff]
  simp [keyOf]

/-- **One item that is refused is enough.** -/
theorem withItems_error_iff (config : Config) {items : List (List Char)} :
    (∃ e, config.withItems items = .error e) ↔ ∃ item ∈ items, IsRefused item := by
  induction items generalizing config with
  | nil => simp [withItems]
  | cons item rest ih =>
    simp only [withItems, List.mem_cons, exists_eq_or_imp]
    split
    next hempty =>
      obtain rfl := List.isEmpty_iff.mp hempty
      simp only [ih, not_isRefused_nil, false_or]
    next hempty =>
      have hne : item ≠ [] := fun hnil => hempty (List.isEmpty_iff.mpr hnil)
      rw [← withItem_error_iff config hne]
      cases hitem : config.withItem item with
      | error e => exact ⟨fun _ => .inl ⟨e, rfl⟩, fun _ => ⟨e, rfl⟩⟩
      | ok next =>
        rw [← ih next]
        simp only [reduceCtorEq, exists_false, false_or]
        rfl

/-! ## The whole address -/

/-- Between the pieces of what has been joined nothing is lost but that there was none. -/
theorem withItems_all_intercalate {pieces : List (List Char)} (h : ∀ piece ∈ pieces, '&' ∉ piece) :
    config.withItems (Split.all '&' (['&'].intercalate pieces)) = config.withItems pieces := by
  rw [Split.all_intercalate h]
  split
  next hnil =>
    subst hnil
    rfl
  next => rfl

/-- The host and the port of an address are found again, and its items are taken from left to
right. -/
theorem parse_address_eq {host : String} (port : UInt16) (slashes : Nat) {items : List String}
    (hhost : host ≠ "") (hmark : '?' ∉ host.toList) (hitems : ∀ item ∈ items, '&' ∉ item.toList) :
    parse (address host port slashes items) =
      { default with host, port }.withItems (items.map String.toList) := by
  have hdigits := Decimal.isDigits_toString port.toNat
  have hnot {c : Char} (hc : ¬ c.isDigit) : c ∉ (toString port.toNat).toList :=
    fun hmem => hc (hdigits.isDigit c hmem)
  have htext : (address host port slashes items).toList = "ignite".toList ++ ("://".toList ++
      ((host.toList ++ ':' :: (toString port.toNat).toList ++ List.replicate slashes '/') ++
        '?' :: ['&'].intercalate (items.map String.toList))) := by
    simp [address, String.toList_intercalate]
  have hscheme (rest : List Char) : Split.atWord "://".toList
      ("ignite".toList ++ ("://".toList ++ rest)) = some (scheme, rest) := rfl
  have hauthority : '?' ∉
      host.toList ++ ':' :: (toString port.toNat).toList ++ List.replicate slashes '/' := by
    simp only [List.mem_append, List.mem_cons, not_or]
    exact ⟨⟨hmark, by decide, hnot (by decide)⟩, by simp⟩
  have htrimmed : Split.trimEnd '/'
      (host.toList ++ ':' :: (toString port.toNat).toList ++ List.replicate slashes '/') =
        host.toList ++ ':' :: (toString port.toNat).toList := by
    refine Split.trimEnd_append_replicate slashes fun hlast => ?_
    rw [List.getLast?_append, List.getLast?_cons, Option.some_or, ← List.getLast?_cons] at hlast
    rcases List.mem_cons.mp (List.mem_of_getLast? hlast) with hcolon | hmem
    · exact absurd hcolon (by decide)
    · exact hnot (by decide) hmem
  have hport : portOf (toString port.toNat) = some port :=
    Decimal.readUInt16_eq_some_iff.mpr (.plain hdigits)
  have hconfig := (ofAuthority_eq_ok_iff host (hnot (by decide))).mpr
    ⟨host, port, hostOf_of_ne hhost, hport, rfl⟩
  unfold parse
  rw [htext, hscheme]
  dsimp only
  rw [if_neg (by simp), Split.atFirst_append _ hauthority]
  dsimp only [Option.getD_some]
  rw [htrimmed, hconfig]
  refine withItems_all_intercalate fun piece hpiece => ?_
  obtain ⟨item, hitem, rfl⟩ := List.mem_map.mp hpiece
  exact hitems item hitem

/-- **An address says what it was written with.** Whatever separators the host has, and whatever the
items are, in whatever order, the host and the port are found again, and of several items with one
key the last one holds. An address with such a host and port is refused if one of its items has
another key or a value that is not for its key, and for no other reason. -/
theorem parse_address (host : String) (port : UInt16) (slashes : Nat) (hhost : host ≠ "")
    (hmark : '?' ∉ host.toList) :
    (∀ items : List AddressItem,
      parse (address host port slashes (items.map AddressItem.text)) = .ok { default with
        host, port
        version := (AddressItem.last? AddressItem.version? items).getD default.version
        pageSize := (AddressItem.last? AddressItem.pageSize? items).getD default.pageSize
        timeout := (AddressItem.last? AddressItem.timeout? items).map UInt64.toNat }) ∧
    ∀ items : List String, (∀ item ∈ items, '&' ∉ item.toList) →
      ((∃ e, parse (address host port slashes items) = .error e) ↔
        ∃ item ∈ items, IsRefused item.toList) := by
  refine ⟨fun items => ?_, fun items hitems => ?_⟩
  · have hitems : ∀ item ∈ items.map AddressItem.text, '&' ∉ item.toList :=
      List.forall_mem_map.mpr fun item _ => item.not_mem_text
    rw [parse_address_eq port slashes hhost hmark hitems, List.map_map]
    rw [← Option.or_none (o := (AddressItem.last? AddressItem.timeout? items).map UInt64.toNat)]
    exact (withItems_text _ items).trans (congrArg _ (AddressItem.foldl_apply _ items))
  · rw [parse_address_eq port slashes hhost hmark hitems, withItems_error_iff]
    simp only [List.mem_map, exists_exists_and_eq_and]

/-- A host with both separators of addresses, a version below zero, an empty item, a version once
more; and the same host with an item of an unknown key. -/
theorem parse_address_twoVersions :
    "a/b:c" ≠ "" ∧ '?' ∉ "a/b:c".toList ∧
      parse "ignite://a/b:c:10801//?version=-1.0.7&&page_size=64&version=1.2.0" =
        .ok ⟨"a/b:c", 10801, ⟨1, 2, 0⟩, 64, none⟩ ∧
      ∃ e, parse "ignite://a/b:c:10801//?page_size=64&color=red" = .error e := by
  have hhost : "a/b:c" ≠ "" := by decide
  have hmark : '?' ∉ "a/b:c".toList := by decide
  obtain ⟨hread, hrefused⟩ := parse_address "a/b:c" 10801 2 hhost hmark
  have hversions :=
    hread [.version ⟨-1, 0, 7⟩, .blank, .pageSize 64 (by decide), .version ⟨1, 2, 0⟩]
  have hcolor := (hrefused ["page_size=64", "color=red"] (by decide)).mpr
    ⟨"color=red", by decide, .key (by decide) (by decide)⟩
  exact ⟨hhost, hmark, hversions, hcolor⟩

end Config

end ThinClient
