import RuuviGateway.Config.Compare
import RuuviGateway.Config.Sample

/-!
# The list of addresses of the scan filter

The parser writes every item of the list to the entry of its index, whether the item is an address
or not, and does not look at the size of the list. It reads exactly the addresses if there are no
other items, and not more than there are entries.
-/

namespace RuuviGateway.Config

open General

variable {P : Platform} {root list : Json} {macOf : Bytes → Option MacAddressBin}

/-- `macOf` tells which texts are addresses, and `mac_addr_from_str` reads these. What it leaves
behind for other texts is not known. -/
def ReadsMacs (P : Platform) (macOf : Bytes → Option MacAddressBin) : Prop :=
  ∀ s mac old, macOf s = some mac → P.macAddrFromStr (some s) old = mac

/-- The address that an item of the list is, if it is one. -/
def itemMac (macOf : Bytes → Option MacAddressBin) (item : Json) : Option MacAddressBin :=
  item.stringValue.bind macOf

/-- The parser stays inside the list, and the filter then has the addresses among the items of the
JSON value, in their order. -/
def ParsesExactly (P : Platform) (macOf : Bytes → Option MacAddressBin) (root list : Json)
    (cfg : GwCfgScanFilter) : Prop :=
  ∃ new, gwCfgJsonParseScanFilter P root cfg = some new ∧
    new.scanFilterLength ≤ gwCfgMaxNumSensors ∧
    new.addresses = list.children.filterMap (itemMac macOf)

theorem macAddrFromStr_itemMac (hP : ReadsMacs P macOf) {item : Json} {mac : MacAddressBin}
    (h : itemMac macOf item = some mac) (old : MacAddressBin) :
    P.macAddrFromStr item.stringValue old = mac := by
  obtain ⟨s, hs, hmac⟩ := Option.bind_eq_some_iff.mp h
  rw [hs]
  exact hP s mac old hmac

/-- Where every item is an address, the entries are these addresses. -/
theorem take_parseScanFilterList (hP : ReadsMacs P macOf) {items : List Json}
    {macs : List MacAddressBin} (hlen : items.length ≤ macs.length)
    (hitems : ∀ item ∈ items, itemMac macOf item ≠ none) :
    (gwCfgJsonParseScanFilterList P items macs).take items.length =
      items.filterMap (itemMac macOf) := by
  induction items generalizing macs with
  | nil => rfl
  | cons item items ih =>
    cases macs with
    | nil => simp at hlen
    | cons old macs =>
      obtain ⟨mac, hmac⟩ := Option.ne_none_iff_exists'.mp (hitems item List.mem_cons_self)
      have hrest := ih (Nat.le_of_succ_le_succ hlen)
        fun item' hmem => hitems item' (List.mem_cons_of_mem _ hmem)
      rw [gwCfgJsonParseScanFilterList, List.length_cons, List.take_succ_cons, hrest,
        macAddrFromStr_itemMac hP hmac, List.filterMap_cons_some hmac]

/-- The list is parsed exactly if and only if it fits and has no item that is not an address. -/
theorem parsesExactly_iff (hP : ReadsMacs P macOf)
    (hlist : root.getObjectItem "scan_filter_list" = some list) (cfg : GwCfgScanFilter) :
    ParsesExactly P macOf root list cfg ↔
      list.children.length ≤ gwCfgMaxNumSensors ∧
        ∀ item ∈ list.children, itemMac macOf item ≠ none := by
  unfold ParsesExactly gwCfgJsonParseScanFilter
  simp only [hlist]
  by_cases hfits : list.children.length ≤ gwCfgMaxNumSensors
  · rw [dif_pos hfits]
    have hsize : list.children.length ≤ cfg.scanFilterList.length := by rw [cfg.size]; exact hfits
    constructor
    · rintro ⟨new, hnew, -, haddresses⟩
      have hlen : (list.children.filterMap (itemMac macOf)).length = list.children.length := by
        rw [← haddresses, new.length_addresses, ← Option.some.inj hnew]
      -- an item that is not an address would make the list of the addresses shorter
      have hitems := List.filterMap_length_eq_length.mp hlen
      exact ⟨hfits, fun item hitem => Option.isSome_iff_ne_none.mp (hitems item hitem)⟩
    · rintro ⟨-, hitems⟩
      exact ⟨_, rfl, hfits, take_parseScanFilterList hP hsize hitems⟩
  · rw [dif_neg hfits]
    constructor
    · rintro ⟨new, hnew, -⟩
      exact absurd hnew (by simp)
    · rintro ⟨hle, -⟩
      exact absurd hle hfits

section Samples

def sampleMacOf (s : Bytes) : Option MacAddressBin :=
  (hexBytes s).bind fun bytes =>
    if h : bytes.length = macAddressNumBytes then some ⟨⟨bytes.toArray, h⟩⟩ else none

theorem readsMacs_sample : ReadsMacs samplePlatform sampleMacOf := by
  intro s mac old h
  obtain ⟨bytes, hbytes, hmac⟩ := Option.bind_eq_some_iff.mp h
  change sampleMacAddrFromStr (some s) old = mac
  unfold sampleMacAddrFromStr
  rw [Option.bind_some, hbytes]
  dsimp only
  split_ifs at hmac ⊢ with hlen
  exact Option.some.inj hmac

def sampleFilter (items : List Json) : Json := .object [("scan_filter_list", .array items)]

theorem parsesExactly_address :
    ParsesExactly samplePlatform sampleMacOf (sampleFilter [.string (ascii "AA:BB:CC:DD:EE:FF")])
      (.array [.string (ascii "AA:BB:CC:DD:EE:FF")]) sampleDefault.ruuviCfg.scanFilter :=
  (parsesExactly_iff readsMacs_sample rfl _).mpr (by decide +kernel)

/-- A single text that is no address makes the filter consist of one address. -/
theorem not_parsesExactly_text :
    ReadsMacs samplePlatform sampleMacOf ∧
      ¬ParsesExactly samplePlatform sampleMacOf (sampleFilter [.string (ascii "none")])
        (.array [.string (ascii "none")]) sampleDefault.ruuviCfg.scanFilter := by
  refine ⟨readsMacs_sample, ?_⟩
  rintro ⟨new, hnew, -, haddresses⟩
  have hlen : new.scanFilterLength = 1 := by
    rw [← Option.some.inj hnew]
    rfl
  rw [← new.length_addresses, haddresses] at hlen
  exact absurd hlen (by decide +kernel)

end Samples

end RuuviGateway.Config
