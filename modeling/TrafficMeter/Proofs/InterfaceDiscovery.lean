/-
Module: TrafficMeter.Proofs.InterfaceDiscovery
Purpose: Which interfaces are found.  A link is eligible by what its own two texts say, so that no
  other link matters to it.  What is found are the eligible links that are wanted, each of them once,
  in the order of their names, however they and the wanted names are listed.
Main exports: HardwareAddress.read_eq_ok_iff, HexDigits, Link.Eligible, Link.interface?_eq_some_iff,
  Interface.mem_discover_iff, Interface.discover_sorted, interfaces_found_exactly,
  Listing.discover_eq_ok_iff
-/
import Mathlib
import TrafficMeter.Net.Interface

namespace TrafficMeter

/-! ### Blanks at the ends -/

namespace Text

/-- The first character that is no blank stays when the blanks behind are taken away. -/
theorem trimStart_trimEnd_of_solid {text : List Char} (solid : trimStart text = text) :
    trimStart (trimEnd text) = trimEnd text := by
  obtain ⟨blanks, whole⟩ : trimEnd text <+: text := List.rdropWhile_prefix isBlank text
  cases kept : trimEnd text with
  | nil => rfl
  | cons c others =>
      rw [← whole, kept, List.cons_append, trimStart, List.dropWhile_cons] at solid
      cases blank : isBlank c with
      | false => rw [trimStart, List.dropWhile_cons_of_neg (by simp [blank])]
      | true =>
          rw [if_pos blank] at solid
          have shorter := (List.dropWhile_suffix isBlank (l := others ++ blanks)).length_le
          rw [solid, List.length_cons] at shorter
          omega

theorem trimEnd_trimEnd (text : List Char) : trimEnd (trimEnd text) = trimEnd text := by
  simp only [trimEnd, List.reverse_reverse, List.dropWhile_idempotent isBlank text.reverse]

/-- Once the blanks are gone there are none left to take away. -/
theorem trim_trim (text : List Char) : trim (trim text) = trim text := by
  have solid : trimStart (trimStart text) = trimStart text := List.dropWhile_idempotent _ _
  rw [trim, trim, trimStart_trimEnd_of_solid solid, trimEnd_trimEnd]

end Text

namespace Net

open Text

/-! ### Hardware addresses -/

namespace HardwareAddress

variable {text : String} {address other : HardwareAddress}

theorem toList_inj : address.toList = other.toList ↔ address = other := by
  rw [toList, toList, Vector.toList_inj]
  exact ⟨fun same => by cases address; cases other; cases same; rfl, congrArg octets⟩

/-- An address is read where six parts, and no more, are its octets. -/
theorem read_eq_ok_iff : HardwareAddress.read text = .ok address ↔
    (parts (trim text.toList)).length = 6 ∧
      readOctets (parts (trim text.toList)) = .ok address.toList := by
  rw [HardwareAddress.read]
  generalize parts (trim text.toList) = all
  have whole (six : all.length = 6) : all.take 6 = all := List.take_of_length_le (by omega)
  have count : address.toList.length = 6 := address.octets.length_toList
  constructor
  · intro read
    split at read
    · cases read
    · next a b c d e f octets =>
        split at read
        · next six =>
            cases read
            exact ⟨six, whole six ▸ octets⟩
        · cases read
    · cases read
  · rintro ⟨six, octets⟩
    rw [whole six, octets]
    match shape : address.toList, count with
    | [a, b, c, d, e, f], _ =>
        have same : ofOctets a b c d e f = address := toList_inj.mp shape.symm
        dsimp only
        rw [if_pos six, same]

/-- The blanks around a text do not matter. -/
theorem read_trim : HardwareAddress.read (String.ofList (trim text.toList)) = .ok address ↔
    HardwareAddress.read text = .ok address := by
  rw [read_eq_ok_iff, read_eq_ok_iff, String.toList_ofList, trim_trim]

/-- An address is zero when no octet of it differs from zero. -/
theorem isZero_eq_false_iff : address.isZero = false ↔ ∃ octet ∈ address.toList, octet ≠ 0 := by
  rw [isZero, beq_eq_false_iff_ne, Ne, ← toList_inj, ← not_iff_not]
  push Not
  have count : address.toList.length = 6 := address.octets.length_toList
  rw [show zero.toList = List.replicate 6 0 from rfl, List.eq_replicate_iff]
  exact and_iff_right count

end HardwareAddress

/-! ### Flags -/

/-- The hexadecimal digits of a text: what stands behind "0x", if it begins so, and else all of
it. -/
inductive HexDigits : List Char → List Char → Prop where
  | marked (digits : List Char) : HexDigits ('0' :: 'x' :: digits) digits
  | plain {digits : List Char} (unmarked : ¬ ['0', 'x'] <+: digits) : HexDigits digits digits

/-- A text of flags that says that a link is up and is no loopback. -/
def SaysUp (text : String) : Prop :=
  ∃ digits value, HexDigits (trim text.toList) digits ∧
    readUnsigned? 16 UInt32.size digits = some value ∧
    value.testBit 0 = true ∧ value.testBit 3 = false

theorem flag_eq_zero_iff (value place : Nat) (inside : place < 32) :
    UInt32.ofNat value &&& UInt32.ofNat (2 ^ place) = 0 ↔ value.testBit place = false := by
  have low : 2 ^ place % 2 ^ 32 = 2 ^ place :=
    Nat.mod_eq_of_lt (Nat.pow_lt_pow_right (by decide) inside)
  rw [← UInt32.toNat_inj, UInt32.toNat_and, UInt32.toNat_ofNat', UInt32.toNat_ofNat', low,
    Nat.and_two_pow, Nat.testBit_mod_two_pow]
  simp [inside]

theorem hexDigits_marked_iff {rest digits : List Char} :
    HexDigits ('0' :: 'x' :: rest) digits ↔ digits = rest := by
  constructor
  · rintro (_ | unmarked)
    · rfl
    · exact absurd (List.prefix_append ['0', 'x'] rest) unmarked
  · rintro rfl
    exact .marked _

theorem hexDigits_unmarked_iff {all digits : List Char} (unmarked : ¬ ['0', 'x'] <+: all) :
    HexDigits all digits ↔ digits = all := by
  constructor
  · rintro (_ | _)
    · exact absurd (List.prefix_append ['0', 'x'] digits) unmarked
    · rfl
  · rintro rfl
    exact .plain unmarked

theorem readFlags?_eq_some_iff {text : String} {flags : UInt32} :
    readFlags? text = some flags ↔ ∃ digits value, HexDigits (trim text.toList) digits ∧
      readUnsigned? 16 UInt32.size digits = some value ∧ UInt32.ofNat value = flags := by
  rw [readFlags?]
  generalize trim text.toList = all
  split
  · next rest =>
      simp only [hexDigits_marked_iff, Option.map_eq_some_iff, exists_and_left, exists_eq_left]
  · next unmarked =>
      have plain : ¬ ['0', 'x'] <+: all := fun ⟨rest, whole⟩ => unmarked rest whole.symm
      simp only [hexDigits_unmarked_iff plain, Option.map_eq_some_iff, exists_and_left,
        exists_eq_left]

/-! ### Links -/

/-- A link that can be captured on, with its address, by what is said about it and nothing else. -/
structure Link.Eligible (link : Link) (address : HardwareAddress) : Prop where
  up : ∃ text, link.flags = some text ∧ SaysUp text
  addressed : ∃ text, link.address = some text ∧
    HardwareAddress.read (String.ofList (trim text.toList)) = .ok address
  nonzero : ∃ octet ∈ address.toList, octet ≠ 0

variable {links : List Link} {wanted : List String} {link : Link} {interface : Interface}

theorem flags_eq_up_iff (value : Nat) :
    UInt32.ofNat value &&& loopbackFlag = 0 ∧ UInt32.ofNat value &&& upFlag ≠ 0 ↔
      value.testBit 0 = true ∧ value.testBit 3 = false := by
  have loopback := flag_eq_zero_iff value 3 (by decide)
  have up := flag_eq_zero_iff value 0 (by decide)
  rw [show loopbackFlag = UInt32.ofNat (2 ^ 3) from rfl, show upFlag = UInt32.ofNat (2 ^ 0) from rfl,
    loopback, Ne, up, Bool.not_eq_false, and_comm]

/-- A link gives an interface exactly if it is eligible: its own name with its address. -/
theorem Link.interface?_eq_some_iff : link.interface? = some interface ↔
    interface.name = link.name ∧ link.Eligible interface.address := by
  obtain ⟨name, address⟩ := interface
  simp only [Link.interface?, Option.bind_eq_bind, Option.bind_eq_some_iff, Option.guard_eq_some',
    exists_const, readFlags?_eq_some_iff, Option.pure_def, Option.some.injEq, Interface.mk.injEq]
  constructor
  · rintro ⟨_, ⟨text, flagged, digits, value, body, number, rfl⟩, up, line, written, found, read,
      nonzero, rfl, rfl⟩
    have bits := (flags_eq_up_iff value).mp up
    have read' : HardwareAddress.read line = .ok found := by
      cases result : HardwareAddress.read line <;> simp_all [Except.toOption]
    exact ⟨rfl, ⟨text, flagged, digits, value, body, number, bits⟩,
      ⟨line, written, HardwareAddress.read_trim.mpr read'⟩,
      HardwareAddress.isZero_eq_false_iff.mp (by simpa using nonzero)⟩
  · rintro ⟨rfl, ⟨text, flagged, digits, value, body, number, bits⟩, ⟨line, written, read⟩, nonzero⟩
    have up := (flags_eq_up_iff value).mpr bits
    rw [HardwareAddress.read_trim] at read
    refine ⟨_, ⟨text, flagged, digits, value, body, number, rfl⟩, up, line, written, address, ?_, ?_,
      rfl, rfl⟩
    · rw [read]
      rfl
    · rw [HardwareAddress.isZero_eq_false_iff.mpr nonzero]
      rfl

/-! ### What is found -/

namespace Interface

theorem wants_iff {name : String} : wants wanted name = true ↔ wanted = [] ∨ name ∈ wanted := by
  simp [wants]

theorem mem_discover_iff : interface ∈ discover links wanted ↔
    (wanted = [] ∨ interface.name ∈ wanted) ∧
      ∃ link ∈ links, link.name = interface.name ∧ link.Eligible interface.address := by
  simp only [discover, List.mem_mergeSort, List.mem_filterMap, List.mem_filter, wants_iff,
    Link.interface?_eq_some_iff]
  constructor
  · rintro ⟨link, ⟨listed, asked⟩, named, eligible⟩
    exact ⟨named ▸ asked, link, listed, named.symm, eligible⟩
  · rintro ⟨asked, link, listed, named, eligible⟩
    exact ⟨link, ⟨listed, named ▸ asked⟩, named.symm, eligible⟩

/-- No link gives more than one interface, and each has the name of its link. -/
theorem names_sublist (links : List Link) :
    ((links.filterMap Link.interface?).map Interface.name).Sublist (links.map Link.name) := by
  induction links with
  | nil => exact .slnil
  | cons link others ih =>
      cases found : link.interface? with
      | none =>
          rw [List.filterMap_cons_none found, List.map_cons]
          exact ih.cons _
      | some interface =>
          rw [List.filterMap_cons_some found, List.map_cons, List.map_cons,
            (Link.interface?_eq_some_iff.mp found).1]
          exact ih.cons_cons _

/-- Interfaces with names of their own are found in the strict order of the names. -/
theorem discover_sorted (distinct : (links.map Link.name).Nodup) (wanted : List String) :
    (discover links wanted).Pairwise fun left right => left.name < right.name := by
  rw [discover]
  generalize asked : links.filter (fun link => wants wanted link.name) = kept
  have sorted : ((kept.filterMap Link.interface?).mergeSort fun left right =>
      left.name ≤ right.name).Pairwise fun left right =>
        decide (left.name ≤ right.name) = true := by
    apply List.pairwise_mergeSort
    · simp only [decide_eq_true_eq]
      exact fun _ _ _ => le_trans
    · simp only [Bool.or_eq_true, decide_eq_true_eq]
      exact fun left right => le_total left.name right.name
  have names : (kept.map Link.name).Nodup :=
    distinct.sublist (asked ▸ (List.filter_sublist (l := links)).map Link.name)
  have apart := names.sublist (names_sublist kept)
  rw [← ((List.mergeSort_perm (kept.filterMap Link.interface?) fun left right =>
    left.name ≤ right.name).map Interface.name).nodup_iff, List.Nodup, List.pairwise_map] at apart
  exact sorted.imp₂ (fun _ _ ordered differ =>
    lt_of_le_of_ne (of_decide_eq_true ordered) differ) apart

/-- Interfaces in the strict order of their names are told by which they are. -/
theorem eq_of_mem_iff {one other : List Interface}
    (sorted : one.Pairwise fun left right => left.name < right.name)
    (sorted' : other.Pairwise fun left right => left.name < right.name)
    (same : ∀ interface, interface ∈ one ↔ interface ∈ other) : one = other := by
  have distinct {found : List Interface}
      (ordered : found.Pairwise fun left right => left.name < right.name) : found.Nodup :=
    ordered.imp (by rintro left right before rfl; exact lt_irrefl _ before)
  have perm := (List.perm_ext_iff_of_nodup (distinct sorted) (distinct sorted')).mpr same
  exact perm.eq_of_pairwise (fun _ _ _ _ before after => absurd before (lt_asymm after)) sorted
    sorted'

end Interface

open Interface

/-- Over any links with names of their own, what is found stands in the strict order of the names.  It
is the same whatever the order of the links is and the wanted names are listed in, once or more often.
An interface is found exactly if its name is wanted, or no names are given, and its link is eligible
with its address; and a link that is not eligible, for whatever reason, might as well be missing. -/
theorem interfaces_found_exactly {links : List Link} (distinct : (links.map Link.name).Nodup)
    (wanted : List String) :
    (discover links wanted).Pairwise (fun left right => left.name < right.name) ∧
      (∀ listed, listed.Perm links → ∀ asked, (∀ name, name ∈ asked ↔ name ∈ wanted) →
        discover listed asked = discover links wanted) ∧
      (∀ name address, ⟨name, address⟩ ∈ discover links wanted ↔
        (wanted = [] ∨ name ∈ wanted) ∧
          ∃ link ∈ links, link.name = name ∧ link.Eligible address) ∧
      (∀ before bad after, links = before ++ bad :: after → (∀ address, ¬ bad.Eligible address) →
        discover links wanted = discover (before ++ after) wanted) := by
  have sorted := discover_sorted distinct wanted
  refine ⟨sorted, ?_, fun name address => mem_discover_iff, ?_⟩
  · intro listed perm asked names
    have none : asked = [] ↔ wanted = [] := by
      simp only [List.eq_nil_iff_forall_not_mem, names]
    have distinct' : (listed.map Link.name).Nodup := (perm.map Link.name).nodup_iff.mpr distinct
    apply eq_of_mem_iff (discover_sorted distinct' asked) sorted
    intro interface
    simp only [mem_discover_iff, none, names, perm.mem_iff]
  · rintro before bad after rfl blind
    have fewer : (before ++ after).Sublist (before ++ bad :: after) :=
      (List.sublist_cons_self bad after).append_left before
    apply eq_of_mem_iff sorted (discover_sorted (distinct.sublist (fewer.map Link.name)) wanted)
    intro interface
    rw [mem_discover_iff, mem_discover_iff]
    refine and_congr_right fun _ => exists_congr fun link => ?_
    have others : link.Eligible interface.address → link ≠ bad := by
      rintro eligible rfl
      exact blind _ eligible
    simp only [List.mem_append, List.mem_cons]
    tauto

/-- Two links that can be captured on, one of them with unusual texts, among others: one is down, one
loops back, of one the flags are no number, and of one nothing can be read. -/
def sampleLinks : List Link :=
  [⟨"wlan0", some "0x1003\n", some "3c:22:fb:01:02:03\n"⟩, ⟨"eth1", some "0x1002", some "2:0:0:0:0:1"⟩,
    ⟨"lo", some "0x9", some "02:00:00:00:00:01"⟩, ⟨"tun0", some "0x0x1", some "02:00:00:00:00:01"⟩,
    ⟨"notes", none, none⟩, ⟨"eth0", some " +1", some "\t+2:42:AC:11:0:0002 "⟩]

theorem interfaces_found_exactly_of_sampleLinks :
    (sampleLinks.map Link.name).Nodup ∧
      (discover sampleLinks []).Pairwise (fun left right => left.name < right.name) ∧
      discover sampleLinks.reverse ["wlan0", "lo", "eth0", "wlan0"] =
        [⟨"eth0", .ofOctets 2 0x42 0xac 0x11 0 2⟩, ⟨"wlan0", .ofOctets 0x3c 0x22 0xfb 1 2 3⟩] := by
  have distinct : (sampleLinks.map Link.name).Nodup := by decide
  have found : discover sampleLinks ["eth0", "lo", "wlan0"] =
      [⟨"eth0", .ofOctets 2 0x42 0xac 0x11 0 2⟩, ⟨"wlan0", .ofOctets 0x3c 0x22 0xfb 1 2 3⟩] := by
    cbv
  obtain ⟨sorted, _⟩ := interfaces_found_exactly distinct []
  obtain ⟨_, same, _⟩ := interfaces_found_exactly distinct ["eth0", "lo", "wlan0"]
  refine ⟨distinct, sorted, ?_⟩
  rw [same sampleLinks.reverse (List.reverse_perm _) ["wlan0", "lo", "eth0", "wlan0"] ?_, found]
  intro name
  simp only [List.mem_cons, List.not_mem_nil]
  tauto

/-! ### Listings -/

/-- Entries that all hold links are those links. -/
theorem mapM_id_eq_ok_iff {entries : List (Except String Link)} {links : List Link} :
    entries.mapM id = .ok links ↔ entries = links.map .ok := by
  induction entries generalizing links with
  | nil => cases links <;> simp [pure, Except.pure]
  | cons entry later ih =>
      rw [List.mapM_cons]
      cases entry with
      | error reason => cases links <;> simp [bind, Except.bind]
      | ok first =>
          cases read : later.mapM id <;> cases links <;>
            simp [bind, Except.bind, pure, Except.pure, read, ← ih]

/-- Interfaces are found exactly in a listing that was read to its end, and those among its links; one
that broke off, be it at the last of them, gives none. -/
theorem Listing.discover_eq_ok_iff {listing : Listing} {wanted : List String}
    {found : List Interface} :
    Listing.discover listing wanted = .ok found ↔
      ∃ links : List Link, listing = .ok (links.map .ok) ∧
        found = Interface.discover links wanted := by
  cases listing with
  | error reason =>
      exact iff_of_false (fun broken => nomatch broken) fun ⟨_, broken, _⟩ => nomatch broken
  | ok entries =>
      simp only [Except.ok.injEq, ← mapM_id_eq_ok_iff, Listing.discover]
      cases read : entries.mapM id with
      | error reason => simp [bind, Except.bind, read]
      | ok links => simp [bind, Except.bind, pure, Except.pure, read, eq_comm]

end Net

end TrafficMeter
