import Mathlib.Data.List.TakeWhile
import Reconciler.Proofs.RadixNumerals

/-!
# Reading endpoints from their text

Every endpoint is read from its text.  The proof follows the text: octets, groups, then what
stands behind an address.  A group is told from an octet by the point that does not follow it,
and groups end where two colons or a bracket follow.  The two colons of a group address leave
out as many zero groups as the other groups leave room for.

Without its brackets a group address is never read as a part of an endpoint: digits end at its
first colon, where an octet would need a point.
-/

namespace Reconciler

namespace Net

variable {chars rest : List Char}

theorem readChar_self (char : Char) (rest : List Char) : readChar char (char :: rest) = some rest :=
  if_pos rfl

theorem readChar_eq_none {char : Char} (other : chars.head? ≠ some char) :
    readChar char chars = none := by
  cases chars with
  | nil => rfl
  | cons first more => exact if_neg (by simpa using other)

/-! ## Octet addresses -/

theorem readOctet_toDigits (octet : UInt8) (ends : NoDigitAhead 10 rest) :
    readOctet (Nat.toDigits 10 octet.toNat ++ rest) = some (octet, rest) := by
  have bounded : octet.toNat ≤ octetForm.limit := Nat.le_of_lt_succ octet.toNat_lt
  have read : readNumber octetForm (Nat.toDigits 10 octet.toNat ++ rest) =
      some (octet.toNat, rest) := readNumber_toDigits octetForm_wide bounded ends
  simp [readOctet, read]

theorem Octets.toList_text (address : Octets) :
    address.text.toList =
      Nat.toDigits 10 address.first.toNat ++ '.' :: (Nat.toDigits 10 address.second.toNat ++
        '.' :: (Nat.toDigits 10 address.third.toNat ++
          '.' :: Nat.toDigits 10 address.fourth.toNat)) := by
  simp [Octets.text]

theorem readOctets_text (address : Octets) (ends : NoDigitAhead 10 rest) :
    readOctets (address.text.toList ++ rest) = some (address, rest) := by
  have point : ∀ chars, NoDigitAhead 10 ('.' :: chars) := fun chars =>
    noDigitAhead_cons.mpr (by decide)
  simp [readOctets, Octets.toList_text, readOctet_toDigits, readChar_self, point, ends]

theorem readOctets_of_noDigitAhead (ends : NoDigitAhead 10 rest) : readOctets rest = none := by
  have refused : readNumber octetForm rest = none := readNumber_of_noDigitAhead ends
  simp [readOctets, readOctet, refused]

/-- An address of octets has a point behind its first digits. -/
theorem readOctets_eq_none (pointless : (spanDigits 10 chars).2.head? ≠ some '.') :
    readOctets chars = none := by
  cases read : readNumber octetForm chars with
  | none => simp [readOctets, readOctet, read]
  | some result =>
      obtain ⟨value, behind⟩ := result
      have same : (spanDigits 10 chars).2 = behind := readNumber_rest read
      rw [same] at pointless
      simp [readOctets, readOctet, read, readChar_eq_none pointless]

/-! ## Groups -/

theorem toList_groupText (group : UInt16) :
    (groupText group).toList = Nat.toDigits 16 group.toNat :=
  String.toList_ofList

/-- The text of groups, each behind a colon, but not the first one if it begins the text. -/
def groupsChars : Bool → List UInt16 → List Char
  | _, [] => []
  | true, group :: groups => Nat.toDigits 16 group.toNat ++ groupsChars false groups
  | false, group :: groups => ':' :: (Nat.toDigits 16 group.toNat ++ groupsChars false groups)

theorem groupsChars_cons (isFirst : Bool) (group : UInt16) (groups : List UInt16) :
    groupsChars isFirst (group :: groups) =
      groupsChars isFirst [group] ++ groupsChars false groups := by
  cases isFirst <;> simp [groupsChars]

theorem toList_joinGroups (groups : List UInt16) :
    (joinGroups groups).toList = groupsChars true groups := by
  have filled : ∀ group groups, (joinGroups (group :: groups)).toList =
      Nat.toDigits 16 group.toNat ++ groupsChars false groups := by
    intro group groups
    induction groups generalizing group with
    | nil => simp [joinGroups, toList_groupText, groupsChars]
    | cons next groups ih =>
        have joined : joinGroups (group :: next :: groups) =
            groupText group ++ ":" ++ joinGroups (next :: groups) := by
          simp [joinGroups]
        simp [joined, ih, toList_groupText, groupsChars]
  cases groups with
  | nil => rfl
  | cons group groups => exact filled group groups

theorem separated_groupsChars (isFirst : Bool) (group : UInt16) (rest : List Char) :
    separated isFirst (groupsChars isFirst [group] ++ rest) =
      some (Nat.toDigits 16 group.toNat ++ rest) := by
  cases isFirst <;> simp [separated, groupsChars, readChar_self]

theorem readGroups_group (limit : Nat) (isFirst : Bool) (group : UInt16)
    (ends : NoDigitAhead 16 rest) (pointless : rest.head? ≠ some '.') :
    readGroups (limit + 1) isFirst (groupsChars isFirst [group] ++ rest) =
      (group :: (readGroups limit false rest).1, (readGroups limit false rest).2) := by
  have bounded : group.toNat ≤ groupForm.limit := Nat.le_of_lt_succ group.toNat_lt
  have clean : '.' ∉ Nat.toDigits 16 group.toNat := fun member =>
    digit?_of_mem_toDigits (by decide) (by decide) member (by decide)
  have octets : readOctets (Nat.toDigits 16 group.toNat ++ rest) = none :=
    readOctets_eq_none (head?_spanDigits_append clean (ends.anti (by decide)) pointless)
  have read : readNumber groupForm (Nat.toDigits 16 group.toNat ++ rest) =
      some (group.toNat, rest) := readNumber_toDigits groupForm_wide bounded ends
  simp [readGroups, separated_groupsChars, octets, read]

/-- No group can be read: neither a digit nor a point is at the front, and no digit is behind
a colon at the front. -/
structure NoGroupAhead (chars : List Char) : Prop where
  digit : NoDigitAhead 16 chars
  point : chars.head? ≠ some '.'
  behind : ∀ more, chars = ':' :: more → NoDigitAhead 16 more

theorem noGroupAhead_colons (chars : List Char) : NoGroupAhead (':' :: ':' :: chars) := by
  refine ⟨noDigitAhead_cons.mpr (by decide), by simp, ?_⟩
  rintro more same
  cases same
  exact noDigitAhead_cons.mpr (by decide)

theorem NoGroupAhead.bind_separated {α : Type} {read : List Char → Option α} (isFirst : Bool)
    (ends : NoGroupAhead rest) (refused : ∀ chars, NoDigitAhead 16 chars → read chars = none) :
    (separated isFirst rest).bind read = none := by
  cases isFirst with
  | true => exact refused rest ends.digit
  | false =>
      cases rest with
      | nil => rfl
      | cons char more =>
          by_cases colon : char = ':'
          · rw [separated, colon, if_neg Bool.false_ne_true, readChar_self]
            exact refused more (ends.behind more (by rw [colon]))
          · simp [separated, readChar, colon]

theorem readGroups_of_noGroupAhead (limit : Nat) (isFirst : Bool) (ends : NoGroupAhead rest) :
    readGroups limit isFirst rest = ([], false, rest) := by
  have octets : (separated isFirst rest).bind readOctets = none :=
    ends.bind_separated isFirst fun _ none => readOctets_of_noDigitAhead (none.anti (by decide))
  have group : (separated isFirst rest).bind (readNumber groupForm) = none :=
    ends.bind_separated isFirst fun _ none => readNumber_of_noDigitAhead none
  cases limit with
  | zero => rfl
  | succ limit => simp [readGroups, octets, group]

theorem NoGroupAhead.groupsChars_append (ends : NoGroupAhead rest) (groups : List UInt16) :
    NoDigitAhead 16 (groupsChars false groups ++ rest) ∧
      (groupsChars false groups ++ rest).head? ≠ some '.' := by
  cases groups with
  | nil => exact ⟨ends.digit, ends.point⟩
  | cons group groups => exact ⟨noDigitAhead_cons.mpr (by decide), by simp [groupsChars]⟩

/-- Groups are read from their text if there is room for them. -/
theorem readGroups_groupsChars {limit : Nat} {groups : List UInt16} (isFirst : Bool)
    (room : groups.length ≤ limit) (ends : NoGroupAhead rest) :
    readGroups limit isFirst (groupsChars isFirst groups ++ rest) = (groups, false, rest) := by
  induction groups generalizing limit isFirst with
  | nil => exact readGroups_of_noGroupAhead limit isFirst ends
  | cons group groups ih =>
      obtain ⟨limit, rfl⟩ := Nat.exists_eq_add_one.mpr (Nat.zero_lt_of_lt room)
      have ⟨digit, point⟩ := ends.groupsChars_append groups
      rw [groupsChars_cons, List.append_assoc, readGroups_group limit isFirst group digit point,
        ih false (by simpa using room)]

/-! ## Group addresses -/

/-- The first longest run of zero groups is a part of the groups, and stands where it is said
to be. -/
theorem exists_longestRun (position : Nat) (groups : List UInt16) :
    ∃ before after, groups = before ++ List.replicate (longestRun position groups).2 0 ++ after ∧
      (longestRun position groups).1 = position + before.length := by
  induction groups generalizing position with
  | nil => exact ⟨[], [], rfl, rfl⟩
  | cons group groups ih =>
      obtain ⟨before, after, split, start⟩ := ih (position + 1)
      rw [longestRun]
      -- The run at the front counts if none behind it is longer.
      split_ifs with longer
      · refine ⟨[], (group :: groups).dropWhile (· == 0), ?_, rfl⟩
        have zeros : (group :: groups).takeWhile (· == 0) =
            List.replicate (zeroRun (group :: groups)) 0 :=
          List.eq_replicate_iff.mpr ⟨rfl, fun zero member => by
            simpa using List.mem_takeWhile_imp member⟩
        rw [List.nil_append, ← zeros, List.takeWhile_append_dropWhile]
      · refine ⟨group :: before, after, ?_, ?_⟩
        · rw [List.cons_append, List.cons_append, ← split]
        · rw [start, List.length_cons]
          omega

theorem toGroups_halves (high low : UInt16) :
    Octets.toGroups ⟨(high >>> 8).toUInt8, high.toUInt8, (low >>> 8).toUInt8, low.toUInt8⟩ =
      [high, low] := by
  have joined : ∀ group : UInt16,
      (group >>> 8).toUInt8.toUInt16 <<< 8 ||| group.toUInt8.toUInt16 = group := by
    intro group
    have bounded : group.toNat < 65536 := group.toNat_lt
    have lower : group.toNat % 256 < 2 ^ 8 := Nat.mod_lt _ (by decide)
    have upper : (group.toNat >>> 8 % 256) <<< 8 % 65536 = (group.toNat / 256) <<< 8 := by
      rw [Nat.shiftRight_eq_div_pow, Nat.shiftLeft_eq, Nat.shiftLeft_eq]
      omega
    apply UInt16.toNat_inj.mp
    calc ((group >>> 8).toUInt8.toUInt16 <<< 8 ||| group.toUInt8.toUInt16).toNat
        = (group.toNat >>> 8 % 256) <<< 8 % 65536 ||| group.toNat % 256 := by simp
      _ = group.toNat / 256 * 256 + group.toNat % 256 := by
          rw [upper, ← Nat.shiftLeft_add_eq_or_of_lt lower, Nat.shiftLeft_eq]
      _ = group.toNat := Nat.div_add_mod' group.toNat 256
  simp only [Octets.toGroups, joined]

theorem groups_eq_of_mapped? {address : Groups} {octets : Octets}
    (mapped : address.mapped? = some octets) :
    address.groups = List.replicate 5 0 ++ 0xffff :: octets.toGroups := by
  unfold Groups.mapped? at mapped
  split at mapped
  · rename_i high low same
    cases mapped
    rw [same, toGroups_halves]
    rfl
  · cases mapped

/-- How a group address is written: with octets, with two colons for a run of zero groups, or
with all its groups. -/
inductive Groups.Layout (address : Groups) : List Char → Prop
  | mapped {octets : Octets} (same : address.mapped? = some octets) :
      Layout address (':' :: ':' :: (groupsChars true [0xffff] ++ ':' :: octets.text.toList))
  | compressed {before after : List UInt16} {length : Nat}
      (split : address.groups = before ++ List.replicate length 0 ++ after) (run : 1 < length) :
      Layout address (groupsChars true before ++ ':' :: ':' :: groupsChars true after)
  | full : Layout address (groupsChars true address.groups)

theorem Groups.layout_text (address : Groups) : address.Layout address.text.toList := by
  unfold Groups.text
  split
  · rename_i octets same
    have layout := Layout.mapped same
    have chars : groupsChars true [0xffff] = "ffff".toList := by decide
    rw [chars] at layout
    simpa using layout
  · obtain ⟨before, after, split, start⟩ := exists_longestRun 0 address.groups
    generalize longestRun 0 address.groups = found at split start
    obtain ⟨position, length⟩ := found
    obtain rfl : position = before.length := by simpa using start
    dsimp only at split ⊢
    split_ifs with run
    · have front : address.groups.take before.length = before := by
        rw [split, List.append_assoc, List.take_left]
      have back : address.groups.drop (before.length + length) = after := by
        rw [split, List.drop_left' (by simp)]
      rw [front, back]
      simpa [toList_joinGroups] using Layout.compressed split run
    · rw [toList_joinGroups]
      exact .full

/-- Of two runs of zero groups that are equally long the first one is left out. -/
example : Groups.text ⟨[1, 0, 0, 2, 3, 0, 0, 4], rfl⟩ = "1::2:3:0:0:4" := by
  decide

theorem Groups.ofList?_groups (address : Groups) : Groups.ofList? address.groups = some address :=
  dif_pos address.length_eq

/-- Two colons stand for the zero groups that are missing between the others. -/
theorem readAddress_colons {address : Groups} {behind : List Char} {mixed : Bool}
    {before after : List UInt16}
    (head : readGroups 8 true chars = (before, false, ':' :: ':' :: behind))
    (tail : readGroups (7 - before.length) true behind = (after, mixed, rest))
    (short : before.length ≠ 8)
    (whole : address.groups =
      before ++ List.replicate (8 - before.length - after.length) 0 ++ after) :
    readAddress chars = some (address, rest) := by
  have eight := address.ofList?_groups
  rw [whole] at eight
  simp only [readAddress, head, if_neg short, Bool.false_eq_true, if_false, readChar_self, tail,
    eight, Option.bind_eq_bind, Option.bind_some, Option.pure_def]

theorem readAddress_mapped {address : Groups} {octets : Octets}
    (mapped : address.mapped? = some octets) (ends : NoDigitAhead 10 rest) :
    readAddress (':' :: ':' :: (groupsChars true [0xffff] ++ ':' :: (octets.text.toList ++ rest))) =
      some (address, rest) := by
  have behind : readGroups 6 false (':' :: (octets.text.toList ++ rest)) =
      (octets.toGroups, true, rest) := by
    simp [readGroups, separated, readChar_self, readOctets_text octets ends]
  -- The octets stand for two groups, so five zero groups are missing.
  have tail : readGroups 7 true
      (groupsChars true [0xffff] ++ ':' :: (octets.text.toList ++ rest)) =
      (0xffff :: octets.toGroups, true, rest) := by
    rw [readGroups_group 6 true 0xffff (noDigitAhead_cons.mpr (by decide)) (by simp), behind]
  exact readAddress_colons (readGroups_of_noGroupAhead 8 true (noGroupAhead_colons _)) tail
    (by decide) (groups_eq_of_mapped? mapped)

theorem readAddress_compressed {address : Groups} {before after : List UInt16} {length : Nat}
    (split : address.groups = before ++ List.replicate length 0 ++ after) (run : 1 < length)
    (ends : NoGroupAhead rest) :
    readAddress (groupsChars true before ++ ':' :: ':' :: (groupsChars true after ++ rest)) =
      some (address, rest) := by
  have count : before.length + length + after.length = 8 := by
    simp [← address.length_eq, split, Nat.add_assoc]
  have zeros : 8 - before.length - after.length = length := by omega
  exact readAddress_colons
    (readGroups_groupsChars true (by omega) (noGroupAhead_colons (groupsChars true after ++ rest)))
    (readGroups_groupsChars true (by omega) ends) (by omega) (by rw [zeros, split])

theorem readAddress_full (address : Groups) (ends : NoGroupAhead rest) :
    readAddress (groupsChars true address.groups ++ rest) = some (address, rest) := by
  have read : readGroups 8 true (groupsChars true address.groups ++ rest) =
      (address.groups, false, rest) :=
    readGroups_groupsChars true (Nat.le_of_eq address.length_eq) ends
  simp [readAddress, read, address.length_eq, address.ofList?_groups]

/-- A group address is read from its text if no group goes on behind it. -/
theorem readAddress_text (address : Groups) (ends : NoGroupAhead rest) :
    readAddress (address.text.toList ++ rest) = some (address, rest) := by
  have layout := address.layout_text
  generalize address.text.toList = chars at layout
  cases layout with
  | mapped same => simpa using readAddress_mapped same (ends.digit.anti (by decide))
  | compressed split run => simpa using readAddress_compressed split run ends
  | full => exact readAddress_full address ends

/-! ## Endpoints -/

theorem readPort_toDigits (port : UInt16) :
    readPort (':' :: Nat.toDigits 10 port.toNat) = some (port, []) := by
  have bounded : port.toNat ≤ portForm.limit := Nat.le_of_lt_succ port.toNat_lt
  have read : readNumber portForm (Nat.toDigits 10 port.toNat ++ []) = some (port.toNat, []) :=
    readNumber_toDigits portForm_wide bounded noDigitAhead_nil
  rw [List.append_nil] at read
  simp [readPort, readChar_self, read]

/-- A scope behind its mark; the scope zero is not written. -/
def scopeChars (scope : UInt32) : List Char :=
  if scope = 0 then [] else '%' :: Nat.toDigits 10 scope.toNat

theorem readScope_scopeChars (scope : UInt32) (ends : NoDigitAhead 10 rest)
    (unmarked : rest.head? ≠ some '%') : readScope (scopeChars scope ++ rest) = (scope, rest) := by
  by_cases zero : scope = 0
  · simp [readScope, scopeChars, zero, readChar_eq_none unmarked]
  · have bounded : scope.toNat ≤ scopeForm.limit := Nat.le_of_lt_succ scope.toNat_lt
    have read : readNumber scopeForm (Nat.toDigits 10 scope.toNat ++ rest) =
        some (scope.toNat, rest) := readNumber_toDigits scopeForm_wide bounded ends
    simp [readScope, scopeChars, zero, readChar_self, read]

theorem noGroupAhead_scopeChars (scope : UInt32) (chars : List Char) :
    NoGroupAhead (scopeChars scope ++ ']' :: chars) := by
  unfold scopeChars
  split_ifs
  · exact ⟨noDigitAhead_cons.mpr (by decide), by simp, nofun⟩
  · exact ⟨noDigitAhead_cons.mpr (by decide), by simp, nofun⟩

theorem Endpoint.toList_text_octets (address : Octets) (port : UInt16) :
    (Endpoint.octets address port).text.toList =
      address.text.toList ++ ':' :: Nat.toDigits 10 port.toNat := by
  simp [Endpoint.text]

theorem Endpoint.toList_text_groups (address : Groups) (scope : UInt32) (port : UInt16) :
    (Endpoint.groups address scope port).text.toList =
      '[' :: (address.text.toList ++
        (scopeChars scope ++ ']' :: ':' :: Nat.toDigits 10 port.toNat)) := by
  by_cases zero : scope = 0 <;> simp [Endpoint.text, scopeChars, zero]

theorem readOctetEndpoint_text (address : Octets) (port : UInt16) :
    readOctetEndpoint (Endpoint.octets address port).text.toList =
      some (.octets address port, []) := by
  have colon : NoDigitAhead 10 (':' :: Nat.toDigits 10 port.toNat) :=
    noDigitAhead_cons.mpr (by decide)
  simp [Endpoint.toList_text_octets, readOctetEndpoint, readOctets_text address colon,
    readPort_toDigits]

theorem readGroupEndpoint_text (address : Groups) (scope : UInt32) (port : UInt16) :
    readGroupEndpoint (Endpoint.groups address scope port).text.toList =
      some (.groups address scope port, []) := by
  have front := readAddress_text address
    (noGroupAhead_scopeChars scope (':' :: Nat.toDigits 10 port.toNat))
  have named : readScope (scopeChars scope ++ ']' :: ':' :: Nat.toDigits 10 port.toNat) =
      (scope, ']' :: ':' :: Nat.toDigits 10 port.toNat) :=
    readScope_scopeChars scope (noDigitAhead_cons.mpr (by decide)) (by simp)
  simp [Endpoint.toList_text_groups, readGroupEndpoint, readChar_self, front, named,
    readPort_toDigits]

/-- Every endpoint is read from its text. -/
theorem Endpoint.parse?_text (endpoint : Endpoint) : parse? endpoint.text = some endpoint := by
  cases endpoint with
  | octets address port =>
      rw [parse?, readOctetEndpoint_text]
      rfl
  | groups address scope port =>
      have other : readOctetEndpoint (Endpoint.groups address scope port).text.toList = none := by
        rw [toList_text_groups, readOctetEndpoint,
          readOctets_of_noDigitAhead (noDigitAhead_cons.mpr (by decide))]
        rfl
      rw [parse?, other, readGroupEndpoint_text]
      rfl

/-! ## Group addresses without brackets -/

theorem exists_colon_of_groupsChars (groups : List UInt16) (chars : List Char) :
    ∃ front behind, groupsChars true groups ++ ':' :: chars = front ++ ':' :: behind ∧
      ∀ char ∈ front, digit? 16 char ≠ none := by
  have hexadecimal : ∀ group : UInt16, ∀ char ∈ Nat.toDigits 16 group.toNat,
      digit? 16 char ≠ none := fun group char =>
    digit?_of_mem_toDigits (by decide) (by decide)
  match groups with
  | [] => exact ⟨[], chars, rfl, nofun⟩
  | [group] => exact ⟨Nat.toDigits 16 group.toNat, chars, by simp [groupsChars], hexadecimal group⟩
  | first :: second :: groups => exact ⟨Nat.toDigits 16 first.toNat,
      Nat.toDigits 16 second.toNat ++ (groupsChars false groups ++ ':' :: chars),
      by simp [groupsChars], hexadecimal first⟩

/-- A group address has a colon, and nothing but digits before the first one. -/
theorem Groups.exists_colon (address : Groups) : ∃ front behind,
    address.text.toList = front ++ ':' :: behind ∧ ∀ char ∈ front, digit? 16 char ≠ none := by
  have layout := address.layout_text
  generalize address.text.toList = chars at layout
  cases layout with
  | mapped same => exact ⟨[], _, rfl, nofun⟩
  | @compressed before after length split run => exact exists_colon_of_groupsChars before _
  | full =>
      obtain ⟨groups, length_eq⟩ := address
      match groups with
      | first :: second :: groups =>
          simpa [groupsChars] using exists_colon_of_groupsChars [first]
            (Nat.toDigits 16 second.toNat ++ groupsChars false groups)

/-- No endpoint begins with a group address, whatever follows it. -/
theorem Endpoint.parse?_unbracketed (address : Groups) (behind : String) :
    parse? (address.text ++ behind) = none := by
  obtain ⟨front, more, split, digits⟩ := address.exists_colon
  have chars : (address.text ++ behind).toList = front ++ (':' :: (more ++ behind.toList)) := by
    rw [String.toList_append, split, List.append_assoc, List.cons_append]
  have octets : readOctets (address.text ++ behind).toList = none := by
    rw [chars]
    have clean : '.' ∉ front := fun member => digits '.' member (by decide)
    exact readOctets_eq_none
      (head?_spanDigits_append clean (noDigitAhead_cons.mpr (by decide)) (by simp))
  have bracket : readChar '[' (address.text ++ behind).toList = none := by
    rw [chars]
    refine readChar_eq_none ?_
    cases front with
    | nil => simp
    | cons char front =>
        intro first
        obtain rfl : char = '[' := by simpa using first
        exact digits '[' List.mem_cons_self (by decide)
  have refused : (readOctetEndpoint (address.text ++ behind).toList).or
      (readGroupEndpoint (address.text ++ behind).toList) = none := by
    rw [readOctetEndpoint, octets, readGroupEndpoint, bracket]
    rfl
  rw [parse?, refused]

end Net

end Reconciler
