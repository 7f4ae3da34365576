-- SUMMARY: Addresses are read back from their text.
import Radius.Address.Printer
import Radius.Address.Reader
import Radius.Proofs.Bytes
import Radius.Proofs.Text.Digits

/-!
# Reading addresses back

Whatever an address is written as, reading it gives the address again. The readers take digits as
far as they go, so a number is read back where no digit stands behind it. The IPv6 reader tries an
IPv4 address at each group first, which fails in a text without points. It stops in front of two
colons, and the groups that are missing before and behind them are the zeros they stand for.
-/

namespace Radius

/-! ## IPv4 -/

namespace Ipv4

/-- No octet has more than three digits, and none but zero begins with a zero. -/
theorem readOctet_append (octet : UInt8) {rest : List Char}
    (h : Digits.Stops Decimal.digit? rest) :
    readOctet (Nat.toDigits 10 octet.toNat ++ rest) = some (octet, rest) := by
  have hoctet := octet.toNat_lt
  have hread := Decimal.digitsFrom_toDigits (Nat.le_of_lt_succ hoctet)
  have hdigits : (Nat.toDigits 10 octet.toNat ++ rest).takeWhile
      (fun c => (Decimal.digit? c).isSome) = Nat.toDigits 10 octet.toNat :=
    Digits.takeWhile_append (fun _ => Decimal.isSome_of_mem_toDigits) h
  have hlength : (Nat.toDigits 10 octet.toNat).length ≤ 3 :=
    (Nat.length_toDigits_le_iff (by decide) (by decide)).mpr (by omega)
  have hzero : ¬ ((Nat.toDigits 10 octet.toNat).head? = some '0' ∧
      1 < (Nat.toDigits 10 octet.toNat).length) := by
    rintro ⟨hhead, hlong⟩
    have hlarge := (not_congr (Nat.length_toDigits_le_iff (by decide) (by decide))).mp
      (Nat.not_le.mpr hlong)
    exact Decimal.head?_toDigits_ne (by omega) hhead
  unfold readOctet
  simp only [hdigits, List.drop_left]
  rw [if_neg, hread]
  · simp only [UInt8.ofNat_toNat]
  · simp only [Nat.toDigits_ne_nil, Nat.not_lt.mpr hlength, hzero, or_self, not_false_eq_true]

theorem readPointOctet_append (octet : UInt8) {rest : List Char}
    (h : Digits.Stops Decimal.digit? rest) :
    readPointOctet ('.' :: (Nat.toDigits 10 octet.toNat ++ rest)) = some (octet, rest) :=
  readOctet_append octet h

/-- An address has four octets, with points between them in its text. -/
theorem exists_chars_eq (address : Ipv4) : ∃ a b c d, address = ⟨⟨[a, b, c, d], rfl⟩⟩ ∧
    address.chars = Nat.toDigits 10 a.toNat ++ '.' :: (Nat.toDigits 10 b.toNat ++
      '.' :: (Nat.toDigits 10 c.toNat ++ '.' :: Nat.toDigits 10 d.toNat)) := by
  obtain ⟨bytes, hbytes⟩ := address
  match bytes, hbytes with
  | [a, b, c, d], _ =>
      refine ⟨a, b, c, d, rfl, ?_⟩
      change Nat.toDigits 10 a.toNat ++ ['.'] ++ (Nat.toDigits 10 b.toNat ++ ['.'] ++
        (Nat.toDigits 10 c.toNat ++ ['.'] ++ Nat.toDigits 10 d.toNat)) = _
      simp

/-- An address is read back where no digit stands behind it. -/
theorem read_append (address : Ipv4) {rest : List Char} (h : Digits.Stops Decimal.digit? rest) :
    read (address.chars ++ rest) = some (address, rest) := by
  obtain ⟨a, b, c, d, rfl, hchars⟩ := address.exists_chars_eq
  have hpoint (text : List Char) : Digits.Stops Decimal.digit? ('.' :: text) := rfl
  rw [hchars, List.append_assoc, read, List.cons_append, readOctet_append a (hpoint _)]
  simp only [List.append_assoc, List.cons_append, Option.bind_eq_bind, Option.bind_some,
    readPointOctet_append b (hpoint _), readPointOctet_append c (hpoint _),
    readPointOctet_append d h]
  rfl

theorem parse?_toText (address : Ipv4) : parse? address.toText = some address := by
  have hread := address.read_append (rfl : Digits.Stops Decimal.digit? [])
  rw [List.append_nil] at hread
  rw [parse?, toText, String.toList_ofList, hread]

/-- There is no address where there is no point. -/
theorem read_eq_none {text : List Char} (h : '.' ∉ text) : read text = none := by
  have hrest {octet : UInt8} {rest : List Char} (hread : readOctet text = some (octet, rest)) :
      '.' ∉ rest := by
    simp only [readOctet] at hread
    split at hread
    · cases hread
    · split at hread
      · cases hread
        exact fun hpoint => h (List.mem_of_mem_drop hpoint)
      · cases hread
  have hnone {rest : List Char} (hpoint : '.' ∉ rest) : readPointOctet rest = none := by
    unfold readPointOctet
    split
    · exact absurd List.mem_cons_self hpoint
    · rfl
  rw [read]
  cases hread : readOctet text with
  | none => rfl
  | some read =>
      obtain ⟨octet, rest⟩ := read
      simp only [Option.bind_eq_bind, Option.bind_some, hnone (hrest hread), Option.bind_none]

theorem slash_not_mem_chars (address : Ipv4) : '/' ∉ address.chars := by
  obtain ⟨a, b, c, d, -, hchars⟩ := address.exists_chars_eq
  have hdigits (n : Nat) : '/' ∉ Nat.toDigits 10 n := fun h =>
    absurd (Decimal.isSome_of_mem_toDigits h) (by decide)
  rw [hchars]
  simp [hdigits]

end Ipv4

/-! ## Groups of IPv6 -/

namespace Ipv6

section

variable {group : Nat} {groups : List Nat} {text rest : List Char} {limit : Nat} {first : Bool}

theorem readGroup_append (hgroup : group < 65536) (h : Digits.Stops Hex.digit? rest) :
    readGroup (Nat.toDigits 16 group ++ rest) = some (group, rest) := by
  have hdigits : (Nat.toDigits 16 group ++ rest).takeWhile
      (fun c => (Hex.digit? c).isSome) = Nat.toDigits 16 group :=
    Digits.takeWhile_append (fun _ => Hex.isSome_of_mem_toDigits) h
  have hlength : (Nat.toDigits 16 group).length ≤ 4 :=
    (Nat.length_toDigits_le_iff (by decide) (by decide)).mpr hgroup
  unfold readGroup
  simp only [hdigits, List.drop_left, Hex.foldl_toDigits]
  rw [if_neg]
  simp only [Nat.toDigits_ne_nil, Nat.not_lt.mpr hlength, or_self, not_false_eq_true]

/-- Where groups end: the text does, or two colons stand for zeros. -/
inductive Ends : List Char → Prop
  | text : Ends []
  | zeros (rest : List Char) : Ends (':' :: ':' :: rest)

/-- Groups with a colon in front of each, save for the first of all. -/
def writtenChars (first : Bool) (groups : List Nat) : List Char :=
  if first then groupChars groups else groups.flatMap (fun group => ':' :: Nat.toDigits 16 group)

theorem groupChars_cons (group : Nat) (groups : List Nat) :
    groupChars (group :: groups) = Nat.toDigits 16 group ++ writtenChars false groups := by
  induction groups generalizing group with
  | nil => exact (List.append_nil _).symm
  | cons next groups ih =>
      have hnext : groupChars (group :: next :: groups) =
          Nat.toDigits 16 group ++ [':'] ++ groupChars (next :: groups) := rfl
      rw [hnext, ih, List.append_assoc]
      rfl

theorem afterColon_writtenChars (first : Bool) (group : Nat) (groups : List Nat)
    (rest : List Char) :
    afterColon first (writtenChars first (group :: groups) ++ rest) =
      some (Nat.toDigits 16 group ++ (writtenChars false groups ++ rest)) := by
  rw [← List.append_assoc]
  cases first with
  | true =>
      rw [← groupChars_cons]
      rfl
  | false => rfl

theorem Ends.stops (h : Ends rest) (groups : List Nat) :
    Digits.Stops Hex.digit? (writtenChars false groups ++ rest) := by
  cases groups with
  | nil =>
      cases h with
      | text => rfl
      | zeros rest => rfl
  | cons group groups => rfl

theorem mem_groupChars {c : Char} (h : c ∈ groupChars groups) :
    c = ':' ∨ (Hex.digit? c).isSome := by
  cases groups with
  | nil => cases h
  | cons group groups =>
      rw [groupChars_cons, List.mem_append] at h
      rcases h with h | h
      · exact .inr (Hex.isSome_of_mem_toDigits h)
      · obtain ⟨group, -, hgroup⟩ := List.mem_flatMap.mp h
        exact (List.mem_cons.mp hgroup).imp_right Hex.isSome_of_mem_toDigits

theorem point_not_mem_groupChars (groups : List Nat) : '.' ∉ groupChars groups := fun h =>
  absurd (mem_groupChars h) (by decide)

/-! ## Reading groups -/

theorem readGroups_of_ends (h : Ends text) :
    readGroups limit first text = ⟨[], false, text⟩ := by
  cases limit with
  | zero => rfl
  | succ limit =>
      have hnone : (afterColon first text).bind Ipv4.read = none ∧
          (afterColon first text).bind readGroup = none := by
        cases h with
        | text => cases first <;> exact ⟨rfl, rfl⟩
        | zeros rest => cases first <;> exact ⟨rfl, rfl⟩
      simp only [readGroups, hnone, ite_self]

/-- An IPv4 address is read as two groups, the last ones. -/
theorem readGroups_of_ipv4 {address : Ipv4} (htext : afterColon first text = some rest)
    (haddress : Ipv4.read rest = some (address, [])) :
    readGroups (limit + 2) first text =
      ⟨[address.octets.toNat / 65536, address.octets.toNat % 65536], true, []⟩ := by
  rw [readGroups, if_neg (Nat.succ_ne_zero limit)]
  simp only [htext, Option.bind_some, haddress]

/-- A group is read, and then those behind it. -/
theorem readGroups_succ (htext : afterColon first text = some (Nat.toDigits 16 group ++ rest))
    (hnone : Ipv4.read (Nat.toDigits 16 group ++ rest) = none) (hgroup : group < 65536)
    (hstops : Digits.Stops Hex.digit? rest) :
    readGroups (limit + 1) first text =
      ⟨group :: (readGroups limit false rest).groups, (readGroups limit false rest).dotted,
        (readGroups limit false rest).rest⟩ := by
  rw [readGroups]
  simp only [htext, Option.bind_some, hnone, ite_self, readGroup_append hgroup hstops]

/-- Groups that are written without points are read back, up to where they end. -/
theorem readGroups_writtenChars (hlimit : groups.length ≤ limit)
    (hgroups : ∀ group ∈ groups, group < 65536) (hends : Ends rest) (hpoint : '.' ∉ rest) :
    readGroups limit first (writtenChars first groups ++ rest) = ⟨groups, false, rest⟩ := by
  induction groups generalizing limit first with
  | nil =>
      cases first with
      | true => exact readGroups_of_ends hends
      | false => exact readGroups_of_ends hends
  | cons group groups ih =>
      rw [List.forall_mem_cons] at hgroups
      obtain ⟨hgroup, hgroups⟩ := hgroups
      cases limit with
      | zero => exact absurd hlimit (Nat.not_succ_le_zero _)
      | succ limit =>
          have hnone : Ipv4.read (Nat.toDigits 16 group ++ (writtenChars false groups ++ rest)) =
              none := by
            refine Ipv4.read_eq_none ?_
            rw [← List.append_assoc, ← groupChars_cons, List.mem_append]
            exact not_or_intro (point_not_mem_groupChars (group :: groups)) hpoint
          rw [readGroups_succ (afterColon_writtenChars first group groups rest) hnone hgroup
            (hends.stops groups), ih (Nat.le_of_succ_le_succ hlimit) hgroups]

end

/-! ## Runs of zeros -/

theorem replicate_append_drop (groups : List Nat) :
    List.replicate (groups.takeWhile (· = 0)).length 0 ++
      groups.drop (groups.takeWhile (· = 0)).length = groups := by
  induction groups with
  | nil => rfl
  | cons group rest ih =>
      by_cases hzero : group = 0
      · subst hzero
        simpa [List.replicate_succ] using ih
      · simp [hzero]

/-- The longest run of zeros stands at its place, between the groups before and behind it. -/
theorem take_append_longestZeroRun (groups : List Nat) :
    groups.take (longestZeroRun groups).1 ++ List.replicate (longestZeroRun groups).2 0 ++
      groups.drop ((longestZeroRun groups).1 + (longestZeroRun groups).2) = groups := by
  induction groups with
  | nil => rfl
  | cons group rest ih =>
      simp only [longestZeroRun]
      split
      · rw [List.take_zero, List.nil_append, Nat.zero_add]
        exact replicate_append_drop (group :: rest)
      · rw [List.take_succ_cons, Nat.add_right_comm, List.drop_succ_cons, List.cons_append,
          List.cons_append, ih]

/-! ## Addresses -/

section

variable {front back groups : List Nat}

theorem read_groupChars (hlength : groups.length = 8) (hgroups : ∀ group ∈ groups, group < 65536) :
    read (groupChars groups) = some (ofGroups groups, []) := by
  have hread : readGroups 8 true (groupChars groups ++ []) = ⟨groups, false, []⟩ :=
    readGroups_writtenChars (Nat.le_of_eq hlength) hgroups .text List.not_mem_nil
  rw [List.append_nil] at hread
  simp only [read, hread, hlength, if_true]

/-- Two colons stand for as many zeros as there are groups missing, one at least. -/
theorem read_zeros {count : Nat} (hcount : 0 < count)
    (hlength : (front ++ List.replicate count 0 ++ back).length = 8)
    (hgroups : ∀ group ∈ front ++ List.replicate count 0 ++ back, group < 65536) :
    read (groupChars front ++ "::".toList ++ groupChars back) =
      some (ofGroups (front ++ List.replicate count 0 ++ back), []) := by
  rw [List.forall_mem_append, List.forall_mem_append] at hgroups
  obtain ⟨⟨hfront, -⟩, hback⟩ := hgroups
  simp only [List.length_append, List.length_replicate] at hlength
  have hpoint : '.' ∉ ':' :: ':' :: groupChars back := by
    simp [point_not_mem_groupChars back]
  have hreadFront : readGroups 8 true (groupChars front ++ ':' :: ':' :: groupChars back) =
      ⟨front, false, ':' :: ':' :: groupChars back⟩ :=
    readGroups_writtenChars (by omega) hfront (.zeros _) hpoint
  have hreadBack : readGroups (7 - front.length) true (groupChars back ++ []) = ⟨back, false, []⟩ :=
    readGroups_writtenChars (by omega) hback .text List.not_mem_nil
  rw [List.append_nil] at hreadBack
  have hchars : groupChars front ++ "::".toList ++ groupChars back =
      groupChars front ++ ':' :: ':' :: groupChars back := List.append_assoc _ _ _
  have hfew : front.length ≠ 8 := by omega
  have hmissing : 8 - front.length - back.length = count := by omega
  rw [hchars, read, hreadFront]
  simp only [hfew, if_false, Bool.false_eq_true, hreadBack, hmissing]

/-- An IPv4 address is read as the last two of eight groups. -/
theorem read_mapped (ipv4 : Ipv4) :
    read ("::ffff:".toList ++ ipv4.chars) =
      some (ofGroups [0, 0, 0, 0, 0, 0xFFFF, ipv4.octets.toNat / 65536, ipv4.octets.toNat % 65536],
        []) := by
  have hipv4 := ipv4.read_append (rfl : Digits.Stops Decimal.digit? [])
  rw [List.append_nil] at hipv4
  have hlast : readGroups 6 false (':' :: ipv4.chars) =
      ⟨[ipv4.octets.toNat / 65536, ipv4.octets.toNat % 65536], true, []⟩ :=
    readGroups_of_ipv4 rfl hipv4
  have hback : readGroups 7 true ("ffff:".toList ++ ipv4.chars) =
      ⟨[0xFFFF, ipv4.octets.toNat / 65536, ipv4.octets.toNat % 65536], true, []⟩ := by
    have htext : afterColon true ("ffff:".toList ++ ipv4.chars) =
        some (Nat.toDigits 16 0xFFFF ++ ':' :: ipv4.chars) := rfl
    rw [readGroups_succ htext rfl (by decide) rfl, hlast]
  have hfront : readGroups 8 true ("::ffff:".toList ++ ipv4.chars) =
      ⟨[], false, ':' :: ':' :: ("ffff:".toList ++ ipv4.chars)⟩ :=
    readGroups_of_ends (.zeros _)
  rw [read, hfront]
  simp only [List.length_nil, Bool.false_eq_true, if_false, hback]
  rfl

/-- The last two groups are those of the last four octets. -/
theorem drop_groups (address : Ipv6) :
    address.groups.drop 6 =
      [Bytes.toNat (address.octets.bytes.drop 12) / 65536,
        Bytes.toNat (address.octets.bytes.drop 12) % 65536] := by
  obtain ⟨bytes, hbytes⟩ := address
  match bytes, hbytes with
  | [_, _, _, _, _, _, _, _, _, _, _, _, a, b, c, d], _ =>
      have hvalue : Bytes.toNat [a, b, c, d] =
          (a.toNat * 256 + b.toNat) * 65536 + (c.toNat * 256 + d.toNat) := by
        simp only [Bytes.toNat, List.foldl_cons, List.foldl_nil]
        omega
      have hc := c.toNat_lt
      have hd := d.toNat_lt
      have hhigh : Bytes.toNat [a, b, c, d] / 65536 = a.toNat * 256 + b.toNat := by omega
      have hlow : Bytes.toNat [a, b, c, d] % 65536 = c.toNat * 256 + d.toNat := by omega
      change [a.toNat * 256 + b.toNat, c.toNat * 256 + d.toNat] =
        [Bytes.toNat [a, b, c, d] / 65536, Bytes.toNat [a, b, c, d] % 65536]
      rw [hhigh, hlow]

theorem groups_of_mapped {address : Ipv6} {ipv4 : Ipv4} (h : address.mapped? = some ipv4) :
    address.groups =
      [0, 0, 0, 0, 0, 0xFFFF, ipv4.octets.toNat / 65536, ipv4.octets.toNat % 65536] := by
  unfold mapped? at h
  split at h
  · rename_i hfront
    cases h
    have hoctets : (Octets.ofPrefix 4 (address.octets.bytes.drop 12)).bytes =
        address.octets.bytes.drop 12 := by
      have hlength : (address.octets.bytes.drop 12).length = 4 := by
        rw [List.length_drop, address.octets.length_bytes]
      rw [Octets.bytes_ofPrefix hlength.ge, List.take_of_length_le hlength.le]
    rw [Octets.toNat, hoctets, ← List.take_append_drop 6 address.groups, hfront, drop_groups]
    rfl
  · cases h

/-- An address is read back from its text, and nothing is left over. -/
theorem read_chars (address : Ipv6) : read address.chars = some (address, []) := by
  have hgroups : ∀ group ∈ address.groups, group < 65536 := fun _ => lt_of_mem_groups
  unfold chars
  split
  · rename_i ipv4 hmapped
    rw [read_mapped, ← groups_of_mapped hmapped, ofGroups_groups]
  · have hrun := take_append_longestZeroRun address.groups
    simp only
    generalize longestZeroRun address.groups = run at hrun ⊢
    split
    · rename_i hzeros
      have hlength := length_groups address
      rw [← hrun] at hlength hgroups
      rw [read_zeros (Nat.lt_of_succ_lt hzeros) hlength hgroups, hrun, ofGroups_groups]
    · rw [read_groupChars (length_groups address) hgroups, ofGroups_groups]

theorem parse?_toText (address : Ipv6) : parse? address.toText = some address := by
  rw [parse?, toText, String.toList_ofList, address.read_chars]

theorem slash_not_mem_chars (address : Ipv6) : '/' ∉ address.chars := by
  have hgroups (groups : List Nat) : '/' ∉ groupChars groups := fun h =>
    absurd (mem_groupChars h) (by decide)
  unfold chars
  split
  · rename_i ipv4 _
    simp [ipv4.slash_not_mem_chars]
  · simp only
    split
    · simp [hgroups]
    · exact hgroups _

end

end Ipv6
end Radius
