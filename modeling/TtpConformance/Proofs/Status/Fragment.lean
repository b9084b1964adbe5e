import TtpConformance.Proofs.Status.Address
import TtpConformance.Proofs.Text.Utf8

/-!
# Fragments of addresses

A fragment belongs to an address if the groups of the address end with those of the
fragment, whatever the case of their letters.  Any texts can be compared like that, also
ones without groups, or with characters that no address has.

The comparison can be made by octets, with a cut of the address where the fragment would
start.  It looks only at an octet of the address, and what is cut there starts a character:
the octet in front of it is a colon, and a colon is never a part of another character.

The address that a line shows stands in the first of its words that is three or six groups
of two digits but for characters around them that no address has.

## Main definitions

* `Status.octetsMatch?` — the comparison by octets, which may cut an address where it cannot
  be cut.
* `Status.Shows` — a word that shows an address.

## Main statements

* `Status.addressMatches_iff` — the comparison, by groups.
* `Status.octetsMatch?_eq` — the comparison by octets cuts between characters only.
* `Status.findAddress?_eq_some_iff`, `Status.findAddress?_eq_none_iff` — what a line shows.
* `Status.addressMatches_suffix` — which fragments belong to an address, and which address
  a line shows.
-/

namespace TtpConformance

namespace Status

/-! ## Letters of either case -/

section LowerCase

variable {xs ys : List Char}

/-- An octet in lower case, if it is a letter. -/
def lowerOctet (b : UInt8) : UInt8 :=
  if 0x41 ≤ b ∧ b ≤ 0x5A then b + 0x20 else b

/-- Whether two texts are the same but for the case of their letters, octet by octet. -/
def sameButCase (xs ys : List Char) : Bool :=
  (Text.Utf8.encode xs).map lowerOctet == (Text.Utf8.encode ys).map lowerOctet

theorem lowerCase_append (xs ys : List Char) :
    lowerCase (xs ++ ys) = lowerCase xs ++ lowerCase ys :=
  List.map_append

/-- Only the first 128 characters have letters in two cases. -/
theorem toLower_of_le {c : Char} (h : 0x80 ≤ c.toNat) : c.toLower = c := by
  refine dif_neg fun hupper => ?_
  have hle : c.toNat ≤ 'Z'.toNat := UInt32.le_iff_toNat_le.mp hupper.2
  have hlast : 'Z'.toNat = 0x5A := rfl
  omega

/-- What holds for each of the first 128 characters, and for all others together. -/
theorem forall_char {p : Char → Prop} (hfirst : ∀ n < 0x80, p (Char.ofNat n))
    (hother : ∀ c : Char, 0x80 ≤ c.toNat → p c) (c : Char) : p c := by
  by_cases hc : c.toNat < 0x80
  · exact Char.ofNat_toNat c ▸ hfirst c.toNat hc
  · exact hother c (Nat.le_of_not_lt hc)

theorem map_lowerOctet_encodeChar (c : Char) :
    (Text.Utf8.encodeChar c).map lowerOctet = Text.Utf8.encodeChar c.toLower := by
  refine forall_char (p := fun c => (Text.Utf8.encodeChar c).map lowerOctet =
    Text.Utf8.encodeChar c.toLower) (by decide) (fun d hd => ?_) c
  have hoctet : ∀ b ∈ Text.Utf8.encodeChar d, lowerOctet b = b := by
    intro b hb
    have hle := Text.Utf8.le_of_mem_encodeChar hd hb
    refine if_neg fun hletter => ?_
    have hle' := UInt8.le_iff_toNat_le.mp hletter.2
    simp at hle'
    omega
  rw [toLower_of_le hd, List.map_congr_left hoctet, List.map_id']

/-- Colons have no case. -/
theorem toLower_beq_colon (c : Char) : (c.toLower == ':') = (c == ':') :=
  forall_char (p := fun c => (c.toLower == ':') = (c == ':')) (by decide)
    (fun d hd => by rw [toLower_of_le hd]) c

/-- Lower-case letters have lower-case octets. -/
theorem map_lowerOctet_encode (cs : List Char) :
    (Text.Utf8.encode cs).map lowerOctet = Text.Utf8.encode (lowerCase cs) := by
  rw [Text.Utf8.encode, List.map_flatMap, funext map_lowerOctet_encodeChar, lowerCase,
    Text.Utf8.encode, List.flatMap_map]

theorem sameButCase_iff : sameButCase xs ys = true ↔ lowerCase xs = lowerCase ys := by
  rw [sameButCase, beq_iff_eq, map_lowerOctet_encode, map_lowerOctet_encode,
    Text.Utf8.encode_injective.eq_iff]

theorem length_encode_lowerCase (cs : List Char) :
    (Text.Utf8.encode (lowerCase cs)).length = (Text.Utf8.encode cs).length := by
  rw [← map_lowerOctet_encode, List.length_map]

/-- The pieces of a text in lower case are its pieces in lower case. -/
theorem colonPieces_lowerCase (cs : List Char) :
    Address.colonPieces (lowerCase cs) = (Address.colonPieces cs).map lowerCase :=
  Text.splitBy_map toLower_beq_colon cs

end LowerCase

/-! ## Fragments -/

section Fragments

variable {address fragment : List Char}

/-- A fragment belongs to an address if the groups of the address end with its groups. -/
theorem addressMatches_iff :
    addressMatches address fragment = true ↔
      (Address.colonPieces fragment).map lowerCase <:+
        (Address.colonPieces address).map lowerCase := by
  rw [← colonPieces_lowerCase, ← colonPieces_lowerCase, Address.colonPieces_suffix_iff]
  simp only [addressMatches, Bool.or_eq_true, beq_iff_eq, List.isSuffixOf_iff_suffix]

/--
The comparison by octets: the address is cut behind the octet in front of the place where the
fragment would start, if that octet is a colon.  There is no answer if that octet stands
outside the address, or the cut is not between two characters.
-/
def octetsMatch? (address fragment : List Char) : Option Bool :=
  let octets := Text.Utf8.encode address
  let length := (Text.Utf8.encode fragment).length
  if sameButCase address fragment then some true
  else if octets.length < length + 1 then some false
  else do
    let split := octets.length - (length + 1)
    let octet ← octets[split]?
    if octet ≠ 0x3A then some false
    else do
      let last ← Text.Utf8.dropOctets? address (split + 1)
      some (sameButCase last fragment)

/-- An address that ends with a fragment behind a colon, in any case. -/
def HasTail (address fragment : List Char) : Prop :=
  ∃ front last, address = front ++ ':' :: last ∧ lowerCase last = lowerCase fragment

theorem suffix_lowerCase_iff :
    ':' :: lowerCase fragment <:+ lowerCase address ↔ HasTail address fragment := by
  constructor
  · rintro ⟨front', h⟩
    obtain ⟨front, rest, rfl, -, hrest⟩ := List.map_eq_append_iff.mp h.symm
    obtain ⟨c, last, rfl, hc, hlast⟩ := List.map_eq_cons_iff.mp hrest
    have hcolon := toLower_beq_colon c
    rw [hc, beq_self_eq_true] at hcolon
    obtain rfl : c = ':' := beq_iff_eq.mp hcolon.symm
    exact ⟨front, last, rfl, hlast⟩
  · rintro ⟨front, last, rfl, hlast⟩
    exact ⟨lowerCase front, by rw [← hlast, lowerCase_append]; rfl⟩

theorem addressMatches_iff_hasTail (address fragment : List Char) :
    addressMatches address fragment = true ↔
      sameButCase address fragment = true ∨ HasTail address fragment := by
  rw [sameButCase_iff, ← suffix_lowerCase_iff]
  simp only [addressMatches, Bool.or_eq_true, beq_iff_eq, List.isSuffixOf_iff_suffix]

/-- The octets of an address with a tail. -/
theorem encode_of_lowerCase_eq (front : List Char) {last : List Char}
    (h : lowerCase last = lowerCase fragment) :
    Text.Utf8.encode (front ++ ':' :: last) =
        Text.Utf8.encode front ++ 0x3A :: Text.Utf8.encode last ∧
      (Text.Utf8.encode last).length = (Text.Utf8.encode fragment).length := by
  constructor
  · rw [Text.Utf8.encode_append]
    rfl
  · rw [← length_encode_lowerCase, h, length_encode_lowerCase]

theorem HasTail.length_lt (h : HasTail address fragment) :
    (Text.Utf8.encode fragment).length < (Text.Utf8.encode address).length := by
  obtain ⟨front, last, rfl, hlast⟩ := h
  obtain ⟨hoctets, hlength⟩ := encode_of_lowerCase_eq front hlast
  rw [hoctets, List.length_append, List.length_cons]
  omega

section Cut

variable {octets rest : List UInt8} {b : UInt8}

/-- The cut behind a colon is between two characters, and leaves the octets that are left. -/
theorem exists_dropOctets?_colon (h : Text.Utf8.encode address = octets ++ 0x3A :: rest) :
    ∃ front last, address = front ++ ':' :: last ∧ Text.Utf8.encode last = rest ∧
      Text.Utf8.dropOctets? address (octets.length + 1) = some last := by
  obtain ⟨front, last, rfl, rfl, rfl⟩ :=
    (Text.Utf8.encode_eq_append_cons_iff (c := ':') (by decide)).mp h
  refine ⟨front, last, rfl, rfl, Text.Utf8.dropOctets?_eq_some_iff.mpr ⟨front ++ [':'], ?_, ?_⟩⟩
  · rw [List.append_assoc]
    rfl
  · rw [Text.Utf8.encode_append, List.length_append]
    rfl

/-- The octet in front of as many as the fragment has is all that there is to look at: without a
colon there is no tail. -/
theorem HasTail.eq_colon (h : HasTail address fragment)
    (hoctets : Text.Utf8.encode address = octets ++ b :: rest)
    (hlength : rest.length = (Text.Utf8.encode fragment).length) : b = 0x3A := by
  obtain ⟨front, last, rfl, hlast⟩ := h
  obtain ⟨hencode, hsame⟩ := encode_of_lowerCase_eq front hlast
  obtain ⟨-, htail⟩ := List.append_inj' (hoctets.symm.trans hencode) (by simp [hlength, hsame])
  exact (List.cons.inj htail).1

/-- Behind a colon, what the cut leaves is the tail or there is none. -/
theorem exists_dropOctets?_hasTail
    (hoctets : Text.Utf8.encode address = octets ++ 0x3A :: rest)
    (hlength : rest.length = (Text.Utf8.encode fragment).length) :
    ∃ last, Text.Utf8.dropOctets? address (octets.length + 1) = some last ∧
      (sameButCase last fragment = true ↔ HasTail address fragment) := by
  obtain ⟨front, last, rfl, rfl, hdrop⟩ := exists_dropOctets?_colon hoctets
  refine ⟨last, hdrop, fun hsame => ⟨front, last, rfl, sameButCase_iff.mp hsame⟩, ?_⟩
  rintro ⟨front', last', haddress, hlast⟩
  obtain ⟨hencode, hsame⟩ := encode_of_lowerCase_eq front' hlast
  rw [← haddress] at hencode
  obtain ⟨-, htail⟩ := List.append_inj' (hoctets.symm.trans hencode) (by simp [hlength, hsame])
  obtain rfl := Text.Utf8.encode_injective (List.cons.inj htail).2
  exact sameButCase_iff.mpr hlast

end Cut

/-- The comparison by octets has an answer for all texts, and it is the right one. -/
theorem octetsMatch?_eq (address fragment : List Char) :
    octetsMatch? address fragment = some (addressMatches address fragment) := by
  have hmatches := addressMatches_iff_hasTail address fragment
  generalize addressMatches address fragment = answer at hmatches ⊢
  unfold octetsMatch?
  by_cases hsame : sameButCase address fragment = true
  · rw [if_pos hsame, hmatches.mpr (.inl hsame)]
  have hanswer : answer = true ↔ HasTail address fragment := by simpa [hsame] using hmatches
  have hno : ¬HasTail address fragment → answer = false := fun h =>
    Bool.eq_false_iff.mpr (mt hanswer.mp h)
  rw [if_neg hsame]
  split
  · rename_i hshort
    rw [hno fun h => absurd h.length_lt (Nat.not_lt.mpr (Nat.le_of_lt_succ hshort))]
  · rename_i hlong
    generalize hsplit : (Text.Utf8.encode address).length -
      ((Text.Utf8.encode fragment).length + 1) = split
    have hlt : split < (Text.Utf8.encode address).length := by omega
    have hoctets : Text.Utf8.encode address = (Text.Utf8.encode address).take split ++
        (Text.Utf8.encode address)[split] :: (Text.Utf8.encode address).drop (split + 1) := by
      rw [← List.drop_eq_getElem_cons hlt, List.take_append_drop]
    have hrest : ((Text.Utf8.encode address).drop (split + 1)).length =
        (Text.Utf8.encode fragment).length := by
      rw [List.length_drop]
      omega
    simp only [List.getElem?_eq_getElem hlt, Option.bind_eq_bind, Option.bind_some]
    split
    · rename_i hother
      rw [hno fun h => hother (h.eq_colon hoctets hrest)]
    · rename_i hcolon
      rw [not_not.mp hcolon] at hoctets
      obtain ⟨last, hdrop, hlast⟩ := exists_dropOctets?_hasTail hoctets hrest
      rw [List.length_take_of_le (Nat.le_of_lt hlt)] at hdrop
      rw [hdrop, Option.bind_some, Option.some.injEq, Bool.eq_iff_iff, hlast, hanswer]

end Fragments

/-! ## Addresses of a line -/

/-- A word that shows an address: three or six groups of two digits, with nothing but
characters around them that no address has. -/
structure Shows (word core : List Char) : Prop extends
    Text.Encloses (fun c => !isAddressChar c) word core where
  isGroups : ∃ groups : List (List Char), core = [':'].intercalate groups ∧
    (groups.length = 3 ∨ groups.length = 6) ∧
    ∀ group ∈ groups, group.length = 2 ∧ ∀ c ∈ group, Text.isHexDigit c = true

section Lines

variable {line word core : List Char} {words : List (List Char)}

theorem isOctetGroup_iff {group : List Char} :
    isOctetGroup group = true ↔ group.length = 2 ∧ ∀ c ∈ group, Text.isHexDigit c = true := by
  rw [isOctetGroup, Bool.and_eq_true, beq_iff_eq, List.all_eq_true]

theorem isAddress_iff :
    isAddress core = true ↔ ∃ groups : List (List Char), core = [':'].intercalate groups ∧
      (groups.length = 3 ∨ groups.length = 6) ∧
      ∀ group ∈ groups, group.length = 2 ∧ ∀ c ∈ group, Text.isHexDigit c = true := by
  simp only [isAddress, Bool.and_eq_true, Bool.or_eq_true, beq_iff_eq, List.all_eq_true,
    isOctetGroup_iff]
  constructor
  · intro h
    exact ⟨Address.colonPieces core, (Text.intercalate_splitBy ':' core).symm, h⟩
  · rintro ⟨groups, rfl, hcount, hgroups⟩
    have hne : groups ≠ [] := by
      rintro rfl
      simp at hcount
    have hpieces : Address.colonPieces ([':'].intercalate groups) = groups :=
      Text.splitBy_intercalate
        (fun group hgroup => Text.not_mem_of_forall rfl (hgroups group hgroup).2) hne
    rw [hpieces]
    exact ⟨hcount, hgroups⟩

/-- A word shows what is left of it, if that is an address. -/
theorem shows_iff :
    Shows word core ↔
      Text.dropAround (fun c => !isAddressChar c) word = core ∧ isAddress core = true := by
  rw [Text.dropAround_eq_iff, isAddress_iff]
  exact ⟨fun h => ⟨h.toEncloses, h.isGroups⟩, fun ⟨h, hgroups⟩ => ⟨h, hgroups⟩⟩

theorem exists_shows_iff :
    (∃ core, Shows word core) ↔
      isAddress (Text.dropAround (fun c => !isAddressChar c) word) = true := by
  simp only [shows_iff, exists_eq_left']

theorem findAddress?_eq (h : Text.HasWords line words) :
    findAddress? line =
      (words.find? fun word => isAddress (Text.dropAround (fun c => !isAddressChar c) word)).map
        fun word => lowerCase (Text.dropAround (fun c => !isAddressChar c) word) := by
  rw [findAddress?, Text.words_eq_iff.mpr h, List.find?_map, Option.map_map]
  rfl

/-- A line shows the address of the first of its words that shows one, in lower case. -/
theorem findAddress?_eq_some_iff {address : List Char} (h : Text.HasWords line words) :
    findAddress? line = some address ↔
      ∃ front word back core, words = front ++ word :: back ∧ Shows word core ∧
        (∀ earlier ∈ front, ∀ other, ¬Shows earlier other) ∧ address = lowerCase core := by
  rw [findAddress?_eq h, Option.map_eq_some_iff]
  simp only [List.find?_eq_some_iff_append, Bool.not_eq_true', ← Bool.not_eq_true,
    ← exists_shows_iff, not_exists]
  constructor
  · rintro ⟨word, ⟨⟨core, hshows⟩, front, back, hwords, hfront⟩, rfl⟩
    exact ⟨front, word, back, core, hwords, hshows, hfront, by rw [(shows_iff.mp hshows).1]⟩
  · rintro ⟨front, word, back, core, hwords, hshows, hfront, rfl⟩
    exact ⟨word, ⟨⟨core, hshows⟩, front, back, hwords, hfront⟩, by rw [(shows_iff.mp hshows).1]⟩

theorem findAddress?_eq_none_iff (h : Text.HasWords line words) :
    findAddress? line = none ↔ ∀ word ∈ words, ∀ core, ¬Shows word core := by
  rw [findAddress?_eq h, Option.map_eq_none_iff]
  simp only [List.find?_eq_none, ← exists_shows_iff, not_exists]

end Lines

/--
A fragment belongs to an address exactly if the groups of the address end with those of the
fragment, whatever the case of their letters, for any two texts; compared by octets, the
address is never looked at outside its octets and never cut inside a character.  A line is
cut into words in one way, and what it shows is the first of them that is three or six groups
of two digits without what stands around them, in lower case, or nothing if there is none.
-/
theorem addressMatches_suffix :
    (∀ address fragment,
      (addressMatches address fragment = true ↔
        (Address.colonPieces fragment).map lowerCase <:+
          (Address.colonPieces address).map lowerCase) ∧
      octetsMatch? address fragment = some (addressMatches address fragment)) ∧
    ∀ line, ∃ words, (∀ other, Text.HasWords line other ↔ other = words) ∧
      (∀ address, findAddress? line = some address ↔
        ∃ front word back core, words = front ++ word :: back ∧ Shows word core ∧
          (∀ earlier ∈ front, ∀ other, ¬Shows earlier other) ∧ address = lowerCase core) ∧
      (findAddress? line = none ↔ ∀ word ∈ words, ∀ core, ¬Shows word core) := by
  refine ⟨fun address fragment => ⟨addressMatches_iff, octetsMatch?_eq address fragment⟩,
    fun line => ?_⟩
  have hwords := Text.hasWords_words line
  have hother : ∀ other, Text.HasWords line other ↔ other = Text.words line := fun other => by
    rw [← Text.words_eq_iff, eq_comm]
  exact ⟨_, hother, fun address => findAddress?_eq_some_iff hwords, findAddress?_eq_none_iff hwords⟩

/-- What is looked at in front of an empty fragment may be inside a character. -/
example : octetsMatch? ['1', ':', 'ü'] [] = some false ∧ octetsMatch? ['ü', ':'] [] = some true := by
  decide

end Status

end TtpConformance
