import TtpConformance.Proofs.Address.Octets
import TtpConformance.Status.Address

/-!
# Addresses as octets

An address is found in a table as text and compared as text: a fragment belongs to it if
it is the whole of it or stands at its end behind a colon.  Here both are identified
with lists of octets.  What is found in a line is the printed form of three or six
octets, and the comparison asks whether the octets of the fragment are the last ones of
the address.

## Main statements

* `Status.exists_octets_of_findAddress?` — what is found in a line.
* `Status.addressMatches_joinOctets` — the comparison, by octets.
-/

namespace TtpConformance

namespace Status

theorem lowerCase_hexByte (o : UInt8) :
    lowerCase (Text.hexByte o).toList = (Text.hexByte o).toList := by
  simp [lowerCase, Address.toList_hexByte, Text.toLower_hexDigit]

theorem lowerCase_intercalate (pieces : List (List Char)) :
    lowerCase ([':'].intercalate pieces) = [':'].intercalate (pieces.map lowerCase) := by
  induction pieces with
  | nil => rfl
  | cons piece pieces ih =>
      by_cases hlast : pieces = []
      · subst hlast
        simp
      · have hcolon : lowerCase [':'] = [':'] := by decide
        have happend : ∀ xs ys : List Char, lowerCase (xs ++ ys) = lowerCase xs ++ lowerCase ys :=
          fun _ _ => List.map_append
        rw [List.intercalate_cons_of_ne_nil hlast, List.map_cons,
          List.intercalate_cons_of_ne_nil (by simp [hlast]), happend, happend, hcolon, ih]

theorem lowerCase_joinOctets (octets : List UInt8) :
    lowerCase (Address.joinOctets ":" octets).toList = (Address.joinOctets ":" octets).toList := by
  have hgroups : (Address.groups octets).map lowerCase = Address.groups octets := by
    rw [Address.groups, List.map_map]
    exact List.map_congr_left fun o _ => lowerCase_hexByte o
  rw [Address.toList_joinOctets, lowerCase_intercalate, hgroups]

/-- Two hexadecimal digits of either case are an octet, printed. -/
theorem exists_octet_of_isOctetGroup {group : List Char} (h : isOctetGroup group = true) :
    ∃ o : UInt8, lowerCase group = (Text.hexByte o).toList := by
  simp only [isOctetGroup, Bool.and_eq_true, beq_iff_eq] at h
  obtain ⟨hlength, hdigits⟩ := h
  obtain ⟨a, b, rfl⟩ := List.length_eq_two.mp hlength
  simp only [List.all_cons, List.all_nil, Bool.and_true, Bool.and_eq_true] at hdigits
  obtain ⟨x, hx⟩ := Option.isSome_iff_exists.mp hdigits.1
  obtain ⟨y, hy⟩ := Option.isSome_iff_exists.mp hdigits.2
  exact ⟨UInt8.ofNat (x * 16 + y), (Address.toList_hexByte_ofNat hx hy).symm⟩

/-- An address in lower case is three or six octets, printed. -/
theorem exists_octets_of_isAddress {cs : List Char} (h : isAddress cs = true) :
    ∃ octets : List UInt8, (octets.length = 3 ∨ octets.length = 6) ∧
      lowerCase cs = (Address.joinOctets ":" octets).toList := by
  have hgroups : ∀ pieces : List (List Char), pieces.all isOctetGroup = true →
      ∃ octets : List UInt8, pieces.map lowerCase = Address.groups octets := by
    intro pieces hpieces
    induction pieces with
    | nil => exact ⟨[], rfl⟩
    | cons piece pieces ih =>
        simp only [List.all_cons, Bool.and_eq_true] at hpieces
        obtain ⟨o, ho⟩ := exists_octet_of_isOctetGroup hpieces.1
        obtain ⟨octets, hoctets⟩ := ih hpieces.2
        exact ⟨o :: octets, by rw [List.map_cons, ho, hoctets]; rfl⟩
  simp only [isAddress, Bool.and_eq_true, Bool.or_eq_true, beq_iff_eq] at h
  obtain ⟨hcount, hall⟩ := h
  obtain ⟨octets, hoctets⟩ := hgroups _ hall
  have hlength : (Address.colonPieces cs).length = octets.length := by
    have hlengths := congrArg List.length hoctets
    simpa [Address.groups] using hlengths
  refine ⟨octets, hlength ▸ hcount, ?_⟩
  rw [Address.toList_joinOctets, ← hoctets, ← lowerCase_intercalate]
  exact congrArg lowerCase (Text.intercalate_splitBy ':' cs).symm

/-- What is found in a line is three or six octets, printed. -/
theorem exists_octets_of_findAddress? {line address : List Char}
    (h : findAddress? line = some address) :
    ∃ octets : List UInt8, (octets.length = 3 ∨ octets.length = 6) ∧
      address = (Address.joinOctets ":" octets).toList := by
  obtain ⟨word, hword, rfl⟩ := Option.map_eq_some_iff.mp h
  exact exists_octets_of_isAddress (List.find?_some hword)

/-- A fragment belongs to an address if its octets are the last ones of the address. -/
theorem addressMatches_joinOctets {octets fragment : List UInt8} (hoctets : octets ≠ [])
    (hfragment : fragment ≠ []) :
    addressMatches (Address.joinOctets ":" octets).toList
        (Address.joinOctets ":" fragment).toList = true ↔ fragment <:+ octets := by
  unfold addressMatches
  simp only [lowerCase_joinOctets, Bool.or_eq_true, beq_iff_eq, List.isSuffixOf_iff_suffix]
  rw [← Address.colonPieces_suffix_iff, Address.colonPieces_joinOctets hoctets,
    Address.colonPieces_joinOctets hfragment]
  exact Address.groups_suffix_iff

end Status

end TtpConformance
