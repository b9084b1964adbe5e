import Mathlib.Data.List.Basic
import TtpConformance.Address.Ipv4
import TtpConformance.Proofs.Text.Numeral
import TtpConformance.Proofs.Text.Words

/-!
# Printed prefixes are read back

An address is printed as four octets in decimal with points between them, and a prefix as its
address and its length with a slash between them.  Digits are neither points nor slashes, so
the parts are found again.  An octet is printed without a zero in front and with at most three
digits, as it has to be to be read; a length has no points in it, so it is not taken for a
netmask.

## Main statements

* `Ipv4.parse?_text` — an address is read back.
* `Ipv4Network.parse_text` — a prefix is read back.
-/

namespace TtpConformance

/-! ## Addresses -/

namespace Ipv4

theorem octet?_digits (o : UInt8) : octet? (Text.digits o.toNat) = some o := by
  have hlt : o.toNat < 256 := o.toNat_lt
  have hlength : (Text.digits o.toNat).length ≤ 3 :=
    Text.length_digits_le (by decide) (Nat.lt_trans hlt (by decide))
  have hhead : (Text.digits o.toNat).head? ≠ some '0' ∨ (Text.digits o.toNat).length = 1 := by
    by_cases hzero : o.toNat = 0
    · exact .inr (by rw [hzero, Text.digits]; rfl)
    · exact .inl (Text.head?_digits_ne_zero (Nat.pos_of_ne_zero hzero))
  have hdigits : (Text.digits o.toNat).all Text.isDigit = true :=
    List.all_eq_true.mpr fun c hc => Text.isDigit_of_mem_digits hc
  rw [octet?, if_pos ⟨hlength, hhead, hdigits⟩, Text.readNat_digits (Nat.le_of_lt_succ hlt)]
  simp only [UInt8.ofNat_toNat]

/-- The octets of an address as they are printed. -/
def pieces (ip : Ipv4) : List (List Char) :=
  [ip.a, ip.b, ip.c, ip.d].map fun o => Text.digits o.toNat

theorem toList_text (ip : Ipv4) : ip.text.toList = ['.'].intercalate ip.pieces := by
  have hdigits : (fun o : UInt8 => (Text.decimal o.toNat).toList) = fun o => Text.digits o.toNat :=
    funext fun _ => String.toList_ofList
  rw [text, String.toList_intercalate, List.map_map, Function.comp_def, hdigits]
  rfl

theorem isDigit_of_mem_pieces {ip : Ipv4} {piece : List Char} (h : piece ∈ ip.pieces) :
    ∀ c ∈ piece, Text.isDigit c = true := by
  obtain ⟨o, -, rfl⟩ := List.mem_map.mp h
  exact fun c hc => Text.isDigit_of_mem_digits hc

/-- An address is printed with digits and points. -/
theorem mem_text_cases {ip : Ipv4} {c : Char} (h : c ∈ ip.text.toList) :
    c = '.' ∨ Text.isDigit c = true := by
  rw [toList_text] at h
  obtain hpoint | ⟨piece, hpiece, hc⟩ := Text.mem_intercalate_cases h
  · exact .inl hpoint
  · exact .inr (isDigit_of_mem_pieces hpiece c hc)

theorem not_mem_text {c : Char} (hpoint : c ≠ '.') (hdigit : Text.isDigit c = false) (ip : Ipv4) :
    c ∉ ip.text.toList := fun hmem =>
  (mem_text_cases hmem).elim hpoint fun h => Bool.false_ne_true (hdigit.symm.trans h)

/-- An address is read back as it is printed. -/
theorem parse?_text (ip : Ipv4) : parse? ip.text.toList = some ip := by
  have hpoint : ∀ piece ∈ ip.pieces, '.' ∉ piece := fun piece hpiece =>
    Text.not_mem_of_forall rfl (isDigit_of_mem_pieces hpiece)
  have hread : ip.pieces.mapM octet? = some [ip.a, ip.b, ip.c, ip.d] := by
    simp [pieces, octet?_digits]
  rw [parse?, toList_text, Text.splitBy_intercalate hpoint (List.cons_ne_nil _ _), hread]

/-- A text without points is no address. -/
theorem parse?_eq_none {cs : List Char} (h : '.' ∉ cs) : parse? cs = none := by
  have hpieces : Text.splitBy (· == '.') cs = [cs] :=
    Text.splitBy_eq_singleton fun c hc => beq_false_of_ne fun heq => h (heq ▸ hc)
  rw [parse?, hpieces]
  cases hread : octet? cs <;> simp [hread]

end Ipv4

/-! ## Prefixes -/

namespace Ipv4Network

theorem readLength_digits {n : Nat} (h : n ≤ 32) : readLength (Text.digits n) = .ok n := by
  rw [readLength, Ipv4.parse?_eq_none (Text.not_mem_digits rfl n)]
  simp only [Text.readNat_digits (Nat.le_trans h (by decide : 32 ≤ 255))]

/-- A prefix is read back as it is printed. -/
theorem parse_text (n : Ipv4Network) : parse n.text = .ok n := by
  have hfront : '/' ∉ n.address.text.toList := Ipv4.not_mem_text (by decide) rfl n.address
  have hback : (Text.digits n.length).contains '/' = false := by
    rw [List.contains_eq_mem, decide_eq_false (Text.not_mem_digits rfl n.length)]
  have hcut : Text.cutAt '/' n.text.toList =
      some (n.address.text.toList, Text.digits n.length) :=
    Text.cutAt_eq_some_iff.mpr ⟨by simp [text, Text.decimal], hfront⟩
  have hlength : ofLength n.address n.length = .ok n := dif_pos n.length_le
  simp only [parse, hcut, Option.getD_some, hback, Bool.false_eq_true, if_false, Ipv4.parse?_text,
    readLength_digits n.length_le, hlength]

end Ipv4Network

end TtpConformance
