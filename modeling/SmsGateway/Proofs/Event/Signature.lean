import SmsGateway.Event.Signature
import SmsGateway.Proofs.Http.HeaderText
import SmsGateway.Proofs.Text.Hex

namespace SmsGateway.Signature

theorem foldl_differences_eq_zero_iff {a b : List UInt8} (hlength : a.length = b.length)
    (acc : UInt8) :
    (a.zip b).foldl (fun acc xy => acc ||| (xy.1 ^^^ xy.2)) acc = 0 ↔ acc = 0 ∧ a = b := by
  induction a generalizing b acc with
  | nil =>
      obtain rfl := List.length_eq_zero_iff.mp hlength.symm
      simp
  | cons x a ih =>
      cases b with
      | nil => simp at hlength
      | cons y b =>
          rw [List.zip_cons_cons, List.foldl_cons, ih (Nat.succ.inj hlength), UInt8.or_eq_zero_iff,
            UInt8.xor_eq_zero_iff, List.cons.injEq, and_assoc]

theorem equalBytes_eq_true_iff {a b : List UInt8} : equalBytes a b = true ↔ a = b := by
  rw [equalBytes, Bool.and_eq_true, beq_iff_eq, beq_iff_eq]
  constructor
  · rintro ⟨hlength, hnone⟩
    exact ((foldl_differences_eq_zero_iff hlength 0).mp hnone).2
  · rintro rfl
    exact ⟨rfl, (foldl_differences_eq_zero_iff rfl 0).mpr ⟨rfl, rfl⟩⟩

theorem equalBytes_self (a : List UInt8) : equalBytes a a = true :=
  equalBytes_eq_true_iff.mpr rfl

theorem verify_eq_true_iff {payload : List UInt8} {key signature : String} :
    verify payload key signature = true ↔ signature = sign key payload := by
  rw [verify, equalBytes_eq_true_iff]
  constructor
  · intro h
    exact (Text.bytes_injective h).symm
  · rintro rfl
    rfl

theorem verify_sign (key : String) (payload : List UInt8) :
    verify payload key (sign key payload) = true :=
  verify_eq_true_iff.mpr rfl

theorem isHeaderText_sign (key : String) (payload : List UInt8) :
    Http.IsHeaderText (sign key payload) := by
  have hheading : (heading.toList.all fun c => 0x20 < c.toNat && c.toNat < 0x7F) = true := by
    decide
  apply Http.isHeaderText_of_graphic
  intro c hc
  rw [sign, String.toList_append, String.toList_ofList] at hc
  rcases List.mem_append.mp hc with hc | hc
  · simpa using List.all_eq_true.mp hheading c hc
  · exact (Text.isLowerHexDigit_of_mem_hexBytes hc).bounds

theorem length_octets (count n : Nat) : (Crypto.Sha256.octets count n).length = count := by
  induction count generalizing n with
  | zero => rfl
  | succ count ih => rw [Crypto.Sha256.octets, List.length_append, ih, List.length_singleton]

theorem length_bytes (w : Crypto.Sha256.Words) : w.bytes.length = 32 := by
  simp only [Crypto.Sha256.Words.bytes, Crypto.Sha256.Words.toList, List.flatMap_cons,
    List.flatMap_nil, List.length_append, length_octets, List.length_nil]

/-- A signature spells the authentication code of the payload, whatever the length of the key, and
no other text is accepted in its place. What is compared are octet strings, and exactly. -/
theorem checking_is_exact (payload : List UInt8) (key signature : String) :
    (∃ digits : List Char, sign key payload = "sha256=" ++ String.ofList digits ∧
      digits.length = 64 ∧ (∀ c ∈ digits, Text.IsLowerHexDigit c) ∧
      Text.unhex? digits = some (Crypto.hmac (Text.bytes key) payload).bytes) ∧
    (verify payload key signature = true ↔ signature = sign key payload) ∧
    ∀ a b : List UInt8, equalBytes a b = true ↔ a = b := by
  refine ⟨⟨Text.hexBytes (Crypto.hmac (Text.bytes key) payload).bytes, rfl, ?_, ?_, ?_⟩,
    verify_eq_true_iff, fun a b => equalBytes_eq_true_iff⟩
  · rw [Text.length_hexBytes, length_bytes]
  · intro c hc
    exact Text.isLowerHexDigit_of_mem_hexBytes hc
  · exact Text.unhex?_hexBytes _

end SmsGateway.Signature
