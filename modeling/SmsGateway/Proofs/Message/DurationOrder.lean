import SmsGateway.Proofs.Message.SendDuration
import SmsGateway.Proofs.Time.LeapSeconds

namespace SmsGateway

open SmsGateway.Time

namespace Message

theorem toInt_saturated (n : Int) :
    (saturated n).toInt = max (-9223372036854775808) (min 9223372036854775807 n) := by
  rw [saturated]
  exact Int64.toInt_ofInt_of_le (by omega) (by omega)

theorem saturated_mono {a b : Int} (h : a ≤ b) : saturated a ≤ saturated b := by
  rw [Int64.le_iff_toInt_le, toInt_saturated, toInt_saturated]
  omega

theorem saturated_neg_iff {n : Int} : saturated n < 0 ↔ n < 0 := by
  rw [Int64.lt_iff_toInt_lt, toInt_saturated]
  change _ < (0 : Int) ↔ _
  omega

end Message

end SmsGateway
