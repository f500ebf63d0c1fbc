import SmsGateway.Proofs.Message.Convergence
import SmsGateway.Proofs.Time.Elapsed

namespace SmsGateway

open SmsGateway.Time

namespace Tiding

/-- The time of a message that is told to have been sent. -/
def sentAt? : Tiding → Option Instant
  | .made (.sent time) | .reported .sent time _ => some time
  | _ => none

/-- The time of a message that is told to have been delivered. -/
def deliveredAt? : Tiding → Option Instant
  | .made (.delivered time) | .reported .delivered time _ => some time
  | _ => none

end Tiding

/-- When a message was sent, by the last tiding that tells. -/
def lastSent? (tidings : List (Instant × Tiding)) : Option Instant :=
  tidings.reverse.findSome? fun x => x.2.sentAt?

/-- When a message was delivered, by the first tiding that tells. -/
def firstDelivered? (tidings : List (Instant × Tiding)) : Option Instant :=
  tidings.findSome? fun x => x.2.deliveredAt?

/-- A 64-bit number is a number where that fits, and otherwise the limit on its side. -/
structure Saturates (n : Int) (x : Int64) : Prop where
  exact : Int64.minValue.toInt ≤ n → n ≤ Int64.maxValue.toInt → x.toInt = n
  below : n < Int64.minValue.toInt → x = Int64.minValue
  above : Int64.maxValue.toInt < n → x = Int64.maxValue

namespace Message

theorem saturates_saturated (n : Int) : Saturates n (saturated n) := by
  rw [saturated]
  constructor
  · intro hlow hhigh
    rw [Int64.toInt_minValue] at hlow
    rw [Int64.toInt_maxValue] at hhigh
    rw [min_eq_right (by omega), max_eq_right (by omega)]
    exact Int64.toInt_ofInt_of_le hlow (by omega)
  · intro hbelow
    rw [Int64.toInt_minValue] at hbelow
    rw [min_eq_right (by omega), max_eq_left (by omega)]
    rfl
  · intro habove
    rw [Int64.toInt_maxValue] at habove
    rw [min_eq_left (by omega), max_eq_right (by decide)]
    rfl

/-- The nearest number in 64 bits is the checked one, or the limit on the side of the sign. -/
theorem saturated_eq_getD (n : Int) :
    saturated n = (nanos64? n).getD (if n < 0 then Int64.minValue else Int64.maxValue) := by
  obtain ⟨hexact, hbelow, habove⟩ := saturates_saturated n
  have hnegative : Int64.minValue.toInt < 0 := by decide
  have hpositive : 0 < Int64.maxValue.toInt := by decide
  rw [nanos64?_eq]
  rcases hchecked : checked64 n with _ | x
  · rw [Option.getD_none]
    rcases checked64_eq_none_iff.mp hchecked with h | h
    · rw [hbelow h, if_pos (by omega)]
    · rw [habove h, if_neg (by omega)]
  · obtain ⟨hlow, hhigh⟩ : Int64.minValue.toInt ≤ n ∧ n ≤ Int64.maxValue.toInt := by
      by_contra hbeyond
      rw [checked64_eq_none_iff.mpr (by omega)] at hchecked
      cases hchecked
    rw [Option.getD_some, ← Int64.toInt_inj, hexact hlow hhigh, toInt_of_checked64 hchecked]

theorem sinceRequest_apply (m : Message) (now : Instant) (t : Transition) :
    (m.apply now t).sinceRequest = m.sinceRequest := by
  cases t <;> rfl

theorem sendDuration_apply (m : Message) (now : Instant) (tiding : Tiding) :
    (m.apply now tiding.transition).sendDuration =
      (tiding.sentAt?.map m.sinceRequest).or
        (m.sendDuration.or (tiding.deliveredAt?.map m.sinceRequest)) := by
  have hkept : m.sendDuration = Option.or none (m.sendDuration.or none) := by simp
  have hfilled : ∀ time, some (m.sendDuration.getD (m.sinceRequest time)) =
      Option.or none (m.sendDuration.or (some (m.sinceRequest time))) := by
    intro time
    cases m.sendDuration <;> rfl
  rcases tiding with t | ⟨name, time, reason⟩
  · cases t with
    | sent time => rfl
    | delivered time => exact hfilled time
    | _ => exact hkept
  · cases name with
    | sent => rfl
    | delivered => exact hfilled time
    | failed => exact hkept

theorem sendDuration_hear (m : Message) (tidings : List (Instant × Tiding)) :
    (m.hear tidings).sendDuration =
      ((lastSent? tidings).map m.sinceRequest).or
        (m.sendDuration.or ((firstDelivered? tidings).map m.sinceRequest)) := by
  induction tidings generalizing m with
  | nil => simp [hear, run, lastSent?, firstDelivered?]
  | cons x tidings ih =>
      have hsent : lastSent? (x :: tidings) = (lastSent? tidings).or x.2.sentAt? := by
        rw [lastSent?, lastSent?, List.reverse_cons, List.findSome?_append]
        simp
      have hdelivered : firstDelivered? (x :: tidings) =
          x.2.deliveredAt?.or (firstDelivered? tidings) := by
        rw [firstDelivered?, List.findSome?_cons]
        cases x.2.deliveredAt? <;> rfl
      change ((m.apply x.1 x.2.transition).hear tidings).sendDuration = _
      rw [ih, sinceRequest_apply, sendDuration_apply, hsent, hdelivered, Option.map_or,
        Option.map_or, Option.or_assoc, Option.or_assoc, Option.or_assoc]

/-- After any run the send duration is counted to the last time that the message was sent; failing
that it is what it was before, and failing that it is counted to the first time that the message was
delivered. Leap seconds apart, what is counted is the difference of the two times in nanoseconds, or
the limit on its side where that leaves the 64 bits. Neither the difference nor any step of its
conversion overflows. -/
theorem sendDuration_follows_reports (m : Message) (tidings : List (Instant × Tiding)) :
    (m.hear tidings).sendDuration =
        ((lastSent? tidings).map m.sinceRequest).or
          (m.sendDuration.or ((firstDelivered? tidings).map m.sinceRequest)) ∧
      ∀ time, time.isLeap = false → m.requestReceivedAt.isLeap = false →
        let difference := time.ticks - m.requestReceivedAt.ticks
        (-9223372036854775807 * 1000000 ≤ difference ∧
          difference ≤ 9223372036854775807 * 1000000) ∧
        m.sinceRequest time =
          (nanos64? difference).getD (if difference < 0 then Int64.minValue else Int64.maxValue) ∧
        Saturates difference (m.sinceRequest time) := by
  refine ⟨sendDuration_hear m tidings, ?_⟩
  intro time htime hrequest difference
  have helapsed : time.elapsed m.requestReceivedAt = difference :=
    Instant.elapsed_eq_sub htime hrequest
  rw [sinceRequest, helapsed]
  refine ⟨?_, saturated_eq_getD difference, saturates_saturated difference⟩
  rw [← helapsed]
  exact Instant.elapsed_bounds time m.requestReceivedAt

theorem sendDuration_follows_reports_extremes :
    let start : Instant := ⟨⟨1970, 1, 1, by decide, by decide⟩, 0, 0, by decide, by decide⟩
    let late (nano : Fin 1000000000) : Instant :=
      ⟨⟨2262, 4, 11, by decide, by decide⟩, 85636, nano, by decide,
        nano.isLt.trans (by decide)⟩
    let early (nano : Fin 1000000000) : Instant :=
      ⟨⟨1677, 9, 21, by decide, by decide⟩, 763, nano, by decide, nano.isLt.trans (by decide)⟩
    let m := outbound ⟨List.replicate 16 0, rfl⟩ "+18005550199" "+18005550100" "hello" "user-1" start
    let deliveries : List (Instant × Tiding) :=
      [(start, .reported .delivered (early 145224193) none), (start, .made .countAttempt),
        (start, .made (.delivered (late 0)))]
    let reports : List (Instant × Tiding) :=
      [(start, .made (.delivered (early 0))), (start, .made (.sent (late 0))),
        (start, .reported .sent (late 854775806) none),
        (start, .made (.delivered (late 854775808)))]
    start.isLeap = false ∧ (∀ nano, (late nano).isLeap = false) ∧
      (∀ nano, (early nano).isLeap = false) ∧
      (m.hear deliveries).sendDuration = some (-9223372036854775807) ∧
      (m.hear reports).sendDuration = some 9223372036854775806 ∧
      (m.sinceRequest (early 145224192)).toInt = -9223372036854775808 ∧
      (m.sinceRequest (late 854775807)).toInt = 9223372036854775807 ∧
      m.sinceRequest (early 145224191) = Int64.minValue ∧
      m.sinceRequest (late 854775808) = Int64.maxValue := by
  intro start late early m deliveries reports
  have hlate : ∀ nano, (late nano).isLeap = false := by
    intro nano
    exact decide_eq_false (Nat.not_le_of_lt nano.isLt)
  have hearly : ∀ nano, (early nano).isLeap = false := by
    intro nano
    exact decide_eq_false (Nat.not_le_of_lt nano.isLt)
  obtain ⟨hdeliveries, hcount⟩ := sendDuration_follows_reports m deliveries
  obtain ⟨hreports, -⟩ := sendDuration_follows_reports m reports
  obtain ⟨-, -, hfirst⟩ := hcount (early 145224192) (hearly _) rfl
  obtain ⟨-, -, hlast⟩ := hcount (late 854775807) (hlate _) rfl
  obtain ⟨-, -, hbefore⟩ := hcount (early 145224191) (hearly _) rfl
  obtain ⟨-, -, hafter⟩ := hcount (late 854775808) (hlate _) rfl
  refine ⟨rfl, hlate, hearly, ?_, ?_, ?_, ?_, ?_, ?_⟩
  · rw [hdeliveries]
    decide +kernel
  · rw [hreports]
    decide +kernel
  · exact (hfirst.exact (by decide +kernel) (by decide +kernel)).trans (by decide +kernel)
  · exact (hlast.exact (by decide +kernel) (by decide +kernel)).trans (by decide +kernel)
  · exact hbefore.below (by decide +kernel)
  · exact hafter.above (by decide +kernel)

end Message

end SmsGateway
