import SmsGateway.Proofs.Time.Digits

namespace SmsGateway.Time

open SmsGateway.Text

/-- Whether some text is read as an instant. -/
def Instant.IsReadable (t : Instant) : Prop :=
  ∃ s, Instant.ofText? s = some t

theorem readPair_padded {n : Nat} (h : n < 100) (s : List Char) :
    readPair (padded 2 n ++ s) = some (n, s) := by
  have hread := readDigits_padded (s := s) (by omega : 0 < 2) h (Nat.le_refl 2) (.inl rfl)
  rw [readPair, dropBlanks_padded, hread]
  rfl

theorem readMark_cons {c : Char} (h : isBlank c = false) (s : List Char) :
    readMark c (c :: s) = some s := by
  rw [readMark, dropBlanks_cons h]
  exact if_pos rfl

theorem readYear_signed {c : Char} (hc : c = '-' ∨ c = '+') (width n : Nat) {s : List Char}
    (hs : EndsDigits s) :
    readYear (c :: (padded width n ++ s)) = some (if c = '-' then -(n : Int) else n, s) := by
  have hread := readDigits_append (s := s) (fun c => isDigit_of_mem_padded)
    (padded_ne_nil width n) (by simp : _ ≤ (padded width n ++ s).length) (.inr hs)
  rw [ofDigitChars_padded] at hread
  rcases hc with rfl | rfl
  · rw [readYear, dropBlanks_cons (by decide)]
    simp only [hread]
    rfl
  · rw [readYear, dropBlanks_cons (by decide)]
    simp only [hread]
    rfl

theorem readYear_padded {n : Nat} (h : n < 10000) (s : List Char) :
    readYear (padded 4 n ++ s) = some ((n : Int), s) := by
  have hread := readDigits_padded (s := s) (by omega : 0 < 4) h (Nat.le_refl 4) (.inl rfl)
  have hhead : ∀ c ∈ (padded 4 n ++ s).head?, c.isDigit = true := by
    intro c hc
    cases hpadded : padded 4 n with
    | nil => exact absurd hpadded (padded_ne_nil 4 n)
    | cons d ds =>
        obtain rfl : d = c := by simpa [hpadded] using hc
        exact isDigit_of_mem_padded (by rw [hpadded]; simp)
  rw [readYear, dropBlanks_padded]
  split
  · next heq =>
      have := hhead '-' (by rw [heq]; rfl)
      simp at this
  · next heq =>
      have := hhead '+' (by rw [heq]; rfl)
      simp at this
  · rw [hread]
    rfl

theorem readYear_yearChars (year : Int) {s : List Char} (hs : EndsDigits s) :
    readYear (yearChars year ++ s) = some (year, s) := by
  rw [yearChars]
  split
  · next h =>
      have hyear : (year.toNat : Int) = year := by omega
      rw [readYear_padded (by omega), hyear]
  · split
    · next h =>
        have hyear : -(year.natAbs : Int) = year := by omega
        rw [List.cons_append, readYear_signed (.inl rfl) 4 year.natAbs hs, if_pos rfl, hyear]
    · next h =>
        have hyear : (year.natAbs : Int) = year := by omega
        rw [List.cons_append, readYear_signed (.inr rfl) 4 year.natAbs hs, if_neg (by decide), hyear]

theorem readDate_chars (year : Int) {month day : Nat} (hmonth : month < 100) (hday : day < 100)
    (s : List Char) :
    readDate (yearChars year ++ '-' :: (padded 2 month ++ '-' :: (padded 2 day ++ s))) =
      some ((year, month, day), s) := by
  simp only [readDate, readYear_yearChars year (endsDigits_cons (by decide : '-'.isDigit = false) _),
    readMark_cons (by decide : isBlank '-' = false), readPair_padded hmonth, readPair_padded hday,
    bind, Option.bind_some, pure]

theorem readFraction_padded {width n : Nat} (hwidth : 0 < width) (hmost : width ≤ 9)
    (h : n < 10 ^ width) {s : List Char} (hs : EndsDigits s) :
    readFraction ('.' :: (padded width n ++ s)) = some (n * Nat.pow 10 (9 - width), s) := by
  simp only [readFraction, readDigits_padded hwidth h hmost (.inr hs), Option.map_some,
    dropWhile_of_head? hs]

theorem readFraction_fractionChars {nano : Nat} (h : nano < secondNanos) {s : List Char}
    (hs : EndsDigits s) (hpoint : s.head? ≠ some '.') :
    readFraction (fractionChars nano ++ s) = some (nano, s) := by
  have hbound : nano < 1000000000 := h
  rw [fractionChars]
  split
  · next hzero =>
      rw [List.nil_append, hzero, readFraction]
      rintro rest rfl
      exact hpoint rfl
  · split
    · rw [List.cons_append, readFraction_padded (by omega) (by omega) (by omega) hs]
      congr 2
      change nano / 1000000 * 1000000 = nano
      omega
    · split
      · rw [List.cons_append, readFraction_padded (by omega) (by omega) (by omega) hs]
        congr 2
        change nano / 1000 * 1000 = nano
        omega
      · rw [List.cons_append, readFraction_padded (by omega) (by omega) (by omega) hs]
        congr 2
        change nano * 1 = nano
        omega

theorem readTime_chars {hour minute second nano : Nat} (hhour : hour < 100) (hminute : minute < 100)
    (hsecond : second < 100) (hnano : nano < secondNanos) (s : List Char) :
    readTime (padded 2 hour ++ ':' :: (padded 2 minute ++ ':' ::
        (padded 2 second ++ (fractionChars nano ++ 'Z' :: s)))) =
      some ((hour, minute, second, nano), 'Z' :: s) := by
  have hfraction : readFraction (fractionChars nano ++ 'Z' :: s) = some (nano, 'Z' :: s) :=
    readFraction_fractionChars hnano (endsDigits_cons (by decide) s) (by simp)
  simp only [readTime, readPair_padded hhour, readPair_padded hminute, readPair_padded hsecond,
    readMark_cons (by decide : isBlank ':' = false), hfraction,
    dropBlanks_cons (by decide : isBlank 'Z' = false), bind, Option.bind_some, pure]

theorem timeOfDay?_clock {second nano : Nat} (hsecond : second < daySeconds)
    (hnano : nano < 2 * secondNanos) (hleap : secondNanos ≤ nano → second % 60 = 59) :
    timeOfDay? (second / 3600) (second / 60 % 60) (second % 60 + nano / secondNanos)
      (nano % secondNanos) = some (second, nano) := by
  simp only [daySeconds, secondNanos] at *
  rw [timeOfDay?]
  by_cases h : 1000000000 ≤ nano
  · have hlast := hleap h
    rw [if_pos (by omega), if_pos (by omega)]
    congr 2
    · omega
    · simp only [secondNanos]
      omega
  · rw [if_pos (by omega), if_neg (by omega)]
    congr 2 <;> omega

theorem daysInMonth_le (year : Int) (month : Nat) : daysInMonth year month ≤ 31 := by
  unfold daysInMonth
  repeat' split
  all_goals omega

theorem month_le (d : Date) : d.month ≤ 12 := by
  refine Nat.le_of_not_lt fun h => ?_
  have hmem := d.day_mem
  have hnone : daysInMonth d.year d.month = 0 := by
    unfold daysInMonth
    split <;> omega
  omega

theorem ofParts?_self (d : Date) : Date.ofParts? d.year d.month d.day = some d := by
  rw [Date.ofParts?, dif_pos d.year_mem, dif_pos d.day_mem]

theorem ofLocal?_zero (t : Instant) : Instant.ofLocal? t.date t.second t.nano 0 = some t := by
  have hsecond := t.second_lt
  have hshifted : ¬ (daySeconds : Int) ≤ (t.second : Int) - 0 := by omega
  have hmod : (((t.second : Int) - 0) % (daySeconds : Int)).toNat = t.second := by
    simp only [daySeconds] at *
    omega
  rw [Instant.ofLocal?]
  dsimp only
  rw [if_neg (by omega), if_neg hshifted]
  simp only [hmod, dif_pos (And.intro hsecond t.nano_lt)]

theorem ofChars?_chars {t : Instant} (hleap : secondNanos ≤ t.nano → t.second % 60 = 59) :
    Instant.ofChars? t.chars = some t := by
  have hday := daysInMonth_le t.date.year t.date.month
  have hmem := t.date.day_mem
  have hmonth := month_le t.date
  have hsecond := t.second_lt
  have hnano := t.nano_lt
  have hdate := readDate_chars t.date.year (by omega : t.date.month < 100)
    (by omega : t.date.day < 100)
  have htime := readTime_chars (by simp only [daySeconds] at *; omega : t.second / 3600 < 100)
    (by omega : t.second / 60 % 60 < 100)
    (by simp only [secondNanos] at *; omega : t.second % 60 + t.nano / secondNanos < 100)
    (Nat.mod_lt t.nano (by decide : 0 < secondNanos))
  have hend : ¬ (dropBlanks [] ≠ [] ∨ daySeconds ≤ Int.natAbs 0) := by decide
  simp only [Instant.ofChars?, Instant.chars, Instant.localChars, List.append_assoc,
    List.cons_append, hdate, htime, bind, Option.bind_some, true_or, if_true, readOffset,
    if_neg hend, ofParts?_self, timeOfDay?_clock hsecond hnano hleap]
  exact ofLocal?_zero t

theorem lt_of_readDigits {most n count : Nat} {s rest : List Char}
    (h : readDigits most s = some ((n, count), rest)) : n < 10 ^ count ∧ count ≤ most := by
  unfold readDigits at h
  dsimp only at h
  split at h
  · simp at h
  · obtain ⟨hread, -⟩ := Prod.mk.inj (Option.some.inj h)
    obtain ⟨rfl, rfl⟩ := Prod.mk.inj hread
    constructor
    · have hdigits : ∀ c ∈ (s.take most).takeWhile Char.isDigit, c.isDigit = true :=
        List.all_eq_true.mp List.all_takeWhile
      have hlt := ofDigitChars_lt hdigits 0
      omega
    · calc ((s.take most).takeWhile Char.isDigit).length
          ≤ (s.take most).length := (List.takeWhile_prefix _).length_le
        _ ≤ most := by
          rw [List.length_take]
          omega

theorem lt_of_readFraction {s rest : List Char} {nano : Nat}
    (h : readFraction s = some (nano, rest)) : nano < secondNanos := by
  unfold readFraction at h
  split at h
  · obtain ⟨⟨⟨n, count⟩, rest'⟩, hread, heq⟩ := Option.map_eq_some_iff.mp h
    obtain ⟨rfl, -⟩ := Prod.mk.inj heq
    obtain ⟨hlt, hcount⟩ := lt_of_readDigits hread
    calc n * 10 ^ (9 - count) < 10 ^ count * 10 ^ (9 - count) :=
          Nat.mul_lt_mul_of_pos_right hlt (Nat.pow_pos (by omega))
      _ = 10 ^ 9 := by rw [← Nat.pow_add, Nat.add_sub_cancel' hcount]
      _ = secondNanos := rfl
  · obtain ⟨rfl, -⟩ := Prod.mk.inj (Option.some.inj h)
    decide

theorem readOffsetSize_mod {s rest : List Char} {n : Nat}
    (h : readOffsetSize s = some (n, rest)) : n % 60 = 0 := by
  unfold readOffsetSize at h
  split at h
  · split at h
    · split at h
      · obtain ⟨rfl, -⟩ := Prod.mk.inj (Option.some.inj h)
        omega
      · simp at h
    · simp at h
  · simp at h

theorem signedOffset_mod {s rest : List Char} {offset : Int} {sign : Nat → Int}
    (hsign : ∀ n, n % 60 = 0 → sign n % 60 = 0)
    (h : ((readOffsetSize s).map fun x => (sign x.1, x.2)) = some (offset, rest)) :
    offset % 60 = 0 := by
  obtain ⟨⟨n, rest'⟩, hread, heq⟩ := Option.map_eq_some_iff.mp h
  obtain ⟨rfl, -⟩ := Prod.mk.inj heq
  exact hsign n (readOffsetSize_mod hread)

theorem readOffset_mod {s rest : List Char} {offset : Int}
    (h : readOffset s = some (offset, rest)) : offset % 60 = 0 := by
  have hahead : ∀ n : Nat, n % 60 = 0 → (n : Int) % 60 = 0 := by omega
  have hbehind : ∀ n : Nat, n % 60 = 0 → -(n : Int) % 60 = 0 := by omega
  unfold readOffset at h
  split at h
  · obtain ⟨rfl, -⟩ := Prod.mk.inj (Option.some.inj h)
    rfl
  · obtain ⟨rfl, -⟩ := Prod.mk.inj (Option.some.inj h)
    rfl
  · exact signedOffset_mod hahead h
  · exact signedOffset_mod hbehind h
  · exact signedOffset_mod hbehind h
  · split at h
    · obtain ⟨rfl, -⟩ := Prod.mk.inj (Option.some.inj h)
      rfl
    · simp at h
  · simp at h

theorem lt_of_readTime {s rest : List Char} {hour minute second nano : Nat}
    (h : readTime s = some ((hour, minute, second, nano), rest)) : nano < secondNanos := by
  simp only [readTime, bind, pure, Option.bind_eq_some_iff, Option.some.injEq, Prod.mk.injEq,
    Prod.exists] at h
  obtain ⟨_, _, _, _, _, _, _, _, _, _, _, _, _, _, _, hfraction, ⟨_, _, _, rfl⟩, _⟩ := h
  exact lt_of_readFraction hfraction

theorem mod_of_timeOfDay? {hour minute second nano total nano' : Nat} (hnano : nano < secondNanos)
    (h : timeOfDay? hour minute second nano = some (total, nano')) (hleap : secondNanos ≤ nano') :
    total % 60 = 59 := by
  unfold timeOfDay? at h
  split at h
  · split at h
    · obtain ⟨rfl, -⟩ := Prod.mk.inj (Option.some.inj h)
      omega
    · obtain ⟨-, rfl⟩ := Prod.mk.inj (Option.some.inj h)
      omega
  · simp at h

theorem second_of_ofLocal? {date : Date} {second nano : Nat} {offset : Int} {t : Instant}
    (h : Instant.ofLocal? date second nano offset = some t) :
    t.second = (((second : Int) - offset) % (daySeconds : Int)).toNat ∧ t.nano = nano := by
  unfold Instant.ofLocal? at h
  dsimp only at h
  split at h
  · simp at h
  · split at h
    · obtain rfl := Option.some.inj h
      exact ⟨rfl, rfl⟩
    · simp at h

theorem Instant.IsReadable.second_mod {t : Instant} (h : t.IsReadable)
    (hleap : secondNanos ≤ t.nano) : t.second % 60 = 59 := by
  obtain ⟨s, hs⟩ := h
  unfold Instant.ofText? Instant.ofChars? at hs
  simp only [bind, Option.bind_eq_some_iff, Prod.exists] at hs
  obtain ⟨year, month, day, rest, -, hs⟩ := hs
  split at hs
  · split at hs
    · simp only [Option.bind_some, Option.bind_eq_some_iff, Prod.exists] at hs
      obtain ⟨hour, minute, second, nano, left, htime, offset, left', hoffset, hs⟩ := hs
      split at hs
      · simp at hs
      · simp only [Option.bind_eq_some_iff, Prod.exists] at hs
        obtain ⟨date, -, total, nano', hclock, hlocal⟩ := hs
        obtain ⟨hsecond, rfl⟩ := second_of_ofLocal? hlocal
        have htotal := mod_of_timeOfDay? (lt_of_readTime htime) hclock hleap
        have hminutes := readOffset_mod hoffset
        rw [hsecond]
        simp only [daySeconds]
        omega
    · simp at hs
  · simp at hs

theorem ofText?_text {t : Instant} (h : t.IsReadable) : Instant.ofText? t.text = some t := by
  rw [Instant.ofText?, Instant.text, String.toList_ofList]
  exact ofChars?_chars h.second_mod

end SmsGateway.Time
