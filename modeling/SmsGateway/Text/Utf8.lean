namespace SmsGateway.Text

def bytes (s : String) : List UInt8 :=
  s.toUTF8.data.toList

/-- The text of some bytes, if they are well-formed UTF-8. -/
def ofBytes? (bs : List UInt8) : Option String :=
  String.fromUTF8? ⟨bs.toArray⟩

def replacement : Char := '\uFFFD'

def isContinuation (b : UInt8) : Bool :=
  0x80 ≤ b && b ≤ 0xBF

/-- The bytes that may follow a first byte, and how many continuations come after that one. -/
def secondByte (b : UInt8) : Option ((UInt8 → Bool) × Nat) :=
  if 0xC2 ≤ b && b ≤ 0xDF then some (isContinuation, 0)
  else if b == 0xE0 then some (fun c => 0xA0 ≤ c && c ≤ 0xBF, 1)
  else if b == 0xED then some (fun c => 0x80 ≤ c && c ≤ 0x9F, 1)
  else if 0xE1 ≤ b && b ≤ 0xEF then some (isContinuation, 1)
  else if b == 0xF0 then some (fun c => 0x90 ≤ c && c ≤ 0xBF, 2)
  else if 0xF1 ≤ b && b ≤ 0xF3 then some (isContinuation, 2)
  else if b == 0xF4 then some (fun c => 0x80 ≤ c && c ≤ 0x8F, 2)
  else none

def extend (n : Nat) (b : UInt8) : Nat :=
  n * 64 + b.toNat % 64

/-- Takes `count` more continuations, or stops before the first byte that is none. -/
def takeContinuations : Nat → Nat → List UInt8 → Char × List UInt8
  | 0, n, rest => (Char.ofNat n, rest)
  | count + 1, n, b :: rest =>
      if isContinuation b then takeContinuations count (extend n b) rest
      else (replacement, b :: rest)
  | _ + 1, _, [] => (replacement, [])

theorem takeContinuations_length (count n : Nat) (bs : List UInt8) :
    (takeContinuations count n bs).2.length ≤ bs.length := by
  induction count generalizing n bs with
  | zero => simp [takeContinuations]
  | succ count ih =>
      cases bs with
      | nil => simp [takeContinuations]
      | cons b rest =>
          rw [takeContinuations]
          split
          · exact Nat.le_succ_of_le (ih _ _)
          · simp

/-- The payload bits of a first byte that `following` continuations come after. -/
def leadBits (b : UInt8) (following : Nat) : Nat :=
  b.toNat % Nat.pow 2 (6 - following)

/-- The character that starts with a byte, and what is left. -/
def nextLossy (b : UInt8) (rest : List UInt8) : Char × List UInt8 :=
  if b < 0x80 then (Char.ofNat b.toNat, rest)
  else
    match secondByte b, rest with
    | some (allowed, count), c :: rest' =>
        if allowed c then takeContinuations count (extend (leadBits b (count + 1)) c) rest'
        else (replacement, rest)
    | _, _ => (replacement, rest)

theorem nextLossy_length (b : UInt8) (rest : List UInt8) :
    (nextLossy b rest).2.length ≤ rest.length := by
  unfold nextLossy
  split
  · simp
  · split
    · split
      · exact Nat.le_succ_of_le (takeContinuations_length _ _ _)
      · simp
    · simp

/-- Bytes as text, with `replacement` where they are not well-formed. -/
def decodeLossy : List UInt8 → List Char
  | [] => []
  | b :: rest => (nextLossy b rest).1 :: decodeLossy (nextLossy b rest).2
termination_by bs => bs.length
decreasing_by exact Nat.lt_succ_of_le (nextLossy_length b rest)

end SmsGateway.Text
