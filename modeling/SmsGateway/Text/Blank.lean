namespace SmsGateway.Text

/-- The characters with the Unicode property White_Space. -/
def isBlank (c : Char) : Bool :=
  let n := c.toNat
  (0x09 ≤ n && n ≤ 0x0D) || n == 0x20 || n == 0x85 || n == 0xA0 || n == 0x1680 ||
    (0x2000 ≤ n && n ≤ 0x200A) || n == 0x2028 || n == 0x2029 || n == 0x202F ||
    n == 0x205F || n == 0x3000

def dropBlanks (s : List Char) : List Char :=
  s.dropWhile isBlank

def trim (s : String) : String :=
  String.ofList (dropBlanks (dropBlanks s.toList).reverse).reverse

def isBlankText (s : String) : Bool :=
  s.toList.all isBlank

theorem isBlankText_iff {s : String} :
    isBlankText s = true ↔ ∀ c ∈ s.toList, isBlank c = true := by
  rw [isBlankText, List.all_eq_true]

theorem isBlankText_eq_false_iff {s : String} :
    isBlankText s = false ↔ ∃ c ∈ s.toList, isBlank c = false := by
  rw [isBlankText, List.all_eq_false]
  simp only [Bool.not_eq_true]

theorem dropWhile_eq_nil_iff {p : Char → Bool} {s : List Char} :
    s.dropWhile p = [] ↔ s.all p = true := by
  induction s with
  | nil => simp
  | cons c r ih => by_cases h : p c = true <;> simp_all

theorem trim_eq_empty_iff (s : String) : trim s = "" ↔ isBlankText s = true := by
  have hrev : ∀ l : List Char, l.reverse.all isBlank = l.all isBlank := fun l => by simp
  constructor
  · intro h
    have h' : (dropBlanks (dropBlanks s.toList).reverse).reverse = [] := by
      have := congrArg String.toList h
      simpa [trim] using this
    have h2 : (dropBlanks s.toList).reverse.all isBlank = true := by
      rw [List.reverse_eq_nil_iff] at h'
      exact dropWhile_eq_nil_iff.1 h'
    rw [hrev] at h2
    have h3 : s.toList = s.toList.takeWhile isBlank ++ dropBlanks s.toList :=
      (List.takeWhile_append_dropWhile).symm
    rw [isBlankText, h3, List.all_append, h2, Bool.and_true]
    exact List.all_takeWhile
  · intro h
    have h1 : dropBlanks s.toList = [] := dropWhile_eq_nil_iff.2 h
    rw [trim, h1]
    rfl

end SmsGateway.Text
