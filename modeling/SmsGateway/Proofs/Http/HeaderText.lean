import SmsGateway.Http.Head
import SmsGateway.Proofs.Text.Scanning
import SmsGateway.Proofs.Text.Utf8

namespace SmsGateway.Http

/-- The value of a header, when it has been sent with a text. -/
def arrived (text : String) : List UInt8 :=
  Text.bytes (String.ofList (trimmed text.toList))

/-- Visible ASCII or a tab. -/
def IsHeaderChar (c : Char) : Prop :=
  0x20 ≤ c.toNat ∧ c.toNat < 0x7F ∨ c = '\t'

instance : DecidablePred IsHeaderChar :=
  fun c => inferInstanceAs (Decidable (0x20 ≤ c.toNat ∧ c.toNat < 0x7F ∨ c = '\t'))

/-- Nothing but visible characters, and no blank at either end. -/
structure IsHeaderText (text : String) : Prop where
  visible : ∀ c ∈ text.toList, IsHeaderChar c
  first : ∀ c ∈ text.toList.head?, c.isWhitespace = false
  last : ∀ c ∈ text.toList.getLast?, c.isWhitespace = false

theorem isHeaderText_iff_all {text : String} :
    IsHeaderText text ↔ (text.toList.all fun c => decide (IsHeaderChar c)) = true ∧
      (text.toList.head?.all fun c => !c.isWhitespace) = true ∧
        (text.toList.getLast?.all fun c => !c.isWhitespace) = true := by
  simp only [List.all_eq_true, decide_eq_true_eq, Option.all_eq_true, Bool.not_eq_true']
  constructor
  · rintro ⟨hvisible, hfirst, hlast⟩
    exact ⟨hvisible, hfirst, hlast⟩
  · rintro ⟨hvisible, hfirst, hlast⟩
    exact ⟨hvisible, hfirst, hlast⟩

instance : DecidablePred IsHeaderText :=
  fun _ => decidable_of_iff' _ isHeaderText_iff_all

theorem IsHeaderChar.lt {c : Char} (h : IsHeaderChar c) : c.toNat < 128 := by
  rcases h with ⟨-, hlt⟩ | rfl
  · exact Nat.lt_trans hlt (by decide)
  · decide

theorem IsHeaderChar.isVisible {c : Char} (h : IsHeaderChar c) :
    Request.isVisible (UInt8.ofNat c.toNat) = true := by
  rcases h with ⟨hle, hlt⟩ | rfl
  · have hbyte : (UInt8.ofNat c.toNat).toNat = c.toNat :=
      UInt8.toNat_ofNat_of_lt' (Nat.lt_trans hlt (by decide))
    have hlow : (0x20 : UInt8) ≤ UInt8.ofNat c.toNat := by
      rw [UInt8.le_iff_toNat_le, hbyte]
      exact hle
    have hhigh : UInt8.ofNat c.toNat < (0x7F : UInt8) := by
      rw [UInt8.lt_iff_toNat_lt, hbyte]
      exact hlt
    simp [Request.isVisible, hlow, hhigh]
  · rfl

theorem isHeaderText_of_graphic {text : String}
    (h : ∀ c ∈ text.toList, 0x20 < c.toNat ∧ c.toNat < 0x7F) : IsHeaderText text := by
  have hblank : ∀ c ∈ text.toList, c.isWhitespace = false := by
    intro c hc
    have hgraphic := (h c hc).1
    cases hspace : c.isWhitespace with
    | false => rfl
    | true =>
        simp only [Char.isWhitespace, Bool.or_eq_true, decide_eq_true_eq] at hspace
        rcases hspace with ((rfl | rfl) | rfl) | rfl <;> exact absurd hgraphic (by decide)
  refine ⟨?_, ?_, ?_⟩
  · intro c hc
    obtain ⟨hlow, hhigh⟩ := h c hc
    exact .inl ⟨Nat.le_of_lt hlow, hhigh⟩
  · intro c hc
    exact hblank c (List.mem_of_mem_head? hc)
  · intro c hc
    exact hblank c (List.mem_of_mem_getLast? hc)

theorem trimmed_eq_self {s : List Char} (hfirst : ∀ c ∈ s.head?, c.isWhitespace = false)
    (hlast : ∀ c ∈ s.getLast?, c.isWhitespace = false) : trimmed s = s := by
  rw [← List.head?_reverse] at hlast
  rw [trimmed, Text.dropWhile_of_head? hfirst, Text.dropWhile_of_head? hlast, List.reverse_reverse]

theorem headerText_arrived {text : String} (h : IsHeaderText text) :
    Request.headerText (arrived text) = text := by
  have harrived : arrived text = text.toList.map fun c => UInt8.ofNat c.toNat := by
    rw [arrived, trimmed_eq_self h.first h.last, String.ofList_toList]
    exact Text.bytes_eq_map fun c hc => (h.visible c hc).lt
  have hvisible : (arrived text).all Request.isVisible = true := by
    rw [harrived, List.all_map, List.all_eq_true]
    exact fun c hc => (h.visible c hc).isVisible
  have hback : (arrived text).map (fun b => Char.ofNat b.toNat) = text.toList := by
    rw [harrived, List.map_map]
    refine (List.map_congr_left ?_).trans (List.map_id _)
    intro c hc
    have hbyte : (UInt8.ofNat c.toNat).toNat = c.toNat :=
      UInt8.toNat_ofNat_of_lt' (Nat.lt_trans (h.visible c hc).lt (by decide))
    rw [Function.comp_apply, hbyte, Char.ofNat_toNat, id_eq]
  rw [Request.headerText, if_pos hvisible, hback, String.ofList_toList]

theorem toNat_ofNat_of_isVisible {b : UInt8} (h : Request.isVisible b = true) :
    (Char.ofNat b.toNat).toNat = b.toNat ∧ b.toNat < 128 := by
  have hascii : ∀ n < 128, (Char.ofNat n).toNat = n := by decide
  have hlt : b.toNat < 128 := by
    simp only [Request.isVisible, Bool.or_eq_true, Bool.and_eq_true, decide_eq_true_eq,
      beq_iff_eq] at h
    rcases h with ⟨-, hhigh⟩ | rfl
    · exact Nat.lt_trans (UInt8.lt_iff_toNat_lt.mp hhigh) (by decide)
    · decide
  exact ⟨hascii b.toNat hlt, hlt⟩

theorem bytes_headerText {value : List UInt8} (h : value.all Request.isVisible = true) :
    Text.bytes (Request.headerText value) = value := by
  have hvisible : ∀ b ∈ value, Request.isVisible b = true := List.all_eq_true.mp h
  rw [Request.headerText, if_pos h, Text.bytes_eq_map, String.toList_ofList, List.map_map]
  · refine (List.map_congr_left ?_).trans (List.map_id value)
    intro b hb
    rw [Function.comp_apply, (toNat_ofNat_of_isVisible (hvisible b hb)).1, UInt8.ofNat_toNat, id_eq]
  · intro c hc
    rw [String.toList_ofList] at hc
    obtain ⟨b, hb, rfl⟩ := List.mem_map.mp hc
    obtain ⟨hsame, hlt⟩ := toNat_ofNat_of_isVisible (hvisible b hb)
    rwa [hsame]

theorem headerText_eq_iff {value : List UInt8} {text : String} (hne : text ≠ "") :
    Request.headerText value = text ↔
      value.all Request.isVisible = true ∧ value = Text.bytes text := by
  constructor
  · rintro rfl
    have hvisible : value.all Request.isVisible = true := by
      by_contra hnot
      exact hne (if_neg hnot)
    exact ⟨hvisible, (bytes_headerText hvisible).symm⟩
  · rintro ⟨hvisible, rfl⟩
    exact Text.bytes_injective (bytes_headerText hvisible)

theorem header?_of_mem {r : Request} (hlower : ∀ h ∈ r.headers, h.1.toLower = h.1)
    (hdistinct : r.headers.Pairwise fun a b => a.1 ≠ b.1) {name : String} {value : List UInt8}
    (hmem : (name, value) ∈ r.headers) : r.header? name = some value := by
  have hfound : r.headers.find? (fun x => x.1.toLower == name) = some (name, value) := by
    generalize r.headers = headers at hlower hdistinct hmem
    induction headers with
    | nil => simp at hmem
    | cons x rest ih =>
        obtain ⟨hx, hrest⟩ := List.forall_mem_cons.mp hlower
        obtain ⟨hother, hdistinct⟩ := List.pairwise_cons.mp hdistinct
        rcases List.mem_cons.mp hmem with rfl | hmem
        · rw [List.find?_cons_of_pos (by simp [hx])]
        · rw [List.find?_cons_of_neg (by simpa [hx] using hother _ hmem)]
          exact ih hrest hdistinct hmem
  rw [Request.header?, hfound]
  rfl

end SmsGateway.Http
