import Vitae.Color

/-! # Colors are read as they are written -/

namespace Vitae

namespace Text

/-- There is nothing to trim where there is no white space. -/
theorem trimList_eq_self {cs : List Char} (h : ∀ c ∈ cs, isSpace c = false) : trimList cs = cs := by
  have hdrop {ds : List Char} (hd : ∀ c ∈ ds, isSpace c = false) : ds.dropWhile isSpace = ds := by
    cases ds with
    | nil => rfl
    | cons c ds =>
      rw [List.dropWhile_cons_of_neg]
      simp [hd c List.mem_cons_self]
  rw [trimList, hdrop h, trimEnd, hdrop fun c hc => h c (List.mem_reverse.mp hc),
    List.reverse_reverse]

end Text

namespace HexColor

theorem digitValue?_digitChar {n : Nat} (h : n < 16) : digitValue? (Nat.digitChar n) = some n := by
  have hall : ∀ n < 16, digitValue? (Nat.digitChar n) = some n := by decide
  exact hall n h

theorem digits_lt (c : UInt8) : c.toNat / 16 < 16 ∧ c.toNat % 16 < 16 := by
  have := c.toNat_lt
  omega

theorem exists_digit_of_mem_channelText {c : UInt8} {x : Char} (h : x ∈ channelText c) :
    ∃ n < 16, x = Nat.digitChar n := by
  obtain ⟨hh, hl⟩ := digits_lt c
  simp only [channelText, List.mem_cons, List.not_mem_nil, or_false] at h
  rcases h with rfl | rfl
  · exact ⟨_, hh, rfl⟩
  · exact ⟨_, hl, rfl⟩

/-- What holds of the hash sign and of each digit holds throughout a color. -/
theorem forall_mem_toHex {P : Char → Prop} (hhash : P '#') (hdigit : ∀ n < 16, P (Nat.digitChar n))
    (c : HexColor) : ∀ x ∈ c.toHex.toList, P x := by
  have hchannel (c : UInt8) : ∀ x ∈ channelText c, P x := by
    intro x hx
    obtain ⟨n, hn, rfl⟩ := exists_digit_of_mem_channelText hx
    exact hdigit n hn
  rw [toHex, String.toList_ofList]
  simp only [List.forall_mem_cons, List.forall_mem_append]
  exact ⟨hhash, ⟨hchannel _, hchannel _⟩, hchannel _⟩

theorem digitsOf_toHex (c : HexColor) :
    digitsOf c.toHex = channelText c.red ++ channelText c.green ++ channelText c.blue := by
  have hspace := forall_mem_toHex (P := fun x => Text.isSpace x = false) (by decide) (by decide) c
  rw [digitsOf, Text.trimList_eq_self hspace, toHex, String.toList_ofList]
  rfl

theorem ofNat_digits (c : UInt8) : UInt8.ofNat (16 * (c.toNat / 16) + c.toNat % 16) = c := by
  rw [Nat.div_add_mod]
  exact UInt8.ofNat_toNat

theorem parse_toHex (c : HexColor) : parse c.toHex = .ok c := by
  obtain ⟨hr, hr'⟩ := digits_lt c.red
  obtain ⟨hg, hg'⟩ := digits_lt c.green
  obtain ⟨hb, hb'⟩ := digits_lt c.blue
  have hdigits : (digitsOf c.toHex).mapM digitValue? =
      some [c.red.toNat / 16, c.red.toNat % 16, c.green.toNat / 16, c.green.toNat % 16,
        c.blue.toNat / 16, c.blue.toNat % 16] := by
    rw [digitsOf_toHex]
    simp [channelText, digitValue?_digitChar, *]
  simp only [parse, hdigits, ofNat_digits]

end HexColor

end Vitae
