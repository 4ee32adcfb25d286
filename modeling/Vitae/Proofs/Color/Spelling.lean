import Vitae.Proofs.Color
import Vitae.Proofs.Text.EndTag
import Vitae.Proofs.Text.Trim

/-! # The spellings of a color

A color may stand between white space, with or without a hash sign, in capital or small letters, and
with one digit for two alike. Reading accepts these spellings and no others, and says of any other
text what is wrong with it; the spelling that is written is the one that all others of the color lead
to. -/

namespace Vitae

namespace Text

theorem forall_char {P : Char → Prop} (hascii : ∀ n < 128, P (Char.ofNat n))
    (hbeyond : ∀ c : Char, 128 ≤ c.toNat → P c) (c : Char) : P c := by
  rcases Nat.lt_or_ge c.toNat 128 with hc | hc
  · simpa using hascii c.toNat hc
  · exact hbeyond c hc

theorem toLower_eq_self {c : Char} (hc : 128 ≤ c.toNat) : c.toLower = c := by
  unfold Char.toLower
  split
  · rename_i hupper
    have hZ : c.toNat ≤ 90 := hupper.2
    omega
  · rfl

theorem isSpace_toLower (c : Char) : isSpace c.toLower = isSpace c := by
  refine forall_char (P := fun c => isSpace c.toLower = isSpace c) (by decide +kernel) ?_ c
  intro c hc
  rw [toLower_eq_self hc]

theorem toNat_lt_of_isHexDigit {c : Char} (hc : c.isHexDigit = true) : c.toNat < 128 := by
  simp only [Char.isHexDigit, Char.isDigit, Bool.or_eq_true, Bool.and_eq_true,
    decide_eq_true_eq] at hc
  rcases hc with (⟨-, hle⟩ | ⟨-, hle⟩) | ⟨-, hle⟩ <;> exact Nat.lt_of_le_of_lt hle (by decide)

end Text

namespace HexColor

open Text

/-! ## Digits -/

/-- What a digit stands for, a capital letter for as much as a small one. -/
def hexValue (c : Char) : Nat := "0123456789abcdef".toList.idxOf c.toLower

theorem digitValue?_eq (c : Char) :
    digitValue? c = if c.isHexDigit then some (hexValue c) else none := by
  refine forall_char
    (P := fun c => digitValue? c = if c.isHexDigit then some (hexValue c) else none)
    (by decide +kernel) ?_ c
  intro c hc
  have hbeyond (d : Char) (hd : d.toNat < 128) : ¬ c ≤ d := by
    intro hle
    exact absurd (Nat.le_trans hc hle) (Nat.not_le.mpr hd)
  have hdigit : ¬ c.isHexDigit = true := fun h => Nat.not_lt.mpr hc (toNat_lt_of_isHexDigit h)
  simp [digitValue?, hbeyond '9' (by decide), hbeyond 'f' (by decide), hbeyond 'F' (by decide),
    hdigit]

theorem digitValue?_toLower (c : Char) : digitValue? c.toLower = digitValue? c := by
  refine forall_char (P := fun c => digitValue? c.toLower = digitValue? c) (by decide +kernel) ?_ c
  intro c hc
  rw [toLower_eq_self hc]

theorem hexValue_lt {c : Char} (hc : c.isHexDigit = true) : hexValue c < 16 := by
  have hascii : ∀ n < 128, (Char.ofNat n).isHexDigit = true → hexValue (Char.ofNat n) < 16 := by
    decide +kernel
  simpa [hc] using hascii c.toNat (toNat_lt_of_isHexDigit hc)

theorem mapM_digitValue?_eq_some {ds : List Char} (h : ∀ d ∈ ds, d.isHexDigit = true) :
    ds.mapM digitValue? = some (ds.map hexValue) := by
  induction ds with
  | nil => rfl
  | cons d ds ih =>
    obtain ⟨hd, hds⟩ := List.forall_mem_cons.mp h
    simp [List.mapM_cons, digitValue?_eq, hd, ih hds]

theorem mapM_digitValue?_eq_none {ds : List Char} (h : ∃ d ∈ ds, d.isHexDigit = false) :
    ds.mapM digitValue? = none := by
  obtain ⟨d, hd, hno⟩ := h
  induction ds with
  | nil => cases hd
  | cons e ds ih =>
    rw [List.mapM_cons]
    rcases List.mem_cons.mp hd with rfl | hd
    · simp [digitValue?_eq, hno]
    · simp [ih hd]

/-! ## Texts and their digits -/

/-- White space, the digits with or without a hash sign before them, and white space again. -/
inductive Frames : String → List Char → Prop where
  | hashed {value : String} {ds : List Char} : TrimsTo value.toList ('#' :: ds) → Frames value ds
  | bare {value : String} {ds : List Char} :
    TrimsTo value.toList ds → ds.head? ≠ some '#' → Frames value ds

/-- What a text with these digits is read as. -/
inductive ReadsAs (value : String) : List Char → Except ColorError HexColor → Prop where
  | notHexadecimal {ds : List Char} : (∃ d ∈ ds, d.isHexDigit = false) →
    ReadsAs value ds (.error (.notHexadecimal value))
  | wrongLength {ds : List Char} :
    (∀ d ∈ ds, d.isHexDigit = true) → ds.length ≠ 3 → ds.length ≠ 6 →
    ReadsAs value ds (.error (.wrongLength value ds.length))
  /-- Each of the three digits stands for two of its kind. -/
  | short {r g b : Char} {c : HexColor} :
    ReadsAs value [r, r, g, g, b, b] (.ok c) → ReadsAs value [r, g, b] (.ok c)
  | long {r₁ r₀ g₁ g₀ b₁ b₀ : Char} {c : HexColor} :
    (∀ d ∈ [r₁, r₀, g₁, g₀, b₁, b₀], d.isHexDigit = true) →
    c.red.toNat = 16 * hexValue r₁ + hexValue r₀ → c.green.toNat = 16 * hexValue g₁ + hexValue g₀ →
    c.blue.toNat = 16 * hexValue b₁ + hexValue b₀ →
    ReadsAs value [r₁, r₀, g₁, g₀, b₁, b₀] (.ok c)

theorem frames_iff {value : String} {ds : List Char} : Frames value ds ↔ digitsOf value = ds := by
  unfold digitsOf
  constructor
  · rintro (h | ⟨h, hhash⟩)
    · rw [trimsTo_iff.mp h]
      rfl
    · rw [trimsTo_iff.mp h]
      split
      · simp at hhash
      · rfl
  · rintro rfl
    have htrims := trimsTo_trimList value.toList
    split
    · rename_i ds hds
      exact .hashed (hds ▸ htrims)
    · rename_i hno
      refine .bare htrims ?_
      intro hhash
      obtain ⟨ds, hds⟩ := List.head?_eq_some_iff.mp hhash
      exact hno ds hds

/-- The color of as many digits as are given, if so many make a color. -/
def ofValues? : List Nat → Option HexColor
  | [r, g, b] => some ⟨.ofNat (17 * r), .ofNat (17 * g), .ofNat (17 * b)⟩
  | [r₁, r₀, g₁, g₀, b₁, b₀] =>
    some ⟨.ofNat (16 * r₁ + r₀), .ofNat (16 * g₁ + g₀), .ofNat (16 * b₁ + b₀)⟩
  | _ => none

theorem parse_eq (value : String) :
    parse value =
      match (digitsOf value).mapM digitValue? with
      | none => .error (.notHexadecimal value)
      | some ns =>
        match ofValues? ns with
        | some c => .ok c
        | none => .error (.wrongLength value ns.length) := by
  simp only [parse]
  generalize (digitsOf value).mapM digitValue? = values
  cases values with
  | none => rfl
  | some ns =>
    fun_cases ofValues? ns with
    | case1 | case2 => rfl
    | case3 ns h₃ h₆ => simp [ofValues?]

theorem ofValues?_eq_none {ns : List Nat} (h₃ : ns.length ≠ 3) (h₆ : ns.length ≠ 6) :
    ofValues? ns = none := by
  fun_cases ofValues? ns
  · simp at h₃
  · simp at h₆
  · rfl

theorem ofValues?_doubled (r g b : Nat) : ofValues? [r, r, g, g, b, b] = ofValues? [r, g, b] := by
  have hdouble (n : Nat) : 17 * n = 16 * n + n := by omega
  simp only [ofValues?, hdouble]

theorem toOption_parse (value : String) :
    (parse value).toOption = ((digitsOf value).mapM digitValue?).bind ofValues? := by
  rw [parse_eq]
  cases (digitsOf value).mapM digitValue? with
  | none => rfl
  | some ns => cases h : ofValues? ns <;> simp [h, Except.toOption]

theorem ofNat_eq {c : UInt8} {n : Nat} (h : c.toNat = n) : UInt8.ofNat n = c := by
  rw [← h, UInt8.ofNat_toNat]

theorem toNat_ofNat_digits {x y : Char} (hx : x.isHexDigit = true) (hy : y.isHexDigit = true) :
    (UInt8.ofNat (16 * hexValue x + hexValue y)).toNat = 16 * hexValue x + hexValue y := by
  have hx' := hexValue_lt hx
  have hy' := hexValue_lt hy
  rw [UInt8.toNat_ofNat', Nat.mod_eq_of_lt (by omega)]

theorem parse_of_readsAs {value : String} {ds : List Char} {x : Except ColorError HexColor}
    (h : ReadsAs value ds x) (hds : digitsOf value = ds) : parse value = x := by
  rw [parse_eq, hds]
  cases h with
  | notHexadecimal hno => rw [mapM_digitValue?_eq_none hno]
  | wrongLength hall h₃ h₆ =>
    have hnone : ofValues? (ds.map hexValue) = none := ofValues?_eq_none (by simpa) (by simpa)
    simp only [mapM_digitValue?_eq_some hall, hnone, List.length_map]
  | @short r g b c h =>
    cases h with
    | long hall hr hg hb =>
      have hsub : ∀ d ∈ [r, g, b], d.isHexDigit = true := by
        intro d hd
        refine hall d ?_
        simp only [List.mem_cons] at hd ⊢
        tauto
      simp only [mapM_digitValue?_eq_some hsub, List.map_cons, List.map_nil]
      rw [← ofValues?_doubled]
      simp only [ofValues?, ofNat_eq hr, ofNat_eq hg, ofNat_eq hb]
  | long hall hr hg hb =>
    simp only [mapM_digitValue?_eq_some hall, List.map_cons, List.map_nil, ofValues?,
      ofNat_eq hr, ofNat_eq hg, ofNat_eq hb]

theorem exists_readsAs_long (value : String) {r₁ r₀ g₁ g₀ b₁ b₀ : Char}
    (h : ∀ d ∈ [r₁, r₀, g₁, g₀, b₁, b₀], d.isHexDigit = true) :
    ∃ c, ReadsAs value [r₁, r₀, g₁, g₀, b₁, b₀] (.ok c) := by
  have hall := h
  simp only [List.forall_mem_cons] at hall
  obtain ⟨hr₁, hr₀, hg₁, hg₀, hb₁, hb₀, -⟩ := hall
  exact ⟨⟨_, _, _⟩, .long h (toNat_ofNat_digits hr₁ hr₀) (toNat_ofNat_digits hg₁ hg₀)
    (toNat_ofNat_digits hb₁ hb₀)⟩

theorem exists_readsAs (value : String) (ds : List Char) : ∃ x, ReadsAs value ds x := by
  by_cases hall : ∀ d ∈ ds, d.isHexDigit = true
  · by_cases h₃ : ds.length = 3
    · obtain ⟨r, g, b, rfl⟩ := List.length_eq_three.mp h₃
      have hdoubled : ∀ d ∈ [r, r, g, g, b, b], d.isHexDigit = true := by simpa using hall
      obtain ⟨c, hc⟩ := exists_readsAs_long value hdoubled
      exact ⟨.ok c, .short hc⟩
    by_cases h₆ : ds.length = 6
    · match ds, h₆ with
      | [_, _, _, _, _, _], _ =>
        obtain ⟨c, hc⟩ := exists_readsAs_long value hall
        exact ⟨.ok c, hc⟩
    · exact ⟨_, .wrongLength hall h₃ h₆⟩
  · exact ⟨_, .notHexadecimal (by simpa using hall)⟩

theorem parse_eq_iff {value : String} {x : Except ColorError HexColor} :
    parse value = x ↔ ∃ ds, Frames value ds ∧ ReadsAs value ds x := by
  constructor
  · rintro rfl
    obtain ⟨x, hx⟩ := exists_readsAs value (digitsOf value)
    have hp := parse_of_readsAs hx rfl
    exact ⟨_, frames_iff.mpr rfl, hp ▸ hx⟩
  · rintro ⟨ds, hframes, hx⟩
    exact parse_of_readsAs hx (frames_iff.mp hframes)

/-! ## One color, many spellings -/

/-- A text that differs only in the white space around it and the hash sign, in the case of its
letters, or in having two digits for one. -/
inductive Respells : String → String → Prop where
  | reframed {value value' : String} {ds : List Char} :
    Frames value ds → Frames value' ds → Respells value value'
  | recased {value value' : String} :
    value'.toList.map Char.toLower = value.toList.map Char.toLower → Respells value value'
  | doubled {value value' : String} {r g b : Char} :
    Frames value [r, g, b] → Frames value' [r, r, g, g, b, b] → Respells value value'

/-- The color of a text, as it is written. -/
def canonical? (value : String) : Option String := (parse value).toOption.map toHex

theorem map_toLower_digitsOf {value value' : String}
    (h : value'.toList.map Char.toLower = value.toList.map Char.toLower) :
    (digitsOf value').map Char.toLower = (digitsOf value).map Char.toLower := by
  have htrim : (trimList value'.toList).map Char.toLower =
      (trimList value.toList).map Char.toLower := by
    rw [← trimList_map isSpace_toLower, h, trimList_map isSpace_toLower]
  unfold digitsOf
  generalize trimList value'.toList = cs' at htrim ⊢
  generalize trimList value.toList = cs at htrim ⊢
  cases cs with
  | nil =>
    obtain rfl := List.map_eq_nil_iff.mp htrim
    rfl
  | cons c cs =>
    obtain ⟨c', cs', rfl, hc, hcs⟩ := List.map_eq_cons_iff.mp htrim
    by_cases hhash : c = '#'
    · subst hhash
      obtain rfl := eq_of_toLower_eq (d := '#') (by decide) hc
      exact hcs
    · have hhash' : c' ≠ '#' := by
        rintro rfl
        exact hhash (eq_of_toLower_eq (d := '#') (by decide) hc.symm)
      simpa [hhash, hhash'] using ⟨hc, hcs⟩

theorem toOption_parse_of_respells {value value' : String} (h : Respells value value') :
    (parse value').toOption = (parse value).toOption := by
  rw [toOption_parse, toOption_parse]
  cases h with
  | reframed h h' => rw [frames_iff.mp h, frames_iff.mp h']
  | recased h =>
    have hcase (ds : List Char) : (ds.map Char.toLower).mapM digitValue? = ds.mapM digitValue? := by
      rw [List.mapM_map]
      exact congrArg (List.mapM · ds) (funext digitValue?_toLower)
    rw [← hcase, map_toLower_digitsOf h, hcase]
  | @doubled r g b h h' =>
    rw [frames_iff.mp h, frames_iff.mp h']
    cases hr : digitValue? r <;> cases hg : digitValue? g <;> cases hb : digitValue? b <;>
      simp [hr, hg, hb, ofValues?_doubled]

theorem toHex_digits (c : HexColor) :
    ∃ ds, c.toHex.toList = '#' :: ds ∧ ds.length = 6 ∧ ∀ d ∈ ds, d ∈ "0123456789abcdef".toList := by
  refine ⟨channelText c.red ++ channelText c.green ++ channelText c.blue, ?_, rfl, ?_⟩
  · rw [toHex, String.toList_ofList]
  · intro d hd
    have hdigit (c : UInt8) (hd : d ∈ channelText c) : d ∈ "0123456789abcdef".toList := by
      obtain ⟨n, hn, rfl⟩ := exists_digit_of_mem_channelText hd
      have hall : ∀ n < 16, Nat.digitChar n ∈ "0123456789abcdef".toList := by decide
      exact hall n hn
    simp only [List.mem_append] at hd
    rcases hd with (hd | hd) | hd
    · exact hdigit _ hd
    · exact hdigit _ hd
    · exact hdigit _ hd

theorem canonical?_toHex (c : HexColor) : canonical? c.toHex = some c.toHex := by
  rw [canonical?, parse_toHex]
  rfl

/-- A text is read by its digits: without a sign that is no digit, three or six of them make a color,
every channel being the number its two digits stand for and in the range of a byte, and the error
names the text and what is wrong with it. A color is written as the hash sign and six small digits,
is read back from them, and all its spellings lead to them. -/
theorem reads_spellings :
    (∀ value x, parse value = x ↔ ∃ ds, Frames value ds ∧ ReadsAs value ds x) ∧
    (∀ value, (ColorError.notHexadecimal value).message =
      "invalid color '" ++ value ++ "': expected hexadecimal digits" ∧
      ∀ n, (ColorError.wrongLength value n).message =
        "invalid color '" ++ value ++ "': expected 3 or 6 hex digits, found " ++ toString n) ∧
    (∀ c : HexColor, parse c.toHex = .ok c ∧ ∃ ds, c.toHex.toList = '#' :: ds ∧ ds.length = 6 ∧
      ∀ d ∈ ds, d ∈ "0123456789abcdef".toList) ∧
    (∀ value value', Respells value value' → canonical? value' = canonical? value) ∧
    ∀ value hex, canonical? value = some hex → canonical? hex = some hex := by
  refine ⟨fun _ _ => parse_eq_iff, ?_, fun c => ⟨parse_toHex c, toHex_digits c⟩, ?_, ?_⟩
  · intro value
    exact ⟨rfl, fun n => rfl⟩
  · intro value value' h
    rw [canonical?, canonical?, toOption_parse_of_respells h]
  · intro value hex h
    obtain ⟨c, -, rfl⟩ := Option.map_eq_some_iff.mp h
    exact canonical?_toHex c

/-- Three digits behind a blank and a hash sign, and six before the end of a line. -/
theorem reads_spellings_doubled :
    Respells " #0AF" "00AAFF\n" ∧ canonical? "00AAFF\n" = canonical? " #0AF" ∧
      canonical? " #0AF" = some "#00aaff" ∧ canonical? "#00aaff" = some "#00aaff" := by
  obtain ⟨-, -, -, hsame, hagain⟩ := reads_spellings
  have hthree : Frames " #0AF" ['0', 'A', 'F'] := frames_iff.mpr (by decide)
  have hsix : Frames "00AAFF\n" ['0', '0', 'A', 'A', 'F', 'F'] := frames_iff.mpr (by decide)
  have h : Respells " #0AF" "00AAFF\n" := .doubled hthree hsix
  have hwritten : canonical? " #0AF" = some "#00aaff" := by decide
  exact ⟨h, hsame _ _ h, hwritten, hagain _ _ hwritten⟩

end HexColor

end Vitae
