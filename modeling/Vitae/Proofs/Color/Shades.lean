import Mathlib.Algebra.Order.Ring.Rat
import Mathlib.Tactic.Linarith
import Vitae.Proofs.Color.Large
import Vitae.Proofs.Color.Spelling
import Vitae.Template.Archetype

/-! # Shades of a color

A shade moves all channels of a color by one step, a share of their range in percent to the nearest
whole number. But for the two ends of the range nothing is lost on the way, and what is lighter of a
color is darker of the opposite one. -/

namespace Vitae

/-- The nearest whole number, and of two the one farther from zero. -/
structure IsNearest (q : ℚ) (a : ℤ) : Prop where
  close : |(a : ℚ) - q| ≤ 1 / 2
  tie : |(a : ℚ) - q| = 1 / 2 → |q| < |(a : ℚ)|

theorem IsNearest.neg {q : ℚ} {a : ℤ} (h : IsNearest q a) : IsNearest (-q) (-a) := by
  have hdist : |((-a : ℤ) : ℚ) - -q| = |(a : ℚ) - q| := by
    rw [Int.cast_neg, ← neg_sub', abs_neg]
  refine ⟨hdist ▸ h.close, ?_⟩
  intro htie
  rw [abs_neg, Int.cast_neg, abs_neg]
  exact h.tie (hdist ▸ htie)

inductive Channel where
  | red
  | green
  | blue

namespace HexColor

def channel (c : HexColor) : Channel → UInt8
  | .red => c.red
  | .green => c.green
  | .blue => c.blue

theorem ext_channel {c d : HexColor} (h : ∀ k, c.channel k = d.channel k) : c = d := by
  obtain ⟨r, g, b⟩ := c
  obtain rfl : r = d.red := h .red
  obtain rfl : g = d.green := h .green
  obtain rfl : b = d.blue := h .blue
  rfl

/-- Every channel as far from one end of its range as the color's is from the other. -/
def opposite (c : HexColor) : HexColor := ⟨255 - c.red, 255 - c.green, 255 - c.blue⟩

theorem toNat_channel_opposite (c : HexColor) (k : Channel) :
    (c.opposite.channel k).toNat = 255 - (c.channel k).toNat := by
  have hsub (x : UInt8) : (255 - x).toNat = 255 - x.toNat :=
    UInt8.toNat_sub_of_le 255 x (Nat.le_of_lt_succ x.toNat_lt)
  cases k <;> exact hsub _

/-! ## Steps -/

/-- `step` for a whole number of percent, in exact arithmetic. -/
def wholeStep (percent : Int) : Int :=
  max (-255) (min 255 (percent.sign * ((255 * percent.natAbs + 50) / 100 : Nat)))

def lightenWhole (percent : Int) (c : HexColor) : HexColor := c.shift (wholeStep percent)

def darkenWhole (percent : Int) (c : HexColor) : HexColor := c.lightenWhole (-percent)

/-- A share of a channel's range, to the nearest whole number. -/
def nearestStep (percent : Int) : Int :=
  if 0 ≤ percent then (255 * percent + 50) / 100 else -((255 * -percent + 50) / 100)

theorem isNearest_nearestStep (p : Int) : IsNearest (255 * p / 100) (nearestStep p) := by
  have hnonneg {p : Int} (hp : 0 ≤ p) : IsNearest (255 * p / 100) ((255 * p + 50) / 100) := by
    generalize ha : (255 * p + 50) / 100 = a
    have hlow : (255 * p - 50 : ℚ) < 100 * a := by
      exact_mod_cast (by omega : 255 * p - 50 < 100 * a)
    have hhigh : (100 * a : ℚ) ≤ 255 * p + 50 := by
      exact_mod_cast (by omega : 100 * a ≤ 255 * p + 50)
    have hpos : (0 : ℚ) ≤ p := by exact_mod_cast hp
    refine ⟨abs_le.mpr ⟨by linarith, by linarith⟩, ?_⟩
    intro htie
    -- the lower of two nearest numbers is out of reach, the bound below being strict
    rcases (abs_eq (by norm_num : (0 : ℚ) ≤ 1 / 2)).mp htie with h | h
    · rw [abs_of_nonneg (by linarith), abs_of_nonneg (by linarith)]
      linarith
    · linarith
  unfold nearestStep
  split
  · rename_i hp
    exact hnonneg hp
  · rename_i hp
    have h := (hnonneg (p := -p) (by omega)).neg
    have hq : -(255 * ((-p : Int) : ℚ) / 100) = 255 * p / 100 := by
      push_cast
      linarith
    rwa [hq] at h

theorem wholeStep_eq (p : Int) : wholeStep p = max (-255) (min 255 (nearestStep p)) := by
  have hsign : p.sign * ((255 * p.natAbs + 50) / 100 : Nat) = nearestStep p := by
    unfold nearestStep
    rcases Int.lt_trichotomy p 0 with h | rfl | h
    · rw [Int.sign_eq_neg_one_of_neg h, if_neg (by omega)]
      omega
    · rfl
    · rw [Int.sign_eq_one_of_pos h, if_pos (by omega)]
      omega
  rw [wholeStep, hsign]

theorem wholeStep_neg (p : Int) : wholeStep (-p) = -wholeStep p := by
  simp only [wholeStep_eq, nearestStep]
  omega

theorem wholeStep_mono {p q : Int} (h : p ≤ q) : wholeStep p ≤ wholeStep q := by
  simp only [wholeStep_eq, nearestStep]
  omega

theorem wholeStep_nonneg {p : Int} (h : 0 ≤ p) : 0 ≤ wholeStep p := wholeStep_mono h

theorem wholeStep_le (p : Int) : wholeStep p ≤ 255 := by
  rw [wholeStep_eq]
  omega

/-! ## Channels -/

theorem toNat_shiftChannel (step : Int) (x : UInt8) :
    ((shiftChannel step x).toNat : Int) = min 255 (max 0 (x.toNat + step)) := by
  unfold shiftChannel
  rw [UInt8.toNat_ofNat', Nat.mod_eq_of_lt (by omega)]
  omega

theorem toNat_channel_lightenWhole (p : Int) (c : HexColor) (k : Channel) :
    (((c.lightenWhole p).channel k).toNat : Int) =
      min 255 (max 0 ((c.channel k).toNat + wholeStep p)) := by
  cases k <;> exact toNat_shiftChannel ..

theorem toNat_channel_darkenWhole (p : Int) (c : HexColor) (k : Channel) :
    (((c.darkenWhole p).channel k).toNat : Int) =
      min 255 (max 0 ((c.channel k).toNat - wholeStep p)) := by
  rw [darkenWhole, toNat_channel_lightenWhole, wholeStep_neg, Int.sub_eq_add_neg]

theorem lightenWhole_mono {p q : Int} (h : p ≤ q) (c : HexColor) (k : Channel) :
    (c.lightenWhole p).channel k ≤ (c.lightenWhole q).channel k := by
  have hstep := wholeStep_mono h
  have hp := toNat_channel_lightenWhole p c k
  have hq := toNat_channel_lightenWhole q c k
  rw [UInt8.le_iff_toNat_le]
  omega

theorem channel_lightenWhole_mono (p : Int) {c d : HexColor} {k l : Channel}
    (h : c.channel k ≤ d.channel l) :
    (c.lightenWhole p).channel k ≤ (d.lightenWhole p).channel l := by
  have hc := toNat_channel_lightenWhole p c k
  have hd := toNat_channel_lightenWhole p d l
  rw [UInt8.le_iff_toNat_le] at h ⊢
  omega

theorem opposite_lightenWhole_opposite (p : Int) (c : HexColor) :
    (c.opposite.lightenWhole p).opposite = c.darkenWhole p := by
  refine ext_channel fun k => UInt8.toNat_inj.mp ?_
  have hx := (c.channel k).toNat_lt
  have hopposite := toNat_channel_opposite c k
  have hlighter := toNat_channel_lightenWhole p c.opposite k
  have hdarker := toNat_channel_darkenWhole p c k
  rw [toNat_channel_opposite]
  omega

theorem darkenWhole_lightenWhole_eq_iff {p : Int} (hp : 0 ≤ p) (c : HexColor) :
    (c.lightenWhole p).darkenWhole p = c ↔
      ∀ k, ((c.channel k).toNat : Int) + wholeStep p ≤ 255 := by
  have hstep := wholeStep_nonneg hp
  have hstep' := wholeStep_le p
  have hthere (k : Channel) := toNat_channel_lightenWhole p c k
  have hback (k : Channel) := toNat_channel_darkenWhole p (c.lightenWhole p) k
  constructor
  · intro h k
    have hx := (c.channel k).toNat_lt
    have hk := hback k
    rw [h] at hk
    have := hthere k
    omega
  · intro h
    refine ext_channel fun k => UInt8.toNat_inj.mp ?_
    have hx := (c.channel k).toNat_lt
    have hk := hback k
    have := hthere k
    have hroom := h k
    omega

/-! ## Binary fractions -/

open Float.Model.UnpackedFloat Binary

/-- Up to the whole range of a channel, binary fractions are exact enough. -/
theorem step_ofNat_of_lt : ∀ n < 101, step (Float.ofNat n) = wholeStep n ∧
    step (-Float.ofNat n) = wholeStep (-n) ∧ -(-Float.ofNat n) = Float.ofNat n := by
  decide +kernel

/-- Beyond the range of a channel, whatever they lose is not seen in a step as large as there is. -/
theorem step_of_reaches {s : Sign} {percent : Float} (h : Reaches s 101 percent) :
    step percent = s.apply 255 := by
  have hrange : (255.0 : Float).toModel.unpack =
      .finite .positive (255 * 2 ^ 45) (-45) (by decide) := rfl
  have hhundred : (100.0 : Float).toModel.unpack =
      .finite .positive (100 * 2 ^ 46) (-46) (by decide) := rfl
  have hproduct : Reaches s (101 * 255) (percent * 255.0) :=
    reaches_mul h hrange (by norm_num) (by decide) (by decide)
  have hamount : Reaches s 255 (percent * 255.0 / 100.0) :=
    reaches_div hproduct hhundred (by decide) (by decide) (by decide) (by decide) (by norm_num)
  have hwhole := toUInt8_of_reaches (reaches_abs (by decide) hamount)
  have hsize (b : Prop) [Decidable b] :
      min 255 (if b then (255 : UInt8).toNat + 1 else (255 : UInt8).toNat) = 255 := by
    split <;> rfl
  simp only [step, hwhole, hsize]
  cases s with
  | negative => exact if_pos ((lt_zero_iff_of_reaches hamount).mpr rfl)
  | positive => exact if_neg fun h => nomatch (lt_zero_iff_of_reaches hamount).mp h

theorem step_ofNat (n : Nat) : step (Float.ofNat n) = wholeStep n ∧
    step (-Float.ofNat n) = wholeStep (-n) ∧ step (-(-Float.ofNat n)) = wholeStep n := by
  rcases lt_or_ge n 101 with hn | hn
  · obtain ⟨hstep, hneg, htwice⟩ := step_ofNat_of_lt n hn
    exact ⟨hstep, hneg, (congrArg step htwice).trans hstep⟩
  · have hpos := reaches_ofNat (v := 101) (by decide) (by decide) hn
    have hneg := reaches_neg (by decide) hpos
    have hwhole : wholeStep n = 255 := by
      rw [wholeStep_eq, nearestStep]
      omega
    rw [wholeStep_neg, hwhole]
    exact ⟨step_of_reaches hpos, step_of_reaches hneg,
      step_of_reaches (reaches_neg (by decide) hneg)⟩

theorem step_ofInt (p : Int) : step (Float.ofInt p) = wholeStep p := by
  cases p with
  | ofNat n => exact (step_ofNat n).1
  | negSucc n => exact (step_ofNat (n + 1)).2.1

theorem step_neg_ofInt (p : Int) : step (-Float.ofInt p) = wholeStep (-p) := by
  cases p with
  | ofNat n => exact (step_ofNat n).2.1
  | negSucc n => exact (step_ofNat (n + 1)).2.2

theorem lighten_ofInt (p : Int) (c : HexColor) : c.lighten (Float.ofInt p) = c.lightenWhole p :=
  congrArg c.shift (step_ofInt p)

theorem darken_ofInt (p : Int) (c : HexColor) : c.darken (Float.ofInt p) = c.darkenWhole p :=
  congrArg c.shift (step_neg_ofInt p)

end HexColor

/-- How much lighter than its primary color the secondary and the accent color of an archetype are,
in percent. -/
def Category.shades : Category → Int × Int
  | .professional => (-20, 40)
  | .modern => (30, 45)
  | .creative => (20, -15)
  | .minimal => (40, -10)

theorem Layout.ofCategory_colors (category : Category) (primary : HexColor) :
    (ofCategory category primary).colors.primary = primary.toHex ∧
      (ofCategory category primary).colors.secondary =
        (primary.lightenWhole category.shades.1).toHex ∧
      (ofCategory category primary).colors.accent =
        (primary.lightenWhole category.shades.2).toHex := by
  have hlighter (p : Int) := congrArg HexColor.toHex (HexColor.lighten_ofInt p primary)
  have hdarker (p : Int) := congrArg HexColor.toHex (HexColor.darken_ofInt p primary)
  cases category with
  | professional => exact ⟨rfl, hdarker 20, hlighter 40⟩
  | modern => exact ⟨rfl, hlighter 30, hlighter 45⟩
  | creative => exact ⟨rfl, hlighter 20, hdarker 15⟩
  | minimal => exact ⟨rfl, hlighter 40, hdarker 10⟩

namespace HexColor

/-- A shade adds one and the same step to all channels, and takes it from them where it is darker,
up to the ends of their range. So it keeps their order, grows with the percentage, is undone as long
as there is room for it, and a darker shade is the lighter one of the opposite color. Binary
fractions give the same for every whole number of percent, and the colors of every archetype are
such shades of its primary color, spelled as they are written. -/
theorem shades_shift (c : HexColor) :
    (∀ p : Int, ∃ a, IsNearest (255 * p / 100) a ∧
      let step := max (-255) (min 255 a)
      (∀ k, (((c.lightenWhole p).channel k).toNat : Int) =
        min 255 (max 0 ((c.channel k).toNat + step))) ∧
      (∀ k, (((c.darkenWhole p).channel k).toNat : Int) =
        min 255 (max 0 ((c.channel k).toNat - step))) ∧
      (0 ≤ p → ((c.lightenWhole p).darkenWhole p = c ↔
        ∀ k, ((c.channel k).toNat : Int) + step ≤ 255))) ∧
    (∀ p q : Int, p ≤ q → ∀ k, (c.lightenWhole p).channel k ≤ (c.lightenWhole q).channel k) ∧
    (∀ (p : Int) (d : HexColor) (k l : Channel), c.channel k ≤ d.channel l →
      (c.lightenWhole p).channel k ≤ (d.lightenWhole p).channel l) ∧
    (∀ p : Int, (c.opposite.lightenWhole p).opposite = c.darkenWhole p) ∧
    (∀ p : Int, c.lighten (Float.ofInt p) = c.lightenWhole p ∧
      c.darken (Float.ofInt p) = c.darkenWhole p) ∧
    ∀ category key name description,
      let colors := (Template.archetype category key name description c).layout.colors
      colors.primary = c.toHex ∧ colors.secondary = (c.lightenWhole category.shades.1).toHex ∧
        colors.accent = (c.lightenWhole category.shades.2).toHex ∧
        ∀ color ∈ [colors.primary, colors.secondary, colors.accent],
          canonical? color = some color := by
  refine ⟨?_, fun p q h => lightenWhole_mono h c, fun p d k l h => channel_lightenWhole_mono p h,
    fun p => opposite_lightenWhole_opposite p c,
    fun p => ⟨lighten_ofInt p c, darken_ofInt p c⟩, ?_⟩
  · intro p
    refine ⟨nearestStep p, isNearest_nearestStep p, ?_⟩
    rw [← wholeStep_eq]
    exact ⟨toNat_channel_lightenWhole p c, toNat_channel_darkenWhole p c,
      fun hp => darkenWhole_lightenWhole_eq_iff hp c⟩
  · intro category key name description colors
    obtain ⟨hprimary, hsecondary, haccent⟩ := Layout.ofCategory_colors category c
    refine ⟨hprimary, hsecondary, haccent, ?_⟩
    simp only [List.forall_mem_cons]
    refine ⟨?_, ?_, ?_, nofun⟩
    · exact hprimary ▸ canonical?_toHex c
    · exact hsecondary ▸ canonical?_toHex (c.lightenWhole category.shades.1)
    · exact haccent ▸ canonical?_toHex (c.lightenWhole category.shades.2)

/-- A tenth of the range is a step of twenty-six, and the first channel has no room for it. -/
theorem shades_shift_tenth :
    let c : HexColor := ⟨0xf0, 0x80, 0x05⟩
    c.lighten (Float.ofInt 10) = ⟨0xff, 0x9a, 0x1f⟩ ∧
      (∃ a, IsNearest (255 * (10 : Int) / 100) a ∧
        ¬ ∀ k, ((c.channel k).toNat : Int) + max (-255) (min 255 a) ≤ 255) ∧
      (c.lightenWhole 10).channel .green ≤ (c.lightenWhole 45).channel .green ∧
      (c.lightenWhole 10).channel .blue ≤ (c.lightenWhole 10).channel .green := by
  intro c
  obtain ⟨hshift, hmono, horder, -, hfraction, -⟩ := shades_shift c
  obtain ⟨a, ha, -, -, hback⟩ := hshift 10
  have hlost : (c.lightenWhole 10).darkenWhole 10 ≠ c := by decide
  refine ⟨(hfraction 10).1.trans (by decide), ⟨a, ha, ?_⟩,
    hmono 10 45 (by decide) .green, horder 10 c .blue .green (by decide)⟩
  intro hroom
  exact hlost ((hback (by decide)).mpr hroom)

end HexColor

end Vitae
