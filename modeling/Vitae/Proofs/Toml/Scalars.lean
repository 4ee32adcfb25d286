import Vitae.Proofs.Toml.Passing

/-! # Numbers, dates and strings

All that the readers of a single value pass is clean. -/

namespace Vitae.Toml.Scan

/-! ## Numbers, dates and times -/

open Decimal (isDigit)

theorem isPlain_of_isDigit : ∀ c, isDigit c = true → isPlain c = true := isPlain_of (by decide)

theorem passes_digitGroups {digit : Char → Bool} (hd : ∀ c, digit c = true → isPlain c = true)
    (fuel : Nat) : Passes (digitGroups digit fuel) := by
  induction fuel with
  | zero => exact passes_failure
  | succ fuel ih =>
    refine (passes_spanWhile hd).bind fun _ => passes_unless (passes_ifAccepted rfl ?_ ?_)
    · exact ih.bind fun _ => passes_pure _
    · exact passes_pure _

theorem passes_wholeDigits : Passes wholeDigits :=
  passes_ifAccepted rfl (passes_pure _) <|
    passes_bound.bind fun _ => passes_digitGroups isPlain_of_isDigit _

theorem passes_integer (n : Int) : Passes (integer n) := .ite (passes_pure _) passes_failure

theorem passes_radixInteger {digit : Char → Bool}
    (hd : ∀ c, digit c = true → isPlain c = true) (radix : Nat) :
    Passes (radixInteger radix digit) :=
  passes_bound.bind fun _ => (passes_digitGroups hd _).bind fun _ => passes_integer _

theorem passes_sign : Passes sign :=
  passes_ifAccepted rfl (passes_pure _) <|
    (passes_accept (.of_all_isPlain rfl)).discard.bind fun _ => passes_pure _

theorem passes_fraction? : Passes fraction? := by
  refine passes_ifAccepted rfl ?_ (passes_pure _)
  exact passes_bound.bind fun _ => (passes_digitGroups isPlain_of_isDigit _).bind fun _ =>
    passes_pure _

theorem passes_exponent? : Passes exponent? := by
  refine (passes_acceptEither (.of_all_isPlain rfl) (.of_all_isPlain rfl)).bind fun _ =>
    .ite ?_ (passes_pure _)
  exact passes_sign.bind fun _ => passes_bound.bind fun _ =>
    (passes_digitGroups isPlain_of_isDigit _).bind fun _ => passes_pure _

theorem passes_nonFinite? (negative : Bool) : Passes (nonFinite? negative) :=
  passes_ifAccepted rfl (passes_pure _) (passes_ifAccepted rfl (passes_pure _) (passes_pure _))

theorem passes_signedFloat (negative : Bool) (parts : Decimal.Parts) :
    Passes (signedFloat negative parts) := by
  unfold signedFloat
  exact passes_unless (passes_pure _)

theorem passes_decimalNumber : Passes decimalNumber := by
  refine passes_sign.bind fun _ => (passes_nonFinite? _).bind fun x? => ?_
  cases x? with
  | some x => exact passes_pure _
  | none =>
    refine passes_wholeDigits.bind fun _ => passes_fraction?.bind fun _ =>
      passes_exponent?.bind fun _ => .ite (passes_integer _) (passes_signedFloat _ _)

theorem passes_number : Passes number := by
  refine passes_ifAccepted rfl ?_ (passes_ifAccepted rfl ?_ (passes_ifAccepted rfl ?_ ?_))
  · exact passes_radixInteger (isPlain_of (by decide)) 16
  · exact passes_radixInteger (isPlain_of (by decide)) 8
  · exact passes_radixInteger (isPlain_of (by decide)) 2
  · exact passes_decimalNumber

theorem passes_fixedDigits (n low high : Nat) : Passes (fixedDigits n low high) := by
  intro c v d h
  obtain ⟨c', e, hget, h⟩ := bind_eq_some h
  cases hget
  dsimp only at h
  split at h
  · cases h
  · rename_i hcs
    obtain ⟨u, e, hdrop, h⟩ := bind_eq_some h
    have hdigits : (c.rest.take n).all isDigit = true := by
      simpa using And.right (by simpa using hcs)
    have hclean : IsClean (c.rest.take n) := .of_all_isPlain <|
      List.all_eq_true.mpr fun a ha => isPlain_of_isDigit a (List.all_eq_true.mp hdigits a ha)
    exact (reaches_of_drop hdrop hclean).trans (Passes.ite (passes_pure _) passes_failure e v d h)

theorem passes_date : Passes date := by
  refine (passes_fixedDigits 4 _ _).bind fun _ => (passes_expect rfl).bind fun _ =>
    (passes_fixedDigits 2 _ _).bind fun _ => (passes_expect rfl).bind fun _ => ?_
  exact (passes_fixedDigits 2 _ _).discard

theorem passes_time : Passes time := by
  refine (passes_fixedDigits 2 _ _).discard.bind fun _ =>
    (passes_expect rfl).bind fun _ =>
    (passes_fixedDigits 2 _ _).discard.bind fun _ =>
    (passes_expect rfl).bind fun _ =>
    (passes_fixedDigits 2 _ _).discard.bind fun _ => ?_
  refine passes_ifAccepted rfl ?_ (passes_pure _)
  exact (passes_spanWhile isPlain_of_isDigit).bind fun _ => passes_failure.ite (passes_pure _)

theorem passes_utcOffset : Passes utcOffset := by
  refine (passes_acceptEither (.of_all_isPlain rfl) (.of_all_isPlain rfl)).bind fun _ =>
    .ite (passes_pure _) ?_
  refine (passes_acceptEither (.of_all_isPlain rfl) (.of_all_isPlain rfl)).bind fun _ =>
    .ite ?_ (passes_pure _)
  exact (passes_fixedDigits 2 _ _).discard.bind fun _ =>
    (passes_expect rfl).bind fun _ => (passes_fixedDigits 2 _ _).discard

theorem passes_datetime : Passes datetime := by
  refine passes_date.bind fun _ c a d h => ?_
  obtain ⟨next, c₁, hnext, h⟩ := bind_eq_some h
  cases hnext
  obtain ⟨c₁, c₂, hget, h⟩ := bind_eq_some h
  cases hget
  split at h
  · rename_i hp
    obtain ⟨u, e, hstep, h⟩ := bind_eq_some h
    have hrest : Passes (do time; utcOffset; return Scalar.datetime) :=
      passes_time.bind fun _ => passes_utcOffset.bind fun _ => passes_pure _
    refine (reaches_of_advance hstep fun b hb => ?_).trans (hrest _ _ _ h)
    rw [hb, Option.any_some, Bool.and_eq_true] at hp
    exact isPlain_of (p := fun b => b = 'T' || b = 't' || b = ' ') (by decide) b hp.1
  · exact passes_pure _ _ _ _ h

theorem passes_numberOrDate : Passes numberOrDate := by
  refine passes_get.bind fun _ => .ite passes_datetime (.ite ?_ passes_number)
  exact passes_time.bind fun _ => passes_pure _

/-! ## Strings and keys -/

theorem isSome_of_mapM {α β : Type} {f : α → Option β} {as : List α} {bs : List β}
    (h : as.mapM f = some bs) : ∀ a ∈ as, (f a).isSome = true := by
  induction as generalizing bs with
  | nil => exact List.forall_mem_nil _
  | cons a as ih =>
    rw [List.mapM_cons] at h
    obtain ⟨b, ha, h⟩ := Option.bind_eq_some_iff.mp h
    obtain ⟨bs, has, -⟩ := Option.bind_eq_some_iff.mp h
    exact List.forall_mem_cons.mpr ⟨Option.isSome_of_eq_some ha, ih has⟩

theorem passes_numbered (n : Nat) : Passes (numbered n) := by
  intro c a d h
  obtain ⟨c', e, hget, h⟩ := bind_eq_some h
  cases hget
  dsimp only at h
  split at h
  · cases h
  · obtain ⟨ds, e, hlift, h'⟩ := bind_eq_some h
    obtain ⟨hds, rfl⟩ := lift_eq_some hlift
    obtain ⟨u, e', hdrop, h'⟩ := bind_eq_some h'
    have hclean : IsClean (e.rest.take n) := .of_all_isPlain <| List.all_eq_true.mpr fun b hb =>
      isPlain_of (p := fun b => (hexValue? b).isSome) (by decide) b (isSome_of_mapM hds b hb)
    exact (reaches_of_drop hdrop hclean).trans
      (Passes.ite (passes_pure _) passes_failure e' a d h')

theorem passes_escape : Passes escape := by
  refine passes_next (fun c hc => ?_) (fun c hc => ?_) passes_failure
  · split
    case h_8 => exact passes_numbered 4
    case h_9 => exact passes_numbered 8
    case h_10 => exact passes_failure
    all_goals exact passes_pure _
  · split
    case h_10 => rfl
    all_goals
      rename_i he
      cases he
      cases hc

theorem passes_basicTail (fuel : Nat) : Passes (basicTail fuel) := by
  induction fuel with
  | zero => exact passes_failure
  | succ fuel ih =>
    refine passes_next (fun c hc => ?_) (fun c hc => ?_) passes_failure
    · split
      · exact passes_pure _
      · exact passes_escape.bind fun _ => ih.bind fun _ => passes_pure _
      · exact .ite (ih.bind fun _ => passes_pure _) passes_failure
      · exact passes_failure
    · split
      case h_3 d he =>
        cases he
        exact if_neg (by simp [hc])
      case h_4 => rfl
      all_goals
        rename_i he
        cases he
        cases hc

theorem passes_closingQuotes? {quote : Char} (hq : isPlain quote = true) :
    Passes (closingQuotes? quote) := by
  intro c a d h
  obtain ⟨c', e, hget, h⟩ := bind_eq_some h
  cases hget
  dsimp only at h
  split at h
  · cases h
    exact .refl c
  · obtain ⟨u, e, hdrop, h⟩ := bind_eq_some h
    cases h
    have hpre : c.rest.take (min 5 (c.rest.takeWhile (· = quote)).length) <+:
        c.rest.takeWhile (· = quote) :=
      List.prefix_of_prefix_length_le (List.take_prefix _ _) (List.takeWhile_prefix _)
        ((List.length_take_le _ _).trans (Nat.min_le_right _ _))
    refine reaches_of_drop hdrop (.of_all_isPlain (List.all_eq_true.mpr fun b hb => ?_))
    have hbq := List.mem_takeWhile_imp (hpre.subset hb)
    exact of_decide_eq_true hbq ▸ hq

theorem passes_foldedLines (fuel : Nat) (folded : Bool) : Passes (foldedLines fuel folded) := by
  induction fuel generalizing folded with
  | zero => exact passes_pure _
  | succ fuel ih =>
    exact passes_blanks.bind fun _ => passes_newline.bind fun _ => .ite (ih true) (passes_pure _)

/-- What is read in vain is read anew. -/
theorem passes_tentative {α : Type} {x : Nat → Scan Bool} {y z : Scan α}
    (hx : ∀ n, Passes (x n)) (hy : Passes y) (hz : Passes z) :
    Passes (do
      let here ← get
      if ← x (← bound) then y
      else
        set here
        z) := by
  intro c a d h
  obtain ⟨here, e, hget, h⟩ := bind_eq_some h
  cases hget
  obtain ⟨n, e, hbound, h⟩ := bind_eq_some h
  cases hbound
  obtain ⟨b, e, hxc, h⟩ := bind_eq_some h
  cases b with
  | true => exact (hx _ _ _ _ hxc).trans (hy _ _ _ h)
  | false => exact hz c a d h

theorem passes_longBasicTail (fuel : Nat) : Passes (longBasicTail fuel) := by
  induction fuel with
  | zero => exact passes_failure
  | succ fuel ih =>
    refine (passes_closingQuotes? rfl).bind fun quotes? => ?_
    cases quotes? with
    | some quotes => exact passes_pure _
    | none =>
      refine passes_newline.bind fun _ => .ite (ih.bind fun _ => passes_pure _) ?_
      refine passes_next (fun c hc => ?_) (fun c hc => ?_) passes_failure
      · split
        · refine passes_tentative (fun n => passes_foldedLines n false) ih ?_
          exact passes_escape.bind fun _ => ih.bind fun _ => passes_pure _
        · exact .ite (ih.bind fun _ => passes_pure _) passes_failure
        · exact passes_failure
      · split
        case h_1 he =>
          cases he
          cases hc
        case h_2 he =>
          cases he
          exact if_neg (by simp [hc])
        case h_3 => rfl

theorem passes_longLiteralTail (fuel : Nat) : Passes (longLiteralTail fuel) := by
  induction fuel with
  | zero => exact passes_failure
  | succ fuel ih =>
    refine (passes_closingQuotes? rfl).bind fun quotes? => ?_
    cases quotes? with
    | some quotes => exact passes_pure _
    | none =>
      refine passes_newline.bind fun _ => .ite (ih.bind fun _ => passes_pure _) ?_
      refine passes_next (fun c hc => ?_) (fun c hc => ?_) passes_failure
      · exact .ite (ih.bind fun _ => passes_pure _) passes_failure
      · exact if_neg (by simp [hc])

theorem passes_basicString : Passes basicString :=
  (passes_expect rfl).bind fun _ => passes_bound.bind fun _ =>
    (passes_basicTail _).bind fun _ => passes_pure _

theorem passes_literalString : Passes literalString := by
  refine (passes_expect rfl).bind fun _ => (passes_spanWhile ?_).bind fun _ =>
    (passes_expect rfl).bind fun _ => passes_pure _
  intro c hc
  exact (Bool.and_eq_true _ _ ▸ hc).1

theorem passes_string : Passes string := by
  refine passes_ifAccepted rfl ?_ (passes_ifAccepted rfl ?_ ?_)
  · exact passes_newline.discard.bind fun _ => passes_bound.bind fun _ =>
      (passes_longBasicTail _).bind fun _ => passes_pure _
  · exact passes_newline.discard.bind fun _ => passes_bound.bind fun _ =>
      (passes_longLiteralTail _).bind fun _ => passes_pure _
  · exact passes_peek.bind fun _ => .ite passes_basicString passes_literalString

theorem passes_wordScalar : Passes wordScalar :=
  passes_ifAccepted rfl (passes_pure _) <| passes_ifAccepted rfl (passes_pure _) <|
    passes_ifAccepted rfl (passes_pure _) <| passes_ifAccepted rfl (passes_pure _) passes_failure

theorem passes_scalar : Passes scalar := by
  refine passes_peek.bind fun c? => ?_
  cases c? with
  | none => exact passes_failure
  | some c =>
    exact .ite (passes_string.bind fun _ => passes_pure _)
      (.ite passes_numberOrDate passes_wordScalar)

end Vitae.Toml.Scan
