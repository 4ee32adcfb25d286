import Mathlib.Data.List.TakeWhile
import Vitae.Toml.Document

/-! # What a reader passes

Whatever has been read of a TOML text is clean: it has no control character but the tab, and no line
end but the line feed, alone or behind a carriage return. The offset counts its bytes. -/

namespace Vitae.Toml

/-- Bytes of a text in UTF-8. -/
@[simp]
def byteCount : List Char → Nat
  | [] => 0
  | c :: cs => c.utf8Size + byteCount cs

theorem byteCount_append (cs ds : List Char) :
    byteCount (cs ++ ds) = byteCount cs + byteCount ds := by
  induction cs with
  | nil => exact (Nat.zero_add _).symm
  | cons c cs ih => rw [List.cons_append, byteCount, byteCount, ih, Nat.add_assoc]

inductive IsClean : List Char → Prop
  | nil : IsClean []
  | plain {c : Char} {cs : List Char} (hc : Scan.isPlain c = true) (hcs : IsClean cs) :
      IsClean (c :: cs)
  | lineFeed {cs : List Char} (hcs : IsClean cs) : IsClean ('\n' :: cs)
  | carriageReturn {cs : List Char} (hcs : IsClean cs) : IsClean ('\r' :: '\n' :: cs)

namespace IsClean

theorem append {cs ds : List Char} (hcs : IsClean cs) (hds : IsClean ds) : IsClean (cs ++ ds) := by
  induction hcs with
  | nil => exact hds
  | plain hc _ ih => exact ih.plain hc
  | lineFeed _ ih => exact ih.lineFeed
  | carriageReturn _ ih => exact ih.carriageReturn

theorem of_all_isPlain {cs : List Char} (h : cs.all Scan.isPlain = true) : IsClean cs := by
  induction cs with
  | nil => exact .nil
  | cons c cs ih =>
    rw [List.all_cons, Bool.and_eq_true] at h
    exact (ih h.2).plain h.1

end IsClean

/-- Between two cursors is nothing but clean text. -/
def Cursor.Reaches (c d : Cursor) : Prop :=
  ∃ cs, IsClean cs ∧ c.rest = cs ++ d.rest ∧ d.offset = c.offset + byteCount cs

theorem Cursor.Reaches.refl (c : Cursor) : c.Reaches c := ⟨[], .nil, rfl, rfl⟩

theorem Cursor.Reaches.trans {c d e : Cursor} (hcd : c.Reaches d) (hde : d.Reaches e) :
    c.Reaches e := by
  obtain ⟨cs, hcs, hrest, hoffset⟩ := hcd
  obtain ⟨ds, hds, hrest', hoffset'⟩ := hde
  refine ⟨cs ++ ds, hcs.append hds, ?_, ?_⟩
  · rw [hrest, hrest', List.append_assoc]
  · rw [hoffset', hoffset, byteCount_append, Nat.add_assoc]

namespace Scan

/-- Whatever the reader returns, it has passed clean text. -/
def Passes {α : Type} (x : Scan α) : Prop :=
  ∀ c a d, x c = some (a, d) → c.Reaches d

section Passes

variable {α β : Type}

theorem passes_pure (a : α) : Passes (pure a) := by
  intro c b d h
  cases h
  exact .refl c

theorem passes_failure : Passes (failure : Scan α) := by
  intro c a d h
  cases h

theorem passes_get : Passes get := by
  intro c a d h
  cases h
  exact .refl c

theorem bind_eq_some {x : Scan α} {f : α → Scan β} {c d : Cursor} {b : β}
    (h : (x >>= f) c = some (b, d)) : ∃ a e, x c = some (a, e) ∧ f a e = some (b, d) := by
  obtain ⟨⟨a, e⟩, hx, hf⟩ := Option.bind_eq_some_iff.mp h
  exact ⟨a, e, hx, hf⟩

theorem lift_eq_some {x : Option α} {c d : Cursor} {a : α}
    (h : (StateT.lift x : Scan α) c = some (a, d)) : x = some a ∧ d = c := by
  cases x with
  | none => cases h
  | some b =>
    cases h
    exact ⟨rfl, rfl⟩

theorem Passes.bind {x : Scan α} {f : α → Scan β} (hx : Passes x) (hf : ∀ a, Passes (f a)) :
    Passes (x >>= f) := by
  intro c b d h
  obtain ⟨a, e, ha, hb⟩ := bind_eq_some h
  exact (hx c a e ha).trans (hf a e b d hb)

theorem Passes.discard {x : Scan α} (hx : Passes x) : Passes (discard x) := by
  have hd : (Functor.discard x : Scan Unit) = x >>= fun _ => pure () := by
    rw [Functor.discard, LawfulFunctor.map_const, bind_pure_comp]
    rfl
  rw [hd]
  exact hx.bind fun _ => passes_pure ()

theorem Passes.ite {p : Prop} [Decidable p] {x y : Scan α} (hx : Passes x) (hy : Passes y) :
    Passes (if p then x else y) := by
  split
  · exact hx
  · exact hy

/-- What comes behind a check that may fail. -/
theorem passes_unless {p : Prop} [Decidable p] {k : PUnit → Scan α} (hk : Passes (k ⟨⟩)) :
    Passes (if p then failure >>= k else k ⟨⟩) :=
  .ite (passes_failure.bind fun _ => hk) hk

theorem passes_peek : Passes peek := passes_get.bind fun _ => passes_pure _

theorem passes_bound : Passes bound := passes_get.bind fun _ => passes_pure _

theorem passes_startsWith (s : String) : Passes (startsWith s) :=
  passes_get.bind fun _ => passes_pure _

theorem drop_eq (n : Nat) (cs : List Char) (o : Nat) :
    drop n ⟨cs, o⟩ = some ((), ⟨cs.drop n, o + byteCount (cs.take n)⟩) := by
  induction n generalizing cs o with
  | zero => rfl
  | succ n ih =>
    cases cs with
    | nil =>
      have hstep : drop (n + 1) ⟨[], o⟩ = drop n ⟨[], o⟩ := rfl
      rw [hstep, ih, List.take_nil, List.take_nil, List.drop_nil, List.drop_nil]
    | cons c cs =>
      have hstep : drop (n + 1) ⟨c :: cs, o⟩ = drop n ⟨cs, o + c.utf8Size⟩ := rfl
      rw [hstep, ih, List.take_succ_cons, byteCount, List.drop_succ_cons, Nat.add_assoc]

theorem reaches_of_drop {c d : Cursor} {n : Nat} {u : Unit} (h : drop n c = some (u, d))
    (hc : IsClean (c.rest.take n)) : c.Reaches d := by
  obtain ⟨cs, o⟩ := c
  rw [drop_eq] at h
  cases h
  exact ⟨cs.take n, hc, (List.take_append_drop n cs).symm, rfl⟩

theorem reaches_of_advance {c d : Cursor} {u : Unit} (h : advance c = some (u, d))
    (hc : ∀ a, c.rest.head? = some a → isPlain a = true) : c.Reaches d := by
  obtain ⟨_ | ⟨a, cs⟩, o⟩ := c
  · cases h
    exact .refl _
  · cases h
    exact ⟨[a], .plain (hc a rfl) .nil, rfl, rfl⟩

theorem passes_accept {s : String} (hs : IsClean s.toList) : Passes (accept s) := by
  intro c b d h
  obtain ⟨starts, e, hstarts, h⟩ := bind_eq_some h
  cases hstarts
  split at h
  · rename_i hp
    obtain ⟨u, e, hdrop, h⟩ := bind_eq_some h
    cases h
    obtain ⟨t, ht⟩ := List.isPrefixOf_iff_prefix.mp hp
    refine reaches_of_drop hdrop ?_
    rw [← ht, ← String.length_toList, List.take_left]
    exact hs
  · cases h
    exact .refl c

theorem passes_acceptEither {s t : String} (hs : IsClean s.toList) (ht : IsClean t.toList) :
    Passes (acceptEither s t) :=
  (passes_accept hs).bind fun _ => .ite (passes_pure _) (passes_accept ht)

/-- What is read behind a mark, or in its place. -/
theorem passes_ifAccepted {s : String} (hs : s.toList.all isPlain = true) {x y : Scan α}
    (hx : Passes x) (hy : Passes y) : Passes (do if ← accept s then x else y) :=
  (passes_accept (.of_all_isPlain hs)).bind fun _ => hx.ite hy

theorem passes_expect {s : String} (hs : s.toList.all isPlain = true) : Passes (expect s) :=
  (passes_accept (.of_all_isPlain hs)).bind fun _ => passes_failure.ite (passes_pure ())

theorem passes_spanWhile {p : Char → Bool} (hp : ∀ c, p c = true → isPlain c = true) :
    Passes (spanWhile p) := by
  intro c cs d h
  obtain ⟨c', e, hget, h⟩ := bind_eq_some h
  cases hget
  obtain ⟨u, e, hdrop, h⟩ := bind_eq_some h
  cases h
  refine reaches_of_drop hdrop ?_
  rw [← List.prefix_iff_eq_take.mp (List.takeWhile_prefix p)]
  refine .of_all_isPlain (List.all_eq_true.mpr fun a ha => hp a ?_)
  exact List.mem_takeWhile_imp ha

/-- A character that is looked at and passed is plain, or else the reader fails on it. -/
theorem passes_next {k : Option Char → Scan α} (hk : ∀ c, isPlain c = true → Passes (k (some c)))
    (hfail : ∀ c, isPlain c = false → k (some c) = failure) (hnone : Passes (k none)) :
    Passes (do
      let c ← peek
      advance
      k c) := by
  rintro ⟨_ | ⟨c, cs⟩, o⟩ b d h
  · exact hnone _ _ _ h
  · have hrun : k (some c) ⟨cs, o + c.utf8Size⟩ = some (b, d) := h
    cases hc : isPlain c with
    | false =>
      rw [hfail c hc] at hrun
      cases hrun
    | true =>
      have hpass : Cursor.Reaches ⟨c :: cs, o⟩ ⟨cs, o + c.utf8Size⟩ :=
        ⟨[c], .plain hc .nil, rfl, rfl⟩
      exact hpass.trans (hk c hc _ _ _ hrun)

end Passes

/-! ## Spaces and comments -/

/-- What is not plain is found among the first 128 characters. -/
theorem isPlain_of {p : Char → Bool}
    (h : ∀ n < 128, p (Char.ofNat n) = true → isPlain (Char.ofNat n) = true) (c : Char)
    (hc : p c = true) : isPlain c = true := by
  by_cases hlt : c.toNat < 128
  · rw [← Char.ofNat_toNat c] at hc ⊢
    exact h c.toNat hlt hc
  · have hge : 0x20 ≤ c.toNat ∧ c.toNat ≠ 0x7f := by omega
    simp [isPlain, hge]

theorem isPlain_of_isBlank : ∀ c, isBlank c = true → isPlain c = true := isPlain_of (by decide)

theorem passes_blanks : Passes blanks := (passes_spanWhile isPlain_of_isBlank).discard

theorem passes_newline : Passes newline :=
  passes_acceptEither (.lineFeed .nil) (.carriageReturn .nil)

theorem passes_comment : Passes comment :=
  passes_peek.bind fun _ => .ite (passes_spanWhile fun _ h => h).discard (passes_pure ())

theorem passes_lineEnd : Passes lineEnd :=
  passes_blanks.bind fun _ => passes_comment.bind fun _ => passes_newline.bind fun _ =>
    passes_peek.bind fun _ => passes_failure.ite (passes_pure ())

theorem passes_padding (fuel : Nat) : Passes (padding fuel) := by
  induction fuel with
  | zero => exact passes_pure ()
  | succ fuel ih =>
    refine passes_blanks.bind fun _ => passes_peek.bind fun _ => .ite ?_ ?_
    · exact passes_comment.bind fun _ => passes_newline.bind fun _ => ih.ite passes_failure
    · exact passes_newline.bind fun _ => ih.ite (passes_pure ())

end Scan

end Vitae.Toml
