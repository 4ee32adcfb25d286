import Mathlib.Data.List.Forall2
import Vitae.Command.Run
import Vitae.Proofs.Report.Place

/-! # The columns of a listing

The categories of a listing stand under each other, and so do the names. There is room for each byte
of a key, though a character that has several takes one place only. So the columns stand as far to
the left as the keys allow exactly if no key has more bytes than the longest has characters. -/

namespace Vitae.Table

def blanks (n : Nat) : String := String.ofList (List.replicate n ' ')

/-- A record with the category `width + 2` characters behind its start and the name `width + 16`. -/
def InColumns (width : Nat) (m : TemplateMeta) (record : String) : Prop :=
  ∃ afterKey afterCategory,
    let toCategory := m.key ++ blanks afterKey
    let toName := toCategory ++ m.category.name ++ blanks afterCategory
    record = toName ++ m.name ++ "\n" ∧
      toCategory.length = width + 2 ∧ toName.length = width + 16

/-- One record after the other, all in the same columns. -/
def IsAligned (width : Nat) (ms : List TemplateMeta) (text : String) : Prop :=
  ∃ records, text = String.join records ∧ List.Forall₂ (InColumns width) ms records

/-- In characters, however many bytes these have. -/
def longestKey (ms : List TemplateMeta) : Nat := ms.foldl (fun n m => max n m.key.length) 0

/-! ## Widths -/

theorem foldl_max_le_iff {f : TemplateMeta → Nat} {ms : List TemplateMeta} {start n : Nat} :
    ms.foldl (fun width m => max width (f m)) start ≤ n ↔ start ≤ n ∧ ∀ m ∈ ms, f m ≤ n := by
  induction ms generalizing start with
  | nil => simp
  | cons m ms ih => rw [List.foldl_cons, ih, max_le_iff, List.forall_mem_cons, and_assoc]

theorem keyWidth_le_iff {ms : List TemplateMeta} {n : Nat} :
    keyWidth ms ≤ n ↔ ∀ m ∈ ms, m.key.utf8ByteSize ≤ n :=
  foldl_max_le_iff.trans (and_iff_right (Nat.zero_le n))

theorem longestKey_le_iff {ms : List TemplateMeta} {n : Nat} :
    longestKey ms ≤ n ↔ ∀ m ∈ ms, m.key.length ≤ n :=
  foldl_max_le_iff.trans (and_iff_right (Nat.zero_le n))

theorem length_le_utf8ByteSize (s : String) : s.length ≤ s.utf8ByteSize := by
  have h := length_le_byteCount s.toList
  rwa [byteCount_eq_utf8ByteSize, String.ofList_toList, String.length_toList] at h

theorem length_key_le_keyWidth {ms : List TemplateMeta} {m : TemplateMeta} (h : m ∈ ms) :
    m.key.length ≤ keyWidth ms :=
  (length_le_utf8ByteSize m.key).trans (keyWidth_le_iff.mp (Nat.le_refl _) m h)

theorem longestKey_le_keyWidth (ms : List TemplateMeta) : longestKey ms ≤ keyWidth ms :=
  longestKey_le_iff.mpr fun _ => length_key_le_keyWidth

/-! ## Records -/

@[simp]
theorem length_blanks (n : Nat) : (blanks n).length = n := by
  rw [blanks, String.length_ofList, List.length_replicate]

theorem pad_append_blanks (width n : Nat) (s : String) :
    pad width s ++ blanks n = s ++ blanks (width - s.length + n) := by
  rw [pad, blanks, blanks, String.append_assoc, ← String.ofList_append,
    List.replicate_append_replicate]

theorem length_name_le (c : Category) : c.name.length ≤ 12 := by
  cases c <;> decide

theorem inColumns_row {width : Nat} {m : TemplateMeta} (h : m.key.length ≤ width) :
    InColumns width m (row width m) := by
  have hcategory := length_name_le m.category
  refine ⟨width - m.key.length + 2, 12 - m.category.name.length + 2, ?_, ?_, ?_⟩
  · calc row width m
      _ = pad width m.key ++ blanks 2 ++ (pad 12 m.category.name ++ blanks 2) ++ m.name ++ "\n" := by
        rw [← String.append_assoc]
        rfl
      _ = _ := by
        rw [pad_append_blanks, pad_append_blanks, ← String.append_assoc]
  · rw [String.length_append, length_blanks]
    omega
  · simp only [String.length_append, length_blanks]
    omega

theorem isAligned_render (ms : List TemplateMeta) : IsAligned (keyWidth ms) ms (render ms) := by
  refine ⟨ms.map (row (keyWidth ms)), rfl, ?_⟩
  rw [List.forall₂_map_right_iff, List.forall₂_same]
  exact fun m hm => inColumns_row (length_key_le_keyWidth hm)

theorem InColumns.length_eq {width : Nat} {m : TemplateMeta} {record : String}
    (h : InColumns width m record) : record.length = width + (m.name.length + 17) := by
  obtain ⟨afterKey, afterCategory, rfl, -, hname⟩ := h
  have hend : "\n".length = 1 := rfl
  rw [String.length_append, String.length_append, hname]
  omega

/-- The columns can be told from how long the text is. -/
theorem IsAligned.length_eq {width : Nat} {ms : List TemplateMeta} {text : String}
    (h : IsAligned width ms text) :
    text.length = ms.length * width + (ms.map (·.name.length + 17)).sum := by
  obtain ⟨records, rfl, hrecords⟩ := h
  rw [String.length_join]
  induction hrecords with
  | nil => simp
  | @cons m record ms records hm _ ih =>
    simp only [List.map_cons, List.sum_cons, List.length_cons, ih, hm.length_eq, Nat.succ_mul]
    omega

theorem IsAligned.width_unique {width width' : Nat} {ms : List TemplateMeta} {text : String}
    (hne : ms ≠ []) (h : IsAligned width ms text) (h' : IsAligned width' ms text) :
    width = width' := by
  have hlength := h.length_eq.symm.trans h'.length_eq
  have hpos := List.length_pos_iff.mpr hne
  exact Nat.eq_of_mul_eq_mul_left hpos (Nat.add_right_cancel hlength)

theorem isAligned_render_iff {width : Nat} {ms : List TemplateMeta} (hne : ms ≠ []) :
    IsAligned width ms (render ms) ↔ width = keyWidth ms := by
  constructor
  · intro h
    exact h.width_unique hne (isAligned_render ms)
  · rintro rfl
    exact isAligned_render ms

/-- Whatever the keys are, every record of a listing has its category and its name in the columns
that the key with the most bytes asks for. These are the columns that the longest key asks for
exactly if no key has more bytes than that has characters, as it is if all keys are ASCII. -/
theorem render_in_columns (ms : List TemplateMeta) :
    IsAligned (keyWidth ms) ms (render ms) ∧
      (IsAligned (longestKey ms) ms (render ms) ↔
        ∀ m ∈ ms, m.key.utf8ByteSize ≤ longestKey ms) ∧
      ((∀ m ∈ ms, ∀ c ∈ m.key.toList, c.toNat < 128) →
        IsAligned (longestKey ms) ms (render ms)) := by
  have hiff : IsAligned (longestKey ms) ms (render ms) ↔
      ∀ m ∈ ms, m.key.utf8ByteSize ≤ longestKey ms := by
    by_cases hne : ms = []
    · subst hne
      have hempty : IsAligned (longestKey []) [] (render []) := isAligned_render []
      simp [hempty]
    · rw [isAligned_render_iff hne, ← keyWidth_le_iff]
      have hle := longestKey_le_keyWidth ms
      constructor <;> omega
  refine ⟨isAligned_render ms, hiff, fun hascii => hiff.mpr fun m hm => ?_⟩
  have hbytes := byteCount_eq_length_iff.mpr (hascii m hm)
  rw [byteCount_eq_utf8ByteSize, String.ofList_toList, String.length_toList] at hbytes
  rw [hbytes]
  exact longestKey_le_iff.mp (Nat.le_refl _) m hm

/-- A key of one character in two bytes has three blanks behind it. -/
theorem not_isAligned_accented :
    let ms : List TemplateMeta := [⟨"é", "N", "", .minimal, none⟩]
    render ms = "é   minimal       N\n" ∧ longestKey ms = 1 ∧
      ¬ IsAligned (longestKey ms) ms (render ms) := by
  intro ms
  have hwidth : keyWidth ms = 2 := by decide
  have hlongest : longestKey ms = 1 := by decide
  refine ⟨by decide, hlongest, ?_⟩
  rw [isAligned_render_iff (List.cons_ne_nil _ _), hwidth, hlongest]
  decide

end Vitae.Table
