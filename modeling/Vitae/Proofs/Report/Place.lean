import Mathlib
import Vitae.Load
import Vitae.Proofs.Report.Lines
import Vitae.Proofs.Shape.Faults

/-! # Where a fault is said to be

The message of a fault names the place of its bytes. The report that is drawn takes the number of
bytes for a number of characters: it names the same place exactly if nothing but ASCII stands before
the fault, and if it names one at all. -/

namespace Vitae

open Toml

/-! ## Bytes and characters -/

theorem length_le_byteCount (cs : List Char) : cs.length ≤ byteCount cs := by
  induction cs with
  | nil => exact Nat.le_refl 0
  | cons c cs ih =>
    have := c.utf8Size_pos
    rw [byteCount, List.length_cons]
    omega

theorem utf8Size_eq_one_iff {c : Char} : c.utf8Size = 1 ↔ c.toNat < 128 := by
  rw [Char.utf8Size_eq_one_iff, UInt32.le_iff_toNat_le]
  exact Nat.lt_succ_iff.symm

/-- As many bytes as characters are bytes of ASCII. -/
theorem byteCount_eq_length_iff {cs : List Char} :
    byteCount cs = cs.length ↔ ∀ c ∈ cs, c.toNat < 128 := by
  induction cs with
  | nil => simp
  | cons c cs ih =>
    have hpos := c.utf8Size_pos
    have hle := length_le_byteCount cs
    rw [List.forall_mem_cons, ← ih, ← utf8Size_eq_one_iff, byteCount, List.length_cons]
    omega

theorem byteCount_eq_utf8ByteSize (cs : List Char) :
    byteCount cs = (String.ofList cs).utf8ByteSize := by
  induction cs with
  | nil => rfl
  | cons c cs ih =>
    have hcons : String.ofList (c :: cs) = String.singleton c ++ String.ofList cs := by
      rw [String.singleton_eq_ofList, ← String.ofList_append, List.singleton_append]
    rw [byteCount, ih, hcons, String.utf8ByteSize_append, String.utf8ByteSize_singleton]

namespace Report

/-! ## Headings -/

def heading (filename : String) (place : Place) : String :=
  s!"╭─[{filename}:{place.line + 1}:{place.column + 1}]\n"

/-- The text is headed by the reason and, under it, a place in the file. -/
def HeadedAt (filename reason : String) (place : Place) (text : String) : Prop :=
  ∃ n rest, text = "Error: " ++ reason ++ "\n" ++ repeated ' ' n ++ heading filename place ++ rest

theorem append_cons_inj {c : Char} {as bs cs ds : List Char} (ha : c ∉ as) (hb : c ∉ bs)
    (h : as ++ c :: cs = bs ++ c :: ds) : as = bs ∧ cs = ds := by
  rcases List.append_eq_append_iff.mp h with ⟨es, rfl, he⟩ | ⟨es, rfl, he⟩
  all_goals
    cases es with
    | nil =>
      rw [List.nil_append, List.cons_inj_right] at he
      simp [he]
    | cons e es =>
      obtain rfl : c = e := (List.cons.inj he).1
      simp at ha hb

theorem toString_append_inj {m n : Nat} {c : Char} {cs ds : List Char} (hc : c.isDigit = false)
    (h : (toString m).toList ++ c :: cs = (toString n).toList ++ c :: ds) : m = n ∧ cs = ds := by
  have hnot (k : Nat) : c ∉ (toString k).toList := by
    rw [Nat.toString_eq_ofList_toDigits, String.toList_ofList]
    intro hm
    rw [Nat.isDigit_of_mem_toDigits (by decide) (by decide) hm] at hc
    cases hc
  obtain ⟨hmn, hcs⟩ := append_cons_inj (hnot m) (hnot n) h
  refine ⟨?_, hcs⟩
  rw [Nat.toString_eq_ofList_toDigits, Nat.toString_eq_ofList_toDigits, String.toList_ofList,
    String.toList_ofList] at hmn
  rw [← Nat.ofDigitChars_ten_toDigits (n := m), hmn, Nat.ofDigitChars_ten_toDigits]

theorem toList_heading (filename : String) (p : Place) :
    (heading filename p).toList = '╭' :: '─' :: '[' :: (filename.toList ++
      ':' :: ((toString (p.line + 1)).toList ++ ':' :: ((toString (p.column + 1)).toList ++
        ']' :: ['\n']))) := by
  have htoString (s : String) : toString s = s := rfl
  simp [heading, String.toList_append, htoString]

theorem HeadedAt.unique {filename reason text : String} {p q : Place}
    (hp : HeadedAt filename reason p text) (hq : HeadedAt filename reason q text) : p = q := by
  obtain ⟨m, rest, rfl⟩ := hp
  obtain ⟨n, rest', h⟩ := hq
  have h := congrArg String.toList h
  simp only [String.toList_append, List.append_assoc, List.append_cancel_left_eq, toList_heading,
    List.cons_append, List.nil_append] at h
  have hblank (k : Nat) : '╭' ∉ (repeated ' ' k).toList := by
    rw [repeated, String.toList_ofList]
    exact fun hm => absurd (List.eq_of_mem_replicate hm) (by decide)
  obtain ⟨-, h⟩ := append_cons_inj (hblank m) (hblank n) h
  rw [List.cons_inj_right, List.cons_inj_right, List.append_cancel_left_eq,
    List.cons_inj_right] at h
  obtain ⟨hline, h⟩ := toString_append_inj rfl h
  obtain ⟨hcolumn, -⟩ := toString_append_inj rfl h
  obtain ⟨line, column⟩ := p
  obtain ⟨line', column'⟩ := q
  cases Nat.succ.inj hline
  cases Nat.succ.inj hcolumn
  rfl

/-! ## The report -/

section Drawn

variable {source filename reason : String} {span : Span}

theorem lineAt?_drawnLines (hne : source.toList ≠ []) (offset : Nat) :
    lineAt? (drawnLines 0 [] source.toList) offset =
      if offset ≤ source.length then lastFrom (drawnLines 0 [] source.toList) offset
      else none := by
  have hstop := getLast?_drawnLines 0 [] source.toList (by simpa using hne)
  rw [List.length_nil, Nat.add_zero, Nat.zero_add, String.length_toList] at hstop
  rw [lineAt?, hstop]
  simp [lastFrom]

theorem exists_lineAt? (hne : source.toList ≠ []) {offset : Nat} (h : offset ≤ source.length) :
    ∃ i l, lineAt? (drawnLines 0 [] source.toList) offset = some (i, l) := by
  rw [lineAt?_drawnLines hne, if_pos h]
  obtain ⟨c, cs, hcs⟩ := List.exists_cons_of_ne_nil hne
  obtain ⟨l, lines, hlines, -, -, -⟩ := drawnLines_cons 0 [] c cs
  rw [hcs, hlines]
  exact exists_lastFrom l lines offset

theorem not_headedAt_reason {place : Place} :
    ¬HeadedAt filename reason place ("Error: " ++ reason ++ "\n") := by
  rintro ⟨n, rest, h⟩
  have hlength := congrArg (·.toList.length) h
  simp only [String.toList_append, List.length_append, toList_heading, List.length_cons] at hlength
  omega

theorem headedAt_drawn {i j : Nat} {l m : Line}
    (hfirst : lineAt? (drawnLines 0 [] source.toList) span.start = some (i, l))
    (hlast : lineAt? (drawnLines 0 [] source.toList) (max span.start (span.stop - 1)) =
      some (j, m)) :
    HeadedAt filename reason ⟨i, span.start - l.start⟩ (drawn source filename span reason) := by
  rw [drawn, hfirst, hlast]
  let width := (toString (j + 1)).length
  refine ⟨width + 2, repeated ' ' (width + 2) ++ "│\n" ++
    (if i = j then drawnInline width (i + 1) l span reason
      else drawnMultiline width i j l m span reason) ++ repeated '─' (width + 2) ++ "╯\n", ?_⟩
  show "Error: " ++ reason ++ "\n" ++ repeated ' ' (width + 2) ++
    heading filename ⟨i, span.start - l.start⟩ ++ repeated ' ' (width + 2) ++ "│\n" ++ _ ++
    repeated '─' (width + 2) ++ "╯\n" = _
  simp only [String.append_assoc]
  rfl

theorem drawn_eq_reason (h : lineAt? (drawnLines 0 [] source.toList) span.start = none ∨
    lineAt? (drawnLines 0 [] source.toList) (max span.start (span.stop - 1)) = none) :
    drawn source filename span reason = "Error: " ++ reason ++ "\n" := by
  rw [drawn]
  rcases h with h | h
  · rw [h]
  · rw [h]
    split
    · rename_i hnone
      cases hnone
    · rfl

/-- A character is drawn at the place that its bytes have exactly if nothing but ASCII stands before
it. -/
theorem DrawnBehind.place_eq_iff {before : List Char} {i : Nat} {l : Line}
    (hd : DrawnBehind before 0 0 span.start i l) (hstart : byteCount before = span.start) :
    (⟨i, span.start - l.start⟩ : Place) = placeBehind before ↔ ∀ c ∈ before, c.toNat < 128 := by
  have hcolumn := hd.start_eq
  rw [foldl_next_eq_placeBehind] at hcolumn
  have hline : before.count '\n' = (placeBehind before).line := rfl
  constructor
  · intro h
    have hi : i = before.count '\n' := hline ▸ congrArg Place.line h
    have hl : span.start - l.start = (placeBehind before).column := congrArg Place.column h
    have hle := length_le_byteCount before
    have hsum := hcolumn hi
    refine byteCount_eq_length_iff.mp ?_
    omega
  · intro hascii
    have hbytes := byteCount_eq_length_iff.mpr hascii
    have hi := hd.eq_count (by omega) hascii
    have hsum := hcolumn hi
    have hl : span.start - l.start = (placeBehind before).column := by omega
    rw [hi, hl]
    rfl

/-- The report is headed by the place of the bytes exactly if it names a place and these are as many
characters. -/
theorem headedAt_drawn_iff {before after : List Char} (hs : source.toList = before ++ after)
    (hb : IsClean before) (hstart : byteCount before = span.start)
    (hend : after = [] → before = []) :
    HeadedAt filename reason (placeBehind before) (drawn source filename span reason) ↔
      source ≠ "" ∧ (∀ c ∈ before, c.toNat < 128) ∧ span.stop ≤ source.length + 1 := by
  by_cases hafter : after = []
  · have hempty : source.toList = [] := by rw [hs, hend hafter, hafter]; rfl
    have hnone : lineAt? (drawnLines 0 [] source.toList) span.start = none := by
      rw [hempty]
      rfl
    rw [drawn_eq_reason (.inl hnone)]
    exact ⟨fun h => absurd h not_headedAt_reason,
      fun h => absurd (String.toList_eq_nil_iff.mp hempty) h.1⟩
  have hlines : source.toList ≠ [] := by simp [hs, hafter]
  have hne : source ≠ "" := fun h => hlines (String.toList_eq_nil_iff.mpr h)
  have hlength : before.length ≤ span.start := hstart ▸ length_le_byteCount before
  obtain ⟨i, l, hil, hd⟩ : ∃ i l,
      lastFrom (drawnLines 0 [] source.toList) span.start = some (i, l) ∧
        DrawnBehind before 0 0 span.start i l :=
    hs ▸ exists_drawnBehind hb hafter (by simpa using hlength)
  by_cases hshown : max span.start (span.stop - 1) ≤ source.length
  · have hfirst : lineAt? (drawnLines 0 [] source.toList) span.start = some (i, l) := by
      rw [lineAt?_drawnLines hlines, if_pos (by omega), hil]
    obtain ⟨j, m, hlast⟩ := exists_lineAt? hlines hshown
    have hheaded : HeadedAt filename reason ⟨i, span.start - l.start⟩
        (drawn source filename span reason) := headedAt_drawn hfirst hlast
    constructor
    · intro h
      exact ⟨hne, (hd.place_eq_iff hstart).mp (hheaded.unique h), by omega⟩
    · rintro ⟨-, hascii, -⟩
      rwa [← (hd.place_eq_iff hstart).mpr hascii]
  · rw [drawn_eq_reason (.inr (by rw [lineAt?_drawnLines hlines, if_neg hshown]))]
    refine ⟨fun h => absurd h not_headedAt_reason, ?_⟩
    rintro ⟨-, hascii, hstop⟩
    have hbytes := byteCount_eq_length_iff.mpr hascii
    have hwithin : before.length ≤ source.length := by
      rw [← String.length_toList, hs, List.length_append]
      exact Nat.le_add_right _ _
    omega

end Drawn

/-! ## The message -/

def caretHeading (place : Place) : String :=
  s!"TOML parse error at line {place.line + 1}, column {place.column + 1}\n"

theorem exists_caret_eq {source : String} {span : Span} {before after : List Char}
    (reason : String) (hs : source.toList = before ++ after)
    (hstart : byteCount before = span.start) :
    ∃ rest, caret source span reason = caretHeading (placeBehind before) ++ rest := by
  have hplace : placeAfter span.start source.toList ⟨0, 0⟩ = placeBehind before := by
    rw [hs, ← hstart, placeAfter_append, foldl_next_eq_placeBehind]
  have htoString (s : String) : toString s = s := rfl
  unfold caret caretHeading
  rw [hplace]
  simp only [htoString, String.append_assoc]
  exact ⟨_, rfl⟩

end Report

theorem LoadError.exists_message_eq {source : String} {fault : Fault} {before after : List Char}
    (hs : source.toList = before ++ after) (hstart : byteCount before = fault.span.start) :
    ∃ rest, (LoadError.toml source (.misfit fault)).message =
      "failed to parse TOML: " ++ Report.caretHeading (Report.placeBehind before) ++ rest := by
  obtain ⟨rest, hrest⟩ := Report.exists_caret_eq (tomlReason fault) hs hstart
  refine ⟨rest, ?_⟩
  show "failed to parse TOML: " ++ Report.caret source fault.span _ = _
  rw [hrest, String.append_assoc]

/-- The fault that a text is refused for stands behind some part of the text. The message names the
place behind that part, in lines that line feeds end, and in characters. The report names the same
place exactly if there is nothing in that part but ASCII and the fault does not reach further than
there are characters; it always does so for a text of ASCII that is not empty. -/
theorem Shape.report_of_misfit {α : Type} (shape : Shape α) {source : String} {fault : Fault}
    (h : shape.loadToml source = .error (.toml source (.misfit fault))) (filename : String) :
    ∃ before after : String, source = before ++ after ∧ before.utf8ByteSize = fault.span.start ∧
      let e := LoadError.toml source (.misfit fault)
      let place := Report.placeBehind before.toList
      let isHeaded := Report.HeadedAt filename (LoadError.tomlReason fault) place
        (e.report filename)
      (∃ rest, e.message = "failed to parse TOML: " ++ Report.caretHeading place ++ rest) ∧
      (isHeaded ↔ source ≠ "" ∧ (∀ c ∈ before.toList, c.toNat < 128) ∧
        fault.span.stop ≤ source.length + 1) ∧
      (source ≠ "" → (∀ c ∈ source.toList, c.toNat < 128) → isHeaded) := by
  have hmisfit : shape.ofTomlText source = .error (.misfit fault) := by
    obtain ⟨e, he, h⟩ := mapError_eq_error h
    cases h
    exact he
  obtain ⟨⟨before, after, hs, hb, hstart, hend⟩, hstop⟩ := Shape.liesIn_of_misfit hmisfit
  have hiff := @Report.headedAt_drawn_iff source filename (LoadError.tomlReason fault) _ _ _ hs hb
    hstart hend
  refine ⟨String.ofList before, String.ofList after, ?_, ?_, ?_, ?_, ?_⟩
  · rw [← String.ofList_append, ← hs, String.ofList_toList]
  · rw [← byteCount_eq_utf8ByteSize, hstart]
  all_goals rw [String.toList_ofList]
  · exact LoadError.exists_message_eq hs hstart
  · exact hiff
  · intro hne hascii
    refine hiff.mpr ⟨hne, fun c hc => hascii c ?_, ?_⟩
    · rw [hs]
      exact List.mem_append_left _ hc
    · rw [byteCount_eq_length_iff.mpr hascii, String.length_toList] at hstop
      omega

/-- A number in the place of a key, in a text of ASCII. -/
theorem Shape.report_of_misfit_number :
    let source := "key = 1\n"
    let fault : Fault := ⟨.wrongType (.integer 1) "a string", ⟨6, 7⟩⟩
    let e := LoadError.toml source (.misfit fault)
    CustomSpec.shape.loadToml source = .error e ∧
      ∃ before after : String, source = before ++ after ∧ before.utf8ByteSize = 6 ∧
        Report.HeadedAt "t.toml" (LoadError.tomlReason fault) (Report.placeBehind before.toList)
          (e.report "t.toml") := by
  intro source fault e
  have h : CustomSpec.shape.loadToml source = .error e := by cbv
  have hascii : source.toList.all (·.toNat < 128) = true := by decide
  obtain ⟨before, after, hs, hstart, -, -, hheaded⟩ :=
    Shape.report_of_misfit CustomSpec.shape h "t.toml"
  exact ⟨h, before, after, hs, hstart, hheaded (by decide) fun c hc =>
    of_decide_eq_true (List.all_eq_true.mp hascii c hc)⟩

/-- A character of two bytes moves the report one column to the right of the place in the
message. -/
theorem CustomSpec.report_beside_fault :
    let source := "key = \"é\"\nname = \"n\"\ncategory = \"retro\"\n"
    let fault : Fault := ⟨.unknownVariant "retro" (Category.all.map Category.name), ⟨33, 40⟩⟩
    let e := LoadError.toml source (.misfit fault)
    CustomSpec.load (.ok source) = .error e ∧
      (∃ rest, e.message =
        "failed to parse TOML: TOML parse error at line 3, column 12\n" ++ rest) ∧
      Report.HeadedAt "t.toml" (LoadError.tomlReason fault) ⟨2, 12⟩ (e.report "t.toml") ∧
      ¬Report.HeadedAt "t.toml" (LoadError.tomlReason fault) ⟨2, 11⟩ (e.report "t.toml") := by
  intro source fault e
  let before := "key = \"é\"\nname = \"n\"\ncategory = ".toList
  have hs : source.toList = before ++ "\"retro\"\n".toList := by decide
  have hplace : Report.placeBehind before = ⟨2, 11⟩ := by decide
  have hstart : byteCount before = fault.span.start := by decide
  let third : Report.Line := ⟨21, "category = \"retro\"\n".toList⟩
  have hheaded : Report.HeadedAt "t.toml" (LoadError.tomlReason fault) ⟨2, 12⟩
      (e.report "t.toml") :=
    Report.headedAt_drawn (j := 2) (l := third) (m := third) (by cbv) (by cbv)
  refine ⟨by cbv, ?_, hheaded, fun h => ?_⟩
  · have hmessage := LoadError.exists_message_eq hs hstart
    rwa [hplace] at hmessage
  · cases hheaded.unique h

end Vitae
