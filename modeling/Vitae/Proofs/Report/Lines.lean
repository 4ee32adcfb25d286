import Mathlib.Data.List.DropRight
import Vitae.Proofs.Toml.Passing
import Vitae.Report.Drawn

/-! # Two ways to count lines

A place is found once by its bytes, in lines that line feeds end, and once by its characters, in
lines that other characters end as well. -/

namespace Vitae.Report

open Toml

/-! ## Lines that line feeds end -/

/-- The place behind a text: the line feeds in it, and the characters behind the last of them. -/
def placeBehind (cs : List Char) : Place :=
  ⟨cs.count '\n', (cs.rtakeWhile (· ≠ '\n')).length⟩

def Place.next (p : Place) (c : Char) : Place :=
  if c = '\n' then ⟨p.line + 1, 0⟩ else ⟨p.line, p.column + 1⟩

theorem foldl_next_eq_placeBehind (cs : List Char) :
    cs.foldl Place.next ⟨0, 0⟩ = placeBehind cs := by
  induction cs using List.reverseRecOn with
  | nil => rfl
  | append_singleton cs c ih =>
    rw [List.foldl_append, ih, List.foldl_cons, List.foldl_nil, Place.next, placeBehind,
      placeBehind, List.rtakeWhile_concat]
    by_cases hc : c = '\n' <;> simp [hc, List.count_append]

theorem placeAfter_append (before after : List Char) (p : Place) :
    placeAfter (byteCount before) (before ++ after) p = before.foldl Place.next p := by
  induction before generalizing p with
  | nil => cases after <;> rfl
  | cons c before ih =>
    have hpos : byteCount (c :: before) ≠ 0 := by
      have := c.utf8Size_pos
      rw [byteCount]
      omega
    rw [List.cons_append, placeAfter, if_neg hpos, byteCount, Nat.add_sub_cancel_left, ih]
    rfl

/-- The column does not depend on the number of the line. -/
theorem foldl_next_column (cs : List Char) {p q : Place} (h : p.column = q.column) :
    (cs.foldl Place.next p).column = (cs.foldl Place.next q).column := by
  induction cs generalizing p q with
  | nil => exact h
  | cons c cs ih =>
    refine ih ?_
    rw [Place.next, Place.next]
    split
    · rfl
    · exact congrArg (· + 1) h

/-! ## Lines as they are drawn -/

/-- The last line that begins at or before a character. -/
def lastFrom (lines : List Line) (offset : Nat) : Option (Nat × Line) :=
  let i := (lines.takeWhile (·.start ≤ offset)).length - 1
  lines[i]?.map (i, ·)

variable {start offset : Nat} {line : List Char}

theorem lastFrom_cons {l : Line} {lines : List Line} (hl : l.start ≤ offset) :
    lastFrom (l :: lines) offset =
      if lines.head?.any (·.start ≤ offset) then
        (lastFrom lines offset).map fun (i, m) => (i + 1, m)
      else some (0, l) := by
  cases lines with
  | nil => simp [lastFrom, hl]
  | cons m ms =>
    by_cases hm : m.start ≤ offset
    · simp [lastFrom, hl, hm, Function.comp_def]
    · simp [lastFrom, hl, hm]

theorem exists_lastFrom (l : Line) (lines : List Line) (offset : Nat) :
    ∃ i m, lastFrom (l :: lines) offset = some (i, m) := by
  have hlt : ((l :: lines).takeWhile (·.start ≤ offset)).length - 1 < (l :: lines).length := by
    have hle := (List.takeWhile_prefix (l := l :: lines) (·.start ≤ offset)).length_le
    rw [List.length_cons] at hle ⊢
    omega
  exact ⟨_, _, by rw [lastFrom, List.getElem?_eq_getElem hlt]; rfl⟩

theorem head?_drawnLines (start : Nat) (line cs : List Char) :
    ∀ m ∈ (drawnLines start line cs).head?, m.start = start := by
  fun_induction drawnLines start line cs with
  | case1 | case2 => simp
  | case3 | case4 => rintro m ⟨⟩; rfl
  | case5 _ _ _ _ _ _ ih => exact ih

/-- What is drawn of a text that is not empty begins with a line that reaches behind its first
character, and the next line begins where it ends. -/
theorem drawnLines_cons (start : Nat) (line : List Char) (c : Char) (cs : List Char) :
    ∃ l lines, drawnLines start line (c :: cs) = l :: lines ∧ l.start = start ∧
      start + line.length < l.stop ∧ ∀ m ∈ lines.head?, m.start = l.stop := by
  generalize he : c :: cs = ds
  fun_induction drawnLines start line ds generalizing c cs with
  | case1 | case2 => cases he
  | case3 start line _ l | case4 start line _ _ _ _ l =>
    refine ⟨_, _, rfl, rfl, ?_, head?_drawnLines _ _ _⟩
    simp [l, Line.stop]
  | case5 start line d ds _ _ ih =>
    cases ds with
    | nil =>
      refine ⟨⟨start, (d :: line).reverse⟩, [], rfl, rfl, ?_, by simp⟩
      simp [Line.stop]
    | cons d' ds =>
      obtain ⟨l, lines, hl, hstart, hstop, hnext⟩ := ih d' ds rfl
      refine ⟨l, lines, hl, hstart, ?_, hnext⟩
      rw [List.length_cons] at hstop
      omega

theorem getLast?_cons_drawnLines (l : Line) {cs : List Char}
    (h : cs ≠ [] → (drawnLines l.stop [] cs).getLast?.map Line.stop = some (l.stop + cs.length)) :
    (l :: drawnLines l.stop [] cs).getLast?.map Line.stop = some (l.stop + cs.length) := by
  cases cs with
  | nil => rfl
  | cons c cs =>
    have hrest := h (List.cons_ne_nil c cs)
    obtain ⟨m, hm, hstop⟩ := Option.map_eq_some_iff.mp hrest
    rw [List.getLast?_cons, hm, Option.getD_some, Option.map_some, hstop]

/-- The text ends where its last line does. -/
theorem getLast?_drawnLines (start : Nat) (line cs : List Char) (h : line ++ cs ≠ []) :
    (drawnLines start line cs).getLast?.map Line.stop = some (start + line.length + cs.length) := by
  fun_induction drawnLines start line cs with
  | case1 start line hline => simp_all
  | case2 => simp [Line.stop]
  | case3 start line cs l ih =>
    rw [getLast?_cons_drawnLines l fun hcs => by simpa using ih (by simpa using hcs)]
    simp [l, Line.stop]
    omega
  | case4 start line c cs _ _ l ih =>
    rw [getLast?_cons_drawnLines l fun hcs => by simpa using ih (by simpa using hcs)]
    simp [l, Line.stop]
    omega
  | case5 start line c cs _ _ ih =>
    rw [ih (by simp), List.length_cons, List.length_cons]
    congr 1
    omega

/-! ## Both together -/

theorem endsLine_eq_false {c : Char} (hc : Scan.isPlain c = true) (hlt : c.toNat < 128) :
    endsLine c = false := by
  have hall : ∀ n < 128, Scan.isPlain (Char.ofNat n) = true → endsLine (Char.ofNat n) = false := by
    decide
  rw [← Char.ofNat_toNat c] at hc ⊢
  exact hall _ hlt hc

theorem drawnLines_of_ne {a : Char} (ha : a ≠ '\r') (start : Nat) (line cs : List Char) :
    drawnLines start line (a :: cs) =
      if endsLine a then
        let l : Line := ⟨start, (a :: line).reverse⟩
        l :: drawnLines l.stop [] cs
      else drawnLines start (a :: line) cs := by
  rw [drawnLines]
  exact fun _ h => absurd h ha

/-- Where a character is drawn that stands behind clean text, when `column` characters of the line
have gone before. -/
structure DrawnBehind (before : List Char) (start column offset : Nat) (i : Nat) (l : Line) :
    Prop where
  /-- No fewer lines are drawn than line feeds end. -/
  count_le : before.count '\n' ≤ i
  /-- As many are only if the line begins where it does for the line feeds. -/
  start_eq : i = before.count '\n' →
    l.start + (before.foldl Place.next ⟨0, column⟩).column = start + column + before.length
  /-- As many are if nothing but ASCII has gone before. -/
  eq_count : offset = start + column + before.length → (∀ a ∈ before, a.toNat < 128) →
    i = before.count '\n'

namespace DrawnBehind

variable {before : List Char} {column i : Nat} {l : Line} {a : Char}

theorem plain (hlf : a ≠ '\n') (h : DrawnBehind before start (column + 1) offset i l) :
    DrawnBehind (a :: before) start column offset i l where
  count_le := by
    rw [List.count_cons_of_ne hlf]
    exact h.count_le
  start_eq := fun hi => by
    have hnext : Place.next ⟨0, column⟩ a = ⟨0, column + 1⟩ := if_neg hlf
    rw [List.count_cons_of_ne hlf] at hi
    rw [List.foldl_cons, hnext, h.start_eq hi, List.length_cons]
    omega
  eq_count := fun ho ha => by
    rw [List.count_cons_of_ne hlf]
    rw [List.length_cons] at ho
    exact h.eq_count (by omega) fun b hb => ha b (List.mem_cons_of_mem _ hb)

/-- A character that ends a line, though it is no line feed, makes one line more. -/
theorem otherEnd (hlf : a ≠ '\n') (ha : ¬a.toNat < 128)
    (h : DrawnBehind before (start + column + 1) 0 offset i l) :
    DrawnBehind (a :: before) start column offset (i + 1) l where
  count_le := by
    rw [List.count_cons_of_ne hlf]
    exact h.count_le.trans (Nat.le_succ i)
  start_eq := fun hi => by
    have hle := h.count_le
    rw [List.count_cons_of_ne hlf] at hi
    omega
  eq_count := fun _ hall => absurd (hall a List.mem_cons_self) ha

theorem lineFeed (ended : List Char) (hcount : ended.count '\n' = 1)
    (hcolumn : (ended.foldl Place.next ⟨0, column⟩).column = 0)
    (h : DrawnBehind before (start + column + ended.length) 0 offset i l) :
    DrawnBehind (ended ++ before) start column offset (i + 1) l where
  count_le := by
    have hle := h.count_le
    rw [List.count_append, hcount]
    omega
  start_eq := fun hi => by
    rw [List.count_append, hcount] at hi
    rw [List.foldl_append, foldl_next_column before (q := ⟨0, 0⟩) hcolumn, h.start_eq (by omega),
      List.length_append]
    omega
  eq_count := fun ho hall => by
    rw [List.length_append] at ho
    rw [List.count_append, hcount, h.eq_count (by omega) fun a ha =>
      hall a (List.mem_append_right _ ha)]
    omega

end DrawnBehind

/-- A line that ends before the character puts those behind it one further. -/
theorem lastFrom_ended (ended : List Char) {i : Nat} {m : Line} {cs : List Char}
    (hle : start + line.length + ended.length ≤ offset) (hcs : cs ≠ [])
    (h : lastFrom (drawnLines (start + line.length + ended.length) [] cs) offset = some (i, m)) :
    let l : Line := ⟨start, (ended.reverse ++ line).reverse⟩
    lastFrom (l :: drawnLines l.stop [] cs) offset = some (i + 1, m) := by
  intro l
  have hstop : l.stop = start + line.length + ended.length := by
    simp [l, Line.stop]
    omega
  have hl : l.start ≤ offset := by
    show start ≤ offset
    omega
  obtain ⟨c, cs, rfl⟩ := List.exists_cons_of_ne_nil hcs
  obtain ⟨next, lines, hlines, hnext, -, -⟩ := drawnLines_cons l.stop [] c cs
  rw [← hstop, hlines] at h
  rw [lastFrom_cons hl, hlines, h, List.head?_cons, Option.any_some, hnext, hstop]
  simp [hle]

/-- The character that comes next is drawn in the line that goes on. -/
theorem exists_drawnBehind_nil {after : List Char} (ha : after ≠ [])
    (h : start + line.length ≤ offset) :
    ∃ i l, lastFrom (drawnLines start line after) offset = some (i, l) ∧
      DrawnBehind [] start line.length offset i l := by
  obtain ⟨c, cs, rfl⟩ := List.exists_cons_of_ne_nil ha
  obtain ⟨l, lines, hl, hstart, hstop, hnext⟩ := drawnLines_cons start line c cs
  have hle : l.start ≤ offset := by
    rw [hstart]
    exact (Nat.le_add_right _ _).trans h
  obtain ⟨i, m, hm⟩ := exists_lastFrom l lines offset
  refine ⟨i, m, by rw [hl, hm], Nat.zero_le i, ?_, ?_⟩
  · rintro rfl
    rw [lastFrom_cons hle] at hm
    split at hm
    · obtain ⟨⟨j, m⟩, -, hj⟩ := Option.map_eq_some_iff.mp hm
      cases hj
    · cases hm
      rw [hstart]
      rfl
  · rintro rfl _
    have hlate : lines.head?.any (·.start ≤ start + line.length) = false := by
      cases lines with
      | nil => rfl
      | cons m lines =>
        have := hnext m rfl
        simp
        omega
    rw [List.length_nil, Nat.add_zero, lastFrom_cons (by omega), hlate] at hm
    cases hm
    rfl

theorem exists_drawnBehind {before after : List Char} (hb : IsClean before) (ha : after ≠ [])
    (h : start + line.length + before.length ≤ offset) :
    ∃ i l, lastFrom (drawnLines start line (before ++ after)) offset = some (i, l) ∧
      DrawnBehind before start line.length offset i l := by
  have hne (cs : List Char) : cs ++ after ≠ [] := List.append_ne_nil_of_right_ne_nil cs ha
  induction hb generalizing start line with
  | nil => exact exists_drawnBehind_nil ha h
  | @plain a before ha hcs ih =>
    have hcr : a ≠ '\r' := by rintro rfl; cases ha
    have hlf : a ≠ '\n' := by rintro rfl; cases ha
    rw [List.length_cons] at h
    rw [List.cons_append, drawnLines_of_ne hcr]
    cases hends : endsLine a with
    | false =>
      obtain ⟨i, l, hil, hd⟩ := @ih start (a :: line) (by rw [List.length_cons]; omega)
      exact ⟨i, l, hil, hd.plain hlf⟩
    | true =>
      have hascii : ¬a.toNat < 128 := fun hlt => by
        rw [endsLine_eq_false ha hlt] at hends
        cases hends
      obtain ⟨i, l, hil, hd⟩ := @ih (start + line.length + 1) [] (by rw [List.length_nil]; omega)
      exact ⟨i + 1, l, lastFrom_ended [a] (by simp; omega) (hne before) hil, hd.otherEnd hlf hascii⟩
  | @lineFeed before hcs ih =>
    rw [List.length_cons] at h
    rw [List.cons_append, drawnLines_of_ne (by decide)]
    obtain ⟨i, l, hil, hd⟩ := @ih (start + line.length + 1) [] (by rw [List.length_nil]; omega)
    exact ⟨i + 1, l, lastFrom_ended ['\n'] (by simp; omega) (hne before) hil,
      .lineFeed ['\n'] rfl rfl hd⟩
  | @carriageReturn before hcs ih =>
    rw [List.length_cons, List.length_cons] at h
    rw [List.cons_append, List.cons_append, drawnLines]
    obtain ⟨i, l, hil, hd⟩ := @ih (start + line.length + 2) [] (by rw [List.length_nil]; omega)
    exact ⟨i + 1, l, lastFrom_ended ['\r', '\n'] (by simp; omega) (hne before) hil,
      .lineFeed ['\r', '\n'] rfl rfl hd⟩

end Vitae.Report
