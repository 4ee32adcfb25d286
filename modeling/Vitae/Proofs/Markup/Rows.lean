import Mathlib.Data.List.TakeWhile
import Vitae.Markup.Node

/-! # Rows of markup

Markup is a list of rows, which stand on lines of their own, each indented, or one behind the other
without anything between them. If every row begins and ends with a tag, both ways to write them
leave the same text once the gaps between tags are erased. -/

namespace Vitae

namespace Text

def isGap (c : Char) : Bool := c = ' ' || c = '\n'

/-- At the beginning of a tag, or at the end. -/
def atTag (cs : List Char) : Bool := cs.head?.all (· = '<')

/-- What stands behind a `>`, without the spaces and line ends up to the next tag or the end. -/
def closeGap (cs : List Char) : List Char :=
  if atTag (cs.dropWhile isGap) then cs.dropWhile isGap else cs

/-- Without the spaces and line ends that stand between a `>` and the next `<` or the end. -/
def erase : List Char → List Char
  | [] => []
  | c :: cs => c :: if c = '>' then closeGap (erase cs) else erase cs

variable {cs ds ws : List Char}

theorem closeGap_append (h : atTag ds = true) : closeGap (cs ++ ds) = closeGap cs ++ ds := by
  have hds : ds.dropWhile isGap = ds := by
    cases ds with
    | nil => rfl
    | cons d ds =>
      obtain rfl : d = '<' := by simpa [atTag] using h
      rfl
  rw [closeGap, closeGap, List.dropWhile_append, hds]
  cases hcs : cs.dropWhile isGap with
  | nil =>
    rw [List.isEmpty_nil, if_pos rfl, if_pos h]
    rfl
  | cons c rest =>
    have htag : atTag (c :: rest ++ ds) = atTag (c :: rest) := rfl
    rw [List.isEmpty_cons, if_neg Bool.false_ne_true, htag]
    split <;> rfl

theorem closeGap_of_gap (h : ∀ c ∈ ws, isGap c = true) : closeGap ws = [] := by
  have hws : ws.dropWhile isGap = [] := by
    rw [List.dropWhile_eq_nil_iff]
    exact h
  rw [closeGap, hws]
  rfl

theorem atTag_erase : atTag (erase cs) = atTag cs := by
  cases cs <;> rfl

theorem erase_append (h : atTag ds = true) : erase (cs ++ ds) = erase cs ++ erase ds := by
  induction cs with
  | nil => rfl
  | cons c cs ih =>
    rw [List.cons_append, erase, erase, ih, closeGap_append (atTag_erase.trans h)]
    split <;> rfl

/-- What is left of a text depends on what is left of its end. -/
theorem erase_append_congr (h : erase ds = erase ws) : erase (cs ++ ds) = erase (cs ++ ws) := by
  induction cs with
  | nil => exact h
  | cons c cs ih => rw [List.cons_append, List.cons_append, erase, erase, ih]

theorem erase_of_gap (h : ∀ c ∈ ws, isGap c = true) : erase ws = ws := by
  induction ws with
  | nil => rfl
  | cons c ws ih =>
    obtain ⟨hc, hws⟩ := List.forall_mem_cons.mp h
    rw [erase, ih hws, if_neg]
    rintro rfl
    cases hc

/-- A gap behind a tag is gone. -/
theorem erase_append_gap (h : ∀ c ∈ ws, isGap c = true) :
    erase (cs ++ ['>'] ++ ws) = erase (cs ++ ['>']) := by
  rw [List.append_assoc]
  refine erase_append_congr ?_
  rw [List.singleton_append, erase, erase, if_pos rfl, if_pos rfl, erase_of_gap h,
    closeGap_of_gap h]
  rfl

example : erase "<p>\n  <b> a </b> </p>\n".toList = "<p><b> a </b></p>".toList := by decide

end Text

namespace Node

open Text (erase isGap atTag)

variable {p : String}

/-! ## Rows of a tree -/

mutual

/-- The rows of a tree, each with its depth. -/
def rows (p : String) (depth : ℕ) : Node → List (ℕ × String)
  | text s => [(depth, Text.escapeHtml s)]
  | element tag classes attributes children =>
    if tag.isVoid then [(depth, openingTag p tag classes attributes)]
    else if children.all isText then
      [(depth, openingTag p tag classes attributes ++
        (compactAll p children ++ closingTag tag))]
    else
      (depth, openingTag p tag classes attributes) ::
        (rowsAll p (depth + 1) children ++ [(depth, closingTag tag)])

def rowsAll (p : String) (depth : ℕ) : List Node → List (ℕ × String)
  | [] => []
  | n :: ns => n.rows p depth ++ rowsAll p depth ns

end

def onOneLine (rows : List (ℕ × String)) : String := String.join (rows.map Prod.snd)

def onLines (rows : List (ℕ × String)) : String :=
  String.join (rows.map fun (depth, row) => indent depth ++ row ++ "\n")

theorem onOneLine_append (rs ss : List (ℕ × String)) :
    onOneLine (rs ++ ss) = onOneLine rs ++ onOneLine ss := by
  rw [onOneLine, List.map_append, String.join_append]
  rfl

theorem onLines_append (rs ss : List (ℕ × String)) :
    onLines (rs ++ ss) = onLines rs ++ onLines ss := by
  rw [onLines, List.map_append, String.join_append]
  rfl

theorem onOneLine_cons (r : ℕ × String) (rs : List (ℕ × String)) :
    onOneLine (r :: rs) = r.2 ++ onOneLine rs := String.join_cons

theorem onLines_cons (r : ℕ × String) (rs : List (ℕ × String)) :
    onLines (r :: rs) = indent r.1 ++ r.2 ++ "\n" ++ onLines rs := String.join_cons

mutual

theorem onOneLine_rows (depth : ℕ) : ∀ n : Node, onOneLine (n.rows p depth) = n.compact p
  | text s => by simp [rows, compact, onOneLine]
  | element tag classes attributes children => by
    rw [rows, compact]
    split
    · simp [onOneLine]
    · split
      · simp [onOneLine]
      · rw [onOneLine_cons, onOneLine_append, onOneLine_rowsAll (depth + 1) children]
        simp [onOneLine]

theorem onOneLine_rowsAll (depth : ℕ) :
    ∀ ns : List Node, onOneLine (rowsAll p depth ns) = compactAll p ns
  | [] => rfl
  | n :: ns => by
    rw [rowsAll, compactAll, onOneLine_append, onOneLine_rows depth n, onOneLine_rowsAll depth ns]

end

mutual

theorem onLines_rows (depth : ℕ) : ∀ n : Node, onLines (n.rows p depth) = n.prettyAt p depth
  | text s => by simp [rows, prettyAt, onLines]
  | element tag classes attributes children => by
    rw [rows, prettyAt]
    split
    · simp [onLines]
    · split
      · simp [onLines, String.append_assoc]
      · rw [onLines_cons, onLines_append, onLines_rowsAll (depth + 1) children]
        simp [onLines, String.append_assoc]

theorem onLines_rowsAll (depth : ℕ) :
    ∀ ns : List Node, onLines (rowsAll p depth ns) = prettyAll p depth ns
  | [] => rfl
  | n :: ns => by
    rw [rowsAll, prettyAll, onLines_append, onLines_rows depth n, onLines_rowsAll depth ns]

end

/-- The first row is as deep as the tree. -/
theorem depth_eq_of_mem_head? {depth : ℕ} {n : Node} {r : ℕ × String}
    (h : r ∈ (n.rows p depth).head?) : r.1 = depth := by
  cases n with
  | text s =>
    cases Option.mem_some_iff.mp h
    rfl
  | element tag classes attributes children =>
    rw [rows] at h
    split at h
    · cases Option.mem_some_iff.mp h
      rfl
    · split at h
      · cases Option.mem_some_iff.mp h
        rfl
      · cases Option.mem_some_iff.mp h
        rfl

/-! ## Gaps between rows -/

/-- Begins and ends with a tag. -/
def IsRow (row : String) : Prop := ∃ cs, row.toList = '<' :: cs ++ ['>']

theorem isRow_append {s t : String} (hs : IsRow s) (ht : IsRow t) (between : String) :
    IsRow (s ++ (between ++ t)) := by
  obtain ⟨cs, hs⟩ := hs
  obtain ⟨ds, ht⟩ := ht
  exact ⟨cs ++ '>' :: between.toList ++ '<' :: ds, by simp [hs, ht]⟩

theorem isRow_openingTag (tag : Tag) (cs : List Class) (as : List (String × String)) :
    IsRow (openingTag p tag cs as) := by
  rw [IsRow, openingTag, String.toList_append, String.append_assoc, String.append_assoc,
    String.toList_append]
  exact ⟨_, rfl⟩

theorem isRow_closingTag (tag : Tag) : IsRow (closingTag tag) :=
  ⟨'/' :: tag.name.toList, by simp [closingTag]⟩

theorem isGap_of_mem_indent {depth : ℕ} : ∀ c ∈ '\n' :: (indent depth).toList, isGap c = true := by
  intro c hc
  rcases List.mem_cons.mp hc with rfl | hc
  · rfl
  · rw [indent, String.toList_ofList] at hc
    rw [List.eq_of_mem_replicate hc]
    rfl

theorem IsRow.erase_append_gap {row : String} (h : IsRow row) {ws : List Char}
    (hws : ∀ c ∈ ws, isGap c = true) : erase (row.toList ++ ws) = erase row.toList := by
  obtain ⟨cs, hcs⟩ := h
  rw [hcs, Text.erase_append_gap hws]

theorem IsRow.atTag_append {row : String} (h : IsRow row) (cs : List Char) :
    atTag (row.toList ++ cs) = true := by
  obtain ⟨ds, hds⟩ := h
  rw [hds]
  rfl

/-- Behind a row it makes no difference whether the others stand on lines of their own. -/
theorem erase_row_append {rows : List (ℕ × String)} (h : ∀ r ∈ rows, IsRow r.2) {row : String}
    (hrow : IsRow row) : erase (row.toList ++ '\n' :: (onLines rows).toList) =
      erase (row.toList ++ (onOneLine rows).toList) := by
  induction rows generalizing row with
  | nil =>
    have hend : ∀ c ∈ ['\n'], isGap c = true := by simp [isGap]
    have hnil : row.toList ++ (onOneLine []).toList = row.toList := List.append_nil _
    rw [hnil]
    exact hrow.erase_append_gap hend
  | cons r rows ih =>
    obtain ⟨hr, hrows⟩ := List.forall_mem_cons.mp h
    have hlines : row.toList ++ '\n' :: (onLines (r :: rows)).toList =
        row.toList ++ '\n' :: (indent r.1).toList ++
          (r.2.toList ++ '\n' :: (onLines rows).toList) := by
      rw [onLines_cons]
      simp
    rw [hlines, Text.erase_append (hr.atTag_append _), hrow.erase_append_gap isGap_of_mem_indent,
      ih hrows hr, onOneLine_cons, String.toList_append, Text.erase_append (hr.atTag_append _)]

/-- So both ways to write rows leave the same, if the first is not indented. -/
theorem erase_onLines {rows : List (ℕ × String)} (h : ∀ r ∈ rows, IsRow r.2)
    (hd : ∀ r ∈ rows.head?, r.1 = 0) :
    erase (onLines rows).toList = erase (onOneLine rows).toList := by
  cases rows with
  | nil => rfl
  | cons r rows =>
    obtain ⟨hr, hrows⟩ := List.forall_mem_cons.mp h
    have hdepth : r.1 = 0 := hd r rfl
    have hlines : (onLines (r :: rows)).toList = r.2.toList ++ '\n' :: (onLines rows).toList := by
      rw [onLines_cons, hdepth]
      simp [indent]
    rw [hlines, erase_row_append hrows hr, onOneLine_cons, String.toList_append]

end Node

end Vitae
