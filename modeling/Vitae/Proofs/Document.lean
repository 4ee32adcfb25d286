import Vitae.Document
import Vitae.Proofs.Text.EndTag
import Vitae.Proofs.Text.Escape

/-! # Pages that hold together

Whatever the title and the stylesheet of a page are, the elements of its head that hold them end
where the page ends them and nowhere before. A reader finds the title as it was given, the
stylesheet as it was escaped, and the body as it is. -/

namespace Vitae.Document

open Text (IsInert OccursAt escapeHtml escapeStyle tagEnd unescape)

/-! ## The head -/

def preamble : String :=
  "<!DOCTYPE html>\n<html lang=\"en\">\n<head>\n<meta charset=\"utf-8\">\n" ++
    "<meta name=\"viewport\" content=\"width=device-width, initial-scale=1\">\n"

/-- What a text lacks to end a line. -/
def lineEnd (s : String) : String := if s.toList.getLast? = some '\n' then "" else "\n"

/-- What stands between the tags of the style. -/
def styleText (css : String) (medium : Medium) : String :=
  escapeStyle css ++ lineEnd css ++ if medium = .print then pageRules .print else ""

theorem closeLine_eq (s : String) : closeLine s = s ++ lineEnd s := by
  unfold closeLine lineEnd
  split
  · exact (String.append_empty).symm
  · rfl

theorem lineEnd_escapeStyle (css : String) : lineEnd (escapeStyle css) = lineEnd css := by
  unfold lineEnd
  rw [Text.toList_escapeStyle, Text.getLast?_separateSlash]

theorem pageRules_eq (medium : Medium) :
    pageRules medium = if medium = .print then pageRules .print else "" := by
  by_cases h : medium = .print
  · rw [if_pos h, h]
  · cases medium with
    | screen => exact (if_neg h).symm
    | print => exact absurd rfl h

theorem head_eq (css : String) (options : DocumentOptions) :
    head css options = preamble ++ "<title>" ++ escapeHtml options.title ++ "</title>\n" ++
      "<style>\n" ++ styleText css options.medium ++ "</style>\n</head>\n" := by
  unfold head preamble styleText
  rw [closeLine_eq, lineEnd_escapeStyle, pageRules_eq]
  simp only [String.append_assoc, -String.reduceAppend]

theorem assemble_eq (body css : String) (options : DocumentOptions) :
    assemble body css options =
      head css options ++ "<body>\n" ++ body ++ lineEnd body ++ "</body>\n</html>\n" := by
  rw [assemble, closeLine_eq]
  simp only [String.append_assoc]

/-! ## End tags in the head -/

theorem isInert_beforeTitle (title : String) :
    IsInert ((preamble ++ "<title>").toList ++ (escapeHtml title).toList) := by
  have htitle : '<' ∉ (escapeHtml title).toList :=
    Text.notMem_escapeHtml (by decide) (by decide) title
  refine Text.IsInert.append (by decide +kernel) (Text.isInert_of_notMem htitle) ?_
  rintro ⟨hlast, -⟩
  have hend : (preamble ++ "<title>").toList.getLast? = some '>' := by
    rw [String.toList_append, List.getLast?_append]
    rfl
  rw [hend] at hlast
  cases hlast

theorem angle_notMem_pageRules (medium : Medium) : '<' ∉ (pageRules medium).toList := by
  cases medium with
  | screen => exact List.not_mem_nil
  | print => decide +kernel

theorem isInert_styleText (css : String) (medium : Medium) :
    IsInert (styleText css medium).toList := by
  have hline : '<' ∉ (lineEnd css).toList := by
    unfold lineEnd
    split <;> decide
  have hrest : '<' ∉ (lineEnd css ++ pageRules medium).toList := by
    rw [String.toList_append, List.mem_append, not_or]
    exact ⟨hline, angle_notMem_pageRules medium⟩
  rw [styleText, ← pageRules_eq, String.append_assoc, String.toList_append]
  refine (Text.isInert_escapeStyle css).append (Text.isInert_of_notMem hrest) ?_
  -- a style that ends in `<` does not end a line, so a line end comes next
  rintro ⟨hlast, hslash⟩
  rw [Text.toList_escapeStyle, Text.getLast?_separateSlash] at hlast
  have hend : lineEnd css = "\n" := by
    rw [lineEnd, hlast]
    rfl
  rw [hend, String.toList_append] at hslash
  cases hslash

theorem isInert_titleEnd (css : String) (medium : Medium) :
    IsInert ("title>\n<style>\n".toList ++ (styleText css medium).toList) := by
  refine Text.IsInert.append (by decide +kernel) (isInert_styleText css medium) ?_
  rintro ⟨hlast, -⟩
  exact absurd hlast (by decide)

/-- The head is cut into inert texts by its own end tags. -/
theorem toList_head (css : String) (options : DocumentOptions) :
    (head css options).toList =
      ((preamble ++ "<title>").toList ++ (escapeHtml options.title).toList) ++
        (tagEnd ++ (("title>\n<style>\n".toList ++ (styleText css options.medium).toList) ++
          (tagEnd ++ ("style>\n".toList ++ (tagEnd ++ "head>\n".toList))))) := by
  rw [head_eq]
  simp [tagEnd]

/-- There are no end tags but these three. -/
theorem occursAt_head (before : List Char) (css : String) (options : DocumentOptions)
    {name : List Char} (hname : name.length ≤ 6) :
    OccursAt (tagEnd ++ name) (head css options).toList before ↔
      before = (preamble ++ "<title>").toList ++ (escapeHtml options.title).toList ∧
        name <+: "title>".toList ∨
      before = ((preamble ++ "<title>").toList ++ (escapeHtml options.title).toList) ++
          (tagEnd ++ ("title>\n<style>\n".toList ++ (styleText css options.medium).toList)) ∧
        name <+: "style>".toList ∨
      before = ((preamble ++ "<title>").toList ++ (escapeHtml options.title).toList) ++
          (tagEnd ++ (("title>\n<style>\n".toList ++ (styleText css options.medium).toList) ++
            (tagEnd ++ "style>\n".toList))) ∧
        name <+: "head>\n".toList := by
  have htitle : ∀ cs, name <+: (("title>\n<style>\n".toList ++ cs) ++
      (tagEnd ++ ("style>\n".toList ++ (tagEnd ++ "head>\n".toList)))).map Char.toLower ↔
        name <+: "title>".toList := fun cs =>
    Text.prefix_map_toLower_append "title>".toList _ hname (by decide)
  have hstyle : name <+: ("style>\n".toList ++ (tagEnd ++ "head>\n".toList)).map Char.toLower ↔
      name <+: "style>".toList :=
    Text.prefix_map_toLower_append "style>".toList ('\n' :: _) hname (by decide)
  have hhead : "head>\n".toList.map Char.toLower = "head>\n".toList := by decide
  rw [toList_head, Text.occursAt_append_tagEnd (isInert_beforeTitle _), htitle]
  simp only [Text.occursAt_append_tagEnd (isInert_titleEnd _ _),
    Text.occursAt_append_tagEnd (show IsInert "style>\n".toList by decide), hstyle, hhead,
    Text.not_occursAt_of_isInert (show IsInert "head>\n".toList by decide)]
  generalize (preamble ++ "<title>").toList ++ (escapeHtml options.title).toList = first
  generalize "title>\n<style>\n".toList ++ (styleText css options.medium).toList = second
  constructor
  · rintro (h | ⟨-, rfl, ⟨rfl, h⟩ | ⟨-, rfl, ⟨rfl, h⟩ | ⟨-, -, hnone⟩⟩⟩)
    · exact .inl h
    · exact .inr (.inl ⟨rfl, h⟩)
    · exact .inr (.inr ⟨rfl, h⟩)
    · exact hnone.elim
  · rintro (h | ⟨rfl, h⟩ | ⟨rfl, h⟩)
    · exact .inl h
    · exact .inr ⟨_, rfl, .inl ⟨rfl, h⟩⟩
    · exact .inr ⟨_, rfl, .inr ⟨_, rfl, .inl ⟨rfl, h⟩⟩⟩

theorem occursAt_head_title (before : List Char) (css : String) (options : DocumentOptions) :
    OccursAt "</title".toList (head css options).toList before ↔
      before = (preamble ++ "<title>" ++ escapeHtml options.title).toList := by
  have htitle : "title".toList <+: "title>".toList := by decide
  have hstyle : ¬ "title".toList <+: "style>".toList := by decide
  have hhead : ¬ "title".toList <+: "head>\n".toList := by decide
  have h := occursAt_head before css options (show "title".toList.length ≤ 6 by decide)
  simp only [htitle, hstyle, hhead, and_true, and_false, or_false] at h
  rw [String.toList_append, ← h]
  rfl

theorem occursAt_head_style (before : List Char) (css : String) (options : DocumentOptions) :
    OccursAt "</style".toList (head css options).toList before ↔
      before = (preamble ++ "<title>" ++ escapeHtml options.title ++ "</title>\n" ++
        "<style>\n" ++ styleText css options.medium).toList := by
  have htitle : ¬ "style".toList <+: "title>".toList := by decide
  have hstyle : "style".toList <+: "style>".toList := by decide
  have hhead : ¬ "style".toList <+: "head>\n".toList := by decide
  have hplace : (preamble ++ "<title>" ++ escapeHtml options.title ++ "</title>\n" ++
      "<style>\n" ++ styleText css options.medium).toList =
        ((preamble ++ "<title>").toList ++ (escapeHtml options.title).toList) ++
          (tagEnd ++ ("title>\n<style>\n".toList ++ (styleText css options.medium).toList)) := by
    simp [tagEnd]
  have h := occursAt_head before css options (show "style".toList.length ≤ 6 by decide)
  simp only [htitle, hstyle, hhead, and_true, and_false, false_or, or_false] at h
  rw [hplace, ← h]
  rfl

/-! ## The page -/

end Vitae.Document
