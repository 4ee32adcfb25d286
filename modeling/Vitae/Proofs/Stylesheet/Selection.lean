import Mathlib.Data.Prod.Lex
import Vitae.Proofs.Markup.Class
import Vitae.Stylesheet.Basic

/-! # What a selector selects

A selector as browsers read it: texts between commas, each a row of simple selectors between blanks,
of which the last is about the element itself and the others about elements that it stands in. Under
a prefix that is a word, what is read is what the writer of a rule meant. -/

namespace Vitae

open Text (IsWord)

namespace Css

/-- One simple selector. What stands before or after an element is no element of its own. -/
inductive Simple where
  | any
  | root
  | tag (name : List Char)
  | class (token : List Char)
  | pseudoElement
  deriving DecidableEq, Repr

namespace Simple

def read (cs : List Char) : Simple :=
  if cs = ['*'] then any
  else if cs = ":root".toList then root
  else if cs.head? = some '.' then .class cs.tail
  else if ':' ∈ cs then pseudoElement
  else tag cs

def countsAsClass : Simple → Bool
  | root | .class _ => true
  | any | tag _ | pseudoElement => false

def countsAsTag : Simple → Bool
  | tag _ | pseudoElement => true
  | any | root | .class _ => false

/-- Whether the selector holds of an element that stands in `above`, the innermost first. -/
def Holds (p : String) (s : Simple) (above : List Node) : Node → Prop
  | .text _ => False
  | .element t classes _ _ =>
    match s with
    | any => True
    | root => above = []
    | tag name => name = t.name.toList
    | .class token => ∃ c ∈ classes, token = (c.token p).toList
    | pseudoElement => False

end Simple

/-- Whether each selector holds of an element that those before it stand in. -/
def HoldAbove (p : String) : List Simple → List Node → Prop
  | [], _ => True
  | s :: ss, above => ∃ n rest, n :: rest <:+ above ∧ s.Holds p rest n ∧ HoldAbove p ss rest

/-- Whether a row of simple selectors, the one about the element itself first, selects it. -/
def Selects (p : String) (above : List Node) (e : Node) : List Simple → Prop
  | [] => False
  | s :: ss => s.Holds p above e ∧ HoldAbove p ss above

def weight (ss : List Simple) : ℕ ×ₗ ℕ :=
  toLex (ss.countP Simple.countsAsClass, ss.countP Simple.countsAsTag)

/-! ## Reading -/

/-- The texts between blanks. -/
def words (cs : List Char) : List (List Char) := (cs.splitOn ' ').filter (· ≠ [])

def readOne (cs : List Char) : List Simple := ((words cs).map Simple.read).reverse

def read (selector : String) : List (List Simple) := (selector.toList.splitOn ',').map readOne

theorem words_cons_blank (cs : List Char) : words (' ' :: cs) = words cs := by
  have h : (' ' :: cs).splitOn ' ' = [] :: cs.splitOn ' ' :=
    List.splitOn_append_cons_self_of_not_mem List.not_mem_nil cs
  rw [words, h]
  rfl

theorem words_of_not_mem {cs : List Char} (h : ' ' ∉ cs) (hn : cs ≠ []) : words cs = [cs] := by
  rw [words, List.splitOn_eq_singleton h]
  simp [hn]

theorem words_append_blank {cs ds : List Char} (h : ' ' ∉ cs) (hn : cs ≠ []) :
    words (cs ++ ' ' :: ds) = cs :: words ds := by
  rw [words, List.splitOn_append_cons_self_of_not_mem h]
  simp [hn, words]

/-- A blank behind every comma belongs to the text that follows. -/
theorem intercalate_comma_blank (cs : List Char) (css : List (List Char)) :
    [',', ' '].intercalate (cs :: css) = [','].intercalate (cs :: css.map (' ' :: ·)) := by
  induction css generalizing cs with
  | nil => rfl
  | cons ds css ih =>
    rw [List.intercalate_cons_cons, ih, List.map_cons, List.intercalate_cons_cons,
      List.intercalate_cons_cons_left]
    simp

theorem read_cons_dot (cs : List Char) : Simple.read ('.' :: cs) = .class cs := by
  simp [Simple.read]

end Css

/-! ## Reading what is written -/

section

open Css

variable {p : String}

/-- What is meant by a selector, the part about the element itself first. -/
def Target.simple : Target → Simple
  | any => .any
  | anyBefore | anyAfter => .pseudoElement
  | tag t => .tag t.name.toList

def Selector.simples (p : String) : Selector → List Simple
  | root => [.root]
  | .class c => [.class (c.token p).toList]
  | inside c target => [target.simple, .class (c.token p).toList]

theorem Target.map_read_words (t : Target) :
    (words t.text.toList).map Simple.read = [t.simple] := by
  have hb : ' ' ∉ t.text.toList ∧ t.text.toList ≠ [] ∧ Simple.read t.text.toList = t.simple := by
    cases t with
    | tag t => cases t <;> decide
    | _ => decide
  obtain ⟨hb, hn, hr⟩ := hb
  rw [words_of_not_mem hb hn, List.map_singleton, hr]

theorem Class.not_mem_dot_token (hp : IsWord p) (c : Class) {x : Char} (hx : x ≠ '.')
    (hw : Text.isWordChar x = false) : x ∉ '.' :: (c.token p).toList := by
  intro h
  rcases List.mem_cons.mp h with h | h
  · exact hx h
  · exact (c.isWord_token hp).not_mem hw h

namespace Selector

theorem toList_text_class (c : Class) :
    ((Selector.class c).text p).toList = '.' :: (c.token p).toList := by
  simp [text]

theorem toList_text_inside (c : Class) (target : Target) :
    ((inside c target).text p).toList =
      '.' :: (c.token p).toList ++ ' ' :: target.text.toList := by
  simp [text]

theorem readOne_text (hp : IsWord p) (s : Selector) : readOne (s.text p).toList = s.simples p := by
  cases s with
  | root =>
    change readOne ":root".toList = [.root]
    rw [readOne, words_of_not_mem (by decide) (by decide)]
    decide
  | «class» c =>
    have hb := c.not_mem_dot_token hp (x := ' ') (by decide) rfl
    rw [toList_text_class, readOne, words_of_not_mem hb (List.cons_ne_nil _ _), List.map_singleton,
      read_cons_dot]
    rfl
  | inside c target =>
    have hb := c.not_mem_dot_token hp (x := ' ') (by decide) rfl
    rw [toList_text_inside, readOne, words_append_blank hb (List.cons_ne_nil _ _), List.map_cons,
      target.map_read_words, read_cons_dot]
    rfl

theorem comma_not_mem_text (hp : IsWord p) (s : Selector) : ',' ∉ (s.text p).toList := by
  cases s with
  | root =>
    change ',' ∉ ":root".toList
    decide
  | «class» c =>
    rw [toList_text_class]
    exact c.not_mem_dot_token hp (by decide) rfl
  | inside c target =>
    have ht : ',' ∉ target.text.toList := by
      cases target with
      | tag t => cases t <;> decide
      | _ => decide
    rw [toList_text_inside, List.mem_append, not_or]
    exact ⟨c.not_mem_dot_token hp (by decide) rfl, by simpa using ht⟩

end Selector

/-- The selectors of a rule are read as they were meant. -/
theorem Rule.read_selector_text (hp : IsWord p) {r : Rule} (hs : r.selectors ≠ []) :
    Css.read (r.text p).selector = r.selectors.map (·.simples p) := by
  obtain ⟨s, ss, hss⟩ := List.exists_cons_of_ne_nil hs
  have hcomma : ∀ cs ∈ (s.text p).toList :: (ss.map fun t => (t.text p).toList).map (' ' :: ·),
      ',' ∉ cs := by
    simp only [List.forall_mem_cons, List.forall_mem_map]
    refine ⟨s.comma_not_mem_text hp, fun t _ h => ?_⟩
    rcases List.mem_cons.mp h with h | h
    · cases h
    · exact t.comma_not_mem_text hp h
  rw [text, hss, Css.read, String.toList_intercalate, List.map_map, List.map_cons]
  change ((List.intercalate [',', ' '] ((s.text p).toList :: ss.map fun t => (t.text p).toList)
    ).splitOn ',').map readOne = _
  rw [intercalate_comma_blank, List.splitOn_intercalate ',' hcomma (List.cons_ne_nil _ _),
    List.map_cons, List.map_map, List.map_map, List.map_cons, s.readOne_text hp]
  congr 1
  refine List.map_congr_left fun t _ => ?_
  rw [← t.readOne_text hp, Function.comp_apply, Function.comp_apply, readOne, words_cons_blank,
    readOne]

end

end Vitae
