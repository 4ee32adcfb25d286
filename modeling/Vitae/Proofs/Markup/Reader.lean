import Vitae.Proofs.Markup.Class
import Vitae.Proofs.Markup.Walk
import Vitae.Proofs.Text.Escape
import Vitae.Proofs.Text.Scan

/-! # Reading markup

A reader of compact markup goes through it once, character by character. It keeps the elements that
are still open, the nodes it has found in the innermost of them, and its place in a text or a tag. A
closing tag must name the element that it closes, and a class must be one of those that a page may
carry. What `openingTag`, `closingTag` and `writeAttribute` write takes the reader to exactly the
state they mean. -/

namespace Vitae

namespace Reader

open Text (IsWord escapeHtml unescape)

/-- An attribute as it stands in a tag. -/
abbrev RawAttribute := List Char × List Char

/-- An element that is still open, and the nodes before it. -/
structure Opened where
  before : List Node
  tag : Tag
  classes : List Class
  attributes : List (String × String)

/-- The reader's place, with what it has read since the last delimiter. -/
inductive Mode where
  | text (raw : List Char)
  | tagName (name : List Char)
  | attributeName (tag : List Char) (done : List RawAttribute) (name : List Char)
  | beforeValue (tag : List Char) (done : List RawAttribute) (name : List Char)
  | value (tag : List Char) (done : List RawAttribute) (name raw : List Char)
  | afterValue (tag : List Char) (done : List RawAttribute)

structure State where
  above : List Opened
  nodes : List Node
  mode : Mode

/-- No text stands where there is nothing between two tags. -/
def textNodes (raw : List Char) : List Node :=
  if raw = [] then [] else [.text (String.ofList (unescape raw))]

def class? (p : String) (token : List Char) : Option Class :=
  Class.all.find? fun c => (c.token p).toList = token

def classes? (p : String) (value : List Char) : Option (List Class) :=
  (value.splitOn ' ').mapM (class? p)

def attributeOf (a : RawAttribute) : String × String :=
  (String.ofList a.1, String.ofList (unescape a.2))

/-- The classes come first, if there are any. -/
def attributes? (p : String) : List RawAttribute → Option (List Class × List (String × String))
  | [] => some ([], [])
  | a :: as =>
    if a.1 = "class".toList then (classes? p a.2).map (·, as.map attributeOf)
    else some ([], (a :: as).map attributeOf)

def tag? (name : List Char) : Option Tag := Tag.all.find? (·.name.toList = name)

def enter (p : String) (above : List Opened) (nodes : List Node) (name : List Char)
    (as : List RawAttribute) : Option State :=
  (tag? name).bind fun tag => (attributes? p as).map fun (classes, attributes) =>
    if tag.isVoid then ⟨above, nodes ++ [.element tag classes attributes []], .text []⟩
    else ⟨⟨nodes, tag, classes, attributes⟩ :: above, [], .text []⟩

def leave (nodes : List Node) (name : List Char) : List Opened → Option State
  | [] => none
  | o :: above =>
    if o.tag.name.toList = name then
      some ⟨above, o.before ++ [.element o.tag o.classes o.attributes nodes], .text []⟩
    else none

def step (p : String) : State → Char → Option State
  | ⟨above, nodes, .text raw⟩, c =>
    if c = '<' then some ⟨above, nodes ++ textNodes raw, .tagName []⟩
    else some ⟨above, nodes, .text (raw ++ [c])⟩
  | ⟨above, nodes, .tagName name⟩, c =>
    if c = '>' then
      if name.head? = some '/' then leave nodes name.tail above else enter p above nodes name []
    else if c = ' ' then some ⟨above, nodes, .attributeName name [] []⟩
    else some ⟨above, nodes, .tagName (name ++ [c])⟩
  | ⟨above, nodes, .attributeName tag done name⟩, c =>
    if c = '=' then some ⟨above, nodes, .beforeValue tag done name⟩
    else some ⟨above, nodes, .attributeName tag done (name ++ [c])⟩
  | ⟨above, nodes, .beforeValue tag done name⟩, c =>
    if c = '"' then some ⟨above, nodes, .value tag done name []⟩ else none
  | ⟨above, nodes, .value tag done name raw⟩, c =>
    if c = '"' then some ⟨above, nodes, .afterValue tag (done ++ [(name, raw)])⟩
    else some ⟨above, nodes, .value tag done name (raw ++ [c])⟩
  | ⟨above, nodes, .afterValue tag done⟩, c =>
    if c = ' ' then some ⟨above, nodes, .attributeName tag done []⟩
    else if c = '>' then enter p above nodes tag done
    else none

def run (p : String) (s : State) (cs : List Char) : Option State := cs.foldlM (step p) s

/-- The node that the state leaves, if there is one and nothing is open. -/
def node? : State → Option Node
  | ⟨[], nodes, .text raw⟩ =>
    match nodes ++ textNodes raw with
    | [n] => some n
    | _ => none
  | _ => none

def read (p markup : String) : Option Node := (run p ⟨[], [], .text []⟩ markup.toList).bind node?

/-! ## Runs -/

variable {p : String} {above : List Opened} {nodes : List Node}

theorem run_cons (s : State) (c : Char) (cs : List Char) :
    run p s (c :: cs) = (step p s c).bind (run p · cs) := rfl

theorem run_append (s : State) (cs ds : List Char) :
    run p s (cs ++ ds) = (run p s cs).bind (run p · ds) := List.foldlM_append

theorem run_singleton (s : State) (c : Char) : run p s [c] = step p s c := by
  rw [run_cons]
  cases step p s c <;> rfl

theorem run_accumulate {f : List Char → State} {cs : List Char}
    (h : ∀ c ∈ cs, ∀ raw, step p (f raw) c = some (f (raw ++ [c]))) (raw : List Char) :
    run p (f raw) cs = some (f (raw ++ cs)) := Text.foldlM_accumulate h raw

theorem run_text {cs : List Char} (h : '<' ∉ cs) (raw : List Char) :
    run p ⟨above, nodes, .text raw⟩ cs = some ⟨above, nodes, .text (raw ++ cs)⟩ := by
  refine run_accumulate (f := fun raw => ⟨above, nodes, .text raw⟩) (fun c hc raw => ?_) raw
  exact if_neg (ne_of_mem_of_not_mem hc h)

theorem run_tagName {cs : List Char} (hgt : '>' ∉ cs) (hblank : ' ' ∉ cs) (name : List Char) :
    run p ⟨above, nodes, .tagName name⟩ cs = some ⟨above, nodes, .tagName (name ++ cs)⟩ := by
  refine run_accumulate (f := fun raw => ⟨above, nodes, .tagName raw⟩) (fun c hc raw => ?_) name
  rw [step, if_neg (ne_of_mem_of_not_mem hc hgt), if_neg (ne_of_mem_of_not_mem hc hblank)]

theorem run_attributeName {cs : List Char} (h : '=' ∉ cs) (tag : List Char)
    (done : List RawAttribute) (name : List Char) :
    run p ⟨above, nodes, .attributeName tag done name⟩ cs =
      some ⟨above, nodes, .attributeName tag done (name ++ cs)⟩ := by
  refine run_accumulate (f := fun raw => ⟨above, nodes, .attributeName tag done raw⟩)
    (fun c hc raw => ?_) name
  exact if_neg (ne_of_mem_of_not_mem hc h)

theorem run_value {cs : List Char} (h : '"' ∉ cs) (tag : List Char) (done : List RawAttribute)
    (name raw : List Char) :
    run p ⟨above, nodes, .value tag done name raw⟩ cs =
      some ⟨above, nodes, .value tag done name (raw ++ cs)⟩ := by
  refine run_accumulate (f := fun raw => ⟨above, nodes, .value tag done name raw⟩)
    (fun c hc raw => ?_) raw
  exact if_neg (ne_of_mem_of_not_mem hc h)

/-! ## Attributes -/

def rawAttribute (a : String × String) : RawAttribute := (a.1.toList, (escapeHtml a.2).toList)

theorem attributeOf_rawAttribute (a : String × String) : attributeOf (rawAttribute a) = a := by
  simp [attributeOf, rawAttribute, Text.unescape_escapeHtml]

theorem run_writeAttribute {s : State} {tag : List Char} {done : List RawAttribute}
    (hs : step p s ' ' = some ⟨above, nodes, .attributeName tag done []⟩) {a : String × String}
    (ha : '=' ∉ a.1.toList) :
    run p s (Node.writeAttribute a.1 a.2).toList =
      some ⟨above, nodes, .afterValue tag (done ++ [rawAttribute a])⟩ := by
  have hw : (Node.writeAttribute a.1 a.2).toList =
      [' '] ++ (a.1.toList ++ (['=', '"'] ++ ((escapeHtml a.2).toList ++ ['"']))) := by
    simp [Node.writeAttribute]
  have hopen : run p ⟨above, nodes, .attributeName tag done a.1.toList⟩ ['=', '"'] =
      some ⟨above, nodes, .value tag done a.1.toList []⟩ := rfl
  have hv : '"' ∉ (escapeHtml a.2).toList :=
    Text.notMem_escapeHtml (by decide) (by decide) a.2
  rw [hw, run_append, run_singleton, hs, Option.bind_some, run_append, run_attributeName ha,
    Option.bind_some, List.nil_append, run_append, hopen, Option.bind_some, run_append,
    run_value hv, Option.bind_some, List.nil_append, run_singleton]
  rfl

/-- `s` is in a tag after the attributes `done`, where it may go on or end. -/
structure InTag (p : String) (s : State) (above : List Opened) (nodes : List Node)
    (tag : List Char) (done : List RawAttribute) : Prop where
  blank : step p s ' ' = some ⟨above, nodes, .attributeName tag done []⟩
  close : step p s '>' = enter p above nodes tag done

theorem run_attributes {s : State} {tag : List Char} {done : List RawAttribute}
    (hs : InTag p s above nodes tag done) {as : List (String × String)}
    (ha : ∀ a ∈ as, '=' ∉ a.1.toList) :
    run p s ((as.flatMap fun a => (Node.writeAttribute a.1 a.2).toList) ++ ['>']) =
      enter p above nodes tag (done ++ as.map rawAttribute) := by
  induction as generalizing s done with
  | nil => rw [List.flatMap_nil, List.nil_append, run_singleton, hs.close, List.map_nil,
      List.append_nil]
  | cons a as ih =>
    rw [List.forall_mem_cons] at ha
    have hnext : InTag p ⟨above, nodes, .afterValue tag (done ++ [rawAttribute a])⟩ above nodes tag
        (done ++ [rawAttribute a]) := ⟨rfl, rfl⟩
    rw [List.flatMap_cons, List.append_assoc, run_append, run_writeAttribute hs.blank ha.1,
      Option.bind_some, ih hnext ha.2, List.map_cons, List.append_assoc]
    rfl

/-! ## Classes -/

theorem class?_token (p : String) (c : Class) : class? p (c.token p).toList = some c := by
  cases hf : class? p (c.token p).toList with
  | none =>
    have := List.find?_eq_none.mp hf c c.mem_all
    simp at this
  | some d =>
    have hd := List.find?_some hf
    rw [decide_eq_true_eq] at hd
    rw [Class.token_injective (String.toList_injective hd)]

/-- The value of the class attribute. -/
def classValue (p : String) (cs : List Class) : String := " ".intercalate (cs.map (·.token p))

theorem classes?_classValue (hp : IsWord p) {cs : List Class} (hcs : cs ≠ []) :
    classes? p (classValue p cs).toList = some cs := by
  have hblank : ∀ t ∈ (cs.map fun c => (c.token p).toList), ' ' ∉ t := by
    rw [List.forall_mem_map]
    exact fun c _ => (c.isWord_token hp).not_mem rfl
  have hsplit : (classValue p cs).toList.splitOn ' ' = cs.map fun c => (c.token p).toList := by
    rw [classValue, String.toList_intercalate, List.map_map]
    exact List.splitOn_intercalate ' ' hblank (by simpa using hcs)
  have hpure : cs.mapM (fun c => (pure (id c) : Option Class)) = some (cs.map id) := List.mapM_pure
  rw [classes?, hsplit, List.mapM_map]
  simp only [Function.comp_def, class?_token]
  rwa [List.map_id] at hpure

theorem notMem_classValue (hp : IsWord p) {x : Char} (hw : Text.isWordChar x = false) (hb : x ≠ ' ')
    (cs : List Class) : x ∉ (classValue p cs).toList := by
  induction cs with
  | nil => exact List.not_mem_nil
  | cons c cs ih =>
    have hc : x ∉ (c.token p).toList := (c.isWord_token hp).not_mem hw
    cases cs with
    | nil => simpa [classValue] using hc
    | cons d cs =>
      have hv : classValue p (c :: d :: cs) = c.token p ++ " " ++ classValue p (d :: cs) := by
        simp [classValue, String.intercalate_cons_cons]
      rw [hv, String.toList_append, String.toList_append, List.mem_append, List.mem_append]
      rintro ((h | h) | h)
      · exact hc h
      · exact hb (List.mem_singleton.mp h)
      · exact ih h

theorem escapeHtml_classValue (hp : IsWord p) (cs : List Class) :
    escapeHtml (classValue p cs) = classValue p cs := by
  have hreserved : ∀ x ∈ Text.reserved, Text.isWordChar x = false ∧ x ≠ ' ' := by
    simp [Text.reserved, Text.isWordChar]
  refine Text.escapeHtml_eq_self fun x hx => ?_
  exact notMem_classValue hp (hreserved x hx).1 (hreserved x hx).2 cs

/-- The attributes of a tag, the classes among them. -/
def allAttributes (p : String) (cs : List Class) (as : List (String × String)) :
    List (String × String) :=
  if cs = [] then as else ("class", classValue p cs) :: as

theorem attributes?_allAttributes (hp : IsWord p) (cs : List Class) {as : List (String × String)}
    (ha : ∀ a ∈ as, a.1 ≠ "class") :
    attributes? p ((allAttributes p cs as).map rawAttribute) = some (cs, as) := by
  have hmap : (as.map rawAttribute).map attributeOf = as := by
    simp [Function.comp_def, attributeOf_rawAttribute]
  rw [allAttributes]
  split
  · rename_i hcs
    subst hcs
    cases as with
    | nil => rfl
    | cons a as =>
      have hname : (rawAttribute a).1 ≠ "class".toList := fun h =>
        ha a List.mem_cons_self (String.toList_injective h)
      rw [List.map_cons, attributes?, if_neg hname, ← List.map_cons, hmap]
  · rename_i hcs
    have hraw : rawAttribute ("class", classValue p cs) =
        ("class".toList, (classValue p cs).toList) := by
      rw [rawAttribute, escapeHtml_classValue hp]
    rw [List.map_cons, hraw, attributes?, if_pos rfl, classes?_classValue hp hcs, hmap]
    rfl

/-! ## Tags -/

theorem tag?_name (tag : Tag) : tag? tag.name.toList = some tag := by
  cases tag <;> decide

theorem notMem_tag_name {c : Char} (hc : c ∈ ['>', ' ', '/']) (tag : Tag) :
    c ∉ tag.name.toList := by
  have h : tag.name.toList.all (· ∉ ['>', ' ', '/']) := by cases tag <;> decide
  exact fun hmem => of_decide_eq_true (List.all_eq_true.mp h c hmem) hc

theorem run_tag_name (tag : Tag) (name : List Char) :
    run p ⟨above, nodes, .tagName name⟩ tag.name.toList =
      some ⟨above, nodes, .tagName (name ++ tag.name.toList)⟩ :=
  run_tagName (notMem_tag_name (by decide) tag) (notMem_tag_name (by decide) tag) name

theorem toList_openingTag (hp : IsWord p) (tag : Tag) (cs : List Class)
    (as : List (String × String)) :
    (Node.openingTag p tag cs as).toList =
      '<' :: (tag.name.toList ++
        (((allAttributes p cs as).flatMap fun a => (Node.writeAttribute a.1 a.2).toList) ++
          ['>'])) := by
  cases cs with
  | nil => simp [Node.openingTag, allAttributes, String.toList_join, List.flatMap_map]
  | cons c cs =>
    have hclass : Node.writeAttribute "class" (classValue p (c :: cs)) =
        " class=\"" ++ classValue p (c :: cs) ++ "\"" := by
      rw [Node.writeAttribute, escapeHtml_classValue hp]
      rfl
    rw [allAttributes, if_neg (List.cons_ne_nil _ _), List.flatMap_cons, hclass]
    simp [Node.openingTag, String.toList_join, List.flatMap_map, classValue]

theorem run_openingTag (hp : IsWord p) {raw : List Char} (tag : Tag) (cs : List Class)
    {as : List (String × String)} (ha : ∀ a ∈ as, a.1 ≠ "class" ∧ '=' ∉ a.1.toList) :
    run p ⟨above, nodes, .text raw⟩ (Node.openingTag p tag cs as).toList =
      if tag.isVoid then some ⟨above, nodes ++ textNodes raw ++ [.element tag cs as []], .text []⟩
      else some ⟨⟨nodes ++ textNodes raw, tag, cs, as⟩ :: above, [], .text []⟩ := by
  have hin : InTag p ⟨above, nodes ++ textNodes raw, .tagName tag.name.toList⟩ above
      (nodes ++ textNodes raw) tag.name.toList [] := by
    refine ⟨rfl, ?_⟩
    have hslash : tag.name.toList.head? ≠ some '/' := fun h =>
      notMem_tag_name (by decide) tag (List.mem_of_head? h)
    rw [step, if_pos rfl, if_neg hslash]
  have hnames : ∀ a ∈ allAttributes p cs as, '=' ∉ a.1.toList := by
    rw [allAttributes]
    split
    · exact fun a h => (ha a h).2
    · have hclass : '=' ∉ "class".toList := by decide
      exact List.forall_mem_cons.mpr ⟨hclass, fun a h => (ha a h).2⟩
  have hattributes := attributes?_allAttributes hp cs fun a h => (ha a h).1
  rw [toList_openingTag hp, run_cons]
  change (run p ⟨above, nodes ++ textNodes raw, .tagName []⟩ _) = _
  rw [run_append, run_tag_name, Option.bind_some, List.nil_append, run_attributes hin hnames,
    List.nil_append, enter, tag?_name, Option.bind_some, hattributes]
  cases tag.isVoid <;> rfl

theorem run_closingTag {o : Opened} {raw : List Char} :
    run p ⟨o :: above, nodes, .text raw⟩ (Node.closingTag o.tag).toList =
      some ⟨above, o.before ++ [.element o.tag o.classes o.attributes (nodes ++ textNodes raw)],
        .text []⟩ := by
  have hw : (Node.closingTag o.tag).toList = ['<', '/'] ++ (o.tag.name.toList ++ ['>']) := by
    simp [Node.closingTag]
  have hslash : run p ⟨o :: above, nodes, .text raw⟩ ['<', '/'] =
      some ⟨o :: above, nodes ++ textNodes raw, .tagName ['/']⟩ := rfl
  rw [hw, run_append, hslash, Option.bind_some, run_append, run_tag_name, Option.bind_some,
    run_singleton]
  exact if_pos rfl

end Reader

end Vitae
