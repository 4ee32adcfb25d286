import Vitae.Proofs.Fragment.Apart
import Vitae.Proofs.Markup.Compact

/-! # Tags as brackets

In markup a `<` stands at the beginning of a tag and nowhere else, so the tags can be told without
knowing the tree. Whether it is written on lines or on one line, the opening tags are those of the
elements that `walk` visits, in its order, and each but an image's has a closing tag of its own. -/

namespace Vitae

theorem Tag.isWord_name (tag : Tag) : Text.IsWord tag.name := by
  cases tag <;> decide

theorem Tag.isVoid_iff {tag : Tag} : tag.isVoid = true ↔ tag.name = "img" := by
  cases tag <;> decide

/-- What a `<` begins. -/
inductive TagToken where
  | opening (name : String)
  | closing (name : String)
  deriving DecidableEq, Repr

namespace TagToken

/-- A name goes on up to a blank or the end of its tag. -/
def isNameEnd (c : Char) : Bool := c = ' ' || c = '>'

def nameIn (cs : List Char) : String := String.ofList (cs.takeWhile (!isNameEnd ·))

/-- The tag of which these are the characters behind the `<`. -/
def behind : List Char → TagToken
  | '/' :: cs => closing (nameIn cs)
  | cs => opening (nameIn cs)

/-- There is one for every `<`. -/
def scan : List Char → List TagToken
  | [] => []
  | c :: cs => if c = '<' then behind cs :: scan cs else scan cs

def opened? : TagToken → Option String
  | opening name => some name
  | closing _ => none

/-- An image is not closed. Everything else is, by its own name and behind all that was opened in
it. -/
inductive Nested : List TagToken → Prop
  | nil : Nested []
  | image {rest : List TagToken} (hrest : Nested rest) : Nested (opening "img" :: rest)
  | pair {name : String} (hname : name ≠ "img") {inside rest : List TagToken}
      (hinside : Nested inside) (hrest : Nested rest) :
      Nested (opening name :: (inside ++ closing name :: rest))

theorem Nested.append {bs cs : List TagToken} (hb : Nested bs) (hc : Nested cs) :
    Nested (bs ++ cs) := by
  induction hb with
  | nil => exact hc
  | image _ ih => exact .image ih
  | pair hname hinside _ _ ih =>
    rw [List.cons_append, List.append_assoc, List.cons_append]
    exact .pair hname hinside ih

/-! ## Scanning -/

variable {name : String} {c : Char}

theorem isNameEnd_of_mem (hname : Text.IsWord name) {x : Char} (hx : x ∈ name.toList) :
    isNameEnd x = false := by
  have hblank : x ≠ ' ' := ne_of_mem_of_not_mem hx (hname.not_mem rfl)
  have hgt : x ≠ '>' := ne_of_mem_of_not_mem hx (hname.not_mem rfl)
  simp [isNameEnd, hblank, hgt]

theorem nameIn_append (hname : Text.IsWord name) (hc : isNameEnd c = true) (cs : List Char) :
    nameIn (name.toList ++ c :: cs) = name := by
  have hkeep : ∀ x ∈ name.toList, (!isNameEnd x) = true := by
    intro x hx
    rw [isNameEnd_of_mem hname hx]
    rfl
  have hstop : (c :: cs).takeWhile (!isNameEnd ·) = [] := by
    rw [List.takeWhile_cons, hc]
    rfl
  rw [nameIn, List.takeWhile_append_of_pos hkeep, hstop, List.append_nil, String.ofList_toList]

/-- A name does not begin with a slash. -/
theorem behind_append (hname : Text.IsWord name) (hc : isNameEnd c = true) (cs : List Char) :
    behind (name.toList ++ c :: cs) = opening name := by
  have hslash : ∀ ds, name.toList ++ c :: cs ≠ '/' :: ds := by
    intro ds heq
    rcases List.append_eq_cons_iff.mp heq with ⟨-, hcons⟩ | ⟨more, hlist, -⟩
    · rw [(List.cons.inj hcons).1] at hc
      cases hc
    · have hword : '/' ∉ name.toList := hname.not_mem rfl
      rw [hlist] at hword
      exact hword List.mem_cons_self
  rw [behind, nameIn_append hname hc]
  exact hslash

theorem scan_append_of_notMem {cs : List Char} (h : '<' ∉ cs) (ds : List Char) :
    scan (cs ++ ds) = scan ds := by
  induction cs with
  | nil => rfl
  | cons c cs ih =>
    rw [List.mem_cons, not_or] at h
    rw [List.cons_append, scan, if_neg (Ne.symm h.1), ih h.2]

end TagToken

namespace Node

open TagToken (scan Nested)

mutual

/-- The tags of a tree, each element's around those of its children. -/
def tagTokens : Node → List TagToken
  | text _ => []
  | element tag _ _ children =>
    if tag.isVoid then [.opening tag.name]
    else .opening tag.name :: (tagTokensAll children ++ [.closing tag.name])

def tagTokensAll : List Node → List TagToken
  | [] => []
  | n :: ns => n.tagTokens ++ tagTokensAll ns

end

/-- No image of the tree holds anything. -/
def ImagesEmpty (n : Node) : Prop := ∀ e ∈ n.walk, e.tag? = some .img → e.children = []

/-- The name of an attribute may be any text without a `<`, so any of letters and hyphens. -/
def IsPlainlyNamed (n : Node) : Prop := ∀ e ∈ n.walk, ∀ a ∈ e.attributes, '<' ∉ a.1.toList

instance (n : Node) : Decidable n.ImagesEmpty :=
  inferInstanceAs (Decidable (∀ e ∈ n.walk, e.tag? = some .img → e.children = []))

instance (n : Node) : Decidable n.IsPlainlyNamed :=
  inferInstanceAs (Decidable (∀ e ∈ n.walk, ∀ a ∈ e.attributes, '<' ∉ a.1.toList))

/-- The text is scanned to these tags, whatever stands behind it. -/
def ScansTo (s : String) (bs : List TagToken) : Prop :=
  ∀ cs, scan (s.toList ++ cs) = bs ++ scan cs

theorem ScansTo.append {s t : String} {bs cs : List TagToken} (hs : ScansTo s bs)
    (ht : ScansTo t cs) : ScansTo (s ++ t) (bs ++ cs) := by
  intro ds
  rw [String.toList_append, List.append_assoc, hs, ht, List.append_assoc]

theorem scansTo_of_notMem {s : String} (h : '<' ∉ s.toList) : ScansTo s [] :=
  fun cs => TagToken.scan_append_of_notMem h cs

/-! ## Tags -/

theorem scansTo_escapeHtml (s : String) : ScansTo (Text.escapeHtml s) [] :=
  scansTo_of_notMem (Text.notMem_escapeHtml (by decide) (by decide) s)

theorem scansTo_indent (depth : ℕ) : ScansTo (indent depth) [] := by
  apply scansTo_of_notMem
  rw [indent, String.toList_ofList]
  intro h
  cases List.eq_of_mem_replicate h

theorem ScansTo.indented {s : String} {bs : List TagToken} (h : ScansTo s bs) (depth : ℕ) :
    ScansTo (indent depth ++ s) bs := (scansTo_indent depth).append h

theorem ScansTo.line {s : String} {bs : List TagToken} (h : ScansTo s bs) :
    ScansTo (s ++ "\n") bs := by
  have hend : ScansTo "\n" [] := scansTo_of_notMem (by decide)
  have hline := h.append hend
  rwa [List.append_nil] at hline

variable {p : String}

/-- Behind the name of a tag come a blank and the attributes, or its end. -/
theorem exists_attributes_eq (as : List (String × String)) :
    ∃ c cs, (as.flatMap fun a => (writeAttribute a.1 a.2).toList) ++ ['>'] = c :: cs ∧
      TagToken.isNameEnd c = true := by
  cases as with
  | nil => exact ⟨'>', [], rfl, rfl⟩
  | cons a as =>
    rw [List.flatMap_cons, writeAttribute, String.append_assoc, String.append_assoc,
      String.append_assoc, String.toList_append]
    exact ⟨' ', _, rfl, rfl⟩

theorem notMem_writeAttribute {name : String} (h : '<' ∉ name.toList) (value : String) :
    '<' ∉ (writeAttribute name value).toList := by
  have hvalue : '<' ∉ (Text.escapeHtml value).toList :=
    Text.notMem_escapeHtml (by decide) (by decide) value
  simp [writeAttribute, h, hvalue]

theorem scansTo_openingTag (hp : Text.IsWord p) (tag : Tag) (cs : List Class)
    {as : List (String × String)} (ha : ∀ a ∈ as, '<' ∉ a.1.toList) :
    ScansTo (openingTag p tag cs as) [.opening tag.name] := by
  have hall : ∀ a ∈ Reader.allAttributes p cs as, '<' ∉ a.1.toList := by
    rw [Reader.allAttributes]
    split
    · exact ha
    · have hclass : '<' ∉ "class".toList := by decide
      exact List.forall_mem_cons.mpr ⟨hclass, ha⟩
  have hname : '<' ∉ tag.name.toList := tag.isWord_name.not_mem rfl
  obtain ⟨c, rest, hrest, hc⟩ := exists_attributes_eq (Reader.allAttributes p cs as)
  have hnone : '<' ∉ tag.name.toList ++ c :: rest := by
    rw [← hrest, List.mem_append, List.mem_append, List.mem_flatMap, not_or, not_or]
    refine ⟨hname, ?_, by decide⟩
    rintro ⟨a, hmem, hlt⟩
    exact notMem_writeAttribute (hall a hmem) a.2 hlt
  intro ds
  rw [Reader.toList_openingTag hp, hrest, List.cons_append, scan, if_pos rfl,
    TagToken.scan_append_of_notMem hnone, List.append_assoc, List.cons_append,
    TagToken.behind_append tag.isWord_name hc]
  rfl

theorem scansTo_closingTag (tag : Tag) : ScansTo (closingTag tag) [.closing tag.name] := by
  have hname : '<' ∉ tag.name.toList := tag.isWord_name.not_mem rfl
  have hnone : '<' ∉ '/' :: (tag.name.toList ++ ['>']) := by simp [hname]
  have htext : (closingTag tag).toList = '<' :: '/' :: (tag.name.toList ++ ['>']) := by
    simp [closingTag]
  intro ds
  rw [htext, List.cons_append, scan, if_pos rfl, TagToken.scan_append_of_notMem hnone,
    List.cons_append, List.append_assoc, List.singleton_append, TagToken.behind,
    TagToken.nameIn_append tag.isWord_name rfl]
  rfl

/-! ## Trees -/

section

variable {tag : Tag} {cs : List Class} {as : List (String × String)} {ns : List Node}

theorem isPlainlyNamed_element :
    (element tag cs as ns).IsPlainlyNamed ↔
      (∀ a ∈ as, '<' ∉ a.1.toList) ∧ ∀ n ∈ ns, n.IsPlainlyNamed :=
  forall_mem_walk_element

theorem imagesEmpty_element :
    (element tag cs as ns).ImagesEmpty ↔
      (tag = .img → ns = []) ∧ ∀ n ∈ ns, n.ImagesEmpty := by
  have h : (element tag cs as ns).ImagesEmpty ↔
      ((element tag cs as ns).tag? = some .img → ns = []) ∧ ∀ n ∈ ns, n.ImagesEmpty :=
    forall_mem_walk_element
  rwa [tag?, Option.some_inj] at h

end

mutual

/-- What stands in a void element is not written, and has no tags in the tree either. -/
theorem scansTo_compact (hp : Text.IsWord p) :
    ∀ n : Node, n.IsPlainlyNamed → ScansTo (n.compact p) n.tagTokens
  | text s, _ => by
    rw [compact, tagTokens]
    exact scansTo_escapeHtml s
  | element tag classes attributes children, hn => by
    obtain ⟨ha, hc⟩ := isPlainlyNamed_element.mp hn
    have hopen := scansTo_openingTag hp tag classes ha
    rw [compact, tagTokens]
    split
    · rwa [String.append_empty]
    · exact hopen.append ((scansTo_compactAll hp children hc).append (scansTo_closingTag tag))

theorem scansTo_compactAll (hp : Text.IsWord p) :
    ∀ ns : List Node, (∀ n ∈ ns, n.IsPlainlyNamed) →
      ScansTo (compactAll p ns) (tagTokensAll ns)
  | [], _ => scansTo_of_notMem List.not_mem_nil
  | n :: ns, hn => by
    obtain ⟨hfirst, hrest⟩ := List.forall_mem_cons.mp hn
    rw [compactAll, tagTokensAll]
    exact (scansTo_compact hp n hfirst).append (scansTo_compactAll hp ns hrest)

end

mutual

theorem scansTo_prettyAt (hp : Text.IsWord p) (depth : ℕ) :
    ∀ n : Node, n.IsPlainlyNamed → ScansTo (n.prettyAt p depth) n.tagTokens
  | text s, _ => by
    rw [prettyAt, tagTokens]
    exact ((scansTo_escapeHtml s).indented depth).line
  | element tag classes attributes children, hn => by
    obtain ⟨ha, hc⟩ := isPlainlyNamed_element.mp hn
    have hopen := scansTo_openingTag hp tag classes ha
    rw [prettyAt, tagTokens]
    apply ScansTo.line
    rw [String.append_assoc]
    apply ScansTo.indented
    split
    · rwa [String.append_empty]
    · refine hopen.append (ScansTo.append ?_ (scansTo_closingTag tag))
      split
      · -- texts alone stay on the line of their element
        exact scansTo_compactAll hp children hc
      · have hbreak : ScansTo "\n" [] := scansTo_of_notMem (by decide)
        have hinside := scansTo_prettyAll hp (depth + 1) children hc
        have hblock := (hbreak.append hinside).append (scansTo_indent depth)
        rwa [List.nil_append, List.append_nil] at hblock

theorem scansTo_prettyAll (hp : Text.IsWord p) (depth : ℕ) :
    ∀ ns : List Node, (∀ n ∈ ns, n.IsPlainlyNamed) →
      ScansTo (prettyAll p depth ns) (tagTokensAll ns)
  | [], _ => scansTo_of_notMem List.not_mem_nil
  | n :: ns, hn => by
    obtain ⟨hfirst, hrest⟩ := List.forall_mem_cons.mp hn
    rw [prettyAll, tagTokensAll]
    exact (scansTo_prettyAt hp depth n hfirst).append (scansTo_prettyAll hp depth ns hrest)

end

theorem scan_render (hp : Text.IsWord p) {n : Node} (hn : n.IsPlainlyNamed) (pretty : Bool) :
    scan (n.render p pretty).toList = n.tagTokens := by
  have h : ScansTo (n.render p pretty) n.tagTokens := by
    cases pretty with
    | false => exact scansTo_compact hp n hn
    | true => exact scansTo_prettyAt hp 0 n hn
  have hend := h []
  rwa [List.append_nil, scan, List.append_nil] at hend

/-! ## The two traversals -/

mutual

theorem nested_tagTokens : ∀ n : Node, Nested n.tagTokens
  | text _ => by
    rw [tagTokens]
    exact .nil
  | element tag classes attributes children => by
    rw [tagTokens]
    split
    · rename_i hvoid
      rw [Tag.isVoid_iff.mp hvoid]
      exact .image .nil
    · rename_i hvoid
      have hname : tag.name ≠ "img" := fun h => hvoid (Tag.isVoid_iff.mpr h)
      exact .pair hname (nested_tagTokensAll children) .nil

theorem nested_tagTokensAll : ∀ ns : List Node, Nested (tagTokensAll ns)
  | [] => by
    rw [tagTokensAll]
    exact .nil
  | n :: ns => by
    rw [tagTokensAll]
    exact (nested_tagTokens n).append (nested_tagTokensAll ns)

end

/-- The name of an element's tag, where the node is an element. -/
def tagName? (n : Node) : Option String := n.tag?.map Tag.name

mutual

theorem opened_tagTokens : ∀ n : Node, n.ImagesEmpty →
    (n.tagTokens.filterMap TagToken.opened?).map some = n.walk.map tagName?
  | text _, _ => by
    rw [tagTokens, walk]
    rfl
  | element tag classes attributes children, h => by
    obtain ⟨himage, hchildren⟩ := imagesEmpty_element.mp h
    rw [tagTokens, walk, List.map_cons]
    split
    · -- `walk` would go on into what an image holds
      rename_i hvoid
      rw [himage (of_decide_eq_true hvoid)]
      rfl
    · have hinside := opened_tagTokensAll children hchildren
      simp only [List.filterMap_cons, List.filterMap_append, TagToken.opened?, List.filterMap_nil,
        List.append_nil, List.map_cons, hinside]
      rfl

theorem opened_tagTokensAll : ∀ ns : List Node, (∀ n ∈ ns, n.ImagesEmpty) →
    ((tagTokensAll ns).filterMap TagToken.opened?).map some = (walkAll ns).map tagName?
  | [], _ => rfl
  | n :: ns, h => by
    obtain ⟨hfirst, hrest⟩ := List.forall_mem_cons.mp h
    rw [tagTokensAll, walkAll, List.filterMap_append, List.map_append, List.map_append,
      opened_tagTokens n hfirst, opened_tagTokensAll ns hrest]

end

theorem imagesEmpty_fragment (layout : Layout) (r : Resume) :
    (layout.fragment r).ImagesEmpty := by
  intro e he himage
  have hapart := (keepsApart_fragment layout r).2 e he
  cases e with
  | text s => cases himage
  | element tag classes attributes children =>
    obtain rfl : tag = .img := Option.some.inj himage
    exact hapart.void rfl

/-- Every `<` of the markup begins a tag of the tree. The opening tags are those of the elements
that `walk` visits, none left out and none moved, and each but an image's is closed by a tag of its
own, which stands behind all that is in the element. The images of a fragment are empty. -/
theorem tags_render (hp : Text.IsWord p) :
    (∀ t : Node, t.ImagesEmpty → t.IsPlainlyNamed → ∀ pretty : Bool,
      let tags := scan (t.render p pretty).toList
      tags = t.tagTokens ∧
        (tags.filterMap TagToken.opened?).map some = t.walk.map tagName? ∧
        Nested tags) ∧
    ∀ (layout : Layout) (r : Resume), (layout.fragment r).ImagesEmpty := by
  refine ⟨fun t himages hnames pretty => ?_, imagesEmpty_fragment⟩
  intro tags
  have htags : tags = t.tagTokens := scan_render hp hnames pretty
  refine ⟨htags, ?_, ?_⟩
  · rw [htags, opened_tagTokens t himages]
  · rw [htags]
    exact nested_tagTokens t

/-- Tags that stand in a text or in a value are none. -/
theorem tags_render_hostile :
    let t := element .div [.content] [("title", "</div><img>")]
      [text "1 < 2", element .img [.avatar] [("src", "a>b")] [], element .p [] [] [text "</p>"]]
    let tags := scan (t.render "rt-" true).toList
    (Text.IsWord "rt-" ∧ t.ImagesEmpty ∧ t.IsPlainlyNamed) ∧
      t.tagTokens =
        [.opening "div", .opening "img", .opening "p", .closing "p", .closing "div"] ∧
      tags = t.tagTokens ∧
      (tags.filterMap TagToken.opened?).map some = t.walk.map tagName? ∧
      Nested tags := by
  intro t tags
  have hp : Text.IsWord "rt-" := by decide
  have himages : t.ImagesEmpty := by decide
  have hnames : t.IsPlainlyNamed := by decide
  exact ⟨⟨hp, himages, hnames⟩, rfl, (tags_render hp).1 t himages hnames true⟩

end Node

end Vitae
