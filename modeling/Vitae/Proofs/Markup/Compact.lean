import Vitae.Proofs.Markup.Reader
import Vitae.Text.Blank

/-! # Compact markup is read back

Reading what `compact` writes gives the tree again, with the texts and the values of attributes as
they were before they were escaped. Three things do not show in markup and are lost: what stands in
a void element, texts without a character, and where one of two texts in a row ends. -/

namespace Vitae

namespace Node

/-- The node before the others, as markup shows them: no text is empty, and no two are adjacent. -/
def prepend : Node → List Node → List Node
  | text s, text t :: ns => text (s ++ t) :: ns
  | text s, ns => if s = "" then ns else text s :: ns
  | element tag classes attributes children, ns => element tag classes attributes children :: ns

mutual

/-- What markup shows of a tree. -/
def normal : Node → Node
  | text s => text s
  | element tag classes attributes children =>
    element tag classes attributes (if tag.isVoid then [] else normalAll children)

def normalAll : List Node → List Node
  | [] => []
  | n :: ns => prepend n.normal (normalAll ns)

end

def attributes : Node → List (String × String)
  | text _ => []
  | element _ _ attributes _ => attributes

/-- Lower-case letters and hyphens may stand in a name, white space and what delimits names and
values may not. -/
def isNameChar (c : Char) : Bool := !Text.isSpace c && c ∉ ['"', '\'', '<', '>', '/', '=']

/-- The name `class` is left to the classes. -/
def IsAttributeName (name : String) : Prop :=
  name ≠ "" ∧ name ≠ "class" ∧ name.toList.all isNameChar = true

instance (name : String) : Decidable (IsAttributeName name) :=
  inferInstanceAs (Decidable (_ ∧ _ ∧ _))

def WellNamed (n : Node) : Prop := ∀ e ∈ n.walk, ∀ a ∈ e.attributes, IsAttributeName a.1

instance (n : Node) : Decidable n.WellNamed :=
  inferInstanceAs (Decidable (∀ e ∈ n.walk, ∀ a ∈ e.attributes, IsAttributeName a.1))

/-! ## Normal forms -/

theorem wellNamed_element {tag : Tag} {cs : List Class} {as : List (String × String)}
    {ns : List Node} :
    (element tag cs as ns).WellNamed ↔
      (∀ a ∈ as, IsAttributeName a.1) ∧ ∀ n ∈ ns, n.WellNamed :=
  forall_mem_walk_element

theorem IsAttributeName.ne_class {name : String} (h : IsAttributeName name) :
    name ≠ "class" ∧ '=' ∉ name.toList := by
  obtain ⟨-, hclass, hchars⟩ := h
  refine ⟨hclass, fun heq => ?_⟩
  cases List.all_eq_true.mp hchars _ heq

theorem prepend_element (tag : Tag) (cs : List Class) (as : List (String × String))
    (children ns : List Node) :
    prepend (element tag cs as children) ns = element tag cs as children :: ns := rfl

theorem prepend_text_empty (ns : List Node) : prepend (text "") ns = ns := by
  cases ns with
  | nil => rfl
  | cons n ns =>
    cases n with
    | text t => rw [prepend, String.empty_append]
    | element => rfl

theorem prepend_text_prepend (s t : String) (ns : List Node) :
    prepend (text s) (prepend (text t) ns) = prepend (text (s ++ t)) ns := by
  by_cases ht : t = ""
  · rw [ht, prepend_text_empty, String.append_empty]
  · cases ns with
    | nil => simp [prepend, ht]
    | cons n ns => cases n <;> simp [prepend, ht, String.append_assoc]

theorem prepend_text_element (s : String) (tag : Tag) (cs : List Class)
    (as : List (String × String)) (children ns : List Node) :
    prepend (text s) (element tag cs as children :: ns) =
      prepend (text s) [] ++ element tag cs as children :: ns := by
  by_cases hs : s = "" <;> simp [prepend, hs]

variable {p : String}

theorem compactAll_prepend (n : Node) (ns : List Node) :
    compactAll p (prepend n ns) = n.compact p ++ compactAll p ns := by
  cases n with
  | element => rw [prepend, compactAll]
  | text s =>
    -- the first text of `ns`, if it begins with one, has become part of this one
    have htext (ms : List Node) :
        compactAll p (if s = "" then ms else text s :: ms) =
          (text s).compact p ++ compactAll p ms := by
      split
      · rename_i hs
        rw [hs, compact, Text.escapeHtml_empty, String.empty_append]
      · rw [compactAll]
    cases ns with
    | nil => exact htext []
    | cons m ms =>
      cases m with
      | text t =>
        simp only [prepend, compactAll, compact, Text.escapeHtml_append, String.append_assoc]
      | element tag classes attributes children =>
        exact htext (element tag classes attributes children :: ms)

mutual

/-- Markup shows the normal form and no more. -/
theorem compact_normal : ∀ n : Node, n.normal.compact p = n.compact p
  | text s => by rw [normal]
  | element tag classes attributes children => by
    rw [normal, compact, compact]
    cases tag.isVoid with
    | true => rfl
    | false => simp only [Bool.false_eq_true, if_false, compactAll_normalAll children]

theorem compactAll_normalAll : ∀ ns : List Node, compactAll p (normalAll ns) = compactAll p ns
  | [] => by rw [normalAll]
  | n :: ns => by
    rw [normalAll, compactAll_prepend, compact_normal n, compactAll_normalAll ns, compactAll]

end

end Node

namespace Reader

open Node

variable {p : String}

/-- Where the reader is in the content of an element, `s` being the text since the last tag. -/
def inContent (above : List Opened) (nodes : List Node) (s : String) : State :=
  ⟨above, nodes, .text (Text.escapeHtml s).toList⟩

theorem textNodes_escapeHtml (s : String) :
    textNodes (Text.escapeHtml s).toList = prepend (text s) [] := by
  simp only [textNodes, prepend, Text.toList_escapeHtml_eq_nil_iff, Text.unescape_escapeHtml,
    String.ofList_toList]

theorem run_text_inContent (above : List Opened) (nodes : List Node) (s t : String) :
    run p (inContent above nodes s) (Text.escapeHtml t).toList =
      some (inContent above nodes (s ++ t)) := by
  have hlt : '<' ∉ (Text.escapeHtml t).toList := Text.notMem_escapeHtml (by decide) (by decide) t
  rw [inContent, run_text hlt, inContent, Text.escapeHtml_append, String.toList_append]

section

variable {above : List Opened} {nodes : List Node} {s : String} {tag : Tag} {cs : List Class}
  {as : List (String × String)} {ns : List Node}

theorem run_void (hp : Text.IsWord p) (ha : ∀ a ∈ as, IsAttributeName a.1)
    (hv : tag.isVoid = true) :
    run p (inContent above nodes s) ((element tag cs as ns).compact p).toList =
      some (inContent above (nodes ++ prepend (text s) [] ++ [element tag cs as []]) "") := by
  rw [compact, if_pos hv, String.append_empty, inContent,
    run_openingTag hp tag cs fun a h => (ha a h).ne_class, if_pos hv, textNodes_escapeHtml]
  rfl

/-- An element is read if its content is, once it has been entered. -/
theorem run_element (hp : Text.IsWord p) (ha : ∀ a ∈ as, IsAttributeName a.1)
    (hv : tag.isVoid = false) {inner : List Node} {t : String}
    (hinner : let entered := ⟨nodes ++ prepend (text s) [], tag, cs, as⟩ :: above
      run p (inContent entered [] "") (compactAll p ns).toList =
        some (inContent entered inner t)) :
    run p (inContent above nodes s) ((element tag cs as ns).compact p).toList =
      some (inContent above (nodes ++ prepend (text s) [] ++
        [element tag cs as (inner ++ prepend (text t) [])]) "") := by
  have hopen : run p (inContent above nodes s) (openingTag p tag cs as).toList =
      some (inContent (⟨nodes ++ prepend (text s) [], tag, cs, as⟩ :: above) [] "") := by
    rw [inContent, run_openingTag hp tag cs fun a h => (ha a h).ne_class, textNodes_escapeHtml,
      hv]
    rfl
  have hclose : run p (inContent (⟨nodes ++ prepend (text s) [], tag, cs, as⟩ :: above) inner t)
      (closingTag tag).toList =
        some (inContent above (nodes ++ prepend (text s) [] ++
          [element tag cs as (inner ++ prepend (text t) [])]) "") := by
    rw [inContent, run_closingTag (o := ⟨nodes ++ prepend (text s) [], tag, cs, as⟩),
      textNodes_escapeHtml]
    rfl
  rw [compact, hv, String.toList_append, run_append, hopen, Option.bind_some]
  simp only [Bool.false_eq_true, if_false]
  rw [String.toList_append, run_append, hinner, Option.bind_some, hclose]

end

mutual

/-- The text that has not ended yet may go on in whatever comes next. -/
theorem run_compact (hp : Text.IsWord p) (above : List Opened) : ∀ (n : Node), n.WellNamed →
    ∀ (nodes : List Node) (s : String), ∃ nodes' s',
      run p (inContent above nodes s) (n.compact p).toList = some (inContent above nodes' s') ∧
        ∀ ns, nodes' ++ prepend (text s') ns = nodes ++ prepend (text s) (prepend n.normal ns)
  | text t, _, nodes, s => by
    refine ⟨nodes, s ++ t, ?_, fun ns => ?_⟩
    · rw [compact, run_text_inContent]
    · rw [normal, prepend_text_prepend]
  | element tag classes attributes children, hn, nodes, s => by
    obtain ⟨ha, hc⟩ := wellNamed_element.mp hn
    refine ⟨nodes ++ prepend (text s) [] ++ [(element tag classes attributes children).normal], "",
      ?_, fun ns => ?_⟩
    · cases hv : tag.isVoid with
      | true => rw [run_void hp ha hv, normal, if_pos hv]
      | false =>
        obtain ⟨inner, t, hrun, heq⟩ := run_compactAll hp
          (⟨nodes ++ prepend (text s) [], tag, classes, attributes⟩ :: above) children hc [] ""
        rw [List.nil_append, prepend_text_empty] at heq
        rw [run_element hp ha hv hrun, heq, normal, hv]
        rfl
    · rw [prepend_text_empty, normal, prepend_element, prepend_text_element, List.append_assoc,
        List.append_assoc]
      rfl

theorem run_compactAll (hp : Text.IsWord p) (above : List Opened) : ∀ (ns : List Node),
    (∀ n ∈ ns, n.WellNamed) → ∀ (nodes : List Node) (s : String), ∃ nodes' s',
      run p (inContent above nodes s) (compactAll p ns).toList = some (inContent above nodes' s') ∧
        nodes' ++ prepend (text s') [] = nodes ++ prepend (text s) (normalAll ns)
  | [], _, nodes, s => ⟨nodes, s, rfl, rfl⟩
  | n :: ns, hn, nodes, s => by
    obtain ⟨hfirst, hrest⟩ := List.forall_mem_cons.mp hn
    obtain ⟨nodes₁, s₁, hrun₁, heq₁⟩ := run_compact hp above n hfirst nodes s
    obtain ⟨nodes₂, s₂, hrun₂, heq₂⟩ := run_compactAll hp above ns hrest nodes₁ s₁
    refine ⟨nodes₂, s₂, ?_, ?_⟩
    · rw [compactAll, String.toList_append, run_append, hrun₁, Option.bind_some, hrun₂]
    · rw [heq₂, heq₁, normalAll]

end

theorem read_compact (hp : Text.IsWord p) {n : Node} (he : n.isText = false) (hn : n.WellNamed) :
    read p (n.compact p) = some n.normal := by
  obtain ⟨nodes, s, hrun, heq⟩ := run_compact hp [] n hn [] ""
  have hnodes : nodes ++ prepend (text s) [] = [n.normal] := by
    rw [heq, List.nil_append, prepend_text_empty]
    cases n with
    | text t => cases he
    | element => rw [normal, prepend_element]
  change (run p (inContent [] [] "") _).bind node? = _
  rw [hrun, Option.bind_some, inContent, node?, textNodes_escapeHtml, hnodes]

end Reader

/-- Markup without indentation is read back as what it shows, so two elements are written alike
exactly if they show the same. -/
theorem Node.read_render {p : String} (hp : Text.IsWord p) {t : Node} (ht : t.isText = false)
    (hn : t.WellNamed) :
    Reader.read p (t.render p false) = some t.normal ∧
      ∀ u : Node, u.isText = false → u.WellNamed →
        (t.render p false = u.render p false ↔ t.normal = u.normal) := by
  change Reader.read p (t.compact p) = some t.normal ∧ ∀ u : Node, u.isText = false →
    u.WellNamed → (t.compact p = u.compact p ↔ t.normal = u.normal)
  refine ⟨Reader.read_compact hp ht hn, fun u hu hun => ⟨fun h => ?_, fun h => ?_⟩⟩
  · have hread := Reader.read_compact hp ht hn
    rw [h, Reader.read_compact hp hu hun] at hread
    exact (Option.some.inj hread).symm
  · rw [← compact_normal t, h, compact_normal u]

/-- Quotes and angle brackets in texts and values make no markup, and a text in two pieces reads
like one. -/
theorem Node.read_render_hostile :
    let t := element .p [.summary] [("title", "a\" class=\"b")] [text "1 < 2", text "", text " & 3"]
    let u := element .p [.summary] [("title", "a\" class=\"b")] [text "1 < 2 & 3"]
    (Text.IsWord "rt-" ∧ t.isText = false ∧ t.WellNamed ∧ u.isText = false ∧ u.WellNamed) ∧
      Reader.read "rt-" (t.render "rt-" false) = some t.normal ∧
      (t.render "rt-" false = u.render "rt-" false ↔ t.normal = u.normal) := by
  have hp : Text.IsWord "rt-" := by decide
  intro t u
  have ht : t.WellNamed := by decide
  have hu : u.WellNamed := by decide
  obtain ⟨hread, hiff⟩ := read_render hp rfl ht
  exact ⟨⟨hp, rfl, ht, rfl, hu⟩, hread, hiff u rfl hu⟩

example : (Reader.read "" "<p title=\"&quot;\">1 &lt; 2</p>").map Node.texts = some ["1 < 2"] := by
  decide +kernel

end Vitae
