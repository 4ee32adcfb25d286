import Vitae.Markup.Node

/-! # Going through a tree

What holds of every element of a tree is settled at its root and in each of its children. An
element's place is given by the elements that it stands in, the innermost first. -/

namespace Vitae.Node

def classes : Node → List Class
  | text _ => []
  | element _ classes _ _ => classes

def tag? : Node → Option Tag
  | text _ => none
  | element tag _ _ _ => some tag

def children : Node → List Node
  | text _ => []
  | element _ _ _ children => children

theorem walkAll_eq_flatMap (ns : List Node) : walkAll ns = ns.flatMap walk := by
  induction ns with
  | nil => rfl
  | cons n ns ih => rw [walkAll, ih, List.flatMap_cons]

@[simp]
theorem walk_text (s : String) : (text s).walk = [] := by
  rw [walk]

theorem walk_element (tag : Tag) (cs : List Class) (as : List (String × String)) (ns : List Node) :
    (element tag cs as ns).walk = element tag cs as ns :: ns.flatMap walk := by
  rw [walk, walkAll_eq_flatMap]

theorem forall_mem_walk_element {P : Node → Prop} {tag : Tag} {cs : List Class}
    {as : List (String × String)} {ns : List Node} :
    (∀ e ∈ (element tag cs as ns).walk, P e) ↔
      P (element tag cs as ns) ∧ ∀ n ∈ ns, ∀ e ∈ n.walk, P e := by
  simp only [walk_element, List.forall_mem_cons, List.mem_flatMap]
  constructor
  · rintro ⟨hp, h⟩
    exact ⟨hp, fun n hn e he => h e ⟨n, hn, he⟩⟩
  · rintro ⟨hp, h⟩
    exact ⟨hp, fun e ⟨n, hn, he⟩ => h n hn e he⟩

/-! ## Places -/

mutual

def locate (above : List Node) : Node → List (List Node × Node)
  | text _ => []
  | element tag classes attributes children =>
    (above, element tag classes attributes children) ::
      locateAll (element tag classes attributes children :: above) children

def locateAll (above : List Node) : List Node → List (List Node × Node)
  | [] => []
  | n :: ns => n.locate above ++ locateAll above ns

end

mutual

theorem map_snd_locate (above : List Node) : ∀ n : Node, (n.locate above).map Prod.snd = n.walk
  | text _ => by simp [locate, walk]
  | element .. => by simp [locate, walk, map_snd_locateAll]

theorem map_snd_locateAll (above : List Node) :
    ∀ ns : List Node, (locateAll above ns).map Prod.snd = walkAll ns
  | [] => rfl
  | n :: ns => by simp [locateAll, walkAll, map_snd_locate above n, map_snd_locateAll above ns]

end

theorem mem_walk_of_mem_locate {above path : List Node} {n e : Node}
    (h : (path, e) ∈ n.locate above) : e ∈ n.walk := by
  rw [← map_snd_locate above n]
  exact List.mem_map.mpr ⟨_, h, rfl⟩

theorem exists_mem_locate {n e : Node} (h : e ∈ n.walk) : ∃ above, (above, e) ∈ n.locate [] := by
  rw [← map_snd_locate []] at h
  obtain ⟨⟨above, _⟩, hm, rfl⟩ := List.mem_map.mp h
  exact ⟨above, hm⟩

mutual

theorem suffix_of_mem_locate {above path : List Node} {e : Node} :
    ∀ n : Node, (path, e) ∈ n.locate above → above <:+ path
  | text _, h => by simp [locate] at h
  | element tag classes attributes children, h => by
    rw [locate] at h
    rcases List.mem_cons.mp h with he | h
    · cases he
      exact List.suffix_rfl
    · exact (List.suffix_cons _ _).trans (suffix_of_mem_locateAll children h)

theorem suffix_of_mem_locateAll {above path : List Node} {e : Node} :
    ∀ ns : List Node, (path, e) ∈ locateAll above ns → above <:+ path
  | [], h => by simp [locateAll] at h
  | n :: ns, h => by
    rw [locateAll] at h
    rcases List.mem_append.mp h with h | h
    · exact suffix_of_mem_locate n h
    · exact suffix_of_mem_locateAll ns h

end

/-- An element of a tree is its root or stands in it. -/
theorem eq_or_mem_of_mem_locate {path : List Node} {n e : Node} (h : (path, e) ∈ n.locate []) :
    path = [] ∧ e = n ∨ n ∈ path := by
  cases n with
  | text s => simp [locate] at h
  | element tag classes attributes children =>
    rw [locate] at h
    rcases List.mem_cons.mp h with he | h
    · cases he
      exact .inl ⟨rfl, rfl⟩
    · exact .inr ((suffix_of_mem_locateAll children h).subset List.mem_cons_self)

mutual

/-- The innermost element that an element stands in is its parent. Only the root has none. -/
theorem exists_parent_of_mem_locate {above path : List Node} {e : Node} :
    ∀ n : Node, (path, e) ∈ n.locate above →
      path = above ∧ e = n ∨ ∃ p rest, path = p :: rest ∧ p ∈ n.walk ∧ e ∈ p.children
  | text _, h => by simp [locate] at h
  | element tag cs as ns, h => by
    rw [locate] at h
    rcases List.mem_cons.mp h with he | h
    · cases he
      exact .inl ⟨rfl, rfl⟩
    · right
      rcases exists_parent_of_mem_locateAll ns h with ⟨rfl, he⟩ | ⟨p, rest, hp, hw, he⟩
      · exact ⟨_, _, rfl, by rw [walk]; exact List.mem_cons_self, he⟩
      · exact ⟨p, rest, hp, by rw [walk]; exact List.mem_cons_of_mem _ hw, he⟩

theorem exists_parent_of_mem_locateAll {above path : List Node} {e : Node} :
    ∀ ns : List Node, (path, e) ∈ locateAll above ns →
      path = above ∧ e ∈ ns ∨ ∃ p rest, path = p :: rest ∧ p ∈ walkAll ns ∧ e ∈ p.children
  | [], h => by simp [locateAll] at h
  | n :: ns, h => by
    rw [locateAll] at h
    rw [walkAll]
    rcases List.mem_append.mp h with h | h
    · rcases exists_parent_of_mem_locate n h with ⟨hp, rfl⟩ | ⟨p, rest, hp, hw, he⟩
      · exact .inl ⟨hp, List.mem_cons_self⟩
      · exact .inr ⟨p, rest, hp, List.mem_append_left _ hw, he⟩
    · rcases exists_parent_of_mem_locateAll ns h with ⟨hp, he⟩ | ⟨p, rest, hp, hw, he⟩
      · exact .inl ⟨hp, List.mem_cons_of_mem _ he⟩
      · exact .inr ⟨p, rest, hp, List.mem_append_right _ hw, he⟩

end

/-! ## Texts -/

mutual

/-- The texts of a tree, in the order in which they are read. -/
def texts : Node → List String
  | text s => [s]
  | element _ _ _ children => textsAll children

def textsAll : List Node → List String
  | [] => []
  | n :: ns => n.texts ++ textsAll ns

end

@[simp]
theorem texts_text (s : String) : (text s).texts = [s] := by
  rw [texts]

theorem textsAll_eq_flatMap (ns : List Node) : textsAll ns = ns.flatMap texts := by
  induction ns with
  | nil => rfl
  | cons n ns ih => rw [textsAll, ih, List.flatMap_cons]

@[simp]
theorem texts_element (tag : Tag) (cs : List Class) (as : List (String × String))
    (ns : List Node) : (element tag cs as ns).texts = ns.flatMap texts := by
  rw [texts, textsAll_eq_flatMap]

end Vitae.Node
