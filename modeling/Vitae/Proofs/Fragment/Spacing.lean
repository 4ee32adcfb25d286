import Mathlib.Data.List.Forall2
import Vitae.Artifact
import Vitae.Proofs.Fragment.Apart
import Vitae.Proofs.Markup.Rows

/-! # A fragment on lines and on one line

Text and elements are kept apart in a fragment, so every row of it begins and ends with a tag, and
every text stands whole in one row, between the tags of its element. Written on lines or on one
line, a fragment differs between tags only. -/

namespace Vitae

namespace Node

variable {p : String} {tag : Tag} {cs : List Class} {as : List (String × String)} {ns : List Node}

theorem KeepsApart.apart (h : (element tag cs as ns).KeepsApart) : Apart tag cs as ns :=
  h.2 (element tag cs as ns) (by rw [walk_element]; exact List.mem_cons_self)

/-- An element of which something but text stands on lines of its own keeps text out of them. -/
theorem KeepsApart.children (h : (element tag cs as ns).KeepsApart)
    (hns : ns.all isText = false) : ∀ n ∈ ns, n.KeepsApart := by
  have hwalk := (forall_mem_walk_element.mp h.2).2
  rcases h.apart.content with ⟨s, rfl⟩ | he
  · cases hns
  · exact fun n hn => ⟨he n hn, hwalk n hn⟩

theorem KeepsApart.texts_eq (h : (element tag cs as ns).KeepsApart) (hns : ns.all isText = true) :
    (∃ s, ns = [text s]) ∨ ns = [] := by
  rcases h.apart.content with hs | he
  · exact .inl hs
  · refine .inr (List.eq_nil_iff_forall_not_mem.mpr fun n hn => ?_)
    have htext := List.all_eq_true.mp hns n hn
    rw [he n hn] at htext
    cases htext

mutual

theorem isRow_of_mem_rows {depth : ℕ} :
    ∀ n : Node, n.KeepsApart → ∀ r ∈ n.rows p depth, IsRow r.2
  | text s, h => absurd h.1 (by simp [isText])
  | element tag classes attributes children, h => by
    rw [rows]
    split
    · simpa using isRow_openingTag tag classes attributes
    · split
      · simpa using isRow_append (isRow_openingTag tag classes attributes) (isRow_closingTag tag) _
      · rename_i hns
        rw [List.forall_mem_cons, List.forall_mem_append]
        refine ⟨isRow_openingTag .., ?_, by simpa using isRow_closingTag tag⟩
        exact isRow_of_mem_rowsAll children (h.children (by simpa using hns))

theorem isRow_of_mem_rowsAll {depth : ℕ} :
    ∀ ns : List Node, (∀ n ∈ ns, n.KeepsApart) → ∀ r ∈ rowsAll p depth ns, IsRow r.2
  | [], _ => by simp [rowsAll]
  | n :: ns, h => by
    obtain ⟨hn, hns⟩ := List.forall_mem_cons.mp h
    rw [rowsAll, List.forall_mem_append]
    exact ⟨isRow_of_mem_rows n hn, isRow_of_mem_rowsAll ns hns⟩

end

/-- The text alone between the tags of its element. -/
def HoldsText (p s row : String) : Prop :=
  ∃ tag cs as, row = openingTag p tag cs as ++ (Text.escapeHtml s ++ closingTag tag)

mutual

/-- Every text of a tree stands in a row of its own, in their order. -/
theorem exists_held (depth : ℕ) : ∀ n : Node, n.KeepsApart →
    ∃ held, held.Sublist ((n.rows p depth).map Prod.snd) ∧
      List.Forall₂ (HoldsText p) n.texts held
  | text s, h => absurd h.1 (by simp [isText])
  | element tag classes attributes children, h => by
    rw [rows, texts_element]
    split
    · rename_i hv
      rw [h.apart.void hv]
      exact ⟨[], List.nil_sublist _, .nil⟩
    · split
      · rename_i hns
        rcases h.texts_eq hns with ⟨s, rfl⟩ | rfl
        · refine ⟨_, List.Sublist.refl _, .cons ⟨tag, classes, attributes, ?_⟩ .nil⟩
          rw [compactAll, compactAll, compact, String.append_empty]
        · exact ⟨[], List.nil_sublist _, .nil⟩
      · rename_i hns
        obtain ⟨held, hsub, hheld⟩ :=
          exists_heldAll (depth + 1) children (h.children (by simpa using hns))
        refine ⟨held, ?_, hheld⟩
        rw [List.map_cons, List.map_append]
        exact (hsub.trans (List.sublist_append_left _ _)).cons _

theorem exists_heldAll (depth : ℕ) : ∀ ns : List Node, (∀ n ∈ ns, n.KeepsApart) →
    ∃ held, held.Sublist ((rowsAll p depth ns).map Prod.snd) ∧
      List.Forall₂ (HoldsText p) (ns.flatMap texts) held
  | [], _ => ⟨[], List.nil_sublist _, .nil⟩
  | n :: ns, h => by
    obtain ⟨hn, hns⟩ := List.forall_mem_cons.mp h
    obtain ⟨held, hsub, hheld⟩ := exists_held depth n hn
    obtain ⟨more, hmore, hrest⟩ := exists_heldAll depth ns hns
    refine ⟨held ++ more, ?_, ?_⟩
    · rw [rowsAll, List.map_append]
      exact hsub.append hmore
    · rw [List.flatMap_cons]
      exact List.rel_append hheld hrest

end

end Node

open Node (onLines onOneLine HoldsText)

/-- A fragment on lines and one on a single line are the same once the gaps between tags are
erased. Both consist of the same rows, and every text stands in one of them as it is, between the
tags of its element. -/
theorem Template.erase_html (t : Template) (options : RenderOptions) (r : Resume) :
    let pretty := t.html { options with pretty := true } r
    let compact := t.html { options with pretty := false } r
    Text.erase pretty.toList = Text.erase compact.toList ∧
      ∃ rows, pretty = onLines rows ∧ compact = onOneLine rows ∧
        ∃ held, held.Sublist (rows.map Prod.snd) ∧
          List.Forall₂ (HoldsText options.prefixText) (t.layout.fragment r).texts held := by
  intro pretty compact
  have hapart := keepsApart_fragment t.layout r
  let rows := (t.layout.fragment r).rows options.prefixText 0
  have hpretty : pretty = onLines rows := (Node.onLines_rows 0 _).symm
  have hcompact : compact = onOneLine rows := (Node.onOneLine_rows 0 _).symm
  refine ⟨?_, rows, hpretty, hcompact, Node.exists_held 0 _ hapart⟩
  rw [hpretty, hcompact]
  exact Node.erase_onLines (Node.isRow_of_mem_rows _ hapart) fun _ => Node.depth_eq_of_mem_head?

end Vitae
