import Vitae.Proofs.Registry.Interrupted

/-! # The two halves of a document

The body of a document is made of the template that is under the key when the request comes, and the
stylesheet of the one that is there when the body is done. They are one template unless, in between,
the key was given anew. -/

namespace Vitae

namespace Registry

theorem document_eq_templates {g : Generator} {reg : Registry} {during : Registry → Registry}
    (h : Coherent g reg) (hd : Orderly g during) (key : String) (r : Resume)
    (options : DocumentOptions) :
    (reg.document g during key r options).1 =
      match reg.template? key, (during reg.composing).template? key with
      | some t, some t' => .ok (Document.assemble (g.html t r) (g.css t') options)
      | _, _ => .error ⟨key⟩ := by
  have hleft := ((orderly_composing g).comp hd reg h).1
  rw [document_fst, html_eq]
  cases ht : reg.template? key with
  | none => simp only [expect, ht]; rfl
  | some t =>
    have hc : reg.contains key = true := by rw [contains_eq, ht]; rfl
    rw [if_pos hc, (fetch_spec hleft (orderly_id g) .css key).1]
    cases ht' : (during reg.composing).template? key with
    | none => simp only [expect, ht, ht']; rfl
    | some t' => simp only [expect, ht, ht']; rfl

/-- The body is of the template under the key when the request comes, the stylesheet of the one there
when the body is done, and without both there is no document. With the key left alone in between, the
document is all of one template. -/
theorem Reached.document_of_templates {g : Generator} {reg : Registry} (h : Reached g reg)
    (key : String) (r : Resume) (options : DocumentOptions) (during : List Step) :
    let left := Step.runAll g during reg.composing
    let answered := (reg.document g (Step.runAll g during) key r options).1
    (answered =
      match reg.template? key, left.template? key with
      | some t, some t' => .ok (Document.assemble (g.html t r) (g.css t') options)
      | _, _ => .error ⟨key⟩) ∧
    ((left.log.drop reg.log.length).any (·.replaces key) = false →
      answered = reg.expect key fun t => Document.assemble (g.html t r) (g.css t) options) := by
  intro left answered
  have hd := Step.orderly_runAll g during
  have hfst := document_eq_templates h.coherent hd key r options
  refine ⟨hfst, ?_⟩
  intro hno
  obtain ⟨-, events, hf⟩ := (orderly_composing g).comp hd reg h.coherent
  have hlog : left.log.drop reg.log.length = events := by
    rw [hf.log, List.drop_left]
  rw [hlog] at hno
  have hsame : left.template? key = reg.template? key := by
    have hr := hf.standing key (by simpa using hno)
    rw [template?_eq_registration?, template?_eq_registration?, hr]
  rw [show answered = _ from hfst, show (Step.runAll g during reg.composing).template? key = _ from hsame]
  cases ht : reg.template? key with
  | none => simp [expect, ht]
  | some t => simp [expect, ht]

/-- Another template comes, and what is kept is dropped, while the body is made. -/
theorem document_of_templates_left_alone :
    let g : Generator := ⟨fun t _ => t.name, Template.name, Template.key⟩
    let t : Template := ⟨"k", "N", "", .modern, Layout.neutral⟩
    let reg := ({} : Registry).register t
    let during : List Step := [.mk (.register { t with key := "other" }) [], .mk .clear []]
    Reached g reg ∧
      ((Step.runAll g during reg.composing).log.drop reg.log.length).any (·.replaces "k") = false ∧
      (reg.document g (Step.runAll g during) "k" {} {}).1 = .ok (Document.assemble "N" "N" {}) := by
  intro g t reg during
  have h : Reached g reg := .served (.mk (.register t) []) .empty
  exact ⟨h, rfl, (h.document_of_templates "k" {} {} during).2 rfl⟩

/-- A template that is replaced while the body is made: the document is neither all of the old one
nor all of the new one. -/
theorem document_torn :
    let g : Generator := ⟨fun t _ => t.name, Template.name, Template.key⟩
    let old : Template := ⟨"k", "A", "", .modern, Layout.neutral⟩
    let new : Template := ⟨"k", "B", "", .modern, Layout.neutral⟩
    let reg := ({} : Registry).register old
    let during : List Step := [.mk (.register new) []]
    Reached g reg ∧ ∃ page, (reg.document g (Step.runAll g during) "k" {} {}).1 = .ok page ∧
      ∀ t, reg.template? "k" = some t ∨
          (Step.runAll g during reg.composing).template? "k" = some t →
        page ≠ Document.assemble (g.html t {}) (g.css t) {} := by
  intro g old new reg during
  refine ⟨.served (.mk (.register old) []) .empty, Document.assemble "A" "B" {}, rfl, ?_⟩
  rintro t (ht | ht)
  · cases ht
    decide +kernel
  · cases ht
    decide +kernel

end Registry

end Vitae
