import Vitae.Proofs.Json.Reorder
import Vitae.Proofs.Shape.RoundTrip

/-! # Documents are read alike in any order of their members

A value that is read from a document is read from every reordering of it. So a value of a lawful shape
is read back from what is written of it, however the members of its records are then arranged. -/

namespace Vitae

open Json

/-- Items that are read alike make lists that are. -/
theorem mapM_related {α ε : Type} {R : Json → Json → Prop} {f : Json → Except ε α}
    (hf : ∀ {v w a}, R v w → f v = .ok a → f w = .ok a) {vs ws : List Json}
    (h : List.Forall₂ R vs ws) {as : List α} (hm : vs.mapM f = .ok as) :
    ws.mapM f = .ok as := by
  induction h generalizing as with
  | nil => exact hm
  | cons hv _ ih =>
    rw [List.mapM_cons] at hm ⊢
    obtain ⟨a, ha, hm⟩ := Except.bind_eq_ok hm
    obtain ⟨as, has, hm⟩ := Except.bind_eq_ok hm
    rw [hf hv ha, ih has]
    exact hm

/-- Nothing but itself is a reordering of a single value. -/
theorem Json.Reordered.null_iff {v w : Json} (h : v.Reordered w) : v = .null ↔ w = .null := by
  have hf := h.ofSameForm
  cases v with
  | arr vs =>
    obtain ⟨ws, rfl, -⟩ := hf
    simp
  | obj ms =>
    obtain ⟨ns, rfl, -⟩ := hf
    simp
  | _ =>
    obtain rfl : w = _ := hf
    rfl

/-- The content of a choice is not an object. -/
theorem Shape.decode_choice_reordered {α : Type} {all : List α} {name : α → String} {a : α}
    {v w : Json} (hr : v.Reordered w) (h : (Shape.choice all name).decode v = .ok a) :
    (Shape.choice all name).decode w = .ok a := by
  have hf := hr.ofSameForm
  cases v with
  | arr => cases h
  | obj ms =>
    obtain ⟨ns, rfl, hm⟩ := hf
    match ms with
    | [] | _ :: _ :: _ => cases h
    | [(s, content)] =>
      obtain ⟨⟨s', content'⟩, rfl⟩ := List.length_eq_one_iff.mp hm.length
      obtain ⟨_, hmem, rfl, hc⟩ := hm.mem _ List.mem_cons_self
      cases List.mem_singleton.mp hmem
      rw [Shape.decode] at h ⊢
      obtain ⟨a, ha, h⟩ := Except.bind_eq_ok h
      obtain ⟨_, hu, h⟩ := Except.bind_eq_ok h
      have hnull : content = .null := by
        cases content with
        | null => rfl
        | _ => cases hu
      have hnull' : content' = .null := hc.null_iff.mp hnull
      rw [ha, hnull', ← hnull, hu]
      exact h
  | _ =>
    obtain rfl : w = _ := hf
    exact h

mutual

theorem Shape.decode_reordered : {α : Type} → {shape : Shape α} → {v w : Json} → {a : α} →
    v.Reordered w → shape.decode v = .ok a → shape.decode w = .ok a
  | _, .text, v, w, _, hr, h | _, .flag, v, w, _, hr, h | _, .byte, v, w, _, hr, h
  | _, .spelled _ _, v, w, _, hr, h => by
    have hf := hr.ofSameForm
    cases v with
    | arr | obj => cases h
    | _ =>
      obtain rfl : w = _ := hf
      exact h
  | _, .choice _ _, _, _, _, hr, h => Shape.decode_choice_reordered hr h
  | _, .optional shape, v, w, a, hr, h => by
    by_cases hv : v = .null
    · rw [hr.null_iff.mp hv, ← hv]
      exact h
    · rw [Shape.decode_optional shape hv] at h
      rw [Shape.decode_optional shape (mt hr.null_iff.mpr hv)]
      cases hb : shape.decode v with
      | error => rw [hb] at h; cases h
      | ok b => rwa [Shape.decode_reordered hr hb, ← hb]
  | _, .list shape, v, w, _, hr, h => by
    have hf := hr.ofSameForm
    cases v with
    | arr vs =>
      obtain ⟨ws, rfl, hvs⟩ := hf
      exact mapM_related (@Shape.decode_reordered _ shape) hvs h
    | _ => cases h
  | _, .record name closed fields make _, v, w, a, hr, h => by
    have hf := hr.ofSameForm
    cases v with
    | arr vs =>
      obtain ⟨ws, rfl, hvs⟩ := hf
      rw [Shape.decode] at h ⊢
      cases hb : fields.decodeList (fields.expectedList name) 0 vs with
      | error => simp only [hb] at h; cases h
      | ok b =>
        simp only [hb] at h
        simp only [Fields.decodeList_reordered hvs hb, ← hvs.length_eq]
        exact h
    | obj ms =>
      obtain ⟨ns, rfl, hm⟩ := hf
      obtain ⟨hfit, b, hb, ha⟩ := Shape.decode_obj_eq_ok_iff.mp h
      refine Shape.decode_obj_eq_ok_iff.mpr ⟨?_, b, Fields.holds_reordered hm hb, ha⟩
      intro n hn
      obtain ⟨m, hmem, hname, hv⟩ := hm.mem n hn
      exact hname ▸ Fields.misfit?_reordered hv (hfit m hmem)
    | _ => cases h

theorem Fields.misfit?_reordered {closed : Bool} {known : List String} {name : String}
    {v w : Json} (hr : v.Reordered w) : {β : Type} → {fields : Fields β} →
    fields.misfit? closed known name v = none → fields.misfit? closed known name w = none
  | _, .nil, h => h
  | _, .cons field shape rest, h => by
    rw [Fields.misfit?] at h ⊢
    split at h
    · rename_i hname
      rw [if_pos hname]
      cases ha : shape.decode v with
      | error => simp only [ha] at h; cases h
      | ok a => rw [Shape.decode_reordered hr ha]
    · rename_i hname
      rw [if_neg hname]
      exact Fields.misfit?_reordered hr h

theorem Fields.holds_reordered {ms ns : List (String × Json)} : {β : Type} →
    {fields : Fields β} → {b : β} → SameMembers ms ns → fields.Holds (List.lookup · ms) b →
    fields.Holds (List.lookup · ns) b
  | _, .nil, (), _, _ => trivial
  | _, .cons field shape rest, (a, b), hm, h => by
    obtain ⟨ha, hb⟩ : field.Reads shape (ms.lookup field.name) a ∧
      rest.Holds (List.lookup · ms) b := h
    refine ⟨?_, Fields.holds_reordered hm hb⟩
    show field.Reads shape (ns.lookup field.name) a
    cases hv : ms.lookup field.name with
    | none =>
      rw [hm.absent _ hv, ← hv]
      exact ha
    | some v =>
      obtain ⟨w, hw, hr⟩ := hm.found _ v hv
      rw [hv] at ha
      rw [hw]
      exact Shape.decode_reordered hr ha

theorem Fields.decodeList_reordered : {β : Type} → {fields : Fields β} → {expected : String} →
    {index : Nat} → {vs ws : List Json} → {b : β} → List.Forall₂ Reordered vs ws →
    fields.decodeList expected index vs = .ok b → fields.decodeList expected index ws = .ok b
  | _, .nil, _, _, _, _, _, _, h => h
  | _, .cons field shape rest, _, _, _, _, _, .nil, h => h
  | _, .cons field shape rest, expected, index, v :: vs, w :: ws, _, .cons hv hvs, h => by
    rw [Fields.decodeList] at h ⊢
    obtain ⟨a, ha, h⟩ := Except.bind_eq_ok h
    obtain ⟨b, hb, h⟩ := Except.bind_eq_ok h
    simp only [List.tail_cons] at hb ⊢
    rw [Shape.decode_reordered hv ha, Fields.decodeList_reordered hvs hb]
    exact h

end

end Vitae
