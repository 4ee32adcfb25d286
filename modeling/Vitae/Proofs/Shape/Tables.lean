import Vitae.Proofs.Shape.RoundTrip
import Vitae.Shape.TomlTree

/-! # Objects written as tables

A TOML document of the same texts, flags, whole numbers and tables as a JSON one is read alike where
no field is passed over. -/

namespace Vitae

/-- A tree stands for a JSON value, wherever and in whichever form its parts are written. -/
inductive Toml.Spells : Toml → Json → Prop
  | string {span : Span} {s : String} : Spells (.scalar span (.string s)) (.str s)
  | boolean {span : Span} {b : Bool} : Spells (.scalar span (.boolean b)) (.bool b)
  | integer {span : Span} {n : Int} : Spells (.scalar span (.integer n)) (.int n)
  | empty {span : Span} {form : TableForm} : Spells (.table span form []) (.obj [])
  | entry {span : Span} {form : TableForm} {k : Key} {t : Toml} {v : Json}
      {entries : List (Key × Toml)} {members : List (String × Json)} (hv : Spells t v)
      (hrest : Spells (.table span form entries) (.obj members)) :
      Spells (.table span form ((k, t) :: entries)) (.obj ((k.name, v) :: members))

theorem Toml.Spells.exists_table {t : Toml} {members : List (String × Json)}
    (h : t.Spells (.obj members)) : ∃ span form entries, t = .table span form entries := by
  cases h with
  | empty => exact ⟨_, _, _, rfl⟩
  | entry => exact ⟨_, _, _, rfl⟩

mutual

/-- No record takes a field that is not its own. -/
def Shape.Closed : {α : Type} → Shape α → Prop
  | _, .text | _, .flag | _, .byte | _, .spelled _ _ | _, .choice _ _ => True
  | _, .optional shape | _, .list shape => shape.Closed
  | _, .record _ closed fields _ _ => closed = true ∧ fields.Closed

def Fields.Closed : {β : Type} → Fields β → Prop
  | _, .nil => True
  | _, .cons _ shape rest => shape.Closed ∧ rest.Closed

end

namespace Fields

theorem unnamed?_of_holds {members : List (String × Json)} : {β : Type} → {fields : Fields β} →
    {b : β} → fields.Holds (List.lookup · members) b →
    fields.unnamed? (members.map Prod.fst) = none
  | _, .nil, (), _ => rfl
  | _, .cons field shape rest, (a, b), h => by
    obtain ⟨ha, hb⟩ : field.Reads shape (members.lookup field.name) a ∧
      rest.Holds (List.lookup · members) b := h
    rw [unnamed?, unnamed?_of_holds hb]
    cases hv : members.lookup field.name with
    | some v =>
      have hmem : field.name ∈ members.map Prod.fst := by
        by_contra hn
        rw [lookup_eq_none_of_not_mem hn] at hv
        cases hv
      simp [hmem]
    | none =>
      rw [hv] at ha
      have habs : field.absent = some a := ha
      simp [habs]

/-- Entries that stand for members which fit are these members. -/
theorem transcribe_entries {β : Type} {fields : Fields β} {closed : Bool} {known : List String}
    (hentry : ∀ (k : Toml.Key) (t : Toml) (w : Json), t.Spells w →
      fields.misfit? closed known k.name w = none →
      fields.transcribeEntry closed known k t = .ok (some (k.name, w)))
    {span : Span} {form : Toml.TableForm} {entries : List (Toml.Key × Toml)}
    {members : List (String × Json)} (hs : Toml.Spells (.table span form entries) (.obj members))
    (hfit : ∀ m ∈ members, fields.misfit? closed known m.1 m.2 = none) :
    (entries.filterMapM fun (k, v) => fields.transcribeEntry closed known k v) = .ok members := by
  induction entries generalizing members with
  | nil =>
    cases hs
    rfl
  | cons e entries ih =>
    cases hs with
    | @entry _ _ k t w _ members hv hrest =>
      have hread := hentry k t w hv (hfit _ List.mem_cons_self)
      have hrests := ih hrest fun m hm => hfit m (List.mem_cons_of_mem _ hm)
      simp only [List.filterMapM_cons, hread, hrests]
      rfl

end Fields

/-- A choice is not written as a table: there is nothing that stands for no content. -/
theorem Shape.decode_choice_ne_ok {α : Type} {all : List α} {name : α → String} {a : α} {t : Toml}
    {members : List (String × Json)} (hs : t.Spells (.obj members)) :
    (Shape.choice all name).decode (.obj members) ≠ .ok a := by
  intro h
  cases hs with
  | empty => cases h
  | entry hv hrest =>
    cases hrest with
    | empty =>
      rw [Shape.decode] at h
      obtain ⟨_, _, h⟩ := Except.bind_eq_ok h
      obtain ⟨_, h, _⟩ := Except.bind_eq_ok h
      cases hv <;> cases h
    | entry => cases h

mutual

theorem Shape.transcribe_of_spells : {α : Type} → {shape : Shape α} → shape.Closed →
    {t : Toml} → {v : Json} → t.Spells v → {a : α} → shape.decode v = .ok a →
    shape.transcribe t = .ok v
  | _, .text, _, _, _, hs, a, h => by
    cases hs with
    | string => rfl
    | _ => cases h
  | _, .flag, _, _, _, hs, a, h => by
    cases hs with
    | boolean => rfl
    | _ => cases h
  | _, .byte, _, _, _, hs, a, h => by
    cases hs with
    | integer => rw [Shape.transcribe]; simp [h]
    | _ => cases h
  | _, .spelled read write, _, _, _, hs, a, h => by
    cases hs with
    | @string _ s =>
      rw [Shape.decode] at h
      cases hr : read s with
      | ok => simp [Shape.transcribe, hr]
      | error => simp [hr, Except.mapError] at h
    | _ => cases h
  | _, .choice all name, _, _, v, hs, a, h => by
    cases v with
    | str s =>
      cases hs
      have hname : chosen all name s = .ok a := h
      rw [Shape.transcribe, Toml.choiceOf, hname]
      rfl
    | obj members => exact absurd h (Shape.decode_choice_ne_ok hs)
    | _ => cases h
  | _, .optional shape, hc, _, v, hs, o, h => by
    have hv : v ≠ .null := by
      rintro rfl
      cases hs
    rw [Shape.decode_optional shape hv] at h
    cases ha : shape.decode v with
    | error => rw [ha] at h; cases h
    | ok a => exact @Shape.transcribe_of_spells _ shape hc _ _ hs _ ha
  | _, .list shape, _, _, _, hs, a, h => by
    cases hs <;> cases h
  | _, .record name closed fields make parts, hc, _, v, hs, a, h => by
    obtain ⟨rfl, hc⟩ : closed = true ∧ fields.Closed := hc
    cases v with
    | obj members =>
      obtain ⟨span, form, entries, rfl⟩ := hs.exists_table
      obtain ⟨hfit, b, hb, -⟩ := Shape.decode_obj_eq_ok_iff.mp h
      have hentries := fields.transcribe_entries
        (fun k t w hs hw => Fields.transcribeEntry_of_spells hc hs hw) hs hfit
      rw [Shape.transcribe]
      simp only [Toml.entries?, hentries]
      show (match fields.unnamed? (members.map Prod.fst) with
        | some name => _
        | none => _) = _
      rw [Fields.unnamed?_of_holds hb]
      rfl
    | _ => cases hs <;> cases h

theorem Fields.transcribeEntry_of_spells : {β : Type} → {fields : Fields β} → fields.Closed →
    {known : List String} → {k : Toml.Key} → {t : Toml} → {w : Json} → t.Spells w →
    fields.misfit? true known k.name w = none →
    fields.transcribeEntry true known k t = .ok (some (k.name, w))
  | _, .nil, _, _, _, _, _, _, h => by cases h
  | _, .cons field shape rest, hc, known, k, t, w, hs, h => by
    obtain ⟨hc, hcr⟩ : shape.Closed ∧ rest.Closed := hc
    rw [Fields.misfit?] at h
    rw [Fields.transcribeEntry]
    by_cases hf : field.name = k.name
    · rw [if_pos hf] at h ⊢
      cases ha : shape.decode w with
      | error => simp [ha] at h
      | ok a =>
        rw [Shape.transcribe_of_spells hc hs ha]
        rfl
    · rw [if_neg hf] at h ⊢
      exact Fields.transcribeEntry_of_spells hcr hs h

end

/-- A text that spells a JSON value is read as the value is. -/
theorem Shape.ofTomlText_of_spells {α : Type} {shape : Shape α} (hc : shape.Closed) {v : Json}
    {a : α} (h : shape.decode v = .ok a) {text : String} {t : Toml}
    (hparse : Toml.parse? text = some t) (hs : t.Spells v) : shape.ofTomlText text = .ok a := by
  have ht := Shape.transcribe_of_spells hc hs h
  have hread : (do
      let v ← (shape.transcribe t).mapError TomlError.misfit
      (shape.decode v).mapError fun what => .misfit ⟨what, t.span⟩) = .ok a := by
    rw [ht]
    exact congrArg (Except.mapError _) h
  rw [Shape.ofTomlText, hparse]
  exact hread

end Vitae
