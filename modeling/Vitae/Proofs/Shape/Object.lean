import Mathlib.Data.List.Nodup
import Vitae.Shape.Value

/-! # Records read from objects

An object is seen through one look-up, from names to values. A record is read from it exactly if
every field is read from the value of its name, or may be absent, and no member stands in the way. -/

namespace Vitae

/-- The member of a name, if there are no two of one name. -/
theorem lookup_eq_some_of_mem {ms : List (String × Json)} (hd : (ms.map Prod.fst).Nodup)
    {name : String} {v : Json} (hm : (name, v) ∈ ms) : ms.lookup name = some v := by
  induction ms with
  | nil => cases hm
  | cons m ms ih =>
    obtain ⟨n, w⟩ := m
    obtain ⟨hn, hd⟩ := List.nodup_cons.mp hd
    rw [List.lookup_cons]
    rcases List.mem_cons.mp hm with he | hm
    · cases he
      simp
    · have hne : name ≠ n := by
        intro he
        exact hn (he ▸ List.mem_map.mpr ⟨_, hm, rfl⟩)
      rw [beq_eq_false_iff_ne.mpr hne]
      exact ih hd hm

theorem lookup_eq_none_of_not_mem {ms : List (String × Json)} {name : String}
    (h : name ∉ ms.map Prod.fst) : ms.lookup name = none := by
  rw [List.lookup_eq_none_iff]
  rintro ⟨n, v⟩ hm
  rw [bne_iff_ne]
  rintro rfl
  exact h (List.mem_map.mpr ⟨_, hm, rfl⟩)

/-- What a field has the value `a` from: what is read, or else its absence. -/
def Field.Reads {α : Type} (field : Field α) (shape : Shape α) (v? : Option Json) (a : α) : Prop :=
  match v? with
  | some v => shape.decode v = .ok a
  | none => field.absent = some a

theorem Except.bind_eq_ok {α β ε : Type} {x : Except ε α} {f : α → Except ε β} {b : β}
    (h : x >>= f = .ok b) : ∃ a, x = .ok a ∧ f a = .ok b := by
  cases x with
  | error e => cases h
  | ok a => exact ⟨a, rfl, h⟩

theorem Except.bind_eq_ok_iff {α β ε : Type} {x : Except ε α} {f : α → Except ε β} {b : β} :
    x >>= f = .ok b ↔ ∃ a, x = .ok a ∧ f a = .ok b := by
  refine ⟨bind_eq_ok, ?_⟩
  rintro ⟨a, rfl, h⟩
  exact h

namespace Fields

/-- Every field has the value that is read at its name. -/
def Holds (look : String → Option Json) : {β : Type} → Fields β → β → Prop
  | _, .nil, () => True
  | _, .cons field shape rest, (a, b) =>
    field.Reads shape (look field.name) a ∧ rest.Holds look b

theorem Holds.congr {look look' : String → Option Json} : {β : Type} → {fields : Fields β} →
    {b : β} → (∀ name ∈ fields.names, look name = look' name) → fields.Holds look b →
    fields.Holds look' b
  | _, .nil, (), _, _ => trivial
  | _, .cons _ _ _, (_, _), hl, h => by
    obtain ⟨ha, hb⟩ := h
    refine ⟨?_, hb.congr fun name hn => hl name (List.mem_cons_of_mem _ hn)⟩
    rwa [← hl _ List.mem_cons_self]

theorem collect_of_holds {members : List (String × Json)} : {β : Type} → {fields : Fields β} →
    {b : β} → fields.Holds (List.lookup · members) b → fields.collect members = .ok b
  | _, .nil, (), _ => rfl
  | _, .cons field shape rest, (a, b), h => by
    simp only [Holds] at h
    obtain ⟨ha, hb⟩ := h
    rw [collect, collect_of_holds hb]
    cases hv : List.lookup field.name members with
    | some v =>
      have hdec : shape.decode v = .ok a := by rwa [hv] at ha
      simp only [hdec]
      rfl
    | none =>
      have habs : field.absent = some a := by rwa [hv] at ha
      simp only [habs]
      rfl

theorem holds_of_collect {members : List (String × Json)} : {β : Type} → {fields : Fields β} →
    {b : β} → fields.collect members = .ok b → fields.Holds (List.lookup · members) b
  | _, .nil, (), _ => trivial
  | _, .cons field shape rest, (a, b), h => by
    rw [collect] at h
    cases hv : members.lookup field.name with
    | some v =>
      rw [hv] at h
      obtain ⟨_, ha, h⟩ := Except.bind_eq_ok h
      obtain ⟨_, hb, h⟩ := Except.bind_eq_ok h
      cases h
      refine ⟨?_, holds_of_collect hb⟩
      show field.Reads shape (members.lookup field.name) a
      rwa [hv]
    | none =>
      rw [hv] at h
      obtain ⟨x, ha, h⟩ := Except.bind_eq_ok h
      obtain ⟨_, hb, h⟩ := Except.bind_eq_ok h
      cases h
      refine ⟨?_, holds_of_collect hb⟩
      show field.Reads shape (members.lookup field.name) a
      rw [hv]
      cases hx : field.absent with
      | none => simp [hx] at ha
      | some _ =>
        simp only [hx, Option.elim_some, Except.ok.injEq] at ha
        rw [Field.Reads, hx, ha]

/-- A member whose value was read is no misfit. -/
theorem misfit?_of_holds {look : String → Option Json} {closed : Bool} {known : List String}
    {name : String} {v : Json} (hv : look name = some v) : {β : Type} → {fields : Fields β} →
    {b : β} → fields.Holds look b → name ∈ fields.names →
    fields.misfit? closed known name v = none
  | _, .cons field shape rest, (a, b), h, hn => by
    obtain ⟨ha, hb⟩ := h
    rw [misfit?]
    by_cases hf : field.name = name
    · have hdec : shape.decode v = .ok a := by rwa [hf, hv] at ha
      rw [if_pos hf, hdec]
    · rw [if_neg hf]
      refine misfit?_of_holds hv hb ?_
      rcases List.mem_cons.mp hn with he | hn
      · exact absurd he.symm hf
      · exact hn

end Fields

/-- A record is read from an object whose members all fit, and has the values at its names. -/
theorem Shape.decode_obj_eq_ok_iff {α β : Type} {name : String} {closed : Bool} {fields : Fields β}
    {make : β → α} {parts : α → β} {members : List (String × Json)} {a : α} :
    (Shape.record name closed fields make parts).decode (.obj members) = .ok a ↔
      (∀ m ∈ members, fields.misfit? closed fields.names m.1 m.2 = none) ∧
        ∃ b, fields.Holds (List.lookup · members) b ∧ make b = a := by
  rw [Shape.decode]
  split
  · rename_i misfit hfound
    obtain ⟨m, hm, hmisfit⟩ := List.exists_of_findSome?_eq_some hfound
    refine ⟨fun h => (by cases h), fun h => ?_⟩
    cases (h.1 m hm).symm.trans hmisfit
  · rename_i hfit
    refine ⟨fun h => ⟨List.findSome?_eq_none_iff.mp hfit, ?_⟩, ?_⟩
    · cases hb : fields.collect members with
      | error => rw [hb] at h; cases h
      | ok b =>
        rw [hb] at h
        exact ⟨b, Fields.holds_of_collect hb, Except.ok.inj h⟩
    · rintro ⟨-, b, hb, rfl⟩
      rw [Fields.collect_of_holds hb]
      rfl

theorem Shape.decode_obj {α β : Type} {name : String} {closed : Bool} {fields : Fields β}
    {make : β → α} {parts : α → β} {members : List (String × Json)} {b : β}
    (hd : (members.map Prod.fst).Nodup) (hn : ∀ n ∈ members.map Prod.fst, n ∈ fields.names)
    (h : fields.Holds (List.lookup · members) b) :
    (Shape.record name closed fields make parts).decode (.obj members) = .ok (make b) := by
  refine Shape.decode_obj_eq_ok_iff.mpr ⟨?_, b, h, rfl⟩
  rintro ⟨n, w⟩ hm
  have hlook := lookup_eq_some_of_mem hd hm
  exact Fields.misfit?_of_holds hlook h (hn n (List.mem_map.mpr ⟨_, hm, rfl⟩))

end Vitae
