import Vitae.Proofs.Shape.Partial

/-! # Closed records

A closed record is read from an object exactly if every member has the name of a field and every
field is read. What is read of a single value that may be left out is the value that is written, and
what is read of a record that may be left out is what is read of its fields. -/

namespace Vitae

namespace Json

/-- A value that is made of no others. -/
def isScalar : Json → Bool
  | .null | .bool _ | .int _ | .float _ | .str _ => true
  | .arr _ | .obj _ => false

def member? (name : String) : Json → Option Json
  | .obj members => members.lookup name
  | _ => none

end Json

/-! ## Members without a field -/

theorem Fields.mem_names_of_misfit?_eq_none {known : List String} {name : String} {v : Json} :
    {β : Type} → {fields : Fields β} → fields.misfit? true known name v = none →
    name ∈ fields.names
  | _, .nil, h => by cases h
  | _, .cons field shape rest, h => by
    rw [misfit?] at h
    split at h
    · rename_i hn
      rw [names, hn]
      exact List.mem_cons_self
    · exact List.mem_cons_of_mem _ (mem_names_of_misfit?_eq_none h)

theorem Shape.decode_closed_iff {α β : Type} {name : String} {fields : Fields β} {make : β → α}
    {parts : α → β} {members : List (String × Json)} (hd : (members.map Prod.fst).Nodup) {a : α} :
    (Shape.record name true fields make parts).decode (.obj members) = .ok a ↔
      (∀ m ∈ members, m.1 ∈ fields.names) ∧
        ∃ b, fields.Holds (List.lookup · members) b ∧ make b = a := by
  constructor
  · intro h
    obtain ⟨hfit, hb⟩ := Shape.decode_obj_eq_ok_iff.mp h
    exact ⟨fun m hm => Fields.mem_names_of_misfit?_eq_none (hfit m hm), hb⟩
  · rintro ⟨hn, b, hb, rfl⟩
    exact Shape.decode_obj hd (List.forall_mem_map.mpr hn) hb

/-! ## Single values -/

/-- A single value that can be written in one way only. -/
def Shape.isPlain : {α : Type} → Shape α → Bool
  | _, .text | _, .flag | _, .choice _ _ => true
  | _, .byte | _, .spelled _ _ | _, .optional _ | _, .list _ | _, .record _ _ _ _ _ => false

section Plain

variable {α : Type} {shape : Shape α}

theorem Shape.encode_injective (hl : shape.Lawful) : Function.Injective shape.encode := by
  intro a b h
  have hread := congrArg shape.decode h
  rw [Shape.decode_encode hl, Shape.decode_encode hl] at hread
  exact Except.ok.inj hread

theorem chosen_eq_ok {all : List α} {name : α → String} {s : String} {a : α}
    (h : chosen all name s = .ok a) : name a = s := by
  rw [chosen] at h
  split at h
  · rename_i b hb
    cases h
    have hname : decide (name a = s) = true :=
      List.find?_some (p := fun b => decide (name b = s)) hb
    exact of_decide_eq_true hname
  · cases h

theorem Shape.isOptional_of_isPlain (h : shape.isPlain = true) : shape.isOptional = false := by
  cases shape with
  | optional => cases h
  | _ => rfl

/-- A choice could be an object as well, but a scalar it can only be as it is written. -/
theorem Shape.decode_plain_iff (hl : shape.Lawful) (hp : shape.isPlain = true) {v : Json}
    (hv : v.isScalar = true) {a : α} : shape.decode v = .ok a ↔ v = shape.encode a := by
  refine ⟨fun h => ?_, fun h => h ▸ Shape.decode_encode hl a⟩
  cases shape with
  | text | flag =>
    cases v <;> cases h
    rfl
  | choice all name =>
    cases v with
    | str s => rw [Shape.encode, chosen_eq_ok h]
    | obj => cases hv
    | _ => cases h
  | _ => cases hp

variable {v? : Option Json} {name : String}

theorem Field.reads_plain_iff (hl : shape.Lawful) (hp : shape.isPlain = true)
    (hv : ∀ v, v? = some v → v.isScalar = true) {x : Option α} :
    (Field.nullable name).Reads (.optional shape) v? x ↔
      match x with
      | none => v? = none ∨ v? = some .null
      | some a => v? = some (shape.encode a) := by
  have hne := Shape.encode_ne_null (Shape.isOptional_of_isPlain hp)
  rcases v? with _ | v
  · cases x <;> simp [Field.Reads, Field.nullable]
  by_cases hnull : v = .null
  · subst hnull
    cases x <;> simp [Field.Reads, Shape.decode, (hne _).symm]
  · have hv := @Shape.decode_plain_iff _ _ hl hp v (hv v rfl)
    rw [Field.Reads, Shape.decode_optional shape hnull]
    cases hd : shape.decode v with
    | error => cases x <;> simp [Except.map, hnull, ← hv, hd]
    | ok a => cases x <;> simp [Except.map, hnull, ← hv, hd]

theorem Field.exists_reads_plain_iff (hl : shape.Lawful) (hp : shape.isPlain = true)
    (hv : ∀ v, v? = some v → v.isScalar = true) :
    (∃ x, (Field.nullable name).Reads (.optional shape) v? x) ↔
      ∀ v, v? = some v → v = .null ∨ ∃ a, v = shape.encode a := by
  simp only [Field.reads_plain_iff hl hp hv, Option.exists]
  rcases v? with _ | v <;> simp

/-- What is read of a value that may be left out is what is written. -/
theorem Field.eq_some_iff_of_reads_plain (hl : shape.Lawful) (hp : shape.isPlain = true)
    (hv : ∀ v, v? = some v → v.isScalar = true) {x : Option α}
    (h : (Field.nullable name).Reads (.optional shape) v? x) (a : α) :
    x = some a ↔ v? = some (shape.encode a) := by
  have hne := Shape.encode_ne_null (Shape.isOptional_of_isPlain hp) a
  rw [Field.reads_plain_iff hl hp hv] at h
  cases x with
  | none => rcases h with rfl | rfl <;> simp [hne.symm]
  | some b =>
    subst h
    rw [Option.some.injEq, Option.some.injEq]
    exact (Shape.encode_injective hl).eq_iff.symm

end Plain

/-! ## Records that may be left out -/

/-- Null or an object without two members of one name. -/
def Json.IsObjectOrNull (v : Json) : Prop :=
  v = .null ∨ ∃ members, v = .obj members ∧ (members.map Prod.fst).Nodup

section Record

variable {α β : Type} {record name : String} {fields : Fields β} {make : β → α} {parts : α → β}
  {empty : α} {v? : Option Json}

/-- A record that is left out is taken to be the empty one. -/
theorem Field.holds_of_reads_closed (hparts : ∀ b, parts (make b) = b)
    (hempty : (Shape.record record true fields make parts).decode (.obj []) = .ok empty)
    (hv : ∀ v, v? = some v → v.IsObjectOrNull) {x : Option α} (h : (Field.nullable name).Reads
      (.optional (.record record true fields make parts)) v? x) :
    (∀ members, v? = some (.obj members) → ∀ m ∈ members, m.1 ∈ fields.names) ∧
      fields.Holds (fun n => v?.bind (·.member? n)) (parts (x.getD empty)) := by
  have hnone : fields.Holds (fun _ => none) (parts empty) := by
    obtain ⟨-, b, hb, rfl⟩ := Shape.decode_obj_eq_ok_iff.mp hempty
    rwa [hparts]
  rcases v? with _ | v
  · cases h
    exact ⟨by nofun, hnone⟩
  rcases hv v rfl with rfl | ⟨members, rfl, hd⟩
  · cases h
    exact ⟨by nofun, hnone⟩
  · rw [Field.Reads, Shape.decode_optional _ (by nofun)] at h
    cases hx : (Shape.record record true fields make parts).decode (.obj members) with
    | error => rw [hx] at h; cases h
    | ok a =>
      rw [hx] at h
      cases h
      obtain ⟨hnames, b, hb, rfl⟩ := (Shape.decode_closed_iff hd).mp hx
      refine ⟨fun _ he => by cases he; exact hnames, ?_⟩
      rw [Option.getD_some, hparts]
      exact hb

theorem Field.exists_reads_closed {b : β} (hv : ∀ v, v? = some v → v.IsObjectOrNull)
    (hnames : ∀ members, v? = some (.obj members) → ∀ m ∈ members, m.1 ∈ fields.names)
    (hb : fields.Holds (fun n => v?.bind (·.member? n)) b) :
    ∃ x, (Field.nullable name).Reads (.optional (.record record true fields make parts)) v? x := by
  rcases v? with _ | v
  · exact ⟨none, rfl⟩
  rcases hv v rfl with rfl | ⟨members, rfl, hd⟩
  · exact ⟨none, rfl⟩
  · refine ⟨some (make b), ?_⟩
    rw [Field.Reads, Shape.decode_optional _ (by nofun),
      (Shape.decode_closed_iff hd).mpr ⟨hnames members rfl, b, hb, rfl⟩]
    rfl

end Record

end Vitae
