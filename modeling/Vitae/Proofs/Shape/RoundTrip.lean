import Vitae.Proofs.Shape.Object

/-! # What is written of a shape is read back

A shape is lawful if its parts say what they mean: a choice is known by its name, an optional part is
written as something else than its absence, a record has fields of distinct names and is made of its
own parts, and a field that is not written has the value it is taken to have. Values of lawful shapes
are read back as they were written. -/

namespace Vitae

/-- Whether nothing may stand for a value. -/
def Shape.isOptional : {α : Type} → Shape α → Bool
  | _, .optional _ => true
  | _, _ => false

mutual

def Shape.Lawful : {α : Type} → Shape α → Prop
  | _, .text | _, .flag | _, .byte => True
  | _, .spelled read write => ∀ a, read (write a) = .ok a
  | _, .choice all name => ∀ a, chosen all name (name a) = .ok a
  | _, .optional shape => shape.Lawful ∧ shape.isOptional = false
  | _, .list shape => shape.Lawful
  | _, .record _ _ fields make parts =>
    fields.Lawful ∧ fields.names.Nodup ∧ ∀ a, make (parts a) = a

def Fields.Lawful : {β : Type} → Fields β → Prop
  | _, .nil => True
  | _, .cons field shape rest =>
    shape.Lawful ∧ rest.Lawful ∧ ∀ a, field.isWritten a = false → field.absent = some a

end

theorem Shape.encode_ne_null {α : Type} {shape : Shape α} (h : shape.isOptional = false) (a : α) :
    shape.encode a ≠ .null := by
  cases shape with
  | optional => cases h
  | _ => simp [Shape.encode]

/-- A value that is there is read as without the choice. -/
theorem Shape.decode_optional {α : Type} (shape : Shape α) {v : Json} (hv : v ≠ .null) :
    (Shape.optional shape).decode v = (shape.decode v).map some := by
  cases v with
  | null => exact absurd rfl hv
  | _ => rfl

theorem Fields.encode_names_sublist : {β : Type} → (fields : Fields β) → (b : β) →
    ((fields.encode b).map Prod.fst).Sublist fields.names
  | _, .nil, () => .slnil
  | _, .cons field shape rest, (a, b) => by
    have ih := rest.encode_names_sublist b
    rw [Fields.encode, Fields.names]
    split
    · exact ih.cons_cons _
    · exact ih.cons _

theorem mapM_map {α β ε : Type} {f : α → β} {g : β → Except ε α} (h : ∀ a, g (f a) = .ok a)
    (as : List α) : (as.map f).mapM g = .ok as := by
  induction as with
  | nil => rfl
  | cons a as ih =>
    rw [List.map_cons, List.mapM_cons, h, ih]
    rfl

mutual

theorem Shape.decode_encode : {α : Type} → {shape : Shape α} → shape.Lawful → (a : α) →
    shape.decode (shape.encode a) = .ok a
  | _, .text, _, _ | _, .flag, _, _ => rfl
  | _, .byte, _, n => by
    have hn : (0 : Int) ≤ n.toNat ∧ (n.toNat : Int) < 256 := by
      have hlt := n.toNat_lt
      omega
    rw [Shape.encode, Shape.decode]
    simp [hn]
  | _, .spelled read write, h, a => by
    have hread : read (write a) = .ok a := h a
    rw [Shape.encode, Shape.decode, hread]
    rfl
  | _, .choice all name, h, a => h a
  | _, .optional shape, _, none => rfl
  | _, .optional shape, h, some a => by
    obtain ⟨hs, ho⟩ : shape.Lawful ∧ shape.isOptional = false := h
    rw [Shape.encode, Shape.decode_optional shape (Shape.encode_ne_null ho a),
      Shape.decode_encode hs a]
    rfl
  | _, .list shape, h, as => mapM_map (@Shape.decode_encode _ shape h) as
  | _, .record name closed fields make parts, h, a => by
    obtain ⟨hf, hd, hm⟩ : fields.Lawful ∧ fields.names.Nodup ∧ ∀ a, make (parts a) = a := h
    have hsub := fields.encode_names_sublist (parts a)
    rw [Shape.encode, Shape.decode_obj (hd.sublist hsub) (fun n hn => hsub.subset hn)
      (Fields.holds_encode hf hd (parts a)), hm]

theorem Fields.holds_encode : {β : Type} → {fields : Fields β} → fields.Lawful →
    fields.names.Nodup → (b : β) → fields.Holds (List.lookup · (fields.encode b)) b
  | _, .nil, _, _, () => trivial
  | _, .cons field shape rest, h, hd, (a, b) => by
    obtain ⟨hs, hr, hw⟩ : shape.Lawful ∧ rest.Lawful ∧
      ∀ a, field.isWritten a = false → field.absent = some a := h
    obtain ⟨hn, hd⟩ := List.nodup_cons.mp hd
    have hrest := Fields.holds_encode hr hd b
    have hlook : List.lookup field.name (rest.encode b) = none :=
      lookup_eq_none_of_not_mem fun hm => hn ((rest.encode_names_sublist b).subset hm)
    rw [Fields.encode]
    cases ha : field.isWritten a with
    | true =>
      refine ⟨?_, hrest.congr ?_⟩
      · simpa [Field.Reads] using Shape.decode_encode hs a
      · intro name hname
        have hne : name ≠ field.name := fun he => hn (he ▸ hname)
        simp [List.lookup_cons, beq_eq_false_iff_ne.mpr hne]
    | false =>
      refine ⟨?_, hrest⟩
      simpa [Field.Reads, hlook] using hw a ha

end

end Vitae
