import Vitae.Proofs.Json.Prune
import Vitae.Proofs.Shape.RoundTrip

/-! # Partial records

A partial record has the fields of a whole one, each of which may be left out. Once parts are taken out
of the document of the whole record, the partial one is read from what is left. -/

namespace Vitae

open Json

/-- A single value, and no object. -/
def Shape.isLeaf : {α : Type} → Shape α → Bool
  | _, .text | _, .flag | _, .byte | _, .spelled _ _ | _, .choice _ _ => true
  | _, .optional _ | _, .list _ | _, .record _ _ _ _ _ => false

namespace Shape

variable {α : Type} {shape : Shape α}

theorem isOptional_of_isLeaf (h : shape.isLeaf = true) : shape.isOptional = false := by
  cases shape with
  | optional => cases h
  | _ => rfl

theorem encode_ne_obj (h : shape.isLeaf = true) (a : α) (members : List (String × Json)) :
    shape.encode a ≠ .obj members := by
  cases shape with
  | optional | list | record => cases h
  | _ => simp [encode]

theorem prune_encode (h : shape.isLeaf = true) (gone cleared : List String → Bool) (a : α) :
    (shape.encode a).prune gone cleared = if gone [] then none else some (shape.encode a) :=
  prune_of_ne_obj gone cleared (encode_ne_obj h a)

end Shape

namespace Fields

/-- From what is left of the values of some fields, others of the same names have their values. -/
inductive Keeps (gone cleared : List String → Bool) :
    {β γ : Type} → Fields β → Fields γ → β → γ → Prop
  | nil : Keeps gone cleared .nil .nil () ()
  | cons {α α' β γ : Type} {field : Field α} {field' : Field α'} {shape : Shape α}
      {shape' : Shape α'} {rest : Fields β} {rest' : Fields γ} {a : α} {a' : α'} {b : β} {c : γ}
      (hname : field'.name = field.name) (hwritten : field.isWritten a = true)
      (hreads : field'.Reads shape'
        ((shape.encode a).prune (gone <| field.name :: ·) (cleared <| field.name :: ·)) a')
      (hrest : Keeps gone cleared rest rest' b c) :
      Keeps gone cleared (.cons field shape rest) (.cons field' shape' rest') (a, b) (a', c)

variable {gone cleared : List String → Bool} {β γ : Type} {fields : Fields β} {fields' : Fields γ}
  {b : β} {c : γ}

theorem Keeps.names_eq (h : Keeps gone cleared fields fields' b c) :
    fields'.names = fields.names := by
  induction h with
  | nil => rfl
  | cons hname _ _ _ ih => rw [names, names, hname, ih]

theorem Keeps.holds (h : Keeps gone cleared fields fields' b c) (hd : fields.names.Nodup) :
    fields'.Holds (List.lookup · (pruneMembers gone cleared (fields.encode b))) c := by
  induction h with
  | nil => trivial
  | @cons _ _ _ _ field field' shape shape' rest rest' a a' b c hname hwritten hreads hrest ih =>
    have hdl := hd.sublist ((Fields.cons field shape rest).encode_names_sublist (a, b))
    obtain ⟨hn, hd⟩ := List.nodup_cons.mp hd
    rw [encode, if_pos hwritten] at hdl ⊢
    refine ⟨?_, (ih hd).congr fun name hmem => ?_⟩
    · show Field.Reads _ _ (List.lookup field'.name _) _
      rw [hname, lookup_pruneMembers _ _ hdl, List.lookup_cons, beq_self_eq_true]
      exact hreads
    · have hne : (name == field.name) = false := by
        rw [hrest.names_eq] at hmem
        exact beq_eq_false_iff_ne.mpr fun he => hn (he ▸ hmem)
      rw [lookup_pruneMembers _ _ hdl, lookup_pruneMembers _ _ (List.nodup_cons.mp hdl).2,
        List.lookup_cons, hne]

/-- What is left of a record is read as another of the same names. -/
theorem Keeps.decode {π : Type} (h : Keeps gone cleared fields fields' b c)
    (hd : fields.names.Nodup) (name : String) (closed : Bool) (make : γ → π) (parts : π → γ) :
    (Shape.record name closed fields' make parts).decode
      (.obj (pruneMembers gone cleared (fields.encode b))) = .ok (make c) := by
  have hsub := (names_pruneMembers_sublist gone cleared (fields.encode b)).trans
    (fields.encode_names_sublist b)
  exact Shape.decode_obj (hd.sublist hsub) (fun n hn => h.names_eq ▸ hsub.subset hn) (h.holds hd)

/-- Every field is there, and a single value. -/
def AreLeaves : {β : Type} → Fields β → Prop
  | _, .nil => True
  | _, .cons field shape rest =>
    shape.isLeaf = true ∧ (∀ a, field.isWritten a = true) ∧ rest.AreLeaves

def Relaxed : {β : Type} → Fields β → Type
  | _, .nil => Unit
  | _, .cons (α := α) _ _ rest => Option α × rest.Relaxed

/-- The same fields, where each may be left out. -/
def relaxed : {β : Type} → (fields : Fields β) → Fields fields.Relaxed
  | _, .nil => .nil
  | _, .cons field shape rest => .cons (.nullable field.name) (.optional shape) rest.relaxed

/-- The values of the fields that are not gone. -/
def without (gone : List String → Bool) : {β : Type} → (fields : Fields β) → β → fields.Relaxed
  | _, .nil, () => ()
  | _, .cons field _ rest, (a, b) =>
    (if gone [field.name] then none else some a, rest.without gone b)

theorem keeps_relaxed (gone cleared : List String → Bool) : {β : Type} → {fields : Fields β} →
    fields.Lawful → fields.AreLeaves → (b : β) →
    Keeps gone cleared fields fields.relaxed b (fields.without gone b)
  | _, .nil, _, _, () => .nil
  | _, .cons field shape rest, hl, hs, (a, b) => by
    obtain ⟨hl, hlr, -⟩ : shape.Lawful ∧ rest.Lawful ∧
      ∀ a, field.isWritten a = false → field.absent = some a := hl
    obtain ⟨hs, hw, hsr⟩ : shape.isLeaf = true ∧ (∀ a, field.isWritten a = true) ∧
      rest.AreLeaves := hs
    refine .cons rfl (hw a) ?_ (keeps_relaxed gone cleared hlr hsr b)
    rw [Shape.prune_encode hs]
    split
    · rfl
    · have hv := Shape.encode_ne_null (Shape.isOptional_of_isLeaf hs) a
      rw [Field.Reads, Shape.decode_optional shape hv, Shape.decode_encode hl]
      rfl

end Fields

section Field

variable {gone cleared : List String → Bool} {α : Type} {shape : Shape α} {empty x : α}
  {members : List (String × Json)}

theorem Field.reads_kept (field : Field α) (hl : shape.Lawful) (hs : shape.isLeaf = true)
    (hg : gone [] = false) (a : α) :
    field.Reads shape ((shape.encode a).prune gone cleared) a := by
  rw [Shape.prune_encode hs, hg]
  exact Shape.decode_encode hl a

/-- A record that is gone because nothing is left of it is taken to be the empty one, which it is. -/
theorem Field.reads_pruned (name : String) (hempty : shape.decode (.obj []) = .ok empty)
    (h : shape.decode (.obj (pruneMembers gone cleared members)) = .ok x) :
    (Field.defaulting name empty).Reads shape ((Json.obj members).prune gone cleared) x := by
  rcases prune_obj gone cleared members with hp | ⟨hp, hl⟩
  · rw [hp]
    exact h
  · rw [hl, hempty] at h
    cases h
    rw [hp]
    rfl

theorem Field.exists_reads_pruned (name : String) (hempty : shape.decode (.obj []) = .ok empty)
    (h : shape.decode (.obj (pruneMembers gone cleared members)) = .ok x) :
    ∃ o : Option α, (Field.nullable name).Reads (.optional shape)
      ((Json.obj members).prune gone cleared) o ∧ o.getD empty = x := by
  rcases prune_obj gone cleared members with hp | ⟨hp, hl⟩
  · refine ⟨some x, ?_, rfl⟩
    rw [hp, Field.Reads, Shape.decode_optional shape (by simp), h]
    rfl
  · rw [hl, hempty] at h
    cases h
    rw [hp]
    exact ⟨none, rfl, rfl⟩

end Field

section Record

variable {gone cleared : List String → Bool} {α β π : Type} {whole part : String}
  {closed closedPart : Bool} {fields : Fields β} {make : β → α} {parts : α → β} {empty : π}

section Keeps

variable {γ : Type} {fields' : Fields γ} {makePart : γ → π} {partParts : π → γ} {a : α} {c : γ}

theorem Shape.reads_of_keeps (hw : (Shape.record whole closed fields make parts).Lawful)
    (hempty : (Shape.record part closedPart fields' makePart partParts).decode (.obj []) =
      .ok empty) (name : String)
    (h : Fields.Keeps gone cleared fields fields' (parts a) c) :
    (Field.defaulting name empty).Reads (.record part closedPart fields' makePart partParts)
      (((Shape.record whole closed fields make parts).encode a).prune gone cleared)
      (makePart c) := by
  have hd : fields.names.Nodup := hw.2.1
  exact Field.reads_pruned name hempty (h.decode hd part closedPart makePart partParts)

/-- What is left of a record is read as a partial one, or else there is nothing left of it. -/
theorem Shape.exists_reads_of_keeps (hw : (Shape.record whole closed fields make parts).Lawful)
    (hempty : (Shape.record part closedPart fields' makePart partParts).decode (.obj []) =
      .ok empty) (name : String)
    (h : Fields.Keeps gone cleared fields fields' (parts a) c) :
    ∃ o : Option π, (Field.nullable name).Reads
      (.optional (.record part closedPart fields' makePart partParts))
      (((Shape.record whole closed fields make parts).encode a).prune gone cleared) o ∧
      o.getD empty = makePart c := by
  have hd : fields.names.Nodup := hw.2.1
  exact Field.exists_reads_pruned name hempty (h.decode hd part closedPart makePart partParts)

/-- A record that is not read from nothing is never gone. -/
theorem Shape.exists_prune_of_keeps (hw : (Shape.record whole closed fields make parts).Lawful)
    (hne : (Shape.record part closedPart fields' makePart partParts).decode (.obj []) ≠
      .ok (makePart c)) (h : Fields.Keeps gone cleared fields fields' (parts a) c) :
    ∃ document, ((Shape.record whole closed fields make parts).encode a).prune gone cleared =
      some document ∧
      (Shape.record part closedPart fields' makePart partParts).decode document =
        .ok (makePart c) := by
  have hd : fields.names.Nodup := hw.2.1
  have hdec := h.decode hd part closedPart makePart partParts
  rcases prune_obj gone cleared (fields.encode (parts a)) with hp | ⟨-, hl⟩
  · exact ⟨_, hp, hdec⟩
  · rw [hl] at hdec
    exact absurd hdec hne

end Keeps

/-- What is left of a record of leaves is the partial record that has them. -/
theorem Shape.exists_reads_without {makePart : fields.Relaxed → π}
    {partParts : π → fields.Relaxed} (hw : (Shape.record whole closed fields make parts).Lawful)
    (hs : fields.AreLeaves) (hempty : (Shape.record part closedPart fields.relaxed makePart
      partParts).decode (.obj []) = .ok empty) (name : String) (a : α) :
    ∃ o : Option π, (Field.nullable name).Reads
      (.optional (.record part closedPart fields.relaxed makePart partParts))
      (((Shape.record whole closed fields make parts).encode a).prune gone cleared) o ∧
      o.getD empty = makePart (fields.without gone (parts a)) :=
  Shape.exists_reads_of_keeps hw hempty name
    (Fields.keeps_relaxed gone cleared hw.1 hs (parts a))

end Record

end Vitae
