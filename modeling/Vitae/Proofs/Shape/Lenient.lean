import Vitae.Proofs.Shape.Reorder
import Vitae.Resume.Shape

/-! # Documents that say the same in other words

Members of an object may change places, members that stand for no field may come in, and a field that
is blank may be left out. A shape is lenient if none of its records minds. What is read from a
document of a lenient shape is read from every such revision of it, at whatever depth it was revised. -/

namespace Vitae

open Json

/-! ## Fields by their names -/

structure Fields.Entry where
  {α : Type}
  field : Field α
  shape : Shape α

namespace Fields

def entries : {β : Type} → Fields β → List Entry
  | _, .nil => []
  | _, .cons field shape rest => ⟨field, shape⟩ :: rest.entries

theorem names_eq_map_entries : {β : Type} → (fields : Fields β) →
    fields.names = fields.entries.map (·.field.name)
  | _, .nil => rfl
  | _, .cons field _ rest => by rw [names, entries, List.map_cons, rest.names_eq_map_entries]

theorem name_mem_names {β : Type} {fields : Fields β} {e : Entry} (he : e ∈ fields.entries) :
    e.field.name ∈ fields.names := by
  rw [names_eq_map_entries]
  exact List.mem_map_of_mem he

theorem eq_of_name_eq {β : Type} {fields : Fields β} (hd : fields.names.Nodup) {e e' : Entry}
    (he : e ∈ fields.entries) (he' : e' ∈ fields.entries) (h : e.field.name = e'.field.name) :
    e = e' := by
  rw [names_eq_map_entries] at hd
  exact List.inj_on_of_nodup_map hd he he' h

theorem Holds.of_entries {look look' : String → Option Json} : {β : Type} → {fields : Fields β} →
    {b : β} → (∀ e ∈ fields.entries, ∀ a, e.field.Reads e.shape (look e.field.name) a →
      e.field.Reads e.shape (look' e.field.name) a) → fields.Holds look b → fields.Holds look' b
  | _, .nil, (), _, _ => trivial
  | _, .cons _ _ _, (_, _), hreads, h => by
    obtain ⟨ha, hb⟩ := h
    exact ⟨hreads _ List.mem_cons_self _ ha,
      hb.of_entries fun e he => hreads e (List.mem_cons_of_mem _ he)⟩

theorem misfit?_of_mem {closed : Bool} {known : List String} {v : Json} : {β : Type} →
    {fields : Fields β} → {e : Entry} → fields.names.Nodup → e ∈ fields.entries →
    (fields.misfit? closed known e.field.name v = none ↔ ∃ a, e.shape.decode v = .ok a)
  | _, .nil, _, _, he => by cases he
  | _, .cons field shape rest, e, hd, he => by
    obtain ⟨hn, hd⟩ := List.nodup_cons.mp hd
    rw [misfit?]
    rcases List.mem_cons.mp he with rfl | he
    · rw [if_pos rfl]
      cases shape.decode v <;> simp
    · have hne : field.name ≠ e.field.name := fun h => hn (h ▸ name_mem_names he)
      rw [if_neg hne]
      exact misfit?_of_mem hd he

theorem misfit?_of_not_mem {known : List String} {name : String} {v : Json} : {β : Type} →
    {fields : Fields β} → name ∉ fields.names → fields.misfit? false known name v = none
  | _, .nil, _ => rfl
  | _, .cons field shape rest, hn => by
    rw [names, List.mem_cons, not_or] at hn
    obtain ⟨hne, hn⟩ := hn
    rw [misfit?, if_neg (Ne.symm hne)]
    exact misfit?_of_not_mem hn

end Fields

/-! ## Revisions -/

/-- The value of a field that says nothing. -/
def Shape.blank? : {α : Type} → Shape α → Option Json
  | _, .text => some (.str "")
  | _, .optional _ => some .null
  | _, .list _ => some (.arr [])
  | _, .flag | _, .byte | _, .spelled _ _ | _, .choice _ _ | _, .record _ _ _ _ _ => none

/-- Changes to a document of a shape after which it says the same. -/
inductive Shape.Revised : {α : Type} → Shape α → Json → Json → Prop
  | trans {α : Type} {shape : Shape α} {u v w : Json} :
    shape.Revised u v → shape.Revised v w → shape.Revised u w
  | reordered {α : Type} {shape : Shape α} {v w : Json} (h : v.Reordered w) : shape.Revised v w
  | added {α β : Type} {name : String} {closed : Bool} {fields : Fields β} {make : β → α}
    {parts : α → β} {before after : List (String × Json)} {n : String} {x : Json}
    (hn : n ∉ fields.names) :
    (Shape.record name closed fields make parts).Revised (.obj (before ++ after))
      (.obj (before ++ (n, x) :: after))
  | dropped {α β : Type} {name : String} {closed : Bool} {fields : Fields β} {make : β → α}
    {parts : α → β} {before after : List (String × Json)} {e : Fields.Entry} {x : Json}
    (he : e ∈ fields.entries) (hx : e.shape.blank? = some x)
    (hn : e.field.name ∉ (before ++ after).map Prod.fst) :
    (Shape.record name closed fields make parts).Revised
      (.obj (before ++ (e.field.name, x) :: after)) (.obj (before ++ after))
  | member {α β : Type} {name : String} {closed : Bool} {fields : Fields β} {make : β → α}
    {parts : α → β} {before after : List (String × Json)} {e : Fields.Entry} {v w : Json}
    (he : e ∈ fields.entries) (hv : e.shape.Revised v w) :
    (Shape.record name closed fields make parts).Revised
      (.obj (before ++ (e.field.name, v) :: after)) (.obj (before ++ (e.field.name, w) :: after))
  | item {α : Type} {shape : Shape α} {before after : List Json} {v w : Json}
    (hv : shape.Revised v w) :
    (Shape.list shape).Revised (.arr (before ++ v :: after)) (.arr (before ++ w :: after))

mutual

/-- No record refuses a member for its name or asks for a field that is blank. -/
def Shape.Lenient : {α : Type} → Shape α → Prop
  | _, .text | _, .flag | _, .byte | _, .spelled _ _ | _, .choice _ _ => True
  | _, .optional shape | _, .list shape => shape.Lenient
  | _, .record _ closed fields _ _ => closed = false ∧ fields.names.Nodup ∧ fields.Lenient

def Fields.Lenient : {β : Type} → Fields β → Prop
  | _, .nil => True
  | _, .cons field shape rest =>
    (∀ x, shape.blank? = some x → ∃ a, field.absent = some a ∧ shape.decode x = .ok a) ∧
      shape.Lenient ∧ rest.Lenient

end

theorem Fields.Lenient.of_mem : {β : Type} → {fields : Fields β} → fields.Lenient →
    ∀ e ∈ fields.entries, (∀ x, e.shape.blank? = some x →
      ∃ a, e.field.absent = some a ∧ e.shape.decode x = .ok a) ∧ e.shape.Lenient
  | _, .nil, _, _, he => by cases he
  | _, .cons field shape rest, h, e, he => by
    obtain ⟨hblank, hshape, hrest⟩ : (∀ x, shape.blank? = some x →
      ∃ a, field.absent = some a ∧ shape.decode x = .ok a) ∧ shape.Lenient ∧ rest.Lenient := h
    rcases List.mem_cons.mp he with rfl | he
    · exact ⟨hblank, hshape⟩
    · exact hrest.of_mem e he

/-! ## Reading a revision -/

section Record

variable {α β : Type} {name : String} {closed : Bool} {fields : Fields β} {make : β → α}
  {parts : α → β} {before after : List (String × Json)} {a : α}

theorem lookup_insert_of_ne {n name : String} (hne : name ≠ n) (x : Json) :
    (before ++ (n, x) :: after).lookup name = (before ++ after).lookup name := by
  rw [List.lookup_append, List.lookup_append, List.lookup_cons, beq_eq_false_iff_ne.mpr hne]

/-- An object is read as another one is if its members fit and every field that is read there is
read here. -/
theorem Shape.decode_obj_of_reads {ms ns : List (String × Json)}
    (h : (Shape.record name closed fields make parts).decode (.obj ms) = .ok a)
    (hfit : (∀ m ∈ ms, fields.misfit? closed fields.names m.1 m.2 = none) →
      ∀ n ∈ ns, fields.misfit? closed fields.names n.1 n.2 = none)
    (hreads : ∀ e ∈ fields.entries, ∀ c, e.field.Reads e.shape (ms.lookup e.field.name) c →
      e.field.Reads e.shape (ns.lookup e.field.name) c) :
    (Shape.record name closed fields make parts).decode (.obj ns) = .ok a := by
  obtain ⟨hms, b, hb, ha⟩ := Shape.decode_obj_eq_ok_iff.mp h
  exact Shape.decode_obj_eq_ok_iff.mpr ⟨hfit hms, b, hb.of_entries hreads, ha⟩

theorem Shape.decode_added {n : String} {x : Json} (hn : n ∉ fields.names)
    (h : (Shape.record name false fields make parts).decode (.obj (before ++ after)) = .ok a) :
    (Shape.record name false fields make parts).decode (.obj (before ++ (n, x) :: after)) =
      .ok a := by
  refine Shape.decode_obj_of_reads h ?_ ?_
  · intro hms m hm
    rcases List.mem_cons.mp (List.perm_middle.mem_iff.mp hm) with rfl | hm
    · exact Fields.misfit?_of_not_mem hn
    · exact hms m hm
  · intro e he c hc
    have hne : e.field.name ≠ n := fun heq => hn (heq ▸ Fields.name_mem_names he)
    rwa [lookup_insert_of_ne hne]

theorem Shape.decode_dropped {e : Fields.Entry} {x : Json} (hd : fields.names.Nodup)
    (he : e ∈ fields.entries)
    (hblank : ∃ c, e.field.absent = some c ∧ e.shape.decode x = .ok c)
    (hn : e.field.name ∉ (before ++ after).map Prod.fst)
    (h : (Shape.record name closed fields make parts).decode
      (.obj (before ++ (e.field.name, x) :: after)) = .ok a) :
    (Shape.record name closed fields make parts).decode (.obj (before ++ after)) = .ok a := by
  refine Shape.decode_obj_of_reads h ?_ ?_
  · intro hms m hm
    exact hms m (List.perm_middle.mem_iff.mpr (List.mem_cons_of_mem _ hm))
  · intro e' he' c hc
    by_cases heq : e'.field.name = e.field.name
    · obtain rfl := Fields.eq_of_name_eq hd he' he heq
      obtain ⟨c', habsent, hdecode⟩ := hblank
      have hnone := lookup_eq_none_of_not_mem hn
      have hbefore : before.lookup e'.field.name = none := by
        rw [List.lookup_append, Option.or_eq_none_iff] at hnone
        exact hnone.1
      rw [List.lookup_append, hbefore, List.lookup_cons_self] at hc
      have hc : e'.shape.decode x = .ok c := hc
      rw [hdecode] at hc
      cases hc
      rw [hnone]
      exact habsent
    · rwa [lookup_insert_of_ne heq] at hc

theorem Shape.decode_member {e : Fields.Entry} {v w : Json} (hd : fields.names.Nodup)
    (he : e ∈ fields.entries) (hv : ∀ c, e.shape.decode v = .ok c → e.shape.decode w = .ok c)
    (h : (Shape.record name closed fields make parts).decode
      (.obj (before ++ (e.field.name, v) :: after)) = .ok a) :
    (Shape.record name closed fields make parts).decode
      (.obj (before ++ (e.field.name, w) :: after)) = .ok a := by
  refine Shape.decode_obj_of_reads h ?_ ?_
  · intro hms m hm
    rcases List.mem_cons.mp (List.perm_middle.mem_iff.mp hm) with rfl | hm
    · have hfit := hms (e.field.name, v) (by simp)
      obtain ⟨c, hc⟩ := (Fields.misfit?_of_mem hd he).mp hfit
      exact (Fields.misfit?_of_mem hd he).mpr ⟨c, hv c hc⟩
    · exact hms m (List.perm_middle.mem_iff.mpr (List.mem_cons_of_mem _ hm))
  · intro e' he' c hc
    by_cases heq : e'.field.name = e.field.name
    · obtain rfl := Fields.eq_of_name_eq hd he' he heq
      rw [List.lookup_append, List.lookup_cons_self] at hc ⊢
      cases hbefore : before.lookup e'.field.name with
      | none =>
        rw [hbefore] at hc
        exact hv c hc
      | some u =>
        rw [hbefore] at hc
        exact hc
    · rw [lookup_insert_of_ne heq] at hc ⊢
      exact hc

end Record

theorem Shape.decode_item {α : Type} {shape : Shape α} {before after : List Json} {v w : Json}
    (hv : ∀ a, shape.decode v = .ok a → shape.decode w = .ok a) {as : List α}
    (h : (Shape.list shape).decode (.arr (before ++ v :: after)) = .ok as) :
    (Shape.list shape).decode (.arr (before ++ w :: after)) = .ok as := by
  let R (v w : Json) : Prop := ∀ a, shape.decode v = .ok a → shape.decode w = .ok a
  have hsame (vs : List Json) : List.Forall₂ R vs vs := List.forall₂_same.mpr fun _ _ _ h => h
  have hitems : List.Forall₂ R (before ++ v :: after) (before ++ w :: after) :=
    List.rel_append (hsame before) (.cons hv (hsame after))
  exact mapM_related (fun hr => hr _) hitems h

theorem Shape.decode_revised {α : Type} {shape : Shape α} {v w : Json} (h : shape.Revised v w) :
    shape.Lenient → ∀ a, shape.decode v = .ok a → shape.decode w = .ok a := by
  induction h with
  | trans _ _ ih ih' =>
    intro hl a ha
    exact ih' hl a (ih hl a ha)
  | reordered hr =>
    intro _ a ha
    exact Shape.decode_reordered hr ha
  | added hn =>
    rintro ⟨rfl, -, -⟩ a ha
    exact Shape.decode_added hn ha
  | dropped he hx hn =>
    rintro ⟨-, hd, hl⟩ a ha
    exact Shape.decode_dropped hd he ((hl.of_mem _ he).1 _ hx) hn ha
  | member he _ ih =>
    rintro ⟨-, hd, hl⟩ a ha
    exact Shape.decode_member hd he (ih (hl.of_mem _ he).2) ha
  | item _ ih =>
    intro hl as has
    exact Shape.decode_item (ih hl) has

/-! ## Résumés -/

theorem Skill.shape_lenient : Skill.shape.Lenient := by
  simp [shape, Shape.Lenient, Fields.Lenient, Fields.names, Field.defaulting, Shape.blank?,
    Shape.decode]

theorem Job.shape_lenient : Job.shape.Lenient := by
  simp [shape, Shape.Lenient, Fields.Lenient, Fields.names, Field.defaulting, Shape.blank?,
    Shape.decode, pure, Except.pure]

theorem Education.shape_lenient : Education.shape.Lenient := by
  simp [shape, Shape.Lenient, Fields.Lenient, Fields.names, Field.defaulting, Shape.blank?,
    Shape.decode]

theorem Resume.shape_lenient : Resume.shape.Lenient := by
  simp [shape, Shape.Lenient, Fields.Lenient, Fields.names, Field.defaulting, Shape.blank?,
    Shape.decode, pure, Except.pure, Skill.shape_lenient, Job.shape_lenient,
    Education.shape_lenient]

/-- A résumé is read from every revision of a document that it is read from. -/
theorem Resume.decode_eq_of_revised {v w : Json} {r : Resume}
    (hr : Resume.shape.decode v = .ok r) (h : Resume.shape.Revised v w) :
    Resume.shape.decode w = .ok r :=
  Shape.decode_revised h Resume.shape_lenient r hr

/-- The name moves to the front, the title goes, and a skill gets tags in place of a level. -/
theorem Resume.decode_eq_of_revised_skill :
    let v : Json := .obj [("title", .null),
      ("skills", .arr [.obj [("name", .str "Math"), ("level", .null)]]), ("primaryName", .str "Ada")]
    let w : Json := .obj [("primaryName", .str "Ada"),
      ("skills", .arr [.obj [("tags", .arr [.bool true]), ("name", .str "Math")]])]
    let r : Resume := { primaryName := "Ada", skills := [{ name := "Math" }] }
    Resume.shape.decode v = .ok r ∧ Resume.shape.Revised v w ∧ Resume.shape.decode w = .ok r := by
  intro v w r
  have hlevel : Skill.shape.Revised (.obj [("name", .str "Math"), ("level", .null)])
      (.obj [("name", .str "Math")]) :=
    @Shape.Revised.dropped _ _ _ _ _ _ _ [_] [] ⟨.defaulting "level" none, .optional .byte⟩ _
      (.tail _ (.head _)) rfl (by simp [Field.defaulting])
  have htags : Skill.shape.Revised (.obj [("name", .str "Math")])
      (.obj [("tags", .arr [.bool true]), ("name", .str "Math")]) :=
    @Shape.Revised.added _ _ _ _ _ _ _ [] _ _ _ (by simp [Fields.names, Field.defaulting])
  have hfront : Resume.shape.Revised v (.obj [("primaryName", .str "Ada"), ("title", .null),
      ("skills", .arr [.obj [("name", .str "Math"), ("level", .null)]])]) :=
    .reordered (.of_perm (by decide) (@List.perm_append_comm _ [_, _] [_]))
  have htitle : Resume.shape.Revised (.obj [("primaryName", .str "Ada"), ("title", .null),
        ("skills", .arr [.obj [("name", .str "Math"), ("level", .null)]])])
      (.obj [("primaryName", .str "Ada"),
        ("skills", .arr [.obj [("name", .str "Math"), ("level", .null)]])]) :=
    @Shape.Revised.dropped _ _ _ _ _ _ _ [_] [_] ⟨.defaulting "title" none, .optional .text⟩ _
      (.tail _ (.head _)) rfl (by simp [Field.defaulting])
  have hskills : Resume.shape.Revised (.obj [("primaryName", .str "Ada"),
      ("skills", .arr [.obj [("name", .str "Math"), ("level", .null)]])]) w :=
    @Shape.Revised.member _ _ _ _ _ _ _ [_] [] ⟨.defaulting "skills" [], .list Skill.shape⟩ _ _
      (by simp [Fields.entries]) (@Shape.Revised.item _ _ [] [] _ _ (hlevel.trans htags))
  have hv : Resume.shape.decode v = .ok r := rfl
  have h : Resume.shape.Revised v w := hfront.trans (htitle.trans hskills)
  exact ⟨hv, h, Resume.decode_eq_of_revised hv h⟩

end Vitae
