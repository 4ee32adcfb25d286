import Vitae.Proofs.Text.Escape

/-! # Escaping and reading back

Texts and values between quotes are escaped alike and differ only in the characters that must not
stand in them. `&` is always among these, so every `&` that is written begins an entity, no entity
begins another, and a reader that knows the entities that are written, and no others, finds the
text as it was. -/

namespace Vitae.Text

/-- What is written for a character where those of `special` are escaped. -/
def spelling (special : List Char) (c : Char) : List Char := if c ∈ special then entity c else [c]

/-- The character of `special` whose entity the text begins with. -/
def entityAt? (special cs : List Char) : Option Char := special.find? fun c => entity c <+: cs

/-- The first `skip` characters belong to an entity that has been read already. -/
def readFrom (special : List Char) : Nat → List Char → List Char
  | _, [] => []
  | skip + 1, _ :: cs => readFrom special skip cs
  | 0, c :: cs =>
    match entityAt? special (c :: cs) with
    | some x => x :: readFrom special ((entity x).length - 1) cs
    | none => c :: readFrom special 0 cs

/-- Every entity of a character of `special` stands for that character, and all else for itself. -/
def readEntities (special : List Char) (s : String) : String :=
  String.ofList (readFrom special 0 s.toList)

/-- The characters of `special` are replaced by their entities, each where it stands, and nothing
else is touched. -/
structure EscapesInPlace (special : List Char) (escape : String → String) : Prop where
  onePass : ∀ s, escape s = String.ofList (s.toList.flatMap (spelling special))
  append : ∀ s t, escape (s ++ t) = escape s ++ escape t
  absent : ∀ s, ∀ c ∈ special, c ≠ '&' → c ∉ (escape s).toList
  /-- Every `&` begins an entity. -/
  ampersand : ∀ s before after, (escape s).toList = before ++ '&' :: after →
    ∃ c ∈ special, entity c <+: '&' :: after
  readBack : ∀ s, readEntities special (escape s) = s
  injective : Function.Injective escape

/-! ## Entities -/

theorem exists_entity_eq {c : Char} (h : c ∈ reserved) :
    ∃ name, entity c = '&' :: name ∧ '&' ∉ name := by
  rcases mem_reserved.mp h with rfl | rfl | rfl | rfl | rfl <;> exact ⟨_, rfl, by decide⟩

/-- A text begins with one entity at most. -/
theorem eq_of_prefix_entity_append {c d : Char} {cs : List Char}
    (h : entity d <+: entity c ++ cs) : d = c := by
  obtain ⟨ds, heq⟩ := h
  have hread := congrArg unescape heq
  rw [unescape_entity_append, unescape_entity_append] at hread
  exact (List.cons.inj hread).1

theorem mem_and_prefix_of_entityAt? {special cs : List Char} {c : Char}
    (h : entityAt? special cs = some c) : c ∈ special ∧ entity c <+: cs := by
  unfold entityAt? at h
  have hprefix := List.find?_some h
  exact ⟨List.mem_of_find?_eq_some h, of_decide_eq_true hprefix⟩

/-- Whatever stands behind an entity, it is read as the character it is written for. -/
theorem entityAt?_entity_append {special : List Char} {c : Char} (hc : c ∈ special)
    (cs : List Char) : entityAt? special (entity c ++ cs) = some c := by
  cases hfound : entityAt? special (entity c ++ cs) with
  | none =>
    have hself : entity c <+: entity c ++ cs := List.prefix_append _ _
    unfold entityAt? at hfound
    exact absurd (decide_eq_true hself) (List.find?_eq_none.mp hfound c hc)
  | some d => rw [eq_of_prefix_entity_append (mem_and_prefix_of_entityAt? hfound).2]

theorem readFrom_append (special ds cs : List Char) :
    readFrom special ds.length (ds ++ cs) = readFrom special 0 cs := by
  induction ds with
  | nil => rfl
  | cons d ds ih => rw [List.length_cons, List.cons_append, readFrom, ih]

section

variable {special : List Char} (hsub : special ⊆ reserved)

include hsub

theorem entityAt?_cons_of_ne {c : Char} (h : c ≠ '&') (cs : List Char) :
    entityAt? special (c :: cs) = none := by
  cases hfound : entityAt? special (c :: cs) with
  | none => rfl
  | some d =>
    obtain ⟨hd, hprefix⟩ := mem_and_prefix_of_entityAt? hfound
    obtain ⟨name, hname, -⟩ := exists_entity_eq (hsub hd)
    rw [hname] at hprefix
    exact absurd (List.cons_prefix_cons.mp hprefix).1.symm h

/-! ## Texts -/

variable (hamp : '&' ∈ special)

include hamp

/-- What is written for a character has no `&` but the first of an entity. -/
theorem eq_nil_of_spelling_eq {c : Char} {before after : List Char}
    (h : spelling special c = before ++ '&' :: after) :
    before = [] ∧ c ∈ special ∧ entity c = '&' :: after := by
  rw [spelling] at h
  split at h
  · rename_i hc
    obtain ⟨name, hname, hrest⟩ := exists_entity_eq (hsub hc)
    cases before with
    | nil => exact ⟨rfl, hc, h⟩
    | cons b before =>
      rw [hname, List.cons_append] at h
      have hmem : '&' ∈ name := by
        rw [(List.cons.inj h).2]
        exact List.mem_append_right _ List.mem_cons_self
      exact absurd hmem hrest
  · rename_i hc
    have hmem : '&' ∈ [c] := by
      rw [h]
      exact List.mem_append_right _ List.mem_cons_self
    exact absurd (List.mem_singleton.mp hmem ▸ hamp) hc

theorem exists_entity_begins {cs before after : List Char}
    (h : cs.flatMap (spelling special) = before ++ '&' :: after) :
    ∃ c ∈ special, entity c <+: '&' :: after := by
  induction cs generalizing before with
  | nil => simp at h
  | cons c cs ih =>
    rw [List.flatMap_cons] at h
    rcases List.append_eq_append_iff.mp h with ⟨gap, rfl, hrest⟩ | ⟨gap, hspelling, hafter⟩
    · exact ih hrest
    · cases gap with
      | nil =>
        have hrest : cs.flatMap (spelling special) = [] ++ '&' :: after := hafter.symm
        exact ih hrest
      | cons g gap =>
        -- it stands in what is written for `c`
        rw [List.cons_append] at hafter
        obtain ⟨rfl, rfl⟩ := List.cons.inj hafter
        obtain ⟨-, hc, hentity⟩ := eq_nil_of_spelling_eq hsub hamp hspelling
        refine ⟨c, hc, ?_⟩
        rw [hentity]
        exact List.prefix_append ('&' :: gap) _

theorem readFrom_spelling_append (c : Char) (cs : List Char) :
    readFrom special 0 (spelling special c ++ cs) = c :: readFrom special 0 cs := by
  rw [spelling]
  split
  · rename_i hc
    obtain ⟨name, hname, -⟩ := exists_entity_eq (hsub hc)
    have hfound := entityAt?_entity_append hc cs
    rw [hname, List.cons_append] at hfound ⊢
    rw [readFrom, hfound]
    simp only [hname, List.length_cons, Nat.add_sub_cancel, readFrom_append]
  · rename_i hc
    have hne : c ≠ '&' := fun h => hc (h ▸ hamp)
    rw [List.singleton_append, readFrom, entityAt?_cons_of_ne hsub hne]

theorem readFrom_flatMap_spelling (cs : List Char) :
    readFrom special 0 (cs.flatMap (spelling special)) = cs := by
  induction cs with
  | nil => rfl
  | cons c cs ih => rw [List.flatMap_cons, readFrom_spelling_append hsub hamp, ih]

/-- It is enough that a text is gone through once. -/
theorem EscapesInPlace.of_onePass {escape : String → String}
    (h : ∀ s, (escape s).toList = s.toList.flatMap (spelling special))
    (habsent : ∀ s, ∀ c ∈ special, c ≠ '&' → c ∉ (escape s).toList) :
    EscapesInPlace special escape := by
  have hback : ∀ s, readEntities special (escape s) = s := fun s => by
    rw [readEntities, h, readFrom_flatMap_spelling hsub hamp, String.ofList_toList]
  exact {
    onePass := fun s => by rw [← h, String.ofList_toList]
    append := fun s t => by
      apply String.toList_injective
      simp only [h, String.toList_append, List.flatMap_append]
    absent := habsent
    ampersand := fun s before after heq => by
      rw [h] at heq
      exact exists_entity_begins hsub hamp heq
    readBack := hback
    injective := fun s t heq => by rw [← hback s, heq, hback t] }

end

theorem spelling_reserved : spelling reserved = entity := by
  funext c
  rw [spelling]
  split
  · rfl
  · rename_i h
    exact (entity_of_notMem h).symm

/-- One substitution after the other comes to the same as a single pass, in texts and in values
between quotes, and the entities can be read back. -/
theorem substitutions_in_place :
    EscapesInPlace reserved escapeHtml ∧ EscapesInPlace unquotable escapeAttribute := by
  constructor
  · refine .of_onePass (List.Subset.refl _) (by decide) (fun s => ?_) ?_
    · rw [spelling_reserved, toList_escapeHtml]
    · exact fun s c hc hne => notMem_escapeHtml hc hne s
  · refine .of_onePass (by decide) (by decide) toList_escapeAttribute ?_
    exact fun s c hc hne => notMem_escapeAttribute hc hne s

/-- An entity that stood in the text comes back as it was, and a `>` between quotes is no entity. -/
example : readEntities reserved "&amp;lt; &quot;" = "&lt; \"" ∧
    readEntities unquotable "&amp;lt; &gt;" = "&lt; &gt;" := by decide

end Vitae.Text
