import Vitae.Proofs.Shape.Object

/-! # Documents with parts taken out

The leaves at some paths are taken out of a document, and of the objects on the way those that have
nothing left in them may go as well. -/

namespace Vitae

namespace Json

mutual

/-- Without the leaves at the paths `gone`, and without the objects at the paths `cleared` that have
nothing left in them. -/
def prune (gone cleared : List String → Bool) : Json → Option Json
  | .obj members =>
    let left := pruneMembers gone cleared members
    if left.isEmpty && cleared [] then none else some (.obj left)
  | v => if gone [] then none else some v

def pruneMembers (gone cleared : List String → Bool) : List (String × Json) → List (String × Json)
  | [] => []
  | (name, v) :: members =>
    let rest := pruneMembers gone cleared members
    match v.prune (gone <| name :: ·) (cleared <| name :: ·) with
    | some w => (name, w) :: rest
    | none => rest

end

variable (gone cleared : List String → Bool)

theorem names_pruneMembers_sublist (members : List (String × Json)) :
    ((pruneMembers gone cleared members).map Prod.fst).Sublist (members.map Prod.fst) := by
  induction members with
  | nil => exact .slnil
  | cons m members ih =>
    obtain ⟨name, v⟩ := m
    rw [pruneMembers]
    split
    · exact ih.cons_cons _
    · exact ih.cons _

theorem lookup_pruneMembers {members : List (String × Json)} (hd : (members.map Prod.fst).Nodup)
    (name : String) : (pruneMembers gone cleared members).lookup name =
      (members.lookup name).bind (prune (gone <| name :: ·) (cleared <| name :: ·)) := by
  induction members with
  | nil => rfl
  | cons m members ih =>
    obtain ⟨n, v⟩ := m
    obtain ⟨hn, hd⟩ := List.nodup_cons.mp hd
    rw [pruneMembers]
    by_cases he : name = n
    · subst he
      have hnone : (pruneMembers gone cleared members).lookup name = none :=
        lookup_eq_none_of_not_mem fun hm =>
          hn ((names_pruneMembers_sublist gone cleared members).subset hm)
      cases hv : v.prune (gone <| name :: ·) (cleared <| name :: ·) with
      | some w => simp [hv]
      | none => simp [hv, hnone]
    · have hne : (name == n) = false := beq_eq_false_iff_ne.mpr he
      rw [List.lookup_cons, hne]
      split
      · rw [List.lookup_cons, hne]
        exact ih hd
      · exact ih hd

theorem prune_of_ne_obj {v : Json} (hv : ∀ members, v ≠ .obj members) :
    v.prune gone cleared = if gone [] then none else some v := by
  cases v with
  | obj members => exact absurd rfl (hv members)
  | _ => rfl

/-- An object stays, or goes with nothing left in it. -/
theorem prune_obj (members : List (String × Json)) :
    (Json.obj members).prune gone cleared = some (.obj (pruneMembers gone cleared members)) ∨
    (Json.obj members).prune gone cleared = none ∧ pruneMembers gone cleared members = [] := by
  rw [prune]
  split
  · rename_i h
    obtain ⟨hl, -⟩ := Bool.and_eq_true_iff.mp h
    exact .inr ⟨rfl, List.isEmpty_iff.mp hl⟩
  · exact .inl rfl

mutual

/-- With nothing to take out, all stays. -/
theorem prune_nothing : (v : Json) → v.prune (fun _ => false) (fun _ => false) = some v
  | .obj members => by
    rw [prune, pruneMembers_nothing members]
    simp
  | .null | .bool _ | .int _ | .float _ | .str _ | .arr _ => rfl

theorem pruneMembers_nothing : (members : List (String × Json)) →
    pruneMembers (fun _ => false) (fun _ => false) members = members
  | [] => rfl
  | (name, v) :: members => by
    rw [pruneMembers, prune_nothing v, pruneMembers_nothing members]

end

end Json

end Vitae
