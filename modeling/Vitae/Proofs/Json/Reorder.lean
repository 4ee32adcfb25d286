import Mathlib.Data.List.Forall2
import Vitae.Json.Basic

/-! # Documents that differ in the order of their members

Members of different names may change places in any object of a document. Looking a name up finds
the same in both, but for the order within what is found. -/

namespace Vitae

namespace Json

inductive Reordered : Json → Json → Prop
  | refl (v : Json) : Reordered v v
  | trans {u v w : Json} : Reordered u v → Reordered v w → Reordered u w
  | item {v w : Json} {vs ws : List Json} :
    Reordered v w → Reordered (.arr vs) (.arr ws) → Reordered (.arr (v :: vs)) (.arr (w :: ws))
  | member {name : String} {v w : Json} {ms ns : List (String × Json)} :
    Reordered v w → Reordered (.obj ms) (.obj ns) →
    Reordered (.obj ((name, v) :: ms)) (.obj ((name, w) :: ns))
  | swap {m m' : String × Json} {ms : List (String × Json)} :
    m.1 ≠ m'.1 → Reordered (.obj (m :: m' :: ms)) (.obj (m' :: m :: ms))

/-- With distinct names, any arrangement of the members of an object is as good as another. -/
theorem Reordered.of_perm {ms ns : List (String × Json)} (hd : (ms.map Prod.fst).Nodup)
    (h : ms.Perm ns) : Reordered (.obj ms) (.obj ns) := by
  induction h with
  | nil => exact .refl _
  | cons m _ ih =>
    obtain ⟨-, hd⟩ := List.nodup_cons.mp hd
    exact .member (.refl _) (ih hd)
  | swap m m' ms =>
    obtain ⟨hm, -⟩ := List.nodup_cons.mp hd
    refine .swap fun he => hm ?_
    rw [he]
    exact List.mem_cons_self
  | trans h _ ih ih' => exact (ih hd).trans (ih' ((h.map Prod.fst).nodup_iff.mp hd))

/-- The same names, with values that differ in the order within them. -/
structure SameMembers (ms ns : List (String × Json)) : Prop where
  length : ns.length = ms.length
  found : ∀ name v, ms.lookup name = some v → ∃ w, ns.lookup name = some w ∧ v.Reordered w
  absent : ∀ name, ms.lookup name = none → ns.lookup name = none
  mem : ∀ n ∈ ns, ∃ m ∈ ms, m.1 = n.1 ∧ m.2.Reordered n.2

namespace SameMembers

variable {ms ns ps : List (String × Json)}

theorem refl (ms : List (String × Json)) : SameMembers ms ms :=
  ⟨rfl, fun _ v h => ⟨v, h, .refl v⟩, fun _ h => h, fun m hm => ⟨m, hm, rfl, .refl _⟩⟩

theorem trans (h : SameMembers ms ns) (h' : SameMembers ns ps) : SameMembers ms ps := by
  refine ⟨h'.length.trans h.length, ?_, fun name hn => h'.absent name (h.absent name hn), ?_⟩
  · intro name u hu
    obtain ⟨v, hv, huv⟩ := h.found name u hu
    obtain ⟨w, hw, hvw⟩ := h'.found name v hv
    exact ⟨w, hw, huv.trans hvw⟩
  · intro p hp
    obtain ⟨n, hn, hnp, hr'⟩ := h'.mem p hp
    obtain ⟨m, hm, hmn, hr⟩ := h.mem n hn
    exact ⟨m, hm, hmn.trans hnp, hr.trans hr'⟩

theorem cons {name : String} {v w : Json} (hv : v.Reordered w) (h : SameMembers ms ns) :
    SameMembers ((name, v) :: ms) ((name, w) :: ns) := by
  refine ⟨congrArg (· + 1) h.length, ?_, ?_, ?_⟩
  · intro other u hu
    rw [List.lookup_cons] at hu ⊢
    split at hu
    · cases hu
      exact ⟨w, rfl, hv⟩
    · exact h.found other u hu
  · intro other hn
    rw [List.lookup_cons] at hn ⊢
    split at hn
    · cases hn
    · exact h.absent other hn
  · intro n hn
    rcases List.mem_cons.mp hn with rfl | hn
    · exact ⟨_, List.mem_cons_self, rfl, hv⟩
    · obtain ⟨m, hm, he, hr⟩ := h.mem n hn
      exact ⟨m, List.mem_cons_of_mem _ hm, he, hr⟩

theorem swap {m m' : String × Json} (hne : m.1 ≠ m'.1) :
    SameMembers (m :: m' :: ms) (m' :: m :: ms) := by
  have hlookup (name : String) :
      (m' :: m :: ms).lookup name = (m :: m' :: ms).lookup name := by
    obtain ⟨n, v⟩ := m
    obtain ⟨n', v'⟩ := m'
    rw [List.lookup_cons, List.lookup_cons, List.lookup_cons, List.lookup_cons]
    by_cases h : name = n
    · have hn : (name == n') = false := beq_eq_false_iff_ne.mpr (h ▸ hne)
      rw [hn]
    · rw [beq_eq_false_iff_ne.mpr h]
  refine ⟨rfl, fun name v h => ⟨v, (hlookup name).trans h, .refl v⟩,
    fun name h => (hlookup name).trans h, fun n hn => ⟨n, ?_, rfl, .refl _⟩⟩
  rwa [(List.Perm.swap m' m ms).mem_iff]

end SameMembers

theorem forall₂_trans {us vs ws : List Json} (h : List.Forall₂ Reordered us vs)
    (h' : List.Forall₂ Reordered vs ws) : List.Forall₂ Reordered us ws := by
  induction h generalizing ws with
  | nil => exact h'
  | cons huv _ ih =>
    cases h' with
    | cons hvw h' => exact .cons (huv.trans hvw) (ih h')

/-- What a document can be after reordering. -/
def OfSameForm (v : Json) : Json → Prop :=
  match v with
  | .arr vs => fun w => ∃ ws, w = .arr ws ∧ List.Forall₂ Reordered vs ws
  | .obj ms => fun w => ∃ ns, w = .obj ns ∧ SameMembers ms ns
  | v => fun w => w = v

theorem OfSameForm.refl (v : Json) : v.OfSameForm v := by
  cases v with
  | arr vs => exact ⟨vs, rfl, List.forall₂_same.mpr fun v _ => .refl v⟩
  | obj ms => exact ⟨ms, rfl, .refl ms⟩
  | _ => rfl

theorem OfSameForm.trans {u v w : Json} (h : u.OfSameForm v) (h' : v.OfSameForm w) :
    u.OfSameForm w := by
  cases u with
  | arr us =>
    obtain ⟨vs, rfl, hv⟩ := h
    obtain ⟨ws, rfl, hw⟩ := h'
    exact ⟨ws, rfl, forall₂_trans hv hw⟩
  | obj ms =>
    obtain ⟨ns, rfl, hm⟩ := h
    obtain ⟨ps, rfl, hn⟩ := h'
    exact ⟨ps, rfl, hm.trans hn⟩
  | _ =>
    cases h
    exact h'

theorem Reordered.ofSameForm {v w : Json} (h : v.Reordered w) : v.OfSameForm w := by
  induction h with
  | refl v => exact .refl v
  | trans _ _ ih ih' => exact ih.trans ih'
  | item hv _ _ ih =>
    obtain ⟨ws, hws, hvs⟩ := ih
    cases hws
    exact ⟨_, rfl, .cons hv hvs⟩
  | member hv _ _ ih =>
    obtain ⟨ns, hns, hms⟩ := ih
    cases hns
    exact ⟨_, rfl, hms.cons hv⟩
  | swap hne => exact ⟨_, rfl, .swap hne⟩

end Json

end Vitae
