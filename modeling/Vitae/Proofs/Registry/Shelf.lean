import Mathlib.Data.List.Sort
import Vitae.Proofs.Registry.Sound
import Vitae.Registry.Request

/-! # A registry answers as a shelf of templates does

A shelf holds templates by their keys, in the order of the keys, and keeps no text: it makes each
one anew from the template that it is asked of. Requests arriving one after another cannot tell a
registry from a shelf, so nothing kept outlives the template it was made from. Only statistics,
which count what is kept, have no counterpart on a shelf. -/

namespace Vitae

abbrev Shelf := Std.ExtTreeMap String Template

namespace Shelf

def put (m : Shelf) (t : Template) : Shelf := m.insert t.key t

def templates (m : Shelf) : List Template := m.toList.map Prod.snd

def ask (m : Shelf) (key : String) (f : Template → String) : Except NotFound String :=
  match m[key]? with
  | some t => .ok (f t)
  | none => .error ⟨key⟩

/-- A request finds the shelf as it is; `after` says what it leaves. -/
def answer (g : Generator) (m : Shelf) : Request → Option Response
  | .register _ | .registerMany _ | .clear => some .done
  | .remove key | .contains key => some (.flag (m.contains key))
  | .template key => some (.template m[key]?)
  | .listing => some (.templates (m.templates.map Template.toMeta))
  | .listingOf category =>
    some (.templates ((m.templates.filter (·.category = category)).map Template.toMeta))
  | .keys => some (.keys m.keys)
  | .size => some (.count m.size)
  | .stats => none
  | .html key r => some (.ofText (m.ask key (g.html · r)))
  | .css key => some (.ofText (m.ask key g.css))
  | .preview key => some (.ofText (m.ask key g.preview))
  | .document key r options =>
    some (.ofText (m.ask key fun t => Document.assemble (g.html t r) (g.css t) options))

def after (m : Shelf) : Request → Shelf
  | .register t => m.put t
  | .registerMany ts => ts.foldl put m
  | .remove key => m.erase key
  | _ => m

def answers (g : Generator) (m : Shelf) : List Request → List (Option Response)
  | [] => []
  | q :: qs => m.answer g q :: (m.after q).answers g qs

end Shelf

namespace Response

/-- What a response says of the templates alone. -/
def ofTemplates? : Response → Option Response
  | .stats _ => none
  | a => some a

theorem ofTemplates?_ofText (x : Except NotFound String) : (ofText x).ofTemplates? = ofText x := by
  cases x <;> rfl

theorem ofArtifact_eq (x : Except NotFound Artifact) :
    ofArtifact x = ofText (x.map Artifact.text) := by
  cases x <;> rfl

end Response

namespace Registry

def answers (g : Generator) (reg : Registry) : List Request → List Response
  | [] => []
  | q :: qs => (reg.serve g id q).1 :: (reg.serve g id q).2.answers g qs

structure Refines (g : Generator) (reg : Registry) (m : Shelf) : Prop where
  sound : Sound g reg
  template : ∀ k, reg.template? k = m[k]?

theorem refines_empty (g : Generator) : Refines g {} ∅ :=
  ⟨sound_empty g, fun _ => by simp [template?, find?]⟩

/-! ## Listings -/

theorem mergeSort_pairwise_le {α : Type} (key : α → String) (xs : List α) :
    (xs.mergeSort fun a b => key a ≤ key b).Pairwise (key · ≤ key ·) := by
  refine List.Pairwise.imp of_decide_eq_true (List.pairwise_mergeSort ?_ ?_ xs)
  · intro a b c hab hbc
    simp only [decide_eq_true_eq] at hab hbc ⊢
    exact String.le_trans hab hbc
  · intro a b
    simpa using String.le_total (key a) (key b)

/-- Sorting by distinct keys leaves no choice of order. -/
theorem mergeSort_eq_of_perm {α : Type} (key : α → String) {xs ys : List α} (hp : xs.Perm ys)
    (hs : ys.Pairwise (key · < key ·)) : xs.mergeSort (fun a b => key a ≤ key b) = ys := by
  have hne : ys.Pairwise fun a b => key a ≠ key b := by
    refine hs.imp ?_
    intro a b hab he
    exact String.lt_irrefl _ (he ▸ hab)
  have hle : ys.Pairwise fun a b => key a ≤ key b :=
    hs.imp fun hab => String.not_lt.mp (String.lt_asymm hab)
  have hq := (List.mergeSort_perm xs fun a b => key a ≤ key b).trans hp
  refine List.Perm.eq_of_pairwise ?_ (mergeSort_pairwise_le key xs) hle hq
  intro a b ha hb hab hba
  exact List.inj_on_of_nodup_map (List.pairwise_map.mpr hne) (hq.mem_iff.mp ha) hb
    (String.le_antisymm hab hba)

namespace Refines

variable {g : Generator} {reg : Registry} {m : Shelf}

theorem pairs_perm (h : Refines g reg m) :
    (reg.entries.map fun e => (e.key, e.template)).Perm m.toList := by
  have hn : (reg.entries.map fun e => (e.key, e.template)).Nodup := by
    refine List.Nodup.of_map Prod.fst ?_
    simpa only [List.map_map, Function.comp_def] using h.sound.distinct
  have hm : m.toList.Nodup := by
    refine List.Nodup.of_map Prod.fst ?_
    rw [Std.ExtTreeMap.map_fst_toList_eq_keys]
    exact Std.ExtTreeMap.nodup_keys
  refine (List.perm_ext_iff_of_nodup hn hm).mpr ?_
  rintro ⟨k, t⟩
  rw [← template?_eq_some_iff h.sound, Std.ExtTreeMap.mem_toList_iff_getElem?_eq_some, h.template]

theorem keys_eq (h : Refines g reg m) : reg.keys = m.keys := by
  refine mergeSort_eq_of_perm id ?_ ?_
  · have := h.pairs_perm.map Prod.fst
    rwa [List.map_map, Std.ExtTreeMap.map_fst_toList_eq_keys] at this
  · exact Std.ExtTreeMap.ordered_keys.imp fun {a b} (hab : compare a b = .lt) =>
      compareOfLessAndEq_eq_lt.mp hab

theorem size_eq (h : Refines g reg m) : reg.size = m.size := by
  simpa [size] using h.pairs_perm.length_eq

theorem key_of_mem_toList (h : Refines g reg m) {k : String} {t : Template}
    (ht : (k, t) ∈ m.toList) : t.key = k := by
  rw [Std.ExtTreeMap.mem_toList_iff_getElem?_eq_some, ← h.template] at ht
  exact key_of_template? h.sound ht

theorem templates_ascending (h : Refines g reg m) :
    m.templates.Pairwise (·.key < ·.key) := by
  refine List.pairwise_map.mpr (List.Pairwise.imp_of_mem ?_ Std.ExtTreeMap.ordered_keys_toList)
  rintro ⟨k, t⟩ ⟨k', t'⟩ ht ht' hlt
  simpa only [h.key_of_mem_toList ht, h.key_of_mem_toList ht'] using
    compareOfLessAndEq_eq_lt.mp hlt

/-- Any part of a listing, in the order of the keys. -/
theorem sorted_filter_eq (h : Refines g reg m) (p : Template → Bool) :
    sorted ((reg.entries.filter fun e => p e.template).map (·.template.toMeta)) =
      (m.templates.filter p).map Template.toMeta := by
  refine mergeSort_eq_of_perm TemplateMeta.key ?_ ?_
  · have := ((h.pairs_perm.map Prod.snd).filter p).map Template.toMeta
    simpa [Shelf.templates, List.filter_map, List.map_map, Function.comp_def] using this
  · exact List.pairwise_map.mpr (h.templates_ascending.filter p)

theorem listing_eq (h : Refines g reg m) : reg.listing = m.templates.map Template.toMeta := by
  simpa [listing] using h.sorted_filter_eq fun _ => true

/-! ## Steps -/

theorem expect_eq (h : Refines g reg m) (key : String) (f : Template → String) :
    reg.expect key f = m.ask key f := by
  have ht := h.template key
  cases hm : m[key]? with
  | none => simp only [expect, Shelf.ask, ht, hm]
  | some t => simp only [expect, Shelf.ask, ht, hm]

theorem contains_eq (h : Refines g reg m) (key : String) : reg.contains key = m.contains key := by
  rw [Registry.contains_eq, h.template]
  exact Std.ExtTreeMap.contains_eq_isSome_getElem?.symm

/-- A step that leaves the templates alone. -/
theorem still {reg' : Registry} (h : Refines g reg m)
    (hs : Sound g reg' ∧ ∀ k, reg'.template? k = reg.template? k) : Refines g reg' m :=
  ⟨hs.1, fun k => (hs.2 k).trans (h.template k)⟩

theorem register (h : Refines g reg m) (t : Template) : Refines g (reg.register t) (m.put t) := by
  refine ⟨h.sound.register t, fun k => ?_⟩
  rw [template?_register, Shelf.put, Std.ExtTreeMap.getElem?_insert, h.template]
  simp only [Std.compare_eq_iff_eq, eq_comm (a := k)]

theorem registerMany (h : Refines g reg m) (ts : List Template) :
    Refines g (reg.registerMany ts) (ts.foldl Shelf.put m) := by
  induction ts generalizing reg m with
  | nil => exact h
  | cons t ts ih => exact ih (h.register t)

theorem remove (h : Refines g reg m) (key : String) :
    Refines g (reg.remove key).2 (m.erase key) := by
  refine ⟨h.sound.remove key, fun k => ?_⟩
  rw [template?_remove, Std.ExtTreeMap.getElem?_erase, h.template]
  simp only [Std.compare_eq_iff_eq, eq_comm (a := k)]

theorem serve (h : Refines g reg m) (q : Request) :
    (reg.serve g id q).1.ofTemplates? = m.answer g q ∧
      Refines g (reg.serve g id q).2 (m.after q) := by
  cases q with
  | register t => exact ⟨rfl, h.register t⟩
  | registerMany ts => exact ⟨rfl, h.registerMany ts⟩
  | remove key => exact ⟨congrArg (some ∘ Response.flag) (h.contains_eq key), h.remove key⟩
  | clear => exact ⟨rfl, h.still ⟨h.sound.clear, template?_clear reg⟩⟩
  | template key => exact ⟨congrArg (some ∘ Response.template) (h.template key), h⟩
  | contains key => exact ⟨congrArg (some ∘ Response.flag) (h.contains_eq key), h⟩
  | listing => exact ⟨congrArg (some ∘ Response.templates) h.listing_eq, h⟩
  | listingOf category =>
    exact ⟨congrArg (some ∘ Response.templates)
      (h.sorted_filter_eq fun t => decide (t.category = category)), h⟩
  | keys => exact ⟨congrArg (some ∘ Response.keys) h.keys_eq, h⟩
  | size => exact ⟨congrArg (some ∘ Response.count) h.size_eq, h⟩
  | stats => exact ⟨rfl, h⟩
  | html key r =>
    obtain ⟨ha, hs⟩ := html_sound h.sound key r
    refine ⟨?_, h.still hs⟩
    simp only [Registry.serve, Shelf.answer, ha, h.expect_eq, Response.ofTemplates?_ofText]
  | css key =>
    obtain ⟨ha, hs⟩ := fetch_sound h.sound .css key
    refine ⟨?_, h.still hs⟩
    simp only [Registry.serve, Shelf.answer, Response.ofArtifact_eq, ha, h.expect_eq,
      Response.ofTemplates?_ofText, Generator.make]
  | preview key =>
    obtain ⟨ha, hs⟩ := fetch_sound h.sound .preview key
    refine ⟨?_, h.still hs⟩
    simp only [Registry.serve, Shelf.answer, Response.ofArtifact_eq, ha, h.expect_eq,
      Response.ofTemplates?_ofText, Generator.make]
  | document key r options =>
    obtain ⟨ha, hs⟩ := document_sound h.sound key r options
    refine ⟨?_, h.still hs⟩
    simp only [Registry.serve, Shelf.answer, ha, h.expect_eq, Response.ofTemplates?_ofText]

theorem answers_eq (h : Refines g reg m) (qs : List Request) :
    (reg.answers g qs).map Response.ofTemplates? = m.answers g qs := by
  induction qs generalizing reg m with
  | nil => rfl
  | cons q qs ih =>
    obtain ⟨ha, hr⟩ := h.serve q
    simp only [Registry.answers, Shelf.answers, List.map_cons, ha, ih hr]

end Refines

/-- The requests of any run, from an empty registry on, are answered as by a shelf. -/
theorem answers_eq_shelf (g : Generator) (qs : List Request) :
    (answers g {} qs).map Response.ofTemplates? = Shelf.answers g ∅ qs :=
  (refines_empty g).answers_eq qs

end Registry

end Vitae
