import Vitae.Proofs.Command.Table
import Vitae.Proofs.Registry.Commuting
import Vitae.Proofs.Registry.Listings

/-! # What a listing shows of given templates

Of templates with one key the last one counts. A registry of the templates holds just these, and it
shows them, counts them and keeps nothing for them. -/

namespace Vitae

namespace Template

/-- Of several templates with one key, the last one. -/
def lastOf (ts : List Template) (key : String) : Option Template := ts.reverse.find? (·.key = key)

theorem lastOf_eq_none_iff {ts : List Template} {key : String} :
    lastOf ts key = none ↔ ∀ t ∈ ts, t.key ≠ key := by
  simp [lastOf]

/-- One record for each key, made of the last template of that key, in the order of the keys. -/
structure IsListing (ts : List Template) (ms : List TemplateMeta) : Prop where
  ascending : ms.Pairwise (·.key < ·.key)
  mem_iff : ∀ m, m ∈ ms ↔
    ∃ t, lastOf ts m.key = some t ∧ m = ⟨t.key, t.name, t.description, t.category, none⟩

/-- The statistics of a listing, where nothing is kept yet. -/
def statistics (ms : List TemplateMeta) : Json :=
  .obj [("total", .int ms.length),
    ("by_category", .obj (Category.all.map fun c => (c.name, .int (ms.countP (·.category = c))))),
    ("cached_css", .int 0), ("cached_previews", .int 0)]

end Template

namespace TemplateMeta

/-- A record has its picture last, and only if there is one. -/
def object (m : TemplateMeta) : Json :=
  .obj ([("key", .str m.key), ("name", .str m.name), ("description", .str m.description),
    ("category", .str m.category.name)] ++ m.preview.toList.map fun uri => ("preview", .str uri))

theorem encode_eq_object (m : TemplateMeta) : TemplateMeta.shape.encode m = m.object := by
  obtain ⟨key, name, description, category, preview⟩ := m
  cases preview <;> rfl

end TemplateMeta

namespace Table

/-- As many bytes as the key with the most of them has. -/
theorem isLUB_keyWidth (ms : List TemplateMeta) :
    IsLUB {n | ∃ m ∈ ms, m.key.utf8ByteSize = n} (keyWidth ms) := by
  rw [isLUB_iff_le_iff]
  intro n
  rw [keyWidth_le_iff, mem_upperBounds]
  simp

end Table

namespace Registry

theorem template?_ofTemplates (ts : List Template) (key : String) :
    (ofTemplates ts).template? key = Template.lastOf ts key := by
  rw [template?_eq_content?, ofTemplates, content?_registerMany, ← Template.lastOf]
  cases Template.lastOf ts key <;> rfl

theorem sound_ofTemplates (g : Generator) (ts : List Template) : Sound g (ofTemplates ts) :=
  (sound_empty g).registerMany ts

theorem reached_ofTemplates (g : Generator) (ts : List Template) : Reached g (ofTemplates ts) :=
  .served (.mk (.registerMany ts) []) .empty

theorem isListing_ofTemplates (ts : List Template) :
    Template.IsListing ts (ofTemplates ts).listing := by
  have h := reached_ofTemplates (.standard {}) ts
  rw [listing_eq_metas]
  refine ⟨h.walk_pairs.metas_ascending h.filed _, fun m => ?_⟩
  rw [h.walk_pairs.mem_metas_iff h.filed, getElem?_table, ← template?_ofTemplates, template?]
  simp only [Option.map_eq_some_iff]
  constructor
  · rintro ⟨e, he, rfl⟩
    exact ⟨_, ⟨e, he, rfl⟩, rfl⟩
  · rintro ⟨_, ⟨e, he, rfl⟩, hm⟩
    exact ⟨e, he, hm.symm⟩

/-! ## Statistics -/

theorem slot_registerMany {reg : Registry} (h : ∀ e ∈ reg.entries, ∀ kind, e.slot kind = none)
    (ts : List Template) : ∀ e ∈ (reg.registerMany ts).entries, ∀ kind, e.slot kind = none := by
  induction ts generalizing reg with
  | nil => exact h
  | cons t ts ih =>
    refine ih (List.forall_mem_cons.mpr ⟨?_, fun e he => h e (List.mem_of_mem_filter he)⟩)
    intro kind
    cases kind <;> rfl

theorem countP_listing (reg : Registry) (c : Category) :
    reg.listing.countP (·.category = c) = reg.stats.byCategory c := by
  rw [listing, (sorted_perm _).countP_eq, List.countP_map]
  rfl

theorem json_stats_ofTemplates (ts : List Template) :
    (ofTemplates ts).stats.json = Template.statistics (ofTemplates ts).listing := by
  have hbare : ∀ e ∈ (ofTemplates ts).entries, ∀ kind, e.slot kind = none :=
    slot_registerMany (fun e he => absurd he List.not_mem_nil) ts
  have hcss : (ofTemplates ts).stats.cachedCss = 0 := by
    refine List.countP_eq_zero.mpr fun e he => ?_
    rw [show e.css = none from hbare e he .css]
    exact Bool.false_ne_true
  have hpreviews : (ofTemplates ts).stats.cachedPreviews = 0 := by
    refine List.countP_eq_zero.mpr fun e he => ?_
    rw [show e.preview = none from hbare e he .preview]
    exact Bool.false_ne_true
  rw [RegistryStats.json, Template.statistics, hcss, hpreviews, length_listing]
  simp only [countP_listing]
  rfl

end Registry

end Vitae
