import Mathlib.Algebra.Ring.Nat
import Vitae.Proofs.Registry.Interrupted
import Vitae.Proofs.Registry.Shelf
import Vitae.Proofs.Text.Bytes

/-! # Listings

The entries of a registry stand in a table under their keys, and nobody may rely on the order in
which a table is walked. One listing sorts the keys that are walked, another the keys that the
templates have. They come to the same because no request leaves a template under a key that is not
its own, and sorting takes back whatever order the walk was in. -/

namespace Vitae

/-- What is filed under which key. -/
abbrev Table := Std.ExtTreeMap String Entry

namespace Table

/-- Every template is found under its own key. -/
def Filed (table : Table) : Prop :=
  ∀ (k : String) (e : Entry), table[k]? = some e → e.template.key = k

end Table

/-! ## What is read off a walk -/

namespace Walked

/-- The templates that are wanted, from the entries alone. -/
def metas (wanted : Template → Bool) (pairs : List (String × Entry)) : List TemplateMeta :=
  Registry.sorted (((pairs.map (·.2.template)).filter wanted).map Template.toMeta)

def keys (pairs : List (String × Entry)) : List String :=
  (pairs.map Prod.fst).mergeSort fun a b => a ≤ b

/-- Every category has its place before the count begins. -/
def noTally : Category → Option Nat :=
  Category.all.foldl (fun tally c => Function.update tally c (some 0)) fun _ => none

def count (tally : Category → Option Nat) (pair : String × Entry) : Category → Option Nat :=
  let c := pair.2.template.category
  Function.update tally c (some ((tally c).getD 0 + 1))

def tally (pairs : List (String × Entry)) : Category → Option Nat := pairs.foldl count noTally

theorem foldl_count (pairs : List (String × Entry)) {start : Category → Option Nat} {n : Nat}
    {c : Category} (hc : start c = some n) :
    pairs.foldl count start c = some (n + pairs.countP (·.2.template.category = c)) := by
  induction pairs generalizing start n with
  | nil => simpa using hc
  | cons pair pairs ih =>
    rw [List.foldl_cons, List.countP_cons]
    by_cases hp : pair.2.template.category = c
    · have hstep : count start pair c = some (n + 1) := by simp [count, hp, hc]
      rw [ih hstep]
      simp [hp]
      omega
    · have hstep : count start pair c = some n := by
        rw [count, Function.update_of_ne (Ne.symm hp), hc]
      rw [ih hstep]
      simp [hp]

theorem tally_eq (pairs : List (String × Entry)) (c : Category) :
    tally pairs c = some (pairs.countP (·.2.template.category = c)) := by
  have hc : noTally c = some 0 := by cases c <;> rfl
  rw [tally, foldl_count pairs hc, Nat.zero_add]

end Walked

namespace Registry

theorem sorted_perm (ms : List TemplateMeta) : (sorted ms).Perm ms :=
  List.mergeSort_perm ms _

theorem sorted_ascending {ms : List TemplateMeta} (h : (ms.map TemplateMeta.key).Nodup) :
    (sorted ms).Pairwise (·.key < ·.key) := by
  have hd := ((sorted_perm ms).map TemplateMeta.key).nodup_iff.mpr h
  refine (mergeSort_pairwise_le TemplateMeta.key ms).imp₂ ?_ (List.pairwise_map.mp hd)
  intro a b hle hne
  by_contra hlt
  exact hne (String.le_antisymm hle (String.not_lt.mp hlt))

end Registry

namespace Table

open Walked

/-- One of the orders in which a table can be walked. -/
structure Walk (table : Table) (pairs : List (String × Entry)) : Prop where
  distinct : (pairs.map Prod.fst).Nodup
  mem_iff : ∀ k e, (k, e) ∈ pairs ↔ table[k]? = some e

namespace Walk

variable {table : Table} {pairs pairs' : List (String × Entry)}

theorem perm (h : table.Walk pairs) (h' : table.Walk pairs') : pairs.Perm pairs' := by
  refine (List.perm_ext_iff_of_nodup h.distinct.of_map h'.distinct.of_map).mpr ?_
  rintro ⟨k, e⟩
  rw [h.mem_iff, h'.mem_iff]

theorem of_perm (h : table.Walk pairs) (hp : pairs.Perm pairs') : table.Walk pairs' :=
  ⟨(hp.map Prod.fst).nodup_iff.mp h.distinct, fun k e => by rw [← hp.mem_iff, h.mem_iff]⟩

/-- The keys that are walked are those of the templates that are walked. -/
theorem map_fst_eq (h : table.Walk pairs) (hf : table.Filed) :
    pairs.map Prod.fst = (pairs.map (·.2.template)).map Template.key := by
  rw [List.map_map]
  refine List.map_congr_left ?_
  rintro ⟨k, e⟩ hm
  exact (hf k e ((h.mem_iff k e).mp hm)).symm

theorem metas_ascending (h : table.Walk pairs) (hf : table.Filed) (wanted : Template → Bool) :
    (metas wanted pairs).Pairwise (·.key < ·.key) := by
  have hd : ((pairs.map (·.2.template)).map Template.key).Nodup := h.map_fst_eq hf ▸ h.distinct
  refine Registry.sorted_ascending ?_
  rw [List.map_map]
  exact hd.sublist (List.filter_sublist.map Template.key)

theorem metas_eq_filter (h : table.Walk pairs) (hf : table.Filed) (c : Category) :
    metas (·.category = c) pairs = (metas (fun _ => true) pairs).filter (·.category = c) := by
  refine Registry.mergeSort_eq_of_perm TemplateMeta.key ?_ ((h.metas_ascending hf _).filter _)
  have hp := (Registry.sorted_perm ((pairs.map (·.2.template)).map Template.toMeta)).symm.filter
    (·.category = c)
  rw [metas, List.filter_true]
  rwa [List.filter_map] at hp

theorem map_key_metas (h : table.Walk pairs) (hf : table.Filed) :
    (metas (fun _ => true) pairs).map TemplateMeta.key = keys pairs := by
  have hp := (Registry.sorted_perm ((pairs.map (·.2.template)).map Template.toMeta)).map
    TemplateMeta.key
  symm
  refine Registry.mergeSort_eq_of_perm id ?_ (List.pairwise_map.mpr (h.metas_ascending hf _))
  rw [h.map_fst_eq hf, metas, List.filter_true]
  rw [List.map_map (g := TemplateMeta.key)] at hp
  exact hp.symm

theorem mem_metas_iff (h : table.Walk pairs) (hf : table.Filed) {m : TemplateMeta} :
    m ∈ metas (fun _ => true) pairs ↔ ∃ e, table[m.key]? = some e ∧ e.template.toMeta = m := by
  rw [metas, (Registry.sorted_perm _).mem_iff, List.filter_true, List.map_map, List.mem_map]
  constructor
  · rintro ⟨⟨k, e⟩, hm, rfl⟩
    have he := (h.mem_iff k e).mp hm
    refine ⟨e, ?_, rfl⟩
    rwa [← hf k e he] at he
  · rintro ⟨e, he, hm⟩
    exact ⟨(m.key, e), (h.mem_iff _ e).mpr he, hm⟩

theorem metas_filter_key (h : table.Walk pairs) (hf : table.Filed) (k : String) :
    (metas (fun _ => true) pairs).filter (·.key = k) =
      table[k]?.toList.map (·.template.toMeta) := by
  cases he : table[k]? with
  | none =>
    refine List.filter_eq_nil_iff.mpr fun m hm hk => ?_
    obtain ⟨e, he', -⟩ := (h.mem_metas_iff hf).mp hm
    rw [of_decide_eq_true hk, he] at he'
    cases he'
  | some e =>
    refine List.perm_singleton.mp ((List.perm_ext_iff_of_nodup ?_ (List.nodup_singleton _)).mpr ?_)
    · refine List.Nodup.filter _ ((h.metas_ascending hf _).imp ?_)
      rintro a b hab rfl
      exact String.lt_irrefl _ hab
    · intro m
      rw [List.mem_filter, h.mem_metas_iff hf, decide_eq_true_iff, List.mem_singleton]
      constructor
      · rintro ⟨⟨e', he', rfl⟩, rfl⟩
        rw [he] at he'
        cases he'
        rfl
      · rintro rfl
        have hk : e.template.toMeta.key = k := hf k e he
        exact ⟨⟨e, hk ▸ he, rfl⟩, hk⟩

/-- Sorting takes back the order of the walk. -/
theorem metas_eq (h : table.Walk pairs) (h' : table.Walk pairs') (hf : table.Filed)
    (wanted : Template → Bool) : metas wanted pairs = metas wanted pairs' := by
  refine Registry.mergeSort_eq_of_perm TemplateMeta.key ?_ (h'.metas_ascending hf wanted)
  have hp := (((h.perm h').map (·.2.template)).filter wanted).map Template.toMeta
  exact hp.trans (Registry.sorted_perm _).symm

theorem keys_eq (h : table.Walk pairs) (h' : table.Walk pairs') (hf : table.Filed) :
    keys pairs = keys pairs' := by
  rw [← h.map_key_metas hf, ← h'.map_key_metas hf, h.metas_eq h' hf]

end Walk

end Table

namespace Registry

/-! ## The table of a registry -/

def table (reg : Registry) : Table :=
  reg.entries.foldr (fun e table => table.insert e.key e) ∅

theorem getElem?_table (reg : Registry) (k : String) : reg.table[k]? = reg.find? k := by
  rw [table, find?]
  induction reg.entries with
  | nil => simp
  | cons e es ih =>
    rw [List.foldr_cons, Std.ExtTreeMap.getElem?_insert, ih, List.find?_cons]
    by_cases hk : e.key = k <;> simp [hk]

/-! ## Listings of a registry -/

/-- The walk along the entries. -/
def pairs (reg : Registry) : List (String × Entry) := reg.entries.map fun e => (e.key, e)

theorem listing_eq_metas (reg : Registry) :
    reg.listing = Walked.metas (fun _ => true) reg.pairs := by
  simp [listing, Walked.metas, pairs, Function.comp_def]

theorem listingOf_eq_metas (reg : Registry) (c : Category) :
    reg.listingOf c = Walked.metas (·.category = c) reg.pairs := by
  simp [listingOf, Walked.metas, pairs, List.filter_map, Function.comp_def]

theorem keys_eq_walked (reg : Registry) : reg.keys = Walked.keys reg.pairs := by
  simp [keys, Walked.keys, pairs, Function.comp_def]

/-- Each record stands in the part of one category. -/
theorem perm_flatMap_category (ms : List TemplateMeta) :
    (Category.all.flatMap fun c => ms.filter (·.category = c)).Perm ms := by
  refine List.perm_iff_count.mpr fun m => ?_
  have hcount (c : Category) : (ms.filter (·.category = c)).count m =
      if m.category = c then ms.count m else 0 := by
    split
    · rename_i hc
      exact List.count_filter (by simpa using hc)
    · rename_i hc
      refine List.count_eq_zero.mpr fun hm => hc ?_
      simpa using List.of_mem_filter hm
  rw [List.count_flatMap]
  simp only [Category.all, Function.comp_def, hcount, List.map_cons, List.map_nil, List.sum_cons,
    List.sum_nil]
  cases m.category <;> simp

theorem length_listing (reg : Registry) : reg.listing.length = reg.size := by
  rw [listing, (sorted_perm _).length_eq, List.length_map, size]

theorem length_listingOf (reg : Registry) (c : Category) :
    (reg.listingOf c).length = reg.stats.byCategory c := by
  rw [listingOf, (sorted_perm _).length_eq, List.length_map, ← List.countP_eq_length_filter]
  rfl

section

variable {g : Generator} {reg : Registry} {pairs : List (String × Entry)}

theorem Reached.filed (h : Reached g reg) : reg.table.Filed := by
  intro k e he
  rw [getElem?_table] at he
  obtain ⟨hm, rfl⟩ := (find?_eq_some_iff h.coherent.sound).mp he
  exact h.coherent.sound.filed e hm

theorem Reached.walk_pairs (h : Reached g reg) : reg.table.Walk reg.pairs := by
  have hs := h.coherent.sound
  refine ⟨?_, fun k e => ?_⟩
  · simpa only [Registry.pairs, List.map_map, Function.comp_def] using hs.distinct
  · rw [getElem?_table, find?_eq_some_iff hs]
    simp [Registry.pairs]

theorem Reached.metas_walked (h : Reached g reg) (hw : reg.table.Walk pairs) :
    Walked.metas (fun _ => true) pairs = reg.listing := by
  rw [listing_eq_metas, hw.metas_eq h.walk_pairs h.filed]

theorem Reached.metasOf_walked (h : Reached g reg) (hw : reg.table.Walk pairs) (c : Category) :
    Walked.metas (·.category = c) pairs = reg.listingOf c := by
  rw [listingOf_eq_metas, hw.metas_eq h.walk_pairs h.filed]

theorem Reached.keys_walked (h : Reached g reg) (hw : reg.table.Walk pairs) :
    Walked.keys pairs = reg.keys := by
  rw [keys_eq_walked, hw.keys_eq h.walk_pairs h.filed]

theorem Reached.length_walked (h : Reached g reg) (hw : reg.table.Walk pairs) :
    pairs.length = reg.size := by
  rw [(hw.perm h.walk_pairs).length_eq, Registry.pairs, List.length_map, size]

theorem Reached.countP_walked (h : Reached g reg) (hw : reg.table.Walk pairs) (p : Entry → Bool) :
    pairs.countP (p ·.2) = reg.entries.countP p := by
  rw [(hw.perm h.walk_pairs).countP_eq, Registry.pairs, List.countP_map]
  rfl

theorem Reached.tally_walked (h : Reached g reg) (hw : reg.table.Walk pairs) (c : Category) :
    Walked.tally pairs c = some (reg.stats.byCategory c) := by
  rw [Walked.tally_eq]
  exact congrArg some (h.countP_walked hw (·.template.category = c))

end

/-- No template stands under a key that is not its own. In whatever order the table of a registry is
walked, the listings, the keys and the counts read off it are those of the registry. There is one
record for each registered key, made of the template under it, in the order of the bytes of the
keys. The listings of the categories part the whole one, and the counts are their lengths. -/
theorem Reached.listings_faithful {g : Generator} {reg : Registry} (h : Reached g reg) :
    reg.table.Filed ∧
    (∀ pairs, reg.table.Walk pairs →
      Walked.metas (fun _ => true) pairs = reg.listing ∧
      (∀ c, Walked.metas (·.category = c) pairs = reg.listingOf c) ∧
      Walked.keys pairs = reg.keys ∧ pairs.length = reg.size ∧
      (∀ c, Walked.tally pairs c = some (reg.stats.byCategory c)) ∧
      pairs.countP (·.2.css.isSome) = reg.stats.cachedCss ∧
      pairs.countP (·.2.preview.isSome) = reg.stats.cachedPreviews) ∧
    (∀ k, reg.listing.filter (·.key = k) =
      (reg.template? k).toList.map fun t => ⟨t.key, t.name, t.description, t.category, none⟩) ∧
    reg.listing.Pairwise (fun a b => Text.bytes a.key < Text.bytes b.key) ∧
    reg.listing.map TemplateMeta.key = reg.keys ∧
    (∀ c, reg.listingOf c = reg.listing.filter (·.category = c)) ∧
    (Category.all.flatMap fun c => reg.listingOf c).Perm reg.listing ∧
    (∀ c, reg.stats.byCategory c = (reg.listingOf c).length) ∧
    reg.stats.total = reg.size ∧ (Category.all.map reg.stats.byCategory).sum = reg.stats.total ∧
    reg.keys.length = reg.stats.total ∧ reg.stats.cachedCss ≤ reg.stats.total ∧
    reg.stats.cachedPreviews ≤ reg.stats.total := by
  have hf := h.filed
  have hw := h.walk_pairs
  have hkeys : reg.listing.map TemplateMeta.key = reg.keys := by
    rw [listing_eq_metas, keys_eq_walked, hw.map_key_metas hf]
  have hpart (c : Category) : reg.listingOf c = reg.listing.filter (·.category = c) := by
    rw [listing_eq_metas, listingOf_eq_metas, hw.metas_eq_filter hf]
  have hperm : (Category.all.flatMap fun c => reg.listingOf c).Perm reg.listing := by
    simp only [hpart]
    exact perm_flatMap_category reg.listing
  have htotal : reg.listing.length = reg.stats.total := reg.length_listing
  refine ⟨hf, ?_, fun k => ?_, ?_, hkeys, hpart, hperm, fun c => (reg.length_listingOf c).symm, rfl,
    ?_, ?_, List.countP_le_length, List.countP_le_length⟩
  · intro pairs hpairs
    exact ⟨h.metas_walked hpairs, h.metasOf_walked hpairs, h.keys_walked hpairs,
      h.length_walked hpairs, h.tally_walked hpairs, h.countP_walked hpairs (·.css.isSome),
      h.countP_walked hpairs (·.preview.isSome)⟩
  · rw [listing_eq_metas, hw.metas_filter_key hf, getElem?_table, template?]
    cases reg.find? k <;> rfl
  · simp only [Text.bytes_lt_bytes_iff]
    rw [listing_eq_metas]
    exact hw.metas_ascending hf _
  · rw [← htotal, ← hperm.length_eq, List.length_flatMap]
    simp only [length_listingOf]
  · rw [← hkeys, List.length_map, htotal]

/-- Two templates, registered against the order of their keys, with one stylesheet kept. -/
theorem listings_faithful_walked_back :
    let g : Generator := ⟨fun t _ => t.name, Template.name, Template.key⟩
    let b : Template := ⟨"b", "Second", "", .modern, Layout.neutral⟩
    let a : Template := ⟨"a", "First", "", .minimal, Layout.neutral⟩
    let reg := ((Step.mk (.css "b") []).run g (Registry.registerMany [b, a] {})).2
    let back := reg.pairs.reverse
    Reached g reg ∧ reg.table.Walk back ∧ reg.keys = ["a", "b"] ∧ Walked.keys back = reg.keys ∧
      Walked.metas (fun _ => true) back = reg.listing ∧
      reg.listing.filter (·.key = "b") = [⟨"b", "Second", "", .modern, none⟩] ∧
      Walked.tally back .creative = some 0 ∧ Walked.tally back .modern = some 1 ∧
      reg.stats.cachedCss = 1 ∧ reg.stats.cachedCss ≤ reg.stats.total := by
  intro g b a reg back
  have hthere : Reached g (Registry.registerMany [b, a] {}) :=
    .served (.mk (.registerMany [b, a]) []) .empty
  have h : Reached g reg := .served (.mk (.css "b") []) hthere
  have hw : reg.table.Walk back := h.walk_pairs.of_perm reg.pairs.reverse_perm.symm
  obtain ⟨-, hwalk, hone, -, -, -, -, -, -, -, -, hcss, -⟩ := h.listings_faithful
  obtain ⟨hmetas, -, hkeys, -, htally, -⟩ := hwalk back hw
  have hsorted : reg.keys = ["a", "b"] :=
    mergeSort_eq_of_perm id (List.Perm.refl ["a", "b"]) (by decide)
  exact ⟨h, hw, hsorted, hkeys, hmetas, hone "b", htally .creative, htally .modern, rfl, hcss⟩

end Registry

end Vitae
