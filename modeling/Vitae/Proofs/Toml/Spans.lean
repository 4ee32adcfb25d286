import Vitae.Proofs.Toml.Passing

/-! # Spans lie in the text

Whatever a document keeps a span of begins behind nothing but clean text and before some character,
and ends within the text. -/

namespace Vitae

open Toml

/-- A place in a text, given in bytes, behind which something stands. In an empty text there is only
its beginning. -/
def StartsIn (source : List Char) (n : Nat) : Prop :=
  ∃ before after, source = before ++ after ∧ IsClean before ∧ byteCount before = n ∧
    (after = [] → before = [])

theorem StartsIn.zero (source : List Char) : StartsIn source 0 :=
  ⟨[], source, rfl, .nil, rfl, fun _ => rfl⟩

theorem StartsIn.le {source : List Char} {n : Nat} (h : StartsIn source n) :
    n ≤ byteCount source := by
  obtain ⟨before, after, rfl, -, rfl, -⟩ := h
  rw [byteCount_append]
  exact Nat.le_add_right _ _

structure Span.LiesIn (source : List Char) (span : Span) : Prop where
  start : StartsIn source span.start
  stop : span.stop ≤ byteCount source

namespace Toml

variable {source : List Char}

/-- All the spans in a tree lie in the text. -/
inductive LiesIn (source : List Char) : Toml → Prop
  | scalar {span : Span} {s : Scalar} (h : span.LiesIn source) : LiesIn source (.scalar span s)
  | array {span : Span} {items : List Toml} (h : span.LiesIn source)
      (hitems : ∀ t ∈ items, LiesIn source t) : LiesIn source (.array span items)
  | tables {span : Span} {items : List Toml} (h : span.LiesIn source)
      (hitems : ∀ t ∈ items, LiesIn source t) : LiesIn source (.tables span items)
  | table {span : Span} {form : TableForm} {entries : List (Key × Toml)} (h : span.LiesIn source)
      (hkeys : ∀ e ∈ entries, e.1.span.LiesIn source)
      (hentries : ∀ e ∈ entries, LiesIn source e.2) : LiesIn source (.table span form entries)

theorem LiesIn.span {t : Toml} (h : t.LiesIn source) : t.span.LiesIn source := by
  cases h with
  | scalar h | array h | tables h | table h => exact h

/-! ## Tables -/

namespace Table

structure LiesIn (source : List Char) (t : Table) : Prop where
  span : t.span.LiesIn source
  keys : ∀ e ∈ t.entries, e.1.span.LiesIn source
  entries : ∀ e ∈ t.entries, e.2.LiesIn source

variable {t u : Table}

theorem LiesIn.toToml (h : t.LiesIn source) : t.toToml.LiesIn source :=
  .table h.span h.keys h.entries

theorem LiesIn.get? (h : t.LiesIn source) {name : String} {v : Toml} (hv : t.get? name = some v) :
    v.LiesIn source := by
  obtain ⟨e, he, rfl⟩ := Option.map_eq_some_iff.mp hv
  exact h.entries e (List.mem_of_find?_eq_some he)

theorem LiesIn.append (h : t.LiesIn source) {k : Key} {v : Toml} (hk : k.span.LiesIn source)
    (hv : v.LiesIn source) : (t.append k v).LiesIn source where
  span := h.span
  keys := List.forall_mem_append.mpr ⟨h.keys, List.forall_mem_singleton.mpr hk⟩
  entries := List.forall_mem_append.mpr ⟨h.entries, List.forall_mem_singleton.mpr hv⟩

theorem LiesIn.replace (h : t.LiesIn source) {v : Toml} (hv : v.LiesIn source) (name : String) :
    (t.replace name v).LiesIn source where
  span := h.span
  keys := List.forall_mem_map.mpr fun e he => by
    dsimp only
    split <;> exact h.keys e he
  entries := List.forall_mem_map.mpr fun e he => by
    dsimp only
    split
    · exact hv
    · exact h.entries e he

theorem LiesIn.erase (h : t.LiesIn source) (name : String) : (t.erase name).LiesIn source where
  span := h.span
  keys := fun e he => h.keys e (List.mem_filter.mp he).1
  entries := fun e he => h.entries e (List.mem_filter.mp he).1

theorem LiesIn.of_toml {span : Span} {form : TableForm} {entries : List (Key × Toml)}
    (h : Toml.LiesIn source (.table span form entries)) :
    LiesIn source ⟨span, form, entries⟩ := by
  cases h with
  | table h hkeys hentries => exact ⟨h, hkeys, hentries⟩

theorem LiesIn.within {made : TableForm} {change : Table → Option Table}
    (hchange : ∀ t u : Table, t.LiesIn source → change t = some u → u.LiesIn source)
    {path : List Key} (hpath : ∀ k ∈ path, k.span.LiesIn source) (h : t.LiesIn source)
    (hu : t.within made path change = some u) : u.LiesIn source := by
  induction path generalizing t u with
  | nil => exact hchange t u h hu
  | cons k path ih =>
    obtain ⟨hk, hpath⟩ := List.forall_mem_cons.mp hpath
    rw [Table.within] at hu
    split at hu
    · obtain ⟨sub, hsub, hu⟩ := Option.bind_eq_some_iff.mp hu
      cases hu
      exact h.append hk (ih hpath ⟨hk, List.forall_mem_nil _, List.forall_mem_nil _⟩ hsub).toToml
    · rename_i hv
      split at hu
      · cases hu
      · obtain ⟨sub, hsub, hu⟩ := Option.bind_eq_some_iff.mp hu
        cases hu
        exact h.replace (ih hpath (.of_toml (h.get? hv)) hsub).toToml _
    · rename_i span items hv
      split at hu
      · rename_i hlast
        obtain ⟨sub, hsub, hu⟩ := Option.bind_eq_some_iff.mp hu
        cases hu
        cases h.get? hv with
        | tables hspan hitems =>
          have hsub := ih hpath (.of_toml (hitems _ (List.mem_of_getLast? hlast))) hsub
          refine h.replace (.tables hspan (List.forall_mem_append.mpr ⟨?_, ?_⟩)) _
          · exact fun t ht => hitems t ((List.dropLast_sublist items).subset ht)
          · exact List.forall_mem_singleton.mpr hsub.toToml
      · cases hu
    · cases hu

theorem LiesIn.at? {path : List Key} (h : t.LiesIn source) (hu : t.at? path = some u) :
    u.LiesIn source := by
  induction path generalizing t with
  | nil =>
    cases hu
    exact h
  | cons k path ih =>
    rw [Table.at?] at hu
    split at hu
    · rename_i hv
      exact ih (.of_toml (h.get? hv)) hu
    · rename_i span items hv
      split at hu
      · rename_i hlast
        cases h.get? hv with
        | tables hspan hitems =>
          exact ih (.of_toml (hitems _ (List.mem_of_getLast? hlast))) hu
      · cases hu
    · cases hu

theorem LiesIn.define {path : List Key} {k : Key} {v : Toml} (h : t.LiesIn source)
    (hpath : ∀ k ∈ path, k.span.LiesIn source) (hk : k.span.LiesIn source) (hv : v.LiesIn source)
    (hu : t.define path k v = some u) : u.LiesIn source := by
  refine h.within (fun target u htarget hu => ?_) hpath hu
  split at hu
  · cases hu
  · cases hu
    exact htarget.append hk hv

end Table

/-! ## Drafts -/

theorem forall_dropLast {path : List Key} {P : Key → Prop} (h : ∀ k ∈ path, P k) :
    ∀ k ∈ path.dropLast, P k :=
  fun k hk => h k ((List.dropLast_sublist path).subset hk)

namespace Draft

structure LiesIn (source : List Char) (d : Draft) : Prop where
  root : d.root.LiesIn source
  path : ∀ k ∈ d.path, k.span.LiesIn source
  current : d.current.LiesIn source

variable {d e : Draft} {path : List Key} {span : Span}

theorem startsIn_head {items : List Toml} (h : ∀ t ∈ items, t.LiesIn source) {n : Nat}
    (hn : StartsIn source n) : StartsIn source ((items.head?.map (·.span.start)).getD n) := by
  cases items with
  | nil => exact hn
  | cons t items => exact (h t List.mem_cons_self).span.start

theorem LiesIn.finish (h : d.LiesIn source) {t : Table} (ht : d.finish = some t) :
    t.LiesIn source := by
  rw [Draft.finish] at ht
  split at ht
  · cases ht
    exact h.current
  · rename_i k hk
    refine h.root.within (fun parent u hparent hu => ?_) (forall_dropLast h.path) ht
    have hk := h.path k (List.mem_of_getLast? hk)
    split at hu
    · cases hu
      exact hparent.append hk h.current.toToml
    · rename_i hv
      cases hu
      cases hparent.get? hv with
      | tables hspan hitems =>
        have hall := List.forall_mem_append.mpr
          ⟨hitems, List.forall_mem_singleton.mpr h.current.toToml⟩
        refine hparent.replace (.tables ?_ hall) _
        exact ⟨startsIn_head hall h.current.span.start, h.current.span.stop⟩
    · cases hu

theorem LiesIn.startTable (h : d.LiesIn source) (hpath : ∀ k ∈ path, k.span.LiesIn source)
    (hspan : span.LiesIn source) (he : d.startTable path span = some e) : e.LiesIn source := by
  obtain ⟨k, hk, he⟩ := Option.bind_eq_some_iff.mp he
  obtain ⟨t, ht, he⟩ := Option.bind_eq_some_iff.mp he
  obtain ⟨root, hroot, he⟩ := Option.bind_eq_some_iff.mp he
  obtain ⟨parent, hparent, he⟩ := Option.bind_eq_some_iff.mp he
  have hr : root.LiesIn source := (h.finish ht).within
    (fun t u ht hu => by cases hu; exact ht) (forall_dropLast hpath) hroot
  have hp := hr.at? hparent
  split at he
  · cases he
    exact ⟨hr, hpath, hspan, List.forall_mem_nil _, List.forall_mem_nil _⟩
  · rename_i entries hv
    obtain ⟨root', hroot', he⟩ := Option.bind_eq_some_iff.mp he
    cases he
    have hr' : root'.LiesIn source := hr.within
      (fun t u ht hu => by cases hu; exact ht.erase _) (forall_dropLast hpath) hroot'
    have hold := Table.LiesIn.of_toml (hp.get? hv)
    exact ⟨hr', hpath, hspan, hold.keys, hold.entries⟩
  · cases he

theorem LiesIn.startArrayTable (h : d.LiesIn source) (hpath : ∀ k ∈ path, k.span.LiesIn source)
    (hspan : span.LiesIn source) (he : d.startArrayTable path span = some e) :
    e.LiesIn source := by
  obtain ⟨k, hk, he⟩ := Option.bind_eq_some_iff.mp he
  obtain ⟨t, ht, he⟩ := Option.bind_eq_some_iff.mp he
  obtain ⟨root, hroot, he⟩ := Option.bind_eq_some_iff.mp he
  cases he
  refine ⟨(h.finish ht).within (fun parent u hparent hu => ?_) (forall_dropLast hpath) hroot,
    hpath, hspan, List.forall_mem_nil _, List.forall_mem_nil _⟩
  split at hu
  · cases hu
    exact hparent.append (hpath k (List.mem_of_getLast? hk)) (.tables hspan (List.forall_mem_nil _))
  · cases hu
    exact hparent
  · cases hu

theorem LiesIn.addPair (h : d.LiesIn source) (hpath : ∀ k ∈ path, k.span.LiesIn source)
    {v : Toml} (hv : v.LiesIn source) (he : d.addPair path v = some e) : e.LiesIn source := by
  obtain ⟨k, hk, he⟩ := Option.bind_eq_some_iff.mp he
  obtain ⟨t, ht, he⟩ := Option.bind_eq_some_iff.mp he
  cases he
  have ht := h.current.define (forall_dropLast hpath) (hpath k (List.mem_of_getLast? hk)) hv ht
  exact ⟨h.root, h.path, ⟨ht.span.start, hv.span.stop⟩, ht.keys, ht.entries⟩

end Draft

end Toml

end Vitae
