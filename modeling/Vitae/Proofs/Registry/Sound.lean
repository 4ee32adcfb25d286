import Mathlib.Data.List.Nodup
import Vitae.Registry.Basic

/-! # Sound registries

A registry is sound for a generator if no two of its entries share a key, each stands under the key
of its own template, and every text kept for an entry is what the generator makes of that template.
Each operation is described once, by what it does to the entries and to the templates found by key,
and keeps a sound registry sound. Requests are looked at here one after another, with nothing
happening while the generator works. -/

namespace Vitae

theorem Entry.template_fill (e : Entry) (kind : ArtifactKind) (a : Artifact) :
    (e.fill kind a).template = e.template := by
  cases kind <;> rfl

namespace Registry

structure Sound (g : Generator) (reg : Registry) : Prop where
  distinct : (reg.entries.map Entry.key).Nodup
  /-- A template stands under its own key. -/
  filed : ∀ e ∈ reg.entries, e.template.key = e.key
  kept : ∀ e ∈ reg.entries, ∀ kind a, e.slot kind = some a → a.text = g.make kind e.template

theorem sound_empty (g : Generator) : Sound g {} where
  distinct := List.nodup_nil
  filed _ he := absurd he List.not_mem_nil
  kept _ he := absurd he List.not_mem_nil

/-- Only the entries matter. -/
theorem Sound.transfer {g : Generator} {reg reg' : Registry} (h : Sound g reg)
    (he : reg'.entries = reg.entries) : Sound g reg' :=
  ⟨he ▸ h.distinct, he ▸ h.filed, he ▸ h.kept⟩

theorem find?_eq_some_iff {g : Generator} {reg : Registry} (h : Sound g reg) {k : String}
    {e : Entry} : reg.find? k = some e ↔ e ∈ reg.entries ∧ e.key = k := by
  constructor
  · intro hf
    exact ⟨List.mem_of_find?_eq_some hf, key_of_find hf⟩
  · rintro ⟨hm, rfl⟩
    cases hf : reg.find? e.key with
    | none => simpa using List.find?_eq_none.mp hf e hm
    | some e' =>
      have hm' := List.mem_of_find?_eq_some hf
      rw [List.inj_on_of_nodup_map h.distinct hm' hm (key_of_find hf)]

theorem template?_eq_some_iff {g : Generator} {reg : Registry} (h : Sound g reg) {k : String}
    {t : Template} :
    reg.template? k = some t ↔ (k, t) ∈ reg.entries.map fun e => (e.key, e.template) := by
  simp only [template?, Option.map_eq_some_iff, find?_eq_some_iff h, List.mem_map, Prod.mk.injEq]
  constructor
  · rintro ⟨e, ⟨hm, hk⟩, ht⟩
    exact ⟨e, hm, hk, ht⟩
  · rintro ⟨e, hm, hk, ht⟩
    exact ⟨e, ⟨hm, hk⟩, ht⟩

theorem key_of_template? {g : Generator} {reg : Registry} (h : Sound g reg) {k : String}
    {t : Template} (ht : reg.template? k = some t) : t.key = k := by
  obtain ⟨e, he, rfl⟩ := Option.map_eq_some_iff.mp ht
  obtain ⟨hm, rfl⟩ := (find?_eq_some_iff h).mp he
  exact h.filed e hm

theorem contains_eq (reg : Registry) (k : String) : reg.contains k = (reg.template? k).isSome := by
  simp [contains, template?]

/-! ## Registering and removing -/

theorem Sound.drop {g : Generator} {reg : Registry} (h : Sound g reg) (key : String) :
    Sound g (reg.drop key) := by
  refine ⟨h.distinct.sublist (List.filter_sublist.map _), ?_, ?_⟩
  · intro e he
    exact h.filed e (List.mem_of_mem_filter he)
  · intro e he
    exact h.kept e (List.mem_of_mem_filter he)

theorem Sound.register {g : Generator} {reg : Registry} (h : Sound g reg) (t : Template) :
    Sound g (reg.register t) := by
  have hd := h.drop t.key
  refine ⟨List.nodup_cons.mpr ⟨?_, hd.distinct⟩, List.forall_mem_cons.mpr ⟨rfl, hd.filed⟩, ?_⟩
  · intro hm
    obtain ⟨e, he, hk⟩ := List.mem_map.mp hm
    have hne : e.key ≠ t.key := by simpa using List.of_mem_filter he
    exact hne hk
  · intro e he kind a ha
    rcases List.mem_cons.mp he with rfl | he
    · cases kind <;> cases ha
    · exact hd.kept e he kind a ha

theorem Sound.registerMany {g : Generator} {reg : Registry} (h : Sound g reg)
    (ts : List Template) : Sound g (reg.registerMany ts) := by
  induction ts generalizing reg with
  | nil => exact h
  | cons t ts ih => exact ih (h.register t)

theorem Sound.remove {g : Generator} {reg : Registry} (h : Sound g reg) (key : String) :
    Sound g (reg.remove key).2 :=
  (h.drop key).transfer rfl

theorem template?_register (reg : Registry) (t : Template) (k : String) :
    (reg.register t).template? k = if k = t.key then some t else reg.template? k := by
  rw [template?, find?_register]
  split <;> rfl

theorem template?_remove (reg : Registry) (key k : String) :
    (reg.remove key).2.template? k = if k = key then none else reg.template? k := by
  rw [template?, find?_remove]
  split <;> rfl

/-! ## What is kept -/

/-- Entries that keep their keys keep a registry's keys distinct. -/
theorem distinct_map {reg : Registry} {f : Entry → Entry} (hf : ∀ e, (f e).key = e.key)
    (h : (reg.entries.map Entry.key).Nodup) : ((reg.entries.map f).map Entry.key).Nodup := by
  rw [List.map_map]
  simpa only [Function.comp_def, hf] using h

theorem Sound.clear {g : Generator} {reg : Registry} (h : Sound g reg) : Sound g reg.clear := by
  refine ⟨distinct_map Entry.key_clear h.distinct, List.forall_mem_map.mpr h.filed, ?_⟩
  · intro e he kind a ha
    obtain ⟨e, -, rfl⟩ := List.mem_map.mp he
    simp at ha

theorem template?_clear (reg : Registry) (k : String) :
    reg.clear.template? k = reg.template? k := by
  rw [template?, find?_clear, Option.map_map]
  rfl

theorem Sound.fillSlot {g : Generator} {reg : Registry} (h : Sound g reg) {e : Entry}
    (he : reg.find? e.key = some e) {kind : ArtifactKind} {a : Artifact}
    (ha : a.text = g.make kind e.template) : Sound g (reg.fillSlot kind e.key a) := by
  refine ⟨?_, List.forall_mem_map.mpr fun e' hm => ?_, ?_⟩
  · refine distinct_map (fun e' => ?_) h.distinct
    split
    · exact e'.key_fill kind a
    · rfl
  · split
    · rw [Entry.template_fill, Entry.key_fill]
      exact h.filed e' hm
    · exact h.filed e' hm
  · intro e' he' other b hb
    obtain ⟨e₀, hm, rfl⟩ := List.mem_map.mp he'
    split at hb
    · -- the entry of that key is `e` itself, so the text was made for its template
      rename_i hk
      have hf := (find?_eq_some_iff h).mpr ⟨hm, hk⟩
      rw [he] at hf
      cases hf
      rw [if_pos rfl, Entry.template_fill]
      rw [Entry.slot_fill] at hb
      split at hb
      · cases hb
        rename_i ho
        exact ho ▸ ha
      · exact h.kept e hm other b hb
    · rename_i hk
      rw [if_neg hk]
      exact h.kept e₀ hm other b hb

theorem template?_fillSlot (reg : Registry) (kind : ArtifactKind) (key : String) (a : Artifact)
    (k : String) : (reg.fillSlot kind key a).template? k = reg.template? k := by
  rw [template?, find?_fillSlot, Option.map_map]
  cases he : reg.find? k with
  | none => simp [template?, he]
  | some e =>
    simp only [template?, he, Option.map_some, Function.comp_def]
    split
    · rw [Entry.template_fill]
    · rfl

/-! ## Requests for a text -/

/-- The text that a function of templates makes of the one under a key. -/
def expect (reg : Registry) (key : String) (f : Template → String) : Except NotFound String :=
  match reg.template? key with
  | some t => .ok (f t)
  | none => .error ⟨key⟩

theorem fetch_none (g : Generator) (during : Registry → Registry) (kind : ArtifactKind)
    {key : String} {reg : Registry} (he : reg.find? key = none) :
    reg.fetch g during kind key = (.error ⟨key⟩, reg) := by
  simp [fetch, he]

theorem fetch_kept (g : Generator) (during : Registry → Registry) {kind : ArtifactKind}
    {key : String} {reg : Registry} {e : Entry} {a : Artifact} (he : reg.find? key = some e)
    (hs : e.slot kind = some a) : reg.fetch g during kind key = (.ok a, reg) := by
  simp [fetch, he, hs]

/-- When nothing happens in between, the text made is the one kept. -/
theorem fetch_made (g : Generator) {kind : ArtifactKind} {key : String} {reg : Registry} {e : Entry}
    (he : reg.find? key = some e) (hs : e.slot kind = none) :
    reg.fetch g id kind key =
      (.ok (reg.generate g kind e).1,
        (reg.generate g kind e).2.fillSlot kind e.key (reg.generate g kind e).1) := by
  have hf : (reg.generate g kind e).2.find? e.key = some e := key_of_find he ▸ he
  simp [fetch, he, hs, keep, hf]

theorem fetch_sound {g : Generator} {reg : Registry} (h : Sound g reg) (kind : ArtifactKind)
    (key : String) :
    (reg.fetch g id kind key).1.map Artifact.text = reg.expect key (g.make kind) ∧
      Sound g (reg.fetch g id kind key).2 ∧
      ∀ k, (reg.fetch g id kind key).2.template? k = reg.template? k := by
  cases he : reg.find? key with
  | none =>
    rw [fetch_none g id kind he]
    exact ⟨by simp only [expect, template?, he]; rfl, h, fun _ => rfl⟩
  | some e =>
    have hx : reg.expect key (g.make kind) = .ok (g.make kind e.template) := by
      simp [expect, template?, he]
    cases hs : e.slot kind with
    | some a =>
      have hm := ((find?_eq_some_iff h).mp he).1
      rw [fetch_kept g id he hs, hx]
      exact ⟨congrArg Except.ok (h.kept e hm kind a hs), h, fun _ => rfl⟩
    | none =>
      have hg : Sound g (reg.generate g kind e).2 := h.transfer rfl
      have hf : (reg.generate g kind e).2.find? e.key = some e := key_of_find he ▸ he
      rw [fetch_made g he hs, hx]
      exact ⟨rfl, hg.fillSlot hf rfl, fun k => template?_fillSlot ..⟩

theorem html_sound {g : Generator} {reg : Registry} (h : Sound g reg) (key : String) (r : Resume) :
    (reg.html g id key r).1 = reg.expect key (g.html · r) ∧
      Sound g (reg.html g id key r).2 ∧
      ∀ k, (reg.html g id key r).2.template? k = reg.template? k := by
  unfold html
  cases he : reg.find? key with
  | none => exact ⟨by simp [expect, template?, he], h, fun _ => rfl⟩
  | some e => exact ⟨by simp [expect, template?, he], h.transfer rfl, fun _ => rfl⟩

theorem document_sound {g : Generator} {reg : Registry} (h : Sound g reg) (key : String)
    (r : Resume) (options : DocumentOptions) :
    (reg.document g id key r options).1 =
        reg.expect key (fun t => Document.assemble (g.html t r) (g.css t) options) ∧
      Sound g (reg.document g id key r options).2 ∧
      ∀ k, (reg.document g id key r options).2.template? k = reg.template? k := by
  obtain ⟨hb, hs, ht⟩ := html_sound h key r
  obtain ⟨hc, hs', ht'⟩ := fetch_sound hs .css key
  unfold document
  rcases hh : reg.html g id key r with ⟨body, mid⟩
  rw [hh] at hb hs ht hc hs' ht'
  simp only [expect, ht] at hb hc ⊢
  rcases hf : mid.fetch g id .css key with ⟨css, after⟩
  rw [hf] at hc hs' ht'
  cases hk : reg.template? key with
  | none =>
    rw [hk] at hb
    subst hb
    exact ⟨rfl, hs, ht⟩
  | some t =>
    rw [hk] at hb hc
    subst hb
    cases css with
    | error e => cases hc
    | ok a =>
      have ha : a.text = g.css t := Except.ok.inj hc
      simp only [hf, ha]
      exact ⟨trivial, hs', fun k => (ht' k).trans (ht k)⟩

end Registry

end Vitae
