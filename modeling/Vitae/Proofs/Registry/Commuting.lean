import Vitae.Proofs.Registry.Once
import Vitae.Proofs.Registry.Shelf

/-! # Requests about different keys

Stamps, serials and the order of the entries tell only what came when. Without them, what a request
about one key leaves under that key depends on what was there, and what is under any other key stays
as it is. So two requests about different keys can change places. -/

namespace Vitae

/-- The key that a request is about, where it is about one only. -/
def Request.subject? : Request → Option String
  | register t => some t.key
  | remove key | template key | contains key | html key _ | css key | preview key
  | document key _ _ => some key
  | _ => none

/-- What an entry holds, no matter when that came. -/
@[ext]
structure Content where
  template : Template
  kept : ArtifactKind → Option String

namespace Content

def bare (t : Template) : Content := ⟨t, fun _ => none⟩

/-- With a text kept, unless there is one already. -/
def keeping (g : Generator) (kind : ArtifactKind) (c : Content) : Content where
  template := c.template
  kept other := if other = kind then some ((c.kept kind).getD (g.make kind c.template))
    else c.kept other

end Content

def Entry.content (e : Entry) : Content := ⟨e.template, fun kind => (e.slot kind).map Artifact.text⟩

/-- What a request about one key makes of what is there. -/
def Request.leaves (g : Generator) : Request → Option Content → Option Content
  | register t, _ => some (.bare t)
  | remove _, _ => none
  | css _, c | document .., c => c.map (.keeping g .css)
  | preview _, c => c.map (.keeping g .preview)
  | _, c => c

theorem CallCount.eq_of_of {n m : CallCount} (h : ∀ kind, n.of kind = m.of kind)
    (hh : n.html = m.html) : n = m := by
  obtain ⟨html, css, preview⟩ := n
  obtain ⟨html', css', preview'⟩ := m
  obtain rfl : html = html' := hh
  obtain rfl : css = css' := h .css
  obtain rfl : preview = preview' := h .preview
  rfl

namespace Registry

def content? (reg : Registry) (key : String) : Option Content :=
  (reg.find? key).map Entry.content

/-- The same entries, in whatever order. -/
structure Alike (reg reg' : Registry) : Prop where
  content? : ∀ key, reg.content? key = reg'.content? key
  entries : (reg.entries.map Entry.content).Perm (reg'.entries.map Entry.content)

/-! ## One request -/

theorem template?_eq_content? (reg : Registry) (key : String) :
    reg.template? key = (reg.content? key).map Content.template := by
  rw [template?, content?, Option.map_map]
  rfl

theorem stored_eq_content? (reg : Registry) (kind : ArtifactKind) (key : String) :
    (reg.stored kind key).map Artifact.text = (reg.content? key).bind (·.kept kind) := by
  rw [stored, content?]
  cases reg.find? key <;> rfl

theorem content?_register (reg : Registry) (t : Template) (k : String) :
    (reg.register t).content? k = if k = t.key then some (.bare t) else reg.content? k := by
  rw [content?, find?_register]
  split
  · refine congrArg some (Content.ext rfl ?_)
    funext kind
    cases kind <;> rfl
  · rfl

theorem content?_remove (reg : Registry) (key k : String) :
    (reg.remove key).2.content? k = if k = key then none else reg.content? k := by
  rw [content?, find?_remove]
  split <;> rfl

theorem content_fill {e : Entry} {kind : ArtifactKind} (hs : e.slot kind = none) {g : Generator}
    {a : Artifact} (ha : a.text = g.make kind e.template) :
    (e.fill kind a).content = e.content.keeping g kind := by
  refine Content.ext (e.template_fill kind a) ?_
  funext other
  simp only [Entry.content, Content.keeping, Entry.slot_fill]
  split
  · simp [hs, ha]
  · rfl

theorem content_keeping_of_slot {e : Entry} {kind : ArtifactKind} {a : Artifact}
    (hs : e.slot kind = some a) (g : Generator) : e.content.keeping g kind = e.content := by
  refine Content.ext rfl ?_
  funext other
  simp only [Entry.content, Content.keeping]
  split
  · simp [*]
  · rfl

theorem content?_fetch (g : Generator) (kind : ArtifactKind) (key : String) (reg : Registry)
    (k : String) :
    (reg.fetch g id kind key).2.content? k =
      if k = key then (reg.content? key).map (.keeping g kind) else reg.content? k := by
  cases he : reg.find? key with
  | none =>
    rw [fetch_none g id kind he]
    split
    · simp [content?, *]
    · rfl
  | some e =>
    obtain rfl := key_of_find he
    cases hs : e.slot kind with
    | some a =>
      rw [fetch_kept g id he hs]
      split
      · simp [content?, content_keeping_of_slot hs, *]
      · rfl
    | none =>
      have hf : (reg.generate g kind e).2.find? k = reg.find? k := rfl
      rw [fetch_made g he hs, content?, find?_fillSlot, hf]
      split
      · subst k
        simp only [he, content?, Option.map_some]
        exact congrArg some (content_fill hs rfl)
      · simp [content?, *]

theorem content?_composing (reg : Registry) (k : String) :
    reg.composing.content? k = reg.content? k := rfl

/-- What a request leaves under the key that it is about, and under any other. -/
theorem content?_serve (g : Generator) {q : Request} {key : String} (hq : q.subject? = some key)
    (reg : Registry) (k : String) :
    (reg.serve g id q).2.content? k =
      if k = key then q.leaves g (reg.content? key) else reg.content? k := by
  cases q with
  | register t =>
    cases hq
    exact content?_register reg t k
  | remove =>
    cases hq
    exact content?_remove reg key k
  | template | contains =>
    simp only [serve, Request.leaves]
    split <;> simp [*]
  | html key' r =>
    simp only [serve, Request.leaves, html_eq, id]
    split <;> split <;> simp [*, content?_composing]
  | css | preview =>
    cases hq
    exact content?_fetch g _ key reg k
  | document key' r options =>
    cases hq
    simp only [serve, Request.leaves, document_snd_id]
    split
    · simp only [content?_fetch, content?_composing]
    · rename_i hc
      have hnone : reg.content? key = none := by simpa [contains, content?] using hc
      split <;> simp [*]
  | _ => cases hq

/-- The answer depends on what is under the key alone. -/
theorem serve_fst_congr {g : Generator} {q : Request} {key : String} {reg reg' : Registry}
    (h : Sound g reg) (h' : Sound g reg') (hq : q.subject? = some key)
    (hc : reg.content? key = reg'.content? key) :
    (reg.serve g id q).1 = (reg'.serve g id q).1 := by
  have ht : reg.template? key = reg'.template? key := by
    rw [template?_eq_content?, template?_eq_content?, hc]
  have hx (f : Template → String) : reg.expect key f = reg'.expect key f := by
    rw [expect, expect, ht]
  have hthere : reg.contains key = reg'.contains key := by
    rw [contains_eq, contains_eq, ht]
  cases q with
  | register => rfl
  | remove | contains =>
    cases hq
    exact congrArg Response.flag hthere
  | template =>
    cases hq
    exact congrArg Response.template ht
  | html _ r =>
    cases hq
    exact congrArg Response.ofText ((html_sound h key r).1.trans
      ((hx _).trans (html_sound h' key r).1.symm))
  | css | preview =>
    cases hq
    simp only [serve, Response.ofArtifact_eq, (fetch_sound h _ key).1, (fetch_sound h' _ key).1, hx]
  | document _ r options =>
    cases hq
    exact congrArg Response.ofText ((document_sound h key r options).1.trans
      ((hx _).trans (document_sound h' key r options).1.symm))
  | _ => cases hq

/-- The generator is called as often wherever the same is under the key. -/
theorem calls_serve_congr {g : Generator} {q : Request} {key : String} {reg reg' : Registry}
    (hq : q.subject? = some key) (hc : reg.content? key = reg'.content? key)
    (kind : ArtifactKind) :
    (reg.serve g id q).2.calls.of kind + reg'.calls.of kind =
      (reg'.serve g id q).2.calls.of kind + reg.calls.of kind := by
  cases hw : q.wants with
  | none => rw [calls_of_wants_none hw, calls_of_wants_none hw, Nat.add_comm]
  | some wanted =>
    obtain ⟨made, key'⟩ := wanted
    obtain rfl : key' = key := by
      cases q with
      | css | preview | document =>
        cases hq
        cases hw
        rfl
      | _ => cases hw
    have hthere : reg.contains key' = reg'.contains key' := by
      rw [contains_eq, contains_eq, template?_eq_content?, template?_eq_content?, hc]
    have hstored : reg.stored made key' = none ↔ reg'.stored made key' = none := by
      rw [← Option.map_eq_none_iff (f := Artifact.text), stored_eq_content?, hc,
        ← stored_eq_content?, Option.map_eq_none_iff]
    rw [calls_of_wants hw, calls_of_wants hw, hthere]
    simp only [hstored]
    omega

/-! ## Two requests -/

theorem mem_map_content_iff {g : Generator} {reg : Registry} (h : Sound g reg) {c : Content} :
    c ∈ reg.entries.map Entry.content ↔ reg.content? c.template.key = some c := by
  simp only [content?, Option.map_eq_some_iff, find?_eq_some_iff h, List.mem_map]
  constructor
  · rintro ⟨e, he, rfl⟩
    exact ⟨e, ⟨he, (h.filed e he).symm⟩, rfl⟩
  · rintro ⟨e, ⟨he, -⟩, hc⟩
    exact ⟨e, he, hc⟩

theorem Alike.of_content? {g : Generator} {reg reg' : Registry} (h : Sound g reg)
    (h' : Sound g reg') (hc : ∀ key, reg.content? key = reg'.content? key) : Alike reg reg' := by
  have hd {reg : Registry} (h : Sound g reg) : (reg.entries.map Entry.content).Nodup := by
    refine List.Nodup.of_map (fun c => c.template.key) ?_
    rw [List.map_map]
    exact List.map_congr_left h.filed ▸ h.distinct
  refine ⟨hc, (List.perm_ext_iff_of_nodup (hd h) (hd h')).mpr fun c => ?_⟩
  rw [mem_map_content_iff h, mem_map_content_iff h', hc]

section

variable {g : Generator} {reg : Registry} {q q' : Request} {key key' : String}

theorem content?_serve_of_ne (g : Generator) (reg : Registry) (hq : q.subject? = some key)
    (hne : key' ≠ key) : (reg.serve g id q).2.content? key' = reg.content? key' := by
  rw [content?_serve g hq, if_neg hne]

theorem serve_fst_serve (h : Coherent g reg) (hq : q.subject? = some key)
    (hq' : q'.subject? = some key') (hne : key ≠ key') :
    ((reg.serve g id q).2.serve g id q').1 = (reg.serve g id q').1 := by
  have hs := (orderly_serve (orderly_id g) q reg h).1
  exact serve_fst_congr hs.sound h.sound hq' (content?_serve_of_ne g reg hq hne.symm)

theorem content?_serve_serve (hq : q.subject? = some key) (hq' : q'.subject? = some key')
    (hne : key ≠ key') (k : String) :
    ((reg.serve g id q).2.serve g id q').2.content? k =
      ((reg.serve g id q').2.serve g id q).2.content? k := by
  rw [content?_serve g hq', content?_serve_of_ne g reg hq hne.symm,
    content?_serve g hq (reg.serve g id q').2, content?_serve_of_ne g reg hq' hne,
    content?_serve g hq, content?_serve g hq']
  by_cases hk : k = key
  · rw [if_neg (hk ▸ hne), if_pos hk, if_pos hk]
  · rw [if_neg hk, if_neg hk]

theorem calls_serve_serve (h : Coherent g reg) (hq : q.subject? = some key)
    (hq' : q'.subject? = some key') (hne : key ≠ key') :
    ((reg.serve g id q).2.serve g id q').2.calls =
      ((reg.serve g id q').2.serve g id q).2.calls := by
  apply CallCount.eq_of_of
  · intro kind
    have hlater := calls_serve_congr hq' (content?_serve_of_ne g reg hq hne.symm) (g := g) kind
    have hlater' := calls_serve_congr hq (content?_serve_of_ne g reg hq' hne) (g := g) kind
    omega
  · simp only [html_calls_serve, serve_fst_serve h hq hq' hne, serve_fst_serve h hq' hq hne.symm]
    omega

theorem alike_serve_serve (h : Coherent g reg) (hq : q.subject? = some key)
    (hq' : q'.subject? = some key') (hne : key ≠ key') :
    Alike ((reg.serve g id q).2.serve g id q').2 ((reg.serve g id q').2.serve g id q).2 := by
  have hserve (q : Request) {reg : Registry} (h : Coherent g reg) :
      Coherent g (reg.serve g id q).2 := (orderly_serve (orderly_id g) q reg h).1
  exact .of_content? (hserve q' (hserve q h)).sound (hserve q (hserve q' h)).sound
    (content?_serve_serve hq hq' hne)

end

/-! ## Many templates -/

theorem content?_registerMany_of_ne {ts : List Template} {k : String} (reg : Registry)
    (h : ∀ t ∈ ts, t.key ≠ k) : (reg.registerMany ts).content? k = reg.content? k := by
  induction ts generalizing reg with
  | nil => rfl
  | cons t ts ih =>
    obtain ⟨ht, hts⟩ := List.forall_mem_cons.mp h
    refine (ih (reg.register t) hts).trans ?_
    rw [content?_register, if_neg ht.symm]

/-- Of several templates with one key the last one stays. -/
theorem content?_registerMany_last {later : List Template} {t : Template} (reg : Registry)
    (earlier : List Template) (h : ∀ u ∈ later, u.key ≠ t.key) :
    (reg.registerMany (earlier ++ t :: later)).content? t.key = some (.bare t) := by
  have hsplit : reg.registerMany (earlier ++ t :: later) =
      ((reg.registerMany earlier).register t).registerMany later := List.foldl_append
  rw [hsplit, content?_registerMany_of_ne _ h, content?_register, if_pos rfl]

theorem content?_registerMany_of_mem {ts : List Template} {t : Template} (reg : Registry)
    (hd : (ts.map Template.key).Nodup) (ht : t ∈ ts) :
    (reg.registerMany ts).content? t.key = some (.bare t) := by
  obtain ⟨earlier, later, rfl⟩ := List.append_of_mem ht
  refine content?_registerMany_last reg earlier fun u hu he => ?_
  rw [List.map_append, List.map_cons] at hd
  have hlater := (List.nodup_cons.mp (List.nodup_append.mp hd).2.1).1
  exact hlater (he ▸ List.mem_map_of_mem hu)

theorem content?_registerMany_perm {ts us : List Template} (reg : Registry) (h : ts.Perm us)
    (hd : (ts.map Template.key).Nodup) (k : String) :
    (reg.registerMany ts).content? k = (reg.registerMany us).content? k := by
  by_cases hk : ∃ t ∈ ts, t.key = k
  · obtain ⟨t, ht, rfl⟩ := hk
    have hd' : (us.map Template.key).Nodup := (h.map Template.key).nodup_iff.mp hd
    rw [content?_registerMany_of_mem reg hd ht,
      content?_registerMany_of_mem reg hd' (h.mem_iff.mp ht)]
  · have hno : ∀ t ∈ ts, t.key ≠ k := fun t ht he => hk ⟨t, ht, he⟩
    rw [content?_registerMany_of_ne reg hno,
      content?_registerMany_of_ne reg fun t ht => hno t (h.mem_iff.mpr ht)]

theorem content?_registerMany (reg : Registry) (ts : List Template) (k : String) :
    (reg.registerMany ts).content? k =
      match ts.reverse.find? (·.key = k) with
      | some t => some (.bare t)
      | none => reg.content? k := by
  split
  · rename_i t ht
    obtain ⟨hk, later, earlier, hts, hlater⟩ := List.find?_eq_some_iff_append.mp ht
    obtain rfl : t.key = k := by simpa using hk
    rw [List.reverse_eq_iff, List.reverse_append, List.reverse_cons, List.append_assoc] at hts
    rw [hts]
    refine content?_registerMany_last reg earlier.reverse fun u hu => ?_
    simpa using hlater u (List.mem_reverse.mp hu)
  · rename_i hnone
    refine content?_registerMany_of_ne reg fun t ht => ?_
    simpa using List.find?_eq_none.mp hnone t (List.mem_reverse.mpr ht)

/-- Of two requests about different keys, each is answered as if the other had not come, and
whichever comes first, the entries and the number of calls are the same. Templates of distinct keys
are registered in any order, and of several with one key the last one stays, with nothing kept. -/
theorem Reached.requests_commute {g : Generator} {reg : Registry} (h : Reached g reg) :
    (∀ q q' key key', q.subject? = some key → q'.subject? = some key' → key ≠ key' →
      let first := reg.serve g id q
      let first' := reg.serve g id q'
      let second := first'.2.serve g id q
      let second' := first.2.serve g id q'
      second.1 = first.1 ∧ second'.1 = first'.1 ∧ Alike second.2 second'.2 ∧
        second.2.calls = second'.2.calls) ∧
    (∀ ts us : List Template, ts.Perm us → (ts.map Template.key).Nodup →
      Alike (reg.registerMany ts) (reg.registerMany us)) ∧
    ∀ ts k, (reg.registerMany ts).content? k =
      match ts.reverse.find? (·.key = k) with
      | some t => some (.bare t)
      | none => reg.content? k := by
  have hc := h.coherent
  refine ⟨?_, ?_, ?_⟩
  · intro q q' key key' hq hq' hne
    exact ⟨serve_fst_serve hc hq' hq hne.symm, serve_fst_serve hc hq hq' hne,
      alike_serve_serve hc hq' hq hne.symm, calls_serve_serve hc hq' hq hne.symm⟩
  · intro ts us hp hd
    exact .of_content? (hc.sound.registerMany ts) (hc.sound.registerMany us)
      (content?_registerMany_perm reg hp hd)
  · exact content?_registerMany reg

/-- A stylesheet is made for one template while another is removed. -/
theorem requests_commute_css_remove :
    let g : Generator := ⟨fun t _ => t.name, Template.name, Template.key⟩
    let t : Template := ⟨"k", "N", "", .modern, Layout.neutral⟩
    let u : Template := { t with key := "other" }
    let reg := (({} : Registry).register t).register u
    let removed := reg.serve g id (.remove "other")
    let made := reg.serve g id (.css "k")
    Reached g reg ∧ (removed.2.serve g id (.css "k")).1 = .text "N" ∧
      Alike (removed.2.serve g id (.css "k")).2 (made.2.serve g id (.remove "other")).2 ∧
      Alike (reg.registerMany [t, u]) (reg.registerMany [u, t]) := by
  intro g t u reg removed made
  have h : Reached g reg :=
    .served (.mk (.register u) []) (.served (.mk (.register t) []) .empty)
  obtain ⟨htwo, hmany, -⟩ := h.requests_commute
  obtain ⟨hanswer, -, halike, -⟩ :=
    htwo (.css "k") (.remove "other") "k" "other" rfl rfl (by decide)
  exact ⟨h, hanswer.trans rfl, halike, hmany [t, u] [u, t] (.swap u t []) (by decide)⟩

end Registry

end Vitae
