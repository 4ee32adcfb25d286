import Mathlib.Data.List.Induction
import Vitae.Proofs.Registry.Once

/-! # Requests about keys that are not registered

A key is registered from the request that registers it to the one that removes it. A request for a
text fails exactly if its key is not, and leaves no trace then. -/

namespace Vitae

/-- What is settled by the last of those that settle anything. -/
def lastly {α : Type} (settles : α → Option Bool) (xs : List α) : Bool :=
  (xs.reverse.findSome? settles).getD false

theorem lastly_append_singleton {α : Type} (settles : α → Option Bool) (xs : List α) (x : α) :
    lastly settles (xs ++ [x]) = (settles x).getD (lastly settles xs) := by
  rw [lastly, List.reverse_append, List.reverse_singleton, List.singleton_append,
    List.findSome?_cons]
  cases settles x <;> rfl

namespace Event

/-- Whether a key is registered by then, as far as the event has to do with it. -/
def settles (key : String) : Event → Option Bool
  | registered k _ => if k = key then some true else none
  | removed k _ => if k = key then some false else none
  | _ => none

end Event

namespace Request

/-- Whether a key is registered by then, as far as the request has to do with it. -/
def settles (key : String) : Request → Option Bool
  | register t => if t.key = key then some true else none
  | registerMany ts => if ts.any (·.key = key) then some true else none
  | remove k => if k = key then some false else none
  | _ => none

/-- The key whose template the text is made of, for a request that wants one. -/
def textOf? : Request → Option String
  | html key _ | css key | preview key | document key _ _ => some key
  | _ => none

end Request

namespace Registry

/-! ## What every change keeps -/

/-- Every single thing that happens to a registry keeps it. -/
structure Stable (g : Generator) (P : Registry → Prop) : Prop where
  register : ∀ reg t, P reg → P (reg.register t)
  remove : ∀ reg key, P reg → P (reg.remove key).2
  clear : ∀ reg, P reg → P reg.clear
  composing : ∀ reg, P reg → P reg.composing
  generate : ∀ reg kind e, P reg → P (reg.generate g kind e).2
  notKept : ∀ reg kind key, P reg → P (reg.report (.notKept kind key))
  fillSlot : ∀ reg kind key a, P reg → P (reg.fillSlot kind key a)

namespace Stable

variable {g : Generator} {P : Registry → Prop} {during : Registry → Registry}

theorem registerMany (h : Stable g P) (ts : List Template) {reg : Registry} (hreg : P reg) :
    P (reg.registerMany ts) := by
  induction ts generalizing reg with
  | nil => exact hreg
  | cons t ts ih => exact ih (h.register reg t hreg)

theorem keep (h : Stable g P) (kind : ArtifactKind) (e : Entry) (a : Artifact) {reg : Registry}
    (hreg : P reg) : P (reg.keep kind e a).2 := by
  unfold Registry.keep
  split
  · split
    · split
      · exact hreg
      · exact h.fillSlot reg kind e.key a hreg
    · exact h.notKept reg kind e.key hreg
  · exact h.notKept reg kind e.key hreg

theorem fetch (h : Stable g P) (hd : ∀ reg, P reg → P (during reg)) (kind : ArtifactKind)
    (key : String) {reg : Registry} (hreg : P reg) : P (reg.fetch g during kind key).2 := by
  cases he : reg.find? key with
  | none => rwa [fetch_none g during kind he]
  | some e =>
    cases hs : e.slot kind with
    | some a => rwa [fetch_kept g during he hs]
    | none =>
      rw [fetch_making g during he hs]
      exact h.keep kind e _ (hd _ (h.generate reg kind e hreg))

theorem html (h : Stable g P) (hd : ∀ reg, P reg → P (during reg)) (key : String) (r : Resume)
    {reg : Registry} (hreg : P reg) : P (reg.html g during key r).2 := by
  simp only [html_eq]
  split
  · exact hd _ (h.composing reg hreg)
  · exact hreg

theorem document (h : Stable g P) (hd : ∀ reg, P reg → P (during reg)) (key : String) (r : Resume)
    (options : DocumentOptions) {reg : Registry} (hreg : P reg) :
    P (reg.document g during key r options).2 := by
  rw [document_snd]
  split
  · exact h.fetch (fun _ h => h) .css key (h.html hd key r hreg)
  · exact hreg

theorem serve (h : Stable g P) (hd : ∀ reg, P reg → P (during reg)) (q : Request) {reg : Registry}
    (hreg : P reg) : P (reg.serve g during q).2 := by
  cases q with
  | register t => exact h.register reg t hreg
  | registerMany ts => exact h.registerMany ts hreg
  | remove key => exact h.remove reg key hreg
  | clear => exact h.clear reg hreg
  | template | contains | listing | listingOf | keys | size | stats => exact hreg
  | html key r => exact h.html hd key r hreg
  | css key => exact h.fetch hd .css key hreg
  | preview key => exact h.fetch hd .preview key hreg
  | document key r options => exact h.document hd key r options hreg

mutual

theorem run (h : Stable g P) : ∀ (step : Step) {reg : Registry}, P reg → P (step.run g reg).2
  | .mk request during, _, hreg => h.serve (fun _ hreg => h.runAll during hreg) request hreg

theorem runAll (h : Stable g P) :
    ∀ (steps : List Step) {reg : Registry}, P reg → P (Step.runAll g steps reg)
  | [], _, hreg => hreg
  | step :: steps, _, hreg => h.runAll steps (h.run step hreg)

end

theorem reached (h : Stable g P) (hempty : P {}) {reg : Registry} (hreg : Reached g reg) :
    P reg := by
  induction hreg with
  | empty => exact hempty
  | served step _ ih => exact h.run step ih
  | composing _ _ ih => exact h.composing _ ih
  | making _ _ _ ih => exact h.generate _ _ _ ih

end Stable

/-! ## Registered keys -/

theorem contains_remove (reg : Registry) (key k : String) :
    (reg.remove key).2.contains k = (!decide (key = k) && reg.contains k) := by
  rw [contains, find?_remove, contains]
  by_cases hk : key = k
  · simp [hk]
  · simp [hk, Ne.symm hk]

/-- The log tells which keys are registered. -/
theorem stable_contains (g : Generator) (key : String) :
    Stable g fun reg => reg.contains key = lastly (·.settles key) reg.log where
  register reg t h := by
    have hlog := (Follows.register reg t).log
    rw [hlog, lastly_append_singleton, contains_register, h]
    by_cases hk : t.key = key <;> simp [Event.settles, hk]
  remove reg k h := by
    have hlog := (Follows.remove reg k).log
    rw [hlog, lastly_append_singleton, contains_remove, h]
    by_cases hk : k = key <;> simp [Event.settles, hk]
  clear reg h := by
    have hlog := (Follows.clear reg).log
    rw [hlog, lastly_append_singleton, contains_eq, template?_clear, ← contains_eq, h]
    rfl
  composing reg h := h
  generate reg kind e h := by
    have hlog := (Follows.generate g kind e reg).log
    rw [hlog, lastly_append_singleton]
    exact h
  notKept reg kind k h := by
    have hlog : (reg.report (.notKept kind k)).log = reg.log ++ [.notKept kind k] := rfl
    rw [hlog, lastly_append_singleton]
    exact h
  fillSlot reg kind k a h := by
    rw [contains_fillSlot]
    exact h

theorem contains_serve (g : Generator) (reg : Registry) (q : Request) (key : String) :
    (reg.serve g id q).2.contains key = (q.settles key).getD (reg.contains key) := by
  cases q with
  | register t =>
    rw [serve, contains_register]
    by_cases hk : t.key = key <;> simp [Request.settles, hk]
  | registerMany ts =>
    rw [serve, contains_registerMany]
    cases hk : ts.any (·.key = key) <;> simp [Request.settles, hk]
  | remove k =>
    simp only [serve, contains_remove]
    by_cases hk : k = key <;> simp [Request.settles, hk]
  | clear =>
    simp only [serve, contains_eq, template?_clear]
    rfl
  | template | contains | listing | listingOf | keys | size | stats => rfl
  | html k r =>
    simp only [serve, html_eq]
    split <;> rfl
  | css k | preview k => exact contains_fetch g _ k reg key
  | document k r options => exact contains_document g k r options reg key

/-- In a run of requests one after another, the last one that concerns a key settles whether it is
registered. -/
theorem contains_asks (g : Generator) (qs : List Request) (key : String) :
    (Session.asks g {} qs).registry.contains key = lastly (·.settles key) qs := by
  induction qs using List.reverseRecOn with
  | nil => rfl
  | append_singleton qs q ih =>
    have hlast : Session.asks g {} (qs ++ [q]) = (Session.asks g {} qs).ask g q :=
      List.foldl_append
    rw [hlast, lastly_append_singleton, ← ih]
    exact contains_serve g _ q key

/-! ## Failures -/

section

variable {g : Generator} {reg : Registry} {q : Request} {key : String}

theorem find?_of_unregistered (h : reg.contains key = false) : reg.find? key = none := by
  simpa [contains] using h

theorem serve_of_unregistered (during : Registry → Registry) (hq : q.textOf? = some key)
    (h : reg.contains key = false) : reg.serve g during q = (.notFound ⟨key⟩, reg) := by
  have hnone := find?_of_unregistered h
  cases q with
  | html | document =>
    cases hq
    simp [serve, document, html, hnone, Response.ofText]
  | css | preview =>
    cases hq
    simp only [serve, fetch_none g during _ hnone, Response.ofArtifact]
  | _ => cases hq

theorem fetch_of_registered (during : Registry → Registry) (kind : ArtifactKind)
    (h : reg.contains key = true) : ∃ a, (reg.fetch g during kind key).1 = .ok a := by
  obtain ⟨e, he⟩ := Option.isSome_iff_exists.mp h
  cases hs : e.slot kind with
  | some a => exact ⟨a, congrArg Prod.fst (fetch_kept g during he hs)⟩
  | none => exact ⟨_, congrArg Prod.fst (fetch_making g during he hs)⟩

/-- Only a document, of which one half is made after the other, can lose its template on the way. -/
theorem serve_of_registered {during : Registry → Registry} (hq : q.textOf? = some key)
    (h : reg.contains key = true) (hd : during = id ∨ ∀ r options, q ≠ .document key r options) :
    ∃ s, (reg.serve g during q).1 = .text s := by
  cases q with
  | html _ r =>
    cases hq
    obtain ⟨e, he⟩ := Option.isSome_iff_exists.mp h
    exact ⟨g.html e.template r, by simp [serve, html, he, Response.ofText]⟩
  | css =>
    cases hq
    obtain ⟨a, ha⟩ := fetch_of_registered (g := g) during .css h
    exact ⟨a.text, congrArg Response.ofArtifact ha⟩
  | preview =>
    cases hq
    obtain ⟨a, ha⟩ := fetch_of_registered (g := g) during .preview h
    exact ⟨a.text, congrArg Response.ofArtifact ha⟩
  | document _ r options =>
    cases hq
    rcases hd with rfl | hd
    · have hok := (isOk_document g key r options reg).trans h
      cases hpage : (reg.document g id key r options).1 with
      | error e =>
        rw [hpage] at hok
        cases hok
      | ok page => exact ⟨page, congrArg Response.ofText hpage⟩
    · exact absurd rfl (hd r options)
  | _ => cases hq

theorem remove_of_unregistered (h : reg.contains key = false) :
    reg.remove key = (false, reg.report (.removed key false)) := by
  have hdrop : reg.drop key = reg := by
    have hkeep : reg.entries.filter (·.key ≠ key) = reg.entries := by
      refine List.filter_eq_self.mpr fun e he => ?_
      simpa using List.find?_eq_none.mp (find?_of_unregistered h) e he
    rw [drop, hkeep]
  simp only [remove, h, hdrop]

end

/-- A key is registered exactly if the last request that registered or removed it registered it, and
of the requests for a text that is made of the template under the key precisely those fail that find
it not registered, with the key named and nothing changed. No request can come between the halves of
a document here. Removing what is not there says so and leaves only a line in the log. -/
theorem Reached.fails_iff_unregistered {g : Generator} {reg : Registry} (h : Reached g reg)
    (key : String) :
    reg.contains key = lastly (·.settles key) reg.log ∧
    (∀ qs, (Session.asks g {} qs).registry.contains key = lastly (·.settles key) qs) ∧
    (∀ q, q.textOf? = some key → ∀ during : List Step,
      (reg.contains key = false → (Step.mk q during).run g reg = (.notFound ⟨key⟩, reg)) ∧
      (reg.contains key = true → (during = [] ∨ ∀ r options, q ≠ .document key r options) →
        ∃ s, ((Step.mk q during).run g reg).1 = .text s)) ∧
    (reg.contains key = false → reg.remove key = (false, reg.report (.removed key false))) := by
  refine ⟨(stable_contains g key).reached rfl h, fun qs => contains_asks g qs key, ?_,
    remove_of_unregistered⟩
  intro q hq during
  refine ⟨serve_of_unregistered (Step.runAll g during) hq, ?_⟩
  intro hc hd
  refine serve_of_registered hq hc (hd.imp_left ?_)
  rintro rfl
  rfl

/-- A key given up while its stylesheet is made: that request is still answered, and later ones fail. -/
theorem fails_iff_unregistered_removed :
    let g : Generator := ⟨fun t _ => t.name, Template.name, Template.key⟩
    let t : Template := ⟨"k", "N", "", .modern, Layout.neutral⟩
    let there := ({} : Registry).register t
    let reg := ((Step.mk (.css "k") [.mk (.remove "k") []]).run g there).2
    Reached g there ∧ Reached g reg ∧ there.contains "k" = true ∧ reg.contains "k" = false ∧
      (∃ s, ((Step.mk (.css "k") [.mk (.remove "k") []]).run g there).1 = .text s) ∧
      (Step.mk (.document "k" {} {}) []).run g reg = (.notFound ⟨"k"⟩, reg) ∧
      reg.remove "k" = (false, reg.report (.removed "k" false)) := by
  intro g t there reg
  have hthere : Reached g there := .served (.mk (.register t) []) .empty
  have hreg : Reached g reg := .served (.mk (.css "k") [.mk (.remove "k") []]) hthere
  have hc : there.contains "k" = true := rfl
  have hc' : reg.contains "k" = false := rfl
  obtain ⟨-, -, htext, -⟩ := hthere.fails_iff_unregistered "k"
  obtain ⟨-, -, htext', hremove⟩ := hreg.fails_iff_unregistered "k"
  exact ⟨hthere, hreg, hc, hc', (htext (.css "k") rfl _).2 hc (.inr nofun),
    (htext' (.document "k" {} {}) rfl []).1 hc', hremove hc'⟩

end Registry

end Vitae
