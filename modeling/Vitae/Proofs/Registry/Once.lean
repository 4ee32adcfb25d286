import Vitae.Proofs.Registry.Interrupted

/-! # A text is made once

Requests are looked at here one after another, with the answers they get. From these alone it can be
told when the generator is called and what a registry keeps: a stylesheet or a picture is made for
the first request that wants it since its key was last registered or everything kept was dropped, and
for no other. -/

namespace Vitae

namespace Request

/-- The artifact that the answer is made of. -/
def wants : Request → Option (ArtifactKind × String)
  | css key | document key .. => some (.css, key)
  | preview key => some (.preview, key)
  | _ => none

/-- Whether the answer is made of a fragment. -/
def composes : Request → Bool
  | html .. | document .. => true
  | _ => false

/-- Whether whatever was kept under the key is dropped, though the key may stay. -/
def renews (key : String) : Request → Bool
  | register t => t.key = key
  | registerMany ts => ts.any (·.key = key)
  | clear => true
  | _ => false

theorem renews_of_wants {q : Request} {kind : ArtifactKind} {key : String}
    (h : q.wants = some (kind, key)) (k : String) : q.renews k = false := by
  cases q with
  | css | preview | document => rfl
  | _ => cases h

end Request

namespace Response

def isText : Response → Bool
  | text _ => true
  | _ => false

theorem isText_ofText (x : Except NotFound String) : (ofText x).isText = x.isOk := by
  cases x <;> rfl

theorem isText_ofArtifact (x : Except NotFound Artifact) : (ofArtifact x).isText = x.isOk := by
  cases x <;> rfl

end Response

/-- What was asked and answered, the latest first. -/
abbrev History := List (Request × Response)

namespace History

/-- Whether an artifact was wanted, and given, since the key was last renewed. -/
def asked (kind : ArtifactKind) (key : String) (h : History) : Bool :=
  (h.takeWhile fun (q, _) => !q.renews key).any fun (q, a) =>
    q.wants = some (kind, key) && a.isText

/-- Whether a request is the first that wants an artifact of that kind since its key was last
renewed. -/
def isFirst (kind : ArtifactKind) (q : Request) (a : Response) (earlier : History) : Bool :=
  q.wants.any fun (k, key) => k = kind && a.isText && !earlier.asked kind key

def firsts (kind : ArtifactKind) : History → Nat
  | [] => 0
  | (q, a) :: earlier => firsts kind earlier + if isFirst kind q a earlier then 1 else 0

def fragments (h : History) : Nat := h.countP fun (q, a) => q.composes && a.isText

theorem asked_cons (kind : ArtifactKind) (key : String) (q : Request) (a : Response)
    (h : History) :
    asked kind key ((q, a) :: h) =
      (!q.renews key && (decide (q.wants = some (kind, key)) && a.isText || asked kind key h)) := by
  unfold asked
  cases hq : q.renews key <;> simp [hq]

end History

/-- A registry, with what it was asked and what it answered. -/
structure Session where
  history : History := []
  registry : Registry := {}

namespace Session

def ask (g : Generator) (s : Session) (q : Request) : Session where
  history := (q, (s.registry.serve g id q).1) :: s.history
  registry := (s.registry.serve g id q).2

def asks (g : Generator) (s : Session) (qs : List Request) : Session := qs.foldl (ask g) s

end Session

namespace Registry

/-! ## What a request does to what is kept -/

theorem stored_register (reg : Registry) (t : Template) (kind : ArtifactKind) (key : String) :
    (reg.register t).stored kind key = if t.key = key then none else reg.stored kind key := by
  rw [stored, find?_register]
  by_cases hk : t.key = key
  · rw [if_pos hk.symm, if_pos hk]
    cases kind <;> rfl
  · rw [if_neg (Ne.symm hk), if_neg hk]
    rfl

theorem stored_registerMany (reg : Registry) (ts : List Template) (kind : ArtifactKind)
    (key : String) :
    (reg.registerMany ts).stored kind key =
      if ts.any (·.key = key) then none else reg.stored kind key := by
  induction ts generalizing reg with
  | nil => rfl
  | cons t ts ih =>
    have hcons : (reg.registerMany (t :: ts)).stored kind key =
        ((reg.register t).registerMany ts).stored kind key := rfl
    rw [hcons, ih, stored_register]
    by_cases hk : t.key = key
    · simp [hk]
    · simp [hk]

theorem stored_clear (reg : Registry) (kind : ArtifactKind) (key : String) :
    reg.clear.stored kind key = none := by
  rw [stored, find?_clear]
  cases reg.find? key <;> simp

theorem contains_register (reg : Registry) (t : Template) (key : String) :
    (reg.register t).contains key = (decide (t.key = key) || reg.contains key) := by
  rw [contains, find?_register]
  by_cases hk : t.key = key
  · simp [hk]
  · simp [hk, Ne.symm hk, contains]

theorem contains_registerMany (reg : Registry) (ts : List Template) (key : String) :
    (reg.registerMany ts).contains key = (ts.any (·.key = key) || reg.contains key) := by
  induction ts generalizing reg with
  | nil => rfl
  | cons t ts ih =>
    have hcons : (reg.registerMany (t :: ts)).contains key =
        ((reg.register t).registerMany ts).contains key := rfl
    rw [hcons, ih, contains_register, List.any_cons, Bool.or_left_comm, Bool.or_assoc]

theorem calls_registerMany (reg : Registry) (ts : List Template) :
    (reg.registerMany ts).calls = reg.calls := by
  induction ts generalizing reg with
  | nil => rfl
  | cons t ts ih => exact ih (reg.register t)

/-- A request for an artifact finds no template, or finds the artifact, or has it made and kept. -/
theorem fetch_cases (g : Generator) (kind : ArtifactKind) (key : String) (reg : Registry) :
    (reg.contains key = false ∧ reg.fetch g id kind key = (.error ⟨key⟩, reg)) ∨
    (∃ a, reg.contains key = true ∧ reg.stored kind key = some a ∧
      reg.fetch g id kind key = (.ok a, reg)) ∨
    ∃ e, reg.contains key = true ∧ reg.stored kind key = none ∧ e.key = key ∧
      reg.fetch g id kind key =
        (.ok (reg.generate g kind e).1,
          (reg.generate g kind e).2.fillSlot kind key (reg.generate g kind e).1) := by
  cases he : reg.find? key with
  | none => exact .inl ⟨by simp [contains, he], fetch_none g id kind he⟩
  | some e =>
    have hc : reg.contains key = true := by simp [contains, he]
    cases hs : e.slot kind with
    | some a => exact .inr (.inl ⟨a, hc, by simp [stored, he, hs], fetch_kept g id he hs⟩)
    | none =>
      obtain rfl := key_of_find he
      exact .inr (.inr ⟨e, hc, by simp [stored, he, hs], rfl, fetch_made g he hs⟩)

theorem contains_fillSlot (reg : Registry) (kind : ArtifactKind) (key : String) (a : Artifact)
    (k : String) : (reg.fillSlot kind key a).contains k = reg.contains k := by
  rw [contains, find?_fillSlot, contains, Option.isSome_map]

theorem contains_fetch (g : Generator) (kind : ArtifactKind) (key : String) (reg : Registry)
    (k : String) : (reg.fetch g id kind key).2.contains k = reg.contains k := by
  rcases fetch_cases g kind key reg with ⟨-, hf⟩ | ⟨a, -, -, hf⟩ | ⟨e, -, -, -, hf⟩
  · rw [hf]
  · rw [hf]
  · rw [hf, contains_fillSlot]
    rfl

theorem isOk_fetch (g : Generator) (kind : ArtifactKind) (key : String) (reg : Registry) :
    (reg.fetch g id kind key).1.isOk = reg.contains key := by
  rcases fetch_cases g kind key reg with ⟨hc, hf⟩ | ⟨a, hc, -, hf⟩ | ⟨e, hc, -, -, hf⟩
  · rw [hf, hc]; rfl
  · rw [hf, hc]; rfl
  · rw [hf, hc]; rfl

/-- What was given is what is kept. -/
theorem stored_fetch (g : Generator) (kind other : ArtifactKind) (key k : String)
    (reg : Registry) :
    (reg.fetch g id kind key).2.stored other k =
      if kind = other ∧ key = k then (reg.fetch g id kind key).1.toOption
      else reg.stored other k := by
  rcases fetch_cases g kind key reg with ⟨hc, hf⟩ | ⟨a, -, hs, hf⟩ | ⟨e, hc, -, hk, hf⟩
  · rw [hf]
    split
    · rename_i h
      obtain ⟨rfl, rfl⟩ := h
      have hnone : reg.find? key = none := by simpa [contains] using hc
      simp [stored, hnone, Except.toOption]
    · rfl
  · rw [hf]
    split
    · rename_i h
      obtain ⟨rfl, rfl⟩ := h
      rw [hs]
      rfl
    · rfl
  · rw [hf, stored_fillSlot]
    by_cases h : kind = other ∧ key = k
    · obtain ⟨rfl, rfl⟩ := h
      rw [if_pos ⟨rfl, rfl, hc⟩, if_pos ⟨rfl, rfl⟩]
      rfl
    · have h' : ¬ (k = key ∧ other = kind ∧ (reg.generate g kind e).2.contains k) := by
        rintro ⟨rfl, rfl, -⟩
        exact h ⟨rfl, rfl⟩
      rw [if_neg h, if_neg h']
      rfl

theorem calls_fetch (g : Generator) (kind other : ArtifactKind) (key : String) (reg : Registry) :
    (reg.fetch g id kind key).2.calls.of other =
      reg.calls.of other +
        if kind = other ∧ reg.contains key ∧ reg.stored kind key = none then 1 else 0 := by
  rcases fetch_cases g kind key reg with ⟨hc, hf⟩ | ⟨a, -, hs, hf⟩ | ⟨e, hc, hs, -, hf⟩
  · simp [hf, hc]
  · simp [hf, hs]
  · rw [hf]
    simp only [hc, hs, and_true]
    exact CallCount.of_next ..

theorem html_calls_fetch (g : Generator) (kind : ArtifactKind) (key : String) (reg : Registry) :
    (reg.fetch g id kind key).2.calls.html = reg.calls.html := by
  rcases fetch_cases g kind key reg with ⟨-, hf⟩ | ⟨a, -, -, hf⟩ | ⟨e, -, -, -, hf⟩
  · rw [hf]
  · rw [hf]
  · rw [hf]
    cases kind <;> rfl

theorem fetch_of_stored (g : Generator) {kind : ArtifactKind} {key : String} {reg : Registry}
    {a : Artifact} (h : reg.stored kind key = some a) :
    reg.fetch g id kind key = (.ok a, reg) := by
  obtain ⟨e, he, hs⟩ := Option.bind_eq_some_iff.mp h
  exact fetch_kept g id he hs

theorem fetch_composing (g : Generator) (kind : ArtifactKind) (key : String) (reg : Registry) :
    (reg.composing.fetch g id kind key).1 = (reg.fetch g id kind key).1 := by
  have hf : reg.composing.find? key = reg.find? key := rfl
  cases he : reg.find? key with
  | none => rw [fetch_none g id kind he, fetch_none g id kind (hf.trans he)]
  | some e =>
    cases hs : e.slot kind with
    | some a => rw [fetch_kept g id he hs, fetch_kept g id (hf.trans he) hs]
    | none =>
      rw [fetch_made g he hs, fetch_made g (hf.trans he) hs]
      cases kind <;> rfl

/-- With nothing in between, a document leaves what a stylesheet leaves. -/
theorem document_snd_id (g : Generator) (key : String) (r : Resume) (options : DocumentOptions)
    (reg : Registry) :
    (reg.document g id key r options).2 =
      if reg.contains key then (reg.composing.fetch g id .css key).2 else reg := by
  rw [document_snd, html_eq]
  split <;> rfl

theorem isOk_map {ε α β : Type} (f : α → β) (x : Except ε α) : (x.map f).isOk = x.isOk := by
  cases x <;> rfl

theorem isSome_toOption {ε α : Type} (x : Except ε α) : x.toOption.isSome = x.isOk := by
  cases x <;> rfl

theorem isOk_expect (reg : Registry) (key : String) (f : Template → String) :
    (reg.expect key f).isOk = reg.contains key := by
  rw [expect, contains_eq]
  cases reg.template? key <;> rfl

theorem isOk_document (g : Generator) (key : String) (r : Resume) (options : DocumentOptions)
    (reg : Registry) : (reg.document g id key r options).1.isOk = reg.contains key := by
  rw [document_fst, html_eq]
  cases ht : reg.template? key with
  | none =>
    have hc : reg.contains key = false := by rw [contains_eq, ht]; rfl
    simp only [expect, ht, hc]
    rfl
  | some t =>
    have hc : reg.contains key = true := by rw [contains_eq, ht]; rfl
    simp only [expect, ht, hc, if_true]
    exact (isOk_map ..).trans ((isOk_map ..).trans ((isOk_fetch g .css key _).trans hc))

theorem contains_document (g : Generator) (key : String) (r : Resume) (options : DocumentOptions)
    (reg : Registry) (k : String) :
    (reg.document g id key r options).2.contains k = reg.contains k := by
  rw [document_snd_id]
  split
  · rw [contains_fetch]
    rfl
  · rfl

theorem stored_document (g : Generator) (other : ArtifactKind) (key k : String) (r : Resume)
    (options : DocumentOptions) (reg : Registry) :
    (reg.document g id key r options).2.stored other k =
      if .css = other ∧ key = k then (reg.fetch g id .css key).1.toOption
      else reg.stored other k := by
  rw [document_snd_id, ← stored_fetch]
  split
  · rw [stored_fetch, stored_fetch, fetch_composing]
    rfl
  · rename_i hc
    have hnone : reg.find? key = none := by simpa [contains] using hc
    rw [fetch_none g id .css hnone]

theorem calls_document (g : Generator) (other : ArtifactKind) (key : String) (r : Resume)
    (options : DocumentOptions) (reg : Registry) :
    (reg.document g id key r options).2.calls.of other =
      reg.calls.of other +
        if .css = other ∧ reg.contains key ∧ reg.stored .css key = none then 1 else 0 := by
  have hcalls : reg.composing.calls.of other = reg.calls.of other := by cases other <;> rfl
  rw [document_snd_id]
  split
  · rw [calls_fetch, hcalls]
    rfl
  · rename_i hc
    simp [hc]

/-! ## What an answer tells -/

section

variable {g : Generator} {reg : Registry} {q : Request}

theorem isText_of_wants {kind : ArtifactKind} {key : String} (h : q.wants = some (kind, key)) :
    (reg.serve g id q).1.isText = reg.contains key := by
  cases q with
  | css k | preview k =>
    cases h
    exact (Response.isText_ofArtifact _).trans (isOk_fetch ..)
  | document k r options =>
    cases h
    exact (Response.isText_ofText _).trans (isOk_document ..)
  | _ => cases h

/-- No request but a registration brings a key. -/
theorem contains_of_serve {key : String} (h : (reg.serve g id q).2.contains key = true)
    (hq : q.renews key = false) : reg.contains key = true := by
  cases q with
  | register t =>
    rw [serve, contains_register, show decide (t.key = key) = false from hq] at h
    exact h
  | registerMany ts =>
    rw [serve, contains_registerMany, show ts.any (·.key = key) = false from hq] at h
    exact h
  | remove k =>
    simp only [serve, contains, find?_remove] at h
    split at h
    · cases h
    · exact h
  | clear => cases hq
  | template | contains | listing | listingOf | keys | size | stats => exact h
  | html k r =>
    simp only [serve, html_eq] at h
    split at h <;> exact h
  | css k | preview k => exact (contains_fetch g _ k reg key).symm.trans h
  | document k r options => exact (contains_document g k r options reg key).symm.trans h

theorem stored_of_wants {kind : ArtifactKind} {key : String} (h : q.wants = some (kind, key))
    (other : ArtifactKind) (k : String) :
    (reg.serve g id q).2.stored other k =
      if kind = other ∧ key = k then (reg.fetch g id kind key).1.toOption
      else reg.stored other k := by
  cases q with
  | css | preview =>
    cases h
    exact stored_fetch ..
  | document =>
    cases h
    exact stored_document ..
  | _ => cases h

theorem stored_of_wants_none {key : String} (h : q.wants = none)
    (hc : (reg.serve g id q).2.contains key = true) (kind : ArtifactKind) :
    (reg.serve g id q).2.stored kind key =
      if q.renews key then none else reg.stored kind key := by
  cases q with
  | register t => simp [serve, Request.renews, stored_register]
  | registerMany ts => simp [serve, Request.renews, stored_registerMany]
  | remove k =>
    have hk : key ≠ k := by
      rintro rfl
      simp [serve, contains, find?_remove] at hc
    simp [serve, Request.renews, stored, find?_remove, hk]
  | clear => simp [serve, Request.renews, stored_clear]
  | template | contains | listing | listingOf | keys | size | stats => rfl
  | html k r =>
    simp only [serve, Request.renews, html_eq]
    split <;> rfl
  | css | preview | document => cases h

theorem calls_of_wants {kind : ArtifactKind} {key : String} (h : q.wants = some (kind, key))
    (other : ArtifactKind) :
    (reg.serve g id q).2.calls.of other =
      reg.calls.of other +
        if kind = other ∧ reg.contains key ∧ reg.stored kind key = none then 1 else 0 := by
  cases q with
  | css | preview =>
    cases h
    exact calls_fetch ..
  | document =>
    cases h
    exact calls_document ..
  | _ => cases h

theorem calls_of_wants_none (h : q.wants = none) (kind : ArtifactKind) :
    (reg.serve g id q).2.calls.of kind = reg.calls.of kind := by
  cases q with
  | registerMany ts => exact congrArg (·.of kind) (calls_registerMany reg ts)
  | html k r =>
    simp only [serve, html_eq]
    split
    · cases kind <;> rfl
    · rfl
  | css | preview | document => cases h
  | _ => rfl

theorem html_calls_serve (g : Generator) (reg : Registry) (q : Request) :
    (reg.serve g id q).2.calls.html =
      reg.calls.html + if q.composes && (reg.serve g id q).1.isText then 1 else 0 := by
  cases q with
  | registerMany ts => exact congrArg (·.html) (calls_registerMany reg ts)
  | html k r =>
    simp only [serve, Request.composes, Response.isText_ofText, html_eq, isOk_expect]
    split <;> simp [*, composing]
  | css k | preview k => exact html_calls_fetch ..
  | document k r options =>
    simp only [serve, Request.composes, Response.isText_ofText, isOk_document, document_snd_id]
    split
    · simp [*, html_calls_fetch, composing]
    · simp [*]
  | _ => rfl

end

end Registry

namespace Session

open Registry

/-- What a registry keeps, and how often its generator was called, as the history has it. -/
structure Told (g : Generator) (s : Session) : Prop where
  coherent : Coherent g s.registry
  kept : ∀ kind key, s.registry.contains key = true →
    (s.registry.stored kind key).isSome = s.history.asked kind key
  calls : ∀ kind, s.registry.calls.of kind = s.history.firsts kind
  html : s.registry.calls.html = s.history.fragments

variable {g : Generator} {s : Session}

theorem told_empty (g : Generator) : Told g {} := by
  refine ⟨coherent_empty g, ?_, ?_, rfl⟩
  · intro kind key h
    cases h
  · intro kind
    cases kind <;> rfl

theorem Told.kept_ask (h : Told g s) (q : Request) (kind : ArtifactKind) (key : String)
    (hc : (s.ask g q).registry.contains key = true) :
    ((s.ask g q).registry.stored kind key).isSome = (s.ask g q).history.asked kind key := by
  change ((s.registry.serve g id q).2.stored kind key).isSome = History.asked kind key (_ :: _)
  rw [History.asked_cons]
  cases hw : q.wants with
  | none =>
    rw [stored_of_wants_none hw hc]
    cases hr : q.renews key with
    | true => rfl
    | false => simpa using h.kept kind key (contains_of_serve hc hr)
  | some wanted =>
    obtain ⟨kind', key'⟩ := wanted
    have hr := Request.renews_of_wants hw key
    have hbefore := contains_of_serve hc hr
    rw [stored_of_wants hw, hr, isText_of_wants hw, ← h.kept kind key hbefore]
    split
    · rename_i hsame
      obtain ⟨rfl, rfl⟩ := hsame
      simp [isSome_toOption, isOk_fetch, hbefore]
    · rename_i hother
      simp [hother]

theorem Told.calls_ask (h : Told g s) (q : Request) (kind : ArtifactKind) :
    (s.ask g q).registry.calls.of kind = (s.ask g q).history.firsts kind := by
  change (s.registry.serve g id q).2.calls.of kind =
    History.firsts kind s.history + if History.isFirst kind q _ s.history then 1 else 0
  rw [← h.calls kind, History.isFirst]
  cases hw : q.wants with
  | none =>
    rw [calls_of_wants_none hw]
    rfl
  | some wanted =>
    obtain ⟨kind', key⟩ := wanted
    rw [calls_of_wants hw, isText_of_wants hw]
    congr 1
    by_cases hc : s.registry.contains key = true
    · by_cases hk : kind' = kind
      · subst hk
        have hkept := h.kept kind' key hc
        cases hs : s.registry.stored kind' key <;> simp_all
      · simp [hk]
    · simp [hc]

theorem Told.ask (h : Told g s) (q : Request) : Told g (s.ask g q) := by
  refine ⟨(orderly_serve (orderly_id g) q _ h.coherent).1, h.kept_ask q, h.calls_ask q, ?_⟩
  change (s.registry.serve g id q).2.calls.html = History.fragments (_ :: _)
  rw [History.fragments, List.countP_cons, html_calls_serve, h.html]
  rfl

theorem Told.asks (h : Told g s) (qs : List Request) : Told g (s.asks g qs) := by
  induction qs generalizing s with
  | nil => exact h
  | cons q qs ih => exact ih (h.ask q)

theorem contains_of_asks {qs : List Request} {key : String}
    (hc : (s.asks g qs).registry.contains key = true) (hqs : ∀ q ∈ qs, q.renews key = false) :
    s.registry.contains key = true := by
  induction qs generalizing s with
  | nil => exact hc
  | cons q qs ih =>
    have hnext := ih hc fun q' hq' => hqs q' (List.mem_cons_of_mem q hq')
    exact contains_of_serve hnext (hqs q List.mem_cons_self)

theorem stored_ask {q : Request} {kind : ArtifactKind} {key : String} {a : Artifact}
    (hq : q.renews key = false) (ha : s.registry.stored kind key = some a)
    (hc : (s.ask g q).registry.contains key = true) :
    (s.ask g q).registry.stored kind key = some a := by
  cases hw : q.wants with
  | none =>
    have hs := stored_of_wants_none hw hc kind
    rw [hq] at hs
    exact hs.trans ha
  | some wanted =>
    obtain ⟨kind', key'⟩ := wanted
    refine (stored_of_wants hw kind key).trans ?_
    split
    · rename_i hsame
      obtain ⟨rfl, rfl⟩ := hsame
      rw [fetch_of_stored g ha]
      rfl
    · exact ha

/-- What is kept stays until its key is renewed or given up. -/
theorem stored_asks {qs : List Request} {kind : ArtifactKind} {key : String} {a : Artifact}
    (hqs : ∀ q ∈ qs, q.renews key = false) (ha : s.registry.stored kind key = some a)
    (hc : (s.asks g qs).registry.contains key = true) :
    (s.asks g qs).registry.stored kind key = some a := by
  induction qs generalizing s with
  | nil => exact ha
  | cons q qs ih =>
    have hlater : ∀ q' ∈ qs, q'.renews key = false :=
      fun q' hq' => hqs q' (List.mem_cons_of_mem q hq')
    have hnext := contains_of_asks (s := s.ask g q) hc hlater
    exact ih hlater (stored_ask (hqs q List.mem_cons_self) ha hnext) hc

/-- As many entries keep a text as there are keys for which one was asked. -/
theorem Told.countP_slot (h : Told g s) (kind : ArtifactKind) :
    s.registry.entries.countP (fun e => (e.slot kind).isSome) =
      s.registry.keys.countP (s.history.asked kind ·) := by
  have hperm : s.registry.keys.Perm (s.registry.entries.map Entry.key) := List.mergeSort_perm ..
  rw [hperm.countP_eq, List.countP_map]
  refine List.countP_congr fun e he => ?_
  have hfind := (find?_eq_some_iff h.coherent.sound).mpr ⟨he, rfl⟩
  have hkept := h.kept kind e.key (by simp [contains, hfind])
  rw [Function.comp_apply, ← hkept, stored, hfind]
  rfl

/-- Over any run, the generator makes a text for each first request that wants it since its key was
last registered or everything kept was dropped, and for no other, and a fragment for each request
that wants one. What is kept are the texts wanted since then, and each is given again, the very same,
to whoever wants it while its key is there. -/
theorem made_once (g : Generator) (qs : List Request) :
    let s := asks g {} qs
    (∀ kind, s.registry.calls.of kind = s.history.firsts kind) ∧
    s.registry.calls.html = s.history.fragments ∧
    s.registry.stats.cachedCss = s.registry.keys.countP (s.history.asked .css ·) ∧
    s.registry.stats.cachedPreviews = s.registry.keys.countP (s.history.asked .preview ·) ∧
    ∀ q kind key, q.wants = some (kind, key) →
      ∀ later : List Request, (∀ q' ∈ later, q'.renews key = false) →
        let again := (asks g (s.ask g q) later).registry
        again.contains key = true →
          (again.fetch g id kind key).1 = (s.registry.fetch g id kind key).1 := by
  intro s
  have h := (told_empty g).asks qs
  refine ⟨h.calls, h.html, h.countP_slot .css, h.countP_slot .preview, ?_⟩
  intro q kind key hw later hlater again hc
  have hq := Request.renews_of_wants hw key
  have hnext := contains_of_asks hc hlater
  have hbefore : s.registry.contains key = true := contains_of_serve hnext hq
  have hok := (isOk_fetch g kind key s.registry).trans hbefore
  cases ha : (s.registry.fetch g id kind key).1 with
  | error e =>
    rw [ha] at hok
    cases hok
  | ok a =>
    have hstored : (s.ask g q).registry.stored kind key = some a := by
      refine (stored_of_wants hw kind key).trans ?_
      rw [if_pos ⟨rfl, rfl⟩, ha]
      rfl
    rw [fetch_of_stored g (stored_asks hlater hstored hc)]

/-- After everything kept was dropped, a stylesheet is made anew, and the new one is given again
while another template comes. -/
theorem made_once_since_cleared :
    let g : Generator := ⟨fun t _ => t.name, Template.name, Template.key⟩
    let t : Template := ⟨"k", "N", "", .modern, Layout.neutral⟩
    let qs : List Request := [.register t, .css "k", .css "k", .clear]
    let later : List Request := [.preview "k", .register { t with key := "other" }, .css "k"]
    let again := asks g ((asks g {} qs).ask g (.css "k")) later
    (asks g {} qs).registry.calls.of .css = 1 ∧
      (again.registry.fetch g id .css "k").1 =
        ((asks g {} qs).registry.fetch g id .css "k").1 := by
  intro g t qs later again
  obtain ⟨hcalls, -, -, -, hsame⟩ := made_once g qs
  have hfirsts : (asks g {} qs).history.firsts .css = 1 := by decide
  have hlater : ∀ q ∈ later, q.renews "k" = false := by
    simp [later, Request.renews]
  have hthere : again.registry.contains "k" = true := by decide
  exact ⟨(hcalls .css).trans hfirsts, hsame (.css "k") .css "k" rfl later hlater hthere⟩

end Session

end Vitae
