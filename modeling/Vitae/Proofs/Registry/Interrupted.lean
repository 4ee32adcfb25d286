import Vitae.Proofs.Registry.Sound
import Vitae.Registry.Request
import Vitae.Template.Custom

/-! # Requests that arrive while the generator works

A text is made between two looks at the registry, and any requests may be served in between, each of
them interrupted in the same way. Two things are followed through such a run: what every state has
in common (`Coherent`), and what one state says of another that it came from (`Follows`). Stamps are
never given twice, so a stamp that is still under its key stands for the registration that was looked
up, and the log tells whether it is. -/

namespace Vitae

namespace Event

/-- Whether a registration under the key, if there was one, is gone. -/
def replaces (key : String) : Event → Bool
  | registered k _ | removed k _ => k = key
  | _ => false

def isCall (kind : ArtifactKind) : Event → Bool
  | generating k _ => k = kind
  | _ => false

end Event

theorem CallCount.of_next (n : CallCount) (kind other : ArtifactKind) :
    (n.next kind).of other = n.of other + if kind = other then 1 else 0 := by
  cases kind <;> cases other <;> rfl

theorem Entry.stamp_fill (e : Entry) (kind : ArtifactKind) (a : Artifact) :
    (e.fill kind a).stamp = e.stamp := by
  cases kind <;> rfl

namespace Registry

/-- The stamp and the template under a key. -/
def registration? (reg : Registry) (key : String) : Option (Nat × Template) :=
  (reg.find? key).map fun e => (e.stamp, e.template)

theorem template?_eq_registration? (reg : Registry) (key : String) :
    reg.template? key = (reg.registration? key).map Prod.snd := by
  rw [template?, registration?, Option.map_map]
  rfl

theorem registration?_fillSlot (reg : Registry) (kind : ArtifactKind) (key : String) (a : Artifact)
    (k : String) : (reg.fillSlot kind key a).registration? k = reg.registration? k := by
  rw [registration?, find?_fillSlot, Option.map_map, registration?]
  congr 1
  funext e
  rw [Function.comp_apply]
  split
  · rw [Entry.stamp_fill, Entry.template_fill]
  · rfl

theorem registration?_clear (reg : Registry) (k : String) :
    reg.clear.registration? k = reg.registration? k := by
  rw [registration?, find?_clear, Option.map_map]
  rfl

theorem registration?_register (reg : Registry) (t : Template) (k : String) :
    (reg.register t).registration? k =
      if k = t.key then some (reg.nextStamp, t) else reg.registration? k := by
  rw [registration?, find?_register]
  split <;> rfl

theorem registration?_remove (reg : Registry) (key k : String) :
    (reg.remove key).2.registration? k = if k = key then none else reg.registration? k := by
  rw [registration?, find?_remove]
  split <;> rfl

/-! ## From one state to a later one -/

structure Follows (events : List Event) (reg reg' : Registry) : Prop where
  log : reg'.log = reg.log ++ events
  nextStamp_le : reg.nextStamp ≤ reg'.nextStamp
  standing : ∀ key, (∀ event ∈ events, ¬ event.replaces key) →
    reg'.registration? key = reg.registration? key
  renewed : ∀ key stamp t, (∃ event ∈ events, event.replaces key) →
    reg'.registration? key = some (stamp, t) → reg.nextStamp ≤ stamp

namespace Follows

variable {events later : List Event} {reg mid reg' : Registry}

/-- Nothing is registered and nothing removed. -/
theorem of_registrations (hl : reg'.log = reg.log ++ events) (hn : reg'.nextStamp = reg.nextStamp)
    (hr : ∀ key, reg'.registration? key = reg.registration? key)
    (he : ∀ key, ∀ event ∈ events, ¬ event.replaces key) : Follows events reg reg' := by
  refine ⟨hl, Nat.le_of_eq hn.symm, fun key _ => hr key, ?_⟩
  rintro key stamp t ⟨event, hm, hk⟩
  exact absurd hk (he key event hm)

theorem refl (reg : Registry) : Follows [] reg reg :=
  of_registrations (List.append_nil _).symm rfl (fun _ => rfl) (by simp)

theorem trans (h : Follows events reg mid) (h' : Follows later mid reg') :
    Follows (events ++ later) reg reg' := by
  refine ⟨?_, Nat.le_trans h.nextStamp_le h'.nextStamp_le, ?_, ?_⟩
  · rw [h'.log, h.log, List.append_assoc]
  · intro key hno
    have hmid := h.standing key fun event hm => hno event (List.mem_append_left _ hm)
    rw [h'.standing key fun event hm => hno event (List.mem_append_right _ hm), hmid]
  · rintro key stamp t ⟨event, hm, hk⟩ hr
    by_cases hlater : ∃ event ∈ later, event.replaces key
    · exact Nat.le_trans h.nextStamp_le (h'.renewed key stamp t hlater hr)
    · have hno : ∀ event ∈ later, ¬ event.replaces key := by
        intro event hm hk
        exact hlater ⟨event, hm, hk⟩
      rw [h'.standing key hno] at hr
      rcases List.mem_append.mp hm with hm | hm
      · exact h.renewed key stamp t ⟨event, hm, hk⟩ hr
      · exact absurd hk (hno event hm)

theorem register (reg : Registry) (t : Template) :
    Follows [.registered t.key (reg.contains t.key)] reg (reg.register t) := by
  refine ⟨rfl, Nat.le_succ _, ?_, ?_⟩
  · intro key hno
    have hne : key ≠ t.key := by
      rintro rfl
      simp [Event.replaces] at hno
    rw [registration?_register, if_neg hne]
  · intro key stamp t' hre hr
    have hk : t.key = key := by simpa [Event.replaces] using hre
    rw [registration?_register, if_pos hk.symm] at hr
    cases hr
    exact Nat.le_refl _

theorem remove (reg : Registry) (key : String) :
    Follows [.removed key (reg.contains key)] reg (reg.remove key).2 := by
  refine ⟨rfl, Nat.le_refl _, ?_, ?_⟩
  · intro k hno
    have hne : k ≠ key := by
      rintro rfl
      simp [Event.replaces] at hno
    rw [registration?_remove, if_neg hne]
  · intro k stamp t hre hr
    have hk : key = k := by simpa [Event.replaces] using hre
    rw [registration?_remove, if_pos hk.symm] at hr
    cases hr

theorem clear (reg : Registry) : Follows [.cleared reg.size] reg reg.clear :=
  of_registrations rfl rfl (registration?_clear reg) (by simp [Event.replaces])

theorem generate (g : Generator) (kind : ArtifactKind) (e : Entry) (reg : Registry) :
    Follows [.generating kind e.key] reg (reg.generate g kind e).2 :=
  of_registrations rfl rfl (fun _ => rfl) (by simp [Event.replaces])

end Follows

/-! ## What all states have in common -/

/-- The call of the generator with that serial was for the key, which has not been given another
registration since. -/
def CalledFor (log : List Event) (key : String) (kind : ArtifactKind) (serial : Nat) : Prop :=
  ∃ before after, log = before ++ .generating kind key :: after ∧
    before.countP (·.isCall kind) = serial ∧ ∀ event ∈ after, ¬ event.replaces key

theorem CalledFor.append {log events : List Event} {key : String} {kind : ArtifactKind}
    {serial : Nat} (h : CalledFor log key kind serial)
    (hno : ∀ event ∈ events, ¬ event.replaces key) : CalledFor (log ++ events) key kind serial := by
  obtain ⟨before, after, rfl, hc, ha⟩ := h
  refine ⟨before, after ++ events, by simp, hc, ?_⟩
  intro event hm
  rcases List.mem_append.mp hm with hm | hm
  · exact ha event hm
  · exact hno event hm

structure Coherent (g : Generator) (reg : Registry) : Prop where
  sound : Sound g reg
  dated : ∀ e ∈ reg.entries, e.stamp < reg.nextStamp
  counted : ∀ kind, reg.calls.of kind = reg.log.countP (·.isCall kind)
  called : ∀ e ∈ reg.entries, ∀ kind a, e.slot kind = some a →
    CalledFor reg.log e.key kind a.serial

theorem coherent_empty (g : Generator) : Coherent g {} :=
  ⟨sound_empty g, fun _ he => (List.not_mem_nil he).elim, fun kind => by cases kind <;> rfl,
    fun _ he => (List.not_mem_nil he).elim⟩

namespace Coherent

variable {g : Generator} {reg reg' : Registry}

theorem register (h : Coherent g reg) (t : Template) : Coherent g (reg.register t) := by
  refine ⟨h.sound.register t, ?_, ?_, ?_⟩
  · intro e he
    rcases List.mem_cons.mp he with rfl | he
    · exact Nat.lt_succ_self _
    · exact Nat.lt_succ_of_lt (h.dated e (List.mem_of_mem_filter he))
  · intro kind
    rw [(Follows.register reg t).log, List.countP_append, ← h.counted kind]
    rfl
  · intro e he kind a ha
    rcases List.mem_cons.mp he with rfl | he
    · cases kind <;> cases ha
    · have hne : e.key ≠ t.key := by simpa using List.of_mem_filter he
      refine (h.called e (List.mem_of_mem_filter he) kind a ha).append ?_
      simpa [Event.replaces] using Ne.symm hne

theorem remove (h : Coherent g reg) (key : String) : Coherent g (reg.remove key).2 := by
  refine ⟨h.sound.remove key, ?_, ?_, ?_⟩
  · intro e he
    exact h.dated e (List.mem_of_mem_filter he)
  · intro kind
    rw [(Follows.remove reg key).log, List.countP_append]
    exact h.counted kind
  · intro e he kind a ha
    have hne : e.key ≠ key := by simpa using List.of_mem_filter he
    refine (h.called e (List.mem_of_mem_filter he) kind a ha).append ?_
    simpa [Event.replaces] using Ne.symm hne

theorem clear (h : Coherent g reg) : Coherent g reg.clear := by
  refine ⟨h.sound.clear, ?_, ?_, ?_⟩
  · intro e he
    obtain ⟨e, hm, rfl⟩ := List.mem_map.mp he
    exact h.dated e hm
  · intro kind
    rw [(Follows.clear reg).log, List.countP_append]
    exact h.counted kind
  · intro e he kind a ha
    obtain ⟨e, -, rfl⟩ := List.mem_map.mp he
    simp at ha

/-- Whatever is done to the log and the calls, as long as they agree and no key is renewed. -/
theorem transfer {events : List Event} (h : Coherent g reg) (hf : Follows events reg reg')
    (he : reg'.entries = reg.entries) (hno : ∀ key, ∀ event ∈ events, ¬ event.replaces key)
    (hc : ∀ kind, reg'.calls.of kind = reg.calls.of kind + events.countP (·.isCall kind)) :
    Coherent g reg' := by
  refine ⟨h.sound.transfer he, ?_, ?_, ?_⟩
  · intro e hm
    exact Nat.lt_of_lt_of_le (h.dated e (he ▸ hm)) hf.nextStamp_le
  · intro kind
    rw [hc, h.counted, hf.log, List.countP_append]
  · intro e hm kind a ha
    rw [hf.log]
    exact (h.called e (he ▸ hm) kind a ha).append (hno e.key)

theorem report (h : Coherent g reg) (kind : ArtifactKind) (key : String) :
    Coherent g (reg.report (.notKept kind key)) :=
  h.transfer (Follows.of_registrations rfl rfl (fun _ => rfl) (by simp [Event.replaces])) rfl
    (by simp [Event.replaces]) fun _ => rfl

theorem generate (h : Coherent g reg) (kind : ArtifactKind) (e : Entry) :
    Coherent g (reg.generate g kind e).2 := by
  refine h.transfer (Follows.generate g kind e reg) rfl (by simp [Event.replaces]) ?_
  intro other
  rw [List.countP_singleton]
  simp [Registry.generate, Registry.report, CallCount.of_next, Event.isCall]

theorem fillSlot (h : Coherent g reg) {e : Entry} (he : reg.find? e.key = some e)
    {kind : ArtifactKind} {a : Artifact} (ha : a.text = g.make kind e.template)
    (hc : CalledFor reg.log e.key kind a.serial) : Coherent g (reg.fillSlot kind e.key a) := by
  refine ⟨h.sound.fillSlot he ha, ?_, h.counted, ?_⟩
  · intro e' he'
    obtain ⟨e₀, hm, rfl⟩ := List.mem_map.mp he'
    split
    · rw [Entry.stamp_fill]
      exact h.dated e₀ hm
    · exact h.dated e₀ hm
  · intro e' he' other b hb
    obtain ⟨e₀, hm, rfl⟩ := List.mem_map.mp he'
    split at hb
    · rename_i hk
      rw [if_pos hk, Entry.key_fill, hk]
      rw [Entry.slot_fill] at hb
      split at hb
      · rename_i ho
        cases hb
        exact ho ▸ hc
      · exact hk ▸ h.called e₀ hm other b hb
    · rename_i hk
      rw [if_neg hk]
      exact h.called e₀ hm other b hb

end Coherent

/-! ## The second look -/

/-- What stays true of a text that was made for an entry: if the entry's stamp is still under its
key, so is its template. -/
structure Pending (g : Generator) (reg : Registry) (kind : ArtifactKind) (e : Entry) (a : Artifact) :
    Prop where
  text : a.text = g.make kind e.template
  same : ∀ now, reg.find? e.key = some now → now.stamp = e.stamp →
    now.template = e.template ∧ CalledFor reg.log e.key kind a.serial

/-- A stamp is not under its key any more once the key has been given up or given anew. -/
theorem stamp_ne_of_replaces {g : Generator} {reg left : Registry} {events : List Event} {e : Entry}
    (h : Coherent g reg) (he : e ∈ reg.entries) (hf : Follows events reg left)
    (hre : ∃ event ∈ events, event.replaces e.key) :
    ∀ now, left.find? e.key = some now → now.stamp ≠ e.stamp := by
  intro now hnow hstamp
  have hr : left.registration? e.key = some (now.stamp, now.template) := by
    rw [registration?, hnow]
    rfl
  have hle := hf.renewed e.key now.stamp now.template hre hr
  have hlt := h.dated e he
  omega

theorem pending_of_follows {g : Generator} {reg left : Registry} {kind : ArtifactKind} {e : Entry}
    {events : List Event} (h : Coherent g reg) (he : reg.find? e.key = some e)
    (hf : Follows events (reg.generate g kind e).2 left) :
    Pending g left kind e (reg.generate g kind e).1 := by
  refine ⟨rfl, ?_⟩
  intro now hnow hstamp
  have hno : ∀ event ∈ events, ¬ event.replaces e.key := by
    intro event hm hk
    have hmem := List.mem_of_find?_eq_some he
    exact stamp_ne_of_replaces (h.generate kind e) hmem hf ⟨event, hm, hk⟩ now hnow hstamp
  have hr := hf.standing e.key hno
  rw [registration?, hnow, registration?, show (reg.generate g kind e).2.find? e.key = some e from he]
    at hr
  have ht : now.template = e.template := congrArg Prod.snd (Option.some.inj hr)
  refine ⟨ht, reg.log, events, ?_, (h.counted kind).symm, hno⟩
  rw [hf.log]
  exact List.append_assoc ..

theorem keep_of_ne {kind : ArtifactKind} {e : Entry} {a : Artifact} {reg : Registry}
    (h : ∀ now, reg.find? e.key = some now → now.stamp ≠ e.stamp) :
    reg.keep kind e a = (a, reg.report (.notKept kind e.key)) := by
  unfold keep
  split
  · rename_i now hf
    rw [if_neg (h now hf)]
  · rfl

theorem keep_of_eq {kind : ArtifactKind} {e now : Entry} {a : Artifact} {reg : Registry}
    (hf : reg.find? e.key = some now) (hs : now.stamp = e.stamp) :
    reg.keep kind e a =
      match now.slot kind with
      | some first => (first, reg)
      | none => (a, reg.fillSlot kind e.key a) := by
  unfold keep
  rw [hf]
  exact if_pos hs

theorem keep_spec {g : Generator} {reg : Registry} {kind : ArtifactKind} {e : Entry} {a : Artifact}
    (h : Coherent g reg) (hp : Pending g reg kind e a) :
    (reg.keep kind e a).1.text = g.make kind e.template ∧
      Coherent g (reg.keep kind e a).2 ∧
      ∃ events, Follows events reg (reg.keep kind e a).2 := by
  by_cases hne : ∀ now, reg.find? e.key = some now → now.stamp ≠ e.stamp
  · rw [keep_of_ne hne]
    exact ⟨hp.text, h.report kind e.key, [.notKept kind e.key],
      Follows.of_registrations rfl rfl (fun _ => rfl) (by simp [Event.replaces])⟩
  · obtain ⟨now, hf, hs⟩ : ∃ now, reg.find? e.key = some now ∧ now.stamp = e.stamp := by
      simpa using hne
    obtain ⟨ht, hc⟩ := hp.same now hf hs
    rw [keep_of_eq hf hs]
    cases hk : now.slot kind with
    | some first =>
      have hkept := h.sound.kept now (List.mem_of_find?_eq_some hf) kind first hk
      exact ⟨ht ▸ hkept, h, [], Follows.refl reg⟩
    | none =>
      refine ⟨hp.text, ?_, [], Follows.of_registrations (List.append_nil _).symm rfl
        (registration?_fillSlot reg kind e.key a) (by simp)⟩
      have hkey := key_of_find hf
      rw [← hkey] at hf hc ⊢
      exact h.fillSlot hf (ht ▸ hp.text) hc

/-- What is kept under a key. -/
def stored (reg : Registry) (kind : ArtifactKind) (key : String) : Option Artifact :=
  (reg.find? key).bind (·.slot kind)

theorem stored_fillSlot (reg : Registry) (kind other : ArtifactKind) (key k : String)
    (a : Artifact) :
    (reg.fillSlot kind key a).stored other k =
      if k = key ∧ other = kind ∧ reg.contains k then some a else reg.stored other k := by
  rw [stored, find?_fillSlot, stored, contains]
  cases reg.find? k with
  | none => simp
  | some e =>
    by_cases hk : k = key
    · simp [hk, Entry.slot_fill]
    · simp [hk]

theorem stored_keep {kind : ArtifactKind} {e now : Entry} {a : Artifact} {reg : Registry}
    (hf : reg.find? e.key = some now) (hs : now.stamp = e.stamp) :
    (reg.keep kind e a).2.stored kind e.key = some (reg.keep kind e a).1 := by
  rw [keep_of_eq hf hs]
  cases hk : now.slot kind with
  | some first => simp [stored, hf, hk]
  | none => simp [stored_fillSlot, contains, hf]

/-! ## Requests, interrupted -/

/-- What happens to a registry and leaves it coherent, as a state that follows. -/
def Orderly (g : Generator) (f : Registry → Registry) : Prop :=
  ∀ reg, Coherent g reg → Coherent g (f reg) ∧ ∃ events, Follows events reg (f reg)

theorem orderly_id (g : Generator) : Orderly g id :=
  fun reg h => ⟨h, [], Follows.refl reg⟩

theorem Orderly.comp {g : Generator} {f f' : Registry → Registry} (hf : Orderly g f)
    (hf' : Orderly g f') : Orderly g fun reg => f' (f reg) := by
  intro reg h
  obtain ⟨hc, events, he⟩ := hf reg h
  obtain ⟨hc', later, hl⟩ := hf' (f reg) hc
  exact ⟨hc', events ++ later, he.trans hl⟩

theorem orderly_register (g : Generator) (t : Template) : Orderly g (Registry.register t) :=
  fun reg h => ⟨h.register t, _, Follows.register reg t⟩

theorem orderly_registerMany (g : Generator) (ts : List Template) :
    Orderly g (Registry.registerMany ts) := by
  induction ts with
  | nil => exact orderly_id g
  | cons t ts ih => exact (orderly_register g t).comp ih

theorem orderly_remove (g : Generator) (key : String) :
    Orderly g fun reg => (reg.remove key).2 :=
  fun reg h => ⟨h.remove key, _, Follows.remove reg key⟩

theorem orderly_clear (g : Generator) : Orderly g Registry.clear :=
  fun reg h => ⟨h.clear, _, Follows.clear reg⟩

/-- The state in which the generator is called for a fragment. -/
def composing (reg : Registry) : Registry :=
  { reg with calls := { reg.calls with html := reg.calls.html + 1 } }

theorem orderly_composing (g : Generator) : Orderly g composing := by
  intro reg h
  have hf : Follows [] reg reg.composing :=
    Follows.of_registrations (List.append_nil _).symm rfl (fun _ => rfl) (by simp)
  exact ⟨h.transfer hf rfl (by simp) fun kind => by cases kind <;> rfl, [], hf⟩

section

variable {g : Generator} {during : Registry → Registry}

theorem fetch_making (g : Generator) (during : Registry → Registry) {kind : ArtifactKind}
    {key : String} {reg : Registry} {e : Entry} (he : reg.find? key = some e)
    (hs : e.slot kind = none) :
    reg.fetch g during kind key =
      let (kept, after) := (during (reg.generate g kind e).2).keep kind e (reg.generate g kind e).1
      (.ok kept, after) := by
  simp [fetch, he, hs]

theorem fetch_spec {reg : Registry} (h : Coherent g reg) (hd : Orderly g during)
    (kind : ArtifactKind) (key : String) :
    (reg.fetch g during kind key).1.map Artifact.text = reg.expect key (g.make kind) ∧
      Coherent g (reg.fetch g during kind key).2 ∧
      ∃ events, Follows events reg (reg.fetch g during kind key).2 := by
  cases he : reg.find? key with
  | none =>
    rw [fetch_none g during kind he]
    exact ⟨by simp only [expect, template?, he]; rfl, h, [], Follows.refl reg⟩
  | some e =>
    have hx : reg.expect key (g.make kind) = .ok (g.make kind e.template) := by
      simp [expect, template?, he]
    cases hs : e.slot kind with
    | some a =>
      rw [fetch_kept g during he hs, hx]
      have hkept := h.sound.kept e (List.mem_of_find?_eq_some he) kind a hs
      exact ⟨congrArg Except.ok hkept, h, [], Follows.refl reg⟩
    | none =>
      obtain ⟨hc, events, hf⟩ := hd _ (h.generate kind e)
      have hp := pending_of_follows h (key_of_find he ▸ he) hf
      obtain ⟨ht, hk, later, hl⟩ := keep_spec hc hp
      rw [fetch_making g during he hs, hx]
      refine ⟨congrArg Except.ok ht, hk, ?_⟩
      exact ⟨_, (Follows.generate g kind e reg).trans (hf.trans hl)⟩

theorem orderly_fetch (hd : Orderly g during) (kind : ArtifactKind) (key : String) :
    Orderly g fun reg => (reg.fetch g during kind key).2 :=
  fun _ h => (fetch_spec h hd kind key).2

theorem html_eq (g : Generator) (during : Registry → Registry) (key : String) (r : Resume)
    (reg : Registry) :
    reg.html g during key r =
      (reg.expect key (g.html · r), if reg.contains key then during reg.composing else reg) := by
  unfold html
  cases he : reg.find? key with
  | none => simp [expect, template?, contains, he]
  | some e => simp [expect, template?, contains, he, composing]

theorem orderly_html (hd : Orderly g during) (key : String) (r : Resume) :
    Orderly g fun reg => (reg.html g during key r).2 := by
  intro reg h
  simp only [html_eq]
  split
  · exact (orderly_composing g).comp hd reg h
  · exact orderly_id g reg h

/-- A document is a fragment and then a stylesheet, requested one after the other. -/
theorem document_snd (g : Generator) (during : Registry → Registry) (key : String) (r : Resume)
    (options : DocumentOptions) (reg : Registry) :
    (reg.document g during key r options).2 =
      if reg.contains key then ((reg.html g during key r).2.fetch g id .css key).2 else reg := by
  rw [document, html_eq]
  cases he : reg.find? key with
  | none => simp [expect, template?, contains, he]
  | some e =>
    have hc : reg.contains key = true := by simp [contains, he]
    have hx : reg.expect key (g.html · r) = .ok (g.html e.template r) := by
      simp [expect, template?, he]
    simp only [hx, hc, if_true]
    rcases (during reg.composing).fetch g id .css key with ⟨_ | css, after⟩ <;> rfl

theorem document_fst (g : Generator) (during : Registry → Registry) (key : String) (r : Resume)
    (options : DocumentOptions) (reg : Registry) :
    (reg.document g during key r options).1 =
      (reg.html g during key r).1.bind fun body =>
        (((reg.html g during key r).2.fetch g id .css key).1.map Artifact.text).map
          (Document.assemble body · options) := by
  unfold document
  rcases reg.html g during key r with ⟨_ | body, mid⟩
  · rfl
  · rcases hf : mid.fetch g id .css key with ⟨_ | css, after⟩ <;> simp only [hf] <;> rfl

theorem orderly_document (hd : Orderly g during) (key : String) (r : Resume)
    (options : DocumentOptions) : Orderly g fun reg => (reg.document g during key r options).2 := by
  intro reg h
  simp only [document_snd]
  split
  · exact (orderly_html hd key r).comp (orderly_fetch (orderly_id g) .css key) reg h
  · exact orderly_id g reg h

theorem orderly_serve (hd : Orderly g during) (q : Request) :
    Orderly g fun reg => (reg.serve g during q).2 := by
  cases q with
  | register t => exact orderly_register g t
  | registerMany ts => exact orderly_registerMany g ts
  | remove key => exact orderly_remove g key
  | clear => exact orderly_clear g
  | template | contains | listing | listingOf | keys | size | stats => exact orderly_id g
  | html key r => exact orderly_html hd key r
  | css key => exact orderly_fetch hd .css key
  | preview key => exact orderly_fetch hd .preview key
  | document key r options => exact orderly_document hd key r options

end

end Registry

namespace Step

open Registry

mutual

theorem orderly_run (g : Generator) : ∀ step : Step, Orderly g fun reg => (step.run g reg).2
  | mk request during => orderly_serve (orderly_runAll g during) request

theorem orderly_runAll (g : Generator) : ∀ steps : List Step, Orderly g (runAll g steps)
  | [] => orderly_id g
  | step :: steps => (orderly_run g step).comp (orderly_runAll g steps)

end

end Step

namespace Registry

/-- The states of all runs from an empty registry on, those included in which the generator is at
work and further requests find the registry. -/
inductive Reached (g : Generator) : Registry → Prop where
  | empty : Reached g {}
  | served {reg : Registry} (step : Step) : Reached g reg → Reached g (step.run g reg).2
  | composing {reg : Registry} {key : String} :
    Reached g reg → reg.contains key → Reached g reg.composing
  | making {reg : Registry} {e : Entry} {kind : ArtifactKind} :
    Reached g reg → reg.find? e.key = some e → e.slot kind = none →
    Reached g (reg.generate g kind e).2

theorem Reached.coherent {g : Generator} {reg : Registry} (h : Reached g reg) :
    Coherent g reg := by
  induction h with
  | empty => exact coherent_empty g
  | served step _ ih => exact (step.orderly_run g _ ih).1
  | composing _ _ ih => exact (orderly_composing g _ ih).1
  | making _ _ _ ih => exact ih.generate _ _

/-- What is kept for an entry was made for its registration and for no earlier one under the key.
Whatever requests arrive while a text is made, the answer is the text of the template that was there
when the request came. If in the meantime the key was given up or given anew, be it to an equal
template, the registry stays as those requests left it; and else it keeps the answer. -/
theorem Reached.made_for_registration {g : Generator} {reg : Registry} (h : Reached g reg) :
    (∀ e ∈ reg.entries, ∀ kind a, e.slot kind = some a →
      a.text = g.make kind e.template ∧ CalledFor reg.log e.key kind a.serial) ∧
    ∀ (kind : ArtifactKind) (key : String) (during : List Step),
      let answered := reg.fetch g (Step.runAll g during) kind key
      answered.1.map Artifact.text = reg.expect key (g.make kind) ∧
      ∀ e, reg.find? key = some e → e.slot kind = none →
        let making := (reg.generate g kind e).2
        let left := Step.runAll g during making
        if (left.log.drop making.log.length).any (·.replaces key) then
          answered.2 = left.report (.notKept kind key)
        else ∃ a, answered.1 = .ok a ∧ answered.2.stored kind key = some a := by
  have hc := h.coherent
  refine ⟨fun e he kind a ha => ⟨hc.sound.kept e he kind a ha, hc.called e he kind a ha⟩, ?_⟩
  intro kind key during answered
  have hd := Step.orderly_runAll g during
  refine ⟨(fetch_spec hc hd kind key).1, ?_⟩
  intro e he hs making left
  obtain ⟨-, events, hf⟩ := hd making (hc.generate kind e)
  have hlog : left.log.drop making.log.length = events := by
    rw [hf.log, List.drop_left]
  obtain rfl := key_of_find he
  rw [show answered = _ from fetch_making g _ he hs, hlog]
  split
  · rename_i hre
    rw [List.any_eq_true] at hre
    have hmem := List.mem_of_find?_eq_some he
    rw [keep_of_ne (stamp_ne_of_replaces (hc.generate kind e) hmem hf hre)]
  · rename_i hre
    have hno : ∀ event ∈ events, ¬ event.replaces e.key := by simpa using hre
    have hr := hf.standing e.key hno
    rw [registration?, registration?, show making.find? e.key = some e from he] at hr
    obtain ⟨now, hnow, hsame⟩ := Option.map_eq_some_iff.mp hr
    exact ⟨_, rfl, stored_keep hnow (congrArg Prod.fst hsame)⟩

/-- A template that is given its key anew while its stylesheet is made. -/
theorem made_for_registration_given_anew :
    let g : Generator := ⟨fun t _ => t.name, Template.name, Template.key⟩
    let t : Template := ⟨"k", "N", "", .modern, Layout.neutral⟩
    let reg := ({} : Registry).register t
    let making := (reg.generate g .css ⟨"k", 0, t, none, none⟩).2
    let answered := reg.fetch g (Step.runAll g [.mk (.register t) []]) .css "k"
    Reached g reg ∧ answered.1.map Artifact.text = .ok "N" ∧
      answered.2 = (making.register t).report (.notKept .css "k") := by
  intro g t reg making answered
  have h : Reached g reg := .served (.mk (.register t) []) .empty
  obtain ⟨ht, hk⟩ := h.made_for_registration.2 .css "k" [.mk (.register t) []]
  exact ⟨h, ht, hk ⟨"k", 0, t, none, none⟩ rfl rfl⟩

end Registry

end Vitae
