import Vitae.Proofs.Toml.Document
import Vitae.Shape.TomlTree

/-! # Faults lie in the text

What is wrong with a document is shown at a span of the document itself. -/

namespace Vitae

open Toml

variable {source : List Char} {fault : Fault}

theorem Except.bind_eq_error {α β ε : Type} {x : Except ε α} {f : α → Except ε β} {e : ε}
    (h : x >>= f = .error e) : x = .error e ∨ ∃ a, x = .ok a ∧ f a = .error e := by
  cases x with
  | error e' => exact .inl (congrArg _ (Except.error.inj h))
  | ok a => exact .inr ⟨a, rfl, h⟩

theorem mapError_eq_error {α ε ε' : Type} {f : ε → ε'} {x : Except ε α} {e : ε'}
    (h : x.mapError f = .error e) : ∃ e', x = .error e' ∧ f e' = e := by
  cases x with
  | error e' => exact ⟨e', rfl, Except.error.inj h⟩
  | ok a => cases h

theorem map_eq_error {α β ε : Type} {f : α → β} {x : Except ε α} {e : ε}
    (h : x.map f = .error e) : x = .error e := by
  cases x with
  | error e' => exact congrArg _ (Except.error.inj h)
  | ok a => cases h

theorem exists_of_mapM_eq_error {α β ε : Type} {f : α → Except ε β} {as : List α} {e : ε}
    (h : as.mapM f = .error e) : ∃ a ∈ as, f a = .error e := by
  induction as with
  | nil => cases h
  | cons a as ih =>
    rw [List.mapM_cons] at h
    rcases Except.bind_eq_error h with ha | ⟨b, -, h⟩
    · exact ⟨a, List.mem_cons_self, ha⟩
    rcases Except.bind_eq_error h with has | ⟨bs, -, h⟩
    · obtain ⟨a', hmem, ha'⟩ := ih has
      exact ⟨a', List.mem_cons_of_mem _ hmem, ha'⟩
    · cases h

theorem exists_of_filterMapM_eq_error {α β ε : Type} {f : α → Except ε (Option β)} {as : List α}
    {e : ε} (h : as.filterMapM f = .error e) : ∃ a ∈ as, f a = .error e := by
  induction as with
  | nil => cases h
  | cons a as ih =>
    rw [List.filterMapM_cons] at h
    rcases Except.bind_eq_error h with ha | ⟨b?, -, h⟩
    · exact ⟨a, List.mem_cons_self, ha⟩
    have has : as.filterMapM f = .error e := by
      cases b? with
      | none => exact h
      | some b =>
        rcases Except.bind_eq_error h with has | ⟨bs, -, h⟩
        · exact has
        · cases h
    obtain ⟨a', hmem, ha'⟩ := ih has
    exact ⟨a', List.mem_cons_of_mem _ hmem, ha'⟩

namespace Toml

variable {t : Toml}

theorem LiesIn.items (h : t.LiesIn source) {items : List Toml} (hi : t.items? = some items) :
    ∀ u ∈ items, u.LiesIn source := by
  cases h with
  | scalar | table => cases hi
  | array _ hitems | tables _ hitems =>
    cases hi
    exact hitems

theorem LiesIn.entries (h : t.LiesIn source) {entries : List (Key × Toml)}
    (he : t.entries? = some entries) :
    ∀ e ∈ entries, e.1.span.LiesIn source ∧ e.2.LiesIn source := by
  cases h with
  | array | tables => cases he
  | @scalar span s hspan =>
    cases s with
    | datetime =>
      cases he
      exact List.forall_mem_singleton.mpr ⟨hspan, .scalar hspan⟩
    | _ => cases he
  | table _ hkeys hentries =>
    cases he
    exact fun e he => ⟨hkeys e he, hentries e he⟩

theorem LiesIn.ownSpan (h : t.LiesIn source) {span : Span} (hspan : span.LiesIn source) :
    (t.ownSpan?.getD span).LiesIn source := by
  cases h with
  | scalar h | array h | tables h => exact h
  | table h =>
    rw [ownSpan?]
    split
    · exact hspan
    · exact h

theorem LiesIn.wrongType {α : Type} (h : t.LiesIn source) {expected : String}
    (hf : (t.wrongType expected : Except Fault α) = .error fault) : fault.span.LiesIn source := by
  cases hf
  exact h.span

theorem LiesIn.choiceOf (h : t.LiesIn source) {check : String → Except Misfit Unit}
    (hf : Toml.choiceOf check t = .error fault) : fault.span.LiesIn source := by
  have hat {span : Span} (hs : span.LiesIn source) {r : Except Misfit Unit}
      (hr : r.mapError (Fault.mk · span) = .error fault) : fault.span.LiesIn source := by
    obtain ⟨what, -, rfl⟩ := mapError_eq_error hr
    exact hs
  unfold Toml.choiceOf at hf
  dsimp only at hf
  split at hf
  · rcases Except.bind_eq_error hf with hf | ⟨_, -, hf⟩
    · exact hat h.span hf
    · cases hf
  · rename_i span form k content
    obtain ⟨hk, hcontent⟩ := h.entries rfl _ List.mem_cons_self
    rcases Except.bind_eq_error hf with hf | ⟨_, -, hf⟩
    · exact hat hk hf
    rcases Except.bind_eq_error hf with hf | ⟨_, -, hf⟩
    · exact hat (hcontent.ownSpan h.span) hf
    · cases hf
  · cases hf
    exact h.span
  · cases hf
    exact h.span

end Toml

mutual

theorem Shape.fault_liesIn : {α : Type} → {shape : Shape α} → {t : Toml} → t.LiesIn source →
    shape.transcribe t = .error fault → fault.span.LiesIn source
  | _, .text, t, h, hf => by
    unfold Shape.transcribe at hf
    split at hf
    · cases hf
    · exact h.wrongType hf
  | _, .flag, t, h, hf => by
    unfold Shape.transcribe at hf
    split at hf
    · cases hf
    · exact h.wrongType hf
  | _, .byte, t, h, hf => by
    unfold Shape.transcribe at hf
    split at hf
    · split at hf
      · cases hf
      · cases hf
        exact h.span
    · exact h.wrongType hf
  | _, .spelled read _, t, h, hf => by
    unfold Shape.transcribe at hf
    split at hf
    · split at hf
      · cases hf
      · cases hf
        exact h.span
    · exact h.wrongType hf
  | _, .choice all name, t, h, hf => h.choiceOf hf
  | _, .optional shape, t, h, hf => by
    rw [Shape.transcribe] at hf
    exact Shape.fault_liesIn h hf
  | _, .list shape, t, h, hf => by
    unfold Shape.transcribe at hf
    split at hf
    · rename_i items hi
      obtain ⟨u, hu, hf⟩ := exists_of_mapM_eq_error (map_eq_error hf)
      exact Shape.fault_liesIn (h.items hi u hu) hf
    · exact h.wrongType hf
  | _, .record name closed fields _ _, t, h, hf => by
    unfold Shape.transcribe at hf
    split at hf
    · rename_i he
      rcases Except.bind_eq_error hf with hf | ⟨members, -, hf⟩
      · obtain ⟨e, hmem, hf⟩ := exists_of_filterMapM_eq_error hf
        obtain ⟨hk, hv⟩ := h.entries he e hmem
        exact Fields.fault_liesIn hk hv hf
      · split at hf
        · cases hf
          exact h.span
        · cases hf
    · rename_i hi
      exact Fields.fault_liesIn_list h.span (h.items hi) (map_eq_error hf)
    · exact h.wrongType hf

theorem Fields.fault_liesIn : {β : Type} → {fields : Fields β} → {closed : Bool} →
    {known : List String} → {k : Key} → {t : Toml} → k.span.LiesIn source → t.LiesIn source →
    fields.transcribeEntry closed known k t = .error fault → fault.span.LiesIn source
  | _, .nil, closed, known, k, t, hk, h, hf => by
    rw [Fields.transcribeEntry] at hf
    split at hf
    · cases hf
      exact hk
    · cases hf
  | _, .cons field shape rest, closed, known, k, t, hk, h, hf => by
    rw [Fields.transcribeEntry] at hf
    split at hf
    · exact Shape.fault_liesIn h (map_eq_error hf)
    · exact Fields.fault_liesIn hk h hf

theorem Fields.fault_liesIn_list : {β : Type} → {fields : Fields β} → {span : Span} →
    {expected : String} → {index : Nat} → {ts : List Toml} → span.LiesIn source →
    (∀ t ∈ ts, t.LiesIn source) →
    fields.transcribeList span expected index ts = .error fault → fault.span.LiesIn source
  | _, .nil, span, expected, index, ts, _, _, hf => by
    rw [Fields.transcribeList] at hf
    cases hf
  | _, .cons field shape rest, span, expected, index, t :: ts, hs, h, hf => by
    rw [Fields.transcribeList] at hf
    obtain ⟨ht, hts⟩ := List.forall_mem_cons.mp h
    rcases Except.bind_eq_error hf with hf | ⟨v, -, hf⟩
    · exact Shape.fault_liesIn ht hf
    rcases Except.bind_eq_error hf with hf | ⟨vs, -, hf⟩
    · exact Fields.fault_liesIn_list hs hts hf
    · cases hf
  | _, .cons field shape rest, span, expected, index, [], hs, h, hf => by
    rw [Fields.transcribeList] at hf
    split at hf
    · cases hf
      exact hs
    · exact Fields.fault_liesIn_list hs h hf

end

/-- The fault that a text is refused for lies in the text. -/
theorem Shape.liesIn_of_misfit {α : Type} {shape : Shape α} {text : String}
    (h : shape.ofTomlText text = .error (.misfit fault)) : fault.span.LiesIn text.toList := by
  rw [Shape.ofTomlText] at h
  cases hparse : Toml.parse? text with
  | none =>
    rw [hparse] at h
    cases h
  | some t =>
    rw [hparse] at h
    have ht := liesIn_of_parse? hparse
    replace h : ((shape.transcribe t).mapError TomlError.misfit >>= fun v =>
      (shape.decode v).mapError fun what => .misfit ⟨what, t.span⟩) = .error (.misfit fault) := h
    rcases Except.bind_eq_error h with h | ⟨v, -, h⟩
    · obtain ⟨e, he, h⟩ := mapError_eq_error h
      cases h
      exact Shape.fault_liesIn ht he
    · obtain ⟨what, -, h⟩ := mapError_eq_error h
      cases h
      exact ht.span

end Vitae
