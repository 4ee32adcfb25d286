import Vitae.Proofs.Toml.Scalars
import Vitae.Proofs.Toml.Spans

/-! # Documents and their spans

Whatever a document keeps a span of lies in the text that the document is read from. -/

namespace Vitae.Toml

variable {source : List Char}

namespace Scan

/-- Wherever in the text the reader is behind clean text, it is so again when it returns, and what
it returns has the property. -/
def Yields {α : Type} (source : List Char) (x : Scan α) (P : α → Prop) : Prop :=
  ∀ c a d, Cursor.Reaches ⟨source, 0⟩ c → x c = some (a, d) →
    Cursor.Reaches ⟨source, 0⟩ d ∧ P a

section Yields

variable {α β : Type} {P : α → Prop} {Q : β → Prop}

theorem Yields.run {x : Scan α} (hx : Yields source x P) {c d : Cursor} {a : α}
    (hc : Cursor.Reaches ⟨source, 0⟩ c) (h : x c = some (a, d)) :
    Cursor.Reaches ⟨source, 0⟩ d ∧ P a :=
  hx c a d hc h

theorem yields_pure {a : α} (h : P a) : Yields source (pure a) P := by
  intro c b d hc hb
  cases hb
  exact ⟨hc, h⟩

theorem yields_failure : Yields source (failure : Scan α) P := by
  intro c a d _ h
  cases h

theorem yields_lift {x : Option α} (h : ∀ a, x = some a → P a) :
    Yields source (StateT.lift x) P := by
  intro c a d hc ha
  obtain ⟨hx, rfl⟩ := lift_eq_some ha
  exact ⟨hc, h a hx⟩

theorem Yields.bind {x : Scan α} {f : α → Scan β} (hx : Yields source x P)
    (hf : ∀ a, P a → Yields source (f a) Q) : Yields source (x >>= f) Q := by
  intro c b d hc h
  obtain ⟨a, e, ha, hb⟩ := bind_eq_some h
  obtain ⟨he, hp⟩ := hx c a e hc ha
  exact hf a hp e b d he hb

/-- What is passed alone says nothing about what comes behind it. -/
theorem Passes.then {x : Scan α} {f : α → Scan β} (hx : Passes x)
    (hf : ∀ a, Yields source (f a) Q) : Yields source (x >>= f) Q := by
  intro c b d hc h
  obtain ⟨a, e, ha, hb⟩ := bind_eq_some h
  exact hf a e b d (hc.trans (hx c a e ha)) hb

theorem Yields.ite {p : Prop} [Decidable p] {x y : Scan α} (hx : Yields source x P)
    (hy : Yields source y P) : Yields source (if p then x else y) P := by
  split
  · exact hx
  · exact hy

theorem yields_offset : Yields source offset (· ≤ byteCount source) := by
  intro c n d hc h
  cases h
  refine ⟨hc, ?_⟩
  obtain ⟨cs, -, hrest, hoffset⟩ := hc
  obtain rfl : source = cs ++ c.rest := hrest
  rw [hoffset, byteCount_append]
  exact (Nat.zero_add _).trans_le (Nat.le_add_right _ _)

/-- A place at which something is read that is not nothing. -/
theorem yields_start {k : Nat → Scan α} (hfail : ∀ n o, k n ⟨[], o⟩ = none)
    (hk : ∀ n, StartsIn source n → Yields source (k n) P) : Yields source (offset >>= k) P := by
  rintro ⟨_ | ⟨c, rest⟩, o⟩ a d hc h
  · cases (hfail o o).symm.trans h
  · refine hk o ?_ _ a d hc h
    obtain ⟨cs, hcs, hrest, hoffset⟩ := hc
    exact ⟨cs, c :: rest, hrest, hcs, (hoffset.trans (Nat.zero_add _)).symm, by nofun⟩

theorem yields_ifAccepted {s : String} (hs : s.toList.all isPlain = true) {x y : Scan α}
    (hx : Yields source x P) (hy : Yields source y P) :
    Yields source (do if ← accept s then x else y) P :=
  (passes_accept (.of_all_isPlain hs)).then fun _ => hx.ite hy

end Yields

/-! ## Keys, values and lines -/

theorem isPlain_of_isBareKeyChar : ∀ c, isBareKeyChar c = true → isPlain c = true :=
  isPlain_of (by decide)

theorem yields_simpleKey : Yields source simpleKey (·.span.LiesIn source) := by
  refine yields_start (fun n o => rfl) fun n hn => passes_peek.then fun c? => ?_
  have hend (name : String) :
      Yields source (do return (⟨name, n, ← offset⟩ : Key)) (·.span.LiesIn source) :=
    yields_offset.bind fun m hm => yields_pure ⟨hn, hm⟩
  split
  · exact passes_basicString.then hend
  · exact passes_literalString.then hend
  · refine (passes_spanWhile isPlain_of_isBareKeyChar).then fun cs => ?_
    split
    · exact yields_failure
    · exact hend _

theorem yields_keyParts (fuel : Nat) :
    Yields source (keyParts fuel) (∀ k ∈ ·, k.span.LiesIn source) := by
  induction fuel with
  | zero => exact yields_failure
  | succ fuel ih =>
    refine passes_blanks.then fun _ => yields_simpleKey.bind fun k hk => passes_blanks.then fun _ =>
      yields_ifAccepted rfl ?_ ?_
    · exact ih.bind fun ks hks => yields_pure (List.forall_mem_cons.mpr ⟨hk, hks⟩)
    · exact yields_pure (List.forall_mem_singleton.mpr hk)

theorem yields_scalarNode : Yields source scalarNode (·.LiesIn source) := by
  refine yields_start (fun n o => rfl) fun n hn => passes_scalar.then fun s => ?_
  exact yields_offset.bind fun m hm => yields_pure (.scalar ⟨hn, hm⟩)

variable {depth : Nat}

theorem yields_items (hvalue : Yields source (value depth) (·.LiesIn source)) (fuel : Nat) :
    Yields source (items depth fuel) (∀ t ∈ ·, t.LiesIn source) := by
  induction fuel with
  | zero =>
    rw [items]
    exact yields_failure
  | succ fuel ih =>
    rw [items]
    refine passes_bound.then fun _ => (passes_padding _).then fun _ =>
      yields_ifAccepted rfl (yields_pure (List.forall_mem_nil _)) ?_
    refine hvalue.bind fun v hv => passes_bound.then fun _ => (passes_padding _).then fun _ =>
      yields_ifAccepted rfl ?_ ?_
    · exact ih.bind fun vs hvs => yields_pure (List.forall_mem_cons.mpr ⟨hv, hvs⟩)
    · exact (passes_expect rfl).then fun _ =>
        yields_pure (List.forall_mem_singleton.mpr hv)

theorem yields_pairs (hvalue : Yields source (value depth) (·.LiesIn source)) (first : Bool)
    (fuel : Nat) {t : Table} (ht : t.LiesIn source) :
    Yields source (pairs depth first fuel t) (·.LiesIn source) := by
  induction fuel generalizing first t with
  | zero =>
    rw [pairs]
    exact yields_failure
  | succ fuel ih =>
    rw [pairs]
    -- The pair that is read next, whether it is the first or not.
    have hpair (x : Scan Table) (hx : Yields source x (·.LiesIn source)) :
        Yields source (if first then accept "\x7d" >>= fun b => if b then pure t else x else x)
          (·.LiesIn source) :=
      .ite (yields_ifAccepted rfl (yields_pure ht) hx) hx
    refine passes_blanks.then fun _ => hpair _ ?_
    refine (yields_keyParts _).bind fun path hpath => (passes_expect rfl).then fun _ =>
      passes_blanks.then fun _ => hvalue.bind fun v hv => passes_blanks.then fun _ => ?_
    split
    · rename_i k hk
      have hdefine (u : Table) (hu : t.define path.dropLast k v = some u) : u.LiesIn source :=
        ht.define (forall_dropLast hpath) (hpath k (List.mem_of_getLast? hk)) hv hu
      refine (yields_lift hdefine).bind fun u hu => yields_ifAccepted rfl (ih false hu) ?_
      exact (passes_expect rfl).then fun _ => yields_pure hu
    · exact yields_failure

theorem yields_value (depth : Nat) : Yields source (value depth) (·.LiesIn source) := by
  induction depth with
  | zero =>
    rw [value]
    exact yields_scalarNode
  | succ depth ih =>
    rw [value]
    refine yields_start (fun n o => rfl) fun n hn c a d hc h => ?_
    obtain ⟨c?, e, hpeek, h⟩ := bind_eq_some h
    obtain ⟨hnext, rfl⟩ : c.rest.head? = c? ∧ c = e := by
      cases hpeek
      exact ⟨rfl, rfl⟩
    split at h
    · obtain ⟨u, e, hstep, h⟩ := bind_eq_some h
      refine Yields.run ?_ (hc.trans (reaches_of_advance hstep ?_)) h
      · exact passes_bound.then fun _ => (yields_items ih _).bind fun vs hvs =>
          yields_offset.bind fun m hm => yields_pure (.array ⟨hn, hm⟩ hvs)
      · rw [hnext]
        exact fun _ ha => Option.some.inj ha ▸ rfl
    · obtain ⟨u, e, hstep, h⟩ := bind_eq_some h
      refine Yields.run ?_ (hc.trans (reaches_of_advance hstep ?_)) h
      · have hempty : Table.LiesIn source { span := ⟨n, n⟩, form := .inline } :=
          ⟨⟨hn, hn.le⟩, List.forall_mem_nil _, List.forall_mem_nil _⟩
        exact passes_bound.then fun _ => (yields_pairs ih true _ hempty).bind fun t ht =>
          yields_offset.bind fun m hm => yields_pure (.table ⟨hn, hm⟩ ht.keys ht.entries)
      · rw [hnext]
        exact fun _ ha => Option.some.inj ha ▸ rfl
    · exact yields_scalarNode.run hc h

theorem yields_header {opening closing : String} (ho : opening.toList.all isPlain = true)
    (hfail : ∀ o, expect opening ⟨[], o⟩ = none)
    (hc : closing.toList.all isPlain = true) {start : Draft → List Key → Span → Option Draft}
    (hstart : ∀ (d e : Draft) path span, d.LiesIn source → (∀ k ∈ path, k.span.LiesIn source) →
      span.LiesIn source → start d path span = some e → e.LiesIn source)
    {d : Draft} (hd : d.LiesIn source) :
    Yields source (header opening closing start d) (·.LiesIn source) := by
  refine yields_start (fun n o => ?_) fun n hn => (passes_expect ho).then fun _ =>
    (yields_keyParts _).bind fun path hpath => (passes_expect hc).then fun _ =>
    yields_offset.bind fun m hm => ?_
  · show (expect opening ⟨[], o⟩ >>= _) = none
    rw [hfail]
    rfl
  · refine (yields_lift fun e he => hstart d e path _ hd hpath ⟨hn, hm⟩ he).bind fun e he => ?_
    exact passes_lineEnd.then fun _ => yields_pure he

theorem yields_pair {d : Draft} (hd : d.LiesIn source) :
    Yields source (pair d) (·.LiesIn source) :=
  (yields_keyParts _).bind fun _ hpath => (passes_expect rfl).then fun _ =>
    passes_blanks.then fun _ => (yields_value 79).bind fun _ hv => passes_lineEnd.then fun _ =>
    yields_lift fun _ he => hd.addPair hpath hv he

theorem yields_lines (fuel : Nat) {d : Draft} (hd : d.LiesIn source) :
    Yields source (lines fuel d) (·.LiesIn source) := by
  induction fuel generalizing d with
  | zero => exact yields_failure
  | succ fuel ih =>
    refine passes_blanks.then fun _ => passes_peek.then fun c? => ?_
    split
    · exact yields_pure hd
    · exact passes_lineEnd.then fun _ => ih hd
    · refine (passes_startsWith _).then fun _ => .ite ?_ ?_
      · refine (yields_header rfl (fun _ => rfl) rfl ?_ hd).bind fun e he => ih he
        exact fun d e _ span h hpath hspan he => h.startArrayTable hpath hspan he
      · refine (yields_header rfl (fun _ => rfl) rfl ?_ hd).bind fun e he => ih he
        exact fun d e _ span h hpath hspan he => h.startTable hpath hspan he
    · refine .ite (passes_newline.then fun _ => .ite (ih hd) yields_failure) ?_
      exact (yields_pair hd).bind fun e he => ih he

theorem yields_document : Yields source document (·.LiesIn source) := by
  have hroot : Span.LiesIn source ⟨0, 0⟩ := ⟨.zero source, Nat.zero_le _⟩
  have hempty : Draft.LiesIn source {} :=
    let hnone : Table.LiesIn source { span := ⟨0, 0⟩, form := .header } :=
      ⟨hroot, List.forall_mem_nil _, List.forall_mem_nil _⟩
    ⟨hnone, List.forall_mem_nil _, hnone⟩
  refine (passes_accept (.of_all_isPlain rfl)).discard.then fun _ => passes_bound.then fun _ =>
    (yields_lines _ hempty).bind fun d hd => ?_
  exact (yields_lift fun t ht => hd.finish ht).bind fun t ht => yields_pure ht.toToml

end Scan

theorem liesIn_of_parse? {text : String} {t : Toml} (h : parse? text = some t) :
    t.LiesIn text.toList := by
  obtain ⟨⟨u, c⟩, hrun, rfl⟩ := Option.map_eq_some_iff.mp h
  exact (Scan.yields_document.run (.refl _) hrun).2

end Vitae.Toml
