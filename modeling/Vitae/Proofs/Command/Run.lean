import Vitae.Proofs.Command.Files
import Vitae.Proofs.Command.Records

/-! # What a command prints

A command prints all of its result or nothing. Its result is what the library makes of the last
template under the key, with no registry in between: templates that were replaced, texts that were
kept and the two ways to a picture leave no trace in it. -/

namespace Vitae

namespace Command

/-- The key that a command looks up, if it looks one up. -/
def key? : Command → Option String
  | css key | preview key _ | html key _ | document key _ _ _ => some key
  | list .. | stats => none

/-- What a command prints, made of the given templates and of the résumés that paths lead to. -/
def Prints (ts : List Template) (resume : String → Resume → Prop) (render : RenderOptions)
    (out : String) : Command → Prop
  | list category catalog json =>
    ∃ all, (if catalog then all = TemplateMeta.catalog else Template.IsListing ts all) ∧
      let shown := all.filter fun m => category.all (m.category = ·)
      if json then out = (Json.arr (shown.map TemplateMeta.object)).pretty ++ "\n"
      else ∃ width, IsLUB {n | ∃ m ∈ shown, m.key.utf8ByteSize = n} width ∧
        Table.IsAligned width shown out
  | css key => ∃ t, Template.lastOf ts key = some t ∧ out = t.css render
  | preview key raw =>
    ∃ t, Template.lastOf ts key = some t ∧
      out = (if raw then t.preview render else svgDataUri (t.preview render)) ++ "\n"
  | html key path =>
    ∃ r t, resume path r ∧ Template.lastOf ts key = some t ∧ out = t.html render r
  | document key path print title =>
    ∃ r t, resume path r ∧ Template.lastOf ts key = some t ∧
      out = Document.assemble (t.html render r) (t.css render)
        { title := title.getD r.primaryName, medium := if print then .print else .screen }
  | stats => ∃ all, Template.IsListing ts all ∧ out = (Template.statistics all).pretty ++ "\n"

/-- What keeps a command from printing anything. -/
def Lacks (ts : List Template) (resume : String → Resume → Prop) (c : Command) : Prop :=
  (∃ path, c.resume? = some path ∧ ∀ r, ¬ resume path r) ∨
    ∃ key, c.key? = some key ∧ Template.lastOf ts key = none

variable {ts : List Template} {resume : String → Resume → Prop} {render : RenderOptions}
  {out : String} {c : Command}

theorem Prints.not_lacks (h : c.Prints ts resume render out) : ¬ c.Lacks ts resume := by
  rintro (⟨path, hpath, hno⟩ | ⟨key, hkey, hnone⟩)
  · cases c with
    | html | document =>
      cases hpath
      obtain ⟨r, -, hr, -⟩ := h
      exact hno r hr
    | _ => cases hpath
  · cases c with
    | css | preview =>
      cases hkey
      obtain ⟨t, ht, -⟩ := h
      cases hnone.symm.trans ht
    | html | document =>
      cases hkey
      obtain ⟨-, t, -, ht, -⟩ := h
      cases hnone.symm.trans ht
    | _ => cases hkey

end Command

namespace Registry

/-- The registry makes a text of the last template of a key, if there is one. -/
theorem expect_ofTemplates (ts : List Template) (key : String) (f : Template → String) :
    (∃ t, Template.lastOf ts key = some t ∧ (ofTemplates ts).expect key f = .ok (f t)) ∨
      (Template.lastOf ts key = none ∧ (ofTemplates ts).expect key f = .error ⟨key⟩) := by
  rw [expect, template?_ofTemplates]
  cases Template.lastOf ts key with
  | none => exact .inr ⟨rfl, rfl⟩
  | some t => exact .inl ⟨t, rfl, rfl⟩

theorem fetch_ofTemplates (g : Generator) (kind : ArtifactKind) (ts : List Template)
    (key : String) :
    (∃ t a, Template.lastOf ts key = some t ∧
        ((ofTemplates ts).fetch g id kind key).1 = .ok a ∧ a.text = g.make kind t) ∨
      (Template.lastOf ts key = none ∧
        ((ofTemplates ts).fetch g id kind key).1 = .error ⟨key⟩) := by
  have htext := (fetch_sound (sound_ofTemplates g ts) kind key).1
  generalize ((ofTemplates ts).fetch g id kind key).1 = answer at htext ⊢
  rcases expect_ofTemplates ts key (g.make kind) with ⟨t, ht, hexpect⟩ | ⟨ht, hexpect⟩
  · rw [hexpect] at htext
    cases answer with
    | error e => cases htext
    | ok a => exact .inl ⟨t, a, ht, rfl, Except.ok.inj htext⟩
  · rw [hexpect] at htext
    cases answer with
    | error e => exact .inr ⟨ht, congrArg Except.error (Except.error.inj htext)⟩
    | ok a => cases htext

end Registry

namespace Invocation

open Registry

/-! ## Files -/

/-- Either every file holds a specification, or there is a first one that does not. -/
theorem mapM_loadTemplate (disk : Disk) (paths : List String) :
    (∃ specs : List CustomSpec, List.Forall₂ disk.HoldsSpec paths specs ∧
        paths.mapM (loadTemplate disk.files) = .ok (specs.map CustomSpec.template)) ∨
      ∃ path ∈ paths, (∀ spec, ¬ disk.HoldsSpec path spec) ∧
        ∃ e, paths.mapM (loadTemplate disk.files) = .error e := by
  induction paths with
  | nil => exact .inl ⟨[], .nil, rfl⟩
  | cons path paths ih =>
    rw [List.mapM_cons, loadTemplate]
    simp only [← Disk.load_eq_ok_iff] at ih ⊢
    cases hspec : CustomSpec.load (disk.files path) with
    | error e =>
      refine .inr ⟨path, List.mem_cons_self, fun spec h => ?_, _, rfl⟩
      cases hspec.symm.trans h
    | ok spec =>
      rcases ih with ⟨specs, hspecs, hm⟩ | ⟨later, hmem, hno, e, hm⟩
      · refine .inl ⟨spec :: specs, .cons (Disk.load_eq_ok_iff.mp hspec) hspecs, ?_⟩
        rw [hm]
        rfl
      · refine .inr ⟨later, List.mem_cons_of_mem _ hmem, hno, e, ?_⟩
        rw [hm]
        rfl

section

variable {disk : Disk} {paths : List String} {specs : List CustomSpec}

theorem exists_spec_of_loaded (h : List.Forall₂ disk.HoldsSpec paths specs) :
    ∀ path ∈ paths, ∃ spec, disk.HoldsSpec path spec := by
  induction h with
  | nil => exact List.forall_mem_nil _
  | cons hspec _ ih => exact List.forall_mem_cons.mpr ⟨⟨_, hspec⟩, ih⟩

theorem lastOf_loaded_eq_none_iff (h : List.Forall₂ disk.HoldsSpec paths specs) (key : String) :
    Template.lastOf (Template.builtins ++ specs.map CustomSpec.template) key = none ↔
      (∀ t ∈ Template.builtins, t.key ≠ key) ∧
        ∀ path ∈ paths, ∀ spec, disk.HoldsSpec path spec → spec.key ≠ key := by
  rw [Template.lastOf_eq_none_iff, List.forall_mem_append, List.forall_mem_map]
  refine and_congr_right' ?_
  induction h with
  | nil => simp
  | @cons path spec paths specs hspec _ ih =>
    rw [List.forall_mem_cons, List.forall_mem_cons, ih]
    refine and_congr_left' ⟨fun hkey spec' hspec' => ?_, fun hkey => hkey spec hspec⟩
    rw [← Disk.load_eq_ok_iff] at hspec hspec'
    cases hspec.symm.trans hspec'
    exact hkey

end

theorem loadResume_cases (disk : Disk) (path : String) :
    (∃ r, disk.HoldsResume path r ∧ loadResume disk.files path = .ok r) ∨
      ((∀ r, ¬ disk.HoldsResume path r) ∧ ∃ e, loadResume disk.files path = .error e) := by
  simp only [← Disk.loadResume_eq_ok_iff]
  rw [loadResume]
  cases Resume.load path (disk.files path) with
  | error e => exact .inr ⟨nofun, _, rfl⟩
  | ok r => exact .inl ⟨r, rfl, rfl⟩

/-! ## Results -/

theorem options_eq (inv : Invocation) :
    inv.options =
      { classPrefix := if inv.noPrefix then none else some "rt-"
        pretty := true
        previewWidth := 150.0
        previewHeight := 200.0 } := by
  rw [options]
  cases inv.noPrefix <;> rfl

theorem ofCategory_eq_filter (category : Option Category) (ms : List TemplateMeta) :
    ofCategory category ms = ms.filter fun m => category.all (m.category = ·) := by
  cases category with
  | none => simp [ofCategory]
  | some c => rfl

theorem prints_list (ts : List Template) (resume : String → Resume → Prop)
    (render : RenderOptions) (category : Option Category) (catalog json : Bool) :
    (Command.list category catalog json).Prints ts resume render
      (list (ofTemplates ts) category catalog json) := by
  refine ⟨if catalog then TemplateMeta.catalog else (ofTemplates ts).listing, ?_, ?_⟩
  · cases catalog
    · exact isListing_ofTemplates ts
    · rfl
  · rw [← ofCategory_eq_filter, ← funext TemplateMeta.encode_eq_object]
    cases json
    · exact ⟨_, Table.isLUB_keyWidth _, Table.isAligned_render _⟩
    · rfl

section

variable {inv : Invocation} {disk : Disk} {ts : List Template}

/-- The command has its result, or there is something that it lacks. -/
def Answered (inv : Invocation) (disk : Disk) (ts : List Template) : Prop :=
  (∃ out, inv.answer disk.files (ofTemplates ts) = .ok out ∧
      inv.command.Prints ts disk.HoldsResume inv.options out) ∨
    ((∃ e, inv.answer disk.files (ofTemplates ts) = .error e) ∧
      inv.command.Lacks ts disk.HoldsResume)

/-- A text that the registry keeps. -/
theorem answered_of_fetch {kind : ArtifactKind} {key : String} {f : String → String}
    (hkey : inv.command.key? = some key)
    (hanswer : inv.answer disk.files (ofTemplates ts) =
      (found ((ofTemplates ts).fetch inv.generator id kind key).1).map (f ·.text))
    (hprints : ∀ t, Template.lastOf ts key = some t →
      inv.command.Prints ts disk.HoldsResume inv.options (f (inv.generator.make kind t))) :
    Answered inv disk ts := by
  rcases fetch_ofTemplates inv.generator kind ts key with ⟨t, a, ht, hf, ha⟩ | ⟨ht, hf⟩
  · refine .inl ⟨_, ?_, hprints t ht⟩
    rw [hanswer, hf, ← ha]
    rfl
  · refine .inr ⟨⟨.notFound ⟨key⟩, ?_⟩, .inr ⟨key, hkey, ht⟩⟩
    rw [hanswer, hf]
    rfl

/-- A text that is made for a résumé. -/
theorem answered_of_resume {key path : String} {f : Resume → Template → String}
    (hkey : inv.command.key? = some key) (hpath : inv.command.resume? = some path)
    (hanswer : inv.answer disk.files (ofTemplates ts) =
      (loadResume disk.files path >>= fun r => found ((ofTemplates ts).expect key (f r))))
    (hprints : ∀ r t, disk.HoldsResume path r → Template.lastOf ts key = some t →
      inv.command.Prints ts disk.HoldsResume inv.options (f r t)) :
    Answered inv disk ts := by
  rcases loadResume_cases disk path with ⟨r, hr, hl⟩ | ⟨hno, e, hl⟩
  · rcases expect_ofTemplates ts key (f r) with ⟨t, ht, hx⟩ | ⟨ht, hx⟩
    · refine .inl ⟨_, ?_, hprints r t hr ht⟩
      rw [hanswer, hl]
      exact congrArg found hx
    · refine .inr ⟨⟨.notFound ⟨key⟩, ?_⟩, .inr ⟨key, hkey, ht⟩⟩
      rw [hanswer, hl]
      exact congrArg found hx
  · refine .inr ⟨⟨e, ?_⟩, .inl ⟨path, hpath, hno⟩⟩
    rw [hanswer, hl]
    rfl

/-- What a registry of the templates keeps and finds is what the last template of a key gives. -/
theorem answered (inv : Invocation) (disk : Disk) (ts : List Template) : Answered inv disk ts := by
  have hs := sound_ofTemplates inv.generator ts
  obtain ⟨templates, noPrefix, command⟩ := inv
  cases command with
  | list category catalog json => exact .inl ⟨_, rfl, prints_list ..⟩
  | stats => exact .inl ⟨_, rfl, _, isListing_ofTemplates ts, by rw [json_stats_ofTemplates]⟩
  | css key =>
    exact answered_of_fetch (f := id) rfl rfl fun t ht => ⟨t, ht, rfl⟩
  | preview key raw =>
    -- the picture itself is made past the registry, its address is kept there
    cases raw with
    | false => exact answered_of_fetch (f := (· ++ "\n")) rfl rfl fun t ht => ⟨t, ht, rfl⟩
    | true =>
      have ht := template?_ofTemplates ts key
      cases hl : Template.lastOf ts key with
      | none =>
        exact .inr ⟨⟨.notFound ⟨key⟩, by simp only [answer, ht, hl]⟩, .inr ⟨key, rfl, hl⟩⟩
      | some t => exact .inl ⟨_, by simp only [answer, ht, hl]; rfl, t, hl, rfl⟩
  | html key path =>
    refine answered_of_resume (f := fun r t => t.html _ r) rfl rfl ?_ fun r t hr ht =>
      ⟨r, t, hr, ht, rfl⟩
    simp only [answer, (html_sound hs key _).1]
    rfl
  | document key path print title =>
    refine answered_of_resume (f := fun r t => Document.assemble (t.html _ r) (t.css _) _) rfl rfl
      ?_ fun r t hr ht => ⟨r, t, hr, ht, rfl⟩
    simp only [answer, (document_sound hs key _ _).1]
    rfl

end

theorem output_eq (inv : Invocation) (disk : Disk) :
    inv.output disk.files = inv.templates.mapM (loadTemplate disk.files) >>= fun ts =>
      inv.answer disk.files (ofTemplates (Template.builtins ++ ts)) := by
  rw [output, registry]
  cases inv.templates.mapM (loadTemplate disk.files) <;> rfl

theorem run_of_output {inv : Invocation} {files : Files} {out : String}
    (h : inv.output files = .ok out) : inv.run files = { exitCode := 0, stdout := out } := by
  rw [run, h]

theorem run_of_failure {inv : Invocation} {files : Files} {e : Failure}
    (h : inv.output files = .error e) : inv.run files = { exitCode := 1, stderr := e.message } := by
  rw [run, h]

/-- A command fails, and then prints nothing, exactly if a file of templates holds no specification,
the file of the résumé that it shows holds none, or no template has its key. Otherwise it prints its
result for the last template under the key, where those of the files follow the built-in ones. -/
theorem run_all_or_nothing (inv : Invocation) (disk : Disk) :
    let outcome := inv.run disk.files
    (outcome.exitCode = 1 ↔
      (∃ path ∈ inv.templates, ∀ spec, ¬ disk.HoldsSpec path spec) ∨
      (∃ path, inv.command.resume? = some path ∧ ∀ r, ¬ disk.HoldsResume path r) ∨
      ∃ key, inv.command.key? = some key ∧ (∀ t ∈ Template.builtins, t.key ≠ key) ∧
        ∀ path ∈ inv.templates, ∀ spec, disk.HoldsSpec path spec → spec.key ≠ key) ∧
    (outcome.exitCode = 1 → outcome.stdout = "") ∧
    (outcome.exitCode ≠ 1 → outcome.exitCode = 0 ∧
      ∃ specs, List.Forall₂ disk.HoldsSpec inv.templates specs ∧
        let render : RenderOptions :=
          { classPrefix := if inv.noPrefix then none else some "rt-"
            pretty := true
            previewWidth := 150.0
            previewHeight := 200.0 }
        inv.command.Prints (Template.builtins ++ specs.map CustomSpec.template) disk.HoldsResume
          render outcome.stdout) := by
  intro outcome
  have hfails {e : Failure} (h : inv.output disk.files = .error e) :
      outcome = { exitCode := 1, stderr := e.message } := run_of_failure h
  rw [← options_eq]
  rcases mapM_loadTemplate disk inv.templates with ⟨specs, hspecs, hm⟩ | ⟨path, hpath, hno, e, hm⟩
  · have houtput := inv.output_eq disk
    rw [hm] at houtput
    have hload : ¬ ∃ path ∈ inv.templates, ∀ spec, ¬ disk.HoldsSpec path spec := by
      rintro ⟨path, hpath, hno⟩
      obtain ⟨spec, hspec⟩ := exists_spec_of_loaded hspecs path hpath
      exact hno spec hspec
    simp only [or_iff_right hload, ← lastOf_loaded_eq_none_iff hspecs]
    rcases answered inv disk (Template.builtins ++ specs.map CustomSpec.template) with
      ⟨out, hout, hprints⟩ | ⟨⟨e, he⟩, hlacks⟩
    · have hrun : outcome = { exitCode := 0, stdout := out } := run_of_output (houtput.trans hout)
      rw [hrun]
      exact ⟨iff_of_false Nat.zero_ne_one hprints.not_lacks, fun h => absurd h Nat.zero_ne_one,
        fun _ => ⟨rfl, specs, hspecs, hprints⟩⟩
    · rw [hfails (houtput.trans he)]
      exact ⟨iff_of_true rfl hlacks, fun _ => rfl, fun h => absurd rfl h⟩
  · -- nothing comes of a command without all of its templates
    have houtput := inv.output_eq disk
    rw [hm] at houtput
    rw [hfails houtput]
    exact ⟨iff_of_true rfl (.inl ⟨path, hpath, hno⟩), fun _ => rfl, fun h => absurd rfl h⟩

end Invocation

end Vitae
