import Vitae.Artifact

/-! A registry finds templates by their keys and keeps the texts made from a template alone. Every
registration has a stamp of its own, so that a text made for one registration is never taken for
another's, however alike their templates are. -/

namespace Vitae

/-- What makes the texts of a registry. -/
structure Generator where
  html : Template → Resume → String
  css : Template → String
  preview : Template → String

def Generator.standard (options : RenderOptions) : Generator where
  html t r := t.html options r
  css t := t.css options
  preview t := t.previewUri options

/-- The texts that a registry keeps. -/
inductive ArtifactKind where
  | css
  | preview
  deriving DecidableEq, Repr

def ArtifactKind.name : ArtifactKind → String
  | css => "css"
  | preview => "preview"

def Generator.make (g : Generator) : ArtifactKind → Template → String
  | .css => g.css
  | .preview => g.preview

/-- Two artifacts of one kind are the same one exactly if their serials are. -/
structure Artifact where
  serial : Nat
  text : String
  deriving DecidableEq, Repr

structure Entry where
  /-- Under which it stands. -/
  key : String
  stamp : Nat
  template : Template
  css : Option Artifact := none
  preview : Option Artifact := none
  deriving DecidableEq, Repr

namespace Entry

def slot (e : Entry) : ArtifactKind → Option Artifact
  | .css => e.css
  | .preview => e.preview

def fill (e : Entry) (kind : ArtifactKind) (a : Artifact) : Entry :=
  match kind with
  | .css => { e with css := some a }
  | .preview => { e with preview := some a }

def clear (e : Entry) : Entry := { e with css := none, preview := none }

@[simp] theorem key_fill (e : Entry) (kind : ArtifactKind) (a : Artifact) :
    (e.fill kind a).key = e.key := by
  cases kind <;> rfl

@[simp] theorem key_clear (e : Entry) : e.clear.key = e.key := rfl

theorem slot_fill (e : Entry) (kind other : ArtifactKind) (a : Artifact) :
    (e.fill kind a).slot other = if other = kind then some a else e.slot other := by
  cases kind <;> cases other <;> rfl

@[simp] theorem slot_clear (e : Entry) (kind : ArtifactKind) : e.clear.slot kind = none := by
  cases kind <;> rfl

end Entry

/-- What a registry reports of itself. -/
inductive Event where
  | registered (key : String) (replaced : Bool)
  | generating (kind : ArtifactKind) (key : String)
  | notKept (kind : ArtifactKind) (key : String)
  | removed (key : String) (found : Bool)
  | cleared (templates : Nat)
  deriving DecidableEq, Repr

namespace Event

def level : Event → String
  | notKept .. => "WARN"
  | _ => "DEBUG"

def message : Event → String
  | registered .. => "registered template"
  | generating .. => "cache miss, generating"
  | notKept .. => "template changed during generation, result not cached"
  | removed .. => "removed template"
  | cleared _ => "cleared caches"

end Event

/-- How often the generator has been called. -/
structure CallCount where
  html : Nat := 0
  css : Nat := 0
  preview : Nat := 0
  deriving DecidableEq, Repr

namespace CallCount

def of (n : CallCount) : ArtifactKind → Nat
  | .css => n.css
  | .preview => n.preview

def next (n : CallCount) : ArtifactKind → CallCount
  | .css => { n with css := n.css + 1 }
  | .preview => { n with preview := n.preview + 1 }

end CallCount

structure Registry where
  /-- One for each key. -/
  entries : List Entry := []
  nextStamp : Nat := 0
  calls : CallCount := {}
  log : List Event := []
  deriving DecidableEq, Repr

structure NotFound where
  key : String
  deriving DecidableEq, Repr

def NotFound.message (e : NotFound) : String := "template not found: " ++ e.key

namespace Registry

def report (event : Event) (reg : Registry) : Registry := { reg with log := reg.log ++ [event] }

def find? (reg : Registry) (key : String) : Option Entry := reg.entries.find? (·.key = key)

def template? (reg : Registry) (key : String) : Option Template :=
  (reg.find? key).map (·.template)

def contains (reg : Registry) (key : String) : Bool := (reg.find? key).isSome

def size (reg : Registry) : Nat := reg.entries.length

def drop (key : String) (reg : Registry) : Registry :=
  { reg with entries := reg.entries.filter (·.key ≠ key) }

/-- In the place of whatever was registered under its key, with nothing kept yet. -/
def register (t : Template) (reg : Registry) : Registry :=
  let rest := reg.drop t.key
  { rest with
    entries := { key := t.key, stamp := reg.nextStamp, template := t } :: rest.entries
    nextStamp := reg.nextStamp + 1 }.report (.registered t.key (reg.contains t.key))

def registerMany (ts : List Template) (reg : Registry) : Registry :=
  ts.foldl (fun reg t => reg.register t) reg

/-- Says whether there was anything to remove. -/
def remove (key : String) (reg : Registry) : Bool × Registry :=
  let found := reg.contains key
  (found, (reg.drop key).report (.removed key found))

def clear (reg : Registry) : Registry :=
  { reg with entries := reg.entries.map Entry.clear }.report (.cleared reg.size)

def ofTemplates (ts : List Template) : Registry := registerMany ts {}

@[simp] theorem find?_report (reg : Registry) (event : Event) (k : String) :
    (reg.report event).find? k = reg.find? k := rfl

theorem key_of_find {reg : Registry} {k : String} {e : Entry} (h : reg.find? k = some e) :
    e.key = k := by
  simpa using List.find?_some h

theorem find?_drop (reg : Registry) (key k : String) :
    (reg.drop key).find? k = if k = key then none else reg.find? k := by
  simp only [drop, find?, List.find?_filter]
  split
  · rename_i h
    subst h
    simp
  · rename_i h
    congr 1
    funext e
    by_cases he : e.key = k
    · simp [he, h]
    · simp [he]

theorem find?_register (reg : Registry) (t : Template) (k : String) :
    (reg.register t).find? k =
      if k = t.key then some { key := k, stamp := reg.nextStamp, template := t }
      else reg.find? k := by
  by_cases h : k = t.key
  · subst h
    simp [register, report, find?]
  · have hd := reg.find?_drop t.key k
    rw [if_neg h] at hd
    rw [if_neg h, ← hd]
    exact List.find?_cons_of_neg (by simp [Ne.symm h])

theorem find?_remove (reg : Registry) (key k : String) :
    (reg.remove key).2.find? k = if k = key then none else reg.find? k :=
  reg.find?_drop key k

theorem find?_map_of_key {f : Entry → Entry} (hf : ∀ e, (f e).key = e.key) (es : List Entry)
    (k : String) : (es.map f).find? (·.key = k) = (es.find? (·.key = k)).map f := by
  simp only [List.find?_map, Function.comp_def, hf]

theorem find?_clear (reg : Registry) (k : String) :
    reg.clear.find? k = (reg.find? k).map Entry.clear :=
  find?_map_of_key Entry.key_clear reg.entries k

/-! A text that is not kept yet is made between a look at the registry and a second one, and the
registry may have changed in the meantime. -/

/-- What the generator makes, before anyone else comes to act. -/
def generate (g : Generator) (kind : ArtifactKind) (e : Entry) (reg : Registry) :
    Artifact × Registry :=
  (⟨reg.calls.of kind, g.make kind e.template⟩,
    { reg with calls := reg.calls.next kind }.report (.generating kind e.key))

def fillSlot (kind : ArtifactKind) (key : String) (a : Artifact) (reg : Registry) : Registry :=
  { reg with entries := reg.entries.map fun e => if e.key = key then e.fill kind a else e }

theorem find?_fillSlot (reg : Registry) (kind : ArtifactKind) (key : String) (a : Artifact)
    (k : String) :
    (reg.fillSlot kind key a).find? k =
      (reg.find? k).map fun e => if k = key then e.fill kind a else e := by
  have hf (e : Entry) : (if e.key = key then e.fill kind a else e).key = e.key := by
    split
    · exact e.key_fill kind a
    · rfl
  refine (find?_map_of_key hf reg.entries k).trans ?_
  cases he : reg.find? k with
  | none => rw [show reg.entries.find? (·.key = k) = none from he]; rfl
  | some e =>
    rw [show reg.entries.find? (·.key = k) = some e from he]
    simp [key_of_find he]

/-- Keeps an artifact for the registration that it was made for, if that is still the one under its
key. Of two artifacts the one kept first stays. -/
def keep (kind : ArtifactKind) (e : Entry) (a : Artifact) (reg : Registry) : Artifact × Registry :=
  match reg.find? e.key with
  | some now =>
    if now.stamp = e.stamp then
      match now.slot kind with
      | some first => (first, reg)
      | none => (a, reg.fillSlot kind e.key a)
    else (a, reg.report (.notKept kind e.key))
  | none => (a, reg.report (.notKept kind e.key))

/-- The artifact of a template. `during` is what happens to the registry while the generator works,
if it has to. -/
def fetch (g : Generator) (during : Registry → Registry) (kind : ArtifactKind) (key : String)
    (reg : Registry) : Except NotFound Artifact × Registry :=
  match reg.find? key with
  | none => (.error ⟨key⟩, reg)
  | some e =>
    match e.slot kind with
    | some a => (.ok a, reg)
    | none =>
      let (a, generating) := reg.generate g kind e
      let (kept, after) := (during generating).keep kind e a
      (.ok kept, after)

/-- Fragments depend on a résumé and are never kept. -/
def html (g : Generator) (during : Registry → Registry) (key : String) (r : Resume)
    (reg : Registry) : Except NotFound String × Registry :=
  match reg.find? key with
  | none => (.error ⟨key⟩, reg)
  | some e =>
    (.ok (g.html e.template r),
      during { reg with calls := { reg.calls with html := reg.calls.html + 1 } })

/-- The body first, and then the stylesheet of whatever is under the key by then. -/
def document (g : Generator) (during : Registry → Registry) (key : String) (r : Resume)
    (options : DocumentOptions) (reg : Registry) : Except NotFound String × Registry :=
  match reg.html g during key r with
  | (.error e, reg) => (.error e, reg)
  | (.ok body, reg) =>
    match reg.fetch g id .css key with
    | (.error e, reg) => (.error e, reg)
    | (.ok css, reg) => (.ok (Document.assemble body css.text options), reg)

end Registry

end Vitae
