import Vitae.Toml.Basic

/-! Putting tables together. A table is defined once: it may be added to only in the way in which it
came about, and a name in it is taken by the first value it gets. -/

namespace Vitae.Toml

structure Table where
  span : Span
  form : TableForm
  entries : List (Key × Toml) := []

namespace Table

def toToml (t : Table) : Toml := .table t.span t.form t.entries

def get? (t : Table) (name : String) : Option Toml :=
  (t.entries.find? (·.1.name = name)).map Prod.snd

/-- A new value for a name that is there. -/
def replace (t : Table) (name : String) (v : Toml) : Table :=
  { t with entries := t.entries.map fun (k, w) => if k.name = name then (k, v) else (k, w) }

def append (t : Table) (k : Key) (v : Toml) : Table :=
  { t with entries := t.entries ++ [(k, v)] }

def erase (t : Table) (name : String) : Table :=
  { t with entries := t.entries.filter (·.1.name ≠ name) }

/-- Changes the table at the end of a path; tables that are not there yet are made in the form
`made`. Into an inline table leads a dotted key within it, and into an array of tables what belongs
to its last one. -/
def within (made : TableForm) : List Key → (Table → Option Table) → Table → Option Table
  | [], change, t => change t
  | k :: path, change, t =>
    match t.get? k.name with
    | none => do
      let sub ← within made path change { span := k.span, form := made }
      return t.append k sub.toToml
    | some (.table span form entries) =>
      if form = .inline || (made = .dotted && !form.isImplicit) then none
      else do
        let sub ← within made path change ⟨span, form, entries⟩
        return t.replace k.name sub.toToml
    | some (.tables span items) =>
      match items.getLast? with
      | some (.table s f entries) => do
        let sub ← within made path change ⟨s, f, entries⟩
        return t.replace k.name (.tables span (items.dropLast ++ [sub.toToml]))
      | _ => none
    | some _ => none

/-- The table at the end of a path, if there is one. -/
def at? : List Key → Table → Option Table
  | [], t => some t
  | k :: path, t =>
    match t.get? k.name with
    | some (.table span form entries) => at? path ⟨span, form, entries⟩
    | some (.tables _ items) =>
      match items.getLast? with
      | some (.table span form entries) => at? path ⟨span, form, entries⟩
      | _ => none
    | _ => none

/-- Gives a name its value, behind a dotted path. -/
def define (t : Table) (path : List Key) (k : Key) (v : Toml) : Option Table :=
  t.within .dotted path fun target =>
    if (target.form = .dotted) = path.isEmpty || (target.get? k.name).isSome then none
    else some (target.append k v)

end Table

end Vitae.Toml
