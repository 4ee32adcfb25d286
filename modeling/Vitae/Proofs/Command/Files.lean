import Mathlib.Data.List.TakeWhile
import Vitae.Command.Run
import Vitae.Proofs.Shape.Object

/-! # What a file holds

A file holds a text if its bytes are those of the text in UTF-8. A specification is always TOML, and
a résumé is TOML exactly if the name of its file ends in a point and `toml`, in letters of either
case. -/

namespace Vitae

/-- The last name on a path, one that leads on to another file or directory. -/
def fileName? (path : String) : Option (List Char) :=
  ((path.toList.splitOn '/').filter fun part => part ≠ [] && part ≠ ['.']).getLast?

/-- A name that is nothing but `.toml` is no ending of another one. -/
def NamesToml (path : String) : Prop :=
  ∃ stem ending, fileName? path = some (stem ++ '.' :: ending) ∧ stem ≠ [] ∧
    ending.map Char.toLower = "toml".toList

namespace Disk

def Holds (disk : Disk) (path text : String) : Prop := disk path = .ok text.toUTF8

def HoldsSpec (disk : Disk) (path : String) (spec : CustomSpec) : Prop :=
  ∃ text, disk.Holds path text ∧ CustomSpec.shape.ofTomlText text = .ok spec

def HoldsResume (disk : Disk) (path : String) (r : Resume) : Prop :=
  ∃ text, disk.Holds path text ∧
    (NamesToml path → Resume.shape.ofTomlText text = .ok r) ∧
    (¬ NamesToml path → Resume.shape.ofJsonText text = .ok r)

end Disk

/-! ## Texts -/

theorem textOfBytes_eq_ok_iff {bytes : ByteArray} {text : String} :
    textOfBytes bytes = .ok text ↔ bytes = text.toUTF8 := by
  unfold textOfBytes
  split
  · rename_i hvalid
    rw [Except.ok.injEq, ← String.toByteArray_inj]
    rfl
  · rename_i hvalid
    refine iff_of_false nofun ?_
    rintro rfl
    exact hvalid text.isValidUTF8

theorem Disk.files_eq_ok_iff {disk : Disk} {path text : String} :
    disk.files path = .ok text ↔ disk.Holds path text := by
  rw [files, Except.bind_eq_ok_iff]
  simp only [textOfBytes_eq_ok_iff]
  constructor
  · rintro ⟨bytes, hread, rfl⟩
    exact hread
  · intro h
    exact ⟨_, h, rfl⟩

theorem mapError_eq_ok_iff {α ε ε' : Type} {f : ε → ε'} {x : Except ε α} {a : α} :
    x.mapError f = .ok a ↔ x = .ok a := by
  cases x <;> simp [Except.mapError]

theorem Disk.load_eq_ok_iff {disk : Disk} {path : String} {spec : CustomSpec} :
    CustomSpec.load (disk.files path) = .ok spec ↔ disk.HoldsSpec path spec := by
  simp only [HoldsSpec, ← files_eq_ok_iff]
  cases disk.files path with
  | error e => exact iff_of_false nofun nofun
  | ok text => simp [CustomSpec.load, Shape.loadToml, mapError_eq_ok_iff]

/-! ## The ending of a name -/

/-- A name that is read from its end falls apart at its last point. -/
theorem reverse_splits (stem : List Char) {ending : List Char} (h : '.' ∉ ending) :
    (stem ++ '.' :: ending).reverse.takeWhile (· ≠ '.') = ending.reverse ∧
      (stem ++ '.' :: ending).reverse.dropWhile (· ≠ '.') = '.' :: stem.reverse := by
  have hr : (stem ++ '.' :: ending).reverse = ending.reverse ++ '.' :: stem.reverse := by simp
  have hpos : ∀ c ∈ ending.reverse, decide (c ≠ '.') = true := by
    intro c hc
    rw [decide_eq_true_iff]
    rintro rfl
    exact h (List.mem_reverse.mp hc)
  rw [hr, List.takeWhile_append_of_pos hpos, List.dropWhile_append_of_pos hpos]
  simp

theorem splits_of_dropWhile_eq {name stem : List Char} {c : Char}
    (h : name.reverse.dropWhile (· ≠ '.') = c :: stem) :
    c = '.' ∧ name = stem.reverse ++ '.' :: (name.reverse.takeWhile (· ≠ '.')).reverse := by
  have hc := List.head?_dropWhile_not (· ≠ '.') name.reverse
  rw [h] at hc
  obtain rfl : c = '.' := by simpa using hc
  have hr := List.takeWhile_append_dropWhile (p := (· ≠ '.')) (l := name.reverse)
  rw [h] at hr
  refine ⟨rfl, ?_⟩
  simpa using (congrArg List.reverse hr).symm

theorem ending?_eq_some_iff {name ending : List Char} (hne : ending ≠ []) :
    ending? name = some ending ↔
      '.' ∉ ending ∧ ∃ stem, stem ≠ [] ∧ name = stem ++ '.' :: ending := by
  constructor
  · intro h
    unfold ending? at h
    split at h
    · cases h
    split at h
    · cases h
    · cases h
    · rename_i hnil hpoint
      cases h
      obtain ⟨c, stem, hdrop⟩ := List.exists_cons_of_ne_nil hnil
      obtain ⟨rfl, hname⟩ := splits_of_dropWhile_eq hdrop
      refine ⟨fun hm => ?_, stem.reverse, ?_, hname⟩
      · have hc := List.mem_takeWhile_imp (List.mem_reverse.mp hm)
        simp at hc
      · intro hstem
        exact hpoint (by rw [hdrop, List.reverse_eq_nil_iff.mp hstem])
  · rintro ⟨hpoint, stem, hstem, rfl⟩
    obtain ⟨htake, hdrop⟩ := reverse_splits stem hpoint
    have hdots : stem ++ '.' :: ending ≠ ['.', '.'] := by
      intro h
      obtain ⟨c, cs, rfl⟩ := List.exists_cons_of_ne_nil hne
      obtain ⟨d, ds, rfl⟩ := List.exists_cons_of_ne_nil hstem
      have := congrArg List.length h
      simp at this
      omega
    rw [ending?, if_neg hdots, htake, hdrop, List.reverse_reverse]
    split
    · rename_i h
      cases h
    · rename_i h
      exact absurd (List.reverse_eq_nil_iff.mp (List.cons.inj h).2) hstem
    · rfl

theorem isTomlPath_iff (path : String) : isTomlPath path = true ↔ NamesToml path := by
  have hextension : extension? path = (fileName? path).bind ending? := rfl
  rw [isTomlPath, hextension, Option.any_eq_true]
  constructor
  · rintro ⟨ending, h, htoml⟩
    rw [decide_eq_true_iff] at htoml
    have hne : ending ≠ [] := by
      rintro rfl
      cases htoml
    obtain ⟨name, hfile, hending⟩ := Option.bind_eq_some_iff.mp h
    obtain ⟨-, stem, hstem, rfl⟩ := (ending?_eq_some_iff hne).mp hending
    exact ⟨stem, ending, hfile, hstem, htoml⟩
  · rintro ⟨stem, ending, hfile, hstem, htoml⟩
    have hne : ending ≠ [] := by
      rintro rfl
      cases htoml
    have hpoint : '.' ∉ ending := by
      intro hm
      have hlower := List.mem_map_of_mem (f := Char.toLower) hm
      rw [htoml] at hlower
      exact absurd hlower (by decide)
    have hending := (ending?_eq_some_iff hne).mpr ⟨hpoint, stem, hstem, rfl⟩
    exact ⟨ending, Option.bind_eq_some_iff.mpr ⟨_, hfile, hending⟩, by simp [htoml]⟩

theorem Disk.loadResume_eq_ok_iff {disk : Disk} {path : String} {r : Resume} :
    Resume.load path (disk.files path) = .ok r ↔ disk.HoldsResume path r := by
  simp only [HoldsResume, ← files_eq_ok_iff, ← isTomlPath_iff]
  cases disk.files path with
  | error e => exact iff_of_false nofun nofun
  | ok text =>
    cases h : isTomlPath path <;>
      simp [Resume.load, h, Shape.loadToml, Shape.loadJson, mapError_eq_ok_iff]

end Vitae
