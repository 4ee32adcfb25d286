/-! # Scanning

A reader that goes through a text once folds a step over its characters, and the step may fail. -/

namespace Vitae.Text

variable {σ α : Type} {step : σ → α → Option σ}

/-- A state that takes up each character takes up all of them. -/
theorem foldlM_accumulate {f : List α → σ} {cs : List α}
    (h : ∀ c ∈ cs, ∀ raw, step (f raw) c = some (f (raw ++ [c]))) (raw : List α) :
    cs.foldlM step (f raw) = some (f (raw ++ cs)) := by
  induction cs generalizing raw with
  | nil =>
    rw [List.append_nil]
    rfl
  | cons c cs ih =>
    have hrest := ih (fun c hc => h c (List.mem_cons_of_mem _ hc)) (raw ++ [c])
    rw [List.foldlM_cons, h c List.mem_cons_self]
    rwa [List.append_assoc, List.singleton_append] at hrest

end Vitae.Text
