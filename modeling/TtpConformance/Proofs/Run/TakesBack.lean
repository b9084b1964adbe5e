import TtpConformance.Proofs.Run.Trace

/-!
# Taking back what was done

A step that cleans up after itself does what a plain step does, which stops at its
first error and leaves everything as it is by then; and if that has failed, it goes on
to ask for what takes the plain step's trace back.  It does not listen to what it is
answered there, so the error is the plain step's own.

The relation composes: what is left to take back after a first part depends on that
part's trace as well.

## Main definitions

* `TakesBack` — a step that cleans up, and the plain one.

## Main statements

* `TakesBack.refl` — a step with nothing to take back.
* `TakesBack.bind` — one after the other.
-/

namespace TtpConformance

variable {α β : Type}

/-- `x` does what `y` does and, if that fails, asks for what `undo` makes of the trace,
without listening. -/
def TakesBack (undo : List Event → List Request) (x y : Step α) : Prop :=
  ∀ events result, x.run.Yields events result ↔
    ∃ before after, events = before ++ after ∧ y.run.Yields before result ∧
      after.map Sigma.fst = if result.isOk then [] else undo before

namespace TakesBack

variable {undo undo' : List Event → List Request} {x y : Step α}

/-- A step that has nothing to take back. -/
theorem refl (h : ∀ events e, Fails x events e → undo events = []) : TakesBack undo x x := by
  intro events result
  have hnothing : ∀ before, x.run.Yields before result →
      (if result.isOk then [] else undo before) = [] := by
    intro before hx
    cases result with
    | error e => exact h before e hx
    | ok a => rfl
  constructor
  · intro hx
    exact ⟨events, [], (List.append_nil _).symm, hx, (hnothing events hx).symm⟩
  · rintro ⟨before, after, rfl, hx, hafter⟩
    rw [hnothing before hx] at hafter
    rwa [List.map_eq_nil_iff.mp hafter, List.append_nil]

/-- Only what is made of failing traces matters. -/
theorem congr (h : TakesBack undo x y)
    (hundo : ∀ events e, Fails y events e → undo events = undo' events) :
    TakesBack undo' x y := by
  intro events result
  rw [h events result]
  refine exists_congr fun before => exists_congr fun after =>
    and_congr_right fun _ => and_congr_right fun hy => ?_
  cases result with
  | error e => rw [hundo before e hy]
  | ok a => rfl

/-- One after the other: what is left to take back after the first part depends on the
trace of the first part. -/
theorem bind {f g : α → Step β} (h : TakesBack undo x y)
    (hfg : ∀ first a, Succeeds y first a →
      TakesBack (fun events => undo (first ++ events)) (f a) (g a)) :
    TakesBack undo (x >>= f) (y >>= g) := by
  intro events result
  rw [yields_run_bind_iff]
  constructor
  · rintro (⟨e, hx, rfl⟩ | ⟨first, a, second, rfl, hx, hf⟩)
    · obtain ⟨before, after, rfl, hy, hafter⟩ := (h _ _).mp hx
      exact ⟨before, after, rfl, yields_run_bind_iff.mpr (.inl ⟨e, hy, rfl⟩), hafter⟩
    · obtain ⟨before, after, rfl, hy, hafter⟩ := (h _ _).mp hx
      obtain rfl := List.map_eq_nil_iff.mp hafter
      rw [List.append_nil] at *
      obtain ⟨before', after', rfl, hg, hafter'⟩ := (hfg before a hy second result).mp hf
      exact ⟨before ++ before', after', (List.append_assoc ..).symm,
        yields_run_bind_iff.mpr (.inr ⟨before, a, before', rfl, hy, hg⟩), hafter'⟩
  · rintro ⟨before, after, rfl, hyg, hafter⟩
    rcases yields_run_bind_iff.mp hyg with ⟨e, hy, rfl⟩ | ⟨first, a, second, rfl, hy, hg⟩
    · exact .inl ⟨e, (h _ _).mpr ⟨before, after, rfl, hy, hafter⟩, rfl⟩
    · refine .inr ⟨first, a, second ++ after, List.append_assoc .., ?_, ?_⟩
      · exact (h _ _).mpr ⟨first, [], (List.append_nil _).symm, hy, rfl⟩
      · exact (hfg first a hy _ result).mpr ⟨second, after, rfl, hg, hafter⟩

end TakesBack

end TtpConformance
