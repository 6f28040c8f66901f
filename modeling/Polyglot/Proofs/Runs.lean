import Polyglot.Failure
import Polyglot.Source.Node
import Mathlib.Data.List.Forall2
import Mathlib.Tactic.Common

/-!
# Results of operations that report

What was reported before an operation never changes its result. `Run.Returns` says that an operation
succeeds with an answer after some reports; a sequence that returns is taken apart into steps that
return. `Run.Answers` says that it does so after any reports, and is put together from its steps.
`Run.YieldsOr` leaves the answer open and allows for one failure.
-/

namespace Polyglot.Run

variable {α β : Type} {run : Run α} {next : α → Run β} {a : α} {b : β}

/-- An operation succeeds with an answer, after some reports. -/
def Returns (run : Run α) (a : α) : Prop :=
  ∃ before after, StateT.run (ExceptT.run run) before = (.ok a, after)

/-- An operation succeeds with an answer, whatever was reported before. -/
def Answers (run : Run α) (a : α) : Prop :=
  ∀ before, ∃ after, StateT.run (ExceptT.run run) before = (.ok a, after)

/-- An operation succeeds with a good answer or fails in one way, whatever was reported before. -/
def YieldsOr (run : Run α) (failure : Failure) (good : α → Prop) : Prop :=
  ∀ before, ∃ after,
    (∃ a, StateT.run (ExceptT.run run) before = (.ok a, after) ∧ good a) ∨
      StateT.run (ExceptT.run run) before = (.error failure, after)

/-- In a sequence that may fail the second step is taken from where the first one led. -/
theorem run_bind {σ : Type} (run : ExceptT Failure (StateM σ) α)
    (next : α → ExceptT Failure (StateM σ) β) (before : σ) :
    StateT.run (ExceptT.run (run >>= next)) before =
      let result := StateT.run (ExceptT.run run) before
      StateT.run (ExceptT.bindCont next result.1) result.2 := rfl

theorem ofExcept_ok (a : α) : ofExcept (.ok a) = (pure a : Run α) := rfl

theorem reportAll_nil : (liftM (reportAll []) : Run Unit) = pure () := by
  change (liftM (modify (· ++ []) : Reporting PUnit) : Run Unit) = pure ()
  simp only [List.append_nil]
  rfl

theorem returns_of_perform {events : List Event} (h : run.perform = (.ok a, events)) :
    run.Returns a :=
  ⟨[], events, h⟩

/-! ### What returned -/

namespace Returns

theorem of_pure {other : α} (h : (pure a : Run α).Returns other) : a = other := by
  obtain ⟨before, after, h⟩ := h
  exact Except.ok.inj (congrArg Prod.fst h)

theorem not_throw {failure : Failure} : ¬(throw failure : Run α).Returns a := by
  rintro ⟨before, after, h⟩
  cases congrArg Prod.fst h

theorem of_bind (h : (run >>= next).Returns b) : ∃ a, run.Returns a ∧ (next a).Returns b := by
  obtain ⟨before, after, h⟩ := h
  rw [run_bind] at h
  cases hr : StateT.run (ExceptT.run run) before with
  | mk result middle =>
    rw [hr] at h
    cases result with
    | error => cases congrArg Prod.fst h
    | ok a => exact ⟨a, ⟨before, middle, hr⟩, ⟨middle, after, h⟩⟩

theorem of_map {f : α → β} (h : (f <$> run).Returns b) : ∃ a, run.Returns a ∧ f a = b := by
  rw [map_eq_pure_bind] at h
  obtain ⟨a, ha, hb⟩ := of_bind h
  exact ⟨a, ha, of_pure hb⟩

theorem of_ofExcept {result : Except Failure α} (h : (ofExcept result).Returns a) :
    result = .ok a := by
  obtain ⟨before, after, h⟩ := h
  exact congrArg Prod.fst h

/-- What steps in a row return is known as far as it is known of each of them. -/
theorem map_of_mapM {γ : Type} {f : α → Run β} {g : β → γ} {k : α → γ} {l : List α} {out : List β}
    (h : (l.mapM f).Returns out) (hf : ∀ a b, (f a).Returns b → g b = k a) :
    out.map g = l.map k := by
  induction l generalizing out with
  | nil =>
    cases of_pure h
    rfl
  | cons a l ih =>
    rw [List.mapM_cons] at h
    obtain ⟨b, hb, h⟩ := of_bind h
    obtain ⟨rest, hr, h⟩ := of_bind h
    cases of_pure h
    rw [List.map_cons, List.map_cons, hf a b hb, ih hr]

/-- What was returned after a report. -/
theorem of_report {event : Event} {rest : Run β}
    (h : ((liftM (report event) : Run Unit) >>= fun _ => rest).Returns b) : rest.Returns b := by
  obtain ⟨_, _, h⟩ := of_bind h
  exact h

end Returns

/-! ### What answers -/

namespace Answers

theorem returns (h : run.Answers a) : run.Returns a := by
  obtain ⟨after, h⟩ := h []
  exact ⟨[], after, h⟩

theorem eq_of_returns {other : α} (h : run.Answers a) (hr : run.Returns other) : a = other := by
  obtain ⟨before, after, hr⟩ := hr
  obtain ⟨last, h⟩ := h before
  exact Except.ok.inj (congrArg Prod.fst (h.symm.trans hr))

theorem pure : (pure a : Run α).Answers a :=
  fun before => ⟨before, rfl⟩

theorem bind (h : run.Answers a) (hn : (next a).Answers b) : (run >>= next).Answers b := by
  intro before
  obtain ⟨middle, hm⟩ := h before
  obtain ⟨after, ha⟩ := hn middle
  refine ⟨after, ?_⟩
  rw [run_bind, hm]
  exact ha

theorem map {f : α → β} (h : run.Answers a) : (f <$> run).Answers (f a) := by
  rw [map_eq_pure_bind]
  exact h.bind pure

theorem ofExcept {result : Except Failure α} (h : result = .ok a) : (ofExcept result).Answers a :=
  fun before => ⟨before, by rw [h]; rfl⟩

end Answers

/-! ### What yields an answer or fails -/

namespace YieldsOr

variable {failure : Failure} {good better : α → Prop} {fine : β → Prop}

theorem pure (h : good a) : (pure a : Run α).YieldsOr failure good :=
  fun before => ⟨before, .inl ⟨a, rfl, h⟩⟩

theorem throw : (throw failure : Run α).YieldsOr failure good :=
  fun before => ⟨before, .inr rfl⟩

theorem bind (h : run.YieldsOr failure good) (hn : ∀ a, good a → (next a).YieldsOr failure fine) :
    (run >>= next).YieldsOr failure fine := by
  intro before
  obtain ⟨middle, ⟨a, hr, ha⟩ | hr⟩ := h before
  · obtain ⟨after, hb⟩ := hn a ha middle
    refine ⟨after, ?_⟩
    rw [run_bind, hr]
    exact hb
  · refine ⟨middle, .inr ?_⟩
    rw [run_bind, hr]
    rfl

theorem map {f : α → β} (h : run.YieldsOr failure good) (hf : ∀ a, good a → fine (f a)) :
    (f <$> run).YieldsOr failure fine := by
  rw [map_eq_pure_bind]
  exact h.bind fun a ha => pure (hf a ha)

end YieldsOr

/-! ### What gives an answer at once or fails -/

/-- An operation gives an answer and reports nothing, or fails in one way, which it does only under
a condition. -/
def GivesUnless (run : Run α) (bad : Prop) (failure : Failure) (a : α) : Prop :=
  run = Pure.pure a ∨ bad ∧ run = throw failure

namespace GivesUnless

variable {bad worse : Prop} {failure : Failure}

theorem pure : (pure a : Run α).GivesUnless bad failure a :=
  .inl rfl

theorem throw (hb : bad) : (throw failure : Run α).GivesUnless bad failure a :=
  .inr ⟨hb, rfl⟩

theorem mono (h : run.GivesUnless bad failure a) (hb : bad → worse) :
    run.GivesUnless worse failure a :=
  h.imp_right (And.imp_left hb)

theorem bind (h : run.GivesUnless bad failure a) (hn : (next a).GivesUnless bad failure b) :
    (run >>= next).GivesUnless bad failure b := by
  rcases h with rfl | ⟨hb, rfl⟩
  · exact hn
  · exact throw hb

end GivesUnless

end Polyglot.Run
