import Polyglot.Files.Access
import Polyglot.Proofs.Results
import Polyglot.Proofs.Runs
import Polyglot.Tasks

/-!
# What sessions answer

`Session.Yields` says what every answer of an operation on a disk is like, whatever was on the disk
and whatever was reported before; nothing is said where it fails. Sequences yield what their last
step does, and independent tasks yield what each of them does under its key.
-/

namespace Polyglot.Files.Session

variable {α β : Type} {session : Session α} {next : α → Session β} {good mid : α → Prop}
  {fine : β → Prop}

/-- What is said of the answers of operations carries over to sequences of them. -/
structure IsPostcondition (m : Type → Type) [Monad m]
    (holds : ∀ {α : Type}, m α → (α → Prop) → Prop) : Prop where
  pure {α : Type} {good : α → Prop} {a : α} : good a → holds (Pure.pure a) good
  bind {α β : Type} {step : m α} {later : α → m β} {mid : α → Prop} {good : β → Prop} :
    holds step mid → (∀ a, mid a → holds (later a) good) → holds (step >>= later) good

theorem IsPostcondition.mapM {m : Type → Type} [Monad m] [LawfulMonad m]
    {holds : ∀ {α : Type}, m α → (α → Prop) → Prop} (hp : IsPostcondition m holds) {f : α → m β}
    {related : α → β → Prop} {l : List α} (h : ∀ a ∈ l, holds (f a) (related a)) :
    holds (l.mapM f) (List.Forall₂ related l) := by
  induction l with
  | nil => exact hp.pure .nil
  | cons a l ih =>
    rw [List.forall_mem_cons] at h
    rw [List.mapM_cons]
    exact hp.bind h.1 fun b hb => hp.bind (ih h.2) fun out ho => hp.pure (.cons hb ho)

/-- Whatever an operation answers is good. -/
def Yields (session : Session α) (good : α → Prop) : Prop :=
  ∀ disk before a, (StateT.run (session.perform disk) before).1.1 = .ok a → good a

/-- An operation of a task, with its outcome as the answer. -/
def Settles (session : StateT Disk Reporting α) (good : α → Prop) : Prop :=
  ∀ disk before, good (StateT.run (StateT.run session disk) before).1.1

namespace Settles

variable {step : StateT Disk Reporting α} {later : α → StateT Disk Reporting β}

theorem pure {a : α} (h : good a) : Settles (pure a) good :=
  fun _ _ => h

theorem bind (h : Settles step mid) (hn : ∀ a, mid a → Settles (later a) fine) :
    Settles (step >>= later) fine :=
  fun disk before => hn _ (h disk before) _ _

theorem any : Settles step fun _ => True :=
  fun _ _ => trivial

theorem isPostcondition : IsPostcondition (StateT Disk Reporting) Settles :=
  ⟨pure, bind⟩

end Settles

theorem yields_iff_settles : session.Yields good ↔
    Settles session.run fun outcome => ∀ a, outcome = .ok a → good a :=
  ⟨fun h disk before a => h disk before a, fun h disk before a => h disk before a⟩

namespace Yields

theorem pure {a : α} (h : good a) : Yields (pure a) good :=
  fun _ _ _ hr => Except.ok.inj hr ▸ h

theorem any : session.Yields fun _ => True :=
  fun _ _ _ _ => trivial

theorem bind (h : session.Yields mid) (hn : ∀ a, mid a → (next a).Yields fine) :
    (session >>= next).Yields fine := by
  rw [yields_iff_settles] at h ⊢
  rw [ExceptT.run_bind]
  refine Settles.bind h fun outcome ho => ?_
  cases outcome with
  | error failure => exact Settles.pure nofun
  | ok a => exact yields_iff_settles.1 (hn a (ho a rfl))

/-- What comes after a step whose answer does not matter. -/
theorem andThen (hn : ∀ a, (next a).Yields fine) : (session >>= next).Yields fine :=
  any.bind fun a _ => hn a

theorem mono (h : session.Yields mid) (hm : ∀ a, mid a → good a) : session.Yields good :=
  fun disk before a hr => hm a (h disk before a hr)

theorem ofRun {run : Run α} : (ofRun run).Yields run.Returns :=
  fun _ before _ hr => ⟨before, _, Prod.ext hr rfl⟩

theorem isPostcondition : IsPostcondition Session Yields :=
  ⟨pure, bind⟩

/-- Tasks whose answers are known answer these in their order, each under its key. -/
theorem perform {tasks : List (String × Session α)} {answer : String → α}
    (h : ∀ task ∈ tasks, task.2.Yields (· = answer task.1)) :
    Yields (Tasks.perform tasks) (· = tasks.map fun task => (task.1, answer task.1)) := by
  have houtcomes : Settles (Tasks.outcomes tasks) fun outcomes => List.Forall₂
      (fun task outcome => ∀ a, (outcome.1, ·) <$> outcome.2 = .ok a → a = (task.1, answer task.1))
      tasks outcomes := by
    refine Settles.isPostcondition.mapM fun task ht => ?_
    refine (yields_iff_settles.1 (h task ht)).bind fun outcome ho => Settles.pure fun a ha => ?_
    obtain ⟨b, hb, rfl⟩ := map_eq_ok_iff.1 ha
    rw [ho b hb]
  rw [yields_iff_settles]
  refine houtcomes.bind fun outcomes ho => Settles.any.bind fun _ _ => ?_
  refine Settles.pure fun answers ha => ?_
  have hanswers := mapM_eq_ok_iff_forall₂.1 ha
  clear houtcomes ha h
  induction ho generalizing answers with
  | nil => exact List.forall₂_nil_left_iff.1 hanswers
  | cons htask _ ih =>
    obtain ⟨answer, rest, hanswer, hrest, rfl⟩ := List.forall₂_cons_left_iff.1 hanswers
    rw [htask answer hanswer, ih rest hrest]
    rfl

end Yields

end Polyglot.Files.Session
