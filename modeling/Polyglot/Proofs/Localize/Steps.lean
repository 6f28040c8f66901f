import Polyglot.Proofs.Localize.Slots

/-!
# What a step of the copy can do

`Rewrites` lists what the copy may have in the place of a node of an expression, once the localizing
helpers around it are peeled off: each rule says what the node looks like and which step it leads
to. `Ends` says which node a step ends with. Facts about copies are proved from these two alone.
-/

namespace Polyglot.Localize

open Source Scope

/-- A call of the helper that localizes a base class. -/
def IsHelperCall (scope : Scope) : Node → Prop
  | .callExpression callee _ => calleeRole? scope callee = some .localized
  | _ => False

/-- A base class stands inside some number of localizing helpers. -/
inductive Peeled (scope : Scope) (base : Node) : Node → Prop
  | done (h : ¬IsHelperCall scope base) : Peeled scope base base
  | call {callee node : Node} (hr : calleeRole? scope callee = some .localized)
      (h : Peeled scope base node) : Peeled scope base (.callExpression callee [node])

/-- The copy of a node of an expression is the node with its children copied. -/
def IsWhole (scope : Scope) : Node → Prop
  | .identifier _ => False
  | .callExpression callee _ => calleeRole? scope callee = none
  | .propertyAccess expression name => statusEvent? scope (.propertyAccess expression name) = none
  | .taggedTemplate tag template => richTemplate? (.taggedTemplate tag template) = none
  | _ => True

/-- The step at a node that is no localizing helper. -/
inductive Rewrites (context : Context) (scope : Scope) : Node → Step → Prop
  | name {x : String} (h : statusEvent? scope (.identifier x) = none) :
      Rewrites context scope (.identifier x) (.done (.identifier x))
  | event {reference : Node} (h : (statusEvent? scope reference).isSome) :
      Rewrites context scope reference (.done (.stringLiteral statusEventText))
  | text {callee : Node} {arguments : List Node} {text : String}
      (hr : calleeRole? scope callee = some .message)
      (h : (messageText context arguments).Returns (.plain text, false)) :
      Rewrites context scope (.callExpression callee arguments) (.done (.stringLiteral text))
  | message {callee : Node} {arguments : List Node} {template : Template} {isRich : Bool}
      (hr : calleeRole? scope callee = some .message)
      (h : (messageText context arguments).Returns (.template template, isRich)) :
      Rewrites context scope (.callExpression callee arguments) (.message isRich template)
  | locale {callee : Node} {arguments : List Node}
      (hr : calleeRole? scope callee = some .configureBuild) :
      Rewrites context scope (.callExpression callee arguments)
        (.done (localeObject context.locale))
  | markup {tag literal : Node} {template : Template}
      (h : richTemplate? (.taggedTemplate tag literal) = some template) :
      Rewrites context scope (.taggedTemplate tag literal) (.markup tag template)
  | whole {node : Node} (h : IsWhole scope node) :
      Rewrites context scope node (.inside (scope.inside node) node)

/-- The node that a step ends with. -/
inductive Ends (context : Context) (scope : Scope) : Nat → Step → Node → Prop
  | done {room : Nat} {node : Node} : Ends context scope room (.done node) node
  | message {room : Nat} {isRich : Bool} {template : Template} {fragments : List Fragment}
      (h : (flatten context scope room isRich template).Returns fragments) :
      Ends context scope (room + 1) (.message isRich template)
        (literalOf isRich (.ofFragments fragments))
  | markup {room : Nat} {tag : Node} {template : Template} {fragments : List Fragment}
      (h : (flatten context scope room true template).Returns fragments) :
      Ends context scope (room + 1) (.markup tag template)
        (.taggedTemplate tag (Template.ofFragments fragments).toNode)
  | inside {room : Nat} {inner : Scope} {node out : Node}
      (h : (node.traverse (copyNode context inner room)).Returns out) :
      Ends context scope (room + 1) (.inside inner node) out

variable {context : Context} {scope : Scope} {room : Nat} {node base out : Node} {taken : Step}

theorem peeled_of_peel (h : peel scope node = .ok base) : Peeled scope base node := by
  fun_induction peel scope node with
  | case1 callee hr node ih => exact .call hr (ih h)
  | case2 => cases h
  | case3 callee arguments hr =>
    cases h
    exact .done fun hl => hr hl
  | case4 node hn =>
    cases h
    refine .done fun hl => ?_
    cases base with
    | callExpression => exact hn _ _ rfl
    | _ => exact hl

theorem Peeled.not_isHelperCall (h : Peeled scope base node) : ¬IsHelperCall scope base := by
  induction h with
  | done h => exact h
  | call _ _ ih => exact ih

theorem eq_of_statusEvent? {event : Node} (h : statusEvent? scope node = some event) :
    event = .stringLiteral statusEventText := by
  unfold statusEvent? at h
  obtain ⟨e, _, h⟩ := Option.bind_eq_some_iff.1 h
  split_ifs at h
  exact (Option.some.inj h).symm

theorem rewrites_of_callStep {callee : Node} {arguments : List Node}
    (hb : ¬IsHelperCall scope (.callExpression callee arguments))
    (h : (callStep context scope callee arguments).Returns taken) :
    Rewrites context scope (.callExpression callee arguments) taken := by
  unfold callStep at h
  split at h
  · next hr =>
    obtain ⟨⟨text, isRich⟩, hm, h⟩ := Run.Returns.of_bind h
    split at h
    · next heq =>
      cases heq
      cases Run.Returns.of_pure h
      exact .text hr hm
    · exact absurd h Run.Returns.not_throw
    · next heq =>
      cases heq
      cases Run.Returns.of_pure h
      exact .message hr hm
  · next hr =>
    cases Run.Returns.of_pure h
    exact .locale hr
  · exact absurd h Run.Returns.not_throw
  · next hm hc hn =>
    cases Run.Returns.of_pure h
    suffices hw : IsWhole scope (.callExpression callee arguments) from .whole hw
    cases hr : calleeRole? scope callee with
    | none => exact hr
    | some role => cases role <;> simp_all [IsHelperCall]

theorem rewrites_of_nodeStep (hi : node.isInner) (hb : ¬IsHelperCall scope node)
    (h : (nodeStep context scope node).Returns taken) : Rewrites context scope node taken := by
  have hwhole (node : Node) (hw : IsWhole scope node)
      (h : (pure (.inside (scope.inside node) node) : Run Step).Returns taken) :
      Rewrites context scope node taken := by
    cases Run.Returns.of_pure h
    exact .whole hw
  cases node with
  | callExpression => exact rewrites_of_callStep hb h
  | identifier x =>
    cases Run.Returns.of_pure h
    cases hs : statusEvent? scope (.identifier x) with
    | none => exact .name hs
    | some event =>
      rw [eq_of_statusEvent? hs]
      exact .event (by rw [hs]; rfl)
  | propertyAccess expression name =>
    cases hs : statusEvent? scope (.propertyAccess expression name) with
    | none =>
      rw [nodeStep, hs] at h
      exact hwhole (.propertyAccess expression name) hs h
    | some event =>
      rw [nodeStep, hs] at h
      cases Run.Returns.of_pure h
      rw [eq_of_statusEvent? hs]
      exact .event (by rw [hs]; rfl)
  | taggedTemplate tag literal =>
    cases hr : richTemplate? (.taggedTemplate tag literal) with
    | none =>
      rw [nodeStep, hr] at h
      exact hwhole (.taggedTemplate tag literal) hr h
    | some template =>
      rw [nodeStep, hr] at h
      cases Run.Returns.of_pure h
      exact .markup hr
  | arrowFunction | stringLiteral | numericLiteral | rawExpression | templateSpan | templateLiteral
  | propertyAssignment | objectLiteral | arrayLiteral => exact hwhole _ trivial h
  | _ => cases hi

theorem copyNode_zero : copyNode context scope 0 node = (do
    match ← step context scope node with
    | .done node => return node
    | _ => throw (.depth context.limit)) := by
  -- the recursion is on the room, which is matched only behind the step, so that Lean has no
  -- equation of its own for the definition
  delta copyNode
  refine congrArg (step context scope node >>= ·) (funext fun taken => ?_)
  cases taken <;> rfl

theorem copyNode_succ : copyNode context scope (room + 1) node = (do
    match ← step context scope node with
    | .done node => return node
    | .message isRich template =>
      return literalOf isRich (.ofFragments (← flatten context scope room isRich template))
    | .markup tag template =>
      return .taggedTemplate tag
        (Template.ofFragments (← flatten context scope room true template)).toNode
    | .inside inner node => node.traverse (copyNode context inner room)) := by
  delta copyNode flatten
  refine congrArg (step context scope node >>= ·) (funext fun taken => ?_)
  cases taken <;> rfl

theorem ends_of_copyNode (h : (copyNode context scope room node).Returns out) :
    ∃ base taken, Peeled scope base node ∧ (nodeStep context scope base).Returns taken ∧
      Ends context scope room taken out := by
  have hstep {taken : Step} (h : (step context scope node).Returns taken)
      (he : Ends context scope room taken out) :
      ∃ base taken, Peeled scope base node ∧ (nodeStep context scope base).Returns taken ∧
        Ends context scope room taken out := by
    obtain ⟨base, hp, hs⟩ := Run.Returns.of_bind h
    exact ⟨base, taken, peeled_of_peel (Run.Returns.of_ofExcept hp), hs, he⟩
  cases room with
  | zero =>
    rw [copyNode_zero] at h
    obtain ⟨taken, hs, h⟩ := Run.Returns.of_bind h
    refine hstep hs ?_
    cases taken with
    | done node =>
      cases Run.Returns.of_pure h
      exact .done
    | _ => exact absurd h Run.Returns.not_throw
  | succ room =>
    rw [copyNode_succ] at h
    obtain ⟨taken, hs, h⟩ := Run.Returns.of_bind h
    refine hstep hs ?_
    cases taken with
    | done node =>
      cases Run.Returns.of_pure h
      exact .done
    | message isRich template =>
      obtain ⟨fragments, hf, h⟩ := Run.Returns.of_bind h
      cases Run.Returns.of_pure h
      exact .message hf
    | markup tag template =>
      obtain ⟨fragments, hf, h⟩ := Run.Returns.of_bind h
      cases Run.Returns.of_pure h
      exact .markup hf
    | inside => exact .inside h

/-- The copy of a message call is the string that it asks for, or the literal of its template with
the slots taken in. -/
theorem cases_of_copyNode_message {callee : Node} {arguments : List Node}
    (hr : calleeRole? scope callee = some .message)
    (h : (copyNode context scope room (.callExpression callee arguments)).Returns out) :
    (∃ text, (messageText context arguments).Returns (.plain text, false) ∧
      out = .stringLiteral text) ∨
    ∃ template isRich inner fragments,
      (messageText context arguments).Returns (.template template, isRich) ∧ room = inner + 1 ∧
        (flatten context scope inner isRich template).Returns fragments ∧
          out = literalOf isRich (.ofFragments fragments) := by
  obtain ⟨base, taken, hp, hs, he⟩ := ends_of_copyNode h
  cases hp with
  | call hl =>
    rw [hr] at hl
    cases hl
  | done =>
    rw [nodeStep, callStep, hr] at hs
    obtain ⟨given, hm, hs⟩ := Run.Returns.of_bind hs
    split at hs
    · cases Run.Returns.of_pure hs
      cases he
      exact .inl ⟨_, hm, rfl⟩
    · exact absurd hs Run.Returns.not_throw
    · cases Run.Returns.of_pure hs
      cases he with
      | message hf => exact .inr ⟨_, _, _, _, hm, rfl, hf, rfl⟩

/-- Facts about copies and about flattened templates are shown together, level by level: copying
takes a level for both, and flattening takes one for its slots. -/
theorem levels_induction {copies flattens : Nat → Prop}
    (hcopy : ∀ room, (∀ inner, room = inner + 1 → copies inner ∧ flattens inner) → copies room)
    (hzero : flattens 0) (hsucc : ∀ room, copies room → flattens room → flattens (room + 1))
    (room : Nat) : copies room ∧ flattens room := by
  induction room with
  | zero => exact ⟨hcopy 0 (fun _ h => nomatch h), hzero⟩
  | succ room ih =>
    refine ⟨hcopy _ fun inner h => ?_, hsucc room ih.1 ih.2⟩
    rw [← Nat.succ.inj h]
    exact ih

end Polyglot.Localize
